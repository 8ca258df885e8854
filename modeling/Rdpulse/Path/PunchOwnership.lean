import Rdpulse.Path.SendUDP

namespace Rdpulse.Path

open Foundation Protocol UDP

/-! # Who closes the punched socket

`SetDirectUDP` hands a punch result to the manager. From then on the manager refers
to it, or it has been closed: by the fallback that removes it, by `Close`, or by
`SetDirectUDP` itself on a manager that is closed already. -/

/-- The part that a thread plays for the punched socket. The fallbacks inside
`SendUDP` and `ReceiveUDP` are as those of a call of their own. -/
inductive Role
  | outside
  | installing (res : Option PunchResult) (isLAN : Bool) (point : SetDirectUDPPoint)
  | falling (point : FallbackPoint)
  | relaying (point : SetQUICRelayPoint)
  | closing (point : ClosePoint)
  deriving DecidableEq, Repr

def ReceiveUDPPoint.role : ReceiveUDPPoint → Role
  | .fallback point => .falling point
  | _ => .outside

def SendUDPPoint.role : SendUDPPoint → Role
  | .fallback point => .falling point
  | _ => .outside

def SendingThread.role : SendingThread → Role
  | .operation (.setDirectUDP res isLAN point) => .installing res isLAN point
  | .operation (.setDirectTCP _ _) => .outside
  | .operation (.fallbackUDPFromDirect point) => .falling point
  | .operation (.setQUICRelay point) => .relaying point
  | .operation (.close point) => .closing point
  | .operation (.receiveUDP point) => point.role
  | .operation (.cancelContext _) => .outside
  | .sendUDP _ point => point.role

namespace Role

def holdsLock : Role → Bool
  | .outside => false
  | .installing _ _ point =>
      match point with
      | .loadClosed | .lock | .returned => false
      | _ => true
  | .falling point => point.holdsLock
  | .relaying point =>
      match point with
      | .lock | .returned => false
      | _ => true
  | .closing point =>
      match point with
      | .closePunch | .unlock => true
      | _ => false

def isInstalling : Role → Bool
  | .installing _ _ _ => true
  | _ => false

def beforeInstall : Role → Bool
  | .installing _ _ point =>
      match point with
      | .loadClosed | .lock | .recheckClosed | .install => true
      | _ => false
  | _ => false

def closePending : Role → Bool
  | .closing point =>
      match point with
      | .cancel | .lock | .closePunch => true
      | _ => false
  | _ => false

def insideClose : Role → Bool
  | .closing point =>
      match point with
      | .swap | .returned => false
      | _ => true
  | _ => false

end Role

/-! ## One action, by role -/

structure SamePunch (manager moved : Manager) : Prop where
  mu : moved.mu = manager.mu
  udpPath : moved.udpPath = manager.udpPath
  directUDPPunch : moved.directUDPPunch = manager.directUDPPunch
  closed : moved.closed = manager.closed
  punchesClosed : moved.punchesClosed = manager.punchesClosed

inductive RoleStep (self : Nat) (manager moved : Manager) : Role → Role → Prop
  | installing {res isLAN point next} :
      stepSetDirectUDP self manager res isLAN point = some (moved, next) →
      RoleStep self manager moved (.installing res isLAN point) (.installing res isLAN next)
  | falling {point next} :
      stepFallback self manager point = some (moved, next) →
      RoleStep self manager moved (.falling point) (.falling next)
  | fallen {point} :
      stepFallback self manager point = some (moved, .returned) →
      RoleStep self manager moved (.falling point) .outside
  | relaying {point next} :
      stepSetQUICRelay self manager point = some (moved, next) →
      RoleStep self manager moved (.relaying point) (.relaying next)
  | closing {point next} :
      stepClose self manager point = some (moved, next) →
      RoleStep self manager moved (.closing point) (.closing next)
  | outside {next} :
      SamePunch manager moved → next = .outside ∨ next = .falling .lock →
      RoleStep self manager moved .outside next

theorem pathWaiter_samePunch (manager : Manager) : SamePunch manager manager.pathWaiter.1 := by
  rcases manager.pathWaiter_cases with ⟨waiter, _, equal⟩ | ⟨_, equal⟩ <;>
    rw [equal] <;> exact ⟨rfl, rfl, rfl, rfl, rfl⟩

theorem roleStep_resume {self : Nat} {manager moved : Manager} {point after : FallbackPoint}
    {resumed : FallbackPoint → SendingThread}
    (inside : ∀ next, next ≠ .returned → (resumed next).role = .falling next)
    (back : (resumed .returned).role = .outside)
    (taken : stepFallback self manager point = some (moved, after)) :
    RoleStep self manager moved (.falling point) (resumed after).role := by
  by_cases done : after = .returned
  · subst done
    rw [back]
    exact .fallen taken
  · rw [inside after done]
    exact .falling taken

theorem stepReceiveUDP_role {self : Nat} {manager moved : Manager} {choice : Choice}
    {point next : ReceiveUDPPoint}
    (taken : stepReceiveUDP self manager choice point = some (moved, next)) :
    RoleStep self manager moved (SendingThread.operation (.receiveUDP point)).role
      (SendingThread.operation (.receiveUDP next)).role := by
  rcases stepReceiveUDP_cases taken with
    ⟨inner, resumed, rfl, nested, rfl⟩ | ⟨rfl, rfl, rfl⟩ | ⟨rfl, before, later⟩
  · exact @roleStep_resume _ _ _ _ _
      (fun point => .operation (.receiveUDP (resumeReceive point)))
      (fun next done => by cases next <;> first | rfl | exact absurd rfl done) rfl nested
  · exact .outside (pathWaiter_samePunch manager) (.inl rfl)
  · cases point with
    | fallback inner =>
        simp only [stepReceiveUDP, Option.map_eq_some_iff] at taken
        rcases taken with ⟨⟨shared, after⟩, nested, equal⟩
        cases equal
        exact @roleStep_resume _ _ _ _ _
          (fun point => .operation (.receiveUDP (resumeReceive point)))
          (fun next done => by cases next <;> first | rfl | exact absurd rfl done) rfl nested
    | _ =>
        refine .outside ⟨rfl, rfl, rfl, rfl, rfl⟩ ?_
        cases choice <;> grind [stepReceiveUDP, SendingThread.role, ReceiveUDPPoint.role]

theorem step_role {self : Nat} {manager moved : Manager} {thread next : Thread} {choice : Choice}
    (taken : step self manager thread choice = some (moved, next)) :
    RoleStep self manager moved (SendingThread.operation thread).role
      (SendingThread.operation next).role := by
  cases thread with
  | setDirectUDP res isLAN point =>
      simp only [step, Option.map_eq_some_iff] at taken
      rcases taken with ⟨⟨shared, after⟩, inner, equal⟩
      cases equal
      exact .installing inner
  | setDirectTCP isLAN point =>
      simp only [step, Option.map_eq_some_iff] at taken
      rcases taken with ⟨⟨shared, after⟩, inner, equal⟩
      cases equal
      refine .outside ?_ (.inl rfl)
      cases point <;> constructor <;> grind [stepSetDirectTCP, Manager.notifyPathChanged]
  | fallbackUDPFromDirect point =>
      rcases step_fallbackUDPFromDirect taken with ⟨after, inner, rfl⟩
      exact .falling inner
  | setQUICRelay point =>
      simp only [step, Option.map_eq_some_iff] at taken
      rcases taken with ⟨⟨shared, after⟩, inner, equal⟩
      cases equal
      exact .relaying inner
  | close point =>
      simp only [step, Option.map_eq_some_iff] at taken
      rcases taken with ⟨⟨shared, after⟩, inner, equal⟩
      cases equal
      exact .closing inner
  | receiveUDP point =>
      rcases step_receiveUDP taken with ⟨after, received, rfl⟩
      exact stepReceiveUDP_role received
  | cancelContext cancelled =>
      cases cancelled
      · cases taken
        exact .outside ⟨rfl, rfl, rfl, rfl, rfl⟩ (.inl rfl)
      · cases taken

theorem selectCarrier_role (engine : DataEngine) (relayTransport : Option RelayTransport)
    (payload : Bytes) (packetID : UInt32) (path : PathType) :
    (SendingThread.sendUDP payload
      (selectCarrier engine relayTransport payload packetID path)).role = .outside := by
  cases path <;> grind [selectCarrier, SendingThread.role, SendUDPPoint.role]

theorem usePunch_role (engine : DataEngine) (payload : Bytes) (packetID : UInt32)
    (punch : Option PunchResult) :
    let used := (SendingThread.sendUDP payload (usePunch engine payload packetID punch)).role
    used = .outside ∨ used = .falling .lock := by
  cases punch <;> grind [usePunch, SendingThread.role, SendUDPPoint.role]

theorem stepSendUDP_role {engine : DataEngine} {self : Nat} {sender moved : SendingManager}
    {payload : Bytes} {choice : SendChoice} {point next : SendUDPPoint}
    (outside : ∀ inner, point ≠ .fallback inner)
    (taken : stepSendUDP engine self sender payload choice point = some (moved, next)) :
    (SendingThread.sendUDP payload point).role = .outside ∧
      ((SendingThread.sendUDP payload next).role = .outside ∨
        (SendingThread.sendUDP payload next).role = .falling .lock) := by
  cases point with
  | fallback inner => exact absurd rfl (outside inner)
  | loadPath => grind [stepSendUDP, SendingThread.role, SendUDPPoint.role]
  | draw path =>
      cases taken
      exact ⟨rfl, .inl (selectCarrier_role _ _ _ _ _)⟩
  | readPunch packetID =>
      simp only [stepSendUDP] at taken
      split at taken
      · cases taken
      · cases taken
        exact ⟨rfl, usePunch_role _ _ _ _⟩
  | writeDirect packetID res codec pending =>
      rcases stepSendUDP_writeDirect taken with
        ⟨_, _, rfl⟩ | ⟨_, _, rfl⟩ | ⟨_, _, _, _, rfl⟩
      · exact ⟨rfl, .inl rfl⟩
      · exact ⟨rfl, .inr rfl⟩
      · exact ⟨rfl, .inl rfl⟩
  | writeRelay packetID pending =>
      rcases stepSendUDP_writeRelay taken with
        ⟨_, _, rfl⟩ | ⟨_, _, rfl⟩ | ⟨_, _, _, _, rfl⟩ <;> exact ⟨rfl, .inl rfl⟩
  | returned err => cases taken

theorem stepSending_role {engine : DataEngine} {self : Nat} {sender moved : SendingManager}
    {thread next : SendingThread} {choice : SendChoice}
    (taken : stepSending engine self sender thread choice = some (moved, next)) :
    RoleStep self sender.manager moved.manager thread.role next.role := by
  rcases stepSending_cases taken with
    ⟨operation, inner, manager, after, rfl, _, stepped, rfl, rfl⟩ |
    ⟨payload, point, manager, after, rfl, fell, rfl, rfl⟩ |
    ⟨payload, point, after, rfl, outside, stepped, kept, _, rfl⟩
  · exact step_role stepped
  · exact @roleStep_resume _ _ _ _ _ (fun point => .sendUDP payload (resumeSend point))
      (fun next done => by cases next <;> first | rfl | exact absurd rfl done) rfl fell
  · rcases stepSendUDP_role outside stepped with ⟨before, later⟩
    rw [before, kept]
    exact .outside ⟨rfl, rfl, rfl, rfl, rfl⟩ later

/-! ## The mutex -/

def roleLock : Lock SendingManager SendingThread where
  holder sender := sender.manager.mu
  inside thread := thread.role.holdsLock

theorem RoleStep.mu {self : Nat} {manager moved : Manager} {role next : Role}
    (step : RoleStep self manager moved role next) :
    (moved.mu = manager.mu ∧ next.holdsLock = role.holdsLock) ∨
      (manager.mu = none ∧ moved.mu = some self ∧ role.holdsLock = false) ∨
      (role.holdsLock = true ∧ next.holdsLock = false) := by
  cases step with
  | @installing res isLAN point next taken =>
      cases point <;>
        grind [stepSetDirectUDP, Manager.lock, Manager.unlock, Manager.closePunch,
          Manager.notifyPathChanged, Role.holdsLock]
  | falling taken => exact stepFallback_mu taken
  | fallen taken => exact stepFallback_mu taken
  | @relaying point next taken =>
      cases point <;>
        grind [stepSetQUICRelay, Manager.lock, Manager.unlock, Manager.notifyPathChanged,
          Role.holdsLock]
  | @closing point next taken =>
      cases point <;>
        grind [stepClose, Manager.lock, Manager.unlock, Manager.closePunch, Role.holdsLock]
  | outside same free => rcases free with rfl | rfl <;> exact .inl ⟨same.mu, rfl⟩

/-! ## What an action does to each field -/

section Effects

variable {self : Nat} {manager moved : Manager} {role next : Role}

theorem RoleStep.isInstalling (step : RoleStep self manager moved role next) :
    next.isInstalling = role.isInstalling := by
  cases step with
  | outside same free => rcases free with rfl | rfl <;> rfl
  | _ => rfl

theorem RoleStep.directUDPPunch (step : RoleStep self manager moved role next) :
    moved.directUDPPunch = manager.directUDPPunch ∨
      (∃ res isLAN, role = .installing res isLAN .install ∧ moved.directUDPPunch = res) ∨
      (role = .falling .closePunch ∧ next = .falling .store ∧ moved.directUDPPunch = none ∧
        ∀ punch, manager.directUDPPunch = some punch → punch ∈ moved.punchesClosed) := by
  cases step with
  | @installing res isLAN point next taken =>
      cases point <;>
        grind [stepSetDirectUDP, Manager.lock, Manager.unlock, Manager.closePunch,
          Manager.notifyPathChanged]
  | @falling point next taken =>
      cases point <;>
        grind [stepFallback, Manager.lock, Manager.unlock, Manager.closePunch,
          Manager.notifyPathChanged]
  | @fallen point taken =>
      cases point <;>
        grind [stepFallback, Manager.lock, Manager.unlock, Manager.closePunch,
          Manager.notifyPathChanged]
  | @relaying point next taken =>
      cases point <;>
        grind [stepSetQUICRelay, Manager.lock, Manager.unlock, Manager.notifyPathChanged]
  | @closing point next taken =>
      cases point <;>
        grind [stepClose, Manager.lock, Manager.unlock, Manager.closePunch]
  | outside same free => exact .inl same.directUDPPunch

theorem RoleStep.udpPath (step : RoleStep self manager moved role next) :
    moved.udpPath = manager.udpPath ∨ moved.udpPath.isDirectUDP = false ∨
      ∃ res isLAN, role = .installing res isLAN .store ∧
        moved.directUDPPunch = manager.directUDPPunch := by
  cases step with
  | @installing res isLAN point next taken =>
      cases point <;>
        grind [stepSetDirectUDP, Manager.lock, Manager.unlock, Manager.closePunch,
          Manager.notifyPathChanged]
  | @falling point next taken =>
      rcases stepFallback_udpPath taken with kept | ⟨_, stored⟩
      · exact .inl kept
      · exact .inr (.inl (stored ▸ relayOrDisabled_isDirectUDP manager))
  | @fallen point taken =>
      rcases stepFallback_udpPath taken with kept | ⟨_, stored⟩
      · exact .inl kept
      · exact .inr (.inl (stored ▸ relayOrDisabled_isDirectUDP manager))
  | @relaying point next taken =>
      cases point <;>
        grind [stepSetQUICRelay, Manager.lock, Manager.unlock, Manager.notifyPathChanged,
          relayOrDisabled_isDirectUDP]
  | @closing point next taken =>
      cases point <;>
        grind [stepClose, Manager.lock, Manager.unlock, Manager.closePunch]
  | outside same free => exact .inl same.udpPath

theorem RoleStep.closed (step : RoleStep self manager moved role next) :
    moved.closed = manager.closed ∨
      next.closePending = true ∧ moved.directUDPPunch = manager.directUDPPunch := by
  cases step with
  | @installing res isLAN point next taken =>
      cases point <;>
        grind [stepSetDirectUDP, Manager.lock, Manager.unlock, Manager.closePunch,
          Manager.notifyPathChanged]
  | falling taken => exact .inl (stepFallback_closed taken)
  | fallen taken => exact .inl (stepFallback_closed taken)
  | @relaying point next taken =>
      cases point <;>
        grind [stepSetQUICRelay, Manager.lock, Manager.unlock, Manager.notifyPathChanged]
  | @closing point next taken =>
      cases point <;>
        grind [stepClose, Manager.lock, Manager.unlock, Manager.closePunch, Role.closePending]
  | outside same free => exact .inl same.closed

theorem RoleStep.punchesClosed (step : RoleStep self manager moved role next) :
    ∀ punch ∈ manager.punchesClosed, punch ∈ moved.punchesClosed := by
  cases step with
  | @installing res isLAN point next taken =>
      cases point <;>
        grind [stepSetDirectUDP, Manager.lock, Manager.unlock, Manager.closePunch,
          Manager.notifyPathChanged]
  | @falling point next taken =>
      cases point <;>
        grind [stepFallback, Manager.lock, Manager.unlock, Manager.closePunch,
          Manager.notifyPathChanged]
  | @fallen point taken =>
      cases point <;>
        grind [stepFallback, Manager.lock, Manager.unlock, Manager.closePunch,
          Manager.notifyPathChanged]
  | @relaying point next taken =>
      cases point <;>
        grind [stepSetQUICRelay, Manager.lock, Manager.unlock, Manager.notifyPathChanged]
  | @closing point next taken =>
      cases point <;>
        grind [stepClose, Manager.lock, Manager.unlock, Manager.closePunch]
  | outside same free => exact fun punch member => same.punchesClosed ▸ member

theorem RoleStep.closed_mono (step : RoleStep self manager moved role next)
    (closed : manager.closed = true) : moved.closed = true := by
  cases step with
  | @installing res isLAN point next taken =>
      cases point <;>
        grind [stepSetDirectUDP, Manager.lock, Manager.unlock, Manager.closePunch,
          Manager.notifyPathChanged]
  | falling taken => exact (stepFallback_closed taken).trans closed
  | fallen taken => exact (stepFallback_closed taken).trans closed
  | @relaying point next taken =>
      cases point <;>
        grind [stepSetQUICRelay, Manager.lock, Manager.unlock, Manager.notifyPathChanged]
  | @closing point next taken =>
      cases point <;>
        grind [stepClose, Manager.lock, Manager.unlock, Manager.closePunch]
  | outside same free => exact same.closed.trans closed

theorem RoleStep.closePending (step : RoleStep self manager moved role next)
    (pending : role.closePending = true) :
    next.closePending = true ∨
      ∀ punch, moved.directUDPPunch = some punch → punch ∈ moved.punchesClosed := by
  cases step with
  | @closing point next taken =>
      cases point <;>
        grind [stepClose, Manager.lock, Manager.unlock, Manager.closePunch, Role.closePending]
  | _ => simp [Role.closePending] at pending

theorem RoleStep.closePending_outside (step : RoleStep self manager moved role next)
    (pending : role.closePending = true) (outside : role.holdsLock = false) :
    next.closePending = true := by
  cases step with
  | @closing point next taken =>
      cases point <;>
        grind [stepClose, Manager.lock, Role.closePending, Role.holdsLock]
  | _ => simp [Role.closePending] at pending

theorem RoleStep.udpPath_outside (step : RoleStep self manager moved role next)
    (outside : role.holdsLock = false) : moved.udpPath = manager.udpPath := by
  cases step with
  | @installing res isLAN point next taken =>
      cases point <;>
        grind [stepSetDirectUDP, Manager.lock, Manager.closePunch, Role.holdsLock]
  | @falling point next taken =>
      rcases stepFallback_udpPath taken with kept | ⟨rfl, _⟩
      · exact kept
      · cases outside
  | @fallen point taken =>
      rcases stepFallback_udpPath taken with kept | ⟨rfl, _⟩
      · exact kept
      · cases outside
  | @relaying point next taken =>
      cases point <;> grind [stepSetQUICRelay, Manager.lock, Role.holdsLock]
  | @closing point next taken =>
      cases point <;> grind [stepClose, Manager.lock, Role.holdsLock]
  | outside same free => exact same.udpPath

theorem RoleStep.cleared (step : RoleStep self manager moved (.falling .store) next) :
    moved.udpPath.isDirectUDP = false := by
  generalize same : Role.falling .store = role at step
  cases step <;> cases same
  all_goals
    rename_i taken
    cases taken
  exact relayOrDisabled_isDirectUDP manager

theorem RoleStep.removes (step : RoleStep self manager moved (.falling .closePunch) next) :
    moved.directUDPPunch = none ∧ next = .falling .store := by
  generalize same : Role.falling .closePunch = role at step
  cases step <;> cases same
  all_goals
    rename_i taken
    cases taken
  exact ⟨rfl, rfl⟩

end Effects

theorem entry_role {thread : SendingThread} (enters : thread.entry = true) :
    thread.role.holdsLock = false ∧ thread.role.closePending = false ∧
      (∀ point, thread.role = .closing point → point = .swap) ∧
      ∀ res isLAN point, thread.role = .installing res isLAN point → point = .loadClosed := by
  cases thread with
  | operation thread =>
      cases thread with
      | receiveUDP point =>
          cases point <;>
            grind [SendingThread.entry, entry, SendingThread.role, ReceiveUDPPoint.role,
              Role.holdsLock, Role.closePending]
      | _ =>
          grind [SendingThread.entry, entry, SendingThread.role, Role.holdsLock,
            Role.closePending, FallbackPoint.holdsLock]
  | sendUDP payload point =>
      cases point <;>
        grind [SendingThread.entry, SendingThread.role, SendUDPPoint.role, Role.holdsLock,
          Role.closePending]

theorem roleLock_respected (engine : DataEngine) : roleLock.Respected (sending engine) where
  entry _ enters := (entry_role enters).1
  step _ _ _ _ _ _ taken := (stepSending_role taken).mu

/-! ## The invariant -/

/-- `SetDirectUDP` is called once, with this result. -/
def OneSetDirectUDP (res : Option PunchResult) (pool : SendingPool) : SendingEvent → Prop
  | .spawn thread =>
      match thread.role with
      | .installing given _ _ =>
          given = res ∧ ∀ other ∈ pool.threads, other.role.isInstalling = false
      | _ => True
  | .advance _ _ => True

instance OneSetDirectUDP.decidable (res : Option PunchResult) (pool : SendingPool) :
    ∀ event, Decidable (OneSetDirectUDP res pool event)
  | .advance _ _ => isTrue trivial
  | .spawn thread =>
      match role : thread.role with
      | .installing given _ _ =>
          decidable_of_iff
            (given = res ∧ ∀ other ∈ pool.threads, other.role.isInstalling = false)
            (by simp only [OneSetDirectUDP, role])
      | .outside => isTrue (by simp only [OneSetDirectUDP, role])
      | .falling _ => isTrue (by simp only [OneSetDirectUDP, role])
      | .relaying _ => isTrue (by simp only [OneSetDirectUDP, role])
      | .closing _ => isTrue (by simp only [OneSetDirectUDP, role])

theorem OneSetDirectUDP.spawned {res given : Option PunchResult} {pool : SendingPool}
    {thread : SendingThread} {isLAN : Bool} {point : SetDirectUDPPoint}
    (permitted : OneSetDirectUDP res pool (.spawn thread))
    (role : thread.role = .installing given isLAN point) :
    given = res ∧ ∀ other ∈ pool.threads, other.role.isInstalling = false := by
  simpa only [OneSetDirectUDP, role] using permitted

/-- The result was never handed to the manager. -/
def NothingInstalled (manager : Manager) : Prop :=
  manager.directUDPPunch = none ∧ manager.udpPath.isDirectUDP = false

/-- The manager refers to the result, or it has been closed. -/
def ReferredOrClosed (res : Option PunchResult) (manager : Manager) : Prop :=
  ∀ punch, res = some punch →
    manager.directUDPPunch = some punch ∨ punch ∈ manager.punchesClosed

def ClosePending (pool : SendingPool) : Prop :=
  ∃ (self : Nat) (thread : SendingThread), pool.threads[self]? = some thread ∧
    thread.role.closePending = true

def Clearing (pool : SendingPool) : Prop :=
  ∃ (self : Nat) (thread : SendingThread), pool.threads[self]? = some thread ∧
    thread.role = .falling .store

def InstallKnown (res : Option PunchResult) (manager : Manager) (pending : Prop) :
    SetDirectUDPPoint → Prop
  | .loadClosed => NothingInstalled manager
  | .lock | .recheckClosed => NothingInstalled manager ∧ res.isSome = true
  | .install => NothingInstalled manager ∧ res.isSome = true ∧ (manager.closed = true → pending)
  | .store => manager.directUDPPunch = res ∧ res.isSome = true
  | .notify | .unlock | .returned => ReferredOrClosed res manager

def RoleKnown (res : Option PunchResult) (pool : SendingPool) : Role → Prop
  | .installing given _ point =>
      given = res ∧ InstallKnown res pool.shared.manager (ClosePending pool) point
  | .closing point => point = .swap ∨ pool.shared.manager.closed = true
  | _ => True

structure OwnershipKnown (res : Option PunchResult) (pool : SendingPool) : Prop where
  known : ∀ punch, pool.shared.manager.directUDPPunch = some punch → res = some punch
  single : ∀ (self other : Nat) (thread bystander : SendingThread),
    pool.threads[self]? = some thread →
    pool.threads[other]? = some bystander → thread.role.isInstalling = true →
    bystander.role.isInstalling = true → other = self
  installed : NothingInstalled pool.shared.manager ∨
    ∃ thread ∈ pool.threads, thread.role.isInstalling = true
  coherent : pool.shared.manager.udpPath.isDirectUDP = true →
    pool.shared.manager.directUDPPunch.isSome = true ∨ Clearing pool
  settled : pool.shared.manager.closed = true → ∀ punch,
    pool.shared.manager.directUDPPunch = some punch →
      punch ∈ pool.shared.manager.punchesClosed ∨ ClosePending pool

def ownershipOutline (res : Option PunchResult) :
    Program.Outline SendingManager SendingThread where
  global := OwnershipKnown res
  assertion _ pool thread := RoleKnown res pool thread.role

/-! ### Threads that stay where they are -/

section Frames

variable {pool : SendingPool} {self : Nat} {thread next : SendingThread} {shared : SendingManager}

theorem ClosePending.start (pending : ClosePending pool) (added : SendingThread) :
    ClosePending (pool.start added) := by
  rcases pending with ⟨other, bystander, found, closes⟩
  exact ⟨other, bystander, Pool.start_old found added, closes⟩

theorem Clearing.start (clearing : Clearing pool) (added : SendingThread) :
    Clearing (pool.start added) := by
  rcases clearing with ⟨other, bystander, found, clears⟩
  exact ⟨other, bystander, Pool.start_old found added, clears⟩

theorem ClosePending.update (pending : ClosePending pool)
    (present : pool.threads[self]? = some thread)
    (goesOn : thread.role.closePending = true → next.role.closePending = true) :
    ClosePending (pool.update self shared next) := by
  rcases pending with ⟨other, bystander, found, closes⟩
  by_cases same : other = self
  · subst same
    rw [present] at found
    cases found
    exact ⟨other, next, Pool.update_self present shared next, goesOn closes⟩
  · exact ⟨other, bystander, (Pool.update_other pool same shared next).trans found, closes⟩

theorem Clearing.update (clearing : Clearing pool)
    (present : pool.threads[self]? = some thread) (elsewhere : thread.role ≠ .falling .store) :
    Clearing (pool.update self shared next) := by
  rcases clearing with ⟨other, bystander, found, clears⟩
  by_cases same : other = self
  · subst same
    rw [present] at found
    cases found
    exact absurd clears elsewhere
  · exact ⟨other, bystander, (Pool.update_other pool same shared next).trans found, clears⟩

/-- The manager is closed with its socket still open: it stays so only as long as a
`Close` has the socket to close. -/
theorem ClosePending.step (pending : ClosePending pool)
    (present : pool.threads[self]? = some thread)
    (step : RoleStep self pool.shared.manager shared.manager thread.role next.role) :
    ClosePending (pool.update self shared next) ∨
      ∀ punch, shared.manager.directUDPPunch = some punch →
        punch ∈ shared.manager.punchesClosed := by
  by_cases own : thread.role.closePending = true
  · rcases step.closePending own with still | done
    · exact .inl ⟨self, next, Pool.update_self present shared next, still⟩
    · exact .inr done
  · exact .inl (pending.update present fun closes => absurd closes own)

theorem installing_update (installing : ∃ thread ∈ pool.threads, thread.role.isInstalling = true)
    (present : pool.threads[self]? = some thread)
    (same : next.role.isInstalling = thread.role.isInstalling) :
    ∃ other ∈ (pool.update self shared next).threads, other.role.isInstalling = true := by
  rcases installing with ⟨bystander, member, installs⟩
  rcases List.getElem?_of_mem member with ⟨other, found⟩
  by_cases own : other = self
  · subst own
    rw [present] at found
    cases found
    exact ⟨next, Pool.mem_of_getElem? (Pool.update_self present shared next),
      same.trans installs⟩
  · exact ⟨bystander, Pool.mem_of_getElem?
      ((Pool.update_other pool own shared next).trans found), installs⟩

end Frames

/-! ### The four obligations -/

section Outline

variable {engine : DataEngine} {res : Option PunchResult} {pool : SendingPool} {self : Nat}
  {thread next : SendingThread} {shared : SendingManager}

theorem RoleKnown.started (outline : (ownershipOutline res).Holds pool)
    (enters : thread.entry = true) (permitted : OneSetDirectUDP res pool (.spawn thread)) :
    RoleKnown res (pool.start thread) thread.role := by
  cases role : thread.role with
  | installing given isLAN point =>
      have first := (entry_role enters).2.2.2 given isLAN point role
      subst first
      rcases permitted.spawned role with ⟨same, alone⟩
      refine ⟨same, ?_⟩
      rcases outline.global.installed with nothing | ⟨other, member, installs⟩
      · exact nothing
      · rw [alone other member] at installs
        cases installs
  | closing point => exact .inl ((entry_role enters).2.2.1 point role)
  | _ => trivial

theorem InstallKnown.mono {manager : Manager} {pending later : Prop} {point : SetDirectUDPPoint}
    (before : InstallKnown res manager pending point) (implies : pending → later) :
    InstallKnown res manager later point := by
  cases point with
  | install => exact ⟨before.1, before.2.1, fun closed => implies (before.2.2 closed)⟩
  | _ => exact before

theorem RoleKnown.start {role : Role} (before : RoleKnown res pool role)
    (added : SendingThread) : RoleKnown res (pool.start added) role := by
  cases role with
  | installing given isLAN point =>
      exact ⟨before.1, before.2.mono fun pending => pending.start added⟩
  | closing point => exact before
  | _ => trivial

theorem OwnershipKnown.start (before : OwnershipKnown res pool)
    (permitted : OneSetDirectUDP res pool (.spawn thread)) :
    OwnershipKnown res (pool.start thread) where
  known := before.known
  single self other first second present found installs also := by
    have alone (installs : thread.role.isInstalling = true) :
        ∀ other ∈ pool.threads, other.role.isInstalling = false := by
      cases role : thread.role with
      | installing given isLAN point => exact (permitted.spawned role).2
      | _ => simp [role, Role.isInstalling] at installs
    rcases Pool.start_cases present with old | ⟨rfl, rfl⟩ <;>
      rcases Pool.start_cases found with older | ⟨rfl, rfl⟩
    · exact before.single self other first second old older installs also
    · have none := alone also first (Pool.mem_of_getElem? old)
      rw [installs] at none
      cases none
    · have none := alone installs second (Pool.mem_of_getElem? older)
      rw [also] at none
      cases none
    · rfl
  installed := by
    rcases before.installed with nothing | ⟨other, member, installs⟩
    · exact .inl nothing
    · exact .inr ⟨other, List.mem_append_left _ member, installs⟩
  coherent direct := (before.coherent direct).imp_right fun clearing => clearing.start thread
  settled closed punch refers :=
    (before.settled closed punch refers).imp_right fun pending => pending.start thread

theorem NothingInstalled.step {manager moved : Manager} {role after : Role}
    (before : NothingInstalled manager) (step : RoleStep self manager moved role after)
    (other : role.isInstalling = false) : NothingInstalled moved := by
  have elsewhere {given isLAN point} : role ≠ .installing given isLAN point :=
    fun role => by simp [role, Role.isInstalling] at other
  constructor
  · rcases step.directUDPPunch with kept | ⟨_, _, role, _⟩ | ⟨_, _, cleared, _⟩
    · exact kept.trans before.1
    · exact absurd role elsewhere
    · exact cleared
  · rcases step.udpPath with kept | indirect | ⟨_, _, role, _⟩
    · rw [kept]
      exact before.2
    · exact indirect
    · exact absurd role elsewhere

theorem ReferredOrClosed.step {manager moved : Manager} {role after : Role}
    (before : ReferredOrClosed res manager) (step : RoleStep self manager moved role after)
    (other : role.isInstalling = false) : ReferredOrClosed res moved := by
  intro punch same
  rcases before punch same with refers | closed
  · rcases step.directUDPPunch with kept | ⟨_, _, role, _⟩ | ⟨_, _, _, closes⟩
    · exact .inl (kept.trans refers)
    · simp [role, Role.isInstalling] at other
    · exact .inr (closes punch refers)
  · exact .inr (step.punchesClosed punch closed)

theorem InstallKnown.own {manager moved : Manager} {pending later : Prop} {isLAN : Bool}
    {point after : SetDirectUDPPoint} (before : InstallKnown res manager pending point)
    (taken : stepSetDirectUDP self manager res isLAN point = some (moved, after)) :
    InstallKnown res moved later after := by
  cases point with
  | loadClosed =>
      simp only [stepSetDirectUDP] at taken
      split at taken
      · cases taken
        exact fun punch same => .inr (by simp [Manager.closePunch, same])
      · rename_i opened
        cases taken
        simp only [Bool.or_eq_true, Option.isNone_iff_eq_none, not_or] at opened
        exact ⟨before, Option.isSome_iff_ne_none.mpr opened.2⟩
  | lock =>
      simp only [stepSetDirectUDP, Manager.lock, Option.map_eq_some_iff] at taken
      rcases taken with ⟨locked, acquired, equal⟩
      split at acquired
      · cases acquired
        cases equal
        exact before
      · cases acquired
  | recheckClosed =>
      simp only [stepSetDirectUDP] at taken
      split at taken
      · cases taken
        exact fun punch same => .inr (by simp [Manager.closePunch, same])
      · rename_i opened
        cases taken
        exact ⟨before.1, before.2, fun closed => absurd closed opened⟩
  | install =>
      cases taken
      exact ⟨rfl, before.2.1⟩
  | store =>
      cases taken
      exact fun punch same => .inl (before.1.trans same)
  | notify =>
      cases taken
      exact before
  | unlock =>
      cases taken
      exact before
  | returned => cases taken

theorem stepClose_closed {manager moved : Manager} {point after : ClosePoint}
    (before : point = .swap ∨ manager.closed = true)
    (taken : stepClose self manager point = some (moved, after)) : moved.closed = true := by
  cases point <;>
    grind [stepClose, Manager.lock, Manager.unlock, Manager.closePunch]

theorem RoleKnown.own (before : RoleKnown res pool thread.role)
    (step : RoleStep self pool.shared.manager shared.manager thread.role next.role) :
    RoleKnown res (pool.update self shared next) next.role := by
  generalize thread.role = role, next.role = after at before step
  cases step with
  | installing taken =>
      rcases before with ⟨rfl, known⟩
      exact ⟨rfl, InstallKnown.own known taken⟩
  | closing taken => exact .inr (stepClose_closed before taken)
  | outside same free => rcases free with rfl | rfl <;> trivial
  | _ => trivial

theorem InstallKnown.others {isLAN : Bool} {point : SetDirectUDPPoint}
    (before : InstallKnown res pool.shared.manager (ClosePending pool) point)
    (present : pool.threads[self]? = some thread)
    (step : RoleStep self pool.shared.manager shared.manager thread.role next.role)
    (other : thread.role.isInstalling = false)
    (exclusive : (Role.installing res isLAN point).holdsLock = true →
      thread.role.holdsLock = false) :
    InstallKnown res shared.manager (ClosePending (pool.update self shared next)) point := by
  have elsewhere {given isLAN point} : thread.role ≠ .installing given isLAN point :=
    fun role => by simp [role, Role.isInstalling] at other
  cases point with
  | loadClosed => exact NothingInstalled.step before step other
  | lock => exact ⟨before.1.step step other, before.2⟩
  | recheckClosed => exact ⟨before.1.step step other, before.2⟩
  | install =>
      refine ⟨before.1.step step other, before.2.1, fun closed => ?_⟩
      rcases step.closed with kept | ⟨pending, _⟩
      · -- A `Close` that has the socket to close waits for the mutex.
        exact (before.2.2 (kept.symm.trans closed)).update present fun pending =>
          step.closePending_outside pending (exclusive rfl)
      · exact ⟨self, next, Pool.update_self present shared next, pending⟩
  | store =>
      refine ⟨?_, before.2⟩
      rcases step.directUDPPunch with kept | ⟨_, _, role, _⟩ | ⟨role, _⟩
      · exact kept.trans before.1
      · exact absurd role elsewhere
      · have free := exclusive rfl
        rw [role] at free
        cases free
  | notify => exact ReferredOrClosed.step before step other
  | unlock => exact ReferredOrClosed.step before step other
  | returned => exact ReferredOrClosed.step before step other

theorem installing_before {other : Nat} {bystander : SendingThread}
    (present : pool.threads[self]? = some thread)
    (same : next.role.isInstalling = thread.role.isInstalling)
    (found : (pool.update self shared next).threads[other]? = some bystander)
    (installs : bystander.role.isInstalling = true) :
    ∃ earlier, pool.threads[other]? = some earlier ∧ earlier.role.isInstalling = true := by
  by_cases own : other = self
  · subst own
    rw [Pool.update_self present] at found
    cases found
    exact ⟨thread, present, same.symm.trans installs⟩
  · rw [Pool.update_other pool own] at found
    exact ⟨bystander, found, installs⟩

theorem OwnershipKnown.step (before : OwnershipKnown res pool)
    (present : pool.threads[self]? = some thread) (known : RoleKnown res pool thread.role)
    (step : RoleStep self pool.shared.manager shared.manager thread.role next.role) :
    OwnershipKnown res (pool.update self shared next) where
  known punch refers := by
    rcases step.directUDPPunch with kept | ⟨given, isLAN, role, installed⟩ | ⟨_, _, cleared, _⟩
    · exact before.known punch (kept.symm.trans refers)
    · rw [role] at known
      exact known.1.symm.trans (installed.symm.trans refers)
    · rw [Pool.update_shared, cleared] at refers
      cases refers
  single one other first second found also installs installsToo := by
    rcases installing_before present step.isInstalling found installs with
      ⟨earlier, was, did⟩
    rcases installing_before present step.isInstalling also installsToo with
      ⟨earlierToo, wasToo, didToo⟩
    exact before.single one other earlier earlierToo was wasToo did didToo
  installed := by
    by_cases own : thread.role.isInstalling = true
    · exact .inr ⟨next, Pool.mem_of_getElem? (Pool.update_self present shared next),
        step.isInstalling.trans own⟩
    · rcases before.installed with nothing | installing
      · exact .inl (nothing.step step (Bool.not_eq_true _ ▸ own))
      · exact .inr (installing_update installing present step.isInstalling)
  coherent direct := by
    rcases step.udpPath with kept | indirect | ⟨given, isLAN, role, same⟩
    · rw [Pool.update_shared, kept] at direct
      rcases before.coherent direct with refers | clearing
      · rcases step.directUDPPunch with
          unchanged | ⟨given, isLAN, role, installed⟩ | ⟨_, clears, _, _⟩
        · exact .inl (unchanged.symm ▸ refers)
        · rw [role] at known
          rcases known with ⟨rfl, _, some, _⟩
          exact .inl (installed.symm ▸ some)
        · exact .inr ⟨self, next, Pool.update_self present shared next, clears⟩
      · by_cases own : thread.role = .falling .store
        · rw [own] at step
          have cleared := step.cleared
          rw [kept, direct] at cleared
          cases cleared
        · exact .inr (clearing.update present own)
    · rw [Pool.update_shared, indirect] at direct
      cases direct
    · rw [role] at known
      rcases known with ⟨rfl, refers, some⟩
      exact .inl ((same.trans refers).symm ▸ some)
  settled closed punch refers := by
    have stillPending (pending : ClosePending pool) :
        punch ∈ shared.manager.punchesClosed ∨ ClosePending (pool.update self shared next) := by
      rcases pending.step present step with still | done
      · exact .inr still
      · exact .inl (done punch refers)
    rcases step.closed with kept | ⟨pending, _⟩
    · rw [Pool.update_shared, kept] at closed
      rcases step.directUDPPunch with unchanged | ⟨given, isLAN, role, _⟩ | ⟨_, _, cleared, _⟩
      · rcases before.settled closed punch (unchanged.symm.trans refers) with done | pending
        · exact .inl (step.punchesClosed punch done)
        · exact stillPending pending
      · rw [role] at known
        exact stillPending (known.2.2.2 closed)
      · rw [Pool.update_shared, cleared] at refers
        cases refers
    · exact .inr ⟨self, next, Pool.update_self present shared next, pending⟩

theorem ownershipOutline_valid (engine : DataEngine) (res : Option PunchResult) :
    (ownershipOutline res).Valid (sending engine) fun pool event =>
      OneSetDirectUDP res pool event ∧ roleLock.outline.Holds pool where
  started _ _ outline enters permitted :=
    ⟨outline.global.start permitted.1, RoleKnown.started outline enters permitted.1⟩
  undisturbedByStart _ thread other bystander outline _ _ found :=
    (outline.thread other bystander found).start thread
  sequential _ self thread _ _ _ outline present _ taken :=
    have known := outline.thread self thread present
    have step := stepSending_role taken
    ⟨outline.global.step present known step, RoleKnown.own known step⟩
  interferenceFree pool self thread _ shared next other bystander outline present permitted taken
      different found := by
    have theirs := outline.thread other bystander found
    have step := stepSending_role taken
    change RoleKnown res _ bystander.role
    change RoleKnown res _ bystander.role at theirs
    cases role : bystander.role with
    | installing given isLAN point =>
        rw [role] at theirs
        rcases theirs with ⟨rfl, known⟩
        refine ⟨rfl, @InstallKnown.others _ _ _ _ _ _ isLAN _ known present step ?_ ?_⟩
        · by_contra installs
          exact different (outline.global.single self other thread bystander present found
            (Bool.not_eq_false _ ▸ installs) (by rw [role]; rfl))
        · intro inside
          by_contra also
          exact different (Lock.exclusive permitted.2 present found
            (Bool.not_eq_false _ ▸ also) (by simpa [roleLock, role] using inside))
    | closing point =>
        rw [role] at theirs
        exact theirs.imp_right step.closed_mono
    | _ => trivial

end Outline

theorem roleLock_of_run {engine : DataEngine} {relayTransport : Option RelayTransport}
    {allowed : SendingPool → SendingEvent → Prop} {events : List SendingEvent}
    {pool : SendingPool}
    (run : (sending engine).machine.Run allowed (initialSending engine relayTransport) events pool) :
    roleLock.outline.Holds pool :=
  ((roleLock_respected engine).outline_valid allowed).run (Lock.outline_initial rfl) run

theorem ownership_of_run {engine : DataEngine} {relayTransport : Option RelayTransport}
    {res : Option PunchResult} {events : List SendingEvent} {pool : SendingPool}
    (run : (sending engine).machine.Run (OneSetDirectUDP res)
      (initialSending engine relayTransport) events pool) :
    (ownershipOutline res).Holds pool := by
  refine (ownershipOutline_valid engine res).run ⟨⟨?_, ?_, .inl ⟨rfl, rfl⟩, ?_, ?_⟩, ?_⟩
    (run.strengthen fun _ _ => roleLock_of_run)
  · exact fun punch refers => by cases refers
  · exact fun _ _ _ _ present => by simp [initialSending] at present
  · exact fun direct => by cases direct
  · exact fun closed => by cases closed
  · exact fun _ _ present => by simp [initialSending] at present


/-! ## The critical section of a fallback -/

def WhileHolding (self : Nat) (pool : SendingPool) (_ : SendingEvent) : Prop :=
  pool.shared.manager.mu = some self

/-- A fallback that finds a direct path leaves Relay where the relay supports
datagrams and Disabled otherwise. It leaves every other path as it is. -/
def FallbackLeaves (engine : DataEngine) (pool : SendingPool) : Prop :=
  ∀ (self : Nat) (thread resumed : SendingThread) (events : List SendingEvent)
    (later : SendingPool), pool.threads[self]? = some thread → thread.role = .falling .load →
    (sending engine).machine.Run (WhileHolding self) pool events later →
    later.threads[self]? = some resumed → resumed.role = .falling .unlock →
    later.shared.manager.udpPath =
      if pool.shared.manager.udpPath.isDirectUDP then
        if supportsDatagrams pool.shared.manager.relayTransport then .relay else .disabled
      else pool.shared.manager.udpPath

def FallbackPath (path : PathType) (manager : Manager) : FallbackPoint → Prop
  | .lock => False
  | .load => manager.udpPath = path
  | .closePunch | .store => manager.udpPath = path ∧ path.isDirectUDP = true
  | .notify => manager.udpPath = manager.relayOrDisabled ∧ path.isDirectUDP = true
  | .unlock => manager.udpPath = if path.isDirectUDP then manager.relayOrDisabled else path
  | .returned => manager.mu = none

theorem FallbackPath.step {path : PathType} {self : Nat} {manager moved : Manager}
    {point next : FallbackPoint} (before : FallbackPath path manager point)
    (taken : stepFallback self manager point = some (moved, next)) :
    FallbackPath path moved next := by
  cases point with
  | lock => cases before
  | load =>
      simp only [stepFallback] at taken
      split at taken
      · rename_i direct
        cases taken
        exact ⟨before, before ▸ direct⟩
      · rename_i indirect
        cases taken
        rw [show manager.udpPath = path from before] at indirect
        exact (show manager.udpPath = path from before).trans (if_neg indirect).symm
  | closePunch =>
      cases taken
      exact before
  | store =>
      cases taken
      exact ⟨rfl, before.2⟩
  | notify =>
      cases taken
      exact before.1.trans (if_pos before.2).symm
  | unlock =>
      cases taken
      rfl
  | returned => cases taken

def InFallback (self : Nat) (path : PathType) (transport : Option RelayTransport)
    (pool : SendingPool) : Prop :=
  roleLock.outline.Holds pool ∧ pool.shared.manager.relayTransport = transport ∧
    (pool.shared.manager.mu = none ∨
      ∃ (thread : SendingThread) (point : FallbackPoint),
        pool.threads[self]? = some thread ∧ thread.role = .falling point ∧
        point.holdsLock = true ∧ FallbackPath path pool.shared.manager point)

theorem stepSending_relayTransport {engine : DataEngine} {self : Nat}
    {sender moved : SendingManager} {thread next : SendingThread} {choice : SendChoice}
    (taken : stepSending engine self sender thread choice = some (moved, next)) :
    moved.manager.relayTransport = sender.manager.relayTransport := by
  rcases stepSending_cases taken with
    ⟨operation, inner, manager, after, rfl, _, stepped, rfl, rfl⟩ |
    ⟨payload, point, manager, after, rfl, fell, rfl, rfl⟩ |
    ⟨payload, point, after, rfl, outside, stepped, kept, _, rfl⟩
  · exact (step_commonStep stepped).relayTransport
  · exact (stepFallback_commonStep fell).relayTransport
  · rw [kept]

theorem FallbackPath.of_eq {path : PathType} {manager moved : Manager} {point : FallbackPoint}
    (before : FallbackPath path manager point) (inside : point.holdsLock = true)
    (udpPath : moved.udpPath = manager.udpPath)
    (relayTransport : moved.relayTransport = manager.relayTransport) :
    FallbackPath path moved point := by
  cases point <;>
    simp_all [FallbackPath, FallbackPoint.holdsLock, Manager.relayOrDisabled]

theorem RoleStep.inFallback {path : PathType} {self : Nat} {manager moved : Manager}
    {point : FallbackPoint} {next : Role}
    (step : RoleStep self manager moved (.falling point) next)
    (before : FallbackPath path manager point) :
    moved.mu = none ∨ ∃ after, next = .falling after ∧ after.holdsLock = true ∧
      FallbackPath path moved after := by
  generalize same : Role.falling point = role at step
  cases step with
  | @falling _ after taken =>
      cases same
      have known := before.step taken
      cases after with
      | lock => cases known
      | returned => exact .inl known
      | _ => exact .inr ⟨_, rfl, rfl, known⟩
  | fallen taken =>
      cases same
      exact .inl (before.step taken)
  | _ => cases same

theorem InFallback.step {engine : DataEngine} {self : Nat} {path : PathType}
    {transport : Option RelayTransport} {pool next : SendingPool} {event : SendingEvent}
    (before : InFallback self path transport pool) (held : WhileHolding self pool event)
    (step : (sending engine).machine.step pool event = some next) :
    InFallback self path transport next := by
  rcases before with ⟨locked, fixed, free | ⟨thread, point, present, role, inside, known⟩⟩
  · rw [WhileHolding, free] at held
    cases held
  · refine ⟨((roleLock_respected engine).outline_valid (fun _ _ => True)).step locked trivial
      step, ?_⟩
    rcases Program.step_cases step with
      ⟨added, rfl, _, rfl⟩ | ⟨mover, choice, moving, shared, moved, rfl, there, taken, rfl⟩
    · exact ⟨fixed, .inr ⟨thread, point, Pool.start_old present added, role, inside, known⟩⟩
    · have same := stepSending_relayTransport taken
      have acts := stepSending_role taken
      refine ⟨same.trans fixed, ?_⟩
      by_cases own : mover = self
      · subst own
        rw [present] at there
        cases there
        rw [role] at acts
        rcases acts.inFallback known with left | ⟨after, roleAfter, stays, knownAfter⟩
        · exact .inl left
        · exact .inr ⟨moved, after, Pool.update_self present shared moved, roleAfter, stays,
            knownAfter⟩
      · have outside : moving.role.holdsLock = false := by
          by_contra also
          exact own (Lock.exclusive locked present there
            (by simpa [roleLock, role, Role.holdsLock] using inside) (Bool.not_eq_false _ ▸ also))
        exact .inr ⟨thread, point, (Pool.update_other pool (Ne.symm own) shared moved).trans present,
          role, inside, known.of_eq inside (acts.udpPath_outside outside) same⟩

theorem fallbackLeaves_of_locked {engine : DataEngine} {pool : SendingPool}
    (locked : roleLock.outline.Holds pool) : FallbackLeaves engine pool := by
  intro self thread resumed events later present role run found roleLater
  have start : InFallback self pool.shared.manager.udpPath pool.shared.manager.relayTransport
      pool := ⟨locked, rfl, .inr ⟨thread, .load, present, role, rfl, rfl⟩⟩
  have finish := run.preserves start fun _ _ _ before held step => before.step held step
  rcases finish with ⟨lockedLater, fixed, free | ⟨other, point, there, roleThere, _, known⟩⟩
  · have holder := lockedLater.thread self resumed found
      (by simp [roleLock, roleLater, Role.holdsLock, FallbackPoint.holdsLock])
    simp [roleLock, free] at holder
  · rw [found] at there
    cases there
    rw [roleLater] at roleThere
    cases roleThere
    rw [← fixed]
    exact known

/-! ## After a fallback has removed the result -/

/-- Once a fallback has removed the result, a `SendUDP` that uses it is one that had
read it before. -/
def UsedOnlyIfRead (engine : DataEngine) (res : Option PunchResult) (pool : SendingPool) : Prop :=
  ∀ (remover : Nat) (thread : SendingThread) (choice : SendChoice) (punch : PunchResult)
    (cleared final : SendingPool) (events : List SendingEvent),
    pool.threads[remover]? = some thread → thread.role = .falling .closePunch →
    pool.shared.manager.directUDPPunch = some punch →
    (sending engine).machine.step pool (.advance remover choice) = some cleared →
    (sending engine).machine.Run (OneSetDirectUDP res) cleared events final →
    ∀ (self : Nat) payload packetID codec pending,
      final.threads[self]? = some (.sendUDP payload (.writeDirect packetID punch codec pending)) →
      ∃ earlier, pending <:+ earlier ∧
        pool.threads[self]? = some (.sendUDP payload (.writeDirect packetID punch codec earlier))

structure Removed (pool : SendingPool) : Prop where
  cleared : pool.shared.manager.directUDPPunch = none
  installed : ∃ thread ∈ pool.threads, thread.role.isInstalling = true
  done : ∀ thread ∈ pool.threads, thread.role.beforeInstall = false

theorem RoleStep.beforeInstall {self : Nat} {manager moved : Manager} {role next : Role}
    (step : RoleStep self manager moved role next) (done : role.beforeInstall = false) :
    next.beforeInstall = false := by
  cases step with
  | @installing res isLAN point next taken =>
      cases point with
      | store | notify | unlock =>
          cases taken
          rfl
      | returned => cases taken
      | _ => cases done
  | outside same free => rcases free with rfl | rfl <;> rfl
  | _ => rfl

theorem beforeInstall_isInstalling {role : Role} (before : role.beforeInstall = true) :
    role.isInstalling = true := by
  cases role with
  | installing res isLAN point => rfl
  | _ => cases before

theorem Removed.step {engine : DataEngine} {res : Option PunchResult} {pool next : SendingPool}
    {event : SendingEvent} (removed : Removed pool) (permitted : OneSetDirectUDP res pool event)
    (step : (sending engine).machine.step pool event = some next) : Removed next := by
  rcases Program.step_cases step with
    ⟨added, rfl, _, rfl⟩ | ⟨self, choice, thread, shared, moved, rfl, present, taken, rfl⟩
  · rcases removed.installed with ⟨installer, member, installs⟩
    refine ⟨removed.cleared, ⟨installer, List.mem_append_left _ member, installs⟩, ?_⟩
    intro thread among
    rcases List.mem_append.mp among with old | new
    · exact removed.done thread old
    · rw [List.mem_singleton.mp new]
      by_contra before
      have installing := beforeInstall_isInstalling (Bool.not_eq_false _ ▸ before)
      cases role : added.role with
      | installing given isLAN point =>
          have alone := (permitted.spawned role).2 installer member
          rw [installs] at alone
          cases alone
      | _ =>
          rw [role] at installing
          cases installing
  · have acts := stepSending_role taken
    have done := removed.done thread (Pool.mem_of_getElem? present)
    refine ⟨?_, installing_update removed.installed present acts.isInstalling, ?_⟩
    · rcases acts.directUDPPunch with kept | ⟨_, _, role, _⟩ | ⟨_, _, cleared, _⟩
      · exact kept.trans removed.cleared
      · rw [role] at done
        cases done
      · exact cleared
    · intro other among
      rcases List.mem_or_eq_of_mem_set among with old | rfl
      · exact removed.done other old
      · exact acts.beforeInstall done

theorem stepSendUDP_holds {engine : DataEngine} {self : Nat} {sender moved : SendingManager}
    {payload : Bytes} {choice : SendChoice} {point : SendUDPPoint} {packetID : UInt32}
    {punch : PunchResult} {codec : P2PCodec} {pending : List Bytes}
    (taken : stepSendUDP engine self sender payload choice point =
      some (moved, .writeDirect packetID punch codec pending)) :
    sender.manager.directUDPPunch = some punch ∨
      ∃ datagram, point = .writeDirect packetID punch codec (datagram :: pending) := by
  cases point with
  | loadPath => grind [stepSendUDP]
  | draw path =>
      simp only [stepSendUDP, Option.some.injEq, Prod.mk.injEq] at taken
      cases path <;> grind [selectCarrier]
  | readPunch packetID =>
      simp only [stepSendUDP] at taken
      split at taken
      · cases taken
      · simp only [Option.some.injEq, Prod.mk.injEq] at taken
        left
        cases refers : sender.manager.directUDPPunch <;> grind [usePunch]
  | writeDirect packetID res codec pending =>
      rcases stepSendUDP_writeDirect taken with
        ⟨_, _, next⟩ | ⟨_, _, next⟩ | ⟨datagram, rest, rfl, _, next⟩ <;> cases next
      exact .inr ⟨datagram, rfl⟩
  | writeRelay packetID pending =>
      rcases stepSendUDP_writeRelay taken with
        ⟨_, _, next⟩ | ⟨_, _, next⟩ | ⟨_, _, _, _, next⟩ <;> cases next
  | fallback point =>
      simp only [stepSendUDP, Option.map_eq_some_iff, Prod.mk.injEq] at taken
      rcases taken with ⟨⟨_, resumed⟩, _, _, next⟩
      cases resumed <;> cases next
  | returned err => cases taken

theorem stepSending_holds {engine : DataEngine} {self : Nat} {sender moved : SendingManager}
    {payload : Bytes} {choice : SendChoice} {thread : SendingThread} {packetID : UInt32}
    {punch : PunchResult} {codec : P2PCodec} {pending : List Bytes}
    (taken : stepSending engine self sender thread choice =
      some (moved, .sendUDP payload (.writeDirect packetID punch codec pending))) :
    sender.manager.directUDPPunch = some punch ∨
      ∃ datagram, thread = .sendUDP payload (.writeDirect packetID punch codec (datagram :: pending))
      := by
  rcases stepSending_cases taken with
    ⟨operation, inner, manager, after, rfl, _, stepped, rfl, next⟩ |
    ⟨sent, point, manager, after, rfl, fell, rfl, next⟩ |
    ⟨sent, point, after, rfl, outside, stepped, kept, _, next⟩
  · cases next
  · cases after <;> cases next
  · cases next
    rcases stepSendUDP_holds stepped with refers | ⟨datagram, rfl⟩
    · exact .inl refers
    · exact .inr ⟨datagram, rfl⟩

theorem removed_of_known {res : Option PunchResult} {pool : SendingPool} {punch : PunchResult}
    (outline : (ownershipOutline res).Holds pool)
    (refers : pool.shared.manager.directUDPPunch = some punch) :
    (∃ thread ∈ pool.threads, thread.role.isInstalling = true) ∧
      ∀ thread ∈ pool.threads, thread.role.beforeInstall = false := by
  constructor
  · rcases outline.global.installed with nothing | installed
    · rw [nothing.1] at refers
      cases refers
    · exact installed
  · intro thread member
    rcases List.getElem?_of_mem member with ⟨self, present⟩
    have known : RoleKnown res pool thread.role := outline.thread self thread present
    cases role : thread.role with
    | installing given isLAN point =>
        rw [role] at known
        rcases known with ⟨_, known⟩
        cases point with
        | store | notify | unlock | returned => rfl
        | loadClosed => rw [known.1] at refers; cases refers
        | _ => rw [known.1.1] at refers; cases refers
    | _ => rfl

def RemovedAndRead (punch : PunchResult) (earlier pool : SendingPool) : Prop :=
  Removed pool ∧ ∀ (self : Nat) payload packetID codec pending,
    pool.threads[self]? = some (.sendUDP payload (.writeDirect packetID punch codec pending)) →
    ∃ held, pending <:+ held ∧
      earlier.threads[self]? = some (.sendUDP payload (.writeDirect packetID punch codec held))

theorem removedAndRead_start {punch : PunchResult} {pool : SendingPool} {remover : Nat}
    {thread moved : SendingThread} {shared : SendingManager}
    (gone : Removed (pool.update remover shared moved))
    (present : pool.threads[remover]? = some thread) (role : moved.role = .falling .store) :
    RemovedAndRead punch pool (pool.update remover shared moved) := by
  refine ⟨gone, fun self payload packetID codec pending found => ?_⟩
  by_cases own : self = remover
  · subst own
    rw [Pool.update_self present] at found
    cases found
    cases role
  · rw [Pool.update_other pool own] at found
    exact ⟨pending, List.suffix_refl pending, found⟩

theorem RemovedAndRead.step {engine : DataEngine} {res : Option PunchResult}
    {punch : PunchResult} {earlier pool next : SendingPool} {event : SendingEvent}
    (before : RemovedAndRead punch earlier pool) (permitted : OneSetDirectUDP res pool event)
    (step : (sending engine).machine.step pool event = some next) :
    RemovedAndRead punch earlier next := by
  refine ⟨before.1.step permitted step, fun self payload packetID codec pending found => ?_⟩
  rcases Program.step_cases step with
    ⟨added, rfl, enters, rfl⟩ | ⟨mover, choice, thread, shared, moved, rfl, present, taken, rfl⟩
  · rcases Pool.start_cases found with old | ⟨_, rfl⟩
    · exact before.2 self payload packetID codec pending old
    · simp [sending, SendingThread.entry] at enters
  · by_cases own : self = mover
    · subst own
      rw [Pool.update_self present] at found
      cases found
      rcases stepSending_holds taken with refers | ⟨datagram, rfl⟩
      · rw [before.1.cleared] at refers
        cases refers
      · rcases before.2 self payload packetID codec _ present with ⟨held, suffix, was⟩
        exact ⟨held, (List.suffix_cons datagram pending).trans suffix, was⟩
    · rw [Pool.update_other pool own] at found
      exact before.2 self payload packetID codec pending found

theorem usedOnlyIfRead_of_known {engine : DataEngine} {res : Option PunchResult}
    {pool : SendingPool} (outline : (ownershipOutline res).Holds pool) :
    UsedOnlyIfRead engine res pool := by
  intro remover thread choice punch cleared final events present role refers step run
  rcases removed_of_known outline refers with ⟨installed, done⟩
  rcases Program.step_cases step with
    ⟨_, spawned, _⟩ | ⟨self, _, mover, shared, moved, same, there, taken, rfl⟩
  · cases spawned
  · cases same
    rw [present] at there
    cases there
    have acts := stepSending_role taken
    rw [role] at acts
    have gone : Removed (pool.update remover shared moved) := by
      refine ⟨acts.removes.1, installing_update installed present ?_, ?_⟩
      · rw [acts.removes.2, role]
        rfl
      · intro other among
        rcases List.mem_or_eq_of_mem_set among with old | rfl
        · exact done other old
        · rw [acts.removes.2]
          rfl
    exact (run.preserves (removedAndRead_start gone present acts.removes.2)
      fun _ _ _ before permitted step => before.step permitted step).2

/-! ## The claim -/

/-- The result is unreferenced only if closed, and a direct path has it. -/
structure PunchOwned (engine : DataEngine) (res : Option PunchResult) (pool : SendingPool) :
    Prop where
  /-- Between critical sections a direct path has the result passed in. -/
  direct : pool.shared.manager.mu = none → pool.shared.manager.udpPath.isDirectUDP = true →
    pool.shared.manager.directUDPPunch = res ∧ res.isSome = true
  fallback : FallbackLeaves engine pool
  /-- `SetDirectUDP` and a `Close` have returned, and no `Close` is under way. -/
  closes : (∃ isLAN, .operation (.setDirectUDP res isLAN .returned) ∈ pool.threads) →
    .operation (.close .returned) ∈ pool.threads →
    (∀ thread ∈ pool.threads, thread.role.insideClose = false) →
    ∀ punch, res = some punch → punch ∈ pool.shared.manager.punchesClosed
  used : UsedOnlyIfRead engine res pool
  /-- What `SetDirectUDP` has handed over or refused does not leak. -/
  referred : ∀ thread ∈ pool.threads, thread.role.isInstalling = true →
    thread.role.beforeInstall = false → ReferredOrClosed res pool.shared.manager

theorem referred_of_known {res : Option PunchResult} {pool : SendingPool}
    {thread : SendingThread} (known : RoleKnown res pool thread.role)
    (installs : thread.role.isInstalling = true) (done : thread.role.beforeInstall = false) :
    ReferredOrClosed res pool.shared.manager := by
  cases role : thread.role with
  | installing given isLAN point =>
      rw [role] at known done
      rcases known with ⟨_, known⟩
      cases point with
      | store => exact fun punch same => .inl (known.1.trans same)
      | notify | unlock | returned => exact known
      | _ => cases done
  | _ => simp [role, Role.isInstalling] at installs

theorem insideClose_of_pending {role : Role} (pending : role.closePending = true) :
    role.insideClose = true := by
  cases role with
  | closing point => cases point <;> first | rfl | cases pending
  | _ => cases pending

/-- In every schedule a direct path has the result between critical sections, a
fallback from it leaves Relay or Disabled, the result is closed once `SetDirectUDP`
and all `Close` calls begun, at least one, have returned, only `SendUDP` calls that
had read it use it after its removal, and what the manager does not refer to is
closed. -/
theorem punch_result_owned (engine : DataEngine) (relayTransport : Option RelayTransport)
    (res : Option PunchResult) (events : List SendingEvent) (pool : SendingPool)
    (run : (sending engine).machine.Run (OneSetDirectUDP res)
      (initialSending engine relayTransport) events pool) :
    PunchOwned engine res pool := by
  have outline := ownership_of_run run
  have locked := roleLock_of_run run
  have known (thread : SendingThread) (member : thread ∈ pool.threads) :
      RoleKnown res pool thread.role := by
    rcases List.getElem?_of_mem member with ⟨self, present⟩
    exact outline.thread self thread present
  refine ⟨?_, fallbackLeaves_of_locked locked, ?_, usedOnlyIfRead_of_known outline, ?_⟩
  · intro free direct
    rcases outline.global.coherent direct with refers | ⟨self, thread, present, role⟩
    · rcases Option.isSome_iff_exists.mp refers with ⟨punch, refers⟩
      have same := outline.global.known punch refers
      exact ⟨refers.trans same.symm, same ▸ rfl⟩
    · have holder := locked.thread self thread present
        (by simp [roleLock, role, Role.holdsLock, FallbackPoint.holdsLock])
      simp [roleLock, free] at holder
  · rintro ⟨isLAN, returned⟩ closedOnce quiet punch same
    have closed : pool.shared.manager.closed = true :=
      (known _ closedOnce).resolve_left (by decide)
    rcases referred_of_known (known _ returned) rfl rfl punch same with refers | done
    · rcases outline.global.settled closed punch refers with
        done | ⟨self, thread, present, pending⟩
      · exact done
      · have inside := quiet thread (Pool.mem_of_getElem? present)
        rw [insideClose_of_pending pending] at inside
        cases inside
    · exact done
  · exact fun thread member installs done => referred_of_known (known thread member) installs done

/-- A result is installed and read by a `SendUDP`, a fallback removes it, and the
manager is closed. -/
theorem punch_result_owned_removed :
    let res : PunchResult := ⟨0, true⟩
    ∃ events pool, (sending ⟨7, [1]⟩).machine.Run (OneSetDirectUDP (some res))
        (initialSending ⟨7, [1]⟩ (some ⟨true⟩)) events pool ∧
      PunchOwned ⟨7, [1]⟩ (some res) pool ∧ pool.shared.manager.udpPath = .relay ∧
      res ∈ pool.shared.manager.punchesClosed ∧
      .operation (.close .returned) ∈ pool.threads := by
  intro res
  rcases (sending ⟨7, [1]⟩).machine.exists_run (OneSetDirectUDP (some res))
      (fun pool => pool.shared.manager.udpPath = .relay ∧
        res ∈ pool.shared.manager.punchesClosed ∧
        .operation (.close .returned) ∈ pool.threads)
      (initialSending ⟨7, [1]⟩ (some ⟨true⟩))
      (.spawn (.operation (.setDirectUDP (some res) false .loadClosed)) ::
        List.replicate 7 (.advance 0 (.operation .proceed)) ++
        .spawn (.sendUDP [5] .loadPath) :: List.replicate 3 (.advance 1 (.write true)) ++
        .spawn (.operation (.fallbackUDPFromDirect .lock)) ::
        List.replicate 6 (.advance 2 (.operation .proceed)) ++
        .spawn (.operation (.close .swap)) ::
        List.replicate 5 (.advance 3 (.operation .proceed)))
      (by decide +kernel) with ⟨pool, run, relay, closed, returned⟩
  exact ⟨_, pool, run, punch_result_owned _ _ _ _ pool run, relay, closed, returned⟩

/-- A fallback leaves an unknown path unknown, and a second `Close` returns while the
first has not yet closed the result. -/
theorem punch_open_after_close :
    let res : PunchResult := ⟨0, true⟩
    (∃ pool, (sending ⟨7, [1]⟩).machine.Run (OneSetDirectUDP none)
        (initialSending ⟨7, [1]⟩ (some ⟨true⟩))
        (.spawn (.operation (.fallbackUDPFromDirect .lock)) ::
          List.replicate 3 (.advance 0 (.operation .proceed))) pool ∧
      .operation (.fallbackUDPFromDirect .returned) ∈ pool.threads ∧
      pool.shared.manager.udpPath = .unknown) ∧
    ∃ pool, (sending ⟨7, [1]⟩).machine.Run (OneSetDirectUDP (some res))
        (initialSending ⟨7, [1]⟩ (some ⟨true⟩))
        (.spawn (.operation (.setDirectUDP (some res) false .loadClosed)) ::
          List.replicate 7 (.advance 0 (.operation .proceed)) ++
          [.spawn (.operation (.close .swap)), .advance 1 (.operation .proceed),
            .spawn (.operation (.close .swap)), .advance 2 (.operation .proceed)]) pool ∧
      .operation (.setDirectUDP (some res) false .returned) ∈ pool.threads ∧
      .operation (.close .returned) ∈ pool.threads ∧
      pool.shared.manager.directUDPPunch = some res ∧
      res ∉ pool.shared.manager.punchesClosed := by
  intro res
  constructor
  · refine (sending ⟨7, [1]⟩).machine.exists_run (OneSetDirectUDP none)
      (fun pool => .operation (.fallbackUDPFromDirect .returned) ∈ pool.threads ∧
        pool.shared.manager.udpPath = .unknown) _ _ ?_
    decide +kernel
  · refine (sending ⟨7, [1]⟩).machine.exists_run (OneSetDirectUDP (some res))
      (fun pool => .operation (.setDirectUDP (some res) false .returned) ∈ pool.threads ∧
        .operation (.close .returned) ∈ pool.threads ∧
        pool.shared.manager.directUDPPunch = some res ∧
        res ∉ pool.shared.manager.punchesClosed) _ _ ?_
    decide +kernel

end Rdpulse.Path
