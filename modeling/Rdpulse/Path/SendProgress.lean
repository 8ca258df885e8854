import Rdpulse.Foundation.Budgets
import Rdpulse.Path.PunchOwnership

namespace Rdpulse.Path

open Foundation Protocol UDP

/-! # `SendUDP` comes to an end

A call falls back only from a direct path, and after its fallback the path is not
direct. Where a direct path is installed at most once it is then never direct again,
so a call goes through its code at most twice. -/

/-- `SetDirectUDP` stores a direct path at most once. -/
def DirectOnce (pool : SendingPool) : SendingEvent → Prop
  | .spawn _ => True
  | .advance self _ =>
      match pool.threads[self]? with
      | some (.operation thread) => thread.storesDirect = true → pool.shared.directInstalls = 0
      | _ => True

instance DirectOnce.decidable (pool : SendingPool) : ∀ event, Decidable (DirectOnce pool event)
  | .spawn _ => isTrue trivial
  | .advance self _ =>
      match present : pool.threads[self]? with
      | none => isTrue (by simp only [DirectOnce, present])
      | some (.sendUDP _ _) => isTrue (by simp only [DirectOnce, present])
      | some (.operation thread) =>
          decidable_of_iff (thread.storesDirect = true → pool.shared.directInstalls = 0)
            (by simp only [DirectOnce, present])

def Gone (sender : SendingManager) : Prop :=
  1 ≤ sender.directInstalls ∧ sender.manager.udpPath.isDirectUDP = false

instance Gone.decidable (sender : SendingManager) : Decidable (Gone sender) :=
  inferInstanceAs (Decidable (_ ∧ _))

def SendKnown (sender : SendingManager) : SendUDPPoint → Prop
  | .draw path => path.isDirectUDP = true → 1 ≤ sender.directInstalls
  | .readPunch _ | .writeDirect _ _ _ _ => 1 ≤ sender.directInstalls
  | .fallback point =>
      match point with
      | .notify | .unlock => Gone sender
      | .returned => False
      | _ => 1 ≤ sender.directInstalls
  | .loadPath | .writeRelay _ _ | .returned _ => True

def SendingThread.PathKnown (sender : SendingManager) : SendingThread → Prop
  | .operation _ => True
  | .sendUDP _ point => SendKnown sender point

def pathOutline : Program.Outline SendingManager SendingThread where
  global pool := pool.shared.manager.udpPath.isDirectUDP = true → 1 ≤ pool.shared.directInstalls
  assertion _ pool thread := thread.PathKnown pool.shared

section Step

variable {engine : DataEngine} {self : Nat} {sender moved : SendingManager}
  {thread next : SendingThread} {choice : SendChoice}

theorem step_udpPath_of_not_store {manager after : Manager} {operation resumed : Thread}
    {inner : Choice} (taken : step self manager operation inner = some (after, resumed))
    (other : operation.storesDirect = false) :
    after.udpPath = manager.udpPath ∨ after.udpPath.isDirectUDP = false := by
  rcases step_udpPath taken with kept | ⟨res, isLAN, rfl, _⟩ | ⟨_, stored⟩
  · exact .inl kept
  · cases other
  · exact .inr (stored ▸ relayOrDisabled_isDirectUDP manager)

theorem stepSending_path (taken : stepSending engine self sender thread choice = some (moved, next)) :
    (moved.directInstalls = sender.directInstalls ∧
      (moved.manager.udpPath = sender.manager.udpPath ∨
        moved.manager.udpPath.isDirectUDP = false)) ∨
    ∃ operation, thread = .operation operation ∧ operation.storesDirect = true ∧
      moved.directInstalls = sender.directInstalls + 1 := by
  rcases stepSending_cases taken with
    ⟨operation, inner, manager, after, rfl, _, stepped, rfl, rfl⟩ |
    ⟨payload, point, manager, after, rfl, fell, rfl, rfl⟩ |
    ⟨payload, point, after, rfl, outside, stepped, kept, same, rfl⟩
  · by_cases stores : operation.storesDirect = true
    · exact .inr ⟨operation, rfl, stores, by simp [SendingManager.operate, stores]⟩
    · exact .inl ⟨by simp [SendingManager.operate, stores],
        step_udpPath_of_not_store stepped (Bool.not_eq_true _ ▸ stores)⟩
  · rcases stepFallback_udpPath fell with same | ⟨_, stored⟩
    · exact .inl ⟨rfl, .inl same⟩
    · exact .inl ⟨rfl, .inr (stored ▸ relayOrDisabled_isDirectUDP sender.manager)⟩
  · exact .inl ⟨same, .inl (by rw [kept])⟩

theorem Gone.step {pool : SendingPool} (gone : Gone pool.shared)
    (present : pool.threads[self]? = some thread)
    (permitted : DirectOnce pool (.advance self choice))
    (taken : stepSending engine self pool.shared thread choice = some (moved, next)) :
    Gone moved := by
  rcases stepSending_path taken with ⟨same, path⟩ | ⟨operation, rfl, stores, _⟩
  · refine ⟨same ▸ gone.1, ?_⟩
    rcases path with kept | indirect
    · exact kept ▸ gone.2
    · exact indirect
  · simp only [DirectOnce, present] at permitted
    have never := permitted stores
    have once := gone.1
    omega

theorem directInstalls_le (taken : stepSending engine self sender thread choice =
    some (moved, next)) : sender.directInstalls ≤ moved.directInstalls := by
  rcases stepSending_path taken with ⟨same, _⟩ | ⟨_, _, _, more⟩ <;> omega

theorem SendKnown.others {pool : SendingPool} {point : SendUDPPoint}
    (before : SendKnown pool.shared point) (present : pool.threads[self]? = some thread)
    (permitted : DirectOnce pool (.advance self choice))
    (taken : stepSending engine self pool.shared thread choice = some (moved, next)) :
    SendKnown moved point := by
  have grows := directInstalls_le taken
  cases point with
  | draw path => exact fun direct => (before direct).trans grows
  | readPunch packetID => exact Nat.le_trans before grows
  | writeDirect packetID res codec pending => exact Nat.le_trans before grows
  | fallback point =>
      cases point with
      | notify | unlock => exact Gone.step before present permitted taken
      | returned => exact before
      | _ => exact Nat.le_trans before grows
  | _ => trivial

theorem SendKnown.fallback {manager : Manager} {point after : FallbackPoint}
    (before : SendKnown sender (.fallback point))
    (fell : stepFallback self sender.manager point = some (manager, after)) :
    SendKnown { sender with manager := manager } (resumeSend after) := by
  cases point with
  | lock =>
      simp only [stepFallback, Manager.lock, Option.map_eq_some_iff] at fell
      rcases fell with ⟨locked, acquired, equal⟩
      cases equal
      exact before
  | load =>
      simp only [stepFallback] at fell
      split at fell
      · cases fell
        exact before
      · rename_i indirect
        cases fell
        exact ⟨before, Bool.not_eq_true _ ▸ indirect⟩
  | closePunch =>
      cases fell
      exact before
  | store =>
      cases fell
      exact ⟨before, relayOrDisabled_isDirectUDP sender.manager⟩
  | notify =>
      cases fell
      exact before
  | unlock =>
      cases fell
      trivial
  | returned => cases fell

theorem SendKnown.own {payload : Bytes} {point after : SendUDPPoint}
    (before : SendKnown sender point)
    (known : sender.manager.udpPath.isDirectUDP = true → 1 ≤ sender.directInstalls)
    (taken : stepSendUDP engine self sender payload choice point = some (moved, after)) :
    SendKnown moved after := by
  cases point with
  | loadPath =>
      simp only [stepSendUDP] at taken
      split at taken
      · cases taken
        trivial
      · cases taken
        exact known
  | draw path =>
      cases taken
      cases path with
      | directLAN => exact before rfl
      | directUDP => exact before rfl
      | relay =>
          simp only [selectCarrier]
          split
          · trivial
          · split <;> trivial
      | _ => trivial
  | readPunch packetID =>
      simp only [stepSendUDP] at taken
      split at taken
      · cases taken
      · cases taken
        cases sender.manager.directUDPPunch with
        | none => exact before
        | some res =>
            simp only [usePunch]
            split
            · exact before
            · split
              · trivial
              · split <;> exact before
  | writeDirect packetID res codec pending =>
      rcases stepSendUDP_writeDirect taken with
        ⟨_, rfl, rfl⟩ | ⟨_, rfl, rfl⟩ | ⟨datagram, rest, _, rfl, rfl⟩
      · trivial
      · exact before
      · exact before
  | writeRelay packetID pending =>
      rcases stepSendUDP_writeRelay taken with
        ⟨_, rfl, rfl⟩ | ⟨_, rfl, rfl⟩ | ⟨datagram, rest, _, rfl, rfl⟩ <;> trivial
  | fallback point =>
      simp only [stepSendUDP, Option.map_eq_some_iff] at taken
      rcases taken with ⟨⟨manager, resumed⟩, fell, equal⟩
      cases equal
      exact before.fallback fell
  | returned err => cases taken

end Step

theorem pathOutline_valid (engine : DataEngine) :
    pathOutline.Valid (sending engine) DirectOnce where
  started _ thread outline enters _ := by
    refine ⟨outline.global, ?_⟩
    cases thread with
    | operation thread => trivial
    | sendUDP payload point =>
        simp only [sending, SendingThread.entry, decide_eq_true_eq] at enters
        subst enters
        trivial
  undisturbedByStart _ _ other bystander outline _ _ found := outline.thread other bystander found
  sequential pool self thread choice shared next outline present _ taken := by
    have known := outline.thread self thread present
    constructor
    · intro direct
      rcases stepSending_path taken with ⟨same, kept | indirect⟩ | ⟨_, _, _, more⟩
      · rw [Pool.update_shared, kept] at direct
        exact same ▸ outline.global direct
      · rw [Pool.update_shared, indirect] at direct
        cases direct
      · rw [Pool.update_shared, more]
        omega
    · cases thread with
      | operation operation =>
          rcases stepSending_operation taken with ⟨_, _, _, _, _, _, rfl⟩
          trivial
      | sendUDP payload point =>
          rcases stepSending_sendUDP taken with ⟨after, stepped, rfl⟩
          exact SendKnown.own known outline.global stepped
  interferenceFree pool self thread choice shared next other bystander outline present permitted
      taken different found := by
    have theirs := outline.thread other bystander found
    cases bystander with
    | operation operation => trivial
    | sendUDP payload point => exact SendKnown.others theirs present permitted taken

theorem pathOutline_of_run {engine : DataEngine} {relayTransport : Option RelayTransport}
    {events : List SendingEvent} {pool : SendingPool}
    (run : (sending engine).machine.Run DirectOnce (initialSending engine relayTransport)
      events pool) : pathOutline.Holds pool := by
  refine (pathOutline_valid engine).run ⟨?_, fun _ _ present => ?_⟩ run
  · exact fun direct => by cases direct
  · simp [initialSending] at present

/-! ## The actions that a call has left -/

def FallbackPoint.left : FallbackPoint → Nat
  | .lock => 6
  | .load => 5
  | .closePunch => 4
  | .store => 3
  | .notify => 2
  | .unlock => 1
  | .returned => 0

/-- At most this many actions of the call are left, for a payload of so many
fragments. -/
def sendLeft (fragments : Nat) (sender : SendingManager) : SendUDPPoint → Nat
  | .loadPath => if Gone sender then fragments + 3 else 2 * fragments + 12
  | .draw path => if path.isDirectUDP then 2 * fragments + 11 else fragments + 2
  | .readPunch _ => 2 * fragments + 10
  | .writeDirect _ _ _ pending => pending.length + fragments + 9
  | .writeRelay _ pending => pending.length + 1
  | .fallback point => fragments + 3 + point.left
  | .returned _ => 0

section Left

variable {engine : DataEngine} {self : Nat} {sender moved : SendingManager} {payload : Bytes}
  {choice : SendChoice}

theorem length_of_fragment {fragmenter : Fragmenter} {sessionID packetID : UInt32}
    {packet : Bytes} {datagrams : List Bytes}
    (split : fragmenter.fragment sessionID packetID packet = .ok datagrams) :
    datagrams.length = fragmenter.fragments packet := by
  rw [(Fragmenter.fragment_eq_ok split).2, List.length_map, List.length_range]

theorem stepFallback_left {manager after : Manager} {point next : FallbackPoint}
    (fell : stepFallback self manager point = some (after, next)) : next.left < point.left := by
  cases point <;>
    grind [stepFallback, Manager.lock, FallbackPoint.left]

theorem stepFallback_returned {manager after : Manager} {point : FallbackPoint}
    (fell : stepFallback self manager point = some (after, .returned)) : point = .unlock := by
  cases point <;> grind [stepFallback, Option.map_eq_some_iff]

theorem selectCarrier_left (sender moved : SendingManager)
    (relayTransport : Option RelayTransport) (packetID : UInt32) (path : PathType) :
    sendLeft (engine.fragmenter.fragments payload) moved
        (selectCarrier engine relayTransport payload packetID path) <
      sendLeft (engine.fragmenter.fragments payload) sender (.draw path) := by
  cases path with
  | relay =>
      simp only [selectCarrier]
      split
      · simp [sendLeft, PathType.isDirectUDP]
      · split
        · simp [sendLeft, PathType.isDirectUDP]
        · rename_i datagrams cut
          simp [sendLeft, PathType.isDirectUDP, length_of_fragment cut]
  | _ => simp [selectCarrier, sendLeft, PathType.isDirectUDP]

theorem usePunch_left (sender : SendingManager) (packetID : UInt32)
    (punch : Option PunchResult) :
    sendLeft (engine.fragmenter.fragments payload) sender
        (usePunch engine payload packetID punch) <
      sendLeft (engine.fragmenter.fragments payload) sender (.readPunch packetID) := by
  cases punch with
  | none =>
      simp only [usePunch, sendLeft, FallbackPoint.left]
      omega
  | some res =>
      simp only [usePunch]
      split
      · simp only [sendLeft, FallbackPoint.left]
        omega
      · split
        · simp [sendLeft]
        · split
          · simp only [sendLeft, FallbackPoint.left]
            omega
          · rename_i datagrams cut
            simp only [sendLeft, length_of_fragment cut]
            omega

theorem sendLeft_own {point after : SendUDPPoint} (known : SendKnown sender point)
    (taken : stepSendUDP engine self sender payload choice point = some (moved, after)) :
    sendLeft (engine.fragmenter.fragments payload) moved after <
      sendLeft (engine.fragmenter.fragments payload) sender point := by
  cases point with
  | loadPath =>
      simp only [stepSendUDP] at taken
      split at taken
      · cases taken
        simp only [sendLeft]
        split <;> omega
      · cases taken
        simp only [sendLeft]
        by_cases gone : Gone sender
        · rw [if_pos gone, gone.2]
          simp
        · rw [if_neg gone]
          split <;> omega
  | draw path =>
      cases taken
      exact selectCarrier_left sender _ _ _ path
  | readPunch packetID =>
      simp only [stepSendUDP] at taken
      split at taken
      · cases taken
      · cases taken
        exact usePunch_left sender packetID _
  | writeDirect packetID res codec pending =>
      rcases stepSendUDP_writeDirect taken with
        ⟨rfl, rfl, rfl⟩ | ⟨some, rfl, rfl⟩ | ⟨datagram, rest, rfl, rfl, rfl⟩
      · simp only [sendLeft]
        omega
      · have positive := List.length_pos_iff.mpr some
        simp only [sendLeft, FallbackPoint.left]
        omega
      · simp only [sendLeft, List.length_cons]
        omega
  | writeRelay packetID pending =>
      rcases stepSendUDP_writeRelay taken with
        ⟨rfl, rfl, rfl⟩ | ⟨_, rfl, rfl⟩ | ⟨datagram, rest, rfl, rfl, rfl⟩ <;>
        simp [sendLeft]
  | fallback point =>
      simp only [stepSendUDP, Option.map_eq_some_iff] at taken
      rcases taken with ⟨⟨manager, resumed⟩, fell, equal⟩
      cases equal
      have fewer := stepFallback_left fell
      cases resumed with
      | returned =>
          -- The path is not direct any more when the call starts again.
          have gone : Gone { sender with manager := manager } := by
            rcases stepFallback_returned fell with rfl
            cases fell
            exact known
          simp only [resumeSend, sendLeft, if_pos gone]
          omega
      | _ =>
          simp only [resumeSend, sendLeft]
          omega
  | returned err => cases taken

theorem sendLeft_others {pool : SendingPool} {thread next : SendingThread}
    (present : pool.threads[self]? = some thread)
    (permitted : DirectOnce pool (.advance self choice))
    (taken : stepSending engine self pool.shared thread choice = some (moved, next))
    (fragments : Nat) (point : SendUDPPoint) :
    sendLeft fragments moved point ≤ sendLeft fragments pool.shared point := by
  cases point with
  | loadPath =>
      simp only [sendLeft]
      by_cases gone : Gone pool.shared
      · rw [if_pos gone, if_pos (gone.step present permitted taken)]
      · rw [if_neg gone]
        split <;> omega
  | _ => exact Nat.le_refl _

end Left

theorem sendUDP_stays {engine : DataEngine} {pool next : SendingPool} {event : SendingEvent}
    {self : Nat} {payload : Bytes} {point : SendUDPPoint}
    (present : pool.threads[self]? = some (.sendUDP payload point))
    (step : (sending engine).machine.step pool event = some next) :
    ∃ after, next.threads[self]? = some (.sendUDP payload after) := by
  rcases Program.step_cases step with
    ⟨added, rfl, _, rfl⟩ | ⟨mover, choice, thread, shared, moved, rfl, there, taken, rfl⟩
  · exact ⟨point, Pool.start_old present added⟩
  · by_cases own : self = mover
    · subst own
      rw [present] at there
      cases there
      rcases stepSending_sendUDP taken with ⟨after, _, rfl⟩
      exact ⟨after, Pool.update_self present shared _⟩
    · exact ⟨point, (Pool.update_other pool own shared moved).trans present⟩

def callLeft (engine : DataEngine) (self : Nat) (pool : SendingPool) : Nat :=
  match pool.threads[self]? with
  | some (.sendUDP payload point) =>
      sendLeft (engine.fragmenter.fragments payload) pool.shared point
  | _ => 0

theorem callLeft_step {engine : DataEngine} {pool next : SendingPool} {event : SendingEvent}
    {self : Nat} {payload : Bytes} {point : SendUDPPoint} (outline : pathOutline.Holds pool)
    (present : pool.threads[self]? = some (.sendUDP payload point))
    (permitted : DirectOnce pool event)
    (step : (sending engine).machine.step pool event = some next) :
    callLeft engine self next + (if PoolEvent.isTurn self event then 1 else 0) ≤
      callLeft engine self pool := by
  rcases Program.step_cases step with
    ⟨added, rfl, _, rfl⟩ | ⟨mover, choice, thread, shared, moved, rfl, there, taken, rfl⟩
  · simp [callLeft, present, Pool.start_old present added, PoolEvent.isTurn]
  · by_cases own : mover = self
    · subst own
      rw [present] at there
      cases there
      rcases stepSending_sendUDP taken with ⟨after, stepped, rfl⟩
      have fewer := sendLeft_own (outline.thread mover _ present) stepped
      simp only [callLeft, present, Pool.update_self present, PoolEvent.isTurn, decide_true,
        if_true, Pool.update_shared]
      omega
    · have kept := (Pool.update_other pool (Ne.symm own) shared moved).trans present
      have most := sendLeft_others there permitted taken
        (engine.fragmenter.fragments payload) point
      simp only [callLeft, present, kept, PoolEvent.isTurn, own, decide_false,
        Bool.false_eq_true, if_false, Pool.update_shared]
      omega

def InCall (self : Nat) (payload : Bytes) (pool : SendingPool) : Prop :=
  pathOutline.Holds pool ∧ ∃ point, pool.threads[self]? = some (.sendUDP payload point)

theorem InCall.step {engine : DataEngine} {self : Nat} {payload : Bytes} {pool next : SendingPool}
    {event : SendingEvent} (before : InCall self payload pool) (permitted : DirectOnce pool event)
    (step : (sending engine).machine.step pool event = some next) : InCall self payload next := by
  rcases before with ⟨outline, point, present⟩
  exact ⟨(pathOutline_valid engine).step outline permitted step, sendUDP_stays present step⟩

theorem turns_sendUDP {engine : DataEngine} {pool final : SendingPool}
    {later : List SendingEvent} {self : Nat} {payload : Bytes}
    (outline : pathOutline.Holds pool)
    (present : pool.threads[self]? = some (.sendUDP payload .loadPath))
    (run : (sending engine).machine.Run DirectOnce pool later final) :
    turns self later ≤ 2 * engine.fragmenter.fragments payload + 12 := by
  have along (past : List SendingEvent) (middle : SendingPool)
      (before : (sending engine).machine.Run DirectOnce pool past middle) :
      InCall self payload middle :=
    before.preserves (show InCall self payload pool from ⟨outline, _, present⟩)
      fun _ _ _ known permitted step => known.step permitted step
  have counted := (run.strengthen along).countP_le (PoolEvent.isTurn self) (callLeft engine self)
    fun _ _ _ permitted step =>
      permitted.2.2.elim fun _ there => callLeft_step permitted.2.1 there permitted.1 step
  have most : callLeft engine self pool ≤ 2 * engine.fragmenter.fragments payload + 12 := by
    simp only [callLeft, present, sendLeft]
    split <;> omega
  rw [turns]
  omega

/-! ## Nothing but the mutex is waited for -/

def Enabled (engine : DataEngine) (pool : SendingPool) (self : Nat) : Prop :=
  ∃ choice next, (sending engine).machine.step pool (.advance self choice) = some next

theorem RoleStep.kept {self : Nat} {manager moved : Manager} {role next : Role}
    (step : RoleStep self manager moved role next) :
    (moved.mu = manager.mu ∧ next.holdsLock = role.holdsLock) ∨
      (moved.mu = some self ∧ next.holdsLock = true) ∨ moved.mu = none := by
  cases step with
  | @installing res isLAN point next taken =>
      cases point <;>
        grind [stepSetDirectUDP, Manager.lock, Manager.unlock, Manager.closePunch,
          Manager.notifyPathChanged, Role.holdsLock]
  | @falling point next taken =>
      cases point <;>
        grind [stepFallback, Manager.lock, Manager.unlock, Manager.closePunch,
          Manager.notifyPathChanged, Role.holdsLock, FallbackPoint.holdsLock]
  | @fallen point taken =>
      rcases stepFallback_returned taken with rfl
      cases taken
      exact .inr (.inr rfl)
  | @relaying point next taken =>
      cases point <;>
        grind [stepSetQUICRelay, Manager.lock, Manager.unlock, Manager.notifyPathChanged,
          Role.holdsLock]
  | @closing point next taken =>
      cases point <;>
        grind [stepClose, Manager.lock, Manager.unlock, Manager.closePunch, Role.holdsLock]
  | outside same free => rcases free with rfl | rfl <;> exact .inl ⟨same.mu, rfl⟩

theorem heldInside_of_run {engine : DataEngine} {relayTransport : Option RelayTransport}
    {allowed : SendingPool → SendingEvent → Prop} {events : List SendingEvent}
    {pool : SendingPool}
    (run : (sending engine).machine.Run allowed (initialSending engine relayTransport) events pool) :
    roleLock.HeldInside pool :=
  run.preserves (fun _ holds => by cases holds) fun _ _ _ before _ step =>
    before.step (fun _ _ _ _ _ _ taken => (stepSending_role taken).kept) step

theorem enabled_of_step {engine : DataEngine} {pool : SendingPool} {self : Nat}
    {thread next : SendingThread} {choice : SendChoice} {moved : SendingManager}
    (present : pool.threads[self]? = some thread)
    (taken : stepSending engine self pool.shared thread choice = some (moved, next)) :
    Enabled engine pool self :=
  ⟨choice, _, Program.machine_advance present taken⟩

theorem stepFallback_inside {self : Nat} {manager : Manager} {point : FallbackPoint}
    (inside : point.holdsLock = true) : ∃ after, stepFallback self manager point = some after := by
  cases point with
  | load =>
      simp only [stepFallback]
      split <;> exact ⟨_, rfl⟩
  | lock | returned => cases inside
  | _ => exact ⟨_, rfl⟩

theorem stepSending_inside {engine : DataEngine} {self : Nat} {sender : SendingManager}
    {thread : SendingThread} (inside : thread.role.holdsLock = true) :
    ∃ choice after, stepSending engine self sender thread choice = some after := by
  cases thread with
  | sendUDP payload point =>
      cases point with
      | fallback inner =>
          rcases @stepFallback_inside self sender.manager inner inside with ⟨after, taken⟩
          exact ⟨.write true, _, by simp only [stepSending, stepSendUDP, taken]; rfl⟩
      | _ => cases inside
  | operation operation =>
      suffices steps : ∃ after, step self sender.manager operation .proceed = some after by
        rcases steps with ⟨after, taken⟩
        exact ⟨.operation .proceed, _, by simp only [stepSending, taken]; rfl⟩
      cases operation with
      | setDirectUDP res isLAN point =>
          cases point with
          | recheckClosed =>
              simp only [step, stepSetDirectUDP]
              split <;> exact ⟨_, rfl⟩
          | loadClosed | lock | returned => cases inside
          | _ => exact ⟨_, rfl⟩
      | fallbackUDPFromDirect inner =>
          rcases @stepFallback_inside self sender.manager inner inside with ⟨after, taken⟩
          exact ⟨_, by simp only [step, taken]; rfl⟩
      | setQUICRelay point =>
          cases point with
          | loadTCP | loadUDP =>
              simp only [step, stepSetQUICRelay]
              split <;> exact ⟨_, rfl⟩
          | lock | returned => cases inside
          | _ => exact ⟨_, rfl⟩
      | close point =>
          cases point with
          | closePunch | unlock => exact ⟨_, rfl⟩
          | _ => cases inside
      | receiveUDP point =>
          cases point with
          | fallback inner =>
              rcases @stepFallback_inside self sender.manager inner inside with ⟨after, taken⟩
              exact ⟨_, by simp only [step, stepReceiveUDP, taken]; rfl⟩
          | _ => cases inside
      | _ => cases inside

theorem stepSendUDP_waits {engine : DataEngine} {self : Nat} {sender : SendingManager}
    {payload : Bytes} {point : SendUDPPoint} (unfinished : ∀ err, point ≠ .returned err)
    (resumes : point ≠ .fallback .returned) :
    (∃ after, stepSendUDP engine self sender payload (.write true) point = some after) ∨
      sender.manager.mu ≠ none := by
  by_cases free : sender.manager.mu = none
  · left
    cases point with
    | loadPath =>
        simp only [stepSendUDP]
        split <;> exact ⟨_, rfl⟩
    | draw path => exact ⟨_, rfl⟩
    | readPunch packetID => exact ⟨_, by simp only [stepSendUDP, free]; rfl⟩
    | writeDirect packetID res codec pending => cases pending <;> exact ⟨_, rfl⟩
    | writeRelay packetID pending => cases pending <;> exact ⟨_, rfl⟩
    | fallback inner =>
        suffices falls : ∃ after, stepFallback self sender.manager inner = some after by
          rcases falls with ⟨after, taken⟩
          exact ⟨_, by simp only [stepSendUDP, taken]; rfl⟩
        cases inner with
        | lock => exact ⟨_, by simp only [stepFallback, Manager.lock, free]; rfl⟩
        | returned => exact absurd rfl resumes
        | _ => exact stepFallback_inside rfl
    | returned err => exact absurd rfl (unfinished err)
  · exact .inr free

/-- A call that has not returned can go on, or the mutex is held by a thread that can. -/
theorem sendUDP_progress {engine : DataEngine} {pool : SendingPool} {self : Nat}
    {payload : Bytes} {point : SendUDPPoint} (outline : pathOutline.Holds pool)
    (held : roleLock.HeldInside pool)
    (present : pool.threads[self]? = some (.sendUDP payload point)) :
    (∃ err, point = .returned err) ∨ Enabled engine pool self ∨
      ∃ holder, pool.shared.manager.mu = some holder ∧ Enabled engine pool holder := by
  by_cases finished : ∃ err, point = .returned err
  · exact .inl finished
  · right
    have known : SendKnown pool.shared point := outline.thread self _ present
    have resumes : point ≠ .fallback .returned := by
      rintro rfl
      exact known
    rcases @stepSendUDP_waits engine self pool.shared payload point
        (fun err same => finished ⟨err, same⟩) resumes with ⟨⟨moved, after⟩, taken⟩ | locked
    · have goes : stepSending engine self pool.shared (.sendUDP payload point) (.write true) =
          some (moved, .sendUDP payload after) := by
        simp only [stepSending, taken]
        rfl
      exact .inl (enabled_of_step present goes)
    · rcases Option.ne_none_iff_exists'.mp locked with ⟨holder, holds⟩
      rcases held holder holds with ⟨thread, there, inside⟩
      rcases @stepSending_inside engine holder pool.shared thread inside with
        ⟨choice, ⟨moved, next⟩, taken⟩
      exact .inr ⟨holder, holds, enabled_of_step there taken⟩

def Role.sectionLeft : Role → Nat
  | .outside => 0
  | .installing _ _ point =>
      match point with
      | .recheckClosed => 5
      | .install => 4
      | .store => 3
      | .notify => 2
      | .unlock => 1
      | .loadClosed | .lock | .returned => 0
  | .falling point => point.left
  | .relaying point =>
      match point with
      | .loadTCP => 6
      | .storeTCP => 5
      | .loadUDP => 4
      | .storeUDP => 3
      | .notify => 2
      | .unlock => 1
      | .lock | .returned => 0
  | .closing point =>
      match point with
      | .closePunch => 2
      | .unlock => 1
      | _ => 0

theorem Role.sectionLeft_le (role : Role) : role.sectionLeft ≤ 6 := by
  cases role with
  | outside => exact Nat.zero_le 6
  | installing res isLAN point => cases point <;> simp [sectionLeft]
  | falling point => cases point <;> decide
  | relaying point => cases point <;> decide
  | closing point => cases point <;> decide

theorem RoleStep.sectionLeft {self : Nat} {manager moved : Manager} {role next : Role}
    (step : RoleStep self manager moved role next) (inside : role.holdsLock = true) :
    next.sectionLeft < role.sectionLeft := by
  cases step with
  | @installing res isLAN point next taken =>
      cases point <;> grind [stepSetDirectUDP, Role.holdsLock, Role.sectionLeft]
  | falling taken => exact stepFallback_left taken
  | fallen taken => exact Nat.zero_lt_of_lt (stepFallback_left taken)
  | @relaying point next taken =>
      cases point <;> grind [stepSetQUICRelay, Role.holdsLock, Role.sectionLeft]
  | @closing point next taken =>
      cases point <;> grind [stepClose, Role.holdsLock, Role.sectionLeft]
  | outside same free => cases inside

def sectionLeft (self : Nat) (pool : SendingPool) : Nat :=
  match pool.threads[self]? with
  | some thread => thread.role.sectionLeft
  | none => 0

theorem turns_holder {engine : DataEngine} {pool final : SendingPool} {later : List SendingEvent}
    {holder : Nat} (held : roleLock.HeldInside pool)
    (run : (sending engine).machine.Run (WhileHolding holder) pool later final) :
    turns holder later ≤ 6 := by
  have along (past : List SendingEvent) (middle : SendingPool)
      (before : (sending engine).machine.Run (WhileHolding holder) pool past middle) :
      roleLock.HeldInside middle :=
    before.preserves held fun _ _ _ known _ step =>
      known.step (fun _ _ _ _ _ _ taken => (stepSending_role taken).kept) step
  have counted := (run.strengthen along).countP_le (PoolEvent.isTurn holder) (sectionLeft holder)
    (fun middle event next permitted step => by
      rcases permitted.2 holder permitted.1 with ⟨thread, there, inside⟩
      rcases Program.step_cases step with
        ⟨added, rfl, _, rfl⟩ | ⟨self, choice, moving, shared, moved, rfl, present, taken, rfl⟩
      · simp [sectionLeft, there, Pool.start_old there added, PoolEvent.isTurn]
      · by_cases own : self = holder
        · subst own
          rw [there] at present
          cases present
          have fewer := (stepSending_role taken).sectionLeft inside
          simp only [sectionLeft, there, Pool.update_self there, PoolEvent.isTurn, decide_true,
            if_true]
          omega
        · have kept := (Pool.update_other middle (Ne.symm own) shared moved).trans there
          simp [sectionLeft, there, kept, PoolEvent.isTurn, own])
  have most : sectionLeft holder pool ≤ 6 := by
    simp only [sectionLeft]
    split
    · exact Role.sectionLeft_le _
    · exact Nat.zero_le 6
  rw [turns]
  omega

end Rdpulse.Path
