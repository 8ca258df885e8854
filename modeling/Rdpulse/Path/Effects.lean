import Rdpulse.Foundation.Locks
import Rdpulse.Path.Manager

namespace Rdpulse.Path

open Foundation

/-! What one atomic action can do to each shared field, and the mutual
exclusion that follows. Later proofs use these lemmas and never unfold `step`. -/

def FallbackPoint.holdsLock : FallbackPoint → Bool
  | .load | .closePunch | .store | .notify | .unlock => true
  | .lock | .returned => false

def Thread.holdsLock : Thread → Bool
  | .setDirectUDP _ _ point =>
      match point with
      | .recheckClosed | .install | .store | .notify | .unlock => true
      | .loadClosed | .lock | .returned => false
  | .fallbackUDPFromDirect point => point.holdsLock
  | .setQUICRelay point =>
      match point with
      | .lock | .returned => false
      | _ => true
  | .close point =>
      match point with
      | .closePunch | .unlock => true
      | _ => false
  | .receiveUDP point =>
      match point with
      | .fallback inner => inner.holdsLock
      | _ => false
  | .setDirectTCP _ _ | .cancelContext _ => false

def Thread.storesFallback : Thread → Bool
  | .fallbackUDPFromDirect .store => true
  | .receiveUDP (.fallback .store) => true
  | _ => false

/-! ## One action on each field -/

namespace Manager

theorem pathWaiter_cases (manager : Manager) :
    (∃ waiter, manager.pathChanged = some waiter ∧ manager.pathWaiter = (manager, waiter)) ∨
      (manager.pathChanged = none ∧
        manager.pathWaiter =
          ({ manager with
              pathChanged := some manager.waitersMade
              waitersMade := manager.waitersMade + 1 }, manager.waitersMade)) := by
  unfold pathWaiter
  cases manager.pathChanged with
  | none => exact .inr ⟨rfl, rfl⟩
  | some waiter => exact .inl ⟨waiter, rfl, rfl⟩

theorem pathWaiter_frame (manager : Manager) :
    (manager.pathWaiter.1).mu = manager.mu ∧
      (manager.pathWaiter.1).tcpPath = manager.tcpPath ∧
      (manager.pathWaiter.1).udpPath = manager.udpPath ∧
      (manager.pathWaiter.1).closed = manager.closed ∧
      (manager.pathWaiter.1).relayTransport = manager.relayTransport := by
  rcases manager.pathWaiter_cases with ⟨waiter, _, equal⟩ | ⟨_, equal⟩ <;> simp [equal]

end Manager

@[simp] theorem resumeReceive_holdsLock (point : FallbackPoint) :
    (Thread.receiveUDP (resumeReceive point)).holdsLock = point.holdsLock := by
  cases point <;> rfl

theorem stepReceiveUDP_cases {self : Nat} {manager moved : Manager} {choice : Choice}
    {point next : ReceiveUDPPoint}
    (taken : stepReceiveUDP self manager choice point = some (moved, next)) :
    (∃ inner after, point = .fallback inner ∧
      stepFallback self manager inner = some (moved, after) ∧ next = resumeReceive after) ∨
    (point = .register ∧ moved = manager.pathWaiter.1 ∧
      next = .recheck manager.pathWaiter.2) ∨
    (moved = manager ∧ (Thread.receiveUDP point).holdsLock = false ∧
      (Thread.receiveUDP next).holdsLock = false) := by
  cases point with
  | fallback inner =>
      simp only [stepReceiveUDP, Option.map_eq_some_iff] at taken
      rcases taken with ⟨⟨shared, after⟩, nested, equal⟩
      cases equal
      exact .inl ⟨inner, after, rfl, nested, rfl⟩
  | register =>
      cases taken
      exact .inr (.inl ⟨rfl, rfl, rfl⟩)
  | _ =>
      refine .inr (.inr ?_)
      cases choice <;>
        grind [stepReceiveUDP, Thread.holdsLock, FallbackPoint.holdsLock]

theorem step_receiveUDP {self : Nat} {manager moved : Manager} {choice : Choice}
    {point : ReceiveUDPPoint} {next : Thread}
    (taken : step self manager (.receiveUDP point) choice = some (moved, next)) :
    ∃ after, stepReceiveUDP self manager choice point = some (moved, after) ∧
      next = .receiveUDP after := by
  simp only [step, Option.map_eq_some_iff] at taken
  rcases taken with ⟨⟨shared, after⟩, inner, equal⟩
  cases equal
  exact ⟨after, inner, rfl⟩

theorem step_fallbackUDPFromDirect {self : Nat} {manager moved : Manager} {choice : Choice}
    {point : FallbackPoint} {next : Thread}
    (taken : step self manager (.fallbackUDPFromDirect point) choice = some (moved, next)) :
    ∃ after, stepFallback self manager point = some (moved, after) ∧
      next = .fallbackUDPFromDirect after := by
  simp only [step, Option.map_eq_some_iff] at taken
  rcases taken with ⟨⟨shared, after⟩, inner, equal⟩
  cases equal
  exact ⟨after, inner, rfl⟩

/-! ### The mutex -/

theorem stepFallback_mu {self : Nat} {manager moved : Manager}
    {point next : FallbackPoint}
    (taken : stepFallback self manager point = some (moved, next)) :
    (moved.mu = manager.mu ∧ next.holdsLock = point.holdsLock) ∨
      (manager.mu = none ∧ moved.mu = some self ∧ point.holdsLock = false) ∨
      (point.holdsLock = true ∧ next.holdsLock = false) := by
  cases point <;>
    grind [stepFallback, Manager.lock, Manager.unlock, Manager.closePunch,
      Manager.notifyPathChanged, FallbackPoint.holdsLock]

theorem step_mu {self : Nat} {manager moved : Manager} {thread next : Thread}
    {choice : Choice} (taken : step self manager thread choice = some (moved, next)) :
    (moved.mu = manager.mu ∧ next.holdsLock = thread.holdsLock) ∨
      (manager.mu = none ∧ moved.mu = some self ∧ thread.holdsLock = false) ∨
      (thread.holdsLock = true ∧ next.holdsLock = false) := by
  cases thread with
  | setDirectUDP res isLAN point =>
      cases point <;>
        grind [step, stepSetDirectUDP, Manager.lock, Manager.unlock, Manager.closePunch,
          Manager.notifyPathChanged, Thread.holdsLock]
  | setDirectTCP isLAN point =>
      cases point <;>
        grind [step, stepSetDirectTCP, Manager.notifyPathChanged, Thread.holdsLock]
  | fallbackUDPFromDirect point =>
      rcases step_fallbackUDPFromDirect taken with ⟨after, inner, rfl⟩
      exact stepFallback_mu inner
  | setQUICRelay point =>
      cases point <;>
        grind [step, stepSetQUICRelay, Manager.lock, Manager.unlock,
          Manager.notifyPathChanged, Thread.holdsLock]
  | close point =>
      cases point <;>
        grind [step, stepClose, Manager.lock, Manager.unlock, Manager.closePunch,
          Thread.holdsLock]
  | receiveUDP point =>
      rcases step_receiveUDP taken with ⟨after, received, rfl⟩
      rcases stepReceiveUDP_cases received with
        ⟨inner, resumed, rfl, nested, rfl⟩ | ⟨rfl, rfl, rfl⟩ | ⟨rfl, before, later⟩
      · rw [resumeReceive_holdsLock]
        exact stepFallback_mu nested
      · exact .inl ⟨manager.pathWaiter_frame.1, rfl⟩
      · exact .inl ⟨rfl, later.trans before.symm⟩
  | cancelContext cancelled => cases cancelled <;> grind [step, Thread.holdsLock]

def mutexOutline : Program.Outline Manager Thread where
  global _ := True
  assertion self pool thread := thread.holdsLock = true → pool.shared.mu = some self

theorem entry_holdsLock {thread : Thread} (enters : entry thread = true) :
    thread.holdsLock = false := by
  cases thread <;> grind [entry, Thread.holdsLock, FallbackPoint.holdsLock]

def mutex : Lock Manager Thread where
  holder := Manager.mu
  inside := Thread.holdsLock

theorem mutex_respected : mutex.Respected program where
  entry _ := entry_holdsLock
  step _ _ _ _ _ _ := step_mu

theorem mutexOutline_valid (allowed : ManagerPool → PoolEvent Thread Choice → Prop) :
    mutexOutline.Valid program allowed :=
  mutex_respected.outline_valid allowed

theorem mutexOutline_initial (relayTransport : Option RelayTransport) (p2pCodec : Bool) :
    mutexOutline.Holds (initialPool relayTransport p2pCodec) :=
  mutex.outline_initial rfl

/-! ### The path fields -/

theorem stepFallback_tcpPath {self : Nat} {manager moved : Manager}
    {point next : FallbackPoint}
    (taken : stepFallback self manager point = some (moved, next)) :
    moved.tcpPath = manager.tcpPath := by
  cases point <;>
    grind [stepFallback, Manager.lock, Manager.unlock, Manager.closePunch,
      Manager.notifyPathChanged]

/-- `tcpPath` is written by `SetDirectTCP` and by the guarded store of
`SetQUICRelay`, and by nothing else. -/
theorem step_tcpPath {self : Nat} {manager moved : Manager} {thread next : Thread}
    {choice : Choice} (taken : step self manager thread choice = some (moved, next)) :
    moved.tcpPath = manager.tcpPath ∨
      (∃ isLAN, thread = .setDirectTCP isLAN .store ∧ moved.tcpPath.isDirectTCP = true) ∨
      thread = .setQUICRelay .storeTCP := by
  cases thread with
  | setDirectUDP res isLAN point =>
      cases point <;>
        grind [step, stepSetDirectUDP, Manager.lock, Manager.unlock, Manager.closePunch,
          Manager.notifyPathChanged]
  | setDirectTCP isLAN point =>
      cases point <;>
        grind [step, stepSetDirectTCP, Manager.notifyPathChanged, PathType.isDirectTCP]
  | fallbackUDPFromDirect point =>
      rcases step_fallbackUDPFromDirect taken with ⟨after, inner, rfl⟩
      exact .inl (stepFallback_tcpPath inner)
  | setQUICRelay point =>
      cases point <;>
        grind [step, stepSetQUICRelay, Manager.lock, Manager.unlock,
          Manager.notifyPathChanged]
  | close point =>
      cases point <;>
        grind [step, stepClose, Manager.lock, Manager.unlock, Manager.closePunch]
  | receiveUDP point =>
      rcases step_receiveUDP taken with ⟨after, received, rfl⟩
      rcases stepReceiveUDP_cases received with
        ⟨inner, resumed, rfl, nested, rfl⟩ | ⟨rfl, rfl, rfl⟩ | ⟨rfl, _, _⟩
      · exact .inl (stepFallback_tcpPath nested)
      · exact .inl manager.pathWaiter_frame.2.1
      · exact .inl rfl
  | cancelContext cancelled => cases cancelled <;> grind [step]

theorem relayOrDisabled_isDirectUDP (manager : Manager) :
    manager.relayOrDisabled.isDirectUDP = false := by
  unfold Manager.relayOrDisabled
  split <;> rfl

theorem stepFallback_udpPath {self : Nat} {manager moved : Manager}
    {point next : FallbackPoint}
    (taken : stepFallback self manager point = some (moved, next)) :
    moved.udpPath = manager.udpPath ∨
      point = .store ∧ moved.udpPath = manager.relayOrDisabled := by
  cases point <;>
    grind [stepFallback, Manager.lock, Manager.unlock, Manager.closePunch,
      Manager.notifyPathChanged]

/-- `udpPath` is written by `SetDirectUDP`, by the guarded store of
`SetQUICRelay`, and by `FallbackUDPFromDirect`. -/
theorem step_udpPath {self : Nat} {manager moved : Manager} {thread next : Thread}
    {choice : Choice} (taken : step self manager thread choice = some (moved, next)) :
    moved.udpPath = manager.udpPath ∨
      (∃ res isLAN, thread = .setDirectUDP res isLAN .store ∧
        moved.udpPath.isDirectUDP = true) ∨
      (thread = .setQUICRelay .storeUDP ∨ thread.storesFallback = true) ∧
        moved.udpPath = manager.relayOrDisabled := by
  cases thread with
  | setDirectUDP res isLAN point =>
      cases point <;>
        grind [step, stepSetDirectUDP, Manager.lock, Manager.unlock, Manager.closePunch,
          Manager.notifyPathChanged, PathType.isDirectUDP]
  | setDirectTCP isLAN point =>
      cases point <;> grind [step, stepSetDirectTCP, Manager.notifyPathChanged]
  | fallbackUDPFromDirect point =>
      rcases step_fallbackUDPFromDirect taken with ⟨after, inner, rfl⟩
      rcases stepFallback_udpPath inner with kept | ⟨rfl, stored⟩
      · exact .inl kept
      · exact .inr (.inr ⟨.inr rfl, stored⟩)
  | setQUICRelay point =>
      cases point <;>
        grind [step, stepSetQUICRelay, Manager.lock, Manager.unlock,
          Manager.notifyPathChanged]
  | close point =>
      cases point <;>
        grind [step, stepClose, Manager.lock, Manager.unlock, Manager.closePunch]
  | receiveUDP point =>
      rcases step_receiveUDP taken with ⟨after, received, rfl⟩
      rcases stepReceiveUDP_cases received with
        ⟨inner, resumed, rfl, nested, rfl⟩ | ⟨rfl, rfl, rfl⟩ | ⟨rfl, _, _⟩
      · rcases stepFallback_udpPath nested with kept | ⟨rfl, stored⟩
        · exact .inl kept
        · exact .inr (.inr ⟨.inr rfl, stored⟩)
      · exact .inl manager.pathWaiter_frame.2.2.1
      · exact .inl rfl
  | cancelContext cancelled => cases cancelled <;> grind [step]

theorem stepFallback_closed {self : Nat} {manager moved : Manager}
    {point next : FallbackPoint}
    (taken : stepFallback self manager point = some (moved, next)) :
    moved.closed = manager.closed := by
  cases point <;>
    grind [stepFallback, Manager.lock, Manager.unlock, Manager.closePunch,
      Manager.notifyPathChanged]

theorem step_closed {self : Nat} {manager moved : Manager} {thread next : Thread}
    {choice : Choice} (taken : step self manager thread choice = some (moved, next))
    (closed : manager.closed = true) : moved.closed = true := by
  cases thread with
  | setDirectUDP res isLAN point =>
      cases point <;>
        grind [step, stepSetDirectUDP, Manager.lock, Manager.unlock, Manager.closePunch,
          Manager.notifyPathChanged]
  | setDirectTCP isLAN point =>
      cases point <;> grind [step, stepSetDirectTCP, Manager.notifyPathChanged]
  | fallbackUDPFromDirect point =>
      rcases step_fallbackUDPFromDirect taken with ⟨after, inner, rfl⟩
      exact (stepFallback_closed inner).trans closed
  | setQUICRelay point =>
      cases point <;>
        grind [step, stepSetQUICRelay, Manager.lock, Manager.unlock,
          Manager.notifyPathChanged]
  | close point =>
      cases point <;>
        grind [step, stepClose, Manager.lock, Manager.unlock, Manager.closePunch]
  | receiveUDP point =>
      rcases step_receiveUDP taken with ⟨after, received, rfl⟩
      rcases stepReceiveUDP_cases received with
        ⟨inner, resumed, rfl, nested, rfl⟩ | ⟨rfl, rfl, rfl⟩ | ⟨rfl, _, _⟩
      · exact (stepFallback_closed nested).trans closed
      · exact manager.pathWaiter_frame.2.2.2.1.trans closed
      · exact closed
  | cancelContext cancelled => cases cancelled <;> grind [step]

/-! ### The channels, the relay and the contexts -/

/-- What an action may do to the `pathChanged` channel: nothing, close it, or
make a new one where there is none. -/
def ChannelStep (manager moved : Manager) : Prop :=
  (moved.pathChanged = manager.pathChanged ∧ moved.waitersMade = manager.waitersMade) ∨
    (moved.pathChanged = none ∧ moved.waitersMade = manager.waitersMade) ∨
    (moved.pathChanged = some manager.waitersMade ∧
      moved.waitersMade = manager.waitersMade + 1)

/-- The fields that every action treats alike: the relay is fixed, nothing
reopens, and `pathChanged` changes as `ChannelStep` says. -/
structure CommonStep (manager moved : Manager) : Prop where
  relayTransport : moved.relayTransport = manager.relayTransport
  isOpen : moved.isOpen = true → manager.isOpen = true
  channel : ChannelStep manager moved

theorem commonStep_refl (manager : Manager) : CommonStep manager manager :=
  ⟨rfl, id, .inl ⟨rfl, rfl⟩⟩

theorem pathWaiter_commonStep (manager : Manager) :
    CommonStep manager manager.pathWaiter.1 := by
  rcases manager.pathWaiter_cases with ⟨waiter, _, equal⟩ | ⟨_, equal⟩
  · rw [equal]
    exact commonStep_refl manager
  · rw [equal]
    exact ⟨rfl, id, .inr (.inr ⟨rfl, rfl⟩)⟩

theorem stepFallback_commonStep {self : Nat} {manager moved : Manager}
    {point next : FallbackPoint}
    (taken : stepFallback self manager point = some (moved, next)) :
    CommonStep manager moved := by
  constructor <;> cases point <;>
    grind [stepFallback, Manager.lock, Manager.unlock, Manager.closePunch,
      Manager.notifyPathChanged, Manager.isOpen, ChannelStep]

theorem step_commonStep {self : Nat} {manager moved : Manager} {thread next : Thread}
    {choice : Choice} (taken : step self manager thread choice = some (moved, next)) :
    CommonStep manager moved := by
  cases thread with
  | setDirectUDP res isLAN point =>
      constructor <;> cases point <;>
        grind [step, stepSetDirectUDP, Manager.lock, Manager.unlock, Manager.closePunch,
          Manager.notifyPathChanged, Manager.isOpen, ChannelStep]
  | setDirectTCP isLAN point =>
      constructor <;> cases point <;>
        grind [step, stepSetDirectTCP, Manager.notifyPathChanged, Manager.isOpen, ChannelStep]
  | fallbackUDPFromDirect point =>
      rcases step_fallbackUDPFromDirect taken with ⟨after, inner, rfl⟩
      exact stepFallback_commonStep inner
  | setQUICRelay point =>
      constructor <;> cases point <;>
        grind [step, stepSetQUICRelay, Manager.lock, Manager.unlock,
          Manager.notifyPathChanged, Manager.isOpen, ChannelStep]
  | close point =>
      constructor <;> cases point <;>
        grind [step, stepClose, Manager.lock, Manager.unlock, Manager.closePunch,
          Manager.isOpen, ChannelStep]
  | receiveUDP point =>
      rcases step_receiveUDP taken with ⟨after, received, rfl⟩
      rcases stepReceiveUDP_cases received with
        ⟨inner, resumed, rfl, nested, rfl⟩ | ⟨rfl, rfl, rfl⟩ | ⟨rfl, _, _⟩
      · exact stepFallback_commonStep nested
      · exact pathWaiter_commonStep manager
      · exact commonStep_refl _
  | cancelContext cancelled =>
      constructor <;> cases cancelled <;> grind [step, Manager.isOpen, ChannelStep]

end Rdpulse.Path
