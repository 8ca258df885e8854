import Rdpulse.Path.Effects

namespace Rdpulse.Path

open Foundation

/-! # The receiver follows the selected path

`ReceiveUDP` reads `udpPath` once and then blocks accordingly. Whoever selects a
direct path afterwards can wake it through `pathChanged` only, and only if the
receiver is waiting there or about to look again. -/

def NotifyPending (pool : ManagerPool) : Prop :=
  ∃ res isLAN, Thread.setDirectUDP res isLAN .notify ∈ pool.threads

def WillWake (pool : ManagerPool) (waiter : Nat) : Prop :=
  NotifyPending pool ∨ pool.shared.waiterClosed waiter = true

/-- On an open manager whose UDP path is direct, no receiver is blocked where
neither a direct datagram nor the change of path wakes it. -/
def ReceiverFollows (pool : ManagerPool) : Prop :=
  pool.shared.isOpen = true → pool.shared.udpPath.isDirectUDP = true →
    Thread.receiveUDP .relayReceive ∉ pool.threads ∧
      Thread.receiveUDP .disabled ∉ pool.threads ∧
      ∀ waiter, Thread.receiveUDP (.wait waiter) ∈ pool.threads → WillWake pool waiter

/-- `SetDirectUDP` does not store while a receiver has gone to the relay or to
the bare `ctx.Done()`, and, where there is no relay transport, does not close
`pathChanged` while a receiver that read the old path has yet to register. -/
def NoReceiverPassedBy (pool : ManagerPool) : PoolEvent Thread Choice → Prop
  | .spawn _ => True
  | .advance self _ =>
      match pool.threads[self]? with
      | some (.setDirectUDP _ _ .store) =>
          pool.shared.isOpen = true →
            Thread.receiveUDP .relayReceive ∉ pool.threads ∧
              Thread.receiveUDP .disabled ∉ pool.threads
      | some (.setDirectUDP _ _ .notify) =>
          pool.shared.isOpen = true → pool.shared.relayTransport = none →
            Thread.receiveUDP .register ∉ pool.threads
      | _ => True

instance (pool : ManagerPool) (event : PoolEvent Thread Choice) :
    Decidable (NoReceiverPassedBy pool event) := by
  unfold NoReceiverPassedBy
  repeat (first | infer_instance | split)

/-! ## Waking -/

def ChannelsMade (manager : Manager) : Prop :=
  ∀ waiter, manager.pathChanged = some waiter → waiter < manager.waitersMade

theorem ChannelsMade.step {manager moved : Manager} (made : ChannelsMade manager)
    (channel : ChannelStep manager moved) : ChannelsMade moved := by
  intro waiter current
  rcases channel with ⟨same, count⟩ | ⟨closed, _⟩ | ⟨fresh, count⟩
  · rw [count]
    exact made waiter (same ▸ current)
  · simp [closed] at current
  · rw [fresh] at current
    cases current
    omega

theorem ChannelStep.made_le {manager moved : Manager} (channel : ChannelStep manager moved) :
    manager.waitersMade ≤ moved.waitersMade := by
  rcases channel with ⟨_, count⟩ | ⟨_, count⟩ | ⟨_, count⟩ <;> omega

theorem ChannelStep.waiterClosed {manager moved : Manager}
    (channel : ChannelStep manager moved) {waiter : Nat}
    (closed : manager.waiterClosed waiter = true) : moved.waiterClosed waiter = true := by
  simp only [Manager.waiterClosed, Bool.and_eq_true, decide_eq_true_eq, bne_iff_ne] at closed ⊢
  rcases channel with ⟨same, count⟩ | ⟨gone, count⟩ | ⟨fresh, count⟩
  · rw [same, count]
    exact closed
  · rw [gone, count]
    exact ⟨closed.1, by simp⟩
  · rw [fresh, count]
    refine ⟨by omega, fun equal => ?_⟩
    have := Option.some.inj equal
    omega

theorem pathWaiter_made {manager : Manager} (made : ChannelsMade manager) :
    manager.pathWaiter.2 < manager.pathWaiter.1.waitersMade := by
  rcases manager.pathWaiter_cases with ⟨waiter, current, equal⟩ | ⟨_, equal⟩
  · rw [equal]
    exact made waiter current
  · rw [equal]
    exact Nat.lt_succ_self _

theorem notify_waiterClosed {manager : Manager} {waiter : Nat}
    (made : waiter < manager.waitersMade) :
    manager.notifyPathChanged.waiterClosed waiter = true := by
  simp [Manager.waiterClosed, Manager.notifyPathChanged, made]

theorem step_notify {self : Nat} {manager moved : Manager} {res : Option PunchResult}
    {isLAN : Bool} {choice : Choice} {next : Thread}
    (taken : step self manager (.setDirectUDP res isLAN .notify) choice = some (moved, next)) :
    moved = manager.notifyPathChanged := by
  simp only [step, stepSetDirectUDP, Option.map_some, Option.some.injEq, Prod.mk.injEq] at taken
  exact taken.1.symm

/-- UDP becomes direct only by a store that is still to be announced. -/
theorem direct_before_or_pending {self : Nat} {manager moved : Manager}
    {thread next : Thread} {choice : Choice}
    (taken : step self manager thread choice = some (moved, next))
    (direct : moved.udpPath.isDirectUDP = true) :
    manager.udpPath.isDirectUDP = true ∨
      ∃ res isLAN, thread = .setDirectUDP res isLAN .store ∧
        next = .setDirectUDP res isLAN .notify := by
  rcases step_udpPath taken with kept | ⟨res, isLAN, rfl, _⟩ | ⟨_, stored⟩
  · exact .inl (kept ▸ direct)
  · cases taken
    exact .inr ⟨res, isLAN, rfl, rfl⟩
  · simp [stored, relayOrDisabled_isDirectUDP] at direct

section PoolSteps

variable {pool : ManagerPool} {self : Nat} {thread next : Thread} {choice : Choice}
  {shared : Manager}

theorem notifyPending_step (present : pool.threads[self]? = some thread)
    (pending : NotifyPending pool) :
    NotifyPending (pool.update self shared next) ∨
      ∃ res isLAN, thread = .setDirectUDP res isLAN .notify := by
  rcases pending with ⟨res, isLAN, member⟩
  rcases List.getElem_of_mem member with ⟨other, bound, equal⟩
  have found : pool.threads[other]? = some (.setDirectUDP res isLAN .notify) := by
    rw [List.getElem?_eq_getElem bound, equal]
  by_cases same : other = self
  · subst same
    rw [present] at found
    exact .inr ⟨res, isLAN, Option.some.inj found⟩
  · rw [← Pool.update_other pool same shared next] at found
    exact .inl ⟨res, isLAN, Pool.mem_of_getElem? found⟩

theorem notifyPending_self {res : Option PunchResult} {isLAN : Bool}
    (present : pool.threads[self]? = some thread) :
    NotifyPending (pool.update self shared (.setDirectUDP res isLAN .notify)) :=
  ⟨res, isLAN, Pool.mem_of_getElem? (Pool.update_self present _ _)⟩

theorem willWake_step (present : pool.threads[self]? = some thread)
    (taken : step self pool.shared thread choice = some (shared, next)) {waiter : Nat}
    (made : waiter < pool.shared.waitersMade)
    (expected : pool.shared.udpPath.isDirectUDP = true → WillWake pool waiter)
    (direct : shared.udpPath.isDirectUDP = true) :
    WillWake (pool.update self shared next) waiter := by
  rcases direct_before_or_pending taken direct with before | ⟨res, isLAN, rfl, rfl⟩
  · rcases expected before with pending | closed
    · rcases notifyPending_step present pending with still | ⟨res, isLAN, rfl⟩
      · exact .inl still
      · refine .inr ?_
        rw [Pool.update_shared, step_notify taken]
        exact notify_waiterClosed made
    · exact .inr ((step_commonStep taken).channel.waiterClosed closed)
  · exact .inl (notifyPending_self present)

end PoolSteps

/-! ## The receiver's outline -/

def ReceiverKnown (pool : ManagerPool) : Thread → Prop
  | .receiveUDP .relayReceive | .receiveUDP .disabled =>
      pool.shared.isOpen = true → pool.shared.udpPath.isDirectUDP = false
  | .receiveUDP .register =>
      pool.shared.isOpen = true → pool.shared.relayTransport = none →
        pool.shared.udpPath.isDirectUDP = true → NotifyPending pool
  | .receiveUDP (.recheck waiter) =>
      waiter < pool.shared.waitersMade ∧
        (pool.shared.isOpen = true → pool.shared.relayTransport = none →
          pool.shared.udpPath.isDirectUDP = true → WillWake pool waiter)
  | .receiveUDP (.wait waiter) =>
      waiter < pool.shared.waitersMade ∧
        (pool.shared.isOpen = true →
          pool.shared.udpPath.isDirectUDP = true → WillWake pool waiter)
  | _ => True

def receiverOutline : Program.Outline Manager Thread where
  global pool := ChannelsMade pool.shared
  assertion _ pool thread := ReceiverKnown pool thread

theorem receiverKnown_entry (pool : ManagerPool) {thread : Thread}
    (enters : entry thread = true) : ReceiverKnown pool thread := by
  cases thread with
  | receiveUDP point =>
      simp only [entry, decide_eq_true_eq] at enters
      subst enters
      trivial
  | _ => trivial

theorem notifyPending_start {pool : ManagerPool} (added : Thread)
    (pending : NotifyPending pool) : NotifyPending (pool.start added) := by
  rcases pending with ⟨res, isLAN, member⟩
  exact ⟨res, isLAN, List.mem_append_left _ member⟩

theorem willWake_start {pool : ManagerPool} (added : Thread) {waiter : Nat}
    (wakes : WillWake pool waiter) : WillWake (pool.start added) waiter :=
  wakes.imp (notifyPending_start added) id

theorem receiverKnown_start {pool : ManagerPool} (added : Thread) {bystander : Thread}
    (known : ReceiverKnown pool bystander) : ReceiverKnown (pool.start added) bystander := by
  unfold ReceiverKnown at known ⊢
  split
  · exact known
  · exact known
  · exact fun opened absent direct => notifyPending_start added (known opened absent direct)
  · exact ⟨known.1, fun opened absent direct =>
      willWake_start added (known.2 opened absent direct)⟩
  · exact ⟨known.1, fun opened direct => willWake_start added (known.2 opened direct)⟩
  · trivial

theorem receiverKnown_own {pool : ManagerPool} {self : Nat} {point next : ReceiveUDPPoint}
    {choice : Choice} {shared : Manager} (made : ChannelsMade pool.shared)
    (present : pool.threads[self]? = some (.receiveUDP point))
    (known : ReceiverKnown pool (.receiveUDP point))
    (received : stepReceiveUDP self pool.shared choice point = some (shared, next)) :
    ReceiverKnown (pool.update self shared (.receiveUDP next)) (.receiveUDP next) := by
  have taken : step self pool.shared (.receiveUDP point) choice =
      some (shared, .receiveUDP next) := by simp [step, received]
  have common := step_commonStep taken
  cases point with
  | loadPath =>
      simp only [stepReceiveUDP] at received
      split at received
      all_goals rename_i path
      · cases received
        trivial
      · cases received
        trivial
      · split at received
        · cases received
          intro _ _ direct
          simp [path, PathType.isDirectUDP] at direct
        · cases received
          intro _
          simp [path, PathType.isDirectUDP]
      · cases received
        intro _
        simp [path, PathType.isDirectUDP]
      · cases received
        intro _ _ direct
        simp [path, PathType.isDirectUDP] at direct
      · cases received
        intro _ _ direct
        simp [path, PathType.isDirectUDP] at direct
  | register =>
      simp only [stepReceiveUDP, Option.some.injEq, Prod.mk.injEq] at received
      rcases received with ⟨rfl, rfl⟩
      refine ⟨pathWaiter_made made, fun opened absent direct => ?_⟩
      have before := known (common.isOpen opened) (common.relayTransport ▸ absent)
        (pool.shared.pathWaiter_frame.2.2.1 ▸ direct)
      exact .inl ((notifyPending_step present before).resolve_right (by simp))
  | recheck waiter =>
      simp only [stepReceiveUDP] at received
      split at received
      · cases received
        trivial
      · rename_i undecided
        cases received
        refine ⟨known.1, fun opened direct => ?_⟩
        have absent : pool.shared.relayTransport = none := by
          cases present : pool.shared.relayTransport with
          | none => rfl
          | some transport =>
              refine absurd ⟨?_, by simp [present]⟩ undecided
              intro unset
              simp [unset, PathType.isDirectUDP] at direct
        exact willWake_step present taken known.1 (known.2 opened absent) direct
  | fallback inner =>
      simp only [stepReceiveUDP, Option.map_eq_some_iff] at received
      rcases received with ⟨⟨_, after⟩, _, equal⟩
      cases equal
      cases after <;> trivial
  | _ =>
      have elsewhere : next = .selectDone ∨ next = .loadPath ∨ next = .readPunch ∨
          next = .fallback .lock ∨ next = .directReceive ∨ next = .stopped := by
        cases choice <;> grind [stepReceiveUDP]
      rcases elsewhere with rfl | rfl | rfl | rfl | rfl | rfl <;> trivial

theorem receiverKnown_other {pool : ManagerPool} {self other : Nat} {thread next bystander : Thread}
    {choice : Choice} {shared : Manager}
    (present : pool.threads[self]? = some thread)
    (found : pool.threads[other]? = some bystander)
    (permitted : NoReceiverPassedBy pool (.advance self choice))
    (taken : step self pool.shared thread choice = some (shared, next))
    (known : ReceiverKnown pool bystander) :
    ReceiverKnown (pool.update self shared next) bystander := by
  have common := step_commonStep taken
  simp only [NoReceiverPassedBy, present] at permitted
  have stillIndirect : (pool.shared.isOpen = true → pool.shared.udpPath.isDirectUDP = false) →
      bystander = .receiveUDP .relayReceive ∨ bystander = .receiveUDP .disabled →
      shared.isOpen = true → shared.udpPath.isDirectUDP = false := by
    intro indirect blocked opened
    by_contra direct
    have openedBefore := common.isOpen opened
    rcases direct_before_or_pending taken (by simpa using direct) with
      before | ⟨res, isLAN, rfl, rfl⟩
    · simp [indirect openedBefore] at before
    · have clear := permitted openedBefore
      rcases blocked with rfl | rfl
      · exact clear.1 (Pool.mem_of_getElem? found)
      · exact clear.2 (Pool.mem_of_getElem? found)
  unfold ReceiverKnown at known ⊢
  split
  · exact stillIndirect known (.inl rfl)
  · exact stillIndirect known (.inr rfl)
  · intro opened absent direct
    have openedBefore := common.isOpen opened
    have absentBefore : pool.shared.relayTransport = none := common.relayTransport ▸ absent
    rcases direct_before_or_pending taken direct with before | ⟨res, isLAN, rfl, rfl⟩
    · rcases notifyPending_step present (known openedBefore absentBefore before) with
        still | ⟨res, isLAN, rfl⟩
      · exact still
      · exact absurd (Pool.mem_of_getElem? found) (permitted openedBefore absentBefore)
    · exact notifyPending_self present
  · refine ⟨Nat.lt_of_lt_of_le known.1 common.channel.made_le, fun opened absent direct => ?_⟩
    exact willWake_step present taken known.1
      (known.2 (common.isOpen opened) (common.relayTransport ▸ absent)) direct
  · refine ⟨Nat.lt_of_lt_of_le known.1 common.channel.made_le, fun opened direct => ?_⟩
    exact willWake_step present taken known.1 (known.2 (common.isOpen opened)) direct
  · trivial

theorem receiverOutline_valid : receiverOutline.Valid program NoReceiverPassedBy where
  started pool thread holds enters _ :=
    ⟨holds.global, receiverKnown_entry _ enters⟩
  undisturbedByStart pool thread other bystander holds _ _ found :=
    receiverKnown_start thread (holds.thread other bystander found)
  sequential pool self thread choice shared next holds present permitted taken := by
    refine ⟨holds.global.step (step_commonStep taken).channel, ?_⟩
    have known : ReceiverKnown pool thread := holds.thread self thread present
    cases thread with
    | receiveUDP point =>
        rcases step_receiveUDP taken with ⟨after, received, rfl⟩
        exact receiverKnown_own holds.global present known received
    | cancelContext cancelled =>
        cases cancelled
        · cases taken
          trivial
        · cases taken
    | _ =>
        simp only [program, step, Option.map_eq_some_iff] at taken
        rcases taken with ⟨after, _, equal⟩
        cases equal
        trivial
  interferenceFree pool self thread choice shared next other bystander holds present
      permitted taken _ found :=
    receiverKnown_other present found permitted taken (holds.thread other bystander found)

/-- The receiver follows every selection that does not pass it by. -/
theorem receiver_follows (relayTransport : Option RelayTransport) (p2pCodec : Bool)
    (events : List (PoolEvent Thread Choice)) (pool : ManagerPool)
    (run : program.machine.Run NoReceiverPassedBy
      (initialPool relayTransport p2pCodec) events pool) : ReceiverFollows pool := by
  have holds : receiverOutline.Holds pool := by
    refine receiverOutline_valid.run ⟨?_, ?_⟩ run
    · intro waiter current
      cases current
    · intro self thread present
      simp [initialPool] at present
  have known : ∀ thread ∈ pool.threads, ReceiverKnown pool thread := by
    intro thread member
    rcases List.getElem_of_mem member with ⟨self, bound, rfl⟩
    exact holds.thread self _ (List.getElem?_eq_getElem bound)
  intro opened direct
  refine ⟨fun member => ?_, fun member => ?_, fun waiter member => ?_⟩
  · have indirect : pool.shared.udpPath.isDirectUDP = false := known _ member opened
    simp [direct] at indirect
  · have indirect : pool.shared.udpPath.isDirectUDP = false := known _ member opened
    simp [direct] at indirect
  · exact (known _ member).2 opened direct

/-- The receiver is up when the UDP punch succeeds, before any path is selected. -/
def receiveThenPunch : List (PoolEvent Thread Choice) :=
  .spawn (.receiveUDP .selectDone) :: List.replicate 4 (.advance 0 .proceed) ++
    .spawn (.setDirectUDP (some ⟨1, true⟩) false .loadClosed) ::
      List.replicate 5 (.advance 1 .proceed)

theorem receiver_follows_first_punch :
    ∃ pool, Thread.receiveUDP (.wait 0) ∈ pool.threads ∧
      pool.shared.udpPath = .directUDP ∧ ReceiverFollows pool := by
  rcases Machine.exists_run program.machine NoReceiverPassedBy
      (fun pool => Thread.receiveUDP (.wait 0) ∈ pool.threads ∧ pool.shared.udpPath = .directUDP)
      (initialPool (some ⟨true⟩) true) receiveThenPunch (by decide) with
    ⟨pool, run, parked, direct⟩
  exact ⟨pool, parked, direct, receiver_follows _ _ _ _ run⟩

/-- The relay is selected, the receiver goes to it, and the punch succeeds. -/
def relayThenPunch : List (PoolEvent Thread Choice) :=
  .spawn (.setQUICRelay .lock) :: List.replicate 7 (.advance 0 .proceed) ++
    .spawn (.receiveUDP .selectDone) :: List.replicate 2 (.advance 1 .proceed) ++
      .spawn (.setDirectUDP (some ⟨1, true⟩) false .loadClosed) ::
        List.replicate 7 (.advance 2 .proceed)

/-- The receiver reads the unselected path, and the whole of `SetDirectUDP`
runs before it registers. -/
def punchBeforeRegister : List (PoolEvent Thread Choice) :=
  .spawn (.receiveUDP .selectDone) :: List.replicate 2 (.advance 0 .proceed) ++
    .spawn (.setDirectUDP (some ⟨1, true⟩) false .loadClosed) ::
      List.replicate 7 (.advance 1 .proceed) ++ List.replicate 2 (.advance 0 .proceed)

/-- A run from a new manager after which the receiver misses a direct path. -/
def Misses (relayTransport : Option RelayTransport) : Prop :=
  ∃ events pool, program.machine.Run Machine.Unrestricted
    (initialPool relayTransport true) events pool ∧ ¬ ReceiverFollows pool

/-- With a datagram relay, with a relay without datagrams, and without a relay. -/
theorem receiver_misses_upgrade :
    Misses (some ⟨true⟩) ∧ Misses (some ⟨false⟩) ∧ Misses none := by
  refine ⟨?_, ?_, ?_⟩
  · rcases Machine.exists_run program.machine Machine.Unrestricted
        (fun pool => pool.shared.isOpen = true ∧ pool.shared.udpPath.isDirectUDP = true ∧
          Thread.receiveUDP .relayReceive ∈ pool.threads)
        (initialPool (some ⟨true⟩) true) relayThenPunch
        (by decide) with
      ⟨pool, run, opened, direct, blocked⟩
    exact ⟨_, pool, run, fun follows => (follows opened direct).1 blocked⟩
  · rcases Machine.exists_run program.machine Machine.Unrestricted
        (fun pool => pool.shared.isOpen = true ∧ pool.shared.udpPath.isDirectUDP = true ∧
          Thread.receiveUDP .disabled ∈ pool.threads)
        (initialPool (some ⟨false⟩) true) relayThenPunch
        (by decide) with
      ⟨pool, run, opened, direct, blocked⟩
    exact ⟨_, pool, run, fun follows => (follows opened direct).2.1 blocked⟩
  · rcases Machine.exists_run program.machine Machine.Unrestricted
        (fun pool => pool.shared.isOpen = true ∧ pool.shared.udpPath.isDirectUDP = true ∧
          Thread.receiveUDP (.wait 0) ∈ pool.threads ∧
          pool.shared.waiterClosed 0 = false ∧
        ∀ thread ∈ pool.threads, ¬ thread matches .setDirectUDP _ _ .notify)
        (initialPool none true) punchBeforeRegister
        (by decide) with
      ⟨pool, run, opened, direct, blocked, asleep, silent⟩
    refine ⟨_, pool, run, fun follows => ?_⟩
    rcases (follows opened direct).2.2 0 blocked with ⟨res, isLAN, pending⟩ | closed
    · exact silent _ pending rfl
    · simp [asleep] at closed

end Rdpulse.Path
