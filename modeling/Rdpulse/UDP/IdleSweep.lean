import Rdpulse.UDP.SessionRuns

namespace Rdpulse.UDP

open Foundation

/-! What a sweep removes. It judges sessions under the read lock and removes them
later, each by its id; in between any other call may refresh a session or give the id
to another. -/

inductive SweepThread
  | manager (thread : SessionThread)
  | updateActivity (sess : Nat)
  | updated
  deriving DecidableEq

/-- A session that the snapshot of a sweep contains, with what `IsExpired` read. -/
structure Judgement where
  sweep : Nat
  sess : Nat
  lastSeen : Int
  now : Int
  deriving DecidableEq, Repr

namespace SessionManager

variable (m : SessionManager)

def judgements (self : Nat) (clock : Nat → Int) : List Judgement :=
  (m.byID.entries.map Sigma.snd).zipIdx.filterMap fun (sess, turn) =>
    match m.sessions[sess]? with
    | none => none
    | some s =>
        if s.isExpired m.idleTimeout (clock turn) then
          some { sweep := self, sess, lastSeen := s.lastSeen, now := clock turn }
        else none

/-- The session that `Remove` finds under the id of a session of the snapshot. -/
def victim (sess : Nat) : Option (Nat × UDPSession) :=
  match m.sessions[sess]? with
  | none => none
  | some s =>
      match m.byID.lookup s.id with
      | none => none
      | some found => (m.sessions[found]?).map fun victim => (found, victim)

end SessionManager

def SessionThread.next? (choice : SessionChoice) : SessionThread → Option Nat
  | .next (.remove expired) => expired[choice.pick]?
  | _ => none

def judge (self : Nat) (m : SessionManager) (judged : List Judgement) (clock : Nat → Int) :
    SessionThread → List Judgement
  | .sweep => judged ++ m.judgements self clock
  | _ => judged

/-- The judgements are kept beside the manager, which does not see them. A step of
`Remove` reads no clock: there `choice.clock 0` is the moment. -/
def sweepStep (self : Nat) (state : SessionManager × List Judgement) (thread : SweepThread)
    (choice : SessionChoice) :
    Option ((SessionManager × List Judgement) × SweepThread) :=
  match thread with
  | .manager thread =>
      (SessionThread.step self state.1 thread choice).map fun (m, next) =>
        ((m, judge self state.1 state.2 choice.clock thread), .manager next)
  | .updateActivity sess =>
      some ((state.1.updateActivity sess (choice.clock 0), state.2), .updated)
  | .updated => none

def SweepThread.entry : SweepThread → Bool
  | .manager thread => thread.entry
  | .updateActivity _ => true
  | .updated => false

def sweepProgram : Program (SessionManager × List Judgement) SweepThread SessionChoice where
  entry := SweepThread.entry
  step := sweepStep

abbrev SweepPool := Pool (SessionManager × List Judgement) SweepThread

def initialSweeps (idleTimeout : Int) (limits : SessionLimits) : SweepPool where
  shared := (newSessionManagerWithLimits idleTimeout limits, [])
  threads := []

/-- When a sweep's `Remove` takes the lock the clock has not gone back since the
snapshot, and the session under the id, if there is one, is the session of the snapshot
with the `LastSeen` that the sweep has read. -/
def NotWoken (pool : SweepPool) : PoolEvent SweepThread SessionChoice → Prop
  | .advance self choice =>
      match pool.threads[self]? with
      | some (.manager thread) =>
          match thread.next? choice with
          | some sess =>
              match pool.shared.1.victim sess with
              | some (found, victim) =>
                  found = sess ∧ ∀ judgement ∈ pool.shared.2,
                    judgement.sweep = self → judgement.sess = sess →
                      victim.lastSeen = judgement.lastSeen ∧ judgement.now ≤ choice.clock 0
              | none => True
          | none => True
      | _ => True
  | _ => True

instance (pool : SweepPool) (event : PoolEvent SweepThread SessionChoice) :
    Decidable (NotWoken pool event) := by
  unfold NotWoken
  split
  · split
    · split
      · split
        · infer_instance
        · infer_instance
      · infer_instance
    · infer_instance
  · infer_instance

/-- A sweep: its snapshot and what it does after it. A `Remove` that was called by
itself comes here when it has left the table. -/
def SessionThread.sweeps : SessionThread → Bool
  | .sweep | .next (.remove _) | .swap _ (.remove _) | .finish _ (.remove _) => true
  | _ => false

/-- The session is in the snapshot of this sweep, and its last activity lies more than
the timeout before this moment. -/
def Idle (pool : SweepPool) (self sess : Nat) (moment : Int) : Prop :=
  (∃ judgement ∈ pool.shared.2, judgement.sweep = self ∧ judgement.sess = sess) ∧
    ∃ s, pool.shared.1.sessions[sess]? = some s ∧
      pool.shared.1.idleTimeout < moment - s.lastSeen

/-- Whatever a step of a sweep takes out of the table is idle. -/
def RemovesOnlyIdle (pool : SweepPool) : PoolEvent SweepThread SessionChoice → Prop
  | .advance self choice =>
      ∀ thread next, pool.threads[self]? = some (.manager thread) → thread.sweeps = true →
        sweepProgram.machine.step pool (.advance self choice) = some next →
        ∀ id sess, pool.shared.1.byID.lookup id = some sess →
          next.shared.1.byID.lookup id ≠ some sess → Idle pool self sess (choice.clock 0)
  | .spawn _ => True

/-! ## What a step does -/

variable {m m' : SessionManager} {self : Nat}

theorem judge_old (judged : List Judgement) (clock : Nat → Int) (thread : SessionThread) :
    ∀ judgement ∈ judged, judgement ∈ judge self m judged clock thread := by
  intro judgement member
  cases thread with
  | sweep => exact List.mem_append_left _ member
  | _ => exact member

theorem expired_judged {clock : Nat → Int} {sess : Nat} (taken : sess ∈ m.expired clock) :
    ∃ judgement ∈ m.judgements self clock, judgement.sweep = self ∧ judgement.sess = sess := by
  simp only [SessionManager.expired, List.mem_map, List.mem_filter] at taken
  rcases taken with ⟨⟨one, turn⟩, ⟨visited, judged⟩, rfl⟩
  cases present : m.sessions[one]? with
  | none => simp [present] at judged
  | some s =>
      simp only [present, Option.any_some] at judged
      refine ⟨⟨self, one, s.lastSeen, clock turn⟩, ?_, rfl, rfl⟩
      rw [SessionManager.judgements, List.mem_filterMap]
      exact ⟨(one, turn), visited, by simp [present, judged]⟩

theorem judgements_idle {clock : Nat → Int} {judgement : Judgement}
    (positive : 0 < m.idleTimeout) (judged : judgement ∈ m.judgements self clock) :
    m.idleTimeout < judgement.now - judgement.lastSeen := by
  rw [SessionManager.judgements, List.mem_filterMap] at judged
  rcases judged with ⟨⟨sess, turn⟩, _, found⟩
  dsimp only at found
  split at found
  · cases found
  · rename_i s present
    split at found
    · rename_i expired
      cases found
      have idle := of_decide_eq_true expired
      simp only [Clock.sub] at idle
      dsimp only
      omega
    · cases found

theorem Outcome.idleTimeout {thread next : SessionThread}
    (outcome : Outcome m thread m' next) : m'.idleTimeout = m.idleTimeout := by
  cases outcome with
  | gotByID id now =>
      simp only [SessionManager.getByID]
      split <;> rfl
  | gotByKey key now =>
      simp only [SessionManager.getByKey]
      split <;> rfl
  | gotOrCreated result =>
      rcases getOrCreateByKey_cases result with
        ⟨sess, _, _, rfl⟩ | ⟨start, count, _, rfl⟩ | ⟨start, count, id, _, rfl, _⟩ <;> rfl
  | added id conn now seen =>
      rcases addSessionWithID_cases m id conn now seen with
        ⟨sess, _, equal⟩ | ⟨start, count, equal⟩ | ⟨start, count, _, _, _, _, equal⟩ <;>
        exact (congrArg (fun result => result.2.idleTimeout) equal)
  | removed id expired caller =>
      rw [startRemove_manager]
      simp only [SessionManager.detach]
      split
      · rfl
      split <;> rfl
  | shut =>
      simp only [SessionManager.detachAll]
      split <;> rfl
  | swept _ | picked _ | swapped _ _ | finished _ _ => rfl

def Rest.expired : Rest → List Nat
  | .remove expired => expired
  | .close _ => []

def SessionThread.pending : SessionThread → List Nat
  | .next rest | .swap _ rest | .finish _ rest => rest.expired
  | _ => []

theorem pending_step {thread next : SessionThread} {choice : SessionChoice}
    (step : SessionThread.step self m thread choice = some (m', next)) {sess : Nat}
    (member : sess ∈ next.pending) :
    sess ∈ thread.pending ∨ (thread = .sweep ∧ sess ∈ m.expired choice.clock) := by
  have removes : ∀ id expired, (SessionThread.startRemove m id expired).2.pending = expired := by
    intro id expired
    simp only [SessionThread.startRemove]
    split <;> rfl
  cases thread with
  | getByID id | getByKey key | addSessionWithID id conn | close =>
      cases step
      cases member
  | getOrCreateByKey key =>
      simp only [SessionThread.step] at step
      split at step
      · cases step
      · cases step
        cases member
  | remove id =>
      have same := congrArg Prod.snd (Option.some.inj step)
      dsimp only at same
      rw [← same, removes] at member
      cases member
  | sweep =>
      cases step
      exact .inr ⟨rfl, member⟩
  | returned answer => cases step
  | next rest =>
      cases rest with
      | remove expired =>
          simp only [SessionThread.step] at step
          split at step
          · cases step
          split at step
          · cases step
          · have same := congrArg Prod.snd (Option.some.inj step)
            dsimp only at same
            rw [← same, removes] at member
            exact .inl (List.mem_of_mem_eraseIdx member)
      | close sessions =>
          simp only [SessionThread.step] at step
          split at step
          · cases step
          · cases step
            cases member
  | swap sess rest =>
      simp only [SessionThread.step] at step
      split at step <;> cases step <;> exact .inl member
  | finish sess rest =>
      cases step
      exact .inl member

theorem next?_pending {thread : SessionThread} {choice : SessionChoice} {sess : Nat}
    (picked : thread.next? choice = some sess) : sess ∈ thread.pending := by
  cases thread with
  | next rest =>
      cases rest with
      | remove expired => exact List.mem_of_getElem? picked
      | close => cases picked
  | _ => cases picked

theorem victim_present {waiting sess : Nat} {victim : UDPSession}
    (found : m.victim waiting = some (sess, victim)) : m.sessions[sess]? = some victim := by
  simp only [SessionManager.victim] at found
  split at found
  · cases found
  split at found
  · cases found
  simp only [Option.map_eq_some_iff, Prod.mk.injEq] at found
  rcases found with ⟨_, present, rfl, rfl⟩
  exact present

theorem startRemove_lookup (m : SessionManager) (id : UInt32) (expired : List Nat)
    {other : UInt32} {sess : Nat} (held : m.byID.lookup other = some sess)
    (gone : (SessionThread.startRemove m id expired).1.byID.lookup other ≠ some sess) :
    other = id ∧ ∃ s, m.sessions[sess]? = some s := by
  rw [startRemove_manager] at gone
  simp only [SessionManager.detach] at gone
  split at gone
  · exact absurd held gone
  rename_i found under
  split at gone
  · exact absurd held gone
  rename_i s present
  have same : other = id := by
    by_contra different
    rw [AList.lookup_erase_ne different] at gone
    exact gone held
  subst same
  rw [under] at held
  cases held
  exact ⟨rfl, s, present⟩

theorem removed_victim {thread next : SessionThread} {choice : SessionChoice}
    (step : SessionThread.step self m thread choice = some (m', next))
    (sweeps : thread.sweeps = true) {id : UInt32} {sess : Nat}
    (held : m.byID.lookup id = some sess) (gone : m'.byID.lookup id ≠ some sess) :
    ∃ waiting victim, thread.next? choice = some waiting ∧
      m.victim waiting = some (sess, victim) := by
  cases thread with
  | next rest =>
      cases rest with
      | close => cases sweeps
      | remove expired =>
          simp only [SessionThread.step] at step
          split at step
          · cases step
          rename_i waiting picked
          split at step
          · cases step
          rename_i one present
          have same := congrArg Prod.fst (Option.some.inj step)
          dsimp only at same
          subst same
          rcases startRemove_lookup m one.id _ held gone with ⟨rfl, victim, found⟩
          exact ⟨waiting, victim, picked, by simp [SessionManager.victim, present, held, found]⟩
  | swap one rest =>
      simp only [SessionThread.step] at step
      split at step
      all_goals
        rename_i after swapped
        have same := congrArg (fun result => result.2.byID) swapped
        cases step
        exact absurd (same ▸ held) gone
  | sweep | finish one rest =>
      cases step
      exact absurd held gone
  | _ => cases sweeps

/-! ## Runs -/

def SweepThread.pending : SweepThread → List Nat
  | .manager thread => thread.pending
  | _ => []

structure Swept (pool : SweepPool) : Prop where
  positive : 0 < pool.shared.1.idleTimeout
  judged : ∀ judgement ∈ pool.shared.2,
    pool.shared.1.idleTimeout < judgement.now - judgement.lastSeen
  pending : ∀ self thread, pool.threads[self]? = some thread → ∀ sess ∈ thread.pending,
    ∃ judgement ∈ pool.shared.2, judgement.sweep = self ∧ judgement.sess = sess

variable {pool : SweepPool}

theorem Swept.start (known : Swept pool) {thread : SweepThread} (enters : thread.entry = true) :
    Swept (pool.start thread) where
  positive := known.positive
  judged := known.judged
  pending self one present sess member := by
    rcases Pool.start_cases present with old | ⟨_, rfl⟩
    · exact known.pending self one old sess member
    · cases one with
      | manager thread => cases thread <;> first | cases member | cases enters
      | updateActivity | updated => cases member

theorem Swept.step (known : Swept pool) {event : PoolEvent SweepThread SessionChoice}
    {next : SweepPool} (step : sweepProgram.machine.step pool event = some next) :
    Swept next := by
  rcases Program.step_cases step with
    ⟨thread, rfl, enters, rfl⟩ | ⟨self, choice, thread, shared, moved, rfl, present, taken, rfl⟩
  · exact known.start enters
  · have taken : sweepStep self pool.shared thread choice = some (shared, moved) := taken
    cases thread with
    | updated => cases taken
    | updateActivity sess =>
        cases taken
        refine ⟨known.positive, known.judged, fun other one found sess member => ?_⟩
        by_cases same : other = self
        · subst same
          rw [Pool.update_self present] at found
          cases found
          cases member
        · rw [Pool.update_other pool same] at found
          exact known.pending other one found sess member
    | manager thread =>
        simp only [sweepStep, Option.map_eq_some_iff, Prod.mk.injEq] at taken
        rcases taken with ⟨⟨m, after⟩, stepped, rfl, rfl⟩
        have timeout : m.idleTimeout = pool.shared.1.idleTimeout :=
          (@outcome_step _ self _ _ _ _ stepped).idleTimeout
        have grows := @judge_old pool.shared.1 self pool.shared.2 choice.clock thread
        refine ⟨?_, fun judgement judged => ?_, fun other one found sess member => ?_⟩
        · rw [Pool.update_shared, timeout]
          exact known.positive
        · rw [Pool.update_shared] at judged
          rw [Pool.update_shared, timeout]
          cases thread with
          | sweep =>
              rcases List.mem_append.mp judged with old | new
              · exact known.judged judgement old
              · exact judgements_idle known.positive new
          | _ => exact known.judged judgement judged
        · rw [Pool.update_shared]
          by_cases same : other = self
          · subst same
            rw [Pool.update_self present] at found
            cases found
            rcases pending_step stepped member with before | ⟨rfl, snapshot⟩
            · rcases known.pending other _ present sess before with ⟨judgement, judged, rest⟩
              exact ⟨judgement, grows judgement judged, rest⟩
            · rcases @expired_judged _ other _ _ snapshot with ⟨judgement, judged, rest⟩
              exact ⟨judgement, List.mem_append_right _ judged, rest⟩
          · rw [Pool.update_other pool same] at found
            rcases known.pending other one found sess member with ⟨judgement, judged, rest⟩
            exact ⟨judgement, grows judgement judged, rest⟩

/-- The next `Remove` of a sweep takes out a session that was idle when the sweep judged
it, and that nobody has used since. -/
theorem Swept.removes (known : Swept pool) {event : PoolEvent SweepThread SessionChoice}
    (permitted : NotWoken pool event) : RemovesOnlyIdle pool event := by
  cases event with
  | spawn thread => exact trivial
  | advance self choice =>
      intro thread next present sweeps step id sess held gone
      simp only [NotWoken, present] at permitted
      rcases Program.step_cases step with
        ⟨_, other, _⟩ | ⟨_, _, _, shared, moved, same, found, taken, rfl⟩
      · cases other
      cases same
      rw [present] at found
      cases found
      have taken : sweepStep self pool.shared (.manager thread) choice = some (shared, moved) :=
        taken
      simp only [sweepStep, Option.map_eq_some_iff, Prod.mk.injEq] at taken
      rcases taken with ⟨⟨m, after⟩, stepped, rfl, rfl⟩
      rcases removed_victim stepped sweeps held gone with ⟨waiting, victim, picked, removed⟩
      simp only [picked, removed] at permitted
      rcases permitted with ⟨rfl, unchanged⟩
      rcases known.pending self _ present sess (next?_pending picked) with
        ⟨judgement, judged, mine, same⟩
      rcases unchanged judgement judged mine same with ⟨seen, later⟩
      refine ⟨⟨judgement, judged, mine, same⟩, victim, victim_present removed, ?_⟩
      have idle := known.judged judgement judged
      rw [seen]
      omega

/-- Where nobody uses a session between the sweep's judgement and its `Remove`, and no
other session gets its id, a sweep takes only sessions of its snapshot out of the table
that have been idle for longer than the timeout. -/
theorem sweep_removes_idle {idleTimeout : Int} {limits : SessionLimits}
    {events : List (PoolEvent SweepThread SessionChoice)}
    (run : sweepProgram.machine.Run NotWoken (initialSweeps idleTimeout limits) events pool) :
    sweepProgram.machine.Run RemovesOnlyIdle (initialSweeps idleTimeout limits) events pool := by
  have initially : Swept (initialSweeps idleTimeout limits) := by
    refine ⟨?_, fun _ judged => (by cases judged), fun _ _ present => (by cases present)⟩
    simp only [initialSweeps, newSessionManagerWithLimits]
    split
    · decide
    · omega
  have kept := run.strengthen fun _ _ reached =>
    reached.preserves initially fun _ _ _ known _ step => known.step step
  exact kept.weaken fun _ _ step => step.2.removes step.1

def atSecond (reading : Int) (drawn : UInt32) : SessionChoice where
  clock _ := reading * Clock.second
  draws := [some drawn]
  pick := 0

def sweptClient : SessionKey where
  publicPort := 20001
  clientAddr := { addr := some (.v4 0xc0000201#32), port := 1000 }

/-- A client gets the session 5 and is silent, and 61 seconds later a sweep has it in
its snapshot. -/
def snapshotTaken : List (PoolEvent SweepThread SessionChoice) :=
  [.spawn (.manager (.getOrCreateByKey sweptClient)), .advance 0 (atSecond 0 5),
    .spawn (.manager .sweep), .advance 1 (atSecond 61 0)]

theorem sweep_removes_idle_silent :
    ∃ events pool, pool.shared.2 = [⟨1, 0, 0, 61 * Clock.second⟩] ∧
      pool.shared.1.byID.lookup 5 = none ∧
      sweepProgram.machine.Run RemovesOnlyIdle (initialSweeps Clock.minute ⟨2, 1, 10⟩)
        events pool := by
  rcases sweepProgram.machine.exists_run NotWoken
    (fun pool => pool.shared.2 = [⟨1, 0, 0, 61 * Clock.second⟩] ∧
      pool.shared.1.byID.lookup 5 = none)
    (initialSweeps Clock.minute ⟨2, 1, 10⟩)
    (snapshotTaken ++ [.advance 1 (atSecond 62 0)])
    (by decide +kernel) with ⟨pool, run, judged, removed⟩
  exact ⟨_, pool, judged, removed, sweep_removes_idle run⟩

/-- The client wakes up between the snapshot and `Remove`: its session is removed at the
moment of its last activity. -/
theorem sweep_removes_woken :
    ∃ events pool next, sweepProgram.machine.Run Machine.Unrestricted
        (initialSweeps Clock.minute ⟨2, 1, 10⟩) events pool ∧
      sweepProgram.machine.step pool (.advance 1 (atSecond 61 0)) = some next ∧
      pool.shared.1.byID.lookup 5 = some 0 ∧ next.shared.1.byID.lookup 5 = none ∧
      ¬RemovesOnlyIdle pool (.advance 1 (atSecond 61 0)) := by
  rcases sweepProgram.machine.exists_run Machine.Unrestricted
    (fun pool => pool.threads[1]? = some (.manager (.next (.remove [0]))) ∧
      pool.shared.1.byID.lookup 5 = some 0 ∧
      pool.shared.1.sessions.map (·.lastSeen) = [61 * Clock.second] ∧
      pool.shared.1.idleTimeout = Clock.minute ∧
      (sweepProgram.machine.step pool (.advance 1 (atSecond 61 0))).any fun next =>
        next.shared.1.byID.lookup 5 = none)
    (initialSweeps Clock.minute ⟨2, 1, 10⟩)
    (snapshotTaken ++ [.spawn (.manager (.getByKey sweptClient)), .advance 2 (atSecond 61 0)])
    (by decide +kernel) with ⟨pool, run, present, held, seen, timeout, removes⟩
  rw [Option.any_eq_true] at removes
  rcases removes with ⟨next, step, gone⟩
  have gone := of_decide_eq_true gone
  refine ⟨_, pool, next, run, step, held, gone, fun idle => ?_⟩
  rcases (idle _ next present rfl step 5 0 held (by rw [gone]; nofun)).2 with ⟨s, found, late⟩
  have last : s.lastSeen = 61 * Clock.second := by
    have mapped : (pool.shared.1.sessions.map (·.lastSeen))[0]? = some s.lastSeen := by
      rw [List.getElem?_map, found, Option.map_some]
    rw [seen] at mapped
    exact (Option.some.inj mapped).symm
  rw [timeout, last] at late
  exact absurd late (by decide)

end Rdpulse.UDP
