import Rdpulse.Foundation.Conservation
import Rdpulse.UDP.SessionTable

namespace Rdpulse.UDP

open Foundation Rdpulse.Path Protocol

/-! Threads that use one session manager. A step is a section under its lock, or one of
the two steps of closing a detached session. -/

/-- What is left of the loop of `sweep` or `Close`; `Remove` leaves an empty loop. -/
inductive Rest
  | remove (expired : List Nat)
  | close (sessions : List Nat)
  deriving DecidableEq

inductive SessionThread
  | getByID (id : UInt32)
  | getByKey (key : SessionKey)
  | getOrCreateByKey (key : SessionKey)
  | addSessionWithID (id : UInt32) (conn : Option Nat)
  | remove (id : UInt32)
  | sweep
  | close
  | returned (answer : Option Nat)
  | next (rest : Rest)
  /-- In `UDPSession.Close`, before `closed.Swap` -/
  | swap (sess : Nat) (rest : Rest)
  /-- and after it has found `false`. -/
  | finish (sess : Nat) (rest : Rest)
  deriving DecidableEq

/-- Readings of the clock, draws of an id, and the place where the order of a map's
iteration has put the next session of a loop. -/
structure SessionChoice where
  clock : Nat → Int
  draws : List (Option UInt32)
  pick : Nat

namespace SessionThread

def entry : SessionThread → Bool
  | .getByID _ | .getByKey _ | .getOrCreateByKey _ | .addSessionWithID _ _ | .remove _ => true
  | .sweep | .close => true
  | _ => false

def startRemove (m : SessionManager) (id : UInt32) (expired : List Nat) :
    SessionManager × SessionThread :=
  match m.detach id with
  | (none, m) => (m, .next (.remove expired))
  | (some sess, m) => (m, .swap sess (.remove expired))

def step (_ : Nat) (m : SessionManager) (thread : SessionThread) (choice : SessionChoice) :
    Option (SessionManager × SessionThread) :=
  match thread with
  | .getByID id =>
      let (answer, m) := m.getByID id (choice.clock 0)
      some (m, .returned answer)
  | .getByKey key =>
      let (answer, m) := m.getByKey key (choice.clock 0)
      some (m, .returned answer)
  | .getOrCreateByKey key =>
      match m.getOrCreateByKey key (choice.clock 0) (choice.clock 1) choice.draws with
      | none => none
      | some ((answer, _), m) => some (m, .returned answer)
  | .addSessionWithID id conn =>
      let (answer, m) := m.addSessionWithID id conn (choice.clock 0) (choice.clock 1)
      some (m, .returned answer)
  | .remove id => some (startRemove m id [])
  | .sweep => some (m, .next (.remove (m.expired choice.clock)))
  | .close =>
      let (sessions, m) := m.detachAll
      some (m, .next (.close sessions))
  | .returned _ => none
  | .next (.remove expired) =>
      match expired[choice.pick]? with
      | none => none
      | some sess =>
          match m.sessions[sess]? with
          | none => none
          | some s => some (startRemove m s.id (expired.eraseIdx choice.pick))
  | .next (.close sessions) =>
      match sessions[choice.pick]? with
      | none => none
      | some sess => some (m, .swap sess (.close (sessions.eraseIdx choice.pick)))
  | .swap sess rest =>
      match m.swapClosed sess with
      | (true, m) => some (m, .next rest)
      | (false, m) => some (m, .finish sess rest)
  | .finish sess rest => some (m.finishClose sess, .next rest)

end SessionThread

def sessionProgram : Program SessionManager SessionThread SessionChoice where
  entry := SessionThread.entry
  step := SessionThread.step

abbrev SessionPool := Pool SessionManager SessionThread

def initialSessions (idleTimeout : Int) (limits : SessionLimits) : SessionPool where
  shared := newSessionManagerWithLimits idleTimeout limits
  threads := []

/-- The addresses of public clients are valid. -/
def ValidAddresses (_ : SessionPool) : PoolEvent SessionThread SessionChoice → Prop
  | .spawn (.getOrCreateByKey key) => key.clientAddr.isValid = true
  | _ => True

instance (pool : SessionPool) (event : PoolEvent SessionThread SessionChoice) :
    Decidable (ValidAddresses pool event) := by
  unfold ValidAddresses
  split <;> infer_instance

variable {m : SessionManager} {pool : SessionPool}

/-! ## What a step can be -/

inductive Outcome (m : SessionManager) :
    SessionThread → SessionManager → SessionThread → Prop
  | gotByID (id : UInt32) (now : Int) :
      Outcome m (.getByID id) (m.getByID id now).2 (.returned (m.getByID id now).1)
  | gotByKey (key : SessionKey) (now : Int) :
      Outcome m (.getByKey key) (m.getByKey key now).2 (.returned (m.getByKey key now).1)
  | gotOrCreated {key : SessionKey} {now seen : Int} {draws : List (Option UInt32)}
      {answer : Option Nat × Bool} {m' : SessionManager}
      (result : m.getOrCreateByKey key now seen draws = some (answer, m')) :
      Outcome m (.getOrCreateByKey key) m' (.returned answer.1)
  | added (id : UInt32) (conn : Option Nat) (now seen : Int) :
      Outcome m (.addSessionWithID id conn) (m.addSessionWithID id conn now seen).2
        (.returned (m.addSessionWithID id conn now seen).1)
  | removed (id : UInt32) (expired : List Nat) {thread : SessionThread}
      (caller : thread = .remove id ∨ ∃ before, thread = .next (.remove before)) :
      Outcome m thread (SessionThread.startRemove m id expired).1
        (SessionThread.startRemove m id expired).2
  | swept (expired : List Nat) : Outcome m .sweep m (.next (.remove expired))
  | shut : Outcome m .close m.detachAll.2 (.next (.close m.detachAll.1))
  | picked {sessions : List Nat} {pick sess : Nat} (picked : sessions[pick]? = some sess) :
      Outcome m (.next (.close sessions)) m (.swap sess (.close (sessions.eraseIdx pick)))
  | swapped (sess : Nat) (rest : Rest) :
      Outcome m (.swap sess rest) (m.swapClosed sess).2
        (if (m.swapClosed sess).1 then .next rest else .finish sess rest)
  | finished (sess : Nat) (rest : Rest) :
      Outcome m (.finish sess rest) (m.finishClose sess) (.next rest)

theorem outcome_step {self : Nat} {thread next : SessionThread} {choice : SessionChoice}
    {m' : SessionManager} (step : SessionThread.step self m thread choice = some (m', next)) :
    Outcome m thread m' next := by
  cases thread with
  | getByID id =>
      cases step
      exact .gotByID id _
  | getByKey key =>
      cases step
      exact .gotByKey key _
  | getOrCreateByKey key =>
      simp only [SessionThread.step] at step
      split at step
      · cases step
      · rename_i result
        cases step
        exact .gotOrCreated result
  | addSessionWithID id conn =>
      cases step
      exact .added id conn _ _
  | remove id =>
      have removed := Outcome.removed (m := m) id [] (.inl rfl)
      rw [Option.some.inj step] at removed
      exact removed
  | sweep =>
      cases step
      exact .swept _
  | close =>
      cases step
      exact .shut
  | returned answer => cases step
  | next rest =>
      cases rest with
      | remove expired =>
          simp only [SessionThread.step] at step
          split at step
          · cases step
          split at step
          · cases step
          · rename_i s _
            have removed := Outcome.removed (m := m) s.id (expired.eraseIdx choice.pick)
              (.inr ⟨expired, rfl⟩)
            rw [Option.some.inj step] at removed
            exact removed
      | close sessions =>
          simp only [SessionThread.step] at step
          split at step
          · cases step
          · rename_i picked
            cases step
            exact .picked picked
  | swap sess rest =>
      have swapped := Outcome.swapped (m := m) sess rest
      simp only [SessionThread.step] at step
      generalize m.swapClosed sess = result at *
      rcases result with ⟨flag, after⟩
      cases flag <;> cases step <;> exact swapped
  | finish sess rest =>
      cases step
      exact .finished sess rest

/-! ## Who is to close a session -/

namespace SessionManager

def placed (m : SessionManager) (sess : Nat) : Nat :=
  m.byID.entries.countP fun entry => entry.2 = sess

def made (m : SessionManager) (sess : Nat) : Nat :=
  if sess < m.sessions.length then 1 else 0

def closings (m : SessionManager) (sess : Nat) : Nat :=
  if (m.sessions[sess]?).any UDPSession.closed then 1 else 0

def endings (m : SessionManager) (sess : Nat) : Nat :=
  ((m.sessions[sess]?).map UDPSession.ended).getD 0

end SessionManager

def Rest.toSwap (sess : Nat) : Rest → Nat
  | .remove _ => 0
  | .close sessions => sessions.count sess

namespace SessionThread

def toSwap (sess : Nat) : SessionThread → Nat
  | .next rest => rest.toSwap sess
  | .swap own rest => (if own = sess then 1 else 0) + rest.toSwap sess
  | .finish _ rest => rest.toSwap sess
  | _ => 0

def toFinish (sess : Nat) : SessionThread → Nat
  | .finish own _ => if own = sess then 1 else 0
  | _ => 0

end SessionThread

/-- A session is in the table, or with the one thread that closes it, or closed; and it
has ended, or is with the thread that ends it. -/
structure Conserved (pool : SessionPool) : Prop where
  held : ∀ sess, pool.shared.placed sess + pool.total (SessionThread.toSwap sess) +
    pool.shared.closings sess = pool.shared.made sess
  ended : ∀ sess, pool.total (SessionThread.toFinish sess) + pool.shared.endings sess =
    pool.shared.closings sess

structure Balanced (m : SessionManager) (thread : SessionThread) (m' : SessionManager)
    (next : SessionThread) : Prop where
  held : ∀ sess, m'.placed sess + next.toSwap sess + m'.closings sess + m.made sess =
    m.placed sess + thread.toSwap sess + m.closings sess + m'.made sess
  ended : ∀ sess, next.toFinish sess + m'.endings sess + m.closings sess =
    thread.toFinish sess + m.endings sess + m'.closings sess

theorem conserved_initial (idleTimeout : Int) (limits : SessionLimits) :
    Conserved (initialSessions idleTimeout limits) :=
  ⟨fun _ => rfl, fun _ => rfl⟩

theorem Conserved.start (conserved : Conserved pool) {thread : SessionThread}
    (enters : thread.entry = true) : Conserved (pool.start thread) := by
  constructor <;> intro sess <;> rw [Pool.total_start]
  · have held := conserved.held sess
    cases thread <;> first | exact held | cases enters
  · have ended := conserved.ended sess
    cases thread <;> first | exact ended | cases enters

theorem Conserved.update (conserved : Conserved pool) {self : Nat} {thread next : SessionThread}
    {shared : SessionManager} (present : pool.threads[self]? = some thread)
    (balanced : Balanced pool.shared thread shared next) :
    Conserved (pool.update self shared next) := by
  constructor <;> intro sess
  · have held := conserved.held sess
    have moved := balanced.held sess
    have total := Pool.total_update present (SessionThread.toSwap sess) shared next
    rw [Pool.update_shared]
    omega
  · have ended := conserved.ended sess
    have moved := balanced.ended sess
    have total := Pool.total_update present (SessionThread.toFinish sess) shared next
    rw [Pool.update_shared]
    omega

/-! ### The moves -/

theorem balanced_still {thread next : SessionThread} {m' : SessionManager}
    (byID : m'.byID = m.byID) (length : m'.sessions.length = m.sessions.length)
    (same : ∀ sess : Nat, (m'.sessions[sess]?).map (fun s => (s.closed, s.ended)) =
      (m.sessions[sess]?).map fun s => (s.closed, s.ended))
    (swaps : ∀ sess, next.toSwap sess = thread.toSwap sess)
    (finishes : ∀ sess, next.toFinish sess = thread.toFinish sess) :
    Balanced m thread m' next := by
  have closings : ∀ sess, m'.closings sess = m.closings sess := by
    intro sess
    have through : ∀ (s : Option UDPSession),
        s.any UDPSession.closed = (s.map fun s => (s.closed, s.ended)).any Prod.fst := by
      intro s
      cases s <;> rfl
    simp only [SessionManager.closings, through, same]
  have endings : ∀ sess, m'.endings sess = m.endings sess := by
    intro sess
    have through : ∀ (s : Option UDPSession),
        (s.map UDPSession.ended).getD 0 = ((s.map fun s => (s.closed, s.ended)).map Prod.snd).getD 0 := by
      intro s
      cases s <;> rfl
    simp only [SessionManager.endings, through, same]
  constructor <;> intro sess
  · rw [closings, swaps]
    simp only [SessionManager.placed, SessionManager.made, byID, length]
  · rw [closings, endings, finishes]

theorem balanced_activity (m : SessionManager) (sess : Nat) (now : Int) {thread next : SessionThread}
    (swaps : ∀ sess, next.toSwap sess = thread.toSwap sess)
    (finishes : ∀ sess, next.toFinish sess = thread.toFinish sess) :
    Balanced m thread (m.updateActivity sess now) next := by
  refine balanced_still rfl (List.length_modify _ _ _) (fun other => ?_) swaps finishes
  simp only [SessionManager.updateActivity, SessionManager.updateSession, List.getElem?_modify]
  cases m.sessions[other]? with
  | none => rfl
  | some s => by_cases same : sess = other <;> simp [same]

theorem balanced_made {thread next : SessionThread} {m' : SessionManager} {id : UInt32}
    (fresh : m.byID.lookup id = none) (byID : m'.byID = m.byID.insert id m.sessions.length)
    {s : UDPSession} (open' : s.closed = false ∧ s.ended = 0)
    (sessions : m'.sessions = m.sessions ++ [s])
    (swaps : ∀ sess, next.toSwap sess = thread.toSwap sess)
    (finishes : ∀ sess, next.toFinish sess = thread.toFinish sess) :
    Balanced m thread m' next := by
  have read : ∀ sess : Nat, m'.closings sess = m.closings sess ∧
      m'.endings sess = m.endings sess := by
    intro sess
    simp only [SessionManager.closings, SessionManager.endings, sessions]
    rcases Nat.lt_trichotomy sess m.sessions.length with old | new | beyond
    · rw [List.getElem?_append_left old]
      exact ⟨rfl, rfl⟩
    · subst new
      simp [open']
    · rw [List.getElem?_eq_none (by simp; omega), List.getElem?_eq_none (by omega)]
      exact ⟨rfl, rfl⟩
  constructor <;> intro sess
  · rw [(read sess).1, swaps]
    simp only [SessionManager.placed, SessionManager.made, byID, sessions,
      AList.entries_insert_of_notMem (AList.lookup_eq_none.mp fresh), List.countP_cons,
      List.length_append, List.length_singleton, decide_eq_true_eq]
    split_ifs <;> omega
  · rw [(read sess).1, (read sess).2, finishes]

theorem balanced_startRemove (holds : Representation m) (id : UInt32) (expired : List Nat)
    (thread : SessionThread) (free : ∀ sess, thread.toSwap sess = 0 ∧ thread.toFinish sess = 0) :
    Balanced m thread (SessionThread.startRemove m id expired).1
      (SessionThread.startRemove m id expired).2 := by
  cases found : m.byID.lookup id with
  | none =>
      simp only [SessionThread.startRemove, detach_none found]
      exact balanced_still rfl rfl (fun _ => rfl) (fun sess => (free sess).1.symm)
        fun sess => (free sess).2.symm
  | some own =>
      rcases holds.byID id own found with ⟨s, present, _⟩
      rcases detach_eq found present with ⟨answer, byID, _, sessions, _⟩
      simp only [SessionThread.startRemove]
      generalize m.detach id = result at *
      rcases result with ⟨detached, next⟩
      dsimp only at answer byID sessions
      subst answer
      have placed : ∀ sess, m.placed sess = next.placed sess + if own = sess then 1 else 0 := by
        intro sess
        simp only [SessionManager.placed, byID]
        rw [(erase_entries found).countP_eq, List.countP_cons]
        simp
      constructor <;> intro sess
      · rw [placed sess, (free sess).1]
        simp only [SessionThread.toSwap, Rest.toSwap, SessionManager.closings,
          SessionManager.made, sessions]
        omega
      · rw [(free sess).2]
        simp only [SessionThread.toFinish, SessionManager.closings, SessionManager.endings,
          sessions]

theorem balanced_detachAll (m : SessionManager) :
    Balanced m .close m.detachAll.2 (.next (.close m.detachAll.1)) := by
  simp only [SessionManager.detachAll]
  split
  · exact ⟨fun _ => rfl, fun _ => rfl⟩
  · refine ⟨fun sess => ?_, fun sess => rfl⟩
    have counted : (m.byID.entries.map Sigma.snd).count sess = m.placed sess := by
      rw [List.count, List.countP_map]
      rfl
    simp only [SessionThread.toSwap, Rest.toSwap, counted]
    simp only [SessionManager.placed, AList.empty_entries, List.countP_nil,
      SessionManager.closings, SessionManager.made]
    omega

theorem balanced_pick {sessions : List Nat} {pick sess : Nat}
    (picked : sessions[pick]? = some sess) :
    Balanced m (.next (.close sessions)) m (.swap sess (.close (sessions.eraseIdx pick))) := by
  refine ⟨fun other => ?_, fun other => rfl⟩
  rcases List.getElem?_eq_some_iff.mp picked with ⟨bound, found⟩
  have split := (List.getElem_cons_eraseIdx_perm bound).count_eq other
  rw [found, List.count_cons] at split
  simp only [SessionThread.toSwap, Rest.toSwap, beq_iff_eq] at split ⊢
  omega

theorem updateSession_get (m : SessionManager) (sess other : Nat)
    (change : UDPSession → UDPSession) :
    (m.updateSession sess change).sessions[other]? =
      if sess = other then (m.sessions[other]?).map change else m.sessions[other]? := by
  simp only [SessionManager.updateSession, List.getElem?_modify]
  by_cases same : sess = other <;> simp [same]

theorem balanced_swap {sess : Nat} {s : UDPSession} (present : m.sessions[sess]? = some s)
    (open' : s.closed = false) (rest : Rest) :
    Balanced m (.swap sess rest) (m.swapClosed sess).2 (.finish sess rest) := by
  have closings : ∀ other, (m.swapClosed sess).2.closings other =
      m.closings other + if sess = other then 1 else 0 := by
    intro other
    simp only [SessionManager.closings, SessionManager.swapClosed, updateSession_get]
    by_cases same : sess = other
    · subst same
      simp [present, open']
    · simp [same]
  have endings : ∀ other, (m.swapClosed sess).2.endings other = m.endings other := by
    intro other
    simp only [SessionManager.endings, SessionManager.swapClosed, updateSession_get]
    cases m.sessions[other]? <;> split <;> rfl
  constructor <;> intro other
  · rw [closings]
    simp only [SessionThread.toSwap, SessionManager.placed, SessionManager.made,
      SessionManager.swapClosed, SessionManager.updateSession, List.length_modify]
    omega
  · rw [closings, endings]
    simp only [SessionThread.toFinish]
    omega

theorem balanced_finish {sess : Nat} {s : UDPSession} (present : m.sessions[sess]? = some s)
    (rest : Rest) : Balanced m (.finish sess rest) (m.finishClose sess) (.next rest) := by
  have closings : ∀ other, (m.finishClose sess).closings other = m.closings other := by
    intro other
    simp only [SessionManager.closings, SessionManager.finishClose, updateSession_get]
    cases m.sessions[other]? <;> split <;> rfl
  have endings : ∀ other, (m.finishClose sess).endings other =
      m.endings other + if sess = other then 1 else 0 := by
    intro other
    simp only [SessionManager.endings, SessionManager.finishClose, updateSession_get]
    by_cases same : sess = other
    · subst same
      simp [present]
    · simp [same]
  constructor <;> intro other
  · rw [closings]
    simp only [SessionThread.toSwap, SessionManager.placed, SessionManager.made,
      SessionManager.finishClose, SessionManager.updateSession, List.length_modify]
  · rw [closings, endings]
    simp only [SessionThread.toFinish]
    omega

/-- A thread closes open sessions only, and ends closed ones. -/
theorem Conserved.swap_open (conserved : Conserved pool) {self sess : Nat} {rest : Rest}
    (present : pool.threads[self]? = some (.swap sess rest)) :
    ∃ s, pool.shared.sessions[sess]? = some s ∧ s.closed = false := by
  have held := conserved.held sess
  have share : 0 < pool.total (SessionThread.toSwap sess) := by
    rw [Nat.pos_iff_ne_zero]
    intro none_left
    have own := Pool.total_eq_zero.mp none_left _ (Pool.mem_of_getElem? present)
    simp only [SessionThread.toSwap, if_true] at own
    omega
  simp only [SessionManager.made, SessionManager.closings] at held
  cases found : pool.shared.sessions[sess]? with
  | none =>
      rw [if_neg (Nat.not_lt.mpr (List.getElem?_eq_none_iff.mp found))] at held
      omega
  | some s =>
      refine ⟨s, rfl, ?_⟩
      cases flag : s.closed with
      | false => rfl
      | true =>
          rw [if_pos (List.getElem?_eq_some_iff.mp found).1, found] at held
          simp only [Option.any_some, flag, if_true] at held
          omega

theorem Conserved.finish_present (conserved : Conserved pool) {self sess : Nat} {rest : Rest}
    (present : pool.threads[self]? = some (.finish sess rest)) :
    ∃ s, pool.shared.sessions[sess]? = some s := by
  have ended := conserved.ended sess
  have share : 0 < pool.total (SessionThread.toFinish sess) := by
    rw [Nat.pos_iff_ne_zero]
    intro none_left
    have own := Pool.total_eq_zero.mp none_left _ (Pool.mem_of_getElem? present)
    simp only [SessionThread.toFinish, if_true] at own
    omega
  cases found : pool.shared.sessions[sess]? with
  | some s => exact ⟨s, rfl⟩
  | none =>
      simp only [SessionManager.closings, found, Option.any_none] at ended
      have none_closed : pool.total (SessionThread.toFinish sess) = 0 := by
        simp at ended
        exact ended.1
      omega

/-! ## Steps and runs -/

theorem balanced_step (conserved : Conserved pool) (holds : Representation pool.shared)
    {self : Nat} {thread next : SessionThread} {m' : SessionManager}
    (present : pool.threads[self]? = some thread)
    (outcome : Outcome pool.shared thread m' next) :
    Balanced pool.shared thread m' next := by
  cases outcome with
  | gotByID id now =>
      simp only [SessionManager.getByID]
      split
      · exact balanced_still rfl rfl (fun _ => rfl) (fun _ => rfl) fun _ => rfl
      · exact balanced_activity _ _ _ (fun _ => rfl) fun _ => rfl
  | gotByKey key now =>
      simp only [SessionManager.getByKey]
      split
      · exact balanced_still rfl rfl (fun _ => rfl) (fun _ => rfl) fun _ => rfl
      · exact balanced_activity _ _ _ (fun _ => rfl) fun _ => rfl
  | gotOrCreated result =>
      rcases getOrCreateByKey_cases result with
        ⟨sess, _, _, rfl⟩ | ⟨start, count, _, rfl⟩ | ⟨start, count, id, _, rfl, _, fresh, _⟩
      · exact balanced_activity _ _ _ (fun _ => rfl) fun _ => rfl
      · exact balanced_still rfl rfl (fun _ => rfl) (fun _ => rfl) fun _ => rfl
      · exact balanced_made fresh rfl ⟨rfl, rfl⟩ rfl (fun _ => rfl) fun _ => rfl
  | added id conn now seen =>
      rcases addSessionWithID_cases pool.shared id conn now seen with
        ⟨sess, _, equal⟩ | ⟨start, count, equal⟩ | ⟨start, count, fresh, _, _, _, equal⟩ <;>
        rw [equal]
      · exact balanced_activity _ _ _ (fun _ => rfl) fun _ => rfl
      · exact balanced_still rfl rfl (fun _ => rfl) (fun _ => rfl) fun _ => rfl
      · exact balanced_made fresh rfl ⟨rfl, rfl⟩ rfl (fun _ => rfl) fun _ => rfl
  | removed id expired caller =>
      apply balanced_startRemove holds id expired
      rcases caller with rfl | ⟨before, rfl⟩ <;> exact fun _ => ⟨rfl, rfl⟩
  | swept expired => exact balanced_still rfl rfl (fun _ => rfl) (fun _ => rfl) fun _ => rfl
  | shut => exact balanced_detachAll pool.shared
  | picked picked => exact balanced_pick picked
  | swapped sess rest =>
      rcases conserved.swap_open present with ⟨s, found, open'⟩
      have answer : (pool.shared.swapClosed sess).1 = false := by
        simp [SessionManager.swapClosed, found, open']
      rw [answer]
      exact balanced_swap found open' rest
  | finished sess rest =>
      rcases conserved.finish_present present with ⟨s, found⟩
      exact balanced_finish found rest

theorem startRemove_manager (m : SessionManager) (id : UInt32) (expired : List Nat) :
    (SessionThread.startRemove m id expired).1 = (m.detach id).2 := by
  simp only [SessionThread.startRemove]
  split <;> simp_all

theorem Representation.step (holds : Representation m) {thread next : SessionThread}
    {m' : SessionManager} (outcome : Outcome m thread m' next)
    (valid : ∀ key, thread = .getOrCreateByKey key → key.clientAddr.isValid = true) :
    Representation m' := by
  cases outcome with
  | gotByID id now =>
      simp only [SessionManager.getByID]
      split
      · exact holds
      · exact holds.updateActivity _ now
  | gotByKey key now =>
      simp only [SessionManager.getByKey]
      split
      · exact holds
      · exact holds.updateActivity _ now
  | gotOrCreated result => exact holds.getOrCreateByKey (valid _ rfl) result
  | added id conn now seen => exact holds.addSessionWithID id conn now seen
  | removed id expired caller =>
      rw [startRemove_manager]
      exact holds.detach id
  | swept expired => exact holds
  | shut => exact holds.detachAll
  | picked picked => exact holds
  | swapped sess rest => exact holds.updateSession sess fun _ => rfl
  | finished sess rest => exact holds.updateSession sess fun _ => rfl

theorem detachAll_closed (m : SessionManager) : m.detachAll.2.closed = true := by
  simp only [SessionManager.detachAll]
  split
  · assumption
  · rfl

theorem Outcome.closed {thread next : SessionThread} {m' : SessionManager}
    (outcome : Outcome m thread m' next) (closed : m.closed = true) : m'.closed = true := by
  cases outcome with
  | gotByID id now =>
      simp only [SessionManager.getByID]
      split <;> exact closed
  | gotByKey key now =>
      simp only [SessionManager.getByKey]
      split <;> exact closed
  | gotOrCreated result =>
      rcases getOrCreateByKey_cases result with
        ⟨sess, _, _, rfl⟩ | ⟨start, count, _, rfl⟩ | ⟨start, count, id, _, rfl, _⟩ <;>
        exact closed
  | added id conn now seen =>
      rcases addSessionWithID_cases m id conn now seen with
        ⟨sess, _, equal⟩ | ⟨start, count, equal⟩ | ⟨start, count, _, _, _, _, equal⟩ <;>
        rw [equal] <;> exact closed
  | removed id expired caller =>
      rw [startRemove_manager]
      simp only [SessionManager.detach]
      split
      · exact closed
      split <;> exact closed
  | shut => exact detachAll_closed m
  | swept _ | picked _ | swapped _ _ | finished _ _ => exact closed

def Rest.ofClose : Rest → Bool
  | .remove _ => false
  | .close _ => true

def SessionThread.closing : SessionThread → Bool
  | .next rest | .swap _ rest | .finish _ rest => rest.ofClose
  | _ => false

theorem Outcome.next {thread next : SessionThread} {m' : SessionManager}
    (outcome : Outcome m thread m' next) :
    next.entry = false ∧
      (next.closing = true → thread.closing = true ∨ m'.closed = true) := by
  cases outcome with
  | gotByID _ _ | gotByKey _ _ | gotOrCreated _ | added _ _ _ _ | swept _ =>
      exact ⟨rfl, fun closing => by cases closing⟩
  | removed id expired caller =>
      simp only [SessionThread.startRemove]
      split <;> exact ⟨rfl, fun closing => by cases closing⟩
  | shut => exact ⟨rfl, fun _ => .inr (detachAll_closed m)⟩
  | picked _ => exact ⟨rfl, .inl⟩
  | swapped sess rest =>
      split
      · exact ⟨rfl, .inl⟩
      · exact ⟨rfl, .inl⟩
  | finished sess rest => exact ⟨rfl, .inl⟩

structure Managed (pool : SessionPool) : Prop where
  representation : Representation pool.shared
  conserved : Conserved pool
  closed : ∀ thread ∈ pool.threads, thread.closing = true → pool.shared.closed = true
  valid : ∀ key, .getOrCreateByKey key ∈ pool.threads → key.clientAddr.isValid = true

theorem managed_initial (idleTimeout : Int) (limits : SessionLimits) :
    Managed (initialSessions idleTimeout limits) where
  representation := representation_new idleTimeout limits
  conserved := conserved_initial idleTimeout limits
  closed thread member := by cases member
  valid key member := by cases member

theorem Managed.step (managed : Managed pool) {event : PoolEvent SessionThread SessionChoice}
    {next : SessionPool} (permitted : ValidAddresses pool event)
    (step : sessionProgram.machine.step pool event = some next) :
    Managed next ∧ (pool.shared.closed = true → next.shared.closed = true) := by
  rcases Program.step_cases step with
    ⟨thread, rfl, enters, rfl⟩ | ⟨self, choice, thread, shared, moved, rfl, present, taken, rfl⟩
  · refine ⟨⟨managed.representation, managed.conserved.start enters, ?_, ?_⟩, id⟩
    · intro other member closing
      rcases List.mem_append.mp member with old | new
      · exact managed.closed other old closing
      · rw [List.mem_singleton.mp new] at closing
        cases thread <;> first | cases closing | cases enters
    · intro key member
      rcases List.mem_append.mp member with old | new
      · exact managed.valid key old
      · rw [← List.mem_singleton.mp new] at permitted
        exact permitted
  · have outcome : Outcome pool.shared thread shared moved := @outcome_step _ self _ _ _ _ taken
    refine ⟨⟨managed.representation.step outcome
        fun key same => managed.valid key (same ▸ Pool.mem_of_getElem? present),
      managed.conserved.update present
        (balanced_step managed.conserved managed.representation present outcome), ?_, ?_⟩,
      outcome.closed⟩
    · intro other member closing
      rcases List.mem_or_eq_of_mem_set member with old | rfl
      · exact outcome.closed (managed.closed other old closing)
      · rcases outcome.next.2 closing with before | after
        · exact outcome.closed (managed.closed thread (Pool.mem_of_getElem? present) before)
        · exact after
    · intro key member
      rcases List.mem_or_eq_of_mem_set member with old | same
      · exact managed.valid key old
      · have started := outcome.next.1
        rw [← same] at started
        cases started

theorem Managed.run (managed : Managed pool) {later : SessionPool}
    {events : List (PoolEvent SessionThread SessionChoice)}
    (run : sessionProgram.machine.Run ValidAddresses pool events later) : Managed later :=
  run.preserves managed fun _ _ _ managed permitted step => (managed.step permitted step).1

theorem Managed.run_closed (managed : Managed pool) {later : SessionPool}
    {events : List (PoolEvent SessionThread SessionChoice)}
    (run : sessionProgram.machine.Run ValidAddresses pool events later)
    (closed : pool.shared.closed = true) : later.shared.closed = true := by
  induction run with
  | nil => exact closed
  | snoc past permitted step induction => exact ((managed.run past).step permitted step).2 induction

theorem placed_eq_zero {sess : Nat} : m.placed sess = 0 ↔ ¬m.Live sess := by
  simp only [SessionManager.placed, SessionManager.Live, List.countP_eq_zero, decide_eq_true_eq]
  constructor
  · rintro none_placed ⟨id, found⟩
    exact none_placed _ (AList.mem_lookup_iff.mp found) rfl
  · intro gone entry member same
    exact gone ⟨entry.1, same ▸ mem_entries_lookup m member⟩

def SessionPool.isClosing (pool : SessionPool) (sess : Nat) : Prop :=
  ∃ thread ∈ pool.threads, 0 < thread.toSwap sess + thread.toFinish sess

theorem Conserved.ends (conserved : Conserved pool) {sess : Nat} {s : UDPSession}
    (present : pool.shared.sessions[sess]? = some s) :
    s.ended ≤ 1 ∧ (pool.shared.Live sess → s.ended = 0) ∧
      (¬pool.shared.Live sess → ¬SessionPool.isClosing pool sess → s.ended = 1) := by
  have held := conserved.held sess
  have ended := conserved.ended sess
  have exists_made : pool.shared.made sess = 1 :=
    if_pos (List.getElem?_eq_some_iff.mp present).1
  have endings : pool.shared.endings sess = s.ended := by
    simp [SessionManager.endings, present]
  refine ⟨by omega, fun live => ?_, fun gone idle => ?_⟩
  · have placed : pool.shared.placed sess ≠ 0 := fun none_placed => placed_eq_zero.mp none_placed live
    omega
  · have placed := placed_eq_zero.mpr gone
    have free : ∀ thread ∈ pool.threads, thread.toSwap sess = 0 ∧ thread.toFinish sess = 0 := by
      intro thread member
      have share : ¬0 < thread.toSwap sess + thread.toFinish sess :=
        fun share => idle ⟨thread, member, share⟩
      omega
    have swaps := Pool.total_eq_zero.mpr fun thread member => (free thread member).1
    have finishes := Pool.total_eq_zero.mpr fun thread member => (free thread member).2
    omega

/-- The tables of a session manager in every state that its users can reach, what
`Close` leaves for ever, and how often a session's callback has run: never while it is
in the table, and once when whoever has detached it is done. -/
theorem session_tables (idleTimeout : Int) (limits : SessionLimits)
    {events : List (PoolEvent SessionThread SessionChoice)}
    (run : sessionProgram.machine.Run ValidAddresses (initialSessions idleTimeout limits)
      events pool) :
    Representation pool.shared ∧
    (∀ thread ∈ pool.threads, thread.closing = true → pool.shared.closed = true) ∧
    (∀ {after : List (PoolEvent SessionThread SessionChoice)} {later : SessionPool},
      sessionProgram.machine.Run ValidAddresses pool after later →
      pool.shared.closed = true →
      later.shared.byID = ∅ ∧ later.shared.byKey = ∅ ∧ later.shared.sessionsPerIP = ∅) ∧
    ∀ (sess : Nat) (s : UDPSession), pool.shared.sessions[sess]? = some s →
      s.ended ≤ 1 ∧ (pool.shared.Live sess → s.ended = 0) ∧
        (¬pool.shared.Live sess → ¬SessionPool.isClosing pool sess → s.ended = 1) := by
  have managed := (managed_initial idleTimeout limits).run run
  refine ⟨managed.representation, managed.closed, fun further closed => ?_,
    fun sess s present => managed.conserved.ends present⟩
  exact (managed.run further).representation.closed (managed.run_closed further closed)

/-- A client at 192.0.2.1 gets the session 5 and loses it, another gets the session 6,
and the manager is closed. -/
def clientEvents : List (PoolEvent SessionThread SessionChoice) :=
  let client (port : UInt16) : SessionKey :=
    { publicPort := 20001, clientAddr := { addr := some (.v4 0xc0000201#32), port } }
  let choice (drawn : UInt32) : SessionChoice :=
    { clock := fun _ => 0, draws := [some 0, some drawn], pick := 0 }
  [.spawn (.getOrCreateByKey (client 1000)), .advance 0 (choice 0x80000005),
    .spawn (.remove 5), .advance 1 (choice 0), .advance 1 (choice 0), .advance 1 (choice 0),
    .spawn (.getOrCreateByKey (client 1001)), .advance 2 (choice 6),
    .spawn .close, .advance 3 (choice 0), .advance 3 (choice 0), .advance 3 (choice 0),
    .advance 3 (choice 0)]

theorem session_tables_closed :
    ∃ pool, sessionProgram.machine.Run ValidAddresses
        (initialSessions Clock.minute ⟨2, 1, 10⟩) clientEvents pool ∧
      pool.shared.sessions.map UDPSession.ended = [1, 1] ∧ pool.shared.closed = true ∧
      Representation pool.shared ∧
      (∀ thread ∈ pool.threads, thread.closing = true → pool.shared.closed = true) ∧
      (∀ {after : List (PoolEvent SessionThread SessionChoice)} {later : SessionPool},
        sessionProgram.machine.Run ValidAddresses pool after later →
        pool.shared.closed = true →
        later.shared.byID = ∅ ∧ later.shared.byKey = ∅ ∧ later.shared.sessionsPerIP = ∅) ∧
      ∀ (sess : Nat) (s : UDPSession), pool.shared.sessions[sess]? = some s →
        s.ended ≤ 1 ∧ (pool.shared.Live sess → s.ended = 0) ∧
          (¬pool.shared.Live sess → ¬SessionPool.isClosing pool sess → s.ended = 1) := by
  rcases sessionProgram.machine.exists_run ValidAddresses
    (fun pool => pool.shared.sessions.map UDPSession.ended = [1, 1] ∧ pool.shared.closed = true)
    (initialSessions Clock.minute ⟨2, 1, 10⟩) clientEvents (by decide +kernel) with ⟨pool, run, ends, closed⟩
  exact ⟨pool, run, ends, closed, session_tables Clock.minute ⟨2, 1, 10⟩ run⟩

end Rdpulse.UDP
