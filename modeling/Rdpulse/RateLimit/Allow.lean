import Rdpulse.Foundation.Threads
import Rdpulse.RateLimit.Accounting

namespace Rdpulse.RateLimit

open Foundation Protocol

/-! `Allow` on a guard that is used in no other way, by any number of callers at once.
Each reads the clock before it takes the lock, so the readings come in any order. -/

inductive AllowThread
  | start (addr : Option GoString)
  | recorded (index : Nat)
  | returned (ok : Bool)
  deriving DecidableEq

namespace AllowThread

def entry : AllowThread → Bool
  | .start _ => true
  | _ => false

def step (_ : Nat) (state : Traffic) (thread : AllowThread) (now : Int) :
    Option (Traffic × AllowThread) :=
  match thread with
  | .start addr =>
      match state.guard.acquire true addr now with
      | (_, some _) => some (state.acquire true addr now, .recorded state.releases.length)
      | (_, none) => some (state.acquire true addr now, .returned false)
  | .recorded index =>
      (state.releases[index]?).map fun function =>
        (state.release index function now, .returned true)
  | .returned _ => none

end AllowThread

def allowProgram : Program Traffic AllowThread Int where
  entry := AllowThread.entry
  step := AllowThread.step

abbrev AllowPool := Pool Traffic AllowThread

def initialAllow (guard : IPGuard) (clock : Int) : AllowPool where
  shared := .initial guard clock
  threads := []

/-- A key is refused only after `limit` grants in its window. -/
def PureRate (limit : Int) (log : List Happened) : Prop :=
  ∀ before key after, log = before ++ .refused key :: after → limit ≤ sinceReset key before

/-- When an `Allow` takes the lock, fewer than `maxConcurrent` others of its key are
between their `Acquire` and their release, or the entry of its key has no room left in
its window. -/
def Uncrowded (pool : AllowPool) : PoolEvent AllowThread Int → Prop
  | .advance self now =>
      match pool.threads[self]? with
      | some (.start addr) =>
          (pool.shared.outstanding (addressKey addr) : Int) < pool.shared.guard.maxConcurrent ∨
          pool.shared.guard.maxPerWindow ≤
            ((pool.shared.guard.enter true now).current (addressKey addr) now).count
      | _ => True
  | _ => True

instance (pool : AllowPool) (event : PoolEvent AllowThread Int) :
    Decidable (Uncrowded pool event) := by
  unfold Uncrowded
  split
  · split <;> infer_instance
  · infer_instance

/-! ## Counts without a clock -/

/-- The entry `e` counts the grants of its key, whatever the clock said. -/
structure Tally (state : Traffic) (key : GoString) (e : Entry) : Prop where
  active : e.active = state.outstanding key
  count : e.count = sinceReset key state.log

structure Tallied (configured : IPGuard) (state : Traffic) : Prop where
  maxConcurrent : state.guard.maxConcurrent = configured.maxConcurrent
  maxPerWindow : state.guard.maxPerWindow = configured.maxPerWindow
  window : state.guard.window = configured.window
  present : ∀ key e, state.guard.entries key = some e → Tally state key e
  absent : ∀ key, state.guard.entries key = none → state.outstanding key = 0

variable {configured : IPGuard} {state : Traffic}

theorem Tallied.enter (tallied : Tallied configured state) (sweeping : Bool) (now : Int) :
    Tallied configured { state with guard := state.guard.enter sweeping now } where
  maxConcurrent := by simpa using tallied.maxConcurrent
  maxPerWindow := by simpa using tallied.maxPerWindow
  window := by simpa using tallied.window
  present key e present := by
    rcases state.guard.enter_entries sweeping key now with same | ⟨gone, _⟩
    · have tally := tallied.present key e (same ▸ present)
      exact ⟨tally.active, tally.count⟩
    · rw [gone] at present
      cases present
  absent key absent := by
    rcases state.guard.enter_entries sweeping key now with same | ⟨_, e, present, idle⟩
    · exact tallied.absent key (same ▸ absent)
    · have tally := (tallied.present key e present).active
      simp only [IPGuard.idle, Bool.and_eq_true, beq_iff_eq] at idle
      simp only [Traffic.outstanding] at tally ⊢
      omega

theorem Tallied.current (tallied : Tallied configured state) (positive : Positive configured)
    (key : GoString) (now : Int) :
    (state.guard.current key now).active = state.outstanding key ∧
      (state.guard.current key now).count =
        sinceReset key (entered state.guard key now state.log) := by
  cases present : state.guard.entries key with
  | none =>
      have opens : ¬state.guard.window ≤ 0 := by
        rw [tallied.window]
        exact Int.not_le.mpr positive.window
      simp [IPGuard.current, IPGuard.resets, entered, present, opens, tallied.absent key present,
        sinceReset_snoc]
  | some e =>
      have tally := tallied.present key e present
      by_cases elapsed : state.guard.window ≤ Clock.sub now e.windowStart
      · simp [IPGuard.current, IPGuard.resets, entered, present, elapsed, tally.active,
          sinceReset_snoc]
      · simp [IPGuard.current, IPGuard.resets, entered, present, elapsed, tally.active, tally.count]

theorem Tallied.settle (tallied : Tallied configured state) {key : GoString} {e : Entry}
    {next : Traffic} (guard : next.guard = state.guard.put key e) (own : Tally next key e)
    (outstanding : ∀ other, other ≠ key → next.outstanding other = state.outstanding other)
    (since : ∀ other, other ≠ key → sinceReset other next.log = sinceReset other state.log) :
    Tallied configured next where
  maxConcurrent := by rw [guard]; exact tallied.maxConcurrent
  maxPerWindow := by rw [guard]; exact tallied.maxPerWindow
  window := by rw [guard]; exact tallied.window
  present other entry present := by
    rw [guard] at present
    by_cases same : other = key
    · subst same
      rw [IPGuard.put_entries_self] at present
      cases present
      exact own
    · rw [IPGuard.put_entries_ne _ same] at present
      have tally := tallied.present other entry present
      exact ⟨by rw [outstanding other same]; exact tally.active,
        by rw [since other same]; exact tally.count⟩
  absent other absent := by
    rw [guard] at absent
    by_cases same : other = key
    · subst same
      simp at absent
    · rw [IPGuard.put_entries_ne _ same] at absent
      rw [outstanding other same]
      exact tallied.absent other absent

/-- How an `Acquire` ends: it is granted where there is room of both kinds, and refused
otherwise. -/
theorem acquire_cases (state : Traffic) (addr : Option GoString) (now : Int) :
    let guard := state.guard.enter true now
    let key := addressKey addr
    let log := entered guard key now state.log
    ((guard.current key now).active < guard.maxConcurrent ∧
      (guard.current key now).count < guard.maxPerWindow ∧
      state.guard.acquire true addr now =
        (guard.put key
          { guard.current key now with
            active := (guard.current key now).active + 1
            count := (guard.current key now).count + 1
            lastSeen := now },
          some { key, done := false }) ∧
      state.acquire true addr now =
        { guard := guard.put key
            { guard.current key now with
              active := (guard.current key now).active + 1
              count := (guard.current key now).count + 1
              lastSeen := now }
          releases := state.releases ++ [{ key, done := false }]
          clock := now
          log := log ++ [.granted key] }) ∨
    ((guard.maxConcurrent ≤ (guard.current key now).active ∨
      guard.maxPerWindow ≤ (guard.current key now).count) ∧
      state.guard.acquire true addr now =
        (guard.put key { guard.current key now with lastSeen := now }, none) ∧
      state.acquire true addr now =
        { state with
          guard := guard.put key { guard.current key now with lastSeen := now }
          clock := now
          log := log ++ [.refused key] }) := by
  dsimp only
  simp only [Traffic.acquire, IPGuard.acquire, IPGuard.grant]
  split
  · rename_i full
    exact .inr ⟨full, rfl, rfl⟩
  · rename_i room
    simp only [not_or, not_le] at room
    exact .inl ⟨room.1, room.2, rfl, rfl⟩

theorem Tallied.acquire (tallied : Tallied configured state) (positive : Positive configured)
    (addr : Option GoString) (now : Int) :
    Tallied configured (state.acquire true addr now) := by
  have swept := tallied.enter true now
  rcases swept.current positive (addressKey addr) now with ⟨active, count⟩
  have since : ∀ (happened : Happened) (other : GoString), other ≠ addressKey addr →
      happened ≠ .reset other → happened ≠ .granted other →
      sinceReset other (entered (state.guard.enter true now) (addressKey addr) now state.log ++
        [happened]) = sinceReset other state.log := by
    intro happened other different notReset notGranted
    rw [sinceReset_snoc, if_neg notReset, if_neg notGranted, sinceReset_entered_ne _ different]
  rcases acquire_cases state addr now with ⟨_, _, _, equal⟩ | ⟨_, _, equal⟩
  · rw [equal]
    refine swept.settle rfl ⟨?_, ?_⟩ ?_ ?_
    · rw [outstanding_append, if_pos rfl, Int.natCast_add]
      simp only at active ⊢
      rw [active]
      rfl
    · simp only at count ⊢
      rw [sinceReset_snoc, if_neg (by simp), if_pos rfl, count, Int.natCast_add]
      rfl
    · intro other different
      rw [outstanding_append, if_neg (Ne.symm different)]
      rfl
    · intro other different
      exact since _ other different (by simp) (by simpa using Ne.symm different)
  · rw [equal]
    refine swept.settle rfl ⟨active, ?_⟩ (fun _ _ => rfl) ?_
    · simp only at count ⊢
      rw [sinceReset_snoc, if_neg (by simp), if_neg (by simp), count]
    · intro other different
      exact since _ other different (by simp) (by simp)

theorem Tallied.release (tallied : Tallied configured state) {index : Nat}
    {function : IPGuard.Release} (present : state.releases[index]? = some function) (now : Int) :
    Tallied configured (state.release index function now) := by
  simp only [Traffic.release]
  cases used : function.done with
  | true =>
      exact ⟨tallied.maxConcurrent, tallied.maxPerWindow, tallied.window,
        fun key e found => ⟨(tallied.present key e found).active,
          (tallied.present key e found).count⟩, tallied.absent⟩
  | false =>
      have counted := fun guard other clock =>
        outstanding_set present used guard other clock
      have own := counted state.guard function.key state.clock
      rw [if_pos rfl] at own
      cases entry : state.guard.entries function.key with
      | none =>
          have absent := tallied.absent function.key entry
          omega
      | some e =>
          have tally := tallied.present function.key e entry
          have before := tally.active
          have held : 0 < e.active := by omega
          simp only [Bool.false_eq_true, if_false, IPGuard.release, entry, if_pos held]
          refine tallied.settle rfl ⟨?_, tally.count⟩ ?_ (fun _ _ => rfl)
          · have after := counted
              (state.guard.put function.key { e with active := e.active - 1, lastSeen := now })
              function.key now
            rw [if_pos rfl] at after
            dsimp only
            omega
          · intro other different
            have after := counted
              (state.guard.put function.key { e with active := e.active - 1, lastSeen := now })
              other now
            rwa [if_neg (Ne.symm different)] at after

/-! ## Refusals -/

theorem pureRate_nil (limit : Int) : PureRate limit [] := by
  intro before key after empty
  simp at empty

theorem pureRate_snoc (limit : Int) (log : List Happened) (happened : Happened) :
    PureRate limit (log ++ [happened]) ↔ PureRate limit log ∧
      ∀ key, happened = .refused key → limit ≤ sinceReset key log := by
  constructor
  · intro pure
    refine ⟨fun before key after equal => ?_, fun key equal => ?_⟩
    · exact pure before key (after ++ [happened]) (by rw [equal]; simp)
    · exact pure log key [] (by rw [equal])
  · rintro ⟨pure, last⟩ before key after equal
    rcases List.eq_nil_or_concat after with rfl | ⟨middle, final, rfl⟩
    · rcases List.append_inj' equal rfl with ⟨rfl, single⟩
      exact last key (List.head_eq_of_cons_eq single)
    · rw [List.concat_eq_append, ← List.cons_append, ← List.append_assoc] at equal
      exact pure before key middle (List.append_inj' equal rfl).1

theorem pureRate_entered (limit : Int) (guard : IPGuard) (key : GoString) (now : Int)
    (log : List Happened) : PureRate limit (entered guard key now log) ↔ PureRate limit log := by
  simp only [entered]
  split
  · rw [pureRate_snoc]
    exact ⟨And.left, fun pure => ⟨pure, fun _ equal => by cases equal⟩⟩
  · rw [List.append_nil]

theorem Tallied.acquire_pure (tallied : Tallied configured state)
    (positive : Positive configured) (addr : Option GoString) (now : Int) :
    PureRate configured.maxPerWindow (state.acquire true addr now).log ↔
      PureRate configured.maxPerWindow state.log ∧
        ((state.outstanding (addressKey addr) : Int) < state.guard.maxConcurrent ∨
          state.guard.maxPerWindow ≤
            ((state.guard.enter true now).current (addressKey addr) now).count) := by
  have swept := tallied.enter true now
  rcases swept.current positive (addressKey addr) now with ⟨active, count⟩
  have active : ((state.guard.enter true now).current (addressKey addr) now).active =
    state.outstanding (addressKey addr) := active
  have limit := tallied.maxPerWindow
  rcases acquire_cases state addr now with ⟨room, _, _, equal⟩ | ⟨full, _, equal⟩
  · rw [equal, pureRate_snoc, pureRate_entered]
    rw [active, IPGuard.enter_maxConcurrent] at room
    constructor
    · exact fun pure => ⟨pure.1, .inl room⟩
    · exact fun pure => ⟨pure.1, fun _ same => by cases same⟩
  · rw [equal, pureRate_snoc, pureRate_entered]
    simp only [IPGuard.enter_maxConcurrent, IPGuard.enter_maxPerWindow] at full
    rw [active] at full
    constructor
    · rintro ⟨pure, enough⟩
      have used := enough _ rfl
      simp only at count
      refine ⟨pure, .inr ?_⟩
      omega
    · rintro ⟨pure, uncrowded⟩
      refine ⟨pure, fun key same => ?_⟩
      cases same
      simp only at count
      omega

theorem release_log (index : Nat) (function : IPGuard.Release) (now : Int) :
    (state.release index function now).log = state.log := by
  simp only [Traffic.release]
  split <;> rfl

/-! ## Runs -/

variable {pool : AllowPool}

/-- A step keeps the tallies, and adds no wrong refusal exactly where it meets the
condition. -/
theorem Tallied.step (tallied : Tallied configured pool.shared)
    (positive : Positive configured) {event : PoolEvent AllowThread Int} {next : AllowPool}
    (step : allowProgram.machine.step pool event = some next) :
    Tallied configured next.shared ∧
      (PureRate configured.maxPerWindow next.shared.log ↔
        PureRate configured.maxPerWindow pool.shared.log ∧ Uncrowded pool event) := by
  rcases Program.step_cases step with
    ⟨thread, rfl, _, rfl⟩ | ⟨self, now, thread, shared, moved, rfl, present, taken, rfl⟩
  · exact ⟨tallied, fun pure => ⟨pure, trivial⟩, And.left⟩
  · have taken : AllowThread.step self pool.shared thread now = some (shared, moved) := taken
    simp only [Uncrowded, present, Pool.update_shared]
    cases thread with
    | start addr =>
        have acquired : shared = pool.shared.acquire true addr now := by
          simp only [AllowThread.step] at taken
          split at taken <;> cases taken <;> rfl
        rw [acquired]
        exact ⟨tallied.acquire positive addr now, tallied.acquire_pure positive addr now⟩
    | recorded index =>
        simp only [AllowThread.step, Option.map_eq_some_iff] at taken
        rcases taken with ⟨function, found, equal⟩
        cases equal
        rw [release_log]
        exact ⟨tallied.release found now, fun pure => ⟨pure, trivial⟩, And.left⟩
    | returned ok => cases taken

def attempts : List (PoolEvent AllowThread Int) :=
  [.spawn (.start none), .advance 0 0, .advance 0 0, .spawn (.start none), .advance 1 1,
    .advance 1 1, .spawn (.start none), .advance 2 2]

end Rdpulse.RateLimit
