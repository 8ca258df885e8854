import Rdpulse.Foundation.Execution
import Rdpulse.RateLimit.IPGuard

namespace Rdpulse.RateLimit

open Foundation Protocol

/-! Any sequence of calls on one guard: of `Acquire` and of the functions it returned.
The accounts of each key are right, and the sweeps cannot be seen. `Allow` is two such
calls, the second of what the first returned. -/

inductive Call
  | acquire (addr : Option GoString) (now : Int)
  /-- Of the function that the grant numbered `index` returned. -/
  | release (index : Nat) (now : Int)
  deriving DecidableEq

def Call.now : Call → Int
  | .acquire _ now => now
  | .release _ now => now

inductive Happened
  | reset (key : GoString)
  | granted (key : GoString)
  | refused (key : GoString)
  deriving DecidableEq

/-- The guard, the functions it has returned, the last reading of the clock, and what
has happened. -/
structure Traffic where
  guard : IPGuard
  releases : List IPGuard.Release
  clock : Int
  log : List Happened

def Traffic.initial (guard : IPGuard) (clock : Int) : Traffic where
  guard := guard
  releases := []
  clock := clock
  log := []

def entered (guard : IPGuard) (key : GoString) (now : Int) (log : List Happened) :
    List Happened :=
  log ++ if guard.resets key now then [.reset key] else []

namespace Traffic

def acquire (state : Traffic) (sweeping : Bool) (addr : Option GoString) (now : Int) : Traffic :=
  let key := addressKey addr
  let log := entered (state.guard.enter sweeping now) key now state.log
  match state.guard.acquire sweeping addr now with
  | (guard, some function) =>
      { guard, releases := state.releases ++ [function], clock := now,
        log := log ++ [.granted key] }
  | (guard, none) => { state with guard, clock := now, log := log ++ [.refused key] }

def release (state : Traffic) (index : Nat) (function : IPGuard.Release) (now : Int) : Traffic :=
  if function.done then { state with clock := now }
  else
    { state with
      guard := state.guard.release function.key now
      releases := state.releases.set index { function with done := true }
      clock := now }

def answers (state : Traffic) : List Bool :=
  state.log.filterMap fun
    | .reset _ => none
    | .granted _ => some true
    | .refused _ => some false

/-- How many grants of this key have not been released. -/
def outstanding (state : Traffic) (key : GoString) : Nat :=
  state.releases.countP fun function => function.key == key && !function.done

def active (state : Traffic) (key : GoString) : Int :=
  ((state.guard.entries key).map Entry.active).getD 0

end Traffic

/-- The calls on a guard that sweeps, as the code does, or on one that never sweeps. -/
def guarded (sweeping : Bool) : Machine Traffic Call where
  step state
    | .acquire addr now => some (state.acquire sweeping addr now)
    | .release index now =>
        (state.releases[index]?).map fun function => state.release index function now

def NonDecreasing (state : Traffic) (call : Call) : Prop :=
  state.clock ≤ call.now

instance (state : Traffic) (call : Call) : Decidable (NonDecreasing state call) :=
  inferInstanceAs (Decidable (_ ≤ _))

/-! ## Windows -/

def sinceReset (key : GoString) (log : List Happened) : Nat :=
  log.foldl (fun count happened =>
    if happened = .reset key then 0
    else if happened = .granted key then count + 1
    else count) 0

/-- No stretch between two resets of a key holds more than `limit` grants of it. -/
def Windowed (limit : Int) (key : GoString) (log : List Happened) : Prop :=
  ∀ before middle after, log = before ++ middle ++ after → .reset key ∉ middle →
    (middle.count (.granted key) : Int) ≤ limit

theorem sinceReset_snoc (key : GoString) (log : List Happened) (happened : Happened) :
    sinceReset key (log ++ [happened]) =
      if happened = .reset key then 0
      else if happened = .granted key then sinceReset key log + 1
      else sinceReset key log := by
  simp [sinceReset, List.foldl_append]

theorem sinceReset_append {key : GoString} (before : List Happened) {middle : List Happened}
    (kept : .reset key ∉ middle) :
    sinceReset key (before ++ middle) = sinceReset key before + middle.count (.granted key) := by
  induction middle using List.reverseRecOn with
  | nil => simp
  | append_singleton earlier happened induction =>
      simp only [List.mem_append, List.mem_singleton, not_or] at kept
      rw [← List.append_assoc, sinceReset_snoc, if_neg (Ne.symm kept.2), induction kept.1,
        List.count_append, List.count_singleton]
      by_cases granted : happened = .granted key
      · simp [granted, Nat.add_assoc]
      · simp [granted]

def Counted (limit : Int) (key : GoString) (log : List Happened) : Prop :=
  ∀ length, (sinceReset key (log.take length) : Int) ≤ limit

theorem counted_nil {limit : Int} (positive : 0 < limit) (key : GoString) :
    Counted limit key [] := by
  intro length
  simp only [List.take_nil, sinceReset, List.foldl_nil]
  omega

theorem Counted.last {limit : Int} {key : GoString} {log : List Happened}
    (counted : Counted limit key log) : (sinceReset key log : Int) ≤ limit := by
  simpa using counted log.length

theorem Counted.snoc {limit : Int} {key : GoString} {log : List Happened}
    (counted : Counted limit key log) {happened : Happened}
    (few : (sinceReset key (log ++ [happened]) : Int) ≤ limit) :
    Counted limit key (log ++ [happened]) := by
  intro length
  by_cases within : length ≤ log.length
  · rw [List.take_append_of_le_length within]
    exact counted length
  · rw [List.take_of_length_le (by simp; omega)]
    exact few

theorem Counted.windowed {limit : Int} {key : GoString} {log : List Happened}
    (counted : Counted limit key log) : Windowed limit key log := by
  intro before middle after split kept
  have few := counted (before ++ middle).length
  rw [split, List.take_left, sinceReset_append before kept] at few
  omega

/-! ## One key's account -/

structure Accounted (state : Traffic) (key : GoString) (e : Entry) : Prop where
  active : e.active = state.outstanding key
  concurrent : e.active ≤ state.guard.maxConcurrent
  count : e.count = sinceReset key state.log
  started : e.windowStart ≤ e.lastSeen
  seen : e.lastSeen ≤ state.clock

/-- The invariant. `configured` is the guard as it was made. -/
structure Accounts (configured : IPGuard) (state : Traffic) : Prop where
  maxConcurrent : state.guard.maxConcurrent = configured.maxConcurrent
  maxPerWindow : state.guard.maxPerWindow = configured.maxPerWindow
  window : state.guard.window = configured.window
  present : ∀ key e, state.guard.entries key = some e → Accounted state key e
  absent : ∀ key, state.guard.entries key = none → state.outstanding key = 0
  counted : ∀ key, Counted configured.maxPerWindow key state.log

structure Positive (guard : IPGuard) : Prop where
  maxConcurrent : 0 < guard.maxConcurrent
  maxPerWindow : 0 < guard.maxPerWindow
  window : 0 < guard.window

theorem positive_newIPGuard (maxConcurrent maxPerWindow window : Int) :
    Positive (newIPGuard maxConcurrent maxPerWindow window) := by
  constructor <;> simp only [newIPGuard, Clock.minute, Clock.second] <;> split <;> omega

namespace IPGuard

@[simp] theorem put_entries_self (guard : IPGuard) (key : GoString) (e : Entry) :
    (guard.put key e).entries key = some e := by
  simp [put]

theorem put_entries_ne (guard : IPGuard) {key other : GoString} (different : other ≠ key)
    (e : Entry) : (guard.put key e).entries other = guard.entries other := by
  simp [put, different]

@[simp] theorem put_maxConcurrent (guard : IPGuard) (key : GoString) (e : Entry) :
    (guard.put key e).maxConcurrent = guard.maxConcurrent := rfl

@[simp] theorem put_maxPerWindow (guard : IPGuard) (key : GoString) (e : Entry) :
    (guard.put key e).maxPerWindow = guard.maxPerWindow := rfl

@[simp] theorem put_window (guard : IPGuard) (key : GoString) (e : Entry) :
    (guard.put key e).window = guard.window := rfl

variable (guard : IPGuard) (sweeping : Bool) (key : GoString) (now : Int)

@[simp] theorem enter_maxConcurrent :
    (guard.enter sweeping now).maxConcurrent = guard.maxConcurrent := by
  simp only [enter]
  split <;> rfl

@[simp] theorem enter_maxPerWindow :
    (guard.enter sweeping now).maxPerWindow = guard.maxPerWindow := by
  simp only [enter]
  split <;> rfl

@[simp] theorem enter_window : (guard.enter sweeping now).window = guard.window := by
  simp only [enter]
  split <;> rfl

theorem enter_never : (guard.enter false now).entries = guard.entries := rfl

theorem sweepLocked_entries :
    (guard.sweepLocked now).entries key = guard.entries key ∨
      ((guard.sweepLocked now).entries key = none ∧
        ∃ e, guard.entries key = some e ∧ guard.idle e now = true) := by
  cases present : guard.entries key with
  | none => exact .inl (by simp [sweepLocked, present])
  | some e =>
      cases idle : guard.idle e now with
      | false => exact .inl (by simp [sweepLocked, present, idle, Option.filter])
      | true => exact .inr ⟨by simp [sweepLocked, present, idle, Option.filter], e, rfl, idle⟩

theorem enter_entries :
    (guard.enter sweeping now).entries key = guard.entries key ∨
      ((guard.enter sweeping now).entries key = none ∧
        ∃ e, guard.entries key = some e ∧ guard.idle e now = true) := by
  simp only [enter]
  split
  · exact sweepLocked_entries { guard with operations := guard.operations + 1 } key now
  · exact .inl rfl

theorem grant_cases :
    ((guard.current key now).active < guard.maxConcurrent ∧
      (guard.current key now).count < guard.maxPerWindow ∧
      guard.grant key now =
        (guard.put key
          { guard.current key now with
            active := (guard.current key now).active + 1
            count := (guard.current key now).count + 1
            lastSeen := now },
          some { key, done := false })) ∨
    guard.grant key now = (guard.put key { guard.current key now with lastSeen := now }, none) := by
  simp only [grant]
  split
  · exact .inr rfl
  · rename_i room
    simp only [not_or, not_le] at room
    exact .inl ⟨room.1, room.2, rfl⟩

end IPGuard

/-! ## The steps -/

variable {configured : IPGuard} {state : Traffic}

theorem accounts_initial (positive : Positive configured) (clock : Int)
    (fresh : configured.entries = fun _ => none) :
    Accounts configured (.initial configured clock) where
  maxConcurrent := rfl
  maxPerWindow := rfl
  window := rfl
  present key e present := by simp [Traffic.initial, fresh] at present
  absent _ _ := rfl
  counted key := counted_nil positive.maxPerWindow key

theorem Accounted.nonneg {key : GoString} {e : Entry} (accounted : Accounted state key e) :
    0 ≤ e.active := by
  rw [accounted.active]
  omega

theorem Accounts.later (accounts : Accounts configured state) {now : Int}
    (forward : state.clock ≤ now) : Accounts configured { state with clock := now } where
  maxConcurrent := accounts.maxConcurrent
  maxPerWindow := accounts.maxPerWindow
  window := accounts.window
  present key e present :=
    let account := accounts.present key e present
    ⟨account.active, account.concurrent, account.count, account.started,
      Int.le_trans account.seen forward⟩
  absent := accounts.absent
  counted := accounts.counted

/-- An idle entry counts nothing, so forgetting it leaves the accounts right. -/
theorem Accounts.enter (accounts : Accounts configured state) (sweeping : Bool) (now : Int) :
    Accounts configured { state with guard := state.guard.enter sweeping now } where
  maxConcurrent := by simpa using accounts.maxConcurrent
  maxPerWindow := by simpa using accounts.maxPerWindow
  window := by simpa using accounts.window
  present key e present := by
    rcases state.guard.enter_entries sweeping key now with same | ⟨gone, _⟩
    · have account := accounts.present key e (same ▸ present)
      exact ⟨account.active, by simpa using account.concurrent, account.count, account.started,
        account.seen⟩
    · simp [gone] at present
  absent key absent := by
    rcases state.guard.enter_entries sweeping key now with same | ⟨_, e, present, idle⟩
    · exact accounts.absent key (same ▸ absent)
    · have account := (accounts.present key e present).active
      simp only [IPGuard.idle, Bool.and_eq_true, beq_iff_eq] at idle
      simp only [Traffic.outstanding] at account ⊢
      omega
  counted := accounts.counted

theorem sinceReset_entered_ne (guard : IPGuard) {key other : GoString} (different : other ≠ key)
    (now : Int) (log : List Happened) :
    sinceReset other (entered guard key now log) = sinceReset other log := by
  simp only [entered]
  split
  · simp [sinceReset_snoc, Ne.symm different]
  · simp

theorem counted_entered (guard : IPGuard) (key : GoString) (now : Int) {limit : Int}
    {log : List Happened} {other : GoString} (counted : Counted limit other log)
    (positive : 0 < limit) : Counted limit other (entered guard key now log) := by
  simp only [entered]
  split
  · apply counted.snoc
    have last := counted.last
    rw [sinceReset_snoc]
    split
    · exact Int.le_of_lt positive
    · simpa using last
  · simpa using counted

structure Ready (state : Traffic) (key : GoString) (now : Int) : Prop where
  active : (state.guard.current key now).active = state.outstanding key
  concurrent : (state.guard.current key now).active ≤ state.guard.maxConcurrent
  count : (state.guard.current key now).count =
    sinceReset key (entered state.guard key now state.log)
  started : (state.guard.current key now).windowStart ≤ now

theorem Accounts.ready (accounts : Accounts configured state) (positive : Positive configured)
    {now : Int} (forward : state.clock ≤ now) (key : GoString) : Ready state key now := by
  have room := positive.maxConcurrent
  rw [← accounts.maxConcurrent] at room
  cases present : state.guard.entries key with
  | none =>
      have none_out := accounts.absent key present
      have opens := positive.window
      rw [← accounts.window] at opens
      constructor <;>
        simp only [IPGuard.current, IPGuard.resets, entered, present, Option.getD_none,
          Clock.sub_self, if_neg (Int.not_le.mpr opens), none_out, sinceReset_snoc, if_true]
      · rfl
      · exact Int.le_of_lt room
      · rfl
      · exact Int.le_refl now
  | some e =>
      have account := accounts.present key e present
      have before := Int.le_trans account.started (Int.le_trans account.seen forward)
      by_cases elapsed : state.guard.window ≤ Clock.sub now e.windowStart
      · constructor <;>
          simp only [IPGuard.current, IPGuard.resets, entered, present, Option.getD_some,
            decide_eq_true_eq, if_pos elapsed, sinceReset_snoc]
        · exact account.active
        · exact account.concurrent
        · rfl
        · exact Int.le_refl now
      · constructor <;>
          simp only [IPGuard.current, IPGuard.resets, entered, present, Option.getD_some,
            decide_eq_true_eq, if_neg elapsed, List.append_nil]
        · exact account.active
        · exact account.concurrent
        · exact account.count
        · exact before

theorem Accounts.settle (accounts : Accounts configured state) {key : GoString} {e : Entry}
    {next : Traffic} (guard : next.guard = state.guard.put key e)
    (own : Accounted next key e)
    (outstanding : ∀ other, other ≠ key → next.outstanding other = state.outstanding other)
    (since : ∀ other, other ≠ key → sinceReset other next.log = sinceReset other state.log)
    (clock : state.clock ≤ next.clock)
    (counted : ∀ other, Counted configured.maxPerWindow other next.log) :
    Accounts configured next where
  maxConcurrent := by rw [guard]; exact accounts.maxConcurrent
  maxPerWindow := by rw [guard]; exact accounts.maxPerWindow
  window := by rw [guard]; exact accounts.window
  present other entry present := by
    rw [guard] at present
    by_cases same : other = key
    · subst same
      rw [IPGuard.put_entries_self] at present
      cases present
      exact own
    · rw [IPGuard.put_entries_ne _ same] at present
      have account := accounts.present other entry present
      exact ⟨by rw [outstanding other same]; exact account.active,
        by rw [guard]; exact account.concurrent, by rw [since other same]; exact account.count,
        account.started, Int.le_trans account.seen clock⟩
  absent other absent := by
    rw [guard] at absent
    by_cases same : other = key
    · subst same
      simp at absent
    · rw [IPGuard.put_entries_ne _ same] at absent
      rw [outstanding other same]
      exact accounts.absent other absent
  counted := counted

theorem outstanding_append (state : Traffic) (guard : IPGuard) (key other : GoString)
    (clock : Int) (log : List Happened) :
    ({ guard, releases := state.releases ++ [{ key, done := false }], clock, log } :
      Traffic).outstanding other =
      state.outstanding other + if key = other then 1 else 0 := by
  by_cases same : key = other <;> simp [Traffic.outstanding, List.countP_append, same]

theorem Accounts.acquire (accounts : Accounts configured state) (positive : Positive configured)
    (sweeping : Bool) (addr : Option GoString) {now : Int} (forward : state.clock ≤ now) :
    Accounts configured (state.acquire sweeping addr now) := by
  have swept := accounts.enter sweeping now
  have ready := swept.ready positive forward (addressKey addr)
  have counted := fun other => counted_entered (state.guard.enter sweeping now) (addressKey addr)
    now (accounts.counted other) positive.maxPerWindow
  have others : ∀ (happened : Happened) (other : GoString), other ≠ addressKey addr →
      happened ≠ .reset other → happened ≠ .granted other →
      sinceReset other (entered (state.guard.enter sweeping now) (addressKey addr) now state.log ++
        [happened]) = sinceReset other state.log := by
    intro happened other different notReset notGranted
    rw [sinceReset_snoc, if_neg notReset, if_neg notGranted, sinceReset_entered_ne _ different]
  simp only [Traffic.acquire, IPGuard.acquire]
  generalize state.guard.enter sweeping now = guard at *
  generalize addressKey addr = key at *
  rcases guard.grant_cases key now with ⟨free, few, equal⟩ | equal <;> rw [equal] <;> dsimp only
  · have counts := ready.count
    have since : sinceReset key (entered guard key now state.log ++ [.granted key]) =
        sinceReset key (entered guard key now state.log) + 1 := by
      simp [sinceReset_snoc]
    refine swept.settle rfl ⟨?_, ?_, ?_, ready.started, Int.le_refl now⟩ ?_ ?_ forward ?_
    · rw [outstanding_append, if_pos rfl, Int.natCast_add, ready.active]
      rfl
    · exact free
    · rw [since, Int.natCast_add, counts]
      rfl
    · intro other different
      rw [outstanding_append, if_neg (Ne.symm different)]
      rfl
    · intro other different
      exact others _ other different (by simp) (by simpa using Ne.symm different)
    · intro other
      apply (counted other).snoc
      by_cases same : other = key
      · subst same
        have limit := swept.maxPerWindow
        dsimp only at limit counts
        rw [since]
        omega
      · rw [others _ other same (by simp) (by simpa using Ne.symm same)]
        exact (accounts.counted other).last
  · refine swept.settle rfl ⟨ready.active, ready.concurrent, ?_, ready.started, Int.le_refl now⟩
      (fun _ _ => rfl) ?_ forward ?_
    · rw [sinceReset_snoc, if_neg (by simp), if_neg (by simp)]
      exact ready.count
    · intro other different
      exact others _ other different (by simp) (by simp)
    · intro other
      apply (counted other).snoc
      rw [sinceReset_snoc, if_neg (by simp), if_neg (by simp)]
      exact (counted other).last

theorem outstanding_set {index : Nat} {function : IPGuard.Release}
    (present : state.releases[index]? = some function) (unused : function.done = false)
    (guard : IPGuard) (other : GoString) (clock : Int) :
    ({ state with
      guard, clock, releases := state.releases.set index { function with done := true } } :
      Traffic).outstanding other + (if function.key = other then 1 else 0) =
      state.outstanding other := by
  rcases List.getElem?_eq_some_iff.mp present with ⟨bound, found⟩
  simp only [Traffic.outstanding]
  rw [List.countP_set bound, found]
  by_cases same : function.key = other
  · have positive : 0 < state.releases.countP fun function =>
        function.key == other && !function.done :=
      List.countP_pos_iff.mpr ⟨function, List.mem_of_getElem? present, by simp [same, unused]⟩
    simp only [same, unused, Bool.not_false, Bool.and_true, beq_self_eq_true, if_true,
      Bool.not_true, Bool.and_false, Bool.false_eq_true, if_false]
    omega
  · simp [same]

theorem Accounts.held (accounts : Accounts configured state) {index : Nat}
    {function : IPGuard.Release} (present : state.releases[index]? = some function)
    (unused : function.done = false) :
    ∃ e, state.guard.entries function.key = some e ∧ 0 < e.active := by
  have counted := outstanding_set present unused state.guard function.key state.clock
  rw [if_pos rfl] at counted
  cases entry : state.guard.entries function.key with
  | none =>
      have absent := accounts.absent function.key entry
      omega
  | some e =>
      have account := (accounts.present function.key e entry).active
      exact ⟨e, rfl, by omega⟩

theorem Accounts.release (accounts : Accounts configured state) {index : Nat}
    {function : IPGuard.Release} (present : state.releases[index]? = some function) {now : Int}
    (forward : state.clock ≤ now) :
    Accounts configured (state.release index function now) := by
  simp only [Traffic.release]
  cases used : function.done with
  | true => simpa using accounts.later forward
  | false =>
      rcases accounts.held present used with ⟨e, entry, active⟩
      have account := accounts.present function.key e entry
      simp only [Bool.false_eq_true, if_false, IPGuard.release, entry, if_pos active]
      refine accounts.settle rfl
        ⟨?_, ?_, account.count, Int.le_trans account.started (Int.le_trans account.seen forward),
          Int.le_refl now⟩ ?_ (fun _ _ => rfl) forward accounts.counted
      · have counted := outstanding_set present used
          (state.guard.put function.key { e with active := e.active - 1, lastSeen := now })
          function.key now
        rw [if_pos rfl] at counted
        have before := account.active
        dsimp only
        omega
      · have before := account.concurrent
        simp only [IPGuard.put_maxConcurrent]
        omega
      · intro other different
        have counted := outstanding_set present used
          (state.guard.put function.key { e with active := e.active - 1, lastSeen := now })
          other now
        rwa [if_neg (Ne.symm different)] at counted

theorem Accounts.step (accounts : Accounts configured state) (positive : Positive configured)
    {sweeping : Bool} {call : Call} {next : Traffic} (forward : NonDecreasing state call)
    (step : (guarded sweeping).step state call = some next) : Accounts configured next := by
  cases call with
  | acquire addr now =>
      cases step
      exact accounts.acquire positive sweeping addr forward
  | release index now =>
      simp only [guarded, Option.map_eq_some_iff] at step
      rcases step with ⟨function, present, rfl⟩
      exact accounts.release present forward

/-! ## Sweeping cannot be seen -/

/-- The entry that only the guard without sweeps still has. The next `Acquire` of its
key resets the window, which leaves what a new entry has. -/
structure Forgotten (never : Traffic) (e : Entry) : Prop where
  idle : e.active = 0
  old : 2 * never.guard.window < never.clock - e.lastSeen

/-- The states that the same calls reach with sweeps and without. -/
structure Alike (swept never : Traffic) : Prop where
  maxConcurrent : swept.guard.maxConcurrent = never.guard.maxConcurrent
  maxPerWindow : swept.guard.maxPerWindow = never.guard.maxPerWindow
  window : swept.guard.window = never.guard.window
  releases : swept.releases = never.releases
  clock : swept.clock = never.clock
  log : swept.log = never.log
  entries : ∀ key, swept.guard.entries key = never.guard.entries key ∨
    (swept.guard.entries key = none ∧
      ∃ e, never.guard.entries key = some e ∧ Forgotten never e)

variable {swept never : Traffic}

theorem alike_refl (state : Traffic) : Alike state state :=
  ⟨rfl, rfl, rfl, rfl, rfl, rfl, fun _ => .inl rfl⟩

theorem Alike.enter (alike : Alike swept never) (accounts : Accounts configured never)
    (small : 2 * configured.window < 2 ^ 63) (positive : Positive configured) {now : Int}
    (forward : never.clock ≤ now) :
    Alike { swept with guard := swept.guard.enter true now, clock := now }
      { never with guard := never.guard.enter false now, clock := now } where
  maxConcurrent := by simpa using alike.maxConcurrent
  maxPerWindow := by simpa using alike.maxPerWindow
  window := by simpa using alike.window
  releases := alike.releases
  clock := rfl
  log := alike.log
  entries key := by
    simp only [IPGuard.enter_never]
    have window := accounts.window
    have length := positive.window
    rcases alike.entries key with same | ⟨gone, e, present, forgotten⟩
    · rcases swept.guard.enter_entries true key now with kept | ⟨gone, e, present, idle⟩
      · exact .inl (kept.trans same)
      · refine .inr ⟨gone, e, same ▸ present, ?_⟩
        have seen := (accounts.present key e (same ▸ present)).seen
        simp only [IPGuard.idle, Bool.and_eq_true, beq_iff_eq, decide_eq_true_eq, alike.window,
          window] at idle
        rw [int64_of_range (by omega) small,
          Clock.lt_sub (Int.le_trans seen forward) (by omega)] at idle
        exact ⟨idle.1, by simpa [window] using idle.2⟩
    · refine .inr ⟨?_, e, present, forgotten.idle, ?_⟩
      · rcases swept.guard.enter_entries true key now with kept | ⟨gone, _⟩
        · exact kept.trans gone
        · exact gone
      · have old := forgotten.old
        simp only [IPGuard.enter_window]
        omega

theorem Alike.current (alike : Alike swept never) (accounts : Accounts configured never)
    (small : 2 * configured.window < 2 ^ 63) (positive : Positive configured)
    (key : GoString) :
    swept.guard.resets key swept.clock = never.guard.resets key never.clock ∧
      ∀ lastSeen, { swept.guard.current key swept.clock with lastSeen } =
        { never.guard.current key never.clock with lastSeen } := by
  have window := accounts.window
  have length := positive.window
  rcases alike.entries key with same | ⟨gone, e, present, forgotten⟩
  · simp [IPGuard.resets, IPGuard.current, same, alike.window, alike.clock]
  · have account := accounts.present key e present
    have started := account.started
    have seen := account.seen
    have old := forgotten.old
    have elapsed : never.guard.window ≤ Clock.sub never.clock e.windowStart := by
      rw [Clock.le_sub (by omega) (by omega)]
      omega
    have fresh : ¬never.guard.window ≤ 0 := by omega
    simp [IPGuard.resets, IPGuard.current, gone, present, elapsed, alike.clock, alike.window, fresh,
      forgotten.idle]

theorem Alike.put (alike : Alike swept never) (key : GoString) (e : Entry)
    (releases : List IPGuard.Release) (log : List Happened) :
    Alike { swept with guard := swept.guard.put key e, releases, log }
      { never with guard := never.guard.put key e, releases, log } where
  maxConcurrent := alike.maxConcurrent
  maxPerWindow := alike.maxPerWindow
  window := alike.window
  releases := rfl
  clock := alike.clock
  log := rfl
  entries other := by
    by_cases same : other = key
    · subst same
      simp
    · simp only [IPGuard.put_entries_ne _ same]
      rcases alike.entries other with same | ⟨gone, e, present, forgotten⟩
      · exact .inl same
      · exact .inr ⟨gone, e, present, forgotten.idle, forgotten.old⟩

theorem Alike.grant (alike : Alike swept never) (key : GoString) (now : Int)
    (current : { swept.guard.current key now with lastSeen := now } =
      { never.guard.current key now with lastSeen := now }) :
    ∃ e function, swept.guard.grant key now = (swept.guard.put key e, function) ∧
      never.guard.grant key now = (never.guard.put key e, function) := by
  simp only [Entry.mk.injEq] at current
  rcases current with ⟨active, start, count, _⟩
  simp only [IPGuard.grant, active, start, count, alike.maxConcurrent, alike.maxPerWindow]
  split
  · exact ⟨_, _, rfl, rfl⟩
  · exact ⟨_, _, rfl, rfl⟩

theorem Alike.acquire (alike : Alike swept never) (accounts : Accounts configured never)
    (small : 2 * configured.window < 2 ^ 63) (positive : Positive configured)
    (addr : Option GoString) {now : Int} (forward : never.clock ≤ now) :
    Alike (swept.acquire true addr now) (never.acquire false addr now) := by
  have entering := alike.enter accounts small positive forward
  rcases entering.current ((accounts.enter false now).later forward) small positive
    (addressKey addr) with ⟨resets, currents⟩
  rcases entering.grant (addressKey addr) now (currents now) with ⟨e, function, granted, twin⟩
  have log := alike.log
  have releases := alike.releases
  dsimp only at resets granted twin
  simp only [Traffic.acquire, IPGuard.acquire, entered, resets, log, releases, granted, twin]
  cases function with
  | none => exact entering.put _ _ _ _
  | some function => exact entering.put _ _ _ _

theorem Alike.release (alike : Alike swept never) (accounts : Accounts configured never)
    {index : Nat} {function : IPGuard.Release}
    (present : never.releases[index]? = some function) {now : Int}
    (forward : never.clock ≤ now) :
    Alike (swept.release index function now) (never.release index function now) := by
  have later : Alike { swept with clock := now } { never with clock := now } := by
    refine ⟨alike.maxConcurrent, alike.maxPerWindow, alike.window, alike.releases, rfl, alike.log,
      fun key => ?_⟩
    rcases alike.entries key with same | ⟨gone, e, present, idle, old⟩
    · exact .inl same
    · exact .inr ⟨gone, e, present, idle, by dsimp only; omega⟩
  simp only [Traffic.release]
  cases used : function.done with
  | true => simpa using later
  | false =>
      rcases accounts.held present used with ⟨e, entry, active⟩
      -- The entry still counts this grant, so no sweep has taken it.
      have kept : swept.guard.entries function.key = some e := by
        rcases alike.entries function.key with same | ⟨_, other, present, forgotten⟩
        · exact same.trans entry
        · rw [entry] at present
          cases present
          have idle := forgotten.idle
          omega
      simp only [Bool.false_eq_true, if_false, IPGuard.release, entry, kept, if_pos active,
        alike.releases, alike.log]
      exact later.put _ _ _ _

theorem Alike.step (alike : Alike swept never) (accounts : Accounts configured never)
    (small : 2 * configured.window < 2 ^ 63) (positive : Positive configured) {call : Call}
    {next : Traffic} (forward : NonDecreasing swept call)
    (step : (guarded true).step swept call = some next) :
    ∃ twin, (guarded false).step never call = some twin ∧ Alike next twin := by
  rw [NonDecreasing, alike.clock] at forward
  cases call with
  | acquire addr now =>
      cases step
      exact ⟨_, rfl, alike.acquire accounts small positive addr forward⟩
  | release index now =>
      simp only [guarded, Option.map_eq_some_iff] at step ⊢
      rcases step with ⟨function, present, rfl⟩
      rw [alike.releases] at present
      exact ⟨_, ⟨function, present, rfl⟩, alike.release accounts present forward⟩

theorem run_accounts (positive : Positive configured)
    (fresh : configured.entries = fun _ => none) {sweeping : Bool} {clock : Int}
    {calls : List Call} {finish : Traffic}
    (run : (guarded sweeping).Run NonDecreasing (.initial configured clock) calls finish) :
    Accounts configured finish :=
  run.preserves (accounts_initial positive clock fresh) fun _ _ _ accounts forward step =>
    accounts.step positive forward step

theorem run_alike (positive : Positive configured) (fresh : configured.entries = fun _ => none)
    (small : 2 * configured.window < 2 ^ 63) {clock : Int} {calls : List Call} {finish : Traffic}
    (run : (guarded true).Run NonDecreasing (.initial configured clock) calls finish) :
    ∃ twin, (guarded false).Run NonDecreasing (.initial configured clock) calls twin ∧
      Alike finish twin := by
  induction run with
  | nil => exact ⟨_, .nil, alike_refl _⟩
  | snoc _ forward step induction =>
      rcases induction with ⟨never, past, alike⟩
      rcases alike.step (run_accounts positive fresh past) small positive forward step with
        ⟨twin, taken, alike'⟩
      rw [NonDecreasing, alike.clock] at forward
      exact ⟨twin, past.snoc forward taken, alike'⟩

/-- The accounts of every key after any calls on a new guard, and its answers. Twice the
window is to be an `int64`, as it is for the second and the minute of the callers. -/
theorem accounting (maxConcurrent maxPerWindow window clock : Int) (small : window < 2 ^ 62)
    {calls : List Call} {finish : Traffic}
    (run : (guarded true).Run NonDecreasing
      (.initial (newIPGuard maxConcurrent maxPerWindow window) clock) calls finish) :
    (∀ key, finish.active key = finish.outstanding key ∧ 0 ≤ finish.active key ∧
      finish.active key ≤ (newIPGuard maxConcurrent maxPerWindow window).maxConcurrent) ∧
    (∀ key, Windowed (newIPGuard maxConcurrent maxPerWindow window).maxPerWindow key
      finish.log) ∧
    ∃ never, (guarded false).Run NonDecreasing
        (.initial (newIPGuard maxConcurrent maxPerWindow window) clock) calls never ∧
      never.answers = finish.answers := by
  have positive := positive_newIPGuard maxConcurrent maxPerWindow window
  have accounts := run_accounts positive rfl run
  refine ⟨fun key => ?_, fun key => (accounts.counted key).windowed, ?_⟩
  · have room := positive.maxConcurrent
    cases entry : finish.guard.entries key with
    | none =>
        have absent := accounts.absent key entry
        simp only [Traffic.active, entry, Option.map_none, Option.getD_none, absent]
        omega
    | some e =>
        have account := accounts.present key e entry
        have limit := account.concurrent
        rw [accounts.maxConcurrent] at limit
        simp only [Traffic.active, entry, Option.map_some, Option.getD_some]
        exact ⟨account.active, account.nonneg, limit⟩
  · have short : 2 * (newIPGuard maxConcurrent maxPerWindow window).window < 2 ^ 63 := by
      simp only [newIPGuard, Clock.minute, Clock.second]
      split <;> omega
    rcases run_alike positive rfl short run with ⟨never, past, alike⟩
    exact ⟨never, past, by rw [Traffic.answers, Traffic.answers, alike.log]⟩

/-- One connection at a time and two starts in a minute, from "1:2". The second attempt
finds the first connection open, and the fourth comes too early in the window. -/
def busyCalls : List Call :=
  [.acquire (some [49, 58, 50]) 0, .acquire (some [49, 58, 50]) 1, .release 0 2, .release 0 3,
    .acquire (some [49, 58, 50]) 4, .release 1 5, .acquire (some [49, 58, 50]) 6]

/-- Three minutes later there are attempts from elsewhere, up to the sweep of operation
number 128, which forgets "1". -/
def laterCalls : List Call :=
  List.replicate 124 (.acquire none (3 * Clock.minute))

theorem accounting_busy :
    ∃ finish, (guarded true).Run NonDecreasing (.initial (newIPGuard 1 2 Clock.minute) 0)
        (busyCalls ++ laterCalls) finish ∧
      finish.guard.entries [49] = none ∧
      finish.answers = [true, false, true, false] ++ true :: List.replicate 123 false ∧
      (∀ key, finish.active key = finish.outstanding key ∧ 0 ≤ finish.active key ∧
        finish.active key ≤ (newIPGuard 1 2 Clock.minute).maxConcurrent) ∧
      (∀ key, Windowed (newIPGuard 1 2 Clock.minute).maxPerWindow key finish.log) ∧
      ∃ never, (guarded false).Run NonDecreasing (.initial (newIPGuard 1 2 Clock.minute) 0)
          (busyCalls ++ laterCalls) never ∧
        never.answers = finish.answers := by
  rcases (guarded true).exists_run NonDecreasing (fun finish =>
    finish.guard.entries [49] = none ∧
      finish.answers = [true, false, true, false] ++ true :: List.replicate 123 false)
    (.initial (newIPGuard 1 2 Clock.minute) 0) (busyCalls ++ laterCalls) (by decide +kernel) with
    ⟨finish, run, swept, answers⟩
  exact ⟨finish, run, swept, answers, accounting 1 2 Clock.minute 0 (by decide) run⟩

/-- One start in a window, from "1:2": it is released, and 127 further attempts follow. -/
def wideCalls : List Call :=
  .acquire (some [49, 58, 50]) 0 :: .release 0 1 ::
    List.replicate 127 (.acquire (some [49, 58, 50]) 2)

/-- Twice a window of `2 ^ 62` is negative as an `int64`. The sweep forgets an entry
within its window, and the last attempt, refused without sweeps, is granted. -/
theorem sweep_seen :
    ∃ swept never,
      (guarded true).Run NonDecreasing (.initial (newIPGuard 1 1 (2 ^ 62)) 0) wideCalls swept ∧
      (guarded false).Run NonDecreasing (.initial (newIPGuard 1 1 (2 ^ 62)) 0) wideCalls never ∧
      swept.answers = true :: List.replicate 126 false ++ [true] ∧
      never.answers = true :: List.replicate 127 false ∧ swept.answers ≠ never.answers := by
  rcases (guarded true).exists_run NonDecreasing
    (fun swept => swept.answers = true :: List.replicate 126 false ++ [true])
    (.initial (newIPGuard 1 1 (2 ^ 62)) 0) wideCalls (by decide +kernel) with ⟨swept, run, granted⟩
  rcases (guarded false).exists_run NonDecreasing
    (fun never => never.answers = true :: List.replicate 127 false)
    (.initial (newIPGuard 1 1 (2 ^ 62)) 0) wideCalls (by decide +kernel) with
    ⟨never, other, refused⟩
  refine ⟨swept, never, run, other, granted, refused, ?_⟩
  rw [granted, refused]
  decide

end Rdpulse.RateLimit
