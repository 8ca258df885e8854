import Mathlib.Data.Nat.Bitwise
import Rdpulse.Foundation.ReceiveLog

namespace Rdpulse.UDP

open Foundation

/-! The replay window: the highest packet number so far and a 64-bit map of the
numbers just behind it. -/

structure ReplayWindow where
  initialized : Bool
  highest : UInt32
  bitmap : UInt64
  deriving DecidableEq, Repr

namespace ReplayWindow

def new : ReplayWindow := ⟨false, 0, 0⟩

def delta (window : ReplayWindow) (packetID : UInt32) : Int32 :=
  (packetID - window.highest).toInt32

def bit (window : ReplayWindow) (behind : UInt32) : Bool :=
  window.bitmap &&& ((1 : UInt64) <<< behind.toUInt64) ≠ 0

def seen (window : ReplayWindow) (packetID : UInt32) : Bool :=
  if window.initialized = false then false
  else
    let delta := window.delta packetID
    if 0 < delta then false
    else
      let behind := (-delta).toUInt32
      64 ≤ behind || window.bit behind

def markCompleted (window : ReplayWindow) (packetID : UInt32) : Bool × ReplayWindow :=
  if window.initialized = false then (true, ⟨true, packetID, 1⟩)
  else
    let delta := window.delta packetID
    if 0 < delta then
      let shift := delta.toUInt32
      let bitmap := if 64 ≤ shift then 1 else window.bitmap <<< shift.toUInt64 ||| 1
      (true, { window with highest := packetID, bitmap })
    else
      let behind := (-delta).toUInt32
      if 64 ≤ behind then (false, window)
      else if window.bit behind then (false, window)
      else (true, { window with bitmap := window.bitmap ||| (1 : UInt64) <<< behind.toUInt64 })

/-! ## Machine arithmetic -/

theorem toInt_toInt32 (value : UInt32) :
    value.toInt32.toInt = if 2 * value.toNat < 2 ^ 32 then (value.toNat : Int)
      else value.toNat - 2 ^ 32 :=
  BitVec.toInt_eq_toNat_cond _

theorem delta_eq_bmod (window : ReplayWindow) (packetID : UInt32) :
    (window.delta packetID).toInt =
      Int.bmod ((packetID.toNat : Int) - window.highest.toNat) (2 ^ 32) := by
  have first := packetID.toNat_lt
  have second := window.highest.toNat_lt
  rw [delta, toInt_toInt32, UInt32.toNat_sub, Int.bmod]
  omega

theorem zero_lt_delta {window : ReplayWindow} {packetID : UInt32} :
    0 < window.delta packetID ↔ 0 < (window.delta packetID).toInt :=
  Int32.lt_iff_toInt_lt

theorem shift_toNat {window : ReplayWindow} {packetID : UInt32}
    (ahead : 0 < (window.delta packetID).toInt) :
    ((window.delta packetID).toUInt32.toNat : Int) = (window.delta packetID).toInt := by
  have bounded := (packetID - window.highest).toNat_lt
  rw [delta, toInt_toInt32] at ahead
  rw [delta, toInt_toInt32, UInt32.toUInt32_toInt32]
  omega

/-- Negation is exact: that of the least `int32` reads 2^31 as a `uint32`. -/
theorem behind_toNat {window : ReplayWindow} {packetID : UInt32}
    (notAhead : ¬0 < (window.delta packetID).toInt) :
    ((-window.delta packetID).toUInt32.toNat : Int) = -(window.delta packetID).toInt := by
  have bounded := (packetID - window.highest).toNat_lt
  rw [delta, toInt_toInt32] at notAhead
  rw [delta, ← UInt32.toInt32_neg, UInt32.toUInt32_toInt32, UInt32.toNat_neg, UInt32.size,
    toInt_toInt32]
  omega

theorem one_shiftLeft_toNat {behind : UInt32} (inWindow : behind.toNat < 64) :
    ((1 : UInt64) <<< behind.toUInt64).toNat = 2 ^ behind.toNat := by
  have power : 2 ^ behind.toNat < 2 ^ 64 := Nat.pow_lt_pow_right (by omega) inWindow
  rw [UInt64.toNat_shiftLeft, UInt32.toNat_toUInt64, Nat.mod_eq_of_lt inWindow, UInt64.toNat_one,
    Nat.one_shiftLeft, Nat.mod_eq_of_lt power]

theorem bit_eq_testBit (window : ReplayWindow) {behind : UInt32} (inWindow : behind.toNat < 64) :
    window.bit behind = window.bitmap.toNat.testBit behind.toNat := by
  have masked : (window.bitmap &&& (1 : UInt64) <<< behind.toUInt64).toNat =
      (window.bitmap.toNat.testBit behind.toNat).toNat * 2 ^ behind.toNat := by
    rw [UInt64.toNat_and, one_shiftLeft_toNat inWindow, Nat.and_two_pow]
  simp only [bit, ne_eq, ← UInt64.toNat_inj, masked]
  cases window.bitmap.toNat.testBit behind.toNat <;> simp

theorem testBit_shifted (bitmap : UInt64) {shift : UInt32} (inWindow : shift.toNat < 64)
    {behind : Nat} (bound : behind < 64) :
    (bitmap <<< shift.toUInt64 ||| 1).toNat.testBit behind =
      (decide (behind = 0) || (decide (shift.toNat ≤ behind) &&
        bitmap.toNat.testBit (behind - shift.toNat))) := by
  rw [UInt64.toNat_or, UInt64.toNat_shiftLeft, UInt32.toNat_toUInt64, Nat.mod_eq_of_lt inWindow,
    Nat.testBit_or, Nat.testBit_mod_two_pow, Nat.testBit_shiftLeft, UInt64.toNat_one,
    ← Nat.pow_zero 2, Nat.testBit_two_pow]
  simp [bound, Bool.or_comm, eq_comm]

theorem testBit_set (bitmap : UInt64) {set : UInt32} (inWindow : set.toNat < 64) (behind : Nat) :
    (bitmap ||| (1 : UInt64) <<< set.toUInt64).toNat.testBit behind =
      (bitmap.toNat.testBit behind || decide (set.toNat = behind)) := by
  rw [UInt64.toNat_or, one_shiftLeft_toNat inWindow, Nat.testBit_or, Nat.testBit_two_pow]

/-! ## The window keeps the last 64 numbers of an unbounded log -/

def width : Nat := 64

structure Represents (window : ReplayWindow) (log : ReceiveLog) : Prop where
  initialized : window.initialized = true
  highest : (window.highest.toNat : Int) = log.highest % 2 ^ 32
  bitmap : ∀ behind < width,
    window.bitmap.toNat.testBit behind = decide (log.highest - behind ∈ log.marked)

variable {window : ReplayWindow} {log : ReceiveLog}

theorem markCompleted_first (fresh : window.initialized = false) (packetID : UInt32) :
    window.markCompleted packetID = (true, ⟨true, packetID, 1⟩) := by
  rw [markCompleted, if_pos fresh]

theorem represents_first (packetID : UInt32) :
    Represents ⟨true, packetID, 1⟩ (.starting packetID.toNat) where
  initialized := rfl
  highest := by
    have bounded := packetID.toNat_lt
    simp only [ReceiveLog.starting]
    omega
  bitmap behind _ := by
    rw [UInt64.toNat_one, ← Nat.pow_zero 2, Nat.testBit_two_pow]
    simp [ReceiveLog.starting, @eq_comm Nat 0]

/-- The difference the window computes is the one that extends the number. -/
theorem Represents.extend (represents : window.Represents log) (packetID : UInt32) :
    log.extend 32 packetID.toNat = log.highest + (window.delta packetID).toInt := by
  have low := represents.highest
  rw [delta_eq_bmod, ReceiveLog.extend]
  simp only [Int.bmod]
  omega

theorem extend_low (log : ReceiveLog) (packetID : UInt32) :
    (packetID.toNat : Int) = log.extend 32 packetID.toNat % 2 ^ 32 := by
  have bounded := packetID.toNat_lt
  rw [ReceiveLog.extend]
  simp only [Int.bmod]
  omega

theorem Represents.ahead (represents : window.Represents log) {packetID : UInt32}
    (ahead : 0 < (window.delta packetID).toInt)
    (fresh : log.extend 32 packetID.toNat ∉ log.marked) :
    Represents
      { window with
        highest := packetID
        bitmap := if 64 ≤ (window.delta packetID).toUInt32 then 1
          else window.bitmap <<< (window.delta packetID).toUInt32.toUInt64 ||| 1 }
      (log.mark _ fresh) := by
  have number := represents.extend packetID
  have shift := shift_toNat ahead
  have top : max log.highest (log.extend 32 packetID.toNat) = log.extend 32 packetID.toNat := by
    omega
  refine ⟨represents.initialized, ?_, fun behind bound => ?_⟩
  · simp only [ReceiveLog.mark, top]
    exact extend_low log packetID
  · simp only [ReceiveLog.mark, top, List.mem_cons]
    have beyond : (behind : Int) < (window.delta packetID).toInt →
        log.extend 32 packetID.toNat - behind ∉ log.marked :=
      fun short => ReceiveLog.not_mem_of_ahead (by omega)
    split
    · rename_i far
      have far' : 64 ≤ (window.delta packetID).toUInt32.toNat := far
      rw [UInt64.toNat_one, ← Nat.pow_zero 2, Nat.testBit_two_pow]
      have unmarked := beyond (by rw [width] at bound; omega)
      simp [unmarked, @eq_comm Nat 0]
    · rename_i near
      have near' : (window.delta packetID).toUInt32.toNat < 64 := Nat.lt_of_not_le near
      rw [testBit_shifted _ near' bound]
      by_cases reaches : (window.delta packetID).toUInt32.toNat ≤ behind
      · have old := represents.bitmap (behind - (window.delta packetID).toUInt32.toNat) (by omega)
        have place : log.highest - ((behind - (window.delta packetID).toUInt32.toNat : Nat) : Int) =
            log.extend 32 packetID.toNat - behind := by omega
        rw [old, place]
        simp [reaches]
      · have unmarked := beyond (by omega)
        simp [reaches, unmarked]

theorem Represents.within (represents : window.Represents log) {packetID : UInt32}
    (notAhead : ¬0 < (window.delta packetID).toInt)
    (inWindow : (-window.delta packetID).toUInt32.toNat < 64)
    (fresh : log.extend 32 packetID.toNat ∉ log.marked) :
    Represents
      { window with
        bitmap := window.bitmap ||| (1 : UInt64) <<< (-window.delta packetID).toUInt32.toUInt64 }
      (log.mark _ fresh) := by
  have number := represents.extend packetID
  have place := behind_toNat notAhead
  have top : max log.highest (log.extend 32 packetID.toNat) = log.highest := by omega
  refine ⟨represents.initialized, ?_, fun behind bound => ?_⟩
  · simp only [ReceiveLog.mark, top]
    exact represents.highest
  · rw [testBit_set _ inWindow, represents.bitmap behind bound]
    have same : (-window.delta packetID).toUInt32.toNat = behind ↔
        log.highest - behind = log.extend 32 packetID.toNat := by omega
    simp only [ReceiveLog.mark, top, List.mem_cons, same, Bool.decide_or, Bool.or_comm]

theorem Represents.bit (represents : window.Represents log) {packetID : UInt32}
    (notAhead : ¬0 < (window.delta packetID).toInt)
    (inWindow : (-window.delta packetID).toUInt32.toNat < 64) :
    window.bit (-window.delta packetID).toUInt32 =
      decide (log.extend 32 packetID.toNat ∈ log.marked) := by
  have number := represents.extend packetID
  have place := behind_toNat notAhead
  rw [bit_eq_testBit window inWindow, represents.bitmap _ inWindow]
  have same : log.highest - (-window.delta packetID).toUInt32.toNat =
      log.extend 32 packetID.toNat := by omega
  rw [same]

/-- `MarkCompleted` answers as the log does, and marks what it accepts. -/
theorem Represents.markCompleted (represents : window.Represents log) (packetID : UInt32) :
    (∃ fresh, log.Accepts width (log.extend 32 packetID.toNat) ∧
      ∃ moved, window.markCompleted packetID = (true, moved) ∧
        moved.Represents (log.mark (log.extend 32 packetID.toNat) fresh)) ∨
    ¬log.Accepts width (log.extend 32 packetID.toNat) ∧
      window.markCompleted packetID = (false, window) := by
  have number := represents.extend packetID
  rw [ReplayWindow.markCompleted, if_neg (by simp [represents.initialized])]
  by_cases ahead : 0 < (window.delta packetID).toInt
  · have accepts : log.Accepts width (log.extend 32 packetID.toNat) := .inl (by omega)
    have fresh := ReceiveLog.not_mem_of_accepts accepts
    rw [if_pos (zero_lt_delta.mpr ahead)]
    exact .inl ⟨fresh, accepts, _, rfl, represents.ahead ahead fresh⟩
  rw [if_neg (fun positive => ahead (zero_lt_delta.mp positive))]
  have place := behind_toNat ahead
  by_cases far : 64 ≤ (-window.delta packetID).toUInt32
  · have far' : 64 ≤ (-window.delta packetID).toUInt32.toNat := far
    rw [if_pos far]
    refine .inr ⟨?_, rfl⟩
    simp only [ReceiveLog.Accepts, width]
    omega
  have inWindow : (-window.delta packetID).toUInt32.toNat < 64 := Nat.lt_of_not_le far
  rw [if_neg far, represents.bit ahead inWindow]
  by_cases marked : log.extend 32 packetID.toNat ∈ log.marked
  · refine .inr ⟨?_, by simp [marked]⟩
    rintro (above | ⟨_, unmarked⟩)
    · omega
    · exact unmarked marked
  · have accepts : log.Accepts width (log.extend 32 packetID.toNat) := by
      refine .inr ⟨?_, marked⟩
      rw [width]
      omega
    exact .inl ⟨marked, accepts, _, by simp [marked], represents.within ahead inWindow marked⟩

theorem seen_eq_not_markCompleted (window : ReplayWindow) (packetID : UInt32) :
    window.seen packetID = !(window.markCompleted packetID).1 := by
  simp only [seen, ReplayWindow.markCompleted]
  by_cases fresh : window.initialized = false
  · simp [fresh]
  by_cases ahead : 0 < window.delta packetID
  · simp [fresh, ahead]
  simp only [if_neg fresh, if_neg ahead]
  by_cases far : 64 ≤ (-window.delta packetID).toUInt32
  · simp only [if_pos far, decide_eq_true far, Bool.true_or, Bool.not_false]
  · simp only [if_neg far, decide_eq_false far, Bool.false_or]
    cases window.bit (-window.delta packetID).toUInt32 <;> rfl

/-! ## Sequences of calls -/

inductive Call
  | markCompleted (packetID : UInt32)
  | seen (packetID : UInt32)
  deriving DecidableEq, Repr

/-- The window, and the unbounded numbers of the calls it answered with true. -/
structure Observed where
  window : ReplayWindow
  highest : Option Int
  accepted : List Int
  deriving DecidableEq, Repr

def Observed.new : Observed := ⟨.new, none, []⟩

/-- The unbounded number of a packet: the highest so far plus the signed 32-bit
difference to it. -/
def Observed.number (observed : Observed) (packetID : UInt32) : Int :=
  match observed.highest with
  | none => packetID.toNat
  | some highest => highest + Int.bmod (packetID.toNat - highest) (2 ^ 32)

def Observed.call (observed : Observed) : Call → Observed
  | .seen _ => observed
  | .markCompleted packetID =>
      let answer := observed.window.markCompleted packetID
      if answer.1 = true then
        { window := answer.2
          highest := some (max (observed.number packetID)
            (observed.highest.getD (observed.number packetID)))
          accepted := observed.number packetID :: observed.accepted }
      else { observed with window := answer.2 }

def Observed.Logged (observed : Observed) : Prop :=
  (observed.window.initialized = false ∧ observed.highest = none ∧ observed.accepted = []) ∨
    ∃ log : ReceiveLog, observed.window.Represents log ∧ observed.highest = some log.highest ∧
      observed.accepted = log.marked

theorem Observed.Logged.call {observed : Observed} (logged : observed.Logged) (call : Call) :
    (observed.call call).Logged := by
  cases call with
  | seen packetID => exact logged
  | markCompleted packetID =>
      rcases logged with ⟨fresh, unset, empty⟩ | ⟨log, represents, highest, accepted⟩
      · simp only [Observed.call, markCompleted_first fresh, if_true, Observed.number, unset, empty]
        exact .inr ⟨.starting packetID.toNat, represents_first packetID, by
          simp [ReceiveLog.starting], rfl⟩
      · have number : observed.number packetID = log.extend 32 packetID.toNat := by
          simp only [Observed.number, highest]
          rfl
        rcases represents.markCompleted packetID with
          ⟨unmarked, _, moved, answered, next⟩ | ⟨_, answered⟩
        · simp only [Observed.call, answered, if_true, number, highest, accepted]
          refine .inr ⟨_, next, ?_, rfl⟩
          simp [ReceiveLog.mark, max_comm]
        · simp only [Observed.call, answered, Bool.false_eq_true, if_false]
          exact .inr ⟨log, represents, highest, accepted⟩

theorem logged_foldl (calls : List Call) : (calls.foldl Observed.call .new).Logged := by
  suffices general : ∀ observed : Observed, observed.Logged →
      (calls.foldl Observed.call observed).Logged from
    general _ (.inl ⟨rfl, rfl, rfl⟩)
  induction calls with
  | nil => exact fun _ logged => logged
  | cons call rest induction => exact fun _ logged => induction _ (logged.call call)

/-- After any calls the window answers as a log of unbounded numbers does: it accepts
what is ahead of everything so far, or at most 63 behind and not accepted before; so
it accepts no number twice, and `Seen` tells its answer. -/
theorem window_implements_log (calls : List Call) (packetID : UInt32) :
    let observed := calls.foldl Observed.call .new
    ((observed.window.markCompleted packetID).1 = true ↔
        ∀ highest, observed.highest = some highest →
          highest < observed.number packetID ∨
            highest - 63 ≤ observed.number packetID ∧
              observed.number packetID ∉ observed.accepted) ∧
      observed.accepted.Nodup ∧
      (∀ number ∈ observed.accepted, ∃ highest, observed.highest = some highest ∧
        number ≤ highest) ∧
      (observed.window.seen packetID = true ↔
        (observed.window.markCompleted packetID).1 = false) := by
  intro observed
  have answers : observed.window.seen packetID = true ↔
      (observed.window.markCompleted packetID).1 = false := by
    rw [seen_eq_not_markCompleted, Bool.not_eq_true']
  rcases logged_foldl calls with ⟨fresh, unset, empty⟩ | ⟨log, represents, highest, accepted⟩
  · refine ⟨?_, ?_, ?_, answers⟩
    · rw [markCompleted_first fresh, unset]
      simp
    · rw [empty]
      exact List.nodup_nil
    · rw [empty]
      simp
  · have number : observed.number packetID = log.extend 32 packetID.toNat := by
      simp only [observed, Observed.number, highest]
      rfl
    refine ⟨?_, ?_, ?_, answers⟩
    · rw [number, highest, accepted]
      simp only [Option.some.injEq, forall_eq']
      have window : log.highest - 63 ≤ log.extend 32 packetID.toNat ↔
          log.highest < log.extend 32 packetID.toNat + width := by
        rw [width]
        omega
      rw [window]
      rcases represents.markCompleted packetID with ⟨_, accepts, _, answered, _⟩ | ⟨refused, answered⟩
      · rw [answered]
        exact iff_of_true rfl accepts
      · rw [answered]
        exact iff_of_false Bool.false_ne_true refused
    · rw [accepted]
      exact log.nodup
    · rw [accepted, highest]
      exact fun number member => ⟨log.highest, rfl, log.bounded number member⟩

end ReplayWindow

end Rdpulse.UDP
