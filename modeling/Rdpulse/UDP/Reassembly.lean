import Mathlib.Algebra.BigOperators.Group.Finset.Basic
import Mathlib.Algebra.Order.BigOperators.Group.Finset
import Mathlib.Data.List.AList
import Rdpulse.Protocol.UDP

namespace Rdpulse.UDP

open Foundation Protocol

/-! Putting fragments together again. Time is counted in one unit throughout. -/

def maxReassemblyPerSession : Nat := 32
def maxGlobalReassemblyCount : Nat := 1024

inductive FeedError
  | invalidFragment
  | closed
  | reassemblyLimit
  | corruptPacketSize
  deriving DecidableEq, Repr

structure ReassemblyKey where
  sessionID : UInt32
  packetID : UInt32
  deriving DecidableEq, Repr

/-- An entry has one slot for each fragment a packet may have, and nothing in the
slots beyond its own count: those are not cleared when it is recycled. -/
structure PacketReassembly where
  fragmentCount : UInt8
  receivedCount : UInt8
  totalBytes : Nat
  fragments : List (Option Bytes)
  createdAt : Nat
  sized : fragments.length = maxUDPFragments
  unused : ∀ index, fragmentCount.toNat ≤ index → (fragments[index]?).join = none

structure PooledReassembly where
  fragments : List (Option Bytes)
  sized : fragments.length = maxUDPFragments
  blank : ∀ index : Nat, (fragments[index]?).join = none

abbrev PendingTable := AList fun _ : ReassemblyKey => PacketReassembly

/-- The pool belongs to the whole process; what others put there is as blank. -/
structure Reassembler where
  timeout : Nat
  pending : PendingTable
  sessionCount : UInt32 → Nat
  closed : Bool
  pool : List PooledReassembly

def PooledReassembly.new : PooledReassembly where
  fragments := List.replicate maxUDPFragments none
  sized := List.length_replicate
  blank index := by
    rw [List.getElem?_replicate]
    split <;> rfl

namespace PacketReassembly

variable (entry : PacketReassembly)

def start (pooled : PooledReassembly) (fragmentCount : UInt8) (now : Nat) :
    PacketReassembly where
  fragmentCount := fragmentCount
  receivedCount := 0
  totalBytes := 0
  fragments := pooled.fragments
  createdAt := now
  sized := pooled.sized
  unused index _ := pooled.blank index

def slot (index : Nat) : Option Bytes := (entry.fragments[index]?).join

def store (index : Nat) (bound : index < entry.fragmentCount.toNat) (payload : Bytes) :
    PacketReassembly where
  fragmentCount := entry.fragmentCount
  receivedCount := entry.receivedCount + 1
  totalBytes := entry.totalBytes + payload.length
  fragments := entry.fragments.set index (some payload)
  createdAt := entry.createdAt
  sized := List.length_set.trans entry.sized
  unused other beyond := by
    rw [List.getElem?_set_ne (by omega)]
    exact entry.unused other beyond

def assembled : Bytes :=
  (entry.fragments.take entry.fragmentCount.toNat).flatMap (fun slot => slot.getD [])

/-- `recycle`: the slots up to the entry's own count are cleared. -/
def recycle : PooledReassembly where
  fragments := entry.fragments.mapIdx fun index slot =>
    if index < entry.fragmentCount.toNat then none else slot
  sized := List.length_mapIdx.trans entry.sized
  blank index := by
    rw [List.getElem?_mapIdx]
    by_cases own : index < entry.fragmentCount.toNat
    · cases entry.fragments[index]? <;> simp [own]
    · simp only [own, if_false, Option.map_id']
      exact entry.unused index (by omega)

end PacketReassembly

def PacketReassembly.Expired (timeout now : Nat) (entry : PacketReassembly) : Prop :=
  entry.createdAt + timeout < now

instance (timeout now : Nat) : DecidablePred (PacketReassembly.Expired timeout now) :=
  fun _ => inferInstanceAs (Decidable (_ < _))

/-- `append(dst[:0], bytes...)`, which is nil where `dst` is and nothing is appended. -/
def appendTo (dstNil : Bool) (bytes : Bytes) : Option Bytes :=
  if dstNil = true ∧ bytes = [] then none else some bytes

namespace Reassembler

variable (reassembler : Reassembler)

def new (timeout : Nat) : Reassembler where
  timeout := timeout
  pending := ∅
  sessionCount := fun _ => 0
  closed := false
  pool := []

def deleteEntry (key : ReassemblyKey) (entry : PacketReassembly) : Reassembler :=
  { reassembler with
    pending := reassembler.pending.erase key
    sessionCount := Function.update reassembler.sessionCount key.sessionID
      (reassembler.sessionCount key.sessionID - 1)
    pool := entry.recycle :: reassembler.pool }

def openEntry (key : ReassemblyKey) (fragmentCount : UInt8) (now : Nat) :
    Option (Reassembler × PacketReassembly) :=
  match reassembler.pending.lookup key with
  | some entry => some (reassembler, entry)
  | none =>
      if maxGlobalReassemblyCount ≤ reassembler.pending.entries.length then none
      else if maxReassemblyPerSession ≤ reassembler.sessionCount key.sessionID then none
      else
        let entry := PacketReassembly.start (reassembler.pool.headD PooledReassembly.new) fragmentCount now
        some ({ reassembler with
                pending := reassembler.pending.insert key entry
                sessionCount := Function.update reassembler.sessionCount key.sessionID
                  (reassembler.sessionCount key.sessionID + 1)
                pool := reassembler.pool.tail }, entry)

/-- The end of `FeedAppend`: a packet whose fragments are all there leaves the table. -/
def finish (dstNil : Bool) (key : ReassemblyKey) (entry : PacketReassembly) :
    Reassembler × Except FeedError (Option Bytes) :=
  if entry.receivedCount = entry.fragmentCount then
    (reassembler.deleteEntry key entry, .ok (appendTo dstNil entry.assembled))
  else ({ reassembler with pending := reassembler.pending.insert key entry }, .ok none)

def feedAppend (dstNil : Bool) (hdr : UDPHeader) (payload : Bytes) (now : Nat) :
    Reassembler × Except FeedError (Option Bytes) :=
  if hdr.fragmentCount = 1 ∧ hdr.fragmentID = 0 then
    (reassembler, .ok (appendTo dstNil payload))
  else if valid : ValidFragment hdr.fragmentID hdr.fragmentCount then
    if reassembler.closed = true then (reassembler, .error .closed)
    else
      let key : ReassemblyKey := ⟨hdr.sessionID, hdr.packetID⟩
      match reassembler.openEntry key hdr.fragmentCount now with
      | none => (reassembler, .error .reassemblyLimit)
      | some (opened, entry) =>
          if same : entry.fragmentCount = hdr.fragmentCount then
            match entry.slot hdr.fragmentID.toNat with
            | some _ => opened.finish dstNil key entry
            | none =>
                let stored := entry.store hdr.fragmentID.toNat (same ▸ valid.1) payload
                if maxUDPPacketSize < stored.totalBytes then
                  (opened.deleteEntry key stored, .error .corruptPacketSize)
                else opened.finish dstNil key stored
          else (opened.deleteEntry key entry, .error .invalidFragment)
  else (reassembler, .error .invalidFragment)

def sweep (now : Nat) : Reassembler :=
  reassembler.pending.entries.foldl
    (fun swept found =>
      if found.2.Expired reassembler.timeout now then swept.deleteEntry found.1 found.2
      else swept)
    reassembler

def close : Reassembler :=
  { reassembler with
    pending := ∅
    sessionCount := fun _ => 0
    closed := true
    pool := reassembler.pending.entries.map (fun found => found.2.recycle) ++ reassembler.pool }

end Reassembler

/-! ## An entry gathers the parts of one packet -/

structure PacketReassembly.Gathers (entry : PacketReassembly) (parts : List Bytes)
    (got : Finset Nat) : Prop where
  count : entry.fragmentCount.toNat = parts.length
  few : parts.length ≤ maxUDPFragments
  inside : got ⊆ Finset.range parts.length
  slot : ∀ index, entry.slot index = if index ∈ got then parts[index]? else none
  received : entry.receivedCount.toNat = got.card
  total : entry.totalBytes = ∑ index ∈ got, (parts.getD index []).length

theorem sum_length_getD (parts : List Bytes) :
    ∑ index ∈ Finset.range parts.length, (parts.getD index []).length = parts.flatten.length := by
  induction parts with
  | nil => rfl
  | cons part rest induction =>
      rw [List.length_cons, Finset.sum_range_succ', List.flatten_cons, List.length_append,
        ← induction, Nat.add_comm]
      rfl

namespace PacketReassembly

variable {entry : PacketReassembly} {parts : List Bytes} {got : Finset Nat}

theorem gathers_start {fragmentCount : UInt8} (count : fragmentCount.toNat = parts.length)
    (few : parts.length ≤ maxUDPFragments) (pooled : PooledReassembly) (now : Nat) :
    (start pooled fragmentCount now).Gathers parts ∅ where
  count := count
  few := few
  inside := Finset.empty_subset _
  slot index := by
    rw [if_neg (Finset.notMem_empty index)]
    exact pooled.blank index
  received := rfl
  total := rfl

theorem Gathers.total_le (gathers : entry.Gathers parts got) :
    entry.totalBytes ≤ parts.flatten.length := by
  rw [gathers.total, ← sum_length_getD]
  exact Finset.sum_le_sum_of_subset gathers.inside

theorem Gathers.store (gathers : entry.Gathers parts got) {index : Nat} {payload : Bytes}
    (own : index < entry.fragmentCount.toNat) (part : parts[index]? = some payload)
    (missing : index ∉ got) :
    (entry.store index own payload).Gathers parts (insert index got) where
  count := gathers.count
  few := gathers.few
  inside := by
    have bound := (List.getElem?_eq_some_iff.mp part).1
    exact Finset.insert_subset (Finset.mem_range.mpr bound) gathers.inside
  slot other := by
    have few := gathers.few
    have bound := (List.getElem?_eq_some_iff.mp part).1
    have before := gathers.slot other
    simp only [PacketReassembly.slot, PacketReassembly.store, List.getElem?_set,
      entry.sized, Finset.mem_insert] at before ⊢
    by_cases same : index = other
    · subst same
      have inSlots : index < maxUDPFragments := by omega
      simp [inSlots, part]
    · have different : other ≠ index := fun equal => same equal.symm
      simpa [same, different] using before
  received := by
    have few := gathers.few
    have bound := (List.getElem?_eq_some_iff.mp part).1
    have within : insert index got ⊆ Finset.range parts.length :=
      Finset.insert_subset (Finset.mem_range.mpr bound) gathers.inside
    have sized := Finset.card_le_card within
    rw [Finset.card_insert_of_notMem missing, Finset.card_range] at sized
    rw [maxUDPFragments] at few
    rw [PacketReassembly.store, UInt8.toNat_add, gathers.received, UInt8.toNat_one,
      Finset.card_insert_of_notMem missing]
    omega
  total := by
    rw [Finset.sum_insert missing, PacketReassembly.store, gathers.total, List.getD_eq_getElem?_getD,
      part, Option.getD_some, Nat.add_comm]

theorem Gathers.slot_eq_none_iff (gathers : entry.Gathers parts got) {index : Nat}
    {payload : Bytes} (part : parts[index]? = some payload) :
    entry.slot index = none ↔ index ∉ got := by
  rw [gathers.slot index, part]
  split <;> simp [*]

theorem Gathers.complete_iff (gathers : entry.Gathers parts got) :
    entry.receivedCount = entry.fragmentCount ↔ got = Finset.range parts.length := by
  rw [← UInt8.toNat_inj, gathers.received, gathers.count]
  constructor
  · intro equal
    exact Finset.eq_of_subset_of_card_le gathers.inside (by rw [Finset.card_range, equal])
  · intro equal
    rw [equal, Finset.card_range]

theorem Gathers.assembled (gathers : entry.Gathers parts (Finset.range parts.length)) :
    entry.assembled = parts.flatten := by
  have filled : entry.fragments.take parts.length = parts.map some := by
    apply List.ext_getElem?
    intro index
    have slot := gathers.slot index
    simp only [PacketReassembly.slot, Finset.mem_range] at slot
    rw [List.getElem?_take, List.getElem?_map]
    by_cases bound : index < parts.length
    · rw [if_pos bound]
      rw [if_pos bound, List.getElem?_eq_getElem bound] at slot
      rw [List.getElem?_eq_getElem bound, Option.map_some]
      exact Option.join_eq_some_iff.mp slot
    · rw [if_neg bound, List.getElem?_eq_none (by omega)]
      rfl
  rw [PacketReassembly.assembled, gathers.count, filled, List.flatMap_map]
  simp [List.flatMap_id']

end PacketReassembly

/-! ## Feeding fragments -/

namespace Reassembler

variable {reassembler : Reassembler} {key other : ReassemblyKey} {parts : List Bytes}
  {got : Finset Nat}

/-- What the table holds of a packet whose parts with these indices have come. -/
def Holds (reassembler : Reassembler) (key : ReassemblyKey) (parts : List Bytes)
    (got : Finset Nat) : Prop :=
  (got = ∅ ∧ reassembler.pending.lookup key = none) ∨
    ∃ entry, reassembler.pending.lookup key = some entry ∧ entry.Gathers parts got

/-- A fragment of this packet does not run into the limits of the table. -/
def HasRoom (reassembler : Reassembler) (key : ReassemblyKey) : Prop :=
  reassembler.pending.lookup key ≠ none ∨
    reassembler.pending.entries.length < maxGlobalReassemblyCount ∧
      reassembler.sessionCount key.sessionID < maxReassemblyPerSession

instance (reassembler : Reassembler) (key : ReassemblyKey) :
    Decidable (reassembler.HasRoom key) :=
  inferInstanceAs (Decidable (_ ∨ _))

theorem openEntry_eq_none {fragmentCount : UInt8} {now : Nat}
    (refused : reassembler.openEntry key fragmentCount now = none) : ¬reassembler.HasRoom key := by
  simp only [openEntry] at refused
  split at refused
  · cases refused
  rename_i absent
  rintro (present | ⟨global, session⟩)
  · exact present absent
  · rw [if_neg (by omega), if_neg (by omega)] at refused
    cases refused

theorem openEntry_gathers {fragmentCount : UInt8} {now : Nat} {opened : Reassembler}
    {entry : PacketReassembly} (count : fragmentCount.toNat = parts.length)
    (few : parts.length ≤ maxUDPFragments) (holds : reassembler.Holds key parts got)
    (made : reassembler.openEntry key fragmentCount now = some (opened, entry)) :
    entry.Gathers parts got := by
  simp only [openEntry] at made
  rcases holds with ⟨rfl, absent⟩ | ⟨found, present, gathers⟩
  · simp only [absent] at made
    split at made
    · cases made
    split at made
    · cases made
    cases made
    exact PacketReassembly.gathers_start count few _ now
  · simp only [present, Option.some.injEq, Prod.mk.injEq] at made
    exact made.2 ▸ gathers

theorem openEntry_closed {fragmentCount : UInt8} {now : Nat} {opened : Reassembler}
    {entry : PacketReassembly}
    (made : reassembler.openEntry key fragmentCount now = some (opened, entry)) :
    opened.closed = reassembler.closed := by
  simp only [openEntry] at made
  split at made
  · cases made
    rfl
  split at made
  · cases made
  split at made
  · cases made
  cases made
  rfl

theorem openEntry_lookup_ne {fragmentCount : UInt8} {now : Nat} {opened : Reassembler}
    {entry : PacketReassembly} (different : other ≠ key)
    (made : reassembler.openEntry key fragmentCount now = some (opened, entry)) :
    opened.pending.lookup other = reassembler.pending.lookup other := by
  simp only [openEntry] at made
  split at made
  · cases made
    rfl
  split at made
  · cases made
  split at made
  · cases made
  cases made
  exact AList.lookup_insert_ne different

@[simp] theorem deleteEntry_lookup (reassembler : Reassembler) (key : ReassemblyKey)
    (entry : PacketReassembly) :
    (reassembler.deleteEntry key entry).pending.lookup key = none :=
  AList.lookup_erase key _

theorem deleteEntry_lookup_ne (reassembler : Reassembler) (entry : PacketReassembly)
    (different : other ≠ key) :
    (reassembler.deleteEntry key entry).pending.lookup other = reassembler.pending.lookup other :=
  AList.lookup_erase_ne different

@[simp] theorem finish_closed (reassembler : Reassembler) (dstNil : Bool) (key : ReassemblyKey)
    (entry : PacketReassembly) :
    (reassembler.finish dstNil key entry).1.closed = reassembler.closed := by
  rw [finish]
  split <;> rfl

theorem finish_lookup_ne (reassembler : Reassembler) (dstNil : Bool) (entry : PacketReassembly)
    (different : other ≠ key) :
    (reassembler.finish dstNil key entry).1.pending.lookup other =
      reassembler.pending.lookup other := by
  rw [finish]
  split
  · exact deleteEntry_lookup_ne reassembler entry different
  · exact AList.lookup_insert_ne different

@[simp] theorem feedAppend_closed (reassembler : Reassembler) (dstNil : Bool) (hdr : UDPHeader)
    (payload : Bytes) (now : Nat) :
    (reassembler.feedAppend dstNil hdr payload now).1.closed = reassembler.closed := by
  simp only [feedAppend]
  split
  · rfl
  split
  swap
  · rfl
  split
  · rfl
  split
  · rfl
  rename_i opened entry made
  rw [← openEntry_closed made]
  split
  swap
  · rfl
  split
  · exact finish_closed opened dstNil _ entry
  split
  · rfl
  · exact finish_closed opened dstNil _ _

theorem feedAppend_lookup_ne (reassembler : Reassembler) (dstNil : Bool) (hdr : UDPHeader)
    (payload : Bytes) (now : Nat) (different : other ≠ ⟨hdr.sessionID, hdr.packetID⟩) :
    (reassembler.feedAppend dstNil hdr payload now).1.pending.lookup other =
      reassembler.pending.lookup other := by
  simp only [feedAppend]
  split
  · rfl
  split
  swap
  · rfl
  split
  · rfl
  split
  · rfl
  rename_i opened entry made
  rw [← openEntry_lookup_ne different made]
  split
  swap
  · exact deleteEntry_lookup_ne opened entry different
  split
  · exact finish_lookup_ne opened dstNil entry different
  split
  · exact deleteEntry_lookup_ne opened _ different
  · exact finish_lookup_ne opened dstNil _ different

theorem finish_gathers (reassembler : Reassembler) (dstNil : Bool) {entry : PacketReassembly}
    (gathers : entry.Gathers parts got) :
    (got = Finset.range parts.length ∧
        (reassembler.finish dstNil key entry).1.pending.lookup key = none ∧
        (reassembler.finish dstNil key entry).2 = .ok (appendTo dstNil parts.flatten)) ∨
      got ≠ Finset.range parts.length ∧
        (reassembler.finish dstNil key entry).1.Holds key parts got ∧
        (reassembler.finish dstNil key entry).2 = .ok none := by
  rw [finish]
  by_cases complete : entry.receivedCount = entry.fragmentCount
  · have all := gathers.complete_iff.mp complete
    subst all
    rw [if_pos complete, gathers.assembled]
    exact .inl ⟨rfl, deleteEntry_lookup _ _ _, rfl⟩
  · rw [if_neg complete]
    exact .inr ⟨fun all => complete (gathers.complete_iff.mpr all),
      .inr ⟨entry, AList.lookup_insert _, gathers⟩, rfl⟩

/-- What one fragment of a packet of several parts does: it is refused, the packet is
too large, the packet is complete, or it goes on being gathered. -/
theorem feedAppend_cases {hdr : UDPHeader} {payload : Bytes} (dstNil : Bool) (now : Nat)
    (several : ¬(hdr.fragmentCount = 1 ∧ hdr.fragmentID = 0))
    (valid : ValidFragment hdr.fragmentID hdr.fragmentCount)
    (count : hdr.fragmentCount.toNat = parts.length)
    (part : parts[hdr.fragmentID.toNat]? = some payload)
    (holds : reassembler.Holds ⟨hdr.sessionID, hdr.packetID⟩ parts got) :
    let key : ReassemblyKey := ⟨hdr.sessionID, hdr.packetID⟩
    let fed := reassembler.feedAppend dstNil hdr payload now
    let gained := insert hdr.fragmentID.toNat got
    (fed.1 = reassembler ∧ (∃ err, fed.2 = .error err) ∧
        (reassembler.closed = true ∨ ¬reassembler.HasRoom key)) ∨
      (maxUDPPacketSize < parts.flatten.length ∧ fed.1.pending.lookup key = none ∧
        fed.2 = .error .corruptPacketSize) ∨
      (gained = Finset.range parts.length ∧ fed.1.pending.lookup key = none ∧
        fed.2 = .ok (appendTo dstNil parts.flatten)) ∨
      (gained ≠ Finset.range parts.length ∧ fed.1.Holds key parts gained ∧ fed.2 = .ok none) := by
  intro key fed gained
  have few : parts.length ≤ maxUDPFragments := by
    rw [← count]
    exact valid.2
  simp only [fed, feedAppend, if_neg several, dif_pos valid]
  by_cases shut : reassembler.closed = true
  · rw [if_pos shut]
    exact .inl ⟨rfl, ⟨_, rfl⟩, .inl shut⟩
  rw [if_neg shut]
  cases made : reassembler.openEntry key hdr.fragmentCount now with
  | none =>
      exact .inl ⟨rfl, ⟨_, rfl⟩, .inr (openEntry_eq_none made)⟩
  | some pair =>
      rcases pair with ⟨opened, entry⟩
      have gathers := openEntry_gathers count few holds made
      have counts : entry.fragmentCount = hdr.fragmentCount := by
        rw [← UInt8.toNat_inj, gathers.count, count]
      simp only [dif_pos counts]
      cases stored : entry.slot hdr.fragmentID.toNat with
      | some _ =>
          -- a duplicate: nothing is gained
          have present : hdr.fragmentID.toNat ∈ got := by
            by_contra missing
            rw [(gathers.slot_eq_none_iff part).mpr missing] at stored
            cases stored
          have same : gained = got := Finset.insert_eq_of_mem present
          rw [same]
          exact .inr (.inr (finish_gathers opened dstNil gathers))
      | none =>
          have missing := (gathers.slot_eq_none_iff part).mp stored
          have more := gathers.store (counts ▸ valid.1) part missing
          dsimp only
          split
          · rename_i large
            exact .inr (.inl ⟨by have := more.total_le; omega, deleteEntry_lookup _ _ _, rfl⟩)
          · exact .inr (.inr (finish_gathers opened dstNil more))

theorem foldl_deleteEntry (key : ReassemblyKey)
    (found : List (Sigma fun _ : ReassemblyKey => PacketReassembly))
    (expired : PacketReassembly → Prop) [DecidablePred expired] (reassembler : Reassembler) :
    let swept := found.foldl
      (fun swept each => if expired each.2 then swept.deleteEntry each.1 each.2 else swept) reassembler
    swept.closed = reassembler.closed ∧
      (swept.pending.lookup key = none ∨
        swept.pending.lookup key = reassembler.pending.lookup key) ∧
      ((∀ each ∈ found, each.1 = key → ¬expired each.2) →
        swept.pending.lookup key = reassembler.pending.lookup key) := by
  induction found generalizing reassembler with
  | nil => exact ⟨rfl, .inr rfl, fun _ => rfl⟩
  | cons each rest induction =>
      simp only [List.foldl_cons]
      by_cases old : expired each.2
      · rw [if_pos old]
        rcases induction (reassembler.deleteEntry each.1 each.2) with ⟨flag, removed, kept⟩
        refine ⟨flag, ?_, fun fresh => ?_⟩
        · by_cases same : key = each.1
          · rw [same, deleteEntry_lookup] at removed
            rw [same]
            exact .inl (removed.elim id id)
          · rwa [deleteEntry_lookup_ne _ _ same] at removed
        · have different : key ≠ each.1 :=
            fun same => fresh each List.mem_cons_self same.symm old
          rw [kept fun other member => fresh other (List.mem_cons_of_mem _ member),
            deleteEntry_lookup_ne _ _ different]
      · rw [if_neg old]
        rcases induction reassembler with ⟨flag, removed, kept⟩
        exact ⟨flag, removed, fun fresh => kept fun other member =>
          fresh other (List.mem_cons_of_mem _ member)⟩

theorem sweep_lookup (reassembler : Reassembler) (now : Nat) (key : ReassemblyKey) :
    (reassembler.sweep now).pending.lookup key = none ∨
      (reassembler.sweep now).pending.lookup key = reassembler.pending.lookup key :=
  (foldl_deleteEntry key _ (PacketReassembly.Expired reassembler.timeout now) reassembler).2.1

@[simp] theorem sweep_closed (reassembler : Reassembler) (now : Nat) :
    (reassembler.sweep now).closed = reassembler.closed :=
  (foldl_deleteEntry ⟨0, 0⟩ _ (PacketReassembly.Expired reassembler.timeout now) reassembler).1

theorem sweep_lookup_fresh {now : Nat}
    (fresh : ∀ entry, reassembler.pending.lookup key = some entry →
      ¬entry.Expired reassembler.timeout now) :
    (reassembler.sweep now).pending.lookup key = reassembler.pending.lookup key := by
  apply (foldl_deleteEntry key _ (PacketReassembly.Expired reassembler.timeout now)
    reassembler).2.2
  rintro ⟨found, entry⟩ member rfl
  exact fresh entry (AList.mem_lookup_iff.mpr member)

end Reassembler

end Rdpulse.UDP
