import Rdpulse.UDP.PooledReassembly

namespace Rdpulse.UDP.Pooled

open Foundation Protocol

/-! What holds of every reassembler and of the pool between two critical sections. -/

namespace PacketReassembly

def Blank (p : PacketReassembly) : Prop :=
  ∀ i, p.fragments i = none ∧ p.fragBufs i = false

def filled (p : PacketReassembly) : Finset (Fin maxUDPFragments) :=
  Finset.univ.filter fun i => (p.fragments i).isSome

structure Sound (p : PacketReassembly) : Prop where
  few : p.fragmentCount.toNat ≤ maxUDPFragments
  received : p.receivedCount.toNat = p.filled.card
  below : ∀ i, (p.fragments i).isSome = true → i.val < p.fragmentCount.toNat
  buffers : ∀ i, p.fragBufs i = true → i.val < p.fragmentCount.toNat
  total : p.totalBytes = ∑ i, ((p.fragments i).getD []).length

structure Pending (p : PacketReassembly) : Prop extends p.Sound where
  incomplete : p.receivedCount < p.fragmentCount
  small : p.totalBytes ≤ maxUDPPacketSize

variable {p : PacketReassembly}

theorem blank_new : ({} : PacketReassembly).Blank := fun _ => ⟨rfl, rfl⟩

theorem Sound.recycle (sound : p.Sound) : p.recycle.Blank := by
  intro i
  simp only [PacketReassembly.recycle, releaseFragments]
  by_cases own : i.val < p.fragmentCount.toNat
  · simp [own]
  · simp only [own, if_false]
    refine ⟨?_, ?_⟩
    · cases stored : p.fragments i with
      | none => rfl
      | some _ => exact absurd (sound.below i (by rw [stored]; rfl)) own
    · cases buffer : p.fragBufs i with
      | false => rfl
      | true => exact absurd (sound.buffers i buffer) own

theorem Blank.start (blank : p.Blank) {hdr : UDPHeader} (now : Int)
    (valid : ValidFragment hdr.fragmentID hdr.fragmentCount) : (p.start hdr now).Pending where
  few := valid.2
  received := by
    have none : (p.start hdr now).filled = ∅ := by
      simp [filled, PacketReassembly.start, (blank _).1]
    rw [none]
    rfl
  below i used := by simp [PacketReassembly.start, (blank i).1] at used
  buffers i used := by simp [PacketReassembly.start, (blank i).2] at used
  total := by simp [PacketReassembly.start, (blank _).1]
  incomplete := by
    have above : hdr.fragmentID < hdr.fragmentCount := valid.1
    rw [UInt8.lt_iff_toNat_lt] at above ⊢
    simp only [PacketReassembly.start]
    have zero : (0 : UInt8).toNat = 0 := rfl
    omega
  small := Nat.zero_le _

theorem mem_filled {i : Fin maxUDPFragments} : i ∈ p.filled ↔ (p.fragments i).isSome = true := by
  simp [filled]

theorem filled_store (index : Fin maxUDPFragments) (payload : Bytes) :
    (p.store index payload).filled = insert index p.filled := by
  ext i
  rw [mem_filled, Finset.mem_insert, mem_filled]
  simp only [PacketReassembly.store]
  by_cases same : i = index
  · subst same
    simp
  · rw [Function.update_of_ne same]
    simp [same]

theorem Pending.store (pending : p.Pending) {index : Fin maxUDPFragments}
    (free : p.fragments index = none) (own : index.val < p.fragmentCount.toNat)
    (payload : Bytes) : (p.store index payload).Sound where
  few := pending.few
  received := by
    have absent : index ∉ p.filled := by simp [filled, free]
    have few := pending.few
    have incomplete := UInt8.lt_iff_toNat_lt.mp pending.incomplete
    have bound : maxUDPFragments = 64 := rfl
    have one : (1 : UInt8).toNat = 1 := rfl
    rw [filled_store, Finset.card_insert_of_notMem absent, ← pending.received]
    simp only [PacketReassembly.store, UInt8.toNat_add]
    omega
  below i used := by
    by_cases same : i = index
    · subst same
      exact own
    · simp only [PacketReassembly.store, Function.update_of_ne same] at used
      exact pending.below i used
  buffers i used := by
    by_cases same : i = index
    · subst same
      exact own
    · simp only [PacketReassembly.store] at used
      split at used
      · rw [Function.update_of_ne same] at used
        exact pending.buffers i used
      · exact pending.buffers i used
  total := by
    have split : ∀ i, ((Function.update p.fragments index (some payload) i).getD []).length =
        ((p.fragments i).getD []).length + if i = index then payload.length else 0 := by
      intro i
      by_cases same : i = index
      · subst same
        simp [free]
      · simp [same]
    simp only [PacketReassembly.store, split, Finset.sum_add_distrib, Finset.sum_ite_eq',
      Finset.mem_univ, if_true, pending.total]

end PacketReassembly

/-! ## One reassembler -/

namespace Reassembler

def pendingOf (r : Reassembler) (sessionID : UInt32) : Nat :=
  Table.count r.pending fun key => key.sessionID = sessionID

structure Sound (r : Reassembler) : Prop where
  entries : ∀ key entry, r.pending.lookup key = some entry →
    entry.Pending ∧ entry.sessionID = key.sessionID
  counts : ∀ sessionID, (r.sessionCount.lookup sessionID).getD 0 = r.pendingOf sessionID
  nonzero : ∀ sessionID, r.sessionCount.lookup sessionID ≠ some 0
  perSession : ∀ sessionID, r.pendingOf sessionID ≤ maxReassemblyPerSession
  global : r.pending.entries.length ≤ maxGlobalReassemblyCount

variable {r : Reassembler} {pool : Pool}

theorem sound_new (timeout : Int) : (newReassembler timeout).Sound where
  entries _ _ found := by cases found
  counts _ := rfl
  nonzero _ found := by cases found
  perSession _ := Nat.zero_le _
  global := Nat.zero_le _

theorem pendingOf_erase {key : ReassemblyKey} {old : PacketReassembly}
    (found : r.pending.lookup key = some old) {less : Reassembler}
    (pending : less.pending = r.pending.erase key) (sessionID : UInt32) :
    r.pendingOf sessionID =
      less.pendingOf sessionID + if key.sessionID = sessionID then 1 else 0 := by
  have erased := Table.count_erase found fun key : ReassemblyKey => key.sessionID = sessionID
  simp only [decide_eq_true_eq] at erased
  rw [pendingOf, pendingOf, pending]
  exact erased

theorem pendingOf_insert {key : ReassemblyKey} (absent : r.pending.lookup key = none)
    {entry : PacketReassembly} {more : Reassembler}
    (pending : more.pending = r.pending.insert key entry) (sessionID : UInt32) :
    more.pendingOf sessionID =
      r.pendingOf sessionID + if key.sessionID = sessionID then 1 else 0 := by
  have added := Table.count_insert_new absent entry
    fun key : ReassemblyKey => key.sessionID = sessionID
  simp only [decide_eq_true_eq] at added
  rw [pendingOf, pendingOf, pending]
  exact added

theorem deleteEntryLocked_count (pool : Pool) {key : ReassemblyKey} {entry : PacketReassembly}
    (session : entry.sessionID = key.sessionID) (sessionID : UInt32) :
    (r.deleteEntryLocked pool key entry).1.sessionCount.lookup sessionID =
      if sessionID = key.sessionID then
        if 1 < (r.sessionCount.lookup key.sessionID).getD 0 then
          some ((r.sessionCount.lookup key.sessionID).getD 0 - 1)
        else none
      else r.sessionCount.lookup sessionID := by
  unfold deleteEntryLocked
  rw [session]
  by_cases same : sessionID = key.sessionID
  · subst same
    rw [if_pos rfl]
    dsimp only
    split
    · exact AList.lookup_insert _
    · exact AList.lookup_erase _ _
  · rw [if_neg same]
    dsimp only
    split
    · exact AList.lookup_insert_ne same
    · exact AList.lookup_erase_ne same

theorem Sound.delete (sound : r.Sound) {key : ReassemblyKey} {old entry : PacketReassembly}
    (found : r.pending.lookup key = some old) (session : entry.sessionID = key.sessionID) :
    (r.deleteEntryLocked pool key entry).1.Sound := by
  have pending : (r.deleteEntryLocked pool key entry).1.pending = r.pending.erase key := rfl
  have length := Table.length_erase found
  refine { entries := fun other one present => ?_, counts := fun sessionID => ?_,
           nonzero := fun sessionID => ?_, perSession := fun sessionID => ?_, global := ?_ }
  · rw [pending] at present
    by_cases same : other = key
    · subst same
      simp at present
    · rw [AList.lookup_erase_ne same] at present
      exact sound.entries other one present
  · have before := pendingOf_erase found pending sessionID
    have counted := sound.counts sessionID
    rw [deleteEntryLocked_count pool session]
    by_cases same : sessionID = key.sessionID
    · subst same
      rw [if_pos rfl] at before ⊢
      split
      · rw [Option.getD_some]
        omega
      · rw [Option.getD_none]
        omega
    · rw [if_neg (Ne.symm same)] at before
      rw [if_neg same]
      omega
  · rw [deleteEntryLocked_count pool session]
    split
    · split
      · rw [ne_eq, Option.some.injEq]
        omega
      · exact fun none => by cases none
    · exact sound.nonzero sessionID
  · have before := pendingOf_erase found pending sessionID
    have limit := sound.perSession sessionID
    omega
  · have limit := sound.global
    rw [pending]
    omega

theorem Sound.replace (sound : r.Sound) {key : ReassemblyKey} {old entry : PacketReassembly}
    (found : r.pending.lookup key = some old) (pending : entry.Pending)
    (session : entry.sessionID = key.sessionID) :
    ({ r with pending := r.pending.insert key entry } : Reassembler).Sound := by
  have count : ∀ sessionID,
      ({ r with pending := r.pending.insert key entry } : Reassembler).pendingOf sessionID =
        r.pendingOf sessionID := fun sessionID => Table.count_replace found entry _
  refine { entries := fun other one present => ?_, counts := fun sessionID => ?_,
           nonzero := sound.nonzero, perSession := fun sessionID => ?_, global := ?_ }
  · by_cases same : other = key
    · subst same
      simp only [AList.lookup_insert, Option.some.injEq] at present
      subst present
      exact ⟨pending, session⟩
    · simp only [AList.lookup_insert_ne same] at present
      exact sound.entries other one present
  · rw [count]
    exact sound.counts sessionID
  · rw [count]
    exact sound.perSession sessionID
  · simp only [Table.length_replace found]
    exact sound.global

theorem get_blank (blank : ∀ p ∈ pool, p.Blank) (index : Nat) :
    (Pool.get pool index).1.Blank ∧ ∀ p ∈ (Pool.get pool index).2, p.Blank := by
  unfold Pool.get
  cases taken : pool[index]? with
  | none => exact ⟨PacketReassembly.blank_new, blank⟩
  | some p =>
      exact ⟨blank p (List.mem_of_getElem? taken),
        fun other member => blank other (List.mem_of_mem_eraseIdx member)⟩

/-- What `openEntry` hands on: a pending entry of the key, in a sound reassembler. -/
structure Opened (r : Reassembler) (pool : Pool) (key : ReassemblyKey)
    (entry : PacketReassembly) : Prop where
  sound : r.Sound
  blank : ∀ p ∈ pool, p.Blank
  found : r.pending.lookup key = some entry
  pending : entry.Pending
  session : entry.sessionID = key.sessionID

theorem Sound.openEntry (sound : r.Sound) (blank : ∀ p ∈ pool, p.Blank) {hdr : UDPHeader}
    (valid : ValidFragment hdr.fragmentID hdr.fragmentCount) {now : Int} {get : Nat}
    {opened : Reassembler} {later : Pool} {entry : PacketReassembly}
    (made : r.openEntry pool hdr now get = some ((opened, later), entry)) :
    Opened opened later ⟨hdr.sessionID, hdr.packetID⟩ entry := by
  simp only [Reassembler.openEntry] at made
  split at made
  · rename_i old found
    cases made
    rcases sound.entries _ _ found with ⟨pending, session⟩
    exact ⟨sound, blank, found, pending, session⟩
  · rename_i absent
    split at made
    · cases made
    rename_i global
    split at made
    · cases made
    rename_i perSession
    cases made
    rcases get_blank blank get with ⟨first, rest⟩
    have started := first.start now valid
    refine ⟨{ entries := fun other one present => ?_, counts := fun sessionID => ?_,
              nonzero := fun sessionID => ?_, perSession := fun sessionID => ?_, global := ?_ },
      rest, AList.lookup_insert _, started, rfl⟩
    · by_cases same : other = ⟨hdr.sessionID, hdr.packetID⟩
      · subst same
        simp only [AList.lookup_insert, Option.some.injEq] at present
        subst present
        exact ⟨started, rfl⟩
      · simp only [AList.lookup_insert_ne same] at present
        exact sound.entries other one present
    · rw [pendingOf_insert absent rfl]
      by_cases same : sessionID = hdr.sessionID
      · subst same
        rw [AList.lookup_insert, Option.getD_some, if_pos rfl, sound.counts]
      · rw [AList.lookup_insert_ne same, if_neg (Ne.symm same), sound.counts, Nat.add_zero]
    · by_cases same : sessionID = hdr.sessionID
      · subst same
        simp
      · simp only [AList.lookup_insert_ne same]
        exact sound.nonzero sessionID
    · have limit := sound.perSession sessionID
      rw [sound.counts] at perSession
      rw [pendingOf_insert absent rfl]
      by_cases same : hdr.sessionID = sessionID
      · subst same
        rw [if_pos rfl]
        omega
      · rw [if_neg same]
        exact limit
    · simp only [Table.entries_insert_new absent, List.length_cons]
      omega

/-- A reassembler and the pool, between critical sections. -/
def Safe (moved : Reassembler × Pool) : Prop := moved.1.Sound ∧ ∀ p ∈ moved.2, p.Blank

theorem Opened.delete {key : ReassemblyKey} {entry written : PacketReassembly}
    (opened : Opened r pool key entry) (sound : written.Sound)
    (session : written.sessionID = key.sessionID) :
    Safe (r.deleteEntryLocked pool key written) := by
  refine ⟨opened.sound.delete opened.found session, fun p member => ?_⟩
  rcases List.mem_cons.mp member with rfl | old
  · exact sound.recycle
  · exact opened.blank p old

theorem Opened.finish {key : ReassemblyKey} {entry written : PacketReassembly}
    (opened : Opened r pool key entry) (sound : written.Sound)
    (session : written.sessionID = key.sessionID)
    (within : written.receivedCount ≤ written.fragmentCount)
    (small : written.totalBytes ≤ maxUDPPacketSize) (dstNil : Bool) :
    Safe (r.finish pool dstNil key written).1 := by
  unfold Reassembler.finish
  split
  · exact opened.delete sound session
  · rename_i incomplete
    have pending : written.Pending :=
      { sound with
        incomplete := UInt8.lt_of_le_of_ne within incomplete
        small }
    exact ⟨opened.sound.replace opened.found pending session, opened.blank⟩

theorem store_within {p : PacketReassembly} (pending : p.Pending)
    (index : Fin maxUDPFragments) (payload : Bytes) :
    (p.store index payload).receivedCount ≤ (p.store index payload).fragmentCount := by
  have incomplete := UInt8.lt_iff_toNat_lt.mp pending.incomplete
  have few := pending.few
  have bound : maxUDPFragments = 64 := rfl
  have one : (1 : UInt8).toNat = 1 := rfl
  rw [UInt8.le_iff_toNat_le]
  simp only [PacketReassembly.store, UInt8.toNat_add]
  omega

theorem Sound.feedAppend (sound : r.Sound) (blank : ∀ p ∈ pool, p.Blank) (dstNil : Bool)
    (hdr : UDPHeader) (payload : Bytes) (now : Int) (get : Nat) :
    Safe (r.feedAppend pool dstNil hdr payload now get).1 := by
  unfold Reassembler.feedAppend
  split
  · exact ⟨sound, blank⟩
  split
  · rename_i valid
    split
    · exact ⟨sound, blank⟩
    dsimp only
    split
    · exact ⟨sound, blank⟩
    · rename_i opened later entry made
      have ready := sound.openEntry blank valid made
      split
      · exact ready.delete ready.pending.toSound ready.session
      · rename_i same
        have same : entry.fragmentCount = hdr.fragmentCount := Decidable.not_not.mp same
        split
        · exact ready.finish ready.pending.toSound ready.session
            (UInt8.le_of_lt ready.pending.incomplete) ready.pending.small dstNil
        · rename_i free
          have own : hdr.fragmentID.toNat < entry.fragmentCount.toNat := by
            rw [same]
            exact valid.1
          have stored := ready.pending.store free own payload
          split
          · exact ready.delete stored ready.session
          · rename_i small
            exact ready.finish stored ready.session (store_within ready.pending _ payload)
              (Nat.not_lt.mp small) dstNil
  · exact ⟨sound, blank⟩

theorem Safe.sweep {deadline : Int} {found : List (Sigma fun _ : ReassemblyKey => PacketReassembly)}
    {state : Reassembler × Pool} (safe : Safe state)
    (present : ∀ each ∈ found, state.1.pending.lookup each.1 = some each.2)
    (distinct : (found.map Sigma.fst).Nodup) :
    Safe (found.foldl (fun (r, pool) each =>
      if each.2.createdAt < deadline then r.deleteEntryLocked pool each.1 each.2
      else (r, pool)) state) := by
  induction found generalizing state with
  | nil => exact safe
  | cons each rest induction =>
      rw [List.map_cons, List.nodup_cons] at distinct
      have there := present each List.mem_cons_self
      rw [List.foldl_cons]
      dsimp only
      split
      · rcases safe.1.entries each.1 each.2 there with ⟨pending, session⟩
        have opened : Opened state.1 state.2 each.1 each.2 :=
          ⟨safe.1, safe.2, there, pending, session⟩
        refine induction (opened.delete pending.toSound session) (fun other member => ?_)
          distinct.2
        have different : other.1 ≠ each.1 := fun same =>
          distinct.1 (same ▸ List.mem_map_of_mem member)
        exact (AList.lookup_erase_ne different).trans
          (present other (List.mem_cons_of_mem _ member))
      · exact induction safe (fun other member => present other (List.mem_cons_of_mem _ member))
          distinct.2

theorem Sound.tick (sound : r.Sound) (blank : ∀ p ∈ pool, p.Blank) (now : Int) :
    Safe (r.tick pool now) :=
  Safe.sweep ⟨sound, blank⟩ (fun _ member => AList.mem_lookup_iff.mpr member)
    r.pending.keys_nodup

theorem Sound.stop (sound : r.Sound) (blank : ∀ p ∈ pool, p.Blank) : Safe (r.stop pool) := by
  refine ⟨?_, fun p member => ?_⟩
  · exact ⟨fun _ _ found => (by cases found), fun _ => rfl, fun _ found => (by cases found),
      fun _ => Nat.zero_le _, Nat.zero_le _⟩
  · rcases List.mem_append.mp member with recycled | old
    · rcases List.mem_map.mp recycled with ⟨each, present, rfl⟩
      exact (sound.entries each.1 each.2 (AList.mem_lookup_iff.mpr present)).1.toSound.recycle
    · exact blank p old

/-! ## Other packets -/

theorem openEntry_lookup_ne {hdr : UDPHeader} {now : Int} {get : Nat} {opened : Reassembler}
    {later : Pool} {entry : PacketReassembly}
    (made : r.openEntry pool hdr now get = some ((opened, later), entry)) {other : ReassemblyKey}
    (different : other ≠ ⟨hdr.sessionID, hdr.packetID⟩) :
    opened.pending.lookup other = r.pending.lookup other := by
  simp only [openEntry] at made
  split at made
  · cases made
    rfl
  · split at made
    · cases made
    split at made
    · cases made
    cases made
    exact AList.lookup_insert_ne different

theorem finish_lookup_ne (dstNil : Bool) (key : ReassemblyKey) (entry : PacketReassembly)
    {other : ReassemblyKey} (different : other ≠ key) :
    (r.finish pool dstNil key entry).1.1.pending.lookup other = r.pending.lookup other := by
  unfold Reassembler.finish
  split
  · exact AList.lookup_erase_ne different
  · exact AList.lookup_insert_ne different

theorem feedAppend_lookup_ne (dstNil : Bool) (hdr : UDPHeader) (payload : Bytes) (now : Int)
    (get : Nat) {other : ReassemblyKey} (different : other ≠ ⟨hdr.sessionID, hdr.packetID⟩) :
    (r.feedAppend pool dstNil hdr payload now get).1.1.pending.lookup other =
      r.pending.lookup other := by
  unfold Reassembler.feedAppend
  split
  · rfl
  split
  · split
    · rfl
    dsimp only
    split
    · rfl
    · rename_i opened later entry made
      rw [← openEntry_lookup_ne made different]
      split
      · exact AList.lookup_erase_ne different
      · split
        · exact finish_lookup_ne dstNil _ _ different
        · split
          · exact AList.lookup_erase_ne different
          · exact finish_lookup_ne dstNil _ _ different
  · rfl

end Reassembler

/-! ## Runs -/

structure Process.Sound (state : Process) : Prop where
  reassemblers : ∀ r ∈ state.reassemblers, r.Sound
  pool : ∀ p ∈ state.pool, p.Blank

variable {state : Process}

theorem Process.Sound.put (sound : state.Sound) {moved : Reassembler × Pool}
    (safe : Reassembler.Safe moved) (index : Nat) : (state.put index moved).Sound where
  reassemblers r member := by
    rcases List.mem_or_eq_of_mem_set member with old | rfl
    · exact sound.reassemblers r old
    · exact safe.1
  pool := safe.2

theorem Process.Sound.step (sound : state.Sound) {event : Event} {next : Process}
    (taken : process.step state event = some next) : next.Sound := by
  have taken : state.step event = some next := taken
  cases event with
  | make timeout =>
      cases taken
      refine ⟨fun r member => ?_, sound.pool⟩
      rcases List.mem_append.mp member with old | new
      · exact sound.reassemblers r old
      · rw [List.mem_singleton.mp new]
        exact Reassembler.sound_new timeout
  | feed index dstNil hdr payload now get =>
      simp only [Process.step, Option.map_eq_some_iff] at taken
      rcases taken with ⟨r, present, rfl⟩
      have before := sound.reassemblers r (List.mem_of_getElem? present)
      exact sound.put (before.feedAppend sound.pool dstNil hdr payload now get) index
  | tick index now =>
      simp only [Process.step, Option.map_eq_some_iff] at taken
      rcases taken with ⟨r, present, rfl⟩
      have before := sound.reassemblers r (List.mem_of_getElem? present)
      exact sound.put (before.tick sound.pool now) index
  | stop index =>
      simp only [Process.step, Option.map_eq_some_iff] at taken
      rcases taken with ⟨r, present, rfl⟩
      have before := sound.reassemblers r (List.mem_of_getElem? present)
      exact sound.put (before.stop sound.pool) index
  | collect index =>
      cases taken
      exact ⟨sound.reassemblers, fun p member => sound.pool p (List.mem_of_mem_eraseIdx member)⟩

/-- After any calls on any reassemblers of a process: the counters of every pending
entry agree with its slots, the session counts with the entries, the limits hold, what
is in the pool is blank, and a call touches no entry of another packet. -/
theorem reassembler_invariant {events : List Event}
    (run : process.Run Machine.Unrestricted ⟨[], []⟩ events state) :
    (∀ r ∈ state.reassemblers,
      (∀ key entry, r.pending.lookup key = some entry →
        entry.receivedCount.toNat =
          (Finset.univ.filter fun i => (entry.fragments i).isSome).card ∧
        entry.receivedCount < entry.fragmentCount ∧
        entry.fragmentCount.toNat ≤ maxUDPFragments ∧
        (∀ i, (entry.fragments i).isSome = true → i.val < entry.fragmentCount.toNat) ∧
        entry.totalBytes = ∑ i, ((entry.fragments i).getD []).length ∧
        entry.totalBytes ≤ maxUDPPacketSize) ∧
      (∀ sessionID,
        (r.sessionCount.lookup sessionID).getD 0 = r.pendingOf sessionID ∧
        r.sessionCount.lookup sessionID ≠ some 0 ∧
        r.pendingOf sessionID ≤ maxReassemblyPerSession) ∧
      r.pending.entries.length ≤ maxGlobalReassemblyCount) ∧
    (∀ p ∈ state.pool, ∀ i, p.fragments i = none ∧ p.fragBufs i = false) ∧
    (∀ r ∈ state.reassemblers, ∀ dstNil hdr payload now get err,
      (r.feedAppend state.pool dstNil hdr payload now get).2 = .error err →
      ∀ other, other ≠ ⟨hdr.sessionID, hdr.packetID⟩ →
        (r.feedAppend state.pool dstNil hdr payload now get).1.1.pending.lookup other =
          r.pending.lookup other) := by
  have sound : state.Sound := by
    refine run.preserves ⟨fun _ none => (by cases none), fun _ none => (by cases none)⟩ ?_
    exact fun _ _ _ known _ taken => known.step taken
  refine ⟨fun r member => ?_, sound.pool, ?_⟩
  · have known := sound.reassemblers r member
    refine ⟨fun key entry found => ?_, fun sessionID =>
      ⟨known.counts sessionID, known.nonzero sessionID, known.perSession sessionID⟩, known.global⟩
    have pending := (known.entries key entry found).1
    exact ⟨pending.received, pending.incomplete, pending.few, pending.below, pending.total,
      pending.small⟩
  · intro r _ dstNil hdr payload now get _ _ other different
    exact Reassembler.feedAppend_lookup_ne dstNil hdr payload now get different

/-- Two fragments of a packet of three, one twice, then one with another count: the
entry goes back to the pool. -/
def mismatched : List Event :=
  let hdr (id count : UInt8) : UDPHeader := ⟨udpProtocolVersion, udpTypeData, 5, 9, id, count⟩
  [.make 0, .feed 0 true (hdr 0 3) [1] 0 0, .feed 0 true (hdr 2 3) [] 1 0,
    .feed 0 true (hdr 2 3) [7] 2 0, .feed 0 true (hdr 1 2) [8] 3 0]

theorem reassembler_invariant_mismatched :
    ∃ state, process.Run Machine.Unrestricted ⟨[], []⟩ mismatched state ∧
      state.reassemblers.map (fun r => r.pending.entries.length) = [0] ∧
      state.pool.length = 1 ∧ ∀ p ∈ state.pool, ∀ i, p.fragments i = none ∧ p.fragBufs i = false := by
  rcases process.exists_run Machine.Unrestricted
    (fun state => state.reassemblers.map (fun r => r.pending.entries.length) = [0] ∧
      state.pool.length = 1) ⟨[], []⟩ mismatched
    (by decide +kernel) with ⟨state, run, none, one⟩
  exact ⟨state, run, none, one, (reassembler_invariant run).2.1⟩

end Rdpulse.UDP.Pooled
