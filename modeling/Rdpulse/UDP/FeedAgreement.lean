import Rdpulse.UDP.Delivery

namespace Rdpulse.UDP

open Foundation Protocol

/-! # `Feed` and `FeedAppend`

`Feed` is `FeedAppend` without a buffer to append to, and what is appended to nil stays nil
if it is empty. -/

def Reassembler.feed (reassembler : Reassembler) (hdr : UDPHeader) (payload : Bytes)
    (now : Nat) : Reassembler × Except FeedError (Option Bytes) :=
  reassembler.feedAppend true hdr payload now

def emptyAsNone (result : Option Bytes) : Option Bytes := result.filter fun bytes => bytes ≠ []

theorem appendTo_true (bytes : Bytes) :
    appendTo true bytes = emptyAsNone (appendTo false bytes) := by
  cases bytes <;> rfl

/-- The fragment makes a packet of no bytes complete: it is an only fragment and empty, or the
last one, where all others are empty, or one once more of such a packet. -/
inductive CompletesEmpty (reassembler : Reassembler) (hdr : UDPHeader) (payload : Bytes) : Prop
  | single (only : hdr.fragmentCount = 1 ∧ hdr.fragmentID = 0) (empty : payload = [])
  | last (several : ¬(hdr.fragmentCount = 1 ∧ hdr.fragmentID = 0))
      (valid : ValidFragment hdr.fragmentID hdr.fragmentCount)
      (opened : reassembler.closed = false) {entry : PacketReassembly}
      (found : reassembler.pending.lookup ⟨hdr.sessionID, hdr.packetID⟩ = some entry)
      (counts : entry.fragmentCount = hdr.fragmentCount)
      (missing : entry.slot hdr.fragmentID.toNat = none)
      (small : entry.totalBytes ≤ maxUDPPacketSize)
      (fills : entry.receivedCount + 1 = entry.fragmentCount)
      (others : entry.assembled = []) (empty : payload = [])
  | again (several : ¬(hdr.fragmentCount = 1 ∧ hdr.fragmentID = 0))
      (valid : ValidFragment hdr.fragmentID hdr.fragmentCount)
      (opened : reassembler.closed = false) {entry : PacketReassembly}
      (found : reassembler.pending.lookup ⟨hdr.sessionID, hdr.packetID⟩ = some entry)
      (counts : entry.fragmentCount = hdr.fragmentCount)
      (present : (entry.slot hdr.fragmentID.toNat).isSome = true)
      (full : entry.receivedCount = entry.fragmentCount) (blank : entry.assembled = [])

section Agreement

variable {reassembler : Reassembler} {entry : PacketReassembly} {hdr : UDPHeader}
  {payload : Bytes}

theorem finish_true (reassembler : Reassembler) (key : ReassemblyKey) (entry : PacketReassembly) :
    reassembler.finish true key entry =
      ((reassembler.finish false key entry).1,
        (reassembler.finish false key entry).2.map emptyAsNone) := by
  unfold Reassembler.finish
  by_cases complete : entry.receivedCount = entry.fragmentCount
  · simp only [if_pos complete, Except.map, appendTo_true]
  · simp only [if_neg complete, Except.map]
    rfl

/-- Both calls do the same, but `Feed` takes a packet of no bytes for none. -/
theorem feed_eq (reassembler : Reassembler) (hdr : UDPHeader) (payload : Bytes) (now : Nat) :
    reassembler.feed hdr payload now =
      ((reassembler.feedAppend false hdr payload now).1,
        (reassembler.feedAppend false hdr payload now).2.map emptyAsNone) := by
  unfold Reassembler.feed Reassembler.feedAppend
  split
  · rw [appendTo_true]
    rfl
  split
  swap
  · rfl
  split
  · rfl
  dsimp only
  split
  · rfl
  split
  swap
  · rfl
  split
  · exact finish_true _ _ _
  split
  · rfl
  · exact finish_true _ _ _

/-! ## Packets of no bytes -/

theorem assembled_eq_nil :
    entry.assembled = [] ↔
      ∀ index < entry.fragmentCount.toNat, (entry.slot index).getD [] = [] := by
  unfold PacketReassembly.assembled PacketReassembly.slot
  rw [List.flatMap_eq_nil_iff]
  constructor
  · intro empty index bound
    cases there : entry.fragments[index]? with
    | none => rfl
    | some slot =>
        refine empty slot (List.mem_of_getElem? (i := index) ?_)
        rw [List.getElem?_take, if_pos bound, there]
  · intro empty slot member
    rcases List.mem_iff_getElem?.mp member with ⟨index, there⟩
    rw [List.getElem?_take] at there
    split at there
    · rename_i bound
      have blank := empty index bound
      rwa [there] at blank
    · cases there

theorem assembled_store {index : Nat} (bound : index < entry.fragmentCount.toNat)
    (inside : index < maxUDPFragments) (missing : entry.slot index = none) :
    (entry.store index bound payload).assembled = [] ↔ entry.assembled = [] ∧ payload = [] := by
  have own : (entry.store index bound payload).slot index = some payload := by
    rw [PacketReassembly.slot, PacketReassembly.store,
      List.getElem?_set_self (entry.sized.symm ▸ inside)]
    rfl
  have others (other : Nat) (different : other ≠ index) :
      (entry.store index bound payload).slot other = entry.slot other := by
    rw [PacketReassembly.slot, PacketReassembly.store, List.getElem?_set_ne (Ne.symm different)]
    rfl
  rw [assembled_eq_nil, assembled_eq_nil]
  constructor
  · intro empty
    refine ⟨fun other below => ?_, ?_⟩
    · by_cases same : other = index
      · rw [same, missing]
        rfl
      · rw [← others other same]
        exact empty other below
    · have blank := empty index bound
      rwa [own] at blank
  · rintro ⟨empty, none⟩ other below
    by_cases same : other = index
    · rw [same, own, none]
      rfl
    · rw [others other same]
      exact empty other below

theorem finish_empty_iff (reassembler : Reassembler) (key : ReassemblyKey)
    (entry : PacketReassembly) :
    (reassembler.finish false key entry).2 = .ok (some []) ↔
      entry.receivedCount = entry.fragmentCount ∧ entry.assembled = [] := by
  unfold Reassembler.finish
  by_cases complete : entry.receivedCount = entry.fragmentCount
  · simp [complete, appendTo]
  · simp [complete]

theorem openEntry_new {opened : Reassembler} {now : Nat}
    (absent : reassembler.pending.lookup ⟨hdr.sessionID, hdr.packetID⟩ = none)
    (made : reassembler.openEntry ⟨hdr.sessionID, hdr.packetID⟩ hdr.fragmentCount now =
      some (opened, entry)) :
    entry.receivedCount = 0 ∧ ∀ index, entry.slot index = none := by
  unfold Reassembler.openEntry at made
  rw [absent] at made
  dsimp only at made
  split at made
  · cases made
  split at made
  · cases made
  cases made
  exact ⟨rfl, PooledReassembly.blank _⟩

theorem count_ne_one (several : ¬(hdr.fragmentCount = 1 ∧ hdr.fragmentID = 0))
    (valid : ValidFragment hdr.fragmentID hdr.fragmentCount) :
    hdr.fragmentCount ≠ 0 ∧ hdr.fragmentCount ≠ 1 := by
  have below := UInt8.lt_iff_toNat_lt.mp valid.1
  constructor
  · intro zero
    rw [zero] at below
    exact absurd below (Nat.not_lt_zero _)
  · intro one
    rw [one] at below
    refine several ⟨one, UInt8.toNat_inj.mp ?_⟩
    have small : hdr.fragmentID.toNat < 1 := below
    change hdr.fragmentID.toNat = 0
    omega

theorem feedAppend_empty_of_found {now : Nat}
    (several : ¬(hdr.fragmentCount = 1 ∧ hdr.fragmentID = 0))
    (valid : ValidFragment hdr.fragmentID hdr.fragmentCount) (opened : reassembler.closed = false)
    (found : reassembler.pending.lookup ⟨hdr.sessionID, hdr.packetID⟩ = some entry) :
    (reassembler.feedAppend false hdr payload now).2 = .ok (some []) ↔
      entry.fragmentCount = hdr.fragmentCount ∧
        ((entry.slot hdr.fragmentID.toNat = none ∧ entry.totalBytes + payload.length ≤
            maxUDPPacketSize ∧ entry.receivedCount + 1 = entry.fragmentCount ∧
            entry.assembled = [] ∧ payload = []) ∨
          (entry.slot hdr.fragmentID.toNat).isSome = true ∧
            entry.receivedCount = entry.fragmentCount ∧ entry.assembled = []) := by
  have made : reassembler.openEntry ⟨hdr.sessionID, hdr.packetID⟩ hdr.fragmentCount now =
      some (reassembler, entry) := by
    simp only [Reassembler.openEntry, found]
  have inside : hdr.fragmentID.toNat < maxUDPFragments :=
    Nat.lt_of_lt_of_le (UInt8.lt_iff_toNat_lt.mp valid.1) valid.2
  simp only [Reassembler.feedAppend, if_neg several, dif_pos valid, opened, Bool.false_eq_true,
    if_false, made]
  by_cases counts : entry.fragmentCount = hdr.fragmentCount
  · rw [dif_pos counts, and_iff_right counts]
    cases slot : entry.slot hdr.fragmentID.toNat with
    | some present =>
        simp only [finish_empty_iff, reduceCtorEq, false_and, Option.isSome_some, true_and,
          false_or]
    | none =>
        simp only [Option.isSome_none, Bool.false_eq_true, false_and, or_false, true_and]
        split
        · rename_i large
          have beyond : maxUDPPacketSize < entry.totalBytes + payload.length := large
          simp [Nat.not_le.mpr beyond]
        · rename_i small
          have within : entry.totalBytes + payload.length ≤ maxUDPPacketSize :=
            Nat.le_of_not_lt small
          rw [finish_empty_iff, assembled_store _ inside slot, and_iff_right within]
          rfl
  · rw [dif_neg counts]
    simp only [counts, false_and, reduceCtorEq]

theorem feedAppend_of_absent {now : Nat}
    (several : ¬(hdr.fragmentCount = 1 ∧ hdr.fragmentID = 0))
    (valid : ValidFragment hdr.fragmentID hdr.fragmentCount) (opened : reassembler.closed = false)
    (absent : reassembler.pending.lookup ⟨hdr.sessionID, hdr.packetID⟩ = none) :
    (reassembler.feedAppend false hdr payload now).2 ≠ .ok (some []) := by
  simp only [Reassembler.feedAppend, if_neg several, dif_pos valid, opened, Bool.false_eq_true,
    if_false]
  cases made : reassembler.openEntry ⟨hdr.sessionID, hdr.packetID⟩ hdr.fragmentCount now with
  | none => exact fun empty => by cases empty
  | some pair =>
      rcases pair with ⟨table, entry⟩
      rcases openEntry_new absent made with ⟨zero, blank⟩
      dsimp only
      split
      · rename_i counts
        rw [blank]
        dsimp only
        split
        · exact fun empty => by cases empty
        · intro empty
          have complete := ((finish_empty_iff _ _ _).mp empty).1
          have one : (1 : UInt8) = hdr.fragmentCount := by
            rw [← counts, ← UInt8.zero_add 1, ← zero]
            exact complete
          exact (count_ne_one several valid).2 one.symm
      · exact fun empty => by cases empty

theorem feedAppend_empty_iff (reassembler : Reassembler) (hdr : UDPHeader) (payload : Bytes)
    (now : Nat) :
    (reassembler.feedAppend false hdr payload now).2 = .ok (some []) ↔
      CompletesEmpty reassembler hdr payload := by
  by_cases only : hdr.fragmentCount = 1 ∧ hdr.fragmentID = 0
  · have fast : reassembler.feedAppend false hdr payload now =
        (reassembler, .ok (appendTo false payload)) := if_pos only
    rw [fast]
    constructor
    · intro empty
      exact .single only (Option.some.inj (Except.ok.inj empty))
    · rintro (⟨_, rfl⟩ | several | several)
      · rfl
      · exact absurd only several
      · exact absurd only several
  by_cases valid : ValidFragment hdr.fragmentID hdr.fragmentCount
  swap
  · have refused : reassembler.feedAppend false hdr payload now =
        (reassembler, .error .invalidFragment) := by
      rw [Reassembler.feedAppend, if_neg only, dif_neg valid]
    rw [refused]
    constructor
    · intro empty
      cases empty
    · rintro (single | ⟨_, good⟩ | ⟨_, good⟩)
      · exact absurd single only
      · exact absurd good valid
      · exact absurd good valid
  cases shut : reassembler.closed with
  | true =>
      have refused : reassembler.feedAppend false hdr payload now =
          (reassembler, .error .closed) := by
        rw [Reassembler.feedAppend, if_neg only, dif_pos valid, if_pos shut]
      rw [refused]
      constructor
      · intro empty
        cases empty
      · rintro (single | ⟨_, _, opened⟩ | ⟨_, _, opened⟩)
        · exact absurd single only
        · rw [shut] at opened
          cases opened
        · rw [shut] at opened
          cases opened
  | false =>
      cases found : reassembler.pending.lookup ⟨hdr.sessionID, hdr.packetID⟩ with
      | none =>
          constructor
          · exact fun empty => absurd empty (feedAppend_of_absent only valid shut found)
          · rintro (single | ⟨_, _, _, there⟩ | ⟨_, _, _, there⟩)
            · exact absurd single only
            · cases found.symm.trans there
            · cases found.symm.trans there
      | some entry =>
          rw [feedAppend_empty_of_found only valid shut found]
          constructor
          · rintro ⟨counts, ⟨missing, small, fills, others, empty⟩ | ⟨present, full, blank⟩⟩
            · exact .last only valid shut found counts missing (by omega) fills others empty
            · exact .again only valid shut found counts present full blank
          · rintro (single | ⟨_, _, _, there, counts, missing, small, fills, others, empty⟩ |
              ⟨_, _, _, there, counts, present, full, blank⟩)
            · exact absurd single only
            · cases found.symm.trans there
              exact ⟨counts, .inl ⟨missing, by rw [empty]; exact small, fills, others, empty⟩⟩
            · cases found.symm.trans there
              exact ⟨counts, .inr ⟨present, full, blank⟩⟩

theorem map_emptyAsNone_eq {result : Except FeedError (Option Bytes)} :
    result.map emptyAsNone = result ↔ result ≠ .ok (some []) := by
  rcases result with err | _ | bytes
  · simp [Except.map]
  · simp [Except.map, emptyAsNone]
  · cases bytes <;> simp [Except.map, emptyAsNone]

theorem receive_true {datagram packet : Bytes} {now : Nat}
    (complete : (reassembler.receive false datagram now).2 = .ok (some packet)) :
    (reassembler.receive true datagram now).2 = .ok (emptyAsNone (some packet)) := by
  unfold Reassembler.receive at complete ⊢
  cases decoded : decodeUDP datagram with
  | error err =>
      rw [decoded] at complete
      cases complete
  | ok pair =>
      rw [decoded] at complete
      rcases pair with ⟨hdr, payload⟩
      have same := feed_eq reassembler hdr payload now
      unfold Reassembler.feed at same
      dsimp only at complete ⊢
      rw [same]
      cases outcome : (reassembler.feedAppend false hdr payload now).2 with
      | error err =>
          rw [outcome] at complete
          cases complete
      | ok result =>
          rw [outcome] at complete
          cases complete
          rfl

/-! ## The guarantee -/

/-- `Feed` and `FeedAppend` agree on the next state and on the error, and on the rest unless the
fragment makes a packet of no bytes complete. So a packet of a `Fragmenter` is reported complete
by both, unless it is empty. -/
theorem feed_agrees_iff (reassembler : Reassembler) (hdr : UDPHeader) (payload : Bytes)
    (now : Nat) (fragmenter : Fragmenter) (sessionID packetID : UInt32) (packet : Bytes) :
    ((reassembler.feed hdr payload now).1 = (reassembler.feedAppend false hdr payload now).1 ∧
      (∀ err, (reassembler.feed hdr payload now).2 = .error err ↔
        (reassembler.feedAppend false hdr payload now).2 = .error err) ∧
      (reassembler.feed hdr payload now = reassembler.feedAppend false hdr payload now ↔
        ¬CompletesEmpty reassembler hdr payload)) ∧
    ∀ datagrams : List Bytes, packet.length ≤ maxUDPPacketSize →
      fragmenter.fragment sessionID packetID packet = .ok datagrams →
      ∀ start : Reassembler, start.closed = false →
        start.pending.lookup ⟨sessionID, packetID⟩ = none →
      ∀ past reassembler,
        deliveries.Run (Undisturbed ⟨sessionID, packetID⟩ datagrams) start past reassembler →
        (∃ datagram ∈ datagrams, datagram ∉ arrived past) →
      ∀ datagram ∈ datagrams, reassembler.HasRoom ⟨sessionID, packetID⟩ →
        (∀ other ∈ datagrams, other ∈ arrived past ++ [datagram]) → ∀ now,
        (reassembler.receive false datagram now).2 = .ok (some packet) ∧
          ((reassembler.receive true datagram now).2 = .ok (some packet) ↔ packet ≠ []) := by
  constructor
  · rw [feed_eq]
    refine ⟨rfl, fun err => ?_, ?_⟩
    · cases (reassembler.feedAppend false hdr payload now).2 <;> simp [Except.map]
    · rw [← feedAppend_empty_iff reassembler hdr payload now, Prod.ext_iff]
      simp only [true_and, map_emptyAsNone_eq, ne_eq]
  · intro datagrams bounded split start opened absent past reassembler run missing datagram member
      room all now
    rcases Fragmenter.fragment_eq_ok split with ⟨few, rfl⟩
    have complete := reassembles_datagrams few bounded start opened absent past reassembler run
      missing datagram member room now
    rw [if_pos all] at complete
    refine ⟨complete, ?_⟩
    rw [receive_true complete]
    cases packet <;> simp [emptyAsNone]

/-- Three bytes in two fragments, the second of which arrives first. -/
theorem feed_agrees_reversed :
    ∃ reassembler : Reassembler,
      (reassembler.receive false ((newFragmenter 2).datagram 7 9 [1, 2, 3] 0) 1).2 =
          .ok (some [1, 2, 3]) ∧
        (reassembler.receive true ((newFragmenter 2).datagram 7 9 [1, 2, 3] 0) 1).2 =
          .ok (some [1, 2, 3]) := by
  let fragmenter := newFragmenter 2
  let datagrams := [fragmenter.datagram 7 9 [1, 2, 3] 0, fragmenter.datagram 7 9 [1, 2, 3] 1]
  have handed : fragmenter.fragment 7 9 [1, 2, 3] = .ok datagrams := by
    have two : fragmenter.fragments [1, 2, 3] = 2 := by decide
    rw [Fragmenter.fragment, if_neg (by decide), two]
    rfl
  rcases deliveries.exists_run (Undisturbed ⟨7, 9⟩ datagrams)
      (fun reassembler => reassembler.HasRoom ⟨7, 9⟩) (Reassembler.new 100)
      [.deliver (fragmenter.datagram 7 9 [1, 2, 3] 1) 0]
      ⟨.inl ⟨by decide, by decide⟩, _, rfl, by
        show Reassembler.HasRoom _ _
        decide⟩ with ⟨reassembler, run, room⟩
  have agrees := feed_agrees_iff (Reassembler.new 100)
    (fragmenter.header 7 9 [1, 2, 3] 1) [3] 0 fragmenter 7 9 [1, 2, 3]
  rcases agrees.2 datagrams (by decide) handed (Reassembler.new 100) rfl rfl _ reassembler run
    ⟨fragmenter.datagram 7 9 [1, 2, 3] 0, by decide, by decide⟩
    (fragmenter.datagram 7 9 [1, 2, 3] 0) (by decide) room (by decide) 1 with ⟨reused, plain⟩
  exact ⟨reassembler, reused, plain.mpr (by decide)⟩

/-- `Feed` takes the one datagram of an empty packet for a fragment of more. -/
theorem empty_packet_incomplete :
    (newFragmenter 1200).fragment 7 9 [] = .ok [encodeUDP 7 9 0 1 []] ∧
      ((Reassembler.new 100).receive false (encodeUDP 7 9 0 1 []) 0).2 = .ok (some []) ∧
      ((Reassembler.new 100).receive true (encodeUDP 7 9 0 1 []) 0).2 = .ok none := by
  decide +kernel

end Agreement

end Rdpulse.UDP
