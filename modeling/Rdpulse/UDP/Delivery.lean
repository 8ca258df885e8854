import Rdpulse.Foundation.Execution
import Rdpulse.UDP.Fragment
import Rdpulse.UDP.Reassembly

namespace Rdpulse.UDP

open Foundation Protocol

/-! # Fragmentation and reassembly undo each other

Datagrams reach a reassembler in any order, more than once, and between those of
other packets. -/

inductive ReceiveError
  | header (err : UDPError)
  | feed (err : FeedError)
  deriving DecidableEq, Repr

/-- `DecodeUDP` and then `FeedAppend`, as every receive loop does. -/
def Reassembler.receive (reassembler : Reassembler) (dstNil : Bool) (datagram : Bytes)
    (now : Nat) : Reassembler × Except ReceiveError (Option Bytes) :=
  match decodeUDP datagram with
  | .error err => (reassembler, .error (.header err))
  | .ok (hdr, payload) =>
      let fed := reassembler.feedAppend dstNil hdr payload now
      (fed.1, fed.2.mapError .feed)

inductive Delivery
  | deliver (datagram : Bytes) (now : Nat)
  | sweep (now : Nat)
  deriving DecidableEq, Repr

def deliveries : Machine Reassembler Delivery where
  step reassembler
    | .deliver datagram now => some (reassembler.receive false datagram now).1
    | .sweep now => some (reassembler.sweep now)

def arrived (past : List Delivery) : List Bytes :=
  past.filterMap fun
    | .deliver datagram _ => some datagram
    | .sweep _ => none

def Unrelated (key : ReassemblyKey) (datagram : Bytes) : Prop :=
  ∃ hdr payload, decodeUDP datagram = .ok (hdr, payload) ∧ ⟨hdr.sessionID, hdr.packetID⟩ ≠ key

/-- Of this packet only these datagrams are delivered, within the limits of the
table, and the cleaner does not expire it. -/
def Undisturbed (key : ReassemblyKey) (datagrams : List Bytes) (reassembler : Reassembler) :
    Delivery → Prop
  | .deliver datagram _ =>
      datagram ∈ datagrams ∧ reassembler.HasRoom key ∨ Unrelated key datagram
  | .sweep now => ∀ entry, reassembler.pending.lookup key = some entry →
      ¬entry.Expired reassembler.timeout now

theorem arrived_deliver (past : List Delivery) (datagram : Bytes) (now : Nat) :
    arrived (past ++ [.deliver datagram now]) = arrived past ++ [datagram] := by
  simp [arrived]

theorem arrived_sweep (past : List Delivery) (now : Nat) :
    arrived (past ++ [.sweep now]) = arrived past := by
  simp [arrived]

section Packet

variable {fragmenter : Fragmenter} {sessionID packetID : UInt32} {packet : Bytes}

def gained (fragmenter : Fragmenter) (sessionID packetID : UInt32) (packet : Bytes)
    (past : List Bytes) : Finset Nat :=
  (Finset.range (fragmenter.fragments packet)).filter fun index =>
    fragmenter.datagram sessionID packetID packet index ∈ past

theorem gained_append (few : fragmenter.fragments packet ≤ maxUDPFragments) {index : Nat}
    (bound : index < fragmenter.fragments packet) (past : List Bytes) :
    gained fragmenter sessionID packetID packet
        (past ++ [fragmenter.datagram sessionID packetID packet index]) =
      insert index (gained fragmenter sessionID packetID packet past) := by
  ext other
  simp only [gained, Finset.mem_filter, Finset.mem_range, List.mem_append, List.mem_singleton,
    Finset.mem_insert]
  constructor
  · rintro ⟨otherBound, before | equal⟩
    · exact .inr ⟨otherBound, before⟩
    · exact .inl (Fragmenter.datagram_injective few otherBound bound equal)
  · rintro (rfl | ⟨otherBound, before⟩)
    · exact ⟨bound, .inr rfl⟩
    · exact ⟨otherBound, .inl before⟩

theorem gained_eq_range_iff {past : List Bytes} :
    gained fragmenter sessionID packetID packet past =
        Finset.range (fragmenter.parts packet).length ↔
      ∀ index < fragmenter.fragments packet,
        fragmenter.datagram sessionID packetID packet index ∈ past := by
  rw [Fragmenter.parts_length, gained, Finset.filter_eq_self]
  simp only [Finset.mem_range]

theorem feedAppend_single (single : fragmenter.fragments packet = 1) {index : Nat}
    (bound : index < fragmenter.fragments packet) (reassembler : Reassembler) (dstNil : Bool)
    (now : Nat) :
    reassembler.feedAppend dstNil (fragmenter.header sessionID packetID packet index)
        (fragmenter.chunk packet index) now =
      (reassembler, .ok (appendTo dstNil packet)) := by
  have first : index = 0 := by omega
  subst first
  have whole : fragmenter.chunk packet 0 = packet := by
    have flattened : (fragmenter.parts packet).flatten = packet :=
      Fragmenter.parts_flatten (by omega)
    simpa [Fragmenter.parts, single] using flattened
  simp [Reassembler.feedAppend, Fragmenter.header, single, whole]

theorem feedAppend_several {reassembler : Reassembler} {got : Finset Nat} {index : Nat}
    (several : fragmenter.fragments packet ≠ 1)
    (few : fragmenter.fragments packet ≤ maxUDPFragments)
    (bound : index < fragmenter.fragments packet)
    (holds : reassembler.Holds ⟨sessionID, packetID⟩ (fragmenter.parts packet) got)
    (dstNil : Bool) (now : Nat) :
    let fed := reassembler.feedAppend dstNil (fragmenter.header sessionID packetID packet index)
      (fragmenter.chunk packet index) now
    let gained := insert index got
    (fed.1 = reassembler ∧ (∃ err, fed.2 = .error err) ∧
        (reassembler.closed = true ∨ ¬reassembler.HasRoom ⟨sessionID, packetID⟩)) ∨
      (maxUDPPacketSize < packet.length ∧ fed.1.pending.lookup ⟨sessionID, packetID⟩ = none ∧
        fed.2 = .error .corruptPacketSize) ∨
      (gained = Finset.range (fragmenter.parts packet).length ∧
        fed.1.pending.lookup ⟨sessionID, packetID⟩ = none ∧
        fed.2 = .ok (appendTo dstNil packet)) ∨
      (gained ≠ Finset.range (fragmenter.parts packet).length ∧
        fed.1.Holds ⟨sessionID, packetID⟩ (fragmenter.parts packet) gained ∧
        fed.2 = .ok none) := by
  have counted : ¬((fragmenter.header sessionID packetID packet index).fragmentCount = 1 ∧
      (fragmenter.header sessionID packetID packet index).fragmentID = 0) := by
    rintro ⟨one, _⟩
    have count := congrArg UInt8.toNat one
    rw [Fragmenter.header, Fragmenter.toNat_ofNat_fragments few] at count
    exact several count
  have part : (fragmenter.parts packet)[index]? = some (fragmenter.chunk packet index) :=
    Fragmenter.parts_getElem? bound
  have place : (fragmenter.header sessionID packetID packet index).fragmentID.toNat = index :=
    Fragmenter.toNat_ofNat_index few bound
  have outcome := Reassembler.feedAppend_cases dstNil now counted
    (Fragmenter.validFragment_datagram few bound)
    ((Fragmenter.toNat_ofNat_fragments few).trans (Fragmenter.parts_length packet).symm)
    (place.symm ▸ part) holds
  rwa [place, Fragmenter.parts_flatten (by omega)] at outcome

/-- Feeding a fragment of the packet: it completes the packet, or goes on gathering. -/
theorem receive_datagram {reassembler : Reassembler} {got : Finset Nat} {index : Nat}
    (few : fragmenter.fragments packet ≤ maxUDPFragments)
    (bound : index < fragmenter.fragments packet) (bounded : packet.length ≤ maxUDPPacketSize)
    (holds : reassembler.Holds ⟨sessionID, packetID⟩ (fragmenter.parts packet) got)
    (opened : reassembler.closed = false) (room : reassembler.HasRoom ⟨sessionID, packetID⟩)
    (now : Nat) :
    let received := reassembler.receive false
      (fragmenter.datagram sessionID packetID packet index) now
    let gained := insert index got
    (gained = Finset.range (fragmenter.parts packet).length ∧ received.2 = .ok (some packet)) ∨
      gained ≠ Finset.range (fragmenter.parts packet).length ∧
        received.1.Holds ⟨sessionID, packetID⟩ (fragmenter.parts packet) gained ∧
        received.2 = .ok none := by
  intro received gained
  have inside : got ⊆ Finset.range (fragmenter.parts packet).length := by
    rcases holds with ⟨rfl, _⟩ | ⟨_, _, gathers⟩
    · exact Finset.empty_subset _
    · exact gathers.inside
  simp only [received, Reassembler.receive, Fragmenter.decodeUDP_datagram sessionID packetID few
    bound]
  by_cases single : fragmenter.fragments packet = 1
  · rw [feedAppend_single single bound]
    rw [Fragmenter.parts_length, single] at inside
    refine .inl ⟨?_, rfl⟩
    rw [Fragmenter.parts_length, single]
    have first : index = 0 := by omega
    subst first
    exact Finset.Subset.antisymm (Finset.insert_subset (by simp) inside) (by simp [gained])
  · rcases feedAppend_several single few bound holds false now with
      ⟨_, _, shut | full⟩ | ⟨large, _⟩ | ⟨all, _, complete⟩ | ⟨more, kept, none⟩
    · rw [opened] at shut
      cases shut
    · exact absurd room full
    · omega
    · exact .inl ⟨all, by rw [complete]; rfl⟩
    · exact .inr ⟨more, kept, by rw [none]; rfl⟩

/-- As long as a fragment is missing, the table holds those that have come. -/
def Gathering (fragmenter : Fragmenter) (sessionID packetID : UInt32) (packet : Bytes)
    (past : List Delivery) (reassembler : Reassembler) : Prop :=
  reassembler.closed = false ∧
    (gained fragmenter sessionID packetID packet (arrived past) ≠
        Finset.range (fragmenter.parts packet).length →
      reassembler.Holds ⟨sessionID, packetID⟩ (fragmenter.parts packet)
        (gained fragmenter sessionID packetID packet (arrived past)))

theorem gained_nil : gained fragmenter sessionID packetID packet [] = ∅ := by
  simp [gained]

theorem gained_unrelated (few : fragmenter.fragments packet ≤ maxUDPFragments) {datagram : Bytes}
    (unrelated : Unrelated ⟨sessionID, packetID⟩ datagram) (past : List Bytes) :
    gained fragmenter sessionID packetID packet (past ++ [datagram]) =
      gained fragmenter sessionID packetID packet past := by
  apply Finset.filter_congr
  intro index bound
  rw [List.mem_append, List.mem_singleton, or_iff_left]
  rintro rfl
  rcases unrelated with ⟨hdr, payload, decoded, different⟩
  rw [Fragmenter.decodeUDP_datagram sessionID packetID few (Finset.mem_range.mp bound)] at decoded
  exact different (congrArg (fun hdr : UDPHeader => ReassemblyKey.mk hdr.sessionID hdr.packetID)
    (congrArg Prod.fst (Except.ok.inj decoded)).symm)

@[simp] theorem receive_closed (reassembler : Reassembler) (dstNil : Bool) (datagram : Bytes)
    (now : Nat) : (reassembler.receive dstNil datagram now).1.closed = reassembler.closed := by
  rw [Reassembler.receive]
  split
  · rfl
  · exact Reassembler.feedAppend_closed _ _ _ _ _

theorem receive_lookup_unrelated {key : ReassemblyKey} {datagram : Bytes}
    (unrelated : Unrelated key datagram) (reassembler : Reassembler) (dstNil : Bool) (now : Nat) :
    (reassembler.receive dstNil datagram now).1.pending.lookup key =
      reassembler.pending.lookup key := by
  rcases unrelated with ⟨hdr, payload, decoded, different⟩
  simp only [Reassembler.receive, decoded]
  exact Reassembler.feedAppend_lookup_ne _ _ _ _ _ different.symm

theorem holds_of_lookup_eq {key : ReassemblyKey} {parts : List Bytes} {got : Finset Nat}
    {before after : Reassembler} (same : after.pending.lookup key = before.pending.lookup key)
    (holds : before.Holds key parts got) : after.Holds key parts got := by
  rwa [Reassembler.Holds, same]

theorem gathering_step (few : fragmenter.fragments packet ≤ maxUDPFragments)
    (bounded : packet.length ≤ maxUDPPacketSize) {past : List Delivery}
    {reassembler next : Reassembler} {event : Delivery}
    (gathering : Gathering fragmenter sessionID packetID packet past reassembler)
    (permitted : Undisturbed ⟨sessionID, packetID⟩
      ((List.range (fragmenter.fragments packet)).map
        (fragmenter.datagram sessionID packetID packet)) reassembler event)
    (step : deliveries.step reassembler event = some next) :
    Gathering fragmenter sessionID packetID packet (past ++ [event]) next := by
  rcases gathering with ⟨opened, held⟩
  cases event with
  | sweep now =>
      cases step
      refine ⟨(Reassembler.sweep_closed _ _).trans opened, ?_⟩
      rw [arrived_sweep]
      intro missing
      exact holds_of_lookup_eq (Reassembler.sweep_lookup_fresh permitted) (held missing)
  | deliver datagram now =>
      cases step
      refine ⟨(receive_closed _ _ _ _).trans opened, ?_⟩
      rw [arrived_deliver]
      rcases permitted with ⟨member, room⟩ | unrelated
      · rcases List.mem_map.mp member with ⟨index, range, rfl⟩
        have bound := List.mem_range.mp range
        rw [gained_append few bound]
        intro missing
        have missingBefore : gained fragmenter sessionID packetID packet (arrived past) ≠
            Finset.range (fragmenter.parts packet).length := by
          intro all
          rw [all, Finset.insert_eq_of_mem (by simpa using bound)] at missing
          exact missing rfl
        rcases receive_datagram few bound bounded (held missingBefore) opened room now with
          ⟨all, _⟩ | ⟨_, kept, _⟩
        · exact absurd all missing
        · exact kept
      · rw [gained_unrelated few unrelated]
        intro missing
        exact holds_of_lookup_eq (receive_lookup_unrelated unrelated _ _ _) (held missing)

/-- However the datagrams are delivered, the call with the last missing one returns
the packet and every earlier call returns nil without an error. -/
def Reassembles (key : ReassemblyKey) (datagrams : List Bytes) (packet : Bytes) : Prop :=
  ∀ start : Reassembler, start.closed = false → start.pending.lookup key = none →
    ∀ past reassembler, deliveries.Run (Undisturbed key datagrams) start past reassembler →
      (∃ datagram ∈ datagrams, datagram ∉ arrived past) →
      ∀ datagram ∈ datagrams, reassembler.HasRoom key → ∀ now,
        (reassembler.receive false datagram now).2 =
          .ok (if ∀ other ∈ datagrams, other ∈ arrived past ++ [datagram] then some packet
            else none)

theorem reassembles_datagrams (few : fragmenter.fragments packet ≤ maxUDPFragments)
    (bounded : packet.length ≤ maxUDPPacketSize) :
    Reassembles ⟨sessionID, packetID⟩ ((List.range (fragmenter.fragments packet)).map
      (fragmenter.datagram sessionID packetID packet)) packet := by
  intro start opened absent past reassembler run missing datagram member room now
  have gathering : Gathering fragmenter sessionID packetID packet past reassembler :=
    run.invariant ⟨opened, fun _ => .inl ⟨gained_nil, absent⟩⟩
      (fun _ _ _ _ _ gathering permitted step =>
        gathering_step few bounded gathering permitted step)
  rcases List.mem_map.mp member with ⟨index, range, rfl⟩
  have bound := List.mem_range.mp range
  have incomplete : gained fragmenter sessionID packetID packet (arrived past) ≠
      Finset.range (fragmenter.parts packet).length := by
    rw [ne_eq, gained_eq_range_iff]
    rcases missing with ⟨absentDatagram, among, notArrived⟩
    rcases List.mem_map.mp among with ⟨other, otherRange, rfl⟩
    exact fun all => notArrived (all other (List.mem_range.mp otherRange))
  have complete : (∀ other ∈ (List.range (fragmenter.fragments packet)).map
        (fragmenter.datagram sessionID packetID packet),
      other ∈ arrived past ++ [fragmenter.datagram sessionID packetID packet index]) ↔
      insert index (gained fragmenter sessionID packetID packet (arrived past)) =
        Finset.range (fragmenter.parts packet).length := by
    rw [← gained_append few bound, gained_eq_range_iff]
    simp only [List.forall_mem_map, List.mem_range]
  rcases receive_datagram few bound bounded (gathering.2 incomplete) gathering.1 room now with
    ⟨all, returned⟩ | ⟨more, _, returned⟩
  · rw [returned, if_pos (complete.mpr all)]
  · rw [returned, if_neg (fun all => more (complete.mp all))]

end Packet

/-- Where the count does not leave the `int` range, `Fragment` hands out as many
datagrams as the packet has parts, such that, however they are delivered, the call
with the last missing one returns the packet and every earlier call returns nil
without an error. A packet of too many fragments is refused. -/
theorem fragment_reassembles (fragmenter : Fragmenter) (sessionID packetID : UInt32)
    (packet : Bytes) (bounded : packet.length ≤ maxUDPPacketSize)
    (fits : packet.length + fragmenter.maxPayload ≤ 2 ^ 63) :
    ((packet.length + fragmenter.maxPayload - 1) / fragmenter.maxPayload ≤ maxUDPFragments →
      ∃ datagrams, fragmenter.fragment sessionID packetID packet = .ok datagrams ∧
        datagrams.length =
          max 1 ((packet.length + fragmenter.maxPayload - 1) / fragmenter.maxPayload) ∧
        ∀ start : Reassembler, start.closed = false →
          start.pending.lookup ⟨sessionID, packetID⟩ = none →
        ∀ past reassembler,
          deliveries.Run (Undisturbed ⟨sessionID, packetID⟩ datagrams) start past reassembler →
          (∃ datagram ∈ datagrams, datagram ∉ arrived past) →
        ∀ datagram ∈ datagrams, reassembler.HasRoom ⟨sessionID, packetID⟩ → ∀ now,
          (reassembler.receive false datagram now).2 =
            .ok (if ∀ other ∈ datagrams, other ∈ arrived past ++ [datagram] then some packet
              else none)) ∧
    (maxUDPFragments < (packet.length + fragmenter.maxPayload - 1) / fragmenter.maxPayload →
      fragmenter.fragment sessionID packetID packet = .error (.packetTooLarge
        ((packet.length + fragmenter.maxPayload - 1) / fragmenter.maxPayload))) := by
  have count := Fragmenter.fragments_of_fits fits
  constructor
  · intro few'
    have few : fragmenter.fragments packet ≤ maxUDPFragments := by
      rw [count]
      exact Nat.max_le.mpr ⟨by decide, few'⟩
    refine ⟨_, if_neg (by omega), ?_, reassembles_datagrams few bounded⟩
    rw [List.length_map, List.length_range, count]
  · intro many
    have same : fragmenter.fragments packet =
        (packet.length + fragmenter.maxPayload - 1) / fragmenter.maxPayload := by
      rw [maxUDPFragments] at many
      omega
    rw [Fragmenter.fragment, same, if_pos many]

/-- Three bytes in two fragments, the second of which arrives first. -/
theorem fragment_reassembles_reversed :
    let fragmenter := newFragmenter 2
    let datagrams := [fragmenter.datagram 7 9 [1, 2, 3] 0, fragmenter.datagram 7 9 [1, 2, 3] 1]
    fragmenter.fragment 7 9 [1, 2, 3] = .ok datagrams ∧
      ∃ reassembler,
        deliveries.Run (Undisturbed ⟨7, 9⟩ datagrams) (Reassembler.new 100)
          [.deliver (fragmenter.datagram 7 9 [1, 2, 3] 1) 0] reassembler ∧
        (reassembler.receive false (fragmenter.datagram 7 9 [1, 2, 3] 0) 1).2 =
          .ok (some [1, 2, 3]) := by
  intro fragmenter datagrams
  rcases (fragment_reassembles fragmenter 7 9 [1, 2, 3] (by decide) (by decide)).1 (by decide)
    with ⟨found, split, _, reassembles⟩
  have handed : fragmenter.fragment 7 9 [1, 2, 3] = .ok datagrams := by
    have two : fragmenter.fragments [1, 2, 3] = 2 := by decide
    rw [Fragmenter.fragment, if_neg (by decide), two]
    rfl
  have same : datagrams = found := Except.ok.inj (handed.symm.trans split)
  subst same
  rcases deliveries.exists_run (Undisturbed ⟨7, 9⟩ datagrams)
      (fun reassembler => reassembler.HasRoom ⟨7, 9⟩) (Reassembler.new 100)
      [.deliver (fragmenter.datagram 7 9 [1, 2, 3] 1) 0]
      ⟨.inl ⟨by decide, by decide⟩, _, rfl, by
        show Reassembler.HasRoom _ _
        decide⟩ with ⟨reassembler, run, room⟩
  refine ⟨handed, reassembler, run, ?_⟩
  rw [reassembles (Reassembler.new 100) rfl rfl _ reassembler run
    ⟨fragmenter.datagram 7 9 [1, 2, 3] 0, by decide, by decide⟩ _ (by decide) room 1,
    if_pos (by decide)]

/-- With the largest `int` as its limit `Fragment` hands out nothing for two bytes,
which are one part, and reports no error. -/
theorem fragment_overflows :
    let fragmenter := newFragmenter (2 ^ 63 - 1)
    ([1, 2].length + fragmenter.maxPayload - 1) / fragmenter.maxPayload = 1 ∧
      fragmenter.fragment 7 9 [1, 2] = .ok [] := by
  decide

end Rdpulse.UDP
