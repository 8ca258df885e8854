import Rdpulse.Foundation.FirstOccurrences
import Rdpulse.Signaling.Coordinator

namespace Rdpulse.Signaling

open Foundation Protocol Rdpulse.Path

/-! # What `validateCandidates` admits -/

/-- The address that a text is written from reads back. -/
structure Netip.RoundTrips (netip : Netip) : Prop where
  reads : ∀ text address, netip.parseAddrPort text = some address →
    netip.parseAddrPort (netip.string address) = some address

def limitedBroadcast : Addr := .v4 (BitVec.allOnes 32)

structure Usable (address : AddrPort) : Prop where
  port : address.port ≠ 0
  specified : address.addr.unmap.isUnspecified = false
  unicast : address.addr.unmap.isMulticast = false
  limited : address.addr.unmap ≠ limitedBroadcast

/-- An address of another class than the loop looks for: the limited broadcast address,
in either form, or 0.0.0.0 in IPv6 form. -/
def Missed (addr : Addr) : Prop :=
  addr.unmap = limitedBroadcast ∨
    (addr.unmap.isUnspecified = true ∧ addr.isUnspecified = false)

section Validation

variable {netip : Netip} {candidate : CandidateInfo} {candidates result : List CandidateInfo}

structure Admitted (netip : Netip) (candidate : CandidateInfo) : Prop where
  protocol : candidate.protocol = protocolUDP ∨ candidate.protocol = protocolTCP
  type : candidate.type = candidateLAN ∨ candidate.type = candidateReflexive
  address : ∃ address, netip.parseAddrPort candidate.address = some address ∧
    address.addr.isUnspecified = false ∧ address.addr.isMulticast = false ∧ address.port ≠ 0

def canonical (netip : Netip) (candidate : CandidateInfo) : CandidateInfo :=
  match netip.parseAddrPort candidate.address with
  | none => candidate
  | some address => { candidate with address := netip.string address }

def candidateKey (candidate : CandidateInfo) : GoString :=
  candidate.protocol ++ 0x7c :: candidate.address

theorem validateLoop_iff (netip : Netip) (seen : List GoString)
    (validated candidates result : List CandidateInfo) :
    validateLoop netip seen validated candidates = .ok result ↔
      (∀ candidate ∈ candidates, Admitted netip candidate) ∧
        result = validated ++
          firstOccurrences candidateKey seen (candidates.map (canonical netip)) := by
  induction candidates generalizing seen validated with
  | nil => simp [validateLoop, firstOccurrences, eq_comm]
  | cons candidate rest induction =>
      simp only [List.forall_mem_cons, List.map_cons]
      by_cases protocol : candidate.protocol = protocolUDP ∨ candidate.protocol = protocolTCP
      · by_cases type : candidate.type = candidateLAN ∨ candidate.type = candidateReflexive
        · cases read : netip.parseAddrPort candidate.address with
          | none =>
              have refused : ¬Admitted netip candidate := by
                rintro ⟨_, _, _, parsed, _⟩
                rw [read] at parsed
                cases parsed
              simp only [refused, false_and, iff_false]
              simp only [validateLoop, read]
              grind
          | some address =>
              by_cases bad : address.addr.isUnspecified || address.addr.isMulticast ||
                  address.port = 0
              · have refused : ¬Admitted netip candidate := by
                  rintro ⟨_, _, _, parsed, specified, unicast, port⟩
                  rw [read] at parsed
                  cases parsed
                  simp [specified, unicast, port] at bad
                simp only [refused, false_and, iff_false]
                simp only [validateLoop, read, bad]
                grind
              · have admitted : Admitted netip candidate := by
                  simp only [Bool.or_eq_true, decide_eq_true_eq, not_or,
                    Bool.not_eq_true] at bad
                  exact ⟨protocol, type, address, read, bad.1.1, bad.1.2, bad.2⟩
                have shown : canonical netip candidate =
                    { candidate with address := netip.string address } := by
                  simp only [canonical, read]
                have passed : validateLoop netip seen validated (candidate :: rest) =
                    if candidateKey (canonical netip candidate) ∈ seen then
                      validateLoop netip seen validated rest
                    else
                      validateLoop netip (candidateKey (canonical netip candidate) :: seen)
                        (validated ++ [canonical netip candidate]) rest := by
                  have known : (candidate.protocol ≠ protocolUDP &&
                      candidate.protocol ≠ protocolTCP) = false := by
                    rcases protocol with same | same <;> simp [same]
                  have kind : (candidate.type ≠ candidateLAN &&
                      candidate.type ≠ candidateReflexive) = false := by
                    rcases type with same | same <;> simp [same]
                  rw [validateLoop, known, kind, read, shown]
                  simp only [bad]
                  rfl
                rw [passed, firstOccurrences]
                simp only [admitted, true_and]
                by_cases old : candidateKey (canonical netip candidate) ∈ seen
                · rw [if_pos old, if_pos old, induction]
                · rw [if_neg old, if_neg old, induction, List.append_assoc]
                  rfl
        · have refused : ¬Admitted netip candidate := fun admitted => type admitted.type
          simp only [refused, false_and, iff_false]
          simp only [validateLoop]
          grind
      · have refused : ¬Admitted netip candidate := fun admitted => protocol admitted.protocol
        simp only [refused, false_and, iff_false]
        simp only [validateLoop]
        grind

theorem validateCandidates_iff :
    validateCandidates netip candidates = .ok result ↔
      candidates.length ≤ maxCandidateCount ∧
        (∀ candidate ∈ candidates, Admitted netip candidate) ∧
        result = firstOccurrences candidateKey [] (candidates.map (canonical netip)) := by
  unfold validateCandidates
  by_cases many : maxCandidateCount < candidates.length
  · simp [many, Nat.not_le.mpr many]
  · rw [if_neg many, validateLoop_iff]
    simp [Nat.le_of_not_lt many]

/-- The two protocols are of one length, so a key tells protocol and address. -/
theorem candidateKey_injective {one other : CandidateInfo}
    (known : one.protocol = protocolUDP ∨ one.protocol = protocolTCP)
    (known' : other.protocol = protocolUDP ∨ other.protocol = protocolTCP)
    (same : candidateKey one = candidateKey other) :
    one.protocol = other.protocol ∧ one.address = other.address := by
  have sized : one.protocol.length = other.protocol.length := by
    rcases known with equal | equal <;> rcases known' with equal' | equal' <;>
      rw [equal, equal'] <;> rfl
  rcases List.append_inj same sized with ⟨protocol, rest⟩
  exact ⟨protocol, List.tail_eq_of_cons_eq rest⟩

theorem Admitted.canonical (admitted : Admitted netip candidate) :
    ∃ address, netip.parseAddrPort candidate.address = some address ∧
      Signaling.canonical netip candidate =
        { candidate with address := netip.string address } ∧
      address.addr.isUnspecified = false ∧ address.addr.isMulticast = false ∧
      address.port ≠ 0 := by
  rcases admitted.address with ⟨address, read, specified, unicast, port⟩
  exact ⟨address, read, by simp only [Signaling.canonical, read], specified, unicast, port⟩

theorem Admitted.kept (laws : netip.RoundTrips) (admitted : Admitted netip candidate) :
    Admitted netip (Signaling.canonical netip candidate) ∧
      Signaling.canonical netip (Signaling.canonical netip candidate) =
        Signaling.canonical netip candidate := by
  rcases admitted.canonical with ⟨address, read, shown, specified, unicast, port⟩
  have back := laws.reads _ _ read
  rw [shown]
  exact ⟨⟨admitted.protocol, admitted.type, address, back, specified, unicast, port⟩,
    by simp only [Signaling.canonical, back]⟩

/-! ## The guarantee -/

/-- What is promised of an accepted list: the first of each endpoint, in the order given,
each one usable, and nothing changes when it is validated again. -/
structure Clean (netip : Netip) (candidates result : List CandidateInfo) : Prop where
  few : result.length ≤ 16
  ordered : result.Sublist (candidates.map (canonical netip))
  first : ∀ before candidate after,
    candidates.map (canonical netip) = before ++ candidate :: after →
    (∀ other ∈ before,
      ¬(other.protocol = candidate.protocol ∧ other.address = candidate.address)) →
    candidate ∈ result
  distinct : result.Pairwise fun one other =>
    ¬(one.protocol = other.protocol ∧ one.address = other.address)
  usable : ∀ candidate ∈ result, ∃ address,
    netip.parseAddrPort candidate.address = some address ∧
      netip.string address = candidate.address ∧ Usable address
  again : validateCandidates netip result = .ok result

/-- A list that passes every check of the loop, with an address of a class that it does
not look for. -/
def Misled (netip : Netip) (candidates : List CandidateInfo) : Prop :=
  candidates.length ≤ maxCandidateCount ∧
    (∀ candidate ∈ candidates, Admitted netip candidate) ∧
    ∃ candidate ∈ candidates, ∃ address,
      netip.parseAddrPort candidate.address = some address ∧ Missed address.addr

theorem mem_kept {seen : List GoString}
    (member : candidate ∈ firstOccurrences candidateKey seen (candidates.map (canonical netip))) :
    ∃ given ∈ candidates, canonical netip given = candidate :=
  List.mem_map.mp ((firstOccurrences_sublist _ _).subset member)

theorem clean_of_not_misled (laws : netip.RoundTrips) (sound : ¬Misled netip candidates)
    (accepted : validateCandidates netip candidates = .ok result) :
    Clean netip candidates result := by
  rcases validateCandidates_iff.mp accepted with ⟨few, admitted, rfl⟩
  have ordered := @firstOccurrences_sublist _ _ _ candidateKey []
    (candidates.map (canonical netip))
  have short := ordered.length_le
  rw [List.length_map] at short
  have known : ∀ candidate ∈ candidates.map (canonical netip), Admitted netip candidate := by
    intro candidate member
    rcases List.mem_map.mp member with ⟨given, there, rfl⟩
    exact ((admitted given there).kept laws).1
  refine
    { few := short.trans few
      ordered := ordered
      first := fun before candidate after split earlier => ?_
      distinct := ?_
      usable := fun candidate member => ?_
      again := ?_ }
  · rw [split]
    refine first_mem List.not_mem_nil fun other member same => earlier other member ?_
    refine candidateKey_injective (known other ?_).protocol (known candidate ?_).protocol same
    · rw [split]
      exact List.mem_append_left _ member
    · rw [split]
      exact List.mem_append_right _ List.mem_cons_self
  · refine (firstOccurrences_distinct _ _).imp fun {one other} apart same => apart ?_
    rw [candidateKey, candidateKey, same.1, same.2]
  · rcases mem_kept member with ⟨given, there, rfl⟩
    rcases (admitted given there).canonical with ⟨address, read, shown, specified, unicast, port⟩
    refine ⟨address, ?_, by rw [shown], port, ?_, ?_, ?_⟩
    · rw [shown]
      exact laws.reads _ _ read
    · rw [← Bool.not_eq_true]
      exact fun missed => sound ⟨few, admitted, given, there, address, read,
        .inr ⟨missed, specified⟩⟩
    · rw [Addr.isMulticast_unmap, unicast]
    · exact fun missed => sound ⟨few, admitted, given, there, address, read, .inl missed⟩
  · refine validateCandidates_iff.mpr ⟨short.trans few, fun candidate member =>
      known candidate (ordered.subset member), ?_⟩
    have fixed : (firstOccurrences candidateKey []
        (candidates.map (canonical netip))).map (canonical netip) =
          firstOccurrences candidateKey [] (candidates.map (canonical netip)) := by
      conv_rhs => rw [← List.map_id (firstOccurrences _ _ _)]
      refine List.map_congr_left fun candidate member => ?_
      rcases mem_kept member with ⟨given, there, rfl⟩
      exact ((admitted given there).kept laws).2
    rw [fixed]
    exact (firstOccurrences_eq_self (fun _ _ => List.not_mem_nil)
      (firstOccurrences_distinct _ _)).symm

theorem misled_not_clean (laws : netip.RoundTrips) (misled : Misled netip candidates) :
    ∃ result, validateCandidates netip candidates = .ok result ∧
      ¬Clean netip candidates result := by
  rcases misled with ⟨few, admitted, candidate, there, address, read, missed⟩
  refine ⟨_, validateCandidates_iff.mpr ⟨few, admitted, rfl⟩, fun clean => ?_⟩
  have shown : canonical netip candidate = { candidate with address := netip.string address } := by
    simp only [canonical, read]
  rcases @exists_same_key _ _ _ candidateKey [] _ _
    (List.mem_map_of_mem (f := canonical netip) there) List.not_mem_nil with ⟨kept, member, same⟩
  rcases mem_kept member with ⟨given, given_there, rfl⟩
  have equal := (candidateKey_injective ((admitted given given_there).kept laws).1.protocol
    ((admitted candidate there).kept laws).1.protocol same).2
  rcases clean.usable _ member with ⟨other, reads, _, usable⟩
  rw [equal, shown, laws.reads _ _ read] at reads
  cases reads
  rcases missed with broadcast | ⟨unspecified, _⟩
  · exact usable.limited broadcast
  · rw [usable.specified] at unspecified
    cases unspecified

/-- An accepted list is cut down to usable unicast endpoints, once each, unless one of its
addresses is the limited broadcast address or 0.0.0.0 in IPv6 form. -/
theorem validated_candidates_clean (laws : netip.RoundTrips) (candidates : List CandidateInfo) :
    (∀ result, validateCandidates netip candidates = .ok result →
      Clean netip candidates result) ↔ ¬Misled netip candidates := by
  constructor
  · intro clean misled
    rcases misled_not_clean laws misled with ⟨result, accepted, unclean⟩
    exact unclean (clean result accepted)
  · exact fun sound result => clean_of_not_misled laws sound

def hostText : GoString := [0x31, 0x30, 0x2e, 0x30, 0x2e, 0x30, 0x2e, 0x35, 0x3a, 0x39]
def broadcastText : GoString :=
  [0x32, 0x35, 0x35, 0x2e, 0x32, 0x35, 0x35, 0x2e, 0x32, 0x35, 0x35, 0x2e, 0x32, 0x35, 0x35,
    0x3a, 0x39]

def sampleNetip : Netip where
  parseAddrPort text :=
    if text = hostText then some ⟨.v4 0x0A000005, 9⟩
    else if text = broadcastText then some ⟨limitedBroadcast, 9⟩
    else none
  string addr := if addr = ⟨.v4 0x0A000005, 9⟩ then hostText else broadcastText

theorem sampleNetip_roundTrips : sampleNetip.RoundTrips where
  reads text address parsed := by
    simp only [sampleNetip] at parsed
    split at parsed
    · cases parsed
      decide
    · split at parsed
      · cases parsed
        decide
      · cases parsed

def udpCandidate (address : GoString) : CandidateInfo := ⟨protocolUDP, candidateLAN, address, 0⟩

theorem validated_candidates_clean_host :
    Clean sampleNetip [udpCandidate hostText, udpCandidate hostText] [udpCandidate hostText] := by
  have usable : ¬Misled sampleNetip [udpCandidate hostText, udpCandidate hostText] := by
    rintro ⟨_, _, candidate, member, address, parsed, missed⟩
    have same : candidate = udpCandidate hostText := by simpa using member
    subst same
    have known : address = ⟨.v4 0x0A000005, 9⟩ := (Option.some.inj parsed).symm
    subst known
    rcases missed with broadcast | ⟨unspecified, _⟩
    · exact absurd broadcast (by decide)
    · exact absurd unspecified (by decide)
  exact (validated_candidates_clean sampleNetip_roundTrips _).mpr usable _ (by rfl)

/-- The limited broadcast address is accepted as a unicast address. -/
theorem broadcast_candidate_accepted :
    ∃ result, validateCandidates sampleNetip [udpCandidate broadcastText] = .ok result ∧
      ¬Clean sampleNetip [udpCandidate broadcastText] result := by
  refine ⟨[udpCandidate broadcastText], rfl, fun clean => ?_⟩
  rcases clean.usable _ List.mem_cons_self with ⟨address, parsed, _, usable⟩
  have known : address = ⟨limitedBroadcast, 9⟩ := (Option.some.inj parsed).symm
  subst known
  exact usable.limited rfl

end Validation

end Rdpulse.Signaling
