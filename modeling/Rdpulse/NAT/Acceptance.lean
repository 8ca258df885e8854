import Rdpulse.NAT.Candidate
import Rdpulse.Signaling.Candidates

namespace Rdpulse.NAT

open Foundation Protocol Rdpulse.Path
open Foundation.Bytes
open Signaling (Netip protocolUDP protocolTCP candidateLAN
  candidateReflexive validateCandidates registerPeer planHandleConnectRequest SessionCoordinator
  ConnectRequest Writer Admitted canonical candidateKey)

/-! # The coordinator accepts what an agent finds

What `validateCandidates` makes of the lists that `discoverP2PCandidates` and the refresh
loops produce. -/

def ipv4Text (address : BitVec 32) (port : UInt16) : GoString :=
  IP.string4 (putBigEndian 4 address.toNat) ++ 0x3a :: decimal port.toNat

/-- The text of an IPv4 address and port is four numbers and the port, and reads back. -/
structure SpellsIPv4 (netip : Netip) : Prop where
  string : ∀ address port, netip.string ⟨.v4 address, port⟩ = ipv4Text address port
  parse : ∀ address port,
    netip.parseAddrPort (ipv4Text address port) = some ⟨.v4 address, port⟩

/-! ## What is sent where -/

def IP.listed (ip : IP) : Option (BitVec 32) :=
  if ip.isLoopback || ip.isLinkLocalUnicast || ip.isLinkLocalMulticast then none
  else ip.to4.map fun ip4 => BitVec.ofNat 32 (bigEndian ip4)

def Interface.listed (iface : Interface) : List (BitVec 32) :=
  if !iface.up || iface.loopback then []
  else
    match iface.addrs with
    | .error _ => []
    | .ok addrs => addrs.filterMap fun addr => addr.ip.listed

/-- The IPv4 addresses of a machine, with repetitions; none are asked for where P2P is
disabled. -/
def Machine.listed (machine : Machine) : List (BitVec 32) :=
  if machine.disableP2P then []
  else
    match machine.interfaces with
    | .error _ => []
    | .ok interfaces => interfaces.flatMap Interface.listed

def Machine.reflexive (machine : Machine) : Option AddrPort :=
  if machine.disableP2P || machine.rendezvousAddress = [] then none
  else (probeReflexiveAddr machine.rendezvousAddress machine.probe).toOption

def openPorts (udpPort tcpPort : UInt16) : List (GoString × UInt16) :=
  [(protocolUDP, udpPort), (protocolTCP, tcpPort)].filter fun entry => entry.2 ≠ 0

def Producer.ports : Producer → List (GoString × UInt16)
  | .connectAndServe p2pPort directTCPPort => openPorts p2pPort directTCPPort
  | .connectTarget p2pUDPPort => openPorts p2pUDPPort 0
  | .refreshControlledCandidates udpPort tcpPort => openPorts udpPort tcpPort
  | .refreshControllerCandidates udpPort => openPorts udpPort 0

/-- A refresh loop does not probe. -/
def Producer.reflexive (machine : Machine) : Producer → Option AddrPort
  | .connectAndServe _ _ => machine.reflexive
  | .connectTarget _ => machine.reflexive
  | .refreshControlledCandidates _ _ => none
  | .refreshControllerCandidates _ => none

def Unicast (addr : Addr) : Prop := addr.isUnspecified = false ∧ addr.isMulticast = false

instance (addr : Addr) : Decidable (Unicast addr) := inferInstanceAs (Decidable (_ ∧ _))

/-- A list that the coordinator takes: at most 16 entries, one for each address and open port
and one that the rendezvous server tells, and none of an address that no one host has. -/
structure Fits (machine : Machine) (producer : Producer) : Prop where
  few : machine.listed.length * producer.ports.length +
    (producer.reflexive machine).toList.length ≤ 16
  listed : producer.ports ≠ [] → ∀ address ∈ machine.listed, Unicast (.v4 address)
  reflexive : ∀ extAddr ∈ producer.reflexive machine,
    Unicast extAddr.addr ∧ extAddr.port ≠ 0

/-! ## What the coordinator does with it -/

/-- A list that reaches the peers whole: registration keeps every endpoint in it, and a
connect request with it is not refused for it. -/
structure Agrees (netip : Netip) (candidates : List CandidateInfo) : Prop where
  accepted : ∃ valid, validateCandidates netip candidates = .ok valid
  registered : ∀ (c : SessionCoordinator) deviceID hostname writer publicPort, ∃ peer,
    (registerPeer netip c deviceID hostname writer candidates publicPort).peers.lookup
      deviceID = some peer ∧
    ∀ candidate ∈ candidates, ∃ kept ∈ peer.candidates,
      kept.protocol = candidate.protocol ∧ kept.address = candidate.address
  requested : ∀ (c : SessionCoordinator) (request : ConnectRequest) choice,
    request.req.candidates = candidates → request.req.targetDeviceID ≠ [] →
    ∃ valid, planHandleConnectRequest netip c request choice .start =
      some { coordinator := c, next := .lookup valid }

/-! ## The lists, entry by entry -/

def lanEntry (address : BitVec 32) (port : GoString × UInt16) : CandidateInfo where
  protocol := port.1
  type := candidateLAN
  address := ipv4Text address port.2
  priority := priorityLANDirect

def entries (netip : Netip) (addresses : List (BitVec 32)) (ports : List (GoString × UInt16))
    (reflexive : Option AddrPort) : List CandidateInfo :=
  addresses.flatMap (fun address => ports.map (lanEntry address)) ++
    reflexive.toList.map (reflexiveCandidate netip)

theorem to4_length {ip ip4 : IP} (short : ip.to4 = some ip4) : ip4.length = 4 := by
  unfold IP.to4 at short
  split at short
  · cases short
    assumption
  · split at short
    · rename_i mapped
      simp only [Bool.and_eq_true, decide_eq_true_eq] at mapped
      cases short
      rw [List.length_drop, mapped.1]
    · cases short

theorem text_of_bytes {ip4 : IP} (long : ip4.length = 4) (port : UInt16) :
    ip4.string4 ++ 0x3a :: decimal port.toNat =
      ipv4Text (BitVec.ofNat 32 (bigEndian ip4)) port := by
  have small : bigEndian ip4 < 2 ^ 32 := by
    have bound := bigEndian_lt ip4
    rwa [long] at bound
  have back : putBigEndian 4 (BitVec.ofNat 32 (bigEndian ip4)).toNat = ip4 := by
    rw [BitVec.toNat_ofNat, Nat.mod_eq_of_lt small, ← long]
    exact putBigEndian_bigEndian ip4
  rw [ipv4Text, back]

theorem lanCandidate_eq {ip4 : IP} (long : ip4.length = 4) (protocol : GoString)
    (port : UInt16) :
    lanCandidate protocol ip4 port.toNat =
      ([(protocol, port)].filter fun entry => entry.2 ≠ 0).map
        (lanEntry (BitVec.ofNat 32 (bigEndian ip4))) := by
  by_cases closed : port = 0
  · subst closed
    rfl
  · have isOpen : (0 : Int) < port.toNat := by
      have positive : port.toNat ≠ 0 := fun zero => closed (UInt16.toNat_inj.mp zero)
      omega
    simp only [lanCandidate, if_pos isOpen, Int.toNat_natCast, text_of_bytes long, ne_eq, closed,
      not_false_eq_true, decide_true, List.filter_cons_of_pos, List.filter_nil, List.map_cons,
      List.map_nil, lanEntry]

theorem addrCandidates_eq (ip : IP) (udpPort tcpPort : UInt16) :
    addrCandidates ip udpPort.toNat tcpPort.toNat =
      ip.listed.toList.flatMap fun address => (openPorts udpPort tcpPort).map (lanEntry address) := by
  by_cases skipped : ip.isLoopback || ip.isLinkLocalUnicast || ip.isLinkLocalMulticast
  · have none_listed : ip.listed = none := if_pos skipped
    rw [none_listed, addrCandidates, if_pos (by
      simp only [Bool.or_eq_true] at skipped ⊢
      tauto)]
    rfl
  · have listed : ip.listed = ip.to4.map fun ip4 => BitVec.ofNat 32 (bigEndian ip4) :=
      if_neg skipped
    rw [listed]
    by_cases empty : ip = []
    · subst empty
      rfl
    · rw [addrCandidates, if_neg (by
        simp only [Bool.or_eq_true, decide_eq_true_eq] at skipped ⊢
        tauto)]
      cases short : ip.to4 with
      | none => rfl
      | some ip4 =>
          have long := to4_length short
          change lanCandidate protocolUDP ip4 _ ++ lanCandidate protocolTCP ip4 _ = _
          rw [lanCandidate_eq long, lanCandidate_eq long, ← List.map_append, ← List.filter_append]
          simp only [Option.map_some, Option.toList_some, List.flatMap_cons, List.flatMap_nil,
            List.append_nil]
          rfl

theorem interfaceCandidates_eq (iface : Interface) (udpPort tcpPort : UInt16) :
    interfaceCandidates iface udpPort.toNat tcpPort.toNat =
      iface.listed.flatMap fun address => (openPorts udpPort tcpPort).map (lanEntry address) := by
  unfold interfaceCandidates Interface.listed
  by_cases hidden : !iface.up || iface.loopback
  · rw [if_pos hidden, if_pos hidden]
    rfl
  · rw [if_neg hidden, if_neg hidden]
    cases iface.addrs with
    | error err => rfl
    | ok addrs =>
        simp only [addrCandidates_eq, List.filterMap_eq_flatMap_toList, List.flatMap_assoc]

theorem discovered_eq (interfaces : List Interface) (udpPort tcpPort : UInt16) :
    discoverLANCandidates (.ok interfaces) udpPort.toNat tcpPort.toNat =
      .ok ((interfaces.flatMap Interface.listed).flatMap fun address =>
        (openPorts udpPort tcpPort).map (lanEntry address)) := by
  simp only [discoverLANCandidates, interfaceCandidates_eq, List.flatMap_assoc]

section Agreement

variable {netip : Netip} {machine : Machine} {producer : Producer}

theorem agrees_iff {candidates : List CandidateInfo}
    (spelled : ∀ candidate ∈ candidates, canonical netip candidate = candidate) :
    Agrees netip candidates ↔
      candidates.length ≤ 16 ∧ ∀ candidate ∈ candidates, Admitted netip candidate := by
  have unchanged : candidates.map (canonical netip) = candidates := by
    conv_rhs => rw [← List.map_id candidates]
    exact List.map_congr_left spelled
  constructor
  · intro agrees
    rcases agrees.accepted with ⟨valid, accepted⟩
    rcases Signaling.validateCandidates_iff.mp accepted with ⟨few, admitted, _⟩
    exact ⟨few, admitted⟩
  · rintro ⟨few, admitted⟩
    have accepted := Signaling.validateCandidates_iff.mpr ⟨few, admitted, rfl⟩
    rw [unchanged] at accepted
    refine
      { accepted := ⟨_, accepted⟩
        registered := fun c deviceID hostname writer publicPort => ?_
        requested := fun c request choice carried addressed => ?_ }
    · refine ⟨_, AList.lookup_insert _, fun candidate member => ?_⟩
      rw [accepted]
      rcases @exists_same_key _ _ _ candidateKey [] _ _ member List.not_mem_nil with
        ⟨kept, there, same⟩
      have known := (admitted kept ((firstOccurrences_sublist _ _).subset there)).protocol
      exact ⟨kept, there,
        Signaling.candidateKey_injective known (admitted candidate member).protocol same⟩
    · refine ⟨firstOccurrences candidateKey [] candidates, ?_⟩
      rw [planHandleConnectRequest, if_neg addressed, carried, accepted]

theorem discovered_lan (machine : Machine) (udpPort tcpPort : UInt16) :
    (match discoverLANCandidates machine.interfaces udpPort.toNat tcpPort.toNat with
      | .ok candidates => candidates
      | .error _ => []) =
      (match machine.interfaces with
        | .error _ => []
        | .ok interfaces => interfaces.flatMap Interface.listed).flatMap
          fun address => (openPorts udpPort tcpPort).map (lanEntry address) := by
  cases machine.interfaces with
  | error err => rfl
  | ok interfaces => rw [discovered_eq]

theorem discoverP2PCandidates_eq (netip : Netip) (machine : Machine) (udpPort tcpPort : UInt16) :
    discoverP2PCandidates netip machine udpPort.toNat tcpPort.toNat =
      entries netip machine.listed (openPorts udpPort tcpPort) machine.reflexive := by
  unfold discoverP2PCandidates Machine.listed Machine.reflexive entries
  by_cases disabled : machine.disableP2P = true
  · simp [disabled]
  · have enabled : machine.disableP2P = false := Bool.eq_false_iff.mpr disabled
    have lan := discovered_lan machine udpPort tcpPort
    by_cases unset : machine.rendezvousAddress = []
    · simp only [enabled, unset, Bool.false_eq_true, if_false, if_true, decide_true, Bool.or_true,
        Option.toList_none, List.map_nil, List.append_nil]
      exact lan
    · simp only [enabled, unset, decide_false, Bool.or_self, Bool.false_eq_true, if_false,
        probeReflexiveCandidate]
      cases probeReflexiveAddr machine.rendezvousAddress machine.probe with
      | error err => exact lan.trans (List.append_nil _).symm
      | ok extAddr =>
          exact congrArg (fun found => found ++ [reflexiveCandidate netip extAddr]) lan

theorem refreshedCandidates_cases (netip : Netip) (machine : Machine)
    (udpPort tcpPort : UInt16) :
    refreshedCandidates machine udpPort.toNat tcpPort.toNat =
        some (entries netip machine.listed (openPorts udpPort tcpPort) none) ∨
      refreshedCandidates machine udpPort.toNat tcpPort.toNat = none ∧ machine.listed = [] := by
  unfold refreshedCandidates Machine.listed entries
  by_cases disabled : machine.disableP2P = true
  · simp [disabled]
  · rw [if_neg disabled, if_neg disabled]
    cases machine.interfaces with
    | error err => exact .inr ⟨rfl, rfl⟩
    | ok interfaces =>
        rw [discovered_eq]
        exact .inl (by simp)

theorem candidates_cases (netip : Netip) (machine : Machine) (producer : Producer) :
    producer.candidates netip machine =
        some (entries netip machine.listed producer.ports (producer.reflexive machine)) ∨
      producer.candidates netip machine = none ∧
        machine.listed = [] ∧ producer.reflexive machine = none := by
  cases producer with
  | connectAndServe p2pPort directTCPPort =>
      exact .inl (congrArg some (discoverP2PCandidates_eq netip machine p2pPort directTCPPort))
  | connectTarget p2pUDPPort =>
      exact .inl (congrArg some (discoverP2PCandidates_eq netip machine p2pUDPPort 0))
  | refreshControlledCandidates udpPort tcpPort =>
      rcases refreshedCandidates_cases netip machine udpPort tcpPort with
        sent | ⟨silent, empty⟩
      · exact .inl sent
      · exact .inr ⟨silent, empty, rfl⟩
  | refreshControllerCandidates udpPort =>
      rcases refreshedCandidates_cases netip machine udpPort 0 with
        sent | ⟨silent, empty⟩
      · exact .inl sent
      · exact .inr ⟨silent, empty, rfl⟩

theorem rendezvousResponse_v4 {rAddr : UDPAddr} {datagram : Bytes} {responder : Option UDPAddr}
    {extAddr : AddrPort} (told : rendezvousResponse rAddr datagram responder = .ok extAddr) :
    ∃ address, extAddr.addr = .v4 address := by
  unfold rendezvousResponse at told
  grind

theorem probeReflexiveAddr_v4 {rendezvousAddr : GoString} {probe : Probe} {extAddr : AddrPort}
    (told : probeReflexiveAddr rendezvousAddr probe = .ok extAddr) :
    ∃ address, extAddr.addr = .v4 address := by
  unfold probeReflexiveAddr at told
  grind [rendezvousResponse_v4]

theorem reflexive_v4 {extAddr : AddrPort} (told : producer.reflexive machine = some extAddr) :
    ∃ address, extAddr.addr = .v4 address := by
  have probed : machine.reflexive = some extAddr := by
    cases producer with
    | connectAndServe _ _ => exact told
    | connectTarget _ => exact told
    | refreshControlledCandidates _ _ => cases told
    | refreshControllerCandidates _ => cases told
  unfold Machine.reflexive at probed
  split at probed
  · cases probed
  · cases outcome : probeReflexiveAddr machine.rendezvousAddress machine.probe with
    | error err =>
        rw [outcome] at probed
        cases probed
    | ok found =>
        rw [outcome] at probed
        cases probed
        exact probeReflexiveAddr_v4 outcome

/-! ## Each entry -/

theorem canonical_lanEntry (spells : SpellsIPv4 netip) (address : BitVec 32)
    (port : GoString × UInt16) :
    canonical netip (lanEntry address port) = lanEntry address port := by
  simp only [canonical, lanEntry, spells.parse, spells.string]

theorem canonical_reflexiveCandidate (spells : SpellsIPv4 netip) (address : BitVec 32)
    (port : UInt16) :
    canonical netip (reflexiveCandidate netip ⟨.v4 address, port⟩) =
      reflexiveCandidate netip ⟨.v4 address, port⟩ := by
  simp only [canonical, reflexiveCandidate, spells.parse, spells.string]

theorem admitted_lanEntry (spells : SpellsIPv4 netip) {address : BitVec 32}
    {port : GoString × UInt16} {udpPort tcpPort : UInt16}
    (isOpen : port ∈ openPorts udpPort tcpPort) :
    Admitted netip (lanEntry address port) ↔ Unicast (.v4 address) := by
  simp only [openPorts, List.mem_filter, List.mem_cons, List.not_mem_nil, or_false, ne_eq,
    decide_eq_true_eq] at isOpen
  constructor
  · intro admitted
    rcases admitted.address with ⟨read, parsed, specified, unicast, _⟩
    rw [lanEntry, spells.parse] at parsed
    cases parsed
    exact ⟨specified, unicast⟩
  · intro unicast
    refine ⟨?_, .inl rfl, _, spells.parse address port.2, unicast.1, unicast.2, isOpen.2⟩
    rcases isOpen.1 with rfl | rfl
    · exact .inl rfl
    · exact .inr rfl

theorem admitted_reflexiveCandidate (spells : SpellsIPv4 netip) (address : BitVec 32)
    (port : UInt16) :
    Admitted netip (reflexiveCandidate netip ⟨.v4 address, port⟩) ↔
      Unicast (.v4 address) ∧ port ≠ 0 := by
  have read : netip.parseAddrPort (reflexiveCandidate netip ⟨.v4 address, port⟩).address =
      some ⟨.v4 address, port⟩ := by
    rw [reflexiveCandidate, spells.string, spells.parse]
  constructor
  · intro admitted
    rcases admitted.address with ⟨other, parsed, specified, unicast, nonzero⟩
    rw [read] at parsed
    cases parsed
    exact ⟨⟨specified, unicast⟩, nonzero⟩
  · rintro ⟨⟨specified, unicast⟩, nonzero⟩
    exact ⟨.inl rfl, .inr rfl, _, read, specified, unicast, nonzero⟩

theorem ports_eq (producer : Producer) :
    ∃ udpPort tcpPort, producer.ports = openPorts udpPort tcpPort := by
  cases producer <;> exact ⟨_, _, rfl⟩

theorem canonical_entries (spells : SpellsIPv4 netip) (machine : Machine) (producer : Producer) :
    ∀ candidate ∈ entries netip machine.listed producer.ports (producer.reflexive machine),
      canonical netip candidate = candidate := by
  intro candidate member
  rcases List.mem_append.mp member with lan | reflexive
  · rcases List.mem_flatMap.mp lan with ⟨address, _, there⟩
    rcases List.mem_map.mp there with ⟨port, _, rfl⟩
    exact canonical_lanEntry spells address port
  · rcases List.mem_map.mp reflexive with ⟨⟨addr, port⟩, told, rfl⟩
    rcases reflexive_v4 (Option.mem_toList.mp told) with ⟨address, known⟩
    cases known
    exact canonical_reflexiveCandidate spells address port

theorem admitted_entries (spells : SpellsIPv4 netip) :
    (∀ candidate ∈ entries netip machine.listed producer.ports (producer.reflexive machine),
        Admitted netip candidate) ↔
      (producer.ports ≠ [] → ∀ address ∈ machine.listed, Unicast (.v4 address)) ∧
        ∀ extAddr ∈ producer.reflexive machine, Unicast extAddr.addr ∧ extAddr.port ≠ 0 := by
  rcases ports_eq producer with ⟨udpPort, tcpPort, ports⟩
  rw [entries, List.forall_mem_append]
  refine and_congr ?_ ?_
  · rw [ports]
    constructor
    · intro admitted nonempty address listed
      rcases List.exists_mem_of_ne_nil _ nonempty with ⟨port, isOpen⟩
      refine (admitted_lanEntry spells isOpen).mp (admitted _ ?_)
      exact List.mem_flatMap.mpr ⟨address, listed, List.mem_map_of_mem isOpen⟩
    · intro unicast candidate member
      rcases List.mem_flatMap.mp member with ⟨address, listed, there⟩
      rcases List.mem_map.mp there with ⟨port, isOpen, rfl⟩
      exact (admitted_lanEntry spells isOpen).mpr
        (unicast (List.ne_nil_of_mem isOpen) address listed)
  · constructor
    · rintro admitted ⟨addr, port⟩ told
      rcases reflexive_v4 told with ⟨address, known⟩
      cases known
      exact (admitted_reflexiveCandidate spells address port).mp
        (admitted _ (List.mem_map_of_mem (Option.mem_toList.mpr told)))
    · intro usable candidate member
      rcases List.mem_map.mp member with ⟨⟨addr, port⟩, told, rfl⟩
      have told := Option.mem_toList.mp told
      rcases reflexive_v4 told with ⟨address, known⟩
      cases known
      exact (admitted_reflexiveCandidate spells address port).mpr (usable _ told)

theorem entries_length (addresses : List (BitVec 32)) (ports : List (GoString × UInt16))
    (reflexive : Option AddrPort) :
    (entries netip addresses ports reflexive).length =
      addresses.length * ports.length + reflexive.toList.length := by
  simp [entries, List.length_flatMap]

/-! ## The guarantee -/

/-- What an agent sends is accepted just where it fits the limits of the coordinator. -/
theorem produced_candidates_agree (spells : SpellsIPv4 netip) (machine : Machine)
    (producer : Producer) :
    (∀ candidates, producer.candidates netip machine = some candidates →
      Agrees netip candidates) ↔ Fits machine producer := by
  rcases candidates_cases netip machine producer with sent | ⟨silent, empty, unprobed⟩
  · have agrees := agrees_iff (canonical_entries spells machine producer)
    rw [entries_length, admitted_entries spells] at agrees
    constructor
    · intro all
      rcases agrees.mp (all _ sent) with ⟨few, listed, reflexive⟩
      exact ⟨few, listed, reflexive⟩
    · intro fits candidates given
      cases sent.symm.trans given
      exact agrees.mpr ⟨fits.few, fits.listed, fits.reflexive⟩
  · constructor
    · intro _
      refine ⟨?_, ?_, ?_⟩
      · simp [empty, unprobed]
      · simp [empty]
      · simp [unprobed]
    · intro _ candidates given
      cases silent.symm.trans given

/-! ## A machine with one address and one with nine -/

/-- The four numbers and the port of an IPv4 address, between "." and ":". -/
def isSeparator (byte : UInt8) : Bool := byte = 0x2e || byte = 0x3a

def dottedNetip : Netip where
  parseAddrPort text :=
    match text.splitOnP isSeparator with
    | [a, b, c, d, port] =>
        some
          { addr := .v4 (BitVec.ofNat 32 (bigEndian
              ([a, b, c, d].map fun field => UInt8.ofNat (decimalValue field))))
            port := UInt16.ofNat (decimalValue port) }
    | _ => none
  string address :=
    match address.addr with
    | .v4 bits => ipv4Text bits address.port
    | .v6 _ _ => []

theorem digit_not_separator (byte : UInt8) (lower : 0x30 ≤ byte) (upper : byte ≤ 0x39) :
    isSeparator byte = false := by
  simp only [UInt8.le_iff_toNat_le, UInt8.reduceToNat] at lower upper
  simp only [isSeparator, Bool.or_eq_false_iff, decide_eq_false_iff_not, ← UInt8.toNat_inj,
    UInt8.reduceToNat]
  omega

theorem splitOnP_text {bytes : Bytes} (long : bytes.length = 4) (port : UInt16) :
    (IP.string4 bytes ++ 0x3a :: decimal port.toNat).splitOnP isSeparator =
      bytes.map (fun byte => decimal byte.toNat) ++ [decimal port.toNat] := by
  rcases List.length_eq_four.mp long with ⟨a, b, c, d, rfl⟩
  have joined : IP.string4 [a, b, c, d] ++ 0x3a :: decimal port.toNat =
      decimal a.toNat ++ 0x2e :: (decimal b.toNat ++ 0x2e :: (decimal c.toNat ++
        0x2e :: (decimal d.toNat ++ 0x3a :: decimal port.toNat))) := by
    simp [IP.string4, List.intercalate]
  have dot : isSeparator 0x2e = true := rfl
  have colon : isSeparator 0x3a = true := rfl
  rw [joined, splitOnP_decimal digit_not_separator dot,
    splitOnP_decimal digit_not_separator dot, splitOnP_decimal digit_not_separator dot,
    splitOnP_decimal digit_not_separator colon, splitOnP_decimal_end digit_not_separator]
  rfl

theorem dottedNetip_spells : SpellsIPv4 dottedNetip where
  string _ _ := rfl
  parse address port := by
    have long := putBigEndian_length 4 address.toNat
    have back : (putBigEndian 4 address.toNat).map
        (fun byte => UInt8.ofNat (decimalValue (decimal byte.toNat))) =
          putBigEndian 4 address.toNat := by
      simp [decimalValue_decimal]
    have value : BitVec.ofNat 32 (bigEndian (putBigEndian 4 address.toNat)) = address := by
      rw [bigEndian_putBigEndian, Nat.mod_eq_of_lt (show address.toNat < 256 ^ 4 from address.isLt),
        BitVec.ofNat_toNat, BitVec.setWidth_eq]
    simp only [dottedNetip, ipv4Text, splitOnP_text long]
    rcases List.length_eq_four.mp long with ⟨a, b, c, d, bytes⟩
    rw [bytes] at back value ⊢
    simp only [List.map_cons, List.map_nil, List.cons_append, List.nil_append] at back ⊢
    rw [back, value, decimalValue_decimal, UInt16.ofNat_toNat]

def lanInterface (addrs : List InterfaceAddr) : Interface := ⟨true, false, .ok addrs⟩

def oneAddress : Machine where
  disableP2P := false
  rendezvousAddress := hostname
  interfaces := .ok [lanInterface [.ipNet [192, 168, 1, 2]]]
  probe :=
    { resolve := fun _ => .ok server
      write := fun _ _ => none
      read := .ok (putUint32 rendezvousMagic ++ [0x02, 203, 0, 113, 5] ++ putUint16 40000,
        some server) }
where
  hostname : GoString := [0x72]
  server : UDPAddr := ⟨[198, 51, 100, 7], 3478⟩

theorem oneAddress_listed : oneAddress.listed = [0xC0A80102] := by decide +kernel

theorem produced_candidates_agree_one : ∃ candidates,
    (Producer.connectAndServe 50000 50001).candidates dottedNetip oneAddress = some candidates ∧
      candidates.length = 3 ∧ Agrees dottedNetip candidates := by
  have sent := discoverP2PCandidates_eq dottedNetip oneAddress 50000 50001
  have fits : Fits oneAddress (.connectAndServe 50000 50001) := by
    refine ⟨?_, ?_, ?_⟩
    · rw [oneAddress_listed]
      decide
    · intro _ address member
      rw [oneAddress_listed, List.mem_singleton] at member
      rw [member]
      decide
    · intro extAddr told
      cases told
      exact ⟨⟨by decide, by decide⟩, by decide⟩
  refine ⟨_, congrArg some sent, ?_,
    (produced_candidates_agree dottedNetip_spells oneAddress _).mpr fits _ (congrArg some sent)⟩
  rw [entries_length, oneAddress_listed]
  decide

def nineAddresses : Machine where
  disableP2P := false
  rendezvousAddress := []
  interfaces :=
    .ok [lanInterface ((List.range 9).map fun host => .ipNet [10, 0, 0, UInt8.ofNat (host + 1)])]
  probe := oneAddress.probe

/-- A controlled agent lists eighteen candidates there, and registers with none. -/
theorem nine_addresses_lost : ∃ candidates,
    (Producer.connectAndServe 50000 50001).candidates dottedNetip nineAddresses =
      some candidates ∧ candidates ≠ [] ∧
    validateCandidates dottedNetip candidates = .error "candidate count exceeds limit 16" ∧
    ¬Agrees dottedNetip candidates := by
  have sent := discoverP2PCandidates_eq dottedNetip nineAddresses 50000 50001
  have long : (entries dottedNetip nineAddresses.listed (openPorts 50000 50001)
      nineAddresses.reflexive).length = 18 := by
    rw [entries_length]
    decide
  have refused : validateCandidates dottedNetip
      (entries dottedNetip nineAddresses.listed (openPorts 50000 50001) nineAddresses.reflexive) =
        .error "candidate count exceeds limit 16" := by
    rw [validateCandidates, if_pos (by rw [long]; decide)]
  refine ⟨_, congrArg some sent, fun empty => ?_, refused, fun agrees => ?_⟩
  · rw [empty] at long
    cases long
  · rcases agrees.accepted with ⟨valid, accepted⟩
    cases refused.symm.trans accepted

end Agreement

end Rdpulse.NAT
