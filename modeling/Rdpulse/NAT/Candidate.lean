import Rdpulse.Foundation.Decimal
import Rdpulse.Signaling.Coordinator

namespace Rdpulse.NAT

open Foundation Protocol Rdpulse.Path
open Foundation.Bytes
open Signaling (Netip protocolUDP protocolTCP candidateLAN candidateReflexive)

/-! The candidates that an agent finds of itself, and what it sends of them. -/

def priorityLANDirect : UInt32 := 1000
def priorityUDPP2P : UInt32 := 900

/-- "RDZV" -/
def rendezvousMagic : UInt32 := 0x52445A56

/-! ## Addresses of the package `net` -/

/-- A `net.IP`, of 4 or 16 bytes; nil is empty. -/
abbrev IP := Bytes

/-- `To4`: an address in either form, in 4 bytes. -/
def IP.to4 (ip : IP) : Option IP :=
  if ip.length = 4 then some ip
  else if ip.length = 16 && ip.take 12 = List.replicate 10 0 ++ [0xff, 0xff] then
    some (ip.drop 12)
  else none

def IP.isLoopback (ip : IP) : Bool :=
  match ip.to4 with
  | some ip4 => ip4.take 1 = [127]
  | none => ip = List.replicate 15 0 ++ [1]

def IP.isLinkLocalUnicast (ip : IP) : Bool :=
  match ip.to4 with
  | some ip4 => ip4.take 2 = [169, 254]
  | none => ip.length = 16 && ip.getD 0 0 = 0xfe && ip.getD 1 0 &&& 0xc0 = 0x80

def IP.isLinkLocalMulticast (ip : IP) : Bool :=
  match ip.to4 with
  | some ip4 => ip4.take 3 = [224, 0, 0]
  | none => ip.length = 16 && ip.getD 0 0 = 0xff && ip.getD 1 0 &&& 0x0f = 0x02

/-- `Equal`: the two forms of one address are equal. -/
def IP.equal (ip other : IP) : Bool :=
  ip = other || (ip.to4.isSome && ip.to4 = other.to4)

def IP.string4 (ip : IP) : GoString :=
  [0x2e].intercalate (ip.map fun byte => decimal byte.toNat)

structure UDPAddr where
  ip : IP
  port : Nat
  deriving DecidableEq, Repr

/-- What `Addrs` returns: `*net.IPNet`, `*net.IPAddr` or an address of another type. -/
inductive InterfaceAddr
  | ipNet (ip : IP)
  | ipAddr (ip : IP)
  | other
  deriving DecidableEq, Repr

def InterfaceAddr.ip : InterfaceAddr → IP
  | .ipNet ip => ip
  | .ipAddr ip => ip
  | .other => []

/-- A network interface, with its flags `FlagUp` and `FlagLoopback`. -/
structure Interface where
  up : Bool
  loopback : Bool
  addrs : Except String (List InterfaceAddr)

/-! ## `DiscoverLANCandidates` -/

def lanCandidate (protocol : GoString) (ip4 : IP) (port : Int) : List CandidateInfo :=
  if 0 < port then
    [{ protocol := protocol
       type := candidateLAN
       address := ip4.string4 ++ 0x3a :: decimal port.toNat
       priority := priorityLANDirect }]
  else []

def addrCandidates (ip : IP) (udpPort tcpPort : Int) : List CandidateInfo :=
  if ip = [] || ip.isLoopback || ip.isLinkLocalUnicast || ip.isLinkLocalMulticast then []
  else
    match ip.to4 with
    | some ip4 => lanCandidate protocolUDP ip4 udpPort ++ lanCandidate protocolTCP ip4 tcpPort
    | none => []

def interfaceCandidates (iface : Interface) (udpPort tcpPort : Int) : List CandidateInfo :=
  if !iface.up || iface.loopback then []
  else
    match iface.addrs with
    | .error _ => []
    | .ok addrs => addrs.flatMap fun addr => addrCandidates addr.ip udpPort tcpPort

def discoverLANCandidates (interfaces : Except String (List Interface)) (udpPort tcpPort : Int) :
    Except String (List CandidateInfo) :=
  match interfaces with
  | .error err => .error ("list network interfaces failed: " ++ err)
  | .ok interfaces =>
      .ok (interfaces.flatMap fun iface => interfaceCandidates iface udpPort tcpPort)

/-! ## `ProbeReflexiveCandidate` -/

/-- What the network does with a probe: the address resolved, the error of the write, and the
datagram read with its sender. Both callers pass a socket. -/
structure Probe where
  resolve : GoString → Except String UDPAddr
  write : Bytes → UDPAddr → Option String
  read : Except String (Bytes × Option UDPAddr)

def probePkt : Bytes := putUint32 rendezvousMagic ++ [0x01]

/-- The address in a response, which is read into a buffer of 64 bytes. -/
def rendezvousResponse (rAddr : UDPAddr) (datagram : Bytes) (responder : Option UDPAddr) :
    Except String AddrPort :=
  let response := datagram.take 64
  match responder with
  | none => .error "rendezvous response from unexpected source"
  | some responder =>
      if responder.port ≠ rAddr.port || !responder.ip.equal rAddr.ip then
        .error "rendezvous response from unexpected source"
      else if response.length < 11 then
        .error ("rendezvous response too short: " ++ toString response.length ++ " bytes")
      else if uint32 response ≠ rendezvousMagic || response.getD 4 0 ≠ 0x02 then
        .error "invalid rendezvous response header"
      else
        .ok { addr := .v4 (BitVec.ofNat 32 (bigEndian ((response.drop 5).take 4)))
              port := uint16 (response.drop 9) }

def probeReflexiveAddr (rendezvousAddr : GoString) (probe : Probe) : Except String AddrPort :=
  if rendezvousAddr = [] then .error "rendezvous address is empty"
  else
    match probe.resolve rendezvousAddr with
    | .error err => .error ("resolve rendezvous addr failed: " ++ err)
    | .ok rAddr =>
        match probe.write probePkt rAddr with
        | some err => .error ("send rendezvous probe failed: " ++ err)
        | none =>
            match probe.read with
            | .error err => .error ("read rendezvous response failed: " ++ err)
            | .ok (datagram, responder) => rendezvousResponse rAddr datagram responder

def reflexiveCandidate (netip : Netip) (extAddr : AddrPort) : CandidateInfo where
  protocol := protocolUDP
  type := candidateReflexive
  address := netip.string extAddr
  priority := priorityUDPP2P

def probeReflexiveCandidate (netip : Netip) (rendezvousAddr : GoString) (probe : Probe) :
    Except String CandidateInfo :=
  (probeReflexiveAddr rendezvousAddr probe).map (reflexiveCandidate netip)

/-! ## What an agent sends -/

/-- The configuration that is read, the network interfaces, and what becomes of a probe. -/
structure Machine where
  disableP2P : Bool
  rendezvousAddress : GoString
  interfaces : Except String (List Interface)
  probe : Probe

/-- A discovery or a probe that fails is logged. -/
def discoverP2PCandidates (netip : Netip) (machine : Machine) (udpPort tcpPort : Int) :
    List CandidateInfo :=
  if machine.disableP2P then []
  else
    let candidates :=
      match discoverLANCandidates machine.interfaces udpPort tcpPort with
      | .ok candidates => candidates
      | .error _ => []
    if machine.rendezvousAddress = [] then candidates
    else
      match probeReflexiveCandidate netip machine.rendezvousAddress machine.probe with
      | .error _ => candidates
      | .ok candidate => candidates ++ [candidate]

/-- Where a list of candidates is sent: in the REGISTER of a controlled agent and in the
CONNECT_REQUEST of a controller, and by the refresh loop of each. -/
inductive Producer
  | connectAndServe (p2pPort directTCPPort : UInt16)
  | connectTarget (p2pUDPPort : UInt16)
  | refreshControlledCandidates (udpPort tcpPort : UInt16)
  | refreshControllerCandidates (udpPort : UInt16)
  deriving DecidableEq, Repr

/-- The list of a refresh loop, which runs unless P2P is disabled and sends nothing after a
discovery that failed. -/
def refreshedCandidates (machine : Machine) (udpPort tcpPort : Int) :
    Option (List CandidateInfo) :=
  if machine.disableP2P then none
  else
    match discoverLANCandidates machine.interfaces udpPort tcpPort with
    | .ok candidates => some candidates
    | .error _ => none

def Producer.candidates (netip : Netip) (machine : Machine) :
    Producer → Option (List CandidateInfo)
  | .connectAndServe p2pPort directTCPPort =>
      some (discoverP2PCandidates netip machine p2pPort.toNat directTCPPort.toNat)
  | .connectTarget p2pUDPPort =>
      some (discoverP2PCandidates netip machine p2pUDPPort.toNat 0)
  | .refreshControlledCandidates udpPort tcpPort =>
      refreshedCandidates machine udpPort.toNat tcpPort.toNat
  | .refreshControllerCandidates udpPort => refreshedCandidates machine udpPort.toNat 0

end Rdpulse.NAT
