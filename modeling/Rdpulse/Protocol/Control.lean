import Rdpulse.Foundation.Bytes

namespace Rdpulse.Protocol

open Foundation

/-! The messages on the control stream between an agent and the Relay. -/

/-- A Go string is a sequence of bytes. -/
abbrev GoString := Bytes

inductive MsgType
  | hello | auth | authOK | register | registerAck | ping | pong | portAssign | portRevoke
  | agentStatus | configUpdate | udpClose | error | drain
  | connectRequest | connectNotify | connectResponse | candidateExchange | punchStart
  | punchResult | relayAllocate | pathChange | sessionClose
  | other (text : GoString)
  deriving DecidableEq, Repr

structure CandidateInfo where
  protocol : GoString
  type : GoString
  address : GoString
  priority : UInt32
  deriving DecidableEq, Repr

inductive PunchRole
  | unset
  | controller
  | controlled
  deriving DecidableEq, Repr

/-- A field that the JSON text leaves out has Go's zero value. -/
structure ControlMessage where
  type : MsgType
  deviceID : GoString := []
  targetDeviceID : GoString := []
  secret : GoString := []
  secretHash : GoString := []
  enrollmentToken : GoString := []
  hostname : GoString := []
  publicHost : GoString := []
  publicPort : UInt16 := 0
  sessionID : UInt32 := 0
  sessionToken : GoString := []
  rdpOnline : Bool := false
  code : Nat := 0
  message : String := ""
  candidates : List CandidateInfo := []
  punchRole : PunchRole := .unset
  deriving DecidableEq, Repr

def errorMessage (code : Nat) (message : String) : ControlMessage where
  type := .error
  code := code
  message := message

end Rdpulse.Protocol
