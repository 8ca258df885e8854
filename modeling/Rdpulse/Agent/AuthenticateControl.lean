import Rdpulse.Protocol.Json
import Rdpulse.Relay.Handler

namespace Rdpulse.Agent.AuthenticateControl

open Foundation Protocol Storage
open Relay (AgentManager HandlerPoint Line)

/-! `authenticateControl` at the agent, and its exchange with the Relay's handler of the
connection. -/

structure DeviceConfig where
  id : GoString
  secret : GoString
  enrollmentToken : GoString
  deriving DecidableEq

/-- The secret and the token as they arrive at the Relay. -/
def DeviceConfig.transmitted (device : DeviceConfig) : DeviceConfig where
  id := device.id
  secret := jsonString device.secret
  enrollmentToken := jsonString device.enrollmentToken

inductive Point
  | sendAuth
  | readResponse
  | sendEnrollment (token : GoString)
  | readEnrollment
  | returned (err : Option String)
  deriving DecidableEq

inductive Choice
  | written
  | receive (response : ControlMessage)
  | fail
  deriving DecidableEq

def auth (device : DeviceConfig) : ControlMessage where
  type := .auth
  deviceID := device.id
  secret := device.secret

def checkAuthOK (response : ControlMessage) : Point :=
  if response.type ≠ .authOK then
    .returned (some
      ("auth rejected: code=" ++ toString response.code ++ " message=" ++ response.message))
  else .returned none

def checkResponse (device : DeviceConfig) (response : ControlMessage) : Point :=
  if response.type = .error && response.code = 428 then
    let token :=
      if device.enrollmentToken = [] then device.secret else device.enrollmentToken
    if token = [] then .returned (some ("auth rejected: " ++ response.message))
    else .sendEnrollment token
  else checkAuthOK response

def authenticateStep (device : DeviceConfig) (choice : Choice) :
    Point → Option (Option Line × Point)
  | .sendAuth =>
      match choice with
      | .written => some (some (.sent (auth device) true), .readResponse)
      | .fail =>
          some (some (.sent (auth device) false), .returned (some "send auth failed"))
      | _ => none
  | .readResponse =>
      match choice with
      | .receive response => some (some (.received response), checkResponse device response)
      | .fail => some (none, .returned (some "read auth response failed"))
      | _ => none
  | .sendEnrollment token =>
      let retry := { auth device with enrollmentToken := token }
      match choice with
      | .written => some (some (.sent retry true), .readEnrollment)
      | .fail =>
          some (some (.sent retry false), .returned (some "send enrollment auth failed"))
      | _ => none
  | .readEnrollment =>
      match choice with
      | .receive response => some (some (.received response), checkAuthOK response)
      | .fail => some (none, .returned (some "read enrollment response failed"))
      | _ => none
  | .returned _ => none

/-! ## The exchange -/

/-- `log` is what went over the stream as the agent sees it. The Relay's side of it is the
transcript of handler number 0. -/
structure Exchange where
  manager : AgentManager
  handler : HandlerPoint
  point : Point
  log : List Line

def Line.delivered? : Line → Option ControlMessage
  | .sent message true => some message
  | _ => none

def Line.received? : Line → Option ControlMessage
  | .received message => some message
  | _ => none

/-- What one side has written and the other has yet to read. -/
def unread (theirs mine : List Line) : List ControlMessage :=
  ((theirs.filterMap Line.delivered?).drop (mine.filterMap Line.received?).length).map
    ControlMessage.transmitted

inductive Event
  | agent (choice : Choice)
  | handler (choice : Relay.Choice)
  /-- Other connections and the console change the tables, not this stream. -/
  | others (manager : AgentManager)

namespace Exchange

variable (exchange : Exchange)

def toAgent : List ControlMessage := unread (exchange.manager.lines 0) exchange.log
def toRelay : List ControlMessage := unread exchange.log (exchange.manager.lines 0)

def carries : Event → Bool
  | .agent (.receive response) => exchange.toAgent.head? = some response
  | .handler (.receive message) => exchange.toRelay.head? = some message
  | .others manager =>
      manager.hasDB = exchange.manager.hasDB && manager.transcript = exchange.manager.transcript
  | _ => true

end Exchange

def step (netip : Signaling.Netip) (device : DeviceConfig) (exchange : Exchange) (event : Event) :
    Option Exchange :=
  if exchange.carries event then
    match event with
    | .agent choice =>
        (authenticateStep device choice exchange.point).map fun (line, point) =>
          { exchange with point, log := exchange.log ++ line.toList }
    | .handler choice =>
        (Relay.planHandler netip exchange.manager 0 choice exchange.handler).map
          fun (action, handler) =>
            { exchange with manager := action.apply 0 exchange.manager, handler }
    | .others manager => some { exchange with manager }
  else none

def machine (netip : Signaling.Netip) (device : DeviceConfig) : Machine Exchange Event where
  step := step netip device

def initial (manager : AgentManager) : Exchange where
  manager := { manager with transcript := [] }
  handler := .auth .connectionGuard
  point := .sendAuth
  log := []

end Rdpulse.Agent.AuthenticateControl
