import Rdpulse.Agent.P2PSessions
import Rdpulse.Foundation.Sha256
import Rdpulse.Foundation.Threads

namespace Rdpulse.Punch

open Foundation Agent

/-! The handshake of a direct TCP connection: `authenticateTCPPeer` on the
dialing side, `AcceptTCPPeer` on the accepting side, any number of both. The
attacker owns every connection, so what a run reads is part of the event. -/

def tcpChallengeSize : Nat := 16
def tcpRoleClient : UInt8 := 1
def tcpRoleServer : UInt8 := 2
def tcpRoleProbe : UInt8 := 3
def tcpRoleProbeAck : UInt8 := 4

def tcpAuthTag (sessionID : UInt64) (token : Bytes) (role : UInt8) (challenge : Bytes) : Bytes :=
  Bytes.putUint64 sessionID ++
    (Sha256.hmac token (role :: Bytes.putUint64 sessionID ++ challenge)).take 16

@[simp] theorem tcpAuthTag_length (sessionID : UInt64) (token : Bytes) (role : UInt8)
    (challenge : Bytes) : (tcpAuthTag sessionID token role challenge).length = 24 := by
  simp [tcpAuthTag]

@[simp] theorem uint64_tcpAuthTag (sessionID : UInt64) (token : Bytes) (role : UInt8)
    (challenge : Bytes) : Bytes.uint64 (tcpAuthTag sessionID token role challenge) = sessionID :=
  Bytes.uint64_putUint64 _ _

/-- The role a dialer of this role expects in the answer. -/
def expectedRole (role : UInt8) : UInt8 :=
  if role = tcpRoleProbe then tcpRoleProbeAck else tcpRoleServer

inductive AuthError
  | deadline
  | readChallenge
  | writeAuth
  | readPeerAuth
  | generateChallenge
  | writeChallenge
  | writeResponse
  | writeProbeResponse
  | tcpAuthFailed
  | tcpUnknownSession
  | tcpProbe
  deriving DecidableEq, Repr

structure Emission where
  author : Nat
  sessionID : UInt64
  token : Bytes
  role : UInt8
  challenge : Bytes
  deriving DecidableEq, Repr

structure Network where
  registry : P2PSessionRegistry
  /-- Every session that was ever registered. -/
  announced : List P2PSession
  emitted : List Emission
  challenges : List Bytes

def Network.initial : Network where
  registry := P2PSessionRegistry.new
  announced := []
  emitted := []
  challenges := []

def Network.emit (network : Network) (emission : Emission) : Network :=
  { network with emitted := emission :: network.emitted }

inductive DialPoint
  | setDeadline
  | checkToken
  | readChallenge
  | writeAuth
  | readPeerAuth
  | verify (peerAuth : Bytes)
  | returned (err : Option AuthError)
  deriving DecidableEq, Repr

inductive AcceptPoint
  | checkArguments
  | drawChallenge
  | writeChallenge
  | readPeerAuth
  | lookup (peerAuth : Bytes)
  | verify (peerAuth : Bytes)
  | writeResponse (sessionID : UInt64)
  | writeProbeResponse (sessionID : UInt64)
  | returned (sessionID : UInt64) (err : Option AuthError)
  deriving DecidableEq, Repr

inductive RegistryOp
  | register (session : P2PSession)
  | remove (sessionID : UInt32)
  | cancel
  deriving DecidableEq, Repr

/-- The local variables `challenge` and `token` are `none` until they are set. -/
inductive Thread
  | authenticateTCPPeer (sessionID : UInt64) (sessionToken : Bytes) (role : UInt8)
      (challenge : Option Bytes) (point : DialPoint)
  | acceptTCPPeer (connNil lookupNil : Bool) (challenge token : Option Bytes)
      (point : AcceptPoint)
  | registry (op : RegistryOp) (applied : Bool)
  deriving DecidableEq, Repr

/-- What the environment decides: an operation succeeds, fails, or delivers
these bytes. -/
inductive Choice
  | proceed
  | fail
  | bytes (bytes : Bytes)
  deriving DecidableEq, Repr

/-- A write may fail after the peer got the bytes, so both outcomes emit. -/
def stepDial (self : Nat) (network : Network) (sessionID : UInt64) (sessionToken : Bytes)
    (role : UInt8) (challenge : Option Bytes) (choice : Choice) :
    DialPoint → Option (Network × Option Bytes × DialPoint)
  | .setDeadline =>
      match choice with
      | .proceed => some (network, challenge, .checkToken)
      | .fail => some (network, challenge, .returned (some .deadline))
      | .bytes _ => none
  | .checkToken =>
      if sessionToken.length = 0 then
        some (network, challenge, .returned (some .tcpAuthFailed))
      else some (network, challenge, .readChallenge)
  | .readChallenge =>
      match choice with
      | .bytes received =>
          if received.length = tcpChallengeSize then some (network, some received, .writeAuth)
          else none
      | .fail => some (network, challenge, .returned (some .readChallenge))
      | .proceed => none
  | .writeAuth =>
      match challenge with
      | none => none
      | some value =>
          let sent := network.emit ⟨self, sessionID, sessionToken, role, value⟩
          match choice with
          | .proceed => some (sent, challenge, .readPeerAuth)
          | .fail => some (sent, challenge, .returned (some .writeAuth))
          | .bytes _ => none
  | .readPeerAuth =>
      match choice with
      | .bytes received =>
          if received.length = 24 then some (network, challenge, .verify received) else none
      | .fail => some (network, challenge, .returned (some .readPeerAuth))
      | .proceed => none
  | .verify peerAuth =>
      match challenge with
      | none => none
      | some value =>
          if Bytes.uint64 peerAuth ≠ sessionID then
            some (network, challenge, .returned (some .tcpAuthFailed))
          else if peerAuth ≠ tcpAuthTag sessionID sessionToken (expectedRole role) value then
            some (network, challenge, .returned (some .tcpAuthFailed))
          else some (network, challenge, .returned none)
  | .returned _ => none

def stepAccept (self : Nat) (network : Network) (connNil lookupNil : Bool)
    (challenge token : Option Bytes) (choice : Choice) :
    AcceptPoint → Option (Network × Option Bytes × Option Bytes × AcceptPoint)
  | .checkArguments =>
      if connNil || lookupNil then
        some (network, challenge, token, .returned 0 (some .tcpAuthFailed))
      else some (network, challenge, token, .drawChallenge)
  | .drawChallenge =>
      match choice with
      | .bytes drawn =>
          if drawn.length = tcpChallengeSize then
            some ({ network with challenges := drawn :: network.challenges }, some drawn, token,
              .writeChallenge)
          else none
      | .fail => some (network, challenge, token, .returned 0 (some .generateChallenge))
      | .proceed => none
  | .writeChallenge =>
      match choice with
      | .proceed => some (network, challenge, token, .readPeerAuth)
      | .fail => some (network, challenge, token, .returned 0 (some .writeChallenge))
      | .bytes _ => none
  | .readPeerAuth =>
      match choice with
      | .bytes received =>
          if received.length = 24 then some (network, challenge, token, .lookup received)
          else none
      | .fail => some (network, challenge, token, .returned 0 (some .readPeerAuth))
      | .proceed => none
  | .lookup peerAuth =>
      match network.registry.lookup (Bytes.uint64 peerAuth) with
      | none => some (network, challenge, token, .returned 0 (some .tcpUnknownSession))
      | some found =>
          if found.length = 0 then
            some (network, challenge, token, .returned 0 (some .tcpUnknownSession))
          else some (network, challenge, some found, .verify peerAuth)
  | .verify peerAuth =>
      match challenge, token with
      | some value, some secret =>
          let sessionID := Bytes.uint64 peerAuth
          if peerAuth = tcpAuthTag sessionID secret tcpRoleClient value then
            some (network, challenge, token, .writeResponse sessionID)
          else if peerAuth = tcpAuthTag sessionID secret tcpRoleProbe value then
            some (network, challenge, token, .writeProbeResponse sessionID)
          else some (network, challenge, token, .returned 0 (some .tcpAuthFailed))
      | _, _ => none
  | .writeResponse sessionID =>
      match challenge, token with
      | some value, some secret =>
          let sent := network.emit ⟨self, sessionID, secret, tcpRoleServer, value⟩
          match choice with
          | .proceed => some (sent, challenge, token, .returned sessionID none)
          | .fail => some (sent, challenge, token, .returned 0 (some .writeResponse))
          | .bytes _ => none
      | _, _ => none
  | .writeProbeResponse sessionID =>
      match challenge, token with
      | some value, some secret =>
          let sent := network.emit ⟨self, sessionID, secret, tcpRoleProbeAck, value⟩
          match choice with
          | .proceed => some (sent, challenge, token, .returned sessionID (some .tcpProbe))
          | .fail => some (sent, challenge, token, .returned 0 (some .writeProbeResponse))
          | .bytes _ => none
      | _, _ => none
  | .returned _ _ => none

def applyRegistry (network : Network) : RegistryOp → Network
  | .register session =>
      { network with
        registry := network.registry.register session
        announced := session :: network.announced }
  | .remove sessionID => { network with registry := network.registry.remove sessionID }
  | .cancel => { network with registry := network.registry.cancel }

def step (self : Nat) (network : Network) (thread : Thread) (choice : Choice) :
    Option (Network × Thread) :=
  match thread with
  | .authenticateTCPPeer sessionID sessionToken role challenge point =>
      (stepDial self network sessionID sessionToken role challenge choice point).map
        fun (moved, challenge, next) =>
          (moved, .authenticateTCPPeer sessionID sessionToken role challenge next)
  | .acceptTCPPeer connNil lookupNil challenge token point =>
      (stepAccept self network connNil lookupNil challenge token choice point).map
        fun (moved, challenge, token, next) =>
          (moved, .acceptTCPPeer connNil lookupNil challenge token next)
  | .registry op false => some (applyRegistry network op, .registry op true)
  | .registry _ true => none

def entry : Thread → Bool
  | .authenticateTCPPeer _ _ role challenge point =>
      (role = tcpRoleClient || role = tcpRoleProbe) && challenge = none && point = .setDeadline
  | .acceptTCPPeer _ _ challenge token point =>
      challenge = none && token = none && point = .checkArguments
  | .registry _ applied => !applied

def program : Program Network Thread Choice where
  entry := entry
  step := step

abbrev NetworkPool := Pool Network Thread

def initialPool : NetworkPool where
  shared := Network.initial
  threads := []

/-! ## The assumptions on the attacker -/

def Authentic (network : Network) (sessionID : UInt64) (token : Bytes) (role : UInt8)
    (challenge tag : Bytes) : Prop :=
  tag = tcpAuthTag sessionID token role challenge →
    ∃ emission ∈ network.emitted, emission.sessionID = sessionID ∧ emission.token = token ∧
      emission.role = role ∧ emission.challenge = challenge

/-- Tags cannot be forged: one that a run is about to check is authentic. The
acceptor compares with the probe's tag only after the client's did not match. -/
def Unforgeable (pool : NetworkPool) : PoolEvent Thread Choice → Prop
  | .spawn _ => True
  | .advance self _ =>
      match pool.threads[self]? with
      | some (.authenticateTCPPeer sessionID sessionToken role (some challenge)
          (.verify peerAuth)) =>
          Authentic pool.shared sessionID sessionToken (expectedRole role) challenge peerAuth
      | some (.acceptTCPPeer _ _ (some challenge) (some token) (.verify peerAuth)) =>
          let sessionID := Bytes.uint64 peerAuth
          Authentic pool.shared sessionID token tcpRoleClient challenge peerAuth ∧
            (peerAuth ≠ tcpAuthTag sessionID token tcpRoleClient challenge →
              Authentic pool.shared sessionID token tcpRoleProbe challenge peerAuth)
      | _ => True

/-- `AcceptTCPPeer` never draws a challenge twice. -/
def FreshChallenge (pool : NetworkPool) : PoolEvent Thread Choice → Prop
  | .spawn _ => True
  | .advance self choice =>
      match pool.threads[self]?, choice with
      | some (.acceptTCPPeer _ _ _ _ .drawChallenge), .bytes drawn =>
          drawn ∉ pool.shared.challenges
      | _, _ => True

def Attacker (pool : NetworkPool) (event : PoolEvent Thread Choice) : Prop :=
  Unforgeable pool event ∧ FreshChallenge pool event

end Rdpulse.Punch
