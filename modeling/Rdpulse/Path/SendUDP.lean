import Rdpulse.Path.Effects
import Rdpulse.Protocol.P2PData
import Rdpulse.UDP.Fragment

namespace Rdpulse.Path

open Foundation Protocol UDP

/-! `SendUDP` beside the other operations on one manager. A call reads the path
without a lock, reads the punched socket under the read lock, and on a failed write
falls back and calls itself again. Whether a write succeeds is part of the event. -/

structure DataEngine where
  sessionID : UInt32
  sessionToken : Bytes
  deriving DecidableEq, Repr

namespace DataEngine

variable (engine : DataEngine)

def fragmenter (_ : DataEngine) : Fragmenter := newFragmenter defaultMaxUDPPayload

/-- Nil where `NewP2PCodec` refuses the token. -/
def p2pCodec : Option P2PCodec :=
  match newP2PCodec engine.sessionID engine.sessionToken with
  | .ok codec => some codec
  | .error _ => none

end DataEngine

inductive SendUDPError
  | udpPathDisabled
  | codecUnavailable
  | relayUnavailable
  | noValidPath (path : PathType)
  | fragment (err : FragmentError)
  | sendDatagram
  deriving DecidableEq, Repr

inductive Carrier
  | punched (res : PunchResult)
  | relay
  deriving DecidableEq, Repr

/-- A write that succeeded: the datagram that `Fragment` passed to the call, and
the packet that the carrier got for it. -/
structure Handover where
  call : Nat
  carrier : Carrier
  datagram : Bytes
  packet : Bytes
  deriving DecidableEq, Repr

inductive SendUDPPoint
  | loadPath
  | draw (path : PathType)
  | readPunch (packetID : UInt32)
  | writeDirect (packetID : UInt32) (res : PunchResult) (codec : P2PCodec)
      (pending : List Bytes)
  | writeRelay (packetID : UInt32) (pending : List Bytes)
  | fallback (point : FallbackPoint)
  | returned (err : Option SendUDPError)
  deriving DecidableEq, Repr

inductive SendingThread
  | operation (thread : Thread)
  | sendUDP (payload : Bytes) (point : SendUDPPoint)
  deriving DecidableEq, Repr

inductive SendChoice
  | operation (choice : Choice)
  | write (succeeds : Bool)
  deriving DecidableEq, Repr

/-- The manager with the counter of packet ids. The last three fields record what
happened: the ids drawn, by which call, and the successful writes, both latest
first, and how often `SetDirectUDP` has stored a direct path. -/
structure SendingManager where
  manager : Manager
  nextPacketID : UInt32
  drawn : List (Nat × UInt32)
  handedOver : List Handover
  directInstalls : Nat

def Thread.storesDirect : Thread → Bool
  | .setDirectUDP _ _ .store => true
  | _ => false

namespace SendingManager

variable (sender : SendingManager)

def new (engine : DataEngine) (relayTransport : Option RelayTransport) : SendingManager where
  manager := .new relayTransport engine.p2pCodec.isSome
  nextPacketID := 0
  drawn := []
  handedOver := []
  directInstalls := 0

def drawPacketID (call : Nat) : SendingManager where
  manager := sender.manager
  nextPacketID := sender.nextPacketID + 1
  drawn := (call, sender.nextPacketID + 1) :: sender.drawn
  handedOver := sender.handedOver
  directInstalls := sender.directInstalls

def handOver (write : Handover) : SendingManager :=
  { sender with handedOver := write :: sender.handedOver }

def operate (thread : Thread) (moved : Manager) : SendingManager :=
  { sender with
    manager := moved
    directInstalls := sender.directInstalls + if thread.storesDirect then 1 else 0 }

end SendingManager

/-- `FallbackUDPFromDirect` inside `SendUDP`, which then calls itself. -/
def resumeSend : FallbackPoint → SendUDPPoint
  | .returned => .loadPath
  | point => .fallback point

def selectCarrier (engine : DataEngine) (relayTransport : Option RelayTransport)
    (payload : Bytes) (packetID : UInt32) : PathType → SendUDPPoint
  | .directLAN | .directUDP => .readPunch packetID
  | .relay =>
      if relayTransport.isNone then .returned (some .relayUnavailable)
      else
        match engine.fragmenter.fragment engine.sessionID packetID payload with
        | .error err => .returned (some (.fragment err))
        | .ok datagrams => .writeRelay packetID datagrams
  | .unknown => .returned (some (.noValidPath .unknown))
  | .directTCP => .returned (some (.noValidPath .directTCP))
  | .disabled => .returned (some (.noValidPath .disabled))

def usePunch (engine : DataEngine) (payload : Bytes) (packetID : UInt32) :
    Option PunchResult → SendUDPPoint
  | none => .fallback .lock
  | some res =>
      if res.conn = false then .fallback .lock
      else
        match engine.p2pCodec with
        | none => .returned (some .codecUnavailable)
        | some codec =>
            match engine.fragmenter.fragment engine.sessionID packetID payload with
            | .error _ => .fallback .lock
            | .ok datagrams => .writeDirect packetID res codec datagrams

def stepSendUDP (engine : DataEngine) (self : Nat) (sender : SendingManager)
    (payload : Bytes) (choice : SendChoice) :
    SendUDPPoint → Option (SendingManager × SendUDPPoint)
  | .loadPath =>
      if sender.manager.udpPath = .disabled then
        some (sender, .returned (some .udpPathDisabled))
      else some (sender, .draw sender.manager.udpPath)
  | .draw path =>
      some (sender.drawPacketID self,
        selectCarrier engine sender.manager.relayTransport payload (sender.nextPacketID + 1) path)
  | .readPunch packetID =>
      -- `m.mu.RLock()` around one pointer read waits for a writer.
      if sender.manager.mu.isSome then none
      else some (sender, usePunch engine payload packetID sender.manager.directUDPPunch)
  | .writeDirect packetID res codec pending =>
      match pending with
      | [] => some (sender, .returned none)
      | datagram :: rest =>
          if choice = .write false then some (sender, .fallback .lock)
          else
            some (sender.handOver ⟨self, .punched res, datagram, codec.encode datagram⟩,
              .writeDirect packetID res codec rest)
  | .writeRelay packetID pending =>
      match pending with
      | [] => some (sender, .returned none)
      | datagram :: rest =>
          if choice = .write false then some (sender, .returned (some .sendDatagram))
          else
            some (sender.handOver ⟨self, .relay, datagram, datagram⟩, .writeRelay packetID rest)
  | .fallback point =>
      (stepFallback self sender.manager point).map fun (moved, next) =>
        ({ sender with manager := moved }, resumeSend next)
  | .returned _ => none

def stepSending (engine : DataEngine) (self : Nat) (sender : SendingManager)
    (thread : SendingThread) (choice : SendChoice) : Option (SendingManager × SendingThread) :=
  match thread, choice with
  | .operation thread, .operation choice =>
      (step self sender.manager thread choice).map fun (moved, next) =>
        (sender.operate thread moved, .operation next)
  | .operation _, .write _ => none
  | .sendUDP payload point, choice =>
      (stepSendUDP engine self sender payload choice point).map fun (moved, next) =>
        (moved, .sendUDP payload next)

def SendingThread.entry : SendingThread → Bool
  | .operation thread => Path.entry thread
  | .sendUDP _ point => point = .loadPath

def sending (engine : DataEngine) : Program SendingManager SendingThread SendChoice where
  entry := SendingThread.entry
  step := stepSending engine

abbrev SendingPool := Pool SendingManager SendingThread

abbrev SendingEvent := PoolEvent SendingThread SendChoice

def initialSending (engine : DataEngine) (relayTransport : Option RelayTransport) :
    SendingPool where
  shared := .new engine relayTransport
  threads := []

/-! ## What one action does -/

variable {engine : DataEngine} {self : Nat} {sender moved : SendingManager} {payload : Bytes}
  {choice : SendChoice} {next : SendUDPPoint}

theorem stepSendUDP_writeDirect {packetID : UInt32} {res : PunchResult} {codec : P2PCodec}
    {pending : List Bytes}
    (taken : stepSendUDP engine self sender payload choice
      (.writeDirect packetID res codec pending) = some (moved, next)) :
    (pending = [] ∧ moved = sender ∧ next = .returned none) ∨
    (pending ≠ [] ∧ moved = sender ∧ next = .fallback .lock) ∨
    (∃ datagram rest, pending = datagram :: rest ∧
      moved = sender.handOver ⟨self, .punched res, datagram, codec.encode datagram⟩ ∧
      next = .writeDirect packetID res codec rest) := by
  cases pending with
  | nil =>
      cases taken
      exact .inl ⟨rfl, rfl, rfl⟩
  | cons datagram rest =>
      simp only [stepSendUDP] at taken
      split at taken
      · cases taken
        exact .inr (.inl ⟨by simp, rfl, rfl⟩)
      · cases taken
        exact .inr (.inr ⟨datagram, rest, rfl, rfl, rfl⟩)

theorem stepSendUDP_writeRelay {packetID : UInt32} {pending : List Bytes}
    (taken : stepSendUDP engine self sender payload choice (.writeRelay packetID pending) =
      some (moved, next)) :
    (pending = [] ∧ moved = sender ∧ next = .returned none) ∨
    (pending ≠ [] ∧ moved = sender ∧ next = .returned (some .sendDatagram)) ∨
    (∃ datagram rest, pending = datagram :: rest ∧
      moved = sender.handOver ⟨self, .relay, datagram, datagram⟩ ∧
      next = .writeRelay packetID rest) := by
  cases pending with
  | nil =>
      cases taken
      exact .inl ⟨rfl, rfl, rfl⟩
  | cons datagram rest =>
      simp only [stepSendUDP] at taken
      split at taken
      · cases taken
        exact .inr (.inl ⟨by simp, rfl, rfl⟩)
      · cases taken
        exact .inr (.inr ⟨datagram, rest, rfl, rfl, rfl⟩)

theorem stepSendUDP_manager {point : SendUDPPoint} (outside : ∀ inner, point ≠ .fallback inner)
    (taken : stepSendUDP engine self sender payload choice point = some (moved, next)) :
    moved.manager = sender.manager ∧ moved.directInstalls = sender.directInstalls := by
  cases point with
  | fallback inner => exact absurd rfl (outside inner)
  | writeDirect packetID res codec pending =>
      rcases stepSendUDP_writeDirect taken with
        ⟨_, rfl, _⟩ | ⟨_, rfl, _⟩ | ⟨_, _, _, rfl, _⟩ <;> exact ⟨rfl, rfl⟩
  | writeRelay packetID pending =>
      rcases stepSendUDP_writeRelay taken with
        ⟨_, rfl, _⟩ | ⟨_, rfl, _⟩ | ⟨_, _, _, rfl, _⟩ <;> exact ⟨rfl, rfl⟩
  | draw path =>
      cases taken
      exact ⟨rfl, rfl⟩
  | _ => grind [stepSendUDP]

theorem stepSending_operation {operation : Thread} {next : SendingThread}
    (taken : stepSending engine self sender (.operation operation) choice = some (moved, next)) :
    ∃ inner manager after, choice = .operation inner ∧
      step self sender.manager operation inner = some (manager, after) ∧
      moved = sender.operate operation manager ∧ next = .operation after := by
  cases choice with
  | write succeeds => cases taken
  | operation inner =>
      simp only [stepSending, Option.map_eq_some_iff] at taken
      rcases taken with ⟨⟨manager, after⟩, stepped, equal⟩
      cases equal
      exact ⟨inner, manager, after, rfl, stepped, rfl, rfl⟩

theorem stepSending_sendUDP {payload : Bytes} {point : SendUDPPoint} {next : SendingThread}
    (taken : stepSending engine self sender (.sendUDP payload point) choice =
      some (moved, next)) :
    ∃ after, stepSendUDP engine self sender payload choice point = some (moved, after) ∧
      next = .sendUDP payload after := by
  simp only [stepSending, Option.map_eq_some_iff] at taken
  rcases taken with ⟨⟨shared, after⟩, stepped, equal⟩
  cases equal
  exact ⟨after, stepped, rfl⟩

/-- The action is one of another operation of the manager, one of a fallback inside
the call, or one of the call's own, which leaves the manager as it is. -/
theorem stepSending_cases {thread next : SendingThread}
    (taken : stepSending engine self sender thread choice = some (moved, next)) :
    (∃ operation inner manager after, thread = .operation operation ∧
      choice = .operation inner ∧
      step self sender.manager operation inner = some (manager, after) ∧
      moved = sender.operate operation manager ∧ next = .operation after) ∨
    (∃ payload point manager after, thread = .sendUDP payload (.fallback point) ∧
      stepFallback self sender.manager point = some (manager, after) ∧
      moved = { sender with manager := manager } ∧ next = .sendUDP payload (resumeSend after)) ∨
    (∃ payload point after, thread = .sendUDP payload point ∧
      (∀ inner, point ≠ .fallback inner) ∧
      stepSendUDP engine self sender payload choice point = some (moved, after) ∧
      moved.manager = sender.manager ∧ moved.directInstalls = sender.directInstalls ∧
      next = .sendUDP payload after) := by
  cases thread with
  | operation operation =>
      rcases stepSending_operation taken with ⟨inner, manager, after, rfl, stepped, rfl, rfl⟩
      exact .inl ⟨operation, inner, manager, after, rfl, rfl, stepped, rfl, rfl⟩
  | sendUDP payload point =>
      rcases stepSending_sendUDP taken with ⟨after, stepped, rfl⟩
      cases point with
      | fallback inner =>
          simp only [stepSendUDP, Option.map_eq_some_iff] at stepped
          rcases stepped with ⟨⟨manager, resumed⟩, fell, equal⟩
          cases equal
          exact .inr (.inl ⟨payload, inner, manager, resumed, rfl, fell, rfl, rfl⟩)
      | _ =>
          have kept := stepSendUDP_manager (by simp) stepped
          exact .inr (.inr ⟨payload, _, after, rfl, by simp, stepped, kept.1, kept.2, rfl⟩)

end Rdpulse.Path
