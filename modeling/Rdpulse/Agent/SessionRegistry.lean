import Rdpulse.Foundation.Execution
import Rdpulse.Foundation.Tables
import Rdpulse.Protocol.Control

namespace Rdpulse.Agent.SessionRegistry

open Foundation Protocol

/-! # The registry of P2P sessions

`p2pSessionRegistry` with its sessions as objects that are shared by reference, and
with the channels and contexts that leave with them. A method body is one critical
section. -/

inductive Panic
  | sendOnClosedChannel
  | closeOfClosedChannel
  deriving DecidableEq, Repr

structure Updates where
  buffered : List (List CandidateInfo) := []
  closed : Bool := false
  deriving DecidableEq, Repr

def updatesCapacity : Nat := 8

/-- `p2pSession`; `cancelled` says that `cancel` has been called, and `parent` is the
context that the session's own derives from. -/
structure P2PSession where
  id : UInt32
  controller : GoString
  token : Bytes
  updates : Updates
  parent : Nat
  cancelled : Bool
  deriving DecidableEq, Repr

/-- `closings` records every `close` of an updates channel, by session. -/
structure Registry where
  objects : List P2PSession
  sessions : AList fun _ : UInt32 => Nat
  ended : List Nat
  closings : List Nat

/-- A call of a method, the end of a parent context, or a read from an updates channel
by the goroutine that punches. `close` visits the map in some order. -/
inductive Op
  | register (parent : Nat) (msg : ControlMessage)
  | update (sessionID : UInt32) (candidates : List CandidateInfo)
  | lookup (sessionID : UInt64)
  | remove (sessionID : UInt32)
  | close (order : List (UInt32 × Nat))
  | endParent (parent : Nat)
  | receive (session : Nat)
  deriving DecidableEq

namespace Registry

variable (r : Registry)

def newP2PSessionRegistry : Registry := ⟨[], ∅, [], []⟩

def retire (ref : Nat) : Except Panic Registry :=
  match r.objects[ref]? with
  | none => .ok r
  | some session =>
      if session.updates.closed then .error .closeOfClosedChannel
      else
        .ok { r with
              objects := r.objects.set ref
                { session with cancelled := true, updates := { session.updates with closed := true } }
              closings := r.closings ++ [ref] }

def register (parent : Nat) (msg : ControlMessage) : Except Panic Registry := do
  let session : P2PSession :=
    { id := msg.sessionID
      controller := msg.deviceID
      token := msg.sessionToken
      updates := {}
      parent := parent
      cancelled := false }
  let made := { r with objects := r.objects ++ [session] }
  let retired ←
    match made.sessions.lookup msg.sessionID with
    | none => pure made
    | some old => made.retire old
  return { retired with sessions := retired.sessions.insert msg.sessionID r.objects.length }

/-- The context of a session is done once `cancel` is called or its parent has ended. -/
def done (session : P2PSession) : Bool :=
  session.cancelled || r.ended.contains session.parent

def lookup (sessionID : UInt64) : Option Bytes :=
  match (r.sessions.lookup sessionID.toUInt32).bind (r.objects[·]?) with
  | none => none
  | some session =>
      if session.id.toUInt64 ≠ sessionID then none
      else if r.done session then none
      else some session.token

/-- The send has a default branch, so a full channel drops the update. On a closed
channel the send is ready, and panics. -/
def update (sessionID : UInt32) (candidates : List CandidateInfo) : Except Panic Registry :=
  match r.sessions.lookup sessionID with
  | none => .ok r
  | some ref =>
      match r.objects[ref]? with
      | none => .ok r
      | some session =>
          if session.updates.closed then .error .sendOnClosedChannel
          else if session.updates.buffered.length < updatesCapacity then
            .ok { r with
                  objects := r.objects.set ref
                    { session with
                      updates :=
                        { session.updates with
                          buffered := session.updates.buffered ++ [candidates] } } }
          else .ok r

def remove (sessionID : UInt32) : Except Panic Registry :=
  match r.sessions.lookup sessionID with
  | none => .ok r
  | some ref => { r with sessions := r.sessions.erase sessionID }.retire ref

def closeAll : Registry → List (UInt32 × Nat) → Except Panic Registry
  | r, [] => .ok r
  | r, (id, ref) :: rest => do
      let retired ← { r with sessions := r.sessions.erase id }.retire ref
      closeAll retired rest

def receive (ref : Nat) : Registry :=
  { r with
    objects := r.objects.modify ref fun session =>
      { session with
        updates := { session.updates with buffered := session.updates.buffered.tail } } }

def entries : List (UInt32 × Nat) := r.sessions.entries.map fun entry => (entry.1, entry.2)

def apply : Op → Except Panic Registry
  | .register parent msg => r.register parent msg
  | .update sessionID candidates => r.update sessionID candidates
  | .lookup _ => .ok r
  | .remove sessionID => r.remove sessionID
  | .close order => r.closeAll order
  | .endParent parent => .ok { r with ended := parent :: r.ended }
  | .receive ref => .ok (r.receive ref)

/-- A `close` visits every entry once. -/
def Fits : Op → Prop
  | .close order => order.Perm r.entries
  | _ => True

instance (op : Op) : Decidable (r.Fits op) := by
  unfold Fits
  split <;> infer_instance

end Registry

def calls : Machine Registry Op where
  step r op := if r.Fits op then (r.apply op).toOption else none

end Rdpulse.Agent.SessionRegistry
