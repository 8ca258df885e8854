import Rdpulse.Foundation.Threads
import Rdpulse.TLSMux.Frame

namespace Rdpulse.TLSMux

open Foundation

/-! Two sessions joined by a connection. A session's `readLoop` and every call
of the application are threads; each step is one channel operation, one
critical section or one operation on the connection. What a step does to the
shared state is named by an `Action`. -/

inductive End
  | client
  | server
  deriving DecidableEq, Repr

namespace End

def other : End → End
  | .client => .server
  | .server => .client

@[simp] theorem other_other (side : End) : side.other.other = side := by
  cases side <;> rfl

@[simp] theorem other_ne (side : End) : side.other ≠ side := by
  cases side <;> simp [other]

def remoteOwnsID : End → UInt32 → Bool
  | .client, id => id % 2 = 0
  | .server, id => id % 2 = 1

def firstID : End → UInt32
  | .client => 1
  | .server => 2

end End

/-- Errors that the operations return, as far as the code tells them apart. -/
inductive Err
  | badFrame
  | context
  | timeout
  | closed
  | connection
  | streamLimit
  | closedPipe
  | eof
  deriving DecidableEq, Repr

inductive FrameCheck
  | length
  | zeroID
  | openLength
  | ownership
  | duplicate
  | streamLimit
  | closeLength
  | datagramID
  | unknownType
  deriving DecidableEq, Repr

inductive Stop
  | frameCheck (check : FrameCheck)
  | connection
  | sessionDone
  deriving DecidableEq, Repr

inductive Once
  | idle
  | running
  | finished
  deriving DecidableEq, Repr

/-- `muxStream`; channels that are only ever closed are flags. -/
structure MuxStream where
  session : End
  id : UInt32
  incoming : List Bytes
  current : Bytes
  localDone : Bool
  remoteDone : Bool
  localOnce : Once
  readDeadline : Bool
  writeDeadline : Bool
  /-- Auxiliary: everything that `Read` has returned. -/
  readOut : Bytes
  deriving DecidableEq, Repr

def newMuxStream (session : End) (id : UInt32) : MuxStream where
  session := session
  id := id
  incoming := []
  current := []
  localDone := false
  remoteDone := false
  localOnce := .idle
  readDeadline := false
  writeDeadline := false
  readOut := []

/-- `session`. Streams are referred to by their place in `Mux.objects`. -/
structure Session where
  nextID : UInt32
  streams : List (UInt32 × Nat)
  acceptCh : List Nat
  datagrams : List Bytes
  /-- `none` while the token lies in its channel, else the thread that took it. -/
  writeToken : Option Nat
  done : Bool
  closeOnce : Once
  deriving DecidableEq, Repr

/-- The connection from one end to the other. -/
structure Wire where
  bytes : Bytes
  /-- No more bytes are accepted: a write failed, or the connection was closed. -/
  broken : Bool
  deriving DecidableEq, Repr

/-- Auxiliary state of one end, which no step reads. -/
structure Trace where
  /-- The threads that have drawn an id in `OpenStream`, in order. -/
  drawn : List Nat
  /-- The frames this end has begun to write, in the order of the write token. -/
  begun : List Frame
  /-- What is left to write of the last of them. -/
  unwritten : Bytes
  /-- How many of them the other end has read. -/
  taken : Nat
  /-- The other end has read the header of the next one. -/
  headerTaken : Bool
  deriving DecidableEq, Repr

structure Mux where
  session : End → Session
  wire : End → Wire
  objects : List MuxStream
  trace : End → Trace

def newSession (side : End) : Session where
  nextID := side.firstID
  streams := []
  acceptCh := []
  datagrams := []
  writeToken := none
  done := false
  closeOnce := .idle

def Mux.new : Mux where
  session := newSession
  wire _ := ⟨[], false⟩
  objects := []
  trace _ := ⟨[], [], [], 0, false⟩

namespace Mux

def setSession (mux : Mux) (side : End) (session : Session) : Mux :=
  { mux with session := fun one => if one = side then session else mux.session one }

def setWire (mux : Mux) (side : End) (wire : Wire) : Mux :=
  { mux with wire := fun one => if one = side then wire else mux.wire one }

def setTrace (mux : Mux) (side : End) (trace : Trace) : Mux :=
  { mux with trace := fun one => if one = side then trace else mux.trace one }

def modifyObject (mux : Mux) (ref : Nat) (change : MuxStream → MuxStream) : Mux :=
  { mux with objects := mux.objects.modify ref change }

def getStream (mux : Mux) (side : End) (id : UInt32) : Option Nat :=
  (mux.session side).streams.lookup id

section Fields

variable (mux : Mux) (side one : End)

@[simp] theorem setSession_session (session : Session) :
    (mux.setSession side session).session one =
      if one = side then session else mux.session one := rfl

@[simp] theorem setSession_wire (session : Session) :
    (mux.setSession side session).wire = mux.wire := rfl

@[simp] theorem setSession_trace (session : Session) :
    (mux.setSession side session).trace = mux.trace := rfl

@[simp] theorem setSession_objects (session : Session) :
    (mux.setSession side session).objects = mux.objects := rfl

@[simp] theorem setWire_session (wire : Wire) : (mux.setWire side wire).session = mux.session :=
  rfl

@[simp] theorem setWire_wire (wire : Wire) :
    (mux.setWire side wire).wire one = if one = side then wire else mux.wire one := rfl

@[simp] theorem setWire_trace (wire : Wire) : (mux.setWire side wire).trace = mux.trace := rfl

@[simp] theorem setWire_objects (wire : Wire) : (mux.setWire side wire).objects = mux.objects :=
  rfl

@[simp] theorem setTrace_session (trace : Trace) :
    (mux.setTrace side trace).session = mux.session := rfl

@[simp] theorem setTrace_wire (trace : Trace) : (mux.setTrace side trace).wire = mux.wire := rfl

@[simp] theorem setTrace_trace (trace : Trace) :
    (mux.setTrace side trace).trace one = if one = side then trace else mux.trace one := rfl

@[simp] theorem setTrace_objects (trace : Trace) :
    (mux.setTrace side trace).objects = mux.objects := rfl

@[simp] theorem modifyObject_session (ref : Nat) (change : MuxStream → MuxStream) :
    (mux.modifyObject ref change).session = mux.session := rfl

@[simp] theorem modifyObject_wire (ref : Nat) (change : MuxStream → MuxStream) :
    (mux.modifyObject ref change).wire = mux.wire := rfl

@[simp] theorem modifyObject_trace (ref : Nat) (change : MuxStream → MuxStream) :
    (mux.modifyObject ref change).trace = mux.trace := rfl

@[simp] theorem modifyObject_objects (ref : Nat) (change : MuxStream → MuxStream) :
    (mux.modifyObject ref change).objects = mux.objects.modify ref change := rfl

end Fields

end Mux

/-! ## Actions -/

inductive Action
  | nothing
  | takeToken (side : End) (frame : Frame)
  | writeBytes (side : End) (bytes : Bytes)
  | breakWire (side : End)
  | giveToken (side : End)
  | drawID (side : End)
  | addStream (side : End) (id : UInt32)
  | removeStream (side : End) (id : UInt32) (ref : Nat)
  | takeHeader (side : End) (payloadFollows : Bool)
  | takePayload (side : End) (length : Nat)
  | pushAccept (side : End) (ref : Nat)
  | popAccept (side : End)
  | pushDatagram (side : End) (payload : Bytes)
  | popDatagram (side : End)
  | pushIncoming (ref : Nat) (payload : Bytes)
  | popIncoming (ref : Nat)
  | consume (ref : Nat) (count : Nat)
  | setOnce (ref : Nat) (once : Once)
  | closeLocal (ref : Nat)
  | closeLocalOnce (ref : Nat)
  | closeRemote (ref : Nat)
  | setDeadlines (ref : Nat) (read write : Bool)
  | closeDone (side : End)
  | closeConn (side : End)
  deriving DecidableEq, Repr

namespace Action

/-- Taking the token begins the frame, unless the connection is broken. -/
def begin (mux : Mux) (side : End) (frame : Frame) : Mux :=
  if (mux.wire side).broken then mux
  else
    let trace := mux.trace side
    mux.setTrace side
      { trace with begun := trace.begun ++ [frame], unwritten := frame.encode }

def apply (self : Nat) (mux : Mux) : Action → Mux
  | .nothing => mux
  | .takeToken side frame =>
      (begin mux side frame).setSession side
        { mux.session side with writeToken := some self }
  | .writeBytes side bytes =>
      let wire := mux.wire side
      let trace := mux.trace side
      (mux.setWire side { wire with bytes := wire.bytes ++ bytes }).setTrace side
        { trace with unwritten := trace.unwritten.drop bytes.length }
  | .breakWire side => mux.setWire side { mux.wire side with broken := true }
  | .giveToken side => mux.setSession side { mux.session side with writeToken := none }
  | .drawID side =>
      let session := mux.session side
      let trace := mux.trace side
      (mux.setSession side { session with nextID := session.nextID + 2 }).setTrace side
        { trace with drawn := trace.drawn ++ [self] }
  | .addStream side id =>
      let session := mux.session side
      let added := mux.setSession side
        { session with
          streams := (id, mux.objects.length) ::
            session.streams.filter fun entry => entry.1 ≠ id }
      { added with objects := mux.objects ++ [newMuxStream side id] }
  | .removeStream side id ref =>
      let session := mux.session side
      mux.setSession side
        { session with streams := session.streams.filter fun entry => entry ≠ (id, ref) }
  | .takeHeader side payloadFollows =>
      let wire := mux.wire side.other
      let trace := mux.trace side.other
      (mux.setWire side.other { wire with bytes := wire.bytes.drop frameHeaderSize }).setTrace
        side.other
        (if payloadFollows then { trace with headerTaken := true }
          else { trace with taken := trace.taken + 1 })
  | .takePayload side length =>
      let wire := mux.wire side.other
      let trace := mux.trace side.other
      (mux.setWire side.other { wire with bytes := wire.bytes.drop length }).setTrace
        side.other { trace with taken := trace.taken + 1, headerTaken := false }
  | .pushAccept side ref =>
      let session := mux.session side
      mux.setSession side { session with acceptCh := session.acceptCh ++ [ref] }
  | .popAccept side =>
      let session := mux.session side
      mux.setSession side { session with acceptCh := session.acceptCh.tail }
  | .pushDatagram side payload =>
      let session := mux.session side
      mux.setSession side { session with datagrams := session.datagrams ++ [payload] }
  | .popDatagram side =>
      let session := mux.session side
      mux.setSession side { session with datagrams := session.datagrams.tail }
  | .pushIncoming ref payload =>
      mux.modifyObject ref fun stream =>
        { stream with incoming := stream.incoming ++ [payload] }
  | .popIncoming ref =>
      mux.modifyObject ref fun stream =>
        { stream with current := stream.incoming.headD [], incoming := stream.incoming.tail }
  | .consume ref count =>
      mux.modifyObject ref fun stream =>
        { stream with
          current := stream.current.drop count
          readOut := stream.readOut ++ stream.current.take count }
  | .setOnce ref once => mux.modifyObject ref fun stream => { stream with localOnce := once }
  | .closeLocal ref => mux.modifyObject ref fun stream => { stream with localDone := true }
  | .closeLocalOnce ref =>
      mux.modifyObject ref fun stream => { stream with localDone := true, localOnce := .finished }
  | .closeRemote ref => mux.modifyObject ref fun stream => { stream with remoteDone := true }
  | .setDeadlines ref read write =>
      mux.modifyObject ref fun stream =>
        { stream with readDeadline := read, writeDeadline := write }
  | .closeDone side =>
      mux.setSession side { mux.session side with done := true, closeOnce := .running }
  | .closeConn side =>
      (mux.setWire side { mux.wire side with broken := true }).setSession side
        { mux.session side with closeOnce := .finished }

end Action

/-! ## Program points -/

inductive WriteFramePoint
  | check
  | acquire
  | writing (rest : Bytes)
  | release (err : Option Err)
  | returned (err : Option Err)
  deriving DecidableEq, Repr

inductive CloseSessionPoint
  | once
  | conn
  | returned
  deriving DecidableEq, Repr

inductive ReadLoopPoint
  | readHeader
  | insert (id : UInt32)
  | sendAccept (ref : Nat)
  | readPayload (id : UInt32) (length : Nat)
  | getStream (id : UInt32) (payload : Bytes)
  | deliver (ref : Nat) (payload : Bytes)
  | getClosed (id : UInt32)
  | closeRemote (ref : Nat)
  | readDatagram (length : Nat)
  | queueDatagram (payload : Bytes)
  | stopped (stop : Stop) (point : CloseSessionPoint)
  deriving DecidableEq, Repr

inductive OpenStreamPoint
  | drawID
  | insert (id : UInt32)
  | write (id : UInt32) (ref : Nat) (point : WriteFramePoint)
  | removeStream (id : UInt32) (ref : Nat) (err : Err)
  | closeLocal (ref : Nat) (err : Err)
  | returned (result : Except Err Nat)
  deriving DecidableEq, Repr

inductive AcceptStreamPoint
  | select
  | returned (result : Except Err Nat)
  deriving DecidableEq, Repr

inductive SendDatagramPoint
  | check
  | write (point : WriteFramePoint)
  | returned (err : Option Err)
  deriving DecidableEq, Repr

inductive ReceiveDatagramPoint
  | select
  | returned (result : Except Err Bytes)
  deriving DecidableEq, Repr

inductive ReadPoint
  | start
  | check
  | firstSelect
  | secondSelect
  | copy
  | returned (result : Except Err Bytes)
  deriving DecidableEq, Repr

inductive WritePoint
  | start
  | loop (total : Nat) (data : Bytes)
  | write (total : Nat) (chunk rest : Bytes) (deadline : Bool) (point : WriteFramePoint)
  | returned (total : Nat) (err : Option Err)
  deriving DecidableEq, Repr

inductive ClosePoint
  | once
  | signal
  | remove
  | write (point : WriteFramePoint)
  | finish
  | returned
  deriving DecidableEq, Repr

inductive Thread
  | readLoop (side : End) (point : ReadLoopPoint)
  | openStream (side : End) (point : OpenStreamPoint)
  | acceptStream (side : End) (point : AcceptStreamPoint)
  | sendDatagram (side : End) (payload : Bytes) (point : SendDatagramPoint)
  | receiveDatagram (side : End) (point : ReceiveDatagramPoint)
  | read (ref : Nat) (capacity : Nat) (point : ReadPoint)
  | write (ref : Nat) (data : Bytes) (point : WritePoint)
  | close (ref : Nat) (point : ClosePoint)
  | setDeadlines (ref : Nat) (read write : Bool) (returned : Bool)
  | closeSession (side : End) (point : CloseSessionPoint)
  deriving DecidableEq, Repr

/-- The ready case that a select takes, what the connection answers, or the
caller's context ending. -/
inductive Choice
  | proceed
  | wrote (count : Nat)
  | fail
  | contextDone
  | deadline
  | localDone
  | remoteDone
  | sessionDone
  deriving DecidableEq, Repr

end Rdpulse.TLSMux
