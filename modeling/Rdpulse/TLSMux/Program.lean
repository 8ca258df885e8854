import Rdpulse.TLSMux.Session

namespace Rdpulse.TLSMux

open Foundation

/-! The operations of the TLS mux: at each program point, the action taken and
the point that follows, or `none` where the step is blocked. -/

/-- `writeFrame`, with what its caller's context and deadline may do. -/
def planWriteFrame (mux : Mux) (side : End) (contextEnds deadline : Bool) (frame : Frame)
    (choice : Choice) : WriteFramePoint → Option (Action × WriteFramePoint)
  | .check =>
      if maxFramePayload < frame.payload.length then
        some (.nothing, .returned (some .badFrame))
      else some (.nothing, .acquire)
  | .acquire =>
      match choice with
      | .proceed =>
          if (mux.session side).writeToken = none then
            some (.takeToken side frame, .writing frame.encode)
          else none
      | .contextDone =>
          if contextEnds then some (.nothing, .returned (some .context)) else none
      | .deadline => if deadline then some (.nothing, .returned (some .timeout)) else none
      | .sessionDone =>
          if (mux.session side).done then some (.nothing, .returned (some .closed)) else none
      | _ => none
  | .writing rest =>
      -- `writeAll`: the connection takes any non-empty part, or fails for good.
      if rest = [] then some (.nothing, .release none)
      else
        match choice with
        | .wrote count =>
            if (mux.wire side).broken || count = 0 || rest.length < count then none
            else some (.writeBytes side (rest.take count), .writing (rest.drop count))
        | .fail => some (.breakWire side, .release (some .connection))
        | _ => none
  | .release err => some (.giveToken side, .returned err)
  | .returned _ => none

def planCloseSession (mux : Mux) (side : End) :
    CloseSessionPoint → Option (Action × CloseSessionPoint)
  | .once =>
      match (mux.session side).closeOnce with
      | .idle => some (.closeDone side, .conn)
      | .running => none
      | .finished => some (.nothing, .returned)
  | .conn => some (.closeConn side, .returned)
  | .returned => none

/-- The frame checks on a header, and the point that a good header leads to. -/
def dispatch (side : End) (header : Header) : Except FrameCheck (Bool × ReadLoopPoint) :=
  if maxFramePayload < header.length then .error .length
  else if header.frameType = frameOpen then
    if header.streamID = 0 then .error .zeroID
    else if header.length ≠ 0 then .error .openLength
    else if !side.remoteOwnsID header.streamID then .error .ownership
    else .ok (false, .insert header.streamID)
  else if header.frameType = frameData then
    .ok (true, .readPayload header.streamID header.length)
  else if header.frameType = frameClose then
    if header.length ≠ 0 then .error .closeLength
    else .ok (false, .getClosed header.streamID)
  else if header.frameType = frameDatagram then
    if header.streamID ≠ 0 then .error .datagramID
    else .ok (true, .readDatagram header.length)
  else .error .unknownType

/-- The return of `readLoop`, whose deferred `Close` is still to run. -/
def stopping (stop : Stop) : ReadLoopPoint := .stopped stop .once

def planReadLoop (mux : Mux) (side : End) (choice : Choice) :
    ReadLoopPoint → Option (Action × ReadLoopPoint)
  | .readHeader =>
      match choice with
      | .proceed =>
          let received := (mux.wire side.other).bytes
          if received.length < frameHeaderSize then none
          else
            match dispatch side (decodeHeader received) with
            | .error check => some (.takeHeader side true, stopping (.frameCheck check))
            | .ok (payloadFollows, next) => some (.takeHeader side payloadFollows, next)
      | .fail => some (.nothing, stopping .connection)
      | _ => none
  | .insert id =>
      if (mux.getStream side id).isSome then
        some (.nothing, stopping (.frameCheck .duplicate))
      else if maxStreams ≤ (mux.session side).streams.length then
        some (.nothing, stopping (.frameCheck .streamLimit))
      else some (.addStream side id, .sendAccept mux.objects.length)
  | .sendAccept ref =>
      match choice with
      | .proceed =>
          if (mux.session side).acceptCh.length < acceptQueueSize then
            some (.pushAccept side ref, .readHeader)
          else none
      | .sessionDone =>
          if (mux.session side).done then some (.nothing, stopping .sessionDone) else none
      | _ => none
  | .readPayload id length =>
      match choice with
      | .proceed =>
          let received := (mux.wire side.other).bytes
          if received.length < length then none
          else some (.takePayload side length, .getStream id (received.take length))
      | .fail => some (.nothing, stopping .connection)
      | _ => none
  | .getStream id payload =>
      match mux.getStream side id with
      | none => some (.nothing, .readHeader)
      | some ref => some (.nothing, .deliver ref payload)
  | .deliver ref payload =>
      match mux.objects[ref]? with
      | none => none
      | some stream =>
          match choice with
          | .proceed =>
              if stream.incoming.length < streamQueueSize then
                some (.pushIncoming ref payload, .readHeader)
              else none
          | .localDone => if stream.localDone then some (.nothing, .readHeader) else none
          | .sessionDone =>
              if (mux.session side).done then some (.nothing, stopping .sessionDone) else none
          | _ => none
  | .getClosed id =>
      match mux.getStream side id with
      | none => some (.nothing, .readHeader)
      | some ref => some (.nothing, .closeRemote ref)
  | .closeRemote ref => some (.closeRemote ref, .readHeader)
  | .readDatagram length =>
      match choice with
      | .proceed =>
          let received := (mux.wire side.other).bytes
          if received.length < length then none
          else some (.takePayload side length, .queueDatagram (received.take length))
      | .fail => some (.nothing, stopping .connection)
      | _ => none
  | .queueDatagram payload =>
      if (mux.session side).datagrams.length < datagramQueueSize then
        some (.pushDatagram side payload, .readHeader)
      else some (.nothing, .readHeader)
  | .stopped stop point =>
      (planCloseSession mux side point).map fun (action, next) => (action, .stopped stop next)

def openFrame (id : UInt32) : Frame := ⟨frameOpen, id, []⟩
def dataFrame (id : UInt32) (chunk : Bytes) : Frame := ⟨frameData, id, chunk⟩
def closeFrame (id : UInt32) : Frame := ⟨frameClose, id, []⟩
def datagramFrame (payload : Bytes) : Frame := ⟨frameDatagram, 0, payload⟩

def resumeOpen (id : UInt32) (ref : Nat) : WriteFramePoint → OpenStreamPoint
  | .returned none => .returned (.ok ref)
  | .returned (some err) => .removeStream id ref err
  | point => .write id ref point

def planOpenStream (mux : Mux) (side : End) (choice : Choice) :
    OpenStreamPoint → Option (Action × OpenStreamPoint)
  | .drawID => some (.drawID side, .insert (mux.session side).nextID)
  | .insert id =>
      if maxStreams ≤ (mux.session side).streams.length then
        some (.nothing, .returned (.error .streamLimit))
      else some (.addStream side id, .write id mux.objects.length .check)
  | .write id ref point =>
      (planWriteFrame mux side true false (openFrame id) choice point).map
        fun (action, next) => (action, resumeOpen id ref next)
  | .removeStream id ref err => some (.removeStream side id ref, .closeLocal ref err)
  | .closeLocal ref err =>
      match mux.objects[ref]? with
      | none => none
      | some stream =>
          match stream.localOnce with
          | .idle => some (.closeLocalOnce ref, .returned (.error err))
          | .running => none
          | .finished => some (.nothing, .returned (.error err))
  | .returned _ => none

def planAcceptStream (mux : Mux) (side : End) (choice : Choice) :
    AcceptStreamPoint → Option (Action × AcceptStreamPoint)
  | .select =>
      match choice with
      | .proceed =>
          match (mux.session side).acceptCh with
          | [] => none
          | ref :: _ => some (.popAccept side, .returned (.ok ref))
      | .contextDone => some (.nothing, .returned (.error .context))
      | .sessionDone =>
          if (mux.session side).done then some (.nothing, .returned (.error .closed)) else none
      | _ => none
  | .returned _ => none

def planSendDatagram (mux : Mux) (side : End) (payload : Bytes) (choice : Choice) :
    SendDatagramPoint → Option (Action × SendDatagramPoint)
  | .check =>
      if maxFramePayload < payload.length then
        some (.nothing, .returned (some .badFrame))
      else some (.nothing, .write .check)
  | .write point =>
      (planWriteFrame mux side true false (datagramFrame payload) choice point).map
        fun (action, next) =>
          (action,
            match next with
            | .returned err => .returned err
            | _ => .write next)
  | .returned _ => none

def planReceiveDatagram (mux : Mux) (side : End) (choice : Choice) :
    ReceiveDatagramPoint → Option (Action × ReceiveDatagramPoint)
  | .select =>
      match choice with
      | .proceed =>
          match (mux.session side).datagrams with
          | [] => none
          | payload :: _ => some (.popDatagram side, .returned (.ok payload))
      | .contextDone => some (.nothing, .returned (.error .context))
      | .sessionDone =>
          if (mux.session side).done then some (.nothing, .returned (.error .closed)) else none
      | _ => none
  | .returned _ => none

def planRead (mux : Mux) (stream : MuxStream) (ref capacity : Nat) (choice : Choice) :
    ReadPoint → Option (Action × ReadPoint)
  | .start =>
      if capacity = 0 then some (.nothing, .returned (.ok [])) else some (.nothing, .check)
  | .check =>
      if stream.current = [] then some (.nothing, .firstSelect) else some (.nothing, .copy)
  | .firstSelect =>
      if stream.incoming = [] then some (.nothing, .secondSelect)
      else some (.popIncoming ref, .check)
  | .secondSelect =>
      match choice with
      | .proceed => if stream.incoming = [] then none else some (.popIncoming ref, .check)
      | .remoteDone =>
          if stream.remoteDone then some (.nothing, .returned (.error .eof)) else none
      | .localDone =>
          if stream.localDone then some (.nothing, .returned (.error .closed)) else none
      | .sessionDone =>
          if (mux.session stream.session).done then
            some (.nothing, .returned (.error .closed))
          else none
      | .deadline =>
          if stream.readDeadline then some (.nothing, .returned (.error .timeout)) else none
      | _ => none
  | .copy => some (.consume ref capacity, .returned (.ok (stream.current.take capacity)))
  | .returned _ => none

def resumeWrite (total : Nat) (chunk rest : Bytes) (deadline : Bool) :
    WriteFramePoint → WritePoint
  | .returned none => .loop (total + chunk.length) rest
  | .returned (some err) => .returned total (some err)
  | point => .write total chunk rest deadline point

def planWrite (mux : Mux) (stream : MuxStream) (data : Bytes) (choice : Choice) :
    WritePoint → Option (Action × WritePoint)
  | .start =>
      match choice with
      | .localDone =>
          if stream.localDone then some (.nothing, .returned 0 (some .closed)) else none
      | .remoteDone =>
          if stream.remoteDone then some (.nothing, .returned 0 (some .closedPipe)) else none
      | .proceed =>
          if stream.localDone || stream.remoteDone then none
          else some (.nothing, .loop 0 data)
      | _ => none
  | .loop total rest =>
      if rest = [] then some (.nothing, .returned total none)
      else
        some (.nothing,
          .write total (rest.take maxWriteChunk) (rest.drop maxWriteChunk)
            stream.writeDeadline .check)
  | .write total chunk rest deadline point =>
      (planWriteFrame mux stream.session false deadline (dataFrame stream.id chunk) choice
        point).map fun (action, next) => (action, resumeWrite total chunk rest deadline next)
  | .returned _ _ => none

def planClose (mux : Mux) (stream : MuxStream) (ref : Nat) (choice : Choice) :
    ClosePoint → Option (Action × ClosePoint)
  | .once =>
      match stream.localOnce with
      | .idle => some (.setOnce ref .running, .signal)
      | .running => none
      | .finished => some (.nothing, .returned)
  | .signal => some (.closeLocal ref, .remove)
  | .remove => some (.removeStream stream.session stream.id ref, .write .check)
  | .write point =>
      (planWriteFrame mux stream.session true false (closeFrame stream.id) choice point).map
        fun (action, next) =>
          (action,
            match next with
            | .returned _ => .finish
            | _ => .write next)
  | .finish => some (.setOnce ref .finished, .returned)
  | .returned => none

def plan (mux : Mux) (thread : Thread) (choice : Choice) : Option (Action × Thread) :=
  match thread with
  | .readLoop side point =>
      (planReadLoop mux side choice point).map fun (action, next) =>
        (action, .readLoop side next)
  | .openStream side point =>
      (planOpenStream mux side choice point).map fun (action, next) =>
        (action, .openStream side next)
  | .acceptStream side point =>
      (planAcceptStream mux side choice point).map fun (action, next) =>
        (action, .acceptStream side next)
  | .sendDatagram side payload point =>
      (planSendDatagram mux side payload choice point).map fun (action, next) =>
        (action, .sendDatagram side payload next)
  | .receiveDatagram side point =>
      (planReceiveDatagram mux side choice point).map fun (action, next) =>
        (action, .receiveDatagram side next)
  | .read ref capacity point =>
      match mux.objects[ref]? with
      | none => none
      | some stream =>
          (planRead mux stream ref capacity choice point).map fun (action, next) =>
            (action, .read ref capacity next)
  | .write ref data point =>
      match mux.objects[ref]? with
      | none => none
      | some stream =>
          (planWrite mux stream data choice point).map fun (action, next) =>
            (action, .write ref data next)
  | .close ref point =>
      match mux.objects[ref]? with
      | none => none
      | some stream =>
          (planClose mux stream ref choice point).map fun (action, next) =>
            (action, .close ref next)
  | .setDeadlines ref read write returned =>
      if returned then none
      else some (.setDeadlines ref read write, .setDeadlines ref read write true)
  | .closeSession side point =>
      (planCloseSession mux side point).map fun (action, next) =>
        (action, .closeSession side next)

/-- The calls of the applications; `readLoop` is started by `newSession`. -/
def entry : Thread → Bool
  | .readLoop _ _ => false
  | .openStream _ point => point = .drawID
  | .acceptStream _ point => point = .select
  | .sendDatagram _ _ point => point = .check
  | .receiveDatagram _ point => point = .select
  | .read _ _ point => point = .start
  | .write _ _ point => point = .start
  | .close _ point => point = .once
  | .setDeadlines _ _ _ returned => !returned
  | .closeSession _ point => point = .once

def program : Program Mux Thread Choice where
  entry := entry
  step self mux thread choice :=
    (plan mux thread choice).map fun (action, next) => (action.apply self mux, next)

abbrev MuxPool := Pool Mux Thread

def initialPool : MuxPool where
  shared := Mux.new
  threads := [.readLoop .client .readHeader, .readLoop .server .readHeader]

end Rdpulse.TLSMux
