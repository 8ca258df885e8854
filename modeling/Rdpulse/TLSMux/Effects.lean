import Rdpulse.TLSMux.Program

namespace Rdpulse.TLSMux

open Foundation

/-! What the actions do to the parts of the state that the invariants speak of,
and which actions each kind of thread can take. -/

/-! ## Objects -/

theorem apply_object (self : Nat) {mux : Mux} (action : Action) {ref : Nat}
    {stream : MuxStream} (present : mux.objects[ref]? = some stream) :
    ∃ after, (action.apply self mux).objects[ref]? = some after ∧
      after.session = stream.session ∧ after.id = stream.id := by
  have bound := (List.getElem?_eq_some_iff.mp present).1
  cases action with
  | addStream side id =>
      refine ⟨stream, ?_, rfl, rfl⟩
      simp only [Action.apply]
      rw [List.getElem?_append_left bound]
      exact present
  | takeToken side frame =>
      refine ⟨stream, ?_, rfl, rfl⟩
      simp only [Action.apply, Action.begin]
      split <;> simpa using present
  | pushIncoming target payload | popIncoming target | consume target count
  | setOnce target once | closeLocal target | closeLocalOnce target | closeRemote target
  | setDeadlines target read write =>
      simp only [Action.apply, Mux.modifyObject_objects, List.getElem?_modify, present]
      by_cases same : target = ref <;> simp [same]
  | _ => exact ⟨stream, by simpa [Action.apply] using present, rfl, rfl⟩

/-! ## Writing a frame -/

def writes (mux : Mux) : Thread → Option (End × Frame × WriteFramePoint)
  | .openStream side point =>
      match point with
      | .write id _ inner => some (side, openFrame id, inner)
      | _ => none
  | .sendDatagram side payload point =>
      match point with
      | .write inner => some (side, datagramFrame payload, inner)
      | _ => none
  | .write ref _ point =>
      match point with
      | .write _ chunk _ _ inner =>
          (mux.objects[ref]?).map fun stream =>
            (stream.session, dataFrame stream.id chunk, inner)
      | _ => none
  | .close ref point =>
      match point with
      | .write inner =>
          (mux.objects[ref]?).map fun stream => (stream.session, closeFrame stream.id, inner)
      | _ => none
  | _ => none

def Thread.inWriteFrame : Thread → Bool
  | .openStream _ point =>
      match point with
      | .write _ _ _ => true
      | _ => false
  | .sendDatagram _ _ point =>
      match point with
      | .write _ => true
      | _ => false
  | .write _ _ point =>
      match point with
      | .write _ _ _ _ _ => true
      | _ => false
  | .close _ point =>
      match point with
      | .write _ => true
      | _ => false
  | _ => false

theorem inWriteFrame_of_writes {mux : Mux} {thread : Thread} {side : End} {frame : Frame}
    {point : WriteFramePoint} (writing : writes mux thread = some (side, frame, point)) :
    thread.inWriteFrame = true := by
  cases thread with
  | openStream side inner | sendDatagram side payload inner | write ref data inner
  | close ref inner => cases inner <;> first | rfl | cases writing
  | _ => cases writing

theorem writes_apply (self : Nat) {mux : Mux} (action : Action) {thread : Thread}
    {side : End} {frame : Frame} {point : WriteFramePoint}
    (writing : writes mux thread = some (side, frame, point)) :
    writes (action.apply self mux) thread = some (side, frame, point) := by
  cases thread with
  | openStream | sendDatagram => exact writing
  | write ref data inner =>
      cases inner with
      | write total chunk rest deadline inner =>
          simp only [writes, Option.map_eq_some_iff] at writing ⊢
          rcases writing with ⟨stream, present, equal⟩
          rcases apply_object self action present with ⟨after, found, session, id⟩
          exact ⟨after, found, by rw [session, id, equal]⟩
      | _ => cases writing
  | close ref inner =>
      cases inner with
      | write inner =>
          simp only [writes, Option.map_eq_some_iff] at writing ⊢
          rcases writing with ⟨stream, present, equal⟩
          rcases apply_object self action present with ⟨after, found, session, id⟩
          exact ⟨after, found, by rw [session, id, equal]⟩
      | _ => cases writing
  | _ => cases writing

def Action.isWrite : Action → Bool
  | .takeToken _ _ | .writeBytes _ _ | .breakWire _ | .giveToken _ => true
  | _ => false

namespace WriteFramePoint

def holdsToken : WriteFramePoint → Bool
  | .writing _ | .release _ => true
  | _ => false

def rest : WriteFramePoint → Bytes
  | .writing rest => rest
  | _ => []

def isEarly : WriteFramePoint → Bool
  | .check | .acquire => true
  | _ => false

def isReturned : WriteFramePoint → Bool
  | .returned _ => true
  | _ => false

end WriteFramePoint

theorem planWriteFrame_cases {mux : Mux} {side : End} {contextEnds deadline : Bool}
    {frame : Frame} {choice : Choice} {point next : WriteFramePoint} {action : Action}
    (planned : planWriteFrame mux side contextEnds deadline frame choice point =
      some (action, next)) :
    (action = .nothing ∧ point.isEarly = true ∧
      (next = .acquire ∧ frame.payload.length ≤ maxFramePayload ∨
        ∃ err, next = .returned (some err))) ∨
    (action = .takeToken side frame ∧ point = .acquire ∧ next = .writing frame.encode ∧
      (mux.session side).writeToken = none) ∨
    (∃ rest count, action = .writeBytes side (rest.take count) ∧ point = .writing rest ∧
      next = .writing (rest.drop count) ∧ (mux.wire side).broken = false ∧
      0 < count ∧ count ≤ rest.length) ∨
    (action = .nothing ∧ point = .writing [] ∧ next = .release none) ∨
    (∃ rest, action = .breakWire side ∧ point = .writing rest ∧ rest ≠ [] ∧
      next = .release (some .connection)) ∨
    (∃ err, action = .giveToken side ∧ point = .release err ∧ next = .returned err) := by
  cases point with
  | writing rest =>
      cases choice <;> grind [planWriteFrame]
  | _ => cases choice <;> grind [planWriteFrame, WriteFramePoint.isEarly]

theorem planCloseSession_isWrite {mux : Mux} {side : End} {point next : CloseSessionPoint}
    {action : Action} (planned : planCloseSession mux side point = some (action, next)) :
    action.isWrite = false := by
  cases point with
  | once =>
      simp only [planCloseSession] at planned
      split at planned <;> cases planned <;> rfl
  | conn => cases planned; rfl
  | returned => cases planned

theorem planReadLoop_isWrite {mux : Mux} {side : End} {choice : Choice}
    {point next : ReadLoopPoint} {action : Action}
    (planned : planReadLoop mux side choice point = some (action, next)) :
    action.isWrite = false := by
  cases point with
  | stopped stop inner =>
      simp only [planReadLoop, Option.map_eq_some_iff] at planned
      rcases planned with ⟨⟨taken, after⟩, closing, equal⟩
      cases equal
      exact planCloseSession_isWrite closing
  | _ =>
      simp only [planReadLoop] at planned
      repeat' split at planned
      all_goals first | (cases planned; rfl) | cases planned

def Action.isTake : Action → Bool
  | .takeHeader _ _ | .takePayload _ _ => true
  | _ => false

theorem planCloseSession_isTake {mux : Mux} {side : End} {point next : CloseSessionPoint}
    {action : Action} (planned : planCloseSession mux side point = some (action, next)) :
    action.isTake = false := by
  cases point with
  | once =>
      simp only [planCloseSession] at planned
      split at planned <;> cases planned <;> rfl
  | conn => cases planned; rfl
  | returned => cases planned

/-- A step is one of the `writeFrame` that the thread is executing, or of a
`readLoop`, or takes no action on the connection and at most calls `writeFrame`. -/
theorem plan_cases {mux : Mux} {thread next : Thread} {choice : Choice} {action : Action}
    (planned : plan mux thread choice = some (action, next)) :
    (∃ side frame point after contextEnds deadline,
      writes mux thread = some (side, frame, point) ∧
      planWriteFrame mux side contextEnds deadline frame choice point = some (action, after) ∧
      (writes mux next = some (side, frame, after) ∧ after.isReturned = false ∨
        next.inWriteFrame = false ∧ after.isReturned = true)) ∨
    (∃ side point after, thread = .readLoop side point ∧ next = .readLoop side after ∧
      action.isWrite = false ∧ planReadLoop mux side choice point = some (action, after)) ∨
    (action.isWrite = false ∧ action.isTake = false ∧ thread.inWriteFrame = false ∧
      (next.inWriteFrame = true →
        ∃ side frame, writes mux next = some (side, frame, .check))) := by
  cases thread with
  | readLoop side point =>
      simp only [plan, Option.map_eq_some_iff] at planned
      rcases planned with ⟨⟨taken, after⟩, inner, equal⟩
      cases equal
      exact .inr (.inl ⟨side, point, after, rfl, rfl, planReadLoop_isWrite inner, inner⟩)
  | openStream side point =>
      simp only [plan, Option.map_eq_some_iff] at planned
      rcases planned with ⟨⟨taken, after⟩, inner, equal⟩
      cases equal
      cases point with
      | write id ref point =>
          simp only [planOpenStream, Option.map_eq_some_iff] at inner
          rcases inner with ⟨⟨written, last⟩, frame, equal⟩
          cases equal
          refine .inl ⟨side, openFrame id, point, last, _, _, rfl, frame, ?_⟩
          cases last with
          | returned err => cases err <;> exact .inr ⟨rfl, rfl⟩
          | _ => exact .inl ⟨rfl, rfl⟩
      | _ =>
          simp only [planOpenStream] at inner
          repeat' split at inner
          all_goals
            cases inner
            try exact .inr (.inr ⟨rfl, rfl, rfl, by simp [Thread.inWriteFrame, writes]⟩)
  | sendDatagram side payload point =>
      simp only [plan, Option.map_eq_some_iff] at planned
      rcases planned with ⟨⟨taken, after⟩, inner, equal⟩
      cases equal
      cases point with
      | write point =>
          simp only [planSendDatagram, Option.map_eq_some_iff] at inner
          rcases inner with ⟨⟨written, last⟩, frame, equal⟩
          cases equal
          refine .inl ⟨side, datagramFrame payload, point, last, _, _, rfl, frame, ?_⟩
          cases last with
          | returned err => exact .inr ⟨rfl, rfl⟩
          | _ => exact .inl ⟨rfl, rfl⟩
      | _ =>
          simp only [planSendDatagram] at inner
          repeat' split at inner
          all_goals
            cases inner
            try exact .inr (.inr ⟨rfl, rfl, rfl, by simp [Thread.inWriteFrame, writes]⟩)
  | write ref data point =>
      cases present : mux.objects[ref]? with
      | none => simp [plan, present] at planned
      | some stream =>
          simp only [plan, present, Option.map_eq_some_iff] at planned
          rcases planned with ⟨⟨taken, after⟩, inner, equal⟩
          cases equal
          cases point with
          | write total chunk rest deadline point =>
              simp only [planWrite, Option.map_eq_some_iff] at inner
              rcases inner with ⟨⟨written, last⟩, frame, equal⟩
              cases equal
              refine .inl ⟨stream.session, dataFrame stream.id chunk, point, last, _, _,
                by simp [writes, present], frame, ?_⟩
              cases last with
              | returned err => cases err <;> exact .inr ⟨rfl, rfl⟩
              | _ => exact .inl ⟨by simp [writes, resumeWrite, present], rfl⟩
          | _ =>
              simp only [planWrite] at inner
              repeat' split at inner
              all_goals
                cases inner
                try exact .inr (.inr ⟨rfl, rfl, rfl, by simp [Thread.inWriteFrame, writes, present]⟩)
  | close ref point =>
      cases present : mux.objects[ref]? with
      | none => simp [plan, present] at planned
      | some stream =>
          simp only [plan, present, Option.map_eq_some_iff] at planned
          rcases planned with ⟨⟨taken, after⟩, inner, equal⟩
          cases equal
          cases point with
          | write point =>
              simp only [planClose, Option.map_eq_some_iff] at inner
              rcases inner with ⟨⟨written, last⟩, frame, equal⟩
              cases equal
              refine .inl ⟨stream.session, closeFrame stream.id, point, last, _, _,
                by simp [writes, present], frame, ?_⟩
              cases last with
              | returned err => exact .inr ⟨rfl, rfl⟩
              | _ => exact .inl ⟨by simp [writes, present], rfl⟩
          | _ =>
              simp only [planClose] at inner
              repeat' split at inner
              all_goals
                cases inner
                try exact .inr (.inr ⟨rfl, rfl, rfl, by simp [Thread.inWriteFrame, writes, present]⟩)
  | acceptStream side point =>
      cases point <;>
        simp only [plan, planAcceptStream, Option.map_eq_some_iff] at planned
      all_goals
        repeat' split at planned
        all_goals
          rcases planned with ⟨⟨taken, after⟩, inner, equal⟩
          cases inner
          try cases equal
          try exact .inr (.inr ⟨rfl, rfl, rfl, by simp [Thread.inWriteFrame]⟩)
  | receiveDatagram side point =>
      cases point <;>
        simp only [plan, planReceiveDatagram, Option.map_eq_some_iff] at planned
      all_goals
        repeat' split at planned
        all_goals
          rcases planned with ⟨⟨taken, after⟩, inner, equal⟩
          cases inner
          try cases equal
          try exact .inr (.inr ⟨rfl, rfl, rfl, by simp [Thread.inWriteFrame]⟩)
  | read ref capacity point =>
      cases present : mux.objects[ref]? with
      | none => simp [plan, present] at planned
      | some stream =>
          simp only [plan, present, Option.map_eq_some_iff] at planned
          rcases planned with ⟨⟨taken, after⟩, inner, equal⟩
          cases equal
          cases point <;> simp only [planRead] at inner
          all_goals
            repeat' split at inner
            all_goals
              cases inner
              try exact .inr (.inr ⟨rfl, rfl, rfl, by simp [Thread.inWriteFrame]⟩)
  | setDeadlines ref read write returned =>
      simp only [plan] at planned
      split at planned
      · cases planned
      · cases planned
        exact .inr (.inr ⟨rfl, rfl, rfl, by simp [Thread.inWriteFrame]⟩)
  | closeSession side point =>
      simp only [plan, Option.map_eq_some_iff] at planned
      rcases planned with ⟨⟨taken, after⟩, inner, equal⟩
      cases equal
      exact .inr (.inr ⟨planCloseSession_isWrite inner, planCloseSession_isTake inner, rfl,
        by simp [Thread.inWriteFrame]⟩)

theorem step_plan {self : Nat} {mux moved : Mux} {thread next : Thread} {choice : Choice}
    (taken : program.step self mux thread choice = some (moved, next)) :
    ∃ action, plan mux thread choice = some (action, next) ∧ moved = action.apply self mux := by
  simp only [program, Option.map_eq_some_iff] at taken
  rcases taken with ⟨⟨action, after⟩, planned, equal⟩
  cases equal
  exact ⟨action, planned, rfl⟩

/-! ## Who takes which action -/

def Action.TakenBy (mux : Mux) (thread : Thread) : Action → Prop
  | .drawID side => thread = .openStream side .drawID
  | .addStream side id =>
      thread = .openStream side (.insert id) ∨ thread = .readLoop side (.insert id)
  | .removeStream side id ref =>
      (∃ err, thread = .openStream side (.removeStream id ref err)) ∨
        ∃ stream, thread = .close ref .remove ∧ mux.objects[ref]? = some stream ∧
          side = stream.session ∧ id = stream.id
  | .pushAccept side ref => thread = .readLoop side (.sendAccept ref)
  | .pushIncoming ref payload => ∃ side, thread = .readLoop side (.deliver ref payload)
  | .popIncoming ref =>
      ∃ capacity point, thread = .read ref capacity point ∧
        (point = .firstSelect ∨ point = .secondSelect)
  | .consume ref capacity => thread = .read ref capacity .copy
  | .closeLocal ref => thread = .close ref .signal
  | .closeLocalOnce ref => ∃ side err, thread = .openStream side (.closeLocal ref err)
  | .closeRemote ref => ∃ side, thread = .readLoop side (.closeRemote ref)
  | .setOnce ref once =>
      once = .running ∧ thread = .close ref .once ∨ once = .finished ∧ thread = .close ref .finish
  | _ => True

theorem planWriteFrame_takenBy {mux : Mux} {side : End} {contextEnds deadline : Bool}
    {frame : Frame} {choice : Choice} {point next : WriteFramePoint} {action : Action}
    (thread : Thread)
    (planned : planWriteFrame mux side contextEnds deadline frame choice point =
      some (action, next)) : action.TakenBy mux thread := by
  rcases planWriteFrame_cases planned with
    ⟨rfl, _⟩ | ⟨rfl, _⟩ | ⟨rest, count, rfl, _⟩ | ⟨rfl, _⟩ | ⟨rest, rfl, _⟩ | ⟨err, rfl, _⟩ <;>
      trivial

theorem planCloseSession_takenBy {mux : Mux} {side : End} {point next : CloseSessionPoint}
    {action : Action} (thread : Thread)
    (planned : planCloseSession mux side point = some (action, next)) :
    action.TakenBy mux thread := by
  cases point with
  | once =>
      simp only [planCloseSession] at planned
      split at planned <;> cases planned <;> trivial
  | conn => cases planned; trivial
  | returned => cases planned

theorem plan_takenBy {mux : Mux} {thread next : Thread} {choice : Choice} {action : Action}
    (planned : plan mux thread choice = some (action, next)) : action.TakenBy mux thread := by
  cases thread with
  | readLoop side point =>
      simp only [plan, Option.map_eq_some_iff] at planned
      rcases planned with ⟨⟨taken, after⟩, inner, equal⟩
      cases equal
      cases point with
      | stopped stop point =>
          simp only [planReadLoop, Option.map_eq_some_iff] at inner
          rcases inner with ⟨⟨closing, last⟩, close, equal⟩
          cases equal
          exact planCloseSession_takenBy _ close
      | _ =>
          simp only [planReadLoop] at inner
          repeat' split at inner
          all_goals
            cases inner
            try simp [Action.TakenBy]
  | openStream side point =>
      simp only [plan, Option.map_eq_some_iff] at planned
      rcases planned with ⟨⟨taken, after⟩, inner, equal⟩
      cases equal
      cases point with
      | write id ref point =>
          simp only [planOpenStream, Option.map_eq_some_iff] at inner
          rcases inner with ⟨⟨written, last⟩, frame, equal⟩
          cases equal
          exact planWriteFrame_takenBy _ frame
      | _ =>
          simp only [planOpenStream] at inner
          repeat' split at inner
          all_goals
            cases inner
            try simp [Action.TakenBy]
  | sendDatagram side payload point =>
      simp only [plan, Option.map_eq_some_iff] at planned
      rcases planned with ⟨⟨taken, after⟩, inner, equal⟩
      cases equal
      cases point with
      | write point =>
          simp only [planSendDatagram, Option.map_eq_some_iff] at inner
          rcases inner with ⟨⟨written, last⟩, frame, equal⟩
          cases equal
          exact planWriteFrame_takenBy _ frame
      | _ =>
          simp only [planSendDatagram] at inner
          repeat' split at inner
          all_goals
            cases inner
            try trivial
  | read ref capacity point =>
      cases present : mux.objects[ref]? with
      | none => simp [plan, present] at planned
      | some stream =>
          simp only [plan, present, Option.map_eq_some_iff] at planned
          rcases planned with ⟨⟨taken, after⟩, inner, equal⟩
          cases equal
          cases point <;> simp only [planRead] at inner
          all_goals
            repeat' split at inner
            all_goals
              cases inner
              try simp [Action.TakenBy]
  | write ref data point =>
      cases present : mux.objects[ref]? with
      | none => simp [plan, present] at planned
      | some stream =>
          simp only [plan, present, Option.map_eq_some_iff] at planned
          rcases planned with ⟨⟨taken, after⟩, inner, equal⟩
          cases equal
          cases point with
          | write total chunk rest deadline point =>
              simp only [planWrite, Option.map_eq_some_iff] at inner
              rcases inner with ⟨⟨written, last⟩, frame, equal⟩
              cases equal
              exact planWriteFrame_takenBy _ frame
          | _ =>
              simp only [planWrite] at inner
              repeat' split at inner
              all_goals
                cases inner
                try trivial
  | close ref point =>
      cases present : mux.objects[ref]? with
      | none => simp [plan, present] at planned
      | some stream =>
          simp only [plan, present, Option.map_eq_some_iff] at planned
          rcases planned with ⟨⟨taken, after⟩, inner, equal⟩
          cases equal
          cases point with
          | write point =>
              simp only [planClose, Option.map_eq_some_iff] at inner
              rcases inner with ⟨⟨written, last⟩, frame, equal⟩
              cases equal
              exact planWriteFrame_takenBy _ frame
          | _ =>
              simp only [planClose] at inner
              repeat' split at inner
              all_goals
                cases inner
                try simp [Action.TakenBy, present]
  | acceptStream side point =>
      cases point <;>
        simp only [plan, planAcceptStream, Option.map_eq_some_iff] at planned
      all_goals
        repeat' split at planned
        all_goals
          rcases planned with ⟨⟨taken, after⟩, inner, equal⟩
          cases inner
          try cases equal
          try trivial
  | receiveDatagram side point =>
      cases point <;>
        simp only [plan, planReceiveDatagram, Option.map_eq_some_iff] at planned
      all_goals
        repeat' split at planned
        all_goals
          rcases planned with ⟨⟨taken, after⟩, inner, equal⟩
          cases inner
          try cases equal
          try trivial
  | setDeadlines ref read write returned =>
      simp only [plan] at planned
      split at planned <;> cases planned
      trivial
  | closeSession side point =>
      simp only [plan, Option.map_eq_some_iff] at planned
      rcases planned with ⟨⟨taken, after⟩, inner, equal⟩
      cases equal
      exact planCloseSession_takenBy _ inner

/-! ## Reading a frame -/

theorem dispatch_ok {side : End} {header : Header} {payloadFollows : Bool}
    {next : ReadLoopPoint} (good : dispatch side header = .ok (payloadFollows, next)) :
    (payloadFollows = false ∧ header.length = 0 ∧
      (header.frameType = frameOpen ∧ header.streamID ≠ 0 ∧
          side.remoteOwnsID header.streamID = true ∧ next = .insert header.streamID ∨
        header.frameType = frameClose ∧ next = .getClosed header.streamID)) ∨
    (payloadFollows = true ∧
      (header.frameType = frameData ∧ next = .readPayload header.streamID header.length ∨
        header.frameType = frameDatagram ∧ next = .readDatagram header.length)) := by
  unfold dispatch at good
  repeat' split at good
  all_goals cases good
  · rename_i isOpen notZero empty owned
    exact .inl ⟨rfl, by simpa using empty, .inl ⟨isOpen, notZero, by simpa using owned, rfl⟩⟩
  · rename_i isData
    exact .inr ⟨rfl, .inl ⟨isData, rfl⟩⟩
  · rename_i isClose empty
    exact .inl ⟨rfl, by simpa using empty, .inr ⟨isClose, rfl⟩⟩
  · rename_i isDatagram _
    exact .inr ⟨rfl, .inr ⟨isDatagram, rfl⟩⟩

def ReadLoopPoint.awaitsPayload : ReadLoopPoint → Bool
  | .readPayload _ _ | .readDatagram _ => true
  | _ => false

def ReadLoopPoint.isStopped : ReadLoopPoint → Bool
  | .stopped _ _ => true
  | _ => false

theorem planReadLoop_cases {mux : Mux} {side : End} {choice : Choice}
    {point next : ReadLoopPoint} {action : Action}
    (planned : planReadLoop mux side choice point = some (action, next)) :
    (point = .readHeader ∧ frameHeaderSize ≤ (mux.wire side.other).bytes.length ∧
      ((∃ check, dispatch side (decodeHeader (mux.wire side.other).bytes) = .error check ∧
          action = .takeHeader side true ∧ next = stopping (.frameCheck check)) ∨
        ∃ payloadFollows,
          dispatch side (decodeHeader (mux.wire side.other).bytes) =
              .ok (payloadFollows, next) ∧
            action = .takeHeader side payloadFollows)) ∨
    (∃ length, length ≤ (mux.wire side.other).bytes.length ∧
      action = .takePayload side length ∧
      ((∃ id, point = .readPayload id length ∧
          next = .getStream id ((mux.wire side.other).bytes.take length)) ∨
        point = .readDatagram length ∧
          next = .queueDatagram ((mux.wire side.other).bytes.take length))) ∨
    (action.isTake = false ∧ next.awaitsPayload = false ∧
      (point.awaitsPayload = true → next.isStopped = true) ∧
      (point.isStopped = true → next.isStopped = true)) := by
  cases point with
  | readHeader =>
      simp only [planReadLoop] at planned
      split at planned
      · split at planned
        · cases planned
        · rename_i long
          refine .inl ⟨rfl, by omega, ?_⟩
          split at planned
          · rename_i check dispatched
            cases planned
            exact .inl ⟨check, dispatched, rfl, rfl⟩
          · rename_i payloadFollows after dispatched
            cases planned
            exact .inr ⟨payloadFollows, dispatched, rfl⟩
      · cases planned
        exact .inr (.inr ⟨rfl, rfl, by simp [ReadLoopPoint.awaitsPayload],
          by simp [ReadLoopPoint.isStopped]⟩)
      · cases planned
  | readPayload id length =>
      simp only [planReadLoop] at planned
      split at planned
      · split at planned
        · cases planned
        · cases planned
          exact .inr (.inl ⟨length, by omega, rfl, .inl ⟨id, rfl, rfl⟩⟩)
      · cases planned
        exact .inr (.inr ⟨rfl, rfl, fun _ => rfl, fun _ => rfl⟩)
      · cases planned
  | readDatagram length =>
      simp only [planReadLoop] at planned
      split at planned
      · split at planned
        · cases planned
        · cases planned
          exact .inr (.inl ⟨length, by omega, rfl, .inr ⟨rfl, rfl⟩⟩)
      · cases planned
        exact .inr (.inr ⟨rfl, rfl, fun _ => rfl, fun _ => rfl⟩)
      · cases planned
  | stopped stop inner =>
      simp only [planReadLoop, Option.map_eq_some_iff] at planned
      rcases planned with ⟨⟨taken, after⟩, closing, equal⟩
      cases equal
      exact .inr (.inr ⟨planCloseSession_isTake closing, rfl, fun _ => rfl, fun _ => rfl⟩)
  | _ =>
      refine .inr (.inr ?_)
      simp only [planReadLoop] at planned
      repeat' split at planned
      all_goals
        cases planned
        try exact ⟨rfl, rfl, by simp [ReadLoopPoint.awaitsPayload],
          by simp [ReadLoopPoint.isStopped]⟩

theorem plan_to_readLoop {mux : Mux} {thread : Thread} {choice : Choice} {action : Action}
    {side : End} {after : ReadLoopPoint}
    (planned : plan mux thread choice = some (action, .readLoop side after)) :
    ∃ point, thread = .readLoop side point := by
  cases thread with
  | readLoop one point =>
      simp only [plan, Option.map_eq_some_iff] at planned
      rcases planned with ⟨_, _, equal⟩
      cases equal
      exact ⟨point, rfl⟩
  | read ref | write ref | close ref =>
      cases present : mux.objects[ref]? <;> simp [plan, present] at planned
  | _ => simp [plan] at planned

theorem plan_readLoop {mux : Mux} {side : End} {point : ReadLoopPoint} {next : Thread}
    {choice : Choice} {action : Action}
    (planned : plan mux (.readLoop side point) choice = some (action, next)) :
    ∃ after, planReadLoop mux side choice point = some (action, after) ∧
      next = .readLoop side after := by
  simp only [plan, Option.map_eq_some_iff] at planned
  rcases planned with ⟨⟨taken, after⟩, inner, equal⟩
  cases equal
  exact ⟨after, inner, rfl⟩

/-! ## The steps of the other calls -/

theorem plan_acceptStream {mux : Mux} {thread : Thread} {choice : Choice} {action : Action}
    {side : End} {after : AcceptStreamPoint}
    (planned : plan mux thread choice = some (action, .acceptStream side after)) :
    ∃ point, thread = .acceptStream side point ∧
      planAcceptStream mux side choice point = some (action, after) := by
  cases thread with
  | acceptStream one point =>
      simp only [plan, Option.map_eq_some_iff] at planned
      rcases planned with ⟨_, inner, equal⟩
      cases equal
      exact ⟨point, rfl, inner⟩
  | read ref | write ref | close ref =>
      cases present : mux.objects[ref]? <;> simp [plan, present] at planned
  | _ => simp [plan] at planned

theorem plan_read {mux : Mux} {thread : Thread} {choice : Choice} {action : Action}
    {ref capacity : Nat} {after : ReadPoint}
    (planned : plan mux thread choice = some (action, .read ref capacity after)) :
    ∃ point stream, thread = .read ref capacity point ∧ mux.objects[ref]? = some stream ∧
      planRead mux stream ref capacity choice point = some (action, after) := by
  cases thread with
  | read target room point =>
      cases present : mux.objects[target]? with
      | none => simp [plan, present] at planned
      | some stream =>
          simp only [plan, present, Option.map_eq_some_iff] at planned
          rcases planned with ⟨_, inner, equal⟩
          cases equal
          exact ⟨point, stream, rfl, present, inner⟩
  | write target | close target =>
      cases present : mux.objects[target]? <;> simp [plan, present] at planned
  | _ => simp [plan] at planned

theorem plan_write {mux : Mux} {thread : Thread} {choice : Choice} {action : Action}
    {ref : Nat} {data : Bytes} {after : WritePoint}
    (planned : plan mux thread choice = some (action, .write ref data after)) :
    ∃ point stream, thread = .write ref data point ∧ mux.objects[ref]? = some stream ∧
      planWrite mux stream data choice point = some (action, after) := by
  cases thread with
  | write target bytes point =>
      cases present : mux.objects[target]? with
      | none => simp [plan, present] at planned
      | some stream =>
          simp only [plan, present, Option.map_eq_some_iff] at planned
          rcases planned with ⟨_, inner, equal⟩
          cases equal
          exact ⟨point, stream, rfl, present, inner⟩
  | read target | close target =>
      cases present : mux.objects[target]? <;> simp [plan, present] at planned
  | _ => simp [plan] at planned

theorem plan_close {mux : Mux} {thread : Thread} {choice : Choice} {action : Action}
    {ref : Nat} {after : ClosePoint}
    (planned : plan mux thread choice = some (action, .close ref after)) :
    ∃ point stream, thread = .close ref point ∧ mux.objects[ref]? = some stream ∧
      planClose mux stream ref choice point = some (action, after) := by
  cases thread with
  | close target point =>
      cases present : mux.objects[target]? with
      | none => simp [plan, present] at planned
      | some stream =>
          simp only [plan, present, Option.map_eq_some_iff] at planned
          rcases planned with ⟨_, inner, equal⟩
          cases equal
          exact ⟨point, stream, rfl, present, inner⟩
  | read target | write target =>
      cases present : mux.objects[target]? <;> simp [plan, present] at planned
  | _ => simp [plan] at planned

theorem plan_setDeadlines {mux : Mux} {thread : Thread} {choice : Choice} {action : Action}
    {ref : Nat} {read write returned : Bool}
    (planned : plan mux thread choice = some (action, .setDeadlines ref read write returned)) :
    thread = .setDeadlines ref read write false := by
  cases thread with
  | setDeadlines target one other finished =>
      cases finished <;> simp [plan] at planned
      rcases planned with ⟨_, rfl, rfl, rfl, _⟩
      rfl
  | read target | write target | close target =>
      cases present : mux.objects[target]? <;> simp [plan, present] at planned
  | _ => simp [plan] at planned

end Rdpulse.TLSMux
