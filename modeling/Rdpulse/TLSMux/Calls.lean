import Rdpulse.TLSMux.Table

namespace Rdpulse.TLSMux

open Foundation

/-! Calls that run from start to end with nothing in between: the actions that
each of them takes, one after another. -/

theorem alone_plan {self : Nat} {mux : Mux} {thread next : Thread} {choice : Choice}
    {action : Action} (planned : plan mux thread choice = some (action, next))
    (rest : List Choice) :
    program.alone self mux thread (choice :: rest) =
      program.alone self (action.apply self mux) next rest := by
  simp [Program.alone, program, planned]

def Action.applyAll (self : Nat) (mux : Mux) (actions : List Action) : Mux :=
  actions.foldl (fun moved action => action.apply self moved) mux

def writeFrameActions (side : End) (frame : Frame) : List Action :=
  [.nothing, .takeToken side frame, .writeBytes side frame.encode, .nothing, .giveToken side]

theorem writeFrame_alone (self : Nat) {mux : Mux} {side : End} {frame : Frame}
    (contextEnds deadline : Bool) (thread : WriteFramePoint → Thread)
    (steps : ∀ middle choice point action next, middle.objects = mux.objects →
      planWriteFrame middle side contextEnds deadline frame choice point = some (action, next) →
      plan middle (thread point) choice = some (action, thread next))
    (small : frame.payload.length ≤ maxFramePayload)
    (token : (mux.session side).writeToken = none) (whole : (mux.wire side).broken = false) :
    program.alone self mux (thread .check)
        [.proceed, .proceed, .wrote frame.encode.length, .proceed, .proceed] =
      some (Action.applyAll self mux (writeFrameActions side frame),
        thread (.returned none)) := by
  have long : 0 < frame.encode.length := by simp [frameHeaderSize]
  have notEmpty : frame.encode ≠ [] := List.ne_nil_of_length_pos long
  have begun : ((Action.takeToken side frame).apply self mux).objects = mux.objects := by
    simp [Action.apply, Action.begin, whole]
  have first := steps mux .proceed .check .nothing .acquire rfl
    (by simp [planWriteFrame, Nat.not_lt.mpr small])
  have second := steps mux .proceed .acquire (.takeToken side frame) (.writing frame.encode) rfl
    (by simp [planWriteFrame, token])
  have third := steps ((Action.takeToken side frame).apply self mux)
    (.wrote frame.encode.length) (.writing frame.encode) (.writeBytes side frame.encode)
    (.writing []) begun (by
      simp [planWriteFrame, Action.apply, Action.begin, whole, notEmpty, frameHeaderSize])
  have fourth := steps ((Action.writeBytes side frame.encode).apply self
      ((Action.takeToken side frame).apply self mux)) .proceed (.writing []) .nothing
    (.release none) (by simp [Action.apply, Action.begin, whole]) (by simp [planWriteFrame])
  have fifth := steps ((Action.writeBytes side frame.encode).apply self
      ((Action.takeToken side frame).apply self mux)) .proceed (.release none) (.giveToken side)
    (.returned none) (by simp [Action.apply, Action.begin, whole]) (by simp [planWriteFrame])
  rw [alone_plan first]
  change program.alone self mux _ _ = _
  rw [alone_plan second, alone_plan third, alone_plan fourth]
  change program.alone self ((Action.writeBytes side frame.encode).apply self
    ((Action.takeToken side frame).apply self mux)) _ _ = _
  rw [alone_plan fifth]
  rfl

def openActions (side : End) (id : UInt32) : List Action :=
  .drawID side :: .addStream side id :: writeFrameActions side (openFrame id)

theorem openStream_alone (self : Nat) {mux : Mux} {side : End} {id : UInt32}
    (next : (mux.session side).nextID = id)
    (room : (mux.session side).streams.length < maxStreams)
    (token : (mux.session side).writeToken = none) (whole : (mux.wire side).broken = false) :
    program.alone self mux (.openStream side .drawID)
        [.proceed, .proceed, .proceed, .proceed, .wrote (openFrame id).encode.length, .proceed,
          .proceed] =
      some (Action.applyAll self mux (openActions side id),
        .openStream side (.returned (.ok mux.objects.length))) := by
  have first : plan mux (.openStream side .drawID) .proceed =
      some (.drawID side, .openStream side (.insert id)) := by
    simp [plan, planOpenStream, next]
  have second : plan ((Action.drawID side).apply self mux) (.openStream side (.insert id))
      .proceed = some (.addStream side id,
        .openStream side (.write id mux.objects.length .check)) := by
    simp [plan, planOpenStream, Action.apply, Nat.not_le.mpr room]
  rw [alone_plan first, alone_plan second]
  refine writeFrame_alone self true false (fun point => .openStream side (resumeOpen id mux.objects.length
    point)) ?_ (Nat.zero_le _) ?_ ?_
  · intro middle choice point action after _ planned
    cases point with
    | returned => cases planned
    | _ => simp [plan, planOpenStream, resumeOpen, planned]
  · simp [Action.apply, token]
  · simp [Action.apply, whole]

def readOpenActions (side : End) (id : UInt32) (ref : Nat) : List Action :=
  [.takeHeader side false, .addStream side id, .pushAccept side ref]

theorem dispatch_open {side : End} {id : UInt32} (notZero : id ≠ 0)
    (owned : side.remoteOwnsID id = true) {received : Bytes}
    (arrived : received = (openFrame id).encode) :
    dispatch side (decodeHeader received) = .ok (false, .insert id) := by
  have header : decodeHeader received = (openFrame id).header := by
    rw [arrived, ← List.append_nil (openFrame id).encode]
    exact decodeHeader_encode (openFrame id) [] (Nat.zero_le _)
  rw [header]
  simp [dispatch, Frame.header, openFrame, notZero, owned]

theorem readOpen_alone (self : Nat) {mux : Mux} {side : End} {id : UInt32} (notZero : id ≠ 0)
    (owned : side.remoteOwnsID id = true)
    (arrived : (mux.wire side.other).bytes = (openFrame id).encode)
    (new : mux.getStream side id = none)
    (room : (mux.session side).streams.length < maxStreams)
    (queue : (mux.session side).acceptCh.length < acceptQueueSize) :
    program.alone self mux (.readLoop side .readHeader) [.proceed, .proceed, .proceed] =
      some (Action.applyAll self mux (readOpenActions side id mux.objects.length),
        .readLoop side .readHeader) := by
  have first : plan mux (.readLoop side .readHeader) .proceed =
      some (.takeHeader side false, .readLoop side (.insert id)) := by
    have long : ¬ (mux.wire side.other).bytes.length < frameHeaderSize := by
      simp [arrived, openFrame]
    simp [plan, planReadLoop, dispatch_open notZero owned arrived, long]
  have second : plan ((Action.takeHeader side false).apply self mux)
      (.readLoop side (.insert id)) .proceed =
        some (.addStream side id, .readLoop side (.sendAccept mux.objects.length)) := by
    have sessions : ((Action.takeHeader side false).apply self mux).session = mux.session := by
      simp [Action.apply]
    have absent : (mux.session side).streams.lookup id = none := new
    simp [plan, planReadLoop, Mux.getStream, sessions, absent, Nat.not_le.mpr room]
    simp [Action.apply]
  have third : plan ((Action.addStream side id).apply self
      ((Action.takeHeader side false).apply self mux))
      (.readLoop side (.sendAccept mux.objects.length)) .proceed =
        some (.pushAccept side mux.objects.length, .readLoop side .readHeader) := by
    simp [plan, planReadLoop, Action.apply, queue]
  rw [alone_plan first, alone_plan second, alone_plan third]
  rfl

theorem readOpen_full (self : Nat) {mux : Mux} {side : End} {id : UInt32} (notZero : id ≠ 0)
    (owned : side.remoteOwnsID id = true)
    (arrived : (mux.wire side.other).bytes = (openFrame id).encode)
    (new : mux.getStream side id = none)
    (full : maxStreams ≤ (mux.session side).streams.length) :
    program.alone self mux (.readLoop side .readHeader) [.proceed, .proceed] =
      some ((Action.takeHeader side false).apply self mux,
        .readLoop side (stopping (.frameCheck .streamLimit))) := by
  have first : plan mux (.readLoop side .readHeader) .proceed =
      some (.takeHeader side false, .readLoop side (.insert id)) := by
    have long : ¬ (mux.wire side.other).bytes.length < frameHeaderSize := by
      simp [arrived, openFrame]
    simp [plan, planReadLoop, dispatch_open notZero owned arrived, long]
  have second : plan ((Action.takeHeader side false).apply self mux)
      (.readLoop side (.insert id)) .proceed =
        some (.nothing, .readLoop side (stopping (.frameCheck .streamLimit))) := by
    have sessions : ((Action.takeHeader side false).apply self mux).session = mux.session := by
      simp [Action.apply]
    have absent : (mux.session side).streams.lookup id = none := new
    simp [plan, planReadLoop, Mux.getStream, sessions, absent, full]
  rw [alone_plan first, alone_plan second]
  rfl

theorem acceptStream_alone (self : Nat) {mux : Mux} {side : End} {ref : Nat} {rest : List Nat}
    (waiting : (mux.session side).acceptCh = ref :: rest) :
    program.alone self mux (.acceptStream side .select) [.proceed] =
      some ((Action.popAccept side).apply self mux, .acceptStream side (.returned (.ok ref))) := by
  have only : plan mux (.acceptStream side .select) .proceed =
      some (.popAccept side, .acceptStream side (.returned (.ok ref))) := by
    simp [plan, planAcceptStream, waiting]
  rw [alone_plan only]
  rfl

end Rdpulse.TLSMux
