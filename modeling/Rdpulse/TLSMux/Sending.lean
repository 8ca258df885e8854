import Rdpulse.TLSMux.Streams

namespace Rdpulse.TLSMux

open Foundation

/-! The sending half of a stream: what `Write` counts as written has been begun
as DATA frames, and no DATA frame follows the CLOSE frame as long as the
application has every `Write` return before it calls `Close`. -/

/-! ## Payloads -/

def Frame.isData (frame : Frame) (id : UInt32) : Bool :=
  frame.frameType = frameData && frame.streamID = id

def payloads (id : UInt32) (frames : List Frame) : List Bytes :=
  (frames.filter fun frame => frame.isData id).map Frame.payload

@[simp] theorem payloads_nil (id : UInt32) : payloads id [] = [] := rfl

@[simp] theorem payloads_append (id : UInt32) (before after : List Frame) :
    payloads id (before ++ after) = payloads id before ++ payloads id after := by
  simp [payloads]

@[simp] theorem payloads_dataFrame (id : UInt32) (payload : Bytes) :
    payloads id [dataFrame id payload] = [payload] := by
  simp [payloads, Frame.isData, dataFrame]

theorem payloads_other {id : UInt32} {frame : Frame} (other : frame.isData id = false) :
    payloads id [frame] = [] := by
  simp [payloads, other]

theorem payloads_eq_nil {id : UInt32} {frames : List Frame}
    (none : ∀ frame ∈ frames, frame.isData id = false) : payloads id frames = [] := by
  simp only [payloads, List.map_eq_nil_iff, List.filter_eq_nil_iff]
  intro frame member
  simp [none frame member]

theorem Frame.concerns_of_isData {frame : Frame} {id : UInt32} (isData : frame.isData id = true) :
    frame.Concerns id := by
  simp only [Frame.isData, Bool.and_eq_true, decide_eq_true_eq] at isData
  exact ⟨.inl isData.1, isData.2⟩

theorem closeFrame_concerns (id : UInt32) : (closeFrame id).Concerns id := ⟨.inr rfl, rfl⟩

theorem closeFrame_isData (one id : UInt32) : (closeFrame one).isData id = false := by
  simp [Frame.isData, closeFrame, frameClose, frameData]

/-! ## The order of calls -/

def WritePoint.isReturned : WritePoint → Bool
  | .returned _ _ => true
  | _ => false

def Thread.writing (ref : Nat) : Thread → Bool
  | .write target _ point => target = ref && !point.isReturned
  | _ => false

/-- Every `Write` on the stream `id` of this end returns before its `Close`. -/
def WritesBeforeClose (sender : End) (id : UInt32) (pool : MuxPool) :
    PoolEvent Thread Choice → Prop
  | .spawn (.write ref _ _) =>
      match pool.shared.objects[ref]? with
      | some stream => stream.session = sender → stream.id = id → stream.localOnce = .idle
      | none => True
  | .spawn _ => True
  | .advance self _ =>
      match pool.threads[self]? with
      | some (.close ref .once) =>
          match pool.shared.objects[ref]? with
          | some stream =>
              stream.session = sender → stream.id = id → stream.localOnce = .idle →
                ∀ thread ∈ pool.threads, thread.writing ref = false
          | none => True
      | _ => True

instance (sender : End) (id : UInt32) (pool : MuxPool) (event : PoolEvent Thread Choice) :
    Decidable (WritesBeforeClose sender id pool event) := by
  rcases event with thread | ⟨self, _⟩
  · rcases thread <;> try exact .isTrue trivial
    rename_i ref _ _
    dsimp only [WritesBeforeClose]
    rcases pool.shared.objects[ref]? with _ | stream <;> infer_instance
  · dsimp only [WritesBeforeClose]
    generalize pool.threads[self]? = found
    casesm* Option Thread, Thread, ClosePoint <;> try exact .isTrue trivial
    rename_i ref
    dsimp only
    rcases pool.shared.objects[ref]? with _ | stream <;> infer_instance

/-! ## The outline of the sender -/

def ChunkBegun (link : Link) (id : UInt32) (chunks : List Bytes) (chunk : Bytes) :
    WriteFramePoint → Prop
  | .writing left =>
      (chunks ++ [chunk]).Sublist (payloads id link.begun) ∨ link.broken = true ∧ left ≠ []
  | .release none => (chunks ++ [chunk]).Sublist (payloads id link.begun)
  | _ => True

/-- What `Write` counts has been begun, chunk by chunk and in order. -/
def WrittenKnown (link : Link) (id : UInt32) (data : Bytes) : WritePoint → Prop
  | .start => True
  | .loop total rest =>
      ∃ chunks : List Bytes, chunks.flatten ++ rest = data ∧ chunks.flatten.length = total ∧
        chunks.Sublist (payloads id link.begun)
  | .write total chunk rest _ point =>
      ∃ chunks : List Bytes, chunks.flatten ++ (chunk ++ rest) = data ∧
        chunks.flatten.length = total ∧ chunks.Sublist (payloads id link.begun) ∧
        ChunkBegun link id chunks chunk point
  | .returned total err =>
      (∃ chunks : List Bytes, chunks.flatten = data.take total ∧
        chunks.Sublist (payloads id link.begun)) ∧ (err = none → total = data.length)

def ClosePoint.isRunning : ClosePoint → Bool
  | .once | .returned => false
  | _ => true

def SendKnown (sender : End) (id : UInt32) (mux : Mux) : Thread → Prop
  | .write ref data point =>
      ∀ stream, mux.objects[ref]? = some stream → stream.session = sender → stream.id = id →
        (point.isReturned = false → stream.localOnce = .idle) ∧
          WrittenKnown (mux.link sender) id data point
  | .close ref point => point.isRunning = true →
      ∀ stream, mux.objects[ref]? = some stream → stream.localOnce ≠ .idle
  | _ => True

structure SendSound (sender : End) (id : UInt32) (mux : Mux) : Prop where
  named : ∀ frame ∈ (mux.link sender).begun, frame.Concerns id → ∃ ref, mux.Names ref sender id
  closing : closeFrame id ∈ (mux.link sender).begun → ∀ (ref : Nat) (stream : MuxStream),
    mux.objects[ref]? = some stream → stream.session = sender → stream.id = id →
      stream.localOnce ≠ .idle
  silent : ∀ count, closeFrame id ∈ (mux.link sender).begun.take count →
    payloads id ((mux.link sender).begun.drop count) = []

def sendOutline (sender : End) (id : UInt32) : Program.Outline Mux Thread where
  global pool := SendSound sender id pool.shared
  assertion _ pool thread := SendKnown sender id pool.shared thread

/-! ## Steps -/

section Steps

variable {sender : End} {id : UInt32} {self : Nat} {pool : MuxPool} {thread next : Thread}
  {choice : Choice} {action : Action}

theorem localOnce_cases (ref : Nat) (stream : MuxStream)
    (planned : plan pool.shared thread choice = some (action, next)) :
    (action.onObject ref stream).localOnce = stream.localOnce ∨
      ((action.onObject ref stream).localOnce ≠ .idle ∧
        (thread = .close ref .once ∨ thread = .close ref .finish ∨
          ∃ side err, thread = .openStream side (.closeLocal ref err))) := by
  have taken := plan_takenBy planned
  cases action with
  | setOnce target once =>
      simp only [Action.onObject]
      split
      · rename_i same
        subst same
        rcases taken with ⟨rfl, rfl⟩ | ⟨rfl, rfl⟩
        · exact .inr ⟨by simp, .inl rfl⟩
        · exact .inr ⟨by simp, .inr (.inl rfl)⟩
      · exact .inl rfl
  | closeLocalOnce target =>
      simp only [Action.onObject]
      split
      · rename_i same
        subst same
        exact .inr ⟨by simp, .inr (.inr taken)⟩
      · exact .inl rfl
  | _ =>
      refine .inl ?_
      simp only [Action.onObject]
      try (split <;> rfl)

theorem notIdle_step {ref : Nat} {stream : MuxStream}
    (planned : plan pool.shared thread choice = some (action, next))
    (begun : stream.localOnce ≠ .idle) : (action.onObject ref stream).localOnce ≠ .idle := by
  rcases localOnce_cases ref stream planned with same | ⟨notIdle, _⟩
  · rw [same]
    exact begun
  · exact notIdle

theorem idle_step {other ref : Nat} {data : Bytes} {point : WritePoint} {stream : MuxStream}
    (streams : streamOutline.Holds pool) (holds : (sendOutline sender id).Holds pool)
    (ordered : WritesBeforeClose sender id pool (.advance self choice))
    (present : pool.threads[self]? = some thread)
    (planned : plan pool.shared thread choice = some (action, next))
    (writing : pool.threads[other]? = some (.write ref data point))
    (running : point.isReturned = false) (found : pool.shared.objects[ref]? = some stream)
    (session : stream.session = sender) (same : stream.id = id)
    (idle : stream.localOnce = .idle) : (action.onObject ref stream).localOnce = .idle := by
  rcases localOnce_cases ref stream planned with unchanged | ⟨_, rfl | rfl | ⟨side, err, rfl⟩⟩
  · rw [unchanged]
    exact idle
  · simp only [WritesBeforeClose, present, found] at ordered
    have stopped := ordered session same idle _ (List.mem_of_getElem? writing)
    simp [Thread.writing, running] at stopped
  · exact absurd idle (holds.thread self _ present rfl stream found)
  · exact absurd present fun failing =>
      granted_not_failing streams (streams.thread other _ writing) failing

theorem payloads_grows {before after : List Frame} (longer : before <+: after) :
    (payloads id before).Sublist (payloads id after) := by
  rcases longer with ⟨rest, rfl⟩
  rw [payloads_append]
  exact List.sublist_append_left _ _

theorem ChunkBegun.grows {link moved : Link} {chunks : List Bytes} {chunk : Bytes}
    {point : WriteFramePoint} (known : ChunkBegun link id chunks chunk point)
    (longer : link.begun <+: moved.begun)
    (broken : link.broken = true → moved.broken = true) :
    ChunkBegun moved id chunks chunk point := by
  have kept : (payloads id link.begun).Sublist (payloads id moved.begun) := payloads_grows longer
  cases point with
  | writing left =>
      rcases known with begun | ⟨stopped, left⟩
      · exact .inl (begun.trans kept)
      · exact .inr ⟨broken stopped, left⟩
  | release err =>
      cases err with
      | none => exact List.Sublist.trans known kept
      | some => trivial
  | _ => trivial

theorem WrittenKnown.grows {link moved : Link} {data : Bytes} {point : WritePoint}
    (known : WrittenKnown link id data point) (longer : link.begun <+: moved.begun)
    (broken : link.broken = true → moved.broken = true) : WrittenKnown moved id data point := by
  have kept : (payloads id link.begun).Sublist (payloads id moved.begun) := payloads_grows longer
  cases point with
  | start => trivial
  | loop total rest =>
      rcases known with ⟨chunks, whole, count, begun⟩
      exact ⟨chunks, whole, count, begun.trans kept⟩
  | write total chunk rest deadline point =>
      rcases known with ⟨chunks, whole, count, begun, started⟩
      exact ⟨chunks, whole, count, begun.trans kept, started.grows longer broken⟩
  | returned total err =>
      rcases known with ⟨⟨chunks, whole, begun⟩, complete⟩
      exact ⟨⟨chunks, whole, begun.trans kept⟩, complete⟩

theorem written_step {mux : Mux} {stream : MuxStream} {data : Bytes} {point after : WritePoint}
    (grows : Grows mux (action.apply self mux))
    (known : WrittenKnown (mux.link stream.session) stream.id data point)
    (planned : planWrite mux stream data choice point = some (action, after)) :
    WrittenKnown ((action.apply self mux).link stream.session) stream.id data after := by
  cases point with
  | start =>
      simp only [planWrite] at planned
      repeat' split at planned
      all_goals cases planned
      · exact ⟨⟨[], by simp, List.nil_sublist _⟩, by simp⟩
      · exact ⟨⟨[], by simp, List.nil_sublist _⟩, by simp⟩
      · exact ⟨[], by simp, rfl, List.nil_sublist _⟩
  | loop total rest =>
      rcases known with ⟨chunks, whole, count, begun⟩
      simp only [planWrite] at planned
      split at planned
      · rename_i finished
        cases planned
        subst finished
        rw [List.append_nil] at whole
        subst whole
        refine ⟨⟨chunks, ?_, begun⟩, fun _ => count.symm⟩
        rw [← count, List.take_length]
      · cases planned
        exact ⟨chunks, by rw [List.take_append_drop]; exact whole, count, begun, trivial⟩
  | write total chunk rest deadline point =>
      rcases known with ⟨chunks, whole, count, begun, started⟩
      simp only [planWrite, Option.map_eq_some_iff] at planned
      rcases planned with ⟨⟨written, last⟩, inner, equal⟩
      cases equal
      have kept : (payloads stream.id (mux.link stream.session).begun).Sublist
          (payloads stream.id ((written.apply self mux).link stream.session).begun) :=
        payloads_grows (grows.begun stream.session)
      have still := started.grows (grows.begun stream.session) (grows.broken stream.session)
      have longer := begun.trans kept
      rcases planWriteFrame_cases inner with
        ⟨rfl, early, ⟨rfl, _⟩ | ⟨err, rfl⟩⟩ | ⟨rfl, rfl, rfl, _⟩ |
          ⟨left, sent, rfl, rfl, rfl, intact, _⟩ | ⟨rfl, rfl, rfl⟩ | ⟨_, rfl, rfl, _, rfl⟩ |
          ⟨err, rfl, rfl, rfl⟩
      · exact ⟨chunks, whole, count, longer, trivial⟩
      · refine ⟨⟨chunks, ?_, longer⟩, by simp⟩
        rw [← whole, ← count, List.take_left]
      · refine ⟨chunks, whole, count, longer, ?_⟩
        change ChunkBegun _ _ _ _ (.writing _)
        rw [apply_link]
        simp only [Action.onLink, if_true, Link.takeToken]
        split
        · rename_i broken
          exact .inr ⟨broken, by simp [Frame.encode, Frame.encodeHeader]⟩
        · refine .inl ?_
          rw [payloads_append, payloads_dataFrame]
          exact begun.append (List.Sublist.refl _)
      · refine ⟨chunks, whole, count, longer, ?_⟩
        rcases started with all | ⟨broken, _⟩
        · exact .inl (all.trans kept)
        · have whole_ : (mux.link stream.session).broken = false := intact
          rw [whole_] at broken
          cases broken
      · refine ⟨chunks, whole, count, longer, ?_⟩
        rcases still with all | ⟨_, left⟩
        · exact all
        · exact absurd rfl left
      · exact ⟨chunks, whole, count, longer, trivial⟩
      · cases err with
        | none =>
            refine ⟨chunks ++ [chunk], ?_, ?_, still⟩
            · simpa [List.append_assoc] using whole
            · simp [← count]
        | some =>
            refine ⟨⟨chunks, ?_, longer⟩, by simp⟩
            rw [← whole, ← count, List.take_left]
  | returned => cases planned

/-- A DATA frame is begun only while its stream has not been closed. -/
theorem data_before_close (holds : (sendOutline sender id).Holds pool)
    (present : pool.threads[self]? = some thread) {frame : Frame}
    (planned : plan pool.shared thread choice = some (.takeToken sender frame, next))
    (closed : closeFrame id ∈ (pool.shared.link sender).begun) : frame.isData id = false := by
  cases isData : frame.isData id with
  | false => rfl
  | true =>
      have concerns := Frame.concerns_of_isData isData
      rcases writes_concerns (plan_takeToken planned) concerns with
        ⟨ref, ⟨stream, found, session, same⟩, ⟨_, _, _, _, _, rfl, _⟩ | ⟨_, rfl⟩⟩
      · have idle := (holds.thread self _ present stream found session same).1 rfl
        exact absurd idle (SendSound.closing holds.global closed ref stream found session same)
      · rw [closeFrame_isData] at isData
        cases isData

theorem silent_step (holds : (sendOutline sender id).Holds pool)
    (present : pool.threads[self]? = some thread)
    (planned : plan pool.shared thread choice = some (action, next)) (count : Nat)
    (closed : closeFrame id ∈ ((action.apply self pool.shared).link sender).begun.take count) :
    payloads id (((action.apply self pool.shared).link sender).begun.drop count) = [] := by
  have silent := SendSound.silent holds.global
  rcases begun_cases self pool.shared action sender with same | ⟨frame, rfl, longer⟩
  · rw [same] at closed ⊢
    exact silent count closed
  · rw [longer] at closed ⊢
    rcases Nat.lt_or_ge (pool.shared.link sender).begun.length count with beyond | within
    · rw [List.drop_of_length_le (by rw [List.length_append, List.length_singleton]; omega)]
      rfl
    · rw [List.take_append_of_le_length within] at closed
      have other := data_before_close holds present planned (List.mem_of_mem_take closed)
      rw [List.drop_append_of_le_length within, payloads_append, silent count closed,
        payloads_other other, List.append_nil]

theorem named_step
    (named : ∀ frame ∈ (pool.shared.link sender).begun, frame.Concerns id →
      ∃ ref, pool.shared.Names ref sender id)
    (planned : plan pool.shared thread choice = some (action, next)) :
    ∀ frame ∈ ((action.apply self pool.shared).link sender).begun, frame.Concerns id →
      ∃ ref, (action.apply self pool.shared).Names ref sender id := by
  intro frame member concerns
  have old : frame ∈ (pool.shared.link sender).begun →
      ∃ ref, (action.apply self pool.shared).Names ref sender id := by
    intro before
    rcases named frame before concerns with ⟨ref, names⟩
    exact ⟨ref, names.apply self action⟩
  rcases begun_cases self pool.shared action sender with unchanged | ⟨written, rfl, longer⟩
  · rw [unchanged] at member
    exact old member
  · rw [longer, List.mem_append, List.mem_singleton] at member
    rcases member with before | rfl
    · exact old before
    · rcases writes_concerns (plan_takeToken planned) concerns with ⟨ref, names, _⟩
      exact ⟨ref, names.apply self _⟩

theorem closing_step (streams : streamOutline.Holds pool) (tables : tableOutline.Holds pool)
    (named : ∀ frame ∈ (pool.shared.link sender).begun, frame.Concerns id →
      ∃ ref, pool.shared.Names ref sender id)
    (closing : closeFrame id ∈ (pool.shared.link sender).begun →
      ∀ (ref : Nat) (stream : MuxStream), pool.shared.objects[ref]? = some stream →
        stream.session = sender → stream.id = id → stream.localOnce ≠ .idle)
    (called : ∀ ref point, thread = .close ref point → point.isRunning = true →
      ∀ stream, pool.shared.objects[ref]? = some stream → stream.localOnce ≠ .idle)
    (present : pool.threads[self]? = some thread)
    (planned : plan pool.shared thread choice = some (action, next))
    (closed : closeFrame id ∈ ((action.apply self pool.shared).link sender).begun) (ref : Nat)
    (moved : MuxStream) (found : (action.apply self pool.shared).objects[ref]? = some moved)
    (session : moved.session = sender) (same : moved.id = id) : moved.localOnce ≠ .idle := by
  have old : ∀ target, pool.shared.Names target sender id →
      (∀ stream, pool.shared.objects[target]? = some stream → stream.localOnce ≠ .idle) →
      moved.localOnce ≠ .idle := by
    intro target names begun
    rcases apply_objects_cases self found with ⟨stream, before, rfl⟩ | ⟨side, one, rfl, _, rfl⟩
    · simp only [onObject_session, onObject_id] at session same
      have unique := (StreamsKnown.sound streams.global sender).unique names
        ⟨stream, before, session, same⟩
      subst unique
      exact notIdle_step planned (begun stream before)
    · cases session
      cases same
      exact absurd names ((added_known (streams.thread self thread present)
        (tables.thread self thread present) planned).1 target)
  have before (already : closeFrame id ∈ (pool.shared.link sender).begun) :
      moved.localOnce ≠ .idle := by
    rcases named _ already (closeFrame_concerns id) with ⟨target, names⟩
    refine old target names fun stream before => ?_
    rcases names with ⟨again, also, theirs, equal⟩
    rw [before] at also
    cases also
    exact closing already target stream before theirs equal
  rcases begun_cases self pool.shared action sender with unchanged | ⟨frame, rfl, longer⟩
  · rw [unchanged] at closed
    exact before closed
  · rw [longer, List.mem_append, List.mem_singleton] at closed
    rcases closed with already | rfl
    · exact before already
    · rcases writes_concerns (plan_takeToken planned) (closeFrame_concerns id) with
        ⟨target, names, ⟨_, _, _, _, _, _, data⟩ | ⟨rfl, _⟩⟩
      · have wrong := congrArg Frame.frameType data
        simp [closeFrame, dataFrame, frameClose, frameData] at wrong
      · exact old target names fun stream before => called _ _ rfl rfl stream before

theorem sendSound_step (streams : streamOutline.Holds pool) (tables : tableOutline.Holds pool)
    (holds : (sendOutline sender id).Holds pool) (present : pool.threads[self]? = some thread)
    (planned : plan pool.shared thread choice = some (action, next)) :
    SendSound sender id (action.apply self pool.shared) := by
  refine ⟨named_step (SendSound.named holds.global) planned,
    closing_step streams tables (SendSound.named holds.global) (SendSound.closing holds.global) ?_
      present planned,
    silent_step holds present planned⟩
  rintro ref point rfl
  exact holds.thread self _ present

theorem running_step {ref : Nat} {stream : MuxStream} {point after : ClosePoint}
    (known : point.isRunning = true → stream.localOnce ≠ .idle)
    (planned : plan pool.shared (.close ref point) choice = some (action, .close ref after))
    (found : pool.shared.objects[ref]? = some stream) (running : after.isRunning = true) :
    (action.onObject ref stream).localOnce ≠ .idle := by
  cases before : point.isRunning with
  | true => exact notIdle_step planned (known before)
  | false =>
      rcases plan_close planned with ⟨_, again, equal, also, inner⟩
      cases equal
      rw [found] at also
      cases also
      cases point with
      | once =>
          simp only [planClose] at inner
          split at inner <;> cases inner
          · simp [Action.onObject]
          · cases running
      | returned => cases inner
      | _ => cases before

theorem sendKnown_step {other : Nat} {bystander : Thread} (formed : WellFormed pool)
    (used : WellUsed pool (.advance self choice))
    (ordered : WritesBeforeClose sender id pool (.advance self choice))
    (holds : (sendOutline sender id).Holds pool) (present : pool.threads[self]? = some thread)
    (planned : plan pool.shared thread choice = some (action, next))
    (found : pool.threads[other]? = some bystander) :
    SendKnown sender id (action.apply self pool.shared) bystander := by
  have grows := formed.grows used present planned
  have known := holds.thread other bystander found
  have older : ∀ {ref : Nat} {moved : MuxStream}, Granted pool ref →
      (action.apply self pool.shared).objects[ref]? = some moved →
      ∃ stream, pool.shared.objects[ref]? = some stream ∧ moved = action.onObject ref stream := by
    intro ref moved granted after
    rcases granted_opened formed.streams granted with ⟨_, _, ⟨stream, before, _⟩, _⟩
    rw [apply_objects self action before] at after
    cases after
    exact ⟨stream, before, rfl⟩
  cases bystander with
  | write ref data point =>
      intro moved after session same
      rcases older (formed.streams.thread other _ found) after with ⟨stream, before, rfl⟩
      simp only [onObject_session, onObject_id] at session same
      rcases known stream before session same with ⟨idle, written⟩
      exact ⟨fun running => idle_step formed.streams holds ordered present planned found running
        before session same (idle running),
        written.grows (grows.begun sender) (grows.broken sender)⟩
  | close ref point =>
      intro running moved after
      rcases older (formed.streams.thread other _ found).1 after with ⟨stream, before, rfl⟩
      exact notIdle_step planned (known running stream before)
  | _ => trivial

theorem sendOutline_valid :
    (sendOutline sender id).Valid program fun pool event =>
      WellUsed pool event ∧ WritesBeforeClose sender id pool event ∧ WellFormed pool where
  started pool thread holds enters permitted := by
    refine ⟨holds.global, ?_⟩
    cases thread with
    | write ref data point =>
        simp only [program, entry, decide_eq_true_eq] at enters
        subst enters
        intro stream found session same
        have ordered := permitted.2.1
        simp only [WritesBeforeClose] at ordered
        rw [show pool.shared.objects[ref]? = some stream from found] at ordered
        exact ⟨fun _ => ordered session same, trivial⟩
    | close ref point =>
        simp only [program, entry, decide_eq_true_eq] at enters
        subst enters
        intro wrong
        cases wrong
    | _ => trivial
  undisturbedByStart pool thread other bystander holds _ _ found :=
    holds.thread other bystander found
  sequential pool self thread choice moved next holds present permitted taken := by
    rcases permitted with ⟨used, ordered, formed⟩
    rcases step_plan taken with ⟨action, planned, rfl⟩
    refine ⟨sendSound_step formed.streams formed.tables holds present planned, ?_⟩
    have grows := formed.grows used present planned
    have known := holds.thread self thread present
    cases next with
    | write ref data after =>
        rcases plan_write planned with ⟨point, stream, rfl, found, inner⟩
        intro later arrived session same
        have moved : (action.apply self pool.shared).objects[ref]? = some later := arrived
        rw [apply_objects self action found] at moved
        cases moved
        simp only [onObject_session, onObject_id] at session same
        rcases known stream found session same with ⟨idle, written⟩
        subst session
        subst same
        refine ⟨fun running => ?_, written_step grows written inner⟩
        have before : point.isReturned = false := by
          cases point with
          | returned => cases inner
          | _ => rfl
        exact idle_step formed.streams holds ordered present planned present before found rfl rfl
          (idle before)
    | close ref after =>
        rcases plan_close planned with ⟨point, stream, rfl, found, _⟩
        intro running later arrived
        have moved : (action.apply self pool.shared).objects[ref]? = some later := arrived
        rw [apply_objects self action found] at moved
        cases moved
        exact running_step (fun before => known before stream found) planned found running
    | _ => trivial
  interferenceFree pool self thread choice moved next other bystander holds present permitted
      taken _ found := by
    rcases permitted with ⟨used, ordered, formed⟩
    rcases step_plan taken with ⟨action, planned, rfl⟩
    exact sendKnown_step formed used ordered holds present planned found

end Steps

theorem sendOutline_initial (sender : End) (id : UInt32) :
    (sendOutline sender id).Holds initialPool := by
  refine ⟨⟨(fun _ wrong => by cases wrong), (fun wrong => by cases wrong), fun count closed => ?_⟩,
    fun self thread present => ?_⟩
  · simp [initialPool, Mux.new, Mux.link] at closed
  · rcases self with _ | _ | _
    · cases present; trivial
    · cases present; trivial
    · simp [initialPool] at present

end Rdpulse.TLSMux
