import Rdpulse.TLSMux.Table

namespace Rdpulse.TLSMux

open Foundation

/-! Stream objects: how the actions change them, which id an object has at its
end, and which frames concern it. -/

/-! ## Objects -/

def Action.onObject (ref : Nat) (stream : MuxStream) : Action → MuxStream
  | .pushIncoming target payload =>
      if target = ref then { stream with incoming := stream.incoming ++ [payload] } else stream
  | .popIncoming target =>
      if target = ref then
        { stream with current := stream.incoming.headD [], incoming := stream.incoming.tail }
      else stream
  | .consume target count =>
      if target = ref then
        { stream with
          current := stream.current.drop count
          readOut := stream.readOut ++ stream.current.take count }
      else stream
  | .setOnce target once => if target = ref then { stream with localOnce := once } else stream
  | .closeLocal target => if target = ref then { stream with localDone := true } else stream
  | .closeLocalOnce target =>
      if target = ref then { stream with localDone := true, localOnce := .finished } else stream
  | .closeRemote target => if target = ref then { stream with remoteDone := true } else stream
  | .setDeadlines target read write =>
      if target = ref then { stream with readDeadline := read, writeDeadline := write }
      else stream
  | _ => stream

theorem apply_objects (self : Nat) {mux : Mux} (action : Action) {ref : Nat}
    {stream : MuxStream} (present : mux.objects[ref]? = some stream) :
    (action.apply self mux).objects[ref]? = some (action.onObject ref stream) := by
  have bound := (List.getElem?_eq_some_iff.mp present).1
  cases action with
  | addStream side id =>
      simp only [Action.apply, Action.onObject]
      rw [List.getElem?_append_left bound]
      exact present
  | takeToken side frame =>
      simp only [Action.apply, Action.begin, Action.onObject]
      split <;> simpa using present
  | pushIncoming target payload | popIncoming target | consume target count
  | setOnce target once | closeLocal target | closeLocalOnce target | closeRemote target
  | setDeadlines target read write =>
      simp only [Action.apply, Mux.modifyObject_objects, List.getElem?_modify, present]
      by_cases same : target = ref <;> simp [same, Action.onObject]
  | _ => simpa [Action.apply, Action.onObject] using present

@[simp] theorem onObject_session (ref : Nat) (stream : MuxStream) (action : Action) :
    (action.onObject ref stream).session = stream.session := by
  cases action <;> simp only [Action.onObject] <;> split <;> rfl

@[simp] theorem onObject_id (ref : Nat) (stream : MuxStream) (action : Action) :
    (action.onObject ref stream).id = stream.id := by
  cases action <;> simp only [Action.onObject] <;> split <;> rfl

theorem onObject_localDone {ref : Nat} {stream : MuxStream} (action : Action)
    (done : stream.localDone = true) : (action.onObject ref stream).localDone = true := by
  cases action <;> simp only [Action.onObject] <;> (try split) <;> first | exact done | rfl

theorem apply_objects_length (self : Nat) (mux : Mux) (action : Action) :
    (action.apply self mux).objects.length = mux.objects.length ∨
      ∃ side id, action = .addStream side id ∧
        (action.apply self mux).objects = mux.objects ++ [newMuxStream side id] := by
  cases action with
  | addStream side id => exact .inr ⟨side, id, rfl, rfl⟩
  | takeToken side frame =>
      refine .inl ?_
      simp only [Action.apply, Action.begin]
      split <;> simp
  | _ => exact .inl (by simp [Action.apply])

theorem apply_objects_cases (self : Nat) {mux : Mux} {action : Action} {ref : Nat}
    {after : MuxStream} (found : (action.apply self mux).objects[ref]? = some after) :
    (∃ stream, mux.objects[ref]? = some stream ∧ after = action.onObject ref stream) ∨
      ∃ side id, action = .addStream side id ∧ ref = mux.objects.length ∧
        after = newMuxStream side id := by
  cases present : mux.objects[ref]? with
  | some stream =>
      rw [apply_objects self action present] at found
      cases found
      exact .inl ⟨stream, rfl, rfl⟩
  | none =>
      have beyond : mux.objects.length ≤ ref := List.getElem?_eq_none_iff.mp present
      rcases apply_objects_length self mux action with same | ⟨side, id, rfl, added⟩
      · rw [List.getElem?_eq_none (by rw [same]; exact beyond)] at found
        cases found
      · have bound := (List.getElem?_eq_some_iff.mp found).1
        rw [added, List.length_append, List.length_singleton] at bound
        have last : ref = mux.objects.length := by omega
        subst last
        rw [added] at found
        simp only [List.getElem?_concat_length, Option.some.injEq] at found
        exact .inr ⟨side, id, rfl, rfl, found.symm⟩

def Mux.Names (mux : Mux) (ref : Nat) (side : End) (id : UInt32) : Prop :=
  ∃ stream, mux.objects[ref]? = some stream ∧ stream.session = side ∧ stream.id = id

theorem Mux.Names.apply (self : Nat) {mux : Mux} (action : Action) {ref : Nat} {side : End}
    {id : UInt32} (names : mux.Names ref side id) :
    (action.apply self mux).Names ref side id := by
  rcases names with ⟨stream, present, session, same⟩
  exact ⟨_, apply_objects self action present, by simpa using session, by simpa using same⟩

theorem Mux.Names.of_apply (self : Nat) {mux : Mux} {action : Action} {ref : Nat} {side : End}
    {id : UInt32} (names : (action.apply self mux).Names ref side id) :
    mux.Names ref side id ∨ action = .addStream side id ∧ ref = mux.objects.length := by
  rcases names with ⟨after, found, session, same⟩
  rcases apply_objects_cases self found with ⟨stream, present, rfl⟩ | ⟨one, other, rfl, rfl, rfl⟩
  · exact .inl ⟨stream, present, by simpa using session, by simpa using same⟩
  · cases session
    cases same
    exact .inr ⟨rfl, rfl⟩

theorem Mux.Names.added (self : Nat) (mux : Mux) (side : End) (id : UInt32) :
    ((Action.addStream side id).apply self mux).Names mux.objects.length side id :=
  ⟨newMuxStream side id, by simp [Action.apply], rfl, rfl⟩

theorem Mux.Names.functional {mux : Mux} {ref : Nat} {one other : End} {id next : UInt32}
    (first : mux.Names ref one id) (second : mux.Names ref other next) :
    one = other ∧ id = next := by
  rcases first with ⟨stream, present, session, same⟩
  rcases second with ⟨again, found, theirs, equal⟩
  rw [present] at found
  cases found
  exact ⟨session.symm.trans theirs, same.symm.trans equal⟩

/-! ## Frames of a stream -/

def Frame.Concerns (frame : Frame) (id : UInt32) : Prop :=
  (frame.frameType = frameData ∨ frame.frameType = frameClose) ∧ frame.streamID = id

theorem writes_concerns {mux : Mux} {thread : Thread} {side : End} {frame : Frame}
    {point : WriteFramePoint} {id : UInt32}
    (writing : writes mux thread = some (side, frame, point)) (concerns : frame.Concerns id) :
    ∃ ref, mux.Names ref side id ∧
      ((∃ data total chunk rest deadline,
          thread = .write ref data (.write total chunk rest deadline point) ∧
            frame = dataFrame id chunk) ∨
        thread = .close ref (.write point) ∧ frame = closeFrame id) := by
  cases thread with
  | openStream one inner =>
      cases inner with
      | write opening ref last =>
          cases writing
          simp [Frame.Concerns, openFrame, frameOpen, frameData, frameClose] at concerns
      | _ => cases writing
  | sendDatagram one payload inner =>
      cases inner with
      | write last =>
          cases writing
          simp [Frame.Concerns, datagramFrame, frameDatagram, frameData, frameClose] at concerns
      | _ => cases writing
  | write ref data inner =>
      cases inner with
      | write total chunk rest deadline last =>
          simp only [writes, Option.map_eq_some_iff] at writing
          rcases writing with ⟨stream, present, equal⟩
          cases equal
          cases concerns.2
          exact ⟨ref, ⟨stream, present, rfl, rfl⟩,
            .inl ⟨data, total, chunk, rest, deadline, rfl, rfl⟩⟩
      | _ => cases writing
  | close ref inner =>
      cases inner with
      | write last =>
          simp only [writes, Option.map_eq_some_iff] at writing
          rcases writing with ⟨stream, present, equal⟩
          cases equal
          cases concerns.2
          exact ⟨ref, ⟨stream, present, rfl, rfl⟩, .inr ⟨rfl, rfl⟩⟩
      | _ => cases writing
  | _ => cases writing

/-! ## What never goes back -/

structure Grows (mux moved : Mux) : Prop where
  read : ∀ side, (mux.link side).read <+: (moved.link side).read
  begun : ∀ side, (mux.link side).begun <+: (moved.link side).begun
  drawn : ∀ side, (mux.opener side).drawn <+: (moved.opener side).drawn
  broken : ∀ side, (mux.link side).broken = true → (moved.link side).broken = true
  names : ∀ {ref side id}, mux.Names ref side id → moved.Names ref side id

theorem LinkStep.begun_grows {holder : Nat} {reads : Prop} {link moved : Link}
    (step : LinkStep holder reads link moved) : link.begun <+: moved.begun := by
  cases step with
  | begin frame _ _ =>
      unfold Link.takeToken
      split
      · exact List.prefix_rfl
      · exact List.prefix_append _ _
  | _ => exact List.prefix_rfl

theorem LinkStep.stays_broken {holder : Nat} {reads : Prop} {link moved : Link}
    (step : LinkStep holder reads link moved) (broken : link.broken = true) :
    moved.broken = true := by
  cases step with
  | begin frame _ _ =>
      simp [Link.takeToken, broken]
  | «break» => rfl
  | _ => exact broken

theorem Opener.Step.drawn_grows {side : End} {holder : Nat} {opener moved : Opener}
    (step : Opener.Step side holder opener moved) : opener.drawn <+: moved.drawn := by
  cases step with
  | draw => exact List.prefix_append _ _
  | _ => exact List.prefix_rfl

end Rdpulse.TLSMux
