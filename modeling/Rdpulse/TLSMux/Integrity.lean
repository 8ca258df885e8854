import Rdpulse.TLSMux.Sending

namespace Rdpulse.TLSMux

open Foundation

/-! # Streams keep what is written to them

What `readLoop` has read of a stream is what `Read` has returned, what is still
queued and what `readLoop` is about to queue, as long as the stream is not closed;
after that it may lack whole frames. -/

/-- What `Read` has returned and what it still has to return. -/
def MuxStream.content (stream : MuxStream) : Bytes :=
  stream.readOut ++ (stream.current ++ stream.incoming.flatten)

theorem content_push (ref : Nat) (stream : MuxStream) (payload : Bytes) :
    ((Action.pushIncoming ref payload).onObject ref stream).content = stream.content ++ payload := by
  simp [Action.onObject, MuxStream.content]

theorem content_keep {ref : Nat} {stream : MuxStream} {action : Action}
    (pushes : ∀ payload, action ≠ .pushIncoming ref payload)
    (pops : action = .popIncoming ref → stream.current = [] ∧ stream.incoming ≠ []) :
    (action.onObject ref stream).content = stream.content := by
  cases action with
  | pushIncoming target payload =>
      have apart : target ≠ ref := fun same => pushes payload (by rw [same])
      simp [Action.onObject, apart]
  | popIncoming target =>
      by_cases same : target = ref
      · subst same
        rcases pops rfl with ⟨empty, waiting⟩
        cases queue : stream.incoming with
        | nil => exact absurd queue waiting
        | cons head rest => simp [Action.onObject, MuxStream.content, queue, empty]
      · simp [Action.onObject, same]
  | consume target count =>
      by_cases same : target = ref
      · simp only [Action.onObject, same, if_true, MuxStream.content, List.append_assoc]
        rw [← List.append_assoc (stream.current.take count), List.take_append_drop]
      · simp [Action.onObject, same]
  | setOnce target | closeLocal target | closeLocalOnce target | closeRemote target
  | setDeadlines target =>
      by_cases same : target = ref <;> simp [Action.onObject, same, MuxStream.content]
  | _ => rfl

/-! ## Conditions on the receiver -/

def ReadPoint.isReturned : ReadPoint → Bool
  | .returned _ => true
  | _ => false

def Thread.reading (ref : Nat) : Thread → Bool
  | .read target _ point => target = ref && !point.isReturned
  | _ => false

/-- The application calls `Read` on the stream `id` of this end only after its
last `Read` has returned. -/
def SoleReader (receiver : End) (id : UInt32) (pool : MuxPool) :
    PoolEvent Thread Choice → Prop
  | .spawn (.read ref _ _) =>
      match pool.shared.objects[ref]? with
      | some stream =>
          stream.session = receiver → stream.id = id →
            ∀ thread ∈ pool.threads, thread.reading ref = false
      | none => True
  | _ => True

instance (receiver : End) (id : UInt32) (pool : MuxPool) (event : PoolEvent Thread Choice) :
    Decidable (SoleReader receiver id pool event) := by
  unfold SoleReader
  casesm* PoolEvent _ _, Thread <;> try infer_instance
  rename_i ref _ _
  dsimp only
  rcases pool.shared.objects[ref]? with _ | stream <;> infer_instance

/-! ## The outline -/

/-- The payload of this stream that `readLoop` has read and not queued yet, as
the last of those it has read. -/
def held (mux : Mux) (id : UInt32) : ReadLoopPoint → List Bytes
  | .getStream one payload => if one = id then [payload] else []
  | .deliver ref payload =>
      match mux.objects[ref]? with
      | some stream => if stream.id = id then [payload] else []
      | none => []
  | _ => []

def ReadLoopPoint.gaveUp : ReadLoopPoint → Bool
  | .stopped .sessionDone _ => true
  | _ => false

/-- Each stream of this id has been given, in order, some of the payloads read and
settled: all of them, up to where `readLoop` gave up, while it is in the table and
not closed locally. -/
def Fed (sender : End) (id : UInt32) (mux : Mux) (point : ReadLoopPoint) : Prop :=
  ∃ settled, payloads id (mux.link sender).read = settled ++ held mux id point ∧
    ∀ (ref : Nat) (stream : MuxStream), mux.objects[ref]? = some stream →
      stream.session = sender.other → stream.id = id →
      ∃ chunks : List Bytes, chunks.Sublist settled ∧ stream.content = chunks.flatten ∧
        ((id, ref) ∈ (mux.session sender.other).streams → stream.localDone = false →
          chunks <+: settled ∧ (point.gaveUp = false → chunks = settled))

def LastRead (sender : End) (id : UInt32) (mux : Mux) : ReadLoopPoint → Prop
  | .insert one => one = id →
      ∃ before frame, (mux.link sender).read = before ++ [frame] ∧
        frame.frameType = frameOpen ∧ frame.streamID = id
  | .getStream one payload => one = id →
      ∃ before, (mux.link sender).read = before ++ [dataFrame id payload]
  | .deliver ref payload => mux.Names ref sender.other id →
      ∃ before, (mux.link sender).read = before ++ [dataFrame id payload]
  | .getClosed one => one = id → closeFrame id ∈ (mux.link sender).read
  | .closeRemote ref => mux.Names ref sender.other id → closeFrame id ∈ (mux.link sender).read
  | _ => True

def HandsOver (mux : Mux) (side : End) : ReadLoopPoint → Prop
  | .deliver ref _ => ∃ one, mux.Names ref side one
  | .closeRemote ref => ∃ one, mux.Names ref side one
  | _ => True

def Alone (self : Nat) (pool : MuxPool) (ref : Nat) : Prop :=
  ∀ (other : Nat) (thread : Thread), other ≠ self → pool.threads[other]? = some thread →
    thread.reading ref = false

def ReadPoint.selecting : ReadPoint → Bool
  | .firstSelect | .secondSelect => true
  | _ => false

def IntegrityKnown (sender : End) (id : UInt32) (self : Nat) (pool : MuxPool) : Thread → Prop
  | .readLoop side point =>
      HandsOver pool.shared side point ∧
        (side = sender.other → LastRead sender id pool.shared point ∧
          (point.gaveUp = true → (pool.shared.session sender.other).done = true) ∧
          Fed sender id pool.shared point)
  | .read ref _ point =>
      ∀ stream, pool.shared.objects[ref]? = some stream → stream.session = sender.other →
        stream.id = id →
        (point.isReturned = false → Alone self pool ref) ∧
          (point.selecting = true → stream.current = [])
  | _ => True

def integrityOutline (sender : End) (id : UInt32) : Program.Outline Mux Thread where
  global _ := True
  assertion := IntegrityKnown sender id

/-! ## Steps -/

theorem done_step (self : Nat) {mux : Mux} (action : Action) {one : End}
    (done : (mux.session one).done = true) : ((action.apply self mux).session one).done = true := by
  cases action with
  | takeToken side frame =>
      by_cases same : one = side
      · subst same
        cases broken : (mux.wire one).broken <;>
          simpa [Action.apply, Action.begin, broken] using done
      · cases broken : (mux.wire side).broken <;>
          simpa [Action.apply, Action.begin, broken, same] using done
  | drawID side | addStream side | removeStream side | writeBytes side | breakWire side
  | giveToken side | pushAccept side | popAccept side | pushDatagram side | popDatagram side
  | closeDone side | closeConn side =>
      by_cases same : one = side
      · subst same
        simp [Action.apply, done]
      · simpa [Action.apply, same] using done
  | _ => simpa [Action.apply] using done

theorem LinkStep.read_same {holder : Nat} {reads : Prop} {link moved : Link}
    (step : LinkStep holder reads link moved) (consistent : link.Consistent) (apart : ¬ reads) :
    moved.read = link.read := by
  cases step with
  | begin frame _ _ =>
      unfold Link.takeToken
      split
      · rfl
      · simp only [Link.read]
        rw [List.take_append_of_le_length consistent.bound]
  | frame _ _ read => exact absurd read apart
  | payload _ _ read => exact absurd read apart
  | header read => exact absurd read apart
  | _ => rfl

theorem remoteOwnsID_other (side : End) (id : UInt32) :
    side.other.remoteOwnsID id = !side.remoteOwnsID id := by
  have parity : id.toNat % 2 = 0 ∨ id.toNat % 2 = 1 := by omega
  cases owned : side.remoteOwnsID id with
  | true =>
      rw [remoteOwnsID_iff] at owned
      rw [Bool.not_true, ← Bool.not_eq_true, remoteOwnsID_iff, owned]
      cases side <;> simp [End.other, End.firstID]
  | false =>
      rw [← Bool.not_eq_true, remoteOwnsID_iff] at owned
      rw [Bool.not_false, remoteOwnsID_iff]
      cases side <;> simp [End.other, End.firstID] at owned ⊢ <;> omega

theorem held_step (self : Nat) {mux : Mux} (id : UInt32) {side : End} {point : ReadLoopPoint}
    (action : Action) (hands : HandsOver mux side point) :
    held (action.apply self mux) id point = held mux id point := by
  cases point with
  | deliver ref payload =>
      rcases hands with ⟨one, stream, present, _⟩
      simp only [held, present, apply_objects self action present, onObject_id]
  | _ => rfl

theorem HandsOver.grows {mux moved : Mux} {side : End} {point : ReadLoopPoint}
    (hands : HandsOver mux side point) (grows : Grows mux moved) : HandsOver moved side point := by
  cases point with
  | deliver | closeRemote =>
      rcases hands with ⟨one, names⟩
      exact ⟨one, grows.names names⟩
  | _ => trivial

section Steps

variable {sender : End} {id : UInt32} {self : Nat} {pool : MuxPool} {thread next : Thread}
  {choice : Choice} {action : Action}

/-- A step that adds no stream of this id: what was in hand or has arrived is given
to the streams of this id, or is in hand afterwards. -/
theorem Fed.step {point after : ReadLoopPoint} (arrived given : List Bytes)
    (fed : Fed sender id pool.shared point)
    (reads : payloads id ((action.apply self pool.shared).link sender).read =
      payloads id (pool.shared.link sender).read ++ arrived)
    (passes : held pool.shared id point ++ arrived =
      given ++ held (action.apply self pool.shared) id after)
    (adds : action ≠ .addStream sender.other id)
    (stops : point.gaveUp = true → given = [] ∧ after.gaveUp = true)
    (moves : ∀ (ref : Nat) (stream : MuxStream), pool.shared.objects[ref]? = some stream →
      stream.session = sender.other → stream.id = id →
      ∃ extra : List Bytes, extra.Sublist given ∧
        (action.onObject ref stream).content = stream.content ++ extra.flatten ∧
        ((id, ref) ∈ (pool.shared.session sender.other).streams → stream.localDone = false →
          extra <+: given ∧ (after.gaveUp = false → extra = given))) :
    Fed sender id (action.apply self pool.shared) after := by
  rcases fed with ⟨settled, read, streams⟩
  refine ⟨settled ++ given, ?_, fun ref moved found session same => ?_⟩
  · rw [reads, read, List.append_assoc, List.append_assoc, passes]
  rcases apply_objects_cases self found with ⟨stream, before, rfl⟩ | ⟨side, one, rfl, _, rfl⟩
  swap
  · cases session
    cases same
    exact absurd rfl adds
  simp only [onObject_session, onObject_id] at session same
  rcases streams ref stream before session same with ⟨chunks, some, content, all⟩
  rcases moves ref stream before session same with ⟨extra, part, grown, whole⟩
  refine ⟨chunks ++ extra, some.append part, ?_, fun entered undone => ?_⟩
  · rw [grown, content, List.flatten_append]
  have table : (id, ref) ∈ (pool.shared.session sender.other).streams := by
    rcases apply_streams self pool.shared action sender.other entered with old | ⟨added, _⟩
    · exact old
    · exact absurd added adds
  have running : stream.localDone = false := by
    cases done : stream.localDone with
    | false => rfl
    | true =>
        rw [onObject_localDone action done] at undone
        cases undone
  rcases all table running with ⟨front, exact_⟩
  rcases whole table running with ⟨extraFront, extraAll⟩
  cases stopped : point.gaveUp with
  | true =>
      rcases stops stopped with ⟨rfl, gone⟩
      rw [List.sublist_nil.mp part, List.append_nil, List.append_nil]
      exact ⟨front, fun active => by rw [gone] at active; cases active⟩
  | false =>
      rw [exact_ stopped]
      exact ⟨(List.prefix_append_right_inj settled).mpr extraFront,
        fun active => by rw [extraAll active]⟩

theorem Fed.added {after : ReadLoopPoint}
    (new : ∀ ref, ¬ pool.shared.Names ref sender.other id)
    (silent : payloads id (pool.shared.link sender).read = [])
    (empty : held ((Action.addStream sender.other id).apply self pool.shared) id after = []) :
    Fed sender id ((Action.addStream sender.other id).apply self pool.shared) after := by
  have unread : ((Action.addStream sender.other id).apply self pool.shared).link sender =
      pool.shared.link sender := by
    rw [apply_link]
    rfl
  refine ⟨[], by rw [unread, silent, empty]; rfl, fun ref moved found session same => ?_⟩
  rcases apply_objects_cases self found with ⟨stream, before, rfl⟩ | ⟨side, one, equal, _, rfl⟩
  · exact absurd ⟨_, before, session, same⟩ (new ref)
  · cases equal
    exact ⟨[], List.Sublist.refl _, rfl, fun _ _ => ⟨List.prefix_refl _, fun _ => rfl⟩⟩

/-- Before the OPEN frame of a stream nothing of it has been read. -/
theorem silent_before_open (formed : WellFormed pool)
    (theirs : sender.other.remoteOwnsID id = true)
    (last : ∃ before frame, (pool.shared.link sender).read = before ++ [frame] ∧
      frame.frameType = frameOpen ∧ frame.streamID = id) :
    payloads id (pool.shared.link sender).read = [] := by
  have sound := StreamsKnown.sound formed.streams.global sender
  rcases last with ⟨before, frame, read, isOpen, same⟩
  have whole : (pool.shared.link sender).begun =
      before ++ frame :: (pool.shared.link sender).ahead := by
    rw [Link.begun_eq, read, List.append_assoc]
    rfl
  have mine : sender.remoteOwnsID id = false := by
    have parity := remoteOwnsID_other sender id
    rw [theirs] at parity
    simpa using parity.symm
  have distinct : (opensOf (pool.shared.link sender).begun).Nodup :=
    (formed.tables.global sender).1.distinct (Nat.le_of_lt sound.room)
  apply payloads_eq_nil
  intro data member
  cases isData : data.isData id with
  | false => rfl
  | true =>
      rw [read, List.mem_append, List.mem_singleton] at member
      rcases member with earlier | rfl
      · rcases List.getElem?_of_mem earlier with ⟨place, found⟩
        have bound := (List.getElem?_eq_some_iff.mp found).1
        have begun : (pool.shared.link sender).begun[place]? = some data := by
          rw [whole, List.getElem?_append_left bound]
          exact found
        have opened := (sound.frames place data id begun (Frame.concerns_of_isData isData)).2 mine
        rw [whole, List.take_append_of_le_length (Nat.le_of_lt bound)] at opened
        have front : before.take place <+: before := List.take_prefix place before
        have inside : id ∈ opensOf before := opensOf_grows front opened
        rw [whole, opensOf_append, ← List.singleton_append, opensOf_append,
          opensOf_open frame isOpen, same] at distinct
        exact absurd rfl ((List.nodup_append.mp distinct).2.2 id inside id (by simp))
      · simp [Frame.isData, isOpen, frameOpen, frameData] at isData

theorem silent_before_insert (formed : WellFormed pool)
    (present : pool.threads[self]? = some (.openStream sender.other (.insert id))) :
    ∀ frame ∈ (pool.shared.link sender).begun, frame.isData id = false := by
  intro frame member
  cases isData : frame.isData id with
  | false => rfl
  | true =>
      have drew : Drew self pool.shared sender.other id := (formed.streams.thread self _ present).1
      have sound := StreamsKnown.sound formed.streams.global sender
      have theirs : sender.remoteOwnsID id = true := by
        have parity := remoteOwnsID_other sender id
        rw [drew.parity] at parity
        simpa using parity.symm
      rcases List.getElem?_of_mem member with ⟨place, found⟩
      have read := (sound.frames place frame id found (Frame.concerns_of_isData isData)).1 theirs
      have begun : id ∈ opensOf (pool.shared.link sender.other).begun := by
        rw [Link.begun_eq, opensOf_append]
        exact List.mem_append_left _ read
      have pending : (pool.shared.opener sender.other).Pending sender.other self id :=
        formed.tables.thread self _ present id rfl
      exact absurd begun (pending.new
        (Nat.le_of_lt (StreamsKnown.sound formed.streams.global sender.other).room))

theorem popIncoming_waiting {ref : Nat}
    (planned : plan pool.shared thread choice = some (.popIncoming ref, next)) :
    ∃ capacity point, thread = .read ref capacity point ∧ point.isReturned = false ∧
      (point = .firstSelect ∨ point = .secondSelect) ∧
      ∀ stream, pool.shared.objects[ref]? = some stream → stream.incoming ≠ [] := by
  rcases plan_takenBy planned with ⟨capacity, point, rfl, selects⟩
  refine ⟨capacity, point, rfl, ?_, selects, fun stream found => ?_⟩
  · rcases selects with rfl | rfl <;> rfl
  · simp only [plan, found, Option.map_eq_some_iff] at planned
    rcases planned with ⟨_, inner, equal⟩
    rcases selects with rfl | rfl
    · simp only [planRead] at inner
      split at inner
      · cases inner
        cases equal
      · assumption
    · simp only [planRead] at inner
      split at inner
      · split at inner
        · cases inner
        · assumption
      all_goals
        first
        | cases inner
        | (split at inner <;> cases inner; cases equal)

theorem held_cases {mux : Mux} {point : ReadLoopPoint}
    (hands : HandsOver mux sender.other point) (last : LastRead sender id mux point) :
    held mux id point = [] ∨
      ∃ before payload, (mux.link sender).read = before ++ [dataFrame id payload] := by
  cases point with
  | getStream one payload =>
      by_cases same : one = id
      · rcases last same with ⟨before, read⟩
        exact .inr ⟨before, payload, read⟩
      · exact .inl (if_neg same)
  | deliver ref payload =>
      rcases hands with ⟨one, stream, present, session, equal⟩
      by_cases same : stream.id = id
      · rcases last ⟨stream, present, session, same⟩ with ⟨before, read⟩
        exact .inr ⟨before, payload, read⟩
      · exact .inl (by simp [held, present, same])
  | _ => exact .inl rfl

theorem pushIncoming_loop {ref : Nat} {payload : Bytes}
    (holds : (integrityOutline sender id).Holds pool)
    (present : pool.threads[self]? = some thread)
    (planned : plan pool.shared thread choice = some (.pushIncoming ref payload, next))
    {stream : MuxStream} (found : pool.shared.objects[ref]? = some stream) :
    thread = .readLoop stream.session (.deliver ref payload) := by
  rcases plan_takenBy planned with ⟨side, rfl⟩
  rcases (holds.thread self _ present).1 with ⟨one, again, also, session, _⟩
  rw [found] at also
  cases also
  rw [session]

theorem pops_known (holds : (integrityOutline sender id).Holds pool)
    (present : pool.threads[self]? = some thread)
    (planned : plan pool.shared thread choice = some (action, next)) {ref : Nat}
    {stream : MuxStream} (found : pool.shared.objects[ref]? = some stream)
    (session : stream.session = sender.other) (same : stream.id = id)
    (pops : action = .popIncoming ref) : stream.current = [] ∧ stream.incoming ≠ [] := by
  subst pops
  rcases popIncoming_waiting planned with ⟨capacity, point, rfl, _, selects, waiting⟩
  refine ⟨?_, waiting stream found⟩
  have known := (holds.thread self _ present stream found session same).2
  rcases selects with rfl | rfl <;> exact known rfl

/-! ## The steps of `readLoop` -/

theorem getStream_mem {mux : Mux} {side : End} {one : UInt32} {ref : Nat}
    (entered : mux.getStream side one = some ref) : (one, ref) ∈ (mux.session side).streams := by
  rcases List.lookup_eq_some_iff.mp entered with ⟨before, after, equal, _⟩
  rw [equal]
  simp

theorem hands_step {side : End} {point after : ReadLoopPoint} (formed : WellFormed pool)
    (planned : planReadLoop pool.shared side choice point = some (action, after)) :
    HandsOver (action.apply self pool.shared) side after := by
  have table := (StreamsKnown.sound formed.streams.global side).table
  cases after with
  | deliver ref payload =>
      cases point with
      | getStream one received =>
          simp only [planReadLoop] at planned
          split at planned <;> cases planned
          rename_i entered
          exact ⟨one, table _ (getStream_mem entered)⟩
      | readHeader =>
          simp only [planReadLoop] at planned
          repeat' split at planned
          all_goals cases planned
          rename_i dispatched
          rcases dispatch_ok dispatched with
            ⟨_, _, ⟨_, _, _, equal⟩ | ⟨_, equal⟩⟩ | ⟨_, ⟨_, equal⟩ | ⟨_, equal⟩⟩ <;> cases equal
      | stopped stop inner =>
          simp only [planReadLoop, Option.map_eq_some_iff] at planned
          rcases planned with ⟨_, _, equal⟩
          cases equal
      | _ =>
          simp only [planReadLoop] at planned
          repeat' split at planned
          all_goals cases planned
  | closeRemote ref =>
      cases point with
      | getClosed one =>
          simp only [planReadLoop] at planned
          split at planned <;> cases planned
          rename_i entered
          exact ⟨one, table _ (getStream_mem entered)⟩
      | readHeader =>
          simp only [planReadLoop] at planned
          repeat' split at planned
          all_goals cases planned
          rename_i dispatched
          rcases dispatch_ok dispatched with
            ⟨_, _, ⟨_, _, _, equal⟩ | ⟨_, equal⟩⟩ | ⟨_, ⟨_, equal⟩ | ⟨_, equal⟩⟩ <;> cases equal
      | stopped stop inner =>
          simp only [planReadLoop, Option.map_eq_some_iff] at planned
          rcases planned with ⟨_, _, equal⟩
          cases equal
      | _ =>
          simp only [planReadLoop] at planned
          repeat' split at planned
          all_goals cases planned
  | _ => trivial

theorem read_keeps (holder : Nat) (mux : Mux) (one : End) (notWrite : action.isWrite = false)
    (notTake : action.isTake = false) :
    ((action.apply holder mux).link one).read = (mux.link one).read := by
  rw [apply_link]
  rcases onLink_quiet holder one (mux.link one) notWrite notTake with same | broken
  · rw [same]
  · rw [broken]
    rfl

structure Took (sender : End) (id : UInt32) (mux moved : Mux) (after : ReadLoopPoint) : Prop where
  last : LastRead sender id moved after
  arrived : ∃ chunks, payloads id (moved.link sender).read =
    payloads id (mux.link sender).read ++ chunks ∧ held moved id after = chunks

theorem Took.nothing {mux moved : Mux} {after : ReadLoopPoint}
    (last : LastRead sender id moved after)
    (read : payloads id (moved.link sender).read = payloads id (mux.link sender).read)
    (empty : held moved id after = []) : Took sender id mux moved after :=
  ⟨last, [], by rw [read, List.append_nil], empty⟩

theorem took_frame {mux : Mux} {frame : Frame} {rest : List Frame} {after : ReadLoopPoint}
    (ahead : (mux.link sender).ahead = frame :: rest) (other : frame.isData id = false)
    (last : ∀ moved : Mux, (moved.link sender).read = (mux.link sender).read ++ [frame] →
      LastRead sender id moved after) (empty : ∀ moved, held moved id after = []) :
    Took sender id mux ((Action.takeHeader sender.other false).apply self mux) after := by
  have read : (((Action.takeHeader sender.other false).apply self mux).link sender).read =
      (mux.link sender).read ++ [frame] := by
    rw [apply_link]
    simp only [Action.onLink, End.other_other, if_true, Link.takeHeader, Bool.false_eq_true,
      if_false]
    exact Link.read_succ ahead
  refine .nothing (last _ read) ?_ (empty _)
  rw [read, payloads_append, payloads_other other, List.append_nil]

theorem took_payload {mux : Mux} {frame : Frame} {rest : List Frame}
    (ahead : (mux.link sender).ahead = frame :: rest) (length : Nat) :
    (((Action.takePayload sender.other length).apply self mux).link sender).read =
      (mux.link sender).read ++ [frame] := by
  rw [apply_link]
  simp only [Action.onLink, End.other_other, if_true, Link.takePayload]
  exact Link.read_succ ahead

theorem loop_takes {point after : ReadLoopPoint} {mux : Mux}
    (consistent : (mux.link sender).Consistent) (reading : ReadingKnown (mux.link sender) point)
    (planned : planReadLoop mux sender.other choice point = some (action, after))
    (takes : action.isTake = true) :
    Took sender id mux (action.apply self mux) after ∧ held mux id point = [] := by
  rcases planReadLoop_cases planned with
    ⟨rfl, available, ⟨check, _, rfl, rfl⟩ | ⟨payloadFollows, dispatched, rfl⟩⟩ |
      ⟨length, available, rfl, ⟨one, rfl, rfl⟩ | ⟨rfl, rfl⟩⟩ | ⟨notTake, _⟩
  · refine ⟨.nothing trivial ?_ rfl, rfl⟩
    rw [apply_link]
    simp only [Action.onLink, End.other_other, if_true]
    rfl
  · rw [End.other_other] at available dispatched
    rcases consistent.next reading available with ⟨frame, rest, ahead, header⟩
    have received : decodeHeader (mux.wire sender).bytes = frame.header := header
    rw [received] at dispatched
    refine ⟨?_, rfl⟩
    rcases dispatch_ok dispatched with
      ⟨rfl, empty, ⟨isOpen, _, _, rfl⟩ | ⟨isClose, rfl⟩⟩ | ⟨rfl, ⟨_, rfl⟩ | ⟨_, rfl⟩⟩
    · have isOpen : frame.frameType = frameOpen := isOpen
      refine took_frame ahead ?_ (fun moved read same => ⟨_, frame, read, isOpen, same⟩)
        fun _ => rfl
      simp [Frame.isData, isOpen, frameOpen, frameData]
    · have isClose : frame.frameType = frameClose := isClose
      have none : frame.payload = [] := List.length_eq_zero_iff.mp empty
      refine took_frame ahead ?_ (fun moved read same => ?_) fun _ => rfl
      · simp [Frame.isData, isClose, frameClose, frameData]
      · have whole : frame = closeFrame id := by
          cases frame
          cases isClose
          cases none
          cases same
          rfl
        rw [read, whole]
        simp
    · refine .nothing trivial ?_ rfl
      rw [apply_link]
      simp only [Action.onLink, End.other_other, if_true]
      rfl
    · refine .nothing trivial ?_ rfl
      rw [apply_link]
      simp only [Action.onLink, End.other_other, if_true]
      rfl
  · rcases reading with ⟨header, payload, rest, ahead, rfl⟩
    rw [End.other_other] at available ⊢
    have read := @took_payload _ self mux _ _ ahead payload.length
    have arrived := (consistent.takePayload header ahead available).2
    have same : (mux.wire sender).bytes.take payload.length = payload := arrived
    rw [same]
    refine ⟨⟨fun equal => ⟨_, by rw [read, equal]⟩, ?_⟩, rfl⟩
    by_cases equal : one = id
    · subst equal
      exact ⟨[payload], by rw [read, payloads_append, payloads_dataFrame], by simp [held]⟩
    · refine ⟨[], ?_, by simp [held, equal]⟩
      rw [read, payloads_append, payloads_other]
      simp [Frame.isData, dataFrame, equal]
  · rcases reading with ⟨header, frame, rest, ahead, isDatagram, rfl⟩
    refine ⟨.nothing trivial ?_ rfl, rfl⟩
    rw [took_payload ahead, payloads_append, payloads_other, List.append_nil]
    simp [Frame.isData, isDatagram, frameDatagram, frameData]
  · rw [takes] at notTake
    cases notTake

theorem Fed.quiet {point after : ReadLoopPoint} (arrived : List Bytes)
    (holds : (integrityOutline sender id).Holds pool)
    (present : pool.threads[self]? = some thread)
    (planned : plan pool.shared thread choice = some (action, next))
    (fed : Fed sender id pool.shared point)
    (reads : payloads id ((action.apply self pool.shared).link sender).read =
      payloads id (pool.shared.link sender).read ++ arrived)
    (hand : held (action.apply self pool.shared) id after = held pool.shared id point ++ arrived)
    (adds : action ≠ .addStream sender.other id)
    (pushes : ∀ ref payload, action = .pushIncoming ref payload →
      ¬ pool.shared.Names ref sender.other id)
    (stops : point.gaveUp = true → after.gaveUp = true) :
    Fed sender id (action.apply self pool.shared) after := by
  refine fed.step arrived [] reads hand.symm adds (fun gone => ⟨rfl, stops gone⟩)
    fun ref stream before session same => ⟨[], List.Sublist.refl _, ?_, fun _ _ =>
      ⟨List.prefix_refl _, fun _ => rfl⟩⟩
  rw [List.flatten_nil, List.append_nil]
  refine content_keep (fun payload pushed => ?_)
    (pops_known holds present planned before session same)
  exact pushes ref payload pushed ⟨stream, before, session, same⟩

theorem fed_bystander {other : Nat} {point : ReadLoopPoint} (formed : WellFormed pool)
    (holds : (integrityOutline sender id).Holds pool) (present : pool.threads[self]? = some thread)
    (planned : plan pool.shared thread choice = some (action, next)) (different : other ≠ self)
    (found : pool.threads[other]? = some (.readLoop sender.other point))
    (hands : HandsOver pool.shared sender.other point)
    (last : LastRead sender id pool.shared point) (fed : Fed sender id pool.shared point) :
    Fed sender id (action.apply self pool.shared) point := by
  have apart : ¬ thread.readsFrom sender := by
    have sole := readsFrom_sole formed.links present found different
    rwa [End.other_other] at sole
  have step := (link_step formed.links present planned).1 sender
  have read := step.read_same (formed.links.global sender) apart
  have still := held_step self id action hands
  by_cases adds : action = .addStream sender.other id
  · subst adds
    have known := added_known (formed.streams.thread self thread present)
      (formed.tables.thread self thread present) planned
    rcases plan_takenBy planned with rfl | rfl
    · have none := silent_before_insert formed present
      have silent : payloads id (pool.shared.link sender).read = [] :=
        payloads_eq_nil fun frame member => none frame (List.mem_of_mem_take member)
      refine Fed.added known.1 silent ?_
      rw [still]
      rcases held_cases hands last with empty | ⟨before, payload, read⟩
      · exact empty
      · have member : dataFrame id payload ∈ (pool.shared.link sender).begun := by
          rw [Link.begun_eq, read]
          simp
        have wrong := none _ member
        simp [Frame.isData, dataFrame] at wrong
    · exact absurd ⟨_, rfl⟩ apart
  · refine fed.quiet [] holds present planned ?_ ?_ adds ?_ (fun gone => gone)
    · rw [read, List.append_nil]
    · rw [still, List.append_nil]
    · rintro ref payload rfl ⟨stream, before, session, same⟩
      have loop := pushIncoming_loop holds present planned before
      rw [loop, session] at apart
      exact apart ⟨_, rfl⟩

/-- Handling a frame that has been read: it is given to its stream, or dropped where
the stream has left the table, is closed, or its session is done. -/
theorem loop_fed (formed : WellFormed pool) (holds : (integrityOutline sender id).Holds pool)
    {point after : ReadLoopPoint}
    (present : pool.threads[self]? = some (.readLoop sender.other point))
    (planned : plan pool.shared (.readLoop sender.other point) choice =
      some (action, .readLoop sender.other after))
    (inner : planReadLoop pool.shared sender.other choice point = some (action, after))
    (notTake : action.isTake = false) (last : LastRead sender id pool.shared point)
    (fed : Fed sender id pool.shared point) :
    Fed sender id (action.apply self pool.shared) after := by
  have sound := StreamsKnown.sound formed.streams.global sender.other
  have read := read_keeps self pool.shared sender (planReadLoop_isWrite inner) notTake
  have reads : payloads id ((action.apply self pool.shared).link sender).read =
      payloads id (pool.shared.link sender).read ++ [] := by
    rw [read, List.append_nil]
  have idle : held (action.apply self pool.shared) id after = held pool.shared id point →
      action ≠ .addStream sender.other id → (∀ ref payload, action ≠ .pushIncoming ref payload) →
      (point.gaveUp = true → after.gaveUp = true) →
      Fed sender id (action.apply self pool.shared) after := fun hand adds pushes stops =>
    fed.quiet [] holds present planned reads (by rw [hand, List.append_nil]) adds
      (fun ref payload pushed => absurd pushed (pushes ref payload)) stops
  cases point with
  | insert one =>
      simp only [planReadLoop] at inner
      split at inner
      · cases inner
        exact idle rfl (by simp) (by simp) (fun wrong => by cases wrong)
      · split at inner
        · cases inner
          exact idle rfl (by simp) (by simp) (fun wrong => by cases wrong)
        · cases inner
          by_cases same : one = id
          · subst same
            have entering := formed.tables.thread self _ present
            exact .added (formed.streams.thread self _ present)
              (silent_before_open formed entering.owned (last rfl)) rfl
          · exact idle rfl (by simpa using same) (by simp) (fun wrong => by cases wrong)
  | getStream one payload =>
      simp only [planReadLoop] at inner
      split at inner
      · rename_i absent
        cases inner
        refine fed.step [] (held pool.shared id (.getStream one payload)) reads
          rfl (by simp) (fun wrong => by cases wrong)
          fun ref stream _ _ _ => ⟨[], List.nil_sublist _, by simp [Action.onObject], ?_⟩
        intro entered _
        have other : one ≠ id := by
          rintro rfl
          exact getStream_none.mp absent _ entered rfl
        simp [held, other]
      · rename_i ref entered
        cases inner
        refine idle ?_ (by simp) (by simp) (fun wrong => by cases wrong)
        rcases sound.table _ (getStream_mem entered) with ⟨stream, found, _, same⟩
        change held pool.shared id (.deliver ref payload) = _
        simp only [held, found, same]
  | deliver target payload =>
      simp only [planReadLoop] at inner
      split at inner
      · cases inner
      rename_i receiving found
      rcases (holds.thread self _ present).1 with ⟨one, again, also, theirs, _⟩
      rw [found] at also
      cases also
      have only : ∀ (ref : Nat) (stream : MuxStream), pool.shared.objects[ref]? = some stream →
          stream.session = sender.other → stream.id = id → receiving.id = id → target = ref :=
        fun ref stream before session same equal =>
          sound.unique ⟨receiving, found, theirs, equal⟩ ⟨stream, before, session, same⟩
      have holding : held pool.shared id (.deliver target payload) =
          if receiving.id = id then [payload] else [] := by
        simp only [held, found]
      split at inner
      · split at inner
        swap
        · cases inner
        cases inner
        refine fed.step [] (held pool.shared id (.deliver target payload)) reads
          rfl (by simp) (fun wrong => by cases wrong) fun ref stream before session same => ?_
        rw [holding]
        by_cases here : target = ref
        · subst here
          rw [found] at before
          cases before
          rw [if_pos same, content_push]
          exact ⟨[payload], List.Sublist.refl _, by simp, fun _ _ =>
            ⟨List.prefix_refl _, fun _ => rfl⟩⟩
        · have other : receiving.id ≠ id := fun equal =>
            here (only ref stream before session same equal)
          rw [if_neg other]
          exact ⟨[], List.Sublist.refl _, by simp [Action.onObject, here], fun _ _ =>
            ⟨List.prefix_refl _, fun _ => rfl⟩⟩
      · split at inner
        swap
        · cases inner
        rename_i closed
        cases inner
        refine fed.step [] (held pool.shared id (.deliver target payload)) reads
          rfl (by simp) (fun wrong => by cases wrong) fun ref stream before session same =>
            ⟨[], List.nil_sublist _, by simp [Action.onObject], fun _ undone => ?_⟩
        rw [holding]
        by_cases equal : receiving.id = id
        · cases only ref stream before session same equal
          rw [found] at before
          cases before
          rw [closed] at undone
          cases undone
        · simp [equal]
      · split at inner
        swap
        · cases inner
        cases inner
        exact fed.step [] (held pool.shared id (.deliver target payload)) reads
          rfl (by simp) (fun wrong => by cases wrong) fun ref stream before session same =>
            ⟨[], List.nil_sublist _, by simp [Action.onObject], fun _ _ =>
              ⟨List.nil_prefix, fun wrong => by cases wrong⟩⟩
      · cases inner
  | stopped stop inside =>
      simp only [planReadLoop, Option.map_eq_some_iff] at inner
      rcases inner with ⟨⟨taken, later⟩, closing, equal⟩
      cases equal
      have stays : ReadLoopPoint.gaveUp (.stopped stop inside) = true →
          ReadLoopPoint.gaveUp (.stopped stop later) = true := by
        cases stop <;> exact fun gone => gone
      cases inside with
      | once =>
          simp only [planCloseSession] at closing
          split at closing <;> cases closing
          · exact idle rfl (by simp) (by simp) stays
          · exact idle rfl (by simp) (by simp) stays
      | conn =>
          cases closing
          exact idle rfl (by simp) (by simp) stays
      | returned => cases closing
  | readHeader | sendAccept | readPayload | getClosed | closeRemote | readDatagram
  | queueDatagram =>
      simp only [planReadLoop] at inner
      repeat' split at inner
      all_goals cases inner
      all_goals cases notTake
      all_goals exact idle rfl (by simp) (by simp) (fun wrong => by cases wrong)

theorem lastRead_step {point after : ReadLoopPoint} (formed : WellFormed pool)
    (planned : planReadLoop pool.shared sender.other choice point = some (action, after))
    (notTake : action.isTake = false) (last : LastRead sender id pool.shared point) :
    LastRead sender id (action.apply self pool.shared) after := by
  have read := read_keeps self pool.shared sender (planReadLoop_isWrite planned) notTake
  have table := (StreamsKnown.sound formed.streams.global sender.other).table
  cases point with
  | getStream one payload =>
      simp only [planReadLoop] at planned
      split at planned <;> cases planned
      · trivial
      · rename_i ref entered
        intro names
        rcases Mux.Names.functional (table _ (getStream_mem entered)) names with ⟨_, same⟩
        exact last same
  | getClosed one =>
      simp only [planReadLoop] at planned
      split at planned <;> cases planned
      · trivial
      · rename_i ref entered
        intro names
        rcases Mux.Names.functional (table _ (getStream_mem entered)) names with ⟨_, same⟩
        exact last same
  | readHeader =>
      simp only [planReadLoop] at planned
      repeat' split at planned
      all_goals cases planned
      all_goals trivial
  | stopped stop inner =>
      simp only [planReadLoop, Option.map_eq_some_iff] at planned
      rcases planned with ⟨_, _, equal⟩
      cases equal
      trivial
  | _ =>
      simp only [planReadLoop] at planned
      repeat' split at planned
      all_goals cases planned
      all_goals trivial

/-! ## The steps of `Read` -/

theorem current_cases {ref : Nat} (stream : MuxStream)
    (planned : plan pool.shared thread choice = some (action, next)) :
    (action.onObject ref stream).current = stream.current ∨ thread.reading ref = true := by
  cases action with
  | popIncoming target =>
      by_cases same : target = ref
      · subst same
        rcases popIncoming_waiting planned with ⟨capacity, point, rfl, running, _⟩
        exact .inr (by simp [Thread.reading, running])
      · exact .inl (by simp [Action.onObject, same])
  | consume target count =>
      by_cases same : target = ref
      · subst same
        cases plan_takenBy planned
        exact .inr (by simp [Thread.reading, ReadPoint.isReturned])
      · exact .inl (by simp [Action.onObject, same])
  | pushIncoming target | setOnce target | closeLocal target | closeLocalOnce target
  | closeRemote target | setDeadlines target =>
      by_cases same : target = ref <;> exact .inl (by simp [Action.onObject, same])
  | _ => exact .inl rfl

theorem reading_keeps {mux : Mux} {ref : Nat}
    (planned : plan mux thread choice = some (action, next))
    (reading : next.reading ref = true) : thread.reading ref = true := by
  cases next with
  | read target capacity after =>
      rcases plan_read planned with ⟨point, stream, rfl, _, inner⟩
      simp only [Thread.reading, Bool.and_eq_true, decide_eq_true_eq] at reading ⊢
      refine ⟨reading.1, ?_⟩
      cases point with
      | returned => cases inner
      | _ => rfl
  | _ => cases reading

theorem Alone.update {other ref : Nat} (alone : Alone other pool ref)
    (present : pool.threads[self]? = some thread)
    (planned : plan pool.shared thread choice = some (action, next)) (moved : Mux) :
    Alone other (pool.update self moved next) ref := by
  intro place found different there
  by_cases same : place = self
  · subst same
    rw [Pool.update_self present] at there
    cases there
    cases reading : next.reading ref with
    | false => rfl
    | true =>
        have before := alone place thread different present
        rw [reading_keeps planned reading] at before
        cases before
  · rw [Pool.update_other pool same] at there
    exact alone place found different there

theorem LastRead.bystander {point : ReadLoopPoint}
    (read : ((action.apply self pool.shared).link sender).read = (pool.shared.link sender).read)
    (hands : HandsOver pool.shared sender.other point)
    (last : LastRead sender id pool.shared point) :
    LastRead sender id (action.apply self pool.shared) point := by
  cases point with
  | deliver ref payload | closeRemote ref =>
      intro names
      rcases hands with ⟨one, old⟩
      rcases (old.apply self action).functional names with ⟨_, rfl⟩
      rw [read]
      exact last old
  | insert | getStream | getClosed =>
      intro same
      rw [read]
      exact last same
  | _ => trivial

theorem selecting_step {ref capacity : Nat} {stream : MuxStream} {point after : ReadPoint}
    {mux : Mux} (known : point.selecting = true → stream.current = [])
    (planned : planRead mux stream ref capacity choice point = some (action, after))
    (selecting : after.selecting = true) : (action.onObject ref stream).current = [] := by
  cases point with
  | check =>
      simp only [planRead] at planned
      split at planned
      · rename_i empty
        cases planned
        exact empty
      · cases planned
        cases selecting
  | firstSelect =>
      simp only [planRead] at planned
      split at planned
      · cases planned
        exact known rfl
      · cases planned
        cases selecting
  | start | secondSelect | copy | returned =>
      simp only [planRead] at planned
      repeat' split at planned
      all_goals cases planned
      all_goals cases selecting

theorem gaveUp_step {side : End} {point after : ReadLoopPoint}
    (planned : planReadLoop pool.shared side choice point = some (action, after))
    (gone : after.gaveUp = true) :
    point.gaveUp = true ∨ (pool.shared.session side).done = true := by
  cases point with
  | deliver ref payload =>
      simp only [planReadLoop] at planned
      repeat' split at planned
      all_goals cases planned
      all_goals first | exact .inr ‹_› | cases gone
  | readHeader =>
      simp only [planReadLoop] at planned
      repeat' split at planned
      all_goals cases planned
      all_goals first | cases gone | skip
      rename_i dispatched
      rcases dispatch_ok dispatched with
        ⟨_, _, ⟨_, _, _, rfl⟩ | ⟨_, rfl⟩⟩ | ⟨_, ⟨_, rfl⟩ | ⟨_, rfl⟩⟩ <;> cases gone
  | stopped stop inner =>
      simp only [planReadLoop, Option.map_eq_some_iff] at planned
      rcases planned with ⟨_, _, equal⟩
      cases equal
      cases stop <;> first | exact .inl rfl | cases gone
  | _ =>
      simp only [planReadLoop] at planned
      repeat' split at planned
      all_goals cases planned
      all_goals first | exact .inr ‹_› | cases gone

theorem integrityKnown_step (formed : WellFormed pool)
    (holds : (integrityOutline sender id).Holds pool) (present : pool.threads[self]? = some thread)
    (planned : plan pool.shared thread choice = some (action, next)) :
    IntegrityKnown sender id self (pool.update self (action.apply self pool.shared) next) next := by
  have known := holds.thread self thread present
  cases next with
  | readLoop side after =>
      rcases plan_to_readLoop planned with ⟨point, rfl⟩
      rcases plan_readLoop planned with ⟨_, inner, equal⟩
      cases equal
      rcases known with ⟨hands, rest⟩
      refine ⟨hands_step formed inner, ?_⟩
      rintro rfl
      rcases rest rfl with ⟨last, gone, fed⟩
      have stopped : after.gaveUp = true →
          ((action.apply self pool.shared).session sender.other).done = true := by
        intro now
        rcases gaveUp_step inner now with before | done
        · exact done_step self action (gone before)
        · exact done_step self action done
      have reading := (formed.links.thread self _ present).2.2
      rw [End.other_other] at reading
      cases takes : action.isTake with
      | true =>
          have took : Took sender id pool.shared (action.apply self pool.shared) after ∧
              held pool.shared id point = [] :=
            loop_takes (formed.links.global sender) reading inner takes
          rcases took.1.arrived with ⟨chunks, reads, arrived⟩
          refine ⟨took.1.last, stopped, fed.quiet chunks holds present planned reads ?_ ?_ ?_ ?_⟩
          · rw [arrived, took.2, List.nil_append]
          · rintro rfl
            cases takes
          · rintro ref payload rfl
            cases takes
          · intro before
            cases point with
            | stopped stop inside =>
                simp only [planReadLoop, Option.map_eq_some_iff] at inner
                rcases inner with ⟨⟨taken, later⟩, closing, equal⟩
                cases equal
                cases stop <;> first | rfl | cases before
            | _ => cases before
      | false =>
          exact ⟨lastRead_step formed inner takes last, stopped,
            loop_fed formed holds present planned inner takes last fed⟩
  | read ref capacity after =>
      rcases plan_read planned with ⟨point, stream, rfl, found, inner⟩
      intro moved arrived session same
      have later : (action.apply self pool.shared).objects[ref]? = some moved := arrived
      rw [apply_objects self action found] at later
      cases later
      simp only [onObject_session, onObject_id] at session same
      have running : point.isReturned = false := by
        cases point with
        | returned => cases inner
        | _ => rfl
      rcases known stream found session same with ⟨alone, empty⟩
      exact ⟨fun _ => (alone running).update present planned _, selecting_step empty inner⟩
  | _ => trivial

theorem integrityKnown_bystander {other : Nat} {bystander : Thread} (formed : WellFormed pool)
    (holds : (integrityOutline sender id).Holds pool) (present : pool.threads[self]? = some thread)
    (planned : plan pool.shared thread choice = some (action, next))
    (grows : Grows pool.shared (action.apply self pool.shared)) (different : other ≠ self)
    (found : pool.threads[other]? = some bystander) :
    IntegrityKnown sender id other (pool.update self (action.apply self pool.shared) next)
      bystander := by
  have known := holds.thread other bystander found
  cases bystander with
  | readLoop side point =>
      rcases known with ⟨hands, rest⟩
      refine ⟨hands.grows grows, ?_⟩
      rintro rfl
      rcases rest rfl with ⟨last, gone, fed⟩
      have apart : ¬ thread.readsFrom sender := by
        have sole := readsFrom_sole formed.links present found different
        rwa [End.other_other] at sole
      have read := ((link_step formed.links present planned).1 sender).read_same
        (formed.links.global sender) apart
      exact ⟨last.bystander read hands, fun before => done_step self action (gone before),
        fed_bystander formed holds present planned different found hands last fed⟩
  | read ref capacity point =>
      intro moved after session same
      have granted := formed.streams.thread other _ found
      rcases granted_opened formed.streams granted with ⟨_, _, ⟨stream, before, _⟩, _⟩
      have old := apply_objects self action before
      have later : (action.apply self pool.shared).objects[ref]? = some moved := after
      rw [old] at later
      cases later
      simp only [onObject_session, onObject_id] at session same
      rcases known stream before session same with ⟨alone, empty⟩
      refine ⟨fun running => (alone running).update present planned _, fun selecting => ?_⟩
      have running : point.isReturned = false := by
        cases point with
        | returned => cases selecting
        | _ => rfl
      rcases current_cases stream planned with unchanged | reading
      · rw [unchanged]
        exact empty selecting
      · have idle := alone running self thread (Ne.symm different) present
        rw [reading] at idle
        cases idle
  | _ => trivial

theorem integrityOutline_valid :
    (integrityOutline sender id).Valid program fun pool event =>
      WellUsed pool event ∧ SoleReader sender.other id pool event ∧ WellFormed pool where
  started pool thread holds enters permitted := by
    refine ⟨trivial, ?_⟩
    cases thread with
    | readLoop => simp [program, entry] at enters
    | read ref capacity point =>
        simp only [program, entry, decide_eq_true_eq] at enters
        subst enters
        intro stream found session same
        have sole := permitted.2.1
        simp only [SoleReader] at sole
        rw [show pool.shared.objects[ref]? = some stream from found] at sole
        refine ⟨fun _ other thread different there => ?_, fun wrong => by cases wrong⟩
        rcases Pool.start_cases there with old | ⟨rfl, _⟩
        · exact sole session same thread (List.mem_of_getElem? old)
        · exact absurd rfl different
    | _ => trivial
  undisturbedByStart pool thread other bystander holds enters permitted found := by
    have known := holds.thread other bystander found
    cases bystander with
    | readLoop => exact known
    | read ref capacity point =>
        intro stream before session same
        rcases known stream before session same with ⟨alone, read⟩
        refine ⟨fun running place added different there => ?_, read⟩
        rcases Pool.start_cases there with old | ⟨rfl, rfl⟩
        · exact alone running place added different old
        · cases reading : added.reading ref with
          | false => rfl
          | true =>
              cases added with
              | read target room point =>
                  simp only [Thread.reading, Bool.and_eq_true, decide_eq_true_eq] at reading
                  rcases reading with ⟨rfl, _⟩
                  have sole := permitted.2.1
                  simp only [SoleReader] at sole
                  rw [show pool.shared.objects[target]? = some stream from before] at sole
                  have idle := sole session same _ (List.mem_of_getElem? found)
                  simp [Thread.reading, running] at idle
              | _ => cases reading
    | _ => trivial
  sequential pool self thread choice moved next holds present permitted taken := by
    rcases step_plan taken with ⟨action, planned, rfl⟩
    exact ⟨trivial, integrityKnown_step permitted.2.2 holds present planned⟩
  interferenceFree pool self thread choice moved next other bystander holds present permitted
      taken different found := by
    rcases permitted with ⟨used, _, formed⟩
    rcases step_plan taken with ⟨action, planned, rfl⟩
    exact integrityKnown_bystander formed holds present planned
      (formed.grows used present planned) different found

end Steps

theorem integrityOutline_initial (sender : End) (id : UInt32) :
    (integrityOutline sender id).Holds initialPool := by
  refine ⟨trivial, fun self thread present => ?_⟩
  have empty : Fed sender id initialPool.shared .readHeader := by
    refine ⟨[], rfl, fun ref stream found => ?_⟩
    simp [initialPool, Mux.new] at found
  rcases self with _ | _ | _
  · cases present; exact ⟨trivial, fun _ => ⟨trivial, (fun wrong => by cases wrong), empty⟩⟩
  · cases present; exact ⟨trivial, fun _ => ⟨trivial, (fun wrong => by cases wrong), empty⟩⟩
  · simp [initialPool] at present

theorem integrityOutline_of_run {sender : End} {id : UInt32}
    {events : List (PoolEvent Thread Choice)} {pool : MuxPool}
    {allowed : MuxPool → PoolEvent Thread Choice → Prop}
    (disciplined : ∀ pool event, allowed pool event →
      WellUsed pool event ∧ SoleReader sender.other id pool event)
    (run : program.machine.Run allowed initialPool events pool) :
    (integrityOutline sender id).Holds pool := by
  have known := run.strengthen fun _ _ before =>
    wellFormed_of_run (fun pool event permitted => (disciplined pool event permitted).1) before
  refine integrityOutline_valid.run (integrityOutline_initial sender id)
    (known.weaken fun pool event permitted => ?_)
  have kept := disciplined pool event permitted.1
  exact ⟨kept.1, kept.2, permitted.2⟩

end Rdpulse.TLSMux
