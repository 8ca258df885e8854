import Rdpulse.TLSMux.Integrity

namespace Rdpulse.TLSMux

open Foundation

/-! The receiving half of a stream: what `readLoop` has read of it is what
`Read` has returned, what is still queued and what `readLoop` is about to queue. -/

/-- The second select of `Read` does not take the peer's CLOSE while frames of
the stream `id` are queued. -/
def DrainsFirst (receiver : End) (id : UInt32) (pool : MuxPool) :
    PoolEvent Thread Choice → Prop
  | .advance self .remoteDone =>
      match pool.threads[self]? with
      | some (.read ref _ .secondSelect) =>
          match pool.shared.objects[ref]? with
          | some stream => stream.session = receiver → stream.id = id → stream.incoming = []
          | none => True
      | _ => True
  | _ => True

instance (receiver : End) (id : UInt32) (pool : MuxPool) (event : PoolEvent Thread Choice) :
    Decidable (DrainsFirst receiver id pool event) := by
  unfold DrainsFirst
  casesm* PoolEvent _ _, Choice <;> try infer_instance
  rename_i self
  dsimp only
  generalize pool.threads[self]? = found
  casesm* Option Thread, Thread, ReadPoint <;> try infer_instance
  rename_i ref _
  dsimp only
  rcases pool.shared.objects[ref]? with _ | stream <;> infer_instance

/-! ## The outline of the receiver -/

def inHand (mux : Mux) (id : UInt32) : ReadLoopPoint → Bytes
  | .getStream one payload => if one = id then payload else []
  | .deliver ref payload =>
      match mux.objects[ref]? with
      | some stream => if stream.id = id then payload else []
      | none => []
  | _ => []

/-- A stream that is in the table and has not been closed locally has received
what has been read of it. -/
def Balanced (sender : End) (id : UInt32) (mux : Mux) (point : ReadLoopPoint) : Prop :=
  ∀ (ref : Nat) (stream : MuxStream), mux.objects[ref]? = some stream →
    stream.session = sender.other → stream.id = id →
    (id, ref) ∈ (mux.session sender.other).streams → stream.localDone = false →
    (payloads id (mux.link sender).read).flatten = stream.content ++ inHand mux id point

def ReadKnown (link : Link) (id : UInt32) (stream : MuxStream) : ReadPoint → Prop
  | .firstSelect | .secondSelect => stream.current = []
  | .returned (.error .eof) =>
      closeFrame id ∈ link.read ∧ stream.current = [] ∧ stream.incoming = []
  | _ => True

def ReceiveKnown (sender : End) (id : UInt32) (self : Nat) (pool : MuxPool) : Thread → Prop
  | .readLoop side point =>
      HandsOver pool.shared side point ∧
        (side = sender.other → LastRead sender id pool.shared point ∧
          ((pool.shared.session sender.other).done = true ∨
            Balanced sender id pool.shared point))
  | .read ref _ point =>
      ∀ stream, pool.shared.objects[ref]? = some stream → stream.session = sender.other →
        stream.id = id →
        (point.isReturned = false → Alone self pool ref) ∧
          ReadKnown (pool.shared.link sender) id stream point
  | _ => True

def RemoteClosed (sender : End) (id : UInt32) (mux : Mux) : Prop :=
  ∀ (ref : Nat) (stream : MuxStream), mux.objects[ref]? = some stream →
    stream.session = sender.other → stream.id = id → stream.remoteDone = true →
    closeFrame id ∈ (mux.link sender).read

def receiveOutline (sender : End) (id : UInt32) : Program.Outline Mux Thread where
  global pool := RemoteClosed sender id pool.shared
  assertion := ReceiveKnown sender id

/-! ## Steps -/

theorem inHand_eq (mux : Mux) (id : UInt32) (point : ReadLoopPoint) :
    inHand mux id point = (held mux id point).flatten := by
  cases point with
  | getStream one payload =>
      by_cases same : one = id <;> simp [inHand, held, same]
  | deliver ref payload =>
      cases present : mux.objects[ref]? with
      | none => simp [inHand, held, present]
      | some stream => by_cases same : stream.id = id <;> simp [inHand, held, present, same]
  | _ => rfl

section Steps

variable {sender : End} {id : UInt32} {self : Nat} {pool : MuxPool} {thread next : Thread}
  {choice : Choice} {action : Action}

theorem Fed.balanced {point : ReadLoopPoint} (fed : Fed sender id pool.shared point)
    (active : point.gaveUp = false) : Balanced sender id pool.shared point := by
  intro ref stream found session same entered undone
  rcases fed with ⟨settled, read, streams⟩
  rcases streams ref stream found session same with ⟨chunks, _, content, all⟩
  have whole := (all entered undone).2 active
  rw [read, List.flatten_append, content, whole, inHand_eq]

theorem IntegrityKnown.received {side : End} {point : ReadLoopPoint}
    (known : IntegrityKnown sender id self pool (.readLoop side point)) :
    ReceiveKnown sender id self pool (.readLoop side point) := by
  rcases known with ⟨hands, rest⟩
  refine ⟨hands, fun mine => ?_⟩
  rcases rest mine with ⟨last, gone, fed⟩
  refine ⟨last, ?_⟩
  cases gave : point.gaveUp with
  | true => exact .inl (gone gave)
  | false => exact .inr (fed.balanced gave)

theorem remoteDone_cases {ref : Nat} {stream : MuxStream}
    (done : (action.onObject ref stream).remoteDone = true) :
    stream.remoteDone = true ∨ action = .closeRemote ref := by
  cases action with
  | closeRemote target =>
      by_cases same : target = ref
      · exact .inr (by rw [same])
      · exact .inl (by simpa [Action.onObject, same] using done)
  | pushIncoming target | popIncoming target | consume target | setOnce target
  | closeLocal target | closeLocalOnce target | setDeadlines target =>
      by_cases same : target = ref <;> exact .inl (by simpa [Action.onObject, same] using done)
  | _ => exact .inl done

theorem remoteClosed_step (holds : (receiveOutline sender id).Holds pool)
    (present : pool.threads[self]? = some thread)
    (planned : plan pool.shared thread choice = some (action, next))
    (grows : Grows pool.shared (action.apply self pool.shared)) :
    RemoteClosed sender id (action.apply self pool.shared) := by
  intro ref moved found session same done
  have longer := (grows.read sender).subset
  rcases apply_objects_cases self found with ⟨stream, before, rfl⟩ | ⟨_, _, _, _, rfl⟩
  · simp only [onObject_session, onObject_id] at session same
    rcases remoteDone_cases done with already | rfl
    · exact longer (holds.global ref stream before session same already)
    · rcases plan_takenBy planned with ⟨side, rfl⟩
      rcases holds.thread self _ present with ⟨⟨one, again, also, theirs, _⟩, known⟩
      rw [before] at also
      cases also
      exact longer ((known (theirs.symm.trans session)).1 ⟨stream, before, session, same⟩)
  · cases done

theorem readKnown_step {ref capacity : Nat} {stream : MuxStream} {point after : ReadPoint}
    (holds : (receiveOutline sender id).Holds pool)
    (present : pool.threads[self]? = some (.read ref capacity point))
    (found : pool.shared.objects[ref]? = some stream) (session : stream.session = sender.other)
    (same : stream.id = id) (drains : DrainsFirst sender.other id pool (.advance self choice))
    (planned : planRead pool.shared stream ref capacity choice point = some (action, after)) :
    ReadKnown (pool.shared.link sender) id (action.onObject ref stream) after := by
  have known := (holds.thread self _ present stream found session same).2
  cases point with
  | start =>
      simp only [planRead] at planned
      split at planned <;> cases planned <;> trivial
  | check =>
      simp only [planRead] at planned
      split at planned
      · rename_i empty
        cases planned
        exact empty
      · cases planned
        trivial
  | firstSelect =>
      simp only [planRead] at planned
      split at planned
      · cases planned
        exact known
      · cases planned
        trivial
  | secondSelect =>
      simp only [planRead] at planned
      split at planned
      · split at planned <;> cases planned
        trivial
      · split at planned
        · rename_i closed
          cases planned
          simp only [DrainsFirst, present, found] at drains
          exact ⟨holds.global ref stream found session same closed, known, drains session same⟩
        · cases planned
      all_goals
        first
        | cases planned
        | (split at planned <;> cases planned; trivial)
  | copy =>
      cases planned
      trivial
  | returned => cases planned

theorem nothing_in_hand {point : ReadLoopPoint} (sends : SendSound sender id pool.shared)
    (hands : HandsOver pool.shared sender.other point)
    (last : LastRead sender id pool.shared point)
    (closed : closeFrame id ∈ (pool.shared.link sender).read) :
    inHand pool.shared id point = [] ∧
      ∀ before payload, (pool.shared.link sender).read ≠ before ++ [dataFrame id payload] := by
  have none : ∀ before payload,
      (pool.shared.link sender).read ≠ before ++ [dataFrame id payload] := by
    intro before payload read
    have earlier : closeFrame id ∈ before := by
      rw [read, List.mem_append, List.mem_singleton] at closed
      rcases closed with early | equal
      · exact early
      · have wrong := congrArg Frame.frameType equal
        simp [closeFrame, dataFrame, frameClose, frameData] at wrong
    have whole : (pool.shared.link sender).begun =
        before ++ (dataFrame id payload :: (pool.shared.link sender).ahead) := by
      rw [Link.begun_eq, read, List.append_assoc]
      rfl
    have silent := sends.silent before.length
    rw [whole, List.take_left, List.drop_left, ← List.singleton_append, payloads_append,
      payloads_dataFrame] at silent
    exact absurd (silent earlier) (by simp)
  refine ⟨?_, none⟩
  rcases held_cases hands last with empty | ⟨before, payload, read⟩
  · rw [inHand_eq, empty]
    rfl
  · exact absurd read (none before payload)

theorem readKnown_bystander {other ref capacity : Nat} {point : ReadPoint} {stream : MuxStream}
    (sends : SendSound sender id pool.shared) (fed : (integrityOutline sender id).Holds pool)
    (holds : (receiveOutline sender id).Holds pool)
    (present : pool.threads[self]? = some thread)
    (planned : plan pool.shared thread choice = some (action, next))
    (grows : Grows pool.shared (action.apply self pool.shared)) (different : other ≠ self)
    (found : pool.threads[other]? = some (.read ref capacity point))
    (before : pool.shared.objects[ref]? = some stream) (session : stream.session = sender.other)
    (same : stream.id = id) :
    ReadKnown ((action.apply self pool.shared).link sender) id (action.onObject ref stream)
      point := by
  rcases holds.thread other _ found stream before session same with ⟨alone, known⟩
  have stays : point.isReturned = false → stream.current = [] →
      (action.onObject ref stream).current = [] := by
    intro running empty
    rcases current_cases stream planned with unchanged | reading
    · rw [unchanged]
      exact empty
    · have idle := alone running self thread (Ne.symm different) present
      rw [reading] at idle
      cases idle
  cases point with
  | firstSelect => exact stays rfl known
  | secondSelect => exact stays rfl known
  | returned result =>
      cases result with
      | ok => trivial
      | error err =>
          cases err with
          | eof =>
              rcases known with ⟨closed, empty, none⟩
              have apart : ∀ payload, action ≠ .pushIncoming ref payload := by
                rintro payload rfl
                have loop := pushIncoming_loop fed present planned before
                subst loop
                rcases holds.thread self _ present with ⟨hands, rest⟩
                have last := (rest session).1
                rw [session] at hands
                rcases last ⟨stream, before, session, same⟩ with ⟨earlier, read⟩
                exact (nothing_in_hand sends hands last closed).2 earlier payload read
              refine ⟨(grows.read sender).subset closed, ?_⟩
              cases action with
              | pushIncoming target payload =>
                  have elsewhere : target ≠ ref := fun equal => apart payload (by rw [equal])
                  simpa [Action.onObject, elsewhere] using And.intro empty none
              | popIncoming target | consume target | setOnce target | closeLocal target
              | closeLocalOnce target | closeRemote target | setDeadlines target =>
                  by_cases here : target = ref <;> simp [Action.onObject, here, empty, none]
              | _ => exact ⟨empty, none⟩
          | _ => trivial
  | _ => trivial

theorem receiveKnown_bystander {other : Nat} {bystander : Thread} (formed : WellFormed pool)
    (sends : SendSound sender id pool.shared) (fed : (integrityOutline sender id).Holds pool)
    (holds : (receiveOutline sender id).Holds pool) (present : pool.threads[self]? = some thread)
    (planned : plan pool.shared thread choice = some (action, next))
    (grows : Grows pool.shared (action.apply self pool.shared)) (different : other ≠ self)
    (found : pool.threads[other]? = some bystander) :
    ReceiveKnown sender id other (pool.update self (action.apply self pool.shared) next)
      bystander := by
  have known := holds.thread other bystander found
  cases bystander with
  | readLoop side point =>
      exact (integrityKnown_bystander formed fed present planned grows different found).received
  | read ref capacity point =>
      intro moved after session same
      have granted := formed.streams.thread other _ found
      rcases granted_opened formed.streams granted with ⟨_, _, ⟨stream, before, _⟩, _⟩
      have old := apply_objects self action before
      have later : (action.apply self pool.shared).objects[ref]? = some moved := after
      rw [old] at later
      cases later
      simp only [onObject_session, onObject_id] at session same
      exact ⟨fun running => ((known stream before session same).1 running).update present planned _,
        readKnown_bystander sends fed holds present planned grows different found before session same⟩
  | _ => trivial

theorem receiveKnown_step (formed : WellFormed pool)
    (drains : DrainsFirst sender.other id pool (.advance self choice))
    (fed : (integrityOutline sender id).Holds pool)
    (holds : (receiveOutline sender id).Holds pool) (present : pool.threads[self]? = some thread)
    (planned : plan pool.shared thread choice = some (action, next)) :
    ReceiveKnown sender id self (pool.update self (action.apply self pool.shared) next) next := by
  have known := holds.thread self thread present
  cases next with
  | readLoop side after =>
      exact (integrityKnown_step formed fed present planned).received
  | read ref capacity after =>
      rcases plan_read planned with ⟨point, stream, rfl, found, inner⟩
      intro moved arrived session same
      have later : (action.apply self pool.shared).objects[ref]? = some moved := arrived
      rw [apply_objects self action found] at later
      cases later
      simp only [onObject_session, onObject_id] at session same
      have running : point.isReturned = false := by
        cases point with
        | returned => cases inner
        | _ => rfl
      refine ⟨fun _ => ((known stream found session same).1 running).update present planned _, ?_⟩
      have read := readKnown_step holds present found session same drains inner
      have unread : ((action.apply self pool.shared).link sender).read =
          (pool.shared.link sender).read := by
        rcases plan_cases planned with ⟨_, _, _, _, _, _, writing, _⟩ | ⟨_, _, _, other, _⟩ |
          ⟨notWrite, notTake, _⟩
        · cases writing
        · cases other
        · exact read_keeps self pool.shared sender notWrite notTake
      cases after with
      | returned result =>
          cases result with
          | ok => trivial
          | error err =>
              cases err with
              | eof =>
                  refine ⟨?_, read.2⟩
                  change closeFrame id ∈ ((action.apply self pool.shared).link sender).read
                  rw [unread]
                  exact read.1
              | _ => trivial
      | _ => exact read
  | _ => trivial

theorem receiveOutline_valid :
    (receiveOutline sender id).Valid program fun pool event =>
      WellUsed pool event ∧ SoleReader sender.other id pool event ∧
        DrainsFirst sender.other id pool event ∧ WellFormed pool ∧
        (sendOutline sender id).Holds pool ∧ (integrityOutline sender id).Holds pool where
  started pool thread holds enters permitted := by
    refine ⟨holds.global, ?_⟩
    cases thread with
    | readLoop => simp [program, entry] at enters
    | read ref capacity point =>
        simp only [program, entry, decide_eq_true_eq] at enters
        subst enters
        intro stream found session same
        have sole := permitted.2.1
        simp only [SoleReader] at sole
        rw [show pool.shared.objects[ref]? = some stream from found] at sole
        refine ⟨fun _ other thread different there => ?_, trivial⟩
        rcases Pool.start_cases there with old | ⟨rfl, _⟩
        · exact sole session same thread (List.mem_of_getElem? old)
        · exact absurd rfl different
    | _ => trivial
  undisturbedByStart pool thread other bystander holds enters permitted found := by
    have known := holds.thread other bystander found
    cases bystander with
    | readLoop => exact known
    | read ref capacity point =>
        intro stream before session same
        rcases known stream before session same with ⟨alone, read⟩
        refine ⟨fun running place added different there => ?_, read⟩
        rcases Pool.start_cases there with old | ⟨rfl, rfl⟩
        · exact alone running place added different old
        · cases reading : added.reading ref with
          | false => rfl
          | true =>
              cases added with
              | read target room point =>
                  simp only [Thread.reading, Bool.and_eq_true, decide_eq_true_eq] at reading
                  rcases reading with ⟨rfl, _⟩
                  have sole := permitted.2.1
                  simp only [SoleReader] at sole
                  rw [show pool.shared.objects[target]? = some stream from before] at sole
                  have idle := sole session same _ (List.mem_of_getElem? found)
                  simp [Thread.reading, running] at idle
              | _ => cases reading
    | _ => trivial
  sequential pool self thread choice moved next holds present permitted taken := by
    rcases permitted with ⟨used, _, drains, formed, _, fed⟩
    rcases step_plan taken with ⟨action, planned, rfl⟩
    exact ⟨remoteClosed_step holds present planned (formed.grows used present planned),
      receiveKnown_step formed drains fed holds present planned⟩
  interferenceFree pool self thread choice moved next other bystander holds present permitted
      taken different found := by
    rcases permitted with ⟨used, _, _, formed, sends, fed⟩
    rcases step_plan taken with ⟨action, planned, rfl⟩
    exact receiveKnown_bystander formed sends.global fed holds present planned
      (formed.grows used present planned) different found

end Steps

theorem receiveOutline_initial (sender : End) (id : UInt32) :
    (receiveOutline sender id).Holds initialPool := by
  refine ⟨fun ref stream found => ?_, fun self thread present => ?_⟩
  · simp [initialPool, Mux.new] at found
  · have empty : Balanced sender id initialPool.shared .readHeader := by
      intro ref stream found
      simp [initialPool, Mux.new] at found
    rcases self with _ | _ | _
    · cases present; exact ⟨trivial, fun _ => ⟨trivial, .inr empty⟩⟩
    · cases present; exact ⟨trivial, fun _ => ⟨trivial, .inr empty⟩⟩
    · simp [initialPool] at present

end Rdpulse.TLSMux
