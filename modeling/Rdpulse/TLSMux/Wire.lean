import Rdpulse.TLSMux.Link

namespace Rdpulse.TLSMux

open Foundation

/-! The proof outline of the connection: the holder of a write token writes its
frame and nothing else, and each `readLoop` reads frame by frame. -/

def End.index : End → Nat
  | .client => 0
  | .server => 1

structure WritingKnown (holder : Nat) (link : Link) (frame : Frame) (point : WriteFramePoint) :
    Prop where
  small : point = .acquire → frame.payload.length ≤ maxFramePayload
  token : point.holdsToken = true → link.token = some holder
  left : point.holdsToken = true → link.broken = false → link.unwritten = point.rest

def WriterKnown (self : Nat) (mux : Mux) (thread : Thread) : Prop :=
  thread.inWriteFrame = true →
    ∃ side frame point, writes mux thread = some (side, frame, point) ∧
      WritingKnown self (mux.link side) frame point

def ReadingKnown (link : Link) : ReadLoopPoint → Prop
  | .readPayload id length =>
      link.headerTaken = true ∧ ∃ payload rest,
        link.ahead = dataFrame id payload :: rest ∧ payload.length = length
  | .readDatagram length =>
      link.headerTaken = true ∧ ∃ frame rest,
        link.ahead = frame :: rest ∧ frame.frameType = frameDatagram ∧
          frame.payload.length = length
  | .stopped _ _ => True
  | _ => link.headerTaken = false

def ReaderKnown (self : Nat) (mux : Mux) : Thread → Prop
  | .readLoop side point => self = side.index ∧ ReadingKnown (mux.link side.other) point
  | _ => True

def linkOutline : Program.Outline Mux Thread where
  global pool := ∀ side, (pool.shared.link side).Consistent
  assertion self pool thread :=
    WriterKnown self pool.shared thread ∧ ReaderKnown self pool.shared thread

/-! ## Steps of one direction -/

inductive LinkStep (holder : Nat) (reads : Prop) (link : Link) : Link → Prop
  | same : LinkStep holder reads link link
  | begin (frame : Frame) : link.token = none → frame.payload.length ≤ maxFramePayload →
      LinkStep holder reads link (link.takeToken holder frame)
  | write (bytes rest : Bytes) : link.token = some holder →
      link.unwritten = bytes ++ rest → LinkStep holder reads link (link.write bytes)
  | finish : link.token = some holder → (link.broken = false → link.unwritten = []) →
      LinkStep holder reads link { link with token := none }
  | break : LinkStep holder reads link { link with broken := true }
  | header : reads → link.headerTaken = false → frameHeaderSize ≤ link.bytes.length →
      LinkStep holder reads link (link.takeHeader true)
  | frame (frame : Frame) (rest : List Frame) : reads → link.headerTaken = false →
      frameHeaderSize ≤ link.bytes.length → link.ahead = frame :: rest →
      frame.payload = [] → LinkStep holder reads link (link.takeHeader false)
  | payload (frame : Frame) (rest : List Frame) : reads → link.headerTaken = true →
      link.ahead = frame :: rest → frame.payload.length ≤ link.bytes.length →
      LinkStep holder reads link (link.takePayload frame.payload.length)

theorem LinkStep.consistent {holder : Nat} {reads : Prop} {link moved : Link}
    (step : LinkStep holder reads link moved) (consistent : link.Consistent) :
    moved.Consistent := by
  cases step with
  | same => exact consistent
  | begin frame free small => exact consistent.takeToken holder frame free small
  | write bytes rest held left => exact consistent.write (by simp [held]) left
  | finish held finished => exact consistent.giveToken finished
  | «break» => exact consistent.break
  | header _ header available => exact consistent.takeHeader header available
  | frame frame rest _ header available ahead empty =>
      exact consistent.takeFrame header available ahead empty
  | payload frame rest _ header ahead available =>
      exact (consistent.takePayload header ahead available).1

theorem LinkStep.read_grows {holder : Nat} {reads : Prop} {link moved : Link}
    (step : LinkStep holder reads link moved) (consistent : link.Consistent) :
    link.read <+: moved.read := by
  cases step with
  | begin frame _ _ =>
      unfold Link.takeToken
      split
      · exact List.prefix_rfl
      · simp only [Link.read]
        rw [List.take_append_of_le_length consistent.bound]
  | frame frame rest _ _ _ ahead _ =>
      exact ⟨[frame], (Link.read_succ ahead).symm⟩
  | payload frame rest _ _ ahead _ =>
      exact ⟨[frame], (Link.read_succ ahead).symm⟩
  | _ => exact List.prefix_rfl

theorem LinkStep.writing {holder other : Nat} {reads : Prop} {link moved : Link}
    (step : LinkStep holder reads link moved) (different : other ≠ holder) {frame : Frame}
    {point : WriteFramePoint} (known : WritingKnown other link frame point) :
    WritingKnown other moved frame point := by
  have notHolder : point.holdsToken = true → link.token ≠ some holder := fun holds held =>
    different (Option.some.inj ((known.token holds).symm.trans held))
  cases step with
  | same => exact known
  | begin started free _ =>
      refine ⟨known.small, fun holds => ?_, fun holds => ?_⟩ <;>
        · have held := known.token holds
          simp [free] at held
  | write bytes rest held _ =>
      exact ⟨known.small, fun holds => absurd held (notHolder holds),
        fun holds => absurd held (notHolder holds)⟩
  | finish held _ =>
      exact ⟨known.small, fun holds => absurd held (notHolder holds),
        fun holds => absurd held (notHolder holds)⟩
  | «break» => exact ⟨known.small, known.token, fun _ whole => by simp at whole⟩
  | header => exact ⟨known.small, known.token, known.left⟩
  | frame => exact ⟨known.small, known.token, known.left⟩
  | payload => exact ⟨known.small, known.token, known.left⟩

theorem ahead_takeToken {link : Link} (consistent : link.Consistent) (holder : Nat)
    (frame : Frame) :
    (link.takeToken holder frame).ahead = link.ahead ∨
      (link.takeToken holder frame).ahead = link.ahead ++ [frame] := by
  unfold Link.takeToken
  split
  · exact .inl rfl
  · exact .inr (List.drop_append_of_le_length consistent.bound)

theorem LinkStep.reading {holder : Nat} {reads : Prop} {link moved : Link}
    (step : LinkStep holder reads link moved) (consistent : link.Consistent) (apart : ¬ reads)
    {point : ReadLoopPoint} (known : ReadingKnown link point) : ReadingKnown moved point := by
  have grows : ∀ {one : Link}, one.headerTaken = link.headerTaken →
      (one.ahead = link.ahead ∨ ∃ frame, one.ahead = link.ahead ++ [frame]) →
      ReadingKnown one point := by
    intro one header ahead
    unfold ReadingKnown at known ⊢
    split at known
    · rcases known with ⟨taken, payload, rest, next, length⟩
      refine ⟨header.trans taken, ?_⟩
      rcases ahead with same | ⟨frame, longer⟩
      · exact ⟨payload, rest, same.trans next, length⟩
      · exact ⟨payload, rest ++ [frame], by rw [longer, next]; rfl, length⟩
    · rcases known with ⟨taken, first, rest, next, isDatagram, length⟩
      refine ⟨header.trans taken, ?_⟩
      rcases ahead with same | ⟨frame, longer⟩
      · exact ⟨first, rest, same.trans next, isDatagram, length⟩
      · exact ⟨first, rest ++ [frame], by rw [longer, next]; rfl, isDatagram, length⟩
    · trivial
    · exact header.trans known
  cases step with
  | same => exact known
  | begin frame _ _ =>
      refine grows ?_ ((ahead_takeToken consistent holder frame).imp id fun longer => ⟨_, longer⟩)
      unfold Link.takeToken
      split <;> rfl
  | write => exact grows rfl (.inl rfl)
  | finish => exact grows rfl (.inl rfl)
  | «break» => exact grows rfl (.inl rfl)
  | header read => exact absurd read apart
  | frame _ _ read => exact absurd read apart
  | payload _ _ read => exact absurd read apart

/-! ## The steps of the threads -/

theorem linkStep_at {holder : Nat} {reads : Prop} {mux : Mux} {side : End}
    (change : Link → Link) (one : End)
    (step : LinkStep holder reads (mux.link side) (change (mux.link side))) :
    LinkStep holder reads (mux.link one)
      (if one = side then change (mux.link one) else mux.link one) := by
  by_cases same : one = side
  · subst same
    simpa using step
  · rw [if_neg same]
    exact .same

theorem writing_step {holder : Nat} (reads : Prop) {mux : Mux} {side : End}
    {contextEnds deadline : Bool} {frame : Frame} {choice : Choice}
    {point next : WriteFramePoint} {action : Action}
    (planned : planWriteFrame mux side contextEnds deadline frame choice point =
      some (action, next))
    (known : WritingKnown holder (mux.link side) frame point) :
    (∀ one, LinkStep holder reads (mux.link one) (action.onLink holder one (mux.link one))) ∧
      WritingKnown holder (action.onLink holder side (mux.link side)) frame next := by
  rcases planWriteFrame_cases planned with
    ⟨rfl, early, ⟨rfl, small⟩ | ⟨err, rfl⟩⟩ | ⟨rfl, rfl, rfl, free⟩ |
      ⟨rest, count, rfl, rfl, rfl, whole, _, fits⟩ | ⟨rfl, rfl, rfl⟩ |
      ⟨rest, rfl, rfl, _, rfl⟩ | ⟨err, rfl, rfl, rfl⟩
  · refine ⟨fun _ => .same, fun _ => small, ?_, ?_⟩ <;> simp [WriteFramePoint.holdsToken]
  · refine ⟨fun _ => .same, ?_, ?_, ?_⟩ <;> simp [WriteFramePoint.holdsToken]
  · have link : (mux.link side).token = none := free
    refine ⟨fun one => ?_, by simp, fun _ => ?_, fun _ whole => ?_⟩
    · exact linkStep_at ((·.takeToken holder frame)) one
        (.begin frame link (known.small rfl))
    · simp only [Action.onLink, if_true]
      unfold Link.takeToken
      split <;> rfl
    · simp only [Action.onLink, if_true] at whole ⊢
      unfold Link.takeToken at whole ⊢
      split at whole
      · rename_i broken
        simp [broken] at whole
      · rename_i intact
        rw [if_neg intact]
        rfl
  · have unwritten : (mux.link side).unwritten = rest := known.left rfl whole
    have held : (mux.link side).token = some holder := known.token rfl
    have parts : (mux.link side).unwritten = rest.take count ++ rest.drop count := by
      rw [unwritten, List.take_append_drop]
    refine ⟨fun one => ?_, by simp, fun _ => ?_, fun _ _ => ?_⟩
    · exact linkStep_at ((·.write (rest.take count))) one (.write _ _ held parts)
    · simpa [Action.onLink, Link.write] using held
    · simp [Action.onLink, Link.write, unwritten, WriteFramePoint.rest, List.length_take,
        Nat.min_eq_left fits]
  · exact ⟨fun _ => .same, by simp, fun _ => known.token rfl, fun _ whole => known.left rfl whole⟩
  · refine ⟨fun one => linkStep_at (fun link => { link with broken := true }) one .break,
      by simp, fun _ => ?_, fun _ whole => ?_⟩
    · simpa [Action.onLink] using known.token rfl
    · simp [Action.onLink] at whole
  · refine ⟨fun one => linkStep_at (fun link => { link with token := none }) one
      (.finish (known.token rfl) fun whole => known.left rfl whole), by simp, ?_, ?_⟩ <;> simp [WriteFramePoint.holdsToken]

theorem onLink_quiet (holder : Nat) (one : End) (link : Link) {action : Action}
    (notWrite : action.isWrite = false) (notTake : action.isTake = false) :
    action.onLink holder one link = link ∨
      action.onLink holder one link = { link with broken := true } := by
  cases action with
  | takeToken | writeBytes | breakWire | giveToken => cases notWrite
  | takeHeader | takePayload => cases notTake
  | closeConn side =>
      by_cases same : one = side
      · exact .inr (by simp [Action.onLink, same])
      · exact .inl (by simp [Action.onLink, same])
  | _ => exact .inl rfl

theorem linkStep_quiet {holder : Nat} {reads : Prop} {one : End} {link : Link}
    {action : Action} (notWrite : action.isWrite = false) (notTake : action.isTake = false) :
    LinkStep holder reads link (action.onLink holder one link) := by
  rcases onLink_quiet holder one link notWrite notTake with
    same | broken
  · rw [same]
    exact .same
  · rw [broken]
    exact .break

theorem readingKnown_of_header {link : Link} {point : ReadLoopPoint}
    (header : link.headerTaken = false) (ahead : point.awaitsPayload = false) :
    ReadingKnown link point := by
  cases point with
  | readPayload | readDatagram => cases ahead
  | stopped => trivial
  | _ => exact header

theorem header_of_readingKnown {link : Link} {point : ReadLoopPoint}
    (known : ReadingKnown link point) (ahead : point.awaitsPayload = false)
    (running : point.isStopped = false) : link.headerTaken = false := by
  cases point with
  | readPayload | readDatagram => cases ahead
  | stopped => cases running
  | _ => exact known

theorem readingKnown_stopped {link : Link} {point : ReadLoopPoint}
    (stopped : point.isStopped = true) : ReadingKnown link point := by
  cases point with
  | stopped => trivial
  | _ => cases stopped

theorem reading_step (holder : Nat) {mux : Mux} {side : End} {choice : Choice}
    {point next : ReadLoopPoint} {action : Action}
    (planned : planReadLoop mux side choice point = some (action, next))
    (notWrite : action.isWrite = false)
    (consistent : (mux.link side.other).Consistent)
    (known : ReadingKnown (mux.link side.other) point) :
    (∀ one, LinkStep holder (one = side.other) (mux.link one)
        (action.onLink holder one (mux.link one))) ∧
      ReadingKnown (action.onLink holder side.other (mux.link side.other)) next := by
  have at_ : ∀ (change : Link → Link) (one : End),
      LinkStep holder (side.other = side.other) (mux.link side.other)
        (change (mux.link side.other)) →
      LinkStep holder (one = side.other) (mux.link one)
        (if one = side.other then change (mux.link one) else mux.link one) := by
    intro change one step
    by_cases same : one = side.other
    · subst same
      simpa using step
    · rw [if_neg same]
      exact .same
  rcases planReadLoop_cases planned with
    ⟨rfl, available, ⟨check, _, rfl, rfl⟩ | ⟨payloadFollows, dispatched, rfl⟩⟩ |
      ⟨length, available, rfl, ⟨id, rfl, rfl⟩ | ⟨rfl, rfl⟩⟩ |
      ⟨notTake, noPayload, fromPayload, fromStopped⟩
  · exact ⟨fun one => at_ (·.takeHeader true) one (.header rfl known available), trivial⟩
  · rcases consistent.next known available with ⟨frame, rest, ahead, header⟩
    have received : decodeHeader (mux.wire side.other).bytes = frame.header := header
    rw [received] at dispatched
    rcases dispatch_ok dispatched with
      ⟨rfl, empty, ⟨_, _, _, rfl⟩ | ⟨_, rfl⟩⟩ | ⟨rfl, ⟨isData, rfl⟩ | ⟨isDatagram, rfl⟩⟩
    · have none : frame.payload = [] := List.length_eq_zero_iff.mp empty
      refine ⟨fun one => at_ (·.takeHeader false) one (.frame frame rest rfl known available
        ahead none), ?_⟩
      simpa [Action.onLink, Link.takeHeader, ReadingKnown] using known
    · have none : frame.payload = [] := List.length_eq_zero_iff.mp empty
      refine ⟨fun one => at_ (·.takeHeader false) one (.frame frame rest rfl known available
        ahead none), ?_⟩
      simpa [Action.onLink, Link.takeHeader, ReadingKnown] using known
    · refine ⟨fun one => at_ (·.takeHeader true) one (.header rfl known available), ?_⟩
      simp only [Action.onLink, if_true]
      refine ⟨rfl, frame.payload, rest, ?_, rfl⟩
      have whole : frame = dataFrame frame.streamID frame.payload := by
        cases frame
        cases isData
        rfl
      exact whole ▸ ahead
    · refine ⟨fun one => at_ (·.takeHeader true) one (.header rfl known available), ?_⟩
      simp only [Action.onLink, if_true]
      exact ⟨rfl, frame, rest, ahead, isDatagram, rfl⟩
  · rcases known with ⟨header, payload, rest, ahead, rfl⟩
    refine ⟨fun one => at_ (·.takePayload payload.length) one
      (.payload (dataFrame id payload) rest rfl header ahead available), ?_⟩
    simp [Action.onLink, Link.takePayload, ReadingKnown]
  · rcases known with ⟨header, frame, rest, ahead, _, rfl⟩
    refine ⟨fun one => at_ (·.takePayload frame.payload.length) one
      (.payload frame rest rfl header ahead available), ?_⟩
    simp [Action.onLink, Link.takePayload, ReadingKnown]
  · refine ⟨fun one => linkStep_quiet notWrite notTake, ?_⟩
    cases stopped : next.isStopped with
    | true => exact readingKnown_stopped stopped
    | false =>
        have header : (mux.link side.other).headerTaken = false := by
          refine header_of_readingKnown known ?_ ?_
          · cases ahead : point.awaitsPayload with
            | false => rfl
            | true => simp [fromPayload ahead] at stopped
          · cases running : point.isStopped with
            | false => rfl
            | true => simp [fromStopped running] at stopped
        refine readingKnown_of_header ?_ noPayload
        rcases onLink_quiet holder side.other (mux.link side.other) notWrite notTake with
          same | broken
        · rw [same]
          exact header
        · rw [broken]
          exact header

/-! ## The outline is valid -/

def Thread.readsFrom (thread : Thread) (one : End) : Prop :=
  ∃ point, thread = .readLoop one.other point

theorem LinkStep.weaken {holder : Nat} {reads weaker : Prop} {link moved : Link}
    (step : LinkStep holder reads link moved) (implies : reads → weaker) :
    LinkStep holder weaker link moved := by
  cases step with
  | same => exact .same
  | begin frame free small => exact .begin frame free small
  | write bytes rest held left => exact .write bytes rest held left
  | finish held finished => exact .finish held finished
  | «break» => exact .break
  | header read header available => exact .header (implies read) header available
  | frame frame rest read header available ahead empty =>
      exact .frame frame rest (implies read) header available ahead empty
  | payload frame rest read header ahead available =>
      exact .payload frame rest (implies read) header ahead available

theorem link_step {pool : MuxPool} {self : Nat} {thread next : Thread}
    {choice : Choice} {action : Action} (holds : linkOutline.Holds pool)
    (present : pool.threads[self]? = some thread)
    (planned : plan pool.shared thread choice = some (action, next)) :
    (∀ one, LinkStep self (thread.readsFrom one)
        (pool.shared.link one) ((action.apply self pool.shared).link one)) ∧
      WriterKnown self (action.apply self pool.shared) next ∧
      ReaderKnown self (action.apply self pool.shared) next := by
  have own := holds.thread self thread present
  simp only [apply_link]
  rcases plan_cases planned with
    ⟨side, frame, point, after, contextEnds, deadline, writing, inner, left⟩ |
      ⟨side, point, after, rfl, rfl, notWrite, inner⟩ |
      ⟨notWrite, notTake, outside, enters⟩
  · have within := inWriteFrame_of_writes writing
    rcases own.1 within with ⟨_, _, _, same, known⟩
    rw [writing] at same
    cases same
    refine ⟨fun one => (writing_step _ inner known).1 one, fun inside => ?_, ?_⟩
    · rcases left with ⟨still, _⟩ | ⟨gone, _⟩
      · refine ⟨side, frame, after, writes_apply self action still, ?_⟩
        rw [apply_link]
        exact (writing_step False inner known).2
      · simp [gone] at inside
    · cases next with
      | readLoop one last =>
          rcases plan_to_readLoop planned with ⟨point, rfl⟩
          cases within
      | _ => trivial
  · have consistent := holds.global side.other
    have step := reading_step self inner notWrite consistent own.2.2
    refine ⟨fun one => (step.1 one).weaken ?_, ?_, own.2.1, ?_⟩
    · rintro rfl
      exact ⟨point, by simp⟩
    · intro inside
      cases inside
    · rw [apply_link]
      exact step.2
  · refine ⟨fun one => linkStep_quiet notWrite notTake, fun inside => ?_, ?_⟩
    · rcases enters inside with ⟨side, frame, calling⟩
      refine ⟨side, frame, .check, writes_apply self action calling, ?_, ?_, ?_⟩ <;>
        simp [WriteFramePoint.holdsToken]
    · cases next with
      | readLoop side after =>
          rcases plan_to_readLoop planned with ⟨point, rfl⟩
          rcases plan_readLoop planned with ⟨_, inner, equal⟩
          cases equal
          have step := reading_step self inner notWrite (holds.global side.other) own.2.2
          refine ⟨own.2.1, ?_⟩
          rw [apply_link]
          exact step.2
      | _ => trivial

theorem readsFrom_sole {pool : MuxPool} (holds : linkOutline.Holds pool) {self other : Nat}
    {thread : Thread} {side : End} {point : ReadLoopPoint}
    (present : pool.threads[self]? = some thread)
    (found : pool.threads[other]? = some (.readLoop side point)) (different : other ≠ self) :
    ¬ thread.readsFrom side.other := by
  rintro ⟨one, rfl⟩
  have mine := (holds.thread self _ present).2.1
  have theirs := (holds.thread other _ found).2.1
  rw [End.other_other] at mine
  exact different (theirs.trans mine.symm)

theorem entry_outside {thread : Thread} (enters : program.entry thread = true) :
    thread.inWriteFrame = false := by
  cases thread with
  | openStream side point | sendDatagram side payload point | write ref data point
  | close ref point =>
      simp only [program, entry, decide_eq_true_eq] at enters
      subst enters
      rfl
  | _ => rfl

theorem linkOutline_valid (allowed : MuxPool → PoolEvent Thread Choice → Prop) :
    linkOutline.Valid program allowed where
  started pool thread holds enters _ := by
    refine ⟨holds.global, fun inside => ?_, ?_⟩
    · simp [entry_outside enters] at inside
    · cases thread with
      | readLoop => simp [program, entry] at enters
      | _ => trivial
  undisturbedByStart pool thread other bystander holds _ _ found :=
    holds.thread other bystander found
  sequential pool self thread choice moved next holds present _ taken := by
    rcases step_plan taken with ⟨action, planned, rfl⟩
    have step := link_step holds present planned
    exact ⟨fun one => (step.1 one).consistent (holds.global one), step.2⟩
  interferenceFree pool self thread choice moved next other bystander holds present _ taken
      different found := by
    rcases step_plan taken with ⟨action, planned, rfl⟩
    have step := link_step holds present planned
    have known := holds.thread other bystander found
    refine ⟨fun inside => ?_, ?_⟩
    · rcases known.1 inside with ⟨side, frame, point, writing, within⟩
      exact ⟨side, frame, point, writes_apply self action writing,
        (step.1 side).writing different within⟩
    · cases bystander with
      | readLoop side point =>
          exact ⟨known.2.1, (step.1 side.other).reading (holds.global side.other)
            (readsFrom_sole holds present found different) known.2.2⟩
      | _ => trivial

theorem linkOutline_initial : linkOutline.Holds initialPool := by
  refine ⟨fun side => ?_, fun self thread present => ?_⟩
  · refine ⟨Nat.le_refl 0, ?_, ?_, fun _ _ => rfl, ?_⟩ <;>
      simp [initialPool, Mux.new, Mux.link, Link.ahead, Link.offset, encodeAll]
  · rcases self with _ | _ | _
    · cases present
      exact ⟨(fun wrong => by cases wrong), rfl, rfl⟩
    · cases present
      exact ⟨(fun wrong => by cases wrong), rfl, rfl⟩
    · simp [initialPool] at present

/-- In every run the pipe of each direction holds what was begun and not read. -/
theorem linkOutline_of_run {allowed : MuxPool → PoolEvent Thread Choice → Prop}
    {events : List (PoolEvent Thread Choice)} {pool : MuxPool}
    (run : program.machine.Run allowed initialPool events pool) : linkOutline.Holds pool :=
  (linkOutline_valid allowed).run linkOutline_initial run

end Rdpulse.TLSMux
