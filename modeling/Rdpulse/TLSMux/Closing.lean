import Rdpulse.TLSMux.EndOfStream

namespace Rdpulse.TLSMux

open Foundation

/-! Closing a stream: `Close` puts one CLOSE frame on the wire, behind all that was begun
before the call, unless its timer fires while it waits for the write token. Then no CLOSE
frame is ever written. -/

/-! ## What has been sent -/

def Link.sent (link : Link) : List Frame :=
  if link.unwritten = [] then link.begun else link.begun.dropLast

theorem sent_prefix_begun (link : Link) : link.sent <+: link.begun := by
  unfold Link.sent
  split
  · exact List.prefix_rfl
  · exact List.dropLast_prefix _

def Link.closes (link : Link) (id : UInt32) : Nat := link.begun.count (closeFrame id)

def Link.LastUnwritten (link : Link) : Prop :=
  link.unwritten = [] ∨
    ∃ earlier frame, link.begun = earlier ++ [frame] ∧ link.unwritten <:+ frame.encode

section Sent

variable {holder : Nat} {reads : Prop} {link moved : Link}

theorem LinkStep.lastUnwritten (step : LinkStep holder reads link moved)
    (known : link.LastUnwritten) : moved.LastUnwritten := by
  cases step with
  | begin frame free _ =>
      unfold Link.takeToken
      split
      · exact known
      · exact .inr ⟨link.begun, frame, rfl, List.suffix_refl _⟩
  | write bytes rest _ left =>
      have moves : (link.write bytes).unwritten = rest := by
        rw [Link.write, left, List.drop_left]
      rcases known with none | ⟨earlier, frame, last, part⟩
      · rw [left, List.append_eq_nil_iff] at none
        exact .inl (moves.trans none.2)
      · refine .inr ⟨earlier, frame, last, ?_⟩
        rw [moves]
        exact (List.suffix_append bytes rest).trans (left ▸ part)
  | _ => exact known

theorem LinkStep.sent_grows (step : LinkStep holder reads link moved)
    (consistent : link.Consistent) : link.sent <+: moved.sent := by
  cases step with
  | begin frame free _ =>
      unfold Link.takeToken
      split
      · exact List.prefix_rfl
      · rename_i whole
        have idle := consistent.idle free (by simpa using whole)
        simp [Link.sent, idle, Frame.encode, Frame.encodeHeader]
  | write bytes rest _ left =>
      have moves : (link.write bytes).unwritten = rest := by
        rw [Link.write, left, List.drop_left]
      simp only [Link.sent, moves]
      change (if link.unwritten = [] then link.begun else link.begun.dropLast) <+:
        (if rest = [] then link.begun else link.begun.dropLast)
      split
      · rename_i none
        rw [left, List.append_eq_nil_iff] at none
        rw [if_pos none.2]
      · split
        · exact List.dropLast_prefix _
        · exact List.prefix_rfl
  | _ => exact List.prefix_rfl

theorem Link.LastUnwritten.accepted (known : link.LastUnwritten) (consistent : link.Consistent) :
    ∃ part, encodeAll link.sent ++ part =
      encodeAll link.read ++ (encodeAll link.ahead).take link.offset ++ link.bytes := by
  have whole : encodeAll link.begun =
      encodeAll link.read ++ (encodeAll link.ahead).take link.offset ++ link.bytes ++
        link.unwritten := by
    rw [Link.begun_eq, encodeAll_append, List.append_assoc, List.append_assoc,
      ← consistent.stream, List.take_append_drop]
  rcases known with none | ⟨earlier, frame, last, part, cut⟩
  · refine ⟨[], ?_⟩
    rw [none, List.append_nil] at whole
    rw [Link.sent, if_pos none, List.append_nil, whole]
  · by_cases none : link.unwritten = []
    · refine ⟨[], ?_⟩
      rw [none, List.append_nil] at whole
      rw [Link.sent, if_pos none, List.append_nil, whole]
    · refine ⟨part, ?_⟩
      rw [last, encodeAll_append] at whole
      have one : encodeAll [frame] = part ++ link.unwritten := by
        rw [cut]
        simp [encodeAll]
      rw [one, ← List.append_assoc] at whole
      rw [Link.sent, if_neg none, last, List.dropLast_concat]
      exact List.append_cancel_right whole

theorem lastUnwritten_of_run {allowed : MuxPool → PoolEvent Thread Choice → Prop}
    {events : List (PoolEvent Thread Choice)} {pool : MuxPool}
    (run : program.machine.Run allowed initialPool events pool) (side : End) :
    (pool.shared.link side).LastUnwritten := by
  have linked := run.strengthen fun _ _ past => linkOutline_of_run past
  apply linked.preserves (.inl rfl)
  intro middle event next known permitted step
  rcases Program.step_cases step with
    ⟨_, rfl, _, rfl⟩ | ⟨self, choice, thread, shared, after, rfl, present, taken, rfl⟩
  · exact known
  · rcases step_plan taken with ⟨action, planned, rfl⟩
    exact ((link_step permitted.2 present planned).1 side).lastUnwritten known

theorem sent_accepted {allowed : MuxPool → PoolEvent Thread Choice → Prop}
    {events : List (PoolEvent Thread Choice)} {pool : MuxPool}
    (run : program.machine.Run allowed initialPool events pool) (side : End) :
    ∃ part, encodeAll (pool.shared.link side).sent ++ part =
      encodeAll (pool.shared.link side).read ++
        (encodeAll (pool.shared.link side).ahead).take (pool.shared.link side).offset ++
        (pool.shared.link side).bytes :=
  (lastUnwritten_of_run run side).accepted ((linkOutline_of_run run).global side)

end Sent

/-! ## The condition and the claim -/

/-- A `Close` on the stream gives up waiting for the write token. -/
def GivesUp (ref : Nat) (pool : MuxPool) : PoolEvent Thread Choice → Prop
  | .advance self .contextDone => pool.threads[self]? = some (.close ref (.write .acquire))
  | _ => False

instance (ref : Nat) (pool : MuxPool) (event : PoolEvent Thread Choice) :
    Decidable (GivesUp ref pool event) := by
  unfold GivesUp
  casesm* PoolEvent _ _, Choice <;> infer_instance

/-- One CLOSE frame of the stream has been sent. It lies behind everything begun before
the call, and so behind the chunks of every `Write` that had returned. -/
def Informed (sender : End) (id : UInt32) (called pool : MuxPool) : Prop :=
  ∃ earlier later, (pool.shared.link sender).sent = earlier ++ closeFrame id :: later ∧
    closeFrame id ∉ earlier ∧ closeFrame id ∉ later ∧
    (called.shared.link sender).begun <+: earlier ∧
    ∀ (writer target total : Nat) (data : Bytes) (err : Option Err),
      called.threads[writer]? = some (.write target data (.returned total err)) →
      called.shared.Names target sender id →
      ∃ chunks : List Bytes, chunks.flatten = data.take total ∧
        chunks.Sublist (payloads id earlier)

/-! ## Before the call -/

structure CallSound (sender : End) (id : UInt32) (mux : Mux) : Prop where
  named : ∀ frame ∈ (mux.link sender).begun, frame.Concerns id → ∃ ref, mux.Names ref sender id
  closing : closeFrame id ∈ (mux.link sender).begun → ∀ (ref : Nat) (stream : MuxStream),
    mux.objects[ref]? = some stream → stream.session = sender → stream.id = id →
      stream.localOnce ≠ .idle

def CallKnown (sender : End) (id : UInt32) (mux : Mux) : Thread → Prop
  | .write ref data point =>
      ∀ stream, mux.objects[ref]? = some stream → stream.session = sender → stream.id = id →
        WrittenKnown (mux.link sender) id data point
  | .close ref point => point ≠ .once →
      ∀ stream, mux.objects[ref]? = some stream → stream.localOnce ≠ .idle
  | _ => True

def callOutline (sender : End) (id : UInt32) : Program.Outline Mux Thread where
  global pool := CallSound sender id pool.shared
  assertion _ pool thread := CallKnown sender id pool.shared thread

section Calls

variable {sender : End} {id : UInt32} {self : Nat} {pool : MuxPool} {thread next : Thread}
  {choice : Choice} {action : Action}

theorem granted_older {ref : Nat} {moved : MuxStream} (formed : WellFormed pool)
    (granted : Granted pool ref)
    (found : (action.apply self pool.shared).objects[ref]? = some moved) :
    ∃ stream, pool.shared.objects[ref]? = some stream ∧ moved = action.onObject ref stream := by
  rcases granted_opened formed.streams granted with ⟨_, _, ⟨stream, before, _⟩, _⟩
  rw [apply_objects self action before] at found
  cases found
  exact ⟨stream, before, rfl⟩

theorem plan_of_close {mux : Mux} {ref : Nat} {point : ClosePoint}
    (planned : plan mux (.close ref point) choice = some (action, next)) :
    ∃ stream after, mux.objects[ref]? = some stream ∧ next = .close ref after ∧
      planClose mux stream ref choice point = some (action, after) := by
  cases present : mux.objects[ref]? with
  | none => simp [plan, present] at planned
  | some stream =>
      simp only [plan, present, Option.map_eq_some_iff] at planned
      rcases planned with ⟨⟨taken, after⟩, inner, equal⟩
      cases equal
      exact ⟨stream, after, rfl, rfl, inner⟩

/-- Everything a step of `Close` can be. -/
theorem planClose_cases {mux : Mux} {ref : Nat} {stream : MuxStream} {point after : ClosePoint}
    (planned : planClose mux stream ref choice point = some (action, after)) :
    (point = .once ∧ stream.localOnce = .idle ∧ action = .setOnce ref .running ∧
      after = .signal) ∨
    (point = .once ∧ stream.localOnce = .finished ∧ action = .nothing ∧ after = .returned) ∨
    (point = .signal ∧ after = .remove) ∨
    (point = .remove ∧ after = .write .check) ∨
    (∃ inner written, point = .write inner ∧
      planWriteFrame mux stream.session true false (closeFrame stream.id) choice inner =
        some (action, written) ∧
      (after = .write written ∧ written.isReturned = false ∨
        after = .finish ∧ written.isReturned = true)) ∨
    (point = .finish ∧ action = .setOnce ref .finished ∧ after = .returned) := by
  cases point with
  | write inner =>
      simp only [planClose, Option.map_eq_some_iff] at planned
      rcases planned with ⟨⟨taken, written⟩, frame, equal⟩
      cases equal
      refine .inr (.inr (.inr (.inr (.inl ⟨inner, written, rfl, frame, ?_⟩))))
      cases written with
      | returned err => exact .inr ⟨rfl, rfl⟩
      | _ => exact .inl ⟨rfl, rfl⟩
  | once =>
      simp only [planClose] at planned
      split at planned
      all_goals cases planned
      · rename_i idle
        exact .inl ⟨rfl, idle, rfl, rfl⟩
      · rename_i finished
        exact .inr (.inl ⟨rfl, finished, rfl, rfl⟩)
  | _ =>
      cases planned
      try simp

theorem called_step {ref : Nat} {stream : MuxStream} {point after : ClosePoint}
    (known : point ≠ .once → stream.localOnce ≠ .idle)
    (planned : plan pool.shared (.close ref point) choice = some (action, .close ref after))
    (inner : planClose pool.shared stream ref choice point = some (action, after)) :
    (action.onObject ref stream).localOnce ≠ .idle := by
  rcases planClose_cases inner with
    ⟨_, _, rfl, _⟩ | ⟨_, finished, rfl, _⟩ | ⟨rfl, _⟩ | ⟨rfl, _⟩ | ⟨_, _, rfl, _⟩ | ⟨rfl, _⟩
  · simp [Action.onObject]
  · simp [Action.onObject, finished]
  all_goals exact notIdle_step planned (known (by simp))

theorem callOutline_valid :
    (callOutline sender id).Valid program fun pool event =>
      WellUsed pool event ∧ WellFormed pool where
  started pool thread holds enters _ := by
    refine ⟨holds.global, ?_⟩
    cases thread with
    | write ref data point | close ref point =>
        simp only [program, entry, decide_eq_true_eq] at enters
        subst enters
        first | exact fun _ _ _ _ => trivial | exact fun late => absurd rfl late
    | _ => trivial
  undisturbedByStart pool thread other bystander holds _ _ found :=
    holds.thread other bystander found
  sequential pool self thread choice moved next holds present permitted taken := by
    rcases permitted with ⟨used, formed⟩
    rcases step_plan taken with ⟨action, planned, rfl⟩
    have grows := formed.grows used present planned
    have known := holds.thread self thread present
    refine ⟨⟨named_step (CallSound.named holds.global) planned,
      closing_step formed.streams formed.tables (CallSound.named holds.global)
        (CallSound.closing holds.global) ?_ present planned⟩, ?_⟩
    · rintro ref point rfl running
      apply known
      rintro rfl
      cases running
    · cases next with
      | write ref data after =>
          rcases plan_write planned with ⟨point, stream, rfl, found, inner⟩
          intro later arrived session same
          have moved : (action.apply self pool.shared).objects[ref]? = some later := arrived
          rw [apply_objects self action found] at moved
          cases moved
          simp only [onObject_session, onObject_id] at session same
          have written := known stream found session same
          subst session
          subst same
          exact written_step grows written inner
      | close ref after =>
          rcases plan_close planned with ⟨point, stream, rfl, found, inner⟩
          intro _ later arrived
          have moved : (action.apply self pool.shared).objects[ref]? = some later := arrived
          rw [apply_objects self action found] at moved
          cases moved
          exact called_step (fun before => known before stream found) planned inner
      | _ => trivial
  interferenceFree pool self thread choice moved next other bystander holds present permitted
      taken _ found := by
    rcases permitted with ⟨used, formed⟩
    rcases step_plan taken with ⟨action, planned, rfl⟩
    have grows := formed.grows used present planned
    have known := holds.thread other bystander found
    cases bystander with
    | write ref data point =>
        intro moved after session same
        rcases granted_older formed (formed.streams.thread other _ found) after with
          ⟨stream, before, rfl⟩
        simp only [onObject_session, onObject_id] at session same
        exact (known stream before session same).grows (grows.begun sender) (grows.broken sender)
    | close ref point =>
        intro running moved after
        rcases granted_older formed (formed.streams.thread other _ found).1 after with
          ⟨stream, before, rfl⟩
        exact notIdle_step planned (known running stream before)
    | _ => trivial

theorem callOutline_initial (sender : End) (id : UInt32) :
    (callOutline sender id).Holds initialPool := by
  refine ⟨⟨(fun _ wrong => by cases wrong), fun wrong => by cases wrong⟩,
    fun self thread present => ?_⟩
  rcases self with _ | _ | _
  · cases present; trivial
  · cases present; trivial
  · simp [initialPool] at present

end Calls

/-! ## From the call on -/

def Mux.once (mux : Mux) (ref : Nat) : Option Once := (mux.objects[ref]?).map MuxStream.localOnce

def Thread.closing (ref : Nat) : Thread → Bool
  | .close target point => target = ref && point.isRunning
  | _ => false

def ClosesAlone (self : Nat) (pool : MuxPool) (ref : Nat) : Prop :=
  ∀ (other : Nat) (thread : Thread), other ≠ self → pool.threads[other]? = some thread →
    thread.closing ref = false

/-- The CLOSE frame has been sent once, or the connection or the session is gone. -/
def Settled (mux : Mux) (sender : End) (id : UInt32) : Prop :=
  ((mux.link sender).closes id = 1 ∧ closeFrame id ∈ (mux.link sender).sent) ∨
    (mux.link sender).broken = true ∨ (mux.session sender).done = true

def FrameKnown (mux : Mux) (sender : End) (id : UInt32) : WriteFramePoint → Prop
  | .check | .acquire => (mux.link sender).closes id = 0
  | .writing rest =>
      (mux.link sender).closes id = 1 ∨ (mux.link sender).broken = true ∧ rest ≠ []
  | .release _ | .returned _ => Settled mux sender id

def ClosingKnown (mux : Mux) (sender : End) (id : UInt32) : ClosePoint → Prop
  | .once | .returned => True
  | .signal | .remove => (mux.link sender).closes id = 0
  | .write point => FrameKnown mux sender id point
  | .finish => Settled mux sender id

structure CloseSound (sender : End) (id : UInt32) (ref : Nat) (pool : MuxPool) : Prop where
  granted : Granted pool ref
  names : pool.shared.Names ref sender id
  finished : pool.shared.once ref = some .finished → Settled pool.shared sender id

def CloseKnown (sender : End) (id : UInt32) (ref self : Nat) (pool : MuxPool) : Thread → Prop
  | .close target point => target = ref →
      (point.isRunning = true → pool.shared.once ref = some .running ∧
        ClosesAlone self pool ref ∧ ClosingKnown pool.shared sender id point) ∧
      (point = .returned → pool.shared.once ref = some .finished)
  | _ => True

def closeOutline (sender : End) (id : UInt32) (ref : Nat) : Program.Outline Mux Thread where
  global := CloseSound sender id ref
  assertion := CloseKnown sender id ref

/-! ### Steps -/

structure Quiet (sender : End) (id : UInt32) (mux moved : Mux) : Prop where
  closes : (moved.link sender).closes id = (mux.link sender).closes id
  sent : (mux.link sender).sent <+: (moved.link sender).sent
  broken : (mux.link sender).broken = true → (moved.link sender).broken = true
  done : (mux.session sender).done = true → (moved.session sender).done = true

section Closing

variable {sender : End} {id : UInt32} {ref self : Nat} {pool : MuxPool} {thread next : Thread}
  {choice : Choice} {action : Action}

theorem Settled.quiet {mux moved : Mux} (settled : Settled mux sender id)
    (quiet : Quiet sender id mux moved) : Settled moved sender id := by
  rcases settled with ⟨once, sent⟩ | broken | done
  · exact .inl ⟨quiet.closes.trans once, quiet.sent.subset sent⟩
  · exact .inr (.inl (quiet.broken broken))
  · exact .inr (.inr (quiet.done done))

theorem FrameKnown.quiet {mux moved : Mux} {point : WriteFramePoint}
    (known : FrameKnown mux sender id point) (quiet : Quiet sender id mux moved) :
    FrameKnown moved sender id point := by
  cases point with
  | check | acquire => exact quiet.closes.trans known
  | writing rest =>
      rcases known with once | ⟨broken, left⟩
      · exact .inl (quiet.closes.trans once)
      · exact .inr ⟨quiet.broken broken, left⟩
  | release | returned => exact Settled.quiet known quiet

theorem ClosingKnown.quiet {mux moved : Mux} {point : ClosePoint}
    (known : ClosingKnown mux sender id point) (quiet : Quiet sender id mux moved) :
    ClosingKnown moved sender id point := by
  cases point with
  | once | returned => trivial
  | signal | remove => exact quiet.closes.trans known
  | write point => exact FrameKnown.quiet known quiet
  | finish => exact Settled.quiet known quiet

theorem quiet_step (formed : WellFormed pool) (used : WellUsed pool (.advance self choice))
    (names : pool.shared.Names ref sender id) (present : pool.threads[self]? = some thread)
    (planned : plan pool.shared thread choice = some (action, next))
    (other : thread ≠ .close ref (.write .acquire)) :
    Quiet sender id pool.shared (action.apply self pool.shared) := by
  have grows := formed.grows used present planned
  have step := (link_step formed.links present planned).1 sender
  refine ⟨?_, step.sent_grows (formed.links.global sender), grows.broken sender,
    done_step self action⟩
  rcases begun_cases self pool.shared action sender with same | ⟨frame, rfl, longer⟩
  · rw [Link.closes, same, Link.closes]
  · have different : frame ≠ closeFrame id := by
      rintro rfl
      rcases writes_concerns (plan_takeToken planned) (closeFrame_concerns id) with
        ⟨target, theirs, ⟨_, _, _, _, _, _, data⟩ | ⟨rfl, _⟩⟩
      · have wrong := congrArg Frame.frameType data
        simp [closeFrame, dataFrame, frameClose, frameData] at wrong
      · rw [(StreamsKnown.sound formed.streams.global sender).unique theirs names] at other
        exact other rfl
    rw [Link.closes, longer, List.count_append, Link.closes,
      List.count_singleton, if_neg (by simpa using different), Nat.add_zero]

theorem once_cases (formed : WellFormed pool) (granted : Granted pool ref)
    (present : pool.threads[self]? = some thread)
    (planned : plan pool.shared thread choice = some (action, next)) :
    (action.apply self pool.shared).once ref = pool.shared.once ref ∨
      (pool.shared.once ref = some .idle ∧
        (action.apply self pool.shared).once ref = some .running ∧ thread = .close ref .once) ∨
      ((action.apply self pool.shared).once ref = some .finished ∧
        thread = .close ref .finish) := by
  rcases granted_opened formed.streams granted with ⟨_, _, ⟨stream, found, _⟩, _⟩
  simp only [Mux.once, apply_objects self action found, found, Option.map_some,
    Option.some.injEq]
  rcases localOnce_cases ref stream planned with same | ⟨_, rfl | rfl | ⟨side, err, rfl⟩⟩
  · exact .inl same
  · rcases plan_of_close planned with ⟨again, after, also, _, inner⟩
    rw [found] at also
    cases also
    rcases planClose_cases inner with
      ⟨_, idle, rfl, _⟩ | ⟨_, _, rfl, _⟩ | ⟨point, _⟩ | ⟨point, _⟩ | ⟨_, _, point, _⟩ |
        ⟨point, _⟩
    · exact .inr (.inl ⟨idle, by simp [Action.onObject], rfl⟩)
    · exact .inl rfl
    all_goals cases point
  · rcases plan_of_close planned with ⟨again, after, also, _, inner⟩
    rcases planClose_cases inner with
      ⟨point, _⟩ | ⟨point, _⟩ | ⟨point, _⟩ | ⟨point, _⟩ | ⟨_, _, point, _⟩ | ⟨_, rfl, _⟩
    · cases point
    · cases point
    · cases point
    · cases point
    · cases point
    · exact .inr (.inr ⟨by simp [Action.onObject], rfl⟩)
  · exact absurd present fun failing => granted_not_failing formed.streams granted failing

theorem closing_begins (planned : plan pool.shared thread choice = some (action, next))
    (outside : thread.closing ref = false) (inside : next.closing ref = true) :
    thread = .close ref .once ∧ pool.shared.once ref = some .idle := by
  cases next with
  | close target after =>
      simp only [Thread.closing, Bool.and_eq_true, decide_eq_true_eq] at inside
      rcases inside with ⟨rfl, running⟩
      rcases plan_close planned with ⟨point, stream, rfl, found, inner⟩
      simp only [Thread.closing, decide_true, Bool.true_and] at outside
      rcases planClose_cases inner with
        ⟨rfl, idle, _⟩ | ⟨_, _, _, rfl⟩ | ⟨rfl, _⟩ | ⟨rfl, _⟩ | ⟨_, _, rfl, _⟩ | ⟨rfl, _⟩
      · exact ⟨rfl, by rw [Mux.once, found, Option.map_some, idle]⟩
      · cases running
      all_goals cases outside
  | _ => cases inside

theorem closing_cases {thread : Thread} (inside : thread.closing ref = true) :
    ∃ point, thread = .close ref point ∧ point.isRunning = true := by
  cases thread with
  | close target point =>
      simp only [Thread.closing, Bool.and_eq_true, decide_eq_true_eq] at inside
      rcases inside with ⟨rfl, running⟩
      exact ⟨point, rfl, running⟩
  | _ => cases inside

theorem ClosesAlone.update {other : Nat} (alone : ClosesAlone other pool ref)
    (running : pool.shared.once ref = some .running)
    (planned : plan pool.shared thread choice = some (action, next))
    (present : pool.threads[self]? = some thread) :
    ClosesAlone other (pool.update self (action.apply self pool.shared) next) ref := by
  intro third bystander different found
  by_cases same : third = self
  · subst same
    rw [Pool.update_self present] at found
    cases found
    have outside := alone third thread different present
    by_contra inside
    rcases closing_begins planned outside (by simpa using inside) with ⟨_, idle⟩
    rw [running] at idle
    cases idle
  · rw [Pool.update_other pool same] at found
    exact alone third bystander different found

theorem frame_step {stream : MuxStream} {point after : WriteFramePoint}
    (formed : WellFormed pool) (used : WellUsed pool (.advance self choice))
    (patient : ¬GivesUp ref pool (.advance self choice))
    (present : pool.threads[self]? = some (.close ref (.write point)))
    (planned : plan pool.shared (.close ref (.write point)) choice = some (action, next))
    (found : pool.shared.objects[ref]? = some stream)
    (inner : planWriteFrame pool.shared stream.session true false (closeFrame stream.id) choice
      point = some (action, after))
    (known : FrameKnown pool.shared stream.session stream.id point) :
    FrameKnown (action.apply self pool.shared) stream.session stream.id after := by
  have names : pool.shared.Names ref stream.session stream.id := ⟨stream, found, rfl, rfl⟩
  have quiet (other : point ≠ .acquire) :
      Quiet stream.session stream.id pool.shared (action.apply self pool.shared) := by
    apply quiet_step formed used names present planned
    intro same
    cases same
    exact other rfl
  cases point with
  | check =>
      have calm := quiet (by simp)
      simp only [planWriteFrame, closeFrame, List.length_nil, Nat.not_lt_zero, if_false] at inner
      cases inner
      exact calm.closes.trans known
  | acquire =>
      cases choice with
      | proceed =>
          simp only [planWriteFrame] at inner
          split at inner
          · rename_i free
            cases inner
            have link := apply_link self pool.shared
              (.takeToken stream.session (closeFrame stream.id)) stream.session
            simp only [Action.onLink, if_true, Link.takeToken] at link
            split at link
            · rename_i broken
              refine .inr ⟨?_, by simp [Frame.encode, Frame.encodeHeader]⟩
              rw [link]
              exact broken
            · refine .inl ?_
              rw [link, Link.closes, List.count_append, List.count_singleton_self]
              exact congrArg (· + 1) known
          · cases inner
      | contextDone => exact absurd present patient
      | deadline => cases inner
      | sessionDone =>
          simp only [planWriteFrame] at inner
          split at inner
          · rename_i done
            cases inner
            exact .inr (.inr done)
          · cases inner
      | _ => cases inner
  | writing rest =>
      have calm := quiet (by simp)
      rcases planWriteFrame_cases inner with
        ⟨_, early, _⟩ | ⟨_, wrong, _⟩ | ⟨left, count, rfl, same, rfl, whole, _⟩ |
          ⟨rfl, same, rfl⟩ | ⟨left, rfl, _, _, rfl⟩ | ⟨_, _, wrong, _⟩
      · cases early
      · cases wrong
      · rcases known with once | ⟨broken, _⟩
        · exact .inl (calm.closes.trans once)
        · have intact : (pool.shared.link stream.session).broken = false := whole
          rw [intact] at broken
          cases broken
      · cases same
        rcases known with once | ⟨_, left⟩
        · cases broken : (pool.shared.link stream.session).broken with
          | true => exact .inr (.inl broken)
          | false =>
              -- The token is still held, and nothing of the frame is left.
              rcases (formed.links.thread self _ present).1 rfl with ⟨_, _, _, writing, held⟩
              simp only [writes, found, Option.map_some, Option.some.injEq] at writing
              cases writing
              have complete : (pool.shared.link stream.session).unwritten = [] :=
                held.left rfl broken
              refine .inl ⟨once, ?_⟩
              rw [Link.sent, Action.apply, if_pos complete]
              exact List.count_pos_iff.mp (Nat.lt_of_lt_of_eq Nat.one_pos once.symm)
        · exact absurd rfl left
      · refine .inr (.inl ?_)
        rw [apply_link]
        simp [Action.onLink]
      · cases wrong
  | release err =>
      have calm := quiet (by simp)
      cases inner
      exact Settled.quiet known calm
  | returned => cases inner

/-- What the steps after the call may use. -/
structure Patient (sender : End) (id : UInt32) (ref : Nat) (pool : MuxPool)
    (event : PoolEvent Thread Choice) : Prop where
  used : WellUsed pool event
  patient : ¬GivesUp ref pool event
  formed : WellFormed pool
  calls : (callOutline sender id).Holds pool

theorem closing_step_known {point after : ClosePoint} {stream : MuxStream}
    (permitted : Patient sender id ref pool (.advance self choice))
    (holds : (closeOutline sender id ref).Holds pool)
    (present : pool.threads[self]? = some (.close ref point))
    (planned : plan pool.shared (.close ref point) choice = some (action, .close ref after))
    (found : pool.shared.objects[ref]? = some stream)
    (inner : planClose pool.shared stream ref choice point = some (action, after))
    (running : after.isRunning = true) :
    ClosingKnown (action.apply self pool.shared) sender id after := by
  rcases CloseSound.names holds.global with ⟨again, also, rfl, rfl⟩
  rw [found] at also
  cases also
  have quiet (other : point ≠ .write .acquire) :
      Quiet stream.session stream.id pool.shared (action.apply self pool.shared) := by
    apply quiet_step permitted.formed permitted.used (CloseSound.names holds.global) present
      planned
    intro same
    cases same
    exact other rfl
  have known := (holds.thread self _ present rfl).1
  rcases planClose_cases inner with
    ⟨rfl, idle, _, rfl⟩ | ⟨_, _, _, rfl⟩ | ⟨rfl, rfl⟩ | ⟨rfl, rfl⟩ |
      ⟨frame, written, rfl, planning, left⟩ | ⟨_, _, rfl⟩
  · have none : (pool.shared.link stream.session).closes stream.id = 0 := by
      apply List.count_eq_zero.mpr
      intro begun
      exact CallSound.closing permitted.calls.global begun ref stream found rfl rfl idle
    exact (quiet (by simp)).closes.trans none
  · cases running
  · exact (quiet (by simp)).closes.trans (known rfl).2.2
  · exact (quiet (by simp)).closes.trans (known rfl).2.2
  · have after := frame_step permitted.formed permitted.used permitted.patient present planned
      found planning (known rfl).2.2
    rcases left with ⟨rfl, _⟩ | ⟨rfl, finished⟩
    · exact after
    · cases written with
      | returned err => exact after
      | _ => cases finished
  · cases running

theorem closeOutline_valid :
    (closeOutline sender id ref).Valid program (Patient sender id ref) where
  started pool thread holds enters _ := by
    have sound : CloseSound sender id ref pool := holds.global
    refine ⟨⟨sound.granted.start thread, sound.names, sound.finished⟩, ?_⟩
    cases thread with
    | close target point =>
        simp only [program, entry, decide_eq_true_eq] at enters
        subst enters
        exact fun _ => ⟨(fun wrong => by cases wrong), by simp⟩
    | _ => trivial
  undisturbedByStart pool thread other bystander holds enters _ found := by
    cases bystander with
    | close target point =>
        intro same
        refine ⟨fun running => ?_, (holds.thread other _ found same).2⟩
        rcases (holds.thread other _ found same).1 running with ⟨once, alone, known⟩
        refine ⟨once, fun third started different member => ?_, known⟩
        rcases Pool.start_cases member with old | ⟨_, rfl⟩
        · exact alone third started different old
        · by_contra inside
          rcases closing_cases (Bool.not_eq_false _ ▸ inside) with ⟨point, rfl, begun⟩
          simp only [program, entry, decide_eq_true_eq] at enters
          subst enters
          cases begun
    | _ => trivial
  sequential pool self thread choice moved next holds present permitted taken := by
    rcases step_plan taken with ⟨action, planned, rfl⟩
    have granted := CloseSound.granted holds.global
    have names := CloseSound.names holds.global
    have quiet := quiet_step permitted.formed permitted.used names present planned
    have once := once_cases permitted.formed granted present planned
    refine ⟨⟨granted.update present planned, names.apply self action, fun finished => ?_⟩, ?_⟩
    · rcases once with same | ⟨_, started, _⟩ | ⟨_, rfl⟩
      · have before : pool.shared.once ref = some .finished := same.symm.trans finished
        refine Settled.quiet (CloseSound.finished holds.global before) (quiet ?_)
        rintro rfl
        have running := ((holds.thread self _ present rfl).1 rfl).1
        rw [before] at running
        cases running
      · change (action.apply self pool.shared).once ref = _ at finished
        rw [started] at finished
        cases finished
      · exact Settled.quiet ((holds.thread self _ present rfl).1 rfl).2.2 (quiet (by simp))
    · cases next with
      | close target after =>
          rintro rfl
          rcases plan_close planned with ⟨point, stream, rfl, found, inner⟩
          refine ⟨fun running => ?_, ?_⟩
          rotate_left
          · rintro rfl
            rcases planClose_cases inner with
              ⟨_, _, _, wrong⟩ | ⟨_, finished, rfl, _⟩ | ⟨_, wrong⟩ | ⟨_, wrong⟩ |
                ⟨_, _, _, _, ⟨wrong, _⟩ | ⟨wrong, _⟩⟩ | ⟨_, rfl, _⟩
            · cases wrong
            · change pool.shared.once _ = _
              rw [Mux.once, found, Option.map_some, finished]
            · cases wrong
            · cases wrong
            · cases wrong
            · cases wrong
            · simp [Mux.once, apply_objects self _ found, Action.onObject]
          refine ⟨?_, ?_, closing_step_known permitted holds present planned found inner running⟩
          · rcases once with same | ⟨_, started, _⟩ | ⟨_, finishing⟩
            · have known := (holds.thread self _ present rfl).1
              rcases planClose_cases inner with
                ⟨rfl, _, rfl, _⟩ | ⟨_, _, _, rfl⟩ | ⟨rfl, _⟩ | ⟨rfl, _⟩ | ⟨_, _, rfl, _⟩ |
                  ⟨_, _, rfl⟩
              · simp [Mux.once, apply_objects self _ found, Action.onObject]
              · cases running
              · exact same.trans (known rfl).1
              · exact same.trans (known rfl).1
              · exact same.trans (known rfl).1
              · cases running
            · exact started
            · cases finishing
              cases inner
              cases running
          · -- Whoever else ran its `sync.Once` would have kept this thread from entering.
            intro other bystander different theirs
            rw [Pool.update_other pool different] at theirs
            by_contra inside
            rcases closing_cases (Bool.not_eq_false _ ▸ inside) with ⟨place, rfl, begun⟩
            rcases (holds.thread other _ theirs rfl).1 begun with ⟨taken, alone, _⟩
            have outside := alone self _ (Ne.symm different) present
            rcases closing_begins planned outside (by simp [Thread.closing, running]) with
              ⟨_, idle⟩
            rw [taken] at idle
            cases idle
      | _ => trivial
  interferenceFree pool self thread choice moved next other bystander holds present permitted
      taken different found := by
    rcases step_plan taken with ⟨action, planned, rfl⟩
    cases bystander with
    | close target point =>
        rintro rfl
        have theirs := holds.thread other _ found rfl
        have once := once_cases permitted.formed (CloseSound.granted holds.global) present planned
        refine ⟨fun running => ?_, fun returned => ?_⟩
        rotate_left
        · have before := theirs.2 returned
          rcases once with same | ⟨idle, _⟩ | ⟨finished, _⟩
          · exact same.trans before
          · rw [before] at idle
            cases idle
          · exact finished
        rcases theirs.1 running with ⟨ran, alone, known⟩
        have outside := alone self thread (Ne.symm different) present
        refine ⟨?_, alone.update ran planned present, known.quiet (quiet_step permitted.formed
          permitted.used (CloseSound.names holds.global) present planned ?_)⟩
        · rcases once with same | ⟨idle, _⟩ | ⟨_, rfl⟩
          · exact same.trans ran
          · rw [ran] at idle
            cases idle
          · simp [Thread.closing, ClosePoint.isRunning] at outside
        · rintro rfl
          simp [Thread.closing, ClosePoint.isRunning] at outside
    | _ => trivial

/-! ### After giving up -/

/-- The `Close` of the stream has given up: its CLOSE frame will never be written. -/
structure Missed (sender : End) (id : UInt32) (ref : Nat) (pool : MuxPool) : Prop where
  granted : Granted pool ref
  names : pool.shared.Names ref sender id
  none : (pool.shared.link sender).closes id = 0
  begun : pool.shared.once ref ≠ some .idle
  finishing : ∀ (self : Nat) (point : ClosePoint), pool.threads[self]? = some (.close ref point) →
    point.isRunning = true → point = .finish

theorem Missed.step (missed : Missed sender id ref pool) (formed : WellFormed pool)
    (used : WellUsed pool (.advance self choice)) (present : pool.threads[self]? = some thread)
    (planned : plan pool.shared thread choice = some (action, next)) :
    Missed sender id ref (pool.update self (action.apply self pool.shared) next) := by
  refine ⟨missed.granted.update present planned, missed.names.apply self action, ?_, ?_, ?_⟩
  · have quiet := quiet_step formed used missed.names present planned
    refine (quiet ?_).closes.trans missed.none
    rintro rfl
    cases missed.finishing self _ present rfl
  · rcases once_cases formed missed.granted present planned with
      same | ⟨idle, _⟩ | ⟨finished, _⟩
    · exact fun idle => missed.begun (same.symm.trans idle)
    · exact absurd idle missed.begun
    · intro idle
      rw [Pool.update_shared, finished] at idle
      cases idle
  · intro other point found running
    by_cases same : other = self
    · subst same
      rw [Pool.update_self present] at found
      cases found
      cases inside : thread.closing ref with
      | false =>
          rcases closing_begins planned inside (by simp [Thread.closing, running]) with ⟨_, idle⟩
          exact absurd idle missed.begun
      | true =>
          rcases closing_cases inside with ⟨before, rfl, began⟩
          cases missed.finishing other before present began
          rcases plan_of_close planned with ⟨_, _, _, equal, inner⟩
          cases equal
          cases inner
          cases running
    · rw [Pool.update_other pool same] at found
      exact missed.finishing other point found running

theorem missed_of_run {events : List (PoolEvent Thread Choice)} {finish : MuxPool}
    (missed : Missed sender id ref pool)
    (run : program.machine.Run (fun pool event => WellUsed pool event ∧ WellFormed pool)
      pool events finish) : Missed sender id ref finish := by
  apply run.preserves missed
  intro middle event next missed permitted step
  rcases Program.step_cases step with
    ⟨added, rfl, enters, rfl⟩ | ⟨self, choice, thread, shared, after, rfl, present, taken, rfl⟩
  · refine ⟨missed.granted.start added, missed.names, missed.none, missed.begun,
      fun other point found running => ?_⟩
    rcases Pool.start_cases found with old | ⟨_, rfl⟩
    · exact missed.finishing other point old running
    · simp only [program, entry, decide_eq_true_eq] at enters
      subst enters
      cases running
  · rcases step_plan taken with ⟨action, planned, rfl⟩
    exact missed.step permitted.2 permitted.1 present planned

theorem missed_of_givesUp {event : PoolEvent Thread Choice} {later : MuxPool}
    (holds : (closeOutline sender id ref).Holds pool) (givesUp : GivesUp ref pool event)
    (step : program.machine.step pool event = some later) : Missed sender id ref later := by
  have sound : CloseSound sender id ref pool := holds.global
  rcases Program.step_cases step with
    ⟨added, rfl, _⟩ | ⟨self, choice, thread, shared, after, rfl, present, taken, rfl⟩
  · cases givesUp
  · have given : choice = .contextDone ∧ thread = .close ref (.write .acquire) := by
      cases choice with
      | contextDone =>
          rw [GivesUp, present, Option.some.injEq] at givesUp
          exact ⟨rfl, givesUp⟩
      | _ => cases givesUp
    rcases given with ⟨rfl, rfl⟩
    rcases (holds.thread self _ present rfl).1 rfl with ⟨once, alone, none⟩
    rcases step_plan taken with ⟨action, planned, rfl⟩
    rcases plan_of_close planned with ⟨stream, last, found, rfl, inner⟩
    cases inner
    refine ⟨sound.granted.update present planned, sound.names, none, ?_, ?_⟩
    · rw [Pool.update_shared, Action.apply, once]
      simp
    · intro other point there running
      by_cases same : other = self
      · subst same
        rw [Pool.update_self present] at there
        cases there
        rfl
      · rw [Pool.update_other pool same] at there
        have outside := alone other _ same there
        simp [Thread.closing, running] at outside

end Closing

/-! ## The claim -/

section Runs

variable {before after : List (PoolEvent Thread Choice)} {called pool : MuxPool}
  {self ref : Nat} {stream : MuxStream}

theorem callOutline_of_run {sender : End} {id : UInt32}
    {allowed : MuxPool → PoolEvent Thread Choice → Prop}
    (used : ∀ pool event, allowed pool event → WellUsed pool event)
    (run : program.machine.Run allowed initialPool before pool) :
    (callOutline sender id).Holds pool := by
  have known := run.strengthen fun _ _ past => wellFormed_of_run used past
  exact callOutline_valid.run (callOutline_initial sender id)
    (known.weaken fun pool event permitted => ⟨used pool event permitted.1, permitted.2⟩)

theorem closeOutline_called (earlier : program.machine.Run WellUsed initialPool before called)
    (calls : called.threads[self]? = some (.close ref .once))
    (found : called.shared.objects[ref]? = some stream) (first : stream.localOnce = .idle) :
    (closeOutline stream.session stream.id ref).Holds called := by
  have formed := wellFormed_of_run (fun _ _ used => used) earlier
  have known := @callOutline_of_run before called stream.session stream.id WellUsed
    (fun _ _ used => used) earlier
  refine ⟨⟨(formed.streams.thread self _ calls).1, ⟨stream, found, rfl, rfl⟩, fun finished => ?_⟩,
    fun other thread present => ?_⟩
  · rw [Mux.once, found, Option.map_some, first] at finished
    cases finished
  · cases thread with
    | close target point =>
        rintro rfl
        have unused (late : point ≠ .once) : False :=
          known.thread other _ present late stream found first
        refine ⟨fun running => (unused ?_).elim, fun returned => (unused ?_).elim⟩
        · rintro rfl
          cases running
        · rintro rfl
          cases returned
    | _ => trivial

/-- The outline holds as long as no `Close` of the stream gives up. -/
theorem closeOutline_of_run (earlier : program.machine.Run WellUsed initialPool before called)
    (calls : called.threads[self]? = some (.close ref .once))
    (found : called.shared.objects[ref]? = some stream) (first : stream.localOnce = .idle)
    (run : program.machine.Run (fun pool event => WellUsed pool event ∧ ¬GivesUp ref pool event)
      called after pool) : (closeOutline stream.session stream.id ref).Holds pool := by
  have whole {past : List (PoolEvent Thread Choice)} {middle : MuxPool}
      (later : program.machine.Run
        (fun pool event => WellUsed pool event ∧ ¬GivesUp ref pool event) called past middle) :
      program.machine.Run WellUsed initialPool (before ++ past) middle :=
    earlier.append (later.weaken fun _ _ permitted => permitted.1)
  have known := run.strengthen fun _ _ past =>
    And.intro (wellFormed_of_run (fun _ _ used => used) (whole past))
      (@callOutline_of_run _ _ stream.session stream.id _ (fun _ _ used => used) (whole past))
  exact closeOutline_valid.run (closeOutline_called earlier calls found first)
    (known.weaken fun _ _ permitted =>
      ⟨permitted.1.1, permitted.1.2, permitted.2.1, permitted.2.2⟩)

theorem split_at_only {Item : Type} [DecidableEq Item] {items start : List Item} {item : Item}
    (once : items.count item = 1) (begins : start <+: items) (without : item ∉ start) :
    ∃ earlier later, items = earlier ++ item :: later ∧ item ∉ earlier ∧ item ∉ later ∧
      start <+: earlier := by
  have member : item ∈ items := List.count_pos_iff.mp (by omega)
  rcases List.append_of_mem member with ⟨earlier, later, rfl⟩
  simp only [List.count_append, List.count_cons_self] at once
  have before : item ∉ earlier := List.count_eq_zero.mp (by omega)
  refine ⟨earlier, later, rfl, before, List.count_eq_zero.mp (by omega), ?_⟩
  have upTo : earlier ++ [item] <+: earlier ++ item :: later := ⟨later, by simp⟩
  rcases List.prefix_or_prefix_of_prefix begins upTo with within | beyond
  · rcases List.prefix_concat_iff.mp within with rfl | shorter
    · exact absurd (by simp) without
    · exact shorter
  · exact absurd (beyond.subset (by simp)) without

theorem begun_of_run
    (run : program.machine.Run (fun pool event => WellUsed pool event ∧ WellFormed pool)
      called after pool) (side : End) :
    (called.shared.link side).begun <+: (pool.shared.link side).begun := by
  apply run.preserves List.prefix_rfl
  intro middle event next grown permitted step
  rcases Program.step_cases step with
    ⟨_, rfl, _, rfl⟩ | ⟨self, choice, thread, shared, after, rfl, present, taken, rfl⟩
  · exact grown
  · rcases step_plan taken with ⟨action, planned, rfl⟩
    exact grown.trans ((permitted.2.grows permitted.1 present planned).begun side)

/-- The first `Close` of a stream has returned, the session is open and the connection has
accepted every write. Then the peer is informed exactly if no `Close` of the stream gave up
waiting for the write token. -/
theorem close_informs_iff (earlier : program.machine.Run WellUsed initialPool before called)
    (calls : called.threads[self]? = some (.close ref .once))
    (found : called.shared.objects[ref]? = some stream) (first : stream.localOnce = .idle)
    (run : program.machine.Run WellUsed called after pool)
    (returned : pool.threads[self]? = some (.close ref .returned))
    (sessionOpen : (pool.shared.session stream.session).done = false)
    (accepted : (pool.shared.wire stream.session).broken = false) :
    Informed stream.session stream.id called pool ↔
      program.machine.Run (fun pool event => WellUsed pool event ∧ ¬GivesUp ref pool event)
        called after pool := by
  have formed {past : List (PoolEvent Thread Choice)} {middle : MuxPool}
      (later : program.machine.Run WellUsed called past middle) : WellFormed middle :=
    wellFormed_of_run (fun _ _ used => used) (earlier.append later)
  have known := run.strengthen fun _ _ past => formed past
  have calling := @callOutline_of_run before called stream.session stream.id WellUsed
    (fun _ _ used => used) earlier
  have unsent : closeFrame stream.id ∉ (called.shared.link stream.session).begun :=
    fun begun => CallSound.closing calling.global begun ref stream found rfl rfl first
  constructor
  · rintro ⟨sentBefore, sentAfter, sent, _⟩
    rcases run.all_or_first with patient |
      ⟨past, event, future, middle, next, patient, used, givesUp, step, rest⟩
    · exact patient
    · have holds := closeOutline_of_run earlier calls found first patient
      have missed := missed_of_givesUp holds givesUp step
      have reached := (patient.weaken fun _ _ permitted => permitted.1).snoc used step
      have lasting := rest.strengthen fun _ _ later => formed (reached.append later)
      have none := (missed_of_run missed lasting).none
      have member : closeFrame stream.id ∈ (pool.shared.link stream.session).sent := by
        rw [sent]
        simp
      exact absurd ((sent_prefix_begun _).subset member) (List.count_eq_zero.mp none)
  · intro patient
    have holds := closeOutline_of_run earlier calls found first patient
    have finished := (holds.thread self _ returned rfl).2 rfl
    rcases CloseSound.finished holds.global finished with ⟨once, member⟩ | broken | done
    · have grown := begun_of_run known stream.session
      have whole := sent_prefix_begun (pool.shared.link stream.session)
      have begins : (called.shared.link stream.session).begun <+:
          (pool.shared.link stream.session).sent := by
        rcases List.prefix_or_prefix_of_prefix grown whole with within | beyond
        · exact within
        · exact absurd (beyond.subset member) unsent
      have single : (pool.shared.link stream.session).sent.count (closeFrame stream.id) = 1 :=
        Nat.le_antisymm (once ▸ whole.sublist.count_le _) (List.count_pos_iff.mpr member)
      rcases split_at_only single begins unsent with
        ⟨sentBefore, sentAfter, sent, fresh, last, behind⟩
      refine ⟨sentBefore, sentAfter, sent, fresh, last, behind, ?_⟩
      rintro writer target total data err wrote ⟨written, present, theirs, same⟩
      rcases (calling.thread writer _ wrote written present theirs same).1 with ⟨chunks, all, begun⟩
      exact ⟨chunks, all, begun.trans (payloads_grows behind)⟩
    · rw [show (pool.shared.link stream.session).broken = false from accepted] at broken
      cases broken
    · rw [sessionOpen] at done
      cases done

end Runs

/-! ## Two runs -/

/-- The client opens two streams, writes a byte on the first and calls `Close` on it. -/
def closeCalled : List (PoolEvent Thread Choice) :=
  [.spawn (.openStream .client .drawID), .advance 2 .proceed, .advance 2 .proceed,
    .advance 2 .proceed, .advance 2 .proceed, .advance 2 (.wrote 9), .advance 2 .proceed,
    .advance 2 .proceed,
    .spawn (.openStream .client .drawID), .advance 3 .proceed, .advance 3 .proceed,
    .advance 3 .proceed, .advance 3 .proceed, .advance 3 (.wrote 9), .advance 3 .proceed,
    .advance 3 .proceed,
    .spawn (.write 0 [7] .start), .advance 4 .proceed, .advance 4 .proceed, .advance 4 .proceed,
    .advance 4 .proceed, .advance 4 (.wrote 10), .advance 4 .proceed, .advance 4 .proceed,
    .advance 4 .proceed, .spawn (.close 0 .once)]

def otherWrites : List (PoolEvent Thread Choice) :=
  [.spawn (.write 1 [1, 2, 3] .start), .advance 6 .proceed, .advance 6 .proceed,
    .advance 6 .proceed, .advance 6 .proceed, .advance 6 (.wrote 4)]

def closeWaits : List (PoolEvent Thread Choice) :=
  [.advance 5 .proceed, .advance 5 .proceed, .advance 5 .proceed, .advance 5 .proceed]

def otherReturns : List (PoolEvent Thread Choice) :=
  [.advance 6 (.wrote 8), .advance 6 .proceed, .advance 6 .proceed, .advance 6 .proceed]

def closeSends : List (PoolEvent Thread Choice) :=
  otherWrites ++ closeWaits ++ otherReturns ++
    [.advance 5 .proceed, .advance 5 (.wrote 9), .advance 5 .proceed, .advance 5 .proceed,
      .advance 5 .proceed]

/-- Its timer fires before that. -/
def closeGivesUp : List (PoolEvent Thread Choice) :=
  otherWrites ++ closeWaits ++ [.advance 5 .contextDone, .advance 5 .proceed] ++ otherReturns

theorem exists_called (allowed : MuxPool → PoolEvent Thread Choice → Prop)
    (holds : MuxPool → Prop) (after : List (PoolEvent Thread Choice))
    (attains : program.machine.Attains WellUsed (fun called =>
      called.threads[5]? = some (.close 0 .once) ∧
        (∃ stream ∈ called.shared.objects[0]?, stream.session = .client ∧ stream.id = 1 ∧
          stream.localOnce = .idle) ∧
        program.machine.Attains allowed holds called after) initialPool closeCalled) :
    ∃ called pool stream, program.machine.Run WellUsed initialPool closeCalled called ∧
      called.threads[5]? = some (.close 0 .once) ∧ called.shared.objects[0]? = some stream ∧
      stream.session = .client ∧ stream.id = 1 ∧ stream.localOnce = .idle ∧
      program.machine.Run allowed called after pool ∧ holds pool := by
  rcases program.machine.exists_run WellUsed _ initialPool closeCalled attains with
    ⟨called, earlier, calls, ⟨stream, found, session, same, first⟩, onward⟩
  rcases program.machine.exists_run allowed holds called after onward with ⟨pool, run, reached⟩
  exact ⟨called, pool, stream, earlier, calls, found, session, same, first, run, reached⟩

/-- The `Close` that waits informs the peer. -/
theorem close_informs_iff_waiting :
    ∃ called pool, program.machine.Run WellUsed initialPool closeCalled called ∧
      program.machine.Run WellUsed called closeSends pool ∧
      pool.threads[5]? = some (.close 0 .returned) ∧ Informed .client 1 called pool := by
  rcases exists_called (fun pool event => WellUsed pool event ∧ ¬GivesUp 0 pool event)
    (fun pool => pool.threads[5]? = some (.close 0 .returned) ∧
      (pool.shared.session .client).done = false ∧ (pool.shared.wire .client).broken = false)
    closeSends (by decide +kernel) with
    ⟨called, pool, stream, earlier, calls, found, session, same, first, run, returned, open_,
      accepted⟩
  have used := run.weaken fun _ _ permitted => permitted.1
  refine ⟨called, pool, earlier, used, returned, ?_⟩
  have informs := (close_informs_iff earlier calls found first used returned
    (session ▸ open_) (session ▸ accepted)).mpr run
  rw [session, same] at informs
  exact informs

/-- `Close` has returned, the session is open and the connection has accepted every write.
No CLOSE frame was written. -/
theorem close_returns_uninformed :
    ∃ called pool stream, program.machine.Run WellUsed initialPool closeCalled called ∧
      called.threads[5]? = some (.close 0 .once) ∧ called.shared.objects[0]? = some stream ∧
      stream.session = .client ∧ stream.id = 1 ∧ stream.localOnce = .idle ∧
      program.machine.Run WellUsed called closeGivesUp pool ∧
      pool.threads[5]? = some (.close 0 .returned) ∧
      (∀ side, (pool.shared.session side).done = false ∧
        (pool.shared.wire side).broken = false) ∧
      closeFrame 1 ∉ (pool.shared.link .client).begun ∧ ¬Informed .client 1 called pool := by
  rcases exists_called WellUsed
    (fun pool => pool.threads[5]? = some (.close 0 .returned) ∧
      ((pool.shared.session .client).done = false ∧ (pool.shared.wire .client).broken = false) ∧
      ((pool.shared.session .server).done = false ∧ (pool.shared.wire .server).broken = false) ∧
      closeFrame 1 ∉ (pool.shared.link .client).begun) closeGivesUp (by decide +kernel) with
    ⟨called, pool, stream, earlier, calls, found, session, same, first, run, returned, client,
      server, unsent⟩
  refine ⟨called, pool, stream, earlier, calls, found, session, same, first, run, returned, ?_,
    unsent, ?_⟩
  · intro side
    cases side with
    | client => exact client
    | server => exact server
  · rintro ⟨sentBefore, sentAfter, sent, _⟩
    apply unsent
    apply (sent_prefix_begun _).subset
    rw [sent]
    simp

end Rdpulse.TLSMux
