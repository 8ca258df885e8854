import Rdpulse.TLSMux.Objects

namespace Rdpulse.TLSMux

open Foundation

/-! Streams over a run: an id names one object at each end, a thread uses only
streams that were given to the application, and an end writes DATA and CLOSE
frames only for streams whose OPEN frame lies before them. -/

/-! ## Conditions on the application -/

def Thread.grants : Thread → Option Nat
  | .openStream _ point =>
      match point with
      | .returned (.ok ref) => some ref
      | _ => none
  | .acceptStream _ point =>
      match point with
      | .returned (.ok ref) => some ref
      | _ => none
  | _ => none

def Thread.uses : Thread → Option Nat
  | .read ref _ _ => some ref
  | .write ref _ _ => some ref
  | .close ref _ => some ref
  | .setDeadlines ref _ _ _ => some ref
  | _ => none

def Granted (pool : MuxPool) (ref : Nat) : Prop :=
  ∃ thread ∈ pool.threads, thread.grants = some ref

instance (pool : MuxPool) (ref : Nat) : Decidable (Granted pool ref) :=
  inferInstanceAs (Decidable (∃ thread ∈ pool.threads, thread.grants = some ref))

/-- The applications make calls on streams that they were given, and each end
draws fewer than 2^31 ids. -/
def WellUsed (pool : MuxPool) : PoolEvent Thread Choice → Prop
  | .spawn thread =>
      match thread.uses with
      | some ref => Granted pool ref
      | none => True
  | .advance self _ =>
      match pool.threads[self]? with
      | some (.openStream side .drawID) =>
          (pool.shared.trace side).drawn.length + 1 < 2 ^ 31
      | _ => True

instance (pool : MuxPool) (event : PoolEvent Thread Choice) : Decidable (WellUsed pool event) := by
  rcases event with thread | ⟨self, _⟩
  · dsimp only [WellUsed]
    rcases thread.uses with _ | ref <;> infer_instance
  · dsimp only [WellUsed]
    generalize pool.threads[self]? = found
    casesm* Option Thread, Thread, OpenStreamPoint <;> infer_instance

theorem WellUsed.nonzero {pool : MuxPool} {event : PoolEvent Thread Choice}
    (tables : tableOutline.Holds pool) (used : WellUsed pool event) : NonzeroID pool event := by
  cases event with
  | spawn => trivial
  | advance self choice =>
      simp only [NonzeroID]
      split
      · rename_i side present
        simp only [WellUsed, present] at used
        have next := (tables.global side).1.next
        intro zero
        have value := congrArg UInt32.toNat (next.symm.trans zero)
        rw [idAt_toNat] at value
        change (side.firstID.toNat + 2 * (pool.shared.trace side).drawn.length) % 2 ^ 32 = 0 at value
        cases side <;> simp [End.firstID] at value used <;> omega
      · trivial

theorem plan_of_grants {mux : Mux} {thread : Thread} {choice : Choice} {ref : Nat}
    (grants : thread.grants = some ref) : plan mux thread choice = none := by
  cases thread with
  | openStream side point =>
      cases point with
      | returned result =>
          cases result with
          | ok => rfl
          | error => cases grants
      | _ => cases grants
  | acceptStream side point =>
      cases point with
      | returned result =>
          cases result with
          | ok => rfl
          | error => cases grants
      | select => cases grants
  | _ => cases grants

theorem Granted.start {pool : MuxPool} {ref : Nat} (granted : Granted pool ref)
    (thread : Thread) : Granted (pool.start thread) ref := by
  rcases granted with ⟨granting, member, grants⟩
  exact ⟨granting, List.mem_append_left _ member, grants⟩

theorem Granted.update {pool : MuxPool} {ref self : Nat} {thread next : Thread} {moved : Mux}
    {choice : Choice} {action : Action} (granted : Granted pool ref)
    (present : pool.threads[self]? = some thread)
    (planned : plan pool.shared thread choice = some (action, next)) :
    Granted (pool.update self moved next) ref := by
  rcases granted with ⟨granting, member, grants⟩
  rcases List.getElem?_of_mem member with ⟨place, found⟩
  refine ⟨granting, ?_, grants⟩
  by_cases same : place = self
  · subst same
    rw [present] at found
    cases found
    rw [plan_of_grants grants] at planned
    cases planned
  · rw [← Pool.update_other pool same moved next] at found
    exact List.mem_of_getElem? found

/-! ## The outline of the streams -/

def Drew (self : Nat) (mux : Mux) (side : End) (id : UInt32) : Prop :=
  ∃ count, (mux.opener side).drawn[count]? = some self ∧ id = idAt side count

def Accepted (mux : Mux) (side : End) (ref : Nat) : Prop :=
  ∃ id, mux.Names ref side id ∧ side.remoteOwnsID id = true

def OpenBegun (link : Link) (id : UInt32) : WriteFramePoint → Prop
  | .writing rest => id ∈ opensOf link.begun ∨ link.broken = true ∧ rest ≠ []
  | .release none => id ∈ opensOf link.begun
  | _ => True

def OpenKnown (self : Nat) (mux : Mux) (side : End) : OpenStreamPoint → Prop
  | .drawID => True
  | .insert id => Drew self mux side id ∧ ∀ ref, ¬ mux.Names ref side id
  | .write id ref point =>
      Drew self mux side id ∧ mux.Names ref side id ∧ OpenBegun (mux.link side) id point
  | .removeStream id ref _ => Drew self mux side id ∧ mux.Names ref side id
  | .closeLocal ref _ => ∃ id, Drew self mux side id ∧ mux.Names ref side id
  | .returned (.ok ref) =>
      ∃ id, Drew self mux side id ∧ mux.Names ref side id ∧ id ∈ opensOf (mux.link side).begun
  | .returned (.error _) => True

def ClosePoint.signalled : ClosePoint → Bool
  | .remove | .write _ | .finish => true
  | _ => false

def StreamKnown (self : Nat) (pool : MuxPool) : Thread → Prop
  | .openStream side point => OpenKnown self pool.shared side point
  | .acceptStream side point =>
      match point with
      | .returned (.ok ref) => Accepted pool.shared side ref
      | _ => True
  | .readLoop side point =>
      match point with
      | .insert id => ∀ ref, ¬ pool.shared.Names ref side id
      | .sendAccept ref => Accepted pool.shared side ref
      | _ => True
  | .read ref _ _ => Granted pool ref
  | .write ref _ _ => Granted pool ref
  | .close ref point =>
      Granted pool ref ∧ (point.signalled = true →
        ∀ stream, pool.shared.objects[ref]? = some stream → stream.localDone = true)
  | .setDeadlines ref _ _ _ => Granted pool ref
  | _ => True

/-- A DATA or CLOSE frame lies behind the OPEN frame of its stream: behind its
own end's in what that end has begun, behind the other end's by having read it. -/
def OpensFirst (mux : Mux) (side : End) : Prop :=
  ∀ place frame id, (mux.link side).begun[place]? = some frame → frame.Concerns id →
    (side.remoteOwnsID id = true → id ∈ opensOf (mux.link side.other).read) ∧
    (side.remoteOwnsID id = false → id ∈ opensOf ((mux.link side).begun.take place))

structure StreamsSound (mux : Mux) (side : End) : Prop where
  room : (mux.opener side).drawn.length < 2 ^ 31
  theirs : ∀ {ref id}, mux.Names ref side id → side.remoteOwnsID id = true →
    id ∈ opensOf (mux.link side.other).read
  ours : ∀ {ref id}, mux.Names ref side id → side.remoteOwnsID id = false →
    ∃ count < (mux.opener side).drawn.length, id = idAt side count
  unique : ∀ {ref other id}, mux.Names ref side id → mux.Names other side id → ref = other
  table : ∀ entry ∈ (mux.session side).streams, mux.Names entry.2 side entry.1
  queue : ∀ ref ∈ (mux.session side).acceptCh, Accepted mux side ref
  frames : OpensFirst mux side

/-- A stream leaves its end's table by being closed there, or by a failing
`OpenStream`, which closes it next. -/
def Kept (pool : MuxPool) : Prop :=
  ∀ ref stream, pool.shared.objects[ref]? = some stream →
    (stream.localOnce = .finished → stream.localDone = true) ∧
    ((stream.id, ref) ∈ (pool.shared.session stream.session).streams ∨
      stream.localDone = true ∨
      ∃ err, Thread.openStream stream.session (.closeLocal ref err) ∈ pool.threads)

structure StreamsKnown (pool : MuxPool) : Prop where
  sound : ∀ side, StreamsSound pool.shared side
  kept : Kept pool
  loops : ∀ side : End, ∃ point,
    pool.threads[side.index]? = some (Thread.readLoop side point)

def streamOutline : Program.Outline Mux Thread where
  global := StreamsKnown
  assertion := StreamKnown

/-! ## Steps -/

section Steps

variable {self : Nat} {pool : MuxPool} {thread next : Thread} {choice : Choice} {action : Action}

theorem grows_step (links : linkOutline.Holds pool) (tables : tableOutline.Holds pool)
    (nonzero : NonzeroID pool (.advance self choice)) (present : pool.threads[self]? = some thread)
    (planned : plan pool.shared thread choice = some (action, next)) :
    Grows pool.shared (action.apply self pool.shared) := by
  have steps := (link_step links present planned).1
  have draws : ∀ side, thread = .openStream side .drawID →
      (pool.shared.session side).nextID ≠ 0 := by
    rintro side rfl
    simpa [NonzeroID, present] using nonzero
  have openers := opener_step (tables.thread self thread present) draws planned
  exact ⟨fun side => (steps side).read_grows (links.global side),
    fun side => (steps side).begun_grows, fun side => (openers side).drawn_grows,
    fun side => (steps side).stays_broken, Mux.Names.apply self action⟩

variable {mux moved : Mux} {side : End} {ref : Nat} {id : UInt32}

theorem Drew.grows (drew : Drew self mux side id) (grows : Grows mux moved) :
    Drew self moved side id := by
  rcases drew with ⟨count, drawn, same⟩
  rcases grows.drawn side with ⟨later, longer⟩
  refine ⟨count, ?_, same⟩
  rw [← longer, List.getElem?_append_left (List.getElem?_eq_some_iff.mp drawn).1]
  exact drawn

theorem Accepted.grows (accepted : Accepted mux side ref) (grows : Grows mux moved) :
    Accepted moved side ref := by
  rcases accepted with ⟨id, names, owned⟩
  exact ⟨id, grows.names names, owned⟩

theorem OpenBegun.grows {point : WriteFramePoint} (begun : OpenBegun (mux.link side) id point)
    (grows : Grows mux moved) : OpenBegun (moved.link side) id point := by
  cases point with
  | writing rest =>
      rcases begun with started | ⟨broken, left⟩
      · exact .inl (opensOf_grows (grows.begun side) started)
      · exact .inr ⟨grows.broken side broken, left⟩
  | release err =>
      cases err with
      | none => exact opensOf_grows (grows.begun side) begun
      | some => trivial
  | _ => trivial

/-- Two threads do not draw the same id. -/
theorem Drew.unique {other : Nat} (drew : Drew self mux side id) (theirs : Drew other mux side id)
    (room : (mux.opener side).drawn.length < 2 ^ 31) : self = other := by
  rcases drew with ⟨count, drawn, same⟩
  rcases theirs with ⟨place, found, equal⟩
  have within := (List.getElem?_eq_some_iff.mp drawn).1
  have bound := (List.getElem?_eq_some_iff.mp found).1
  have counts : count = place := idAt_injective (by omega) (by omega) (same ▸ equal)
  rw [counts, found] at drawn
  exact (Option.some.inj drawn).symm

theorem Drew.parity (drew : Drew self mux side id) : side.remoteOwnsID id = false := by
  rcases drew with ⟨count, _, rfl⟩
  exact (remoteOwnsID_idAt side count).2

theorem added_known (known : StreamKnown self pool thread)
    (entering : TableKnown self pool.shared thread)
    (planned : plan pool.shared thread choice = some (.addStream side id, next)) :
    (∀ ref, ¬ pool.shared.Names ref side id) ∧
      (Drew self pool.shared side id ∨
        side.remoteOwnsID id = true ∧ id ∈ opensOf (pool.shared.link side.other).read) := by
  rcases plan_takenBy planned with rfl | rfl
  · exact ⟨known.2, .inl known.1⟩
  · exact ⟨known, .inr ⟨entering.owned, entering.received⟩⟩

theorem begun_cases (self : Nat) (mux : Mux) (action : Action) (side : End) :
    ((action.apply self mux).link side).begun = (mux.link side).begun ∨
      ∃ frame, action = .takeToken side frame ∧
        ((action.apply self mux).link side).begun = (mux.link side).begun ++ [frame] := by
  rw [apply_link]
  cases action with
  | takeToken one frame =>
      simp only [Action.onLink, Link.takeToken]
      split
      · rename_i same
        subst same
        split
        · exact .inl rfl
        · exact .inr ⟨frame, rfl, rfl⟩
      · exact .inl rfl
  | _ =>
      refine .inl ?_
      simp only [Action.onLink]
      repeat' split
      all_goals first | rfl | (simp only [Link.takeHeader]; split <;> rfl)

theorem drawn_cases (self : Nat) (mux : Mux) (action : Action) (side : End) :
    ((action.apply self mux).opener side).drawn = (mux.opener side).drawn ∨
      action = .drawID side ∧
        ((action.apply self mux).opener side).drawn = (mux.opener side).drawn ++ [self] := by
  rw [apply_opener]
  cases action with
  | drawID one =>
      simp only [Action.onOpener]
      split
      · rename_i same
        subst same
        exact .inr ⟨rfl, rfl⟩
      · exact .inl rfl
  | _ =>
      refine .inl ?_
      simp only [Action.onOpener]
      repeat' split
      all_goals rfl

theorem apply_acceptCh (self : Nat) (mux : Mux) (action : Action) (one : End)
    (waiting : ref ∈ ((action.apply self mux).session one).acceptCh) :
    ref ∈ (mux.session one).acceptCh ∨ action = .pushAccept one ref := by
  cases action with
  | pushAccept side pushed =>
      by_cases same : one = side
      · subst same
        simp only [Action.apply, Mux.setSession_session, if_true, List.mem_append,
          List.mem_singleton] at waiting
        rcases waiting with old | rfl
        · exact .inl old
        · exact .inr rfl
      · simp only [Action.apply, Mux.setSession_session, if_neg same] at waiting
        exact .inl waiting
  | popAccept side =>
      by_cases same : one = side
      · subst same
        simp only [Action.apply, Mux.setSession_session, if_true] at waiting
        exact .inl (List.mem_of_mem_tail waiting)
      · simp only [Action.apply, Mux.setSession_session, if_neg same] at waiting
        exact .inl waiting
  | takeToken side frame =>
      refine .inl ?_
      by_cases same : one = side
      · subst same
        cases broken : (mux.wire one).broken <;>
          simpa [Action.apply, Action.begin, broken] using waiting
      · cases broken : (mux.wire side).broken <;>
          simpa [Action.apply, Action.begin, broken, same] using waiting
  | drawID side | writeBytes side | breakWire side | giveToken side | addStream side
  | removeStream side | pushDatagram side | popDatagram side | closeDone side
  | closeConn side =>
      refine .inl ?_
      by_cases same : one = side
      · subst same
        simpa [Action.apply] using waiting
      · simpa [Action.apply, same] using waiting
  | _ => exact .inl (by simpa [Action.apply] using waiting)

theorem granted_opened (holds : streamOutline.Holds pool) (granted : Granted pool ref) :
    ∃ side id, pool.shared.Names ref side id ∧
      (side.remoteOwnsID id = true ∨ id ∈ opensOf (pool.shared.link side).begun) := by
  rcases granted with ⟨thread, member, grants⟩
  rcases List.getElem?_of_mem member with ⟨place, found⟩
  have known := holds.thread place thread found
  cases thread with
  | openStream side point =>
      cases point with
      | returned result =>
          cases result with
          | ok =>
              cases grants
              rcases known with ⟨id, _, names, begun⟩
              exact ⟨side, id, names, .inr begun⟩
          | error => cases grants
      | _ => cases grants
  | acceptStream side point =>
      cases point with
      | returned result =>
          cases result with
          | ok =>
              cases grants
              rcases known with ⟨id, names, owned⟩
              exact ⟨side, id, names, .inl owned⟩
          | error => cases grants
      | select => cases grants
  | _ => cases grants

theorem granted_not_failing (holds : streamOutline.Holds pool) (granted : Granted pool ref)
    {err : Err} (failing : pool.threads[self]? = some (.openStream side (.closeLocal ref err))) :
    False := by
  rcases holds.thread self _ failing with ⟨id, drew, names⟩
  rcases granted with ⟨thread, member, grants⟩
  rcases List.getElem?_of_mem member with ⟨place, found⟩
  have known := holds.thread place thread found
  cases thread with
  | openStream one point =>
      cases point with
      | returned result =>
          cases result with
          | ok =>
              cases grants
              rcases known with ⟨other, theirs, again, _⟩
              rcases names.functional again with ⟨rfl, rfl⟩
              cases drew.unique theirs (StreamsKnown.sound holds.global side).room
              rw [failing] at found
              cases found
          | error => cases grants
      | _ => cases grants
  | acceptStream one point =>
      cases point with
      | returned result =>
          cases result with
          | ok =>
              cases grants
              rcases known with ⟨other, again, owned⟩
              rcases names.functional again with ⟨rfl, rfl⟩
              rw [drew.parity] at owned
              cases owned
          | error => cases grants
      | select => cases grants
  | _ => cases grants

theorem frames_step (holds : streamOutline.Holds pool)
    (present : pool.threads[self]? = some thread)
    (planned : plan pool.shared thread choice = some (action, next))
    (grows : Grows pool.shared (action.apply self pool.shared)) (side : End) :
    OpensFirst (action.apply self pool.shared) side := by
  intro place frame id found concerns
  have sound := StreamsKnown.sound holds.global side
  rcases begun_cases self pool.shared action side with same | ⟨written, rfl, longer⟩
  · rw [same] at found ⊢
    rcases sound.frames place frame id found concerns with ⟨theirs, ours⟩
    exact ⟨fun owned => opensOf_grows (grows.read side.other) (theirs owned), ours⟩
  · rw [longer] at found ⊢
    rcases Nat.lt_or_ge place (pool.shared.link side).begun.length with before | beyond
    · rw [List.getElem?_append_left before] at found
      rcases sound.frames place frame id found concerns with ⟨theirs, ours⟩
      rw [List.take_append_of_le_length (Nat.le_of_lt before)]
      exact ⟨fun owned => opensOf_grows (grows.read side.other) (theirs owned), ours⟩
    · have bound := (List.getElem?_eq_some_iff.mp found).1
      rw [List.length_append, List.length_singleton] at bound
      have last : place = (pool.shared.link side).begun.length := by omega
      subst last
      rw [List.getElem?_concat_length] at found
      cases found
      rcases writes_concerns (plan_takeToken planned) concerns with ⟨ref, names, user⟩
      have granted : Granted pool ref := by
        have known := holds.thread self thread present
        rcases user with ⟨_, _, _, _, _, rfl, _⟩ | ⟨rfl, _⟩
        · exact known
        · exact known.1
      rw [List.take_left]
      rcases granted_opened holds granted with ⟨one, other, again, opened⟩
      rcases names.functional again with ⟨rfl, rfl⟩
      refine ⟨fun owned => opensOf_grows (grows.read side.other) (sound.theirs names owned),
        fun mine => ?_⟩
      rcases opened with owned | begun
      · rw [owned] at mine
        cases mine
      · exact begun

theorem sound_step (holds : streamOutline.Holds pool) (tables : tableOutline.Holds pool)
    (used : WellUsed pool (.advance self choice)) (present : pool.threads[self]? = some thread)
    (planned : plan pool.shared thread choice = some (action, next))
    (grows : Grows pool.shared (action.apply self pool.shared)) (side : End) :
    StreamsSound (action.apply self pool.shared) side := by
  have sound := StreamsKnown.sound holds.global side
  have known := holds.thread self thread present
  have entering := tables.thread self thread present
  refine ⟨?_, fun names owned => ?_, fun names mine => ?_, fun first second => ?_,
    fun entry member => ?_, fun ref waiting => ?_,
    frames_step holds present planned grows side⟩
  · rcases drawn_cases self pool.shared action side with same | ⟨rfl, longer⟩
    · rw [same]
      exact sound.room
    · rw [longer, List.length_append, List.length_singleton]
      cases plan_takenBy planned
      simp only [WellUsed, present] at used
      exact used
  · rcases names.of_apply self with old | ⟨rfl, _⟩
    · exact opensOf_grows (grows.read side.other) (sound.theirs old owned)
    · rcases (added_known known entering planned).2 with drew | ⟨_, received⟩
      · rw [drew.parity] at owned
        cases owned
      · exact opensOf_grows (grows.read side.other) received
  · have longer := (grows.drawn side).length_le
    rcases names.of_apply self with old | ⟨rfl, _⟩
    · rcases sound.ours old mine with ⟨count, below, same⟩
      exact ⟨count, by omega, same⟩
    · rcases (added_known known entering planned).2 with ⟨count, drawn, same⟩ | ⟨owned, _⟩
      · have below := (List.getElem?_eq_some_iff.mp drawn).1
        exact ⟨count, by omega, same⟩
      · rw [owned] at mine
        cases mine
  · rcases first.of_apply self with old | ⟨rfl, new⟩
    · rcases second.of_apply self with also | ⟨rfl, _⟩
      · exact sound.unique old also
      · exact absurd old ((added_known known entering planned).1 _)
    · rcases second.of_apply self with also | ⟨_, latest⟩
      · exact absurd also ((added_known known entering planned).1 _)
      · exact new.trans latest.symm
  · rcases apply_streams self pool.shared action side member with old | ⟨rfl, last⟩
    · exact grows.names (sound.table entry old)
    · rw [last]
      exact Mux.Names.added self pool.shared side entry.1
  · rcases apply_acceptCh self pool.shared action side waiting with old | rfl
    · exact (sound.queue ref old).grows grows
    · cases plan_takenBy planned
      exact known.grows grows

theorem drawn_new (holds : streamOutline.Holds pool) (tables : tableOutline.Holds pool)
    (side : End) : ∀ ref, ¬ pool.shared.Names ref side (pool.shared.session side).nextID := by
  intro ref names
  have sound := StreamsKnown.sound holds.global side
  have next : (pool.shared.session side).nextID =
      idAt side (pool.shared.opener side).drawn.length := (tables.global side).1.next
  rw [next] at names
  rcases sound.ours names (remoteOwnsID_idAt side _).2 with ⟨count, below, same⟩
  have room := sound.room
  have equal := idAt_injective room (by omega) same
  omega

theorem openKnown_step (holds : streamOutline.Holds pool) (tables : tableOutline.Holds pool)
    {point after : OpenStreamPoint} (known : OpenKnown self pool.shared side point)
    (planned : planOpenStream pool.shared side choice point = some (action, after))
    (grows : Grows pool.shared (action.apply self pool.shared)) :
    OpenKnown self (action.apply self pool.shared) side after := by
  cases point with
  | drawID =>
      cases planned
      refine ⟨⟨(pool.shared.opener side).drawn.length, ?_, (tables.global side).1.next⟩,
        fun ref names => ?_⟩
      · rw [apply_opener]
        simp [Action.onOpener, Opener.draw]
      · rcases names.of_apply self with old | ⟨other, _⟩
        · exact drawn_new holds tables side ref old
        · cases other
  | insert drawn =>
      simp only [planOpenStream] at planned
      split at planned <;> cases planned
      · trivial
      · exact ⟨known.1.grows grows, Mux.Names.added self pool.shared side drawn, trivial⟩
  | write drawn ref point =>
      rcases known with ⟨drew, names, begun⟩
      simp only [planOpenStream, Option.map_eq_some_iff] at planned
      rcases planned with ⟨⟨written, last⟩, inner, equal⟩
      cases equal
      have keeps := OpenBegun.grows begun grows
      have drew := drew.grows grows
      have names := grows.names names
      rcases planWriteFrame_cases inner with
        ⟨rfl, early, ⟨rfl, _⟩ | ⟨err, rfl⟩⟩ | ⟨rfl, rfl, rfl, _⟩ | ⟨rest, count, rfl, rfl, rfl, whole, _⟩ |
          ⟨rfl, rfl, rfl⟩ | ⟨_, rfl, rfl, _, rfl⟩ | ⟨err, rfl, rfl, rfl⟩
      · exact ⟨drew, names, trivial⟩
      · exact ⟨drew, names⟩
      · refine ⟨drew, names, ?_⟩
        change OpenBegun _ _ (.writing _)
        rw [apply_link]
        simp only [Action.onLink, if_true, Link.takeToken]
        split
        · rename_i broken
          exact .inr ⟨broken, by simp [Frame.encode, Frame.encodeHeader]⟩
        · refine .inl ?_
          rw [opensOf_append, opensOf_open (openFrame drawn) rfl]
          exact List.mem_append_right _ List.mem_cons_self
      · refine ⟨drew, names, ?_⟩
        rcases begun with started | ⟨broken, _⟩
        · exact .inl (opensOf_grows (grows.begun side) started)
        · have intact : (pool.shared.link side).broken = false := whole
          rw [intact] at broken
          cases broken
      · refine ⟨drew, names, ?_⟩
        rcases keeps with started | ⟨_, left⟩
        · exact started
        · exact absurd rfl left
      · exact ⟨drew, names, trivial⟩
      · cases err with
        | none => exact ⟨drawn, drew, names, keeps⟩
        | some => exact ⟨drew, names⟩
  | removeStream drawn ref err =>
      cases planned
      exact ⟨drawn, known.1.grows grows, grows.names known.2⟩
  | closeLocal ref err =>
      simp only [planOpenStream] at planned
      repeat' split at planned
      all_goals
        cases planned
        try trivial
  | returned => cases planned

theorem received_new (holds : streamOutline.Holds pool) (links : linkOutline.Holds pool)
    (tables : tableOutline.Holds pool) {point : ReadLoopPoint}
    (reading : ReadingKnown (pool.shared.link side.other) point)
    (planned : planReadLoop pool.shared side choice point = some (action, .insert id)) :
    ∀ ref, ¬ (action.apply self pool.shared).Names ref side id := by
  have sound := StreamsKnown.sound holds.global side
  rcases planReadLoop_cases planned with
    ⟨rfl, available, ⟨check, _, _, other⟩ | ⟨payloadFollows, dispatched, rfl⟩⟩ |
      ⟨_, _, _, ⟨_, _, other⟩ | ⟨_, other⟩⟩ | ⟨notTake, _, _, _⟩
  · cases other
  · rcases (links.global side.other).next reading available with ⟨frame, rest, ahead, header⟩
    have received : decodeHeader (pool.shared.wire side.other).bytes = frame.header := header
    rw [received] at dispatched
    rcases dispatch_ok dispatched with
      ⟨_, _, ⟨isOpen, _, owned, equal⟩ | ⟨_, equal⟩⟩ | ⟨_, ⟨_, equal⟩ | ⟨_, equal⟩⟩
    · cases equal
      intro ref names
      rcases names.of_apply self with old | ⟨other, _⟩
      · have unwrapped : (pool.shared.opener side.other).Unwrapped :=
          Nat.le_of_lt (StreamsKnown.sound holds.global side.other).room
        exact next_open_new (tables.global side.other).1 ahead isOpen unwrapped
          (sound.theirs old owned)
      · cases other
    all_goals cases equal
  · cases other
  · cases other
  · cases point with
    | readHeader =>
        simp only [planReadLoop] at planned
        repeat' split at planned
        all_goals cases planned
        all_goals cases notTake
    | stopped stop inner =>
        simp only [planReadLoop, Option.map_eq_some_iff] at planned
        rcases planned with ⟨_, _, equal⟩
        cases equal
    | _ =>
        simp only [planReadLoop] at planned
        repeat' split at planned
        all_goals cases planned

theorem signalled_step {stream : MuxStream} {point after : ClosePoint}
    (present : mux.objects[ref]? = some stream)
    (known : point.signalled = true → stream.localDone = true)
    (planned : planClose mux stream ref choice point = some (action, after))
    (signalled : after.signalled = true) :
    ∀ moved, (action.apply self mux).objects[ref]? = some moved → moved.localDone = true := by
  intro moved found
  rw [apply_objects self action present] at found
  cases found
  cases point with
  | once =>
      simp only [planClose] at planned
      split at planned <;> cases planned <;> cases signalled
  | signal =>
      cases planned
      simp [Action.onObject]
  | remove | write | finish => exact onObject_localDone action (known rfl)
  | returned => cases planned

theorem known_step (holds : streamOutline.Holds pool) (links : linkOutline.Holds pool)
    (tables : tableOutline.Holds pool) (present : pool.threads[self]? = some thread)
    (planned : plan pool.shared thread choice = some (action, next))
    (grows : Grows pool.shared (action.apply self pool.shared)) :
    StreamKnown self (pool.update self (action.apply self pool.shared) next) next := by
  have known := holds.thread self thread present
  cases next with
  | openStream side after =>
      rcases plan_openStream planned with ⟨point, rfl, inner⟩
      exact openKnown_step holds tables known inner grows
  | acceptStream side after =>
      rcases plan_acceptStream planned with ⟨point, rfl, inner⟩
      cases after with
      | select => trivial
      | returned result =>
          cases result with
          | error => trivial
          | ok ref =>
              refine Accepted.grows ?_ grows
              refine (StreamsKnown.sound holds.global side).queue ref ?_
              cases point with
              | returned => cases inner
              | select =>
                  simp only [planAcceptStream] at inner
                  split at inner
                  · split at inner
                    · cases inner
                    · rename_i waiting
                      cases inner
                      simp [waiting]
                  · cases inner
                  · split at inner <;> cases inner
                  · cases inner
  | readLoop side after =>
      rcases plan_to_readLoop planned with ⟨point, rfl⟩
      rcases plan_readLoop planned with ⟨_, inner, equal⟩
      cases equal
      cases after with
      | insert id => exact received_new holds links tables (links.thread self _ present).2.2 inner
      | sendAccept ref =>
          cases point with
          | insert id =>
              simp only [planReadLoop] at inner
              split at inner
              · cases inner
              · split at inner <;> cases inner
                exact ⟨id, Mux.Names.added self pool.shared side id,
                  (tables.thread self _ present).owned⟩
          | readHeader =>
              simp only [planReadLoop] at inner
              split at inner
              · split at inner
                · cases inner
                · split at inner
                  · cases inner
                  · rename_i dispatched
                    rcases dispatch_ok dispatched with
                      ⟨_, _, ⟨_, _, _, equal⟩ | ⟨_, equal⟩⟩ | ⟨_, ⟨_, equal⟩ | ⟨_, equal⟩⟩ <;>
                        subst equal <;> cases inner
              · cases inner
              · cases inner
          | stopped stop last =>
              simp only [planReadLoop, Option.map_eq_some_iff] at inner
              rcases inner with ⟨_, _, equal⟩
              cases equal
          | _ =>
              simp only [planReadLoop] at inner
              repeat' split at inner
              all_goals cases inner
      | _ => trivial
  | read ref capacity after =>
      rcases plan_read planned with ⟨point, stream, rfl, _, _⟩
      exact known.update present planned
  | write ref data after =>
      rcases plan_write planned with ⟨point, stream, rfl, _, _⟩
      exact known.update present planned
  | close ref after =>
      rcases plan_close planned with ⟨point, stream, rfl, found, inner⟩
      exact ⟨known.1.update present planned, signalled_step found
        (fun signalled => known.2 signalled stream found) inner⟩
  | setDeadlines ref read write returned =>
      cases plan_setDeadlines planned
      exact known.update present planned
  | _ => trivial

theorem known_bystander {other : Nat} {bystander : Thread} (holds : streamOutline.Holds pool)
    (links : linkOutline.Holds pool) (tables : tableOutline.Holds pool)
    (present : pool.threads[self]? = some thread)
    (planned : plan pool.shared thread choice = some (action, next))
    (grows : Grows pool.shared (action.apply self pool.shared)) (different : other ≠ self)
    (found : pool.threads[other]? = some bystander) :
    StreamKnown other (pool.update self (action.apply self pool.shared) next) bystander := by
  have mine := holds.thread self thread present
  have entering := tables.thread self thread present
  have known := holds.thread other bystander found
  -- A stream that the step adds under the bystander's id would be its own.
  have stillNew : ∀ side id, (∀ ref, ¬ pool.shared.Names ref side id) →
      (∀ next, plan pool.shared thread choice = some (.addStream side id, next) → False) →
      ∀ ref, ¬ (action.apply self pool.shared).Names ref side id := by
    intro side id new apart ref names
    rcases names.of_apply self with old | ⟨rfl, _⟩
    · exact new ref old
    · exact apart next planned
  cases bystander with
  | openStream side point =>
      cases point with
      | drawID => trivial
      | insert id =>
          refine ⟨Drew.grows known.1 grows, stillNew side id known.2 fun after added => ?_⟩
          rcases (added_known mine entering added).2 with drew | ⟨owned, _⟩
          · exact different
              (Drew.unique known.1 drew (StreamsKnown.sound holds.global side).room)
          · rw [Drew.parity known.1] at owned
            cases owned
      | write id ref point =>
          exact ⟨Drew.grows known.1 grows, grows.names known.2.1, known.2.2.grows grows⟩
      | removeStream id ref err => exact ⟨Drew.grows known.1 grows, grows.names known.2⟩
      | closeLocal ref err =>
          rcases known with ⟨id, drew, names⟩
          exact ⟨id, drew.grows grows, grows.names names⟩
      | returned result =>
          cases result with
          | error => trivial
          | ok ref =>
              rcases known with ⟨id, drew, names, begun⟩
              exact ⟨id, drew.grows grows, grows.names names,
                opensOf_grows (grows.begun side) begun⟩
  | acceptStream side point =>
      cases point with
      | select => trivial
      | returned result =>
          cases result with
          | error => trivial
          | ok ref => exact Accepted.grows known grows
  | readLoop side point =>
      cases point with
      | insert id =>
          refine stillNew side id known fun after added => ?_
          rcases plan_takenBy added with rfl | rfl
          · have owned := (tables.thread other _ found).owned
            rw [Drew.parity mine.1] at owned
            cases owned
          · exact readsFrom_sole links present found different ⟨.insert id, by simp⟩
      | sendAccept ref => exact Accepted.grows known grows
      | _ => trivial
  | read ref | write ref | setDeadlines ref => exact Granted.update known present planned
  | close ref point =>
      refine ⟨known.1.update present planned, fun signalled moved after => ?_⟩
      rcases apply_objects_cases self after with ⟨stream, before, rfl⟩ | ⟨side, id, rfl, rfl, _⟩
      · exact onObject_localDone action (known.2 signalled stream before)
      · rcases granted_opened holds known.1 with ⟨_, _, ⟨stream, before, _⟩, _⟩
        have bound := (List.getElem?_eq_some_iff.mp before).1
        omega
  | _ => trivial

theorem finished_step (holds : streamOutline.Holds pool)
    (present : pool.threads[self]? = some thread)
    (planned : plan pool.shared thread choice = some (action, next)) {stream : MuxStream}
    (found : pool.shared.objects[ref]? = some stream)
    (finished : (action.onObject ref stream).localOnce = .finished) :
    (action.onObject ref stream).localDone = true := by
  have before := (StreamsKnown.kept holds.global ref stream found).1
  cases action with
  | setOnce target once =>
      simp only [Action.onObject] at finished ⊢
      split at finished
      · rename_i same
        subst same
        rw [if_pos rfl]
        rcases plan_takenBy planned with ⟨rfl, _⟩ | ⟨rfl, rfl⟩
        · cases finished
        · exact (holds.thread self _ present).2 rfl stream found
      · rename_i apart
        rw [if_neg apart]
        exact before finished
  | closeLocalOnce target =>
      simp only [Action.onObject] at finished ⊢
      split
      · rfl
      · rename_i apart
        rw [if_neg apart] at finished
        exact before finished
  | closeLocal target =>
      simp only [Action.onObject] at finished ⊢
      split
      · rfl
      · rename_i apart
        rw [if_neg apart] at finished
        exact before finished
  | pushIncoming target | popIncoming target | consume target | closeRemote target
  | setDeadlines target =>
      simp only [Action.onObject] at finished ⊢
      split at finished <;> rename_i where_ <;> simp only [where_, if_true, if_false] <;>
        exact before finished
  | _ => exact before finished

theorem kept_step (holds : streamOutline.Holds pool) (tables : tableOutline.Holds pool)
    (present : pool.threads[self]? = some thread)
    (planned : plan pool.shared thread choice = some (action, next)) :
    Kept (pool.update self (action.apply self pool.shared) next) := by
  have known := holds.thread self thread present
  intro ref after found
  rcases apply_objects_cases self found with ⟨stream, before, rfl⟩ | ⟨side, id, rfl, rfl, rfl⟩
  · refine ⟨finished_step holds present planned before, ?_⟩
    simp only [onObject_session, onObject_id]
    rcases (StreamsKnown.kept holds.global ref stream before).2 with
      entered | done | ⟨err, closing⟩
    · by_cases removed : action = .removeStream stream.session stream.id ref
      · subst removed
        rcases plan_takenBy planned with ⟨err, rfl⟩ | ⟨_, rfl, _⟩
        · refine .inr (.inr ⟨err, ?_⟩)
          simp only [plan, planOpenStream, Option.map_some, Option.some.injEq,
            Prod.mk.injEq] at planned
          rw [planned.2]
          exact List.mem_of_getElem? (Pool.update_self present _ _)
        · exact .inr (.inl (onObject_localDone _ (known.2 rfl stream before)))
      · refine .inl (apply_streams_keeps self entered removed ?_)
        rintro rfl
        exact (added_known known (tables.thread self thread present) planned).1 ref
          ⟨stream, before, rfl, rfl⟩
    · exact .inr (.inl (onObject_localDone action done))
    · rcases List.getElem?_of_mem closing with ⟨place, held⟩
      by_cases same : place = self
      · subst same
        rw [present] at held
        cases held
        simp only [plan, planOpenStream, before] at planned
        split at planned
        · cases planned
          exact .inr (.inl (by simp [Action.onObject]))
        · cases planned
        · rename_i finished
          exact .inr (.inl (onObject_localDone action
            ((StreamsKnown.kept holds.global ref stream before).1 finished)))
      · rw [← Pool.update_other pool same (action.apply self pool.shared) next] at held
        exact .inr (.inr ⟨err, List.mem_of_getElem? held⟩)
  · refine ⟨(fun wrong => by cases wrong), .inl ?_⟩
    simp [newMuxStream, Action.apply]

theorem loops_step (holds : streamOutline.Holds pool)
    (present : pool.threads[self]? = some thread)
    (planned : plan pool.shared thread choice = some (action, next)) (moved : Mux) (side : End) :
    ∃ point, (pool.update self moved next).threads[side.index]? =
      some (Thread.readLoop side point) := by
  rcases StreamsKnown.loops holds.global side with ⟨point, found⟩
  by_cases same : side.index = self
  · subst same
    rw [present] at found
    cases found
    rcases plan_readLoop planned with ⟨after, _, rfl⟩
    exact ⟨after, Pool.update_self present _ _⟩
  · exact ⟨point, by rw [Pool.update_other pool same]; exact found⟩

theorem streamOutline_valid :
    streamOutline.Valid program fun pool event =>
      WellUsed pool event ∧ linkOutline.Holds pool ∧ tableOutline.Holds pool where
  started pool thread holds enters permitted := by
    have globally : StreamsKnown pool := holds.global
    refine ⟨⟨globally.sound, fun ref stream found => ?_, fun side => ?_⟩, ?_⟩
    · rcases globally.kept ref stream found with ⟨finished, kept⟩
      refine ⟨finished, kept.imp id (Or.imp id ?_)⟩
      rintro ⟨err, closing⟩
      exact ⟨err, List.mem_append_left _ closing⟩
    · rcases globally.loops side with ⟨point, found⟩
      exact ⟨point, Pool.start_old found thread⟩
    · have used := permitted.1
      cases thread with
      | openStream side point | acceptStream side point | close ref point =>
          simp only [program, entry, decide_eq_true_eq] at enters
          subst enters
          first | trivial | exact ⟨Granted.start used _, fun wrong => by cases wrong⟩
      | readLoop => simp [program, entry] at enters
      | read | write | setDeadlines => exact Granted.start used _
      | _ => trivial
  undisturbedByStart pool thread other bystander holds _ _ found := by
    have known := holds.thread other bystander found
    cases bystander with
    | read | write | setDeadlines => exact Granted.start known _
    | close => exact ⟨known.1.start _, known.2⟩
    | _ => exact known
  sequential pool self thread choice moved next holds present permitted taken := by
    rcases permitted with ⟨used, links, tables⟩
    rcases step_plan taken with ⟨action, planned, rfl⟩
    have grows := grows_step links tables (used.nonzero tables) present planned
    exact ⟨⟨sound_step holds tables used present planned grows,
      kept_step holds tables present planned, loops_step holds present planned _⟩,
      known_step holds links tables present planned grows⟩
  interferenceFree pool self thread choice moved next other bystander holds present permitted
      taken different found := by
    rcases permitted with ⟨used, links, tables⟩
    rcases step_plan taken with ⟨action, planned, rfl⟩
    have grows := grows_step links tables (used.nonzero tables) present planned
    exact known_bystander holds links tables present planned grows different found

end Steps

theorem streamOutline_initial : streamOutline.Holds initialPool := by
  refine ⟨⟨fun side => ⟨by simp [initialPool, Mux.new, Mux.opener], ?_, ?_, ?_, ?_, ?_, ?_⟩,
    ?_, ?_⟩, fun self thread present => ?_⟩
  · rintro ref id ⟨stream, present, _⟩
    simp [initialPool, Mux.new] at present
  · rintro ref id ⟨stream, present, _⟩
    simp [initialPool, Mux.new] at present
  · rintro ref other id ⟨stream, present, _⟩
    simp [initialPool, Mux.new] at present
  · intro _ wrong
    cases wrong
  · intro _ wrong
    cases wrong
  · intro place frame id found
    simp [initialPool, Mux.new, Mux.link] at found
  · intro ref stream present
    simp [initialPool, Mux.new] at present
  · intro side
    cases side <;> exact ⟨.readHeader, rfl⟩
  · rcases self with _ | _ | _
    · cases present; trivial
    · cases present; trivial
    · simp [initialPool] at present

structure WellFormed (pool : MuxPool) : Prop where
  links : linkOutline.Holds pool
  tables : tableOutline.Holds pool
  streams : streamOutline.Holds pool

/-- In every run of well-used ends the streams are sound. -/
theorem wellFormed_of_run {allowed : MuxPool → PoolEvent Thread Choice → Prop}
    (used : ∀ pool event, allowed pool event → WellUsed pool event)
    {events : List (PoolEvent Thread Choice)} {pool : MuxPool}
    (run : program.machine.Run allowed initialPool events pool) : WellFormed pool := by
  have tables : ∀ {past middle}, program.machine.Run allowed initialPool past middle →
      tableOutline.Holds middle := fun before =>
    tableOutline_of_run (fun pool event holds permitted =>
      (used pool event permitted).nonzero holds) before
  have known := run.strengthen fun _ _ before =>
    And.intro (linkOutline_of_run before) (tables before)
  exact ⟨linkOutline_of_run run, tables run, streamOutline_valid.run streamOutline_initial
    (known.weaken fun pool event permitted => ⟨used pool event permitted.1, permitted.2⟩)⟩

theorem WellFormed.grows {self : Nat} {pool : MuxPool} {thread next : Thread} {choice : Choice}
    {action : Action} (formed : WellFormed pool) (used : WellUsed pool (.advance self choice))
    (present : pool.threads[self]? = some thread)
    (planned : plan pool.shared thread choice = some (action, next)) :
    Grows pool.shared (action.apply self pool.shared) :=
  grows_step formed.links formed.tables (used.nonzero formed.tables) present planned

end Rdpulse.TLSMux
