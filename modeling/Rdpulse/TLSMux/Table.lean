import Rdpulse.TLSMux.Wire

namespace Rdpulse.TLSMux

open Foundation

/-! Stream ids and stream tables: an OPEN frame carries an id of its sender's
parity, which is new as long as ids have not wrapped, and a table holds the
peer's ids only after their OPEN frames have been read. -/

def idAt (side : End) (count : Nat) : UInt32 := side.firstID + 2 * UInt32.ofNat count

theorem idAt_succ (side : End) (count : Nat) : idAt side count + 2 = idAt side (count + 1) := by
  apply UInt32.toNat_inj.mp
  cases side <;> simp [idAt, End.firstID, UInt32.toNat_add, UInt32.toNat_mul] <;> omega

theorem idAt_toNat (side : End) (count : Nat) :
    (idAt side count).toNat = (side.firstID.toNat + 2 * count) % 2 ^ 32 := by
  cases side <;> simp [idAt, End.firstID, UInt32.toNat_add, UInt32.toNat_mul]

theorem idAt_injective {side : End} {one other : Nat} (below : one < 2 ^ 31)
    (beside : other < 2 ^ 31) (same : idAt side one = idAt side other) : one = other := by
  have equal := congrArg UInt32.toNat same
  rw [idAt_toNat, idAt_toNat] at equal
  cases side <;> simp [End.firstID] at equal <;> omega

theorem remoteOwnsID_iff (side : End) (id : UInt32) :
    side.remoteOwnsID id = true ↔ id.toNat % 2 = (side.other.firstID.toNat) % 2 := by
  cases side <;>
    simp [End.remoteOwnsID, End.other, End.firstID, ← UInt32.toNat_inj, UInt32.toNat_mod]

theorem remoteOwnsID_idAt (side : End) (count : Nat) :
    side.other.remoteOwnsID (idAt side count) = true ∧
      side.remoteOwnsID (idAt side count) = false := by
  refine ⟨?_, ?_⟩
  · rw [remoteOwnsID_iff, idAt_toNat, End.other_other]
    omega
  · rw [← Bool.not_eq_true, remoteOwnsID_iff, idAt_toNat]
    cases side <;> simp [End.other, End.firstID]

/-! ## OPEN frames -/

def opensOf (frames : List Frame) : List UInt32 :=
  (frames.filter fun frame => frame.frameType = frameOpen).map Frame.streamID

@[simp] theorem opensOf_nil : opensOf [] = [] := rfl

@[simp] theorem opensOf_append (before after : List Frame) :
    opensOf (before ++ after) = opensOf before ++ opensOf after := by
  simp [opensOf]

theorem opensOf_open (frame : Frame) (isOpen : frame.frameType = frameOpen) :
    opensOf [frame] = [frame.streamID] := by
  simp [opensOf, isOpen]

theorem opensOf_other (frame : Frame) (notOpen : frame.frameType ≠ frameOpen) :
    opensOf [frame] = [] := by
  simp [opensOf, notOpen]

def ValidFrame (side : End) (frame : Frame) : Prop :=
  (frame.frameType = frameOpen ∧ frame.payload = [] ∧ frame.streamID ≠ 0 ∧
      side.other.remoteOwnsID frame.streamID = true) ∨
    frame.frameType = frameData ∨
    (frame.frameType = frameClose ∧ frame.payload = []) ∨
    (frame.frameType = frameDatagram ∧ frame.streamID = 0)

theorem dispatch_valid {side : End} {frame : Frame} (valid : ValidFrame side.other frame)
    (small : frame.payload.length ≤ maxFramePayload) (check : FrameCheck) :
    dispatch side frame.header ≠ .error check := by
  unfold dispatch
  have fits : ¬ maxFramePayload < frame.header.length := Nat.not_lt.mpr small
  rw [if_neg fits]
  rcases valid with ⟨isOpen, empty, notZero, owned⟩ | isData | ⟨isClose, empty⟩ |
    ⟨isDatagram, zero⟩
  · rw [End.other_other] at owned
    simp [Frame.header, isOpen, empty, notZero, owned]
  · simp [Frame.header, isData, frameOpen, frameData]
  · simp [Frame.header, isClose, empty, frameOpen, frameData, frameClose]
  · simp [Frame.header, isDatagram, zero, frameOpen, frameData, frameClose, frameDatagram]

/-! ## Drawing ids and beginning frames -/

structure Opener where
  nextID : UInt32
  drawn : List Nat
  begun : List Frame

def Mux.opener (mux : Mux) (side : End) : Opener where
  nextID := (mux.session side).nextID
  drawn := (mux.trace side).drawn
  begun := (mux.trace side).begun

namespace Opener

def draw (opener : Opener) (self : Nat) : Opener :=
  { opener with nextID := opener.nextID + 2, drawn := opener.drawn ++ [self] }

def begin (opener : Opener) (frame : Frame) : Opener :=
  { opener with begun := opener.begun ++ [frame] }

def Unwrapped (opener : Opener) : Prop := opener.drawn.length ≤ 2 ^ 31

structure Sound (side : End) (opener : Opener) : Prop where
  next : opener.nextID = idAt side opener.drawn.length
  valid : ∀ frame ∈ opener.begun, ValidFrame side frame
  opened : ∀ id ∈ opensOf opener.begun, ∃ count < opener.drawn.length, id = idAt side count
  distinct : opener.Unwrapped → (opensOf opener.begun).Nodup

structure Pending (side : End) (holder : Nat) (opener : Opener) (id : UInt32) : Prop where
  notZero : id ≠ 0
  drawn : ∃ count, opener.drawn[count]? = some holder ∧ id = idAt side count
  new : opener.Unwrapped → id ∉ opensOf opener.begun

inductive Step (side : End) (holder : Nat) (opener : Opener) : Opener → Prop
  | same : Step side holder opener opener
  | draw : opener.nextID ≠ 0 → Step side holder opener (opener.draw holder)
  | begin (frame : Frame) : ValidFrame side frame → frame.frameType ≠ frameOpen →
      Step side holder opener (opener.begin frame)
  | open (id : UInt32) : opener.Pending side holder id →
      Step side holder opener (opener.begin (openFrame id))

theorem Unwrapped.of_draw {opener : Opener} {self : Nat}
    (unwrapped : (opener.draw self).Unwrapped) : opener.drawn.length < 2 ^ 31 := by
  simp only [Unwrapped, draw, List.length_append, List.length_singleton] at unwrapped
  omega

theorem Sound.fresh {side : End} {opener : Opener} (sound : opener.Sound side)
    (room : opener.drawn.length < 2 ^ 31) : opener.nextID ∉ opensOf opener.begun := by
  intro member
  rcases sound.opened _ member with ⟨count, below, same⟩
  rw [sound.next] at same
  have equal := idAt_injective room (by omega) same
  omega

theorem Sound.draw {side : End} {opener : Opener} (sound : opener.Sound side) (self : Nat) :
    (opener.draw self).Sound side := by
  refine ⟨?_, sound.valid, fun id member => ?_, fun unwrapped => ?_⟩
  · change opener.nextID + 2 = _
    rw [sound.next, idAt_succ]
    simp [Opener.draw]
  · rcases sound.opened id member with ⟨count, below, same⟩
    exact ⟨count, by simp [Opener.draw]; omega, same⟩
  · exact sound.distinct (Nat.le_of_lt unwrapped.of_draw)

theorem Sound.pending {side : End} {opener : Opener} (sound : opener.Sound side) (self : Nat)
    (notZero : opener.nextID ≠ 0) : (opener.draw self).Pending side self opener.nextID := by
  refine ⟨notZero, ⟨opener.drawn.length, by simp [Opener.draw], sound.next⟩, fun unwrapped => ?_⟩
  exact sound.fresh unwrapped.of_draw

theorem Pending.valid {side : End} {self : Nat} {opener : Opener} {id : UInt32}
    (pending : opener.Pending side self id) : ValidFrame side (openFrame id) := by
  rcases pending.drawn with ⟨count, _, same⟩
  refine .inl ⟨rfl, rfl, pending.notZero, ?_⟩
  change side.other.remoteOwnsID id = true
  rw [same]
  exact (remoteOwnsID_idAt side count).1

theorem Step.sound {side : End} {holder : Nat} {opener moved : Opener}
    (step : Step side holder opener moved) (sound : opener.Sound side) : moved.Sound side := by
  cases step with
  | same => exact sound
  | draw => exact sound.draw holder
  | begin frame valid notOpen =>
      have none := opensOf_other frame notOpen
      refine ⟨sound.next, fun one member => ?_, fun id member => ?_, fun unwrapped => ?_⟩
      · rcases List.mem_append.mp member with old | new
        · exact sound.valid one old
        · rw [List.mem_singleton.mp new]
          exact valid
      · simp only [Opener.begin, opensOf_append, none, List.append_nil] at member
        exact sound.opened id member
      · simp only [Opener.begin, opensOf_append, none, List.append_nil]
        exact sound.distinct unwrapped
  | «open» id pending =>
      have one := opensOf_open (openFrame id) rfl
      refine ⟨sound.next, fun frame member => ?_, fun other member => ?_, fun unwrapped => ?_⟩
      · rcases List.mem_append.mp member with old | new
        · exact sound.valid frame old
        · rw [List.mem_singleton.mp new]
          exact pending.valid
      · simp only [Opener.begin, opensOf_append, one, List.mem_append] at member
        rcases member with old | new
        · exact sound.opened other old
        · rcases pending.drawn with ⟨count, drawn, same⟩
          refine ⟨count, (List.getElem?_eq_some_iff.mp drawn).1, ?_⟩
          rw [← same]
          exact List.mem_singleton.mp new
      · simp only [Opener.begin, opensOf_append, one]
        have disjoint : opensOf opener.begun ++ [id] = (opensOf opener.begun).concat id := by simp
        change (opensOf opener.begun ++ [id]).Nodup
        rw [disjoint]
        exact (sound.distinct unwrapped).concat (pending.new unwrapped)

theorem Step.pending {side : End} {holder other : Nat} {opener moved : Opener}
    (step : Step side holder opener moved) (different : other ≠ holder) {id : UInt32}
    (pending : opener.Pending side other id) : moved.Pending side other id := by
  rcases pending.drawn with ⟨count, drawn, same⟩
  cases step with
  | same => exact pending
  | draw =>
      refine ⟨pending.notZero, ⟨count, ?_, same⟩, fun unwrapped => ?_⟩
      · simp only [Opener.draw]
        rw [List.getElem?_append_left (List.getElem?_eq_some_iff.mp drawn).1]
        exact drawn
      · exact pending.new (Nat.le_of_lt unwrapped.of_draw)
  | begin frame valid notOpen =>
      refine ⟨pending.notZero, ⟨count, drawn, same⟩, fun unwrapped => ?_⟩
      simp only [Opener.begin, opensOf_append, opensOf_other frame notOpen, List.append_nil]
      exact pending.new unwrapped
  | «open» started theirs =>
      refine ⟨pending.notZero, ⟨count, drawn, same⟩, fun unwrapped => ?_⟩
      simp only [Opener.begin, opensOf_append, opensOf_open (openFrame started) rfl, List.mem_append]
      rintro (old | new)
      · exact pending.new unwrapped old
      · rcases theirs.drawn with ⟨place, holds, equal⟩
        have bound := (List.getElem?_eq_some_iff.mp drawn).1
        have within := (List.getElem?_eq_some_iff.mp holds).1
        have ids : idAt side count = idAt side place := by
          rw [← same, ← equal]
          exact List.mem_singleton.mp new
        have counts : count = place :=
          idAt_injective (Nat.lt_of_lt_of_le bound unwrapped)
            (Nat.lt_of_lt_of_le within unwrapped) ids
        rw [counts, holds] at drawn
        exact different (Option.some.inj drawn).symm

theorem Step.wraps {side : End} {holder : Nat} {opener moved : Opener}
    (step : Step side holder opener moved) (unwrapped : moved.Unwrapped) : opener.Unwrapped := by
  cases step with
  | draw => exact Nat.le_of_lt unwrapped.of_draw
  | _ => exact unwrapped

end Opener

/-! ## What a step does to ids and tables -/

def Action.onOpener (self : Nat) (one : End) (link : Link) (opener : Opener) : Action → Opener
  | .drawID side => if one = side then opener.draw self else opener
  | .takeToken side frame =>
      if one = side then if link.broken then opener else opener.begin frame else opener
  | _ => opener

theorem apply_opener (self : Nat) (mux : Mux) (action : Action) (one : End) :
    (action.apply self mux).opener one =
      action.onOpener self one (mux.link one) (mux.opener one) := by
  cases action with
  | takeToken side frame =>
      by_cases same : one = side
      · subst same
        cases broken : (mux.wire one).broken <;>
          simp [Action.apply, Action.begin, Action.onOpener, Mux.opener, Mux.link, Opener.begin,
            broken]
      · cases broken : (mux.wire side).broken <;>
          simp [Action.apply, Action.begin, Action.onOpener, Mux.opener, broken, same]
  | takeHeader side payloadFollows =>
      by_cases same : one = side.other
      · subst same
        cases payloadFollows <;> simp [Action.apply, Action.onOpener, Mux.opener]
      · simp [Action.apply, Action.onOpener, Mux.opener, same]
  | drawID side | writeBytes side | breakWire side | giveToken side | addStream side
  | removeStream side | pushAccept side | popAccept side | pushDatagram side
  | popDatagram side | closeDone side | closeConn side =>
      by_cases same : one = side
      · subst same
        simp [Action.apply, Action.onOpener, Mux.opener, Opener.draw]
      · simp [Action.apply, Action.onOpener, Mux.opener, same]
  | takePayload side length =>
      by_cases same : one = side.other
      · subst same
        simp [Action.apply, Action.onOpener, Mux.opener]
      · simp [Action.apply, Action.onOpener, Mux.opener, same]
  | _ => simp [Action.apply, Action.onOpener, Mux.opener]

theorem apply_streams (self : Nat) (mux : Mux) (action : Action) (one : End)
    {entry : UInt32 × Nat} (member : entry ∈ ((action.apply self mux).session one).streams) :
    entry ∈ (mux.session one).streams ∨
      action = .addStream one entry.1 ∧ entry.2 = mux.objects.length := by
  cases action with
  | addStream side id =>
      by_cases same : one = side
      · subst same
        simp only [Action.apply, Mux.setSession_session, if_true, List.mem_cons] at member
        rcases member with rfl | old
        · exact .inr ⟨rfl, rfl⟩
        · exact .inl (List.mem_of_mem_filter old)
      · simp only [Action.apply, Mux.setSession_session, if_neg same] at member
        exact .inl member
  | removeStream side id ref =>
      by_cases same : one = side
      · subst same
        simp only [Action.apply, Mux.setSession_session, if_true] at member
        exact .inl (List.mem_of_mem_filter member)
      · simp only [Action.apply, Mux.setSession_session, if_neg same] at member
        exact .inl member
  | takeToken side frame =>
      refine .inl ?_
      by_cases same : one = side
      · subst same
        cases broken : (mux.wire one).broken <;>
          simpa [Action.apply, Action.begin, broken] using member
      · cases broken : (mux.wire side).broken <;>
          simpa [Action.apply, Action.begin, broken, same] using member
  | drawID side | writeBytes side | breakWire side | giveToken side | pushAccept side
  | popAccept side | pushDatagram side | popDatagram side | closeDone side | closeConn side =>
      refine .inl ?_
      by_cases same : one = side
      · subst same
        simpa [Action.apply] using member
      · simpa [Action.apply, same] using member
  | _ => exact .inl (by simpa [Action.apply] using member)

theorem apply_streams_keeps (self : Nat) {mux : Mux} {action : Action} {one : End}
    {entry : UInt32 × Nat} (member : entry ∈ (mux.session one).streams)
    (removed : action ≠ .removeStream one entry.1 entry.2)
    (replaced : action ≠ .addStream one entry.1) :
    entry ∈ ((action.apply self mux).session one).streams := by
  cases action with
  | addStream side id =>
      by_cases same : one = side
      · subst same
        have other : entry.1 ≠ id := fun equal => replaced (by rw [equal])
        simp only [Action.apply, Mux.setSession_session, if_true]
        exact List.mem_cons_of_mem _ (List.mem_filter.mpr ⟨member, by simpa using other⟩)
      · simpa only [Action.apply, Mux.setSession_session, if_neg same] using member
  | removeStream side id ref =>
      by_cases same : one = side
      · subst same
        have other : entry ≠ (id, ref) := fun equal => removed (by rw [equal])
        simp only [Action.apply, Mux.setSession_session, if_true]
        exact List.mem_filter.mpr ⟨member, by simpa using other⟩
      · simpa only [Action.apply, Mux.setSession_session, if_neg same] using member
  | takeToken side frame =>
      by_cases same : one = side
      · subst same
        cases broken : (mux.wire one).broken <;>
          simpa [Action.apply, Action.begin, broken] using member
      · cases broken : (mux.wire side).broken <;>
          simpa [Action.apply, Action.begin, broken, same] using member
  | drawID side | writeBytes side | breakWire side | giveToken side | pushAccept side
  | popAccept side | pushDatagram side | popDatagram side | closeDone side | closeConn side =>
      by_cases same : one = side
      · subst same
        simpa [Action.apply] using member
      · simpa [Action.apply, same] using member
  | _ => simpa [Action.apply] using member

theorem getStream_none {mux : Mux} {side : End} {id : UInt32} :
    mux.getStream side id = none ↔ ∀ entry ∈ (mux.session side).streams, entry.1 ≠ id := by
  simp only [Mux.getStream, List.lookup_eq_none_iff, bne_iff_ne]
  exact ⟨fun all entry member => (all entry member).symm,
    fun all entry member => (all entry member).symm⟩

theorem plan_takeToken {mux : Mux} {thread next : Thread} {choice : Choice} {side : End}
    {frame : Frame}
    (planned : plan mux thread choice = some (.takeToken side frame, next)) :
    writes mux thread = some (side, frame, .acquire) := by
  rcases plan_cases planned with
    ⟨at_, started, point, after, contextEnds, deadline, writing, inner, _⟩ |
      ⟨_, _, _, _, _, notWrite, _⟩ | ⟨notWrite, _⟩
  · rcases planWriteFrame_cases inner with
      ⟨equal, _⟩ | ⟨equal, rfl, _⟩ | ⟨_, _, equal, _⟩ | ⟨equal, _⟩ | ⟨_, equal, _⟩ |
        ⟨_, equal, _⟩
    · cases equal
    · cases equal
      exact writing
    all_goals cases equal
  · cases notWrite
  · cases notWrite

def OpenStreamPoint.pending : OpenStreamPoint → Option UInt32
  | .insert id => some id
  | .write id _ point => if point.isEarly then some id else none
  | _ => none

theorem writes_valid {mux : Mux} {thread : Thread} {side : End} {frame : Frame}
    {point : WriteFramePoint} (writing : writes mux thread = some (side, frame, point)) :
    (∃ id ref, thread = .openStream side (.write id ref point) ∧ frame = openFrame id) ∨
      (ValidFrame side frame ∧ frame.frameType ≠ frameOpen) := by
  cases thread with
  | openStream one inner =>
      cases inner with
      | write id ref last =>
          cases writing
          exact .inl ⟨id, ref, rfl, rfl⟩
      | _ => cases writing
  | sendDatagram one payload inner =>
      cases inner with
      | write last =>
          cases writing
          exact .inr ⟨.inr (.inr (.inr ⟨rfl, rfl⟩)), by simp [datagramFrame, frameDatagram, frameOpen]⟩
      | _ => cases writing
  | write ref data inner =>
      cases inner with
      | write total chunk rest deadline last =>
          simp only [writes, Option.map_eq_some_iff] at writing
          rcases writing with ⟨stream, _, equal⟩
          cases equal
          exact .inr ⟨.inr (.inl rfl), by simp [dataFrame, frameData, frameOpen]⟩
      | _ => cases writing
  | close ref inner =>
      cases inner with
      | write last =>
          simp only [writes, Option.map_eq_some_iff] at writing
          rcases writing with ⟨stream, _, equal⟩
          cases equal
          exact .inr ⟨.inr (.inr (.inl ⟨rfl, rfl⟩)), by simp [closeFrame, frameClose, frameOpen]⟩
      | _ => cases writing
  | _ => cases writing

/-! ## The outline of the tables -/

/-- An id of the other end is in the table only after its OPEN frame was read. -/
def TableSound (mux : Mux) (side : End) : Prop :=
  ∀ entry ∈ (mux.session side).streams, side.remoteOwnsID entry.1 = true →
    entry.1 ∈ opensOf (mux.link side.other).read

structure EnteringKnown (mux : Mux) (side : End) (id : UInt32) : Prop where
  owned : side.remoteOwnsID id = true
  received : id ∈ opensOf (mux.link side.other).read
  new : (mux.opener side.other).Unwrapped → mux.getStream side id = none

def TableKnown (self : Nat) (mux : Mux) : Thread → Prop
  | .openStream side point =>
      ∀ id, point.pending = some id → (mux.opener side).Pending side self id
  | .readLoop side point =>
      match point with
      | .insert id => EnteringKnown mux side id
      | _ => True
  | _ => True

def tableOutline : Program.Outline Mux Thread where
  global pool := ∀ side,
    (pool.shared.opener side).Sound side ∧ TableSound pool.shared side
  assertion self pool thread := TableKnown self pool.shared thread

def NonzeroID (pool : MuxPool) : PoolEvent Thread Choice → Prop
  | .spawn _ => True
  | .advance self _ =>
      match pool.threads[self]? with
      | some (.openStream side .drawID) => (pool.shared.session side).nextID ≠ 0
      | _ => True

theorem opensOf_grows {before after : List Frame} (longer : before <+: after) {id : UInt32}
    (member : id ∈ opensOf before) : id ∈ opensOf after := by
  rcases longer with ⟨rest, rfl⟩
  rw [opensOf_append]
  exact List.mem_append_left _ member

/-! ## Steps -/

theorem opener_step {self : Nat} {mux : Mux} {thread next : Thread} {choice : Choice}
    {action : Action} (known : TableKnown self mux thread)
    (draws : ∀ side, thread = .openStream side .drawID → (mux.session side).nextID ≠ 0)
    (planned : plan mux thread choice = some (action, next)) (one : End) :
    Opener.Step one self (mux.opener one) ((action.apply self mux).opener one) := by
  rw [apply_opener]
  cases action with
  | drawID side =>
      by_cases same : one = side
      · subst same
        simp only [Action.onOpener, if_true]
        exact .draw (draws one (plan_takenBy planned))
      · simp only [Action.onOpener, if_neg same]
        exact .same
  | takeToken side frame =>
      by_cases same : one = side
      · subst same
        simp only [Action.onOpener, if_true]
        split
        · exact .same
        · rcases writes_valid (plan_takeToken planned) with ⟨id, ref, rfl, rfl⟩ | ⟨valid, other⟩
          · exact .open id (known id rfl)
          · exact .begin frame valid other
      · simp only [Action.onOpener, if_neg same]
        exact .same
  | _ => exact .same

theorem plan_openStream {mux : Mux} {thread : Thread} {choice : Choice} {action : Action}
    {side : End} {after : OpenStreamPoint}
    (planned : plan mux thread choice = some (action, .openStream side after)) :
    ∃ point, thread = .openStream side point ∧
      planOpenStream mux side choice point = some (action, after) := by
  cases thread with
  | openStream one point =>
      simp only [plan, Option.map_eq_some_iff] at planned
      rcases planned with ⟨_, inner, equal⟩
      cases equal
      exact ⟨point, rfl, inner⟩
  | read ref | write ref | close ref =>
      cases present : mux.objects[ref]? <;> simp [plan, present] at planned
  | _ => simp [plan] at planned

theorem pending_cases {mux : Mux} {side : End} {choice : Choice}
    {point after : OpenStreamPoint} {action : Action}
    (planned : planOpenStream mux side choice point = some (action, after)) {id : UInt32}
    (pending : after.pending = some id) :
    (action = .drawID side ∧ point = .drawID ∧ id = (mux.session side).nextID) ∨
      (point.pending = some id ∧
        ∀ self one link opener, action.onOpener self one link opener = opener) := by
  cases point with
  | drawID =>
      cases planned
      cases pending
      exact .inl ⟨rfl, rfl, rfl⟩
  | insert drawn =>
      simp only [planOpenStream] at planned
      split at planned <;> cases planned <;> cases pending
      exact .inr ⟨rfl, fun _ _ _ _ => rfl⟩
  | write drawn ref point =>
      simp only [planOpenStream, Option.map_eq_some_iff] at planned
      rcases planned with ⟨⟨written, last⟩, inner, equal⟩
      cases equal
      rcases planWriteFrame_cases inner with
        ⟨rfl, early, ⟨rfl, _⟩ | ⟨err, rfl⟩⟩ | ⟨rfl, rfl, rfl, _⟩ | ⟨_, _, rfl, rfl, rfl, _⟩ |
          ⟨rfl, rfl, rfl⟩ | ⟨_, rfl, rfl, _, rfl⟩ | ⟨err, rfl, rfl, rfl⟩
      · cases pending
        exact .inr ⟨by simp [OpenStreamPoint.pending, early], fun _ _ _ _ => rfl⟩
      · cases pending
      · cases pending
      · cases pending
      · cases pending
      · cases pending
      · cases err <;> cases pending
  | removeStream drawn ref err => cases planned; cases pending
  | closeLocal ref err =>
      simp only [planOpenStream] at planned
      repeat' split at planned
      all_goals
        cases planned
        try cases pending
  | returned => cases planned

/-- The next frame carries an id that no frame read before it carries. -/
theorem next_open_new {side : End} {mux : Mux} (sound : (mux.opener side).Sound side)
    {frame : Frame} {rest : List Frame} (ahead : (mux.link side).ahead = frame :: rest)
    (isOpen : frame.frameType = frameOpen) (unwrapped : (mux.opener side).Unwrapped) :
    frame.streamID ∉ opensOf (mux.link side).read := by
  have whole : (mux.opener side).begun = (mux.link side).read ++ [frame] ++ rest := by
    rw [List.append_assoc, List.singleton_append, ← ahead]
    exact (mux.link side).begun_eq
  have distinct := sound.distinct unwrapped
  rw [whole, opensOf_append, opensOf_append, opensOf_open frame isOpen] at distinct
  have before := (List.nodup_append.mp distinct).1
  intro member
  exact (List.nodup_append.mp before).2.2 _ member _ List.mem_cons_self rfl

theorem entering_step {self : Nat} {mux : Mux} {side : End} {choice : Choice}
    {point after : ReadLoopPoint} {action : Action}
    (sound : (mux.opener side.other).Sound side.other) (tables : TableSound mux side)
    (consistent : (mux.link side.other).Consistent)
    (reading : ReadingKnown (mux.link side.other) point)
    (planned : planReadLoop mux side choice point = some (action, after)) :
    TableKnown self (action.apply self mux) (.readLoop side after) := by
  cases point with
  | readHeader =>
      rcases planReadLoop_cases planned with
        ⟨_, available, ⟨check, _, _, rfl⟩ | ⟨payloadFollows, dispatched, rfl⟩⟩ |
          ⟨_, _, _, ⟨_, other, _⟩ | ⟨other, _⟩⟩ | ⟨notTake, _⟩
      · trivial
      · rcases consistent.next reading available with ⟨frame, rest, ahead, header⟩
        have received : decodeHeader (mux.wire side.other).bytes = frame.header := header
        rw [received] at dispatched
        rcases dispatch_ok dispatched with
          ⟨rfl, _, ⟨isOpen, _, owned, rfl⟩ | ⟨_, rfl⟩⟩ | ⟨rfl, ⟨_, rfl⟩ | ⟨_, rfl⟩⟩
        · refine ⟨owned, ?_, fun unwrapped => ?_⟩
          · rw [apply_link]
            simp only [Action.onLink, if_true, Link.takeHeader, Link.read, Bool.false_eq_true,
              if_false]
            rw [Link.read_succ ahead, opensOf_append, opensOf_open frame isOpen]
            exact List.mem_append_right _ List.mem_cons_self
          · rw [apply_opener] at unwrapped
            have new := next_open_new sound ahead isOpen unwrapped
            rw [getStream_none]
            intro entry entered same
            rcases apply_streams self mux _ side entered with old | ⟨added, _⟩
            · refine new ?_
              change frame.header.streamID ∈ _
              rw [← same]
              exact tables entry old (same ▸ owned)
            · cases added
        all_goals trivial
      · cases other
      · cases other
      · simp only [planReadLoop] at planned
        split at planned
        · split at planned
          · cases planned
          · split at planned <;> cases planned <;> cases notTake
        · cases planned
          trivial
        · cases planned
  | stopped stop inner =>
      simp only [planReadLoop, Option.map_eq_some_iff] at planned
      rcases planned with ⟨⟨taken, last⟩, closing, equal⟩
      cases equal
      trivial
  | _ =>
      simp only [planReadLoop] at planned
      repeat' split at planned
      all_goals
        cases planned
        try trivial

theorem bystander_step {self other : Nat} {mux : Mux} {thread next bystander : Thread}
    {choice : Choice} {action : Action} (different : other ≠ self)
    (openers : ∀ one, Opener.Step one self (mux.opener one)
      ((action.apply self mux).opener one))
    (reads : ∀ one, (mux.link one).read <+: ((action.apply self mux).link one).read)
    (planned : plan mux thread choice = some (action, next))
    (mine : TableKnown self mux thread)
    (apart : ∀ side point, bystander = .readLoop side point → ∀ one, thread ≠ .readLoop side one)
    (known : TableKnown other mux bystander) :
    TableKnown other (action.apply self mux) bystander := by
  cases bystander with
  | openStream side point =>
      intro id pending
      exact (openers side).pending different (known id pending)
  | readLoop side point =>
      cases point with
      | insert id =>
          refine ⟨known.owned, opensOf_grows (reads side.other) known.received,
            fun unwrapped => ?_⟩
          have absent := getStream_none.mp (known.new ((openers side.other).wraps unwrapped))
          rw [getStream_none]
          intro entry member same
          rcases apply_streams self mux action side member with old | ⟨rfl, _⟩
          · exact absent entry old same
          · rcases plan_takenBy planned with rfl | rfl
            · rcases (mine _ rfl).drawn with ⟨count, _, equal⟩
              have owned := known.owned
              rw [← same, equal, (remoteOwnsID_idAt side count).2] at owned
              cases owned
            · exact apart side _ rfl _ rfl
      | _ => trivial
  | _ => trivial

theorem tableSound_step {self : Nat} {mux : Mux} {thread next : Thread} {choice : Choice}
    {action : Action} (side : End)
    (reads : (mux.link side.other).read <+: ((action.apply self mux).link side.other).read)
    (planned : plan mux thread choice = some (action, next))
    (mine : TableKnown self mux thread) (tables : TableSound mux side) :
    TableSound (action.apply self mux) side := by
  intro entry member owned
  rcases apply_streams self mux action side member with old | ⟨rfl, _⟩
  · exact opensOf_grows reads (tables entry old owned)
  · rcases plan_takenBy planned with rfl | rfl
    · rcases (mine _ rfl).drawn with ⟨count, _, equal⟩
      rw [equal, (remoteOwnsID_idAt side count).2] at owned
      cases owned
    · exact opensOf_grows reads mine.received

theorem tableOutline_valid :
    tableOutline.Valid program fun pool event => NonzeroID pool event ∧ linkOutline.Holds pool
    where
  started pool thread holds enters _ := by
    refine ⟨holds.global, ?_⟩
    cases thread with
    | openStream side point =>
        simp only [program, entry, decide_eq_true_eq] at enters
        subst enters
        intro _ wrong
        cases wrong
    | readLoop => simp [program, entry] at enters
    | _ => trivial
  undisturbedByStart pool thread other bystander holds _ _ found :=
    holds.thread other bystander found
  sequential pool self thread choice moved next holds present permitted taken := by
    rcases step_plan taken with ⟨action, planned, rfl⟩
    have mine := holds.thread self thread present
    have links := link_step permitted.2 present planned
    have reads := fun one => (links.1 one).read_grows (permitted.2.global one)
    have draws : ∀ side, thread = .openStream side .drawID →
        (pool.shared.session side).nextID ≠ 0 := by
      rintro side rfl
      simpa [NonzeroID, present] using permitted.1
    have openers := opener_step mine draws planned
    refine ⟨fun side => ⟨(openers side).sound (holds.global side).1,
      tableSound_step side (reads side.other) planned mine (holds.global side).2⟩, ?_⟩
    cases next with
    | openStream side after =>
        rcases plan_openStream planned with ⟨point, rfl, inner⟩
        intro id pending
        rcases pending_cases inner pending with ⟨rfl, rfl, rfl⟩ | ⟨before, unchanged⟩
        · change ((Action.drawID side).apply self pool.shared |>.opener side).Pending side self _
          rw [apply_opener]
          simp only [Action.onOpener, if_true]
          exact (holds.global side).1.pending self (draws side rfl)
        · change (action.apply self pool.shared |>.opener side).Pending side self id
          rw [apply_opener, unchanged]
          exact mine id before
    | readLoop side after =>
        rcases plan_to_readLoop planned with ⟨point, rfl⟩
        rcases plan_readLoop planned with ⟨_, inner, equal⟩
        cases equal
        exact entering_step (holds.global side.other).1 (holds.global side).2
          (permitted.2.global side.other) (permitted.2.thread self _ present).2.2 inner
    | _ => trivial
  interferenceFree pool self thread choice moved next other bystander holds present permitted
      taken different found := by
    rcases step_plan taken with ⟨action, planned, rfl⟩
    have mine := holds.thread self thread present
    have links := link_step permitted.2 present planned
    have reads := fun one => (links.1 one).read_grows (permitted.2.global one)
    have draws : ∀ side, thread = .openStream side .drawID →
        (pool.shared.session side).nextID ≠ 0 := by
      rintro side rfl
      simpa [NonzeroID, present] using permitted.1
    refine bystander_step different (opener_step mine draws planned) reads planned mine ?_
      (holds.thread other bystander found)
    rintro side point rfl one rfl
    exact readsFrom_sole permitted.2 present found different ⟨one, by simp⟩

theorem tableOutline_initial : tableOutline.Holds initialPool := by
  refine ⟨fun side => ⟨⟨?_, ?_, ?_, fun _ => List.nodup_nil⟩, ?_⟩, fun self thread present => ?_⟩
  · cases side <;> rfl
  · intro _ wrong
    cases wrong
  · intro _ wrong
    cases wrong
  · intro _ wrong
    cases wrong
  · rcases self with _ | _ | _
    · cases present; trivial
    · cases present; trivial
    · simp [initialPool] at present

/-- In every run that draws no id 0 the tables are sound. -/
theorem tableOutline_of_run {allowed : MuxPool → PoolEvent Thread Choice → Prop}
    (nonzero : ∀ pool event, tableOutline.Holds pool → allowed pool event →
      NonzeroID pool event)
    {events : List (PoolEvent Thread Choice)} {pool : MuxPool}
    (run : program.machine.Run allowed initialPool events pool) : tableOutline.Holds pool := by
  have linked := run.strengthen fun _ _ past => linkOutline_of_run past
  refine linked.preserves tableOutline_initial fun middle event next holds permitted step => ?_
  exact tableOutline_valid.step holds
    ⟨nonzero middle event holds permitted.1, permitted.2⟩ step

end Rdpulse.TLSMux
