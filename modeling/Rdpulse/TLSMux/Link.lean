import Rdpulse.TLSMux.Effects

namespace Rdpulse.TLSMux

open Foundation

/-! One direction of the connection with the write token of its writer: what is
in the pipe is what has been begun and not yet read. -/

structure Link where
  bytes : Bytes
  broken : Bool
  begun : List Frame
  unwritten : Bytes
  taken : Nat
  headerTaken : Bool
  token : Option Nat

def Mux.link (mux : Mux) (side : End) : Link where
  bytes := (mux.wire side).bytes
  broken := (mux.wire side).broken
  begun := (mux.trace side).begun
  unwritten := (mux.trace side).unwritten
  taken := (mux.trace side).taken
  headerTaken := (mux.trace side).headerTaken
  token := (mux.session side).writeToken

namespace Link

def takeToken (link : Link) (self : Nat) (frame : Frame) : Link :=
  if link.broken then { link with token := some self }
  else
    { link with
      begun := link.begun ++ [frame]
      unwritten := frame.encode
      token := some self }

def write (link : Link) (bytes : Bytes) : Link :=
  { link with
    bytes := link.bytes ++ bytes
    unwritten := link.unwritten.drop bytes.length }

def takeHeader (link : Link) (payloadFollows : Bool) : Link :=
  if payloadFollows then
    { link with bytes := link.bytes.drop frameHeaderSize, headerTaken := true }
  else { link with bytes := link.bytes.drop frameHeaderSize, taken := link.taken + 1 }

def takePayload (link : Link) (length : Nat) : Link :=
  { link with
    bytes := link.bytes.drop length
    taken := link.taken + 1
    headerTaken := false }

def ahead (link : Link) : List Frame := link.begun.drop link.taken

def read (link : Link) : List Frame := link.begun.take link.taken

def offset (link : Link) : Nat := if link.headerTaken then frameHeaderSize else 0

structure Consistent (link : Link) : Prop where
  bound : link.taken ≤ link.begun.length
  started : link.headerTaken = true → link.ahead ≠ []
  stream : (encodeAll link.ahead).drop link.offset = link.bytes ++ link.unwritten
  idle : link.token = none → link.broken = false → link.unwritten = []
  small : ∀ frame ∈ link.begun, frame.payload.length ≤ maxFramePayload

theorem offset_le {link : Link} (consistent : link.Consistent) :
    link.offset ≤ (encodeAll link.ahead).length := by
  unfold offset
  split
  · rename_i header
    cases ahead : link.ahead with
    | nil => exact absurd ahead (consistent.started header)
    | cons frame rest =>
        simp only [encodeAll_cons, List.length_append, Frame.encode_length]
        omega
  · exact Nat.zero_le _

theorem Consistent.takeToken {link : Link} (consistent : link.Consistent) (self : Nat)
    (frame : Frame) (free : link.token = none)
    (small : frame.payload.length ≤ maxFramePayload) : (link.takeToken self frame).Consistent := by
  unfold Link.takeToken
  split
  · rename_i broken
    exact ⟨consistent.bound, consistent.started, consistent.stream,
      fun none => (by simp at none), consistent.small⟩
  · rename_i whole
    have nothingLeft : link.unwritten = [] := consistent.idle free (by simpa using whole)
    have grown : (link.begun ++ [frame]).drop link.taken = link.ahead ++ [frame] :=
      List.drop_append_of_le_length consistent.bound
    refine ⟨?_, ?_, ?_, fun none => (by simp at none), ?_⟩
    · simp only [List.length_append]
      exact Nat.le_add_right_of_le consistent.bound
    · intro _
      simp [Link.ahead, grown]
    · change (encodeAll ((link.begun ++ [frame]).drop link.taken)).drop link.offset = _
      rw [grown, encodeAll_append, List.drop_append_of_le_length (offset_le consistent),
        consistent.stream, nothingLeft]
      simp [encodeAll]
    · intro one member
      rcases List.mem_append.mp member with old | new
      · exact consistent.small one old
      · rw [List.mem_singleton.mp new]
        exact small

theorem Consistent.write {link : Link} (consistent : link.Consistent) {bytes rest : Bytes}
    (held : link.token ≠ none) (left : link.unwritten = bytes ++ rest) :
    (link.write bytes).Consistent := by
  refine ⟨consistent.bound, consistent.started, ?_, fun free => absurd free held,
    consistent.small⟩
  change (encodeAll link.ahead).drop link.offset = _
  simp [consistent.stream, Link.write, left]

theorem Consistent.break {link : Link} (consistent : link.Consistent) :
    ({ link with broken := true } : Link).Consistent :=
  ⟨consistent.bound, consistent.started, consistent.stream,
    fun _ whole => (by simp at whole), consistent.small⟩

theorem Consistent.giveToken {link : Link} (consistent : link.Consistent)
    (finished : link.broken = false → link.unwritten = []) :
    ({ link with token := none } : Link).Consistent :=
  ⟨consistent.bound, consistent.started, consistent.stream, fun _ => finished,
    consistent.small⟩

theorem Consistent.next {link : Link} (consistent : link.Consistent)
    (header : link.headerTaken = false) (available : frameHeaderSize ≤ link.bytes.length) :
    ∃ frame rest, link.ahead = frame :: rest ∧ decodeHeader link.bytes = frame.header := by
  have stream : encodeAll link.ahead = link.bytes ++ link.unwritten := by
    simpa [offset, header] using consistent.stream
  cases ahead : link.ahead with
  | nil =>
      have lengths := congrArg List.length stream
      simp only [ahead, encodeAll_nil, List.length_nil, List.length_append,
        frameHeaderSize] at lengths available
      omega
  | cons frame rest =>
      have member : frame ∈ link.begun := List.mem_of_mem_drop (ahead ▸ List.mem_cons_self)
      refine ⟨frame, rest, rfl, ?_⟩
      rw [← decodeHeader_append available link.unwritten, ← stream, ahead, encodeAll_cons]
      exact decodeHeader_encode frame _ (consistent.small frame member)

theorem ahead_tail {link : Link} {frame : Frame} {rest : List Frame}
    (ahead : link.ahead = frame :: rest) : link.begun.drop (link.taken + 1) = rest := by
  rw [← List.tail_drop]
  change link.ahead.tail = rest
  rw [ahead]
  rfl

theorem taken_lt {link : Link} {frame : Frame} {rest : List Frame}
    (ahead : link.ahead = frame :: rest) : link.taken < link.begun.length := by
  have positive : 0 < link.ahead.length := by simp [ahead]
  simp only [Link.ahead, List.length_drop] at positive
  omega

theorem begun_eq (link : Link) : link.begun = link.read ++ link.ahead :=
  (List.take_append_drop link.taken link.begun).symm

theorem read_succ {link : Link} {frame : Frame} {rest : List Frame}
    (ahead : link.ahead = frame :: rest) :
    link.begun.take (link.taken + 1) = link.read ++ [frame] := by
  have next : link.begun[link.taken]? = some frame := by
    have head : (link.begun.drop link.taken)[0]? = some frame := by
      change link.ahead[0]? = some frame
      rw [ahead]
      rfl
    simpa using head
  rw [List.take_add_one, next]
  rfl

theorem Consistent.takeHeader {link : Link} (consistent : link.Consistent)
    (header : link.headerTaken = false) (available : frameHeaderSize ≤ link.bytes.length) :
    (link.takeHeader true).Consistent := by
  rcases consistent.next header available with ⟨frame, rest, ahead, _⟩
  refine ⟨consistent.bound, fun _ => ?_, ?_, consistent.idle, consistent.small⟩
  · change link.ahead ≠ []
    simp [ahead]
  · have stream : encodeAll link.ahead = link.bytes ++ link.unwritten := by
      simpa [offset, header] using consistent.stream
    change (encodeAll link.ahead).drop frameHeaderSize = _
    rw [stream, List.drop_append_of_le_length available]
    rfl

theorem Consistent.takeFrame {link : Link} (consistent : link.Consistent)
    (header : link.headerTaken = false) (available : frameHeaderSize ≤ link.bytes.length)
    {frame : Frame} {rest : List Frame} (ahead : link.ahead = frame :: rest)
    (empty : frame.payload = []) : (link.takeHeader false).Consistent := by
  have stream : encodeAll link.ahead = link.bytes ++ link.unwritten := by
    simpa [offset, header] using consistent.stream
  refine ⟨taken_lt ahead, fun taken => ?_, ?_, consistent.idle, consistent.small⟩
  · simp [Link.takeHeader, header] at taken
  · change (encodeAll (link.begun.drop (link.taken + 1))).drop link.offset = _
    have whole : frame.encode.length = frameHeaderSize := by simp [empty]
    have unread : link.offset = 0 := by simp [offset, header]
    rw [ahead_tail ahead, unread, List.drop_zero]
    change _ = link.bytes.drop frameHeaderSize ++ link.unwritten
    rw [← List.drop_append_of_le_length available, ← stream, ahead, encodeAll_cons,
      List.drop_left' whole]

theorem Consistent.takePayload {link : Link} (consistent : link.Consistent)
    (header : link.headerTaken = true) {frame : Frame} {rest : List Frame}
    (ahead : link.ahead = frame :: rest)
    (available : frame.payload.length ≤ link.bytes.length) :
    (link.takePayload frame.payload.length).Consistent ∧
      link.bytes.take frame.payload.length = frame.payload := by
  have stream : frame.payload ++ encodeAll rest = link.bytes ++ link.unwritten := by
    have whole := consistent.stream
    rw [ahead, encodeAll_cons, Frame.encode, List.append_assoc] at whole
    simpa [offset, header, List.drop_left' frame.encodeHeader_length] using whole
  refine ⟨⟨taken_lt ahead, fun taken => ?_, ?_, consistent.idle, consistent.small⟩, ?_⟩
  · simp [Link.takePayload] at taken
  · change (encodeAll (link.begun.drop (link.taken + 1))).drop 0 = _
    rw [ahead_tail ahead, List.drop_zero]
    change encodeAll rest = link.bytes.drop frame.payload.length ++ link.unwritten
    rw [← List.drop_append_of_le_length available, ← stream, List.drop_left]
  · have prefixes := congrArg (List.take frame.payload.length) stream
    rw [List.take_left, List.take_append_of_le_length available] at prefixes
    exact prefixes.symm

end Link

/-! ## How the actions move a direction -/

def Action.onLink (self : Nat) (one : End) (link : Link) : Action → Link
  | .takeToken side frame => if one = side then link.takeToken self frame else link
  | .writeBytes side bytes => if one = side then link.write bytes else link
  | .breakWire side => if one = side then { link with broken := true } else link
  | .closeConn side => if one = side then { link with broken := true } else link
  | .giveToken side => if one = side then { link with token := none } else link
  | .takeHeader side payloadFollows =>
      if one = side.other then link.takeHeader payloadFollows else link
  | .takePayload side length => if one = side.other then link.takePayload length else link
  | _ => link

theorem apply_link (self : Nat) (mux : Mux) (action : Action) (one : End) :
    (action.apply self mux).link one = action.onLink self one (mux.link one) := by
  cases action with
  | takeToken side frame =>
      by_cases same : one = side
      · subst same
        cases broken : (mux.wire one).broken <;>
          simp [Action.apply, Action.begin, Action.onLink, Mux.link, Link.takeToken, broken]
      · cases broken : (mux.wire side).broken <;>
          simp [Action.apply, Action.begin, Action.onLink, Mux.link, broken, same]
  | takeHeader side payloadFollows =>
      by_cases same : one = side.other
      · subst same
        cases payloadFollows <;>
          simp [Action.apply, Action.onLink, Mux.link, Link.takeHeader]
      · simp [Action.apply, Action.onLink, Mux.link, same]
  | writeBytes side | breakWire side | giveToken side | drawID side | addStream side
  | removeStream side | pushAccept side | popAccept side | pushDatagram side
  | popDatagram side | closeDone side | closeConn side =>
      by_cases same : one = side
      · subst same
        simp [Action.apply, Action.onLink, Mux.link, Link.write]
      · simp [Action.apply, Action.onLink, Mux.link, same]
  | takePayload side length =>
      by_cases same : one = side.other
      · subst same
        simp [Action.apply, Action.onLink, Mux.link, Link.takePayload]
      · simp [Action.apply, Action.onLink, Mux.link, same]
  | _ => simp [Action.apply, Action.onLink, Mux.link]

end Rdpulse.TLSMux
