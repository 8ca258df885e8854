import Rdpulse.Foundation.Merge
import Rdpulse.Protocol.Control
import Rdpulse.Protocol.ControlStream

namespace Rdpulse.Protocol.ControlStream

open Foundation
open Foundation.Bytes

/-! # What arrives of concurrently written control messages -/

variable {Message : Type}

/-- A message that is written reads back as it was. -/
def Json.Inverts (json : Json Message) (valid : Message → Prop) : Prop :=
  ∀ msg data, valid msg → json.marshal msg = .ok data → json.unmarshal data = .ok msg

def Fits (json : Json Message) (msg : Message) : Prop :=
  ∃ data, json.marshal msg = .ok data ∧ data.length ≤ maxControlMessageSize

def frameOf (json : Json Message) (msg : Message) : Bytes :=
  match json.marshal msg with
  | .ok data => putUint32 (UInt32.ofNat data.length) ++ data
  | .error _ => []

def frames (json : Json Message) (msgs : List Message) : Bytes := msgs.flatMap (frameOf json)

/-- The goroutines write messages with valid text only. -/
def Sends (valid : Message → Prop) (_ : Pool (Shared Message) (Thread Message)) :
    PoolEvent (Thread Message) Choice → Prop
  | .spawn (.goroutine routine) => ∀ msg, some msg ∈ routine.todo → valid msg
  | _ => True

instance (valid : Message → Prop) [DecidablePred valid]
    (pool : Pool (Shared Message) (Thread Message)) (event : PoolEvent (Thread Message) Choice) :
    Decidable (Sends valid pool event) :=
  match event with
  | .spawn (.goroutine routine) =>
      decidable_of_iff (∀ entry ∈ routine.todo, ∀ msg ∈ entry, valid msg)
        ⟨fun all msg member => all (some msg) member msg rfl,
          fun all _ member msg same => all msg (same ▸ member)⟩
  | .spawn .reader => .isTrue trivial
  | .advance _ _ => .isTrue trivial

/-! ## What the threads have done -/

/-- The message of a call in progress that was given to `Write`, or is about to return nil. -/
def WritePoint.current : WritePoint Message → List Message
  | .write msg _ _ => [msg]
  | .unlock (some msg) none => [msg]
  | _ => []

def WritePoint.unsent : WritePoint Message → Bytes
  | .write _ frame n => frame.drop n
  | _ => []

def WritePoint.inside : WritePoint Message → Bool
  | .marshal _ => true
  | .write _ _ _ => true
  | .unlock _ _ => true
  | _ => false

def success : Option Message × Option String → Option Message
  | (msg, none) => msg
  | (_, some _) => none

/-- The messages of the goroutine's calls that returned nil, and of one in progress. -/
def Goroutine.accepted (routine : Goroutine Message) : List Message :=
  routine.returned.filterMap success ++ routine.point.current

def parts (pool : Pool (Shared Message) (Thread Message)) (self : Nat) : List Message :=
  match pool.threads[self]? with
  | some (.goroutine routine) => routine.accepted
  | _ => []

def ReadPoint.waits : ReadPoint → Bool
  | .header lenBuf => lenBuf.length < 4
  | .body msgLen buf => buf.length < msgLen.toNat
  | .failed => true

def ReadPoint.held : ReadPoint → Bytes
  | .header lenBuf => lenBuf
  | .body msgLen buf => putUint32 msgLen ++ buf
  | .failed => []

/-- What is promised of the stream: the accepted messages are a merge of what the goroutines
wrote, each within the limit of the reader, and a message beyond it is refused with no byte
written; the stream carries the frames of those accepted and nothing else; what
`ReadControlMessage` returned are the first of them; and once no call is in progress and the
reader waits at the end of the stream, it has returned them all. -/
structure Intact (json : Json Message) (pool : Pool (Shared Message) (Thread Message)) :
    Prop where
  merged : Merge (parts pool) pool.shared.accepted
  limited : ∀ msg ∈ pool.shared.accepted, Fits json msg
  returned : ∀ (self : Nat) (routine : Goroutine Message),
    pool.threads[self]? = some (.goroutine routine) →
    ∀ call ∈ routine.returned, call.2 = none ↔ ∃ msg, call.1 = some msg ∧ Fits json msg
  refused : ∀ (self : Nat) (routine : Goroutine Message) msg data choice moved next,
    pool.threads[self]? = some (.goroutine routine) → routine.point = .marshal (some msg) →
    json.marshal msg = .ok data → maxControlMessageSize < data.length →
    writeStep json self pool.shared routine choice = some (moved, next) →
    moved = pool.shared ∧ ∃ err, next.point = .unlock (some msg) (some err)
  begun : pool.shared.written <+: frames json pool.shared.accepted
  complete : pool.shared.holder = none →
    pool.shared.written = frames json pool.shared.accepted
  received : pool.shared.results <+: pool.shared.accepted.map .ok
  settled : pool.shared.holder = none → pool.shared.read = pool.shared.written.length →
    pool.shared.point.waits = true → pool.shared.results = pool.shared.accepted.map .ok

/-! ## Frames -/

section Frames

variable {json : Json Message}

theorem frameOf_eq {msg : Message} {data : Bytes} (encoded : json.marshal msg = .ok data) :
    frameOf json msg = putUint32 (UInt32.ofNat data.length) ++ data := by
  simp only [frameOf, encoded]

theorem controlFrame_ok {msg : Message} {frame : Bytes}
    (built : controlFrame json msg = .ok frame) : Fits json msg ∧ frame = frameOf json msg := by
  unfold controlFrame at built
  cases encoded : json.marshal msg with
  | error err => simp [encoded] at built
  | ok data =>
      simp only [encoded] at built
      split at built
      · cases built
      · rename_i small
        cases built
        exact ⟨⟨data, encoded, Nat.le_of_not_lt small⟩, (frameOf_eq encoded).symm⟩

theorem controlFrame_error {msg : Message} {err : String}
    (refused : controlFrame json msg = .error err) : ¬Fits json msg := by
  rintro ⟨data, encoded, small⟩
  simp [controlFrame, encoded, Nat.not_lt.mpr small] at refused

@[simp] theorem frames_append (before after : List Message) :
    frames json (before ++ after) = frames json before ++ frames json after :=
  List.flatMap_append

@[simp] theorem frames_singleton (msg : Message) : frames json [msg] = frameOf json msg := by
  simp [frames]

theorem length_toNat {data : Bytes} (small : data.length ≤ maxControlMessageSize) :
    (UInt32.ofNat data.length).toNat = data.length := by
  have bound : maxControlMessageSize < 2 ^ 32 := by decide
  rw [UInt32.toNat_ofNat', Nat.mod_eq_of_lt (Nat.lt_of_le_of_lt small bound)]

theorem first_frame {pending : List Message} {msgLen : UInt32} {buf : Bytes}
    (fit : ∀ msg ∈ pending, Fits json msg)
    (front : putUint32 msgLen ++ buf <+: frames json pending) :
    ∃ msg rest data, pending = msg :: rest ∧ json.marshal msg = .ok data ∧
      msgLen.toNat = data.length ∧ data.length ≤ maxControlMessageSize ∧
      frameOf json msg = putUint32 msgLen ++ data ∧ buf <+: data ++ frames json rest := by
  cases pending with
  | nil =>
      have short := front.length_le
      simp [frames] at short
  | cons msg rest =>
      rcases fit msg List.mem_cons_self with ⟨data, encoded, small⟩
      have split : frames json (msg :: rest) =
          putUint32 (UInt32.ofNat data.length) ++ (data ++ frames json rest) := by
        rw [frames, List.flatMap_cons, frameOf_eq encoded, List.append_assoc]
        rfl
      rw [split] at front
      have header : putUint32 msgLen = putUint32 (UInt32.ofNat data.length) :=
        List.IsPrefix.eq_of_length (List.prefix_of_prefix_length_le
          ((List.prefix_append _ _).trans front) (List.prefix_append _ _) (by simp)) (by simp)
      have known := putUint32_injective header
      rw [header] at front
      refine ⟨msg, rest, data, rfl, encoded, ?_, small, ?_,
        (List.prefix_append_right_inj _).mp front⟩
      · rw [known, length_toNat small]
      · rw [known, frameOf_eq encoded]

end Frames

/-! ## The proof outline -/

def ReadPoint.Within : ReadPoint → Prop
  | .header lenBuf => lenBuf.length ≤ 4
  | .body msgLen buf => buf.length ≤ msgLen.toNat
  | .failed => False

structure Reads (json : Json Message) (shared : Shared Message)
    (received pending : List Message) : Prop where
  split : shared.accepted = received ++ pending
  results : shared.results = received.map .ok
  bound : shared.read ≤ shared.written.length
  taken : shared.written.take shared.read = frames json received ++ shared.point.held
  within : shared.point.Within

structure Streams (json : Json Message) (valid : Message → Prop) (shared : Shared Message) :
    Prop where
  accepted : ∀ msg ∈ shared.accepted, Fits json msg ∧ valid msg
  begun : shared.written <+: frames json shared.accepted
  reads : ∃ received pending, Reads json shared received pending
  complete : shared.holder = none → shared.written = frames json shared.accepted

/-- A call returns nil if its message is within the limit, and an error otherwise. -/
def Outcome (json : Json Message) (call : Option Message × Option String) : Prop :=
  call.2 = none ↔ ∃ msg, call.1 = some msg ∧ Fits json msg

def WritePoint.Sound (json : Json Message) (valid : Message → Prop) : WritePoint Message → Prop
  | .idle => True
  | .lock msg => ∀ given, msg = some given → valid given
  | .marshal msg => ∀ given, msg = some given → valid given
  | .write msg frame n => Fits json msg ∧ frame = frameOf json msg ∧ n ≤ frame.length
  | .unlock msg err => Outcome json (msg, err)

structure Goroutine.Sound (json : Json Message) (valid : Message → Prop)
    (routine : Goroutine Message) : Prop where
  todo : ∀ msg, some msg ∈ routine.todo → valid msg
  point : routine.point.Sound json valid
  returned : ∀ call ∈ routine.returned, Outcome json call

def Owns (json : Json Message) (self : Nat) (shared : Shared Message)
    (point : WritePoint Message) : Prop :=
  point.inside = true → shared.holder = some self ∧
    shared.written ++ point.unsent = frames json shared.accepted

def outline (json : Json Message) (valid : Message → Prop) :
    Program.Outline (Shared Message) (Thread Message) where
  global pool := Streams json valid pool.shared ∧ Merge (parts pool) pool.shared.accepted
  assertion self pool thread :=
    match thread with
    | .goroutine routine =>
        routine.Sound json valid ∧ Owns json self pool.shared routine.point
    | .reader => True

section Steps

variable {json : Json Message} {valid : Message → Prop} {shared moved : Shared Message}
  {routine next : Goroutine Message} {self : Nat} {choice : Choice}

structure Wrote (json : Json Message) (valid : Message → Prop) (number : Nat)
    (shared moved : Shared Message) (routine next : Goroutine Message) : Prop where
  streams : Streams json valid moved
  sound : next.Sound json valid
  owns : Owns json number moved next.point
  merged : (moved.accepted = shared.accepted ∧ next.accepted = routine.accepted) ∨
    ∃ msg, moved.accepted = shared.accepted ++ [msg] ∧ next.accepted = routine.accepted ++ [msg]

theorem Streams.held (streams : Streams json valid shared) (self : Nat) :
    Streams json valid { shared with holder := some self } where
  accepted := streams.accepted
  begun := streams.begun
  reads := by
    rcases streams.reads with ⟨received, pending, reads⟩
    exact ⟨received, pending, reads.split, reads.results, reads.bound, reads.taken, reads.within⟩
  complete free := by cases free

theorem Streams.released (streams : Streams json valid shared)
    (sent : shared.written = frames json shared.accepted) :
    Streams json valid { shared with holder := none } where
  accepted := streams.accepted
  begun := streams.begun
  reads := by
    rcases streams.reads with ⟨received, pending, reads⟩
    exact ⟨received, pending, reads.split, reads.results, reads.bound, reads.taken, reads.within⟩
  complete _ := sent

theorem Streams.accepts (streams : Streams json valid shared) (held : shared.holder ≠ none)
    {msg : Message} (fits : Fits json msg) (known : valid msg) :
    Streams json valid { shared with accepted := shared.accepted ++ [msg] } where
  accepted := by
    intro given member
    rcases List.mem_append.mp member with old | new
    · exact streams.accepted given old
    · rw [List.mem_singleton.mp new]
      exact ⟨fits, known⟩
  begun := by
    rw [frames_append]
    exact streams.begun.trans (List.prefix_append _ _)
  reads := by
    rcases streams.reads with ⟨received, pending, reads⟩
    refine ⟨received, pending ++ [msg], ?_, reads.results, reads.bound, reads.taken, reads.within⟩
    rw [reads.split, List.append_assoc]
  complete free := absurd free held

theorem Streams.writes (streams : Streams json valid shared) (held : shared.holder ≠ none)
    {more : Bytes} (begun : shared.written ++ more <+: frames json shared.accepted) :
    Streams json valid { shared with written := shared.written ++ more } where
  accepted := streams.accepted
  begun := begun
  reads := by
    rcases streams.reads with ⟨received, pending, reads⟩
    refine ⟨received, pending, reads.split, reads.results, ?_, ?_, reads.within⟩
    · rw [List.length_append]
      exact Nat.le_trans reads.bound (Nat.le_add_right _ _)
    · rw [List.take_append_of_le_length reads.bound]
      exact reads.taken
  complete free := absurd free held

theorem writeStep_wrote (streams : Streams json valid shared) (sound : routine.Sound json valid)
    (owns : Owns json self shared routine.point)
    (taken : writeStep json self shared routine choice = some (moved, next)) :
    Wrote json valid self shared moved routine next := by
  unfold writeStep at taken
  have safe := sound.point
  cases point : routine.point with
  | idle =>
      rw [point] at taken
      cases todo : routine.todo with
      | nil => simp [todo] at taken
      | cons msg rest =>
          simp only [todo] at taken
          cases taken
          have listed := sound.todo
          rw [todo] at listed
          exact
            { streams := streams
              sound :=
                { todo := fun given member => listed given (List.mem_cons_of_mem _ member)
                  point := fun given same => listed given (same ▸ List.mem_cons_self)
                  returned := sound.returned }
              owns := fun inside => by cases inside
              merged := .inl ⟨rfl, by simp [Goroutine.accepted, WritePoint.current, point]⟩ }
  | lock msg =>
      rw [point] at taken safe
      simp only at taken
      split at taken
      · rename_i free
        cases taken
        exact
          { streams := streams.held self
            sound := ⟨sound.todo, safe, sound.returned⟩
            owns := fun _ => ⟨rfl, (List.append_nil _).trans (streams.complete free)⟩
            merged := .inl ⟨rfl, by simp [Goroutine.accepted, WritePoint.current, point]⟩ }
      · cases taken
  | marshal msg =>
      have own := owns (by rw [point]; rfl)
      rw [point] at taken safe own
      have sent : shared.written = frames json shared.accepted :=
        (List.append_nil _).symm.trans own.2
      cases msg with
      | none =>
          cases taken
          exact
            { streams := streams
              sound := ⟨sound.todo, by simp [WritePoint.Sound, Outcome], sound.returned⟩
              owns := fun _ => own
              merged := .inl ⟨rfl, by simp [Goroutine.accepted, WritePoint.current, point]⟩ }
      | some msg =>
          simp only at taken
          split at taken
          · rename_i err refused
            cases taken
            have large := controlFrame_error refused
            exact
              { streams := streams
                sound := ⟨sound.todo, by simp [WritePoint.Sound, Outcome, large], sound.returned⟩
                owns := fun _ => own
                merged := .inl ⟨rfl, by simp [Goroutine.accepted, WritePoint.current, point]⟩ }
          · rename_i frame built
            cases taken
            rcases controlFrame_ok built with ⟨fits, rfl⟩
            have held : shared.holder ≠ none := by simp [own.1]
            refine
              { streams := streams.accepts held fits (safe msg rfl)
                sound := ⟨sound.todo, ⟨fits, rfl, Nat.zero_le _⟩, sound.returned⟩
                owns := fun _ => ⟨own.1, ?_⟩
                merged := .inr ⟨msg, rfl, by simp [Goroutine.accepted, WritePoint.current, point]⟩ }
            rw [frames_append, frames_singleton, ← sent]
            rfl
  | write msg frame n =>
      have own := owns (by rw [point]; rfl)
      rw [point] at taken safe own
      have held : shared.holder ≠ none := by simp [own.1]
      rcases safe with ⟨fits, built, bound⟩
      cases choice with
      | bytes count =>
          simp only at taken
          split at taken
          · rename_i enough
            cases taken
            have rest : (frame.drop n).take count ++ frame.drop (n + count) = frame.drop n := by
              rw [← List.drop_drop, List.take_append_drop]
            have left : shared.written ++ (frame.drop n).take count ++ frame.drop (n + count) =
                frames json shared.accepted := by
              rw [List.append_assoc, rest]
              exact own.2
            exact
              { streams := streams.writes held ⟨_, left⟩
                sound := ⟨sound.todo, ⟨fits, built, enough⟩, sound.returned⟩
                owns := fun _ => ⟨own.1, left⟩
                merged := .inl ⟨rfl, by simp [Goroutine.accepted, WritePoint.current, point]⟩ }
          · cases taken
      | proceed =>
          simp only at taken
          split at taken
          · cases taken
          · rename_i all
            cases taken
            have whole : n = frame.length := by omega
            have sent : shared.written ++ [] = frames json shared.accepted := by
              rw [← own.2, WritePoint.unsent, whole, List.drop_length]
            have outcome : Outcome json (some msg, if n ≠ frame.length then some "short write" else none) := by
              simp [Outcome, whole, fits]
            exact
              { streams := streams
                sound := ⟨sound.todo, outcome, sound.returned⟩
                owns := fun _ => ⟨own.1, sent⟩
                merged := .inl ⟨rfl, by simp [Goroutine.accepted, WritePoint.current, point, whole]⟩ }
  | unlock msg err =>
      have own := owns (by rw [point]; rfl)
      rw [point] at taken safe own
      cases taken
      refine
        { streams := streams.released ((List.append_nil _).symm.trans own.2)
          sound := ⟨sound.todo, trivial, fun call member => ?_⟩
          owns := fun inside => by cases inside
          merged := .inl ⟨rfl, ?_⟩ }
      · rcases List.mem_append.mp member with old | new
        · exact sound.returned call old
        · rw [List.mem_singleton.mp new]
          exact safe
      · cases msg <;> cases err <;>
          simp [Goroutine.accepted, WritePoint.current, point, success]

structure Took (json : Json Message) (valid : Message → Prop) (shared moved : Shared Message) :
    Prop where
  streams : Streams json valid moved
  holder : moved.holder = shared.holder
  written : moved.written = shared.written
  accepted : moved.accepted = shared.accepted

theorem Streams.held_first (streams : Streams json valid shared)
    {received pending : List Message} (reads : Reads json shared received pending) :
    shared.point.held <+: frames json pending ∧ ∀ msg ∈ pending, Fits json msg ∧ valid msg := by
  constructor
  · have front := (List.take_prefix shared.read shared.written).trans streams.begun
    rw [reads.taken, reads.split, frames_append] at front
    exact (List.prefix_append_right_inj _).mp front
  · intro msg member
    refine streams.accepted msg ?_
    rw [reads.split]
    exact List.mem_append_right _ member

theorem readFull_took (streams : Streams json valid shared) {size : Nat} {buf : Bytes}
    {count : Nat} {point : Bytes → ReadPoint} (here : shared.point = point buf)
    (grows : ∀ more, (point (buf ++ more)).held = (point buf).held ++ more)
    (within : ∀ bytes, (point bytes).Within ↔ bytes.length ≤ size)
    (taken : readFull shared size buf count point = some moved) :
    Took json valid shared moved := by
  unfold readFull at taken
  split at taken
  · rename_i possible
    simp only [Bool.and_eq_true, decide_eq_true_eq] at possible
    cases taken
    rcases streams.reads with ⟨received, pending, reads⟩
    have long : (shared.next count).length = count := by
      rw [Shared.next, List.length_take, List.length_drop]
      omega
    refine ⟨⟨streams.accepted, streams.begun, ⟨received, pending, reads.split, reads.results,
      possible.2, ?_, ?_⟩, streams.complete⟩, rfl, rfl, rfl⟩
    · rw [List.take_add, reads.taken, here, grows, List.append_assoc]
      rfl
    · rw [within, List.length_append, long]
      exact possible.1
  · cases taken

theorem readStep_took (inverts : json.Inverts valid) (streams : Streams json valid shared)
    (taken : readStep json shared choice = some moved) : Took json valid shared moved := by
  rcases streams.reads with ⟨received, pending, reads⟩
  rcases streams.held_first reads with ⟨front, ahead⟩
  have fit : ∀ msg ∈ pending, Fits json msg := fun msg member => (ahead msg member).1
  have within := reads.within
  unfold readStep at taken
  cases point : shared.point with
  | header lenBuf =>
      rw [point] at taken front within
      cases choice with
      | bytes count =>
          exact readFull_took streams point (fun more => rfl) (fun bytes => Iff.rfl) taken
      | proceed =>
          simp only at taken
          split at taken
          · cases taken
          · rename_i enough
            have four : lenBuf.length = 4 := by
              have atMost : lenBuf.length ≤ 4 := within
              omega
            have known : putUint32 (uint32 lenBuf) = lenBuf := by
              rw [putUint32_uint32 (by omega), List.take_of_length_le (by omega)]
            have named : putUint32 (uint32 lenBuf) ++ [] <+: frames json pending := by
              rw [known, List.append_nil]
              exact front
            -- The length is that of the first message to come, which is within the limit.
            rcases first_frame fit named with ⟨msg, rest, data, _, _, length, small, _, _⟩
            rw [if_neg (by omega)] at taken
            cases taken
            refine ⟨⟨streams.accepted, streams.begun, ⟨received, pending, reads.split,
              reads.results, reads.bound, ?_, Nat.zero_le _⟩, streams.complete⟩, rfl, rfl, rfl⟩
            rw [reads.taken, point]
            simp only [ReadPoint.held, known, List.append_nil]
  | body msgLen buf =>
      rw [point] at taken front within
      cases choice with
      | bytes count =>
          exact readFull_took streams point
            (fun more => by simp only [ReadPoint.held, List.append_assoc])
            (fun bytes => Iff.rfl) taken
      | proceed =>
          simp only at taken
          split at taken
          · cases taken
          · rename_i enough
            rcases first_frame fit front with
              ⟨msg, rest, data, first, encoded, length, _, framed, bytes⟩
            have whole : buf = data := by
              have atMost : buf.length ≤ msgLen.toNat := within
              exact List.IsPrefix.eq_of_length (List.prefix_of_prefix_length_le bytes
                (List.prefix_append _ _) (by omega)) (by omega)
            have known : valid msg := (ahead msg (first ▸ List.mem_cons_self)).2
            rw [whole, inverts msg data known encoded] at taken
            cases taken
            refine ⟨⟨streams.accepted, streams.begun, ⟨received ++ [msg], rest, ?_, ?_,
              reads.bound, ?_, Nat.zero_le _⟩, streams.complete⟩, rfl, rfl, rfl⟩
            · rw [reads.split, first, List.append_assoc]
              rfl
            · rw [reads.results, List.map_append]
              rfl
            · rw [reads.taken, point, frames_append, frames_singleton, framed, whole]
              exact (List.append_nil _).symm
  | failed =>
      rw [point] at within
      exact within.elim

end Steps

/-! ## Runs -/

section Runs

variable {json : Json Message} {valid : Message → Prop}
  {pool : Pool (Shared Message) (Thread Message)}

theorem entry_goroutine {thread : Thread Message} (enters : (program json).entry thread = true) :
    ∃ todo, thread = .goroutine ⟨todo, .idle, []⟩ := by
  rcases thread with ⟨todo, point, returned⟩ | _
  · cases point with
    | idle =>
        cases returned with
        | nil => exact ⟨todo, rfl⟩
        | cons _ _ => cases enters
    | lock _ => cases enters
    | marshal _ => cases enters
    | write _ _ _ => cases enters
    | unlock _ _ => cases enters
  · cases enters

theorem parts_start (todo : List (Option Message)) :
    parts (pool.start (.goroutine ⟨todo, .idle, []⟩)) = parts pool := by
  funext index
  unfold parts
  cases found : (pool.start (.goroutine ⟨todo, .idle, []⟩)).threads[index]? with
  | none =>
      cases old : pool.threads[index]? with
      | none => rfl
      | some thread =>
          rw [Pool.start_old old] at found
          cases found
  | some thread =>
      rcases Pool.start_cases found with old | ⟨rfl, rfl⟩
      · rw [old]
      · rw [List.getElem?_eq_none (Nat.le_refl _)]
        rfl

theorem parts_other {self other : Nat} (different : other ≠ self) (shared : Shared Message)
    (next : Thread Message) : parts (pool.update self shared next) other = parts pool other := by
  unfold parts
  rw [Pool.update_other pool different]

theorem parts_self {self : Nat} {routine next : Goroutine Message}
    (present : pool.threads[self]? = some (.goroutine routine)) (shared : Shared Message) :
    parts pool self = routine.accepted ∧
      parts (pool.update self shared (.goroutine next)) self = next.accepted := by
  unfold parts
  rw [present, Pool.update_self present]
  exact ⟨rfl, rfl⟩

theorem Wrote.merge {self : Nat} {routine next : Goroutine Message} {moved : Shared Message}
    (wrote : Wrote json valid self pool.shared moved routine next)
    (merged : Merge (parts pool) pool.shared.accepted)
    (present : pool.threads[self]? = some (.goroutine routine)) :
    Merge (parts (pool.update self moved (.goroutine next))) moved.accepted := by
  rcases @parts_self _ pool self routine next present moved with ⟨before, after⟩
  rcases wrote.merged with ⟨accepted, same⟩ | ⟨msg, accepted, more⟩
  · have unchanged : parts (pool.update self moved (.goroutine next)) = parts pool := by
      funext other
      by_cases own : other = self
      · rw [own, after, before, same]
      · exact parts_other own moved _
    rw [unchanged, accepted]
    exact merged
  · rw [accepted]
    exact merged.next (by rw [after, before, more]) fun other different =>
      parts_other different moved _

theorem parts_reader {self : Nat} (present : pool.threads[self]? = some .reader)
    (shared : Shared Message) : parts (pool.update self shared .reader) = parts pool := by
  funext other
  by_cases own : other = self
  · subst own
    unfold parts
    rw [present, Pool.update_self present]
  · exact parts_other own shared _

theorem writeStep_outside {shared moved : Shared Message} {routine next : Goroutine Message}
    {self other : Nat} {choice : Choice} (outside : routine.point.inside = false)
    (held : shared.holder = some other)
    (taken : writeStep json self shared routine choice = some (moved, next)) : moved = shared := by
  unfold writeStep at taken
  cases point : routine.point with
  | idle =>
      rw [point] at taken
      cases todo : routine.todo with
      | nil => simp [todo] at taken
      | cons msg rest =>
          simp only [todo] at taken
          cases taken
          rfl
  | lock msg =>
      rw [point] at taken
      simp [held] at taken
  | marshal msg => simp [point, WritePoint.inside] at outside
  | write msg frame n => simp [point, WritePoint.inside] at outside
  | unlock msg err => simp [point, WritePoint.inside] at outside

theorem outline_valid (inverts : json.Inverts valid) :
    (outline json valid).Valid (program json) (Sends valid) where
  started pool thread holds enters permitted := by
    rcases entry_goroutine enters with ⟨todo, rfl⟩
    refine ⟨⟨holds.global.1, ?_⟩, ⟨permitted, trivial, fun call member => by cases member⟩,
      fun inside => by cases inside⟩
    rw [parts_start]
    exact holds.global.2
  undisturbedByStart pool thread other bystander holds _ _ found :=
    holds.thread other bystander found
  sequential pool self thread choice shared next holds present _ taken := by
    rcases holds.global with ⟨streams, merged⟩
    cases thread with
    | goroutine routine =>
        have own := holds.thread self _ present
        rcases Option.map_eq_some_iff.mp taken with ⟨⟨moved, after⟩, stepped, same⟩
        cases same
        have wrote := writeStep_wrote streams own.1 own.2 stepped
        exact ⟨⟨wrote.streams, wrote.merge merged present⟩, wrote.sound, wrote.owns⟩
    | reader =>
        rcases Option.map_eq_some_iff.mp taken with ⟨moved, stepped, same⟩
        cases same
        have took := readStep_took inverts streams stepped
        refine ⟨⟨took.streams, ?_⟩, trivial⟩
        rw [parts_reader present, Pool.update_shared, took.accepted]
        exact merged
  interferenceFree pool self thread choice shared next other bystander holds present _
      taken different found := by
    have theirs := holds.thread other bystander found
    cases bystander with
    | reader => trivial
    | goroutine routine =>
        refine ⟨theirs.1, fun inside => ?_⟩
        rcases theirs.2 inside with ⟨held, sent⟩
        cases thread with
        | goroutine mover =>
            have own := holds.thread self _ present
            rcases Option.map_eq_some_iff.mp taken with ⟨⟨moved, after⟩, stepped, same⟩
            cases same
            -- Two goroutines are not inside at once.
            have outside : mover.point.inside = false := by
              by_contra also
              have mine := (own.2 (Bool.eq_true_of_not_eq_false also)).1
              rw [held] at mine
              exact different (Option.some.inj mine)
            rw [Pool.update_shared, writeStep_outside outside held stepped]
            exact ⟨held, sent⟩
        | reader =>
            rcases Option.map_eq_some_iff.mp taken with ⟨moved, stepped, same⟩
            cases same
            have took := readStep_took inverts holds.global.1 stepped
            rw [Pool.update_shared, took.holder, took.written, took.accepted]
            exact ⟨held, sent⟩

theorem initial_holds (json : Json Message) (valid : Message → Prop) :
    (outline json valid).Holds (initial : Pool (Shared Message) (Thread Message)) := by
  have empty : parts (initial : Pool (Shared Message) (Thread Message)) = fun _ => [] := by
    funext index
    cases index <;> rfl
  have reads : Reads json (initial : Pool (Shared Message) (Thread Message)).shared [] [] :=
    ⟨rfl, rfl, Nat.le_refl _, rfl, Nat.zero_le _⟩
  refine ⟨⟨⟨fun msg member => ?_, List.prefix_refl _, ⟨[], [], reads⟩, fun _ => rfl⟩, ?_⟩, ?_⟩
  · cases member
  · rw [empty]
    exact .nil
  · intro self thread present
    cases self with
    | zero =>
        cases present
        trivial
    | succ self => cases present

theorem settled (streams : Streams json valid pool.shared)
    (free : pool.shared.holder = none) (drained : pool.shared.read = pool.shared.written.length)
    (waits : pool.shared.point.waits = true) :
    pool.shared.results = pool.shared.accepted.map .ok := by
  rcases streams.reads with ⟨received, pending, reads⟩
  have fit : ∀ msg ∈ pending, Fits json msg := fun msg member =>
    ((streams.held_first reads).2 msg member).1
  have all : pool.shared.point.held = frames json pending := by
    have taken := reads.taken
    rw [drained, List.take_length, streams.complete free, reads.split, frames_append] at taken
    exact (List.append_cancel_left taken).symm
  suffices none : pending = [] by rw [reads.results, reads.split, none, List.append_nil]
  cases pending with
  | nil => rfl
  | cons msg rest =>
      exfalso
      have within := reads.within
      cases point : pool.shared.point with
      | header lenBuf =>
          rcases fit msg List.mem_cons_self with ⟨data, encoded, _⟩
          have length := congrArg List.length all
          rw [point, frames, List.flatMap_cons, frameOf_eq encoded] at length
          simp only [ReadPoint.held, List.length_append, putUint32_length] at length
          rw [point] at waits
          have short := of_decide_eq_true waits
          omega
      | body msgLen buf =>
          have front : putUint32 msgLen ++ buf <+: frames json (msg :: rest) := by
            rw [point] at all
            exact all ▸ List.prefix_refl _
          rcases first_frame fit front with ⟨_, more, data, same, _, length, _, framed, _⟩
          cases same
          rw [point, frames, List.flatMap_cons, framed, List.append_assoc] at all
          have bytes := congrArg List.length (List.append_cancel_left all)
          rw [point] at waits
          have short := of_decide_eq_true waits
          rw [List.length_append] at bytes
          omega
      | failed =>
          rw [point] at within
          exact within

theorem writeStep_refused {shared moved : Shared Message} {routine next : Goroutine Message}
    {self : Nat} {choice : Choice} {msg : Message} {data : Bytes}
    (point : routine.point = .marshal (some msg)) (encoded : json.marshal msg = .ok data)
    (large : maxControlMessageSize < data.length)
    (taken : writeStep json self shared routine choice = some (moved, next)) :
    moved = shared ∧ ∃ err, next.point = .unlock (some msg) (some err) := by
  simp only [writeStep, point, controlFrame, encoded, if_pos large, Option.some.injEq,
    Prod.mk.injEq] at taken
  rcases taken with ⟨rfl, rfl⟩
  exact ⟨rfl, _, rfl⟩

/-! ## The guarantee -/

/-- Whatever the goroutines, their interleaving and the portions of the stream are, the
messages arrive whole, in the order of the mutex. -/
theorem control_stream_intact (json : Json Message) (valid : Message → Prop)
    (inverts : json.Inverts valid) {events : List (PoolEvent (Thread Message) Choice)}
    {pool : Pool (Shared Message) (Thread Message)}
    (run : (program json).machine.Run (Sends valid) initial events pool) : Intact json pool := by
  have holds := (outline_valid inverts).run (initial_holds json valid) run
  rcases holds.global with ⟨streams, merged⟩
  rcases streams.reads with ⟨received, pending, reads⟩
  refine
    { merged := merged
      limited := fun msg member => (streams.accepted msg member).1
      returned := fun self routine present => (holds.thread self _ present).1.returned
      refused := fun _ _ _ _ _ _ _ _ point encoded large taken =>
        writeStep_refused point encoded large taken
      begun := streams.begun
      complete := streams.complete
      received := ?_
      settled := settled streams }
  rw [reads.results, reads.split, List.map_append]
  exact List.prefix_append _ _

/-! ## Two pings -/

def ping (device : UInt8) : ControlMessage := { type := .ping, deviceID := [device] }

def pingText (device : UInt8) : Bytes :=
  [0x7b, 0x22, 0x74, 0x79, 0x70, 0x65, 0x22, 0x3a, 0x22, 0x50, 0x49, 0x4e, 0x47, 0x22, 0x2c,
    0x22, 0x64, 0x65, 0x76, 0x69, 0x63, 0x65, 0x5f, 0x69, 0x64, 0x22, 0x3a, 0x22, device, 0x22,
    0x7d]

def pingJson : Json ControlMessage where
  marshal msg :=
    if msg = ping 0x61 then .ok (pingText 0x61)
    else if msg = ping 0x62 then .ok (pingText 0x62)
    else .error "unsupported"
  unmarshal text :=
    if text = pingText 0x61 then .ok (ping 0x61)
    else if text = pingText 0x62 then .ok (ping 0x62)
    else .error "invalid"

def isPing (msg : ControlMessage) : Prop := msg = ping 0x61 ∨ msg = ping 0x62

instance : DecidablePred isPing := fun _ => inferInstanceAs (Decidable (_ ∨ _))

theorem pingJson_inverts : pingJson.Inverts isPing := by
  rintro msg data (rfl | rfl) encoded
  · have text : data = pingText 0x61 := (Except.ok.inj encoded).symm
    rw [text]
    decide
  · have text : data = pingText 0x62 := (Except.ok.inj encoded).symm
    rw [text]
    decide

def pinger (device : UInt8) : Thread ControlMessage :=
  .goroutine ⟨[some (ping device)], .idle, []⟩

/-- "b" takes the mutex first, and the reader follows it in portions. -/
def pingEvents : List (PoolEvent (Thread ControlMessage) Choice) :=
  [.spawn (pinger 0x61), .spawn (pinger 0x62), .advance 1 .proceed, .advance 2 .proceed,
    .advance 2 .proceed, .advance 2 .proceed, .advance 2 (.bytes 10), .advance 0 (.bytes 3),
    .advance 0 (.bytes 1), .advance 0 .proceed, .advance 0 (.bytes 6), .advance 2 (.bytes 25),
    .advance 2 .proceed, .advance 2 .proceed, .advance 1 .proceed, .advance 1 .proceed,
    .advance 1 (.bytes 35), .advance 0 (.bytes 25), .advance 0 .proceed, .advance 0 (.bytes 4),
    .advance 0 .proceed, .advance 0 (.bytes 31), .advance 0 .proceed]

theorem control_stream_intact_two :
    ∃ pool, (program pingJson).machine.Run (Sends isPing) initial pingEvents pool ∧
      pool.shared.results = [.ok (ping 0x62), .ok (ping 0x61)] ∧ Intact pingJson pool := by
  rcases Machine.exists_run (program pingJson).machine (Sends isPing)
    (fun pool => pool.shared.results = [.ok (ping 0x62), .ok (ping 0x61)]) initial pingEvents
    (by decide +kernel) with ⟨pool, run, results⟩
  exact ⟨pool, run, results, control_stream_intact pingJson isPing pingJson_inverts run⟩

end Runs

end Rdpulse.Protocol.ControlStream
