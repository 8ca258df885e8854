import Mathlib.Logic.Function.Basic
import Rdpulse.Foundation.Bytes

namespace Rdpulse.Foundation

/-! Byte pipes. A pipe has two ends, and each end writes one lane and reads the other. A
lane keeps what has passed through it, so that what an end has written and what it has
read are facts about the state. -/

inductive Pipes.Side
  | near
  | far
  deriving DecidableEq, Repr

def Pipes.Side.other : Side → Side
  | .near => .far
  | .far => .near

@[simp] theorem Pipes.Side.other_other (side : Side) : side.other.other = side := by
  cases side <;> rfl

structure End where
  pipe : Nat
  side : Pipes.Side
  deriving DecidableEq, Repr

namespace End

def peer (e : End) : End := ⟨e.pipe, e.side.other⟩

@[simp] theorem peer_peer (e : End) : e.peer.peer = e := by
  cases e
  simp [peer]

@[simp] theorem peer_pipe (e : End) : e.peer.pipe = e.pipe := rfl

end End

inductive Failure
  | eof
  | closed
  | other
  deriving DecidableEq, Repr

structure Lane where
  taken : Bytes
  waiting : Bytes
  /-- How much may wait before a write blocks. -/
  window : Nat
  /-- Closing the lane cuts off a write that is in progress. -/
  prompt : Bool
  /-- Its writer has closed it. -/
  ended : Bool
  /-- Its reader has closed it. -/
  deaf : Bool
  /-- A deadline has passed, or the connection is lost. -/
  broken : Bool
  deriving DecidableEq, Repr

def Lane.fresh (window : Nat) (prompt : Bool) : Lane where
  taken := []
  waiting := []
  window := window
  prompt := prompt
  ended := false
  deaf := false
  broken := false

structure Pipes (Info : Type u) where
  infos : List Info
  lanes : End → Lane

namespace Pipes

variable {Info : Type u}

def initial : Pipes Info where
  infos := []
  lanes := fun _ => Lane.fresh 0 false

def told (pipes : Pipes Info) (e : End) : Bytes :=
  (pipes.lanes e).taken ++ (pipes.lanes e).waiting

def heard (pipes : Pipes Info) (e : End) : Bytes := (pipes.lanes e.peer).taken

theorem heard_isPrefix (pipes : Pipes Info) (e : End) :
    (pipes.heard e.peer).IsPrefix (pipes.told e) := by
  rw [heard, End.peer_peer]
  exact List.prefix_append _ _

def set (pipes : Pipes Info) (e : End) (lane : Lane) : Pipes Info where
  infos := pipes.infos
  lanes := Function.update pipes.lanes e lane

@[simp] theorem set_infos (pipes : Pipes Info) (e : End) (lane : Lane) :
    (pipes.set e lane).infos = pipes.infos := rfl

@[simp] theorem set_self (pipes : Pipes Info) (e : End) (lane : Lane) :
    (pipes.set e lane).lanes e = lane := by
  simp [set]

theorem set_other (pipes : Pipes Info) {e other : End} (lane : Lane) (apart : other ≠ e) :
    (pipes.set e lane).lanes other = pipes.lanes other := by
  simp [set, apart]

/-! ## What is done to an end -/

def push (pipes : Pipes Info) (e : End) (bytes : Bytes) : Pipes Info :=
  let lane := pipes.lanes e
  pipes.set e { lane with waiting := lane.waiting ++ bytes }

def pull (pipes : Pipes Info) (e : End) (count : Nat) : Pipes Info :=
  let lane := pipes.lanes e.peer
  pipes.set e.peer
    { lane with taken := lane.taken ++ lane.waiting.take count, waiting := lane.waiting.drop count }

inductive EndOp
  | endWriting (e : End)
  | endReading (e : End)
  deriving DecidableEq, Repr

def apply (pipes : Pipes Info) : EndOp → Pipes Info
  | .endWriting e => pipes.set e { pipes.lanes e with ended := true }
  | .endReading e => pipes.set e.peer { pipes.lanes e.peer with deaf := true }

def setBroken (pipes : Pipes Info) (e : End) (broken : Bool) : Pipes Info :=
  pipes.set e { pipes.lanes e with broken := broken }

def openPipe (pipes : Pipes Info) (info : Info) (window : Nat) (prompt : Bool) : Pipes Info where
  infos := pipes.infos ++ [info]
  lanes := fun e =>
    if e.pipe = pipes.infos.length then Lane.fresh window prompt else pipes.lanes e

def setInfo (pipes : Pipes Info) (index : Nat) (info : Info) : Pipes Info where
  infos := pipes.infos.set index info
  lanes := pipes.lanes

section Effects

variable (pipes : Pipes Info) (e other : End)

@[simp] theorem push_infos (bytes : Bytes) : (pipes.push e bytes).infos = pipes.infos := rfl

@[simp] theorem pull_infos (count : Nat) : (pipes.pull e count).infos = pipes.infos := rfl

theorem pull_zero : pipes.pull e 0 = pipes := by
  simp [pull, set]

@[simp] theorem apply_infos (op : EndOp) : (pipes.apply op).infos = pipes.infos := by
  cases op <;> rfl

theorem told_push_self (bytes : Bytes) : (pipes.push e bytes).told e = pipes.told e ++ bytes := by
  simp [told, push]

theorem told_push_other (bytes : Bytes) (apart : other ≠ e) :
    (pipes.push e bytes).told other = pipes.told other := by
  simp [told, push, set_other _ _ apart]

@[simp] theorem heard_push (bytes : Bytes) : (pipes.push e bytes).heard other = pipes.heard other := by
  by_cases same : other.peer = e
  · subst same
    simp [heard, push]
  · simp [heard, push, set_other _ _ same]

@[simp] theorem told_pull (count : Nat) : (pipes.pull e count).told other = pipes.told other := by
  by_cases same : other = e.peer
  · subst same
    simp [told, pull]
  · simp [told, pull, set_other _ _ same]

theorem heard_pull_self (count : Nat) :
    (pipes.pull e count).heard e = pipes.heard e ++ (pipes.lanes e.peer).waiting.take count := by
  simp [heard, pull]

theorem heard_pull_other (count : Nat) (apart : other ≠ e) :
    (pipes.pull e count).heard other = pipes.heard other := by
  have elsewhere : other.peer ≠ e.peer := by
    intro same
    apply apart
    rw [← End.peer_peer other, same, End.peer_peer]
  simp [heard, pull, set_other _ _ elsewhere]

@[simp] theorem told_apply (op : EndOp) : (pipes.apply op).told other = pipes.told other := by
  cases op with
  | endWriting target =>
      by_cases same : other = target
      · subst same
        simp [told, apply]
      · simp [told, apply, set_other _ _ same]
  | endReading target =>
      by_cases same : other = target.peer
      · subst same
        simp [told, apply]
      · simp [told, apply, set_other _ _ same]

@[simp] theorem heard_apply (op : EndOp) : (pipes.apply op).heard other = pipes.heard other := by
  cases op with
  | endWriting target =>
      by_cases same : other.peer = target
      · subst same
        simp [heard, apply]
      · simp [heard, apply, set_other _ _ same]
  | endReading target =>
      by_cases same : other.peer = target.peer
      · simp [heard, apply, same]
      · simp [heard, apply, set_other _ _ same]

@[simp] theorem told_setBroken (broken : Bool) :
    (pipes.setBroken e broken).told other = pipes.told other := by
  by_cases same : other = e
  · subst same
    simp [told, setBroken]
  · simp [told, setBroken, set_other _ _ same]

@[simp] theorem heard_setBroken (broken : Bool) :
    (pipes.setBroken e broken).heard other = pipes.heard other := by
  by_cases same : other.peer = e
  · subst same
    simp [heard, setBroken]
  · simp [heard, setBroken, set_other _ _ same]

theorem told_openPipe_new (info : Info) (window : Nat) (prompt : Bool) (side : Side) :
    (pipes.openPipe info window prompt).told ⟨pipes.infos.length, side⟩ = [] := by
  simp [told, openPipe, Lane.fresh]

theorem heard_openPipe_new (info : Info) (window : Nat) (prompt : Bool) (side : Side) :
    (pipes.openPipe info window prompt).heard ⟨pipes.infos.length, side⟩ = [] := by
  simp [heard, openPipe, Lane.fresh, End.peer]

theorem told_openPipe_old (info : Info) (window : Nat) (prompt : Bool)
    (old : e.pipe < pipes.infos.length) :
    (pipes.openPipe info window prompt).told e = pipes.told e := by
  simp [told, openPipe, Nat.ne_of_lt old]

theorem heard_openPipe_old (info : Info) (window : Nat) (prompt : Bool)
    (old : e.pipe < pipes.infos.length) :
    (pipes.openPipe info window prompt).heard e = pipes.heard e := by
  simp [heard, openPipe, Nat.ne_of_lt old]

@[simp] theorem told_setInfo (index : Nat) (info : Info) :
    (pipes.setInfo index info).told e = pipes.told e := rfl

@[simp] theorem heard_setInfo (index : Nat) (info : Info) :
    (pipes.setInfo index info).heard e = pipes.heard e := rfl

end Effects

/-! ## What a step changes -/

structure Later (before after : Pipes Info) : Prop where
  ended : ∀ e, (before.lanes e).ended = true → (after.lanes e).ended = true
  deaf : ∀ e, (before.lanes e).deaf = true → (after.lanes e).deaf = true
  prompt : ∀ e, (after.lanes e).prompt = (before.lanes e).prompt

theorem Later.refl (pipes : Pipes Info) : pipes.Later pipes :=
  ⟨fun _ => id, fun _ => id, fun _ => rfl⟩

theorem later_set (pipes : Pipes Info) (e : End) {lane : Lane}
    (ended : (pipes.lanes e).ended = true → lane.ended = true)
    (deaf : (pipes.lanes e).deaf = true → lane.deaf = true)
    (prompt : lane.prompt = (pipes.lanes e).prompt) : pipes.Later (pipes.set e lane) := by
  have cases_ (other : End) : (pipes.set e lane).lanes other =
      if other = e then lane else pipes.lanes other := by
    simp only [set, Function.update_apply]
  constructor
  · intro other was
    rw [cases_]
    split
    · rename_i same
      subst same
      exact ended was
    · exact was
  · intro other was
    rw [cases_]
    split
    · rename_i same
      subst same
      exact deaf was
    · exact was
  · intro other
    rw [cases_]
    split
    · rename_i same
      subst same
      exact prompt
    · rfl

theorem later_push (pipes : Pipes Info) (e : End) (bytes : Bytes) : pipes.Later (pipes.push e bytes) :=
  later_set pipes e id id rfl

theorem later_pull (pipes : Pipes Info) (e : End) (count : Nat) : pipes.Later (pipes.pull e count) :=
  later_set pipes e.peer id id rfl

theorem later_apply (pipes : Pipes Info) (op : EndOp) : pipes.Later (pipes.apply op) := by
  cases op with
  | endWriting e => exact later_set pipes e (fun _ => rfl) id rfl
  | endReading e => exact later_set pipes e.peer id (fun _ => rfl) rfl

theorem later_setBroken (pipes : Pipes Info) (e : End) (broken : Bool) :
    pipes.Later (pipes.setBroken e broken) :=
  later_set pipes e id id rfl

/-- One step in which bytes pass at one end only: what it writes, and what it reads. -/
structure Moves (before after : Pipes Info) (e : End) (written got : Bytes) : Prop where
  infos : after.infos = before.infos
  told : after.told e = before.told e ++ written
  heard : after.heard e = before.heard e ++ got
  elsewhere : ∀ other, other ≠ e →
    after.told other = before.told other ∧ after.heard other = before.heard other
  later : before.Later after

theorem moves_push (pipes : Pipes Info) (e : End) (bytes : Bytes) :
    pipes.Moves (pipes.push e bytes) e bytes [] where
  infos := rfl
  told := told_push_self pipes e bytes
  heard := by rw [heard_push, List.append_nil]
  elsewhere other apart := ⟨told_push_other pipes e other bytes apart, heard_push pipes e other bytes⟩
  later := later_push pipes e bytes

theorem moves_pull (pipes : Pipes Info) (e : End) (count : Nat) :
    pipes.Moves (pipes.pull e count) e [] ((pipes.lanes e.peer).waiting.take count) where
  infos := rfl
  told := by rw [told_pull, List.append_nil]
  heard := heard_pull_self pipes e count
  elsewhere other apart := ⟨told_pull pipes e other count, heard_pull_other pipes e other count apart⟩
  later := later_pull pipes e count

theorem moves_nothing (pipes : Pipes Info) (e : End) : pipes.Moves pipes e [] [] where
  infos := rfl
  told := by rw [List.append_nil]
  heard := by rw [List.append_nil]
  elsewhere other _ := ⟨rfl, rfl⟩
  later := Later.refl pipes

theorem moves_apply (pipes : Pipes Info) (op : EndOp) (e : End) :
    pipes.Moves (pipes.apply op) e [] [] where
  infos := apply_infos pipes op
  told := by rw [told_apply, List.append_nil]
  heard := by rw [heard_apply, List.append_nil]
  elsewhere other _ := ⟨told_apply pipes other op, heard_apply pipes other op⟩
  later := later_apply pipes op

theorem Moves.told_kept {before after : Pipes Info} {e : End} {got : Bytes}
    (moves : before.Moves after e [] got) (other : End) : after.told other = before.told other := by
  by_cases same : other = e
  · rw [same, moves.told, List.append_nil]
  · exact (moves.elsewhere other same).1

theorem Moves.heard_kept {before after : Pipes Info} {e : End} {written : Bytes}
    (moves : before.Moves after e written []) (other : End) :
    after.heard other = before.heard other := by
  by_cases same : other = e
  · rw [same, moves.heard, List.append_nil]
  · exact (moves.elsewhere other same).2

/-! ## Calls -/

/-- What is left open about one step of a call: how much passes, and how it fails. -/
inductive IOChoice
  | go
  | read (count : Nat) (failure : Option Failure)
  | write (count : Nat)
  | fail (failure : Failure)
  deriving DecidableEq, Repr

/-- The ways in which a read at this end may fail now. A peer that closes the lane may end
the stream or reset it. -/
def mayEnd (pipes : Pipes Info) (e : End) : Option Failure → Bool
  | none => true
  | some .eof => (pipes.lanes e.peer).ended
  | some .closed => (pipes.lanes e.peer).deaf
  | some .other => (pipes.lanes e.peer).broken || (pipes.lanes e.peer).ended

/-- `Read` into a buffer of this size blocks until there is something to return. -/
def read (pipes : Pipes Info) (e : End) (size count : Nat) (failure : Option Failure) :
    Option (Pipes Info × Bytes) :=
  let lane := pipes.lanes e.peer
  if count ≤ size ∧ count ≤ lane.waiting.length ∧ (0 < count ∨ failure ≠ none) ∧
      pipes.mayEnd e failure then
    some (pipes.pull e count, lane.waiting.take count)
  else none

inductive WriteCall
  | starting (data : Bytes)
  | writing (rest : Bytes)
  deriving DecidableEq, Repr

def WriteCall.rest : WriteCall → Bytes
  | .starting data => data
  | .writing rest => rest

inductive WriteResult
  | pending (call : WriteCall)
  | succeeded
  | failed (failure : Failure)
  deriving DecidableEq, Repr

/-- The ways in which a write may fail now; `cut` says whether closing the end is one. -/
def mayRefuse (pipes : Pipes Info) (e : End) (cut : Bool) : Failure → Bool
  | .eof => false
  | .closed => (pipes.lanes e).ended && cut
  | .other => (pipes.lanes e).broken || (pipes.lanes e).deaf

def write (pipes : Pipes Info) (e : End) : WriteCall → IOChoice → Option (Pipes Info × WriteResult)
  | .starting data, .go =>
      if (pipes.lanes e).ended then none else some (pipes, .pending (.writing data))
  | .starting _, .fail failure =>
      if pipes.mayRefuse e true failure then some (pipes, .failed failure) else none
  | .writing rest, .write count =>
      let lane := pipes.lanes e
      if 0 < count ∧ count ≤ rest.length ∧ lane.waiting.length + count ≤ lane.window ∧
          ¬(lane.ended ∧ lane.prompt) then
        some (pipes.push e (rest.take count),
          if count = rest.length then .succeeded else .pending (.writing (rest.drop count)))
      else none
  | .writing _, .fail failure =>
      if pipes.mayRefuse e (pipes.lanes e).prompt failure then some (pipes, .failed failure)
      else none
  | _, _ => none

inductive FullResult
  | pending (got : Bytes)
  | complete (bytes : Bytes)
  | failed
  deriving DecidableEq, Repr

/-- The next `Read` of `io.ReadFull`, of which `got` has come. -/
def readFull (pipes : Pipes Info) (e : End) (need : Nat) (got : Bytes) :
    IOChoice → Option (Pipes Info × FullResult)
  | .read count failure =>
      match pipes.read e (need - got.length) count failure with
      | none => none
      | some (next, chunk) =>
          if need ≤ (got ++ chunk).length then some (next, .complete (got ++ chunk))
          else if failure = none then some (next, .pending (got ++ chunk))
          else some (next, .failed)
  | _ => none

theorem read_spec {pipes next : Pipes Info} {e : End} {size count : Nat}
    {failure : Option Failure} {chunk : Bytes}
    (done : pipes.read e size count failure = some (next, chunk)) :
    pipes.Moves next e [] chunk ∧ chunk.length ≤ size ∧ (chunk = [] → failure ≠ none) ∧
      pipes.mayEnd e failure = true := by
  simp only [read] at done
  split at done
  · rename_i allowed
    cases done
    rcases allowed with ⟨fits, there, progress, ends⟩
    refine ⟨moves_pull pipes e count, ?_, fun empty => ?_, ends⟩
    · rw [List.length_take]
      omega
    · rcases progress with positive | failed
      · have sized := congrArg List.length empty
        rw [List.length_take, List.length_nil] at sized
        omega
      · exact failed
  · cases done

theorem write_spec {pipes next : Pipes Info} {e : End} {call : WriteCall} {choice : IOChoice}
    {result : WriteResult} (done : pipes.write e call choice = some (next, result)) :
    ∃ sent, pipes.Moves next e sent [] ∧
      ((∃ later, result = .pending later ∧ call.rest = sent ++ later.rest) ∨
        (result = .succeeded ∧ call.rest = sent) ∨
        ∃ failure, result = .failed failure ∧ sent = []) := by
  have still := moves_nothing pipes e
  cases call with
  | starting data =>
      cases choice with
      | go =>
          simp only [write] at done
          split at done
          · cases done
          · cases done
            exact ⟨[], still, .inl ⟨.writing data, rfl, rfl⟩⟩
      | fail failure =>
          simp only [write] at done
          split at done
          · cases done
            exact ⟨[], still, .inr (.inr ⟨failure, rfl, rfl⟩)⟩
          · cases done
      | read => simp [write] at done
      | write => simp [write] at done
  | writing rest =>
      cases choice with
      | write count =>
          simp only [write] at done
          split at done
          · cases done
            refine ⟨rest.take count, moves_push pipes e _, ?_⟩
            split
            · rename_i all
              exact .inr (.inl ⟨rfl, by simp [WriteCall.rest, all]⟩)
            · exact .inl ⟨.writing (rest.drop count), rfl, (List.take_append_drop count rest).symm⟩
          · cases done
      | fail failure =>
          simp only [write] at done
          split at done
          · cases done
            exact ⟨[], still, .inr (.inr ⟨failure, rfl, rfl⟩)⟩
          · cases done
      | go => simp [write] at done
      | read => simp [write] at done

theorem readFull_spec {pipes next : Pipes Info} {e : End} {need : Nat} {got : Bytes}
    {choice : IOChoice} {result : FullResult} (short : got.length ≤ need)
    (done : pipes.readFull e need got choice = some (next, result)) :
    ∃ chunk, pipes.Moves next e [] chunk ∧ (got ++ chunk).length ≤ need ∧
      (result = .pending (got ++ chunk) ∨
        (result = .complete (got ++ chunk) ∧ (got ++ chunk).length = need) ∨
        result = .failed) := by
  cases choice with
  | read count failure =>
      simp only [readFull] at done
      split at done
      · cases done
      · rename_i moved chunk found
        rcases read_spec found with ⟨moves, fits, _, _⟩
        have bounded : (got ++ chunk).length ≤ need := by
          rw [List.length_append]
          omega
        split at done
        · rename_i enough
          cases done
          exact ⟨chunk, moves, bounded, .inr (.inl ⟨rfl, by omega⟩)⟩
        · split at done
          · cases done
            exact ⟨chunk, moves, bounded, .inl rfl⟩
          · cases done
            exact ⟨chunk, moves, bounded, .inr (.inr rfl)⟩
  | go => simp [readFull] at done
  | write => simp [readFull] at done
  | fail => simp [readFull] at done

end Pipes

end Rdpulse.Foundation
