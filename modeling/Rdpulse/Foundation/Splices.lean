import Mathlib.Logic.Relation
import Rdpulse.Foundation.Pipes

namespace Rdpulse.Foundation

/-! Two pipes joined by copy loops, one for each direction, and chains of pipes that are
joined so. -/

variable {Info : Type u}

open Pipes

/-! ## A copy loop -/

/-- From where to where a loop copies, the size of its buffer, and what is done to the
pipes when it has ended. -/
structure Route where
  source : End
  target : End
  size : Nat
  finish : List EndOp

/-- What `Read` failed with is kept until the bytes that came with it are written. -/
inductive CopyPoint
  | reading
  | writing (call : WriteCall) (pending : Option Failure)
  | finishing (ops : List EndOp) (result : Option Failure)
  | done
  deriving DecidableEq, Repr

structure Copier where
  point : CopyPoint
  /-- How many bytes have been read. -/
  count : Nat
  deriving DecidableEq, Repr

def Copier.start : Copier where
  point := .reading
  count := 0

/-- `io.CopyBuffer` does not report the end of the stream. -/
def copyResult : Option Failure → Option Failure
  | none => none
  | some .eof => none
  | some failure => some failure

def Copier.step (pipes : Pipes Info) (route : Route) (copier : Copier) (choice : IOChoice) :
    Option (Pipes Info × Copier × Option (Option Failure)) :=
  match copier.point with
  | .reading =>
      match choice with
      | .read count failure =>
          match pipes.read route.source route.size count failure with
          | none => none
          | some (next, chunk) =>
              let point : CopyPoint :=
                if chunk = [] then .finishing route.finish (copyResult failure)
                else .writing (.starting chunk) failure
              some (next, ⟨point, copier.count + chunk.length⟩, none)
      | _ => none
  | .writing call pending =>
      match pipes.write route.target call choice with
      | none => none
      | some (next, .pending later) => some (next, ⟨.writing later pending, copier.count⟩, none)
      | some (next, .succeeded) =>
          let point : CopyPoint :=
            if pending = none then .reading else .finishing route.finish (copyResult pending)
          some (next, ⟨point, copier.count⟩, none)
      | some (next, .failed failure) =>
          some (next, ⟨.finishing route.finish (some failure), copier.count⟩, none)
  | .finishing (op :: ops) result =>
      match choice with
      | .go => some (pipes.apply op, ⟨.finishing ops result, copier.count⟩, none)
      | _ => none
  | .finishing [] result =>
      match choice with
      | .go => some (pipes, ⟨.done, copier.count⟩, some result)
      | _ => none
  | .done => none

/-- Everything a step of a loop can be: it reads, writes, cleans up or reports. -/
theorem Copier.step_cases {pipes next : Pipes Info} {route : Route} {copier moved : Copier}
    {choice : IOChoice} {report : Option (Option Failure)}
    (taken : copier.step pipes route choice = some (next, moved, report)) :
    (∃ chunk failure, copier.point = .reading ∧ pipes.Moves next route.source [] chunk ∧
      chunk.length ≤ route.size ∧ moved.count = copier.count + chunk.length ∧ report = none ∧
      ((chunk = [] ∧ moved.point = .finishing route.finish (copyResult failure)) ∨
        moved.point = .writing (.starting chunk) failure)) ∨
    (∃ call pending sent, copier.point = .writing call pending ∧
      pipes.Moves next route.target sent [] ∧ moved.count = copier.count ∧ report = none ∧
      ((∃ later, call.rest = sent ++ later.rest ∧ moved.point = .writing later pending) ∨
        (call.rest = sent ∧
          (moved.point = .reading ∨ ∃ result, moved.point = .finishing route.finish result)) ∨
        (sent = [] ∧ ∃ result, moved.point = .finishing route.finish result))) ∨
    (∃ op ops result, copier.point = .finishing (op :: ops) result ∧ next = pipes.apply op ∧
      moved = ⟨.finishing ops result, copier.count⟩ ∧ report = none) ∨
    (∃ result, copier.point = .finishing [] result ∧ next = pipes ∧
      moved = ⟨.done, copier.count⟩ ∧ report = some result) := by
  rcases copier with ⟨point, count⟩
  cases point with
  | reading =>
      cases choice with
      | read amount failure =>
          simp only [step] at taken
          split at taken
          · cases taken
          · rename_i after chunk found
            rcases read_spec found with ⟨moves, fits, _, _⟩
            cases taken
            refine .inl ⟨chunk, failure, rfl, moves, fits, rfl, rfl, ?_⟩
            by_cases empty : chunk = []
            · exact .inl ⟨empty, by simp [empty]⟩
            · exact .inr (by simp [empty])
      | go => simp [step] at taken
      | write => simp [step] at taken
      | fail => simp [step] at taken
  | writing call pending =>
      simp only [step] at taken
      split at taken
      · cases taken
      · rename_i after later found
        rcases write_spec found with ⟨sent, moves, shape⟩
        cases taken
        rcases shape with ⟨other, same, rest⟩ | ⟨wrong, _⟩ | ⟨_, wrong, _⟩
        · cases same
          exact .inr (.inl ⟨call, pending, sent, rfl, moves, rfl, rfl, .inl ⟨later, rest, rfl⟩⟩)
        · cases wrong
        · cases wrong
      · rename_i after found
        rcases write_spec found with ⟨sent, moves, shape⟩
        cases taken
        rcases shape with ⟨_, wrong, _⟩ | ⟨_, rest⟩ | ⟨_, wrong, _⟩
        · cases wrong
        · refine .inr (.inl ⟨call, pending, sent, rfl, moves, rfl, rfl, .inr (.inl ⟨rest, ?_⟩)⟩)
          by_cases clean : pending = none
          · exact .inl (by simp [clean])
          · exact .inr ⟨copyResult pending, by simp [clean]⟩
        · cases wrong
      · rename_i after failure found
        rcases write_spec found with ⟨sent, moves, shape⟩
        cases taken
        rcases shape with ⟨_, wrong, _⟩ | ⟨wrong, _⟩ | ⟨_, _, nothing⟩
        · cases wrong
        · cases wrong
        · exact .inr (.inl ⟨call, pending, sent, rfl, moves, rfl, rfl,
            .inr (.inr ⟨nothing, some failure, rfl⟩)⟩)
  | finishing ops result =>
      cases ops with
      | nil =>
          cases choice with
          | go =>
              cases taken
              exact .inr (.inr (.inr ⟨result, rfl, rfl, rfl, rfl⟩))
          | read => simp [step] at taken
          | write => simp [step] at taken
          | fail => simp [step] at taken
      | cons op ops =>
          cases choice with
          | go =>
              cases taken
              exact .inr (.inr (.inl ⟨op, ops, result, rfl, rfl, rfl, rfl⟩))
          | read => simp [step] at taken
          | write => simp [step] at taken
          | fail => simp [step] at taken
  | done => simp [step] at taken

/-- The bytes that a loop at this point has read and not yet written; one that has given up
has lost them. -/
def CopyPoint.Holds (lost : Bytes) : CopyPoint → Prop
  | .reading => lost = []
  | .writing call _ => lost = call.rest
  | .finishing _ _ | .done => True

/-- What the loop has done since the pipes were in the state `origin`: it has written, in
order, all that it has read except for what was in its buffer last. -/
def Copier.Carries (origin pipes : Pipes Info) (route : Route) (copier : Copier) : Prop :=
  ∃ moved lost,
    pipes.told route.target = origin.told route.target ++ moved ∧
      pipes.heard route.source = origin.heard route.source ++ (moved ++ lost) ∧
      copier.count = (moved ++ lost).length ∧ lost.length ≤ route.size ∧
      copier.point.Holds lost

theorem Copier.carries_start (pipes : Pipes Info) (route : Route) :
    Copier.start.Carries pipes pipes route :=
  ⟨[], [], by simp, by simp, rfl, Nat.zero_le _, rfl⟩

theorem Copier.Carries.frame {origin pipes after : Pipes Info} {route : Route} {copier : Copier}
    (carries : copier.Carries origin pipes route)
    (told : after.told route.target = pipes.told route.target)
    (heard : after.heard route.source = pipes.heard route.source) :
    copier.Carries origin after route := by
  rcases carries with ⟨moved, lost, written, got, rest⟩
  exact ⟨moved, lost, told.trans written, heard.trans got, rest⟩

theorem Copier.step_elsewhere {pipes next : Pipes Info} {route : Route} {copier moved : Copier}
    {choice : IOChoice} {report : Option (Option Failure)}
    (taken : copier.step pipes route choice = some (next, moved, report)) :
    next.infos = pipes.infos ∧
      (∀ e, e ≠ route.target → next.told e = pipes.told e) ∧
      ∀ e, e ≠ route.source → next.heard e = pipes.heard e := by
  rcases step_cases taken with
    ⟨chunk, _, _, moves, _⟩ | ⟨_, _, sent, _, moves, _⟩ | ⟨op, _, _, _, rfl, _⟩ | ⟨_, _, rfl, _⟩
  · exact ⟨moves.infos, fun e _ => moves.told_kept e, fun e apart => (moves.elsewhere e apart).2⟩
  · exact ⟨moves.infos, fun e apart => (moves.elsewhere e apart).1, fun e _ => moves.heard_kept e⟩
  · exact ⟨apply_infos _ _, fun e _ => told_apply _ _ _, fun e _ => heard_apply _ _ _⟩
  · exact ⟨rfl, fun _ _ => rfl, fun _ _ => rfl⟩

theorem Copier.Carries.step {origin pipes next : Pipes Info} {route : Route}
    {copier moved : Copier} {choice : IOChoice} {report : Option (Option Failure)}
    (carries : copier.Carries origin pipes route)
    (taken : copier.step pipes route choice = some (next, moved, report)) :
    moved.Carries origin next route := by
  rcases carries with ⟨passed, lost, written, got, counted, small, holds⟩
  rcases step_cases taken with
    ⟨chunk, failure, reading, moves, fits, counts, _, shape⟩ |
    ⟨call, pending, sent, writing, moves, counts, _, shape⟩ |
    ⟨op, ops, result, _, rfl, rfl, _⟩ | ⟨result, _, rfl, rfl, _⟩
  · -- Nothing was held, so the new chunk is all that is held now.
    rw [reading] at holds
    cases holds
    refine ⟨passed, chunk, (moves.told_kept _).trans written, ?_, ?_, fits, ?_⟩
    · rw [moves.heard, got]
      simp
    · rw [counts, counted]
      simp
    · rcases shape with ⟨_, ends⟩ | held
      · rw [ends]
        trivial
      · rw [held]
        rfl
  · rw [writing] at holds
    cases holds
    have still := moves.heard_kept route.source
    rcases shape with ⟨later, split, held⟩ | ⟨whole, ends⟩ | ⟨nothing, result, ends⟩
    · refine ⟨passed ++ sent, later.rest, ?_, ?_, ?_, ?_, ?_⟩
      · rw [moves.told, written, List.append_assoc]
      · rw [still, got, split]
        simp
      · rw [counts, counted, split]
        simp
      · rw [split, List.length_append] at small
        omega
      · rw [held]
        rfl
    · refine ⟨passed ++ sent, [], ?_, ?_, ?_, Nat.zero_le _, ?_⟩
      · rw [moves.told, written, List.append_assoc]
      · rw [still, got, whole]
        simp
      · rw [counts, counted, whole]
        simp
      · rcases ends with again | ⟨result, ended⟩
        · rw [again]
          rfl
        · rw [ended]
          trivial
    · refine ⟨passed, call.rest, ?_, still.trans got, counts.trans counted, small, ?_⟩
      · rw [moves.told, nothing, List.append_nil, written]
      · rw [ends]
        trivial
  · exact ⟨passed, lost, (told_apply _ _ _).trans written, (heard_apply _ _ _).trans got, counted,
      small, trivial⟩
  · exact ⟨passed, lost, written, got, counted, small, trivial⟩

theorem Copier.Carries.bounds {origin pipes : Pipes Info} {route : Route} {copier : Copier}
    (carries : copier.Carries origin pipes route) :
    (pipes.heard route.source).length = (origin.heard route.source).length + copier.count ∧
      (pipes.told route.target).length ≤ (origin.told route.target).length + copier.count ∧
      (origin.told route.target).length + copier.count ≤
        (pipes.told route.target).length + route.size := by
  rcases carries with ⟨moved, lost, written, got, counted, small, _⟩
  rw [written, got, counted]
  simp only [List.length_append]
  exact ⟨trivial, by omega, by omega⟩

theorem Copier.Carries.isPrefix {origin pipes : Pipes Info} {route : Route} {copier : Copier}
    (carries : copier.Carries origin pipes route) {before after : Nat}
    (heard : (origin.heard route.source).length = before)
    (told : (origin.told route.target).length = after) :
    ((pipes.told route.target).drop after).IsPrefix ((pipes.heard route.source).drop before) := by
  rcases carries with ⟨moved, lost, written, got, _⟩
  rw [written, got, List.drop_left' told, List.drop_left' heard]
  exact List.prefix_append _ _

/-! ## Two loops and their owner -/

/-- Two ends and how they are joined: `forth` copies from the first to the second. -/
structure Wiring where
  one : End
  two : End
  size : Nat
  finishForth : List EndOp
  finishBack : List EndOp
  /-- What the owner does when the first loop has ended. -/
  closing : List EndOp

def Wiring.forth (wiring : Wiring) : Route where
  source := wiring.one
  target := wiring.two
  size := wiring.size
  finish := wiring.finishForth

def Wiring.back (wiring : Wiring) : Route where
  source := wiring.two
  target := wiring.one
  size := wiring.size
  finish := wiring.finishBack

inductive OwnerPoint
  | awaitFirst
  | closing (ops : List EndOp) (first : Option Failure)
  | awaitSecond (first : Option Failure)
  | returned (result : Option Failure)
  deriving DecidableEq, Repr

/-- Two loops, the channel for their results, and the goroutine that waits for both. -/
structure Splice where
  forth : Copier
  back : Copier
  results : List (Option Failure)
  owner : OwnerPoint
  deriving DecidableEq, Repr

def Splice.start : Splice where
  forth := .start
  back := .start
  results := []
  owner := .awaitFirst

/-- Neither the end of a stream nor a closed end is an error to the owner. -/
def isRealError (result : Option Failure) : Bool := result == some .other

def firstReal (first second : Option Failure) : Option Failure :=
  if isRealError first then first else if isRealError second then second else none

inductive SpliceChoice
  | forth (choice : IOChoice)
  | back (choice : IOChoice)
  | owner
  deriving DecidableEq, Repr

def Splice.stepOwner (pipes : Pipes Info) (wiring : Wiring) (splice : Splice) :
    Option (Pipes Info × Splice) :=
  match splice.owner with
  | .awaitFirst =>
      match splice.results with
      | first :: rest =>
          some (pipes, { splice with results := rest, owner := .closing wiring.closing first })
      | [] => none
  | .closing (op :: ops) first =>
      some (pipes.apply op, { splice with owner := .closing ops first })
  | .closing [] first => some (pipes, { splice with owner := .awaitSecond first })
  | .awaitSecond first =>
      match splice.results with
      | second :: rest =>
          some (pipes, { splice with results := rest, owner := .returned (firstReal first second) })
      | [] => none
  | .returned _ => none

def Splice.step (pipes : Pipes Info) (wiring : Wiring) (splice : Splice) :
    SpliceChoice → Option (Pipes Info × Splice)
  | .forth choice =>
      match splice.forth.step pipes wiring.forth choice with
      | none => none
      | some (next, moved, report) =>
          some (next, { splice with forth := moved, results := splice.results ++ report.toList })
  | .back choice =>
      match splice.back.step pipes wiring.back choice with
      | none => none
      | some (next, moved, report) =>
          some (next, { splice with back := moved, results := splice.results ++ report.toList })
  | .owner => splice.stepOwner pipes wiring

theorem Splice.stepOwner_quiet {pipes next : Pipes Info} {wiring : Wiring} {splice moved : Splice}
    (taken : splice.stepOwner pipes wiring = some (next, moved)) :
    (next = pipes ∨ ∃ op, next = pipes.apply op) ∧ moved.forth = splice.forth ∧
      moved.back = splice.back := by
  rcases splice with ⟨forth, back, results, owner⟩
  cases owner with
  | awaitFirst =>
      cases results with
      | nil => simp [stepOwner] at taken
      | cons first rest =>
          cases taken
          exact ⟨.inl rfl, rfl, rfl⟩
  | closing ops first =>
      cases ops with
      | nil =>
          cases taken
          exact ⟨.inl rfl, rfl, rfl⟩
      | cons op ops =>
          cases taken
          exact ⟨.inr ⟨op, rfl⟩, rfl, rfl⟩
  | awaitSecond first =>
      cases results with
      | nil => simp [stepOwner] at taken
      | cons second rest =>
          cases taken
          exact ⟨.inl rfl, rfl, rfl⟩
  | returned result => simp [stepOwner] at taken

structure Splice.Carries (origin pipes : Pipes Info) (wiring : Wiring) (splice : Splice) : Prop where
  forth : splice.forth.Carries origin pipes wiring.forth
  back : splice.back.Carries origin pipes wiring.back

theorem Splice.carries_start (pipes : Pipes Info) (wiring : Wiring) :
    Splice.start.Carries pipes pipes wiring where
  forth := Copier.carries_start pipes wiring.forth
  back := Copier.carries_start pipes wiring.back

theorem Splice.Carries.frame {origin pipes after : Pipes Info} {wiring : Wiring} {splice : Splice}
    (carries : splice.Carries origin pipes wiring)
    (one : after.told wiring.one = pipes.told wiring.one ∧
      after.heard wiring.one = pipes.heard wiring.one)
    (two : after.told wiring.two = pipes.told wiring.two ∧
      after.heard wiring.two = pipes.heard wiring.two) :
    splice.Carries origin after wiring where
  forth := carries.forth.frame two.1 one.2
  back := carries.back.frame one.1 two.2

theorem Splice.Carries.grown {origin pipes : Pipes Info} {wiring : Wiring} {splice : Splice}
    (carries : splice.Carries origin pipes wiring) {e : End}
    (own : e = wiring.one ∨ e = wiring.two) :
    (origin.told e).IsPrefix (pipes.told e) ∧ (origin.heard e).IsPrefix (pipes.heard e) := by
  rcases carries.forth with ⟨passed, lost, toldTwo, heardOne, _⟩
  rcases carries.back with ⟨returned, gone, toldOne, heardTwo, _⟩
  simp only [Wiring.forth, Wiring.back] at toldTwo heardOne toldOne heardTwo
  rcases own with rfl | rfl
  · rw [toldOne, heardOne]
    exact ⟨List.prefix_append _ _, List.prefix_append _ _⟩
  · rw [toldTwo, heardTwo]
    exact ⟨List.prefix_append _ _, List.prefix_append _ _⟩

theorem Splice.Carries.payloads {origin pipes : Pipes Info} {wiring : Wiring} {splice : Splice}
    (carries : splice.Carries origin pipes wiring) {one two : End} {before after : Nat}
    (first : wiring.one = one) (second : wiring.two = two)
    (toldOne : (origin.told one).length = before) (heardOne : (origin.heard one).length = before)
    (toldTwo : (origin.told two).length = after) (heardTwo : (origin.heard two).length = after) :
    ((pipes.told two).drop after).IsPrefix ((pipes.heard one).drop before) ∧
      ((pipes.told one).drop before).IsPrefix ((pipes.heard two).drop after) := by
  subst first second
  exact ⟨carries.forth.isPrefix heardOne toldTwo, carries.back.isPrefix heardTwo toldOne⟩

theorem Splice.step_elsewhere {pipes next : Pipes Info} {wiring : Wiring} {splice moved : Splice}
    {choice : SpliceChoice} (taken : splice.step pipes wiring choice = some (next, moved)) :
    next.infos = pipes.infos ∧ ∀ e, e ≠ wiring.one → e ≠ wiring.two →
      next.told e = pipes.told e ∧ next.heard e = pipes.heard e := by
  cases choice with
  | forth choice =>
      simp only [step] at taken
      split at taken
      · cases taken
      · rename_i after copier report found
        cases taken
        rcases Copier.step_elsewhere found with ⟨infos, told, heard⟩
        exact ⟨infos, fun e first second => ⟨told e second, heard e first⟩⟩
  | back choice =>
      simp only [step] at taken
      split at taken
      · cases taken
      · rename_i after copier report found
        cases taken
        rcases Copier.step_elsewhere found with ⟨infos, told, heard⟩
        exact ⟨infos, fun e first second => ⟨told e first, heard e second⟩⟩
  | owner =>
      rcases (stepOwner_quiet taken).1 with rfl | ⟨op, rfl⟩
      · exact ⟨rfl, fun _ _ _ => ⟨rfl, rfl⟩⟩
      · exact ⟨apply_infos _ _, fun e _ _ => ⟨told_apply _ _ _, heard_apply _ _ _⟩⟩

theorem Splice.Carries.step {origin pipes next : Pipes Info} {wiring : Wiring}
    {splice moved : Splice} {choice : SpliceChoice} (carries : splice.Carries origin pipes wiring)
    (apart : wiring.one ≠ wiring.two)
    (taken : splice.step pipes wiring choice = some (next, moved)) :
    moved.Carries origin next wiring := by
  cases choice with
  | forth choice =>
      simp only [Splice.step] at taken
      split at taken
      · cases taken
      · rename_i after copier report found
        cases taken
        rcases Copier.step_elsewhere found with ⟨_, told, heard⟩
        exact ⟨carries.forth.step found,
          carries.back.frame (told _ apart) (heard _ (Ne.symm apart))⟩
  | back choice =>
      simp only [Splice.step] at taken
      split at taken
      · cases taken
      · rename_i after copier report found
        cases taken
        rcases Copier.step_elsewhere found with ⟨_, told, heard⟩
        exact ⟨carries.forth.frame (told _ (Ne.symm apart)) (heard _ apart),
          carries.back.step found⟩
  | owner =>
      rcases stepOwner_quiet taken with ⟨quiet, forth, back⟩
      have same (e : End) : next.told e = pipes.told e ∧ next.heard e = pipes.heard e := by
        rcases quiet with rfl | ⟨op, rfl⟩
        · exact ⟨rfl, rfl⟩
        · exact ⟨told_apply _ _ _, heard_apply _ _ _⟩
      have kept := carries.frame (same wiring.one) (same wiring.two)
      exact ⟨forth ▸ kept.forth, back ▸ kept.back⟩

/-! ## Chains -/

section Chains

variable (pipes : Pipes Info) (skip : Nat → Nat)

def heardPayload (e : End) : Bytes := (pipes.heard e).drop (skip e.pipe)

def toldPayload (e : End) : Bytes := (pipes.told e).drop (skip e.pipe)

theorem heardPayload_isPrefix (e : End) :
    (heardPayload pipes skip e.peer).IsPrefix (toldPayload pipes skip e) :=
  (pipes.heard_isPrefix e).drop _

/-- What comes out of one pipe goes into the next, and back. -/
structure Joined (first second : Nat) : Prop where
  forth : (toldPayload pipes skip ⟨second, .near⟩).IsPrefix (heardPayload pipes skip ⟨first, .far⟩)
  back : (toldPayload pipes skip ⟨first, .far⟩).IsPrefix (heardPayload pipes skip ⟨second, .near⟩)

variable {pipes skip}

/-- What has reached the end of a chain of joined pipes is a prefix of what was written at
its start, and the other way round. -/
theorem chain_isPrefix {first last : Nat}
    (chain : Relation.ReflTransGen (Joined pipes skip) first last) :
    (heardPayload pipes skip ⟨last, .far⟩).IsPrefix (toldPayload pipes skip ⟨first, .near⟩) ∧
      (heardPayload pipes skip ⟨first, .near⟩).IsPrefix
        (toldPayload pipes skip ⟨last, .far⟩) := by
  induction chain with
  | refl =>
      exact ⟨heardPayload_isPrefix pipes skip ⟨first, .near⟩,
        heardPayload_isPrefix pipes skip ⟨first, .far⟩⟩
  | @tail middle last _ joined induction =>
      have out := heardPayload_isPrefix pipes skip ⟨last, .near⟩
      have home := heardPayload_isPrefix pipes skip ⟨last, .far⟩
      exact ⟨(out.trans joined.forth).trans induction.1,
        induction.2.trans (joined.back.trans home)⟩

end Chains

end Rdpulse.Foundation
