import Rdpulse.Foundation.Splices

namespace Rdpulse.Foundation

/-! How a splice ends: when its owner has closed both ends, neither loop can stay where it
is for ever, or go on. -/

variable {Info : Type u}

open Pipes

/-! ## Operations that have been done -/

def Pipes.Applied (pipes : Pipes Info) : EndOp → Prop
  | .endWriting e => (pipes.lanes e).ended = true
  | .endReading e => (pipes.lanes e.peer).deaf = true

theorem Pipes.applied_apply (pipes : Pipes Info) (op : EndOp) : (pipes.apply op).Applied op := by
  cases op with
  | endWriting e => simp [Applied, apply]
  | endReading e => simp [Applied, apply]

theorem Pipes.Applied.later {before after : Pipes Info} {op : EndOp} (applied : before.Applied op)
    (later : before.Later after) : after.Applied op := by
  cases op with
  | endWriting e => exact later.ended e applied
  | endReading e => exact later.deaf e.peer applied

/-! ## A loop between closed ends -/

/-- What the loop reads from and what it writes to is closed, so that even a write in
progress is cut off. -/
structure Route.Closed (route : Route) (pipes : Pipes Info) : Prop where
  source : pipes.Applied (.endReading route.source)
  target : pipes.Applied (.endWriting route.target)
  prompt : (pipes.lanes route.target).prompt = true

def Copier.rank (route : Route) (copier : Copier) : Nat :=
  match copier.point with
  | .reading => route.finish.length + 3
  | .writing _ _ => route.finish.length + 2
  | .finishing ops _ => ops.length + 1
  | .done => 0

theorem write_closed {pipes next : Pipes Info} {e : End} {call : WriteCall} {choice : IOChoice}
    {result : WriteResult} (closed : (pipes.lanes e).ended = true)
    (prompt : (pipes.lanes e).prompt = true)
    (done : pipes.write e call choice = some (next, result)) :
    ∃ failure, result = .failed failure := by
  cases call with
  | starting data =>
      cases choice with
      | go => simp [write, closed] at done
      | fail failure =>
          simp only [write] at done
          split at done
          · cases done
            exact ⟨failure, rfl⟩
          · cases done
      | read => simp [write] at done
      | write => simp [write] at done
  | writing rest =>
      cases choice with
      | write count => simp [write, closed, prompt] at done
      | fail failure =>
          simp only [write] at done
          split at done
          · cases done
            exact ⟨failure, rfl⟩
          · cases done
      | go => simp [write] at done
      | read => simp [write] at done

theorem Copier.rank_step {pipes next : Pipes Info} {route : Route} {copier moved : Copier}
    {choice : IOChoice} {report : Option (Option Failure)} (closed : route.Closed pipes)
    (taken : copier.step pipes route choice = some (next, moved, report)) :
    moved.rank route < copier.rank route := by
  rcases copier with ⟨point, count⟩
  cases point with
  | reading =>
      rcases step_cases taken with ⟨_, _, _, _, _, _, _, shape⟩ | ⟨_, _, _, wrong, _⟩ |
        ⟨_, _, _, wrong, _⟩ | ⟨_, wrong, _⟩
      · rcases shape with ⟨_, ends⟩ | held
        · simp [rank, ends]
        · simp [rank, held]
      · cases wrong
      · cases wrong
      · cases wrong
  | writing call pending =>
      simp only [step] at taken
      split at taken
      · cases taken
      · rename_i found
        rcases write_closed closed.target closed.prompt found with ⟨_, wrong⟩
        cases wrong
      · rename_i found
        rcases write_closed closed.target closed.prompt found with ⟨_, wrong⟩
        cases wrong
      · cases taken
        simp [rank]
  | finishing ops result =>
      rcases step_cases taken with ⟨_, _, wrong, _⟩ | ⟨_, _, _, wrong, _⟩ |
        ⟨op, later, _, here, _, rfl, _⟩ | ⟨_, here, _, rfl, _⟩
      · cases wrong
      · cases wrong
      · cases here
        simp [rank]
      · cases here
        simp [rank]
  | done => simp [step] at taken

theorem Copier.enabled {pipes : Pipes Info} {route : Route} {copier : Copier}
    (closed : route.Closed pipes) (unfinished : copier.point ≠ .done) :
    ∃ choice, (copier.step pipes route choice).isSome = true := by
  rcases copier with ⟨point, count⟩
  have deaf : (pipes.lanes route.source.peer).deaf = true := closed.source
  have ended : (pipes.lanes route.target).ended = true := closed.target
  cases point with
  | reading => exact ⟨.read 0 (some .closed), by simp [step, Pipes.read, mayEnd, deaf]⟩
  | writing call pending =>
      cases call with
      | starting data => exact ⟨.fail .closed, by simp [step, write, mayRefuse, ended]⟩
      | writing rest => exact ⟨.fail .closed, by simp [step, write, mayRefuse, ended, closed.prompt]⟩
  | finishing ops result =>
      cases ops with
      | nil => exact ⟨.go, rfl⟩
      | cons op ops => exact ⟨.go, rfl⟩
  | done => exact absurd rfl unfinished

theorem Copier.step_later {pipes next : Pipes Info} {route : Route} {copier moved : Copier}
    {choice : IOChoice} {report : Option (Option Failure)}
    (taken : copier.step pipes route choice = some (next, moved, report)) : pipes.Later next := by
  rcases step_cases taken with
    ⟨_, _, _, moves, _⟩ | ⟨_, _, _, _, moves, _⟩ | ⟨op, _, _, _, rfl, _⟩ | ⟨_, _, rfl, _⟩
  · exact moves.later
  · exact moves.later
  · exact later_apply pipes op
  · exact Later.refl _

/-! ## The books of a splice -/

def Copier.reported (copier : Copier) : Nat := if copier.point = .done then 1 else 0

def OwnerPoint.received : OwnerPoint → Nat
  | .awaitFirst => 0
  | .closing _ _ | .awaitSecond _ => 1
  | .returned _ => 2

def Splice.Accounted (splice : Splice) : Prop :=
  splice.forth.reported + splice.back.reported =
    splice.results.length + splice.owner.received

theorem Splice.accounted_start : Splice.start.Accounted := rfl

theorem Copier.reported_step {pipes next : Pipes Info} {route : Route} {copier moved : Copier}
    {choice : IOChoice} {report : Option (Option Failure)}
    (taken : copier.step pipes route choice = some (next, moved, report)) :
    moved.reported = copier.reported + report.toList.length := by
  rcases step_cases taken with ⟨_, _, here, _, _, _, rfl, shape⟩ |
    ⟨_, _, _, here, _, _, rfl, shape⟩ | ⟨_, _, _, here, _, rfl, rfl⟩ | ⟨_, here, _, rfl, rfl⟩
  · rcases shape with ⟨_, ends⟩ | held
    · simp [reported, here, ends]
    · simp [reported, here, held]
  · rcases shape with ⟨_, _, held⟩ | ⟨_, again | ⟨_, ends⟩⟩ | ⟨_, _, ends⟩
    · simp [reported, here, held]
    · simp [reported, here, again]
    · simp [reported, here, ends]
    · simp [reported, here, ends]
  · simp [reported, here]
  · simp [reported, here]

theorem Splice.Accounted.step {pipes next : Pipes Info} {wiring : Wiring} {splice moved : Splice}
    {choice : SpliceChoice} (accounted : splice.Accounted)
    (taken : splice.step pipes wiring choice = some (next, moved)) : moved.Accounted := by
  unfold Accounted at accounted ⊢
  cases choice with
  | forth choice =>
      simp only [Splice.step] at taken
      split at taken
      · cases taken
      · rename_i after copier report found
        have booked := Copier.reported_step found
        cases taken
        simp only [List.length_append]
        omega
  | back choice =>
      simp only [Splice.step] at taken
      split at taken
      · cases taken
      · rename_i after copier report found
        have booked := Copier.reported_step found
        cases taken
        simp only [List.length_append]
        omega
  | owner =>
      rcases splice with ⟨forth, back, results, owner⟩
      cases owner with
      | awaitFirst =>
          cases results with
          | nil => simp [Splice.step, stepOwner] at taken
          | cons first rest =>
              cases taken
              simpa [OwnerPoint.received] using accounted
      | closing ops first =>
          cases ops with
          | nil =>
              cases taken
              exact accounted
          | cons op ops =>
              cases taken
              exact accounted
      | awaitSecond first =>
          cases results with
          | nil => simp [Splice.step, stepOwner] at taken
          | cons second rest =>
              cases taken
              simp only [OwnerPoint.received, List.length_cons] at accounted ⊢
              omega
      | returned result => simp [Splice.step, stepOwner] at taken

def Splice.Closing (pipes : Pipes Info) (wiring : Wiring) (splice : Splice) : Prop :=
  match splice.owner with
  | .awaitFirst => True
  | .closing ops _ => ∃ before, wiring.closing = before ++ ops ∧ ∀ op ∈ before, pipes.Applied op
  | .awaitSecond _ | .returned _ => ∀ op ∈ wiring.closing, pipes.Applied op

theorem Splice.Closing.later {before after : Pipes Info} {wiring : Wiring} {splice : Splice}
    (closing : splice.Closing before wiring) (later : before.Later after) :
    splice.Closing after wiring := by
  rcases splice with ⟨forth, back, results, owner⟩
  cases owner with
  | awaitFirst => trivial
  | closing ops first =>
      rcases closing with ⟨front, split, applied⟩
      exact ⟨front, split, fun op member => (applied op member).later later⟩
  | awaitSecond first => exact fun op member => (closing op member).later later
  | returned result => exact fun op member => (closing op member).later later

theorem Splice.step_later {pipes next : Pipes Info} {wiring : Wiring} {splice moved : Splice}
    {choice : SpliceChoice} (taken : splice.step pipes wiring choice = some (next, moved)) :
    pipes.Later next := by
  cases choice with
  | forth choice =>
      simp only [step] at taken
      split at taken
      · cases taken
      · rename_i found
        cases taken
        exact Copier.step_later found
  | back choice =>
      simp only [step] at taken
      split at taken
      · cases taken
      · rename_i found
        cases taken
        exact Copier.step_later found
  | owner =>
      rcases (stepOwner_quiet taken).1 with rfl | ⟨op, rfl⟩
      · exact Later.refl _
      · exact later_apply pipes op

theorem Splice.Closing.step {pipes next : Pipes Info} {wiring : Wiring} {splice moved : Splice}
    {choice : SpliceChoice} (closing : splice.Closing pipes wiring)
    (taken : splice.step pipes wiring choice = some (next, moved)) :
    moved.Closing next wiring := by
  have later := step_later taken
  cases choice with
  | forth choice =>
      simp only [Splice.step] at taken
      split at taken
      · cases taken
      · cases taken
        exact closing.later later
  | back choice =>
      simp only [Splice.step] at taken
      split at taken
      · cases taken
      · cases taken
        exact closing.later later
  | owner =>
      rcases splice with ⟨forth, back, results, owner⟩
      cases owner with
      | awaitFirst =>
          cases results with
          | nil => simp [Splice.step, stepOwner] at taken
          | cons first rest =>
              cases taken
              exact ⟨[], rfl, fun op member => by cases member⟩
      | closing ops first =>
          rcases closing with ⟨front, split, applied⟩
          cases ops with
          | nil =>
              cases taken
              rw [List.append_nil] at split
              intro op member
              exact applied op (split ▸ member)
          | cons op ops =>
              cases taken
              refine ⟨front ++ [op], by rw [split, List.append_assoc]; rfl, fun other member => ?_⟩
              rcases List.mem_append.mp member with old | new
              · exact (applied other old).later later
              · rw [List.mem_singleton.mp new]
                exact applied_apply pipes op
      | awaitSecond first =>
          cases results with
          | nil => simp [Splice.step, stepOwner] at taken
          | cons second rest =>
              cases taken
              exact closing
      | returned result => simp [Splice.step, stepOwner] at taken

end Rdpulse.Foundation
