import Rdpulse.Foundation.Endings
import Rdpulse.Foundation.Traces
import Rdpulse.TCP.Proxy

namespace Rdpulse.TCP.Teardown

open Foundation Pipes

/-! # Nothing stays behind

When one direction of a `Proxy`, a `Bridge` or a relayed stream has ended, its function
returns, and both its goroutines with it, whatever the rest of the system does or does not
do. -/

inductive Call
  | proxyRun (tcpConn stream : End) (carrier : Carrier)
  | bridge (a b : End) (size : Nat)
  | relayStreams (controllerStream targetStream : End) (controllerCarrier targetCarrier : Carrier)
  deriving DecidableEq, Repr

def Call.wiring : Call → Wiring
  | .proxyRun tcpConn stream carrier => TCP.proxyRun tcpConn stream carrier
  | .bridge a b size => TCP.bridge a b size
  | .relayStreams controllerStream targetStream controllerCarrier targetCarrier =>
      TCP.relayStreams controllerStream targetStream controllerCarrier targetCarrier

theorem Call.closes (call : Call) : ClosesBoth call.wiring := by
  cases call with
  | proxyRun tcpConn stream carrier => exact proxyRun_closes tcpConn stream carrier
  | bridge a b size => exact bridge_closes a b size
  | relayStreams controllerStream targetStream controllerCarrier targetCarrier =>
      exact relayStreams_closes controllerStream targetStream controllerCarrier targetCarrier

inductive Thread
  | running (call : Call) (splice : Splice)
  | others
  deriving DecidableEq, Repr

inductive Choice
  | splice (choice : SpliceChoice)
  | push (e : End) (bytes : Bytes)
  | pull (e : End) (count : Nat)
  | apply (op : EndOp)
  | fault (e : End) (broken : Bool)
  deriving DecidableEq, Repr

def step (pipes : Pipes Unit) (thread : Thread) (choice : Choice) :
    Option (Pipes Unit × Thread) :=
  match thread, choice with
  | .running call splice, .splice goroutine =>
      (splice.step pipes call.wiring goroutine).map fun result =>
        (result.1, .running call result.2)
  | .others, .push e bytes => some (pipes.push e bytes, .others)
  | .others, .pull e count => some (pipes.pull e count, .others)
  | .others, .apply op => some (pipes.apply op, .others)
  | .others, .fault e broken => some (pipes.setBroken e broken, .others)
  | _, _ => none

def program : Program (Pipes Unit) Thread Choice where
  entry
    | .running _ splice => splice = .start
    | .others => true
  step _ := step

/-! ## What holds at all times -/

theorem step_later {pipes next : Pipes Unit} {thread moved : Thread} {choice : Choice}
    (taken : step pipes thread choice = some (next, moved)) : pipes.Later next := by
  cases thread with
  | running call splice =>
      cases choice with
      | splice goroutine =>
          rcases Option.map_eq_some_iff.mp taken with ⟨result, stepped, same⟩
          cases same
          exact Splice.step_later stepped
      | _ => simp [step] at taken
  | others =>
      cases choice with
      | splice goroutine => simp [step] at taken
      | push e bytes =>
          cases taken
          exact later_push pipes e bytes
      | pull e count =>
          cases taken
          exact later_pull pipes e count
      | apply op =>
          cases taken
          exact later_apply pipes op
      | fault e broken =>
          cases taken
          exact later_setBroken pipes e broken

def outline : Program.Outline (Pipes Unit) Thread where
  global _ := True
  assertion _ pool
    | .running call splice => splice.Accounted ∧ splice.Closing pool.shared call.wiring
    | .others => True

theorem outline_valid : outline.Valid program Machine.Unrestricted where
  started pool thread _ enters _ := by
    refine ⟨trivial, ?_⟩
    cases thread with
    | running call splice =>
        have first : splice = .start := by simpa [program] using enters
        subst first
        exact ⟨Splice.accounted_start, trivial⟩
    | others => trivial
  undisturbedByStart pool thread other bystander holds _ _ found := holds.thread other bystander found
  sequential pool self thread choice shared next holds present _ taken := by
    refine ⟨trivial, ?_⟩
    have known := holds.thread self thread present
    cases thread with
    | running call splice =>
        cases choice with
        | splice goroutine =>
            rcases Option.map_eq_some_iff.mp taken with ⟨result, stepped, same⟩
            cases same
            exact ⟨known.1.step stepped, known.2.step stepped⟩
        | _ => simp [program, step] at taken
    | others =>
        cases choice with
        | splice goroutine => simp [program, step] at taken
        | _ =>
            cases taken
            trivial
  interferenceFree pool self thread choice shared next other bystander holds _ _ taken _
      found := by
    have known := holds.thread other bystander found
    cases bystander with
    | running call splice => exact ⟨known.1, known.2.later (step_later taken)⟩
    | others => trivial

/-! ## Goroutines and fairness -/

inductive Goroutine
  | forth
  | back
  | owner
  deriving DecidableEq, Repr

def goroutineOf : SpliceChoice → Goroutine
  | .forth _ => .forth
  | .back _ => .back
  | .owner => .owner

section Traces

variable (trace : program.machine.Trace)

def acts (self : Nat) (goroutine : Goroutine) (time : Nat) : Prop :=
  ∃ choice, goroutineOf choice = goroutine ∧ trace.event time = .advance self (.splice choice)

def enabled (self : Nat) (goroutine : Goroutine) (time : Nat) : Prop :=
  ∃ choice, goroutineOf choice = goroutine ∧
    (program.machine.step (trace.state time) (.advance self (.splice choice))).isSome = true

/-- A goroutine that is never blocked again is scheduled again. -/
def Fair (self : Nat) : Prop :=
  ∀ goroutine, WeaklyFair (enabled trace self goroutine) (acts trace self goroutine)

def Running (self : Nat) (call : Call) (splice : Splice) (time : Nat) : Prop :=
  (trace.state time).threads[self]? = some (.running call splice)

variable {trace} {self : Nat} {call : Call} {splice : Splice} {time start : Nat}

theorem running_cases (running : Running trace self call splice time) :
    (∃ choice pipes next, trace.event time = .advance self (.splice choice) ∧
      splice.step (trace.state time).shared call.wiring choice = some (pipes, next) ∧
      Running trace self call next (time + 1)) ∨
    ((∀ choice, trace.event time ≠ .advance self (.splice choice)) ∧
      Running trace self call splice (time + 1)) := by
  rcases Program.step_cases (trace.step time) with ⟨added, event, _, next⟩ |
    ⟨other, choice, thread, shared, moved, event, present, taken, next⟩
  · refine .inr ⟨fun choice wrong => ?_, ?_⟩
    · rw [event] at wrong
      cases wrong
    · rw [Running, next]
      exact Pool.start_old running added
  · by_cases own : other = self
    · subst own
      rw [Running, present] at running
      cases running
      cases choice with
      | splice goroutine =>
          rcases Option.map_eq_some_iff.mp taken with ⟨result, stepped, same⟩
          cases same
          refine .inl ⟨goroutine, result.1, result.2, event, stepped, ?_⟩
          rw [Running, next]
          exact Pool.update_self present _ _
      | _ => simp [program, step] at taken
    · refine .inr ⟨fun choice wrong => ?_, ?_⟩
      · rw [event] at wrong
        cases wrong
        exact own rfl
      · rw [Running, next, Pool.update_other _ (Ne.symm own)]
        exact running

theorem enabled_of_step (choice : SpliceChoice) (running : Running trace self call splice time)
    (able : (splice.step (trace.state time).shared call.wiring choice).isSome = true) :
    enabled trace self (goroutineOf choice) time := by
  rcases Option.isSome_iff_exists.mp able with ⟨result, stepped⟩
  have taken : program.step self (trace.state time).shared (.running call splice)
      (.splice choice) = some (result.1, .running call result.2) :=
    Option.map_eq_some_iff.mpr ⟨result, stepped, rfl⟩
  have moved := Program.machine_advance running taken
  exact ⟨choice, rfl, by rw [moved]; rfl⟩

theorem next_step (fair : Fair trace self) (goroutine : Goroutine)
    (able : ∀ later, start ≤ later → Running trace self call splice later →
      enabled trace self goroutine later)
    (running : Running trace self call splice start) :
    ∃ later choice pipes next, start ≤ later ∧ Running trace self call splice later ∧
      splice.step (trace.state later).shared call.wiring choice = some (pipes, next) ∧
      Running trace self call next (later + 1) := by
  have counts (time : Nat) (acted : acts trace self goroutine time) :
      ∃ choice, trace.event time = .advance self (.splice choice) := by
    rcases acted with ⟨choice, _, event⟩
    exact ⟨choice, event⟩
  have kept (later : Nat) (_ : start ≤ later)
      (still : ¬∃ choice, trace.event later = .advance self (.splice choice))
      (running : Running trace self call splice later) :
      Running trace self call splice (later + 1) := by
    rcases running_cases running with ⟨choice, _, _, event, _⟩ | ⟨_, same⟩
    · exact absurd ⟨choice, event⟩ still
    · exact same
  rcases change_of_fair (fair goroutine) able counts kept running with
    ⟨later, after, ⟨choice, event⟩, there⟩
  rcases running_cases there with ⟨taken, pipes, next, _, stepped, moved⟩ | ⟨idle, _⟩
  · exact ⟨later, taken, pipes, next, after, there, stepped, moved⟩
  · exact absurd event (idle choice)

theorem owner_step (fair : Fair trace self) (waits : OwnerPoint → List (Option Failure) → Prop)
    (able : ∀ later splice, start ≤ later → Running trace self call splice later →
      waits splice.owner splice.results →
      (splice.step (trace.state later).shared call.wiring .owner).isSome = true)
    (grows : ∀ owner results more, waits owner results → waits owner (results ++ more))
    (running : Running trace self call splice start) (now : waits splice.owner splice.results) :
    ∃ (later : Nat) (pipes : Pipes Unit) (before next : Splice), start ≤ later ∧
      waits before.owner before.results ∧
      before.step (trace.state later).shared call.wiring .owner = some (pipes, next) ∧
      Running trace self call next (later + 1) := by
  have counts (time : Nat) (acted : acts trace self .owner time) :
      trace.event time = .advance self (.splice .owner) := by
    rcases acted with ⟨choice, same, event⟩
    cases choice with
    | owner => exact event
    | forth choice => cases same
    | back choice => cases same
  have kept (later : Nat) (_ : start ≤ later)
      (still : ¬trace.event later = .advance self (.splice .owner))
      (waiting : ∃ splice, Running trace self call splice later ∧ waits splice.owner splice.results) :
      ∃ splice, Running trace self call splice (later + 1) ∧ waits splice.owner splice.results := by
    rcases waiting with ⟨splice, there, waiting⟩
    rcases running_cases there with ⟨choice, pipes, next, event, stepped, moved⟩ | ⟨_, same⟩
    · cases choice with
      | owner => exact absurd event still
      | forth choice =>
          simp only [Splice.step] at stepped
          split at stepped
          · cases stepped
          · cases stepped
            exact ⟨_, moved, grows _ _ _ waiting⟩
      | back choice =>
          simp only [Splice.step] at stepped
          split at stepped
          · cases stepped
          · cases stepped
            exact ⟨_, moved, grows _ _ _ waiting⟩
    · exact ⟨splice, same, waiting⟩
  have unblocked (later : Nat) (after : start ≤ later)
      (waiting : ∃ splice, Running trace self call splice later ∧ waits splice.owner splice.results) :
      enabled trace self .owner later := by
    rcases waiting with ⟨splice, there, waiting⟩
    exact enabled_of_step .owner there (able later splice after there waiting)
  rcases change_of_fair (fair .owner) unblocked counts kept ⟨splice, running, now⟩ with
    ⟨later, after, event, before, there, waiting⟩
  rcases running_cases there with ⟨choice, pipes, next, was, stepped, moved⟩ | ⟨idle, _⟩
  · rw [event] at was
    cases was
    exact ⟨later, pipes, before, next, after, waiting, stepped, moved⟩
  · exact absurd event (idle .owner)

theorem eventually_closed (fair : Fair trace self) {ops : List EndOp} {first : Option Failure}
    (running : Running trace self call splice start) (closing : splice.owner = .closing ops first) :
    ∃ (later : Nat) (next : Splice), start ≤ later ∧ Running trace self call next later ∧
      next.owner = .awaitSecond first := by
  induction ops generalizing start splice with
  | nil =>
      rcases owner_step fair (fun owner _ => owner = .closing [] first)
        (fun later splice _ _ waiting => by simp [Splice.step, Splice.stepOwner, waiting])
        (fun _ _ _ => id) running closing with ⟨later, pipes, before, next, after, was, stepped, moved⟩
      simp only [Splice.step, Splice.stepOwner, was] at stepped
      cases stepped
      exact ⟨later + 1, _, by omega, moved, rfl⟩
  | cons op ops induction =>
      rcases owner_step fair (fun owner _ => owner = .closing (op :: ops) first)
        (fun later splice _ _ waiting => by simp [Splice.step, Splice.stepOwner, waiting])
        (fun _ _ _ => id) running closing with ⟨later, pipes, before, next, after, was, stepped, moved⟩
      simp only [Splice.step, Splice.stepOwner, was] at stepped
      cases stepped
      rcases induction moved rfl with ⟨finish, last, since, there, done⟩
      exact ⟨finish, last, by omega, there, done⟩

theorem holds_always (initially : outline.Holds (trace.state 0)) (time : Nat) :
    outline.Holds (trace.state time) :=
  outline_valid.always trace initially time

theorem prompt_always (e : End) (time : Nat) :
    ((trace.state time).shared.lanes e).prompt = ((trace.state 0).shared.lanes e).prompt := by
  induction time with
  | zero => rfl
  | succ time induction =>
      rw [← induction]
      rcases Program.step_cases (trace.step time) with
        ⟨_, _, _, next⟩ | ⟨_, _, _, _, _, _, _, taken, next⟩
      · rw [next]
        rfl
      · rw [next]
        exact (step_later taken).prompt e

/-- Closing either end cuts off a write that is in progress there, at the start and always. -/
def Prompt (trace : program.machine.Trace) (call : Call) : Prop :=
  ((trace.state 0).shared.lanes call.wiring.one).prompt = true ∧
    ((trace.state 0).shared.lanes call.wiring.two).prompt = true

theorem closed_of_awaitSecond (initially : outline.Holds (trace.state 0)) (prompt : Prompt trace call)
    (running : Running trace self call splice time) {first : Option Failure}
    (waits : splice.owner = .awaitSecond first) :
    call.wiring.forth.Closed (trace.state time).shared ∧
      call.wiring.back.Closed (trace.state time).shared := by
  have closing := ((holds_always initially time).thread self _ running).2
  simp only [Splice.Closing, waits] at closing
  have both := call.closes
  exact ⟨⟨closing _ both.readsOne, closing _ both.writesTwo, (prompt_always _ time).trans prompt.2⟩,
    ⟨closing _ both.readsTwo, closing _ both.writesOne, (prompt_always _ time).trans prompt.1⟩⟩

theorem done_of_reported {copier : Copier} (reported : copier.reported = 1) : copier.point = .done := by
  unfold Copier.reported at reported
  split at reported
  · assumption
  · cases reported

theorem reported_le (copier : Copier) : copier.reported ≤ 1 := by
  unfold Copier.reported
  split <;> omega

/-- Some goroutine of a call whose ends are closed is able to act. -/
theorem exists_able (self : Nat) (initially : outline.Holds (trace.state 0)) (prompt : Prompt trace call)
    (accounted : splice.Accounted) {first : Option Failure}
    (waits : splice.owner = .awaitSecond first) :
    ∃ goroutine, ∀ later, Running trace self call splice later →
      enabled trace self goroutine later := by
  by_cases forthDone : splice.forth.point = .done
  · by_cases backDone : splice.back.point = .done
    · refine ⟨.owner, fun later running => enabled_of_step .owner running ?_⟩
      have books : splice.results.length = 1 := by
        simp only [Splice.Accounted, Copier.reported, forthDone, backDone, if_true, waits,
          OwnerPoint.received] at accounted
        omega
      rcases List.length_eq_one_iff.mp books with ⟨second, results⟩
      simp [Splice.step, Splice.stepOwner, waits, results]
    · refine ⟨.back, fun later running => ?_⟩
      have closed := (closed_of_awaitSecond initially prompt running waits).2
      rcases Copier.enabled closed backDone with ⟨choice, able⟩
      rcases Option.isSome_iff_exists.mp able with ⟨⟨pipes, moved, report⟩, stepped⟩
      exact enabled_of_step (.back choice) running (by simp [Splice.step, stepped])
  · refine ⟨.forth, fun later running => ?_⟩
    have closed := (closed_of_awaitSecond initially prompt running waits).1
    rcases Copier.enabled closed forthDone with ⟨choice, able⟩
    rcases Option.isSome_iff_exists.mp able with ⟨⟨pipes, moved, report⟩, stepped⟩
    exact enabled_of_step (.forth choice) running (by simp [Splice.step, stepped])

theorem eventually_returned (initially : outline.Holds (trace.state 0)) (prompt : Prompt trace call)
    (fair : Fair trace self) {first : Option Failure} (running : Running trace self call splice start)
    (waits : splice.owner = .awaitSecond first) :
    ∃ (later : Nat) (next : Splice) (result : Option Failure), start ≤ later ∧
      Running trace self call next later ∧ next.owner = .returned result ∧
      next.forth.point = .done ∧ next.back.point = .done := by
  induction left : splice.forth.rank call.wiring.forth + splice.back.rank call.wiring.back
    using Nat.strong_induction_on generalizing start splice with
  | _ left induction =>
      have accounted := ((holds_always initially start).thread self _ running).1
      rcases exists_able self initially prompt accounted waits with ⟨goroutine, able⟩
      rcases next_step fair goroutine (fun later _ => able later) running with
        ⟨later, choice, pipes, next, after, there, stepped, moved⟩
      have closed := closed_of_awaitSecond initially prompt there waits
      -- A loop comes closer to its end, or the owner has got the second result.
      cases choice with
      | forth choice =>
          simp only [Splice.step] at stepped
          split at stepped
          · cases stepped
          · rename_i found
            cases stepped
            have nearer := Copier.rank_step closed.1 found
            rcases induction _ (by simp only; omega) moved waits rfl with
              ⟨finish, last, result, since, at_⟩
            exact ⟨finish, last, result, by omega, at_⟩
      | back choice =>
          simp only [Splice.step] at stepped
          split at stepped
          · cases stepped
          · rename_i found
            cases stepped
            have nearer := Copier.rank_step closed.2 found
            rcases induction _ (by simp only; omega) moved waits rfl with
              ⟨finish, last, result, since, at_⟩
            exact ⟨finish, last, result, by omega, at_⟩
      | owner =>
          simp only [Splice.step, Splice.stepOwner, waits] at stepped
          split at stepped
          · rename_i second rest results
            cases stepped
            simp only [Splice.Accounted, waits, OwnerPoint.received, results,
              List.length_cons] at accounted
            have one := reported_le splice.forth
            have two := reported_le splice.back
            have forthDone : splice.forth.point = .done := done_of_reported (by omega)
            have backDone : splice.back.point = .done := done_of_reported (by omega)
            exact ⟨later + 1, _, _, by omega, moved, rfl, forthDone, backDone⟩
          · cases stepped

theorem eventually_returns (initially : outline.Holds (trace.state 0)) (prompt : Prompt trace call)
    (fair : Fair trace self) (running : Running trace self call splice start)
    (first : splice.forth.point = .done ∨ splice.back.point = .done) :
    ∃ (later : Nat) (next : Splice) (result : Option Failure), start ≤ later ∧
      Running trace self call next later ∧ next.owner = .returned result ∧
      next.forth.point = .done ∧ next.back.point = .done := by
  have accounted := ((holds_always initially start).thread self _ running).1
  have reported : 1 ≤ splice.forth.reported + splice.back.reported := by
    rcases first with done | done
    · simp [Copier.reported, done]
    · simp [Copier.reported, done]
  have closes {from_ : Nat} {now : Splice} {ops : List EndOp} {failure : Option Failure}
      (after : start ≤ from_) (there : Running trace self call now from_)
      (closing : now.owner = .closing ops failure) :
      ∃ (later : Nat) (next : Splice) (result : Option Failure), start ≤ later ∧
        Running trace self call next later ∧ next.owner = .returned result ∧
        next.forth.point = .done ∧ next.back.point = .done := by
    rcases eventually_closed fair there closing with ⟨later, next, since, moved, waits⟩
    rcases eventually_returned initially prompt fair moved waits with
      ⟨finish, last, result, beyond, at_⟩
    exact ⟨finish, last, result, by omega, at_⟩
  cases owner : splice.owner with
  | awaitFirst =>
      rw [Splice.Accounted, owner] at accounted
      have waiting : splice.owner = .awaitFirst ∧ splice.results ≠ [] := by
        refine ⟨owner, fun none => ?_⟩
        rw [none] at accounted
        simp only [OwnerPoint.received, List.length_nil] at accounted
        omega
      have able (later : Nat) (now : Splice) (_ : start ≤ later)
          (_ : Running trace self call now later)
          (waiting : now.owner = .awaitFirst ∧ now.results ≠ []) :
          (now.step (trace.state later).shared call.wiring .owner).isSome = true := by
        cases results : now.results with
        | nil => exact absurd results waiting.2
        | cons failure rest => simp [Splice.step, Splice.stepOwner, waiting.1, results]
      have grows (owner : OwnerPoint) (results more : List (Option Failure))
          (waiting : owner = .awaitFirst ∧ results ≠ []) :
          owner = .awaitFirst ∧ results ++ more ≠ [] :=
        ⟨waiting.1, fun none => waiting.2 (List.append_eq_nil_iff.mp none).1⟩
      rcases owner_step fair _ able grows running waiting with
        ⟨later, _, before, next, after, was, stepped, moved⟩
      cases results : before.results with
      | nil => exact absurd results was.2
      | cons failure rest =>
          simp only [Splice.step, Splice.stepOwner, was.1, results] at stepped
          cases stepped
          exact closes (by omega) moved rfl
  | closing ops failure => exact closes (Nat.le_refl start) running owner
  | awaitSecond failure => exact eventually_returned initially prompt fair running owner
  | returned result =>
      rw [Splice.Accounted, owner] at accounted
      simp only [OwnerPoint.received] at accounted
      have one := reported_le splice.forth
      have two := reported_le splice.back
      exact ⟨start, splice, result, Nat.le_refl start, running, owner,
        done_of_reported (by omega), done_of_reported (by omega)⟩

/-- Once one direction has ended, the function returns. Then it has closed both connections
and the goroutine of the other direction has ended, too: no peer that stops reading or
writing, and nothing else that happens to the two connections, can keep them. -/
theorem returns_after_first {pipes : Pipes Unit} (starts : trace.state 0 = ⟨pipes, []⟩)
    (prompt : Prompt trace call) (fair : Fair trace self)
    (running : Running trace self call splice start)
    (first : splice.forth.point = .done ∨ splice.back.point = .done) :
    ∃ (later : Nat) (next : Splice) (result : Option Failure), start ≤ later ∧
      Running trace self call next later ∧ next.owner = .returned result ∧
      next.forth.point = .done ∧ next.back.point = .done ∧
      ∀ op ∈ call.wiring.closing, (trace.state later).shared.Applied op := by
  have initially : outline.Holds (trace.state 0) := by
    rw [starts]
    exact ⟨trivial, fun self thread present => by simp at present⟩
  rcases eventually_returns initially prompt fair running first with
    ⟨later, next, result, after, there, returned, forth, back⟩
  have closing := ((holds_always initially later).thread self _ there).2
  simp only [Splice.Closing, returned] at closing
  exact ⟨later, next, result, after, there, returned, forth, back, closing⟩

end Traces

/-! A `Proxy.Run` whose client sends one byte and closes: the other direction, which waits for
the stream, is ended with it. -/

def oneProxy : Call := .proxyRun ⟨0, .far⟩ ⟨1, .near⟩ .quic

def quietPipes : Pipes Unit where
  infos := []
  lanes := fun _ => Lane.fresh 100 true

def clientCloses : List (PoolEvent Thread Choice) :=
  [.spawn (.running oneProxy .start), .spawn .others, .advance 1 (.push ⟨0, .near⟩ [7]),
    .advance 1 (.apply (.endWriting ⟨0, .near⟩)), .advance 0 (.splice (.back (.read 1 none))),
    .advance 0 (.splice (.back .go)), .advance 0 (.splice (.back (.write 1))),
    .advance 0 (.splice (.back (.read 0 (some .eof)))), .advance 0 (.splice (.back .go)),
    .advance 0 (.splice (.back .go))]

def proxyReturns : List (PoolEvent Thread Choice) :=
  List.replicate 7 (.advance 0 (.splice .owner)) ++
    [.advance 0 (.splice (.forth (.read 0 (some .closed)))), .advance 0 (.splice (.forth .go)),
      .advance 0 (.splice (.forth .go)), .advance 0 (.splice .owner)]

def halfDone : Splice where
  forth := .start
  back := ⟨.done, 1⟩
  results := [none]
  owner := .awaitFirst

def allDone : Splice where
  forth := ⟨.done, 0⟩
  back := ⟨.done, 1⟩
  results := []
  owner := .returned none

theorem returns_after_first_client :
    ∃ (trace : program.machine.Trace) (later : Nat) (next : Splice) (result : Option Failure),
      Fair trace 0 ∧ Running trace 0 oneProxy halfDone 10 ∧ 10 ≤ later ∧
      Running trace 0 oneProxy next later ∧ next.owner = .returned result ∧
      ∀ op ∈ oneProxy.wiring.closing, (trace.state later).shared.Applied op := by
  have half : (program.machine.execute ⟨quietPipes, []⟩ clientCloses).map (·.threads) =
      some [.running oneProxy halfDone, .others] := by decide +kernel
  have whole : (program.machine.execute ⟨quietPipes, []⟩ (clientCloses ++ proxyReturns)).map
      (·.threads) = some [.running oneProxy allDone, .others] := by decide +kernel
  rcases Option.map_eq_some_iff.mp half with ⟨middle, reaches, there⟩
  rcases Option.map_eq_some_iff.mp whole with ⟨finish, executed, done⟩
  have idles : program.machine.step finish (.advance 1 (.pull ⟨0, .near⟩ 0)) = some finish := by
    rcases finish with ⟨pipes, threads⟩
    cases done
    have taken : program.step 1 pipes .others (.pull ⟨0, .near⟩ 0) = some (pipes, .others) := by
      simp [program, step, pull_zero]
    exact Program.machine_advance rfl taken
  rcases Machine.exists_idling executed idles with ⟨trace, starts, last, before⟩
  have running : Running trace 0 oneProxy halfDone 10 := by
    rw [Running, before 10 middle reaches, there]
    rfl
  have fair : Fair trace 0 := by
    intro goroutine start able
    rcases able (start + 21) (Nat.le_add_right _ _) with ⟨choice, _, unblocked⟩
    rw [(last (start + 21) (Nat.le_add_left _ _)).1] at unblocked
    simp only [Program.machine, done, List.getElem?_cons_zero, program, step, allDone] at unblocked
    cases choice <;> simp [Splice.step, Copier.step, Splice.stepOwner] at unblocked
  have prompt : Prompt trace oneProxy := by
    rw [Prompt, starts]
    exact ⟨rfl, rfl⟩
  rcases returns_after_first starts prompt fair running (.inr rfl) with
    ⟨later, next, result, after, moved, returned, _, _, closed⟩
  exact ⟨trace, later, next, result, fair, running, after, moved, returned, closed⟩

end Rdpulse.TCP.Teardown
