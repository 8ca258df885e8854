import Rdpulse.Foundation.Conservation
import Rdpulse.Foundation.Traces
import Rdpulse.Punch.TCPRace

namespace Rdpulse.Punch.TCPRace

open Foundation
open Signaling (protocolTCP)

/-! # Every connection but the winner is closed

`dialTCPAuth` returns, all its goroutines return, and then the connection that it returned is
the only one left. -/

def authRank : DialPoint → Nat
  | .setDeadline => 6
  | .checkToken => 5
  | .readChallenge => 4
  | .writeAuth => 3
  | .readPeerAuth => 2
  | .verify _ => 1
  | .returned _ => 0

/-- How many steps a goroutine has left at most. A connection that becomes pending may cost
the caller one. -/
def DialerPoint.rank : DialerPoint → Nat
  | .unborn => 14
  | .dialing => 13
  | .connected => 12
  | .authenticating point => 4 + authRank point
  | .authenticated => 4
  | .entering => 3
  | .sending => 2
  | .won => 0
  | .closing => 1
  | .returned => 0
  | .undialed => 0

def Thread.rank : Thread → Nat
  | .caller | .clock => 0
  | .dialer goroutine => goroutine.point.rank

def Race.rank (call : Call) (race : Race) : Nat :=
  let unlaunched := 2 + call.tcpCandidates.length - race.launched
  match race.caller with
  | .checkToken => 8 + race.pending.length + unlaunched
  | .checkCandidates => 7 + race.pending.length + unlaunched
  | .launching => 6 + race.pending.length + unlaunched
  | .selecting => 5 + race.pending.length
  | .locking _ => 4 + race.pending.length
  | .closing _ rest => 3 + rest.length
  | .cancelling _ => 2
  | .dialed _ => 1
  | .returned _ => 0

def Race.unexpired (race : Race) : Nat := (!race.expired).toNat

def rank (call : Call) (pool : RacePool) : Nat :=
  pool.shared.rank call + pool.total Thread.rank + pool.shared.unexpired

section Ranks

variable {call : Call} {race next : Race} {self : Conn} {dialer moved : Dialer}
  {choice : RaceChoice}

theorem stepCaller_rank (taken : stepCaller call race choice = some next) :
    next.rank call < race.rank call ∧ next.unexpired ≤ race.unexpired := by
  unfold stepCaller at taken
  split at taken
  all_goals (repeat' split at taken)
  all_goals cases taken
  all_goals simp_all [Race.rank, Race.close, Race.unexpired]
  all_goals omega

theorem stepDial_rank {point after : DialPoint} {network sent : Network} {session : UInt64}
    {token : Bytes} {role : UInt8} {challenge heard : Option Bytes} {io : Choice}
    (taken : stepDial self network session token role challenge io point =
      some (sent, heard, after)) : (afterAuth after).rank < 4 + authRank point := by
  cases point with
  | verify received =>
      simp only [stepDial] at taken
      repeat' split at taken
      all_goals cases taken
      all_goals simp [afterAuth, DialerPoint.rank, authRank]
  | returned err => simp [stepDial] at taken
  | _ =>
      cases io <;> simp only [stepDial] at taken
      all_goals repeat' split at taken
      all_goals cases taken
      all_goals simp [afterAuth, DialerPoint.rank, authRank]

theorem stepDialer_rank (taken : stepDialer call self race dialer choice = some (next, moved)) :
    next.rank call + moved.point.rank < race.rank call + dialer.point.rank := by
  have appended : ({ race with pending := race.pending ++ [self] } : Race).rank call ≤
      race.rank call + 1 := by
    unfold Race.rank
    cases race.caller <;> simp <;> omega
  unfold stepDialer at taken
  split at taken
  case h_5 point io here =>
    split at taken
    · rcases Option.map_eq_some_iff.mp taken with ⟨after, stepped, same⟩
      cases same
      have nearer := stepDial_rank stepped
      have unmoved : ({ race with network := after.1 } : Race).rank call = race.rank call := rfl
      rw [unmoved, here, DialerPoint.rank]
      exact Nat.add_lt_add_left nearer _
    · cases taken
  all_goals (repeat' split at taken)
  all_goals cases taken
  all_goals simp_all [Race.rank, Race.close, DialerPoint.rank, authRank]
  all_goals omega

end Ranks

section Pools

variable {call : Call} {pool next : RacePool} {self : Nat} {choice : RaceChoice}
  {event : PoolEvent Thread RaceChoice}

theorem update_clock (present : pool.threads[self]? = some .clock)
    (expired : pool.shared.expired = true) :
    pool.update self { pool.shared with expired := true } .clock = pool := by
  have same : pool.threads.set self .clock = pool.threads := by
    rw [← (List.getElem?_eq_some_iff.mp present).2]
    exact List.set_getElem_self _
  simp [Pool.update, same, ← expired]

/-- A step of the caller or of a goroutine costs rank, and so does the first one of the
clock. -/
theorem rank_step (step : (program call).machine.step pool event = some next) :
    rank call next < rank call pool ∨
      next = pool ∧ ∃ self choice, event = .advance self choice ∧
        pool.threads[self]? = some .clock ∧ pool.shared.expired = true := by
  rcases Program.step_cases step with
    ⟨_, _, enters, _⟩ | ⟨self, choice, thread, shared, moved, rfl, present, taken, rfl⟩
  · cases enters
  · have total := Pool.total_update present Thread.rank shared moved
    simp only [rank, Pool.update_shared]
    cases thread with
    | caller =>
        rcases Option.map_eq_some_iff.mp taken with ⟨after, stepped, same⟩
        cases same
        have lower := stepCaller_rank stepped
        simp only [Thread.rank] at total
        exact .inl (by omega)
    | clock =>
        cases taken
        cases expired : pool.shared.expired with
        | true =>
            exact .inr ⟨update_clock present expired, self, choice, rfl, present, rfl⟩
        | false =>
            refine .inl ?_
            have before : pool.shared.unexpired = 1 := by simp [Race.unexpired, expired]
            simp only [Thread.rank] at total
            change pool.shared.rank call + _ + 0 < _
            omega
    | dialer dialer =>
        rcases Option.map_eq_some_iff.mp taken with ⟨⟨after, moved⟩, stepped, same⟩
        cases same
        have lower := stepDialer_rank stepped
        have unexpired : shared.unexpired = pool.shared.unexpired := by
          rw [Race.unexpired, (stepDialer_leaves stepped).expired, Race.unexpired]
        simp only [Thread.rank] at total
        exact .inl (by omega)

theorem caller_moves {race : Race} (expired : race.expired = true)
    (guarded : race.locked = true → ∃ except rest, race.caller = .closing except rest)
    (going : ∀ result, race.caller ≠ .returned result) :
    ∃ choice, (stepCaller call race choice).isSome = true := by
  cases point : race.caller with
  | checkToken =>
      refine ⟨.proceed, ?_⟩
      simp only [stepCaller, point]
      split <;> rfl
  | checkCandidates =>
      refine ⟨.proceed, ?_⟩
      simp only [stepCaller, point]
      split <;> rfl
  | launching =>
      refine ⟨.proceed, ?_⟩
      simp only [stepCaller, point]
      split <;> rfl
  | selecting => exact ⟨.done, by simp [stepCaller, point, expired]⟩
  | locking except =>
      have free : race.locked = false := by
        by_contra locked
        rcases guarded (by simpa using locked) with ⟨_, _, closing⟩
        rw [point] at closing
        cases closing
      exact ⟨.proceed, by simp [stepCaller, point, free]⟩
  | closing except rest => cases rest <;> exact ⟨.proceed, by simp [stepCaller, point]⟩
  | cancelling except => exact ⟨.proceed, by simp [stepCaller, point]⟩
  | dialed result => cases result <;> exact ⟨.proceed, by simp [stepCaller, point]⟩
  | returned result => exact absurd point (going result)

theorem auth_moves {race : Race} {dialer : Dialer} {point : DialPoint}
    (known : AuthKnown call dialer.challenge dialer.peerAuth point) :
    ∃ io, Permitted race self point io = true ∧
      (stepDial self race.network call.sessionID call.sessionToken call.role dialer.challenge io
        point).isSome = true := by
  refine ⟨.fail, ?_, ?_⟩
  · cases point <;> simp [Permitted]
  · cases point with
    | setDeadline => rfl
    | checkToken =>
        simp only [stepDial]
        split <;> rfl
    | readChallenge => rfl
    | writeAuth =>
        rcases Option.isSome_iff_exists.mp known.2 with ⟨value, has⟩
        simp [stepDial, has]
    | readPeerAuth => rfl
    | verify received =>
        rcases Option.isSome_iff_exists.mp known.2.1 with ⟨value, has⟩
        simp only [stepDial, has]
        repeat' split
        all_goals rfl
    | returned err => exact known.elim

/-- The goroutine has returned, or has never been started. -/
def DialerPoint.Over (point : DialerPoint) : Prop :=
  point = .unborn ∨ point = .undialed ∨ point = .won ∨ point = .returned

/-- A goroutine waits for nobody but the one inside the function of `once`. -/
theorem dialer_moves {race : Race} {dialer : Dialer} (known : Known call race self dialer)
    (coherent : Coherent call race) (free : race.locked = false) (going : ¬dialer.point.Over)
    (first : ∀ other, race.once = .running other → dialer.point = .sending) :
    ∃ choice, (stepDialer call self race dialer choice).isSome = true := by
  have progress := known.progress
  cases point : dialer.point with
  | unborn => exact absurd (.inl point) going
  | dialing => exact ⟨.io .fail, by simp [stepDialer, point]⟩
  | connected => exact ⟨.proceed, by simp [stepDialer, point, free]⟩
  | authenticating auth =>
      rw [Progress, point] at progress
      rcases @auth_moves call self race dialer auth progress.2 with ⟨io, permitted, moves⟩
      exact ⟨.io io, by simpa [stepDialer, point, permitted] using moves⟩
  | authenticated =>
      refine ⟨.proceed, ?_⟩
      simp only [stepDialer, point]
      split <;> rfl
  | entering =>
      refine ⟨.proceed, ?_⟩
      cases once : race.once with
      | fresh => simp [stepDialer, point, once]
      | running other =>
          have sending := first other once
          rw [point] at sending
          cases sending
      | done => simp [stepDialer, point, once]
  | sending =>
      rw [Progress, point] at progress
      have empty : race.resultCh = none := by
        cases waits : race.resultCh with
        | none => rfl
        | some conn =>
            have undecided : race.once ≠ .done := by simp [progress.2.2.2]
            exact absurd (.inl waits) (coherent.undecided undecided conn)
      exact ⟨.proceed, by simp [stepDialer, point, empty]⟩
  | won => exact absurd (.inr (.inr (.inl point))) going
  | closing => exact ⟨.proceed, by simp [stepDialer, point]⟩
  | returned => exact absurd (.inr (.inr (.inr point))) going
  | undialed => exact absurd (.inr (.inl point)) going

theorem kinds_step (step : (program call).machine.step pool event = some next)
    (caller : pool.threads[0]? = some .caller) (clock : pool.threads[1]? = some .clock) :
    next.threads[0]? = some .caller ∧ next.threads[1]? = some .clock := by
  rcases Program.step_cases step with
    ⟨_, _, enters, _⟩ | ⟨self, choice, thread, shared, moved, rfl, present, taken, rfl⟩
  · cases enters
  · have keeps {other : Nat} {kind : Thread} (there : pool.threads[other]? = some kind)
        (same : other = self → moved = kind) :
        (pool.update self shared moved).threads[other]? = some kind := by
      by_cases own : other = self
      · subst own
        rw [← same rfl]
        exact Pool.update_self there shared moved
      · exact (Pool.update_other pool own shared moved).trans there
    refine ⟨keeps caller fun own => ?_, keeps clock fun own => ?_⟩
    · subst own
      rw [caller] at present
      cases present
      rcases Option.map_eq_some_iff.mp taken with ⟨after, _, same⟩
      cases same
      rfl
    · subst own
      rw [clock] at present
      cases present
      cases taken
      rfl

end Pools

section Fair

variable {call : Call} {trace : (program call).machine.Trace}

theorem kinds_always (starts : trace.state 0 = initialPool call) (time : Nat) :
    (trace.state time).threads[0]? = some .caller ∧
      (trace.state time).threads[1]? = some .clock := by
  induction time with
  | zero => exact starts ▸ ⟨rfl, rfl⟩
  | succ time induction => exact kinds_step (trace.step time) induction.1 induction.2

/-- The last state: the context is done, the caller has returned and so has each goroutine. -/
theorem exists_last (starts : trace.state 0 = initialPool call)
    (fair : ∀ self, Program.FairTo trace self) :
    ∃ bound result, (∀ time, bound ≤ time → trace.state time = trace.state bound) ∧
      (trace.state bound).shared.caller = .returned result ∧
      ∀ (self : Nat) (dialer : Dialer),
        (trace.state bound).threads[self]? = some (.dialer dialer) →
        dialer.point.Over ∧
          (dialer.point = .unborn → (trace.state bound).shared.launched ≤ self) := by
  have holds := outline_valid.always trace (starts ▸ outline_initial)
  rcases trace.settles (fun time changed => by
      rcases rank_step (trace.step time) with lower | ⟨same, _⟩
      · exact lower
      · exact absurd same changed) with ⟨bound, settled⟩
  have kinds := kinds_always starts bound
  have idle {self : Nat} (able : (program call).Able (trace.state bound) self) :
      (trace.state bound).threads[self]? = some .clock ∧
        (trace.state bound).shared.expired = true := by
    rcases (fair self).idles settled able with ⟨choice, step⟩
    rcases rank_step step with lower | ⟨_, other, _, same, clock, expired⟩
    · exact absurd lower (Nat.lt_irrefl _)
    · cases same
      exact ⟨clock, expired⟩
  have expired : (trace.state bound).shared.expired = true :=
    (idle ⟨.proceed, _, Program.machine_advance kinds.2 rfl⟩).2
  rcases (holds bound).global with ⟨coherent, _, runner⟩
  have returned : ∃ result, (trace.state bound).shared.caller = .returned result := by
    by_contra going
    push Not at going
    rcases @caller_moves call _ expired coherent.guarded going with ⟨choice, moves⟩
    rcases Option.isSome_iff_exists.mp moves with ⟨after, stepped⟩
    have clock := (idle ⟨choice, _, Program.machine_advance kinds.1
      (Option.map_eq_some_iff.mpr ⟨after, stepped, rfl⟩)⟩).1
    rw [kinds.1] at clock
    cases clock
  rcases returned with ⟨result, returned⟩
  have free : (trace.state bound).shared.locked = false := by
    by_contra locked
    rcases coherent.guarded (by simpa using locked) with ⟨_, _, closing⟩
    rw [returned] at closing
    cases closing
  have still {self : Nat} {dialer : Dialer}
      (present : (trace.state bound).threads[self]? = some (.dialer dialer))
      (first : ∀ other, (trace.state bound).shared.once = .running other →
        dialer.point = .sending) : dialer.point.Over := by
    by_contra going
    rcases dialer_moves ((holds bound).thread self _ present) coherent free going first with
      ⟨choice, moves⟩
    rcases Option.isSome_iff_exists.mp moves with ⟨after, stepped⟩
    have clock := (idle ⟨choice, _, Program.machine_advance present
      (Option.map_eq_some_iff.mpr ⟨after, stepped, rfl⟩)⟩).1
    rw [present] at clock
    cases clock
  refine ⟨bound, result, settled, returned, fun self dialer present =>
    ⟨still present ?_, fun unborn => ?_⟩⟩
  · -- Whoever is inside the function of `once` could go on.
    intro other runs
    rcases runner other runs with ⟨sender, there, sending⟩
    have finished := still there fun _ _ => sending
    simp [DialerPoint.Over, sending] at finished
  · by_contra born
    have moves : stepDialer call self (trace.state bound).shared dialer .proceed =
        some ((trace.state bound).shared, { dialer with point := .dialing }) := by
      simp [stepDialer, unborn, Nat.lt_of_not_le born]
    have clock := (idle ⟨.proceed, _, Program.machine_advance present
      (Option.map_eq_some_iff.mpr ⟨_, moves, rfl⟩)⟩).1
    rw [present] at clock
    cases clock

/-- Where no goroutine that is able to go on is passed over for ever, the call returns. From
some time on every goroutine that it started has returned, so that neither the mutex nor
`once` nor the channel keeps one, and each connection that it made is closed, except the one
that `PunchTCP` returns. -/
theorem race_settles (starts : trace.state 0 = initialPool call)
    (fair : ∀ self, Program.FairTo trace self) :
    ∃ (bound : Nat) (result : Except DialError Conn), ∀ time, bound ≤ time →
      (trace.state time).shared.caller = .returned result ∧
      ∀ (self : Conn) (dialer : Dialer),
        (trace.state time).threads[self]? = some (.dialer dialer) →
        dialer.point.Over ∧
          (dialer.point = .unborn → (trace.state time).shared.launched ≤ self) ∧
          (dialer.point = .unborn ∨ dialer.point = .undialed ∨
            (self ∉ (trace.state time).shared.closed ↔
              result = .ok self ∧ call.probes = false)) := by
  rcases exists_last starts fair with ⟨bound, result, settled, returned, finished⟩
  refine ⟨bound, result, fun time later => ?_⟩
  rw [settled time later]
  refine ⟨returned, fun self dialer present => ?_⟩
  have holds := outline_valid.always trace (starts ▸ outline_initial) bound
  have coherent := holds.global.coherent
  have settles (done : dialer.point = .won ∨ dialer.point = .returned) :
      self ∉ (trace.state bound).shared.closed ↔ result = .ok self ∧ call.probes = false := by
    by_cases same : result = .ok self
    · subst same
      simp [coherent.returned_closed returned]
    · have closed := Known.settled (holds.thread self _ present) coherent returned done same
      simp [same, closed]
  refine ⟨(finished self dialer present).1, (finished self dialer present).2, ?_⟩
  rcases (finished self dialer present).1 with unborn | undialed | won | done
  · exact .inl unborn
  · exact .inr (.inl undialed)
  · exact .inr (.inr (settles (.inl won)))
  · exact .inr (.inr (settles (.inr done)))

end Fair

def foremost : Dialer where
  candidate := ⟨protocolTCP, [], [2], 4⟩
  point := .won
  challenge := some (List.replicate 16 8)
  peerAuth := some [0, 0, 0, 0, 0, 0, 0, 7, 233, 153, 139, 11, 198, 32, 6, 178, 219, 253, 46, 29,
    138, 197, 10, 166]

theorem race_settles_oneAnswers :
    ∃ (trace : (program twoDials).machine.Trace) (bound : Nat),
      (∀ self, Program.FairTo trace self) ∧ 3 ∉ (trace.state bound).shared.closed ∧
        2 ∈ (trace.state bound).shared.closed := by
  have finished : ((program twoDials).machine.execute (initialPool twoDials) oneAnswers).map
      (fun pool => (pool.threads, pool.shared.caller, pool.shared.expired)) =
      some ([.caller, .clock, .dialer latecomer, .dialer foremost], .returned (.ok 3), true) := by
    decide +kernel
  rcases Option.map_eq_some_iff.mp finished with ⟨finish, executed, found⟩
  simp only [Prod.mk.injEq] at found
  rcases found with ⟨threads, returned, expired⟩
  have clock : finish.threads[1]? = some .clock := by simp [threads]
  have idles : (program twoDials).machine.step finish (.advance 1 .proceed) = some finish := by
    rw [Program.machine_advance clock rfl, update_clock clock expired]
  rcases Machine.exists_idling executed idles with ⟨trace, starts, last, _⟩
  have fair (self : Nat) : Program.FairTo trace self := by
    intro start able
    have late := last (start + oneAnswers.length) (by omega)
    rcases able (start + oneAnswers.length) (by omega) with ⟨choice, next, step⟩
    rw [late.1] at step
    -- Everybody but the clock has returned.
    rcases self with _ | _ | _ | _ | self
    · simp [Program.machine, threads, program, TCPRace.step, stepCaller, returned] at step
    · exact ⟨start + oneAnswers.length, by omega, .proceed, late.2⟩
    · simp [Program.machine, threads, program, TCPRace.step, stepDialer, latecomer] at step
    · simp [Program.machine, threads, program, TCPRace.step, stepDialer, foremost] at step
    · simp [Program.machine, threads] at step
  rcases race_settles starts fair with ⟨bound, result, settled⟩
  have late := last (bound + oneAnswers.length) (by omega)
  have settled := settled (bound + oneAnswers.length) (by omega)
  rw [late.1, returned, threads] at settled
  cases settled.1
  refine ⟨trace, bound + oneAnswers.length, fair, ?_⟩
  rw [late.1]
  have first := (settled.2 2 latecomer rfl).2.2
  have second := (settled.2 3 foremost rfl).2.2
  simp [latecomer, foremost, twoDials] at first second
  exact ⟨second, first⟩

end Rdpulse.Punch.TCPRace
