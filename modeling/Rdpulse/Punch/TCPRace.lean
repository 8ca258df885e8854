import Mathlib.Data.List.Perm.Basic
import Rdpulse.Punch.TCPAuth
import Rdpulse.Signaling.Coordinator

namespace Rdpulse.Punch.TCPRace

open Foundation Protocol
open Signaling (protocolTCP)

/-! # The race of the dialed connections

`dialTCPAuth` dials all the TCP candidates of the peer at once and takes the first
connection that authenticates. A goroutine for each candidate, the caller and the clock of
the context run in any order. -/

/-- A call of `PunchTCP`, or of `ProbeTCP`. The order of candidates of one priority is left
to `sort.Slice`. -/
structure Call where
  candidates : List CandidateInfo
  sessionID : UInt64
  sessionToken : Bytes
  probes : Bool
  tcpCandidates : List CandidateInfo
  sorts : tcpCandidates.Perm (candidates.filter fun cand => cand.protocol = protocolTCP)
  descends : tcpCandidates.Pairwise fun cand next => next.priority ≤ cand.priority

def Call.role (call : Call) : UInt8 :=
  if call.probes then tcpRoleProbe else tcpRoleClient

inductive DialError
  | tcpAuthFailed
  | noCandidates
  | tcpPunchTimeout
  deriving DecidableEq, Repr

inductive Once
  | fresh
  | running (self : Nat)
  | done
  deriving DecidableEq, Repr

/-- A connection goes by the number of the goroutine that dialed it. -/
abbrev Conn := Nat

inductive CallerPoint
  | checkToken
  | checkCandidates
  | launching
  | selecting
  | locking (except : Option Conn)
  | closing (except : Option Conn) (rest : List Conn)
  | cancelling (except : Option Conn)
  | dialed (result : Except DialError Conn)
  | returned (result : Except DialError Conn)
  deriving DecidableEq

/-- The variables of one call of `dialTCPAuth`, with those of its goroutines that are
`launched`. `closed` has the connections that this end has closed. -/
structure Race where
  caller : CallerPoint
  launched : Nat
  expired : Bool
  locked : Bool
  pending : List Conn
  once : Once
  resultCh : Option Conn
  closed : List Conn
  network : Network

/-- Before the call. The caller and the clock are the threads 0 and 1. -/
def Race.initial : Race where
  caller := .checkToken
  launched := 2
  expired := false
  locked := false
  pending := []
  once := .fresh
  resultCh := none
  closed := []
  network := Network.initial

def Race.close (race : Race) (conn : Conn) : Race :=
  { race with closed := conn :: race.closed }

inductive DialerPoint
  | unborn
  | dialing
  | connected
  | authenticating (point : DialPoint)
  | authenticated
  | entering
  | sending
  | won
  | closing
  | returned
  /-- Returned without a connection. -/
  | undialed
  deriving DecidableEq, Repr

/-- `challenge` and `peerAuth` are the local variables of `authenticateTCPPeer`, and `none`
until they are set. -/
structure Dialer where
  candidate : CandidateInfo
  point : DialerPoint
  challenge : Option Bytes
  peerAuth : Option Bytes
  deriving DecidableEq

def Dialer.unborn (candidate : CandidateInfo) : Dialer := ⟨candidate, .unborn, none, none⟩

inductive Thread
  | caller
  | clock
  | dialer (dialer : Dialer)
  deriving DecidableEq

/-- Which case a `select` takes, and how an operation of the network ends. -/
inductive RaceChoice
  | proceed
  | result
  | done
  | io (choice : Choice)
  deriving DecidableEq, Repr

def outcome : Option Conn → Except DialError Conn
  | some conn => .ok conn
  | none => .error .tcpPunchTimeout

def stepCaller (call : Call) (race : Race) (choice : RaceChoice) : Option Race :=
  match race.caller, choice with
  | .checkToken, .proceed =>
      if call.sessionToken.length = 0 then
        some { race with caller := .dialed (.error .tcpAuthFailed) }
      else some { race with caller := .checkCandidates }
  | .checkCandidates, .proceed =>
      if call.tcpCandidates.length = 0 then
        some { race with caller := .dialed (.error .noCandidates), expired := true }
      else some { race with caller := .launching }
  | .launching, .proceed =>
      if race.launched < 2 + call.tcpCandidates.length then
        some { race with launched := race.launched + 1 }
      else some { race with caller := .selecting }
  | .selecting, .result =>
      match race.resultCh with
      | some conn => some { race with caller := .locking (some conn), resultCh := none }
      | none => none
  | .selecting, .done =>
      if race.expired then some { race with caller := .locking none } else none
  | .locking except, .proceed =>
      if race.locked then none
      else some { race with caller := .closing except race.pending, locked := true }
  | .closing except (conn :: rest), .proceed =>
      let next := if except = some conn then race else race.close conn
      some { next with caller := .closing except rest }
  | .closing except [], .proceed =>
      some { race with caller := .cancelling except, locked := false }
  | .cancelling except, .proceed =>
      some { race with caller := .dialed (outcome except), expired := true }
  | .dialed (.ok conn), .proceed =>
      -- `ProbeTCP` only wanted to know.
      let next := if call.probes then race.close conn else race
      some { next with caller := .returned (.ok conn) }
  | .dialed (.error err), .proceed =>
      some { race with caller := .returned (.error err) }
  | _, _ => none

/-- An operation on a connection that has been closed fails, and so does setting a deadline
once the context is done. Any other may fail at any moment, and so may one that passes the
deadline of the connection. -/
def Permitted (race : Race) (self : Conn) (point : DialPoint) (choice : Choice) : Bool :=
  match point with
  | .setDeadline => choice = .fail || (!race.expired && self ∉ race.closed)
  | .readChallenge | .writeAuth | .readPeerAuth => choice = .fail || self ∉ race.closed
  | .checkToken | .verify _ | .returned _ => true

def afterAuth (point : DialPoint) : DialerPoint :=
  match point with
  | .returned none => .authenticated
  | .returned (some _) => .closing
  | point => .authenticating point

theorem afterAuth_cases (point : DialPoint) :
    afterAuth point = .authenticated ∨ afterAuth point = .closing ∨
      ∃ next, afterAuth point = .authenticating next := by
  unfold afterAuth
  split <;> simp

def peerAuthOf (point : DialPoint) (peerAuth : Option Bytes) : Option Bytes :=
  match point with
  | .verify received => some received
  | _ => peerAuth

def stepDialer (call : Call) (self : Conn) (race : Race) (dialer : Dialer) (choice : RaceChoice) :
    Option (Race × Dialer) :=
  match dialer.point, choice with
  | .unborn, .proceed =>
      if self < race.launched then some (race, { dialer with point := .dialing }) else none
  | .dialing, .io .proceed => some (race, { dialer with point := .connected })
  | .dialing, .io .fail => some (race, { dialer with point := .undialed })
  | .connected, .proceed =>
      if race.locked then none
      else
        some ({ race with pending := race.pending ++ [self] },
          { dialer with point := .authenticating .setDeadline })
  | .authenticating point, .io choice =>
      if Permitted race self point choice then
        (stepDial self race.network call.sessionID call.sessionToken call.role dialer.challenge
          choice point).map fun (network, challenge, next) =>
            ({ race with network := network },
              { dialer with
                point := afterAuth next
                challenge := challenge
                peerAuth := peerAuthOf next dialer.peerAuth })
      else none
  | .authenticated, .proceed =>
      if race.expired then some (race, { dialer with point := .closing })
      else some (race, { dialer with point := .entering })
  | .entering, .proceed =>
      match race.once with
      | .fresh => some ({ race with once := .running self }, { dialer with point := .sending })
      | .running _ => none
      | .done => some (race, { dialer with point := .closing })
  | .sending, .proceed =>
      match race.resultCh with
      | none =>
          some ({ race with resultCh := some self, once := .done }, { dialer with point := .won })
      | some _ => none
  | .closing, .proceed => some (race.close self, { dialer with point := .returned })
  | _, _ => none

def step (call : Call) (self : Nat) (race : Race) (thread : Thread) (choice : RaceChoice) :
    Option (Race × Thread) :=
  match thread with
  | .caller => (stepCaller call race choice).map fun race => (race, .caller)
  | .clock => some ({ race with expired := true }, .clock)
  | .dialer dialer =>
      (stepDialer call self race dialer choice).map fun (race, next) => (race, .dialer next)

def program (call : Call) : Program Race Thread RaceChoice where
  entry _ := false
  step := step call

abbrev RacePool := Pool Race Thread

def initialPool (call : Call) : RacePool where
  shared := Race.initial
  threads := .caller :: .clock :: call.tcpCandidates.map fun cand => .dialer (.unborn cand)

/-! ## What holds at all times -/

theorem outcome_eq_ok {except : Option Conn} {conn : Conn} :
    outcome except = .ok conn ↔ except = some conn := by
  cases except <;> simp [outcome]

theorem outcome_eq_error {except : Option Conn} {err : DialError} :
    outcome except = .error err ↔ except = none ∧ err = .tcpPunchTimeout := by
  cases except <;> simp [outcome, eq_comm]

namespace CallerPoint

def Takes (point : CallerPoint) (conn : Conn) : Prop :=
  match point with
  | .locking except | .closing except _ | .cancelling except => except = some conn
  | .dialed result | .returned result => result = .ok conn
  | _ => False

def TimedOut (point : CallerPoint) : Prop :=
  match point with
  | .locking except | .closing except _ | .cancelling except => except = none
  | .dialed result | .returned result => result = .error .tcpPunchTimeout
  | _ => False

def Launches (point : CallerPoint) : Prop :=
  match point with
  | .checkToken | .checkCandidates => False
  | .dialed result | .returned result =>
      result ≠ .error .tcpAuthFailed ∧ result ≠ .error .noCandidates
  | _ => True

def Sweeps (point : CallerPoint) (closed : List Conn) (self : Conn) : Prop :=
  match point with
  | .closing except rest => except = none → self ∈ closed ∨ self ∈ rest
  | .cancelling except => except = none → self ∈ closed
  | .dialed result | .returned result => result = .error .tcpPunchTimeout → self ∈ closed
  | _ => True

end CallerPoint

namespace Race

def Chosen (race : Race) (conn : Conn) : Prop :=
  race.resultCh = some conn ∨ race.caller.Takes conn

def Runs (race : Race) (conn : Conn) : Prop := race.once = .running conn

def spares (call : Call) (race : Race) : Bool :=
  match race.caller with
  | .returned _ => !call.probes
  | _ => true

end Race

/-- The answer that came over this connection is the session's tag for the challenge that
came over it. -/
def Verified (call : Call) (challenge peerAuth : Option Bytes) : Prop :=
  call.sessionToken ≠ [] ∧
    ∃ value, challenge = some value ∧
      peerAuth =
        some (tcpAuthTag call.sessionID call.sessionToken (expectedRole call.role) value)

def AuthKnown (call : Call) (challenge peerAuth : Option Bytes) : DialPoint → Prop
  | .setDeadline | .checkToken => True
  | .readChallenge => call.sessionToken ≠ []
  | .writeAuth | .readPeerAuth => call.sessionToken ≠ [] ∧ challenge.isSome
  | .verify received => call.sessionToken ≠ [] ∧ challenge.isSome ∧ peerAuth = some received
  | .returned _ => False

def Progress (call : Call) (race : Race) (self : Conn) (dialer : Dialer) : Prop :=
  match dialer.point with
  | .unborn | .dialing | .connected | .undialed | .closing => True
  | .authenticating point => self ∈ race.pending ∧ AuthKnown call dialer.challenge dialer.peerAuth point
  | .authenticated => self ∈ race.pending ∧ Verified call dialer.challenge dialer.peerAuth
  | .entering =>
      self ∈ race.pending ∧ Verified call dialer.challenge dialer.peerAuth ∧
        race.caller.Sweeps race.closed self
  | .sending =>
      self ∈ race.pending ∧ Verified call dialer.challenge dialer.peerAuth ∧
        race.caller.Sweeps race.closed self ∧ race.once = .running self
  | .won =>
      self ∈ race.pending ∧ Verified call dialer.challenge dialer.peerAuth ∧
        race.caller.Sweeps race.closed self ∧ race.Chosen self
  | .returned => self ∈ race.closed

structure Known (call : Call) (race : Race) (own : Conn) (dialer : Dialer) : Prop where
  numbered : 2 ≤ own
  dials : dialer.candidate ∈ call.tcpCandidates
  born : dialer.point ≠ .unborn → race.caller.Launches
  untouched : dialer.point ≠ .returned → own ∈ race.closed →
    race.caller.TimedOut ∨ race.once = .done
  progress : Progress call race own dialer

structure Coherent (call : Call) (race : Race) : Prop where
  begun : 2 < race.launched → race.caller.Launches
  expired : race.caller.TimedOut → race.expired = true
  undecided : race.once ≠ .done → ∀ conn, ¬race.Chosen conn
  handed : ∀ conn other, race.resultCh = some conn → ¬race.caller.Takes other
  waiting : ∀ conn, race.resultCh = some conn → ¬race.caller.TimedOut → conn ∉ race.closed
  kept : ∀ conn, race.caller.Takes conn → race.spares call = true → conn ∉ race.closed
  probed : ∀ conn, race.caller = .returned (.ok conn) → call.probes = true → conn ∈ race.closed
  guarded : race.locked = true → ∃ except rest, race.caller = .closing except rest

def Attributed (said : Race → Conn → Prop) (point : DialerPoint) (pool : RacePool) : Prop :=
  ∀ conn, said pool.shared conn →
    ∃ dialer, pool.threads[conn]? = some (.dialer dialer) ∧ dialer.point = point

structure Global (call : Call) (pool : RacePool) : Prop where
  coherent : Coherent call pool.shared
  winner : Attributed Race.Chosen .won pool
  runner : Attributed Race.Runs .sending pool

def outline (call : Call) : Program.Outline Race Thread where
  global := Global call
  assertion self pool
    | .dialer dialer => Known call pool.shared self dialer
    | .caller | .clock => True

section Caller

variable {call : Call} {race next : Race} {choice : RaceChoice}

structure CallerStep (race next : Race) : Prop where
  closed : ∀ conn ∈ race.closed, conn ∈ next.closed
  pending : next.pending = race.pending
  once : next.once = race.once
  chosen : ∀ conn, next.Chosen conn ↔ race.Chosen conn
  launches : race.caller.Launches → next.caller.Launches
  timedOut : race.caller.TimedOut → next.caller.TimedOut
  closes : ∀ conn ∈ next.closed,
    conn ∈ race.closed ∨ race.caller.TimedOut ∨ ∃ other, race.caller.Takes other
  sweeps : ∀ conn ∈ race.pending, race.caller.Sweeps race.closed conn →
    next.caller.Sweeps next.closed conn

theorem stepCaller_leaves (taken : stepCaller call race choice = some next) :
    CallerStep race next := by
  unfold stepCaller at taken
  split at taken
  all_goals (repeat' split at taken)
  all_goals cases taken
  -- One goal for each branch, and what it leaves.
  all_goals rename_i at_
  all_goals constructor
  all_goals simp_all [Race.Chosen, Race.close, CallerPoint.Takes, CallerPoint.Launches,
    CallerPoint.TimedOut, CallerPoint.Sweeps, outcome_eq_ok, outcome_eq_error]
  case closes =>
      rename_i except _ _ _
      cases except
      · exact .inr (.inl rfl)
      · exact .inr (.inr ⟨_, rfl⟩)
  case sweeps =>
      -- The connection that is closed now is no longer among the rest.
      intro conn _ sweeps gaveUp
      rcases sweeps gaveUp with done | rfl | later
      · exact .inl (.inr done)
      · exact .inl (.inl rfl)
      · exact .inr later

theorem Coherent.stepCaller (coherent : Coherent call race)
    (taken : stepCaller call race choice = some next) : Coherent call next := by
  have undecided (changed : next.once ≠ .done) (conn : Conn) : ¬next.Chosen conn := by
    have leaves := stepCaller_leaves taken
    rw [leaves.chosen]
    exact coherent.undecided (leaves.once ▸ changed) conn
  rcases coherent with ⟨begun, expired, _, handed, waiting, kept, probed, guarded⟩
  unfold TCPRace.stepCaller at taken
  split at taken
  all_goals (repeat' split at taken)
  all_goals cases taken
  all_goals rename_i at_
  all_goals refine ⟨?_, ?_, undecided, ?_, ?_, ?_, ?_, ?_⟩
  all_goals simp_all [Race.close, Race.spares, CallerPoint.Takes, CallerPoint.Launches,
    CallerPoint.TimedOut, outcome_eq_ok, outcome_eq_error]
  case refine_4 =>
      -- Whoever closes while a connection waits has given up.
      intro conn waits gaveUp
      rename_i except _ _ _ _
      cases except with
      | none => exact absurd rfl gaveUp
      | some other => exact absurd rfl (handed conn other waits)
  case refine_5 =>
      rintro conn rfl rfl
      contradiction

theorem Known.stepCaller {self : Conn} {dialer : Dialer} (known : Known call race self dialer)
    (coherent : Coherent call race) (taken : stepCaller call race choice = some next) :
    Known call next self dialer := by
  have leaves := stepCaller_leaves taken
  refine ⟨known.numbered, known.dials, fun born => leaves.launches (known.born born),
    fun open' closed => ?_, ?_⟩
  · rcases leaves.closes self closed with before | gaveUp | ⟨other, takes⟩
    · rcases known.untouched open' before with gaveUp | done
      · exact .inl (leaves.timedOut gaveUp)
      · exact .inr (leaves.once.trans done)
    · exact .inl (leaves.timedOut gaveUp)
    · refine .inr (leaves.once.trans ?_)
      by_contra undecided
      exact coherent.undecided undecided other (.inr takes)
  · have progress := known.progress
    unfold Progress at progress ⊢
    split at progress
    · trivial
    · trivial
    · trivial
    · trivial
    · trivial
    · exact ⟨leaves.pending ▸ progress.1, progress.2⟩
    · exact ⟨leaves.pending ▸ progress.1, progress.2⟩
    · exact ⟨leaves.pending ▸ progress.1, progress.2.1, leaves.sweeps self progress.1 progress.2.2⟩
    · rcases progress with ⟨pending, verified, sweeps, holds⟩
      exact ⟨leaves.pending ▸ pending, verified, leaves.sweeps self pending sweeps,
        leaves.once.trans holds⟩
    · rcases progress with ⟨pending, verified, sweeps, chosen⟩
      exact ⟨leaves.pending ▸ pending, verified, leaves.sweeps self pending sweeps,
        (leaves.chosen self).mpr chosen⟩
    · exact leaves.closed self progress

end Caller

section Dialer

variable {call : Call} {race next : Race} {self : Conn} {dialer moved : Dialer}
  {choice : RaceChoice}

structure DialerStep (own : Conn) (race next : Race) (dialer moved : Dialer) : Prop where
  caller : next.caller = race.caller
  launched : next.launched = race.launched
  expired : next.expired = race.expired
  locked : next.locked = race.locked
  candidate : moved.candidate = dialer.candidate
  open' : dialer.point ≠ .won
  born : dialer.point ≠ .unborn ∨ own < race.launched
  closed : ∀ conn ∈ race.closed, conn ∈ next.closed
  closes : ∀ conn ∈ next.closed, conn ∈ race.closed ∨
    conn = own ∧ dialer.point = .closing ∧ moved.point = .returned
  pending : ∀ conn ∈ race.pending, conn ∈ next.pending
  sends : next.resultCh = race.resultCh ∧ moved.point ≠ .won ∨
    dialer.point = .sending ∧ moved.point = .won ∧ race.resultCh = none ∧
      next.resultCh = some own ∧ next.once = .done
  once : next.once = race.once ∧ dialer.point ≠ .sending ∨
    dialer.point = .entering ∧ race.once = .fresh ∧ next.once = .running own ∧
      moved.point = .sending ∨
    dialer.point = .sending ∧ next.once = .done

theorem stepDialer_leaves (taken : stepDialer call self race dialer choice = some (next, moved)) :
    DialerStep self race next dialer moved := by
  unfold stepDialer at taken
  split at taken
  case h_5 point choice here =>
    split at taken
    · rcases Option.map_eq_some_iff.mp taken with ⟨after, _, same⟩
      cases same
      rcases afterAuth_cases after.2.2 with onwards | onwards | ⟨point, onwards⟩ <;>
        constructor <;> simp_all
    · cases taken
  all_goals (repeat' split at taken)
  all_goals cases taken
  all_goals constructor <;> simp_all [Race.close]

theorem DialerStep.done (leaves : DialerStep self race next dialer moved)
    (decided : race.once = .done) : next.once = .done := by
  rcases leaves.once with ⟨same, _⟩ | ⟨_, fresh, _⟩ | ⟨_, done⟩
  · exact same.trans decided
  · rw [decided] at fresh
    cases fresh
  · exact done

theorem AuthKnown.step {point after : DialPoint} {network sent : Network}
    {challenge heard peerAuth : Option Bytes} {io : Choice} 
    (known : AuthKnown call challenge peerAuth point)
    (taken : stepDial self network call.sessionID call.sessionToken call.role challenge io
      point = some (sent, heard, after)) :
    (∀ point, afterAuth after = .authenticating point →
      AuthKnown call heard (peerAuthOf after peerAuth) point) ∧
    (afterAuth after = .authenticated → Verified call heard (peerAuthOf after peerAuth)) := by
  cases point with
  | setDeadline =>
      cases io <;> cases taken <;> simp [afterAuth, AuthKnown]
  | checkToken =>
      simp only [stepDial] at taken
      split at taken <;> cases taken
      · simp [afterAuth]
      · rename_i token
        simpa [afterAuth, AuthKnown] using token
  | readChallenge =>
      cases io <;> simp only [stepDial] at taken
      · cases taken
      · cases taken
        simp [afterAuth]
      · split at taken <;> cases taken
        simpa [afterAuth, AuthKnown] using known
  | writeAuth =>
      simp only [stepDial] at taken
      split at taken
      · cases taken
      · cases io <;> cases taken
        · simpa [afterAuth, AuthKnown] using known
        · simp [afterAuth]
  | readPeerAuth =>
      cases io <;> simp only [stepDial] at taken
      · cases taken
      · cases taken
        simp [afterAuth]
      · split at taken <;> cases taken
        simpa [afterAuth, AuthKnown, peerAuthOf] using known
  | verify received =>
      rcases known with ⟨token, _, stored⟩
      simp only [stepDial] at taken
      split at taken
      · cases taken
      · rename_i value
        split at taken
        · cases taken
          simp [afterAuth]
        · split at taken <;> cases taken
          · simp [afterAuth]
          · rename_i equal
            have same := Classical.not_not.mp equal
            simp [afterAuth, Verified, peerAuthOf, stored, token, same]
  | returned err => exact known.elim

theorem sweeps_of_running {point : CallerPoint} (running : ¬point.TimedOut)
    (closed : List Conn) (conn : Conn) : point.Sweeps closed conn := by
  cases point <;> simp_all [CallerPoint.TimedOut, CallerPoint.Sweeps]

theorem CallerPoint.Sweeps.mono {point : CallerPoint} {closed later : List Conn} {conn : Conn}
    (sweeps : point.Sweeps closed conn) (grows : ∀ conn ∈ closed, conn ∈ later) :
    point.Sweeps later conn := by
  cases point with
  | closing except rest => exact fun gaveUp => (sweeps gaveUp).imp_left (grows conn)
  | cancelling except => exact fun gaveUp => grows conn (sweeps gaveUp)
  | dialed result => exact fun gaveUp => grows conn (sweeps gaveUp)
  | returned result => exact fun gaveUp => grows conn (sweeps gaveUp)
  | _ => trivial

theorem Progress.own (known : Known call race self dialer) (coherent : Coherent call race)
    (taken : stepDialer call self race dialer choice = some (next, moved)) :
    Progress call next self moved := by
  have progress := known.progress
  unfold Progress at progress
  unfold stepDialer at taken
  split at taken
  case h_5 point io here =>
    rw [here] at progress
    split at taken
    · rcases Option.map_eq_some_iff.mp taken with ⟨after, stepped, same⟩
      cases same
      have knows := progress.2.step stepped
      rcases afterAuth_cases after.2.2 with onwards | onwards | ⟨point, onwards⟩
      · simp [Progress, onwards, progress.1, knows.2 onwards]
      · simp [Progress, onwards]
      · simp [Progress, onwards, progress.1, knows.1 point onwards]
    · cases taken
  case h_6 here =>
    split at taken <;> cases taken
    · trivial
    · rename_i running
      have going : ¬race.caller.TimedOut := fun gaveUp => running (coherent.expired gaveUp)
      simp_all [Progress, sweeps_of_running]
  all_goals (repeat' split at taken)
  all_goals cases taken
  all_goals simp_all [Progress, Race.close, AuthKnown, Race.Chosen]

theorem Known.own (known : Known call race self dialer) (coherent : Coherent call race)
    (taken : stepDialer call self race dialer choice = some (next, moved)) :
    Known call next self moved := by
  have leaves := stepDialer_leaves taken
  refine ⟨known.numbered, leaves.candidate ▸ known.dials, fun _ => ?_, fun open' closed => ?_,
    Progress.own known coherent taken⟩
  · rw [leaves.caller]
    rcases leaves.born with born | launched
    · exact known.born born
    · exact coherent.begun (Nat.lt_of_le_of_lt known.numbered launched)
  · have before : self ∈ race.closed := by
      rcases leaves.closes self closed with before | ⟨_, _, returned⟩
      · exact before
      · exact absurd returned open'
    have point : dialer.point ≠ .returned := by
      intro returned
      unfold stepDialer at taken
      simp [returned] at taken
    rw [leaves.caller]
    rcases known.untouched point before with gaveUp | done
    · exact .inl gaveUp
    · exact .inr (leaves.done done)

theorem Known.other {other : Conn} {bystander : Dialer} (known : Known call race self dialer)
    (theirs : Known call race other bystander) (apart : other ≠ self)
    (taken : stepDialer call self race dialer choice = some (next, moved)) :
    Known call next other bystander := by
  have leaves := stepDialer_leaves taken
  have sweeps (before : race.caller.Sweeps race.closed other) :
      next.caller.Sweeps next.closed other := by
    rw [leaves.caller]
    exact before.mono leaves.closed
  refine ⟨theirs.numbered, theirs.dials, fun born => leaves.caller ▸ theirs.born born,
    fun open' closed => ?_, ?_⟩
  · rw [leaves.caller]
    rcases leaves.closes other closed with before | ⟨same, _⟩
    · exact (theirs.untouched open' before).imp_right leaves.done
    · exact absurd same apart
  · have progress := theirs.progress
    unfold Progress at progress ⊢
    split at progress
    · trivial
    · trivial
    · trivial
    · trivial
    · trivial
    · exact ⟨leaves.pending other progress.1, progress.2⟩
    · exact ⟨leaves.pending other progress.1, progress.2⟩
    · exact ⟨leaves.pending other progress.1, progress.2.1, sweeps progress.2.2⟩
    · rcases progress with ⟨pending, verified, before, holds⟩
      refine ⟨leaves.pending other pending, verified, sweeps before, ?_⟩
      rcases leaves.once with ⟨same, _⟩ | ⟨_, fresh, _⟩ | ⟨sending, _⟩
      · exact same.trans holds
      · rw [holds] at fresh
        cases fresh
      · -- Both would be inside the function of `once`.
        have own := known.progress
        rw [Progress, sending] at own
        rw [own.2.2.2] at holds
        exact absurd (Once.running.inj holds).symm apart
    · rcases progress with ⟨pending, verified, before, chosen⟩
      refine ⟨leaves.pending other pending, verified, sweeps before, ?_⟩
      rcases chosen with waits | takes
      · rcases leaves.sends with ⟨same, _⟩ | ⟨_, _, free, _⟩
        · exact .inl (same.trans waits)
        · rw [waits] at free
          cases free
      · exact .inr (leaves.caller ▸ takes)
    · exact leaves.closed other progress

theorem Coherent.stepDialer (coherent : Coherent call race) (known : Known call race self dialer)
    (unchosen : dialer.point = .closing → ¬race.Chosen self)
    (taken : stepDialer call self race dialer choice = some (next, moved)) :
    Coherent call next := by
  have leaves := stepDialer_leaves taken
  have undecided (sending : dialer.point = .sending) : race.once ≠ .done := by
    have progress := known.progress
    rw [Progress, sending] at progress
    simp [progress.2.2.2]
  have closes (conn : Conn) (chosen : race.Chosen conn) (closed : conn ∈ next.closed) :
      conn ∈ race.closed := by
    rcases leaves.closes conn closed with before | ⟨rfl, closing, _⟩
    · exact before
    · exact absurd chosen (unchosen closing)
  refine ⟨?_, ?_, ?_, ?_, ?_, ?_, ?_, ?_⟩
  · rw [leaves.launched, leaves.caller]
    exact coherent.begun
  · rw [leaves.expired, leaves.caller]
    exact coherent.expired
  · intro open' conn chosen
    rcases leaves.sends with ⟨same, _⟩ | ⟨_, _, _, _, done⟩
    · rw [Race.Chosen, same, leaves.caller] at chosen
      exact coherent.undecided (fun done => open' (leaves.done done)) conn chosen
    · exact open' done
  · intro conn other waits takes
    rw [leaves.caller] at takes
    rcases leaves.sends with ⟨same, _⟩ | ⟨sending, _⟩
    · exact coherent.handed conn other (same.symm.trans waits) takes
    · exact coherent.undecided (undecided sending) other (.inr takes)
  · intro conn waits going closed
    rw [leaves.caller] at going
    rcases leaves.sends with ⟨same, _⟩ | ⟨sending, _, _, sent, _⟩
    · have before := same.symm.trans waits
      exact coherent.waiting conn before going (closes conn (.inl before) closed)
    · cases waits.symm.trans sent
      rcases leaves.closes self closed with before | ⟨_, closing, _⟩
      · rcases known.untouched (by simp [sending]) before with gaveUp | done
        · exact going gaveUp
        · exact undecided sending done
      · rw [sending] at closing
        cases closing
  · intro conn takes spares closed
    rw [leaves.caller] at takes
    rw [Race.spares, leaves.caller] at spares
    exact coherent.kept conn takes spares (closes conn (.inr takes) closed)
  · rw [leaves.caller]
    exact fun conn returned probes => leaves.closed conn (coherent.probed conn returned probes)
  · rw [leaves.locked, leaves.caller]
    exact coherent.guarded

end Dialer

section Outline

variable {call : Call}

theorem Attributed.unsaid {said : Race → Conn → Prop} {point : DialerPoint} {pool : RacePool}
    (attributed : Attributed said point pool) {self : Conn} {dialer : Dialer}
    (present : pool.threads[self]? = some (.dialer dialer)) (elsewhere : dialer.point ≠ point) :
    ¬said pool.shared self := by
  intro chosen
  rcases attributed self chosen with ⟨known, found, there⟩
  rw [present] at found
  cases found
  exact elsewhere there

theorem Attributed.update {said : Race → Conn → Prop} {point : DialerPoint} {pool : RacePool}
    (attributed : Attributed said point pool) {self : Conn} {thread moved : Thread} {next : Race}
    (present : pool.threads[self]? = some thread)
    (becomes : ∀ conn, said next conn →
      said pool.shared conn ∧ (∀ dialer, thread = .dialer dialer → dialer.point ≠ point) ∨
      conn = self ∧ ∃ dialer, moved = .dialer dialer ∧ dialer.point = point) :
    Attributed said point (pool.update self next moved) := by
  intro conn now
  rcases becomes conn now with ⟨before, elsewhere⟩ | ⟨rfl, dialer, rfl, there⟩
  · rcases attributed conn before with ⟨dialer, found, there⟩
    have apart : conn ≠ self := by
      rintro rfl
      rw [present] at found
      cases found
      exact elsewhere dialer rfl there
    exact ⟨dialer, (Pool.update_other pool apart next moved).trans found, there⟩
  · exact ⟨dialer, Pool.update_self present next _, there⟩

theorem Global.stepDialer {pool : RacePool} {self : Conn} {dialer moved : Dialer} {next : Race}
    {choice : RaceChoice} (global : Global call pool)
    (present : pool.threads[self]? = some (.dialer dialer))
    (known : Known call pool.shared self dialer)
    (stepped : stepDialer call self pool.shared dialer choice = some (next, moved)) :
    Global call (pool.update self next (.dialer moved)) := by
  have leaves := stepDialer_leaves stepped
  refine ⟨global.coherent.stepDialer known
    (fun closing => global.winner.unsaid present (by simp [closing])) stepped,
    global.winner.update present fun conn chosen => ?_,
    global.runner.update present fun conn runs => ?_⟩
  · have before (was : pool.shared.Chosen conn) : pool.shared.Chosen conn ∧
        ∀ other, Thread.dialer dialer = .dialer other → other.point ≠ .won := by
      refine ⟨was, fun other same => ?_⟩
      cases same
      exact leaves.open'
    rcases leaves.sends with ⟨same, _⟩ | ⟨_, won, _, sent, _⟩
    · rw [Race.Chosen, same, leaves.caller] at chosen
      exact .inl (before chosen)
    · rw [Race.Chosen, sent, leaves.caller] at chosen
      rcases chosen with sent | takes
      · exact .inr ⟨(Option.some.inj sent).symm, moved, rfl, won⟩
      · exact .inl (before (.inr takes))
  · rcases leaves.once with ⟨same, elsewhere⟩ | ⟨_, _, now, sending⟩ | ⟨_, done⟩
    · refine .inl ⟨same.symm.trans runs, fun other same => ?_⟩
      cases same
      exact elsewhere
    · rw [Race.Runs, now] at runs
      exact .inr ⟨(Once.running.inj runs).symm, moved, rfl, sending⟩
    · rw [Race.Runs, done] at runs
      cases runs

theorem outline_valid : (outline call).Valid (program call) Machine.Unrestricted where
  started _ _ _ enters _ := by cases enters
  undisturbedByStart _ _ _ _ _ enters _ _ := by cases enters
  sequential pool self thread choice shared next holds present _ taken := by
    have known := holds.thread self thread present
    rcases holds.global with ⟨coherent, winner, runner⟩
    cases thread with
    | caller =>
        rcases Option.map_eq_some_iff.mp taken with ⟨after, stepped, same⟩
        cases same
        have leaves := stepCaller_leaves stepped
        exact ⟨⟨coherent.stepCaller stepped,
          winner.update present fun conn chosen =>
            .inl ⟨(leaves.chosen conn).mp chosen, fun _ same => by cases same⟩,
          runner.update present fun conn runs =>
            .inl ⟨leaves.once.symm.trans runs, fun _ same => by cases same⟩⟩, trivial⟩
    | clock =>
        cases taken
        exact ⟨⟨⟨coherent.begun, fun _ => rfl, coherent.undecided, coherent.handed,
          coherent.waiting, coherent.kept, coherent.probed, coherent.guarded⟩,
          winner.update present fun conn chosen => .inl ⟨chosen, fun _ same => by cases same⟩,
          runner.update present fun conn runs => .inl ⟨runs, fun _ same => by cases same⟩⟩,
          trivial⟩
    | dialer dialer =>
        rcases Option.map_eq_some_iff.mp taken with ⟨⟨after, moved⟩, stepped, same⟩
        cases same
        exact ⟨holds.global.stepDialer present known stepped, known.own coherent stepped⟩
  interferenceFree pool self thread choice shared next other bystander holds present _ taken apart
      found := by
    have theirs := holds.thread other bystander found
    cases bystander with
    | caller => trivial
    | clock => trivial
    | dialer bystander =>
        cases thread with
        | caller =>
            rcases Option.map_eq_some_iff.mp taken with ⟨after, stepped, same⟩
            cases same
            exact theirs.stepCaller holds.global.coherent stepped
        | clock =>
            cases taken
            exact ⟨theirs.numbered, theirs.dials, theirs.born, theirs.untouched, theirs.progress⟩
        | dialer dialer =>
            rcases Option.map_eq_some_iff.mp taken with ⟨⟨after, moved⟩, stepped, same⟩
            cases same
            exact (holds.thread self _ present).other theirs apart stepped

theorem initial_dialer {call : Call} {self : Nat} {dialer : Dialer}
    (present : (initialPool call).threads[self]? = some (.dialer dialer)) :
    2 ≤ self ∧ ∃ cand ∈ call.tcpCandidates, dialer = .unborn cand := by
  rcases self with _ | _ | self
  · cases present
  · cases present
  · simp only [initialPool, List.getElem?_cons_succ, List.getElem?_map,
      Option.map_eq_some_iff] at present
    rcases present with ⟨cand, found, same⟩
    cases same
    exact ⟨by omega, cand, List.mem_of_getElem? found, rfl⟩

theorem outline_initial : (outline call).Holds (initialPool call) := by
  have unchosen (conn : Conn) : ¬Race.initial.Chosen conn := by
    rintro (waits | takes)
    · cases waits
    · exact takes
  refine ⟨⟨⟨?_, fun gaveUp => gaveUp.elim, fun _ => unchosen, ?_, ?_, fun _ takes => takes.elim,
    ?_, ?_⟩, fun conn chosen => absurd chosen (unchosen conn), ?_⟩, fun self thread present => ?_⟩
  · exact fun more => absurd more (Nat.lt_irrefl 2)
  · rintro _ _ ⟨⟩
  · rintro _ ⟨⟩
  · rintro _ ⟨⟩
  · rintro ⟨⟩
  · rintro _ ⟨⟩
  · cases thread with
    | caller => trivial
    | clock => trivial
    | dialer dialer =>
        rcases initial_dialer present with ⟨numbered, cand, dials, rfl⟩
        exact ⟨numbered, dials, fun born => absurd rfl born, fun _ closed =>
          absurd closed List.not_mem_nil, trivial⟩

/-! ## What the call returns -/

variable {pool : RacePool} {result : Except DialError Conn}

theorem takes_of_returned {conn : Conn} (returned : pool.shared.caller = .returned (.ok conn)) :
    pool.shared.caller.Takes conn := by
  rw [returned]
  rfl

theorem Known.settled {self : Conn} {dialer : Dialer} (known : Known call pool.shared self dialer)
    (coherent : Coherent call pool.shared) (returned : pool.shared.caller = .returned result)
    (settled : dialer.point = .won ∨ dialer.point = .returned) (spared : result ≠ .ok self) :
    self ∈ pool.shared.closed := by
  have progress := known.progress
  rcases settled with won | finished
  · have launches := known.born (by simp [won])
    rw [Progress, won] at progress
    rcases progress with ⟨_, _, sweeps, chosen⟩
    rw [returned] at sweeps launches
    cases result with
    | error err =>
        cases err with
        | tcpAuthFailed => exact absurd rfl launches.1
        | noCandidates => exact absurd rfl launches.2
        | tcpPunchTimeout => exact sweeps rfl
    | ok conn =>
        rcases chosen with waits | also
        · exact absurd (takes_of_returned returned) (coherent.handed self conn waits)
        · rw [returned] at also
          exact absurd also spared
  · rw [Progress, finished] at progress
    exact progress

theorem Coherent.returned_closed {conn : Conn} (coherent : Coherent call pool.shared)
    (returned : pool.shared.caller = .returned (.ok conn)) :
    conn ∈ pool.shared.closed ↔ call.probes = true := by
  refine ⟨fun closed => ?_, coherent.probed conn returned⟩
  cases probes : call.probes with
  | true => rfl
  | false =>
      have spares : pool.shared.spares call = true := by simp [Race.spares, returned, probes]
      exact absurd closed (coherent.kept conn (takes_of_returned returned) spares)

/-- A connection that `PunchTCP` returns has answered this end's session and is open, a
connection that any other goroutine ended with is closed, and so is every connection when
there is an error or when this is `ProbeTCP`. -/
theorem only_winner_stays_open {events : List (PoolEvent Thread RaceChoice)}
    (run : (program call).machine.Run Machine.Unrestricted (initialPool call) events pool)
    (returned : pool.shared.caller = .returned result) :
    (∀ conn, result = .ok conn → ∃ dialer, pool.threads[conn]? = some (.dialer dialer) ∧
      dialer.candidate ∈ call.candidates ∧ dialer.candidate.protocol = protocolTCP ∧
      Verified call dialer.challenge dialer.peerAuth ∧
      (conn ∈ pool.shared.closed ↔ call.probes = true)) ∧
    ∀ other dialer, pool.threads[other]? = some (.dialer dialer) →
      dialer.point = .won ∨ dialer.point = .returned → result ≠ .ok other →
      other ∈ pool.shared.closed := by
  have holds := outline_valid.run outline_initial run
  have coherent := holds.global.coherent
  refine ⟨fun conn same => ?_, fun other dialer present settled spared =>
    Known.settled (holds.thread other _ present) coherent returned settled spared⟩
  subst same
  rcases holds.global.winner conn (.inr (takes_of_returned returned)) with ⟨dialer, present, won⟩
  have known : Known call pool.shared conn dialer := holds.thread conn _ present
  have progress := known.progress
  rw [Progress, won] at progress
  have listed := List.mem_filter.mp (call.sorts.mem_iff.mp known.dials)
  exact ⟨dialer, present, listed.1, by simpa using listed.2, progress.2.1,
    coherent.returned_closed returned⟩

end Outline

def twoCandidates : List CandidateInfo :=
  [⟨protocolTCP, [], [1], 5⟩, ⟨protocolTCP, [], [2], 4⟩]

def twoDials : Call where
  candidates := twoCandidates
  sessionID := 7
  sessionToken := [1, 2, 3]
  probes := false
  tcpCandidates := twoCandidates
  sorts := .refl _
  descends := by simp [twoCandidates]

/-- Both connect, the second peer answers, and the first one comes too late. -/
def oneAnswers : List (PoolEvent Thread RaceChoice) :=
  let connects : List RaceChoice := [.proceed, .io .proceed, .proceed, .io .proceed, .io .proceed]
  let challenge := List.replicate 16 8
  -- The tag of this session for the challenge.
  let answer := [0, 0, 0, 0, 0, 0, 0, 7, 233, 153, 139, 11, 198, 32, 6, 178, 219, 253, 46, 29, 138,
    197, 10, 166]
  List.replicate 5 (.advance 0 .proceed) ++ connects.map (.advance 2) ++
    connects.map (.advance 3) ++
    ([.io (.bytes challenge), .io .proceed, .io (.bytes answer), .io .proceed, .proceed, .proceed,
      .proceed] : List RaceChoice).map (.advance 3) ++
    .advance 0 .result :: List.replicate 6 (.advance 0 .proceed) ++
    [.advance 2 (.io .fail), .advance 2 .proceed]

def latecomer : Dialer where
  candidate := ⟨protocolTCP, [], [1], 5⟩
  point := .returned
  challenge := none
  peerAuth := none

theorem only_winner_stays_open_oneAnswers :
    ∃ pool, (program twoDials).machine.Run Machine.Unrestricted (initialPool twoDials) oneAnswers
        pool ∧ 3 ∉ pool.shared.closed ∧ 2 ∈ pool.shared.closed := by
  rcases Machine.exists_run (program twoDials).machine Machine.Unrestricted
      (fun pool => pool.shared.caller = .returned (.ok 3) ∧
        pool.threads[2]? = some (.dialer latecomer))
      (initialPool twoDials) oneAnswers (by decide +kernel) with ⟨pool, run, returned, finished⟩
  have winner := only_winner_stays_open run returned
  rcases winner.1 3 rfl with ⟨_, _, _, _, _, closed⟩
  refine ⟨pool, run, fun inside => ?_, winner.2 2 latecomer finished (.inr rfl) (by simp)⟩
  cases closed.mp inside

end Rdpulse.Punch.TCPRace
