import Rdpulse.Agent.CandidateRefresh
import Rdpulse.Signaling.Steps

namespace Rdpulse.Agent.CandidateRefresh

open Foundation Protocol
open Signaling (Netip SessionCoordinator ActiveSession ConnectPoint validateCandidates)

/-! What the controllers know of the agent's addresses. -/

/-- A discovered set, which the coordinator does not reject. -/
def Discovered (netip : Netip) (candidates : List CandidateInfo) : Prop :=
  (candidates.all fun candidate => candidate.type = Signaling.candidateLAN) = true ∧
    (validateCandidates netip candidates).isOk = true

instance (netip : Netip) (candidates : List CandidateInfo) :
    Decidable (Discovered netip candidates) :=
  inferInstanceAs (Decidable (_ ∧ _))

/-- The LAN candidates of a list are these, in the coordinator's spelling. -/
def sameSet (netip : Netip) (candidates others : List CandidateInfo) : Bool :=
  match validateCandidates netip candidates with
  | .error _ => false
  | .ok valid =>
      let lan := filterLANCandidates others
      (lan.all fun candidate => candidate ∈ valid) && valid.all fun candidate => candidate ∈ lan

def shows (netip : Netip) (candidates : List CandidateInfo) (message : ControlMessage) : Bool :=
  sameSet netip candidates message.candidates

def isResponse (sessionID : UInt32) (message : ControlMessage) : Bool :=
  message.type = .connectResponse && message.sessionID = sessionID

namespace State

variable (state : State)

def received (tr : Nat) : List ControlMessage :=
  (state.given.filter fun entry => entry.1 = tr).map Prod.snd

/-- The controller has been given the current candidates for this session, in its
CONNECT_RESPONSE or later. -/
def told (netip : Netip) (tr : Nat) (sessionID : UInt32) : Bool :=
  ((state.received tr).dropWhile fun message => !isResponse sessionID message).any fun message =>
    message.sessionID = sessionID && shows netip state.previous message

def updates (sessionID : UInt32) (session : ActiveSession) (message : ControlMessage) : Bool :=
  message.sessionID = sessionID && message.targetDeviceID = session.controllerID &&
    message.candidates = state.previous

end State

def towards (netip : Netip) (candidates : List CandidateInfo) (session : ActiveSession) :
    Signaling.ForwardPoint → Bool
  | .start => true
  | .lookup valid => (validateCandidates netip candidates).toOption = some valid
  | .authorize valid authorizes one =>
      (validateCandidates netip candidates).toOption = some valid && authorizes && one = session
  | .write valid one =>
      (validateCandidates netip candidates).toOption = some valid && one = session
  | .returned _ => false

def Party.remaining : Party → List (UInt32 × GoString)
  | .refresh (.pushing routes) => routes
  | _ => []

def Party.forwards (netip : Netip) (state : State) (sessionID : UInt32)
    (session : ActiveSession) : Party → Bool
  | .controlLoop (.forward message point) =>
      state.updates sessionID session message && towards netip state.previous session point
  | _ => false

def pending (netip : Netip) (pool : RefreshPool) (sessionID : UInt32) (session : ActiveSession) :
    Bool :=
  session.controllerID ≠ pool.shared.deviceID &&
    ((pool.threads[2]?.any fun party => (sessionID, session.controllerID) ∈ party.remaining) ||
      (pool.shared.toRelay.any fun message => pool.shared.updates sessionID session message) ||
      pool.threads[0]?.any fun party => party.forwards netip pool.shared sessionID session)

/-- A session of this agent whose controller has its CONNECT_RESPONSE. -/
def live (pool : RefreshPool) (sessionID : UInt32) (session : ActiveSession) : Bool :=
  session.targetWriter = some agentWriter &&
    match session.controllerWriter.bind fun tr => pool.threads[tr]? with
    | some (.controller _ _ _ (.serving one)) => one = sessionID
    | _ => false

/-- The loop waits for its next tick, and all its messages have been forwarded. -/
def AtRest (pool : RefreshPool) : Prop :=
  pool.threads[2]? = some (.refresh .waiting) ∧ pool.shared.toRelay = [] ∧
    pool.threads[0]? = some (.controlLoop .reading)

/-- Every live session of the agent has the candidates that the loop holds. -/
def Current (netip : Netip) (pool : RefreshPool) : Prop :=
  ∀ (tr : Nat) (sessionID : UInt32) (session : ActiveSession),
    pool.shared.coordinator.sessions.lookup sessionID = some session →
    session.controllerWriter = some tr → live pool sessionID session = true →
    pool.shared.told netip tr sessionID = true

/-- No discovered set is rejected, and no message of the loop is lost or refused. -/
def Forwarded (netip : Netip) (pool : RefreshPool) : PoolEvent Party Choice → Prop
  | .spawn _ => True
  | .advance self choice =>
      match pool.threads[self]? with
      | some (.refresh .waiting) => ∀ candidates, choice = .discovered (some candidates) →
          Discovered netip candidates
      | some (.refresh (.pushing (_ :: _))) => choice = .signal .written
      | some (.controlLoop .reading) => choice = .signal (.authorized true)
      | some (.controlLoop (.forward _ (.authorize _ _ _))) => choice = .signal (.authorized true)
      | some (.controlLoop (.forward _ (.write _ _))) => choice = .signal .written
      | _ => True

def lookedUp : ConnectPoint → Bool
  | .authorize _ _ _ | .number _ _ | .draw _ _ _ | .insert _ _ _ _ | .notify _ _ _ _ => true
  | _ => false

/-- A controller asks for this device, has looked it up, and has no CONNECT_RESPONSE
yet. -/
def Party.connecting (deviceID : GoString) : Party → Bool
  | .controller _ req _ (.connect point) => req.targetDeviceID = deviceID && lookedUp point
  | .controller _ req _ (.respond _) => req.targetDeviceID = deviceID
  | _ => false

/-- No CONNECT_REQUEST looks the agent up while the loop holds another set than the
agent has registered. When the loop reads its routes, no request for the agent is under
way, and every live session is in the agent's registry, with another device. -/
def ChangesApart (netip : Netip) (pool : RefreshPool) : PoolEvent Party Choice → Prop
  | .spawn _ => True
  | .advance self _ =>
      match pool.threads[self]? with
      | some (.refresh .routes) =>
          (∀ party ∈ pool.threads, party.connecting pool.shared.deviceID = false) ∧
          ∀ entry ∈ pool.shared.coordinator.sessions.entries, live pool entry.1 entry.2 = true →
            pool.shared.p2pSessions.lookup entry.1 = some entry.2.controllerID ∧
              entry.2.controllerID ≠ pool.shared.deviceID
      | some (.controller _ req _ (.connect (.lookup _))) =>
          ∀ peer ∈ pool.shared.coordinator.peers.lookup req.targetDeviceID,
            peer.writer = some agentWriter →
            sameSet netip pool.shared.previous peer.candidates = true
      | _ => True

instance (holds : List CandidateInfo → Prop) [DecidablePred holds] (choice : Choice) :
    Decidable (∀ candidates, choice = .discovered (some candidates) → holds candidates) :=
  match choice with
  | .discovered (some candidates) =>
      decidable_of_iff (holds candidates)
        ⟨fun held _ same => by cases same; exact held, fun all => all candidates rfl⟩
  | .discovered none | .proceed | .visit _ | .signal _ => .isTrue fun _ same => by cases same

instance (netip : Netip) (pool : RefreshPool) (event : PoolEvent Party Choice) :
    Decidable (Forwarded netip pool event) := by
  unfold Forwarded
  split
  · infer_instance
  · split <;> infer_instance

instance (netip : Netip) (pool : RefreshPool) (event : PoolEvent Party Choice) :
    Decidable (ChangesApart netip pool event) := by
  unfold ChangesApart
  split
  · infer_instance
  · split <;> infer_instance

/-! ## Frames -/

section Frames

variable {netip : Netip} {state moved : State} {choice : Choice} {self : Nat}

structure Quiet (state moved : State) : Prop where
  deviceID : moved.deviceID = state.deviceID
  previous : moved.previous = state.previous
  toRelay : moved.toRelay = state.toRelay
  given : ∃ extra, moved.given = state.given ++ extra

theorem Quiet.refl (state : State) : Quiet state state := ⟨rfl, rfl, rfl, [], by simp⟩

theorem deliver_quiet (state : State) (sent : Option Signaling.Sent) :
    Quiet state (state.deliver sent) := by
  unfold State.deliver
  split
  · exact .refl state
  · split
    · exact .refl state
    · split
      · exact ⟨rfl, rfl, rfl, [], by simp⟩
      · exact ⟨rfl, rfl, rfl, _, rfl⟩

@[simp] theorem deliver_coordinator (state : State) (sent : Option Signaling.Sent) :
    (state.deliver sent).coordinator = state.coordinator := by
  unfold State.deliver
  repeat' split
  all_goals rfl

theorem after_quiet {Point : Type} (state : State) (step : Signaling.CallStep Point) :
    Quiet state (state.after step) := by
  rcases deliver_quiet { state with coordinator := step.coordinator } step.sent with
    ⟨deviceID, previous, toRelay, given⟩
  exact ⟨deviceID, previous, toRelay, given⟩

@[simp] theorem after_coordinator {Point : Type} (state : State)
    (step : Signaling.CallStep Point) : (state.after step).coordinator = step.coordinator := by
  simp [State.after]

theorem controllerStep_quiet {deviceID publicHost : GoString} {req : ControlMessage}
    {point next : ControllerPoint}
    (taken : controllerStep netip self state deviceID req publicHost choice point =
      some (moved, next)) : Quiet state moved := by
  cases point with
  | connect point =>
      simp only [controllerStep] at taken
      split at taken
      · rcases Option.map_eq_some_iff.mp taken with ⟨step, _, equal⟩
        cases equal
        exact after_quiet state step
      · cases taken
  | respond resp =>
      simp only [controllerStep] at taken
      split at taken
      · rcases Option.map_eq_some_iff.mp taken with ⟨⟨sent, delivered⟩, _, equal⟩
        cases equal
        exact deliver_quiet state sent
      · cases taken
  | serving sessionID =>
      simp only [controllerStep] at taken
      split at taken <;> cases taken
      exact .refl _
  | closing sessionID point =>
      cases point with
      | returned =>
          cases taken
          exact .refl _
      | lock | notify =>
          simp only [controllerStep] at taken
          split at taken
          · rcases Option.map_eq_some_iff.mp taken with ⟨step, _, equal⟩
            cases equal
            exact after_quiet state step
          · cases taken
  | finished => cases taken

theorem step_quiet {party next : Party}
    (taken : step netip self state party choice = some (moved, next))
    (loop : ∀ point, party ≠ .controlLoop point) (refresh : ∀ point, party ≠ .refresh point) :
    Quiet state moved := by
  cases party with
  | controlLoop point => exact absurd rfl (loop point)
  | refresh point => exact absurd rfl (refresh point)
  | messageReader =>
      simp only [step, Option.map_eq_some_iff] at taken
      rcases taken with ⟨read, taken, equal⟩
      cases equal
      unfold readerStep at taken
      repeat' split at taken
      all_goals cases taken
      all_goals exact ⟨rfl, rfl, rfl, [], by simp⟩
  | controller deviceID req publicHost point =>
      simp only [step, Option.map_eq_some_iff] at taken
      rcases taken with ⟨⟨_, _⟩, taken, equal⟩
      cases equal
      exact controllerStep_quiet taken
  | registerPeer deviceID hostname candidates publicPort returned =>
      simp only [step] at taken
      split at taken <;> cases taken
      exact ⟨rfl, rfl, rfl, [], by simp⟩
  | unregisterPeer deviceID writer point =>
      simp only [step] at taken
      split at taken
      · rcases Option.map_eq_some_iff.mp taken with ⟨made, _, equal⟩
        cases equal
        exact after_quiet state made
      · cases taken

theorem refreshStep_cases {point next : RefreshPoint}
    (taken : refreshStep state choice point = some (moved, next)) :
    (point = .waiting ∧ next = .waiting ∧ moved = state) ∨
    (point = .waiting ∧ next = .routes ∧ ∃ candidates,
      choice = .discovered (some candidates) ∧ moved = { state with previous := candidates }) ∨
    (point = .routes ∧ moved = state ∧ ∃ routes, next = .pushing routes ∧
      routes.Perm (state.p2pSessions.entries.map fun entry => (entry.1, entry.2))) ∨
    (point = .pushing [] ∧ next = .waiting ∧ moved = state) ∨
    ∃ route rest, point = .pushing (route :: rest) ∧ next = .pushing rest ∧
      (choice = .signal .written ∧ moved =
        { state with toRelay := state.toRelay ++ [candidateUpdate state route] } ∨
      choice = .signal .fail ∧ moved = state) := by
  cases point with
  | waiting =>
      simp only [refreshStep] at taken
      split at taken
      · cases taken
        exact .inl ⟨rfl, rfl, rfl⟩
      · split at taken <;> cases taken
        · exact .inl ⟨rfl, rfl, rfl⟩
        · exact .inr (.inl ⟨rfl, rfl, _, rfl, rfl⟩)
      · cases taken
  | routes =>
      simp only [refreshStep] at taken
      split at taken
      · split at taken
        · rename_i routes visited
          cases taken
          exact .inr (.inr (.inl ⟨rfl, rfl, routes, rfl, List.isPerm_iff.mp visited⟩))
        · cases taken
      · cases taken
  | pushing routes =>
      cases routes with
      | nil =>
          cases taken
          exact .inr (.inr (.inr (.inl ⟨rfl, rfl, rfl⟩)))
      | cons route rest =>
          simp only [refreshStep] at taken
          split at taken <;> cases taken
          · exact .inr (.inr (.inr (.inr ⟨route, rest, rfl, rfl, .inl ⟨rfl, rfl⟩⟩)))
          · exact .inr (.inr (.inr (.inr ⟨route, rest, rfl, rfl, .inr ⟨rfl, rfl⟩⟩)))

theorem loopStep_cases {point next : LoopPoint}
    (taken : loopStep netip state choice point = some (moved, next)) :
    (point = .reading ∧ ∃ message rest answer, state.toRelay = message :: rest ∧
      choice = .signal (.authorized answer) ∧ moved = { state with toRelay := rest } ∧
      next = if answer then .forward message .start else .reading) ∨
    (∃ message result, point = .forward message (.returned result) ∧ next = .reading ∧
      moved = state) ∨
    ∃ message at_ signal made, point = .forward message at_ ∧ choice = .signal signal ∧
      Signaling.planForwardCandidateExchange netip state.coordinator message.sessionID
        state.deviceID message.targetDeviceID message.candidates signal at_ = some made ∧
      moved = state.after made ∧ next = .forward message made.next := by
  cases point with
  | reading =>
      simp only [loopStep] at taken
      split at taken
      · rename_i message rest answer same
        cases taken
        exact .inl ⟨rfl, message, rest, answer, same, rfl, rfl, rfl⟩
      · cases taken
  | forward message at_ =>
      cases at_ with
      | returned result =>
          cases taken
          exact .inr (.inl ⟨message, result, rfl, rfl, rfl⟩)
      | start | lookup | authorize | write =>
          simp only [loopStep] at taken
          split at taken
          · rcases Option.map_eq_some_iff.mp taken with ⟨made, planned, equal⟩
            cases equal
            exact .inr (.inr ⟨message, _, _, made, rfl, rfl, planned, rfl, rfl⟩)
          · cases taken

theorem step_given {party next : Party}
    (taken : step netip self state party choice = some (moved, next)) :
    moved.deviceID = state.deviceID ∧ ∃ extra, moved.given = state.given ++ extra := by
  cases party with
  | controlLoop point =>
      simp only [step, Option.map_eq_some_iff] at taken
      rcases taken with ⟨⟨_, _⟩, taken, equal⟩
      cases equal
      rcases loopStep_cases taken with ⟨_, message, rest, answer, _, _, rfl, _⟩ |
        ⟨_, _, _, _, rfl⟩ | ⟨message, at_, signal, made, _, _, _, rfl, _⟩
      · exact ⟨rfl, [], by simp⟩
      · exact ⟨rfl, [], by simp⟩
      · exact ⟨(after_quiet state made).deviceID, (after_quiet state made).given⟩
  | refresh point =>
      simp only [step, Option.map_eq_some_iff] at taken
      rcases taken with ⟨⟨_, _⟩, taken, equal⟩
      cases equal
      rcases refreshStep_cases taken with ⟨_, _, rfl⟩ | ⟨_, _, _, _, rfl⟩ | ⟨_, rfl, _⟩ |
        ⟨_, _, rfl⟩ | ⟨route, rest, _, _, ⟨_, rfl⟩ | ⟨_, rfl⟩⟩
      all_goals exact ⟨rfl, [], by simp⟩
  | messageReader | controller | registerPeer | unregisterPeer =>
      have quiet := step_quiet taken (fun _ same => by cases same) (fun _ same => by cases same)
      exact ⟨quiet.deviceID, quiet.given⟩

end Frames

/-! ## What the parties know -/

section Known

open Signaling (ConnectAssertion)

variable {netip : Netip} {state moved : State} {choice : Choice} {self : Nat}
  {deviceID : GoString}

structure CoordinatorKnown (deviceID : GoString) (c : SessionCoordinator) : Prop where
  authorizes : c.authorizes = true
  peers : ∀ name peer, c.peers.lookup name = some peer → peer.writer = some agentWriter →
    name = deviceID
  sessions : ∀ sessionID session, c.sessions.lookup sessionID = some session →
    session.controllerID ≠ [] ∧
      (session.targetWriter = some agentWriter → session.targetID = deviceID)

def Targeted (deviceID : GoString) (req : ControlMessage) (point : ConnectPoint) : Prop :=
  ConnectAssertion
    (fun target => target.writer = some agentWriter → req.targetDeviceID = deviceID)
    (fun _ _ => True) point

def ControllerKnown (self : Nat) (state : State) (req : ControlMessage) :
    ControllerPoint → Prop
  | .connect point => Targeted state.deviceID req point
  | .respond resp => resp.type = .connectResponse
  | .serving sessionID => ∃ message ∈ state.received self, isResponse sessionID message = true
  | _ => True

def PartyKnown (self : Nat) (pool : RefreshPool) : Party → Prop
  | .controlLoop _ => self = 0
  | .messageReader => self = 1
  | .refresh _ => self = 2
  | .controller deviceID req _ point =>
      2 < self ∧ deviceID ≠ [] ∧ ControllerKnown self pool.shared req point
  | .registerPeer _ _ _ _ _ | .unregisterPeer _ _ _ => 2 < self

def knownOutline (netip : Netip) : Program.Outline State Party where
  global pool :=
    2 < pool.threads.length ∧ Discovered netip pool.shared.previous ∧
      CoordinatorKnown pool.shared.deviceID pool.shared.coordinator
  assertion := PartyKnown

theorem received_append {extra : List (Nat × ControlMessage)}
    (given : moved.given = state.given ++ extra) (tr : Nat) :
    moved.received tr = state.received tr ++
      (extra.filter fun entry => entry.1 = tr).map Prod.snd := by
  simp [State.received, given]

theorem ControllerKnown.keep {req : ControlMessage} {point : ControllerPoint}
    (known : ControllerKnown self state req point) (same : moved.deviceID = state.deviceID)
    (given : ∃ extra, moved.given = state.given ++ extra) :
    ControllerKnown self moved req point := by
  cases point with
  | connect point =>
      change Targeted moved.deviceID req point
      rw [same]
      exact known
  | serving sessionID =>
      rcases known with ⟨message, member, responds⟩
      rcases given with ⟨extra, given⟩
      refine ⟨message, ?_, responds⟩
      rw [received_append given]
      exact List.mem_append_left _ member
  | respond => exact known
  | closing | finished => trivial

theorem CoordinatorKnown.of {c later : SessionCoordinator} (known : CoordinatorKnown deviceID c)
    (authorizes : later.authorizes = c.authorizes)
    (peers : ∀ name peer, later.peers.lookup name = some peer →
      c.peers.lookup name = some peer ∨ (peer.writer = some agentWriter → name = deviceID))
    (sessions : ∀ sessionID session, later.sessions.lookup sessionID = some session →
      c.sessions.lookup sessionID = some session ∨
        session.controllerID ≠ [] ∧
          (session.targetWriter = some agentWriter → session.targetID = deviceID)) :
    CoordinatorKnown deviceID later := by
  refine ⟨authorizes.trans known.authorizes, fun name peer found => ?_,
    fun sessionID session found => ?_⟩
  · rcases peers name peer found with before | named
    · exact known.peers name peer before
    · exact named
  · rcases sessions sessionID session found with before | named
    · exact known.sessions sessionID session before
    · exact named

theorem connect_step {publicHost : GoString} {req : ControlMessage} {point : ConnectPoint}
    {signal : Signaling.Choice} {made : Signaling.CallStep ConnectPoint}
    {c : SessionCoordinator} {name : GoString} (known : CoordinatorKnown deviceID c)
    (targeted : Targeted deviceID req point)
    (planned : Signaling.planHandleConnectRequest netip c
      (connectRequest self name req publicHost) signal point = some made) :
    Signaling.ConnectStep c (connectRequest self name req publicHost)
      (fun target => target.writer = some agentWriter → req.targetDeviceID = deviceID)
      (fun _ _ => True) point made := by
  refine Signaling.planHandleConnectRequest_step planned targeted (fun peer found writes => ?_)
    fun _ _ _ _ => trivial
  exact known.peers req.targetDeviceID peer found writes

theorem registerPeer_known {c : SessionCoordinator} (known : CoordinatorKnown deviceID c)
    {name hostname : GoString} {writer : Signaling.Writer} {candidates : List CandidateInfo}
    {publicPort : UInt16} (other : writer = some agentWriter → name = deviceID) :
    CoordinatorKnown deviceID
      (Signaling.registerPeer netip c name hostname writer candidates publicPort) := by
  refine known.of rfl (fun one peer found => ?_) fun _ _ found => .inl found
  simp only [Signaling.registerPeer, SessionCoordinator.setPeer] at found
  by_cases same : one = name
  · subst same
    rw [AList.lookup_insert, Option.some.injEq] at found
    rw [← found]
    exact .inr other
  · rw [AList.lookup_insert_ne same] at found
    exact .inl found

theorem dropPeer_lookup {c : SessionCoordinator} {name one : GoString}
    {writer : Signaling.Writer} {peer : Signaling.ActivePeer}
    (found : (c.dropPeer name writer).peers.lookup one = some peer) :
    c.peers.lookup one = some peer := by
  unfold SessionCoordinator.dropPeer at found
  split at found
  · split at found
    · by_cases same : one = name
      · subst same
        simp at found
      · rwa [AList.lookup_erase_ne same] at found
    · exact found
  · exact found

theorem controller_known {pool : RefreshPool} {publicHost name : GoString} {req : ControlMessage}
    {point next : ControllerPoint} (big : 2 < self) (named : name ≠ [])
    (coordinator : CoordinatorKnown pool.shared.deviceID pool.shared.coordinator)
    (known : ControllerKnown self pool.shared req point)
    (taken : controllerStep netip self pool.shared name req publicHost choice point =
      some (moved, next)) :
    CoordinatorKnown pool.shared.deviceID moved.coordinator ∧
      ControllerKnown self moved req next := by
  cases point with
  | connect point =>
      simp only [controllerStep] at taken
      split at taken
      · rcases Option.map_eq_some_iff.mp taken with ⟨made, planned, equal⟩
        cases equal
        have step := connect_step coordinator known planned
        refine ⟨?_, ?_⟩
        · rw [after_coordinator]
          refine coordinator.of (Signaling.planHandleConnectRequest_authorizes planned)
            (fun _ _ found => .inl (step.peers ▸ found)) fun sessionID session found => ?_
          rcases step.sessions sessionID session found with before | ⟨target, targets, rfl⟩
          · exact .inl before
          · exact .inr ⟨named, targets⟩
        · have after := step.known
          have same := (after_quiet pool.shared made).deviceID
          cases reached : made.next with
          | returned result =>
              cases result with
              | error => trivial
              | ok resp =>
                  change ControllerKnown self (pool.shared.after made) req
                    (if resp.type = .error then .finished else .respond resp)
                  split
                  · trivial
                  · rename_i accepted
                    exact (step.answer resp reached).resolve_left accepted
          | _ =>
              rw [reached] at after
              change Targeted (pool.shared.after made).deviceID req _
              rw [same]
              exact after
      · cases taken
  | respond resp =>
      simp only [controllerStep] at taken
      split at taken
      · rcases Option.map_eq_some_iff.mp taken with ⟨⟨sent, delivered⟩, written, equal⟩
        cases equal
        rw [deliver_coordinator]
        refine ⟨coordinator, ?_⟩
        cases delivered with
        | false => trivial
        | true =>
            have wrote : sent = some ⟨self, resp, true⟩ := by
              rename_i signal
              cases signal <;> cases written
              rfl
            have other : self ≠ agentWriter := by simp only [agentWriter]; omega
            subst wrote
            refine ⟨resp, ?_, ?_⟩
            · simp [State.deliver, other, State.received]
            · simp [isResponse, show resp.type = .connectResponse from known]
      · cases taken
  | serving sessionID =>
      simp only [controllerStep] at taken
      split at taken <;> cases taken
      exact ⟨coordinator, trivial⟩
  | closing sessionID point =>
      cases point with
      | returned =>
          cases taken
          exact ⟨coordinator, trivial⟩
      | lock | notify =>
          simp only [controllerStep] at taken
          split at taken
          · rcases Option.map_eq_some_iff.mp taken with ⟨made, planned, equal⟩
            cases equal
            refine ⟨?_, trivial⟩
            rw [after_coordinator]
            exact coordinator.of (Signaling.planCloseSession_authorizes planned)
              (fun _ _ found => .inl (Signaling.planCloseSession_peers planned ▸ found))
              fun sessionID session found =>
                .inl (Signaling.planCloseSession_subset planned sessionID session found)
          · cases taken
  | finished => cases taken

theorem refresh_known {pool : RefreshPool} {point next : RefreshPoint}
    (discovered : Discovered netip pool.shared.previous)
    (coordinator : CoordinatorKnown pool.shared.deviceID pool.shared.coordinator)
    (present : pool.threads[self]? = some (.refresh point))
    (permitted : Forwarded netip pool (.advance self choice))
    (taken : refreshStep pool.shared choice point = some (moved, next)) :
    Discovered netip moved.previous ∧ CoordinatorKnown pool.shared.deviceID moved.coordinator := by
  rcases refreshStep_cases taken with ⟨_, _, rfl⟩ | ⟨rfl, _, candidates, chosen, rfl⟩ |
    ⟨_, rfl, _⟩ | ⟨_, _, rfl⟩ | ⟨route, rest, _, _, ⟨_, rfl⟩ | ⟨_, rfl⟩⟩
  · exact ⟨discovered, coordinator⟩
  · simp only [Forwarded, present] at permitted
    exact ⟨permitted candidates chosen, coordinator⟩
  all_goals exact ⟨discovered, coordinator⟩

theorem loop_known {pool : RefreshPool} {point next : LoopPoint}
    (discovered : Discovered netip pool.shared.previous)
    (coordinator : CoordinatorKnown pool.shared.deviceID pool.shared.coordinator)
    (taken : loopStep netip pool.shared choice point = some (moved, next)) :
    Discovered netip moved.previous ∧ CoordinatorKnown pool.shared.deviceID moved.coordinator := by
  rcases loopStep_cases taken with ⟨_, _, _, _, _, _, rfl, _⟩ | ⟨_, _, _, _, rfl⟩ |
    ⟨message, at_, signal, made, _, _, planned, rfl, _⟩
  · exact ⟨discovered, coordinator⟩
  · exact ⟨discovered, coordinator⟩
  · rw [(after_quiet pool.shared made).previous, after_coordinator,
      Signaling.planForward_sessions planned]
    exact ⟨discovered, coordinator⟩

theorem step_known {pool : RefreshPool} {party next : Party}
    (holds : (knownOutline netip).Holds pool) (present : pool.threads[self]? = some party)
    (permitted : Forwarded netip pool (.advance self choice))
    (taken : step netip self pool.shared party choice = some (moved, next)) :
    Discovered netip moved.previous ∧ CoordinatorKnown pool.shared.deviceID moved.coordinator ∧
      PartyKnown self (pool.update self moved next) next := by
  rcases holds.global with ⟨_, discovered, coordinator⟩
  have known := holds.thread self party present
  have kept : Quiet pool.shared moved → Discovered netip moved.previous := by
    intro quiet
    rw [quiet.previous]
    exact discovered
  cases party with
  | controlLoop point =>
      simp only [step, Option.map_eq_some_iff] at taken
      rcases taken with ⟨⟨_, _⟩, taken, equal⟩
      cases equal
      have kept := loop_known discovered coordinator taken
      exact ⟨kept.1, kept.2, known⟩
  | refresh point =>
      simp only [step, Option.map_eq_some_iff] at taken
      rcases taken with ⟨⟨_, _⟩, taken, equal⟩
      cases equal
      have kept := refresh_known discovered coordinator present permitted taken
      exact ⟨kept.1, kept.2, known⟩
  | messageReader =>
      have quiet := kept (step_quiet taken (fun _ same => by cases same) fun _ same => by cases same)
      simp only [step, Option.map_eq_some_iff] at taken
      rcases taken with ⟨read, taken, equal⟩
      cases equal
      refine ⟨quiet, ?_, known⟩
      unfold readerStep at taken
      repeat' split at taken
      all_goals cases taken
      all_goals exact coordinator
  | controller deviceID req publicHost point =>
      have quiet := kept (step_quiet taken (fun _ same => by cases same) fun _ same => by cases same)
      simp only [step, Option.map_eq_some_iff] at taken
      rcases taken with ⟨⟨_, _⟩, taken, equal⟩
      cases equal
      rcases known with ⟨big, named, known⟩
      have after := controller_known big named coordinator known taken
      exact ⟨quiet, after.1, big, named, after.2⟩
  | registerPeer deviceID hostname candidates publicPort returned =>
      have quiet := kept (step_quiet taken (fun _ same => by cases same) fun _ same => by cases same)
      simp only [step] at taken
      split at taken <;> cases taken
      have big : 2 < self := known
      refine ⟨quiet, registerPeer_known coordinator fun same => ?_, known⟩
      rw [Option.some.injEq, agentWriter] at same
      omega
  | unregisterPeer deviceID writer point =>
      have quiet := kept (step_quiet taken (fun _ same => by cases same) fun _ same => by cases same)
      simp only [step] at taken
      split at taken
      · rcases Option.map_eq_some_iff.mp taken with ⟨made, planned, equal⟩
        cases equal
        refine ⟨quiet, ?_, known⟩
        rw [after_coordinator]
        refine coordinator.of (Signaling.planUnregisterPeer_authorizes planned)
          (fun name peer found => .inl ?_) fun sessionID session found =>
            .inl (Signaling.planUnregisterPeer_sessions planned found).1
        rcases Signaling.planUnregisterPeer_peers planned with ⟨_, _, same⟩ | ⟨_, _, same⟩
        · rw [same] at found
          exact dropPeer_lookup found
        · rwa [same] at found
      · cases taken

theorem knownOutline_valid : (knownOutline netip).Valid (program netip) (Forwarded netip) where
  started pool thread holds enters _ := by
    rcases holds.global with ⟨size, discovered, coordinator⟩
    have grown : 2 < (pool.start thread).threads.length := by
      simp only [Pool.start, List.length_append, List.length_singleton]
      omega
    refine ⟨⟨grown, discovered, coordinator⟩, ?_⟩
    cases thread with
    | controller deviceID req publicHost point =>
        cases point with
        | connect point =>
            cases point with
            | start => exact ⟨size, of_decide_eq_true enters, trivial⟩
            | _ => cases enters
        | _ => cases enters
    | registerPeer | unregisterPeer => exact size
    | controlLoop | messageReader | refresh => cases enters
  undisturbedByStart pool thread other bystander holds _ _ found := by
    have known := holds.thread other bystander found
    cases bystander <;> exact known
  sequential pool self thread choice moved next holds present permitted taken := by
    rcases step_known holds present permitted taken with ⟨discovered, coordinator, known⟩
    refine ⟨⟨?_, discovered, ?_⟩, known⟩
    · rw [Pool.update_length]
      exact holds.global.1
    · rw [Pool.update_shared, (step_given taken).1]
      exact coordinator
  interferenceFree pool self thread choice moved next other bystander holds _ _ taken _ found := by
    have known := holds.thread other bystander found
    rcases step_given taken with ⟨same, given⟩
    cases bystander with
    | controller deviceID req publicHost point =>
        rcases known with ⟨big, named, known⟩
        exact ⟨big, named, known.keep same given⟩
    | _ => exact known

theorem knownOutline_initial {nanoseconds : UInt32} {hostname : GoString}
    {initial : List CandidateInfo} {publicPort : UInt16}
    (discovered : Discovered netip (filterLANCandidates initial)) :
    (knownOutline netip).Holds
      (initialPool netip nanoseconds deviceID hostname initial publicPort) := by
  refine ⟨⟨Nat.lt_succ_self 2, discovered, ?_⟩, fun self thread present => ?_⟩
  · refine registerPeer_known ⟨rfl, fun name peer found => ?_, fun sessionID session found => ?_⟩
      fun _ => rfl
    · simp [Signaling.newSessionCoordinator] at found
    · simp [Signaling.newSessionCoordinator] at found
  · rcases self with _ | _ | _ | _ <;> cases present <;> rfl

end Known

end Rdpulse.Agent.CandidateRefresh
