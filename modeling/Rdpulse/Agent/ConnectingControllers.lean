import Rdpulse.Agent.CurrentCandidates

namespace Rdpulse.Agent.CandidateRefresh

open Foundation Protocol
open Signaling (Netip SessionCoordinator ActiveSession ConnectPoint ConnectAssertion)

/-! The controllers between their CONNECT_REQUEST and the response. What such a handler
has looked up is the set of the loop, as long as the changes of the set stay apart from
the requests. -/

variable {netip : Netip} {state moved : State} {pool : RefreshPool} {choice : Choice}
  {self : Nat} {sessionID : UInt32} {session : ActiveSession} {name publicHost : GoString}
  {req : ControlMessage}

def Mine (self : Nat) (c : SessionCoordinator) : Prop :=
  ∃ sessionID session, c.sessions.lookup sessionID = some session ∧
    session.controllerWriter = some self ∧ session.targetWriter = some agentWriter

theorem Mine.subset {c later : SessionCoordinator} (mine : Mine self later)
    (kept : ∀ sessionID session, later.sessions.lookup sessionID = some session →
      c.sessions.lookup sessionID = some session) : Mine self c := by
  rcases mine with ⟨sessionID, session, found, own, agent⟩
  exact ⟨sessionID, session, kept sessionID session found, own, agent⟩

theorem step_sessions {party next : Party}
    (taken : step netip self state party choice = some (moved, next))
    (found : moved.coordinator.sessions.lookup sessionID = some session) :
    state.coordinator.sessions.lookup sessionID = some session ∨
      session.controllerWriter = some self ∧
        ∃ deviceID req publicHost point,
          party = .controller deviceID req publicHost (.connect point) := by
  cases party with
  | controlLoop point =>
      simp only [step, Option.map_eq_some_iff] at taken
      rcases taken with ⟨⟨_, _⟩, taken, equal⟩
      cases equal
      rcases loopStep_cases taken with ⟨_, _, _, _, _, _, rfl, _⟩ | ⟨_, _, _, _, rfl⟩ |
        ⟨message, at_, signal, made, _, _, planned, rfl, _⟩
      · exact .inl found
      · exact .inl found
      · rw [after_coordinator, Signaling.planForward_sessions planned] at found
        exact .inl found
  | refresh point =>
      simp only [step, Option.map_eq_some_iff] at taken
      rcases taken with ⟨⟨_, _⟩, taken, equal⟩
      cases equal
      rcases refreshStep_cases taken with ⟨_, _, rfl⟩ | ⟨_, _, _, _, rfl⟩ | ⟨_, rfl, _⟩ |
        ⟨_, _, rfl⟩ | ⟨route, rest, _, _, ⟨_, rfl⟩ | ⟨_, rfl⟩⟩
      all_goals exact .inl found
  | messageReader =>
      simp only [step, Option.map_eq_some_iff] at taken
      rcases taken with ⟨read, taken, equal⟩
      cases equal
      unfold readerStep at taken
      repeat' split at taken
      all_goals cases taken
      all_goals exact .inl found
  | controller deviceID req publicHost point =>
      simp only [step, Option.map_eq_some_iff] at taken
      rcases taken with ⟨⟨_, _⟩, taken, equal⟩
      cases equal
      cases point with
      | connect point =>
          simp only [controllerStep] at taken
          split at taken
          · rcases Option.map_eq_some_iff.mp taken with ⟨made, planned, equal⟩
            cases equal
            rw [after_coordinator] at found
            have known : Signaling.ConnectAssertion (fun _ => True) (fun _ _ => True) point := by
              unfold Signaling.ConnectAssertion
              split <;> trivial
            have step := Signaling.planHandleConnectRequest_step planned known
              (fun _ _ => trivial) fun _ _ _ _ => trivial
            rcases step.sessions sessionID session found with before | ⟨target, _, rfl⟩
            · exact .inl before
            · exact .inr ⟨rfl, deviceID, req, publicHost, _, rfl⟩
          · cases taken
      | respond resp =>
          simp only [controllerStep] at taken
          split at taken
          · rcases Option.map_eq_some_iff.mp taken with ⟨⟨sent, delivered⟩, _, equal⟩
            cases equal
            rw [deliver_coordinator] at found
            exact .inl found
          · cases taken
      | serving one =>
          simp only [controllerStep] at taken
          split at taken <;> cases taken
          exact .inl found
      | closing one point =>
          cases point with
          | returned =>
              cases taken
              exact .inl found
          | lock | notify =>
              simp only [controllerStep] at taken
              split at taken
              · rcases Option.map_eq_some_iff.mp taken with ⟨made, planned, equal⟩
                cases equal
                rw [after_coordinator] at found
                exact .inl (Signaling.planCloseSession_subset planned _ _ found)
              · cases taken
      | finished => cases taken
  | registerPeer deviceID hostname candidates publicPort returned =>
      simp only [step] at taken
      split at taken <;> cases taken
      exact .inl found
  | unregisterPeer deviceID writer point =>
      simp only [step] at taken
      split at taken
      · rcases Option.map_eq_some_iff.mp taken with ⟨made, planned, equal⟩
        cases equal
        rw [after_coordinator] at found
        exact .inl (Signaling.planUnregisterPeer_sessions planned found).1
      · cases taken

theorem Mine.before {party next : Party} {tr : Nat}
    (taken : step netip self state party choice = some (moved, next)) (other : tr ≠ self)
    (mine : Mine tr moved.coordinator) : Mine tr state.coordinator := by
  rcases mine with ⟨sessionID, session, found, own, agent⟩
  rcases step_sessions taken found with before | ⟨writes, _⟩
  · exact ⟨sessionID, session, before, own, agent⟩
  · rw [own, Option.some.injEq] at writes
    exact absurd writes other

/-! ## Whose sessions there are -/

def ControllerPoint.asks : ControllerPoint → Bool
  | .connect .start | .connect (.lookup _) => true
  | _ => false

structure Owned (tr : Nat) (state : State) (req : ControlMessage) (point : ControllerPoint) :
    Prop where
  early : point.asks = true → ¬Mine tr state.coordinator
  asked : Mine tr state.coordinator → req.targetDeviceID = state.deviceID

theorem Owned.keep {point next : ControllerPoint} (owned : Owned self state req point)
    (asks : next.asks = true → point.asks = true) (same : moved.deviceID = state.deviceID)
    (before : Mine self moved.coordinator → Mine self state.coordinator) :
    Owned self moved req next where
  early asking mine := owned.early (asks asking) (before mine)
  asked mine := by
    rw [same]
    exact owned.asked (before mine)

def PartyOwned (self : Nat) (pool : RefreshPool) : Party → Prop
  | .controller _ req _ point => Owned self pool.shared req point
  | _ => True

def ownedOutline : Program.Outline State Party where
  global pool := ∀ sessionID session tr,
    pool.shared.coordinator.sessions.lookup sessionID = some session →
    session.controllerWriter = some tr → tr < pool.threads.length
  assertion := PartyOwned

theorem planHandleConnectRequest_early {c : SessionCoordinator}
    {request : Signaling.ConnectRequest} {signal : Signaling.Choice} {point : ConnectPoint}
    {made : Signaling.CallStep ConnectPoint} (early : lookedUp point = false)
    (other : ∀ sessionID closing, point ≠ .rollback sessionID closing)
    (planned : Signaling.planHandleConnectRequest netip c request signal point = some made) :
    made.coordinator = c := by
  cases point with
  | start =>
      simp only [Signaling.planHandleConnectRequest] at planned
      repeat' split at planned
      all_goals cases planned
      all_goals rfl
  | lookup =>
      cases planned
      rfl
  | rollback sessionID closing => exact absurd rfl (other sessionID closing)
  | returned => cases planned
  | authorize | number | draw | insert | notify => cases early

theorem resume_asks {point : ConnectPoint} (asks : (resume point).asks = true) :
    point = .start ∨ ∃ candidates, point = .lookup candidates := by
  cases point with
  | start => exact .inl rfl
  | lookup candidates => exact .inr ⟨candidates, rfl⟩
  | returned result =>
      cases result with
      | error => cases asks
      | ok resp =>
          simp only [resume] at asks
          split at asks <;> cases asks
  | _ => cases asks

theorem controller_owned {point next : ControllerPoint}
    (coordinator : CoordinatorKnown state.deviceID state.coordinator)
    (known : ControllerKnown self state req point) (owned : Owned self state req point)
    (taken : controllerStep netip self state name req publicHost choice point =
      some (moved, next)) : Owned self moved req next := by
  have same := (controllerStep_quiet taken).deviceID
  cases point with
  | connect point =>
      simp only [controllerStep] at taken
      split at taken
      · rcases Option.map_eq_some_iff.mp taken with ⟨made, planned, equal⟩
        cases equal
        have step := connect_step coordinator known planned
        refine ⟨fun asks mine => ?_, fun mine => ?_⟩
        · -- The request has only been checked.
          have start := Signaling.planHandleConnectRequest_looks planned (resume_asks asks)
          subst start
          rw [after_coordinator,
            planHandleConnectRequest_early rfl (fun _ _ same => by cases same) planned] at mine
          exact owned.early rfl mine
        · rcases mine with ⟨one, session, found, own, agent⟩
          rw [after_coordinator] at found
          rw [same]
          rcases step.sessions one session found with before | ⟨target, targets, rfl⟩
          · exact owned.asked ⟨one, session, before, own, agent⟩
          · exact targets agent
      · cases taken
  | respond resp =>
      simp only [controllerStep] at taken
      split at taken
      · rcases Option.map_eq_some_iff.mp taken with ⟨⟨sent, delivered⟩, _, equal⟩
        cases equal
        refine owned.keep (fun asks => ?_) same fun mine => ?_
        · split at asks <;> cases asks
        · rw [deliver_coordinator] at mine
          exact mine
      · cases taken
  | serving sessionID =>
      simp only [controllerStep] at taken
      split at taken <;> cases taken
      exact owned.keep (fun asks => by cases asks) rfl id
  | closing sessionID point =>
      cases point with
      | returned =>
          cases taken
          exact owned.keep (fun asks => by cases asks) rfl id
      | lock | notify =>
          simp only [controllerStep] at taken
          split at taken
          · rcases Option.map_eq_some_iff.mp taken with ⟨made, planned, equal⟩
            cases equal
            refine owned.keep (fun asks => by cases asks) same fun mine => ?_
            rw [after_coordinator] at mine
            exact mine.subset (Signaling.planCloseSession_subset planned)
          · cases taken
  | finished => cases taken

theorem ownedOutline_valid :
    ownedOutline.Valid (program netip) fun pool _ => (knownOutline netip).Holds pool where
  started pool thread holds enters _ := by
    refine ⟨fun sessionID session tr found writes => ?_, ?_⟩
    · have bound := holds.global sessionID session tr found writes
      simp only [Pool.start, List.length_append, List.length_singleton]
      omega
    · cases thread with
      | controller deviceID req publicHost point =>
          have none : ¬Mine pool.threads.length pool.shared.coordinator := by
            rintro ⟨sessionID, session, found, own, _⟩
            exact absurd (holds.global sessionID session _ found own) (Nat.lt_irrefl _)
          exact ⟨fun _ => none, fun mine => absurd mine none⟩
      | _ => trivial
  undisturbedByStart pool thread other bystander holds _ _ found := by
    have owned := holds.thread other bystander found
    cases bystander <;> exact owned
  sequential pool self thread choice moved next holds present known taken := by
    refine ⟨fun sessionID session tr found writes => ?_, ?_⟩
    · rw [Pool.update_length]
      rcases step_sessions taken found with before | ⟨own, _⟩
      · exact holds.global sessionID session tr before writes
      · rw [writes, Option.some.injEq] at own
        rw [own]
        exact (List.getElem?_eq_some_iff.mp present).1
    · have owned := holds.thread self thread present
      have place := known.thread self thread present
      cases thread with
      | controller deviceID req publicHost point =>
          simp only [program, step, Option.map_eq_some_iff] at taken
          rcases taken with ⟨⟨_, _⟩, taken, equal⟩
          cases equal
          exact controller_owned known.global.2.2 place.2.2 owned taken
      | controlLoop | messageReader | refresh =>
          simp only [program, step, Option.map_eq_some_iff] at taken
          rcases taken with ⟨_, _, equal⟩
          cases equal
          trivial
      | registerPeer =>
          simp only [program, step] at taken
          split at taken <;> cases taken
          trivial
      | unregisterPeer =>
          simp only [program, step] at taken
          split at taken
          · rcases Option.map_eq_some_iff.mp taken with ⟨_, _, equal⟩
            cases equal
            trivial
          · cases taken
  interferenceFree pool self thread choice moved next other bystander holds _ _ taken apart
      found := by
    have owned := holds.thread other bystander found
    cases bystander with
    | controller deviceID req publicHost point =>
        exact owned.keep id (step_given taken).1 (Mine.before taken apart)
    | _ => trivial

theorem ownedOutline_initial {nanoseconds : UInt32} {deviceID hostname : GoString}
    {initial : List CandidateInfo} {publicPort : UInt16} :
    ownedOutline.Holds (initialPool netip nanoseconds deviceID hostname initial publicPort) := by
  refine ⟨fun sessionID session tr found _ => ?_, fun self thread present => ?_⟩
  · simp [initialPool, Signaling.registerPeer, SessionCoordinator.setPeer,
      Signaling.newSessionCoordinator] at found
  · rcases self with _ | _ | _ | _ <;> cases present <;> trivial

/-! ## What they have looked up -/

def Fresh (netip : Netip) (self : Nat) (state : State) : ControllerPoint → Prop
  | .connect point =>
      ConnectAssertion (fun target =>
        target.writer = some agentWriter ∨ Mine self state.coordinator →
          sameSet netip state.previous target.candidates = true) (fun _ _ => True) point
  | .respond resp =>
      Mine self state.coordinator → sameSet netip state.previous resp.candidates = true
  | _ => True

def AllFresh (netip : Netip) (pool : RefreshPool) : Prop :=
  pool.threads[2]? ≠ some (.refresh .routes) →
    ∀ (tr : Nat) (deviceID : GoString) (req : ControlMessage) (publicHost : GoString)
      (point : ControllerPoint),
      pool.threads[tr]? = some (.controller deviceID req publicHost point) →
      Fresh netip tr pool.shared point

theorem Fresh.keep {point : ControllerPoint} (fresh : Fresh netip self state point)
    (previous : moved.previous = state.previous)
    (before : Mine self moved.coordinator → Mine self state.coordinator) :
    Fresh netip self moved point := by
  cases point with
  | connect point =>
      refine ConnectAssertion.mono fresh (fun target shows mine => ?_) fun _ _ => id
      rw [previous]
      exact shows (mine.imp id before)
  | respond resp =>
      intro mine
      rw [previous]
      exact fresh (before mine)
  | serving | closing | finished => trivial

theorem Targeted.connecting {point : ConnectPoint} {deviceID : GoString}
    (targeted : Targeted deviceID req point)
    (elsewhere : (Party.controller name req publicHost (.connect point)).connecting deviceID = false)
    (asked : Mine self state.coordinator → req.targetDeviceID = deviceID) :
    ConnectAssertion (fun target =>
      target.writer = some agentWriter ∨ Mine self state.coordinator →
        sameSet netip state.previous target.candidates = true) (fun _ _ => True) point := by
  have absent : lookedUp point = true → req.targetDeviceID ≠ deviceID := by
    intro past same
    simp [Party.connecting, same, past] at elsewhere
  cases point with
  | authorize candidates authorizes target =>
      cases target with
      | none => trivial
      | some target => exact fun agent => absurd (agent.elim targeted asked) (absent rfl)
  | number | draw | insert | notify =>
      exact ⟨fun agent => absurd (agent.elim targeted.1 asked) (absent rfl), trivial⟩
  | _ => trivial

theorem connect_fresh {point : ConnectPoint} {signal : Signaling.Choice}
    {made : Signaling.CallStep ConnectPoint} (fresh : Fresh netip self state (.connect point))
    (owned : Owned self state req (.connect point))
    (registered : ∀ candidates, point = .lookup candidates →
      ∀ peer ∈ state.coordinator.peers.lookup req.targetDeviceID,
        peer.writer = some agentWriter → sameSet netip state.previous peer.candidates = true)
    (planned : Signaling.planHandleConnectRequest netip state.coordinator
      (connectRequest self name req publicHost) signal point = some made) :
    Fresh netip self (state.after made) (resume made.next) := by
  have previous := (after_quiet state made).previous
  -- The same target, and no other session of this handler.
  have carry : ∀ target : Signaling.Target, made.coordinator.sessions = state.coordinator.sessions →
      (target.writer = some agentWriter ∨ Mine self state.coordinator →
        sameSet netip state.previous target.candidates = true) →
      target.writer = some agentWriter ∨ Mine self (state.after made).coordinator →
        sameSet netip (state.after made).previous target.candidates = true := by
    intro target same shows agent
    rw [previous]
    refine shows (agent.imp id fun mine => ?_)
    rw [after_coordinator] at mine
    exact mine.subset fun _ _ found => same ▸ found
  cases point with
  | start =>
      simp only [Signaling.planHandleConnectRequest] at planned
      repeat' split at planned
      all_goals cases planned
      all_goals trivial
  | lookup candidates =>
      cases planned
      cases present : state.coordinator.peers.lookup req.targetDeviceID with
      | none => simp only [connectRequest, present, Option.map_none]; trivial
      | some peer =>
          simp only [connectRequest, present, Option.map_some]
          intro agent
          rcases agent with agent | mine
          · exact registered candidates rfl peer present agent
          · exact absurd mine (owned.early rfl)
  | authorize candidates authorizes target =>
      simp only [Signaling.planHandleConnectRequest] at planned
      repeat' split at planned
      all_goals cases planned
      all_goals trivial
  | number candidates target =>
      cases planned
      exact ⟨carry target rfl fresh.1, trivial⟩
  | draw candidates target sessionID =>
      simp only [Signaling.planHandleConnectRequest] at planned
      split at planned <;> cases planned
      · exact ⟨carry target rfl fresh.1, trivial⟩
      · trivial
  | insert candidates target sessionID token =>
      simp only [Signaling.planHandleConnectRequest] at planned
      split at planned <;> cases planned
      · trivial
      · refine ⟨fun agent => fresh.1 ?_, trivial⟩
        rcases agent with agent | ⟨one, session, found, own, agent⟩
        · exact .inl agent
        · have found : (state.coordinator.sessions.insert sessionID
              ((connectRequest self name req publicHost).session target sessionID)).lookup one =
                some session := found
          by_cases same : one = sessionID
          · subst same
            rw [AList.lookup_insert, Option.some.injEq] at found
            rw [← found] at agent
            exact .inl agent
          · rw [AList.lookup_insert_ne same] at found
            exact .inr ⟨one, session, found, own, agent⟩
  | notify candidates target sessionID token =>
      simp only [Signaling.planHandleConnectRequest, Option.map_eq_some_iff] at planned
      rcases planned with ⟨⟨sent, delivered⟩, _, rfl⟩
      cases delivered with
      | false => trivial
      | true => exact fun mine => carry target rfl fresh.1 (.inr mine)
  | rollback sessionID closing =>
      simp only [Signaling.planHandleConnectRequest, Option.map_eq_some_iff] at planned
      rcases planned with ⟨inner, _, rfl⟩
      cases inner.next <;> trivial
  | returned => cases planned

theorem controller_fresh {point next : ControllerPoint} (fresh : Fresh netip self state point)
    (owned : Owned self state req point)
    (registered : ∀ candidates, point = .connect (.lookup candidates) →
      ∀ peer ∈ state.coordinator.peers.lookup req.targetDeviceID,
        peer.writer = some agentWriter → sameSet netip state.previous peer.candidates = true)
    (taken : controllerStep netip self state name req publicHost choice point =
      some (moved, next)) : Fresh netip self moved next := by
  cases point with
  | connect point =>
      simp only [controllerStep] at taken
      split at taken
      · rcases Option.map_eq_some_iff.mp taken with ⟨made, planned, equal⟩
        cases equal
        exact connect_fresh fresh owned (fun candidates same => registered candidates (by rw [same]))
          planned
      · cases taken
  | respond resp =>
      simp only [controllerStep] at taken
      split at taken
      · rcases Option.map_eq_some_iff.mp taken with ⟨⟨sent, delivered⟩, _, equal⟩
        cases equal
        cases delivered <;> trivial
      · cases taken
  | serving sessionID =>
      simp only [controllerStep] at taken
      split at taken <;> cases taken
      trivial
  | closing sessionID point =>
      cases point with
      | returned =>
          cases taken
          trivial
      | lock | notify =>
          simp only [controllerStep] at taken
          split at taken
          · rcases Option.map_eq_some_iff.mp taken with ⟨_, _, equal⟩
            cases equal
            trivial
          · cases taken
  | finished => cases taken

theorem step_previous {party next : Party}
    (taken : step netip self state party choice = some (moved, next))
    (other : ∀ point, party ≠ .refresh point) : moved.previous = state.previous := by
  cases party with
  | controlLoop point =>
      simp only [step, Option.map_eq_some_iff] at taken
      rcases taken with ⟨⟨_, _⟩, taken, equal⟩
      cases equal
      rcases loopStep_cases taken with ⟨_, _, _, _, _, _, rfl, _⟩ | ⟨_, _, _, _, rfl⟩ |
        ⟨_, _, _, made, _, _, _, rfl, _⟩
      · rfl
      · rfl
      · exact (after_quiet state made).previous
  | refresh point => exact absurd rfl (other point)
  | messageReader | controller | registerPeer | unregisterPeer =>
      exact (step_quiet taken (fun _ same => by cases same) other).previous

theorem AllFresh.start {thread : Party} (fresh : AllFresh netip pool)
    (holds : (knownOutline netip).Holds pool) (enters : thread.entry = true) :
    AllFresh netip (pool.start thread) := by
  intro later tr deviceID req publicHost point found
  have two : (pool.start thread).threads[2]? = pool.threads[2]? := by
    simp only [Pool.start]
    exact List.getElem?_append_left holds.global.1
  rw [two] at later
  rcases Pool.start_cases found with old | ⟨_, rfl⟩
  · exact fresh later tr deviceID req publicHost point old
  · cases point with
    | connect point =>
        cases point with
        | start => trivial
        | _ => cases enters
    | _ => cases enters

theorem fresh_at_routes (holds : (knownOutline netip).Holds pool)
    (owned : ownedOutline.Holds pool)
    (quiet : ∀ party ∈ pool.threads, party.connecting pool.shared.deviceID = false) {tr : Nat}
    {deviceID : GoString} {point : ControllerPoint}
    (found : pool.threads[tr]? = some (.controller deviceID req publicHost point)) :
    Fresh netip tr pool.shared point := by
  have known := (holds.thread tr _ found).2.2
  have asked := (owned.thread tr _ found).asked
  have elsewhere := quiet _ (Pool.mem_of_getElem? found)
  cases point with
  | connect point => exact Targeted.connecting known elsewhere asked
  | respond resp => exact fun mine => absurd (asked mine) (of_decide_eq_false elsewhere)
  | serving | closing | finished => trivial

theorem AllFresh.advance {party next : Party} (fresh : AllFresh netip pool)
    (holds : (knownOutline netip).Holds pool) (owned : ownedOutline.Holds pool)
    (present : pool.threads[self]? = some party)
    (apart : ChangesApart netip pool (.advance self choice))
    (taken : step netip self pool.shared party choice = some (moved, next)) :
    AllFresh netip (pool.update self moved next) := by
  intro later tr deviceID req publicHost point found
  have place := holds.thread self party present
  by_cases refreshes : ∃ point, party = .refresh point
  · rcases refreshes with ⟨point, rfl⟩
    subst (place : self = 2)
    simp only [step, Option.map_eq_some_iff] at taken
    rcases taken with ⟨⟨_, after⟩, taken, equal⟩
    cases equal
    rw [Pool.update_self present] at later
    have other : tr ≠ 2 := by
      rintro rfl
      rw [Pool.update_self present] at found
      cases found
    rw [Pool.update_other pool other] at found
    rw [Pool.update_shared]
    rcases refreshStep_cases taken with ⟨rfl, rfl, rfl⟩ | ⟨_, rfl, _⟩ | ⟨rfl, rfl, _⟩ |
      ⟨rfl, rfl, rfl⟩ | ⟨_, _, rfl, rfl, ⟨_, rfl⟩ | ⟨_, rfl⟩⟩
    · exact fresh (by rw [present]; exact later) tr deviceID req publicHost point found
    · exact absurd rfl later
    · simp only [ChangesApart, present] at apart
      exact fresh_at_routes holds owned apart.1 found
    · exact fresh (by rw [present]; exact fun same => by cases same) tr deviceID req publicHost
        point found
    · exact (fresh (by rw [present]; exact fun same => by cases same) tr deviceID req publicHost
        point found).keep rfl id
    · exact fresh (by rw [present]; exact fun same => by cases same) tr deviceID req publicHost
        point found
  · rw [not_exists] at refreshes
    have previous := step_previous taken refreshes
    have elsewhere : self ≠ 2 := by
      cases party with
      | refresh point => exact absurd rfl (refreshes point)
      | controlLoop | messageReader =>
          change self = _ at place
          omega
      | controller =>
          have big : 2 < self := place.1
          omega
      | registerPeer | unregisterPeer =>
          have big : 2 < self := place
          omega
    rw [Pool.update_other pool (Ne.symm elsewhere)] at later
    by_cases same : tr = self
    · subst same
      rw [Pool.update_self present, Option.some.injEq] at found
      subst found
      cases party with
      | controller one asked host before =>
          simp only [step, Option.map_eq_some_iff] at taken
          rcases taken with ⟨⟨_, _⟩, taken, equal⟩
          cases equal
          refine controller_fresh (fresh later _ _ _ _ _ present) (owned.thread _ _ present)
            (fun candidates same => ?_) taken
          subst same
          simp only [ChangesApart, present] at apart
          exact apart
      | controlLoop | messageReader | refresh =>
          simp only [step, Option.map_eq_some_iff] at taken
          rcases taken with ⟨_, _, equal⟩
          cases equal
      | registerPeer =>
          simp only [step] at taken
          split at taken <;> cases taken
      | unregisterPeer =>
          simp only [step] at taken
          split at taken
          · rcases Option.map_eq_some_iff.mp taken with ⟨_, _, equal⟩
            cases equal
          · cases taken
    · rw [Pool.update_other pool same] at found
      exact (fresh later tr deviceID req publicHost point found).keep previous
        (Mine.before taken same)

end Rdpulse.Agent.CandidateRefresh
