import Rdpulse.Signaling.Sessions

namespace Rdpulse.Signaling

open Foundation Protocol

/-! What a single step of each operation of the coordinator does: to its tables, in
messages, and to what the operation knows. -/

def ordinary (message : ControlMessage) : Bool :=
  message.type ≠ .connectNotify && message.type ≠ .candidateExchange

variable {netip : Netip} {c : SessionCoordinator} {choice : Choice}

theorem planCloseSession_peers {c : SessionCoordinator} {sessionID : UInt32}
    {controllerID : GoString} {choice : Choice} {point : ClosePoint}
    {step : CallStep ClosePoint}
    (planned : planCloseSession c sessionID controllerID choice point = some step) :
    step.coordinator.peers = c.peers := by
  cases point with
  | lock =>
      simp only [planCloseSession] at planned
      repeat' split at planned
      all_goals cases planned
      all_goals rfl
  | notify session =>
      simp only [planCloseSession, Option.map_eq_some_iff] at planned
      rcases planned with ⟨_, _, rfl⟩
      rfl
  | returned => cases planned

theorem planCloseSession_authorizes {sessionID : UInt32} {controllerID : GoString}
    {point : ClosePoint} {step : CallStep ClosePoint}
    (planned : planCloseSession c sessionID controllerID choice point = some step) :
    step.coordinator.authorizes = c.authorizes := by
  cases point with
  | lock =>
      simp only [planCloseSession] at planned
      repeat' split at planned
      all_goals cases planned
      all_goals rfl
  | notify session =>
      simp only [planCloseSession, Option.map_eq_some_iff] at planned
      rcases planned with ⟨_, _, rfl⟩
      rfl
  | returned => cases planned

theorem planHandleConnectRequest_peers {c : SessionCoordinator}
    {request : ConnectRequest} {choice : Choice}
    {point : ConnectPoint} {step : CallStep ConnectPoint}
    (planned : planHandleConnectRequest netip c request choice point = some step) :
    step.coordinator.peers = c.peers := by
  cases point with
  | notify candidates target sessionID token =>
      simp only [planHandleConnectRequest, Option.map_eq_some_iff] at planned
      rcases planned with ⟨_, _, rfl⟩
      rfl
  | rollback sessionID point =>
      simp only [planHandleConnectRequest, Option.map_eq_some_iff] at planned
      rcases planned with ⟨inner, taken, rfl⟩
      exact planCloseSession_peers taken
  | returned => cases planned
  | start | lookup | authorize | number | draw | insert =>
      simp only [planHandleConnectRequest] at planned
      repeat' split at planned
      all_goals cases planned
      all_goals rfl

theorem planHandleConnectRequest_authorizes {request : ConnectRequest}
    {point : ConnectPoint} {step : CallStep ConnectPoint}
    (planned : planHandleConnectRequest netip c request choice point = some step) :
    step.coordinator.authorizes = c.authorizes := by
  cases point with
  | notify candidates target sessionID token =>
      simp only [planHandleConnectRequest, Option.map_eq_some_iff] at planned
      rcases planned with ⟨_, _, rfl⟩
      rfl
  | rollback sessionID point =>
      simp only [planHandleConnectRequest, Option.map_eq_some_iff] at planned
      rcases planned with ⟨inner, taken, rfl⟩
      exact planCloseSession_authorizes taken
  | returned => cases planned
  | start | lookup | authorize | number | draw | insert =>
      simp only [planHandleConnectRequest] at planned
      repeat' split at planned
      all_goals cases planned
      all_goals rfl

theorem planHandleConnectRequest_looks {request : ConnectRequest}
    {point : ConnectPoint} {step : CallStep ConnectPoint}
    (planned : planHandleConnectRequest netip c request choice point = some step)
    (looks : step.next = .start ∨ ∃ candidates, step.next = .lookup candidates) :
    point = .start := by
  cases point with
  | start => rfl
  | lookup | number =>
      cases planned
      rcases looks with looks | ⟨_, looks⟩ <;> cases looks
  | authorize | draw | insert =>
      simp only [planHandleConnectRequest] at planned
      repeat' split at planned
      all_goals cases planned
      all_goals rcases looks with looks | ⟨_, looks⟩ <;> cases looks
  | notify =>
      simp only [planHandleConnectRequest, Option.map_eq_some_iff] at planned
      rcases planned with ⟨⟨sent, delivered⟩, _, rfl⟩
      cases delivered <;> rcases looks with looks | ⟨_, looks⟩ <;> cases looks
  | rollback =>
      simp only [planHandleConnectRequest, Option.map_eq_some_iff] at planned
      rcases planned with ⟨inner, _, rfl⟩
      cases closed : inner.next <;> rw [closed] at looks <;>
        rcases looks with looks | ⟨_, looks⟩ <;> cases looks
  | returned => cases planned

@[simp] theorem dropSessions_peers (c : SessionCoordinator)
    (gone : List (UInt32 × ActiveSession)) : (c.dropSessions gone).peers = c.peers := rfl

theorem planUnregisterPeer_peers {c : SessionCoordinator} {deviceID : GoString}
    {writer : Writer} {choice : Choice} {point : UnregisterPoint}
    {step : CallStep UnregisterPoint}
    (planned : planUnregisterPeer c deviceID writer choice point = some step) :
    (point = .lock ∧ step.next ≠ .lock ∧
      step.coordinator.peers = (c.dropPeer deviceID writer).peers) ∨
    (point ≠ .lock ∧ step.next ≠ .lock ∧ step.coordinator.peers = c.peers) := by
  cases point with
  | lock =>
      simp only [planUnregisterPeer] at planned
      repeat' split at planned
      all_goals cases planned
      exact .inl ⟨rfl, by simp, rfl⟩
  | notify removed pending =>
      cases pending with
      | nil =>
          cases planned
          exact .inr ⟨by simp, by simp, rfl⟩
      | cons entry rest =>
          simp only [planUnregisterPeer] at planned
          split at planned
          · cases planned
            exact .inr ⟨by simp, by simp, rfl⟩
          · rw [Option.map_eq_some_iff] at planned
            rcases planned with ⟨_, _, rfl⟩
            exact .inr ⟨by simp, by simp, rfl⟩
  | returned => cases planned

theorem planUnregisterPeer_authorizes {deviceID : GoString} {writer : Writer}
    {point : UnregisterPoint} {step : CallStep UnregisterPoint}
    (planned : planUnregisterPeer c deviceID writer choice point = some step) :
    step.coordinator.authorizes = c.authorizes := by
  have dropped : (c.dropPeer deviceID writer).authorizes = c.authorizes := by
    unfold SessionCoordinator.dropPeer
    repeat' split
    all_goals rfl
  cases point with
  | lock =>
      simp only [planUnregisterPeer] at planned
      repeat' split at planned
      all_goals cases planned
      exact dropped
  | notify removed pending =>
      cases pending with
      | nil =>
          cases planned
          rfl
      | cons entry rest =>
          simp only [planUnregisterPeer] at planned
          split at planned
          · cases planned
            rfl
          · rw [Option.map_eq_some_iff] at planned
            rcases planned with ⟨_, _, rfl⟩
            rfl
  | returned => cases planned

/-- What `HandleConnectRequest` knows of its target, and from when on it has been
`granted`. -/
def ConnectAssertion (targets : Target → Prop)
    (granted : List CandidateInfo → Target → Prop) : ConnectPoint → Prop
  | .authorize _ _ (some target) => targets target
  | .number candidates target | .draw candidates target _ | .insert candidates target _ _
  | .notify candidates target _ _ => targets target ∧ granted candidates target
  | _ => True

theorem ConnectAssertion.mono {targets wider : Target → Prop}
    {granted later : List CandidateInfo → Target → Prop} {point : ConnectPoint}
    (known : ConnectAssertion targets granted point)
    (first : ∀ target, targets target → wider target)
    (second : ∀ candidates target, granted candidates target → later candidates target) :
    ConnectAssertion wider later point := by
  cases point with
  | authorize candidates authorizes target =>
      cases target with
      | none => trivial
      | some target => exact first target known
  | number | draw | insert | notify => exact ⟨first _ known.1, second _ _ known.2⟩
  | _ => trivial

theorem planCloseSession_sent {sessionID : UInt32} {controllerID : GoString}
    {point : ClosePoint} {step : CallStep ClosePoint}
    (planned : planCloseSession c sessionID controllerID choice point = some step) :
    ∀ sent ∈ step.sent, ordinary sent.message = true := by
  cases point with
  | lock =>
      simp only [planCloseSession] at planned
      repeat' split at planned
      all_goals cases planned
      all_goals exact fun _ none => by cases none
  | notify session =>
      simp only [planCloseSession, Option.map_eq_some_iff] at planned
      rcases planned with ⟨⟨sent, delivered⟩, written, rfl⟩
      intro one member
      cases choice <;> simp only [write, reduceCtorEq, Option.map_eq_some_iff,
        Option.some.injEq, Prod.mk.injEq] at written
      · rcases written with ⟨rfl, _⟩
        rcases Option.map_eq_some_iff.mp member with ⟨_, _, rfl⟩
        rfl
      · rcases written with ⟨_, _, rfl, _⟩
        cases member
        rfl
  | returned => cases planned

theorem planUnregisterPeer_sent {deviceID : GoString} {writer : Writer}
    {point : UnregisterPoint} {step : CallStep UnregisterPoint}
    (planned : planUnregisterPeer c deviceID writer choice point = some step) :
    ∀ sent ∈ step.sent, ordinary sent.message = true := by
  cases point with
  | lock =>
      simp only [planUnregisterPeer] at planned
      repeat' split at planned
      all_goals cases planned
      exact fun _ none => by cases none
  | notify removed pending =>
      cases pending with
      | nil =>
          cases planned
          exact fun _ none => by cases none
      | cons entry rest =>
          simp only [planUnregisterPeer] at planned
          split at planned
          · cases planned
            exact fun _ none => by cases none
          · rw [Option.map_eq_some_iff] at planned
            rcases planned with ⟨⟨sent, delivered⟩, written, rfl⟩
            intro one member
            cases choice <;> cases written <;> cases member <;> rfl
  | returned => cases planned

structure ConnectStep (c : SessionCoordinator) (request : ConnectRequest)
    (targets : Target → Prop) (granted : List CandidateInfo → Target → Prop)
    (point : ConnectPoint) (step : CallStep ConnectPoint) : Prop where
  known : ConnectAssertion targets granted step.next
  peers : step.coordinator.peers = c.peers
  sessions : ∀ sessionID session, step.coordinator.sessions.lookup sessionID = some session →
    c.sessions.lookup sessionID = some session ∨
      ∃ target, targets target ∧ session = request.session target sessionID
  sent : ∀ sent ∈ step.sent, ordinary sent.message = true ∨
    ∃ candidates target sessionID token, point = .notify candidates target sessionID token ∧
      target.writer = some sent.writer ∧
      sent.message = connectNotify request candidates sessionID token
  answer : ∀ resp, step.next = .returned (.ok resp) →
    resp.type = .error ∨ resp.type = .connectResponse

theorem planCloseSession_subset {sessionID : UInt32} {controllerID : GoString}
    {point : ClosePoint} {step : CallStep ClosePoint}
    (planned : planCloseSession c sessionID controllerID choice point = some step) :
    ∀ one session, step.coordinator.sessions.lookup one = some session →
      c.sessions.lookup one = some session :=
  (planCloseSession_cases planned).1

theorem ConnectStep.still {request : ConnectRequest}
    {targets : Target → Prop} {granted : List CandidateInfo → Target → Prop}
    {point : ConnectPoint} {step : CallStep ConnectPoint}
    (known : ConnectAssertion targets granted step.next)
    (peers : step.coordinator.peers = c.peers) (sessions : step.coordinator.sessions = c.sessions)
    (silent : step.sent = none)
    (answer : ∀ resp, step.next = .returned (.ok resp) → resp.type = .error) :
    ConnectStep c request targets granted point step where
  known := known
  peers := peers
  sessions _ _ found := .inl (sessions ▸ found)
  sent _ member := by rw [silent] at member; cases member
  answer resp same := .inl (answer resp same)

theorem planHandleConnectRequest_step {request : ConnectRequest}
    {targets : Target → Prop} {granted : List CandidateInfo → Target → Prop}
    {point : ConnectPoint} {step : CallStep ConnectPoint}
    (planned : planHandleConnectRequest netip c request choice point = some step)
    (known : ConnectAssertion targets granted point)
    (found : ∀ peer ∈ c.peers.lookup request.req.targetDeviceID,
      targets ⟨peer.candidates, peer.publicPort, peer.writer⟩)
    (asks : ∀ candidates target, point = .authorize candidates true (some target) →
      choice = .authorized true → granted candidates target) :
    ConnectStep c request targets granted point step := by
  have refused : ∀ (code : Nat) (text : String) (resp : ControlMessage),
      ConnectPoint.returned (.ok (errorMessage code text)) = .returned (.ok resp) →
      resp.type = .error := by
    intro code text resp same
    cases same
    rfl
  cases point with
  | start =>
      simp only [planHandleConnectRequest] at planned
      repeat' split at planned
      all_goals cases planned
      · exact .still trivial rfl rfl rfl fun _ same => by cases same
      · exact .still trivial rfl rfl rfl (refused _ _)
      · exact .still trivial rfl rfl rfl fun _ same => by cases same
  | lookup candidates =>
      cases planned
      refine .still ?_ rfl rfl rfl fun _ same => by cases same
      cases present : c.peers.lookup request.req.targetDeviceID with
      | none => trivial
      | some peer => exact found peer present
  | authorize candidates authorizes target =>
      simp only [planHandleConnectRequest] at planned
      split at planned
      · split at planned
        · cases planned
          exact .still trivial rfl rfl rfl (refused _ _)
        · rename_i answer allowed
          simp only [Bool.or_eq_true, Bool.not_eq_true', not_or, Bool.not_eq_false] at allowed
          rcases allowed with ⟨rfl, rfl⟩
          cases target with
          | none =>
              cases planned
              exact .still trivial rfl rfl rfl (refused _ _)
          | some target =>
              simp only at planned
              split at planned <;> cases planned
              · exact .still ⟨known, asks candidates target rfl rfl⟩ rfl rfl rfl
                  fun _ same => by cases same
              · exact .still trivial rfl rfl rfl (refused _ _)
      · cases planned
  | number candidates target =>
      cases planned
      exact .still known rfl rfl rfl fun _ same => by cases same
  | draw candidates target sessionID =>
      simp only [planHandleConnectRequest] at planned
      split at planned <;> cases planned
      · exact .still known rfl rfl rfl fun _ same => by cases same
      · exact .still trivial rfl rfl rfl fun _ same => by cases same
  | insert candidates target sessionID token =>
      simp only [planHandleConnectRequest] at planned
      split at planned <;> cases planned
      · exact .still trivial rfl rfl rfl (refused _ _)
      · refine ⟨known, rfl, fun one session there => ?_, fun _ none => (by cases none),
          fun _ same => (by cases same)⟩
        have there : (c.sessions.insert sessionID (request.session target sessionID)).lookup one =
            some session := there
        by_cases same : one = sessionID
        · subst same
          rw [AList.lookup_insert, Option.some.injEq] at there
          exact .inr ⟨target, known.1, there.symm⟩
        · rw [AList.lookup_insert_ne same] at there
          exact .inl there
  | notify candidates target sessionID token =>
      simp only [planHandleConnectRequest, Option.map_eq_some_iff] at planned
      rcases planned with ⟨⟨sent, delivered⟩, written, rfl⟩
      refine ⟨?_, rfl, fun _ _ there => .inl there, fun one member => .inr ?_, fun resp same => ?_⟩
      · cases delivered <;> trivial
      · refine ⟨candidates, target, sessionID, token, rfl, ?_⟩
        cases choice <;> simp only [write, reduceCtorEq, Option.map_eq_some_iff,
          Option.some.injEq, Prod.mk.injEq] at written
        · rcases written with ⟨rfl, _⟩
          rcases Option.map_eq_some_iff.mp member with ⟨stream, writer, rfl⟩
          exact ⟨writer, rfl⟩
        · rcases written with ⟨stream, writer, rfl, _⟩
          cases member
          exact ⟨writer, rfl⟩
      · cases delivered <;> cases same
        exact .inr rfl
  | rollback sessionID point =>
      simp only [planHandleConnectRequest, Option.map_eq_some_iff] at planned
      rcases planned with ⟨inner, closed, rfl⟩
      refine ⟨?_, planCloseSession_peers closed,
        fun one session there => .inl (planCloseSession_subset closed one session there),
        fun one member => .inl (planCloseSession_sent closed one member), fun resp same => ?_⟩
      · cases inner.next <;> trivial
      · cases after : inner.next <;> rw [after] at same <;> cases same
  | returned => cases planned

def ForwardAssertion (holds : ActiveSession → Prop)
    (granted : List CandidateInfo → ActiveSession → Prop) : ForwardPoint → Prop
  | .authorize _ _ session => holds session
  | .write valid session => holds session ∧ granted valid session
  | _ => True

theorem ForwardAssertion.mono {holds wider : ActiveSession → Prop}
    {granted later : List CandidateInfo → ActiveSession → Prop} {point : ForwardPoint}
    (known : ForwardAssertion holds granted point)
    (first : ∀ session, holds session → wider session)
    (second : ∀ valid session, granted valid session → later valid session) :
    ForwardAssertion wider later point := by
  cases point with
  | authorize => exact first _ known
  | write => exact ⟨first _ known.1, second _ _ known.2⟩
  | _ => trivial

theorem planForward_step {sessionID : UInt32} {deviceID toDeviceID : GoString}
    {candidates : List CandidateInfo} {holds : ActiveSession → Prop}
    {before granted : List CandidateInfo → ActiveSession → Prop} {point : ForwardPoint}
    {step : CallStep ForwardPoint}
    (planned : planForwardCandidateExchange netip c sessionID deviceID toDeviceID
      candidates choice point = some step)
    (known : ForwardAssertion holds before point)
    (found : ∀ valid, point = .lookup valid → ∀ session ∈ c.sessions.lookup sessionID,
      (session.counterpart deviceID).2 ≠ none → holds session)
    (asks : ∀ valid session, point = .authorize valid true session →
      choice = .authorized true → granted valid session) :
    ForwardAssertion holds granted step.next ∧
      ∀ sent ∈ step.sent, ∃ valid session, point = .write valid session ∧
        (session.counterpart deviceID).2 = some sent.writer ∧
        sent.message =
          { type := .candidateExchange
            deviceID
            targetDeviceID := (session.counterpart deviceID).1
            sessionID
            candidates := valid } := by
  have silent : ∀ sent ∈ (none : Option Sent), ∃ valid session,
      point = .write valid session ∧ (session.counterpart deviceID).2 = some sent.writer ∧
        sent.message =
          { type := .candidateExchange
            deviceID
            targetDeviceID := (session.counterpart deviceID).1
            sessionID
            candidates := valid } := fun _ member => by cases member
  cases point with
  | start =>
      simp only [planForwardCandidateExchange] at planned
      split at planned <;> cases planned <;> exact ⟨trivial, silent⟩
  | lookup valid =>
      simp only [planForwardCandidateExchange] at planned
      split at planned
      · cases planned
        exact ⟨trivial, silent⟩
      · rename_i session present
        repeat' split at planned
        all_goals cases planned
        · exact ⟨trivial, silent⟩
        · exact ⟨trivial, silent⟩
        · rename_i sides _
          simp only [Bool.or_eq_true, decide_eq_true_eq, not_or] at sides
          exact ⟨found valid rfl session present sides.1, silent⟩
  | authorize valid authorizes session =>
      simp only [planForwardCandidateExchange] at planned
      split at planned
      · split at planned <;> cases planned
        · exact ⟨trivial, silent⟩
        · rename_i answer allowed
          simp only [Bool.or_eq_true, Bool.not_eq_true', not_or, Bool.not_eq_false] at allowed
          rcases allowed with ⟨rfl, rfl⟩
          exact ⟨⟨known, asks valid session rfl rfl⟩, silent⟩
      · cases planned
  | write valid session =>
      simp only [planForwardCandidateExchange, Option.map_eq_some_iff] at planned
      rcases planned with ⟨⟨sent, delivered⟩, written, rfl⟩
      refine ⟨trivial, fun one member => ⟨valid, session, rfl, ?_⟩⟩
      cases choice <;> simp only [write, reduceCtorEq, Option.map_eq_some_iff,
        Option.some.injEq, Prod.mk.injEq] at written
      · rcases written with ⟨rfl, _⟩
        rcases Option.map_eq_some_iff.mp member with ⟨stream, writer, rfl⟩
        exact ⟨writer, rfl⟩
      · rcases written with ⟨stream, writer, rfl, _⟩
        cases member
        exact ⟨writer, rfl⟩
  | returned => cases planned

end Rdpulse.Signaling
