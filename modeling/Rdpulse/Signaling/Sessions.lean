import Rdpulse.Foundation.Marks
import Rdpulse.Signaling.Coordinator

namespace Rdpulse.Signaling

open Foundation Protocol

/-! Sessions and their targets, under any interleaving of the coordinator's
operations. `HandleConnectRequest` looks its target up in one critical section and
inserts the session in a later one. -/

inductive Call
  | registerPeer (deviceID hostname : GoString) (writer : Writer)
      (candidates : List CandidateInfo) (publicPort : UInt16) (returned : Bool)
  | unregisterPeer (deviceID : GoString) (writer : Writer) (point : UnregisterPoint)
  | closeSession (sessionID : UInt32) (controllerID : GoString) (point : ClosePoint)
  | forwardCandidateExchange (sessionID : UInt32) (fromDeviceID toDeviceID : GoString)
      (candidates : List CandidateInfo) (point : ForwardPoint)
  | handleConnectRequest (request : ConnectRequest) (point : ConnectPoint)
  deriving DecidableEq

/-- The coordinator with a record of its history: the messages given to writers,
with the call that sent each; the targets that have been unregistered and not
registered again since; the calls that inserted a session for such a target. -/
structure Hub where
  coordinator : SessionCoordinator
  sent : List (Nat × Sent)
  departed : List (GoString × Writer)
  late : List Nat

def Hub.after {Point : Type} (hub : Hub) (self : Nat) (step : CallStep Point) : Hub :=
  { hub with
    coordinator := step.coordinator
    sent := hub.sent ++ step.sent.toList.map fun sent => (self, sent) }

def Hub.leave (hub : Hub) (deviceID : GoString) (writer : Writer) : UnregisterPoint → Hub
  | .lock => { hub with departed := (deviceID, writer) :: hub.departed }
  | _ => hub

def Hub.insert (hub : Hub) (self : Nat) (request : ConnectRequest) : ConnectPoint → Hub
  | .insert _ target _ _ =>
      if (request.req.targetDeviceID, target.writer) ∈ hub.departed then
        { hub with late := self :: hub.late }
      else hub
  | _ => hub

def callStep (netip : Netip) (self : Nat) (hub : Hub) (call : Call) (choice : Choice) :
    Option (Hub × Call) :=
  match call with
  | .registerPeer deviceID hostname writer candidates publicPort returned =>
      if returned then none
      else
        some
          ({ hub with
              coordinator := registerPeer netip hub.coordinator deviceID hostname writer
                candidates publicPort
              departed := hub.departed.filter fun target => target ≠ (deviceID, writer) },
            .registerPeer deviceID hostname writer candidates publicPort true)
  | .unregisterPeer deviceID writer point =>
      (planUnregisterPeer hub.coordinator deviceID writer choice point).map fun step =>
        ((hub.after self step).leave deviceID writer point,
          .unregisterPeer deviceID writer step.next)
  | .closeSession sessionID controllerID point =>
      (planCloseSession hub.coordinator sessionID controllerID choice point).map fun step =>
        (hub.after self step, .closeSession sessionID controllerID step.next)
  | .forwardCandidateExchange sessionID fromDeviceID toDeviceID candidates point =>
      (planForwardCandidateExchange netip hub.coordinator sessionID fromDeviceID toDeviceID
        candidates choice point).map fun step =>
          (hub.after self step,
            .forwardCandidateExchange sessionID fromDeviceID toDeviceID candidates step.next)
  | .handleConnectRequest request point =>
      (planHandleConnectRequest netip hub.coordinator request choice point).map fun step =>
        ((hub.after self step).insert self request point, .handleConnectRequest request step.next)

def Call.entry : Call → Bool
  | .registerPeer _ _ _ _ _ returned => !returned
  | .unregisterPeer _ _ .lock => true
  | .closeSession _ _ .lock => true
  | .forwardCandidateExchange _ _ _ _ .start => true
  | .handleConnectRequest _ .start => true
  | _ => false

def program (netip : Netip) : Program Hub Call Choice where
  entry := Call.entry
  step := callStep netip

abbrev HubPool := Pool Hub Call

def initialPool (nanoseconds : UInt32) (authorizes : Bool) : HubPool where
  shared := ⟨{ newSessionCoordinator nanoseconds with authorizes }, [], [], []⟩
  threads := []

def Call.connecting : Call → Bool
  | .handleConnectRequest _ (.returned _) => false
  | .handleConnectRequest _ _ => true
  | _ => false

/-- The notification of a session that was inserted after its target had been
unregistered is not delivered. -/
def NotNotifiedLate (pool : HubPool) : PoolEvent Call Choice → Prop
  | .advance self .written =>
      match pool.threads[self]? with
      | some (.handleConnectRequest _ (.notify _ _ _ _)) => self ∉ pool.shared.late
      | _ => True
  | _ => True

instance (pool : HubPool) (event : PoolEvent Call Choice) :
    Decidable (NotNotifiedLate pool event) := by
  unfold NotNotifiedLate
  split
  · split <;> infer_instance
  · infer_instance

/-! ## Sessions of unregistered targets -/

def ConnectPoint.pending (sessionID : UInt32) : ConnectPoint → Bool
  | .notify _ _ one _ => one = sessionID
  | .rollback one .lock => one = sessionID
  | _ => false

def InHand (pool : HubPool) (sessionID : UInt32) (session : ActiveSession) : Prop :=
  ∃ self ∈ pool.shared.late, ∃ request point,
    pool.threads[self]? = some (.handleConnectRequest request point) ∧
    point.pending sessionID = true ∧ request.controller.deviceID = session.controllerID

def DepartedInHand (pool : HubPool) : Prop :=
  ∀ sessionID session, pool.shared.coordinator.sessions.lookup sessionID = some session →
    (session.targetID, session.targetWriter) ∈ pool.shared.departed →
    InHand pool sessionID session

theorem dropSessions_lookup (gone : List (UInt32 × ActiveSession)) (c : SessionCoordinator)
    (sessionID : UInt32) :
    (c.dropSessions gone).sessions.lookup sessionID =
      if sessionID ∈ gone.map Prod.fst then none else c.sessions.lookup sessionID := by
  unfold SessionCoordinator.dropSessions
  generalize c.sessions = sessions
  induction gone generalizing sessions with
  | nil => rfl
  | cons entry rest induction =>
      simp only [List.foldl_cons, List.map_cons, List.mem_cons]
      rw [induction]
      by_cases later : sessionID ∈ rest.map Prod.fst
      · simp [later]
      · by_cases same : sessionID = entry.1
        · subst same
          simp
        · simp [same, later, AList.lookup_erase_ne same]

@[simp] theorem dropPeer_sessions (c : SessionCoordinator) (deviceID : GoString)
    (writer : Writer) : (c.dropPeer deviceID writer).sessions = c.sessions := by
  unfold SessionCoordinator.dropPeer
  split
  · split <;> rfl
  · rfl

theorem mem_owned {c : SessionCoordinator} {deviceID : GoString} {writer : Writer}
    {sessionID : UInt32} {session : ActiveSession} :
    (sessionID, session) ∈ c.owned deviceID writer ↔
      c.sessions.lookup sessionID = some session ∧ session.targetID = deviceID ∧
        session.targetWriter = writer := by
  rw [← Option.mem_def, AList.mem_lookup_iff, SessionCoordinator.owned, List.mem_map]
  simp only [List.mem_filter, Bool.and_eq_true, decide_eq_true_eq, Prod.mk.injEq]
  constructor
  · rintro ⟨⟨id, one⟩, ⟨member, owned⟩, rfl, rfl⟩
    exact ⟨member, owned⟩
  · rintro ⟨member, owned⟩
    exact ⟨⟨sessionID, session⟩, ⟨member, owned⟩, rfl, rfl⟩

theorem owned_nodup (c : SessionCoordinator) (deviceID : GoString) (writer : Writer) :
    ((c.owned deviceID writer).map Prod.fst).Nodup := by
  have keys : (c.sessions.entries.map Sigma.fst).Nodup := c.sessions.keys_nodup
  unfold SessionCoordinator.owned
  rw [List.map_map]
  exact (List.Sublist.map _ List.filter_sublist).nodup keys

section Steps

variable {netip : Netip} {self : Nat} {pool : HubPool} {thread next : Call} {choice : Choice}
  {moved : Hub}

/-- A step that leaves a session in the table, and its target unregistered, keeps it
in hand, if the stepping call does not let go of it. -/
theorem InHand.keep {sessionID : UInt32} {session : ActiveSession}
    (inHand : InHand pool sessionID session) (present : pool.threads[self]? = some thread)
    (later : ∀ one ∈ pool.shared.late, one ∈ moved.late)
    (holds : ∀ request point, thread = .handleConnectRequest request point →
      self ∈ pool.shared.late → point.pending sessionID = true →
      request.controller.deviceID = session.controllerID →
      ∃ after, next = .handleConnectRequest request after ∧ after.pending sessionID = true) :
    InHand (pool.update self moved next) sessionID session := by
  rcases inHand with ⟨owner, isLate, request, point, found, pending, mine⟩
  by_cases same : owner = self
  · subst same
    rw [present] at found
    cases found
    rcases holds request point rfl isLate pending mine with ⟨after, rfl, still⟩
    exact ⟨owner, later owner isLate, request, after, Pool.update_self present _ _, still, mine⟩
  · refine ⟨owner, later owner isLate, request, point, ?_, pending, mine⟩
    rw [Pool.update_other pool same]
    exact found

theorem DepartedInHand.keep (known : DepartedInHand pool)
    (present : pool.threads[self]? = some thread)
    (fewer : ∀ sessionID session, moved.coordinator.sessions.lookup sessionID = some session →
      (session.targetID, session.targetWriter) ∈ moved.departed →
      pool.shared.coordinator.sessions.lookup sessionID = some session ∧
        (session.targetID, session.targetWriter) ∈ pool.shared.departed)
    (later : ∀ one ∈ pool.shared.late, one ∈ moved.late)
    (holds : ∀ sessionID session,
      moved.coordinator.sessions.lookup sessionID = some session →
      ∀ request point, thread = .handleConnectRequest request point →
        self ∈ pool.shared.late → point.pending sessionID = true →
        request.controller.deviceID = session.controllerID →
        ∃ after, next = .handleConnectRequest request after ∧ after.pending sessionID = true) :
    DepartedInHand (pool.update self moved next) := by
  intro sessionID session found gone
  rcases fewer sessionID session found gone with ⟨before, already⟩
  exact (known sessionID session before already).keep present later
    (holds sessionID session found)

theorem planCloseSession_cases {c : SessionCoordinator} {sessionID : UInt32}
    {controllerID : GoString} {point : ClosePoint} {step : CallStep ClosePoint}
    (planned : planCloseSession c sessionID controllerID choice point = some step) :
    (∀ one session, step.coordinator.sessions.lookup one = some session →
      c.sessions.lookup one = some session) ∧
    (point = .lock → ∀ session, step.coordinator.sessions.lookup sessionID = some session →
      session.controllerID ≠ controllerID) := by
  cases point with
  | lock =>
      simp only [planCloseSession] at planned
      split at planned
      · rename_i absent
        cases planned
        refine ⟨fun one session found => found, fun _ session found => ?_⟩
        rw [absent] at found
        cases found
      · rename_i session present
        split at planned
        · rename_i foreign
          cases planned
          refine ⟨fun one session found => found, fun _ other found => ?_⟩
          rw [present, Option.some.injEq] at found
          simp only [Bool.and_eq_true, decide_eq_true_eq] at foreign
          rw [← found]
          exact foreign.2
        · cases planned
          refine ⟨fun one other found => ?_, fun _ other found => ?_⟩
          · by_cases same : one = sessionID
            · subst same
              simp [SessionCoordinator.removeSession] at found
            · simp only [SessionCoordinator.removeSession, AList.lookup_erase_ne same] at found
              exact found
          · simp [SessionCoordinator.removeSession] at found
  | notify session =>
      simp only [planCloseSession, Option.map_eq_some_iff] at planned
      rcases planned with ⟨_, _, rfl⟩
      exact ⟨fun _ _ found => found, by simp⟩
  | returned => cases planned

theorem sweep_lookup {c : SessionCoordinator} {deviceID : GoString} {writer : Writer}
    {order : List (UInt32 × ActiveSession)} (visited : order.Perm (c.owned deviceID writer))
    {sessionID : UInt32} {session : ActiveSession}
    (found : ((c.dropPeer deviceID writer).dropSessions order).sessions.lookup sessionID =
      some session) :
    c.sessions.lookup sessionID = some session ∧
      (session.targetID, session.targetWriter) ≠ (deviceID, writer) := by
  rw [dropSessions_lookup, dropPeer_sessions] at found
  split at found
  · cases found
  · rename_i absent
    refine ⟨found, fun same => absent ?_⟩
    rw [Prod.mk.injEq] at same
    have owned : (sessionID, session) ∈ c.owned deviceID writer := mem_owned.mpr ⟨found, same⟩
    exact List.mem_map_of_mem (visited.mem_iff.mpr owned)

theorem planUnregisterPeer_sessions {c : SessionCoordinator} {deviceID : GoString}
    {writer : Writer} {point : UnregisterPoint} {step : CallStep UnregisterPoint}
    (planned : planUnregisterPeer c deviceID writer choice point = some step) {sessionID : UInt32}
    {session : ActiveSession}
    (found : step.coordinator.sessions.lookup sessionID = some session) :
    c.sessions.lookup sessionID = some session ∧
      (point = .lock → (session.targetID, session.targetWriter) ≠ (deviceID, writer)) := by
  cases point with
  | lock =>
      simp only [planUnregisterPeer] at planned
      split at planned
      · split at planned
        · rename_i visited
          cases planned
          have swept := sweep_lookup (List.isPerm_iff.mp visited) found
          exact ⟨swept.1, fun _ => swept.2⟩
        · cases planned
      · cases planned
  | notify removed pending =>
      cases pending with
      | nil =>
          cases planned
          exact ⟨found, by simp⟩
      | cons entry rest =>
          simp only [planUnregisterPeer] at planned
          split at planned
          · cases planned
            exact ⟨found, by simp⟩
          · rw [Option.map_eq_some_iff] at planned
            rcases planned with ⟨_, _, rfl⟩
            exact ⟨found, by simp⟩
  | returned => cases planned

theorem planForward_sessions {c : SessionCoordinator} {sessionID : UInt32}
    {fromDeviceID toDeviceID : GoString} {candidates : List CandidateInfo} {point : ForwardPoint}
    {step : CallStep ForwardPoint}
    (planned : planForwardCandidateExchange netip c sessionID fromDeviceID toDeviceID candidates
      choice point = some step) : step.coordinator = c := by
  cases point with
  | write valid session =>
      simp only [planForwardCandidateExchange, Option.map_eq_some_iff] at planned
      rcases planned with ⟨_, _, rfl⟩
      rfl
  | returned => cases planned
  | start | lookup | authorize =>
      simp only [planForwardCandidateExchange] at planned
      repeat' split at planned
      all_goals cases planned
      all_goals rfl

/-- What `HandleConnectRequest` does to the sessions: it inserts its own, or takes
it back, or leaves them. -/
theorem planConnect_cases {c : SessionCoordinator} {request : ConnectRequest}
    {point : ConnectPoint} {step : CallStep ConnectPoint}
    (planned : planHandleConnectRequest netip c request choice point = some step) :
    (∃ candidates target sessionID token, point = .insert candidates target sessionID token ∧
      step.coordinator = c.addSession (request.session target sessionID) ∧
      step.next = .notify candidates target sessionID token) ∨
    (∃ sessionID at_, point = .rollback sessionID at_ ∧ ∃ closing,
      planCloseSession c sessionID request.controller.deviceID choice at_ = some closing ∧
      step.coordinator = closing.coordinator) ∨
    (step.coordinator.sessions = c.sessions ∧
      ((∃ candidates target sessionID token, point = .notify candidates target sessionID token ∧
        (choice = .written ∨ step.next = .rollback sessionID .lock)) ∨
      (∀ sessionID, point.pending sessionID = false))) := by
  cases point with
  | insert candidates target sessionID token =>
      simp only [planHandleConnectRequest] at planned
      split at planned
      · cases planned
        exact .inr (.inr ⟨rfl, .inr fun _ => rfl⟩)
      · cases planned
        exact .inl ⟨candidates, target, sessionID, token, rfl, rfl, rfl⟩
  | notify candidates target sessionID token =>
      simp only [planHandleConnectRequest, Option.map_eq_some_iff] at planned
      rcases planned with ⟨⟨sent, delivered⟩, wrote, rfl⟩
      refine .inr (.inr ⟨rfl, .inl ⟨candidates, target, sessionID, token, rfl, ?_⟩⟩)
      cases choice with
      | written => exact .inl rfl
      | fail =>
          cases wrote
          exact .inr rfl
      | _ => cases wrote
  | rollback sessionID at_ =>
      simp only [planHandleConnectRequest, Option.map_eq_some_iff] at planned
      rcases planned with ⟨closing, closed, rfl⟩
      exact .inr (.inl ⟨sessionID, at_, rfl, closing, closed, rfl⟩)
  | returned => cases planned
  | start | lookup | authorize | number | draw =>
      refine .inr (.inr ⟨?_, .inr fun _ => rfl⟩)
      simp only [planHandleConnectRequest] at planned
      repeat' split at planned
      all_goals cases planned
      all_goals rfl

theorem insert_coordinator (hub : Hub) (self : Nat) (request : ConnectRequest)
    (point : ConnectPoint) :
    (hub.insert self request point).coordinator = hub.coordinator ∧
      (hub.insert self request point).departed = hub.departed ∧
      (hub.insert self request point).sent = hub.sent := by
  unfold Hub.insert
  split
  · split <;> exact ⟨rfl, rfl, rfl⟩
  · exact ⟨rfl, rfl, rfl⟩

theorem insert_late (hub : Hub) (self : Nat) (request : ConnectRequest) (point : ConnectPoint) :
    ∀ one ∈ hub.late, one ∈ (hub.insert self request point).late := by
  intro one member
  unfold Hub.insert
  split
  · split
    · exact List.mem_cons_of_mem _ member
    · exact member
  · exact member

theorem DepartedInHand.connect (known : DepartedInHand pool) {request : ConnectRequest}
    {point : ConnectPoint} {step : CallStep ConnectPoint}
    (present : pool.threads[self]? = some (.handleConnectRequest request point))
    (permitted : NotNotifiedLate pool (.advance self choice))
    (planned : planHandleConnectRequest netip pool.shared.coordinator request choice point =
      some step) :
    DepartedInHand (pool.update self ((pool.shared.after self step).insert self request point)
      (.handleConnectRequest request step.next)) := by
  rcases insert_coordinator (pool.shared.after self step) self request point with
    ⟨coordinator, departed, _⟩
  have later := insert_late (pool.shared.after self step) self request point
  rcases planConnect_cases planned with
    ⟨candidates, target, sessionID, token, rfl, added, notifies⟩ |
      ⟨sessionID, at_, rfl, closing, closed, same⟩ | ⟨same, rest⟩
  · intro one session found gone
    rw [Pool.update_shared, coordinator] at found
    rw [Pool.update_shared, departed] at gone
    change step.coordinator.sessions.lookup one = some session at found
    rw [added] at found
    by_cases mine : one = sessionID
    · subst mine
      have equal : request.session target one = session := by
        have found : (pool.shared.coordinator.sessions.insert one
          (request.session target one)).lookup one = some session := found
        rw [AList.lookup_insert, Option.some.injEq] at found
        exact found
      subst equal
      refine ⟨self, ?_, request, step.next, Pool.update_self present _ _, ?_, rfl⟩
      · have gone : (request.req.targetDeviceID, target.writer) ∈
          (pool.shared.after self step).departed := gone
        simp only [Pool.update_shared, Hub.insert]
        rw [if_pos gone]
        exact List.mem_cons_self
      · rw [notifies]
        exact decide_eq_true rfl
    · have before : pool.shared.coordinator.sessions.lookup one = some session := by
        have found : (pool.shared.coordinator.sessions.insert sessionID
          (request.session target sessionID)).lookup one = some session := found
        rw [AList.lookup_insert_ne mine] at found
        exact found
      refine (known one session before gone).keep present later ?_
      intro _ _ equal _ pending
      cases equal
      cases pending
  · refine known.keep present ?_ later ?_
    · intro one session found gone
      rw [coordinator] at found
      rw [departed] at gone
      change step.coordinator.sessions.lookup one = some session at found
      rw [same] at found
      exact ⟨(planCloseSession_cases closed).1 one session found, gone⟩
    · intro one session found _ _ equal _ pending mine
      rw [coordinator] at found
      change step.coordinator.sessions.lookup one = some session at found
      rw [same] at found
      cases equal
      cases at_ with
      | lock =>
          have equal : sessionID = one := of_decide_eq_true pending
          subst equal
          exact absurd mine.symm ((planCloseSession_cases closed).2 rfl session found)
      | notify | returned => cases pending
  · refine known.keep present ?_ later ?_
    · intro one session found gone
      rw [coordinator] at found
      rw [departed] at gone
      change step.coordinator.sessions.lookup one = some session at found
      rw [same] at found
      exact ⟨found, gone⟩
    · intro one session _ _ _ equal isLate pending _
      cases equal
      rcases rest with ⟨candidates, target, sessionID, token, rfl, rfl | rolls⟩ | idle
      · simp only [NotNotifiedLate, present] at permitted
        exact absurd isLate permitted
      · refine ⟨_, rfl, ?_⟩
        rw [rolls]
        exact pending
      · rw [idle one] at pending
        cases pending

theorem DepartedInHand.step (known : DepartedInHand pool)
    (present : pool.threads[self]? = some thread)
    (permitted : NotNotifiedLate pool (.advance self choice))
    (taken : (program netip).step self pool.shared thread choice = some (moved, next)) :
    DepartedInHand (pool.update self moved next) := by
  change callStep netip self pool.shared thread choice = some (moved, next) at taken
  cases thread with
  | registerPeer deviceID hostname writer candidates publicPort returned =>
      simp only [callStep] at taken
      split at taken
      · cases taken
      · cases taken
        refine known.keep present (fun one session found gone => ⟨found, ?_⟩)
          (fun _ member => member) (fun _ _ _ _ _ equal => by cases equal)
        exact (List.mem_filter.mp gone).1
  | unregisterPeer deviceID writer point =>
      simp only [callStep, Option.map_eq_some_iff] at taken
      rcases taken with ⟨step, planned, equal⟩
      cases equal
      cases point with
      | lock =>
          refine known.keep present (fun one session found gone => ?_) (fun _ member => member)
            (fun _ _ _ _ _ equal => by cases equal)
          rcases planUnregisterPeer_sessions planned found with ⟨before, other⟩
          refine ⟨before, ?_⟩
          rcases List.mem_cons.mp gone with same | already
          · exact absurd same (other rfl)
          · exact already
      | notify | returned =>
          refine known.keep present (fun one session found gone => ⟨?_, gone⟩)
            (fun _ member => member) (fun _ _ _ _ _ equal => by cases equal)
          exact (planUnregisterPeer_sessions planned found).1
  | closeSession sessionID controllerID point =>
      simp only [callStep, Option.map_eq_some_iff] at taken
      rcases taken with ⟨step, planned, equal⟩
      cases equal
      refine known.keep present (fun one session found gone => ⟨?_, gone⟩)
        (fun _ member => member) (fun _ _ _ _ _ equal => by cases equal)
      exact (planCloseSession_cases planned).1 one session found
  | forwardCandidateExchange sessionID fromDeviceID toDeviceID candidates point =>
      simp only [callStep, Option.map_eq_some_iff] at taken
      rcases taken with ⟨step, planned, equal⟩
      cases equal
      have same := planForward_sessions planned
      refine known.keep present (fun one session found gone => ⟨?_, gone⟩) (fun _ member => member)
        (fun _ _ _ _ _ equal => by cases equal)
      rw [← same]
      exact found
  | handleConnectRequest request point =>
      simp only [callStep, Option.map_eq_some_iff] at taken
      rcases taken with ⟨step, planned, equal⟩
      cases equal
      exact known.connect present permitted planned

theorem DepartedInHand.start (known : DepartedInHand pool) (added : Call) :
    DepartedInHand (pool.start added) := by
  intro sessionID session found gone
  rcases known sessionID session found gone with ⟨owner, isLate, request, point, there, rest⟩
  exact ⟨owner, isLate, request, point, Pool.start_old there added, rest⟩

end Steps

/-! ## Notices to controllers -/

def Hub.sentBy (hub : Hub) (self : Nat) : List (Nat × ControlMessage) :=
  hub.sent.filterMap fun entry =>
    if entry.1 = self then some (entry.2.writer, entry.2.message) else none

/-- One SESSION_CLOSE for each session, to its controller. -/
def notices (removed : List (UInt32 × ActiveSession)) : List (Nat × ControlMessage) :=
  removed.filterMap fun (sessionID, session) =>
    session.controllerWriter.map fun stream => (stream, sessionClose sessionID)

def NoticeKnown (self : Nat) (pool : HubPool) : Call → Prop
  | .unregisterPeer _ _ .lock => pool.shared.sentBy self = []
  | .unregisterPeer _ _ (.notify removed pending) =>
      (removed.map Prod.fst).Nodup ∧
        ∃ done, removed = done ++ pending ∧ pool.shared.sentBy self = notices done
  | .unregisterPeer _ _ (.returned removed) =>
      (removed.map Prod.fst).Nodup ∧ pool.shared.sentBy self = notices removed
  | _ => True

def noticeOutline : Program.Outline Hub Call where
  global pool := ∀ entry ∈ pool.shared.sent, entry.1 < pool.threads.length
  assertion := NoticeKnown

section Notices

variable {netip : Netip} {self : Nat} {hub moved : Hub} {thread next : Call} {choice : Choice}

theorem sentBy_none {one : Nat} (none : ∀ entry ∈ hub.sent, entry.1 ≠ one) :
    hub.sentBy one = [] := by
  rw [Hub.sentBy, List.filterMap_eq_nil_iff]
  intro entry member
  rw [if_neg (none entry member)]

theorem callStep_sent (taken : callStep netip self hub thread choice = some (moved, next)) :
    ∃ extra : List Sent, moved.sent = hub.sent ++ extra.map fun sent => (self, sent) := by
  cases thread with
  | registerPeer deviceID hostname writer candidates publicPort returned =>
      simp only [callStep] at taken
      split at taken
      · cases taken
      · cases taken
        exact ⟨[], by simp⟩
  | unregisterPeer deviceID writer point =>
      simp only [callStep, Option.map_eq_some_iff] at taken
      rcases taken with ⟨step, planned, equal⟩
      cases equal
      cases point <;> exact ⟨step.sent.toList, rfl⟩
  | closeSession | forwardCandidateExchange =>
      simp only [callStep, Option.map_eq_some_iff] at taken
      rcases taken with ⟨step, planned, equal⟩
      cases equal
      exact ⟨step.sent.toList, rfl⟩
  | handleConnectRequest request point =>
      simp only [callStep, Option.map_eq_some_iff] at taken
      rcases taken with ⟨step, planned, equal⟩
      cases equal
      exact ⟨step.sent.toList, (insert_coordinator _ _ _ _).2.2⟩

theorem sentBy_other (taken : callStep netip self hub thread choice = some (moved, next))
    {one : Nat} (different : one ≠ self) : moved.sentBy one = hub.sentBy one := by
  rcases callStep_sent taken with ⟨extra, sent⟩
  have silent : (extra.map fun sent => (self, sent)).filterMap (fun entry =>
      if entry.1 = one then some (entry.2.writer, entry.2.message) else none) = [] := by
    rw [List.filterMap_eq_nil_iff]
    intro entry member
    rcases List.mem_map.mp member with ⟨_, _, rfl⟩
    exact if_neg (Ne.symm different)
  rw [Hub.sentBy, sent, List.filterMap_append, silent, List.append_nil]
  rfl

theorem sentBy_after {Point : Type} (hub : Hub) (self : Nat) (step : CallStep Point) :
    (hub.after self step).sentBy self =
      hub.sentBy self ++ (step.sent.map fun sent => (sent.writer, sent.message)).toList := by
  unfold Hub.sentBy Hub.after
  cases step.sent <;> simp

theorem unregister_known {deviceID : GoString} {writer : Writer} {point : UnregisterPoint}
    {pool : HubPool} {step : CallStep UnregisterPoint}
    (known : NoticeKnown self pool (.unregisterPeer deviceID writer point))
    (planned : planUnregisterPeer pool.shared.coordinator deviceID writer choice point =
      some step) (moved : HubPool)
    (sent : moved.shared.sentBy self = (pool.shared.after self step).sentBy self) :
    NoticeKnown self moved (.unregisterPeer deviceID writer step.next) := by
  rw [sentBy_after] at sent
  cases point with
  | lock =>
      have silent : pool.shared.sentBy self = [] := known
      simp only [planUnregisterPeer] at planned
      split at planned
      · split at planned
        · rename_i order visited
          cases planned
          refine ⟨?_, [], rfl, ?_⟩
          · exact (((List.isPerm_iff.mp visited).map _).nodup_iff).mpr
              (owned_nodup pool.shared.coordinator deviceID writer)
          · rw [sent, silent]
            rfl
        · cases planned
      · cases planned
  | notify removed pending =>
      rcases known with ⟨distinct, done, rfl, given⟩
      cases pending with
      | nil =>
          cases planned
          refine ⟨distinct, ?_⟩
          rw [sent, given, List.append_nil]
          simp
      | cons entry rest =>
          rcases entry with ⟨sessionID, session⟩
          have split_ : done ++ (sessionID, session) :: rest = (done ++ [(sessionID, session)]) ++ rest := by
            simp
          simp only [planUnregisterPeer] at planned
          split at planned
          · rename_i none
            cases planned
            refine ⟨distinct, done ++ [(sessionID, session)], split_, ?_⟩
            rw [sent, given]
            simp [notices, none]
          · rename_i stream some
            rw [Option.map_eq_some_iff] at planned
            rcases planned with ⟨⟨result, delivered⟩, wrote, rfl⟩
            refine ⟨distinct, done ++ [(sessionID, session)], split_, ?_⟩
            have message : result.map (fun sent => (sent.writer, sent.message)) =
                Option.some (stream, sessionClose sessionID) := by
              cases choice <;> cases wrote <;> rfl
            rw [sent, given]
            simp [notices, some, message]
  | returned => cases planned

theorem noticeOutline_valid : noticeOutline.Valid (program netip) Machine.Unrestricted where
  started pool thread holds enters _ := by
    have silent : ∀ entry ∈ pool.shared.sent, entry.1 ≠ pool.threads.length :=
      fun entry member => Nat.ne_of_lt (holds.global entry member)
    refine ⟨fun entry member => ?_, ?_⟩
    · have bound := holds.global entry member
      simp only [Pool.start, List.length_append, List.length_singleton]
      omega
    · cases thread with
      | unregisterPeer deviceID writer point =>
          cases point with
          | lock => exact sentBy_none silent
          | notify | returned => cases enters
      | _ => trivial
  undisturbedByStart pool thread other bystander holds _ _ found := by
    have known := holds.thread other bystander found
    cases bystander with
    | unregisterPeer deviceID writer point => cases point <;> exact known
    | _ => trivial
  sequential pool self thread choice moved next holds present _ taken := by
    have taken : callStep netip self pool.shared thread choice = some (moved, next) := taken
    refine ⟨fun entry member => ?_, ?_⟩
    · rcases callStep_sent taken with ⟨extra, sent⟩
      rw [Pool.update_shared, sent, List.mem_append] at member
      rw [Pool.update_length]
      rcases member with before | new
      · exact holds.global entry before
      · rcases List.mem_map.mp new with ⟨_, _, rfl⟩
        exact (List.getElem?_eq_some_iff.mp present).1
    · have known := holds.thread self thread present
      cases thread with
      | unregisterPeer deviceID writer point =>
          simp only [callStep, Option.map_eq_some_iff] at taken
          rcases taken with ⟨step, planned, equal⟩
          cases equal
          refine unregister_known known planned _ ?_
          cases point <;> rfl
      | registerPeer =>
          simp only [callStep] at taken
          split at taken <;> cases taken
          trivial
      | closeSession | forwardCandidateExchange | handleConnectRequest =>
          simp only [callStep, Option.map_eq_some_iff] at taken
          rcases taken with ⟨_, _, equal⟩
          cases equal
          trivial
  interferenceFree pool self thread choice moved next other bystander holds present _ taken
      different found := by
    have known : NoticeKnown other pool bystander := holds.thread other bystander found
    have same : moved.sentBy other = pool.shared.sentBy other := sentBy_other taken different
    change NoticeKnown other (pool.update self moved next) bystander
    cases bystander with
    | unregisterPeer deviceID writer point =>
        cases point <;> simpa only [NoticeKnown, Pool.update_shared, same] using known
    | _ => trivial

end Notices

/-! ## What a sweep takes out of the table -/

/-- `removed` lists the sessions of this target, and they have left the table. -/
structure Sweeps (deviceID : GoString) (writer : Writer)
    (removed : List (UInt32 × ActiveSession)) (before after : SessionCoordinator) : Prop where
  taken : ∀ sessionID session, (sessionID, session) ∈ removed ↔
    before.sessions.lookup sessionID = some session ∧ session.targetID = deviceID ∧
      session.targetWriter = writer
  left : ∀ sessionID, after.sessions.lookup sessionID =
    if sessionID ∈ removed.map Prod.fst then none else before.sessions.lookup sessionID

/-- The sessions that an `UnregisterPeer` has taken out of the table. -/
def Call.removed : Call → Option (GoString × Writer × List (UInt32 × ActiveSession))
  | .unregisterPeer deviceID writer (.notify removed _) => some (deviceID, writer, removed)
  | .unregisterPeer deviceID writer (.returned removed) => some (deviceID, writer, removed)
  | _ => none

section Sweeps

variable {netip : Netip} {self : Nat} {hub moved : Hub} {thread next : Call} {choice : Choice}
  {deviceID : GoString} {writer : Writer} {removed : List (UInt32 × ActiveSession)}

theorem planUnregisterPeer_removed {c : SessionCoordinator} {point : UnregisterPoint}
    {step : CallStep UnregisterPoint}
    (planned : planUnregisterPeer c deviceID writer choice point = some step) :
    (∃ removed, point = .lock ∧ step.next = .notify removed removed ∧
        Sweeps deviceID writer removed c step.coordinator) ∨
      (Call.unregisterPeer deviceID writer point).removed.isSome ∧
        (Call.unregisterPeer deviceID writer step.next).removed =
          (Call.unregisterPeer deviceID writer point).removed := by
  cases point with
  | lock =>
      refine .inl ?_
      simp only [planUnregisterPeer] at planned
      split at planned
      · split at planned
        · rename_i order visited
          cases planned
          refine ⟨order, rfl, rfl, fun sessionID session => ?_, fun sessionID => ?_⟩
          · rw [(List.isPerm_iff.mp visited).mem_iff, mem_owned]
          · rw [dropSessions_lookup, dropPeer_sessions]
        · cases planned
      · cases planned
  | notify removed pending =>
      refine .inr ⟨rfl, ?_⟩
      cases pending with
      | nil =>
          cases planned
          rfl
      | cons entry rest =>
          simp only [planUnregisterPeer] at planned
          split at planned
          · cases planned
            rfl
          · rw [Option.map_eq_some_iff] at planned
            rcases planned with ⟨_, _, rfl⟩
            rfl
  | returned => cases planned

/-- A step that leaves a call with sessions taken is its sweep, or follows it. -/
theorem callStep_removed (taken : callStep netip self hub thread choice = some (moved, next))
    (made : next.removed = some (deviceID, writer, removed)) :
    (thread = .unregisterPeer deviceID writer .lock ∧
        Sweeps deviceID writer removed hub.coordinator moved.coordinator) ∨
      thread.removed = some (deviceID, writer, removed) := by
  cases thread with
  | unregisterPeer device stream point =>
      simp only [callStep, Option.map_eq_some_iff] at taken
      rcases taken with ⟨step, planned, equal⟩
      cases equal
      rcases planUnregisterPeer_removed planned with ⟨swept, rfl, notifies, sweeps⟩ | ⟨_, same⟩
      · rw [notifies] at made
        cases made
        exact .inl ⟨rfl, sweeps⟩
      · exact .inr (same ▸ made)
  | registerPeer =>
      simp only [callStep] at taken
      split at taken <;> cases taken
      cases made
  | closeSession | forwardCandidateExchange | handleConnectRequest =>
      simp only [callStep, Option.map_eq_some_iff] at taken
      rcases taken with ⟨_, _, equal⟩
      cases equal
      cases made

theorem removed_marks (netip : Netip) : (program netip).Marks Call.removed where
  entry thread enters := by
    cases thread with
    | unregisterPeer deviceID writer point =>
        cases point with
        | lock => rfl
        | _ => cases enters
    | _ => rfl
  kept self hub thread choice moved next value taken marked := by
    have taken : callStep netip self hub thread choice = some (moved, next) := taken
    cases thread with
    | unregisterPeer device stream point =>
        simp only [callStep, Option.map_eq_some_iff] at taken
        rcases taken with ⟨step, planned, equal⟩
        cases equal
        rcases planUnregisterPeer_removed planned with ⟨_, rfl, _⟩ | ⟨_, same⟩
        · cases marked
        · exact same ▸ marked
    | _ => cases marked

end Sweeps

/-- The step of this run at which the call took `removed` out of the table. -/
def SweptDuring (netip : Netip) (start pool : HubPool) (events : List (PoolEvent Call Choice))
    (self : Nat) (deviceID : GoString) (writer : Writer)
    (removed : List (UInt32 × ActiveSession)) : Prop :=
  ∃ past choice rest before after, events = past ++ .advance self choice :: rest ∧
    (program netip).machine.Run NotNotifiedLate start past before ∧
    before.threads[self]? = some (.unregisterPeer deviceID writer .lock) ∧
    (program netip).machine.step before (.advance self choice) = some after ∧
    Sweeps deviceID writer removed before.shared.coordinator after.shared.coordinator ∧
    (program netip).machine.Run NotNotifiedLate after rest pool

theorem sweptDuring_of_run {netip : Netip} {start pool : HubPool}
    {events : List (PoolEvent Call Choice)} (idle : start.threads = [])
    (run : (program netip).machine.Run NotNotifiedLate start events pool) {self : Nat}
    {deviceID : GoString} {writer : Writer} {removed : List (UInt32 × ActiveSession)}
    (found : pool.threads[self]? =
      some (.unregisterPeer deviceID writer (.returned removed))) :
    SweptDuring netip start pool events self deviceID writer removed := by
  rcases (removed_marks netip).exists_step (by simp [idle]) run found rfl with
    ⟨past, choice, rest, before, source, moved, next, rfl, earlier, present, none, taken, made,
      later⟩
  rcases callStep_removed taken made with ⟨rfl, sweeps⟩ | already
  · exact ⟨past, choice, rest, before, _, rfl, earlier, present,
      Program.machine_advance present taken, sweeps, later⟩
  · rw [already] at none
    cases none

/-- Where no notification is delivered for a session that was inserted after its
target had been unregistered: while no `HandleConnectRequest` is under way the
target of no session is unregistered, and an `UnregisterPeer` that has returned has
taken the sessions of its target out of the table, all at one step, and sent one
SESSION_CLOSE to the controller of each. -/
theorem no_session_outlives_target {netip : Netip} {nanoseconds : UInt32} {authorizes : Bool}
    {events : List (PoolEvent Call Choice)} {pool : HubPool}
    (run : (program netip).machine.Run NotNotifiedLate (initialPool nanoseconds authorizes)
      events pool) :
    ((∀ thread ∈ pool.threads, thread.connecting = false) →
      ∀ sessionID session, pool.shared.coordinator.sessions.lookup sessionID = some session →
        (session.targetID, session.targetWriter) ∉ pool.shared.departed) ∧
    ∀ self deviceID writer removed,
      pool.threads[self]? = some (.unregisterPeer deviceID writer (.returned removed)) →
        SweptDuring netip (initialPool nanoseconds authorizes) pool events self deviceID writer
          removed ∧
        (removed.map Prod.fst).Nodup ∧ pool.shared.sentBy self = notices removed := by
  have inHand : DepartedInHand pool := by
    refine run.preserves ?_ fun middle event later known permitted taken => ?_
    · intro sessionID session found
      simp [initialPool, newSessionCoordinator] at found
    · rcases Program.step_cases taken with
        ⟨thread, rfl, _, rfl⟩ | ⟨self, choice, thread, hub, next, rfl, present, step, rfl⟩
      · exact known.start thread
      · exact known.step present permitted step
  have noticed : noticeOutline.Holds pool := by
    refine noticeOutline_valid.run ⟨fun entry member => ?_, fun self thread present => ?_⟩
      (run.weaken fun _ _ _ => trivial)
    · cases member
    · cases present
  refine ⟨fun quiet sessionID session found gone => ?_, fun self deviceID writer removed found =>
    ⟨sweptDuring_of_run rfl run found, noticed.thread self _ found⟩⟩
  rcases inHand sessionID session found gone with ⟨self, _, request, point, there, pending, _⟩
  have waiting := quiet _ (List.mem_of_getElem? there)
  cases point with
  | returned => cases pending
  | _ => cases waiting

def noAddresses : Netip := ⟨fun _ => none, fun _ => []⟩

def requestT : ConnectRequest where
  controller := { deviceID := [0x63], writer := some 2 }
  req := { type := .connectRequest, targetDeviceID := [0x74] }
  publicHost := []

def sessionT : ActiveSession := ⟨0x80000001, [0x63], [0x74], some 2, some 1⟩

def lookedUp : List (PoolEvent Call Choice) :=
  [.spawn (.registerPeer [0x74] [] (some 1) [] 0 false), .advance 0 .proceed,
    .spawn (.handleConnectRequest requestT .start), .advance 1 .proceed, .advance 1 .proceed]

def connected : List (PoolEvent Call Choice) :=
  [.advance 1 (.authorized true), .advance 1 .proceed, .advance 1 (.token [9]),
    .advance 1 .proceed, .advance 1 .written]

/-- The target goes after the request has returned. -/
theorem no_session_outlives_target_swept :
    ∃ events pool, (program noAddresses).machine.Run NotNotifiedLate (initialPool 0 true)
        events pool ∧
      pool.shared.coordinator.sessions.lookup 0x80000001 = none ∧
      pool.shared.sentBy 2 = [(2, sessionClose 0x80000001)] := by
  have found := (program noAddresses).machine.exists_run NotNotifiedLate
    (fun pool => pool.shared.coordinator.sessions.lookup 0x80000001 = none ∧
      pool.threads[2]? = some (.unregisterPeer [0x74] (some 1) (.returned [(0x80000001, sessionT)])))
    (initialPool 0 true)
    (lookedUp ++ connected ++ [.spawn (.unregisterPeer [0x74] (some 1) .lock),
      .advance 2 (.visit [(0x80000001, sessionT)]), .advance 2 .written, .advance 2 .proceed])
    (by decide +kernel)
  rcases found with ⟨pool, run, gone, returned⟩
  exact ⟨_, pool, run, gone,
    ((no_session_outlives_target run).2 2 [0x74] (some 1) _ returned).2.2⟩

/-- The target goes between the lookup of the request and its insertion, and the
notification is delivered: the session stays. -/
theorem session_outlives_target :
    ∃ events pool, (program noAddresses).machine.Run Machine.Unrestricted (initialPool 0 true)
        events pool ∧
      pool.threads[2]? = some (.unregisterPeer [0x74] (some 1) (.returned [])) ∧
      (∀ thread ∈ pool.threads, thread.connecting = false) ∧
      ([0x74], some 1) ∈ pool.shared.departed ∧
      pool.shared.coordinator.sessions.lookup 0x80000001 = some sessionT := by
  rcases (program noAddresses).machine.exists_run Machine.Unrestricted
    (fun pool =>
      pool.threads[2]? = some (.unregisterPeer [0x74] (some 1) (.returned [])) ∧
      (∀ thread ∈ pool.threads, thread.connecting = false) ∧
      ([0x74], some 1) ∈ pool.shared.departed ∧
      pool.shared.coordinator.sessions.lookup 0x80000001 = some sessionT) (initialPool 0 true)
    (lookedUp ++ [.spawn (.unregisterPeer [0x74] (some 1) .lock), .advance 2 (.visit []),
      .advance 2 .proceed] ++ connected)
    (by decide +kernel) with ⟨pool, run, reached⟩
  exact ⟨_, pool, run, reached⟩

end Rdpulse.Signaling
