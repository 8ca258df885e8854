import Rdpulse.Agent.ConnectingControllers

namespace Rdpulse.Agent.CandidateRefresh

open Foundation Protocol
open Signaling (Netip SessionCoordinator ActiveSession validateCandidates)

/-! Every update comes a step further with each step of the loops, until its controller
has it. -/

section Controllers

variable {netip : Netip} {state moved : State} {pool : RefreshPool} {choice : Choice}
  {self tr : Nat} {sessionID : UInt32} {session : ActiveSession}

def Informed (netip : Netip) (pool : RefreshPool) : Prop :=
  pool.threads[2]? ≠ some (.refresh .routes) →
    ∀ (tr : Nat) (sessionID : UInt32) (session : ActiveSession),
      pool.shared.coordinator.sessions.lookup sessionID = some session →
      session.controllerWriter = some tr → live pool sessionID session = true →
      pool.shared.told netip tr sessionID = true ∨ pending netip pool sessionID session = true

theorem live_iff : live pool sessionID session = true ↔
    session.targetWriter = some agentWriter ∧ ∃ tr deviceID req publicHost,
      session.controllerWriter = some tr ∧
      pool.threads[tr]? = some (.controller deviceID req publicHost (.serving sessionID)) := by
  unfold live
  rw [Bool.and_eq_true, decide_eq_true_eq]
  refine and_congr_right fun _ => ⟨fun serves => ?_, fun serves => ?_⟩
  · cases writes : session.controllerWriter with
    | none => simp [writes] at serves
    | some tr =>
        simp only [writes, Option.bind_some] at serves
        split at serves
        · rename_i deviceID req publicHost one present
          rw [of_decide_eq_true serves] at present
          exact ⟨tr, deviceID, req, publicHost, rfl, present⟩
        · cases serves
  · rcases serves with ⟨tr, deviceID, req, publicHost, writes, present⟩
    simp [writes, present]

theorem pending_iff : pending netip pool sessionID session = true ↔
    session.controllerID ≠ pool.shared.deviceID ∧
      ((∃ routes, pool.threads[2]? = some (.refresh (.pushing routes)) ∧
          (sessionID, session.controllerID) ∈ routes) ∨
        (∃ message ∈ pool.shared.toRelay,
          pool.shared.updates sessionID session message = true) ∨
        ∃ message point, pool.threads[0]? = some (.controlLoop (.forward message point)) ∧
          pool.shared.updates sessionID session message = true ∧
          towards netip pool.shared.previous session point = true) := by
  have routed : (pool.threads[2]?.any fun party =>
      (sessionID, session.controllerID) ∈ party.remaining) = true ↔
        ∃ routes, pool.threads[2]? = some (.refresh (.pushing routes)) ∧
          (sessionID, session.controllerID) ∈ routes := by
    rw [Option.any_eq_true]
    refine ⟨fun found => ?_, fun found => ?_⟩
    · rcases found with ⟨party, present, member⟩
      have member := of_decide_eq_true member
      unfold Party.remaining at member
      split at member
      · exact ⟨_, present, member⟩
      · cases member
    · rcases found with ⟨routes, present, member⟩
      exact ⟨_, present, decide_eq_true member⟩
  have forwarded : (pool.threads[0]?.any fun party =>
      party.forwards netip pool.shared sessionID session) = true ↔
        ∃ message point, pool.threads[0]? = some (.controlLoop (.forward message point)) ∧
          pool.shared.updates sessionID session message = true ∧
          towards netip pool.shared.previous session point = true := by
    rw [Option.any_eq_true]
    refine ⟨fun found => ?_, fun found => ?_⟩
    · rcases found with ⟨party, present, forwards⟩
      unfold Party.forwards at forwards
      split at forwards
      · rw [Bool.and_eq_true] at forwards
        exact ⟨_, _, present, forwards⟩
      · cases forwards
    · rcases found with ⟨message, point, present, forwards⟩
      exact ⟨_, present, Bool.and_eq_true _ _ ▸ forwards⟩
  unfold pending
  rw [Bool.and_eq_true, decide_eq_true_eq, Bool.or_eq_true, Bool.or_eq_true, routed, forwarded,
    List.any_eq_true, or_assoc]

/-! What has been told stays told while the set stays. -/

theorem mem_dropWhile_concat {α : Type} {sought : α → Bool} {values : List α} {last : α}
    (found : ∃ value ∈ values ++ [last], sought value = true) :
    last ∈ (values ++ [last]).dropWhile fun value => !sought value := by
  induction values with
  | nil =>
      rcases found with ⟨value, member, same⟩
      rw [List.nil_append, List.mem_singleton] at member
      subst member
      simp [same]
  | cons first rest induction =>
      rw [List.cons_append, List.dropWhile_cons]
      split
      · rename_i skipped
        refine induction ?_
        rcases found with ⟨value, member, same⟩
        rcases List.mem_cons.mp member with rfl | later
        · rw [same] at skipped
          cases skipped
        · exact ⟨value, later, same⟩
      · simp

theorem any_dropWhile_append {α : Type} {skipped wanted : α → Bool} {values : List α}
    (found : (values.dropWhile skipped).any wanted = true) (extra : List α) :
    ((values ++ extra).dropWhile skipped).any wanted = true := by
  rw [List.dropWhile_append]
  split
  · rename_i none
    rw [List.isEmpty_iff.mp none] at found
    cases found
  · rw [List.any_append, found, Bool.true_or]

theorem told_mono (told : state.told netip tr sessionID = true)
    (previous : moved.previous = state.previous)
    (given : ∃ extra, moved.given = state.given ++ extra) :
    moved.told netip tr sessionID = true := by
  rcases given with ⟨extra, given⟩
  unfold State.told
  rw [received_append given, previous]
  exact any_dropWhile_append told _

theorem told_last {message : ControlMessage}
    (given : state.received tr = moved.received tr ++ [message])
    (responded : ∃ one ∈ state.received tr, isResponse sessionID one = true)
    (of : message.sessionID = sessionID) (shown : shows netip state.previous message = true) :
    state.told netip tr sessionID = true := by
  unfold State.told
  rw [given] at responded ⊢
  rw [List.any_eq_true]
  exact ⟨message, mem_dropWhile_concat responded, by simp [of, shown]⟩

/-! Of a set of LAN candidates, all that the coordinator keeps are LAN candidates. -/

theorem validateLoop_lan {seen : List GoString} {validated candidates valid : List CandidateInfo}
    (taken : Signaling.validateLoop netip seen validated candidates = .ok valid)
    (before : ∀ candidate ∈ validated, candidate.type = Signaling.candidateLAN)
    (lan : ∀ candidate ∈ candidates, candidate.type = Signaling.candidateLAN) :
    ∀ candidate ∈ valid, candidate.type = Signaling.candidateLAN := by
  induction candidates generalizing seen validated with
  | nil =>
      cases taken
      exact before
  | cons first rest induction =>
      have later : ∀ candidate ∈ rest, candidate.type = Signaling.candidateLAN :=
        fun candidate member => lan candidate (List.mem_cons_of_mem _ member)
      unfold Signaling.validateLoop at taken
      split at taken
      · cases taken
      · split at taken
        · cases taken
        · split at taken
          · cases taken
          · split at taken
            · cases taken
            · simp only at taken
              split at taken
              · exact induction taken before later
              · refine induction taken (fun candidate member => ?_) later
                rcases List.mem_append.mp member with old | new
                · exact before candidate old
                · rw [List.mem_singleton.mp new]
                  exact lan first List.mem_cons_self

theorem shows_valid {candidates valid : List CandidateInfo} {message : ControlMessage}
    (lan : (candidates.all fun candidate => candidate.type = Signaling.candidateLAN) = true)
    (checked : validateCandidates netip candidates = .ok valid)
    (carries : message.candidates = valid) : shows netip candidates message = true := by
  have kept : filterLANCandidates valid = valid := by
    rw [filterLANCandidates, List.filter_eq_self]
    unfold validateCandidates at checked
    split at checked
    · cases checked
    · intro candidate member
      refine decide_eq_true (validateLoop_lan checked (fun _ none => by cases none) ?_
        candidate member)
      simpa using lan
  simp [shows, sameSet, checked, carries, kept]

/-! One step of each thread. -/

theorem updates_congr (same : moved.previous = state.previous) (message : ControlMessage) :
    moved.updates sessionID session message = state.updates sessionID session message := by
  unfold State.updates
  rw [same]

theorem pending_keep {next : Party} (quiet : Quiet pool.shared moved) (first : self ≠ 0)
    (third : self ≠ 2) (sending : pending netip pool sessionID session = true) :
    pending netip (pool.update self moved next) sessionID session = true := by
  rw [pending_iff] at sending ⊢
  rw [Pool.update_other pool (Ne.symm first), Pool.update_other pool (Ne.symm third),
    Pool.update_shared, quiet.deviceID, quiet.toRelay, quiet.previous]
  simp only [updates_congr quiet.previous]
  exact sending

theorem live_cases {party next : Party} (present : pool.threads[self]? = some party)
    (lives : live (pool.update self moved next) sessionID session = true)
    (writes : session.controllerWriter = some tr) :
    (live pool sessionID session = true ∧ tr ≠ self) ∨
      tr = self ∧ ∃ deviceID req publicHost,
        next = .controller deviceID req publicHost (.serving sessionID) := by
  rw [live_iff] at lives
  rcases lives with ⟨agent, one, deviceID, req, publicHost, same, serving⟩
  rw [writes, Option.some.injEq] at same
  subst same
  by_cases own : tr = self
  · subst own
    rw [Pool.update_self present, Option.some.injEq] at serving
    exact .inr ⟨rfl, deviceID, req, publicHost, serving⟩
  · rw [Pool.update_other pool own] at serving
    exact .inl ⟨live_iff.mpr ⟨agent, tr, deviceID, req, publicHost, writes, serving⟩, own⟩

theorem controllerStep_serving {deviceID publicHost : GoString} {req : ControlMessage}
    {point : ControllerPoint}
    (taken : controllerStep netip self state deviceID req publicHost choice point =
      some (moved, .serving sessionID)) :
    ∃ resp, point = .respond resp ∧ resp.sessionID = sessionID ∧ choice = .signal .written ∧
      moved = state.deliver (some ⟨self, resp, true⟩) := by
  cases point with
  | connect point =>
      simp only [controllerStep] at taken
      split at taken
      · rcases Option.map_eq_some_iff.mp taken with ⟨made, _, equal⟩
        rw [Prod.mk.injEq] at equal
        have resumed := equal.2
        unfold resume at resumed
        repeat' split at resumed
        all_goals cases resumed
      · cases taken
  | respond resp =>
      simp only [controllerStep] at taken
      split at taken
      · rename_i signal
        rcases Option.map_eq_some_iff.mp taken with ⟨⟨sent, delivered⟩, written, equal⟩
        rw [Prod.mk.injEq] at equal
        cases delivered with
        | false => cases equal.2
        | true =>
            cases signal <;> cases written
            exact ⟨resp, rfl, by simpa using equal.2, rfl, equal.1.symm⟩
      · cases taken
  | serving one =>
      simp only [controllerStep] at taken
      split at taken <;> cases taken
  | closing one point =>
      cases point with
      | returned => cases taken
      | lock | notify =>
          simp only [controllerStep] at taken
          split at taken
          · rcases Option.map_eq_some_iff.mp taken with ⟨_, _, equal⟩
            cases equal
          · cases taken
  | finished => cases taken

theorem Informed.quiet {party next : Party} (informed : Informed netip pool)
    (fresh : AllFresh netip pool) (holds : (knownOutline netip).Holds pool)
    (present : pool.threads[self]? = some party)
    (taken : step netip self pool.shared party choice = some (moved, next))
    (loop : ∀ point, party ≠ .controlLoop point) (refresh : ∀ point, party ≠ .refresh point) :
    Informed netip (pool.update self moved next) := by
  have quiet := step_quiet taken loop refresh
  have known := holds.thread self party present
  have place : self ≠ 0 ∧ self ≠ 2 := by
    cases party with
    | controlLoop point => exact absurd rfl (loop point)
    | refresh point => exact absurd rfl (refresh point)
    | messageReader =>
        have place : self = 1 := known
        omega
    | controller =>
        have place : 2 < self := known.1
        omega
    | registerPeer | unregisterPeer =>
        have place : 2 < self := known
        omega
  intro later tr sessionID session found writes lives
  rw [Pool.update_other pool (Ne.symm place.2)] at later
  rcases live_cases present lives writes with ⟨old, different⟩ | ⟨rfl, deviceID, req, publicHost, rfl⟩
  · rcases step_sessions taken found with before | ⟨own, _⟩
    · rcases informed later tr sessionID session before writes old with told | sending
      · exact .inl (told_mono told quiet.previous quiet.given)
      · exact .inr (pending_keep quiet place.1 place.2 sending)
    · rw [writes, Option.some.injEq] at own
      exact absurd own different
  · cases party with
    | controller name asked host point =>
        simp only [step, Option.map_eq_some_iff] at taken
        rcases taken with ⟨⟨_, reached⟩, taken, equal⟩
        cases equal
        rcases controllerStep_serving taken with ⟨resp, rfl, of, rfl, rfl⟩
        subst of
        rw [Pool.update_shared, deliver_coordinator] at found
        have type : resp.type = .connectResponse := known.2.2
        have other : tr ≠ agentWriter := by simp only [agentWriter]; omega
        have shown : shows netip pool.shared.previous resp = true :=
          fresh later tr _ _ _ _ present
            ⟨resp.sessionID, session, found, writes, (live_iff.mp lives).1⟩
        have received : (pool.shared.deliver (some ⟨tr, resp, true⟩)).received tr =
            pool.shared.received tr ++ [resp] := by
          simp [State.deliver, other, State.received]
        refine .inl (told_last received ?_ rfl ?_)
        · refine ⟨resp, ?_, ?_⟩
          · simp [State.deliver, other, State.received]
          · simp [isResponse, type]
        · rw [Pool.update_shared, quiet.previous]
          exact shown
    | controlLoop | messageReader | refresh | registerPeer | unregisterPeer =>
        simp only [step] at taken
        try split at taken
        all_goals simp at taken

theorem Informed.start {thread : Party} (informed : Informed netip pool)
    (holds : (knownOutline netip).Holds pool) (enters : thread.entry = true) :
    Informed netip (pool.start thread) := by
  have bound := holds.global.1
  have old : ∀ one, one ≤ 2 → (pool.start thread).threads[one]? = pool.threads[one]? := by
    intro one small
    simp only [Pool.start]
    exact List.getElem?_append_left (by omega)
  intro later tr sessionID session found writes lives
  rw [old 2 (by omega)] at later
  rcases live_iff.mp lives with ⟨agent, one, deviceID, req, publicHost, same, serving⟩
  rcases Pool.start_cases serving with before | ⟨_, rfl⟩
  · rcases informed later tr sessionID session found writes
      (live_iff.mpr ⟨agent, one, deviceID, req, publicHost, same, before⟩) with told | sending
    · exact .inl told
    · rw [pending_iff] at sending ⊢
      rw [old 2 (by omega), old 0 (by omega)]
      exact .inr sending
  · cases enters

theorem pending_refresh {point next : RefreshPoint}
    (present : pool.threads[2]? = some (.refresh point))
    (deviceID : moved.deviceID = pool.shared.deviceID)
    (previous : moved.previous = pool.shared.previous)
    (toRelay : ∀ message ∈ pool.shared.toRelay, message ∈ moved.toRelay)
    (routed : ∀ routes, point = .pushing routes → (sessionID, session.controllerID) ∈ routes →
      (∃ rest, next = .pushing rest ∧ (sessionID, session.controllerID) ∈ rest) ∨
        ∃ message ∈ moved.toRelay, moved.updates sessionID session message = true)
    (sending : pending netip pool sessionID session = true) :
    pending netip (pool.update 2 moved (.refresh next)) sessionID session = true := by
  have zero : (0 : Nat) ≠ 2 := by decide
  rw [pending_iff] at sending ⊢
  rw [Pool.update_other pool zero, Pool.update_self present, Pool.update_shared, deviceID, previous]
  rcases sending with ⟨other, ⟨routes, at_, member⟩ | ⟨message, member, of⟩ | forwarding⟩
  · rw [present, Option.some.injEq, Party.refresh.injEq] at at_
    rcases routed routes at_ member with ⟨rest, rfl, waiting⟩ | ⟨message, sent, of⟩
    · exact ⟨other, .inl ⟨rest, rfl, waiting⟩⟩
    · exact ⟨other, .inr (.inl ⟨message, sent, of⟩)⟩
  · refine ⟨other, .inr (.inl ⟨message, toRelay message member, ?_⟩)⟩
    rw [updates_congr previous]
    exact of
  · simp only [updates_congr previous]
    exact ⟨other, .inr (.inr forwarding)⟩

theorem Informed.refresh {point next : RefreshPoint} (informed : Informed netip pool)
    (present : pool.threads[2]? = some (.refresh point))
    (forwarded : Forwarded netip pool (.advance 2 choice))
    (apart : ChangesApart netip pool (.advance 2 choice))
    (taken : refreshStep pool.shared choice point = some (moved, next)) :
    Informed netip (pool.update 2 moved (.refresh next)) := by
  intro later tr sessionID session found writes lives
  rw [Pool.update_self present] at later
  rw [Pool.update_shared] at found ⊢
  have old : live pool sessionID session = true := by
    rcases live_cases present lives writes with ⟨old, _⟩ | ⟨_, _, _, _, serving⟩
    · exact old
    · cases serving
  rcases refreshStep_cases taken with ⟨rfl, rfl, rfl⟩ | ⟨_, rfl, _⟩ |
    ⟨rfl, rfl, routes, rfl, visited⟩ | ⟨rfl, rfl, rfl⟩ |
    ⟨route, rest, rfl, rfl, ⟨rfl, rfl⟩ | ⟨rfl, rfl⟩⟩
  · rcases informed (by rw [present]; exact later) tr sessionID session found writes old with
      told | sending
    · exact .inl told
    · exact .inr (pending_refresh present rfl rfl (fun _ member => member)
        (fun _ same => by cases same) sending)
  · exact absurd rfl later
  · simp only [ChangesApart, present] at apart
    rcases apart.2 ⟨sessionID, session⟩ (AList.mem_lookup_iff.mp found) old with
      ⟨registered, other⟩
    refine .inr (pending_iff.mpr ⟨other, .inl ⟨routes, Pool.update_self present _ _, ?_⟩⟩)
    refine visited.mem_iff.mpr (List.mem_map.mpr ⟨⟨sessionID, session.controllerID⟩, ?_, rfl⟩)
    exact AList.mem_lookup_iff.mp registered
  · rcases informed (by rw [present]; exact fun same => by cases same) tr sessionID session found
      writes old with told | sending
    · exact .inl told
    · refine .inr (pending_refresh present rfl rfl (fun _ member => member)
        (fun _ same member => ?_) sending)
      cases same
      cases member
  · rcases informed (by rw [present]; exact fun same => by cases same) tr sessionID session found
      writes old with told | sending
    · exact .inl (told_mono told rfl ⟨[], by simp⟩)
    · refine .inr (pending_refresh present rfl rfl
        (fun _ member => List.mem_append_left _ member) (fun _ same member => ?_) sending)
      cases same
      rcases List.mem_cons.mp member with rfl | waiting
      · refine .inr ⟨_, List.mem_append_right _ (List.mem_singleton_self _), ?_⟩
        simp [State.updates, candidateUpdate]
      · exact .inl ⟨rest, rfl, waiting⟩
  · simp [Forwarded, present] at forwarded

theorem forward_progress {message : ControlMessage} {point : Signaling.ForwardPoint}
    {signal : Signaling.Choice} {made : Signaling.CallStep Signaling.ForwardPoint}
    (discovered : Discovered netip state.previous)
    (coordinator : CoordinatorKnown state.deviceID state.coordinator)
    (found : state.coordinator.sessions.lookup sessionID = some session)
    (writes : session.controllerWriter = some tr) (agent : session.targetWriter = some agentWriter)
    (other : session.controllerID ≠ state.deviceID)
    (of : state.updates sessionID session message = true)
    (toward : towards netip state.previous session point = true)
    (allowed : ∀ valid authorizes one, point = .authorize valid authorizes one →
      signal = .authorized true)
    (written : ∀ valid one, point = .write valid one → signal = .written)
    (planned : Signaling.planForwardCandidateExchange netip state.coordinator message.sessionID
      state.deviceID message.targetDeviceID message.candidates signal point = some made) :
    towards netip state.previous session made.next = true ∨
      ∃ given, made.sent = some ⟨tr, given, true⟩ ∧ given.sessionID = sessionID ∧
        shows netip state.previous given = true := by
  simp only [State.updates, Bool.and_eq_true, decide_eq_true_eq] at of
  rcases of with ⟨⟨rfl, target⟩, candidates⟩
  rcases coordinator.sessions _ session found with ⟨named, ours⟩
  have sides : session.counterpart state.deviceID =
      (session.controllerID, session.controllerWriter) := by
    rw [ActiveSession.counterpart, if_neg (Ne.symm other), if_pos (ours agent).symm]
  cases point with
  | start =>
      rw [candidates] at planned
      cases checked : validateCandidates netip state.previous with
      | error text =>
          have accepted := discovered.2
          rw [checked] at accepted
          cases accepted
      | ok valid =>
          simp only [Signaling.planForwardCandidateExchange, checked, Option.some.injEq] at planned
          rw [← planned]
          simp [towards, checked, Except.toOption]
  | lookup valid =>
      simp only [Signaling.planForwardCandidateExchange, found, sides, target, writes, named,
        reduceCtorEq, decide_false, Bool.or_self, Bool.false_eq_true, if_false, ne_eq,
        not_true_eq_false, Bool.and_false, Option.some.injEq] at planned
      rw [← planned]
      have checked : (validateCandidates netip state.previous).toOption = some valid :=
        of_decide_eq_true toward
      simp [towards, checked, coordinator.authorizes]
  | authorize valid authorizes one =>
      have signal := allowed valid authorizes one rfl
      subst signal
      simp only [towards, Bool.and_eq_true, decide_eq_true_eq] at toward
      rcases toward with ⟨⟨checked, rfl⟩, rfl⟩
      simp only [Signaling.planForwardCandidateExchange, Bool.not_true, Bool.or_self,
        Bool.false_eq_true, if_false, Option.some.injEq] at planned
      rw [← planned]
      simp [towards, checked]
  | write valid one =>
      have signal := written valid one rfl
      subst signal
      simp only [towards, Bool.and_eq_true, decide_eq_true_eq] at toward
      rcases toward with ⟨checked, rfl⟩
      simp only [Signaling.planForwardCandidateExchange, sides, Signaling.write, writes,
        Option.map_some, Option.some.injEq] at planned
      rw [← planned]
      refine .inr ⟨_, rfl, rfl, ?_⟩
      cases verdict : validateCandidates netip state.previous with
      | error text =>
          rw [verdict] at checked
          cases checked
      | ok kept =>
          rw [verdict] at checked
          cases checked
          exact shows_valid discovered.1 verdict rfl
  | returned result => cases toward

theorem Informed.loop {point next : LoopPoint} (informed : Informed netip pool)
    (holds : (knownOutline netip).Holds pool)
    (present : pool.threads[0]? = some (.controlLoop point))
    (forwarded : Forwarded netip pool (.advance 0 choice))
    (taken : loopStep netip pool.shared choice point = some (moved, next)) :
    Informed netip (pool.update 0 moved (.controlLoop next)) := by
  have two : (2 : Nat) ≠ 0 := by decide
  rcases holds.global with ⟨_, discovered, coordinator⟩
  intro later tr sessionID session found writes lives
  rw [Pool.update_other pool two] at later
  have old : live pool sessionID session = true := by
    rcases live_cases present lives writes with ⟨old, _⟩ | ⟨_, _, _, _, serving⟩
    · exact old
    · cases serving
  have stepped : step netip 0 pool.shared (.controlLoop point) choice =
      some (moved, .controlLoop next) := by simp [step, taken]
  have before : pool.shared.coordinator.sessions.lookup sessionID = some session := by
    rcases step_sessions stepped found with before | ⟨_, _, _, _, _, same⟩
    · exact before
    · cases same
  have same : moved.deviceID = pool.shared.deviceID ∧ moved.previous = pool.shared.previous := by
    rcases loopStep_cases taken with ⟨_, _, _, _, _, _, rfl, _⟩ | ⟨_, _, _, _, rfl⟩ |
      ⟨_, _, _, made, _, _, _, rfl, _⟩
    · exact ⟨rfl, rfl⟩
    · exact ⟨rfl, rfl⟩
    · exact ⟨(after_quiet _ made).deviceID, (after_quiet _ made).previous⟩
  rcases informed later tr sessionID session before writes old with told | sending
  · exact .inl (told_mono told same.2 (step_given stepped).2)
  rw [pending_iff] at sending
  rw [Pool.update_shared, pending_iff, Pool.update_self present, Pool.update_other pool two,
    Pool.update_shared, same.1, same.2]
  simp only [updates_congr same.2]
  rcases sending with ⟨other, routed | ⟨message, member, of⟩ | ⟨message, at_, at_point, of, toward⟩⟩
  · exact .inr ⟨other, .inl routed⟩
  · -- A queued update is read, or stays in the queue.
    rcases loopStep_cases taken with ⟨rfl, first, rest, answer, queue, rfl, rfl, rfl⟩ |
      ⟨_, _, _, _, rfl⟩ | ⟨_, _, _, made, _, _, _, rfl, _⟩
    · simp only [Forwarded, present, Choice.signal.injEq, Signaling.Choice.authorized.injEq]
        at forwarded
      subst forwarded
      rw [queue] at member
      rcases List.mem_cons.mp member with rfl | waiting
      · exact .inr ⟨other, .inr (.inr ⟨message, .start, rfl, of, rfl⟩)⟩
      · exact .inr ⟨other, .inr (.inl ⟨message, waiting, of⟩)⟩
    · exact .inr ⟨other, .inr (.inl ⟨message, member, of⟩)⟩
    · rw [(after_quiet _ made).toRelay]
      exact .inr ⟨other, .inr (.inl ⟨message, member, of⟩)⟩
  · -- An update that is being forwarded comes a step further.
    rw [present, Option.some.injEq, Party.controlLoop.injEq] at at_point
    subst at_point
    rcases loopStep_cases taken with ⟨point, _⟩ | ⟨_, _, point, _, _⟩ |
      ⟨_, _, signal, made, point, rfl, planned, rfl, rfl⟩
    · cases point
    · cases point
      cases toward
    · cases point
      have agent := (live_iff.mp old).1
      have allowed : ∀ valid authorizes one, at_ = .authorize valid authorizes one →
          signal = .authorized true := by
        intro valid authorizes one at_point
        subst at_point
        simpa [Forwarded, present] using forwarded
      have written : ∀ valid one, at_ = .write valid one → signal = .written := by
        intro valid one at_point
        subst at_point
        simpa [Forwarded, present] using forwarded
      rcases forward_progress discovered coordinator before writes agent other of toward allowed
        written planned with further | ⟨given, sent, named, shown⟩
      · exact .inr ⟨other, .inr (.inr ⟨message, made.next, rfl, of, further⟩)⟩
      · rcases live_iff.mp old with ⟨_, one, name, req, publicHost, wrote, serving⟩
        rw [writes, Option.some.injEq] at wrote
        subst wrote
        rcases holds.thread tr _ serving with ⟨big, _, message, member, responds⟩
        have different : tr ≠ agentWriter := by simp only [agentWriter]; omega
        have received : (pool.shared.after made).received tr =
            pool.shared.received tr ++ [given] := by
          simp [State.received, State.after, State.deliver, sent, different]
        refine .inl (told_last received ⟨message, ?_, responds⟩ named ?_)
        · rw [received]
          exact List.mem_append_left _ member
        · rw [same.2]
          exact shown

end Controllers

structure Delivers (netip : Netip) (pool : RefreshPool) : Prop where
  known : (knownOutline netip).Holds pool
  owned : ownedOutline.Holds pool
  fresh : AllFresh netip pool
  informed : Informed netip pool

theorem Delivers.step {netip : Netip} {pool after : RefreshPool} {event : PoolEvent Party Choice}
    (delivers : Delivers netip pool) (forwarded : Forwarded netip pool event)
    (apart : ChangesApart netip pool event)
    (taken : (program netip).machine.step pool event = some after) : Delivers netip after := by
  refine ⟨knownOutline_valid.step delivers.known forwarded taken,
    ownedOutline_valid.step delivers.owned delivers.known taken, ?_, ?_⟩
  · rcases Program.step_cases taken with
      ⟨thread, rfl, enters, rfl⟩ | ⟨self, choice, party, moved, next, rfl, present, step, rfl⟩
    · exact delivers.fresh.start delivers.known enters
    · exact delivers.fresh.advance delivers.known delivers.owned present apart step
  · rcases Program.step_cases taken with
      ⟨thread, rfl, enters, rfl⟩ | ⟨self, choice, party, moved, next, rfl, present, step, rfl⟩
    · exact delivers.informed.start delivers.known enters
    · have place := delivers.known.thread self party present
      have taken : CandidateRefresh.step netip self pool.shared party choice =
          some (moved, next) := step
      cases party with
      | controlLoop point =>
          subst (place : self = 0)
          simp only [program, CandidateRefresh.step, Option.map_eq_some_iff] at step
          rcases step with ⟨⟨_, _⟩, step, equal⟩
          cases equal
          exact delivers.informed.loop delivers.known present forwarded step
      | refresh point =>
          subst (place : self = 2)
          simp only [program, CandidateRefresh.step, Option.map_eq_some_iff] at step
          rcases step with ⟨⟨_, _⟩, step, equal⟩
          cases equal
          exact delivers.informed.refresh present forwarded apart step
      | messageReader | controller | registerPeer | unregisterPeer =>
          exact delivers.informed.quiet delivers.fresh delivers.known present taken
            (fun _ same => by cases same) fun _ same => by cases same

theorem delivers_initial {netip : Netip} {nanoseconds : UInt32} {deviceID hostname : GoString}
    {initial : List CandidateInfo} {publicPort : UInt16}
    (discovered : Discovered netip (filterLANCandidates initial)) :
    Delivers netip (initialPool netip nanoseconds deviceID hostname initial publicPort) := by
  refine ⟨knownOutline_initial discovered, ownedOutline_initial, fun _ tr _ _ _ _ found => ?_,
    fun _ tr sessionID session found => ?_⟩
  · rcases tr with _ | _ | _ | _ <;> cases found
  · simp [initialPool, Signaling.registerPeer, SessionCoordinator.setPeer,
      Signaling.newSessionCoordinator] at found

/-- In every run in which the loop's updates are delivered, and the changes of its set
stay apart from the CONNECT_REQUESTs: where the loop is at rest, every live session has
been given its set. -/
theorem candidates_current {netip : Netip} {nanoseconds : UInt32} {deviceID hostname : GoString}
    {initial : List CandidateInfo} {publicPort : UInt16} {events : List (PoolEvent Party Choice)}
    {pool : RefreshPool} (discovered : Discovered netip (filterLANCandidates initial))
    (run : (program netip).machine.Run
      (fun pool event => Forwarded netip pool event ∧ ChangesApart netip pool event)
      (initialPool netip nanoseconds deviceID hostname initial publicPort) events pool)
    (rests : AtRest pool) : Current netip pool := by
  have delivers : Delivers netip pool := run.preserves (delivers_initial discovered)
    fun _ _ _ delivers permitted taken => delivers.step permitted.1 permitted.2 taken
  rcases rests with ⟨waiting, empty, reading⟩
  intro tr sessionID session found writes lives
  rcases delivers.informed (by rw [waiting]; exact fun same => by cases same) tr sessionID session
    found writes lives with told | sending
  · exact told
  · rw [pending_iff, waiting, empty, reading] at sending
    rcases sending with ⟨_, ⟨_, same, _⟩ | ⟨_, member, _⟩ | ⟨_, _, same, _⟩⟩
    · cases same
    · cases member
    · cases same

def address (digit : UInt8) : GoString :=
  [0x31, 0x30, 0x2e, 0x30, 0x2e, 0x30, 0x2e, digit, 0x3a, 0x31]

def twoAddresses : Netip where
  parseAddrPort text :=
    if text = address 0x35 then some ⟨.v4 0x0A000005, 1⟩
    else if text = address 0x36 then some ⟨.v4 0x0A000006, 1⟩
    else none
  string addr := if addr = ⟨.v4 0x0A000005, 1⟩ then address 0x35 else address 0x36

def lanCandidate (digit : UInt8) : CandidateInfo :=
  ⟨Signaling.protocolUDP, Signaling.candidateLAN, address digit, 100⟩

def agentT : RefreshPool := initialPool twoAddresses 0 [0x54] [] [lanCandidate 0x35] 3389

def turn (self : Nat) (choices : List Choice) : List (PoolEvent Party Choice) :=
  choices.map (.advance self)

def connects (self : Nat) : List (PoolEvent Party Choice) :=
  .spawn (.controller [0x43] { type := .connectRequest, targetDeviceID := [0x54] } []
    (.connect .start)) ::
  turn self [.signal .proceed, .signal .proceed, .signal (.authorized true), .signal .proceed,
    .signal (.token [1]), .signal .proceed, .signal .written, .signal .written]

def tick : List (PoolEvent Party Choice) :=
  turn 2 [.discovered (some [lanCandidate 0x36]), .visit [(0x80000001, [0x43])],
    .signal .written, .proceed] ++
  turn 0 [.signal (.authorized true), .signal .proceed, .signal .proceed,
    .signal (.authorized true), .signal .written, .proceed]

def sessionC (sessionID : UInt32) (tr : Nat) : ActiveSession :=
  ⟨sessionID, [0x43], [0x54], some tr, some agentWriter⟩

instance (pool : RefreshPool) : Decidable (AtRest pool) :=
  inferInstanceAs (Decidable (_ ∧ _))

/-- The session that there was at the tick is told. -/
theorem candidates_current_refreshed :
    ∃ events pool, (program twoAddresses).machine.Run
        (fun pool event => Forwarded twoAddresses pool event ∧ ChangesApart twoAddresses pool event)
        agentT events pool ∧
      pool.shared.previous = [lanCandidate 0x36] ∧
      pool.shared.told twoAddresses 3 0x80000001 = true := by
  have found := (program twoAddresses).machine.exists_run
    (fun pool event => Forwarded twoAddresses pool event ∧ ChangesApart twoAddresses pool event)
    (fun pool => AtRest pool ∧ pool.shared.previous = [lanCandidate 0x36] ∧
      pool.shared.coordinator.sessions.lookup 0x80000001 = some (sessionC 0x80000001 3) ∧
      live pool 0x80000001 (sessionC 0x80000001 3) = true)
    agentT (connects 3 ++ turn 1 [.proceed] ++ tick) (by decide +kernel)
  rcases found with ⟨pool, run, rests, previous, present, lives⟩
  have discovered : Discovered twoAddresses (filterLANCandidates [lanCandidate 0x35]) := by
    decide +kernel
  exact ⟨_, pool, run, previous,
    candidates_current discovered run rests 3 0x80000001 _ present rfl lives⟩

/-- The session that comes up after the tick has the addresses of the registration. -/
theorem later_session_outdated :
    ∃ events pool, (program twoAddresses).machine.Run (Forwarded twoAddresses) agentT events pool ∧
      AtRest pool ∧ ¬ Current twoAddresses pool := by
  have found := (program twoAddresses).machine.exists_run (Forwarded twoAddresses)
    (fun pool => AtRest pool ∧
      pool.shared.coordinator.sessions.lookup 0x80000002 = some (sessionC 0x80000002 4) ∧
      live pool 0x80000002 (sessionC 0x80000002 4) = true ∧
      pool.shared.told twoAddresses 4 0x80000002 = false)
    agentT (connects 3 ++ turn 1 [.proceed] ++ tick ++ connects 4)
    (by decide +kernel)
  rcases found with ⟨pool, run, rests, present, lives, untold⟩
  refine ⟨_, pool, run, rests, fun current => ?_⟩
  have told := current 4 0x80000002 _ present rfl lives
  rw [untold] at told
  cases told

end Rdpulse.Agent.CandidateRefresh
