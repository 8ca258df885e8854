import Rdpulse.Relay.HandlerStages

namespace Rdpulse.Relay

open Foundation Protocol Storage

/-! Devices that the console has disabled. The flag is read once, before AUTH_OK,
and the online session is looked for once, after the flag is set. -/

def Stage.registering (deviceID : GoString) : Stage → Bool
  | .admitted one | .holding one _ => one = deviceID
  | _ => false

def Thread.enables (deviceID : GoString) : Thread → Bool
  | .toggleDevice one true .setEnabled => one = deviceID
  | _ => false

def Thread.toEnabled (deviceID : GoString) : Thread → Bool
  | .toggleDevice one true _ => one = deviceID
  | _ => false

def Thread.disables : Thread → Option GoString
  | .toggleDevice deviceID false .setEnabled => some deviceID
  | _ => none

def Thread.deletes : Thread → Bool
  | .deleteDevice _ .deleteAgent => true
  | _ => false

/-- The console deletes no device. -/
def KeepsDevices (pool : RelayPool) : PoolEvent Thread Choice → Prop
  | .advance self _ => ∀ thread ∈ pool.threads[self]?, thread.deletes = false
  | .spawn _ => True

/-- When a device is disabled it has a row, no handler of the device is on its way
from the record to its registration, and no earlier request is about to enable it. -/
def DisablesCalmly (pool : RelayPool) : PoolEvent Thread Choice → Prop
  | .advance self choice =>
      KeepsDevices pool (.advance self choice) ∧
        ∀ thread ∈ pool.threads[self]?, ∀ deviceID ∈ thread.disables,
          (pool.shared.db.agents.lookup deviceID).isSome = true ∧
            (∀ stage ∈ stages pool, stage.registering deviceID = false) ∧
            ∀ other ∈ pool.threads.take self, other.enables deviceID = false
  | .spawn _ => True

instance (pool : RelayPool) (event : PoolEvent Thread Choice) :
    Decidable (KeepsDevices pool event) := by
  rcases event with _ | ⟨self, choice⟩ <;> unfold KeepsDevices <;> infer_instance

instance (pool : RelayPool) (event : PoolEvent Thread Choice) :
    Decidable (DisablesCalmly pool event) := by
  rcases event with _ | ⟨self, choice⟩ <;> unfold DisablesCalmly <;> infer_instance

def TogglePoint.set : TogglePoint → Bool
  | .disconnect _ | .answered => true
  | .setEnabled | .failed => false

def TogglePoint.cleared : TogglePoint → Bool
  | .disconnect (.close _) | .disconnect .returned | .answered => true
  | .disconnect .lock | .setEnabled | .failed => false

def NoneSince (pool : RelayPool) (self : Nat) (deviceID : GoString) : Prop :=
  ∀ later (thread : Thread), self < later → pool.threads[later]? = some thread →
    thread.toEnabled deviceID = false

structure Off (pool : RelayPool) (deviceID : GoString) : Prop where
  row : ∃ row, pool.shared.db.agents.lookup deviceID = some row ∧ row.enabled = false
  registering : ∀ self, (stageOf pool self).registering deviceID = false
  enabling : ∀ (self : Nat) (thread : Thread), pool.threads[self]? = some thread →
    thread.enables deviceID = false

variable {netip : Signaling.Netip} {pool : RelayPool} {self : Nat} {choice : Choice}
  {thread next : Thread} {moved : AgentManager} {deviceID : GoString}

/-! ## Steps while a device is off -/

theorem setAgentEnabled_off {db : Database} {one : GoString} {enabled : Bool}
    (off : ∃ row, db.agents.lookup deviceID = some row ∧ row.enabled = false)
    (other : one = deviceID → enabled = false) :
    ∃ row, (db.setAgentEnabled one enabled).agents.lookup deviceID = some row ∧
      row.enabled = false := by
  rcases off with ⟨row, present, disabled⟩
  rw [Database.setAgentEnabled, Database.updateAgent_lookup]
  by_cases same : deviceID = one
  · rw [if_pos same, present]
    exact ⟨_, rfl, other same.symm⟩
  · rw [if_neg same]
    exact ⟨row, present, disabled⟩

theorem created_other {db after : Database} {a : AgentRecord} {token : GoString} {now : Time}
    {failure : Option Database.TransactionStage}
    (created : db.createAgentWithEnrollment a token now failure = .ok after)
    (apart : deviceID ≠ a.deviceID) :
    after.agents.lookup deviceID = db.agents.lookup deviceID := by
  rw [Database.createAgentWithEnrollment_agents created, Database.insertAgent_lookup_other a apart]

theorem Off.handler (off : Off pool deviceID) {stage : Stage}
    (step : StageStep self pool.shared (stageOf pool self) moved stage) :
    (∃ row, moved.db.agents.lookup deviceID = some row ∧ row.enabled = false) ∧
      stage.registering deviceID = false ∧
      (pool.shared.agentsByDevice.lookup deviceID = none →
        moved.agentsByDevice.lookup deviceID = none) := by
  have idle := off.registering self
  rcases off.row with ⟨row, present, disabled⟩
  generalize stageOf pool self = stage_ at step idle
  cases step with
  | stay same =>
      rw [same.db, same.agentsByDevice]
      exact ⟨⟨row, present, disabled⟩, idle, id⟩
  | drop same =>
      rw [same.db, same.agentsByDevice]
      exact ⟨⟨row, present, disabled⟩, rfl, id⟩
  | @accept one _ same enabled =>
      rw [same.db, same.agentsByDevice]
      refine ⟨⟨row, present, disabled⟩, ?_, id⟩
      simp only [Stage.registering, decide_eq_false_iff_not]
      rintro rfl
      have on := enabled row present
      rw [disabled] at on
      cases on
  | enroll created =>
      simp only [Stage.registering, decide_eq_false_iff_not] at idle
      exact ⟨⟨row, (created_other created (Ne.symm idle)).trans present, disabled⟩, rfl, id⟩
  | create created =>
      simp only [Stage.registering, decide_eq_false_iff_not] at idle ⊢
      exact ⟨⟨row, (created_other created (Ne.symm idle)).trans present, disabled⟩, idle, id⟩
  | allocate => exact ⟨⟨row, present, disabled⟩, idle, id⟩
  | update =>
      simp only [Stage.registering, decide_eq_false_iff_not] at idle ⊢
      refine ⟨⟨row, ?_, disabled⟩, idle, id⟩
      rw [Database.updateAgentRegistration, Database.updateAgent_lookup, if_neg (Ne.symm idle)]
      exact present
  | register =>
      simp only [Stage.registering, decide_eq_false_iff_not] at idle
      rw [registerOnline_db]
      refine ⟨⟨row, present, disabled⟩, rfl, fun absent => ?_⟩
      rw [registerOnline_agentsByDevice, AList.lookup_insert_ne (Ne.symm idle)]
      exact absent
  | announce same | withdraw same =>
      rw [same.db, same.agentsByDevice]
      exact ⟨⟨row, present, disabled⟩, rfl, id⟩
  | leave =>
      rw [removeOnline_db]
      refine ⟨⟨row, present, disabled⟩, rfl, fun absent => ?_⟩
      rw [removeOnline_lookup, absent]
      split <;> rfl

theorem Off.console (off : Off pool deviceID) (present : pool.threads[self]? = some thread)
    (step : ConsoleStep pool.shared thread moved)
    (keeps : KeepsDevices pool (.advance self choice)) :
    (∃ row, moved.db.agents.lookup deviceID = some row ∧ row.enabled = false) ∧
      (pool.shared.agentsByDevice.lookup deviceID = none →
        moved.agentsByDevice.lookup deviceID = none) := by
  have idle := off.enabling self thread present
  have kept := keeps thread present
  cases step with
  | quiet same =>
      rw [same.db, same.agentsByDevice]
      exact ⟨off.row, id⟩
  | disconnect =>
      rw [removeDevice_db]
      refine ⟨off.row, fun absent => ?_⟩
      rw [removeDevice_lookup, absent]
      split <;> rfl
  | deleteAgent => cases kept
  | releasePort => exact ⟨off.row, id⟩
  | @setEnabled one enabled =>
      refine ⟨setAgentEnabled_off off.row ?_, id⟩
      rintro rfl
      cases enabled with
      | false => rfl
      | true => simp [Thread.enables] at idle
  | @editInvitation edit =>
      refine ⟨?_, id⟩
      change ∃ row, (edit.apply pool.shared.db).agents.lookup deviceID = some row ∧ _
      rw [editInvitation_agents]
      exact off.row

/-! ## Requests to disable a device -/

theorem plan_toggle {enabled : Bool} {point : TogglePoint} {action : Action} {m : AgentManager}
    (planned : plan netip m self choice (.toggleDevice deviceID enabled point) =
      some (action, next)) :
    ∃ after, next = .toggleDevice deviceID enabled after ∧
      planToggle m deviceID enabled choice point = some (action, after) := by
  simp only [plan, Option.map_eq_some_iff] at planned
  rcases planned with ⟨⟨taken, after⟩, stepped, equal⟩
  cases equal
  exact ⟨after, rfl, stepped⟩

theorem plan_handler {point : HandlerPoint} {action : Action} {m : AgentManager}
    (planned : plan netip m self choice (.handler point) = some (action, next)) :
    ∃ after, next = .handler after := by
  simp only [plan, Option.map_eq_some_iff] at planned
  rcases planned with ⟨⟨taken, after⟩, _, equal⟩
  cases equal
  exact ⟨after, rfl⟩

theorem toEnabled_step {action : Action} {m : AgentManager}
    (planned : plan netip m self choice thread = some (action, next)) :
    next.toEnabled deviceID = thread.toEnabled deviceID ∧ next.enables deviceID = false := by
  cases thread with
  | handler point =>
      rcases plan_handler planned with ⟨after, rfl⟩
      exact ⟨rfl, rfl⟩
  | toggleDevice one enabled point =>
      rcases plan_toggle planned with ⟨after, rfl, stepped⟩
      refine ⟨by cases enabled <;> rfl, ?_⟩
      cases after with
      | setEnabled =>
          -- No step leads back to the start.
          cases point with
          | setEnabled =>
              unfold planToggle at stepped
              cases stored : m.hasDB <;> rw [stored] at stepped <;> cases enabled <;>
                first | cases stepped | (cases choice <;> cases stepped)
          | disconnect point =>
              cases point <;> cases stepped
          | answered | failed => cases stepped
      | _ => cases enabled <;> rfl
  | deleteDevice one point | disconnectDevice one point =>
      simp only [plan, Option.map_eq_some_iff] at planned
      rcases planned with ⟨⟨taken, after⟩, _, equal⟩
      cases equal
      exact ⟨rfl, rfl⟩
  | editInvitation edit returned =>
      cases returned <;> cases choice <;> cases planned <;> exact ⟨rfl, rfl⟩
  | updateAccessPolicy allowAll accessMap returned =>
      cases returned <;> cases planned
      exact ⟨rfl, rfl⟩

/-- Where a request to disable the device has set the flag and none to enable it has
begun since, the device is off; past the critical section of `DisconnectDevice` it is
also offline. -/
structure DisabledStayOff (pool : RelayPool) : Prop where
  stored : pool.shared.hasDB = true
  off : ∀ (self : Nat) (deviceID : GoString) (point : TogglePoint),
    pool.threads[self]? = some (.toggleDevice deviceID false point) → point.set = true →
    NoneSince pool self deviceID → Off pool deviceID
  offline : ∀ (self : Nat) (deviceID : GoString) (point : TogglePoint),
    pool.threads[self]? = some (.toggleDevice deviceID false point) → point.cleared = true →
    NoneSince pool self deviceID → pool.shared.agentsByDevice.lookup deviceID = none

theorem TogglePoint.set_of_cleared {point : TogglePoint} (cleared : point.cleared = true) :
    point.set = true := by
  cases point with
  | disconnect | answered => rfl
  | setEnabled | failed => cases cleared

theorem noneSince_start {added : Thread} (since : NoneSince (pool.start added) self deviceID) :
    NoneSince pool self deviceID :=
  fun later thread after present => since later thread after (Pool.start_old present added)

theorem noneSince_update {stepping : Nat} {action : Action} {m after : AgentManager}
    (present : pool.threads[stepping]? = some thread)
    (planned : plan netip m stepping choice thread = some (action, next))
    (since : NoneSince (pool.update stepping after next) self deviceID) :
    NoneSince pool self deviceID := by
  intro later one past found
  by_cases same : later = stepping
  · subst same
    rw [present] at found
    cases found
    rw [← (toEnabled_step planned).1]
    exact since later next past (Pool.update_self present _ _)
  · refine since later one past ?_
    rw [Pool.update_other pool same]
    exact found

theorem disabled_start (known : DisabledStayOff pool) {added : Thread}
    (enters : entry added = true) : DisabledStayOff (pool.start added) := by
  have old : ∀ (self : Nat) (one : GoString) (point : TogglePoint), point.set = true →
      (pool.start added).threads[self]? = some (.toggleDevice one false point) →
      pool.threads[self]? = some (.toggleDevice one false point) := by
    intro self one point past found
    rcases Pool.start_cases found with old | ⟨_, new⟩
    · exact old
    · rw [← new] at enters
      simp only [entry, Bool.and_eq_true, decide_eq_true_eq] at enters
      rw [enters.2] at past
      cases past
  refine ⟨known.stored, ?_, ?_⟩
  · intro self one point found past since
    have before := known.off self one point (old self one point past found) past
      (noneSince_start since)
    refine ⟨before.row, ?_, ?_⟩
    · rw [stageOf_start enters]
      exact before.registering
    · intro other thread present
      rcases Pool.start_cases present with there | ⟨rfl, rfl⟩
      · exact before.enabling other thread there
      · -- The new thread is one since the request, so it does not enable the device.
        have bound := (List.getElem?_eq_some_iff.mp (old self one point past found)).1
        have none := since _ thread bound present
        cases thread with
        | toggleDevice device enabled point =>
            cases enabled with
            | true =>
                cases point with
                | setEnabled => exact none
                | _ => rfl
            | false => rfl
        | _ => rfl
  · intro self one point found cleared since
    have past := TogglePoint.set_of_cleared cleared
    exact known.offline self one point (old self one point past found) cleared
      (noneSince_start since)

/-- A device that is off stays off under every step. -/
theorem Off.step (off : Off pool deviceID) {action : Action}
    (present : pool.threads[self]? = some thread)
    (planned : plan netip pool.shared self choice thread = some (action, next))
    (keeps : KeepsDevices pool (.advance self choice)) :
    Off (pool.update self (action.apply self pool.shared) next) deviceID ∧
      (pool.shared.agentsByDevice.lookup deviceID = none →
        (action.apply self pool.shared).agentsByDevice.lookup deviceID = none) := by
  have taken : (program netip).step self pool.shared thread choice =
      some (action.apply self pool.shared, next) := by
    simp only [program, planned, Option.map_some]
  have enabling : ∀ (other : Nat) (one : Thread),
      (pool.update self (action.apply self pool.shared) next).threads[other]? = some one →
      one.enables deviceID = false := by
    intro other one found
    by_cases same : other = self
    · subst same
      rw [Pool.update_self present, Option.some.injEq] at found
      rw [← found]
      exact (toEnabled_step planned).2
    · rw [Pool.update_other pool same] at found
      exact off.enabling other one found
  rcases step_stages present taken with ⟨stage, moves, stages⟩ | ⟨moves, stages⟩
  · rcases off.handler moves with ⟨row, idle, offline⟩
    refine ⟨⟨row, fun other => ?_, enabling⟩, offline⟩
    rw [stages]
    by_cases same : other = self
    · rw [same, Function.update_self]
      exact idle
    · rw [Function.update_of_ne same]
      exact off.registering other
  · rcases off.console present moves keeps with ⟨row, offline⟩
    refine ⟨⟨row, ?_, enabling⟩, offline⟩
    rw [stages]
    exact off.registering

theorem off_of_set {action : Action} {point : TogglePoint}
    (present : pool.threads[self]? = some (.toggleDevice deviceID false .setEnabled))
    (stored : pool.shared.hasDB = true)
    (planned : plan netip pool.shared self choice (.toggleDevice deviceID false .setEnabled) =
      some (action, .toggleDevice deviceID false point))
    (calm : DisablesCalmly pool (.advance self choice)) (past : point.set = true)
    (since : NoneSince (pool.update self (action.apply self pool.shared)
      (.toggleDevice deviceID false point)) self deviceID) :
    Off (pool.update self (action.apply self pool.shared) (.toggleDevice deviceID false point))
      deviceID ∧ point.cleared = false := by
  rcases calm.2 _ present deviceID rfl with ⟨known, idle, earlier⟩
  rcases plan_toggle planned with ⟨after, equal, stepped⟩
  cases equal
  unfold planToggle at stepped
  rw [stored] at stepped
  cases choice <;> cases stepped
  · refine ⟨⟨?_, ?_, ?_⟩, rfl⟩
    · rcases Option.isSome_iff_exists.mp known with ⟨row, found⟩
      refine ⟨{ row with enabled := false }, ?_, rfl⟩
      change (pool.shared.db.setAgentEnabled deviceID false).agents.lookup deviceID = _
      rw [Database.setAgentEnabled, Database.updateAgent_lookup, if_pos rfl, found]
      rfl
    · intro other
      have unmoved : ∀ moved point, stageOf (pool.update self moved
          (.toggleDevice deviceID false point)) = stageOf pool := by
        intro moved point
        rw [stageOf_update present]
        exact Function.update_eq_self_iff.mpr (stageOf_present present).symm
      rw [unmoved]
      exact @forall_stageOf pool (fun stage => stage.registering deviceID = false) rfl idle other
    · intro other one found
      rcases Nat.lt_trichotomy other self with before | rfl | later
      · rw [Pool.update_other pool (by omega)] at found
        refine earlier one (List.mem_iff_getElem?.mpr ⟨other, ?_⟩)
        rw [List.getElem?_take_of_lt before]
        exact found
      · rw [Pool.update_self present, Option.some.injEq] at found
        rw [← found]
        rfl
      · have none := since other one later found
        cases one with
        | toggleDevice device enabled point =>
            cases enabled with
            | true =>
                cases point with
                | setEnabled => exact none
                | _ => rfl
            | false => rfl
        | _ => rfl
  · cases past

theorem DisabledStayOff.advance (known : DisabledStayOff pool) {action : Action}
    (present : pool.threads[self]? = some thread)
    (planned : plan netip pool.shared self choice thread = some (action, next))
    (calm : DisablesCalmly pool (.advance self choice)) :
    DisabledStayOff (pool.update self (action.apply self pool.shared) next) := by
  have stored : (action.apply self pool.shared).hasDB = true := by
    rw [apply_hasDB]
    exact known.stored
  have both : ∀ (other : Nat) (one : GoString) (point : TogglePoint),
      (pool.update self (action.apply self pool.shared) next).threads[other]? =
        some (.toggleDevice one false point) → point.set = true →
      NoneSince (pool.update self (action.apply self pool.shared) next) other one →
      Off (pool.update self (action.apply self pool.shared) next) one ∧
        (point.cleared = true →
          (action.apply self pool.shared).agentsByDevice.lookup one = none) := by
    intro other one point found past since
    have before := noneSince_update present planned since
    by_cases same : other = self
    · subst same
      rw [Pool.update_self present, Option.some.injEq] at found
      subst found
      cases thread with
      | toggleDevice device enabled old =>
          rcases plan_toggle planned with ⟨after, equal, stepped⟩
          cases equal
          cases old with
          | setEnabled =>
              have set := off_of_set present known.stored planned calm past since
              exact ⟨set.1, fun cleared => by rw [set.2] at cleared; cases cleared⟩
          | disconnect inner =>
              have off := known.off other one _ present rfl before
              have after := off.step present planned calm.1
              refine ⟨after.1, fun _ => ?_⟩
              cases inner with
              | lock =>
                  cases stepped
                  change (pool.shared.removeDevice one).agentsByDevice.lookup one = none
                  rw [removeDevice_lookup, if_pos rfl]
              | close | returned =>
                  exact after.2 (known.offline other one _ present rfl before)
          | answered | failed => cases stepped
      | handler point =>
          rcases plan_handler planned with ⟨after, equal⟩
          cases equal
      | deleteDevice | disconnectDevice =>
          simp [plan] at planned
      | editInvitation edit returned =>
          cases returned <;> cases choice <;> cases planned
      | updateAccessPolicy allowAll accessMap returned =>
          cases returned <;> cases planned
    · rw [Pool.update_other pool same] at found
      have off := known.off other one point found past before
      have after := off.step present planned calm.1
      exact ⟨after.1, fun cleared => after.2 (known.offline other one point found cleared before)⟩
  exact ⟨stored, fun other one point found past since => (both other one point found past since).1,
    fun other one point found cleared since =>
      (both other one point found (TogglePoint.set_of_cleared cleared) since).2 cleared⟩

/-! ## Runs -/

theorem DisabledStayOff.step (known : DisabledStayOff pool) {event : PoolEvent Thread Choice}
    {after : RelayPool} (calm : DisablesCalmly pool event)
    (taken : (program netip).machine.step pool event = some after) : DisabledStayOff after := by
  rcases Program.step_cases taken with
    ⟨thread, rfl, enters, rfl⟩ | ⟨self, choice, thread, moved, next, rfl, present, step, rfl⟩
  · exact disabled_start known enters
  · simp only [program, Option.map_eq_some_iff] at step
    rcases step with ⟨⟨action, later⟩, planned, equal⟩
    cases equal
    exact known.advance present planned calm

/-- Where devices are disabled while none of their handlers is on its way to its
registration: once a request to disable a device is answered, and until one to enable
it begins, the device is offline and its row is disabled. -/
theorem disabled_device_is_offline {db : Database} {portManager : PortManager}
    {nanoseconds : UInt32} {policy : AccessPolicy} {publicHost : GoString}
    {invitations : List (GoString × GoString × Time)} {events : List (PoolEvent Thread Choice)}
    (run : (program netip).machine.Run DisablesCalmly
      (initialPool (newAgentManager db portManager nanoseconds policy publicHost invitations))
      events pool)
    (answered : pool.threads[self]? = some (.toggleDevice deviceID false .answered))
    (since : NoneSince pool self deviceID) :
    pool.shared.agentsByDevice.lookup deviceID = none ∧
      ∃ row, pool.shared.db.agents.lookup deviceID = some row ∧ row.enabled = false := by
  have initially : DisabledStayOff (initialPool
      (newAgentManager db portManager nanoseconds policy publicHost invitations)) :=
    ⟨rfl, by intros; contradiction, by intros; contradiction⟩
  have known : DisabledStayOff pool := run.preserves initially
    fun _ _ _ known calm taken => known.step calm taken
  exact ⟨known.offline self deviceID .answered answered rfl since,
    (known.off self deviceID .answered answered rfl since).row⟩

theorem noneSince_last (last : pool.threads.length = self + 1) (deviceID : GoString) :
    NoneSince pool self deviceID := by
  intro later thread after present
  have bound := (List.getElem?_eq_some_iff.mp present).1
  omega

/-- An online device is disabled. -/
theorem disabled_device_is_offline_disconnected :
    ∃ events pool, (program noCandidates).machine.Run DisablesCalmly (smallRelay knownDevice)
      events pool ∧
      pool.threads[1]? = some (.toggleDevice [65] false .answered) ∧
      pool.shared.agentsByDevice.lookup [65] = none ∧
      ∃ row, pool.shared.db.agents.lookup [65] = some row ∧ row.enabled = false := by
  have found := (program noCandidates).machine.exists_run DisablesCalmly
    (fun pool => pool.threads[1]? = some (.toggleDevice [65] false .answered) ∧
      pool.threads.length = 2) (smallRelay knownDevice)
    ([newConnection] ++ turn 0 (signsIn ++ comesOnline ++ becomesPeer) ++
      [.spawn (.toggleDevice [65] false .setEnabled)] ++
      turn 1 [.proceed, .proceed, .proceed, .proceed])
    (by decide +kernel)
  rcases found with ⟨pool, run, answered, last⟩
  exact ⟨_, pool, run, answered, disabled_device_is_offline run answered (noneSince_last last [65])⟩

/-- The device is disabled after its record has been read. It comes online all the
same. -/
theorem disabled_device_comes_online :
    ∃ events pool, (program noCandidates).machine.Run KeepsDevices (smallRelay knownDevice)
      events pool ∧
      pool.threads[1]? = some (.toggleDevice [65] false .answered) ∧ NoneSince pool 1 [65] ∧
      pool.shared.agentsByDevice.lookup [65] = some ⟨[65], [], 10, 0⟩ ∧
      (pool.shared.db.agents.lookup [65]).map AgentRow.enabled = some false := by
  have found := (program noCandidates).machine.exists_run KeepsDevices
    (fun pool => pool.threads[1]? = some (.toggleDevice [65] false .answered) ∧
      pool.threads.length = 2 ∧
      pool.shared.agentsByDevice.lookup [65] = some ⟨[65], [], 10, 0⟩ ∧
      (pool.shared.db.agents.lookup [65]).map AgentRow.enabled = some false)
    (smallRelay knownDevice)
    ([newConnection] ++ turn 0 signsIn ++ [.spawn (.toggleDevice [65] false .setEnabled)] ++
      turn 1 [.proceed, .proceed, .proceed] ++ turn 0 (comesOnline ++ becomesPeer))
    (by decide +kernel)
  rcases found with ⟨pool, run, answered, last, online, disabled⟩
  exact ⟨_, pool, run, answered, noneSince_last last [65], online, disabled⟩

end Rdpulse.Relay
