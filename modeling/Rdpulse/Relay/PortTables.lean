import Rdpulse.Relay.HandlerStages
import Rdpulse.Relay.PortStore

namespace Rdpulse.Relay

open Foundation Protocol Storage

/-! Public ports in the five tables that know them, through registrations, console
requests and restarts of the Relay. -/

def Thread.releases : Thread → Option GoString
  | .deleteDevice deviceID .releasePort => some deviceID
  | _ => none

def Stage.holds (deviceID : GoString) : Stage → Bool
  | .holding one _ => one = deviceID
  | _ => false

/-- A reservation is given up when the device has no row and no session, and no
handler is about to write either. -/
def ReleasesIdlePort (pool : RelayPool) : RelayEvent → Prop
  | .pool (.advance self _) => ∀ thread ∈ pool.threads[self]?, ∀ deviceID ∈ thread.releases,
      pool.shared.db.agents.lookup deviceID = none ∧
        pool.shared.agentsByDevice.lookup deviceID = none ∧
        ∀ stage ∈ stages pool, stage.holds deviceID = false
  | .pool (.spawn _) | .restart _ _ _ => True

instance (pool : RelayPool) (event : RelayEvent) : Decidable (ReleasesIdlePort pool event) := by
  rcases event with ⟨⟨⟩ | ⟨⟩⟩ | ⟨⟩ <;> unfold ReleasesIdlePort <;> infer_instance

structure Indexed (online : OnlineTable) (byPort : OnlinePorts) (reserved : PortTable) : Prop where
  device : ∀ deviceID session, online.lookup deviceID = some session →
    session.deviceID = deviceID
  held : ∀ deviceID session, online.lookup deviceID = some session →
    reserved.lookup deviceID = some session.publicPort
  index : ∀ port session, byPort.lookup port = some session ↔
    online.lookup session.deviceID = some session ∧ session.publicPort = port

namespace Indexed

variable {online : OnlineTable} {byPort : OnlinePorts} {reserved : PortTable}

theorem empty (reserved : PortTable) : Indexed ∅ ∅ reserved where
  device _ _ found := by cases found
  held _ _ found := by cases found
  index port session := by simp

theorem reserve (indexed : Indexed online byPort reserved) {later : PortTable}
    (kept : ∀ deviceID session, online.lookup deviceID = some session →
      later.lookup deviceID = reserved.lookup deviceID) : Indexed online byPort later where
  device := indexed.device
  held deviceID session found := by
    rw [kept deviceID session found]
    exact indexed.held deviceID session found
  index := indexed.index

theorem insert (indexed : Indexed online byPort reserved) {session : AgentSession}
    (mine : reserved.lookup session.deviceID = some session.publicPort)
    (injective : ∀ one other port, reserved.lookup one = some port →
      reserved.lookup other = some port → one = other) :
    Indexed (online.insert session.deviceID session) (byPort.insert session.publicPort session)
      reserved := by
  refine ⟨?_, ?_, ?_⟩
  · intro deviceID one found
    by_cases same : deviceID = session.deviceID
    · subst same
      simp only [AList.lookup_insert, Option.some.injEq] at found
      rw [← found]
    · rw [AList.lookup_insert_ne same] at found
      exact indexed.device deviceID one found
  · intro deviceID one found
    by_cases same : deviceID = session.deviceID
    · subst same
      simp only [AList.lookup_insert, Option.some.injEq] at found
      rw [← found]
      exact mine
    · rw [AList.lookup_insert_ne same] at found
      exact indexed.held deviceID one found
  · intro port one
    by_cases same : one.deviceID = session.deviceID
    · rw [same, AList.lookup_insert]
      by_cases here : port = session.publicPort
      · subst here
        rw [AList.lookup_insert]
        constructor
        · intro equal
          cases equal
          exact ⟨rfl, rfl⟩
        · exact fun both => both.1
      · rw [AList.lookup_insert_ne here, indexed.index]
        constructor
        · rintro ⟨there, onPort⟩
          -- The older session was on the same port.
          have held := indexed.held _ one there
          rw [same, mine, Option.some.injEq] at held
          exact absurd (held.trans onPort).symm here
        · rintro ⟨equal, onPort⟩
          cases equal
          exact absurd onPort.symm here
    · rw [AList.lookup_insert_ne same]
      by_cases here : port = session.publicPort
      · subst here
        rw [AList.lookup_insert]
        constructor
        · intro equal
          cases equal
          exact absurd rfl same
        · rintro ⟨there, onPort⟩
          have held := indexed.held _ one there
          rw [onPort] at held
          exact absurd (injective _ _ _ held mine) same
      · rw [AList.lookup_insert_ne here]
        exact indexed.index port one

theorem erase (indexed : Indexed online byPort reserved) {deviceID : GoString}
    {session : AgentSession} (present : online.lookup deviceID = some session) :
    Indexed (online.erase deviceID) (byPort.erase session.publicPort) reserved := by
  have device := indexed.device deviceID session present
  refine ⟨?_, ?_, ?_⟩
  · intro one other found
    by_cases same : one = deviceID
    · subst same
      simp at found
    · rw [AList.lookup_erase_ne same] at found
      exact indexed.device one other found
  · intro one other found
    by_cases same : one = deviceID
    · subst same
      simp at found
    · rw [AList.lookup_erase_ne same] at found
      exact indexed.held one other found
  · intro port one
    by_cases here : port = session.publicPort
    · subst here
      rw [AList.lookup_erase]
      constructor
      · intro found
        cases found
      · rintro ⟨found, onPort⟩
        by_cases same : one.deviceID = deviceID
        · rw [same] at found
          simp at found
        · rw [AList.lookup_erase_ne same] at found
          -- The index holds one session for the port.
          have first := (indexed.index session.publicPort one).mpr ⟨found, onPort⟩
          have second := (indexed.index session.publicPort session).mpr
            ⟨by rw [device]; exact present, rfl⟩
          rw [first, Option.some.injEq] at second
          rw [second] at same
          exact absurd device same
    · rw [AList.lookup_erase_ne here, indexed.index]
      by_cases same : one.deviceID = deviceID
      · rw [same, present, AList.lookup_erase]
        constructor
        · rintro ⟨equal, onPort⟩
          cases equal
          exact absurd onPort.symm here
        · rintro ⟨found, _⟩
          cases found
      · rw [AList.lookup_erase_ne same]

end Indexed

theorem removeOnline_indexed {m : AgentManager} {reserved : PortTable} {session : AgentSession}
    (indexed : Indexed m.agentsByDevice m.agentsByPort reserved) :
    Indexed (m.removeOnline session).agentsByDevice (m.removeOnline session).agentsByPort
      reserved := by
  unfold AgentManager.removeOnline
  split
  · rename_i present
    exact indexed.erase present
  · exact indexed

theorem removeDevice_indexed {m : AgentManager} {reserved : PortTable} {deviceID : GoString}
    (indexed : Indexed m.agentsByDevice m.agentsByPort reserved) :
    Indexed (m.removeDevice deviceID).agentsByDevice (m.removeDevice deviceID).agentsByPort
      reserved := by
  unfold AgentManager.removeDevice
  split
  · rename_i session present
    exact indexed.erase present
  · exact indexed

/-- The database remembers the reservations, the online sessions hold theirs, and so
do the handlers that are about to register. -/
structure PortsKept (m : AgentManager) (stage : Nat → Stage) : Prop where
  remembers : Remembers m.db m.portManager
  indexed : Indexed m.agentsByDevice m.agentsByPort m.portManager.deviceToPort
  holding : ∀ self deviceID port, stage self = .holding deviceID port →
    m.portManager.deviceToPort.lookup deviceID = some port

namespace PortsKept

variable {m moved : AgentManager} {stage : Nat → Stage} {self : Nat} {next : Stage}

theorem keep (kept : PortsKept m stage) (remembers : Remembers moved.db moved.portManager)
    (indexed : Indexed moved.agentsByDevice moved.agentsByPort moved.portManager.deviceToPort)
    (more : ∀ deviceID port, m.portManager.deviceToPort.lookup deviceID = some port →
      moved.portManager.deviceToPort.lookup deviceID = some port)
    (own : ∀ deviceID port, next = .holding deviceID port →
      moved.portManager.deviceToPort.lookup deviceID = some port) :
    PortsKept moved (Function.update stage self next) := by
  refine ⟨remembers, indexed, fun other deviceID port holds => ?_⟩
  by_cases same : other = self
  · subst same
    rw [Function.update_self] at holds
    exact own deviceID port holds
  · rw [Function.update_of_ne same] at holds
    exact more deviceID port (kept.holding other deviceID port holds)

theorem same (kept : PortsKept m stage) (stores : SameStores m moved)
    (own : ∀ deviceID port, next = .holding deviceID port → stage self = next) :
    PortsKept moved (Function.update stage self next) := by
  refine kept.keep ?_ ?_ ?_ ?_
  · rw [stores.db, stores.portManager]
    exact kept.remembers
  · rw [stores.agentsByDevice, stores.agentsByPort, stores.portManager]
    exact kept.indexed
  · rw [stores.portManager]
    exact fun _ _ held => held
  · rw [stores.portManager]
    intro deviceID port holds
    exact kept.holding self deviceID port ((own deviceID port holds).trans holds)

theorem allocated_more {pm later : PortManager} {deviceID : GoString} {port : UInt16}
    (allocated : pm.getOrAllocatePort deviceID = some (port, later)) {one : GoString}
    {other : UInt16} (held : pm.deviceToPort.lookup one = some other) :
    later.deviceToPort.lookup one = some other := by
  rcases PortManager.getOrAllocatePort_cases allocated with ⟨_, rfl⟩ | ⟨new, _, _, rfl⟩
  · exact held
  · have apart : one ≠ deviceID := by
      rintro rfl
      rw [new] at held
      cases held
    rw [AList.lookup_insert_ne apart]
    exact held

theorem handler (kept : PortsKept m stage) (step : StageStep self m (stage self) moved next) :
    PortsKept moved (Function.update stage self next) := by
  have holding := kept.holding self
  generalize before : stage self = old at step holding
  cases step with
  | stay same => exact kept.same same.toSameStores fun _ _ _ => before
  | drop same | accept same => exact kept.same same.toSameStores (by simp)
  | announce same | withdraw same => exact kept.same same (by simp)
  | enroll created portless =>
      exact kept.keep (kept.remembers.create (.inl portless) created) kept.indexed
        (fun _ _ held => held) (by simp)
  | @allocate deviceID port later allocated =>
      refine kept.keep (kept.remembers.allocate allocated) ?_
        (fun _ _ held => allocated_more allocated held) ?_
      · refine kept.indexed.reserve fun one session found => ?_
        have held := kept.indexed.held one session found
        rw [held]
        exact allocated_more allocated held
      · intro one other equal
        cases equal
        exact PortManager.getOrAllocatePort_self allocated
  | create created =>
      have held := holding _ _ rfl
      refine kept.keep (kept.remembers.create (.inr held) created) kept.indexed
        (fun _ _ held => held) ?_
      intro one other equal
      cases equal
      exact held
  | @update _ hostname _ =>
      have held := holding _ _ rfl
      refine kept.keep (kept.remembers.register hostname held) kept.indexed
        (fun _ _ held => held) ?_
      intro one other equal
      cases equal
      exact held
  | @register session =>
      have held := holding _ _ rfl
      refine kept.keep ?_ ?_ ?_ (by simp)
      · rw [registerOnline_db, registerOnline_portManager]
        exact kept.remembers
      · rw [registerOnline_portManager]
        exact kept.indexed.insert held fun _ _ _ first second =>
          kept.remembers.reserves.inverse.injective first second
      · rw [registerOnline_portManager]
        exact fun _ _ held => held
  | @leave session =>
      refine kept.keep ?_ ?_ ?_ (by simp)
      · rw [removeOnline_db, removeOnline_portManager]
        exact kept.remembers
      · rw [removeOnline_portManager]
        exact removeOnline_indexed kept.indexed
      · rw [removeOnline_portManager]
        exact fun _ _ held => held

theorem console (kept : PortsKept m stage) {thread : Thread} (step : ConsoleStep m thread moved)
    (idle : ∀ deviceID ∈ thread.releases,
      m.db.agents.lookup deviceID = none ∧ m.agentsByDevice.lookup deviceID = none ∧
        ∀ self, (stage self).holds deviceID = false) : PortsKept moved stage := by
  cases step with
  | quiet same =>
      have held := @PortsKept.same m moved stage 0 (stage 0) kept same.toSameStores fun _ _ _ => rfl
      rw [Function.update_eq_self] at held
      exact held
  | disconnect =>
      refine ⟨?_, ?_, ?_⟩
      · rw [removeDevice_db, removeDevice_portManager]
        exact kept.remembers
      · rw [removeDevice_portManager]
        exact removeDevice_indexed kept.indexed
      · rw [removeDevice_portManager]
        exact kept.holding
  | @deleteAgent deviceID => exact ⟨kept.remembers.delete deviceID, kept.indexed, kept.holding⟩
  | @releasePort deviceID =>
      rcases idle deviceID rfl with ⟨absent, offline, free⟩
      refine ⟨kept.remembers.release absent, kept.indexed.reserve ?_, ?_⟩
      · intro one session found
        have apart : one ≠ deviceID := by
          rintro rfl
          rw [offline] at found
          cases found
        exact PortManager.releasePort_other _ apart
      · intro self one port holds
        have apart : one ≠ deviceID := by
          rintro rfl
          have not := free self
          simp [holds, Stage.holds] at not
        change (m.portManager.releasePort deviceID).deviceToPort.lookup one = some port
        rw [PortManager.releasePort_other _ apart]
        exact kept.holding self one port holds
  | @setEnabled deviceID enabled =>
      exact ⟨kept.remembers.setEnabled deviceID enabled, kept.indexed, kept.holding⟩
  | @editInvitation edit =>
      exact ⟨kept.remembers.sameAgents (editInvitation_agents m.db edit), kept.indexed,
        kept.holding⟩

end PortsKept

/-! ## Runs -/

variable {netip : Signaling.Netip} {pool : RelayPool}

theorem newAgentManager_agents (db : Database) (portManager : PortManager) (nanoseconds : UInt32)
    (policy : AccessPolicy) (publicHost : GoString)
    (invitations : List (GoString × GoString × Time)) :
    (newAgentManager db portManager nanoseconds policy publicHost invitations).db.agents =
      db.agents := by
  unfold newAgentManager
  induction invitations generalizing db with
  | nil => rfl
  | cons invitation rest induction =>
      simp only [List.foldl_cons]
      rw [induction]
      rfl

theorem portsKept_start {db : Database} (distinct : DistinctPorts db) {cfg : RelayConfig}
    {rows : List AgentRecord} {nanoseconds : UInt32}
    (started : startRelay db cfg rows nanoseconds = some pool) :
    PortsKept pool.shared (stageOf pool) := by
  unfold startRelay at started
  split at started
  · rename_i permuted
    rw [Option.map_eq_some_iff] at started
    rcases started with ⟨portManager, made, rfl⟩
    have remembers := Remembers.start (List.isPerm_iff.mp permuted) distinct made
    refine ⟨remembers.sameAgents (newAgentManager_agents _ _ _ _ _ _), .empty _, ?_⟩
    intros
    contradiction
  · cases started

theorem portsKept_step (kept : PortsKept pool.shared (stageOf pool)) {event : RelayEvent}
    {after : RelayPool} (idle : ReleasesIdlePort pool event)
    (taken : (relay netip).step pool event = some after) :
    PortsKept after.shared (stageOf after) := by
  cases event with
  | restart cfg rows nanoseconds => exact portsKept_start kept.remembers.distinct taken
  | pool event =>
      rcases Program.step_cases taken with ⟨thread, rfl, enters, rfl⟩ |
        ⟨self, choice, thread, moved, next, rfl, present, step, rfl⟩
      · rw [stageOf_start enters]
        exact kept
      · rcases step_stages present step with ⟨stage, moves, stages⟩ | ⟨moves, stages⟩
        · rw [stages]
          exact kept.handler moves
        · rw [stages]
          refine kept.console moves fun deviceID releases => ?_
          rcases idle thread present deviceID releases with ⟨absent, offline, free⟩
          exact ⟨absent, offline,
            @forall_stageOf pool (fun stage => stage.holds deviceID = false) rfl free⟩

/-- Where every reservation that is given up is idle, the two maps of the port
manager are inverse to each other, no two rows hold the same port of the range, every
online session holds the port of its device, and the index by port is exact: in every
state, also after restarts with other ranges. -/
theorem ports_are_exclusive {cfg : RelayConfig} {nanoseconds : UInt32} {start : RelayPool}
    (started : startRelay .empty cfg [] nanoseconds = some start) {events : List RelayEvent}
    (run : (relay netip).Run ReleasesIdlePort start events pool) :
    Inverse pool.shared.portManager.deviceToPort pool.shared.portManager.portToDevice ∧
    (∀ one other first second, pool.shared.db.agents.lookup one = some first →
      pool.shared.db.agents.lookup other = some second →
      pool.shared.portManager.covers first.publicPort = true →
      first.publicPort = second.publicPort → one = other) ∧
    (∀ deviceID session, pool.shared.agentsByDevice.lookup deviceID = some session →
      pool.shared.portManager.deviceToPort.lookup deviceID = some session.publicPort) ∧
    ∀ port session, pool.shared.agentsByPort.lookup port = some session ↔
      pool.shared.agentsByDevice.lookup session.deviceID = some session ∧
        session.publicPort = port := by
  have kept : PortsKept pool.shared (stageOf pool) :=
    run.preserves (portsKept_start (fun _ _ _ _ present => by cases present) started)
      fun _ _ _ kept idle taken => portsKept_step kept idle taken
  refine ⟨kept.remembers.reserves.inverse, ?_, kept.indexed.held, kept.indexed.index⟩
  intro one other first second present there inside same
  exact kept.remembers.distinct one other first second present there
    (PortManager.covers_positive inside) same

def smallConfig (invitations : List (GoString × GoString × Time)) : RelayConfig :=
  ⟨10, 11, ⟨false, ∅⟩, [], invitations⟩

def signsInAgain : List Choice :=
  [.proceed, .proceed,
    .receive { type := .auth, deviceID := [65], secret := List.replicate 32 7 }, .proceed,
    .proceed]

/-- The Relay is restarted with an invitation, and the device enrolls. -/
theorem ports_are_exclusive_restarted :
    ∃ events pool, (relay noCandidates).Run ReleasesIdlePort (smallRelay .empty) events pool ∧
      pool.shared.agentsByDevice.lookup [65] = some ⟨[65], [], 10, 0⟩ ∧
      pool.shared.portManager.deviceToPort.lookup [65] = some 10 := by
  have found := (relay noCandidates).exists_run ReleasesIdlePort
    (fun pool => pool.shared.agentsByDevice.lookup [65] = some ⟨[65], [], 10, 0⟩)
    (smallRelay .empty)
    (.restart (smallConfig [([65], [1], 9)]) [] 0 ::
      ([newConnection] ++ turn 0 (signsInNew ++ enrolls)).map .pool)
    (by decide +kernel)
  rcases found with ⟨pool, run, online⟩
  have started : startRelay .empty (smallConfig []) [] 0 = some (smallRelay .empty) := rfl
  exact ⟨_, pool, run, online, (ports_are_exclusive started run).2.2.1 [65] _ online⟩

/-- The console deletes the device between the allocation of its port and its
registration. The device is then online on a port that is not reserved. -/
theorem port_released_during_registration :
    ∃ events pool, (relay noCandidates).Run Machine.Unrestricted (smallRelay .empty) events
      pool ∧
      pool.shared.agentsByDevice.lookup [65] = some ⟨[65], [], 10, 1⟩ ∧
      pool.shared.portManager.deviceToPort.lookup [65] = none := by
  rcases (relay noCandidates).exists_run Machine.Unrestricted
    (fun pool => pool.shared.agentsByDevice.lookup [65] = some ⟨[65], [], 10, 1⟩ ∧
      pool.shared.portManager.deviceToPort.lookup [65] = none) (smallRelay .empty)
    (.restart (smallConfig [([65], [1], 9)]) [] 0 :: ([newConnection] ++ turn 0 (signsInNew ++ enrolls ++ becomesPeer ++ goesOffline) ++
      [newConnection] ++ turn 1 signsInAgain ++ turn 1 (comesOnline.take 2) ++
      [PoolEvent.spawn (Thread.deleteDevice [65] .deleteAgent)] ++
      turn 2 [.proceed, .proceed, .proceed, .proceed] ++ turn 1 (comesOnline.drop 2)).map .pool)
    (by decide +kernel) with ⟨pool, run, online, free⟩
  exact ⟨_, pool, run, online, free⟩

end Rdpulse.Relay
