import Rdpulse.Foundation.Execution
import Rdpulse.Relay.PortStore

namespace Rdpulse.Relay

open Foundation Protocol Storage

/-! The public ports of the devices over the life of a Relay that is restarted,
each time with its own range. -/

/-- What has happened, each as a whole: a registration of a known device, one with
an enrollment, the enrollment of a controller, a restart (with the rows in the
order they are read), the deletion of a device, an invitation. -/
inductive Completed
  | register (deviceID hostname : GoString)
  | enroll (deviceID hostname secretHash token : GoString) (now : Time)
  | enrollController (deviceID hostname secretHash token : GoString) (now : Time)
  | restart (startPort endPort : UInt16) (rows : List AgentRecord)
  | delete (deviceID : GoString)
  | invite (deviceID token : GoString) (expiresAt : Time)

/-- `announced` holds the port in the last PORT_ASSIGN to each device. -/
structure PortHistory where
  db : Database
  ports : PortManager
  announced : PortTable

def PortHistory.step (state : PortHistory) : Completed → Option PortHistory
  | .register deviceID hostname =>
      match state.db.getAgentByDeviceID deviceID with
      | none => none
      | some _ =>
          (state.ports.getOrAllocatePort deviceID).map fun (publicPort, ports) =>
            { db := state.db.updateAgentRegistration deviceID hostname publicPort
              ports
              announced := state.announced.insert deviceID publicPort }
  | .enroll deviceID hostname secretHash token now =>
      match state.ports.getOrAllocatePort deviceID with
      | none => none
      | some (publicPort, ports) =>
          match state.db.createAgentWithEnrollment
            { deviceID, hostname, secretHash, publicPort, enabled := true } token now none with
          | .error _ => none
          | .ok db => some { db, ports, announced := state.announced.insert deviceID publicPort }
  | .enrollController deviceID hostname secretHash token now =>
      match state.db.createAgentWithEnrollment
        { deviceID, hostname, secretHash, publicPort := 0, enabled := true } token now none with
      | .error _ => none
      | .ok db => some { state with db }
  | .restart startPort endPort rows =>
      if rows.isPerm state.db.getAllAgents then
        (newPortManager startPort endPort rows).map fun ports => { state with ports }
      else none
  | .delete deviceID =>
      some { db := state.db.deleteAgent deviceID
             ports := state.ports.releasePort deviceID
             announced := state.announced.erase deviceID }
  | .invite deviceID token expiresAt =>
      some { state with db := state.db.upsertEnrollmentInvitation deviceID token expiresAt }

def portHistory : Machine PortHistory Completed where
  step := PortHistory.step

def PortHistory.new (ports : PortManager) : PortHistory := ⟨.empty, ports, ∅⟩

def Completed.registers : Completed → Option GoString
  | .register deviceID _ => some deviceID
  | .enroll deviceID _ _ _ _ => some deviceID
  | _ => none

/-- A device that registers with an enrollment has no row with a port outside the
range in use. -/
def RowInRange (state : PortHistory) : Completed → Prop
  | .enroll deviceID _ _ _ _ =>
      ∀ row ∈ state.db.agents.lookup deviceID,
        row.publicPort = 0 ∨ state.ports.covers row.publicPort = true
  | _ => True

instance (state : PortHistory) (op : Completed) : Decidable (RowInRange state op) := by
  unfold RowInRange
  split <;> infer_instance

structure Announced (state : PortHistory) : Prop where
  remembers : Remembers state.db state.ports
  written : ∀ deviceID port, state.announced.lookup deviceID = some port →
    0 < port ∧ ∃ row, state.db.agents.lookup deviceID = some row ∧ row.publicPort = port

namespace Announced

variable {state next : PortHistory}

theorem announce (known : Announced state) {deviceID : GoString} {port : UInt16} {db : Database}
    {ports : PortManager} {row : AgentRow} (remembers : Remembers db ports)
    (reserved : ports.deviceToPort.lookup deviceID = some port)
    (set : db.agents.lookup deviceID = some row) (same : row.publicPort = port)
    (others : ∀ one, one ≠ deviceID → db.agents.lookup one = state.db.agents.lookup one) :
    Announced { db, ports, announced := state.announced.insert deviceID port } := by
  refine ⟨remembers, fun one other found => ?_⟩
  by_cases mine : one = deviceID
  · subst mine
    simp only [AList.lookup_insert, Option.some.injEq] at found
    subst found
    have inside := remembers.reserves.covered one port reserved
    exact ⟨PortManager.covers_positive inside, row, set, same⟩
  · simp only [AList.lookup_insert_ne mine] at found
    rw [others one mine]
    exact known.written one other found

theorem register (known : Announced state) {deviceID hostname : GoString}
    (taken : state.step (.register deviceID hostname) = some next) : Announced next := by
  simp only [PortHistory.step, Database.getAgentByDeviceID] at taken
  cases present : state.db.agents.lookup deviceID with
  | none =>
      rw [present] at taken
      cases taken
  | some old =>
      rw [present] at taken
      simp only [Option.map_some, Option.map_eq_some_iff] at taken
      rcases taken with ⟨⟨port, ports⟩, allocated, rfl⟩
      have reserved := PortManager.getOrAllocatePort_self allocated
      have set : (state.db.updateAgentRegistration deviceID hostname port).agents.lookup deviceID =
          some { old with hostname, publicPort := port } := by
        rw [Database.updateAgentRegistration, Database.updateAgent_lookup, if_pos rfl, present]
        rfl
      refine known.announce ((known.remembers.allocate allocated).register hostname reserved)
        reserved set rfl fun one apart => ?_
      rw [Database.updateAgentRegistration, Database.updateAgent_lookup, if_neg apart]

theorem enroll (known : Announced state) {deviceID hostname secretHash token : GoString}
    {now : Time} (inRange : RowInRange state (.enroll deviceID hostname secretHash token now))
    (taken : state.step (.enroll deviceID hostname secretHash token now) = some next) :
    Announced next := by
  simp only [PortHistory.step] at taken
  split at taken
  · cases taken
  rename_i port ports allocated
  split at taken
  · cases taken
  rename_i db created
  cases taken
  have reserved := PortManager.getOrAllocatePort_self allocated
  have agents := Database.createAgentWithEnrollment_agents created
  rcases @Database.insertAgent_lookup state.db
    { deviceID, hostname, secretHash, publicPort := port, enabled := true } with
    ⟨row, set, _, cases⟩
  have same : row.publicPort = port := by
    rcases cases with ⟨_, rfl⟩ | ⟨old, before, _, kept⟩
    · rfl
    · by_cases positive : 0 < old.publicPort
      · rw [if_pos positive] at kept
        rcases inRange old before with zero | inside
        · rw [zero] at positive
          exact absurd positive (by decide)
        · have already := known.remembers.reserved deviceID old before inside
          rw [PortManager.getOrAllocatePort_reserved already] at allocated
          cases allocated
          exact kept
      · rw [if_neg positive] at kept
        exact kept
  rw [← agents] at set
  refine known.announce ((known.remembers.allocate allocated).create (.inr reserved) created)
    reserved set same fun one apart => ?_
  rw [agents]
  exact Database.insertAgent_lookup_other _ apart

theorem enrollController (known : Announced state)
    {deviceID hostname secretHash token : GoString} {now : Time}
    (taken : state.step (.enrollController deviceID hostname secretHash token now) = some next) :
    Announced next := by
  simp only [PortHistory.step] at taken
  split at taken
  · cases taken
  rename_i db created
  cases taken
  refine ⟨known.remembers.create (.inl rfl) created, fun one port found => ?_⟩
  rcases known.written one port found with ⟨positive, row, present, same⟩
  refine ⟨positive, ?_⟩
  change ∃ row, db.agents.lookup one = some row ∧ row.publicPort = port
  rw [Database.createAgentWithEnrollment_agents created]
  by_cases mine : one = deviceID
  · subst mine
    rcases @Database.insertAgent_lookup state.db
      { deviceID := one, hostname, secretHash, publicPort := 0, enabled := true } with
      ⟨new, set, _, ⟨absent, _⟩ | ⟨old, before, _, kept⟩⟩
    · rw [absent] at present
      cases present
    · rw [present, Option.some.injEq] at before
      rw [← before, same, if_pos positive] at kept
      exact ⟨new, set, kept⟩
  · rw [Database.insertAgent_lookup_other _ mine]
    exact ⟨row, present, same⟩

theorem restart (known : Announced state) {startPort endPort : UInt16} {rows : List AgentRecord}
    (taken : state.step (.restart startPort endPort rows) = some next) : Announced next := by
  simp only [PortHistory.step] at taken
  split at taken
  · rename_i permuted
    rw [Option.map_eq_some_iff] at taken
    rcases taken with ⟨ports, started, rfl⟩
    exact ⟨.start (List.isPerm_iff.mp permuted) known.remembers.distinct started, known.written⟩
  · cases taken

theorem delete (known : Announced state) (deviceID : GoString) :
    Announced { db := state.db.deleteAgent deviceID
                ports := state.ports.releasePort deviceID
                announced := state.announced.erase deviceID } := by
  have absent : (state.db.deleteAgent deviceID).agents.lookup deviceID = none :=
    AList.lookup_erase _ _
  refine ⟨(known.remembers.delete deviceID).release absent, fun one port found => ?_⟩
  by_cases mine : one = deviceID
  · subst mine
    simp at found
  · simp only [AList.lookup_erase_ne mine] at found
    rw [Database.deleteAgent, AList.lookup_erase_ne mine]
    exact known.written one port found

theorem step (known : Announced state) {op : Completed} (inRange : RowInRange state op)
    (taken : state.step op = some next) : Announced next := by
  cases op with
  | register => exact known.register taken
  | enroll => exact known.enroll inRange taken
  | enrollController => exact known.enrollController taken
  | restart => exact known.restart taken
  | delete deviceID =>
      cases taken
      exact known.delete deviceID
  | invite deviceID token expiresAt =>
      cases taken
      exact ⟨known.remembers.sameAgents rfl, known.written⟩

theorem next_port (known : Announced state) {deviceID : GoString} {port : UInt16}
    (announced : state.announced.lookup deviceID = some port)
    (inside : state.ports.covers port = true) {op : Completed}
    (registers : op.registers = some deviceID) (taken : state.step op = some next) :
    next.announced.lookup deviceID = some port := by
  rcases known.written deviceID port announced with ⟨_, row, present, rfl⟩
  have reserved := known.remembers.reserved deviceID row present inside
  have allocated := PortManager.getOrAllocatePort_reserved reserved
  cases op with
  | register one hostname =>
      cases registers
      simp only [PortHistory.step, Database.getAgentByDeviceID, present, allocated, Option.map_some,
        Option.some.injEq] at taken
      rw [← taken]
      exact AList.lookup_insert _
  | enroll one hostname secretHash token now =>
      cases registers
      simp only [PortHistory.step, allocated] at taken
      split at taken
      · cases taken
      · cases taken
        exact AList.lookup_insert _
  | enrollController | restart | delete | invite => cases registers

end Announced

theorem announced_new {startPort endPort : UInt16} {ports : PortManager}
    (started : newPortManager startPort endPort [] = some ports) :
    Announced (.new ports) := by
  refine ⟨.start (List.Perm.refl _) ?_ started, ?_⟩
  · intro one other first second present
    cases present
  · intro deviceID port found
    cases found

/-- Where a device with a port outside the range never registers by an enrollment:
after any history, a device whose last announced port lies in the range in use is
announced the same port when it registers next. -/
theorem announced_port_is_kept {startPort endPort : UInt16} {ports : PortManager}
    (started : newPortManager startPort endPort [] = some ports) {ops : List Completed}
    {state next : PortHistory} (run : portHistory.Run RowInRange (.new ports) ops state)
    {deviceID : GoString} {port : UInt16}
    (announced : state.announced.lookup deviceID = some port)
    (inside : state.ports.covers port = true) {op : Completed}
    (registers : op.registers = some deviceID) (taken : portHistory.step state op = some next) :
    next.announced.lookup deviceID = some port :=
  (run.preserves (announced_new started) fun _ _ _ known inRange moved =>
    known.step inRange moved).next_port announced inside registers taken

/-- After two restarts, and another device in between, the first device registers
on its port again. -/
theorem announced_port_is_kept_twice :
    ∃ ops state next, portHistory.Run RowInRange (.new lowPorts) ops state ∧
      state.announced.lookup [66] = some 10 ∧ state.announced.lookup [65] = some 11 ∧
      portHistory.step state (.register [65] []) = some next ∧
      next.announced.lookup [65] = some 11 := by
  have found := portHistory.exists_run RowInRange
    (fun state => state.announced.lookup [65] = some 11 ∧ state.announced.lookup [66] = some 10 ∧
      state.ports.covers 11 = true ∧ (portHistory.step state (.register [65] [])).isSome)
    (.new lowPorts)
    [.invite [66] [1] 9, .enroll [66] [] [7] [1] 0, .invite [65] [2] 9, .enroll [65] [] [7] [2] 0,
      .restart 20 21 [⟨⟨[], [7], 11, true⟩, [65]⟩, ⟨⟨[], [7], 10, true⟩, [66]⟩],
      .restart 10 11 [⟨⟨[], [7], 11, true⟩, [65]⟩, ⟨⟨[], [7], 10, true⟩, [66]⟩],
      .register [66] []]
    (by decide +kernel)
  rcases found with ⟨state, run, announced, other, inside, enabled⟩
  rcases Option.isSome_iff_exists.mp enabled with ⟨next, taken⟩
  exact ⟨_, state, next, run, other, announced, taken,
    announced_port_is_kept (show newPortManager 10 11 [] = some lowPorts by rfl) run announced
      inside rfl taken⟩

/-- A device with a row from another range enrolls again and is announced port 20,
which its row does not say. After a restart with the same range the port goes to
another device. -/
theorem announced_port_is_lost :
    ∃ ops state next, portHistory.Run Machine.Unrestricted (.new lowPorts) ops state ∧
      state.announced.lookup [65] = some 20 ∧ state.ports.covers 20 = true ∧
      portHistory.step state (.register [65] []) = some next ∧
      next.announced.lookup [65] = some 21 := by
  have found := portHistory.exists_run Machine.Unrestricted
    (fun state => state.announced.lookup [65] = some 20 ∧ state.ports.covers 20 = true ∧
      (portHistory.step state (.register [65] [])).map (fun next => next.announced.lookup [65]) =
        some (some 21)) (.new lowPorts)
    [.invite [65] [1] 9, .enroll [65] [] [7] [1] 0,
      .restart 20 21 [⟨⟨[], [7], 10, true⟩, [65]⟩],
      .invite [65] [2] 9, .enroll [65] [] [7] [2] 0,
      .restart 20 21 [⟨⟨[], [7], 10, true⟩, [65]⟩],
      .invite [66] [3] 9, .enroll [66] [] [8] [3] 0]
    (by decide +kernel)
  rcases found with ⟨state, run, announced, inside, later⟩
  rcases Option.map_eq_some_iff.mp later with ⟨next, taken, lost⟩
  exact ⟨_, state, next, run, announced, inside, taken, lost⟩

end Rdpulse.Relay
