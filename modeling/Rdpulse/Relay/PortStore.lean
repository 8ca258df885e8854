import Rdpulse.Relay.PortManager

namespace Rdpulse.Relay

open Foundation Protocol Storage

/-! The table of agents beside the reservations in memory: a row whose port is in
the range holds the port reserved for its device. -/

structure Remembers (db : Database) (pm : PortManager) : Prop where
  reserves : pm.Reserves
  distinct : DistinctPorts db
  reserved : ∀ deviceID row, db.agents.lookup deviceID = some row →
    pm.covers row.publicPort = true → pm.deviceToPort.lookup deviceID = some row.publicPort

namespace Remembers

variable {db moved : Database} {pm : PortManager}

theorem sole (remembers : Remembers db pm) {deviceID one : GoString} {port : UInt16}
    {row : AgentRow} (held : pm.deviceToPort.lookup deviceID = some port)
    (present : db.agents.lookup one = some row) (same : row.publicPort = port) :
    one = deviceID := by
  have inside := remembers.reserves.covered deviceID port held
  rw [← same] at inside
  have also := remembers.reserved one row present inside
  rw [same] at also
  exact remembers.reserves.inverse.injective also held

theorem keepPorts (remembers : Remembers db pm)
    (kept : ∀ deviceID row, moved.agents.lookup deviceID = some row →
      row.publicPort = 0 ∨ ∃ old, db.agents.lookup deviceID = some old ∧
        old.publicPort = row.publicPort) :
    Remembers moved pm := by
  refine ⟨remembers.reserves, ?_, ?_⟩
  · intro one other first second present there positive same
    rcases kept one first present with zero | ⟨old, before, port⟩
    · rw [zero] at positive
      exact absurd positive (by decide)
    · rcases kept other second there with zero | ⟨also, beside, portOther⟩
      · rw [same, zero] at positive
        exact absurd positive (by decide)
      · exact remembers.distinct one other old also before beside (by rw [port]; exact positive)
          (by rw [port, portOther, same])
  · intro deviceID row present inside
    rcases kept deviceID row present with zero | ⟨old, before, port⟩
    · rw [zero] at inside
      exact absurd (PortManager.covers_positive inside) (by decide)
    · rw [← port] at inside ⊢
      exact remembers.reserved deviceID old before inside

theorem setPort (remembers : Remembers db pm) {deviceID : GoString} {port : UInt16}
    {row : AgentRow} (held : pm.deviceToPort.lookup deviceID = some port)
    (set : moved.agents.lookup deviceID = some row) (same : row.publicPort = port)
    (others : ∀ one, one ≠ deviceID → moved.agents.lookup one = db.agents.lookup one) :
    Remembers moved pm := by
  refine ⟨remembers.reserves, ?_, ?_⟩
  · intro one other first second present there _ equal
    by_cases mine : one = deviceID
    · by_cases also : other = deviceID
      · rw [mine, also]
      · rw [mine, set, Option.some.injEq] at present
        rw [others other also] at there
        rw [← present, same] at equal
        exact mine.trans (remembers.sole held there equal.symm).symm
    · rw [others one mine] at present
      by_cases also : other = deviceID
      · rw [also, set, Option.some.injEq] at there
        rw [← there, same] at equal
        exact (remembers.sole held present equal).trans also.symm
      · rw [others other also] at there
        exact remembers.distinct one other first second present there ‹_› equal
  · intro one present found inside
    by_cases mine : one = deviceID
    · rw [mine, set, Option.some.injEq] at found
      rw [mine, ← found, same]
      exact held
    · rw [others one mine] at found
      exact remembers.reserved one present found inside

theorem allocate (remembers : Remembers db pm) {deviceID : GoString} {port : UInt16}
    {later : PortManager} (allocated : pm.getOrAllocatePort deviceID = some (port, later)) :
    Remembers db later := by
  refine ⟨remembers.reserves.allocate allocated, remembers.distinct, ?_⟩
  intro one row present inside
  rw [PortManager.getOrAllocatePort_covers allocated] at inside
  have before := remembers.reserved one row present inside
  rcases PortManager.getOrAllocatePort_cases allocated with ⟨_, rfl⟩ | ⟨new, _, _, rfl⟩
  · exact before
  · have apart : one ≠ deviceID := by
      rintro rfl
      rw [new] at before
      cases before
    simp only [AList.lookup_insert_ne apart]
    exact before

theorem release (remembers : Remembers db pm) {deviceID : GoString}
    (absent : db.agents.lookup deviceID = none) : Remembers db (pm.releasePort deviceID) := by
  refine ⟨remembers.reserves.release deviceID, remembers.distinct, ?_⟩
  intro one row present inside
  rw [PortManager.releasePort_covers] at inside
  have apart : one ≠ deviceID := by
    rintro rfl
    rw [absent] at present
    cases present
  rw [PortManager.releasePort_other pm apart]
  exact remembers.reserved one row present inside

theorem register (remembers : Remembers db pm) {deviceID : GoString} {port : UInt16}
    (hostname : GoString) (held : pm.deviceToPort.lookup deviceID = some port) :
    Remembers (db.updateAgentRegistration deviceID hostname port) pm := by
  cases present : db.agents.lookup deviceID with
  | none =>
      refine remembers.keepPorts fun one row found => .inr ⟨row, ?_, rfl⟩
      rw [Database.updateAgentRegistration, Database.updateAgent_lookup] at found
      by_cases same : one = deviceID
      · subst same
        rw [present] at found
        simp at found
      · rw [if_neg same] at found
        exact found
  | some old =>
      have set : (db.updateAgentRegistration deviceID hostname port).agents.lookup deviceID =
          some { old with hostname, publicPort := port } := by
        rw [Database.updateAgentRegistration, Database.updateAgent_lookup, if_pos rfl, present]
        rfl
      refine remembers.setPort held set rfl fun one apart => ?_
      rw [Database.updateAgentRegistration, Database.updateAgent_lookup, if_neg apart]

theorem setEnabled (remembers : Remembers db pm) (deviceID : GoString) (enabled : Bool) :
    Remembers (db.setAgentEnabled deviceID enabled) pm := by
  refine remembers.keepPorts fun one row found => .inr ?_
  rw [Database.setAgentEnabled, Database.updateAgent_lookup] at found
  by_cases same : one = deviceID
  · rw [if_pos same, Option.map_eq_some_iff] at found
    rcases found with ⟨old, before, rfl⟩
    exact ⟨old, before, rfl⟩
  · rw [if_neg same] at found
    exact ⟨row, found, rfl⟩

theorem delete (remembers : Remembers db pm) (deviceID : GoString) :
    Remembers (db.deleteAgent deviceID) pm := by
  refine remembers.keepPorts fun one row found => .inr ⟨row, ?_, rfl⟩
  by_cases same : one = deviceID
  · subst same
    simp [Database.deleteAgent] at found
  · rw [Database.deleteAgent, AList.lookup_erase_ne same] at found
    exact found

theorem sameAgents (remembers : Remembers db pm) (same : moved.agents = db.agents) :
    Remembers moved pm := by
  refine remembers.keepPorts fun one row found => .inr ⟨row, ?_, rfl⟩
  rw [← same]
  exact found

theorem insert (remembers : Remembers db pm) {a : AgentRecord}
    (held : a.publicPort = 0 ∨ pm.deviceToPort.lookup a.deviceID = some a.publicPort) :
    Remembers (db.insertAgent a) pm := by
  rcases Database.insertAgent_lookup a with ⟨new, found, _, cases⟩
  have others : ∀ one, one ≠ a.deviceID →
      (db.insertAgent a).agents.lookup one = db.agents.lookup one :=
    fun one apart => Database.insertAgent_lookup_other a apart
  have kept : (new.publicPort = 0 ∨ ∃ old, db.agents.lookup a.deviceID = some old ∧
      old.publicPort = new.publicPort) → Remembers (db.insertAgent a) pm := fun same =>
    remembers.keepPorts fun one later there => by
      by_cases mine : one = a.deviceID
      · rw [mine, found, Option.some.injEq] at there
        rw [mine, ← there]
        exact same
      · rw [others one mine] at there
        exact .inr ⟨later, there, rfl⟩
  have given : new.publicPort = a.publicPort → Remembers (db.insertAgent a) pm := fun same => by
    rcases held with zero | reserved
    · exact kept (.inl (same.trans zero))
    · exact remembers.setPort reserved found same others
  rcases cases with ⟨_, rfl⟩ | ⟨old, before, _, port⟩
  · exact given rfl
  · by_cases positive : 0 < old.publicPort
    · rw [if_pos positive] at port
      exact kept (.inr ⟨old, before, port.symm⟩)
    · rw [if_neg positive] at port
      exact given port

theorem create (remembers : Remembers db pm) {a : AgentRecord} {token : GoString} {now : Time}
    {failure : Option Database.TransactionStage}
    (held : a.publicPort = 0 ∨ pm.deviceToPort.lookup a.deviceID = some a.publicPort)
    (created : db.createAgentWithEnrollment a token now failure = .ok moved) :
    Remembers moved pm :=
  (remembers.insert held).sameAgents (Database.createAgentWithEnrollment_agents created)

theorem start {startPort endPort : UInt16} {agents : List AgentRecord}
    (rows : agents.Perm db.getAllAgents) (distinct : DistinctPorts db)
    (started : newPortManager startPort endPort agents = some pm) : Remembers db pm := by
  rcases newPortManager_reserves rows distinct started with ⟨reserves, reserved⟩
  exact ⟨reserves, distinct, fun deviceID row present inside =>
    (reserved deviceID row.publicPort).mpr ⟨row, present, rfl, inside⟩⟩

end Remembers

end Rdpulse.Relay
