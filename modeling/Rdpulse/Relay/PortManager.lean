import Rdpulse.Foundation.TwoWay
import Rdpulse.Storage.Database

namespace Rdpulse.Relay

open Foundation Protocol Storage

/-! Public ports, reserved for devices in memory and remembered in the table of
agents. -/

abbrev PortTable := AList fun _ : GoString => UInt16
abbrev DeviceTable := AList fun _ : UInt16 => GoString

structure PortManager where
  startPort : UInt16
  endPort : UInt16
  deviceToPort : PortTable
  portToDevice : DeviceTable
  ordered : startPort ≤ endPort
  positive : 0 < startPort

def lowPorts : PortManager := ⟨10, 11, ∅, ∅, by decide, by decide⟩

def PortManager.covers (pm : PortManager) (port : UInt16) : Bool :=
  pm.startPort ≤ port && port ≤ pm.endPort

namespace PortManager

variable (pm : PortManager)

def preload (a : AgentRecord) : PortManager :=
  if pm.covers a.publicPort then
    { pm with
      deviceToPort := pm.deviceToPort.insert a.deviceID a.publicPort
      portToDevice := pm.portToDevice.insert a.publicPort a.deviceID }
  else pm

def range : List UInt16 :=
  (List.range' pm.startPort.toNat (pm.endPort.toNat + 1 - pm.startPort.toNat)).map UInt16.ofNat

/-- `none` where no port of the range is free. -/
def getOrAllocatePort (deviceID : GoString) : Option (UInt16 × PortManager) :=
  match pm.deviceToPort.lookup deviceID with
  | some port => some (port, pm)
  | none =>
      match pm.range.find? fun port => (pm.portToDevice.lookup port).isNone with
      | none => none
      | some port =>
          some (port,
            { pm with
              deviceToPort := pm.deviceToPort.insert deviceID port
              portToDevice := pm.portToDevice.insert port deviceID })

def releasePort (deviceID : GoString) : PortManager :=
  match pm.deviceToPort.lookup deviceID with
  | none => pm
  | some port =>
      { pm with
        deviceToPort := pm.deviceToPort.erase deviceID
        portToDevice := pm.portToDevice.erase port }

end PortManager

/-- `agents` are the rows of the database, in the order they are returned. -/
def newPortManager (startPort endPort : UInt16) (agents : List AgentRecord) :
    Option PortManager :=
  if valid : startPort ≤ endPort ∧ 0 < startPort then
    some (agents.foldl PortManager.preload ⟨startPort, endPort, ∅, ∅, valid.1, valid.2⟩)
  else none

def errNoAvailablePort : String := "no available public ports in configured range"

/-! ## Allocation -/

namespace PortManager

variable {pm : PortManager}

theorem mem_range {port : UInt16} : port ∈ pm.range ↔ pm.covers port = true := by
  have ordered := pm.ordered
  simp only [range, covers, List.mem_map, List.mem_range'_1, Bool.and_eq_true, decide_eq_true_eq,
    UInt16.le_iff_toNat_le] at ordered ⊢
  constructor
  · rintro ⟨number, ⟨low, high⟩, rfl⟩
    have small : number < 2 ^ 16 := by
      have bound := pm.endPort.toNat_lt
      omega
    rw [UInt16.toNat_ofNat_of_lt' small]
    omega
  · rintro ⟨low, high⟩
    exact ⟨port.toNat, by omega, UInt16.ofNat_toNat⟩

theorem covers_positive {port : UInt16} (covered : pm.covers port = true) : 0 < port := by
  have positive := pm.positive
  simp only [covers, Bool.and_eq_true, decide_eq_true_eq, UInt16.le_iff_toNat_le,
    UInt16.lt_iff_toNat_lt] at covered positive ⊢
  omega

theorem getOrAllocatePort_cases {deviceID : GoString} {port : UInt16} {moved : PortManager}
    (allocated : pm.getOrAllocatePort deviceID = some (port, moved)) :
    (pm.deviceToPort.lookup deviceID = some port ∧ moved = pm) ∨
      (pm.deviceToPort.lookup deviceID = none ∧ pm.portToDevice.lookup port = none ∧
        pm.covers port = true ∧
        moved = { pm with
          deviceToPort := pm.deviceToPort.insert deviceID port
          portToDevice := pm.portToDevice.insert port deviceID }) := by
  unfold getOrAllocatePort at allocated
  cases reserved : pm.deviceToPort.lookup deviceID with
  | some old =>
      rw [reserved] at allocated
      cases allocated
      exact .inl ⟨rfl, rfl⟩
  | none =>
      rw [reserved] at allocated
      cases searched : pm.range.find? fun port => (pm.portToDevice.lookup port).isNone with
      | none =>
          rw [searched] at allocated
          cases allocated
      | some free =>
          rw [searched] at allocated
          cases allocated
          have unused := List.find?_some searched
          have inside := mem_range.mp (List.mem_of_find?_eq_some searched)
          exact .inr ⟨rfl, Option.isNone_iff_eq_none.mp unused, inside, rfl⟩

theorem getOrAllocatePort_self {deviceID : GoString} {port : UInt16} {moved : PortManager}
    (allocated : pm.getOrAllocatePort deviceID = some (port, moved)) :
    moved.deviceToPort.lookup deviceID = some port := by
  rcases getOrAllocatePort_cases allocated with ⟨reserved, rfl⟩ | ⟨_, _, _, rfl⟩
  · exact reserved
  · exact AList.lookup_insert _

theorem getOrAllocatePort_other {deviceID one : GoString} {port : UInt16} {moved : PortManager}
    (allocated : pm.getOrAllocatePort deviceID = some (port, moved)) (apart : one ≠ deviceID) :
    moved.deviceToPort.lookup one = pm.deviceToPort.lookup one := by
  rcases getOrAllocatePort_cases allocated with ⟨_, rfl⟩ | ⟨_, _, _, rfl⟩
  · rfl
  · exact AList.lookup_insert_ne apart

theorem getOrAllocatePort_covers {deviceID : GoString} {port : UInt16} {moved : PortManager}
    (allocated : pm.getOrAllocatePort deviceID = some (port, moved)) (one : UInt16) :
    moved.covers one = pm.covers one := by
  rcases getOrAllocatePort_cases allocated with ⟨_, rfl⟩ | ⟨_, _, _, rfl⟩ <;> rfl

theorem getOrAllocatePort_reserved {deviceID : GoString} {port : UInt16}
    (reserved : pm.deviceToPort.lookup deviceID = some port) :
    pm.getOrAllocatePort deviceID = some (port, pm) := by
  simp [getOrAllocatePort, reserved]

theorem releasePort_other (pm : PortManager) {deviceID one : GoString} (apart : one ≠ deviceID) :
    (pm.releasePort deviceID).deviceToPort.lookup one = pm.deviceToPort.lookup one := by
  unfold releasePort
  split
  · rfl
  · exact AList.lookup_erase_ne apart

theorem releasePort_self (pm : PortManager) (deviceID : GoString) :
    (pm.releasePort deviceID).deviceToPort.lookup deviceID = none := by
  unfold releasePort
  split
  · rename_i absent
    exact absent
  · exact AList.lookup_erase _ _

theorem releasePort_covers (pm : PortManager) (deviceID : GoString) (one : UInt16) :
    (pm.releasePort deviceID).covers one = pm.covers one := by
  unfold releasePort
  split <;> rfl

/-! ## Reservations -/

structure Reserves (pm : PortManager) : Prop where
  inverse : Inverse pm.deviceToPort pm.portToDevice
  covered : ∀ deviceID port, pm.deviceToPort.lookup deviceID = some port →
    pm.covers port = true

theorem Reserves.allocate (reserves : pm.Reserves) {deviceID : GoString} {port : UInt16}
    {moved : PortManager} (allocated : pm.getOrAllocatePort deviceID = some (port, moved)) :
    moved.Reserves := by
  rcases getOrAllocatePort_cases allocated with ⟨_, rfl⟩ | ⟨new, free, inside, rfl⟩
  · exact reserves
  · refine ⟨reserves.inverse.insert new free, fun one other found => ?_⟩
    change pm.covers other = true
    by_cases same : one = deviceID
    · subst same
      simp only [AList.lookup_insert, Option.some.injEq] at found
      subst found
      exact inside
    · simp only [AList.lookup_insert_ne same] at found
      exact reserves.covered one other found

theorem Reserves.release (reserves : pm.Reserves) (deviceID : GoString) :
    (pm.releasePort deviceID).Reserves := by
  refine ⟨?_, fun one port found => ?_⟩
  · unfold releasePort
    split
    · exact reserves.inverse
    · rename_i port present
      exact reserves.inverse.erase present
  · rw [releasePort_covers]
    by_cases same : one = deviceID
    · subst same
      rw [releasePort_self] at found
      cases found
    · rw [releasePort_other pm same] at found
      exact reserves.covered one port found

end PortManager

/-! ## Start-up -/

def DistinctPorts (db : Database) : Prop :=
  ∀ one other first second, db.agents.lookup one = some first →
    db.agents.lookup other = some second → 0 < first.publicPort →
    first.publicPort = second.publicPort → one = other

theorem mem_getAllAgents {db : Database} {a : AgentRecord} :
    a ∈ db.getAllAgents ↔ db.agents.lookup a.deviceID = some a.toAgentRow := by
  rw [← Option.mem_def, AList.mem_lookup_iff, Database.getAllAgents, List.mem_map]
  constructor
  · rintro ⟨⟨deviceID, row⟩, member, rfl⟩
    exact member
  · exact fun member => ⟨_, member, rfl⟩

theorem getAllAgents_nodup (db : Database) : (db.getAllAgents.map AgentRecord.deviceID).Nodup := by
  have same : db.getAllAgents.map AgentRecord.deviceID = db.agents.keys := by
    simp [Database.getAllAgents, AList.keys, List.keys]
  rw [same]
  exact db.agents.keys_nodup

namespace PortManager

theorem preload_covers (pm : PortManager) (agents : List AgentRecord) (port : UInt16) :
    (agents.foldl preload pm).covers port = pm.covers port := by
  induction agents generalizing pm with
  | nil => rfl
  | cons a rest induction =>
      rw [List.foldl_cons, induction]
      unfold preload
      split <;> rfl

theorem preload_reserves (agents : List AgentRecord)
    (devices : (agents.map AgentRecord.deviceID).Nodup)
    (ports : ∀ one ∈ agents, ∀ other ∈ agents, 0 < one.publicPort →
      one.publicPort = other.publicPort → one.deviceID = other.deviceID)
    (noPort : pm.deviceToPort = ∅) (noDevice : pm.portToDevice = ∅) :
    (agents.foldl preload pm).Reserves ∧
      ∀ deviceID port, (agents.foldl preload pm).deviceToPort.lookup deviceID = some port ↔
        ∃ a ∈ agents, a.deviceID = deviceID ∧ a.publicPort = port ∧ pm.covers port = true := by
  induction agents using List.reverseRecOn with
  | nil =>
      refine ⟨⟨?_, ?_⟩, ?_⟩
      · rw [List.foldl_nil, noPort, noDevice]
        exact .empty
      · simp [noPort]
      · simp [noPort]
  | append_singleton seen a induction =>
      rw [List.map_append, List.nodup_append] at devices
      rcases devices with ⟨before, _, apart⟩
      rcases induction before fun one first other second =>
        ports one (List.mem_append_left _ first) other (List.mem_append_left _ second) with
        ⟨reserves, reserved⟩
      rw [List.foldl_append, List.foldl_cons, List.foldl_nil]
      have range : ∀ port, (seen.foldl preload pm).covers port = pm.covers port :=
        preload_covers pm seen
      cases inside : pm.covers a.publicPort with
      | false =>
          have kept : (seen.foldl preload pm).preload a = seen.foldl preload pm := by
            rw [preload, range, inside]
            rfl
          rw [kept]
          refine ⟨reserves, fun deviceID port => ?_⟩
          rw [reserved]
          constructor
          · rintro ⟨one, member, rest⟩
            exact ⟨one, List.mem_append_left _ member, rest⟩
          · rintro ⟨one, member, device, same, covered⟩
            rw [List.mem_append, List.mem_singleton] at member
            rcases member with old | rfl
            · exact ⟨one, old, device, same, covered⟩
            · rw [← same, inside] at covered
              cases covered
      | true =>
          have added : (seen.foldl preload pm).preload a =
              { seen.foldl preload pm with
                deviceToPort := (seen.foldl preload pm).deviceToPort.insert a.deviceID a.publicPort
                portToDevice :=
                  (seen.foldl preload pm).portToDevice.insert a.publicPort a.deviceID } := by
            rw [preload, range, inside]
            rfl
          have newDevice : (seen.foldl preload pm).deviceToPort.lookup a.deviceID = none := by
            rw [Option.eq_none_iff_forall_ne_some]
            intro port found
            rcases (reserved a.deviceID port).mp found with ⟨one, member, same, _⟩
            exact apart one.deviceID (List.mem_map_of_mem member) a.deviceID (by simp) same
          have newPort : (seen.foldl preload pm).portToDevice.lookup a.publicPort = none := by
            rw [Option.eq_none_iff_forall_ne_some]
            intro device found
            rcases (reserved device a.publicPort).mp ((reserves.inverse _ _).mpr found) with
              ⟨one, member, _, same, _⟩
            have equal := ports a (by simp) one (List.mem_append_left _ member)
              (covers_positive inside) same.symm
            exact apart one.deviceID (List.mem_map_of_mem member) a.deviceID (by simp) equal.symm
          rw [added]
          refine ⟨⟨reserves.inverse.insert newDevice newPort, fun one port found => ?_⟩,
            fun deviceID port => ?_⟩
          · change (seen.foldl preload pm).covers port = true
            by_cases same : one = a.deviceID
            · subst same
              simp only [AList.lookup_insert, Option.some.injEq] at found
              rw [range, ← found]
              exact inside
            · simp only [AList.lookup_insert_ne same] at found
              exact reserves.covered one port found
          · by_cases same : deviceID = a.deviceID
            · subst same
              simp only [AList.lookup_insert, Option.some.injEq]
              constructor
              · rintro rfl
                exact ⟨a, by simp, rfl, rfl, inside⟩
              · rintro ⟨one, member, device, rfl, _⟩
                rw [List.mem_append, List.mem_singleton] at member
                rcases member with old | rfl
                · exact absurd device (apart one.deviceID (List.mem_map_of_mem old) _ (by simp))
                · rfl
            · simp only [AList.lookup_insert_ne same]
              rw [reserved]
              constructor
              · rintro ⟨one, member, rest⟩
                exact ⟨one, List.mem_append_left _ member, rest⟩
              · rintro ⟨one, member, device, rest⟩
                rw [List.mem_append, List.mem_singleton] at member
                rcases member with old | rfl
                · exact ⟨one, old, device, rest⟩
                · exact absurd device.symm same

end PortManager

theorem newPortManager_reserves {db : Database} {startPort endPort : UInt16}
    {agents : List AgentRecord} {pm : PortManager} (rows : agents.Perm db.getAllAgents)
    (distinct : DistinctPorts db) (started : newPortManager startPort endPort agents = some pm) :
    pm.Reserves ∧ ∀ deviceID port, pm.deviceToPort.lookup deviceID = some port ↔
      ∃ row, db.agents.lookup deviceID = some row ∧ row.publicPort = port ∧
        pm.covers port = true := by
  unfold newPortManager at started
  split at started
  swap
  · cases started
  rename_i valid
  cases started
  have devices : (agents.map AgentRecord.deviceID).Nodup :=
    (rows.map _).nodup_iff.mpr (getAllAgents_nodup db)
  rcases @PortManager.preload_reserves ⟨startPort, endPort, ∅, ∅, valid.1, valid.2⟩ agents devices
    (fun one first other second positive same =>
      distinct _ _ _ _ (mem_getAllAgents.mp (rows.mem_iff.mp first))
        (mem_getAllAgents.mp (rows.mem_iff.mp second)) positive same) rfl rfl with
    ⟨reserves, reserved⟩
  refine ⟨reserves, fun deviceID port => ?_⟩
  rw [reserved, PortManager.preload_covers]
  constructor
  · rintro ⟨a, member, rfl, rest⟩
    exact ⟨_, mem_getAllAgents.mp (rows.mem_iff.mp member), rest⟩
  · rintro ⟨row, present, rest⟩
    exact ⟨{ row with deviceID }, rows.mem_iff.mpr (mem_getAllAgents.mpr present), rfl, rest⟩

end Rdpulse.Relay
