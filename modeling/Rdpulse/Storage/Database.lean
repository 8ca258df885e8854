import Mathlib.Data.List.AList
import Rdpulse.Foundation.Sha256
import Rdpulse.Protocol.Control

namespace Rdpulse.Storage

open Foundation Protocol

/-! The Relay's database. A table is keyed by its unique column, and a statement
or transaction acts as a whole or, where it fails, not at all. -/

/-- Nanoseconds since the epoch, of UTC. -/
abbrev Time := Int

structure AgentRow where
  hostname : GoString
  secretHash : GoString
  publicPort : UInt16
  enabled : Bool
  deriving DecidableEq, Repr

structure AgentRecord extends AgentRow where
  deviceID : GoString
  deriving DecidableEq, Repr

structure InvitationRow where
  tokenHash : GoString
  expiresAt : Time
  consumedAt : Option Time
  deriving DecidableEq, Repr

abbrev AgentTable := AList fun _ : GoString => AgentRow
abbrev InvitationTable := AList fun _ : GoString => InvitationRow

structure Database where
  agents : AgentTable
  invitations : InvitationTable
  deriving DecidableEq

def Database.empty : Database := ⟨∅, ∅⟩

inductive StorageError
  | enrollmentInvalid
  | invitationNotFound
  | statement
  deriving DecidableEq, Repr

def hexDigit (value : UInt8) : UInt8 := if value < 10 then 48 + value else 87 + value

def hexEncode (bytes : Bytes) : GoString :=
  bytes.flatMap fun byte => [hexDigit (byte / 16), hexDigit (byte % 16)]

def enrollmentTokenHash (token : GoString) : GoString := hexEncode (Sha256.sum256 token)

/-- A row that `ValidateEnrollmentInvitation` and `CreateAgentWithEnrollment`
select for this token. -/
def InvitationRow.usable (row : InvitationRow) (token : GoString) (now : Time) : Bool :=
  row.tokenHash = enrollmentTokenHash token && row.consumedAt.isNone && now < row.expiresAt

namespace Database

variable (db : Database)

def upsertEnrollmentInvitation (deviceID token : GoString) (expiresAt : Time) : Database :=
  let excluded := enrollmentTokenHash token
  let consumedAt :=
    match db.invitations.lookup deviceID with
    | some row => if row.tokenHash = excluded then row.consumedAt else none
    | none => none
  { db with invitations := db.invitations.insert deviceID ⟨excluded, expiresAt, consumedAt⟩ }

def updateEnrollmentInvitationExpiry (deviceID : GoString) (expiresAt : Time) :
    Except StorageError Database :=
  match db.invitations.lookup deviceID with
  | none => .error .invitationNotFound
  | some row =>
      .ok { db with invitations := db.invitations.insert deviceID { row with expiresAt } }

def validateEnrollmentInvitation (deviceID token : GoString) (now : Time) : Bool :=
  if deviceID = [] || token = [] then false
  else
    match db.invitations.lookup deviceID with
    | none => false
    | some row => row.usable token now

def hasActiveInvitation (deviceID : GoString) (now : Time) : Bool :=
  match db.invitations.lookup deviceID with
  | none => false
  | some row => row.consumedAt.isNone && now < row.expiresAt

def deleteEnrollmentInvitation (deviceID : GoString) : Database :=
  { db with invitations := db.invitations.erase deviceID }

def consumeInvitation (deviceID token : GoString) (now : Time) : Nat × Database :=
  match db.invitations.lookup deviceID with
  | none => (0, db)
  | some row =>
      if row.usable token now then
        (1, { db with
          invitations := db.invitations.insert deviceID { row with consumedAt := some now } })
      else (0, db)

/-- The `INSERT` of `CreateAgentWithEnrollment`. On a conflict the row keeps a
port that it has. -/
def insertAgent (a : AgentRecord) : Database :=
  let row :=
    match db.agents.lookup a.deviceID with
    | none => a.toAgentRow
    | some old =>
        { hostname := a.hostname
          secretHash := a.secretHash
          publicPort := if 0 < old.publicPort then old.publicPort else a.publicPort
          enabled := true }
  { db with agents := db.agents.insert a.deviceID row }

/-- Where the transaction of `CreateAgentWithEnrollment` can fail. -/
inductive TransactionStage
  | start
  | consume
  | rowsAffected
  | insert
  | commit
  deriving DecidableEq, Repr

def createAgentWithEnrollment (a : AgentRecord) (token : GoString) (now : Time)
    (failure : Option TransactionStage) : Except StorageError Database :=
  if failure = some .start then .error .statement
  else if failure = some .consume then .error .statement
  else
    let (rows, tx) := db.consumeInvitation a.deviceID token now
    if failure = some .rowsAffected || rows ≠ 1 then .error .enrollmentInvalid
    else if failure = some .insert then .error .statement
    else
      let tx := tx.insertAgent a
      if failure = some .commit then .error .statement else .ok tx

def getAgentByDeviceID (deviceID : GoString) : Option AgentRecord :=
  (db.agents.lookup deviceID).map fun row => { row with deviceID }

/-- What `GetAllAgents` returns, in some order of the rows. -/
def getAllAgents : List AgentRecord :=
  db.agents.entries.map fun entry => { entry.2 with deviceID := entry.1 }

def updateAgent (deviceID : GoString) (set : AgentRow → AgentRow) : Database :=
  match db.agents.lookup deviceID with
  | none => db
  | some row => { db with agents := db.agents.insert deviceID (set row) }

def updateAgentRegistration (deviceID hostname : GoString) (publicPort : UInt16) : Database :=
  db.updateAgent deviceID fun row => { row with hostname, publicPort }

def setAgentEnabled (deviceID : GoString) (enabled : Bool) : Database :=
  db.updateAgent deviceID fun row => { row with enabled }

def deleteAgent (deviceID : GoString) : Database :=
  { db with agents := db.agents.erase deviceID }

/-! ## What the operations change -/

variable {db}

@[simp] theorem upsertEnrollmentInvitation_agents (deviceID token : GoString) (expiresAt : Time) :
    (db.upsertEnrollmentInvitation deviceID token expiresAt).agents = db.agents := rfl

@[simp] theorem insertAgent_invitations (a : AgentRecord) :
    (db.insertAgent a).invitations = db.invitations := rfl

@[simp] theorem updateAgent_invitations (deviceID : GoString) (set : AgentRow → AgentRow) :
    (db.updateAgent deviceID set).invitations = db.invitations := by
  unfold updateAgent
  split <;> rfl

theorem updateAgent_lookup (deviceID one : GoString) (set : AgentRow → AgentRow) :
    (db.updateAgent deviceID set).agents.lookup one =
      if one = deviceID then (db.agents.lookup one).map set else db.agents.lookup one := by
  unfold updateAgent
  split
  · rename_i absent
    by_cases same : one = deviceID
    · subst same
      simp [absent]
    · simp [same]
  · rename_i row present
    by_cases same : one = deviceID
    · subst same
      simp [present]
    · simp [same, AList.lookup_insert_ne same]

theorem insertAgent_lookup_other (a : AgentRecord) {one : GoString} (apart : one ≠ a.deviceID) :
    (db.insertAgent a).agents.lookup one = db.agents.lookup one :=
  AList.lookup_insert_ne apart

theorem insertAgent_lookup (a : AgentRecord) :
    ∃ row, (db.insertAgent a).agents.lookup a.deviceID = some row ∧
      row.secretHash = a.secretHash ∧
      ((db.agents.lookup a.deviceID = none ∧ row = a.toAgentRow) ∨
        ∃ old, db.agents.lookup a.deviceID = some old ∧ row.enabled = true ∧
          row.publicPort = if 0 < old.publicPort then old.publicPort else a.publicPort) := by
  unfold insertAgent
  cases present : db.agents.lookup a.deviceID with
  | none => exact ⟨a.toAgentRow, AList.lookup_insert _, rfl, .inl ⟨rfl, rfl⟩⟩
  | some old => exact ⟨_, AList.lookup_insert _, rfl, .inr ⟨old, rfl, rfl, rfl⟩⟩

theorem consumeInvitation_cases (db : Database) (deviceID token : GoString) (now : Time) :
    db.consumeInvitation deviceID token now = (0, db) ∨
      ∃ row, db.invitations.lookup deviceID = some row ∧ row.usable token now = true ∧
        db.consumeInvitation deviceID token now =
          (1, { db with invitations :=
            db.invitations.insert deviceID { row with consumedAt := some now } }) := by
  unfold consumeInvitation
  cases present : db.invitations.lookup deviceID with
  | none => exact .inl rfl
  | some row =>
      cases usable : row.usable token now with
      | false => exact .inl (by simp [usable])
      | true => exact .inr ⟨row, rfl, usable, by simp [usable]⟩

theorem createAgentWithEnrollment_ok {a : AgentRecord} {token : GoString} {now : Time}
    {failure : Option TransactionStage} {moved : Database}
    (created : db.createAgentWithEnrollment a token now failure = .ok moved) :
    ∃ row, db.invitations.lookup a.deviceID = some row ∧ row.usable token now = true ∧
      moved = ({ db with invitations :=
        db.invitations.insert a.deviceID { row with consumedAt := some now } } :
          Database).insertAgent a := by
  unfold createAgentWithEnrollment at created
  rcases consumeInvitation_cases db a.deviceID token now with
    none | ⟨row, present, usable, consumed⟩
  · rw [none] at created
    simp only [ne_eq, zero_ne_one, not_false_eq_true, decide_true, Bool.or_true, if_true] at created
    repeat' split at created
    all_goals cases created
  · rw [consumed] at created
    refine ⟨row, present, usable, ?_⟩
    simp only [ne_eq, not_true_eq_false, decide_false, Bool.or_false] at created
    repeat' split at created
    all_goals cases created
    rfl

theorem createAgentWithEnrollment_agents {a : AgentRecord} {token : GoString} {now : Time}
    {failure : Option TransactionStage} {moved : Database}
    (created : db.createAgentWithEnrollment a token now failure = .ok moved) :
    moved.agents = (db.insertAgent a).agents := by
  rcases createAgentWithEnrollment_ok created with ⟨row, _, _, rfl⟩
  rfl

end Database

end Rdpulse.Storage
