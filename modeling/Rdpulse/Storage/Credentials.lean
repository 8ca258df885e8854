import Rdpulse.Foundation.Execution
import Rdpulse.Storage.Database

namespace Rdpulse.Storage

open Foundation Protocol

/-! Credentials over any sequence of the storage operations, each of which may fail
at any of its statements. Only an enrollment that returns nil replaces the secret of
a row. -/

structure Connection where
  tables : Database
  tx : Option Database
  deriving DecidableEq

namespace Connection

variable (conn : Connection)

def beginTx : Connection := { conn with tx := some conn.tables }

def rollback : Connection := { conn with tx := none }

def commit : Connection :=
  match conn.tx with
  | some tables => ⟨tables, none⟩
  | none => conn

def txExec (statement : Database → Nat × Database) : Nat × Connection :=
  match conn.tx with
  | some tables => ((statement tables).1, { conn with tx := some (statement tables).2 })
  | none => (0, conn)

def exec (failed : Bool) (statement : Database → Except StorageError Database) :
    Option StorageError × Connection :=
  if failed then (some .statement, conn)
  else
    match statement conn.tables with
    | .ok tables => (none, { conn with tables })
    | .error err => (some err, conn)

/-- What `CreateAgentWithEnrollment` does between `Begin` and its deferred
`Rollback`. -/
def enroll (a : AgentRecord) (token : GoString) (now : Time)
    (failure : Option Database.TransactionStage) : Option StorageError × Connection :=
  if failure = some .consume then (some .statement, conn)
  else
    let (rows, conn) := conn.txExec (·.consumeInvitation a.deviceID token now)
    if failure = some .rowsAffected || rows ≠ 1 then (some .enrollmentInvalid, conn)
    else if failure = some .insert then (some .statement, conn)
    else
      let (_, conn) := conn.txExec fun tx => (1, tx.insertAgent a)
      -- A transaction that fails to commit leaves no trace.
      if failure = some .commit then (some .statement, conn.rollback)
      else (none, conn.commit)

def createAgentWithEnrollment (a : AgentRecord) (token : GoString) (now : Time)
    (failure : Option Database.TransactionStage) : Option StorageError × Connection :=
  if failure = some .start then (some .statement, conn)
  else
    let (err, conn) := conn.beginTx.enroll a token now failure
    (err, conn.rollback)

end Connection

def Database.updateAgentLastSeen (db : Database) (deviceID : GoString) (_t : Time) : Database :=
  db.updateAgent deviceID fun row => row

/-- The operations on the two tables, with the clock that each reads and where it
fails. -/
inductive StorageOp
  | create (a : AgentRecord) (token : GoString) (now : Time)
      (failure : Option Database.TransactionStage)
  | updateRegistration (deviceID hostname : GoString) (publicPort : UInt16) (failed : Bool)
  | updateLastSeen (deviceID : GoString) (t : Time) (failed : Bool)
  | setEnabled (deviceID : GoString) (enabled failed : Bool)
  | deleteAgent (deviceID : GoString) (failed : Bool)
  | upsertInvitation (deviceID token : GoString) (expiresAt : Time) (failed : Bool)
  | updateInvitationExpiry (deviceID : GoString) (expiresAt : Time) (failed : Bool)
  | validateInvitation (deviceID token : GoString) (now : Time) (failed : Bool)
  | listInvitations (failed : Bool)
  | deleteInvitation (deviceID : GoString) (failed : Bool)
  deriving DecidableEq

def StorageOp.run (conn : Connection) : StorageOp → Option StorageError × Connection
  | .create a token now failure => conn.createAgentWithEnrollment a token now failure
  | .updateRegistration deviceID hostname publicPort failed =>
      conn.exec failed fun db => .ok (db.updateAgentRegistration deviceID hostname publicPort)
  | .updateLastSeen deviceID t failed =>
      conn.exec failed fun db => .ok (db.updateAgentLastSeen deviceID t)
  | .setEnabled deviceID enabled failed =>
      conn.exec failed fun db => .ok (db.setAgentEnabled deviceID enabled)
  | .deleteAgent deviceID failed => conn.exec failed fun db => .ok (db.deleteAgent deviceID)
  | .upsertInvitation deviceID token expiresAt failed =>
      conn.exec failed fun db => .ok (db.upsertEnrollmentInvitation deviceID token expiresAt)
  | .updateInvitationExpiry deviceID expiresAt failed =>
      conn.exec failed (·.updateEnrollmentInvitationExpiry deviceID expiresAt)
  | .validateInvitation _ _ _ failed => conn.exec failed .ok
  | .listInvitations failed => conn.exec failed .ok
  | .deleteInvitation deviceID failed =>
      conn.exec failed fun db => .ok (db.deleteEnrollmentInvitation deviceID)

/-- The connection, and the records with which an enrollment returned nil. -/
structure CredentialLog where
  conn : Connection
  enrolled : List AgentRecord
  deriving DecidableEq

def StorageOp.enrolls (conn : Connection) : StorageOp → Option AgentRecord
  | .create a token now failure =>
      if (conn.createAgentWithEnrollment a token now failure).1 = none then some a else none
  | _ => none

def storage : Machine CredentialLog StorageOp where
  step state op := some
    { conn := (op.run state.conn).2
      enrolled := state.enrolled ++ (op.enrolls state.conn).toList }

def lastEnrollment (enrolled : List AgentRecord) (deviceID : GoString) : Option AgentRecord :=
  (enrolled.filter fun a => a.deviceID = deviceID).getLast?

/-! ## One enrollment -/

structure Enrolled (a : AgentRecord) (token : GoString) (now : Time)
    (before after : Database) : Prop where
  invitation : ∃ row, before.invitations.lookup a.deviceID = some row ∧
    row.tokenHash = enrollmentTokenHash token ∧ row.consumedAt = none ∧ now < row.expiresAt ∧
    after.invitations.lookup a.deviceID = some { row with consumedAt := some now }
  otherInvitations : ∀ other, other ≠ a.deviceID →
    after.invitations.lookup other = before.invitations.lookup other
  agent : ∃ row, after.agents.lookup a.deviceID = some row ∧ row.secretHash = a.secretHash ∧
    ∀ old, before.agents.lookup a.deviceID = some old → 0 < old.publicPort →
      row.publicPort = old.publicPort
  otherAgents : ∀ other, other ≠ a.deviceID →
    after.agents.lookup other = before.agents.lookup other

theorem Connection.createAgentWithEnrollment_eq (conn : Connection) (a : AgentRecord)
    (token : GoString) (now : Time) (failure : Option Database.TransactionStage) :
    ∃ tx, conn.createAgentWithEnrollment a token now failure =
      match conn.tables.createAgentWithEnrollment a token now failure with
      | .ok tables => (none, ⟨tables, none⟩)
      | .error err => (some err, ⟨conn.tables, tx⟩) := by
  rcases consumed : conn.tables.consumeInvitation a.deviceID token now with ⟨rows, tx⟩
  have executed : conn.beginTx.txExec (·.consumeInvitation a.deviceID token now) =
      (rows, ⟨conn.tables, some tx⟩) := by
    simp only [beginTx, txExec, consumed]
  unfold createAgentWithEnrollment Connection.enroll Database.createAgentWithEnrollment
  simp only [consumed, executed]
  by_cases start : failure = some .start
  · exact ⟨conn.tx, by simp only [start, if_true]⟩
  · refine ⟨none, ?_⟩
    simp only [start, if_false]
    by_cases one : rows = 1
    · cases failure with
      | none => simp [one, txExec, commit, rollback]
      | some stage =>
          cases stage <;> simp [one, txExec, beginTx, rollback] at start ⊢
    · by_cases consume : failure = some .consume
      · simp [consume, beginTx, rollback]
      · simp [consume, one, rollback]

theorem Database.createAgentWithEnrollment_enrolled {db moved : Database} {a : AgentRecord}
    {token : GoString} {now : Time} {failure : Option TransactionStage}
    (created : db.createAgentWithEnrollment a token now failure = .ok moved) :
    Enrolled a token now db moved := by
  rcases createAgentWithEnrollment_ok created with ⟨row, present, usable, rfl⟩
  simp only [InvitationRow.usable, Bool.and_eq_true, decide_eq_true_eq,
    Option.isNone_iff_eq_none] at usable
  rcases usable with ⟨⟨hash, unconsumed⟩, unexpired⟩
  refine ⟨⟨row, present, hash, unconsumed, unexpired, AList.lookup_insert _⟩,
    fun other apart => AList.lookup_insert_ne apart, ?_,
    fun other apart => insertAgent_lookup_other a apart⟩
  rcases @insertAgent_lookup { db with invitations := _ } a with
    ⟨new, found, secret, absent | ⟨old, before, _, port⟩⟩
  · refine ⟨new, found, secret, fun old before => ?_⟩
    rw [absent.1] at before
    cases before
  · refine ⟨new, found, secret, fun one held positive => ?_⟩
    rw [before, Option.some.injEq] at held
    subst held
    rw [port, if_pos positive]

theorem Database.createAgentWithEnrollment_ok_iff (db : Database) (a : AgentRecord)
    (token : GoString) (now : Time) (failure : Option TransactionStage) :
    (∃ moved, db.createAgentWithEnrollment a token now failure = .ok moved) ↔
      failure = none ∧
        ∃ row, db.invitations.lookup a.deviceID = some row ∧ row.usable token now = true := by
  constructor
  · rintro ⟨moved, created⟩
    rcases createAgentWithEnrollment_ok created with ⟨row, present, usable, _⟩
    refine ⟨?_, row, present, usable⟩
    cases failure with
    | none => rfl
    | some stage =>
        unfold createAgentWithEnrollment at created
        cases stage <;> simp [consumeInvitation, present, usable] at created
  · rintro ⟨rfl, row, present, usable⟩
    exact ⟨_, by simp [createAgentWithEnrollment, consumeInvitation, present, usable]; rfl⟩

/-- What the caller sees of an enrollment: nil and an enrolled device, or an error
and the tables as they were. -/
theorem Connection.createAgentWithEnrollment_outcome (conn : Connection) (a : AgentRecord)
    (token : GoString) (now : Time) (failure : Option Database.TransactionStage) :
    ((conn.createAgentWithEnrollment a token now failure).1 = none ∧
      Enrolled a token now conn.tables
        (conn.createAgentWithEnrollment a token now failure).2.tables) ∨
    ((conn.createAgentWithEnrollment a token now failure).1 ≠ none ∧
      (conn.createAgentWithEnrollment a token now failure).2.tables = conn.tables) := by
  rcases conn.createAgentWithEnrollment_eq a token now failure with ⟨tx, outcome⟩
  rw [outcome]
  cases created : conn.tables.createAgentWithEnrollment a token now failure with
  | ok tables => exact .inl ⟨rfl, Database.createAgentWithEnrollment_enrolled created⟩
  | error err => exact .inr ⟨by simp, rfl⟩

/-! ## The other operations -/

def KeepsSecrets (before after : Database) : Prop :=
  ∀ deviceID row, after.agents.lookup deviceID = some row →
    ∃ old, before.agents.lookup deviceID = some old ∧ row.secretHash = old.secretHash

namespace KeepsSecrets

variable {db : Database}

theorem of_agents {after : Database} (same : after.agents = db.agents) :
    KeepsSecrets db after := by
  intro deviceID row present
  rw [same] at present
  exact ⟨row, present, rfl⟩

theorem updateAgent (deviceID : GoString) {set : AgentRow → AgentRow}
    (kept : ∀ row, (set row).secretHash = row.secretHash) :
    KeepsSecrets db (db.updateAgent deviceID set) := by
  intro one row present
  rw [Database.updateAgent_lookup] at present
  split at present
  · rw [Option.map_eq_some_iff] at present
    rcases present with ⟨old, before, rfl⟩
    exact ⟨old, before, kept old⟩
  · exact ⟨row, present, rfl⟩

theorem deleteAgent (deviceID : GoString) : KeepsSecrets db (db.deleteAgent deviceID) := by
  intro one row present
  by_cases same : one = deviceID
  · subst same
    rw [Database.deleteAgent, AList.lookup_erase] at present
    cases present
  · rw [Database.deleteAgent, AList.lookup_erase_ne same] at present
    exact ⟨row, present, rfl⟩

theorem updateEnrollmentInvitationExpiry {deviceID : GoString} {expiresAt : Time}
    {moved : Database}
    (updated : db.updateEnrollmentInvitationExpiry deviceID expiresAt = .ok moved) :
    KeepsSecrets db moved := by
  unfold Database.updateEnrollmentInvitationExpiry at updated
  split at updated
  · cases updated
  · cases updated
    exact .of_agents rfl

theorem exec {conn : Connection} (failed : Bool)
    {statement : Database → Except StorageError Database}
    (keeps : ∀ moved, statement conn.tables = .ok moved → KeepsSecrets conn.tables moved) :
    KeepsSecrets conn.tables (conn.exec failed statement).2.tables := by
  unfold Connection.exec
  cases failed with
  | true => exact .of_agents rfl
  | false =>
      cases stated : statement conn.tables with
      | ok moved => exact keeps moved stated
      | error err => exact .of_agents rfl

end KeepsSecrets

namespace StorageOp

variable {conn : Connection}

theorem run_enrolls {op : StorageOp} {a : AgentRecord} (enrolled : op.enrolls conn = some a) :
    ∃ token now failure, op = .create a token now failure ∧ (op.run conn).1 = none ∧
      Enrolled a token now conn.tables (op.run conn).2.tables := by
  cases op with
  | create one token now failure =>
      rw [enrolls] at enrolled
      split at enrolled
      · rename_i returned
        cases enrolled
        rcases conn.createAgentWithEnrollment_outcome a token now failure with done | failed
        · exact ⟨token, now, failure, rfl, returned, done.2⟩
        · exact absurd returned failed.1
      · cases enrolled
  | _ => cases enrolled

theorem run_keeps {op : StorageOp} (enrolled : op.enrolls conn = none) :
    KeepsSecrets conn.tables (op.run conn).2.tables := by
  cases op with
  | create a token now failure =>
      rw [enrolls] at enrolled
      split at enrolled
      · cases enrolled
      · rename_i returned
        rcases conn.createAgentWithEnrollment_outcome a token now failure with done | failed
        · exact absurd done.1 returned
        · exact .of_agents (congrArg Database.agents failed.2)
  | updateRegistration =>
      exact .exec _ fun moved updated => by cases updated; exact .updateAgent _ fun _ => rfl
  | updateLastSeen =>
      exact .exec _ fun moved updated => by cases updated; exact .updateAgent _ fun _ => rfl
  | setEnabled =>
      exact .exec _ fun moved updated => by cases updated; exact .updateAgent _ fun _ => rfl
  | deleteAgent => exact .exec _ fun moved deleted => by cases deleted; exact .deleteAgent _
  | upsertInvitation =>
      exact .exec _ fun moved upserted => by cases upserted; exact .of_agents rfl
  | updateInvitationExpiry =>
      exact .exec _ fun moved updated => .updateEnrollmentInvitationExpiry updated
  | validateInvitation => exact .exec _ fun moved read => by cases read; exact .of_agents rfl
  | listInvitations => exact .exec _ fun moved read => by cases read; exact .of_agents rfl
  | deleteInvitation =>
      exact .exec _ fun moved deleted => by cases deleted; exact .of_agents rfl

end StorageOp

/-! ## Runs -/

/-- Every row holds the secret of the last enrollment of its device, or where there
is none the secret that it started with. -/
def CredentialsOf (start : Database) (state : CredentialLog) : Prop :=
  ∀ deviceID row, state.conn.tables.agents.lookup deviceID = some row →
    match lastEnrollment state.enrolled deviceID with
    | some a => row.secretHash = a.secretHash
    | none => ∃ old, start.agents.lookup deviceID = some old ∧ row.secretHash = old.secretHash

theorem lastEnrollment_append (enrolled : List AgentRecord) (a : AgentRecord)
    (deviceID : GoString) :
    lastEnrollment (enrolled ++ [a]) deviceID =
      if a.deviceID = deviceID then some a else lastEnrollment enrolled deviceID := by
  unfold lastEnrollment
  by_cases same : a.deviceID = deviceID
  · simp [same]
  · simp [same]

theorem CredentialsOf.step {start : Database} {state : CredentialLog}
    (known : CredentialsOf start state) (op : StorageOp) :
    CredentialsOf start
      { conn := (op.run state.conn).2
        enrolled := state.enrolled ++ (op.enrolls state.conn).toList } := by
  intro deviceID row present
  cases enrolled : op.enrolls state.conn with
  | none =>
      rcases StorageOp.run_keeps enrolled deviceID row present with ⟨old, before, same⟩
      have earlier := known deviceID old before
      simp only [Option.toList_none, List.append_nil]
      rw [same]
      exact earlier
  | some a =>
      rcases StorageOp.run_enrolls enrolled with ⟨token, now, failure, rfl, _, done⟩
      simp only [Option.toList_some, lastEnrollment_append]
      by_cases same : a.deviceID = deviceID
      · subst same
        rcases done.agent with ⟨new, found, secret, _⟩
        rw [found, Option.some.injEq] at present
        subst present
        simpa using secret
      · rw [if_neg same]
        simp only [done.otherAgents deviceID (Ne.symm same)] at present
        exact known deviceID row present

/-- In every state that the operations reach, an enrollment either returns nil and
has consumed the invitation and installed the secret, or returns an error and
changes nothing; no other operation changes the secret of a row; and so a row holds
the secret of the last enrollment of its device. -/
theorem enrollment_all_or_nothing {start : Connection} {ops : List StorageOp}
    {state : CredentialLog} (run : storage.Run Machine.Unrestricted ⟨start, []⟩ ops state) :
    (∀ a token now failure,
      ((state.conn.createAgentWithEnrollment a token now failure).1 = none ∧
        Enrolled a token now state.conn.tables
          (state.conn.createAgentWithEnrollment a token now failure).2.tables) ∨
      ((state.conn.createAgentWithEnrollment a token now failure).1 ≠ none ∧
        (state.conn.createAgentWithEnrollment a token now failure).2.tables =
          state.conn.tables)) ∧
    (∀ (op : StorageOp) deviceID old row,
      state.conn.tables.agents.lookup deviceID = some old →
      (op.run state.conn).2.tables.agents.lookup deviceID = some row →
      row.secretHash ≠ old.secretHash →
      ∃ a token now failure, op = .create a token now failure ∧ (op.run state.conn).1 = none ∧
        a.deviceID = deviceID ∧ row.secretHash = a.secretHash) ∧
    CredentialsOf start.tables state := by
  refine ⟨state.conn.createAgentWithEnrollment_outcome, ?_, ?_⟩
  · intro op deviceID old row before after changed
    cases enrolled : op.enrolls state.conn with
    | none =>
        rcases StorageOp.run_keeps enrolled deviceID row after with ⟨same, held, kept⟩
        rw [before, Option.some.injEq] at held
        subst held
        exact absurd kept changed
    | some a =>
        rcases StorageOp.run_enrolls enrolled with ⟨token, now, failure, rfl, returned, done⟩
        by_cases same : a.deviceID = deviceID
        · subst same
          rcases done.agent with ⟨new, found, secret, _⟩
          rw [found, Option.some.injEq] at after
          subst after
          exact ⟨a, token, now, failure, rfl, returned, rfl, secret⟩
        · rw [done.otherAgents deviceID (Ne.symm same), before, Option.some.injEq] at after
          exact absurd (congrArg AgentRow.secretHash after.symm) changed
  · refine @Machine.Run.preserves _ _ _ _ (CredentialsOf start.tables) _ _ _ run ?_ ?_
    · exact fun deviceID row present => ⟨row, present, rfl⟩
    · intro middle op next known _ taken
      cases taken
      exact known.step op

/-- A device that enrolls, is renamed, and enrolls again under a new secret after an
enrollment whose commit fails. -/
theorem enrollment_all_or_nothing_twice :
    ∃ ops state, storage.Run Machine.Unrestricted ⟨⟨.empty, none⟩, []⟩ ops state ∧
      state.enrolled.map (·.secretHash) = [[1], [2]] ∧
      CredentialsOf Database.empty state := by
  rcases storage.exists_run Machine.Unrestricted
    (fun state => state.enrolled.map (·.secretHash) = [[1], [2]]) ⟨⟨.empty, none⟩, []⟩
    [.upsertInvitation [97] [1] 9 false, .create ⟨⟨[], [1], 0, true⟩, [97]⟩ [1] 3 none,
      .updateRegistration [97] [98] 4000 false, .upsertInvitation [97] [2] 9 false,
      .create ⟨⟨[], [2], 0, true⟩, [97]⟩ [2] 5 (some .commit),
      .create ⟨⟨[], [2], 0, true⟩, [97]⟩ [2] 5 none]
    (by decide +kernel) with ⟨state, run, enrolled⟩
  exact ⟨_, state, run, enrolled, (enrollment_all_or_nothing run).2.2⟩

end Rdpulse.Storage
