import Rdpulse.Foundation.Execution
import Rdpulse.Storage.Database

namespace Rdpulse.Storage

open Foundation Protocol

/-! Enrollment invitations over any sequence of the operations on them. The row of
a device keeps one token and whether it was consumed, so a token is used once as
long as it is not installed again after another. -/

/-- The operations of start-up, the configuration watcher, the web console and the
connection handlers, with the clock that each reads. -/
inductive EnrollmentOp
  | upsert (deviceID token : GoString) (expiresAt : Time)
  | updateExpiry (deviceID : GoString) (expiresAt : Time)
  | validate (deviceID token : GoString) (now : Time)
  | create (a : AgentRecord) (token : GoString) (now : Time)
      (failure : Option Database.TransactionStage)
  deriving DecidableEq

structure EnrollmentLog where
  db : Database
  enrolled : List (GoString × GoString)
  deriving DecidableEq

def EnrollmentLog.step (state : EnrollmentLog) : EnrollmentOp → EnrollmentLog
  | .upsert deviceID token expiresAt =>
      { state with db := state.db.upsertEnrollmentInvitation deviceID token expiresAt }
  | .updateExpiry deviceID expiresAt =>
      match state.db.updateEnrollmentInvitationExpiry deviceID expiresAt with
      | .ok db => { state with db }
      | .error _ => state
  | .validate _ _ _ => state
  | .create a token now failure =>
      match state.db.createAgentWithEnrollment a token now failure with
      | .ok db => { db, enrolled := state.enrolled ++ [(a.deviceID, token)] }
      | .error _ => state

def enrollment : Machine EnrollmentLog EnrollmentOp where
  step state op := some (state.step op)

/-- A token with which its device has enrolled is not installed again while the
row of the device holds another. -/
def NotReinstalled (state : EnrollmentLog) : EnrollmentOp → Prop
  | .upsert deviceID token _ =>
      (∃ used ∈ state.enrolled, used.1 = deviceID ∧
        enrollmentTokenHash used.2 = enrollmentTokenHash token) →
      (state.db.invitations.lookup deviceID).map InvitationRow.tokenHash =
        some (enrollmentTokenHash token)
  | _ => True

instance (state : EnrollmentLog) (op : EnrollmentOp) : Decidable (NotReinstalled state op) := by
  unfold NotReinstalled
  split <;> infer_instance

def Spent (state : EnrollmentLog) : Prop :=
  ∀ deviceID token row, (deviceID, token) ∈ state.enrolled →
    state.db.invitations.lookup deviceID = some row →
    row.tokenHash = enrollmentTokenHash token → row.consumedAt.isSome = true

variable {state : EnrollmentLog}

theorem Spent.not_usable (spent : Spent state) {deviceID token : GoString} {row : InvitationRow}
    (used : (deviceID, token) ∈ state.enrolled)
    (present : state.db.invitations.lookup deviceID = some row) (now : Time) :
    row.usable token now = false := by
  cases usable : row.usable token now with
  | false => rfl
  | true =>
      simp only [InvitationRow.usable, Bool.and_eq_true, decide_eq_true_eq] at usable
      have consumed := spent deviceID token row used present usable.1.1
      rw [← Option.not_isNone, usable.1.2] at consumed
      cases consumed

theorem Spent.upsert (spent : Spent state) {deviceID token : GoString} (expiresAt : Time)
    (kept : NotReinstalled state (.upsert deviceID token expiresAt)) :
    Spent (state.step (.upsert deviceID token expiresAt)) := by
  intro one earlier row used present same
  by_cases equal : one = deviceID
  · subst equal
    simp only [EnrollmentLog.step, Database.upsertEnrollmentInvitation, AList.lookup_insert,
      Option.some.injEq] at present
    subst present
    -- The token is in use already, so its row keeps the consumed state.
    have held := kept ⟨_, used, rfl, same.symm⟩
    rw [Option.map_eq_some_iff] at held
    rcases held with ⟨old, before, hash⟩
    simp only [before, hash, if_true]
    exact spent one earlier old used before (hash.trans same)
  · simp only [EnrollmentLog.step, Database.upsertEnrollmentInvitation,
      AList.lookup_insert_ne equal] at present
    exact spent one earlier row used present same

theorem Spent.updateExpiry (spent : Spent state) (deviceID : GoString) (expiresAt : Time) :
    Spent (state.step (.updateExpiry deviceID expiresAt)) := by
  cases before : state.db.invitations.lookup deviceID with
  | none =>
      simp only [EnrollmentLog.step, Database.updateEnrollmentInvitationExpiry, before]
      exact spent
  | some old =>
      simp only [EnrollmentLog.step, Database.updateEnrollmentInvitationExpiry, before]
      intro one earlier row used present same
      by_cases equal : one = deviceID
      · subst equal
        simp only [AList.lookup_insert, Option.some.injEq] at present
        subst present
        exact spent one earlier old used before same
      · simp only [AList.lookup_insert_ne equal] at present
        exact spent one earlier row used present same

theorem Spent.create (spent : Spent state) {a : AgentRecord} {token : GoString} {now : Time}
    {failure : Option Database.TransactionStage} {db : Database}
    (created : state.db.createAgentWithEnrollment a token now failure = .ok db) :
    (a.deviceID, token) ∉ state.enrolled ∧
      Spent { db, enrolled := state.enrolled ++ [(a.deviceID, token)] } := by
  rcases Database.createAgentWithEnrollment_ok created with ⟨row, present, usable, rfl⟩
  refine ⟨fun used => ?_, fun one earlier later used found same => ?_⟩
  · rw [spent.not_usable used present now] at usable
    cases usable
  · simp only [Database.insertAgent_invitations] at found
    by_cases equal : one = a.deviceID
    · subst equal
      rw [AList.lookup_insert, Option.some.injEq] at found
      subst found
      rfl
    · rw [AList.lookup_insert_ne equal] at found
      rw [List.mem_append, List.mem_singleton] at used
      rcases used with before | new
      · exact spent one earlier later before found same
      · exact absurd (congrArg Prod.fst new) equal

theorem Spent.step (spent : Spent state) (once : state.enrolled.Nodup) {op : EnrollmentOp}
    (kept : NotReinstalled state op) :
    (state.step op).enrolled.Nodup ∧ Spent (state.step op) := by
  cases op with
  | upsert deviceID token expiresAt => exact ⟨once, spent.upsert expiresAt kept⟩
  | updateExpiry deviceID expiresAt =>
      refine ⟨?_, spent.updateExpiry deviceID expiresAt⟩
      simp only [EnrollmentLog.step]
      split
      · exact once
      · exact once
  | validate => exact ⟨once, spent⟩
  | create a token now failure =>
      simp only [EnrollmentLog.step]
      split
      · rename_i db created
        rcases spent.create created with ⟨new, later⟩
        refine ⟨?_, later⟩
        rw [← List.concat_eq_append]
        exact once.concat new
      · exact ⟨once, spent⟩

/-- Where no token is installed again after another, a device enrolls at most once
with each token, and afterwards the token is not valid for it. -/
theorem invitation_single_use {db : Database} {ops : List EnrollmentOp}
    (run : enrollment.Run NotReinstalled ⟨db, []⟩ ops state) :
    state.enrolled.Nodup ∧ ∀ deviceID token now, (deviceID, token) ∈ state.enrolled →
      state.db.validateEnrollmentInvitation deviceID token now = false := by
  have known : state.enrolled.Nodup ∧ Spent state := by
    have initially : Spent ⟨db, []⟩ := fun _ _ _ used => absurd used List.not_mem_nil
    refine @Machine.Run.preserves _ _ _ _ (fun state => state.enrolled.Nodup ∧ Spent state) _ _ _
      run ⟨List.nodup_nil, initially⟩ ?_
    rintro middle op next ⟨once, spent⟩ kept taken
    cases taken
    exact spent.step once kept
  refine ⟨known.1, fun deviceID token now used => ?_⟩
  unfold Database.validateEnrollmentInvitation
  split
  · rfl
  · split
    · rfl
    · rename_i row present
      exact known.2.not_usable used present now

/-- A device that enrolls with its first token, and after a rotation with the
second. -/
theorem invitation_single_use_rotation :
    ∃ ops state, enrollment.Run NotReinstalled ⟨.empty, []⟩ ops state ∧
      state.enrolled = [([97], [1]), ([97], [2])] ∧
      state.db.validateEnrollmentInvitation [97] [1] 0 = false := by
  have found := enrollment.exists_run NotReinstalled
    (fun state => state.enrolled = [([97], [1]), ([97], [2])]) ⟨.empty, []⟩
    [.upsert [97] [1] 9, .create ⟨⟨[], [], 0, true⟩, [97]⟩ [1] 3 none, .upsert [97] [1] 12,
      .upsert [97] [2] 9, .create ⟨⟨[], [], 0, true⟩, [97]⟩ [2] 5 none]
    (by decide +kernel)
  rcases found with ⟨state, run, enrolled⟩
  exact ⟨_, state, run, enrolled,
    (invitation_single_use run).2 [97] [1] 0 (by rw [enrolled]; decide)⟩

/-- The first token is installed, used, replaced by a second and installed again:
the device enrolls with it twice. -/
theorem invitation_used_twice :
    ∃ ops state, enrollment.Run Machine.Unrestricted ⟨.empty, []⟩ ops state ∧
      state.enrolled = [([97], [1]), ([97], [1])] := by
  rcases enrollment.exists_run Machine.Unrestricted
    (fun state => state.enrolled = [([97], [1]), ([97], [1])]) ⟨.empty, []⟩
    [.upsert [97] [1] 9, .create ⟨⟨[], [], 0, true⟩, [97]⟩ [1] 3 none, .upsert [97] [2] 9,
      .upsert [97] [1] 9, .create ⟨⟨[], [], 0, true⟩, [97]⟩ [1] 5 none]
    (by decide +kernel) with ⟨state, run, enrolled⟩
  exact ⟨_, state, run, enrolled⟩

end Rdpulse.Storage
