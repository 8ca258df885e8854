import Rdpulse.Agent.AuthenticateControl
import Rdpulse.Relay.Authentication

namespace Rdpulse.Agent.AuthenticateControl

open Foundation Protocol Storage
open Relay (AgentManager HandlerPoint AuthPoint Login Line Action validDeviceID hashSecret
  minDeviceSecretBytes maxDeviceSecretBytes maxEnrollmentTokenBytes)

/-! An honest agent that the Relay knows, or has invited, gets in. -/

structure Honest (device : DeviceConfig) : Prop where
  id : validDeviceID device.id = true
  long : minDeviceSecretBytes ≤ device.secret.length
  short : device.secret.length ≤ maxDeviceSecretBytes
  token : device.enrollmentToken.length ≤ maxEnrollmentTokenBytes

inductive Ground
  | secret
  | invitation
  deriving DecidableEq

def DeviceConfig.credential (device : DeviceConfig) : GoString :=
  if device.enrollmentToken = [] then device.secret else device.enrollmentToken

/-- The device has no row or an enabled one; and the row has the hash of its secret, or its
invitation is for its credential and unconsumed. -/
def Eligible (device : DeviceConfig) (db : Database) : Ground → Prop
  | .secret => ∃ row ∈ db.agents.lookup device.id,
      row.enabled = true ∧ row.secretHash = hashSecret device.secret
  | .invitation =>
      (∀ row ∈ db.agents.lookup device.id, row.enabled = true) ∧
        ∃ invitation ∈ db.invitations.lookup device.id,
          invitation.tokenHash = enrollmentTokenHash device.credential ∧
            invitation.consumedAt = none

instance (device : DeviceConfig) (db : Database) (ground : Ground) :
    Decidable (Eligible device db ground) := by
  cases ground <;> unfold Eligible <;> infer_instance

/-- Where the clock is read, the invitation has not expired. -/
def Timely (device : DeviceConfig) (db : Database) : Relay.Choice → Prop
  | .now now => ∀ invitation ∈ db.invitations.lookup device.id, now < invitation.expiresAt
  | _ => True

instance (device : DeviceConfig) (db : Database) (choice : Relay.Choice) :
    Decidable (Timely device db choice) := by
  cases choice <;> unfold Timely <;> infer_instance

/-- No call on the stream or the database fails, no limit is hit, and the agent stays
eligible. -/
def Served (device : DeviceConfig) (ground : Ground) (exchange : Exchange) : Event → Prop
  | .agent choice => choice ≠ .fail
  | .handler choice => choice ≠ .fail ∧ Eligible device exchange.manager.db ground ∧
      (ground = .invitation → Timely device exchange.manager.db choice)
  | .others _ => True

instance (device : DeviceConfig) (ground : Ground) (exchange : Exchange) (event : Event) :
    Decidable (Served device ground exchange event) := by
  cases event <;> unfold Served <;> infer_instance

def Event.own : Event → Bool
  | .others _ => false
  | _ => true

def auths (log : List Line) : Nat :=
  log.countP fun
    | .sent message _ => message.type = .auth
    | .received _ => false

/-- A token is sent only when a 428 has been read. -/
def tokenAfterChallenge : Bool → List Line → Bool
  | _, [] => true
  | challenged, .sent message _ :: rest =>
      (challenged || message.enrollmentToken = []) && tokenAfterChallenge challenged rest
  | challenged, .received message :: rest =>
      tokenAfterChallenge (challenged || (message.type = .error && message.code = 428)) rest

/-- `authenticateControl` has returned nil, and has read AUTH_OK. -/
def Accepted (exchange : Exchange) : Prop :=
  exchange.point = .returned none ∧
    ∃ message, .received message ∈ exchange.log ∧ message.type = .authOK

/-! ## Strings -/

theorem transmitted_credential (device : DeviceConfig) :
    device.transmitted.credential = jsonString device.credential := by
  unfold DeviceConfig.credential DeviceConfig.transmitted
  by_cases none : device.enrollmentToken = []
  · simp [none]
  · simp [none]

theorem jsonString_id {deviceID : GoString} (valid : validDeviceID deviceID = true) :
    jsonString deviceID = deviceID := by
  refine jsonString_ascii fun byte member => ?_
  simp only [validDeviceID, Bool.and_eq_true, List.all_eq_true] at valid
  have allowed := valid.2 byte member
  simp only [Relay.validDeviceByte, Bool.or_eq_true, Bool.and_eq_true, decide_eq_true_eq,
    UInt8.le_iff_toNat_le, ← UInt8.toNat_inj, UInt8.toNat_ofNat] at allowed
  simp only [UInt8.lt_iff_toNat_lt, UInt8.toNat_ofNat]
  omega

/-! ## The Relay's side -/

section Handler

variable {device : DeviceConfig} {ground : Ground} {m : AgentManager} {choice : Relay.Choice}
  {action : Action} {point : AuthPoint} {next : HandlerPoint} {login : Login}

def challenge : ControlMessage := errorMessage 428 "device enrollment invitation required"

structure Knows (device : DeviceConfig) (login : Login) : Prop where
  id : login.deviceID = device.id
  secret : login.secret = device.secret

structure Matches (device : DeviceConfig) (token : GoString) : Prop where
  some : token ≠ []
  short : token.length ≤ maxEnrollmentTokenBytes
  hash : enrollmentTokenHash token = enrollmentTokenHash device.credential

def Checking (device : DeviceConfig) (ground : Ground) : AuthPoint → Prop
  | .lookup login => Knows device login ∧ login.enrollmentToken = []
  | .validateSecret login | .listInvitations login =>
      ground = .invitation ∧ Knows device login ∧ login.enrollmentToken = []
  | .enrollmentGuard login =>
      ground = .invitation ∧ Knows device login ∧
        (login.enrollmentToken = [] ∨ Matches device login.enrollmentToken)
  | .secretAsToken login | .challenge login => ground = .invitation ∧ Knows device login
  | .validateInvitation login =>
      ground = .invitation ∧ Knows device login ∧ Matches device login.enrollmentToken
  | .authOK _ => True
  | _ => False

def rank : AuthPoint → Nat
  | .connectionGuard => 12
  | .acceptStream => 11
  | .readAuth => 10
  | .lookup _ => 9
  | .validateToken _ | .validateSecret _ => 8
  | .listInvitations _ => 7
  | .enrollmentGuard _ => 6
  | .secretAsToken _ => 5
  | .challenge _ => 4
  | .readRetry _ => 3
  | .validateInvitation _ => 2
  | .authOK _ => 1
  | .readInit _ => 0

inductive Checked (device : DeviceConfig) (ground : Ground) (point : AuthPoint) :
    Action → HandlerPoint → Prop
  | next {after : AuthPoint} (checking : Checking device ground after)
      (less : rank after < rank point) : Checked device ground point .nothing (.auth after)
  | challenged {login : Login} (knows : Knows device login) (invited : ground = .invitation)
      (at_ : point = .challenge login) :
      Checked device ground point (.send challenge true) (.auth (.readRetry login))
  | accepted {login : Login} (at_ : point = .authOK login) :
      Checked device ground point (.send { type := .authOK } true) (.auth (.readInit login))

theorem checkToken_short (good : Matches device login.enrollmentToken) :
    Relay.checkToken login = .auth (.validateInvitation login) := by
  unfold Relay.checkToken
  rw [if_neg (Nat.not_lt.mpr good.short)]

theorem usable {db : Database} {token : GoString} {now : Time}
    (named : device.id ≠ []) (eligible : Eligible device db .invitation)
    (timely : Timely device db (.now now)) (some : token ≠ [])
    (hash : enrollmentTokenHash token = enrollmentTokenHash device.credential) :
    db.validateEnrollmentInvitation device.id token now = true := by
  rcases eligible.2 with ⟨invitation, present, same, unconsumed⟩
  have inTime : now < invitation.expiresAt := timely invitation present
  rw [Option.mem_def] at present
  simp [Database.validateEnrollmentInvitation, named, some, present, InvitationRow.usable, same,
    hash, unconsumed, inTime]

theorem checkAuth_heard {device : DeviceConfig} (honest : Honest device.transmitted) :
    Relay.checkAuth true (auth device).transmitted =
      .auth (.lookup ⟨device.id, jsonString device.secret, [], false⟩) := by
  have long : jsonString device.secret ≠ [] := by
    have long := honest.long
    intro empty
    rw [show device.transmitted.secret = [] from empty] at long
    cases long
  have short : ¬ maxDeviceSecretBytes < (jsonString device.secret).length :=
    Nat.not_lt.mpr honest.short
  have id : validDeviceID device.id = true := honest.id
  simp [Relay.checkAuth, ControlMessage.transmitted, auth, jsonString_id id, id, short,
    jsonString_eq_nil.not.mp long]

theorem checkRetry_heard {device : DeviceConfig} (honest : Honest device.transmitted)
    (knows : Knows device.transmitted login) :
    Relay.checkRetry login
        ({ auth device with enrollmentToken := device.credential } : ControlMessage).transmitted =
      .auth (.validateInvitation { login with enrollmentToken := jsonString device.credential }) ∧
    Matches device.transmitted (jsonString device.credential) := by
  have id : validDeviceID device.id = true := honest.id
  have good : Matches device.transmitted (jsonString device.credential) := by
    refine ⟨?_, ?_, by rw [transmitted_credential]⟩
    · intro empty
      have long := honest.long
      rw [jsonString_eq_nil, DeviceConfig.credential] at empty
      split at empty
      · rw [show device.transmitted.secret = jsonString device.secret from rfl, empty] at long
        cases long
      · exact absurd empty ‹_›
    · rw [← transmitted_credential, DeviceConfig.credential]
      split
      · exact honest.short
      · exact honest.token
  refine ⟨?_, good⟩
  unfold Relay.checkRetry
  rw [if_neg ?_]
  · exact checkToken_short good
  · simp [ControlMessage.transmitted, auth, knows.id, knows.secret, DeviceConfig.transmitted,
      jsonString_id id]

theorem secret_matches {db : Database} {now : Time} (honest : Honest device)
    (eligible : Eligible device db .invitation)
    (valid : db.validateEnrollmentInvitation device.id device.secret now = true) :
    Matches device device.secret := by
  rcases eligible.2 with ⟨invitation, present, same, _⟩
  rw [Option.mem_def] at present
  simp only [Database.validateEnrollmentInvitation, present, InvitationRow.usable] at valid
  split at valid
  · cases valid
  · rename_i given
    simp only [Bool.or_eq_true, decide_eq_true_eq, not_or] at given
    simp only [Bool.and_eq_true, decide_eq_true_eq] at valid
    exact ⟨given.2, honest.short, by rw [← valid.1.1, same]⟩

theorem checking_step (honest : Honest device) (checking : Checking device ground point)
    (served : choice ≠ .fail) (eligible : Eligible device m.db ground)
    (timely : ground = .invitation → Timely device m.db choice)
    (planned : Relay.planAuth m choice point = some (action, next)) :
    Checked device ground point action next := by
  have named : device.id ≠ [] := by
    intro none
    have valid := honest.id
    rw [none] at valid
    cases valid
  cases point with
  | lookup login =>
      rcases checking with ⟨knows, none⟩
      cases choice with
      | proceed =>
          cases planned
          rw [knows.id, Database.getAgentByDeviceID]
          cases present : m.db.agents.lookup device.id with
          | none =>
              cases ground with
              | secret =>
                  rcases eligible with ⟨row, found, _⟩
                  rw [present] at found
                  cases found
              | invitation =>
                  exact .next ⟨rfl, ⟨knows.id, knows.secret⟩, .inl none⟩ (by simp [rank])
          | some row =>
              have enabled : row.enabled = true := by
                cases ground with
                | secret =>
                    rcases eligible with ⟨one, found, enabled, _⟩
                    rw [present] at found
                    cases found
                    exact enabled
                | invitation => exact eligible.1 row present
              simp only [Option.map_some, Relay.checkRecord, enabled, Bool.not_true,
                Bool.false_eq_true, if_false, none, ne_eq, not_true_eq_false]
              split
              · exact .next trivial (by simp [rank])
              · rename_i mismatch
                cases ground with
                | secret =>
                    rcases eligible with ⟨one, found, _, hash⟩
                    rw [present] at found
                    cases found
                    rw [hash, knows.secret] at mismatch
                    exact absurd rfl mismatch
                | invitation => exact .next ⟨rfl, knows, none⟩ (by simp [rank])
      | fail => exact absurd rfl served
      | _ => cases planned
  | validateSecret login =>
      rcases checking with ⟨rfl, knows, none⟩
      cases choice with
      | now now =>
          simp only [Relay.planAuth, knows.id, knows.secret] at planned
          split at planned
          · rename_i valid
            cases planned
            exact .next ⟨rfl, ⟨rfl, rfl⟩, .inr (secret_matches honest eligible valid)⟩
              (by simp [rank])
          · cases planned
            exact .next ⟨rfl, knows, none⟩ (by simp [rank])
      | fail => exact absurd rfl served
      | _ => cases planned
  | listInvitations login =>
      rcases checking with ⟨rfl, knows, none⟩
      cases choice with
      | now now =>
          have active : m.db.hasActiveInvitation device.id now = true := by
            rcases eligible.2 with ⟨invitation, present, _, unconsumed⟩
            have inTime : now < invitation.expiresAt := timely rfl invitation present
            rw [Option.mem_def] at present
            simp [Database.hasActiveInvitation, present, unconsumed, inTime]
          simp only [Relay.planAuth, knows.id, active, if_true] at planned
          cases planned
          exact .next ⟨rfl, ⟨rfl, knows.secret⟩, .inl none⟩ (by simp [rank])
      | fail => exact absurd rfl served
      | _ => cases planned
  | enrollmentGuard login =>
      rcases checking with ⟨rfl, knows, token⟩
      cases choice with
      | proceed =>
          cases planned
          split
          · exact .next ⟨rfl, knows⟩ (by simp [rank])
          · rename_i some
            have good := token.resolve_left some
            rw [checkToken_short good]
            exact .next ⟨rfl, knows, good⟩ (by simp [rank])
      | fail => exact absurd rfl served
      | _ => cases planned
  | secretAsToken login =>
      rcases checking with ⟨rfl, knows⟩
      cases choice with
      | now now =>
          simp only [Relay.planAuth, knows.id, knows.secret] at planned
          split at planned
          · rename_i valid
            cases planned
            have good := secret_matches honest eligible valid
            rw [checkToken_short good]
            exact .next ⟨rfl, ⟨rfl, rfl⟩, good⟩ (by simp [rank])
          · cases planned
            exact .next ⟨rfl, knows⟩ (by simp [rank])
      | fail => exact absurd rfl served
      | _ => cases planned
  | challenge login =>
      rcases checking with ⟨invited, knows⟩
      cases choice with
      | proceed =>
          cases planned
          exact .challenged knows invited rfl
      | fail => exact absurd rfl served
      | _ => cases planned
  | validateInvitation login =>
      rcases checking with ⟨rfl, knows, good⟩
      cases choice with
      | now now =>
          have long : ¬ login.secret.length < minDeviceSecretBytes := by
            rw [knows.secret]
            exact Nat.not_lt.mpr honest.long
          simp only [Relay.planAuth, knows.id, usable named eligible (timely rfl) good.some good.hash,
            Bool.not_true, Bool.false_eq_true, if_false, long] at planned
          cases planned
          exact .next trivial (by simp [rank])
      | fail => exact absurd rfl served
      | _ => cases planned
  | authOK login =>
      cases choice with
      | proceed =>
          cases planned
          exact .accepted rfl
      | fail => exact absurd rfl served
      | _ => cases planned
  | connectionGuard | acceptStream | readAuth | validateToken | readRetry | readInit => cases checking

theorem checking_progress (checking : Checking device ground point)
    (eligible : Eligible device m.db ground) :
    ∃ choice, choice ≠ .fail ∧ (∀ message, choice ≠ .receive message) ∧
      (ground = .invitation → Timely device m.db choice) ∧
      (Relay.planAuth m choice point).isSome = true := by
  have clock : ground = .invitation → ∃ now, Timely device m.db (.now now) := by
    rintro rfl
    rcases eligible.2 with ⟨invitation, present, _⟩
    refine ⟨invitation.expiresAt - 1, fun one found => ?_⟩
    rw [Option.mem_def] at present found
    rw [present, Option.some.injEq] at found
    subst found
    exact Int.sub_one_lt_of_le (Int.le_refl _)
  cases point with
  | lookup | challenge | authOK => exact ⟨.proceed, by simp, by simp, fun _ => trivial, rfl⟩
  | enrollmentGuard => exact ⟨.proceed, by simp, by simp, fun _ => trivial, rfl⟩
  | validateSecret | listInvitations | secretAsToken | validateInvitation =>
      rcases clock checking.1 with ⟨now, timely⟩
      refine ⟨.now now, by simp, by simp, fun _ => timely, ?_⟩
      simp only [Relay.planAuth]
      repeat' split
      all_goals rfl
  | connectionGuard | acceptStream | readAuth | validateToken | readRetry | readInit => cases checking

end Handler

/-! ## Both sides -/

section Phases

variable {netip : Signaling.Netip} {device : DeviceConfig} {ground : Ground}
  {exchange next : Exchange} {lines log : List Line} {point : Point}

def retry (device : DeviceConfig) : ControlMessage :=
  { auth device with enrollmentToken := device.credential }

def authOK : ControlMessage where
  type := .authOK

inductive Turn (device : DeviceConfig) : List Line → Point → List Line → Prop
  | first : Turn device [.received (auth device).transmitted] .readResponse
      [.sent (auth device) true]
  | second : Turn device
      [.received (auth device).transmitted, .sent challenge true,
        .received (retry device).transmitted] .readEnrollment
      [.sent (auth device) true, .received challenge, .sent (retry device) true]

def early : AuthPoint → Bool
  | .connectionGuard | .acceptStream | .readAuth => true
  | _ => false

inductive Phase (device : DeviceConfig) (ground : Ground) :
    HandlerPoint → List Line → Point → List Line → Prop
  | arriving {at_ : AuthPoint} (first : early at_ = true) :
      Phase device ground (.auth at_) [] .sendAuth []
  | waiting {at_ : AuthPoint} (first : early at_ = true) :
      Phase device ground (.auth at_) [] .readResponse [.sent (auth device) true]
  | checking {at_ : AuthPoint} {lines log : List Line} {point : Point}
      (turn : Turn device lines point log) (checking : Checking device.transmitted ground at_)
      (late : point = .readEnrollment → rank at_ ≤ 2) :
      Phase device ground (.auth at_) lines point log
  | challenged {login : Login} (knows : Knows device.transmitted login)
      (invited : ground = .invitation) :
      Phase device ground (.auth (.readRetry login))
        [.received (auth device).transmitted, .sent challenge true] .readResponse
        [.sent (auth device) true]
  | answering {login : Login} (knows : Knows device.transmitted login)
      (invited : ground = .invitation) :
      Phase device ground (.auth (.readRetry login))
        [.received (auth device).transmitted, .sent challenge true]
        (.sendEnrollment device.credential) [.sent (auth device) true, .received challenge]
  | answered {login : Login} (knows : Knows device.transmitted login)
      (invited : ground = .invitation) :
      Phase device ground (.auth (.readRetry login))
        [.received (auth device).transmitted, .sent challenge true] .readEnrollment
        [.sent (auth device) true, .received challenge, .sent (retry device) true]
  | accepted {login : Login} {lines log : List Line} {point : Point}
      (turn : Turn device lines point log) :
      Phase device ground (.auth (.readInit login)) (lines ++ [.sent authOK true]) point log
  | done {login : Login} {lines log : List Line} {point : Point}
      (turn : Turn device lines point log) :
      Phase device ground (.auth (.readInit login)) (lines ++ [.sent authOK true])
        (.returned none) (log ++ [.received authOK])

def remaining : Point → Nat
  | .sendAuth => 4
  | .readResponse => 3
  | .sendEnrollment _ => 2
  | .readEnrollment => 1
  | .returned _ => 0

def left : HandlerPoint → Nat
  | .auth point => rank point
  | _ => 0

theorem Turn.answer (turn : Turn device lines point log) :
    unread (lines ++ [.sent authOK true]) log = [authOK] := by
  cases turn <;> rfl

theorem Turn.over (turn : Turn device lines point log) :
    unread log (lines ++ [.sent authOK true]) = [] := by
  cases turn <;> rfl

theorem Turn.finished (turn : Turn device lines point log) :
    unread (log ++ [.received authOK]) (lines ++ [.sent authOK true]) = [] := by
  cases turn <;> rfl

theorem Phase.handler {choice : Relay.Choice} {m : AgentManager} {at_ after : HandlerPoint}
    {action : Action} (honest : Honest device.transmitted)
    (phase : Phase device ground at_ (m.lines 0) point log) (hasDB : m.hasDB = true)
    (carried : ∀ message, choice = .receive message →
      (unread log (m.lines 0)).head? = some message)
    (served : choice ≠ .fail) (eligible : Eligible device.transmitted m.db ground)
    (timely : ground = .invitation → Timely device.transmitted m.db choice)
    (planned : Relay.planHandler netip m 0 choice at_ = some (action, after)) :
    Phase device ground after ((action.apply 0 m).lines 0) point log ∧ left after < left at_ := by
  generalize same : m.lines 0 = before at phase carried
  cases phase with
  | arriving first =>
      rename_i at_
      cases at_ <;> cases first <;> cases choice <;>
        simp only [Relay.planHandler, Relay.planAuth, reduceCtorEq] at planned
      all_goals first | exact absurd rfl served | skip
      · cases planned
        rw [show (Action.nothing.apply 0 m).lines 0 = [] from same]
        exact ⟨.arriving rfl, by simp [left, rank]⟩
      · cases planned
        rw [show (Action.nothing.apply 0 m).lines 0 = [] from same]
        exact ⟨.arriving rfl, by simp [left, rank]⟩
      · cases carried _ rfl
  | waiting first =>
      rename_i at_
      cases at_ <;> cases first <;> cases choice <;>
        simp only [Relay.planHandler, Relay.planAuth, reduceCtorEq] at planned
      all_goals first | exact absurd rfl served | skip
      · cases planned
        rw [show (Action.nothing.apply 0 m).lines 0 = [] from same]
        exact ⟨.waiting rfl, by simp [left, rank]⟩
      · cases planned
        rw [show (Action.nothing.apply 0 m).lines 0 = [] from same]
        exact ⟨.waiting rfl, by simp [left, rank]⟩
      · rename_i message
        have heard : (auth device).transmitted = message := Option.some.inj (carried _ rfl)
        subst heard
        cases planned
        rw [Relay.receive_lines, same, hasDB, checkAuth_heard honest]
        exact ⟨.checking .first ⟨⟨rfl, rfl⟩, rfl⟩ (fun same => by cases same), by simp [left, rank]⟩
  | checking turn checking late =>
      cases checking_step honest checking served eligible timely planned with
      | next checked less =>
          refine ⟨?_, less⟩
          rw [show (Action.nothing.apply 0 m).lines 0 = before from same]
          exact .checking turn checked fun second => Nat.le_of_lt (less.trans_le (late second))
      | challenged knows invited at_ =>
          subst at_
          rw [Relay.send_lines, same]
          cases turn with
          | first => exact ⟨.challenged knows invited, by simp [left, rank]⟩
          | second => simp [rank] at late
      | accepted at_ =>
          subst at_
          rw [Relay.send_lines, same]
          exact ⟨.accepted turn, by simp [left, rank]⟩
  | challenged knows invited | answering knows invited =>
      cases choice <;> simp only [Relay.planHandler, Relay.planAuth, reduceCtorEq] at planned
      · exact absurd rfl served
      · cases carried _ rfl
  | answered knows invited =>
      cases choice <;> simp only [Relay.planHandler, Relay.planAuth, reduceCtorEq] at planned
      · exact absurd rfl served
      · rename_i message
        have heard : (retry device).transmitted = message := Option.some.inj (carried _ rfl)
        subst heard
        rcases checkRetry_heard honest knows with ⟨checked, good⟩
        cases planned
        rw [Relay.receive_lines, same]
        unfold retry
        rw [checked]
        exact ⟨.checking .second ⟨invited, ⟨knows.id, knows.secret⟩, good⟩
          (fun _ => by simp [rank]), by simp [left, rank]⟩
  | accepted turn =>
      cases choice <;> simp only [Relay.planHandler, Relay.planAuth, reduceCtorEq] at planned
      · exact absurd rfl served
      · rw [turn.over] at carried
        cases carried _ rfl
  | done turn =>
      cases choice <;> simp only [Relay.planHandler, Relay.planAuth, reduceCtorEq] at planned
      · exact absurd rfl served
      · rw [turn.finished] at carried
        cases carried _ rfl

theorem Phase.agent {choice : Choice} {at_ : HandlerPoint} {line : Option Line} {after : Point}
    (honest : Honest device.transmitted) (phase : Phase device ground at_ lines point log)
    (carried : ∀ response, choice = .receive response →
      (unread lines log).head? = some response)
    (served : choice ≠ .fail)
    (planned : authenticateStep device choice point = some (line, after)) :
    Phase device ground at_ lines after (log ++ line.toList) ∧
      remaining after < remaining point := by
  cases phase with
  | arriving first =>
      cases choice <;> simp only [authenticateStep, reduceCtorEq] at planned
      · cases planned
        exact ⟨.waiting first, by simp [remaining]⟩
      · exact absurd rfl served
  | waiting first =>
      cases choice <;> simp only [authenticateStep, reduceCtorEq] at planned
      · cases carried _ rfl
      · exact absurd rfl served
  | checking turn checking late =>
      cases turn <;> cases choice <;> simp only [authenticateStep, reduceCtorEq] at planned
      all_goals first | exact absurd rfl served | cases carried _ rfl
  | challenged knows invited =>
      cases choice <;> simp only [authenticateStep, reduceCtorEq] at planned
      · rename_i response
        have heard : challenge = response := Option.some.inj (carried _ rfl)
        subst heard
        have some : device.credential ≠ [] :=
          jsonString_eq_nil.not.mp (checkRetry_heard honest knows).2.some
        have asked : checkResponse device challenge = .sendEnrollment device.credential :=
          if_neg some
        cases planned
        rw [asked]
        exact ⟨.answering knows invited, by simp [remaining]⟩
      · exact absurd rfl served
  | answering knows invited =>
      cases choice <;> simp only [authenticateStep, reduceCtorEq] at planned
      · cases planned
        exact ⟨.answered knows invited, by simp [remaining]⟩
      · exact absurd rfl served
  | answered knows invited =>
      cases choice <;> simp only [authenticateStep, reduceCtorEq] at planned
      · cases carried _ rfl
      · exact absurd rfl served
  | accepted turn =>
      rw [turn.answer] at carried
      have turns := turn
      cases turn <;> cases choice <;> simp only [authenticateStep, reduceCtorEq] at planned
      all_goals first
        | exact absurd rfl served
        | cases carried _ rfl
          cases planned
          exact ⟨.done turns, by simp [remaining, checkAuthOK, checkResponse, authOK]⟩
  | done turn => cases planned

/-- Wherever the exchange stands, one of the two can go on, or the agent is through. -/
theorem Phase.progress {m : AgentManager} {at_ : HandlerPoint}
    (phase : Phase device ground at_ (m.lines 0) point log)
    (eligible : Eligible device.transmitted m.db ground) :
    (point = .returned none ∧ .received authOK ∈ log) ∨
    (∃ choice, choice ≠ .fail ∧ (∀ response, choice = .receive response →
        (unread (m.lines 0) log).head? = some response) ∧
      (authenticateStep device choice point).isSome = true) ∨
    ∃ choice, choice ≠ .fail ∧ (∀ message, choice = .receive message →
        (unread log (m.lines 0)).head? = some message) ∧
      (ground = .invitation → Timely device.transmitted m.db choice) ∧
      (Relay.planHandler netip m 0 choice at_).isSome = true := by
  generalize same : m.lines 0 = before at phase
  cases phase with
  | arriving first => exact .inr (.inl ⟨.written, by simp, by simp, rfl⟩)
  | waiting first =>
      rename_i at_
      cases at_ <;> cases first
      · exact .inr (.inr ⟨.proceed, by simp, by simp, fun _ => trivial, rfl⟩)
      · exact .inr (.inr ⟨.proceed, by simp, by simp, fun _ => trivial, rfl⟩)
      · refine .inr (.inr ⟨.receive (auth device).transmitted, by simp, fun message heard => ?_,
          fun _ => trivial, rfl⟩)
        cases heard
        rfl
  | checking turn checking late =>
      rcases checking_progress checking eligible with ⟨choice, served, silent, timely, planned⟩
      exact .inr (.inr ⟨choice, served, fun message heard => absurd heard (silent message), timely,
        planned⟩)
  | challenged knows invited =>
      refine .inr (.inl ⟨.receive challenge, by simp, fun response heard => ?_, rfl⟩)
      cases heard
      rfl
  | answering knows invited => exact .inr (.inl ⟨.written, by simp, by simp, rfl⟩)
  | answered knows invited =>
      refine .inr (.inr ⟨.receive (retry device).transmitted, by simp, fun message heard => ?_,
        fun _ => trivial, rfl⟩)
      cases heard
      rfl
  | accepted turn =>
      refine .inr (.inl ⟨.receive authOK, by simp, fun response heard => ?_, ?_⟩)
      · cases heard
        rw [turn.answer]
        rfl
      · cases turn <;> rfl
  | done turn => exact .inl ⟨rfl, by simp⟩

theorem Phase.spoken {at_ : HandlerPoint} (phase : Phase device ground at_ lines point log) :
    auths log ≤ 2 ∧ tokenAfterChallenge false log = true := by
  cases phase with
  | arriving | waiting | challenged | answering | answered => exact ⟨Nat.le_of_ble_eq_true rfl, rfl⟩
  | checking turn | accepted turn | done turn => cases turn <;> exact ⟨Nat.le_of_ble_eq_true rfl, rfl⟩

structure Reached (device : DeviceConfig) (ground : Ground) (events : List Event)
    (exchange : Exchange) : Prop where
  phase : Phase device ground exchange.handler (exchange.manager.lines 0) exchange.point
    exchange.log
  hasDB : exchange.manager.hasDB = true
  bounded : events.countP Event.own + left exchange.handler + remaining exchange.point ≤ 16

theorem Reached.step {events : List Event} {event : Event} (honest : Honest device.transmitted)
    (reached : Reached device ground events exchange)
    (served : Served device.transmitted ground exchange event)
    (taken : step netip device exchange event = some next) :
    Reached device ground (events ++ [event]) next := by
  have bounded := reached.bounded
  unfold AuthenticateControl.step at taken
  split at taken
  · rename_i carried
    cases event with
    | agent choice =>
        rcases Option.map_eq_some_iff.mp taken with ⟨⟨line, after⟩, planned, rfl⟩
        rcases reached.phase.agent honest (fun response same => by
          rw [same] at carried
          exact of_decide_eq_true carried) served planned with ⟨phase, less⟩
        refine ⟨phase, reached.hasDB, ?_⟩
        simp only [List.countP_append, List.countP_singleton, Event.own, if_true]
        omega
    | handler choice =>
        rcases Option.map_eq_some_iff.mp taken with ⟨⟨action, after⟩, planned, rfl⟩
        rcases reached.phase.handler honest reached.hasDB (fun message same => by
          rw [same] at carried
          exact of_decide_eq_true carried) served.1 served.2.1 served.2.2 planned with ⟨phase, less⟩
        refine ⟨phase, (Relay.apply_hasDB 0 action).trans reached.hasDB, ?_⟩
        simp only [List.countP_append, List.countP_singleton, Event.own, if_true]
        omega
    | others manager =>
        cases taken
        simp only [Exchange.carries, Bool.and_eq_true, decide_eq_true_eq] at carried
        refine ⟨?_, carried.1.trans reached.hasDB, ?_⟩
        · have same : manager.lines 0 = exchange.manager.lines 0 := by
            rw [AgentManager.lines, carried.2, AgentManager.lines]
          rw [same]
          exact reached.phase
        · simp only [List.countP_append, List.countP_singleton, Event.own, Bool.false_eq_true,
            if_false]
          exact bounded
  · cases taken

end Phases

/-- An honest agent whose secret the Relay has, or whose credential is that of a standing
invitation, sends at most two AUTH messages, and a token only when asked for it. The two
parties take at most 16 steps, and where neither can take one the agent has read AUTH_OK.
Secret and token count as they arrive. -/
theorem honest_agent_enrolls {netip : Signaling.Netip} {device : DeviceConfig} {ground : Ground}
    {manager : AgentManager} {events : List Event} {exchange : Exchange}
    (honest : Honest device.transmitted) (database : manager.hasDB = true)
    (run : (machine netip device).Run (Served device.transmitted ground) (initial manager) events
      exchange) :
    auths exchange.log ≤ 2 ∧ tokenAfterChallenge false exchange.log = true ∧
    events.countP Event.own ≤ 16 ∧
    (Eligible device.transmitted exchange.manager.db ground →
      Accepted exchange ∨ ∃ event, event.own = true ∧
        Served device.transmitted ground exchange event ∧
        (step netip device exchange event).isSome = true) := by
  have reached : Reached device ground events exchange := by
    refine run.invariant ⟨.arriving rfl, database, Nat.le_refl 16⟩
      fun past middle event after _ reached served taken => reached.step honest served taken
  rcases reached.phase.spoken with ⟨count, order⟩
  have bounded := reached.bounded
  refine ⟨count, order, by omega, fun eligible => ?_⟩
  rcases reached.phase.progress eligible with ⟨returned, read⟩ |
    ⟨choice, served, carried, planned⟩ | ⟨choice, served, carried, timely, planned⟩
  · exact .inl ⟨returned, authOK, read, rfl⟩
  · refine .inr ⟨.agent choice, rfl, served, ?_⟩
    have carries : exchange.carries (.agent choice) = true := by
      cases choice with
      | receive response => exact decide_eq_true (carried response rfl)
      | _ => rfl
    simp only [step, carries, if_true, Option.isSome_map]
    exact planned
  · refine .inr ⟨.handler choice, rfl, ⟨served, eligible, timely⟩, ?_⟩
    have carries : exchange.carries (.handler choice) = true := by
      cases choice with
      | receive message => exact decide_eq_true (carried message rfl)
      | _ => rfl
    simp only [step, carries, if_true, Option.isSome_map]
    exact planned

def deviceA (token : GoString) : DeviceConfig := ⟨[0x41], List.replicate 32 0x61, token⟩

def invitesA (token : GoString) : AgentManager :=
  (Relay.smallRelay
    ⟨∅, (∅ : InvitationTable).insert [0x41] ⟨enrollmentTokenHash token, 10, none⟩⟩).shared

def asksForToken (device : DeviceConfig) : List Event :=
  [.agent .written, .handler .proceed, .handler .proceed,
    .handler (.receive (auth device).transmitted), .handler .proceed, .handler .proceed,
    .handler (.now 0), .handler .proceed, .agent (.receive challenge), .agent .written,
    .handler (.receive (retry device).transmitted)]

def textToken : GoString := List.replicate 32 0x62
def binaryToken : GoString := List.replicate 32 0xFF

/-- A new device with a token of text enrolls. -/
theorem honest_agent_enrolls_new :
    ∃ events exchange, (machine Relay.noCandidates (deviceA textToken)).Run
        (Served (deviceA textToken).transmitted .invitation) (initial (invitesA textToken)) events
        exchange ∧
      exchange.point = .returned none ∧ auths exchange.log ≤ 2 := by
  have honest : Honest (deviceA textToken).transmitted := by
    constructor <;> decide
  rcases (machine Relay.noCandidates (deviceA textToken)).exists_run
    (Served (deviceA textToken).transmitted .invitation)
    (fun exchange => exchange.point = .returned none) (initial (invitesA textToken))
    (asksForToken (deviceA textToken) ++
      [.handler (.now 0), .handler .proceed, .agent (.receive authOK)])
    (by decide +kernel) with ⟨exchange, run, returned⟩
  exact ⟨_, exchange, run, returned, (honest_agent_enrolls honest rfl run).1⟩

/-- The invitation has the hash of a token that is no text, and it arrives as another
one. -/
theorem binary_token_refused :
    Honest (deviceA binaryToken) ∧ (invitesA binaryToken).hasDB = true ∧
    ∃ events exchange, (machine Relay.noCandidates (deviceA binaryToken)).Run
        (Served (deviceA binaryToken) .invitation) (initial (invitesA binaryToken)) events
        exchange ∧
      exchange.point = .returned (some (
        "auth rejected: code=401 message=" ++
          "enrollment invitation is invalid, expired, or already consumed")) := by
  have honest : Honest (deviceA binaryToken) := by
    constructor <;> decide
  rcases (machine Relay.noCandidates (deviceA binaryToken)).exists_run
    (Served (deviceA binaryToken) .invitation)
    (fun exchange => exchange.point = .returned (some (
        "auth rejected: code=401 message=" ++
          "enrollment invitation is invalid, expired, or already consumed")))
    (initial (invitesA binaryToken))
    (asksForToken (deviceA binaryToken) ++
      [.handler (.now 0), .handler .proceed,
        .agent (.receive
          (errorMessage 401 "enrollment invitation is invalid, expired, or already consumed"))])
    (by decide +kernel) with ⟨exchange, run, returned⟩
  exact ⟨honest, rfl, _, exchange, run, returned⟩

end Rdpulse.Agent.AuthenticateControl
