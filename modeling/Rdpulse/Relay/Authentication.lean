import Mathlib.Data.List.TakeWhile
import Rdpulse.Relay.Program

namespace Rdpulse.Relay

open Foundation Protocol Storage

/-! What AUTH_OK means: one connection, with the Relay to itself, over any database,
any clock and any messages of the client. -/

def connection (m : AgentManager) : RelayPool :=
  ⟨{ m with transcript := [] }, [.handler (.auth .connectionGuard)]⟩

def OneHandler (_ : RelayPool) : PoolEvent Thread Choice → Prop
  | .advance self _ => self = 0
  | .spawn _ => False

instance (pool : RelayPool) (event : PoolEvent Thread Choice) :
    Decidable (OneHandler pool event) := by
  rcases event with _ | ⟨self, choice⟩ <;> unfold OneHandler <;> infer_instance

def Line.isAuthOK : Line → Bool
  | .sent message _ => message.type = .authOK
  | .received _ => false

def messages (lines : List Line) : List ControlMessage :=
  lines.filterMap fun
    | .received message => some message
    | .sent _ _ => none

def beforeAuthOK (lines : List Line) : List Line := lines.takeWhile fun line => !line.isAuthOK

/-- What the clock has said to the calls of `ValidateEnrollmentInvitation`. -/
def readings (events : List (PoolEvent Thread Choice)) : List Time :=
  events.filterMap fun
    | .advance _ (.now time) => some time
    | _ => none

/-- The row of the device is enabled and holds the hash of the secret. -/
def KnownSecret (db : Database) (authMsg : ControlMessage) : Prop :=
  ∃ row, db.agents.lookup authMsg.deviceID = some row ∧ row.enabled = true ∧
    row.secretHash = hashSecret authMsg.secret

/-- The device has no row or an enabled one, its invitation was usable with this
token, and its secret is long enough. -/
structure Invited (db : Database) (clock : List Time) (authMsg : ControlMessage)
    (rest : List ControlMessage) (token : GoString) : Prop where
  enabled : ∀ row, db.agents.lookup authMsg.deviceID = some row → row.enabled = true
  presented : token = authMsg.enrollmentToken ∨ token = authMsg.secret ∨
    ∃ retry ∈ rest, token = retry.enrollmentToken
  valid : ∃ row now, now ∈ clock ∧ db.invitations.lookup authMsg.deviceID = some row ∧
    row.usable token now = true
  long : minDeviceSecretBytes ≤ authMsg.secret.length

structure Heard (lines : List Line) (authMsg : ControlMessage) (rest : List ControlMessage) :
    Prop where
  messages : messages (beforeAuthOK lines) = authMsg :: rest
  once : rest.length ≤ 1
  noHash : ∀ message ∈ authMsg :: rest, message.secretHash = []

/-- Why this client is let in. -/
structure Admitted (db : Database) (clock : List Time) (lines : List Line) (login : Login)
    (authMsg : ControlMessage) (rest : List ControlMessage) : Prop where
  heard : Heard lines authMsg rest
  device : login.deviceID = authMsg.deviceID
  secret : login.secret = authMsg.secret
  because : (login.newDevice = false ∧ KnownSecret db authMsg) ∨
    (login.newDevice = true ∧ Invited db clock authMsg rest login.enrollmentToken)

def SameSecrets (db after : Database) : Prop :=
  ∀ deviceID, (after.agents.lookup deviceID).map AgentRow.secretHash =
    (db.agents.lookup deviceID).map AgentRow.secretHash

structure Enrolled (db : Database) (clock : List Time) (lines : List Line) (after : Database)
    (login : Login) (authMsg : ControlMessage) (rest : List ControlMessage) : Prop where
  admitted : Admitted db clock lines login authMsg rest
  newDevice : login.newDevice = true
  created : ∃ hostname port now failure,
    db.createAgentWithEnrollment (enrolledAgent login hostname port) login.enrollmentToken now
      failure = .ok after

structure Sound (db : Database) (clock : List Time) (lines : List Line) (after : Database) :
    Prop where
  accepted : (∃ line ∈ lines, line.isAuthOK = true) →
    ∃ login authMsg rest, Admitted db clock lines login authMsg rest
  stored : SameSecrets db after ∨
    ∃ login authMsg rest, Enrolled db clock lines after login authMsg rest

/-! ## The transcript -/

variable {m : AgentManager} {action : Action} {self : Nat} {lines more : List Line}
  {db after : Database} {clock : List Time}

theorem beforeAuthOK_append (accepted : ∃ line ∈ lines, line.isAuthOK = true)
    (more : List Line) : beforeAuthOK (lines ++ more) = beforeAuthOK lines := by
  rcases accepted with ⟨line, member, isAuthOK⟩
  unfold beforeAuthOK
  induction lines with
  | nil => cases member
  | cons first rest induction =>
      cases here : first.isAuthOK with
      | true => simp [here]
      | false =>
          rcases List.mem_cons.mp member with rfl | later
          · rw [isAuthOK] at here
            cases here
          · simp [here, induction later]

theorem beforeAuthOK_all (none : ∀ line ∈ lines, line.isAuthOK = false) :
    beforeAuthOK lines = lines := by
  unfold beforeAuthOK
  rw [List.takeWhile_eq_self_iff]
  intro line member
  rw [none line member]
  rfl

theorem apply_lines (self : Nat) (m : AgentManager) (action : Action) (handler : Nat) :
    ∃ more, (action.apply self m).lines handler = m.lines handler ++ more := by
  have same : ∀ after : AgentManager, after.transcript = m.transcript →
      ∃ more, after.lines handler = m.lines handler ++ more := by
    intro after equal
    refine ⟨[], ?_⟩
    rw [List.append_nil, AgentManager.lines, equal]
    rfl
  have added : ∀ (after : AgentManager) (lines : List (Nat × Line)),
      after.transcript = m.transcript ++ lines →
      ∃ more, after.lines handler = m.lines handler ++ more := by
    intro after lines equal
    refine ⟨(lines.filter fun entry => entry.1 = handler).map Prod.snd, ?_⟩
    rw [AgentManager.lines, equal, List.filter_append, List.map_append]
    rfl
  cases action with
  | receive message | send message delivered | coordinate coordinator sent =>
      exact added _ _ rfl
  | registerOnline session =>
      refine same _ ?_
      simp only [Action.apply, AgentManager.registerOnline, AgentManager.closeOld]
      split <;> rfl
  | removeOnline session =>
      refine same _ ?_
      simp only [Action.apply, AgentManager.removeOnline]
      split <;> rfl
  | removeDevice deviceID =>
      refine same _ ?_
      simp only [Action.apply, AgentManager.removeDevice]
      split <;> rfl
  | unregisterControllerRoute target sessionID =>
      refine same _ ?_
      simp only [Action.apply]
      split <;> rfl
  | _ => exact same _ rfl

theorem receive_lines (message : ControlMessage) :
    ((Action.receive message).apply self m).lines self =
      m.lines self ++ [.received message] := by
  simp [Action.apply, AgentManager.lines, List.filter_append]

theorem send_lines (message : ControlMessage) (delivered : Bool) :
    ((Action.send message delivered).apply self m).lines self =
      m.lines self ++ [.sent message delivered] := by
  simp [Action.apply, AgentManager.lines, List.filter_append]

theorem messages_append (lines more : List Line) :
    messages (lines ++ more) = messages lines ++ messages more := List.filterMap_append

/-! ## What later steps keep -/

theorem Invited.later {authMsg : ControlMessage} {rest : List ControlMessage} {token : GoString}
    (invited : Invited db clock authMsg rest token) {longer : List Time}
    (more : ∀ time ∈ clock, time ∈ longer) : Invited db longer authMsg rest token where
  enabled := invited.enabled
  presented := invited.presented
  valid := by
    rcases invited.valid with ⟨row, now, read, found, usable⟩
    exact ⟨row, now, more now read, found, usable⟩
  long := invited.long

theorem Admitted.later {login : Login} {authMsg : ControlMessage} {rest : List ControlMessage}
    (admitted : Admitted db clock lines login authMsg rest) {longer : List Time}
    {afterLines : List Line} (clocks : ∀ time ∈ clock, time ∈ longer)
    (same : beforeAuthOK afterLines = beforeAuthOK lines) :
    Admitted db longer afterLines login authMsg rest where
  heard :=
    ⟨by rw [same]; exact admitted.heard.messages, admitted.heard.once, admitted.heard.noHash⟩
  device := admitted.device
  secret := admitted.secret
  because := by
    rcases admitted.because with known | ⟨new, invited⟩
    · exact .inl known
    · exact .inr ⟨new, invited.later clocks⟩

theorem Sound.later (sound : Sound db clock lines after) {longer : List Time} {more : List Line}
    (clocks : ∀ time ∈ clock, time ∈ longer)
    (quiet : (∃ line ∈ lines, line.isAuthOK = true) ∨ ∀ line ∈ more, line.isAuthOK = false)
    (unsaved : ¬(∃ line ∈ lines, line.isAuthOK = true) → SameSecrets db after) :
    Sound db longer (lines ++ more) after := by
  by_cases out : ∃ line ∈ lines, line.isAuthOK = true
  · have same := beforeAuthOK_append out more
    refine ⟨fun _ => ?_, ?_⟩
    · rcases sound.accepted out with ⟨login, authMsg, rest, admitted⟩
      exact ⟨login, authMsg, rest, admitted.later clocks same⟩
    · rcases sound.stored with kept | ⟨login, authMsg, rest, enrolled⟩
      · exact .inl kept
      · exact .inr ⟨login, authMsg, rest, enrolled.admitted.later clocks same,
          enrolled.newDevice, enrolled.created⟩
  · refine ⟨fun now => ?_, .inl (unsaved out)⟩
    rcases now with ⟨line, member, isAuthOK⟩
    rcases List.mem_append.mp member with old | new
    · exact absurd ⟨line, old, isAuthOK⟩ out
    · rcases quiet with already | none
      · exact absurd already out
      · rw [none line new] at isAuthOK
        cases isAuthOK

/-! ## Before AUTH_OK -/

structure Asking (lines : List Line) (login : Login) (authMsg : ControlMessage)
    (rest : List ControlMessage) : Prop where
  none : ∀ line ∈ lines, line.isAuthOK = false
  messages : messages lines = authMsg :: rest
  once : rest.length ≤ 1
  noHash : ∀ message ∈ authMsg :: rest, message.secretHash = []
  device : login.deviceID = authMsg.deviceID
  secret : login.secret = authMsg.secret

def RowEnabled (db : Database) (deviceID : GoString) : Prop :=
  ∀ row, db.agents.lookup deviceID = some row → row.enabled = true

def AskingFirst (db : Database) (lines : List Line) (login : Login) : Prop :=
  ∃ authMsg, Asking lines login authMsg [] ∧ RowEnabled db login.deviceID ∧
    (login.enrollmentToken = authMsg.enrollmentToken ∨ login.enrollmentToken = authMsg.secret)

def Ready (db : Database) (clock : List Time) (lines : List Line) (login : Login) : Prop :=
  ∃ authMsg rest, Admitted db clock lines login authMsg rest

def AuthAssertion (db : Database) (clock : List Time) (lines : List Line) : AuthPoint → Prop
  | .connectionGuard | .acceptStream | .readAuth => lines = []
  | .lookup login =>
      ∃ authMsg, Asking lines login authMsg [] ∧ login.newDevice = false ∧
        login.enrollmentToken = authMsg.enrollmentToken
  | .validateToken login | .validateSecret login | .listInvitations login =>
      AskingFirst db lines login
  | .enrollmentGuard login | .secretAsToken login | .challenge login | .readRetry login =>
      login.newDevice = true ∧ AskingFirst db lines login
  | .validateInvitation login =>
      login.newDevice = true ∧ RowEnabled db login.deviceID ∧
        ∃ authMsg rest, Asking lines login authMsg rest ∧
          (login.enrollmentToken = authMsg.enrollmentToken ∨
            login.enrollmentToken = authMsg.secret ∨
            ∃ retry ∈ rest, login.enrollmentToken = retry.enrollmentToken)
  | .authOK login => (∀ line ∈ lines, line.isAuthOK = false) ∧ Ready db clock lines login
  | .readInit login => (∃ line ∈ lines, line.isAuthOK = true) ∧ Ready db clock lines login

structure Unsaved (db : Database) (clock : List Time) (lines : List Line) (after : Database)
    (login : Login) : Prop where
  out : ∃ line ∈ lines, line.isAuthOK = true
  ready : Ready db clock lines login
  same : after = db

structure Ended (db : Database) (clock : List Time) (lines : List Line) (after : Database) :
    Prop where
  sound : Sound db clock lines after
  unsaved : ¬(∃ line ∈ lines, line.isAuthOK = true) → SameSecrets db after

def HandlerAssertion (db : Database) (clock : List Time) (lines : List Line) (after : Database) :
    HandlerPoint → Prop
  | .auth point => after = db ∧ AuthAssertion db clock lines point
  | .controller login _ .authorize => Unsaved db clock lines after login
  | .controller login _ .enroll => login.newDevice = true ∧ Unsaved db clock lines after login
  | .agent login _ .allocatePort | .agent login _ (.findExisting _)
  | .agent login _ (.closeExisting _ _) | .agent login _ (.persist _) =>
      Unsaved db clock lines after login
  | .controller _ _ _ | .agent _ _ _ =>
      (∃ line ∈ lines, line.isAuthOK = true) ∧ Sound db clock lines after
  | .refuse message => message.type ≠ .authOK ∧ Ended db clock lines after
  | .finished => Ended db clock lines after

theorem sameSecrets_refl (db : Database) : SameSecrets db db := fun _ => rfl

theorem ended_of_none (none : ∀ line ∈ lines, line.isAuthOK = false) : Ended db clock lines db where
  sound :=
    { accepted := by
        rintro ⟨line, member, isAuthOK⟩
        rw [none line member] at isAuthOK
        cases isAuthOK
      stored := .inl (sameSecrets_refl db) }
  unsaved _ := sameSecrets_refl db

theorem refused (code : Nat) (text : String) (ended : Ended db clock lines after) :
    HandlerAssertion db clock lines after (refuse code text) :=
  ⟨(fun wrong => by cases wrong), ended⟩

theorem Asking.receive {login : Login} {authMsg message : ControlMessage}
    (asking : Asking lines login authMsg []) (noHash : message.secretHash = []) :
    Asking (lines ++ [.received message]) login authMsg [message] where
  none line member := by
    rcases List.mem_append.mp member with old | new
    · exact asking.none line old
    · rw [List.mem_singleton.mp new]
      rfl
  messages := by
    rw [messages_append, asking.messages]
    rfl
  once := by simp
  noHash one member := by
    rcases List.mem_cons.mp member with first | second
    · exact asking.noHash one (by rw [first]; exact List.mem_cons_self)
    · rw [List.mem_singleton.mp second]
      exact noHash
  device := asking.device
  secret := asking.secret

theorem Asking.send {login : Login} {authMsg message : ControlMessage}
    {rest : List ControlMessage} (asking : Asking lines login authMsg rest)
    (other : message.type ≠ .authOK) (delivered : Bool) :
    Asking (lines ++ [.sent message delivered]) login authMsg rest where
  none line member := by
    rcases List.mem_append.mp member with old | new
    · exact asking.none line old
    · rw [List.mem_singleton.mp new]
      simp [Line.isAuthOK, other]
  messages := by
    rw [messages_append, asking.messages]
    exact List.append_nil _
  once := asking.once
  noHash := asking.noHash
  device := asking.device
  secret := asking.secret

theorem Asking.withToken {login : Login} {authMsg : ControlMessage} {rest : List ControlMessage}
    (asking : Asking lines login authMsg rest) (token : GoString) (newDevice : Bool) :
    Asking lines { login with enrollmentToken := token, newDevice } authMsg rest :=
  ⟨asking.none, asking.messages, asking.once, asking.noHash, asking.device, asking.secret⟩

theorem checkToken_asserts {login : Login} {authMsg : ControlMessage} {rest : List ControlMessage}
    (asking : Asking lines login authMsg rest) (new : login.newDevice = true)
    (enabled : RowEnabled db login.deviceID)
    (presented : login.enrollmentToken = authMsg.enrollmentToken ∨
      login.enrollmentToken = authMsg.secret ∨
      ∃ retry ∈ rest, login.enrollmentToken = retry.enrollmentToken) :
    HandlerAssertion db clock lines db (checkToken login) := by
  unfold checkToken
  split
  · exact refused _ _ (ended_of_none asking.none)
  · exact ⟨rfl, new, enabled, authMsg, rest, asking, presented⟩

theorem Asking.ready {login : Login} {authMsg : ControlMessage} {rest : List ControlMessage}
    (asking : Asking lines login authMsg rest)
    (because : (login.newDevice = false ∧ KnownSecret db authMsg) ∨
      (login.newDevice = true ∧ Invited db clock authMsg rest login.enrollmentToken)) :
    AuthAssertion db clock lines (.authOK login) := by
  refine ⟨asking.none, authMsg, rest, ⟨?_, asking.once, asking.noHash⟩, asking.device,
    asking.secret, because⟩
  rw [beforeAuthOK_all asking.none]
  exact asking.messages

theorem checkAuth_asserts (hasDB : Bool) (authMsg : ControlMessage) :
    HandlerAssertion db clock [.received authMsg] db (checkAuth hasDB authMsg) := by
  have none : ∀ line ∈ [Line.received authMsg], line.isAuthOK = false := by
    intro line member
    rw [List.mem_singleton.mp member]
    rfl
  unfold checkAuth
  split
  · exact refused _ _ (ended_of_none none)
  split
  · exact refused _ _ (ended_of_none none)
  split
  · exact refused _ _ (ended_of_none none)
  split
  · exact refused _ _ (ended_of_none none)
  rename_i hashless
  split
  · exact refused _ _ (ended_of_none none)
  refine ⟨rfl, authMsg, ⟨none, rfl, Nat.zero_le _, ?_, rfl, rfl⟩, rfl, rfl⟩
  intro message member
  rw [List.mem_singleton.mp member]
  exact not_not.mp hashless

theorem checkRecord_asserts {login : Login} {authMsg : ControlMessage}
    (asking : Asking lines login authMsg []) (known : login.newDevice = false)
    (token : login.enrollmentToken = authMsg.enrollmentToken) :
    HandlerAssertion db clock lines db
      (checkRecord login (db.getAgentByDeviceID login.deviceID)) := by
  unfold Database.getAgentByDeviceID
  cases found : db.agents.lookup login.deviceID with
  | none =>
      have enabled : RowEnabled db login.deviceID := by
        intro row present
        rw [found] at present
        cases present
      exact ⟨rfl, rfl, authMsg, asking.withToken _ _, enabled, .inl token⟩
  | some row =>
      simp only [Option.map_some, checkRecord]
      split
      · exact refused _ _ (ended_of_none asking.none)
      rename_i disabled
      have on : row.enabled = true := by simpa using disabled
      have enabled : RowEnabled db login.deviceID := by
        intro one present
        rw [found, Option.some.injEq] at present
        rw [← present]
        exact on
      split
      · rename_i same
        refine ⟨rfl, asking.ready (.inl ⟨known, row, ?_, on, ?_⟩)⟩
        · rw [← asking.device]
          exact found
        · rw [← asking.secret]
          exact same
      split
      · exact ⟨rfl, authMsg, asking, enabled, .inl token⟩
      · exact ⟨rfl, authMsg, asking, enabled, .inl token⟩

theorem checkRetry_asserts {login : Login} {authMsg : ControlMessage} (retry : ControlMessage)
    (asking : Asking lines login authMsg []) (new : login.newDevice = true)
    (enabled : RowEnabled db login.deviceID) :
    HandlerAssertion db clock (lines ++ [.received retry]) db (checkRetry login retry) := by
  unfold checkRetry
  split
  · refine refused _ _ (ended_of_none fun line member => ?_)
    rcases List.mem_append.mp member with old | last
    · exact asking.none line old
    · rw [List.mem_singleton.mp last]
      rfl
  · rename_i accepted
    have hashless : retry.secretHash = [] := by
      simp only [Bool.or_eq_true, decide_eq_true_eq, not_or, not_not] at accepted
      exact accepted.1.2
    exact checkToken_asserts ((asking.receive hashless).withToken _ _) new enabled
      (.inr (.inr ⟨retry, List.mem_singleton_self _, rfl⟩))

theorem checkInit_asserts {login : Login} (initMsg : ControlMessage)
    (unsaved : Unsaved db clock lines db login) :
    HandlerAssertion db clock lines db (checkInit login initMsg) := by
  have ended : Ended db clock lines db :=
    ⟨⟨fun _ => ⟨login, unsaved.ready⟩, .inl (sameSecrets_refl db)⟩, fun _ => sameSecrets_refl db⟩
  unfold checkInit
  split
  · split
    · exact refused _ _ ended
    split
    · exact refused _ _ ended
    · exact unsaved
  split
  · exact ended
  split
  · exact refused _ _ ended
  · exact unsaved

/-! ## Steps -/

variable {netip : Signaling.Netip} {choice : Choice} {next : HandlerPoint} {longer : List Time}

theorem AskingFirst.refused {login : Login} (asking : AskingFirst db lines login) (code : Nat)
    (text : String) : HandlerAssertion db clock lines db (refuse code text) := by
  rcases asking with ⟨authMsg, asking, _, _⟩
  exact Relay.refused _ _ (ended_of_none asking.none)

theorem AskingFirst.enrolls {login : Login} (asking : AskingFirst db lines login) :
    HandlerAssertion db clock lines db
      (.auth (.enrollmentGuard { login with newDevice := true })) := by
  rcases asking with ⟨authMsg, asking, enabled, token⟩
  exact ⟨rfl, rfl, authMsg, asking.withToken _ _, enabled, token⟩

theorem AskingFirst.secretToken {login : Login} (asking : AskingFirst db lines login)
    (newDevice : Bool) :
    AskingFirst db lines { login with enrollmentToken := login.secret, newDevice } := by
  rcases asking with ⟨authMsg, asking, enabled, token⟩
  exact ⟨authMsg, asking.withToken _ _, enabled, .inr asking.secret⟩

theorem AskingFirst.checkToken {login : Login} (asking : AskingFirst db lines login)
    (new : login.newDevice = true) :
    HandlerAssertion db clock lines db (checkToken login) := by
  rcases asking with ⟨authMsg, asking, enabled, token⟩
  refine checkToken_asserts asking new enabled ?_
  rcases token with first | secret
  · exact .inl first
  · exact .inr (.inl secret)

theorem validated {login : Login} {authMsg : ControlMessage} {rest : List ControlMessage}
    {now : Time} (asking : Asking lines login authMsg rest) (new : login.newDevice = true)
    (enabled : RowEnabled db login.deviceID)
    (presented : login.enrollmentToken = authMsg.enrollmentToken ∨
      login.enrollmentToken = authMsg.secret ∨
      ∃ retry ∈ rest, login.enrollmentToken = retry.enrollmentToken)
    (valid : db.validateEnrollmentInvitation login.deviceID login.enrollmentToken now = true)
    (long : minDeviceSecretBytes ≤ login.secret.length) (read : now ∈ clock) :
    AuthAssertion db clock lines (.authOK login) := by
  refine asking.ready (.inr ⟨new, ?_, presented, ?_, ?_⟩)
  · rw [← asking.device]
    exact enabled
  · unfold Database.validateEnrollmentInvitation at valid
    split at valid
    · cases valid
    split at valid
    · cases valid
    · rename_i row present
      refine ⟨row, now, read, ?_, valid⟩
      rw [← asking.device]
      exact present
  · rw [← asking.secret]
    exact long

theorem planAuth_asserts {point : AuthPoint}
    (holds : AuthAssertion m.db clock (m.lines self) point)
    (planned : planAuth m choice point = some (action, next))
    (clocks : ∀ time ∈ clock, time ∈ longer) (read : ∀ now, choice = .now now → now ∈ longer) :
    HandlerAssertion m.db longer ((action.apply self m).lines self) (action.apply self m).db
      next := by
  cases point with
  | connectionGuard | acceptStream =>
      have none : ∀ line ∈ m.lines self, line.isAuthOK = false := by
        intro line member
        rw [holds] at member
        cases member
      cases choice <;> cases planned
      · exact ⟨rfl, holds⟩
      · exact ended_of_none none
  | readAuth =>
      cases choice <;> cases planned
      · refine ended_of_none fun line member => ?_
        rw [show (Action.nothing.apply self m).lines self = m.lines self from rfl, holds] at member
        cases member
      · rw [receive_lines, holds]
        exact checkAuth_asserts m.hasDB _
  | lookup login =>
      rcases holds with ⟨authMsg, asking, known, token⟩
      cases choice <;> cases planned
      · exact checkRecord_asserts asking known token
      · exact refused _ _ (ended_of_none asking.none)
  | validateToken login =>
      cases choice <;> simp only [planAuth, reduceCtorEq] at planned
      · cases planned
        exact holds.refused _ _
      · split at planned <;> cases planned
        · exact holds.enrolls
        · exact holds.refused _ _
  | validateSecret login =>
      cases choice <;> simp only [planAuth, reduceCtorEq] at planned
      · cases planned
        exact ⟨rfl, holds⟩
      · split at planned <;> cases planned
        · exact (holds.secretToken login.newDevice).enrolls
        · exact ⟨rfl, holds⟩
  | listInvitations login =>
      cases choice <;> simp only [planAuth, reduceCtorEq] at planned
      · cases planned
        exact holds.refused _ _
      · split at planned <;> cases planned
        · exact holds.enrolls
        · exact holds.refused _ _
  | enrollmentGuard login =>
      rcases holds with ⟨new, asking⟩
      cases choice <;> cases planned
      · split
        · exact ⟨rfl, new, asking⟩
        · exact asking.checkToken new
      · exact asking.refused _ _
  | secretAsToken login =>
      rcases holds with ⟨new, asking⟩
      cases choice <;> simp only [planAuth, reduceCtorEq] at planned
      · cases planned
        exact ⟨rfl, new, asking⟩
      · split at planned <;> cases planned
        · exact (asking.secretToken login.newDevice).checkToken new
        · exact ⟨rfl, new, asking⟩
  | challenge login =>
      rcases holds with ⟨new, authMsg, asking, enabled, token⟩
      cases choice <;> cases planned <;> rw [send_lines]
      · exact ⟨rfl, new, authMsg, asking.send (fun same => by cases same) true, enabled, token⟩
      · exact ⟨rfl, new, authMsg, asking.send (fun same => by cases same) false, enabled, token⟩
  | readRetry login =>
      rcases holds with ⟨new, authMsg, asking, enabled, token⟩
      cases choice <;> cases planned
      · exact ended_of_none asking.none
      · rw [receive_lines]
        exact checkRetry_asserts _ asking new enabled
  | validateInvitation login =>
      rcases holds with ⟨new, enabled, authMsg, rest, asking, presented⟩
      cases choice <;> simp only [planAuth, reduceCtorEq] at planned
      · cases planned
        exact refused _ _ (ended_of_none asking.none)
      · rename_i now
        split at planned
        · cases planned
          exact refused _ _ (ended_of_none asking.none)
        rename_i valid
        split at planned <;> cases planned
        · exact refused _ _ (ended_of_none asking.none)
        · rename_i long
          exact ⟨rfl, validated asking new enabled presented (by simpa using valid)
            (Nat.le_of_not_lt long) (read now rfl)⟩
  | authOK login =>
      rcases holds with ⟨none, authMsg, rest, admitted⟩
      have later : ∀ delivered, Ready m.db longer
          (m.lines self ++ [.sent { type := .authOK } delivered]) login := by
        intro delivered
        refine ⟨authMsg, rest, admitted.later clocks ?_⟩
        rw [beforeAuthOK_all none, beforeAuthOK, List.takeWhile_append_of_pos]
        · exact List.append_nil _
        · intro line member
          rw [none line member]
          rfl
      have out : ∀ delivered, ∃ line ∈ m.lines self ++ [.sent { type := .authOK } delivered],
          line.isAuthOK = true :=
        fun delivered => ⟨_, List.mem_append_right _ (List.mem_singleton_self _), rfl⟩
      cases choice <;> cases planned <;> rw [send_lines]
      · exact ⟨rfl, out true, later true⟩
      · exact ⟨⟨fun _ => ⟨login, later false⟩, .inl (sameSecrets_refl _)⟩,
          fun _ => sameSecrets_refl _⟩
  | readInit login =>
      rcases holds with ⟨out, authMsg, rest, admitted⟩
      cases choice <;> cases planned
      · exact ⟨⟨fun _ => ⟨login, authMsg, rest, admitted.later clocks rfl⟩,
          .inl (sameSecrets_refl _)⟩, fun _ => sameSecrets_refl _⟩
      · rw [receive_lines]
        refine checkInit_asserts _ ⟨?_, ⟨authMsg, rest, ?_⟩, rfl⟩
        · rcases out with ⟨line, member, isAuthOK⟩
          exact ⟨line, List.mem_append_left _ member, isAuthOK⟩
        · exact admitted.later clocks (beforeAuthOK_append out _)

/-! ## After AUTH_OK -/

theorem planForward_db {message : ControlMessage} {deviceID : GoString}
    {point later : Signaling.ForwardPoint}
    (planned : planForward netip m message deviceID choice point = some (action, later)) :
    (action.apply self m).db = m.db := by
  cases choice <;> simp only [planForward, reduceCtorEq, Option.map_eq_some_iff] at planned
  rcases planned with ⟨step, _, equal⟩
  cases equal
  rfl

def Saved (db : Database) (clock : List Time) (lines : List Line) (after : Database) : Prop :=
  (∃ line ∈ lines, line.isAuthOK = true) ∧ Sound db clock lines after

theorem Saved.ended (saved : Saved db clock lines after) : Ended db clock lines after :=
  ⟨saved.2, fun hidden => absurd saved.1 hidden⟩

theorem Unsaved.saved {login : Login} (unsaved : Unsaved db clock lines after login) :
    Saved db clock lines after := by
  refine ⟨unsaved.out, fun _ => ⟨login, unsaved.ready⟩, .inl ?_⟩
  rw [unsaved.same]
  exact sameSecrets_refl db

theorem out_later (out : ∃ line ∈ lines, line.isAuthOK = true) (more : List Line) :
    ∃ line ∈ lines ++ more, line.isAuthOK = true := by
  rcases out with ⟨line, member, isAuthOK⟩
  exact ⟨line, List.mem_append_left _ member, isAuthOK⟩

theorem Unsaved.step {login : Login} (unsaved : Unsaved db clock (m.lines self) m.db login)
    (clocks : ∀ time ∈ clock, time ∈ longer) (same : (action.apply self m).db = m.db) :
    Unsaved db longer ((action.apply self m).lines self) (action.apply self m).db login := by
  rcases apply_lines self m action self with ⟨more, grown⟩
  rw [grown, same]
  refine ⟨out_later unsaved.out more, ?_, unsaved.same⟩
  rcases unsaved.ready with ⟨authMsg, rest, admitted⟩
  exact ⟨authMsg, rest, admitted.later clocks (beforeAuthOK_append unsaved.out more)⟩

theorem Saved.step (saved : Saved db clock (m.lines self) m.db)
    (clocks : ∀ time ∈ clock, time ∈ longer) (same : (action.apply self m).db = m.db) :
    Saved db longer ((action.apply self m).lines self) (action.apply self m).db := by
  rcases apply_lines self m action self with ⟨more, grown⟩
  rw [grown, same]
  exact ⟨out_later saved.1 more,
    saved.2.later clocks (.inl saved.1) fun hidden => absurd saved.1 hidden⟩

theorem Unsaved.enroll {login : Login} {created : Database} {hostname : GoString} {port : UInt16}
    {now : Time} {failure : Option Database.TransactionStage}
    (unsaved : Unsaved db clock (m.lines self) m.db login) (new : login.newDevice = true)
    (enrolled : m.db.createAgentWithEnrollment (enrolledAgent login hostname port)
      login.enrollmentToken now failure = .ok created)
    (clocks : ∀ time ∈ clock, time ∈ longer) :
    Saved db longer (((Action.setDatabase created).apply self m).lines self) created := by
  have later := @Unsaved.step m .nothing self db clock longer login unsaved clocks rfl
  rcases later.ready with ⟨authMsg, rest, admitted⟩
  refine ⟨later.out, fun _ => ⟨login, later.ready⟩,
    .inr ⟨login, authMsg, rest, admitted, new, hostname, port, now, failure, ?_⟩⟩
  rw [← unsaved.same]
  exact enrolled

theorem updateRegistration_secrets (db : Database) (deviceID hostname : GoString)
    (port : UInt16) : SameSecrets db (db.updateAgentRegistration deviceID hostname port) := by
  intro one
  rw [Database.updateAgentRegistration, Database.updateAgent_lookup]
  by_cases same : one = deviceID
  · rw [if_pos same, Option.map_map]
    rfl
  · rw [if_neg same]

theorem Unsaved.update {login : Login} (unsaved : Unsaved db clock (m.lines self) m.db login)
    (hostname : GoString) (port : UInt16) (clocks : ∀ time ∈ clock, time ∈ longer) :
    Saved db longer
      (((Action.setDatabase (m.db.updateAgentRegistration login.deviceID hostname port)).apply
        self m).lines self)
      (m.db.updateAgentRegistration login.deviceID hostname port) := by
  have later := @Unsaved.step m .nothing self db clock longer login unsaved clocks rfl
  refine ⟨later.out, fun _ => ⟨login, later.ready⟩, .inl ?_⟩
  rw [← unsaved.same]
  exact updateRegistration_secrets m.db login.deviceID hostname port

theorem planController_asserts {login : Login} {request : ControlMessage} {point : ControllerPoint}
    (holds : HandlerAssertion db clock (m.lines self) m.db (.controller login request point))
    (planned : planController netip m self login request choice point = some (action, next))
    (clocks : ∀ time ∈ clock, time ∈ longer) :
    HandlerAssertion db longer ((action.apply self m).lines self) (action.apply self m).db
      next := by
  cases point with
  | authorize =>
      have unsaved : Unsaved db clock (m.lines self) m.db login := holds
      simp only [planController] at planned
      split at planned
      · cases planned
        exact refused _ _ (unsaved.step clocks rfl).saved.ended
      split at planned <;> cases planned
      · rename_i new
        exact ⟨new, unsaved.step clocks rfl⟩
      · exact (unsaved.step clocks rfl).saved
  | enroll =>
      rcases holds with ⟨new, unsaved⟩
      cases choice <;> simp only [planController, reduceCtorEq] at planned
      split at planned <;> cases planned
      · rename_i created
        exact unsaved.enroll new created clocks
      · exact refused _ _ (unsaved.step clocks rfl).saved.ended
  | findTarget =>
      have saved : Saved db clock (m.lines self) m.db := holds
      simp only [planController] at planned
      split at planned <;> cases planned
      · exact refused _ _ (saved.step clocks rfl).ended
      · exact saved.step clocks rfl
  | connect target point =>
      have saved : Saved db clock (m.lines self) m.db := holds
      simp only [planController] at planned
      split at planned
      · rw [Option.map_eq_some_iff] at planned
        rcases planned with ⟨step, taken, equal⟩
        cases equal
        have later := @Saved.step m (.coordinate step.coordinator step.sent) self db clock longer
          saved clocks rfl
        unfold resumeConnect
        split
        · exact refused _ _ later.ended
        · split
          · rename_i error
            exact ⟨by simp [error], later.ended⟩
          · exact later
        · exact later
      · cases planned
  | registerRoute target resp =>
      have saved : Saved db clock (m.lines self) m.db := holds
      cases planned
      exact saved.step clocks rfl
  | respond target resp =>
      have saved : Saved db clock (m.lines self) m.db := holds
      cases choice <;> cases planned <;> exact saved.step clocks rfl
  | controlLoop target sessionID =>
      have saved : Saved db clock (m.lines self) m.db := holds
      cases choice <;> cases planned
      · exact saved.step clocks rfl
      · repeat' split
        all_goals exact saved.step clocks rfl
  | pong target sessionID =>
      have saved : Saved db clock (m.lines self) m.db := holds
      cases choice <;> cases planned <;> exact saved.step clocks rfl
  | forward target sessionID message point =>
      have saved : Saved db clock (m.lines self) m.db := holds
      simp only [planController] at planned
      split at planned
      · cases planned
        exact saved.step clocks rfl
      · rw [Option.map_eq_some_iff] at planned
        rcases planned with ⟨⟨taken, after⟩, forwarded, equal⟩
        cases equal
        exact saved.step clocks (planForward_db forwarded)
  | closeSession target sessionID point =>
      have saved : Saved db clock (m.lines self) m.db := holds
      simp only [planController] at planned
      split at planned
      · cases planned
        exact saved.step clocks rfl
      · rw [Option.map_eq_some_iff] at planned
        rcases planned with ⟨step, taken, equal⟩
        cases equal
        exact saved.step clocks rfl
      · cases planned
  | unregisterRoute target sessionID =>
      have saved : Saved db clock (m.lines self) m.db := holds
      cases planned
      refine (saved.step clocks ?_).ended
      simp only [Action.apply]
      split <;> rfl

theorem planAgent_asserts {login : Login} {register : ControlMessage} {point : AgentPoint}
    (holds : HandlerAssertion db clock (m.lines self) m.db (.agent login register point))
    (planned : planAgent netip m self login register choice point = some (action, next))
    (clocks : ∀ time ∈ clock, time ∈ longer) :
    HandlerAssertion db longer ((action.apply self m).lines self) (action.apply self m).db
      next := by
  cases point with
  | allocatePort =>
      have unsaved : Unsaved db clock (m.lines self) m.db login := holds
      simp only [planAgent] at planned
      split at planned <;> cases planned
      · exact refused _ _ (unsaved.step clocks rfl).saved.ended
      · exact unsaved.step clocks rfl
  | findExisting port =>
      have unsaved : Unsaved db clock (m.lines self) m.db login := holds
      simp only [planAgent] at planned
      split at planned <;> cases planned <;> exact unsaved.step clocks rfl
  | closeExisting port old =>
      have unsaved : Unsaved db clock (m.lines self) m.db login := holds
      cases planned
      exact unsaved.step clocks rfl
  | persist port =>
      have unsaved : Unsaved db clock (m.lines self) m.db login := holds
      cases new : login.newDevice with
      | true =>
          cases choice <;> simp only [planAgent, new, if_true, reduceCtorEq] at planned
          split at planned <;> cases planned
          · rename_i created
            exact unsaved.enroll new created clocks
          · exact refused _ _ (unsaved.step clocks rfl).saved.ended
      | false =>
          cases choice <;>
            simp only [planAgent, new, Bool.false_eq_true, if_false, reduceCtorEq] at planned
          · cases planned
            exact unsaved.update register.hostname port clocks
          · cases planned
            exact refused _ _ (unsaved.step clocks rfl).saved.ended
  | listenTCP port | listenUDP port =>
      have saved : Saved db clock (m.lines self) m.db := holds
      simp only [planAgent] at planned
      repeat' split at planned
      all_goals cases planned
      · exact saved.step clocks rfl
      · exact refused _ _ (saved.step clocks rfl).ended
  | registerOnline port =>
      have saved : Saved db clock (m.lines self) m.db := holds
      cases planned
      exact saved.step clocks (registerOnline_db _)
  | registerPeer port =>
      have saved : Saved db clock (m.lines self) m.db := holds
      cases planned
      exact saved.step clocks rfl
  | portAssign port | reply port message =>
      have saved : Saved db clock (m.lines self) m.db := holds
      cases choice <;> cases planned <;> exact saved.step clocks rfl
  | controlLoop port =>
      have saved : Saved db clock (m.lines self) m.db := holds
      cases choice <;> cases planned
      · exact saved.step clocks rfl
      · unfold dispatch
        repeat' split
        all_goals exact saved.step clocks rfl
  | forward port message point =>
      have saved : Saved db clock (m.lines self) m.db := holds
      simp only [planAgent] at planned
      split at planned
      · cases planned
        exact saved.step clocks rfl
      · rw [Option.map_eq_some_iff] at planned
        rcases planned with ⟨⟨taken, after⟩, forwarded, equal⟩
        cases equal
        exact saved.step clocks (planForward_db forwarded)
  | unregisterPeer port point =>
      have saved : Saved db clock (m.lines self) m.db := holds
      simp only [planAgent] at planned
      split at planned
      · cases planned
        exact saved.step clocks rfl
      · rw [Option.map_eq_some_iff] at planned
        rcases planned with ⟨step, taken, equal⟩
        cases equal
        exact saved.step clocks rfl
      · cases planned
  | unregisterOnline port =>
      have saved : Saved db clock (m.lines self) m.db := holds
      cases planned
      exact saved.step clocks (removeOnline_db _)
  | close port =>
      have saved : Saved db clock (m.lines self) m.db := holds
      cases planned
      exact (saved.step clocks rfl).ended

theorem planHandler_asserts {point : HandlerPoint}
    (holds : HandlerAssertion db clock (m.lines self) m.db point)
    (planned : planHandler netip m self choice point = some (action, next))
    (clocks : ∀ time ∈ clock, time ∈ longer) (read : ∀ now, choice = .now now → now ∈ longer) :
    HandlerAssertion db longer ((action.apply self m).lines self) (action.apply self m).db
      next := by
  cases point with
  | auth point =>
      rcases holds with ⟨rfl, holds⟩
      exact planAuth_asserts holds planned clocks read
  | controller login request point => exact planController_asserts holds planned clocks
  | agent login register point => exact planAgent_asserts holds planned clocks
  | refuse message =>
      rcases holds with ⟨other, ended⟩
      have none : ∀ delivered, ∀ line ∈ [Line.sent message delivered], line.isAuthOK = false := by
        intro delivered line member
        rw [List.mem_singleton.mp member]
        simp [Line.isAuthOK, other]
      have later : ∀ delivered,
          Ended db longer (m.lines self ++ [.sent message delivered]) m.db := by
        intro delivered
        refine ⟨ended.sound.later clocks (.inr (none delivered)) ended.unsaved, fun hidden => ?_⟩
        exact ended.unsaved fun out => hidden (out_later out _)
      cases choice <;> cases planned <;> rw [send_lines]
      · exact later true
      · exact later false
  | finished => cases planned

/-! ## Runs of one connection -/

theorem readings_append (events : List (PoolEvent Thread Choice))
    (event : PoolEvent Thread Choice) :
    readings (events ++ [event]) = readings events ++ readings [event] := List.filterMap_append

def Alone (db : Database) (events : List (PoolEvent Thread Choice)) (pool : RelayPool) : Prop :=
  ∃ point, pool.threads = [.handler point] ∧
    HandlerAssertion db (readings events) (pool.shared.lines 0) pool.shared.db point

theorem Alone.step {events : List (PoolEvent Thread Choice)} {pool after : RelayPool}
    (alone : Alone db events pool) {event : PoolEvent Thread Choice}
    (one : OneHandler pool event) (taken : (program netip).machine.step pool event = some after) :
    Alone db (events ++ [event]) after := by
  rcases alone with ⟨point, threads, holds⟩
  rcases Program.step_cases taken with
    ⟨thread, rfl, _, rfl⟩ | ⟨self, choice, thread, moved, next, rfl, present, step, rfl⟩
  · cases one
  · cases one
    rw [threads] at present
    cases present
    simp only [program, Option.map_eq_some_iff] at step
    rcases step with ⟨⟨action, later⟩, planned, equal⟩
    cases equal
    simp only [plan, Option.map_eq_some_iff] at planned
    rcases planned with ⟨⟨taken, beyond⟩, stepped, equal⟩
    cases equal
    refine ⟨beyond, ?_, ?_⟩
    · simp only [Pool.update, threads]
      rfl
    · refine planHandler_asserts holds stepped ?_ ?_
      · intro time member
        rw [readings_append]
        exact List.mem_append_left _ member
      · rintro now rfl
        rw [readings_append]
        exact List.mem_append_right _ (List.mem_singleton_self _)

theorem HandlerAssertion.sound {point : HandlerPoint}
    (holds : HandlerAssertion db clock lines after point) : Sound db clock lines after := by
  cases point with
  | auth point =>
      rcases holds with ⟨rfl, holds⟩
      have none : (∀ line ∈ lines, line.isAuthOK = false) → Sound after clock lines after :=
        fun none => (ended_of_none none).sound
      cases point with
      | connectionGuard | acceptStream | readAuth =>
          refine none fun line member => ?_
          rw [show lines = [] from holds] at member
          cases member
      | lookup login =>
          rcases holds with ⟨authMsg, asking, _⟩
          exact none asking.none
      | validateToken login | validateSecret login | listInvitations login =>
          rcases holds with ⟨authMsg, asking, _⟩
          exact none asking.none
      | enrollmentGuard login | secretAsToken login | challenge login | readRetry login =>
          rcases holds with ⟨_, authMsg, asking, _⟩
          exact none asking.none
      | validateInvitation login =>
          rcases holds with ⟨_, _, authMsg, rest, asking, _⟩
          exact none asking.none
      | authOK login => exact none holds.1
      | readInit login => exact ⟨fun _ => ⟨login, holds.2⟩, .inl (sameSecrets_refl after)⟩
  | controller login request point =>
      cases point with
      | authorize => exact (Unsaved.saved holds).2
      | enroll => exact (Unsaved.saved holds.2).2
      | _ => exact holds.2
  | agent login register point =>
      cases point with
      | allocatePort | findExisting | closeExisting | persist => exact (Unsaved.saved holds).2
      | _ => exact holds.2
  | refuse message => exact holds.2.sound
  | finished => exact Ended.sound holds

/-- The stored secret of a device changes by its own enrollment only, which consumes
the invitation. -/
theorem Enrolled.changes {login : Login} {authMsg : ControlMessage} {rest : List ControlMessage}
    (enrolled : Enrolled db clock lines after login authMsg rest) {deviceID : GoString}
    (changed : (after.agents.lookup deviceID).map AgentRow.secretHash ≠
      (db.agents.lookup deviceID).map AgentRow.secretHash) :
    deviceID = authMsg.deviceID ∧
      Invited db clock authMsg rest login.enrollmentToken ∧
      ∃ a now failure row, a.deviceID = deviceID ∧ a.secretHash = hashSecret authMsg.secret ∧
        db.createAgentWithEnrollment a login.enrollmentToken now failure = .ok after ∧
        db.invitations.lookup deviceID = some row ∧
        row.usable login.enrollmentToken now = true ∧
        after.invitations.lookup deviceID = some { row with consumedAt := some now } := by
  rcases enrolled.created with ⟨hostname, port, now, failure, created⟩
  have device : deviceID = login.deviceID := by
    by_contra apart
    rw [Database.createAgentWithEnrollment_agents created,
      Database.insertAgent_lookup_other _ apart] at changed
    exact changed rfl
  rcases Database.createAgentWithEnrollment_ok created with ⟨row, present, usable, equal⟩
  refine ⟨device.trans enrolled.admitted.device, ?_, enrolledAgent login hostname port, now,
    failure, row, device.symm, ?_, created, ?_, usable, ?_⟩
  · rcases enrolled.admitted.because with ⟨known, _⟩ | ⟨_, invited⟩
    · rw [enrolled.newDevice] at known
      cases known
    · exact invited
  · rw [← enrolled.admitted.secret]
    rfl
  · rw [device]
    exact present
  · rw [equal, device]
    exact AList.lookup_insert _

/-- In every run of one connection: where AUTH_OK has been written, the client's
messages before it carry no secret hash, and its first one names a device whose row is
enabled and holds the hash of its secret, or whose invitation was usable with a token
that it presented. The stored secret of a device is replaced only in the second case,
by the enrollment that consumes the invitation. -/
theorem authentication_is_sound {m : AgentManager} {events : List (PoolEvent Thread Choice)}
    {pool : RelayPool}
    (run : (program netip).machine.Run OneHandler (connection m) events pool) :
    (∀ message delivered, Line.sent message delivered ∈ pool.shared.lines 0 →
      message.type = .authOK →
      ∃ authMsg rest, Heard (pool.shared.lines 0) authMsg rest ∧
        (KnownSecret m.db authMsg ∨
          ∃ token, Invited m.db (readings events) authMsg rest token)) ∧
    ∀ deviceID, (pool.shared.db.agents.lookup deviceID).map AgentRow.secretHash ≠
        (m.db.agents.lookup deviceID).map AgentRow.secretHash →
      ∃ authMsg rest token, Heard (pool.shared.lines 0) authMsg rest ∧
        deviceID = authMsg.deviceID ∧ Invited m.db (readings events) authMsg rest token ∧
        ∃ a now failure row, a.deviceID = deviceID ∧ a.secretHash = hashSecret authMsg.secret ∧
          m.db.createAgentWithEnrollment a token now failure = .ok pool.shared.db ∧
          m.db.invitations.lookup deviceID = some row ∧ row.usable token now = true ∧
          pool.shared.db.invitations.lookup deviceID =
            some { row with consumedAt := some now } := by
  have alone : Alone m.db events pool := by
    refine run.invariant ⟨_, rfl, rfl, rfl⟩ ?_
    exact fun _ _ _ _ _ alone one taken => alone.step one taken
  rcases alone with ⟨point, _, holds⟩
  have sound := holds.sound
  constructor
  · intro message delivered member isAuthOK
    rcases sound.accepted ⟨_, member, by simp [Line.isAuthOK, isAuthOK]⟩ with
      ⟨login, authMsg, rest, admitted⟩
    refine ⟨authMsg, rest, admitted.heard, ?_⟩
    rcases admitted.because with ⟨_, known⟩ | ⟨_, invited⟩
    · exact .inl known
    · exact .inr ⟨login.enrollmentToken, invited⟩
  · intro deviceID changed
    rcases sound.stored with same | ⟨login, authMsg, rest, enrolled⟩
    · exact absurd (same deviceID) changed
    · exact ⟨authMsg, rest, login.enrollmentToken, enrolled.admitted.heard,
        enrolled.changes changed⟩

/-- A new device signs in with the token of its invitation and is enrolled. -/
theorem authentication_is_sound_enrolled :
    ∃ events pool, (program noCandidates).machine.Run OneHandler
      (connection (newAgentManager .empty ⟨10, 11, ∅, ∅, by decide, by decide⟩ 0 ⟨false, ∅⟩ []
        [([65], [1], 9)])) events pool ∧
      Line.sent { type := .authOK } true ∈ pool.shared.lines 0 ∧
      ∃ authMsg rest, Heard (pool.shared.lines 0) authMsg rest ∧ [65] = authMsg.deviceID := by
  have found := (program noCandidates).machine.exists_run OneHandler
    (fun pool => Line.sent { type := .authOK } true ∈ pool.shared.lines 0 ∧
      (pool.shared.db.agents.lookup [65]).isSome = true)
    (connection (newAgentManager .empty ⟨10, 11, ∅, ∅, by decide, by decide⟩ 0 ⟨false, ∅⟩ []
      [([65], [1], 9)]))
    (turn 0 (signsInNew ++ enrolls.take 4)) (by decide +kernel)
  rcases found with ⟨pool, run, accepted, stored⟩
  rcases Option.isSome_iff_exists.mp stored with ⟨row, present⟩
  have changed := (authentication_is_sound run).2 [65] (by rw [present]; rintro ⟨⟩)
  rcases changed with ⟨authMsg, rest, _, heard, device, _⟩
  exact ⟨_, pool, run, accepted, authMsg, rest, heard, device⟩

end Rdpulse.Relay
