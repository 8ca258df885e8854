import Mathlib.Data.Nat.Bitwise
import Rdpulse.Signaling.Sessions

namespace Rdpulse.Signaling

open Foundation Protocol

/-! The limits of the session table, the numbering of sessions and the rollback of a
request, under any interleaving of the coordinator's operations. A ledger beside the
coordinator says which call drew which number, and whose session is under which id. -/

structure Ledger where
  numbered : List (Nat × UInt32)
  owner : UInt32 → Option Nat

def Ledger.empty : Ledger := ⟨[], fun _ => none⟩

def Ledger.note (ledger : Ledger) (self : Nat) : Call → Call → Ledger
  | .handleConnectRequest _ (.number _ _), .handleConnectRequest _ (.draw _ _ sessionID) =>
      { ledger with numbered := ledger.numbered ++ [(self, sessionID)] }
  | .handleConnectRequest _ (.insert _ _ _ _), .handleConnectRequest _ (.notify _ _ sessionID _) =>
      { ledger with owner := Function.update ledger.owner sessionID (some self) }
  | _, _ => ledger

def ledgerStep (netip : Netip) (self : Nat) (state : Hub × Ledger) (call : Call)
    (choice : Choice) : Option ((Hub × Ledger) × Call) :=
  (callStep netip self state.1 call choice).map fun (hub, next) =>
    ((hub, state.2.note self call next), next)

def ledgerProgram (netip : Netip) : Program (Hub × Ledger) Call Choice where
  entry := Call.entry
  step := ledgerStep netip

abbrev LedgerPool := Pool (Hub × Ledger) Call

def initialLedgerPool (nanoseconds : UInt32) (authorizes : Bool) : LedgerPool where
  shared := ((initialPool nanoseconds authorizes).shared, .empty)
  threads := []

/-- `HandleConnectRequest` returns an error or an ERROR message. -/
def failed : Except String ControlMessage → Bool
  | .error _ => true
  | .ok resp => resp.type = .error

/-! ## The session table -/

structure Limited (c : SessionCoordinator) : Prop where
  total : c.sessions.entries.length ≤ maxActiveSessions
  perPeer : ∀ deviceID, c.sessionCount deviceID ≤ maxActiveSessionsPerPeer
  own : ∀ entry ∈ c.sessions.entries,
    entry.2.id = entry.1 ∧ entry.1 &&& 0x80000000 = 0x80000000

structure Shrinks (c moved : SessionCoordinator) : Prop where
  sessions : moved.sessions.entries.Sublist c.sessions.entries
  nextSessionID : moved.nextSessionID = c.nextSessionID

variable {c moved : SessionCoordinator}

theorem Shrinks.refl (c : SessionCoordinator) : Shrinks c c := ⟨.refl _, rfl⟩

theorem Shrinks.lookup (shrinks : Shrinks c moved) {sessionID : UInt32}
    {session : ActiveSession} (found : moved.sessions.lookup sessionID = some session) :
    c.sessions.lookup sessionID = some session := by
  rw [← Option.mem_def, AList.mem_lookup_iff] at found ⊢
  exact shrinks.sessions.subset found

theorem Limited.shrink (limited : Limited c) (shrinks : Shrinks c moved) : Limited moved where
  total := Nat.le_trans shrinks.sessions.length_le limited.total
  perPeer deviceID :=
    Nat.le_trans (shrinks.sessions.filter _).length_le (limited.perPeer deviceID)
  own entry member := limited.own entry (shrinks.sessions.subset member)

theorem Limited.add (limited : Limited c) {session : ActiveSession}
    (room : c.full session.controllerID session.targetID = false)
    (numbered : session.id &&& 0x80000000 = 0x80000000) : Limited (c.addSession session) := by
  simp only [SessionCoordinator.full, Bool.or_eq_false_iff, decide_eq_false_iff_not,
    Nat.not_le] at room
  rcases room with ⟨⟨total, controller⟩, target⟩
  have kept : (c.sessions.entries.kerase session.id).Sublist c.sessions.entries :=
    List.kerase_sublist _ _
  have entries : (c.addSession session).sessions.entries =
      ⟨session.id, session⟩ :: c.sessions.entries.kerase session.id := AList.entries_insert
  refine ⟨?_, fun deviceID => ?_, fun entry member => ?_⟩
  · rw [entries, List.length_cons]
    have shorter := kept.length_le
    omega
  · have fewer := (kept.filter fun entry =>
      entry.2.controllerID = deviceID || entry.2.targetID = deviceID).length_le
    have before := limited.perPeer deviceID
    rw [SessionCoordinator.sessionCount, entries, List.filter_cons]
    split
    · rename_i takesPart
      simp only [Bool.or_eq_true, decide_eq_true_eq] at takesPart
      rw [List.length_cons]
      unfold SessionCoordinator.sessionCount at controller target
      rcases takesPart with rfl | rfl
      · omega
      · omega
    · exact Nat.le_trans fewer before
  · rw [entries, List.mem_cons] at member
    rcases member with rfl | old
    · exact ⟨rfl, numbered⟩
    · exact limited.own entry (kept.subset old)

theorem dropSessions_shrinks (gone : List (UInt32 × ActiveSession)) (c : SessionCoordinator) :
    Shrinks c (c.dropSessions gone) := by
  refine ⟨?_, rfl⟩
  unfold SessionCoordinator.dropSessions
  simp only
  generalize c.sessions = sessions
  induction gone generalizing sessions with
  | nil => exact .refl _
  | cons entry rest induction =>
      rw [List.foldl_cons]
      exact (induction _).trans (List.kerase_sublist _ _)

theorem dropPeer_shrinks (c : SessionCoordinator) (deviceID : GoString) (writer : Writer) :
    Shrinks c (c.dropPeer deviceID writer) := by
  unfold SessionCoordinator.dropPeer
  split
  · split
    · exact ⟨.refl _, rfl⟩
    · exact .refl c
  · exact .refl c

theorem Shrinks.trans {last : SessionCoordinator} (first : Shrinks c moved)
    (second : Shrinks moved last) : Shrinks c last :=
  ⟨second.sessions.trans first.sessions, second.nextSessionID.trans first.nextSessionID⟩

section Plans

variable {netip : Netip} {choice : Choice}

theorem planCloseSession_shrinks {sessionID : UInt32} {controllerID : GoString}
    {point : ClosePoint} {step : CallStep ClosePoint}
    (planned : planCloseSession c sessionID controllerID choice point = some step) :
    Shrinks c step.coordinator := by
  cases point with
  | lock =>
      simp only [planCloseSession] at planned
      repeat' split at planned
      all_goals cases planned
      · exact .refl c
      · exact .refl c
      · exact ⟨List.kerase_sublist _ _, rfl⟩
      · exact ⟨List.kerase_sublist _ _, rfl⟩
  | notify session =>
      simp only [planCloseSession, Option.map_eq_some_iff] at planned
      rcases planned with ⟨_, _, rfl⟩
      exact .refl c
  | returned => cases planned

theorem planUnregisterPeer_shrinks {deviceID : GoString} {writer : Writer}
    {point : UnregisterPoint} {step : CallStep UnregisterPoint}
    (planned : planUnregisterPeer c deviceID writer choice point = some step) :
    Shrinks c step.coordinator := by
  cases point with
  | lock =>
      simp only [planUnregisterPeer] at planned
      repeat' split at planned
      all_goals cases planned
      exact (dropPeer_shrinks c deviceID writer).trans (dropSessions_shrinks _ _)
  | notify removed pending =>
      cases pending with
      | nil =>
          cases planned
          exact .refl c
      | cons entry rest =>
          simp only [planUnregisterPeer] at planned
          split at planned
          · cases planned
            exact .refl c
          · rw [Option.map_eq_some_iff] at planned
            rcases planned with ⟨_, _, rfl⟩
            exact .refl c
  | returned => cases planned

inductive LedgerEffect (self : Nat) (c : SessionCoordinator) (ledger : Ledger) :
    SessionCoordinator → Ledger → Prop
  | shrinks {moved : SessionCoordinator} (shrinks : Shrinks c moved) :
      LedgerEffect self c ledger moved ledger
  | numbers : LedgerEffect self c ledger { c with nextSessionID := c.nextSessionID + 1 }
      { ledger with
        numbered := ledger.numbered ++ [(self, (c.nextSessionID + 1) ||| 0x80000000)] }
  | inserts {session : ActiveSession} (numbered : (self, session.id) ∈ ledger.numbered)
      (room : c.full session.controllerID session.targetID = false) :
      LedgerEffect self c ledger (c.addSession session)
        { ledger with owner := Function.update ledger.owner session.id (some self) }

def Vacated (self : Nat) (ledger : Ledger) (c : SessionCoordinator) : Prop :=
  ∀ sessionID, ledger.owner sessionID = some self → c.sessions.lookup sessionID = none

def Accounted (self : Nat) (ledger : Ledger) (c : SessionCoordinator)
    (request : ConnectRequest) : ConnectPoint → Prop
  | .start | .lookup _ | .authorize _ _ _ | .number _ _ =>
      ∀ sessionID, ledger.owner sessionID ≠ some self
  | .draw _ _ sessionID | .insert _ _ sessionID _ =>
      (self, sessionID) ∈ ledger.numbered ∧ ∀ one, ledger.owner one ≠ some self
  | .notify _ _ sessionID _ | .rollback sessionID .lock =>
      ∀ one, ledger.owner one = some self → one = sessionID ∧
        ∀ session, c.sessions.lookup one = some session →
          session.controllerID = request.controller.deviceID
  | .rollback _ _ => Vacated self ledger c
  | .returned result => failed result = true → Vacated self ledger c

theorem planConnect_effect {self : Nat} {ledger : Ledger} {request : ConnectRequest}
    {point : ConnectPoint} {step : CallStep ConnectPoint}
    (planned : planHandleConnectRequest netip c request choice point = some step)
    (known : Accounted self ledger c request point) :
    LedgerEffect self c ledger step.coordinator
      (ledger.note self (.handleConnectRequest request point)
        (.handleConnectRequest request step.next)) := by
  cases point with
  | number candidates target =>
      cases planned
      exact .numbers
  | insert candidates target sessionID token =>
      simp only [planHandleConnectRequest] at planned
      split at planned
      · cases planned
        exact .shrinks (.refl c)
      · rename_i room
        cases planned
        exact @LedgerEffect.inserts self c ledger (request.session target sessionID) known.1
          (Bool.eq_false_iff.mpr room)
  | notify candidates target sessionID token =>
      simp only [planHandleConnectRequest, Option.map_eq_some_iff] at planned
      rcases planned with ⟨_, _, rfl⟩
      exact .shrinks (.refl c)
  | rollback sessionID at_ =>
      simp only [planHandleConnectRequest, Option.map_eq_some_iff] at planned
      rcases planned with ⟨closing, closed, rfl⟩
      exact .shrinks (planCloseSession_shrinks closed)
  | returned => cases planned
  | start | lookup | authorize | draw =>
      simp only [planHandleConnectRequest] at planned
      repeat' split at planned
      all_goals cases planned
      all_goals exact .shrinks (.refl c)

theorem Vacated.of_none {self : Nat} {ledger : Ledger}
    (none : ∀ sessionID, ledger.owner sessionID ≠ some self) (c : SessionCoordinator) :
    Vacated self ledger c := fun sessionID mine => absurd mine (none sessionID)

theorem Accounted.step {self : Nat} {ledger : Ledger} {request : ConnectRequest}
    {point : ConnectPoint} {step : CallStep ConnectPoint}
    (known : Accounted self ledger c request point)
    (planned : planHandleConnectRequest netip c request choice point = some step) :
    Accounted self
      (ledger.note self (.handleConnectRequest request point)
        (.handleConnectRequest request step.next)) step.coordinator request step.next := by
  cases point with
  | start | lookup | authorize =>
      simp only [planHandleConnectRequest] at planned
      repeat' split at planned
      all_goals cases planned
      all_goals first
        | exact known
        | exact fun _ => .of_none known _
  | number candidates target =>
      cases planned
      exact ⟨List.mem_append_right _ List.mem_cons_self, known⟩
  | draw candidates target sessionID =>
      simp only [planHandleConnectRequest] at planned
      split at planned <;> cases planned
      · exact known
      · exact fun _ => .of_none known.2 _
  | insert candidates target sessionID token =>
      simp only [planHandleConnectRequest] at planned
      split at planned <;> cases planned
      · exact fun _ => .of_none known.2 _
      · intro one mine
        by_cases same : one = sessionID
        · subst same
          refine ⟨rfl, fun session found => ?_⟩
          have found : (c.sessions.insert one (request.session target one)).lookup one =
            some session := found
          rw [AList.lookup_insert, Option.some.injEq] at found
          rw [← found]
          rfl
        · have mine : Function.update ledger.owner sessionID (some self) one = some self := mine
          rw [Function.update_of_ne same] at mine
          exact absurd mine (known.2 one)
  | notify candidates target sessionID token =>
      simp only [planHandleConnectRequest, Option.map_eq_some_iff] at planned
      rcases planned with ⟨⟨sent, delivered⟩, written, rfl⟩
      cases delivered with
      | true => exact fun failure => by cases failure
      | false => exact known
  | rollback sessionID at_ =>
      simp only [planHandleConnectRequest, Option.map_eq_some_iff] at planned
      rcases planned with ⟨closing, closed, rfl⟩
      have vacated : Vacated self ledger closing.coordinator := by
        intro one mine
        cases at_ with
        | lock =>
            rcases known one mine with ⟨rfl, controller⟩
            cases found : closing.coordinator.sessions.lookup one with
            | none => rfl
            | some session =>
                have before := (planCloseSession_shrinks closed).lookup found
                exact absurd (controller session before)
                  ((planCloseSession_cases closed).2 rfl session found)
        | notify | returned =>
            cases found : closing.coordinator.sessions.lookup one with
            | none => rfl
            | some session =>
                have before := (planCloseSession_shrinks closed).lookup found
                rw [known one mine] at before
                cases before
      have later : closing.next ≠ .lock := by
        cases at_ with
        | lock =>
            simp only [planCloseSession] at closed
            repeat' split at closed
            all_goals cases closed
            all_goals exact fun same => by cases same
        | notify session =>
            simp only [planCloseSession, Option.map_eq_some_iff] at closed
            rcases closed with ⟨_, _, rfl⟩
            exact fun same => by cases same
        | returned => cases closed
      cases next : closing.next with
      | lock => exact absurd next later
      | notify => exact vacated
      | returned => exact fun _ => vacated
  | returned => cases planned

end Plans

/-! ## Numbers -/

def sessionNumber (first : UInt32) (count : Nat) : UInt32 :=
  (first + UInt32.ofNat (count + 1)) ||| 0x80000000

theorem or_and_self (value mask : UInt32) : (value ||| mask) &&& mask = mask := by
  apply UInt32.toBitVec_inj.mp
  ext index
  simp only [UInt32.toBitVec_and, UInt32.toBitVec_or, BitVec.getElem_and, BitVec.getElem_or]
  cases mask.toBitVec[index] <;> simp

theorem sessionNumber_injective (first : UInt32) {one other : Nat} (small : one < 2 ^ 31)
    (bounded : other < 2 ^ 31) (same : sessionNumber first one = sessionNumber first other) :
    one = other := by
  have low : ∀ count, (sessionNumber first count).toNat % 2 ^ 31 =
      (first.toNat + (count + 1)) % 2 ^ 31 := by
    intro count
    unfold sessionNumber
    rw [UInt32.toNat_or, Nat.or_mod_two_pow, UInt32.toNat_add, UInt32.toNat_ofNat']
    simp
  have equal := low one
  rw [same, low other] at equal
  omega

/-! ## The ledger over runs -/

/-- The ledger of this many calls describes the session table. -/
structure Ledgered (first : UInt32) (calls : Nat) (c : SessionCoordinator) (ledger : Ledger) :
    Prop where
  limited : Limited c
  nextSessionID : c.nextSessionID = first + UInt32.ofNat ledger.numbered.length
  numbers : ledger.numbered.map Prod.snd =
    (List.range ledger.numbered.length).map (sessionNumber first)
  owned : ∀ sessionID session, c.sessions.lookup sessionID = some session →
    ∃ self, ledger.owner sessionID = some self
  drawn : ∀ sessionID self, ledger.owner sessionID = some self →
    (self, sessionID) ∈ ledger.numbered
  callers : ∀ entry ∈ ledger.numbered, entry.1 < calls

variable {first : UInt32} {calls : Nat} {ledger later : Ledger} {self : Nat}

theorem Ledgered.namespace (known : Ledgered first calls c ledger) {sessionID : UInt32}
    (member : (self, sessionID) ∈ ledger.numbered) : sessionID &&& 0x80000000 = 0x80000000 := by
  have number : sessionID ∈ ledger.numbered.map Prod.snd := List.mem_map_of_mem member
  rw [known.numbers, List.mem_map] at number
  rcases number with ⟨count, _, rfl⟩
  exact or_and_self _ _

/-- Up to 2^31 numbers no two calls draw the same. -/
theorem Ledgered.unique (known : Ledgered first calls c ledger)
    (few : ledger.numbered.length ≤ 2 ^ 31) {sessionID : UInt32} {one other : Nat}
    (drew : (one, sessionID) ∈ ledger.numbered) (drawn : (other, sessionID) ∈ ledger.numbered) :
    one = other := by
  have distinct : (ledger.numbered.map Prod.snd).Nodup := by
    rw [known.numbers]
    refine List.nodup_range.map_on fun one member other present same => ?_
    rw [List.mem_range] at member present
    exact sessionNumber_injective first (by omega) (by omega) same
  exact congrArg Prod.fst (List.inj_on_of_nodup_map distinct drew drawn rfl)

theorem Ledgered.step (known : Ledgered first calls c ledger)
    (effect : LedgerEffect self c ledger moved later) (bound : self < calls) :
    Ledgered first calls moved later := by
  cases effect with
  | shrinks shrinks =>
      exact { limited := known.limited.shrink shrinks
              nextSessionID := shrinks.nextSessionID.trans known.nextSessionID
              numbers := known.numbers
              owned := fun sessionID session found =>
                known.owned sessionID session (shrinks.lookup found)
              drawn := known.drawn
              callers := known.callers }
  | numbers =>
      have number : c.nextSessionID + 1 =
          first + UInt32.ofNat (ledger.numbered.length + 1) := by
        rw [known.nextSessionID, UInt32.add_assoc, UInt32.ofNat_add]
        rfl
      refine { limited := ⟨known.limited.total, known.limited.perPeer, known.limited.own⟩
               nextSessionID := ?_, numbers := ?_, owned := known.owned, drawn := ?_
               callers := ?_ }
      · rw [List.length_append]
        exact number
      · rw [List.map_append, known.numbers, List.length_append, List.length_singleton,
          List.range_succ, List.map_append, number]
        rfl
      · exact fun sessionID self mine =>
          List.mem_append_left _ (known.drawn sessionID self mine)
      · intro entry member
        rw [List.mem_append, List.mem_singleton] at member
        rcases member with old | rfl
        · exact known.callers entry old
        · exact bound
  | @inserts session numbered room =>
      refine { limited := known.limited.add room (known.namespace numbered)
               nextSessionID := known.nextSessionID, numbers := known.numbers
               owned := fun sessionID other found => ?_, drawn := fun sessionID other mine => ?_
               callers := known.callers }
      · by_cases same : sessionID = session.id
        · subst same
          exact ⟨self, Function.update_self _ _ _⟩
        · have found : (c.sessions.insert session.id session).lookup sessionID = some other :=
            found
          rw [AList.lookup_insert_ne same] at found
          rcases known.owned sessionID other found with ⟨owner, mine⟩
          exact ⟨owner, (Function.update_of_ne same _ _).trans mine⟩
      · by_cases same : sessionID = session.id
        · subst same
          have mine : Function.update ledger.owner session.id (some self) session.id =
            some other := mine
          rw [Function.update_self, Option.some.injEq] at mine
          rw [← mine]
          exact numbered
        · have mine : Function.update ledger.owner session.id (some self) sessionID =
            some other := mine
          rw [Function.update_of_ne same] at mine
          exact known.drawn sessionID other mine

theorem Accounted.undisturbed {other : Nat} {request : ConnectRequest} {point : ConnectPoint}
    (known : Accounted other ledger c request point)
    (effect : LedgerEffect self c ledger moved later) (different : other ≠ self) :
    Accounted other later moved request point := by
  have kept : ∀ entry ∈ ledger.numbered, entry ∈ later.numbered := by
    cases effect with
    | shrinks | inserts => exact fun _ member => member
    | numbers => exact fun _ member => List.mem_append_left _ member
  have owners : ∀ one, later.owner one = some other → ledger.owner one = some other ∧
      ∀ session, moved.sessions.lookup one = some session →
        c.sessions.lookup one = some session := by
    intro one mine
    cases effect with
    | shrinks shrinks => exact ⟨mine, fun _ => shrinks.lookup⟩
    | numbers => exact ⟨mine, fun _ found => found⟩
    | @inserts session numbered room =>
        have mine : Function.update ledger.owner session.id (some self) one = some other := mine
        by_cases same : one = session.id
        · subst same
          rw [Function.update_self, Option.some.injEq] at mine
          exact absurd mine.symm different
        · rw [Function.update_of_ne same] at mine
          refine ⟨mine, fun found there => ?_⟩
          have there : (c.sessions.insert session.id session).lookup one = some found := there
          rw [AList.lookup_insert_ne same] at there
          exact there
  have none : (∀ one, ledger.owner one ≠ some other) → ∀ one, later.owner one ≠ some other :=
    fun none one mine => none one (owners one mine).1
  have vacated : Vacated other ledger c → Vacated other later moved := by
    intro vacated one mine
    cases found : moved.sessions.lookup one with
    | none => rfl
    | some session =>
        have before := (owners one mine).2 session found
        rw [vacated one (owners one mine).1] at before
        cases before
  have inserted : ∀ sessionID, (∀ one, ledger.owner one = some other → one = sessionID ∧
      ∀ session, c.sessions.lookup one = some session →
        session.controllerID = request.controller.deviceID) →
      ∀ one, later.owner one = some other → one = sessionID ∧
        ∀ session, moved.sessions.lookup one = some session →
          session.controllerID = request.controller.deviceID := by
    intro sessionID holds one mine
    rcases owners one mine with ⟨before, there⟩
    exact ⟨(holds one before).1, fun session found =>
      (holds one before).2 session (there session found)⟩
  cases point with
  | start | lookup | authorize | number => exact none known
  | draw | insert => exact ⟨kept _ known.1, none known.2⟩
  | notify => exact inserted _ known
  | rollback sessionID at_ =>
      cases at_ with
      | lock => exact inserted _ known
      | notify | returned => exact vacated known
  | returned => exact fun failure => vacated (known failure)

def CallAccounted (self : Nat) (ledger : Ledger) (c : SessionCoordinator) : Call → Prop
  | .handleConnectRequest request point => Accounted self ledger c request point
  | _ => True

theorem CallAccounted.undisturbed {other : Nat} {call : Call}
    (known : CallAccounted other ledger c call)
    (effect : LedgerEffect self c ledger moved later) (different : other ≠ self) :
    CallAccounted other later moved call := by
  cases call with
  | handleConnectRequest request point => exact Accounted.undisturbed known effect different
  | _ => trivial

theorem ledgerStep_effect {netip : Netip} {choice : Choice} {state next : Hub × Ledger}
    {thread after : Call} (known : CallAccounted self state.2 state.1.coordinator thread)
    (taken : ledgerStep netip self state thread choice = some (next, after)) :
    LedgerEffect self state.1.coordinator state.2 next.1.coordinator next.2 ∧
      CallAccounted self next.2 next.1.coordinator after := by
  simp only [ledgerStep, Option.map_eq_some_iff] at taken
  rcases taken with ⟨⟨hub, call⟩, stepped, equal⟩
  cases equal
  cases thread with
  | registerPeer =>
      simp only [callStep] at stepped
      split at stepped <;> cases stepped
      exact ⟨.shrinks ⟨.refl _, rfl⟩, trivial⟩
  | unregisterPeer deviceID writer point =>
      simp only [callStep, Option.map_eq_some_iff] at stepped
      rcases stepped with ⟨step, planned, equal⟩
      cases equal
      have shrinks := planUnregisterPeer_shrinks planned
      refine ⟨?_, trivial⟩
      cases point <;> exact .shrinks shrinks
  | closeSession sessionID controllerID point =>
      simp only [callStep, Option.map_eq_some_iff] at stepped
      rcases stepped with ⟨step, planned, equal⟩
      cases equal
      exact ⟨.shrinks (planCloseSession_shrinks planned), trivial⟩
  | forwardCandidateExchange sessionID fromDeviceID toDeviceID candidates point =>
      simp only [callStep, Option.map_eq_some_iff] at stepped
      rcases stepped with ⟨step, planned, equal⟩
      cases equal
      have same : (state.1.after self step).coordinator = state.1.coordinator :=
        planForward_sessions planned
      rw [same]
      exact ⟨.shrinks (.refl _), trivial⟩
  | handleConnectRequest request point =>
      simp only [callStep, Option.map_eq_some_iff] at stepped
      rcases stepped with ⟨step, planned, equal⟩
      cases equal
      have same : ((state.1.after self step).insert self request point).coordinator =
          step.coordinator := (insert_coordinator _ _ _ _).1
      rw [same]
      exact ⟨planConnect_effect planned known, Accounted.step known planned⟩

def ledgerOutline (first : UInt32) : Program.Outline (Hub × Ledger) Call where
  global pool :=
    Ledgered first pool.threads.length pool.shared.1.coordinator pool.shared.2
  assertion self pool := CallAccounted self pool.shared.2 pool.shared.1.coordinator

theorem ledgerOutline_valid (netip : Netip) (first : UInt32) :
    (ledgerOutline first).Valid (ledgerProgram netip) Machine.Unrestricted where
  started pool thread holds enters _ := by
    have known : Ledgered first pool.threads.length pool.shared.1.coordinator pool.shared.2 :=
      holds.global
    refine ⟨{ known with callers := fun entry member => ?_ }, ?_⟩
    · have bound := known.callers entry member
      simp only [Pool.start, List.length_append, List.length_singleton]
      omega
    · cases thread with
      | handleConnectRequest request point =>
          cases point with
          | start =>
              intro sessionID mine
              have bound := known.callers _ (known.drawn sessionID _ mine)
              exact absurd bound (Nat.lt_irrefl _)
          | _ => cases enters
      | _ => trivial
  undisturbedByStart pool thread other bystander holds _ _ found :=
    holds.thread other bystander found
  sequential pool self thread choice shared next holds present _ taken := by
    rcases ledgerStep_effect (holds.thread self thread present) taken with ⟨effect, accounted⟩
    have bound := (List.getElem?_eq_some_iff.mp present).1
    refine ⟨?_, accounted⟩
    have known : Ledgered first pool.threads.length pool.shared.1.coordinator pool.shared.2 :=
      holds.global
    simp only [ledgerOutline, Pool.update_length]
    exact known.step effect bound
  interferenceFree pool self thread choice shared next other bystander holds present _ taken
      different found := by
    have effect := (ledgerStep_effect (holds.thread self thread present) taken).1
    exact (holds.thread other bystander found : CallAccounted _ _ _ _).undisturbed effect different

/-- In every run the session table keeps its limits, a session is under its own
number in the namespace of authenticated sessions, a request that fails leaves no
session of its own, and up to 2^31 numbers a request finds its place empty. -/
theorem sessions_within_limits {netip : Netip} {nanoseconds : UInt32} {authorizes : Bool}
    {events : List (PoolEvent Call Choice)} {pool : LedgerPool}
    (run : (ledgerProgram netip).machine.Run Machine.Unrestricted
      (initialLedgerPool nanoseconds authorizes) events pool) :
    pool.shared.1.coordinator.sessions.entries.length ≤ maxActiveSessions ∧
    (∀ deviceID, pool.shared.1.coordinator.sessions.entries.countP (fun entry =>
        entry.2.controllerID = deviceID ∨ entry.2.targetID = deviceID) ≤
      maxActiveSessionsPerPeer) ∧
    (∀ sessionID session, pool.shared.1.coordinator.sessions.lookup sessionID = some session →
      session.id = sessionID ∧ sessionID &&& 0x80000000 = 0x80000000) ∧
    (∀ self request result,
      pool.threads[self]? = some (.handleConnectRequest request (.returned result)) →
      failed result = true →
      ∀ sessionID, pool.shared.2.owner sessionID = some self →
        pool.shared.1.coordinator.sessions.lookup sessionID = none) ∧
    (pool.shared.2.numbered.length ≤ 2 ^ 31 →
      ∀ (self : Nat) request candidates target sessionID token,
        pool.threads[self]? =
          some (.handleConnectRequest request (.insert candidates target sessionID token)) →
        pool.shared.1.coordinator.sessions.lookup sessionID = none) := by
  have holds : (ledgerOutline (nanoseconds &&& 0x7fffffff)).Holds pool := by
    refine (ledgerOutline_valid netip _).run ⟨?_, fun self thread present => ?_⟩ run
    · exact { limited := ⟨Nat.zero_le _, fun _ => Nat.zero_le _, fun _ none => by cases none⟩
              nextSessionID := (UInt32.add_zero _).symm, numbers := rfl
              owned := fun _ _ none => (by cases none)
              drawn := fun _ _ none => (by cases none)
              callers := fun _ none => (by cases none) }
    · cases present
  have known : Ledgered (nanoseconds &&& 0x7fffffff) pool.threads.length
    pool.shared.1.coordinator pool.shared.2 := holds.global
  refine ⟨known.limited.total, fun deviceID => ?_, fun sessionID session found => ?_,
    fun self request result present failure => ?_,
    fun few self request candidates target sessionID token present => ?_⟩
  · have counted := known.limited.perPeer deviceID
    simpa [SessionCoordinator.sessionCount, List.countP_eq_length_filter] using counted
  · rw [← Option.mem_def, AList.mem_lookup_iff] at found
    exact known.limited.own _ found
  · have accounted : Accounted self pool.shared.2 pool.shared.1.coordinator request
        (.returned result) := holds.thread self _ present
    exact accounted failure
  · have accounted : Accounted self pool.shared.2 pool.shared.1.coordinator request
        (.insert candidates target sessionID token) := holds.thread self _ present
    cases found : pool.shared.1.coordinator.sessions.lookup sessionID with
    | none => rfl
    | some session =>
        rcases known.owned sessionID session found with ⟨owner, mine⟩
        have same : owner = self :=
          known.unique few (known.drawn sessionID owner mine) accounted.1
        subst same
        exact absurd mine (accounted.2 sessionID)

/-- A request whose notification is not delivered, beside one that is. -/
theorem sessions_within_limits_rolled_back :
    ∃ events pool, (ledgerProgram noAddresses).machine.Run Machine.Unrestricted
        (initialLedgerPool 0 true) events pool ∧
      pool.shared.2.owner 0x80000001 = some 1 ∧ pool.shared.2.owner 0x80000002 = some 2 ∧
      pool.shared.1.coordinator.sessions.lookup 0x80000001 = some sessionT ∧
      pool.shared.1.coordinator.sessions.lookup 0x80000002 = none := by
  have found := (ledgerProgram noAddresses).machine.exists_run Machine.Unrestricted
    (fun pool => pool.shared.2.owner 0x80000001 = some 1 ∧
      pool.shared.2.owner 0x80000002 = some 2 ∧
      pool.shared.1.coordinator.sessions.lookup 0x80000001 = some sessionT ∧
      pool.threads[2]? =
        some (.handleConnectRequest requestT (.returned (.error "notify target failed"))))
    (initialLedgerPool 0 true)
    (lookedUp ++ connected ++ [.spawn (.handleConnectRequest requestT .start),
      .advance 2 .proceed, .advance 2 .proceed, .advance 2 (.authorized true),
      .advance 2 .proceed, .advance 2 (.token [9]), .advance 2 .proceed, .advance 2 .fail,
      .advance 2 .proceed, .advance 2 .fail])
    (by decide +kernel)
  rcases found with ⟨pool, run, first, second, kept, returned⟩
  exact ⟨_, pool, run, first, second, kept,
    (sessions_within_limits run).2.2.2.1 2 requestT _ returned rfl 0x80000002 second⟩

end Rdpulse.Signaling
