import Rdpulse.Foundation.Tables
import Rdpulse.UDP.SessionManager

namespace Rdpulse.UDP

open Foundation Rdpulse.Path Protocol

/-! What the three maps of a session manager say together, and that each operation
keeps it. -/

namespace SessionManager

def live (m : SessionManager) (ip : Addr) : Nat :=
  m.byID.entries.countP fun entry =>
    (m.sessions[entry.2]?).any fun sess => sess.clientIP = some ip

def Live (m : SessionManager) (sess : Nat) : Prop :=
  ∃ id, m.byID.lookup id = some sess

end SessionManager

structure Representation (m : SessionManager) : Prop where
  byID : ∀ id sess, m.byID.lookup id = some sess →
    ∃ s, m.sessions[sess]? = some s ∧ s.id = id ∧ id ≠ 0 ∧
      (s.clientAddr.isValid = true → m.byKey.lookup s.key = some sess)
  byKey : ∀ key sess, m.byKey.lookup key = some sess →
    ∃ s, m.sessions[sess]? = some s ∧ s.key = key ∧ m.byID.lookup s.id = some sess
  sessionsPerIP : ∀ ip, m.sessionsPerIP.lookup ip =
    if m.live ip = 0 then none else some (m.live ip : Int)
  maxSessions : (m.byID.entries.length : Int) ≤ m.limits.maxSessions
  maxSessionsPerIP : ∀ ip, (m.live ip : Int) ≤ m.limits.maxSessionsPerIP
  closed : m.closed = true → m.byID = ∅ ∧ m.byKey = ∅ ∧ m.sessionsPerIP = ∅
  /-- Only valid addresses have been asked for. -/
  valid : ∀ key sess, m.byKey.lookup key = some sess → key.clientAddr.isValid = true

variable {m : SessionManager}

theorem representation_new (idleTimeout : Int) (limits : SessionLimits) :
    Representation (newSessionManagerWithLimits idleTimeout limits) where
  byID id sess found := by simp [newSessionManagerWithLimits] at found
  byKey key sess found := by simp [newSessionManagerWithLimits] at found
  sessionsPerIP ip := by simp [newSessionManagerWithLimits, SessionManager.live]
  maxSessions := by
    simp only [newSessionManagerWithLimits, AList.empty_entries, List.length_nil]
    split <;> omega
  maxSessionsPerIP ip := by
    simp only [newSessionManagerWithLimits, SessionManager.live, AList.empty_entries,
      List.countP_nil]
    split <;> omega
  closed closed := by cases closed
  valid key sess found := by simp [newSessionManagerWithLimits] at found

/-! ## Changes that the maps do not see -/

def UDPSession.identity (s : UDPSession) : UInt32 × SessionKey := (s.id, s.key)

theorem live_congr {before after : SessionManager} (byID : after.byID = before.byID)
    (same : ∀ sess : Nat, (after.sessions[sess]?).map UDPSession.identity =
      (before.sessions[sess]?).map UDPSession.identity) (ip : Addr) :
    after.live ip = before.live ip := by
  have through : ∀ (s : Option UDPSession), s.any (fun s => decide (s.clientIP = some ip)) =
      (s.map UDPSession.identity).any
        fun i => decide (i.2.clientAddr.addr.map Addr.unmap = some ip) := by
    intro s
    cases s <;> rfl
  simp only [SessionManager.live, byID, through, same]

theorem Representation.congr {before after : SessionManager} (holds : Representation before)
    (byID : after.byID = before.byID) (byKey : after.byKey = before.byKey)
    (perIP : after.sessionsPerIP = before.sessionsPerIP) (limits : after.limits = before.limits)
    (closed : after.closed = before.closed)
    (same : ∀ sess : Nat, (after.sessions[sess]?).map UDPSession.identity =
      (before.sessions[sess]?).map UDPSession.identity) : Representation after where
  byID id sess found := by
    rw [byID] at found
    rcases holds.byID id sess found with ⟨s, present, ident, nonzero, keyed⟩
    have kept := same sess
    rw [present, Option.map_some, Option.map_eq_some_iff] at kept
    rcases kept with ⟨t, there, equal⟩
    simp only [UDPSession.identity, Prod.mk.injEq] at equal
    refine ⟨t, there, equal.1.trans ident, nonzero, fun valid => ?_⟩
    have client : t.clientAddr = s.clientAddr := congrArg SessionKey.clientAddr equal.2
    rw [byKey, equal.2]
    exact keyed (client ▸ valid)
  byKey key sess found := by
    rw [byKey] at found
    rcases holds.byKey key sess found with ⟨s, present, keyed, live⟩
    have kept := same sess
    rw [present, Option.map_some, Option.map_eq_some_iff] at kept
    rcases kept with ⟨t, there, equal⟩
    simp only [UDPSession.identity, Prod.mk.injEq] at equal
    exact ⟨t, there, equal.2.trans keyed, by rw [byID, equal.1]; exact live⟩
  sessionsPerIP ip := by
    rw [perIP, live_congr byID same]
    exact holds.sessionsPerIP ip
  maxSessions := by
    rw [byID, limits]
    exact holds.maxSessions
  maxSessionsPerIP ip := by
    rw [limits, live_congr byID same]
    exact holds.maxSessionsPerIP ip
  closed shut := by
    rw [closed] at shut
    rw [byID, byKey, perIP]
    exact holds.closed shut
  valid key sess found := by
    rw [byKey] at found
    exact holds.valid key sess found

theorem Representation.updateSession (holds : Representation m) (sess : Nat)
    {change : UDPSession → UDPSession} (keeps : ∀ s, (change s).identity = s.identity) :
    Representation (m.updateSession sess change) := by
  refine holds.congr rfl rfl rfl rfl rfl fun other => ?_
  simp only [SessionManager.updateSession, List.getElem?_modify]
  cases m.sessions[other]? with
  | none => rfl
  | some s => by_cases same : sess = other <;> simp [same, keeps]

theorem allowCreateLocked_eq (m : SessionManager) (now : Int) :
    ∃ start count, (m.allowCreateLocked now).2 =
      { m with rateWindowStart := start, rateWindowCount := count } := by
  simp only [SessionManager.allowCreateLocked]
  split_ifs <;> exact ⟨_, _, rfl⟩

theorem Representation.rate (holds : Representation m) (start : Option Int) (count : Int) :
    Representation { m with rateWindowStart := start, rateWindowCount := count } :=
  holds.congr rfl rfl rfl rfl rfl fun _ => rfl

/-! ## Creation -/

theorem Representation.bound (holds : Representation m) {id : UInt32} {sess : Nat}
    (found : m.byID.lookup id = some sess) : sess < m.sessions.length := by
  rcases holds.byID id sess found with ⟨s, present, _⟩
  exact (List.getElem?_eq_some_iff.mp present).1

theorem mem_entries_lookup {entry : Sigma fun _ : UInt32 => Nat} (m : SessionManager)
    (member : entry ∈ m.byID.entries) : m.byID.lookup entry.1 = some entry.2 :=
  AList.mem_lookup_iff.mpr member

theorem live_insert (holds : Representation m) {id : UInt32} (fresh : m.byID.lookup id = none)
    (s : UDPSession) {next : SessionManager}
    (byID : next.byID = m.byID.insert id m.sessions.length)
    (sessions : next.sessions = m.sessions ++ [s]) (ip : Addr) :
    next.live ip = m.live ip + if s.clientIP = some ip then 1 else 0 := by
  simp only [SessionManager.live, byID, sessions,
    AList.entries_insert_of_notMem (AList.lookup_eq_none.mp fresh), List.countP_cons]
  have old : ∀ entry ∈ m.byID.entries,
      (((m.sessions ++ [s])[entry.2]?).any fun s => decide (s.clientIP = some ip)) =
        ((m.sessions[entry.2]?).any fun s => decide (s.clientIP = some ip)) := by
    intro entry member
    rw [List.getElem?_append_left (holds.bound (mem_entries_lookup m member))]
  rw [List.countP_congr fun entry member => by rw [old entry member]]
  simp

theorem Representation.create (holds : Representation m) {key : SessionKey} {id : UInt32}
    (seen : Int) (unknown : m.byKey.lookup key = none) (fresh : m.byID.lookup id = none)
    (nonzero : id ≠ 0) (running : m.closed = false)
    (room : (m.byID.entries.length : Int) < m.limits.maxSessions) {addr : Addr}
    (client : key.clientAddr.addr = some addr)
    (few : (m.sessionsPerIP.lookup addr.unmap).getD 0 < m.limits.maxSessionsPerIP) :
    Representation (m.create key id seen) := by
  have counts : ∀ ip, (m.create key id seen).live ip =
      m.live ip + if addr.unmap = ip then 1 else 0 := by
    intro ip
    rw [live_insert holds fresh _ rfl rfl]
    simp [UDPSession.clientIP, client]
  have before := holds.sessionsPerIP addr.unmap
  have current : (m.sessionsPerIP.lookup addr.unmap).getD 0 = (m.live addr.unmap : Int) := by
    rw [before]
    split
    · simp_all
    · rfl
  have perIP : (m.create key id seen).sessionsPerIP =
      m.sessionsPerIP.insert addr.unmap ((m.sessionsPerIP.lookup addr.unmap).getD 0 + 1) := by
    simp [SessionManager.create, UDPSession.clientIP, client]
  constructor
  case byID =>
    intro id' sess found
    by_cases same : id' = id
    · subst same
      simp only [SessionManager.create, AList.lookup_insert, Option.some.injEq] at found
      subst found
      exact ⟨_, List.getElem?_concat_length, rfl, nonzero, fun _ => AList.lookup_insert _⟩
    · simp only [SessionManager.create, AList.lookup_insert_ne same] at found
      rcases holds.byID id' sess found with ⟨s, present, named, notZero, keyed⟩
      refine ⟨s, ?_, named, notZero, fun valid => ?_⟩
      · simpa [SessionManager.create, List.getElem?_append_left (holds.bound found)] using present
      · have other : s.key ≠ key := by
          intro equal
          rw [← equal, keyed valid] at unknown
          cases unknown
        simp only [SessionManager.create, AList.lookup_insert_ne other]
        exact keyed valid
  case byKey =>
    intro key' sess found
    by_cases same : key' = key
    · subst same
      simp only [SessionManager.create, AList.lookup_insert, Option.some.injEq] at found
      subst found
      exact ⟨_, List.getElem?_concat_length, rfl, AList.lookup_insert _⟩
    · simp only [SessionManager.create, AList.lookup_insert_ne same] at found
      rcases holds.byKey key' sess found with ⟨s, present, keyed, live⟩
      refine ⟨s, ?_, keyed, ?_⟩
      · simpa [SessionManager.create, List.getElem?_append_left (holds.bound live)] using present
      · have other : s.id ≠ id := by
          intro equal
          rw [← equal, live] at fresh
          cases fresh
        simp only [SessionManager.create, AList.lookup_insert_ne other]
        exact live
  case sessionsPerIP =>
    intro ip
    rw [perIP, counts]
    by_cases same : ip = addr.unmap
    · subst same
      rw [AList.lookup_insert, current]
      simp
    · rw [AList.lookup_insert_ne same, holds.sessionsPerIP, if_neg (Ne.symm same)]
      simp
  case maxSessions =>
    simp only [SessionManager.create,
      AList.entries_insert_of_notMem (AList.lookup_eq_none.mp fresh), List.length_cons]
    omega
  case maxSessionsPerIP =>
    intro ip
    have bound := holds.maxSessionsPerIP ip
    rw [counts]
    simp only [SessionManager.create]
    split
    · rename_i same
      subst same
      omega
    · simpa using bound
  case closed =>
    intro closed
    rw [show (m.create key id seen).closed = m.closed from rfl, running] at closed
    cases closed
  case valid =>
    intro key' sess found
    by_cases same : key' = key
    · subst same
      simp [ClientAddr.isValid, client]
    · simp only [SessionManager.create, AList.lookup_insert_ne same] at found
      exact holds.valid key' sess found

theorem Representation.add (holds : Representation m) {id : UInt32} (conn : Option Nat)
    (seen : Int) (fresh : m.byID.lookup id = none) (nonzero : id ≠ 0)
    (running : m.closed = false)
    (room : (m.byID.entries.length : Int) < m.limits.maxSessions) :
    Representation { m with
      sessions := m.sessions ++ [{ id, conn, lastSeen := seen }]
      byID := m.byID.insert id m.sessions.length } := by
  have counts : ∀ ip, ({ m with
      sessions := m.sessions ++ [{ id, conn, lastSeen := seen }]
      byID := m.byID.insert id m.sessions.length } : SessionManager).live ip = m.live ip := by
    intro ip
    rw [live_insert holds fresh _ rfl rfl]
    simp [UDPSession.clientIP]
  constructor
  case byID =>
    intro id' sess found
    by_cases same : id' = id
    · subst same
      simp only [AList.lookup_insert, Option.some.injEq] at found
      subst found
      exact ⟨_, List.getElem?_concat_length, rfl, nonzero, fun valid => by cases valid⟩
    · simp only [AList.lookup_insert_ne same] at found
      rcases holds.byID id' sess found with ⟨s, present, named, notZero, keyed⟩
      refine ⟨s, ?_, named, notZero, keyed⟩
      simpa [List.getElem?_append_left (holds.bound found)] using present
  case byKey =>
    intro key sess found
    rcases holds.byKey key sess found with ⟨s, present, keyed, live⟩
    refine ⟨s, ?_, keyed, ?_⟩
    · simpa [List.getElem?_append_left (holds.bound live)] using present
    · have other : s.id ≠ id := by
        intro equal
        rw [← equal, live] at fresh
        cases fresh
      rw [AList.lookup_insert_ne other]
      exact live
  case sessionsPerIP =>
    intro ip
    rw [counts]
    exact holds.sessionsPerIP ip
  case maxSessions =>
    simp only [AList.entries_insert_of_notMem (AList.lookup_eq_none.mp fresh), List.length_cons]
    omega
  case maxSessionsPerIP =>
    intro ip
    rw [counts]
    exact holds.maxSessionsPerIP ip
  case closed =>
    intro closed
    rw [running] at closed
    cases closed
  case valid => exact holds.valid

/-! ## Removal -/

theorem erase_entries {id : UInt32} {sess : Nat} (found : m.byID.lookup id = some sess) :
    m.byID.entries.Perm (⟨id, sess⟩ :: (m.byID.erase id).entries) :=
  Table.perm_cons_erase found

theorem live_erase {id : UInt32} {sess : Nat} (found : m.byID.lookup id = some sess)
    {s : UDPSession} (present : m.sessions[sess]? = some s) {next : SessionManager}
    (byID : next.byID = m.byID.erase id) (sessions : next.sessions = m.sessions) (ip : Addr) :
    m.live ip = next.live ip + if s.clientIP = some ip then 1 else 0 := by
  simp only [SessionManager.live, byID, sessions]
  rw [(erase_entries found).countP_eq, List.countP_cons, present]
  simp

theorem detach_eq {id : UInt32} {sess : Nat} (found : m.byID.lookup id = some sess)
    {s : UDPSession} (present : m.sessions[sess]? = some s) :
    (m.detach id).1 = some sess ∧ (m.detach id).2.byID = m.byID.erase id ∧
      (m.detach id).2.byKey = m.byKey.erase s.key ∧ (m.detach id).2.sessions = m.sessions ∧
      (m.detach id).2.limits = m.limits ∧ (m.detach id).2.closed = m.closed ∧
      (m.detach id).2.sessionsPerIP =
        SessionManager.releaseIP m.sessionsPerIP s.clientIP := by
  simp [SessionManager.detach, found, present]

theorem detach_none {id : UInt32} (absent : m.byID.lookup id = none) :
    m.detach id = (none, m) := by
  simp [SessionManager.detach, absent]

theorem Representation.detach (holds : Representation m) (id : UInt32) :
    Representation (m.detach id).2 := by
  cases found : m.byID.lookup id with
  | none =>
      rw [detach_none found]
      exact holds
  | some sess =>
      rcases holds.byID id sess found with ⟨s, present, named, nonzero, keyed⟩
      rcases detach_eq found present with ⟨_, byID, byKey, sessions, limits, closed, perIP⟩
      have counts := live_erase found present byID sessions
      generalize (m.detach id).2 = next at *
      constructor
      case byID =>
        intro other sess' there
        rw [byID] at there
        by_cases same : other = id
        · rw [same, AList.lookup_erase] at there
          cases there
        · rw [AList.lookup_erase_ne same] at there
          rcases holds.byID other sess' there with ⟨t, present', named', nonzero', keyed'⟩
          refine ⟨t, sessions ▸ present', named', nonzero', fun valid => ?_⟩
          have apart : t.key ≠ s.key := by
            intro equal
            have client : t.clientAddr = s.clientAddr := congrArg SessionKey.clientAddr equal
            have owner := keyed' valid
            rw [equal, keyed (client ▸ valid), Option.some.injEq] at owner
            rw [← owner, present, Option.some.injEq] at present'
            exact same (by rw [← named', ← present', named])
          rw [byKey, AList.lookup_erase_ne apart]
          exact keyed' valid
      case byKey =>
        intro key sess' there
        rw [byKey] at there
        by_cases same : key = s.key
        · rw [same, AList.lookup_erase] at there
          cases there
        · rw [AList.lookup_erase_ne same] at there
          rcases holds.byKey key sess' there with ⟨t, present', keyed', live⟩
          refine ⟨t, sessions ▸ present', keyed', ?_⟩
          have apart : t.id ≠ id := by
            intro equal
            rw [equal, found, Option.some.injEq] at live
            rw [← live, present, Option.some.injEq] at present'
            exact same (by rw [← keyed', ← present'])
          rw [byID, AList.lookup_erase_ne apart]
          exact live
      case sessionsPerIP =>
        intro ip
        have before := holds.sessionsPerIP ip
        have count := counts ip
        rw [perIP]
        cases client : s.clientIP with
        | none =>
            rw [client, if_neg (by simp)] at count
            rw [SessionManager.releaseIP, before, count]
            simp
        | some own =>
            simp only [client, Option.some.injEq] at count
            simp only [SessionManager.releaseIP]
            by_cases same : own = ip
            · subst same
              rw [if_pos rfl] at count
              have current : (m.sessionsPerIP.lookup own).getD 0 = (next.live own : Int) + 1 := by
                rw [before, count, if_neg (by omega)]
                rfl
              rw [current]
              split
              · rw [AList.lookup_insert, if_neg (by omega)]
                simp
              · rw [AList.lookup_erase, if_pos (by omega)]
            · rw [if_neg same] at count
              have apart := Ne.symm same
              split
              · rw [AList.lookup_insert_ne apart, before, count]
                simp
              · rw [AList.lookup_erase_ne apart, before, count]
                simp
      case maxSessions =>
        have size := (erase_entries found).length_eq
        have bound := holds.maxSessions
        rw [List.length_cons] at size
        rw [byID, limits]
        omega
      case maxSessionsPerIP =>
        intro ip
        have bound := holds.maxSessionsPerIP ip
        have count := counts ip
        rw [limits]
        omega
      case closed =>
        intro shut
        rw [closed] at shut
        rw [(holds.closed shut).1, AList.lookup_empty] at found
        cases found
      case valid =>
        intro key sess' there
        rw [byKey] at there
        by_cases same : key = s.key
        · rw [same, AList.lookup_erase] at there
          cases there
        · rw [AList.lookup_erase_ne same] at there
          exact holds.valid key sess' there

theorem Representation.detachAll (holds : Representation m) : Representation m.detachAll.2 := by
  simp only [SessionManager.detachAll]
  split
  · exact holds
  · have bound := holds.maxSessions
    have perIP := holds.maxSessionsPerIP
    constructor
    case byID => intro id sess found; simp at found
    case byKey => intro key sess found; simp at found
    case sessionsPerIP => intro ip; simp [SessionManager.live]
    case maxSessions =>
      simp only [AList.empty_entries, List.length_nil]
      omega
    case maxSessionsPerIP =>
      intro ip
      have bound := perIP ip
      simp only [SessionManager.live, AList.empty_entries, List.countP_nil]
      omega
    case closed => exact fun _ => ⟨rfl, rfl, rfl⟩
    case valid => intro key sess found; simp at found

/-! ## The operations -/

theorem drawID_fresh {draws : List (Option UInt32)} {id : UInt32}
    (drawn : m.drawID draws = some (some id)) :
    id ≠ 0 ∧ m.byID.lookup id = none ∧ ∃ value, id = value &&& 0x7fffffff := by
  induction draws with
  | nil => cases drawn
  | cons draw rest induction =>
      cases draw with
      | none => cases drawn
      | some value =>
          simp only [SessionManager.drawID] at drawn
          split at drawn
          · rename_i usable
            simp only [Option.some.injEq] at drawn
            subst drawn
            exact ⟨usable.1, usable.2, value, rfl⟩
          · exact induction drawn

theorem Representation.updateActivity (holds : Representation m) (sess : Nat) (now : Int) :
    Representation (m.updateActivity sess now) :=
  holds.updateSession sess fun _ => rfl

theorem getOrCreateByKey_cases {key : SessionKey} {now seen : Int}
    {draws : List (Option UInt32)} {answer : Option Nat × Bool} {next : SessionManager}
    (result : m.getOrCreateByKey key now seen draws = some (answer, next)) :
    (∃ sess, m.byKey.lookup key = some sess ∧ answer = (some sess, false) ∧
      next = m.updateActivity sess seen) ∨
    (∃ start count, answer = (none, false) ∧
      next = { m with rateWindowStart := start, rateWindowCount := count }) ∨
    (∃ start count id, answer = (some m.sessions.length, true) ∧
      next = ({ m with rateWindowStart := start, rateWindowCount := count }
        : SessionManager).create key id seen ∧
      m.byKey.lookup key = none ∧ m.byID.lookup id = none ∧ id ≠ 0 ∧
      (∃ value, id = value &&& 0x7fffffff) ∧ m.closed = false ∧
      (m.byID.entries.length : Int) < m.limits.maxSessions ∧
      ∀ addr, key.clientAddr.addr = some addr →
        (m.sessionsPerIP.lookup addr.unmap).getD 0 < m.limits.maxSessionsPerIP) := by
  rcases allowCreateLocked_eq m now with ⟨start, count, rate⟩
  simp only [SessionManager.getOrCreateByKey] at result
  cases found : m.byKey.lookup key with
  | some sess =>
      simp only [found, Option.some.injEq, Prod.mk.injEq] at result
      exact .inl ⟨sess, rfl, result.1.symm, result.2.symm⟩
  | none =>
      simp only [found] at result
      split at result
      · cases result
        exact .inr (.inl ⟨_, _, rfl, rfl⟩)
      rename_i open'
      split at result
      · cases result
        exact .inr (.inl ⟨_, _, rfl, rfl⟩)
      rename_i few
      simp only [Bool.or_eq_true, decide_eq_true_eq, not_or, Bool.not_eq_true, not_le] at open'
      cases allowed : m.allowCreateLocked now with
      | mk allow middle =>
          rw [allowed] at rate
          dsimp only at rate
          subst rate
          cases allow with
          | false =>
              simp only [allowed, Option.some.injEq, Prod.mk.injEq] at result
              exact .inr (.inl ⟨start, count, result.1.symm, result.2.symm⟩)
          | true =>
              simp only [allowed] at result
              split at result
              · cases result
              · cases result
                exact .inr (.inl ⟨start, count, rfl, rfl⟩)
              · rename_i id drawn
                cases result
                rcases drawID_fresh drawn with ⟨nonzero, fresh, masked⟩
                refine .inr (.inr ⟨start, count, id, rfl, rfl, rfl, fresh, nonzero, masked,
                  open'.1, open'.2, fun addr client => ?_⟩)
                simpa [client] using few

theorem Representation.getOrCreateByKey (holds : Representation m) {key : SessionKey}
    (valid : key.clientAddr.isValid = true) {now seen : Int} {draws : List (Option UInt32)}
    {answer : Option Nat × Bool} {next : SessionManager}
    (result : m.getOrCreateByKey key now seen draws = some (answer, next)) :
    Representation next := by
  rcases getOrCreateByKey_cases result with
    ⟨sess, _, _, rfl⟩ | ⟨start, count, _, rfl⟩ |
    ⟨start, count, id, _, rfl, unknown, fresh, nonzero, _, running, room, few⟩
  · exact holds.updateActivity sess seen
  · exact holds.rate start count
  · rcases Option.isSome_iff_exists.mp valid with ⟨addr, client⟩
    exact (holds.rate start count).create seen unknown fresh nonzero running room client
      (few addr client)

theorem addSessionWithID_cases (m : SessionManager) (id : UInt32) (conn : Option Nat)
    (now seen : Int) :
    (∃ sess, m.byID.lookup id = some sess ∧
      m.addSessionWithID id conn now seen = (some sess, m.updateActivity sess seen)) ∨
    (∃ start count, m.addSessionWithID id conn now seen =
      (none, { m with rateWindowStart := start, rateWindowCount := count })) ∨
    (∃ start count, m.byID.lookup id = none ∧ id ≠ 0 ∧ m.closed = false ∧
      (m.byID.entries.length : Int) < m.limits.maxSessions ∧
      m.addSessionWithID id conn now seen =
        (some m.sessions.length,
          { m with
            rateWindowStart := start
            rateWindowCount := count
            sessions := m.sessions ++ [{ id, conn, lastSeen := seen }]
            byID := m.byID.insert id m.sessions.length })) := by
  rcases allowCreateLocked_eq m now with ⟨start, count, rate⟩
  simp only [SessionManager.addSessionWithID]
  cases found : m.byID.lookup id with
  | some sess => exact .inl ⟨sess, rfl, rfl⟩
  | none =>
      dsimp only
      split
      · exact .inr (.inl ⟨m.rateWindowStart, m.rateWindowCount, rfl⟩)
      rename_i free
      simp only [Bool.or_eq_true, decide_eq_true_eq, not_or, Bool.not_eq_true, not_le] at free
      cases allowed : m.allowCreateLocked now with
      | mk allow middle =>
          rw [allowed] at rate
          dsimp only at rate
          subst rate
          cases allow with
          | false => exact .inr (.inl ⟨start, count, rfl⟩)
          | true =>
              exact .inr (.inr ⟨start, count, rfl, free.1.1, free.1.2, free.2, rfl⟩)

theorem Representation.addSessionWithID (holds : Representation m) (id : UInt32)
    (conn : Option Nat) (now seen : Int) :
    Representation (m.addSessionWithID id conn now seen).2 := by
  rcases addSessionWithID_cases m id conn now seen with
    ⟨sess, _, equal⟩ | ⟨start, count, equal⟩ |
    ⟨start, count, fresh, nonzero, running, room, equal⟩ <;> rw [equal]
  · exact holds.updateActivity sess seen
  · exact holds.rate start count
  · exact (holds.rate start count).add conn seen fresh nonzero running room

/-! ## Ids and sessions over the operations -/

/-- Drawn ids leave the top bit to the ids of controllers. -/
def SessionManager.Masked (m : SessionManager) : Prop :=
  ∀ id sess, m.byID.lookup id = some sess → id &&& 0x80000000 = 0

def Remembers (m m' : SessionManager) : Prop :=
  ∀ (sess : Nat) (s : UDPSession), m.sessions[sess]? = some s →
    ∃ s', m'.sessions[sess]? = some s' ∧ s'.identity = s.identity

theorem remembers_of_eq {m' : SessionManager} (same : m'.sessions = m.sessions) : Remembers m m' :=
  fun _ s present => ⟨s, same ▸ present, rfl⟩

theorem remembers_update (m : SessionManager) (changed : Nat) {change : UDPSession → UDPSession}
    (keeps : ∀ s, (change s).identity = s.identity) :
    Remembers m (m.updateSession changed change) := by
  intro sess s present
  simp only [SessionManager.updateSession, List.getElem?_modify, present]
  by_cases same : changed = sess
  · exact ⟨change s, by simp [same], keeps s⟩
  · exact ⟨s, by simp [same], rfl⟩

theorem mask_clear (value : UInt32) : value &&& 0x7fffffff &&& 0x80000000 = 0 := by
  have apart : (0x7fffffff : UInt32) &&& 0x80000000 = 0 := by decide
  rw [UInt32.and_assoc, apart, UInt32.and_zero]

theorem SessionManager.Masked.getOrCreateByKey (masked : m.Masked) {key : SessionKey}
    {now seen : Int} {draws : List (Option UInt32)} {answer : Option Nat × Bool}
    {next : SessionManager}
    (result : m.getOrCreateByKey key now seen draws = some (answer, next)) :
    next.Masked ∧ Remembers m next := by
  rcases getOrCreateByKey_cases result with
    ⟨sess, _, _, rfl⟩ | ⟨start, count, _, rfl⟩ |
    ⟨start, count, id, _, rfl, _, _, _, ⟨value, rfl⟩, _⟩
  · exact ⟨masked, remembers_update m sess fun _ => rfl⟩
  · exact ⟨masked, remembers_of_eq rfl⟩
  · refine ⟨fun other sess found => ?_, fun _ s present => ⟨s, ?_, rfl⟩⟩
    · by_cases same : other = value &&& 0x7fffffff
      · rw [same]
        exact mask_clear value
      · simp only [SessionManager.create, AList.lookup_insert_ne same] at found
        exact masked other sess found
    · simp only [SessionManager.create]
      rw [List.getElem?_append_left (List.getElem?_eq_some_iff.mp present).1]
      exact present

theorem SessionManager.Masked.detach (masked : m.Masked) (id : UInt32) :
    (m.detach id).2.Masked ∧ Remembers m (m.detach id).2 := by
  simp only [SessionManager.detach]
  split
  · exact ⟨masked, remembers_of_eq rfl⟩
  split
  · exact ⟨masked, remembers_of_eq rfl⟩
  · refine ⟨fun other sess found => ?_, remembers_of_eq rfl⟩
    by_cases same : other = id
    · rw [same, AList.lookup_erase] at found
      cases found
    · rw [AList.lookup_erase_ne same] at found
      exact masked other sess found

theorem SessionManager.Masked.detachAll (masked : m.Masked) :
    m.detachAll.2.Masked ∧ Remembers m m.detachAll.2 := by
  simp only [SessionManager.detachAll]
  split
  · exact ⟨masked, remembers_of_eq rfl⟩
  · exact ⟨fun id sess found => by simp at found, remembers_of_eq rfl⟩

end Rdpulse.UDP
