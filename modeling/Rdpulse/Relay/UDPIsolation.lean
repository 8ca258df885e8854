import Rdpulse.Relay.AgentDatagrams

namespace Rdpulse.Relay.AgentDatagrams

open Foundation Protocol UDP
open Rdpulse.Path (AddrPort)

/-! Datagrams stay with the session whose id they carry. -/

/-- The session id that the Relay has given to the controller with this transport. -/
def Owns (pool : RelayPool) (tr : Nat) (sessionID : UInt32) : Prop :=
  ∃ registered loop, pool.threads[tr]? = some (.controller sessionID registered loop)

def Carries (datagram : Bytes) (sessionID : UInt32) : Prop :=
  ∃ hdr payload, decodeUDP datagram = .ok (hdr, payload) ∧ hdr.sessionID = sessionID

def FromAgent (state : AgentState) (sessionID : UInt32) (part : Bytes) : Prop :=
  ∃ datagram ∈ state.fromAgent, ∃ hdr, decodeUDP datagram = .ok (hdr, part) ∧
    hdr.sessionID = sessionID

/-- A packet went to the client of the session whose id its fragments carried. -/
def Delivered (state : AgentState) (forwarded : Forwarded) : Prop :=
  ∃ s, state.sessions.sessions[forwarded.sess]? = some s ∧ s.id = forwarded.sessionID ∧
    s.clientAddr = forwarded.clientAddr ∧ MadeOf (FromAgent state s.id) forwarded.packet

structure StateSound (state : AgentState) : Prop where
  representation : Representation state.sessions
  masked : state.sessions.Masked
  drawn : state.reassembler.Drawn (FromAgent state)
  clients : ∀ forwarded ∈ state.toClients, Delivered state forwarded

structure Extends (state next : AgentState) : Prop where
  sessions : UDP.Remembers state.sessions next.sessions
  fromAgent : ∀ datagram ∈ state.fromAgent, datagram ∈ next.fromAgent

structure Sound (pool : RelayPool) : Prop where
  state : StateSound pool.shared
  routes : ∀ sessionID tr, pool.shared.controllerRoutes.lookup sessionID = some tr →
    sessionID &&& 0x80000000 ≠ 0 ∧
      ∃ loop, pool.threads[tr]? = some (.controller sessionID true loop)
  controllers : ∀ tr datagram, (tr, datagram) ∈ pool.shared.toControllers →
    ∃ sessionID, Owns pool tr sessionID ∧ Carries datagram sessionID
  agent : ∀ tr datagram, (.controller tr, datagram) ∈ pool.shared.toAgent →
    ∃ sessionID, Owns pool tr sessionID ∧ Carries datagram sessionID

def Creates : SessionThread → Prop
  | .getOrCreateByKey _ | .addSessionWithID _ _ => True
  | _ => False

def Knows (owns : Nat → UInt32 → Prop) (state : AgentState) : RelayThread → Prop
  | .routing hdr payload datagram =>
      decodeUDP datagram = .ok (hdr, payload) ∧ datagram ∈ state.fromAgent
  | .toController tr datagram => ∃ sessionID, owns tr sessionID ∧ Carries datagram sessionID
  | .assembling hdr payload => FromAgent state hdr.sessionID payload
  | .lookup sessionID assembled => MadeOf (FromAgent state sessionID) assembled
  | .writing sess sessionID assembled =>
      MadeOf (FromAgent state sessionID) assembled ∧
        ∃ s, state.sessions.sessions[sess]? = some s ∧ s.id = sessionID
  | .sessions thread => ¬Creates thread
  | .issued sessionID => sessionID &&& 0x80000000 ≠ 0
  | .controller sessionID _ loop =>
      sessionID &&& 0x80000000 ≠ 0 ∧
        ∀ datagram, loop = .holding datagram → Carries datagram sessionID
  | _ => True

variable {pool : RelayPool} {state next : AgentState}

theorem extends_refl (state : AgentState) : Extends state state :=
  ⟨remembers_of_eq rfl, fun _ => id⟩

theorem Extends.source (extended : Extends state next) {sessionID : UInt32} {part : Bytes}
    (sent : FromAgent state sessionID part) : FromAgent next sessionID part := by
  rcases sent with ⟨datagram, member, carried⟩
  exact ⟨datagram, extended.fromAgent datagram member, carried⟩

theorem Extends.delivered (extended : Extends state next) {forwarded : Forwarded}
    (delivered : Delivered state forwarded) : Delivered next forwarded := by
  rcases delivered with ⟨s, present, named, client, made⟩
  rcases extended.sessions _ s present with ⟨kept, there, same⟩
  simp only [UDPSession.identity, Prod.mk.injEq] at same
  refine ⟨kept, there, same.1.trans named, ?_, ?_⟩
  · exact (congrArg SessionKey.clientAddr same.2).trans client
  · rw [same.1]
    exact madeOf_mono (fun _ => extended.source) made

theorem Knows.mono {owns wider : Nat → UInt32 → Prop} {thread : RelayThread}
    (knows : Knows owns state thread) (extended : Extends state next)
    (implies : ∀ tr sessionID, owns tr sessionID → wider tr sessionID) :
    Knows wider next thread := by
  cases thread with
  | routing hdr payload datagram => exact ⟨knows.1, extended.fromAgent datagram knows.2⟩
  | toController tr datagram =>
      rcases knows with ⟨sessionID, owned, carries⟩
      exact ⟨sessionID, implies tr sessionID owned, carries⟩
  | assembling hdr payload => exact extended.source knows
  | lookup sessionID assembled => exact madeOf_mono (fun _ => extended.source) knows
  | writing sess sessionID assembled =>
      rcases knows with ⟨made, s, present, named⟩
      rcases extended.sessions sess s present with ⟨kept, there, same⟩
      exact ⟨madeOf_mono (fun _ => extended.source) made, kept, there,
        (congrArg Prod.fst same).trans named⟩
  | sessions _ | issued _ | controller _ _ _ => exact knows
  | _ => trivial

/-! ## The state -/

theorem StateSound.change (sound : StateSound state) (extended : Extends state next)
    (representation : Representation next.sessions) (masked : next.sessions.Masked)
    (drawn : next.reassembler.Drawn (FromAgent next))
    (clients : next.toClients = state.toClients) : StateSound next where
  representation := representation
  masked := masked
  drawn := drawn
  clients forwarded member :=
    extended.delivered (sound.clients forwarded (clients ▸ member))

theorem StateSound.same (sound : StateSound state) (next : AgentState)
    (sessions : next.sessions = state.sessions)
    (reassembler : next.reassembler = state.reassembler)
    (fromAgent : ∀ datagram ∈ state.fromAgent, datagram ∈ next.fromAgent)
    (clients : next.toClients = state.toClients) : StateSound next ∧ Extends state next := by
  have extended : Extends state next :=
    ⟨fun sess s present => ⟨s, sessions ▸ present, rfl⟩, fromAgent⟩
  refine ⟨sound.change extended (sessions ▸ sound.representation) (sessions ▸ sound.masked) ?_
    clients, extended⟩
  rw [reassembler]
  exact sound.drawn.mono fun _ _ => extended.source

theorem StateSound.withSessions (sound : StateSound state) {sessions : SessionManager}
    (representation : Representation sessions) (masked : sessions.Masked)
    (remembers : UDP.Remembers state.sessions sessions) :
    StateSound { state with sessions } ∧ Extends state { state with sessions } :=
  have extended : Extends state { state with sessions } := ⟨remembers, fun _ => id⟩
  ⟨sound.change extended representation masked
    (sound.drawn.mono fun _ _ => extended.source) rfl, extended⟩

theorem StateSound.withReassembler (sound : StateSound state) {reassembler : Reassembler}
    (drawn : reassembler.Drawn (FromAgent state)) :
    StateSound { state with reassembler } ∧ Extends state { state with reassembler } :=
  have extended : Extends state { state with reassembler } :=
    ⟨remembers_of_eq rfl, fun _ => id⟩
  ⟨sound.change extended sound.representation sound.masked
    (drawn.mono fun _ _ => extended.source) rfl, extended⟩

theorem sound_initial (deviceID : GoString) (publicPort : UInt16) (idleTimeout : Int)
    (limits : SessionLimits) (reassemblyTimeout : Nat) (datagramPayload : Int)
    (counter : UInt32) :
    Sound (initialPool deviceID publicPort idleTimeout limits reassemblyTimeout datagramPayload
      counter) where
  state :=
    { representation := representation_new idleTimeout limits
      masked := fun id sess found => by cases found
      drawn := Reassembler.drawn_new _ _
      clients := fun forwarded member => by cases member }
  routes sessionID tr found := by cases found
  controllers tr datagram member := by cases member
  agent tr datagram member := by cases member

/-! ## One step -/

structure Moves (pool : RelayPool) (shared : AgentState) (moved : RelayThread) : Prop where
  state : StateSound shared
  extended : Extends pool.shared shared
  knows : Knows (Owns pool) shared moved
  controllers : ∀ tr datagram, (tr, datagram) ∈ shared.toControllers →
    (tr, datagram) ∈ pool.shared.toControllers ∨
      ∃ sessionID, Owns pool tr sessionID ∧ Carries datagram sessionID
  agent : ∀ tr datagram, (.controller tr, datagram) ∈ shared.toAgent →
    (.controller tr, datagram) ∈ pool.shared.toAgent ∨
      ∃ sessionID, Owns pool tr sessionID ∧ Carries datagram sessionID

theorem moves_silent {shared : AgentState} {moved : RelayThread}
    (sound : StateSound shared ∧ Extends pool.shared shared)
    (knows : Knows (Owns pool) shared moved)
    (controllers : shared.toControllers = pool.shared.toControllers)
    (agent : shared.toAgent = pool.shared.toAgent) : Moves pool shared moved :=
  ⟨sound.1, sound.2, knows, fun _ _ member => .inl (controllers ▸ member),
    fun _ _ member => .inl (agent ▸ member)⟩

theorem carries_of_decode {datagram payload : Bytes} {hdr : UDPHeader}
    (decoded : decodeUDP datagram = .ok (hdr, payload)) : Carries datagram hdr.sessionID :=
  ⟨hdr, payload, decoded, rfl⟩

theorem sessions_step (representation : Representation state.sessions)
    (masked : state.sessions.Masked) {self : Nat} {thread moved : SessionThread}
    {choice : SessionChoice} {sessions : SessionManager} (knows : ¬Creates thread)
    (taken : SessionThread.step self state.sessions thread choice = some (sessions, moved)) :
    Representation sessions ∧ sessions.Masked ∧ UDP.Remembers state.sessions sessions ∧
      ¬Creates moved := by
  have outcome : Outcome state.sessions thread sessions moved := @outcome_step _ self _ _ _ _ taken
  have next : ¬Creates moved := by
    have started := outcome.next.1
    cases moved <;> first | exact id | cases started
  have kept := representation.step outcome
    fun key same => absurd (show Creates thread by rw [same]; trivial) knows
  refine ⟨kept, ?_, ?_, next⟩ <;> cases outcome with
  | gotByID id now =>
      simp only [SessionManager.getByID]
      split
      · first | exact masked | exact remembers_of_eq rfl
      · first | exact masked | exact remembers_update _ _ fun _ => rfl
  | gotByKey key now =>
      simp only [SessionManager.getByKey]
      split
      · first | exact masked | exact remembers_of_eq rfl
      · first | exact masked | exact remembers_update _ _ fun _ => rfl
  | gotOrCreated _ => exact absurd trivial knows
  | added _ _ _ _ => exact absurd trivial knows
  | removed id expired caller =>
      rw [startRemove_manager]
      first | exact (masked.detach id).1 | exact (masked.detach id).2
  | swept _ => first | exact masked | exact remembers_of_eq rfl
  | shut => first | exact masked.detachAll.1 | exact masked.detachAll.2
  | picked _ => first | exact masked | exact remembers_of_eq rfl
  | swapped sess _ => first | exact masked | exact remembers_update _ _ fun _ => rfl
  | finished sess _ => first | exact masked | exact remembers_update _ _ fun _ => rfl

theorem mask_set (value : UInt32) : (value ||| 0x80000000) &&& 0x80000000 ≠ 0 := by
  have kept : (value ||| 0x80000000) &&& 0x80000000 = 0x80000000 := by
    apply UInt32.toBitVec_inj.mp
    simp only [UInt32.toBitVec_and, UInt32.toBitVec_or]
    ext i
    simp
    tauto
  rw [kept]
  decide

theorem moves_step (sound : Sound pool) {self : Nat} {thread moved : RelayThread}
    {choice : RelayChoice} {shared : AgentState}
    (present : pool.threads[self]? = some thread)
    (knows : Knows (Owns pool) pool.shared thread)
    (taken : step self pool.shared thread choice = some (shared, moved)) :
    Moves pool shared moved := by
  have unchanged : StateSound pool.shared ∧ Extends pool.shared pool.shared :=
    ⟨sound.state, extends_refl _⟩
  cases thread with
  | receiveFromAgent =>
      simp only [step] at taken
      split at taken
      · cases taken
        exact moves_silent unchanged trivial rfl rfl
      · rename_i datagram _
        have received := sound.state.same
          { pool.shared with fromAgent := pool.shared.fromAgent ++ [datagram] } rfl rfl
          (fun _ member => List.mem_append_left _ member) rfl
        split at taken
        · cases taken
          exact moves_silent received trivial rfl rfl
        · rename_i hdr payload decoded
          cases taken
          exact moves_silent received ⟨decoded, by simp⟩ rfl rfl
  | routing hdr payload datagram =>
      simp only [step] at taken
      split at taken
      · rename_i tr found
        cases taken
        rcases sound.routes _ tr found with ⟨_, loop, serving⟩
        exact moves_silent unchanged
          ⟨hdr.sessionID, ⟨true, loop, serving⟩, carries_of_decode knows.1⟩ rfl rfl
      · cases taken
        exact moves_silent unchanged ⟨datagram, knows.2, hdr, knows.1, rfl⟩ rfl rfl
  | toController tr datagram =>
      cases taken
      rcases sound.state.same { pool.shared with
        toControllers := pool.shared.toControllers ++ [(tr, datagram)] } rfl rfl
        (fun _ => id) rfl with ⟨state, extended⟩
      refine ⟨state, extended, trivial, fun other sent member => ?_, fun _ _ => .inl⟩
      rcases List.mem_append.mp member with old | new
      · exact .inl old
      · rw [List.mem_singleton, Prod.mk.injEq] at new
        rw [new.1, new.2]
        exact .inr knows
  | assembling hdr payload =>
      rcases sound.state.drawn.feedAppend false knows choice.now with ⟨drawn, complete⟩
      simp only [step] at taken
      generalize pool.shared.reassembler.feedAppend false hdr payload choice.now = fed at *
      rcases fed with ⟨reassembler, answer⟩
      have state := sound.state.withReassembler drawn
      split at taken
      · rename_i assembled same
        cases taken
        cases same
        refine moves_silent state ?_ rfl rfl
        exact madeOf_mono (fun _ => state.2.source) (complete assembled rfl)
      · rename_i same
        cases taken
        cases same
        exact moves_silent state trivial rfl rfl
  | lookup sessionID assembled =>
      simp only [step, SessionManager.getByID] at taken
      cases found : pool.shared.sessions.byID.lookup sessionID with
      | none =>
          rw [found] at taken
          cases taken
          exact moves_silent (sound.state.withSessions sound.state.representation
            sound.state.masked (remembers_of_eq rfl)) trivial rfl rfl
      | some sess =>
          rw [found] at taken
          cases taken
          have touched := sound.state.withSessions
            (sound.state.representation.updateActivity sess (choice.session.clock 0))
            sound.state.masked (remembers_update _ sess fun _ => rfl)
          rcases sound.state.representation.byID sessionID sess found with ⟨s, here, named, _⟩
          rcases touched.2.sessions sess s here with ⟨kept, there, same⟩
          exact moves_silent touched ⟨madeOf_mono (fun _ => touched.2.source) knows, kept, there,
            (congrArg Prod.fst same).trans named⟩ rfl rfl
  | writing sess sessionID assembled =>
      rcases knows with ⟨made, s, here, named⟩
      simp only [step, here] at taken
      cases taken
      have extended : Extends pool.shared { pool.shared with
          toClients := pool.shared.toClients ++ [⟨sess, sessionID, s.clientAddr, assembled⟩] } :=
        ⟨remembers_of_eq rfl, fun _ => id⟩
      refine moves_silent ⟨⟨sound.state.representation, sound.state.masked,
        sound.state.drawn.mono fun _ _ => extended.source, ?_⟩, extended⟩ trivial rfl rfl
      intro forwarded member
      rcases List.mem_append.mp member with old | new
      · exact extended.delivered (sound.state.clients forwarded old)
      · rw [List.mem_singleton.mp new]
        exact ⟨s, here, named, rfl, by rw [named]; exact madeOf_mono (fun _ => extended.source) made⟩
  | receiveFromClients =>
      simp only [step] at taken
      split at taken
      · cases taken
        exact moves_silent unchanged trivial rfl rfl
      · split at taken <;> cases taken <;> exact moves_silent unchanged trivial rfl rfl
  | fromClient client packet =>
      simp only [step] at taken
      split at taken
      · cases taken
      · rename_i sessions result
        cases taken
        rcases sound.state.masked.getOrCreateByKey result with ⟨masked, remembers⟩
        exact moves_silent (sound.state.withSessions
          (sound.state.representation.getOrCreateByKey rfl result) masked remembers) trivial rfl rfl
      · rename_i sess created sessions result
        rcases sound.state.masked.getOrCreateByKey result with ⟨masked, remembers⟩
        have made := sound.state.withSessions
          (sound.state.representation.getOrCreateByKey rfl result) masked remembers
        have counted := made.1.same
          { pool.shared with sessions, nextPacketID := pool.shared.nextPacketID + 1 } rfl rfl
          (fun _ => id) rfl
        have extended : Extends pool.shared
            { pool.shared with sessions, nextPacketID := pool.shared.nextPacketID + 1 } :=
          ⟨remembers, fun _ => id⟩
        split at taken
        · cases taken
        split at taken <;> cases taken <;>
          exact moves_silent ⟨counted.1, extended⟩ trivial rfl rfl
  | sending sess datagrams =>
      simp only [step] at taken
      split at taken
      · cases taken
        exact moves_silent unchanged trivial rfl rfl
      · rename_i datagram rest
        cases taken
        rcases sound.state.same { pool.shared with
          toAgent := pool.shared.toAgent ++ [(.client sess, datagram)] } rfl rfl
          (fun _ => id) rfl with ⟨state, extended⟩
        refine ⟨state, extended, trivial, fun _ _ => .inl, fun tr sent member => ?_⟩
        rcases List.mem_append.mp member with old | new
        · exact .inl old
        · simp at new
  | sessions thread =>
      simp only [step] at taken
      split at taken
      · cases taken
      · rename_i sessions next stepped
        cases taken
        rcases sessions_step sound.state.representation sound.state.masked knows stepped with
          ⟨representation, masked, remembers, created⟩
        exact moves_silent (sound.state.withSessions representation masked remembers) created
          rfl rfl
  | cleaning =>
      simp only [step] at taken
      split at taken <;> cases taken
      · exact moves_silent (sound.state.withReassembler (sound.state.drawn.sweep choice.now))
          trivial rfl rfl
      · exact moves_silent (sound.state.withReassembler sound.state.drawn.close) trivial rfl rfl
  | otherRequests =>
      cases taken
      exact moves_silent (sound.state.same { pool.shared with
        nextSessionID := pool.shared.nextSessionID + 1 } rfl rfl (fun _ => id) rfl) trivial rfl rfl
  | connect =>
      cases taken
      exact moves_silent (sound.state.same { pool.shared with
        nextSessionID := pool.shared.nextSessionID + 1 } rfl rfl (fun _ => id) rfl)
        (mask_set _) rfl rfl
  | issued sessionID =>
      simp only [step] at taken
      split at taken <;> cases taken
      · refine moves_silent (sound.state.same { pool.shared with
          controllerRoutes := pool.shared.controllerRoutes.insert sessionID self } rfl rfl
          (fun _ => id) rfl) ⟨knows, fun datagram held => ?_⟩ rfl rfl
        split at held <;> cases held
      · exact moves_silent unchanged trivial rfl rfl
  | controller sessionID registered loop =>
      simp only [step] at taken
      split at taken
      · cases loop with
        | receiving =>
            simp only at taken
            split at taken
            · cases taken
              exact moves_silent unchanged ⟨knows.1, fun _ held => by cases held⟩ rfl rfl
            split at taken
            · cases taken
              exact moves_silent unchanged ⟨knows.1, fun _ held => by cases held⟩ rfl rfl
            · rename_i datagram _ hdr payload decoded
              split at taken
              · cases taken
                exact moves_silent unchanged ⟨knows.1, fun _ held => by cases held⟩ rfl rfl
              · rename_i own
                rw [not_not] at own
                cases taken
                refine moves_silent unchanged ⟨knows.1, fun other held => ?_⟩ rfl rfl
                cases held
                exact own ▸ carries_of_decode decoded
        | holding datagram =>
            cases taken
            rcases sound.state.same { pool.shared with
              toAgent := pool.shared.toAgent ++ [(.controller self, datagram)] } rfl rfl
              (fun _ => id) rfl with ⟨state, extended⟩
            refine ⟨state, extended, ⟨knows.1, fun other held => ?_⟩, fun _ _ => .inl,
              fun tr sent member => ?_⟩
            · split at held <;> cases held
            · rcases List.mem_append.mp member with old | new
              · exact .inl old
              · simp only [List.mem_singleton, Prod.mk.injEq, Sender.controller.injEq] at new
                rw [new.1, new.2]
                exact .inr ⟨sessionID, ⟨registered, _, present⟩, knows.2 datagram rfl⟩
        | stopped => cases taken
      · split at taken <;> cases taken
        exact moves_silent (sound.state.same _ rfl rfl (fun _ => id) rfl) knows rfl rfl
  | refused | stopped => cases taken

/-! ## Routes -/

theorem controller_step {self : Nat} {state shared : AgentState} {moved : RelayThread}
    {choice : RelayChoice} {sessionID : UInt32} {registered : Bool} {loop : DatagramLoop}
    (taken : step self state (.controller sessionID registered loop) choice =
      some (shared, moved)) :
    (∃ loop', moved = .controller sessionID registered loop' ∧
      shared.controllerRoutes = state.controllerRoutes) ∨
    (∃ loop', registered = true ∧ moved = .controller sessionID false loop' ∧
      shared.controllerRoutes =
        if state.controllerRoutes.lookup sessionID = some self then
          state.controllerRoutes.erase sessionID
        else state.controllerRoutes) := by
  simp only [step] at taken
  split at taken
  · repeat' split at taken
    all_goals cases taken
    all_goals exact .inl ⟨_, rfl, rfl⟩
  · split at taken <;> cases taken
    rename_i open'
    exact .inr ⟨loop, open', rfl, rfl⟩

theorem issued_step {self : Nat} {state shared : AgentState} {moved : RelayThread}
    {choice : RelayChoice} {sessionID : UInt32}
    (taken : step self state (.issued sessionID) choice = some (shared, moved)) :
    (∃ loop, moved = .controller sessionID true loop ∧
      shared.controllerRoutes = state.controllerRoutes.insert sessionID self) ∨
    (moved = .refused ∧ shared.controllerRoutes = state.controllerRoutes) := by
  simp only [step] at taken
  split at taken <;> cases taken
  · exact .inl ⟨_, rfl, rfl⟩
  · exact .inr ⟨rfl, rfl⟩

def RelayThread.plain : RelayThread → Bool
  | .issued _ | .controller _ _ _ => false
  | _ => true

theorem plain_step {self : Nat} {state shared : AgentState} {thread moved : RelayThread}
    {choice : RelayChoice} (plain : thread.plain = true)
    (taken : step self state thread choice = some (shared, moved)) :
    shared.controllerRoutes = state.controllerRoutes ∧
      (moved.plain = true ∨
        thread = .connect ∧ moved = .issued ((state.nextSessionID + 1) ||| 0x80000000)) := by
  cases thread <;> simp only [step] at taken <;> repeat' split at taken
  all_goals cases taken
  all_goals first
    | exact ⟨rfl, .inl rfl⟩
    | exact ⟨rfl, .inr ⟨rfl, rfl⟩⟩
    | cases plain

theorem owns_update {self : Nat} {thread moved : RelayThread} {choice : RelayChoice}
    {shared : AgentState} (present : pool.threads[self]? = some thread)
    (taken : step self pool.shared thread choice = some (shared, moved)) {tr : Nat}
    {sessionID : UInt32} (owns : Owns pool tr sessionID) :
    Owns (pool.update self shared moved) tr sessionID := by
  rcases owns with ⟨registered, loop, serving⟩
  by_cases same : tr = self
  · subst same
    rw [present, Option.some.injEq] at serving
    subst serving
    rcases controller_step taken with ⟨loop', rfl, _⟩ | ⟨loop', _, rfl, _⟩
    · exact ⟨registered, loop', Pool.update_self present _ _⟩
    · exact ⟨false, loop', Pool.update_self present _ _⟩
  · exact ⟨registered, loop, (Pool.update_other pool same _ _).trans serving⟩

theorem routes_update (sound : Sound pool) {self : Nat} {thread moved : RelayThread}
    {choice : RelayChoice} {shared : AgentState} (present : pool.threads[self]? = some thread)
    (knows : Knows (Owns pool) pool.shared thread)
    (taken : step self pool.shared thread choice = some (shared, moved)) {sessionID : UInt32}
    {tr : Nat} (found : shared.controllerRoutes.lookup sessionID = some tr) :
    sessionID &&& 0x80000000 ≠ 0 ∧
      ∃ loop, (pool.update self shared moved).threads[tr]? =
        some (.controller sessionID true loop) := by
  -- A route that was there leads to the same thread, which has not taken it away.
  have old : pool.shared.controllerRoutes.lookup sessionID = some tr →
      (∀ own registered loop, thread = .controller own registered loop → tr = self →
        ∃ loop', moved = .controller own registered loop') →
      sessionID &&& 0x80000000 ≠ 0 ∧
        ∃ loop, (pool.update self shared moved).threads[tr]? =
          some (.controller sessionID true loop) := by
    intro before stays
    rcases sound.routes sessionID tr before with ⟨marked, loop, serving⟩
    refine ⟨marked, ?_⟩
    by_cases same : tr = self
    · subst same
      rw [present, Option.some.injEq] at serving
      rcases stays _ _ _ serving rfl with ⟨loop', rfl⟩
      exact ⟨loop', Pool.update_self present _ _⟩
    · exact ⟨loop, (Pool.update_other pool same _ _).trans serving⟩
  by_cases plain : thread.plain = true
  · rw [(plain_step plain taken).1] at found
    exact old found fun own registered loop same => by rw [same] at plain; cases plain
  cases thread with
  | issued own =>
      rcases issued_step taken with ⟨loop, rfl, routes⟩ | ⟨rfl, routes⟩
      · rw [routes] at found
        by_cases same : sessionID = own
        · subst same
          rw [AList.lookup_insert, Option.some.injEq] at found
          subst found
          exact ⟨knows, loop, Pool.update_self present _ _⟩
        · rw [AList.lookup_insert_ne same] at found
          exact old found fun _ _ _ same => by cases same
      · rw [routes] at found
        exact old found fun _ _ _ same => by cases same
  | controller own registered loop =>
      rcases controller_step taken with ⟨loop', rfl, routes⟩ | ⟨loop', open', rfl, routes⟩
      · rw [routes] at found
        exact old found fun _ _ _ same _ => by cases same; exact ⟨loop', rfl⟩
      · have kept : sessionID ≠ own ∧ pool.shared.controllerRoutes.lookup sessionID = some tr ∨
            pool.shared.controllerRoutes.lookup sessionID = some tr ∧ tr ≠ self := by
          rw [routes] at found
          split at found
          · by_cases same : sessionID = own
            · rw [same, AList.lookup_erase] at found
              cases found
            · rw [AList.lookup_erase_ne same] at found
              exact .inl ⟨same, found⟩
          · rename_i foreign
            by_cases same : sessionID = own
            · exact .inr ⟨found, fun mine => foreign (by rw [← same, found, mine])⟩
            · exact .inl ⟨same, found⟩
        have elsewhere : pool.shared.controllerRoutes.lookup sessionID = some tr ∧ tr ≠ self := by
          rcases kept with ⟨apart, before⟩ | before
          · refine ⟨before, fun mine => ?_⟩
            rcases sound.routes sessionID tr before with ⟨_, _, serving⟩
            rw [mine, present, Option.some.injEq] at serving
            cases serving
            exact apart rfl
          · exact before
        exact old elsewhere.1 fun _ _ _ _ mine => absurd mine elsewhere.2
  | _ => exact absurd rfl plain

/-! ## Runs -/

structure Ruled (pool : RelayPool) : Prop where
  sound : Sound pool
  knows : ∀ thread ∈ pool.threads, Knows (Owns pool) pool.shared thread

theorem Ruled.start (ruled : Ruled pool) {thread : RelayThread} (enters : thread.entry = true) :
    Ruled (pool.start thread) := by
  have owns : ∀ tr sessionID, Owns pool tr sessionID → Owns (pool.start thread) tr sessionID := by
    rintro tr sessionID ⟨registered, loop, serving⟩
    exact ⟨registered, loop, Pool.start_old serving thread⟩
  refine ⟨⟨ruled.sound.state, fun sessionID tr found => ?_, fun tr datagram member => ?_,
    fun tr datagram member => ?_⟩, fun other member => ?_⟩
  · rcases ruled.sound.routes sessionID tr found with ⟨marked, loop, serving⟩
    exact ⟨marked, loop, Pool.start_old serving thread⟩
  · rcases ruled.sound.controllers tr datagram member with ⟨sessionID, owned, carries⟩
    exact ⟨sessionID, owns tr sessionID owned, carries⟩
  · rcases ruled.sound.agent tr datagram member with ⟨sessionID, owned, carries⟩
    exact ⟨sessionID, owns tr sessionID owned, carries⟩
  · rcases List.mem_append.mp member with old | new
    · exact (ruled.knows other old).mono (extends_refl _) owns
    · rw [List.mem_singleton.mp new]
      cases thread with
      | sessions own => cases own <;> first | exact id | cases enters
      | connect => trivial
      | _ => cases enters

theorem Ruled.update (ruled : Ruled pool) {self : Nat} {thread moved : RelayThread}
    {choice : RelayChoice} {shared : AgentState} (present : pool.threads[self]? = some thread)
    (taken : step self pool.shared thread choice = some (shared, moved)) :
    Ruled (pool.update self shared moved) := by
  have knows := ruled.knows thread (Pool.mem_of_getElem? present)
  have moves := moves_step ruled.sound present knows taken
  have owns : ∀ tr sessionID, Owns pool tr sessionID →
      Owns (pool.update self shared moved) tr sessionID :=
    fun _ _ owned => owns_update present taken owned
  refine ⟨⟨moves.state, fun sessionID tr found =>
    routes_update ruled.sound present knows taken found, fun tr datagram member => ?_,
    fun tr datagram member => ?_⟩, fun other member => ?_⟩
  · have sent := moves.controllers tr datagram member
    have source : ∃ sessionID, Owns pool tr sessionID ∧ Carries datagram sessionID :=
      sent.elim (ruled.sound.controllers tr datagram) id
    rcases source with ⟨sessionID, owned, carries⟩
    exact ⟨sessionID, owns tr sessionID owned, carries⟩
  · have sent := moves.agent tr datagram member
    have source : ∃ sessionID, Owns pool tr sessionID ∧ Carries datagram sessionID :=
      sent.elim (ruled.sound.agent tr datagram) id
    rcases source with ⟨sessionID, owned, carries⟩
    exact ⟨sessionID, owns tr sessionID owned, carries⟩
  · rcases List.mem_or_eq_of_mem_set member with old | rfl
    · exact (ruled.knows other old).mono moves.extended owns
    · exact moves.knows.mono (extends_refl _) owns

def RelayThread.holds (sessionID : UInt32) : RelayThread → Bool
  | .issued own => own = sessionID
  | .controller own registered _ => registered && own = sessionID
  | _ => false

/-- The coordinator's counter does not come back to an id that a controller of this
agent still has. -/
def Unused (pool : RelayPool) : PoolEvent RelayThread RelayChoice → Prop
  | .advance self _ => pool.threads[self]? = some .connect →
      ∀ thread ∈ pool.threads,
        thread.holds ((pool.shared.nextSessionID + 1) ||| 0x80000000) = false
  | .spawn _ => True

instance (pool : RelayPool) (event : PoolEvent RelayThread RelayChoice) :
    Decidable (Unused pool event) := by
  unfold Unused
  split <;> infer_instance

/-- Each id has one controller, and its route leads there. -/
structure Owners (pool : RelayPool) : Prop where
  distinct : ∀ (first second : Nat) (one other : RelayThread) (sessionID : UInt32),
    pool.threads[first]? = some one → pool.threads[second]? = some other →
    one.holds sessionID = true → other.holds sessionID = true → first = second
  routed : ∀ (tr : Nat) (sessionID : UInt32) (loop : DatagramLoop),
    pool.threads[tr]? = some (.controller sessionID true loop) →
    pool.shared.controllerRoutes.lookup sessionID = some tr

theorem holds_step {self : Nat} {thread moved : RelayThread} {choice : RelayChoice}
    {state shared : AgentState} (taken : step self state thread choice = some (shared, moved))
    {sessionID : UInt32} (holds : moved.holds sessionID = true) :
    thread.holds sessionID = true ∨
      thread = .connect ∧ sessionID = (state.nextSessionID + 1) ||| 0x80000000 := by
  by_cases plain : thread.plain = true
  · rcases (plain_step plain taken).2 with still | ⟨rfl, rfl⟩
    · cases moved <;> first | cases holds | cases still
    · exact .inr ⟨rfl, (of_decide_eq_true holds).symm⟩
  cases thread with
  | issued own =>
      rcases issued_step taken with ⟨loop, rfl, _⟩ | ⟨rfl, _⟩
      · exact .inl (by simpa [RelayThread.holds] using holds)
      · cases holds
  | controller own registered loop =>
      rcases controller_step taken with ⟨loop', rfl, _⟩ | ⟨loop', _, rfl, _⟩
      · exact .inl holds
      · cases holds
  | _ => exact absurd rfl plain

theorem Owners.start (owners : Owners pool) {thread : RelayThread}
    (enters : thread.entry = true) : Owners (pool.start thread) := by
  have idle : ∀ sessionID, thread.holds sessionID = false := by
    intro sessionID
    cases thread <;> first | rfl | cases enters
  constructor
  · intro first second one other sessionID here there holds also
    rcases Pool.start_cases here with here | ⟨_, rfl⟩
    · rcases Pool.start_cases there with there | ⟨_, rfl⟩
      · exact owners.distinct first second one other sessionID here there holds also
      · rw [idle] at also
        cases also
    · rw [idle] at holds
      cases holds
  · intro tr sessionID loop serving
    rcases Pool.start_cases serving with old | ⟨_, same⟩
    · exact owners.routed tr sessionID loop old
    · rw [← same] at enters
      cases enters

theorem Owners.update (owners : Owners pool) {self : Nat} {thread moved : RelayThread}
    {choice : RelayChoice} {shared : AgentState} (present : pool.threads[self]? = some thread)
    (unused : Unused pool (.advance self choice))
    (taken : step self pool.shared thread choice = some (shared, moved)) :
    Owners (pool.update self shared moved) := by
  -- Whoever holds an id now held it before, or has just drawn it.
  have before : ∀ (tr : Nat) (one : RelayThread) (sessionID : UInt32),
      (pool.update self shared moved).threads[tr]? = some one → one.holds sessionID = true →
      (∃ old, pool.threads[tr]? = some old ∧ old.holds sessionID = true) ∨
        tr = self ∧ thread = .connect ∧
          sessionID = (pool.shared.nextSessionID + 1) ||| 0x80000000 := by
    intro tr one sessionID found holds
    by_cases same : tr = self
    · subst same
      rw [Pool.update_self present, Option.some.injEq] at found
      subst found
      rcases holds_step taken holds with still | drawn
      · exact .inl ⟨thread, present, still⟩
      · exact .inr ⟨rfl, drawn⟩
    · rw [Pool.update_other pool same] at found
      exact .inl ⟨one, found, holds⟩
  constructor
  · intro first second one other sessionID here there holds also
    rcases before first one sessionID here holds with ⟨old, was, held⟩ | ⟨rfl, drawn, rfl⟩
    · rcases before second other sessionID there also with ⟨older, were, heldToo⟩ | ⟨rfl, drawn, rfl⟩
      · exact owners.distinct first second old older sessionID was were held heldToo
      · rw [unused (drawn ▸ present) old (Pool.mem_of_getElem? was)] at held
        cases held
    · rcases before second other _ there also with ⟨older, were, heldToo⟩ | ⟨rfl, _⟩
      · rw [unused (drawn ▸ present) older (Pool.mem_of_getElem? were)] at heldToo
        cases heldToo
      · rfl
  · intro tr sessionID loop serving
    by_cases same : tr = self
    · subst same
      rw [Pool.update_self present, Option.some.injEq] at serving
      subst serving
      by_cases plain : thread.plain = true
      · rcases (plain_step plain taken).2 with still | ⟨_, same⟩
        · cases still
        · cases same
      cases thread with
      | issued own =>
          rcases issued_step taken with ⟨loop', same, routes⟩ | ⟨same, _⟩
          · cases same
            rw [Pool.update_shared, routes]
            exact AList.lookup_insert _
          · cases same
      | controller own registered loop' =>
          rcases controller_step taken with ⟨loop'', same, routes⟩ | ⟨loop'', _, same, _⟩
          · cases same
            rw [Pool.update_shared, routes]
            exact owners.routed tr sessionID loop' present
          · cases same
      | _ => exact absurd rfl plain
    · rw [Pool.update_other pool same] at serving
      have route := owners.routed tr sessionID loop serving
      have mine : ∀ own : UInt32, thread.holds own = true → own ≠ sessionID := by
        rintro own held rfl
        exact same (owners.distinct tr self _ thread own serving present
          (by simp [RelayThread.holds]) held)
      rw [Pool.update_shared]
      by_cases plain : thread.plain = true
      · rw [(plain_step plain taken).1]
        exact route
      cases thread with
      | issued own =>
          have apart := mine own (by simp [RelayThread.holds])
          rcases issued_step taken with ⟨_, _, routes⟩ | ⟨_, routes⟩ <;> rw [routes]
          · rw [AList.lookup_insert_ne (Ne.symm apart)]
            exact route
          · exact route
      | controller own registered loop' =>
          rcases controller_step taken with ⟨_, _, routes⟩ | ⟨_, open', _, routes⟩ <;> rw [routes]
          · exact route
          · have apart := mine own (by simp [RelayThread.holds, open'])
            split
            · rw [AList.lookup_erase_ne (Ne.symm apart)]
              exact route
            · exact route
      | _ => exact absurd rfl plain

end Rdpulse.Relay.AgentDatagrams
