import Rdpulse.Relay.HandlerStages

namespace Rdpulse.Relay

open Foundation Protocol Storage

/-! The online table of the agent manager beside the peers of the coordinator. A
handler enters them in two steps and leaves them in two steps, while another
handler of the same device may do the same. -/

/-- The console takes no session away. -/
def ConnectionsOnly (pool : RelayPool) : PoolEvent Thread Choice → Prop
  | .advance self _ => ∀ thread ∈ pool.threads[self]?, thread.disconnecting = none
  | .spawn _ => True

/-- A handler registers its peer while it is still the online one, or while the
handler that replaced it has yet to register its own. -/
def RegistersInTurn (pool : RelayPool) : PoolEvent Thread Choice → Prop
  | .advance self choice =>
      ConnectionsOnly pool (.advance self choice) ∧
        ∀ session, stageOf pool self = .registered session →
          ∃ current ∈ pool.shared.agentsByDevice.lookup session.deviceID,
            current = session ∨ stageOf pool current.writer = .registered current
  | .spawn _ => True

instance (pool : RelayPool) (event : PoolEvent Thread Choice) :
    Decidable (ConnectionsOnly pool event) := by
  rcases event with _ | ⟨self, choice⟩ <;> unfold ConnectionsOnly <;> infer_instance

instance (stage : Stage) (holds : AgentSession → Prop) [∀ session, Decidable (holds session)] :
    Decidable (∀ session, stage = .registered session → holds session) :=
  match stage with
  | .registered session =>
      decidable_of_iff (holds session)
        ⟨fun held _ same => by cases same; exact held, fun all => all session rfl⟩
  | .outside | .admitted _ | .holding _ _ | .listening _ | .leaving _ => .isTrue nofun

instance (pool : RelayPool) (event : PoolEvent Thread Choice) :
    Decidable (RegistersInTurn pool event) := by
  rcases event with _ | ⟨self, choice⟩ <;> unfold RegistersInTurn <;> infer_instance

/-- No handler of the device is between its two registrations, or between its two
removals. -/
def Settled (pool : RelayPool) (deviceID : GoString) : Prop :=
  ∀ self session, session.deviceID = deviceID →
    stageOf pool self ≠ .registered session ∧ stageOf pool self ≠ .leaving session

structure Tables (online : OnlineTable) (peers : Signaling.PeerTable) (stage : Nat → Stage) :
    Prop where
  device : ∀ deviceID session, online.lookup deviceID = some session →
    session.deviceID = deviceID
  held : ∀ deviceID session, online.lookup deviceID = some session →
    (stage session.writer).session? = some session
  announced : ∀ session, online.lookup session.deviceID = some session →
    stage session.writer = .listening session →
    ∃ peer, peers.lookup session.deviceID = some peer ∧ peer.writer = some session.writer
  owned : ∀ deviceID peer, peers.lookup deviceID = some peer →
    ∃ session, session.deviceID = deviceID ∧ peer.writer = some session.writer ∧
      stage session.writer = .listening session ∧
      (online.lookup deviceID = some session ∨
        ∃ current, online.lookup deviceID = some current ∧
          stage current.writer = .registered current)

namespace Tables

variable {online : OnlineTable} {peers : Signaling.PeerTable} {stage : Nat → Stage} {self : Nat}
  {session : AgentSession}

theorem empty (stage : Nat → Stage) : Tables ∅ ∅ stage where
  device _ _ found := by cases found
  held _ _ found := by cases found
  announced _ found := by cases found
  owned _ _ found := by cases found

theorem outside (tables : Tables online peers stage) {next : Stage}
    (before : (stage self).session? = none) (after : next.session? = none) :
    Tables online peers (Function.update stage self next) := by
  have kept : ∀ other one, (stage other).session? = some one →
      Function.update stage self next other = stage other := by
    intro other one held
    refine Function.update_of_ne ?_ next stage
    rintro rfl
    rw [before] at held
    cases held
  have back : ∀ other one, (Function.update stage self next other).session? = some one →
      Function.update stage self next other = stage other := by
    intro other one held
    refine Function.update_of_ne ?_ next stage
    rintro rfl
    rw [Function.update_self, after] at held
    cases held
  refine ⟨tables.device, ?_, ?_, ?_⟩
  · intro deviceID one found
    have held := tables.held deviceID one found
    rw [kept _ one held]
    exact held
  · intro one found listens
    rw [back _ one (by rw [listens]; rfl)] at listens
    exact tables.announced one found listens
  · intro deviceID peer found
    rcases tables.owned deviceID peer found with ⟨one, device, writer, listens, now⟩
    refine ⟨one, device, writer, by rw [kept _ one (by rw [listens]; rfl)]; exact listens, ?_⟩
    rcases now with same | ⟨current, there, registers⟩
    · exact .inl same
    · refine .inr ⟨current, there, ?_⟩
      rw [kept _ current (by rw [registers]; rfl)]
      exact registers

theorem register (tables : Tables online peers stage) (own : session.writer = self)
    (before : (stage self).session? = none) :
    Tables (online.insert session.deviceID session) peers
      (Function.update stage self (.registered session)) := by
  have other : ∀ one, (stage one.writer).session? = some one → one.writer ≠ self := by
    intro one held same
    rw [same, before] at held
    cases held
  refine ⟨?_, ?_, ?_, ?_⟩
  · intro deviceID one found
    by_cases same : deviceID = session.deviceID
    · subst same
      simp only [AList.lookup_insert, Option.some.injEq] at found
      rw [← found]
    · rw [AList.lookup_insert_ne same] at found
      exact tables.device deviceID one found
  · intro deviceID one found
    by_cases same : deviceID = session.deviceID
    · subst same
      simp only [AList.lookup_insert, Option.some.injEq] at found
      rw [← found, own, Function.update_self]
      rfl
    · rw [AList.lookup_insert_ne same] at found
      have held := tables.held deviceID one found
      rw [Function.update_of_ne (other one held)]
      exact held
  · intro one found listens
    have elsewhere : one.writer ≠ self := by
      intro same
      rw [same, Function.update_self] at listens
      cases listens
    rw [Function.update_of_ne elsewhere] at listens
    by_cases same : one.deviceID = session.deviceID
    · rw [same, AList.lookup_insert, Option.some.injEq] at found
      exact absurd (found ▸ own) elsewhere
    · rw [AList.lookup_insert_ne same] at found
      exact tables.announced one found listens
  · intro deviceID peer found
    rcases tables.owned deviceID peer found with ⟨one, device, writer, listens, now⟩
    have apart := other one (by rw [listens]; rfl)
    refine ⟨one, device, writer, by rw [Function.update_of_ne apart]; exact listens, ?_⟩
    by_cases same : deviceID = session.deviceID
    · refine .inr ⟨session, by rw [same, AList.lookup_insert], ?_⟩
      rw [own, Function.update_self]
    · rw [AList.lookup_insert_ne same]
      rcases now with here | ⟨current, there, registers⟩
      · exact .inl here
      · refine .inr ⟨current, there, ?_⟩
        rw [Function.update_of_ne (other current (by rw [registers]; rfl))]
        exact registers

theorem announce (tables : Tables online peers stage) {peer : Signaling.ActivePeer}
    (own : session.writer = self) (before : stage self = .registered session)
    (writer : peer.writer = some session.writer)
    (turn : ∃ current ∈ online.lookup session.deviceID,
      current = session ∨ stage current.writer = .registered current) :
    Tables online (peers.insert session.deviceID peer)
      (Function.update stage self (.listening session)) := by
  have mine : ∀ one, one.writer = self → (stage one.writer).session? = some one →
      one = session := by
    intro one same held
    rw [same, before] at held
    exact (Option.some.inj held).symm
  refine ⟨tables.device, ?_, ?_, ?_⟩
  · intro deviceID one found
    have held := tables.held deviceID one found
    by_cases same : one.writer = self
    · rw [mine one same held, own, Function.update_self]
      rfl
    · rw [Function.update_of_ne same]
      exact held
  · intro one found listens
    by_cases device : one.deviceID = session.deviceID
    · rw [device, AList.lookup_insert]
      refine ⟨peer, rfl, ?_⟩
      by_cases same : one.writer = self
      · rw [same, writer, own]
      · -- The device is online with another handler, which has registered its peer
        -- already: not this one's turn.
        rw [Function.update_of_ne same] at listens
        rw [device] at found
        rcases turn with ⟨current, there, equal | registers⟩
        · rw [Option.mem_def, found, Option.some.injEq] at there
          rw [there, equal, own] at same
          exact absurd rfl same
        · rw [Option.mem_def, found, Option.some.injEq] at there
          rw [← there, listens] at registers
          cases registers
    · rw [AList.lookup_insert_ne device]
      have elsewhere : one.writer ≠ self := by
        intro same
        rw [same, Function.update_self] at listens
        cases listens
        exact device rfl
      rw [Function.update_of_ne elsewhere] at listens
      exact tables.announced one found listens
  · intro deviceID other found
    by_cases device : deviceID = session.deviceID
    · subst device
      simp only [AList.lookup_insert, Option.some.injEq] at found
      subst found
      refine ⟨session, rfl, writer, by rw [own, Function.update_self], ?_⟩
      rcases turn with ⟨current, there, rfl | registers⟩
      · exact .inl there
      · by_cases same : current.writer = self
        · have equal := mine current same (by rw [registers]; rfl)
          rw [equal] at there
          exact .inl there
        · refine .inr ⟨current, there, ?_⟩
          rw [Function.update_of_ne same]
          exact registers
    · rw [AList.lookup_insert_ne device] at found
      rcases tables.owned deviceID other found with ⟨one, here, names, listens, now⟩
      have apart : one.writer ≠ self := by
        intro same
        rw [same, before] at listens
        cases listens
      refine ⟨one, here, names, by rw [Function.update_of_ne apart]; exact listens, ?_⟩
      rcases now with same | ⟨current, there, registers⟩
      · exact .inl same
      · refine .inr ⟨current, there, ?_⟩
        have elsewhere : current.writer ≠ self := by
          intro same
          have equal := mine current same (by rw [registers]; rfl)
          have here := tables.device deviceID current there
          rw [equal] at here
          exact device here.symm
        rw [Function.update_of_ne elsewhere]
        exact registers

theorem dropPeer_lookup (c : Signaling.SessionCoordinator) (deviceID one : GoString)
    (writer : Signaling.Writer) :
    (c.dropPeer deviceID writer).peers.lookup one =
      if one = deviceID ∧ (c.peers.lookup one).map Signaling.ActivePeer.writer = some writer then
        none
      else c.peers.lookup one := by
  unfold Signaling.SessionCoordinator.dropPeer
  by_cases device : one = deviceID
  · subst device
    cases present : c.peers.lookup one with
    | none => simp [present]
    | some peer =>
        by_cases same : peer.writer = writer
        · simp [same]
        · simp [same, present]
  · simp only [device, false_and, if_false]
    split
    · split
      · exact AList.lookup_erase_ne device
      · rfl
    · rfl

theorem withdraw (tables : Tables online peers stage) {c : Signaling.SessionCoordinator}
    (same : c.peers = peers) (own : session.writer = self)
    (before : stage self = .listening session) :
    Tables online (c.dropPeer session.deviceID (some session.writer)).peers
      (Function.update stage self (.leaving session)) := by
  have mine : ∀ one, one.writer = self → (stage one.writer).session? = some one →
      one = session := by
    intro one same held
    rw [same, before] at held
    exact (Option.some.inj held).symm
  refine ⟨tables.device, ?_, ?_, ?_⟩
  · intro deviceID one found
    have held := tables.held deviceID one found
    by_cases same : one.writer = self
    · rw [mine one same held, own, Function.update_self]
      rfl
    · rw [Function.update_of_ne same]
      exact held
  · intro one found listens
    have apart : one.writer ≠ self := by
      intro same
      rw [same, Function.update_self] at listens
      cases listens
    rw [Function.update_of_ne apart] at listens
    rcases tables.announced one found listens with ⟨peer, present, writer⟩
    refine ⟨peer, ?_, writer⟩
    rw [dropPeer_lookup, same, if_neg]
    · exact present
    · rintro ⟨_, equal⟩
      rw [present, Option.map_some, writer, own] at equal
      exact apart (Option.some.inj (Option.some.inj equal))
  · intro deviceID peer found
    rw [dropPeer_lookup, same] at found
    split at found
    · cases found
    rename_i foreign
    rcases tables.owned deviceID peer found with ⟨one, device, writer, listens, now⟩
    have apart : one.writer ≠ self := by
      intro same
      have equal := mine one same (by rw [listens]; rfl)
      rw [equal] at device writer
      exact foreign ⟨device.symm, by rw [found, Option.map_some, writer]⟩
    refine ⟨one, device, writer, by rw [Function.update_of_ne apart]; exact listens, ?_⟩
    rcases now with same | ⟨current, there, registers⟩
    · exact .inl same
    · refine .inr ⟨current, there, ?_⟩
      have elsewhere : current.writer ≠ self := by
        intro same
        rw [same, before] at registers
        cases registers
      rw [Function.update_of_ne elsewhere]
      exact registers

theorem leave {m : AgentManager} (tables : Tables m.agentsByDevice peers stage)
    (own : session.writer = self) (before : stage self = .leaving session) :
    Tables (m.removeOnline session).agentsByDevice peers
      (Function.update stage self .outside) := by
  have fewer : ∀ deviceID one,
      (m.removeOnline session).agentsByDevice.lookup deviceID = some one →
      m.agentsByDevice.lookup deviceID = some one ∧ one.writer ≠ self := by
    intro deviceID one found
    rw [removeOnline_lookup] at found
    split at found
    · cases found
    · rename_i foreign
      refine ⟨found, fun same => foreign ?_⟩
      have held := tables.held deviceID one found
      rw [same, before] at held
      cases held
      exact ⟨(tables.device deviceID _ found).symm, found⟩
  have kept : ∀ deviceID one, m.agentsByDevice.lookup deviceID = some one → one.writer ≠ self →
      (m.removeOnline session).agentsByDevice.lookup deviceID = some one := by
    intro deviceID one found foreign
    rw [removeOnline_lookup, if_neg]
    · exact found
    · rintro ⟨_, equal⟩
      rw [found, Option.some.injEq] at equal
      exact foreign (equal ▸ own)
  refine ⟨fun deviceID one found => tables.device deviceID one (fewer deviceID one found).1,
    ?_, ?_, ?_⟩
  · intro deviceID one found
    rcases fewer deviceID one found with ⟨present, foreign⟩
    rw [Function.update_of_ne foreign]
    exact tables.held deviceID one present
  · intro one found listens
    rcases fewer one.deviceID one found with ⟨present, foreign⟩
    rw [Function.update_of_ne foreign] at listens
    exact tables.announced one present listens
  · intro deviceID peer found
    rcases tables.owned deviceID peer found with ⟨one, device, writer, listens, now⟩
    have apart : one.writer ≠ self := by
      intro same
      rw [same, before] at listens
      cases listens
    refine ⟨one, device, writer, by rw [Function.update_of_ne apart]; exact listens, ?_⟩
    rcases now with same | ⟨current, there, registers⟩
    · exact .inl (kept deviceID one same apart)
    · have elsewhere : current.writer ≠ self := by
        intro same
        rw [same, before] at registers
        cases registers
      refine .inr ⟨current, kept deviceID current there elsewhere, ?_⟩
      rw [Function.update_of_ne elsewhere]
      exact registers

end Tables

/-! ## Runs -/

variable {netip : Signaling.Netip} {pool : RelayPool} {self : Nat} {choice : Choice}
  {thread next : Thread} {moved : AgentManager}

def TablesHold (pool : RelayPool) : Prop :=
  Tables pool.shared.agentsByDevice pool.shared.coordinator.peers (stageOf pool)

theorem TablesHold.handler (hold : TablesHold pool) {stage : Stage}
    (step : StageStep self pool.shared (stageOf pool self) moved stage)
    (turn : ∀ session, stageOf pool self = .registered session →
      ∃ current ∈ pool.shared.agentsByDevice.lookup session.deviceID,
        current = session ∨ stageOf pool current.writer = .registered current) :
    Tables moved.agentsByDevice moved.coordinator.peers
      (Function.update (stageOf pool) self stage) := by
  have own : ∀ session, (stageOf pool self).session? = some session → session.writer = self :=
    fun session => stageOf_session
  generalize before : stageOf pool self = stage_ at step
  cases step with
  | stay same =>
      rw [← before, Function.update_eq_self, same.agentsByDevice, same.peers]
      exact hold
  | drop same unregistered =>
      rw [same.agentsByDevice, same.peers]
      refine hold.outside ?_ rfl
      rw [before]
      cases stage_ with
      | outside | admitted | holding => rfl
      | registered session => exact absurd rfl (unregistered session).1
      | listening session => exact absurd rfl (unregistered session).2.1
      | leaving session => exact absurd rfl (unregistered session).2.2
  | accept same =>
      rw [same.agentsByDevice, same.peers]
      exact hold.outside (by rw [before]; rfl) rfl
  | enroll | allocate | create | update => exact hold.outside (by rw [before]; rfl) rfl
  | register mine =>
      rw [registerOnline_coordinator]
      exact hold.register mine (by rw [before]; rfl)
  | announce same peers writer =>
      rw [same.agentsByDevice, peers]
      exact hold.announce (own _ (by rw [before]; rfl)) before writer (turn _ before)
  | withdraw same peers =>
      rw [same.agentsByDevice, peers]
      exact hold.withdraw rfl (own _ (by rw [before]; rfl)) before
  | leave =>
      rw [removeOnline_coordinator]
      exact hold.leave (own _ (by rw [before]; rfl)) before

theorem TablesHold.console (hold : TablesHold pool) (step : ConsoleStep pool.shared thread moved)
    (stays : thread.disconnecting = none) :
    Tables moved.agentsByDevice moved.coordinator.peers (stageOf pool) := by
  cases step with
  | quiet same =>
      rw [same.agentsByDevice, same.peers]
      exact hold
  | disconnect held =>
      rw [stays] at held
      cases held
  | deleteAgent | releasePort | setEnabled | editInvitation => exact hold

theorem TablesHold.step (hold : TablesHold pool) {event : PoolEvent Thread Choice}
    {after : RelayPool} (inTurn : RegistersInTurn pool event)
    (taken : (program netip).machine.step pool event = some after) : TablesHold after := by
  rcases Program.step_cases taken with
    ⟨thread, rfl, enters, rfl⟩ | ⟨self, choice, thread, moved, next, rfl, present, step, rfl⟩
  · unfold TablesHold
    rw [stageOf_start enters]
    exact hold
  · rcases step_stages present step with ⟨stage, moves, stages⟩ | ⟨moves, stages⟩
    · unfold TablesHold
      rw [stages]
      exact hold.handler moves inTurn.2
    · unfold TablesHold
      rw [stages]
      exact hold.console moves (inTurn.1 thread present)

theorem tablesHold_new (db : Database) (portManager : PortManager) (nanoseconds : UInt32)
    (policy : AccessPolicy) (publicHost : GoString)
    (invitations : List (GoString × GoString × Time)) :
    TablesHold (initialPool
      (newAgentManager db portManager nanoseconds policy publicHost invitations)) :=
  .empty _

/-- Where every handler registers its peer in turn: in each state in which the
handlers of a device are settled, the device is online exactly when it is a peer,
and with the same writer. -/
theorem online_agrees_with_signaling {db : Database} {portManager : PortManager}
    {nanoseconds : UInt32} {policy : AccessPolicy} {publicHost : GoString}
    {invitations : List (GoString × GoString × Time)} {events : List (PoolEvent Thread Choice)}
    (run : (program netip).machine.Run RegistersInTurn
      (initialPool (newAgentManager db portManager nanoseconds policy publicHost invitations))
      events pool)
    {deviceID : GoString} (settled : Settled pool deviceID) :
    (pool.shared.coordinator.peers.lookup deviceID).map Signaling.ActivePeer.writer =
      (pool.shared.agentsByDevice.lookup deviceID).map fun session => some session.writer := by
  have hold : TablesHold pool := run.preserves (tablesHold_new _ _ _ _ _ _)
    fun _ _ _ hold inTurn taken => hold.step inTurn taken
  cases present : pool.shared.coordinator.peers.lookup deviceID with
  | some peer =>
      rcases hold.owned deviceID peer present with ⟨session, _, writer, _, now⟩
      rcases now with here | ⟨current, there, registers⟩
      · rw [here, Option.map_some, Option.map_some, writer]
      · exact absurd registers
          (settled current.writer current (hold.device deviceID current there)).1
  | none =>
      cases online : pool.shared.agentsByDevice.lookup deviceID with
      | none => rfl
      | some session =>
          have device := hold.device deviceID session online
          have held := hold.held deviceID session online
          cases stage : stageOf pool session.writer with
          | outside | admitted | holding =>
              rw [stage] at held
              cases held
          | registered one =>
              rw [stage] at held
              cases held
              exact absurd stage (settled session.writer session device).1
          | leaving one =>
              rw [stage] at held
              cases held
              exact absurd stage (settled session.writer session device).2
          | listening one =>
              rw [stage] at held
              cases held
              rw [← device] at online
              rcases hold.announced session online stage with ⟨peer, found, _⟩
              rw [device, present] at found
              cases found

def Stage.moving : Stage → Bool
  | .registered _ | .leaving _ => true
  | _ => false

theorem settled_of_stages (calm : ∀ stage ∈ stages pool, stage.moving = false)
    (deviceID : GoString) : Settled pool deviceID := by
  intro self session _
  have still := @forall_stageOf pool (fun stage => stage.moving = false) rfl calm self
  constructor
  · intro registers
    rw [registers] at still
    cases still
  · intro leaves
    rw [leaves] at still
    cases still

/-- A second connection of the device replaces the first one, which then finds its
stream closed and leaves. -/
theorem online_agrees_with_signaling_replaced :
    ∃ events pool, (program noCandidates).machine.Run RegistersInTurn (smallRelay knownDevice)
      events pool ∧
      pool.shared.agentsByDevice.lookup [65] = some ⟨[65], [], 10, 1⟩ ∧
      (pool.shared.coordinator.peers.lookup [65]).map Signaling.ActivePeer.writer =
        some (some 1) := by
  have found := (program noCandidates).machine.exists_run RegistersInTurn
    (fun pool => (∀ stage ∈ stages pool, stage.moving = false) ∧
      pool.shared.agentsByDevice.lookup [65] = some ⟨[65], [], 10, 1⟩) (smallRelay knownDevice)
    ([newConnection, newConnection] ++ turn 0 (signsIn ++ comesOnline ++ becomesPeer) ++
      turn 1 (signsIn ++ replaces ++ becomesPeer) ++ turn 0 goesOffline)
    (by decide +kernel)
  rcases found with ⟨pool, run, calm, online⟩
  refine ⟨_, pool, run, online, ?_⟩
  rw [online_agrees_with_signaling run (settled_of_stages calm [65]), online]
  rfl

/-- The first connection is in the online table when the second replaces it and
becomes the peer. Then the first becomes the peer, and takes the entry with it when
it leaves. -/
theorem online_without_peer :
    ∃ events pool, (program noCandidates).machine.Run ConnectionsOnly (smallRelay knownDevice)
      events pool ∧ Settled pool [65] ∧
      pool.shared.agentsByDevice.lookup [65] = some ⟨[65], [], 10, 1⟩ ∧
      pool.shared.coordinator.peers.lookup [65] = none := by
  have found := (program noCandidates).machine.exists_run ConnectionsOnly
    (fun pool => (∀ stage ∈ stages pool, stage.moving = false) ∧
      pool.shared.agentsByDevice.lookup [65] = some ⟨[65], [], 10, 1⟩ ∧
      pool.shared.coordinator.peers.lookup [65] = none) (smallRelay knownDevice)
    ([newConnection, newConnection] ++ turn 0 (signsIn ++ comesOnline) ++
      turn 1 (signsIn ++ replaces ++ becomesPeer) ++ turn 0 (becomesPeer ++ goesOffline))
    (by decide +kernel)
  rcases found with ⟨pool, run, calm, online, absent⟩
  exact ⟨_, pool, run, settled_of_stages calm [65], online, absent⟩

end Rdpulse.Relay
