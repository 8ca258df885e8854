import Rdpulse.Relay.OnlineTables

namespace Rdpulse.Relay

open Foundation Protocol Storage

/-! The two lookups of a controller's handler. `GetAgentByDeviceID` reads the online
table; `HandleConnectRequest` reads the peers later, under another lock. Both give the
same connection of the device, unless a handler of the device is at work between its
registrations at one of them. -/

/-- A handler between its two lookups: the device that it asks for, and the session
that it has found online. -/
def Thread.looksUp : Thread → Option (GoString × AgentSession)
  | .handler (.controller _ request (.connect target .start))
  | .handler (.controller _ request (.connect target (.lookup _))) =>
      some (request.targetDeviceID, target)
  | _ => none

def Thread.findsTarget : Thread → Option GoString
  | .handler (.controller _ request .findTarget) => some request.targetDeviceID
  | _ => none

/-- A handler calls `RegisterPeer` while no later handler that has done so is online,
and while nobody is between the two lookups of its device; `GetAgentByDeviceID` finds
no session whose handler has yet to call it. -/
def LookupsUndisturbed (pool : RelayPool) : PoolEvent Thread Choice → Prop
  | .advance self _ =>
      (∀ session, stageOf pool self = .registered session →
        (∀ current ∈ pool.shared.agentsByDevice.lookup session.deviceID,
          current = session ∨ stageOf pool current.writer = .registered current) ∧
        ∀ thread ∈ pool.threads, thread.looksUp.map Prod.fst ≠ some session.deviceID) ∧
      ∀ thread ∈ pool.threads[self]?, ∀ deviceID ∈ thread.findsTarget,
        ∀ session ∈ pool.shared.agentsByDevice.lookup deviceID,
          stageOf pool session.writer ≠ .registered session
  | .spawn _ => True

instance (pool : RelayPool) (event : PoolEvent Thread Choice) :
    Decidable (LookupsUndisturbed pool event) := by
  rcases event with _ | ⟨self, choice⟩ <;> unfold LookupsUndisturbed <;> infer_instance

/-! ## The online table and the peers -/

structure Follows (online : OnlineTable) (peers : Signaling.PeerTable) (stage : Nat → Stage) :
    Prop where
  device : ∀ deviceID session, online.lookup deviceID = some session →
    session.deviceID = deviceID
  peer : ∀ deviceID session, online.lookup deviceID = some session →
    stage session.writer ≠ .registered session →
    ∀ peer, peers.lookup deviceID = some peer → peer.writer = some session.writer

namespace Follows

variable {online fewer : OnlineTable} {peers left : Signaling.PeerTable}
  {stage : Nat → Stage} {self : Nat} {next : Stage} {session : AgentSession}

theorem empty (stage : Nat → Stage) : Follows ∅ ∅ stage where
  device _ _ found := by cases found
  peer _ _ found := by cases found

theorem remove (follows : Follows online peers stage)
    (kept : ∀ deviceID session, fewer.lookup deviceID = some session →
      online.lookup deviceID = some session)
    (remains : ∀ deviceID peer, left.lookup deviceID = some peer →
      peers.lookup deviceID = some peer) : Follows fewer left stage where
  device deviceID session found := follows.device deviceID session (kept deviceID session found)
  peer deviceID session found past peer present :=
    follows.peer deviceID session (kept deviceID session found) past peer
      (remains deviceID peer present)

theorem move (follows : Follows online peers stage)
    (unregistered : ∀ session, stage self ≠ .registered session) :
    Follows online peers (Function.update stage self next) where
  device := follows.device
  peer deviceID session found past := by
    refine follows.peer deviceID session found fun registers => ?_
    by_cases same : session.writer = self
    · rw [same] at registers
      exact unregistered session registers
    · rw [Function.update_of_ne same] at past
      exact past registers

theorem register (follows : Follows online peers stage) (own : session.writer = self)
    (unregistered : ∀ session, stage self ≠ .registered session) :
    Follows (online.insert session.deviceID session) peers
      (Function.update stage self (.registered session)) := by
  refine ⟨fun deviceID one found => ?_, fun deviceID one found past => ?_⟩
  · by_cases same : deviceID = session.deviceID
    · subst same
      rw [AList.lookup_insert, Option.some.injEq] at found
      rw [found]
    · rw [AList.lookup_insert_ne same] at found
      exact follows.device deviceID one found
  · by_cases same : deviceID = session.deviceID
    · subst same
      rw [AList.lookup_insert, Option.some.injEq] at found
      rw [← found, own, Function.update_self] at past
      exact absurd rfl past
    · rw [AList.lookup_insert_ne same] at found
      exact (follows.move unregistered).peer deviceID one found past

theorem announce (follows : Follows online peers stage) {peer : Signaling.ActivePeer}
    (before : stage self = .registered session) (writer : peer.writer = some session.writer)
    (turn : ∀ current ∈ online.lookup session.deviceID,
      current = session ∨ stage current.writer = .registered current) :
    Follows online (peers.insert session.deviceID peer)
      (Function.update stage self (.listening session)) := by
  refine ⟨follows.device, fun deviceID one found past other present => ?_⟩
  by_cases device : deviceID = session.deviceID
  · subst device
    rw [AList.lookup_insert, Option.some.injEq] at present
    rw [← present, writer]
    by_cases same : one = session
    · rw [same]
    · -- A handler that is online in its place has yet to call `RegisterPeer`.
      have registers := (turn one found).resolve_left same
      have elsewhere : one.writer ≠ self := by
        intro mine
        rw [mine, before, Stage.registered.injEq] at registers
        exact same registers.symm
      rw [Function.update_of_ne elsewhere] at past
      exact absurd registers past
  · rw [AList.lookup_insert_ne device] at present
    refine follows.peer deviceID one found (fun registers => ?_) other present
    by_cases mine : one.writer = self
    · rw [mine, before, Stage.registered.injEq] at registers
      rw [registers] at device
      exact device (follows.device deviceID one found).symm
    · rw [Function.update_of_ne mine] at past
      exact past registers

end Follows

/-! ## One step -/

variable {netip : Signaling.Netip} {m moved : AgentManager} {pool : RelayPool} {self : Nat}
  {choice : Choice} {action : Action} {thread next : Thread} {stage : Stage}

theorem dropPeer_fewer {c : Signaling.SessionCoordinator} {deviceID one : GoString}
    {writer : Signaling.Writer} {peer : Signaling.ActivePeer}
    (found : (c.dropPeer deviceID writer).peers.lookup one = some peer) :
    c.peers.lookup one = some peer := by
  rw [Tables.dropPeer_lookup] at found
  split at found
  · cases found
  · exact found

theorem StageStep.peer_kept {before : Stage} (step : StageStep self m before moved stage)
    {deviceID : GoString} {peer : Signaling.ActivePeer}
    (other : ∀ session, before = .registered session → session.deviceID ≠ deviceID)
    (found : moved.coordinator.peers.lookup deviceID = some peer) :
    m.coordinator.peers.lookup deviceID = some peer := by
  cases step with
  | stay same | drop same | accept same =>
      rw [same.peers] at found
      exact found
  | enroll | allocate | create | update => exact found
  | register =>
      rw [registerOnline_coordinator] at found
      exact found
  | announce same peers =>
      rw [peers, AList.lookup_insert_ne (other _ rfl).symm] at found
      exact found
  | withdraw same peers =>
      rw [peers] at found
      exact dropPeer_fewer found
  | leave =>
      rw [removeOnline_coordinator] at found
      exact found

theorem ConsoleStep.peers (step : ConsoleStep m thread moved) :
    moved.coordinator.peers = m.coordinator.peers := by
  cases step with
  | quiet same => exact same.peers
  | disconnect => rw [removeDevice_coordinator]
  | deleteAgent | releasePort | setEnabled | editInvitation => rfl

theorem Follows.handler {stages : Nat → Stage}
    (follows : Follows m.agentsByDevice m.coordinator.peers stages)
    (step : StageStep self m (stages self) moved stage)
    (turn : ∀ session, stages self = .registered session →
      ∀ current ∈ m.agentsByDevice.lookup session.deviceID,
        current = session ∨ stages current.writer = .registered current) :
    Follows moved.agentsByDevice moved.coordinator.peers (Function.update stages self stage) := by
  generalize before : stages self = was at step
  have unregistered : (∀ session, was ≠ .registered session) →
      ∀ session, stages self ≠ .registered session := by
    rw [before]
    exact id
  cases step with
  | stay same =>
      rw [← before, Function.update_eq_self, same.agentsByDevice, same.peers]
      exact follows
  | drop same apart =>
      rw [same.agentsByDevice, same.peers]
      exact follows.move (unregistered fun session => (apart session).1)
  | accept same =>
      rw [same.agentsByDevice, same.peers]
      exact follows.move (unregistered fun _ equal => by cases equal)
  | enroll | allocate | create | update =>
      exact follows.move (unregistered fun _ equal => by cases equal)
  | register mine =>
      rw [registerOnline_coordinator]
      exact follows.register mine (unregistered fun _ equal => by cases equal)
  | announce same peers writer =>
      rw [same.agentsByDevice, peers]
      exact follows.announce before writer (turn _ before)
  | withdraw same peers =>
      rw [same.agentsByDevice, peers]
      exact (follows.move (unregistered fun _ equal => by cases equal)).remove
        (fun _ _ => id) fun _ _ => dropPeer_fewer
  | leave =>
      rw [removeOnline_coordinator]
      refine (follows.move (unregistered fun _ equal => by cases equal)).remove
        (fun deviceID session found => ?_) fun _ _ => id
      rw [removeOnline_lookup] at found
      split at found
      · cases found
      · exact found

theorem Follows.console {stages : Nat → Stage}
    (follows : Follows m.agentsByDevice m.coordinator.peers stages)
    (step : ConsoleStep m thread moved) :
    Follows moved.agentsByDevice moved.coordinator.peers stages := by
  rw [step.peers]
  cases step with
  | quiet same =>
      rw [same.agentsByDevice]
      exact follows
  | disconnect =>
      refine follows.remove (fun deviceID session found => ?_) fun _ _ => id
      rw [removeDevice_lookup] at found
      split at found
      · cases found
      · exact found
  | deleteAgent | releasePort | setEnabled | editInvitation => exact follows

/-- Of a handler between its lookups: the device has no other peer than the
connection that the handler has found online. -/
def Thread.FindsSame (peers : Signaling.PeerTable) (thread : Thread) : Prop :=
  ∀ deviceID target, thread.looksUp = some (deviceID, target) →
    ∀ peer, peers.lookup deviceID = some peer → peer.writer = some target.writer

end Rdpulse.Relay
