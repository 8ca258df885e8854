import Rdpulse.Foundation.Outputs
import Rdpulse.Relay.UDPIsolation

namespace Rdpulse.Relay.AgentDatagrams

open Foundation Protocol UDP

/-! Where the datagrams of an agent go. One loop receives them, so what goes to the
controllers and to the public clients follows the order in which the loop finds their
routes and their sessions. -/

def RelayThread.receives : RelayThread → Bool
  | .receiveFromAgent | .routing _ _ _ | .toController _ _ | .assembling _ _ | .lookup _ _
  | .writing _ _ _ => true
  | _ => false

structure SameLines (state next : AgentState) : Prop where
  fromAgent : next.fromAgent = state.fromAgent
  toControllers : next.toControllers = state.toControllers
  toClients : next.toClients = state.toClients

inductive LoopStep (state : AgentState) : RelayThread → AgentState → RelayThread → Prop
  | ends : LoopStep state .receiveFromAgent state .stopped
  | ignores {datagram next} (malformed : ∀ hdr payload, decodeUDP datagram ≠ .ok (hdr, payload))
      (lines : next = { state with fromAgent := state.fromAgent ++ [datagram] }) :
      LoopStep state .receiveFromAgent next .receiveFromAgent
  | receives {datagram hdr payload next} (decoded : decodeUDP datagram = .ok (hdr, payload))
      (lines : next = { state with fromAgent := state.fromAgent ++ [datagram] }) :
      LoopStep state .receiveFromAgent next (.routing hdr payload datagram)
  | routes {hdr payload datagram tr} (found : state.controllerRoutes.lookup hdr.sessionID = some tr) :
      LoopStep state (.routing hdr payload datagram) state (.toController tr datagram)
  | assembles {hdr payload datagram}
      (absent : state.controllerRoutes.lookup hdr.sessionID = none) :
      LoopStep state (.routing hdr payload datagram) state (.assembling hdr payload)
  | sends {tr datagram next} (lines : next =
      { state with toControllers := state.toControllers ++ [(tr, datagram)] }) :
      LoopStep state (.toController tr datagram) next .receiveFromAgent
  | feeds {hdr payload next} (lines : SameLines state next) :
      LoopStep state (.assembling hdr payload) next .receiveFromAgent
  | completes {hdr payload assembled next} (lines : SameLines state next) :
      LoopStep state (.assembling hdr payload) next (.lookup hdr.sessionID assembled)
  | misses {sessionID assembled next} (lines : SameLines state next)
      (absent : state.sessions.byID.lookup sessionID = none) :
      LoopStep state (.lookup sessionID assembled) next .receiveFromAgent
  | finds {sessionID assembled sess next} (lines : SameLines state next)
      (found : state.sessions.byID.lookup sessionID = some sess) :
      LoopStep state (.lookup sessionID assembled) next (.writing sess sessionID assembled)
  | writes {sess sessionID assembled s next} (present : state.sessions.sessions[sess]? = some s)
      (lines : next = { state with
        toClients := state.toClients ++ [⟨sess, sessionID, s.clientAddr, assembled⟩] }) :
      LoopStep state (.writing sess sessionID assembled) next .receiveFromAgent
  | elsewhere {thread next moved} (lines : SameLines state next)
      (before : thread.receives = false) (after : moved.receives = false) :
      LoopStep state thread next moved

variable {pool : RelayPool} {state shared : AgentState} {self : Nat} {thread moved : RelayThread}
  {choice : RelayChoice}

theorem step_loop (taken : step self state thread choice = some (shared, moved)) :
    LoopStep state thread shared moved := by
  cases thread with
  | receiveFromAgent =>
      simp only [step] at taken
      split at taken
      · cases taken
        exact .ends
      split at taken
      · rename_i failed
        cases taken
        refine .ignores (fun hdr payload decoded => ?_) rfl
        rw [failed] at decoded
        cases decoded
      · rename_i decoded
        cases taken
        exact .receives decoded rfl
  | routing hdr payload datagram =>
      simp only [step] at taken
      split at taken
      · rename_i found
        cases taken
        exact .routes found
      · rename_i absent
        cases taken
        exact .assembles absent
  | toController tr datagram =>
      cases taken
      exact .sends rfl
  | assembling hdr payload =>
      simp only [step] at taken
      split at taken
      · cases taken
        exact .completes ⟨rfl, rfl, rfl⟩
      · cases taken
        exact .feeds ⟨rfl, rfl, rfl⟩
  | lookup sessionID assembled =>
      simp only [step, SessionManager.getByID] at taken
      cases found : state.sessions.byID.lookup sessionID with
      | none =>
          rw [found] at taken
          cases taken
          exact .misses ⟨rfl, rfl, rfl⟩ found
      | some sess =>
          rw [found] at taken
          cases taken
          exact .finds ⟨rfl, rfl, rfl⟩ found
  | writing sess sessionID assembled =>
      simp only [step] at taken
      split at taken
      · cases taken
      · rename_i present
        cases taken
        exact .writes present rfl
  | refused | stopped => cases taken
  | _ =>
      simp only [step] at taken
      repeat' split at taken
      all_goals cases taken
      all_goals exact .elsewhere ⟨rfl, rfl, rfl⟩ rfl rfl

/-! ## What the loop finds, and what it sends -/

def decodes (datagram : Bytes) : Bool :=
  match decodeUDP datagram with
  | .ok _ => true
  | .error _ => false

/-- The loop reads the routes for a datagram. -/
def considered (_ : AgentState) : RelayThread → RelayThread → List Bytes
  | .routing _ _ datagram, _ => [datagram]
  | _, _ => []

/-- The loop finds a route: the controller, and the datagram. -/
def routed (state : AgentState) : RelayThread → RelayThread → List (Nat × Bytes)
  | .routing hdr _ datagram, _ =>
      ((state.controllerRoutes.lookup hdr.sessionID).map fun tr => (tr, datagram)).toList
  | _, _ => []

/-- `GetByID` finds a session: the session, its id, and the packet. -/
def found (state : AgentState) : RelayThread → RelayThread → List (Nat × UInt32 × Bytes)
  | .lookup sessionID packet, _ =>
      ((state.sessions.byID.lookup sessionID).map fun sess => (sess, sessionID, packet)).toList
  | _, _ => []

def Forwarded.target (forwarded : Forwarded) : Nat × UInt32 × Bytes :=
  (forwarded.sess, forwarded.sessionID, forwarded.packet)

def RelayThread.toConsider : RelayThread → List Bytes
  | .routing _ _ datagram => [datagram]
  | _ => []

def RelayThread.toRoute : RelayThread → List (Nat × Bytes)
  | .toController tr datagram => [(tr, datagram)]
  | _ => []

def RelayThread.toWrite : RelayThread → List (Nat × UInt32 × Bytes)
  | .writing sess sessionID packet => [(sess, sessionID, packet)]
  | _ => []

/-- The loop takes what comes from the agent in its order, and sends to each controller
and client what it has found for them, in that order and once. -/
structure Forwards (start : RelayPool) (events : List (PoolEvent RelayThread RelayChoice))
    (pool : RelayPool) : Prop where
  considers : pool.shared.fromAgent.filter decodes =
    program.machine.outputs (program.output considered) start events ++
      (pool.threads[0]?.map RelayThread.toConsider).getD []
  controllers : program.machine.outputs (program.output routed) start events =
    pool.shared.toControllers ++ (pool.threads[0]?.map RelayThread.toRoute).getD []
  clients : program.machine.outputs (program.output found) start events =
    pool.shared.toClients.map Forwarded.target ++
      (pool.threads[0]?.map RelayThread.toWrite).getD []

def OneLoop (pool : RelayPool) : Prop :=
  ∀ self thread, pool.threads[self]? = some thread → thread.receives = true → self = 0

theorem LoopStep.stays (taken : LoopStep state thread shared moved)
    (loops : moved.receives = true) : thread.receives = true := by
  cases taken with
  | elsewhere _ before after =>
      rw [after] at loops
      cases loops
  | ends => cases loops
  | _ => rfl

theorem OneLoop.start (one : OneLoop pool) (enters : thread.entry = true) :
    OneLoop (pool.start thread) := by
  intro self other present loops
  rcases Pool.start_cases present with old | ⟨_, rfl⟩
  · exact one self other old loops
  · cases other with
    | sessions | connect => cases loops
    | _ => cases enters

theorem OneLoop.update (one : OneLoop pool) (present : pool.threads[self]? = some thread)
    (taken : LoopStep pool.shared thread shared moved) :
    OneLoop (pool.update self shared moved) := by
  intro other next there loops
  by_cases same : other = self
  · subst same
    rw [Pool.update_self present, Option.some.injEq] at there
    subst there
    exact one other thread present (taken.stays loops)
  · rw [Pool.update_other pool same] at there
    exact one other next there loops

structure Quiet (state : AgentState) (thread moved : RelayThread) : Prop where
  considered : considered state thread moved = []
  routed : routed state thread moved = []
  found : found state thread moved = []
  toConsider : thread.toConsider = []
  toRoute : thread.toRoute = []
  toWrite : thread.toWrite = []

theorem quiet_of_outside (state : AgentState) (moved : RelayThread)
    (outside : thread.receives = false) : Quiet state thread moved := by
  cases thread with
  | receiveFromAgent | routing | toController | assembling | lookup | writing => cases outside
  | _ => exact ⟨rfl, rfl, rfl, rfl, rfl, rfl⟩

theorem LoopStep.considers (taken : LoopStep state thread shared moved) :
    ∃ arrived, shared.fromAgent.filter decodes = state.fromAgent.filter decodes ++ arrived ∧
      thread.toConsider ++ arrived = considered state thread moved ++ moved.toConsider := by
  cases taken with
  | @ignores datagram _ malformed lines =>
      have drops : decodes datagram = false := by
        unfold decodes
        split
        · rename_i decoded same
          exact absurd same (malformed decoded.1 decoded.2)
        · rfl
      exact ⟨[], by simp [lines, drops], rfl⟩
  | @receives datagram hdr payload _ decoded lines =>
      exact ⟨[datagram], by simp [lines, decodes, decoded], rfl⟩
  | sends lines | writes _ lines => exact ⟨[], by simp [lines], rfl⟩
  | feeds lines | completes lines | misses lines | finds lines =>
      exact ⟨[], by rw [lines.fromAgent, List.append_nil], rfl⟩
  | elsewhere lines before after =>
      refine ⟨[], by rw [lines.fromAgent, List.append_nil], ?_⟩
      rw [(quiet_of_outside state moved before).toConsider,
        (quiet_of_outside state moved before).considered,
        (quiet_of_outside state moved after).toConsider, List.append_nil]
  | ends | routes | assembles => exact ⟨[], by simp, rfl⟩

theorem LoopStep.controllers (taken : LoopStep state thread shared moved) :
    shared.toControllers ++ moved.toRoute =
      state.toControllers ++ thread.toRoute ++ routed state thread moved := by
  cases taken with
  | routes found => simp [routed, found, RelayThread.toRoute]
  | assembles absent => simp [routed, absent, RelayThread.toRoute]
  | ignores _ lines | receives _ lines | sends lines | writes _ lines =>
      simp [lines, routed, RelayThread.toRoute]
  | feeds lines | completes lines | misses lines | finds lines =>
      simp [lines.toControllers, routed, RelayThread.toRoute]
  | elsewhere lines before after =>
      simp only [lines.toControllers, (quiet_of_outside state moved before).toRoute,
        (quiet_of_outside state moved before).routed,
        (quiet_of_outside state moved after).toRoute, List.append_nil]
  | ends => simp [routed, RelayThread.toRoute]

theorem LoopStep.clients (taken : LoopStep state thread shared moved) :
    shared.toClients.map Forwarded.target ++ moved.toWrite =
      state.toClients.map Forwarded.target ++ thread.toWrite ++ found state thread moved := by
  cases taken with
  | misses lines absent => simp [lines.toClients, found, absent, RelayThread.toWrite]
  | finds lines present => simp [lines.toClients, found, present, RelayThread.toWrite]
  | ignores _ lines | receives _ lines | sends lines | writes _ lines =>
      simp [lines, found, Forwarded.target, RelayThread.toWrite]
  | feeds lines | completes lines => simp [lines.toClients, found, RelayThread.toWrite]
  | elsewhere lines before after =>
      simp only [lines.toClients, (quiet_of_outside state moved before).toWrite,
        (quiet_of_outside state moved before).found,
        (quiet_of_outside state moved after).toWrite, List.append_nil]
  | ends | routes | assembles => simp [found, RelayThread.toWrite]

variable {start : RelayPool} {events : List (PoolEvent RelayThread RelayChoice)}
  {allowed : RelayPool → PoolEvent RelayThread RelayChoice → Prop}

structure Forwarding (start : RelayPool) (events : List (PoolEvent RelayThread RelayChoice))
    (pool : RelayPool) : Prop extends Forwards start events pool where
  one : OneLoop pool
  loop : ∃ thread, pool.threads[0]? = some thread

theorem Forwarding.spawn (law : Forwarding start events pool)
    (run : program.machine.Run allowed start events pool) (enters : thread.entry = true)
    (taken : program.machine.step pool (.spawn thread) = some (pool.start thread)) :
    Forwarding start (events ++ [.spawn thread]) (pool.start thread) := by
  rcases law.loop with ⟨first, present⟩
  have same : (pool.start thread).threads[0]? = pool.threads[0]? := by
    rw [Pool.start_old present, present]
  refine ⟨⟨?_, ?_, ?_⟩, law.one.start enters, first, Pool.start_old present thread⟩
  · rw [run.outputs_snoc _ taken, Program.output_spawn, List.append_nil, same]
    exact law.considers
  · rw [run.outputs_snoc _ taken, Program.output_spawn, List.append_nil, same]
    exact law.controllers
  · rw [run.outputs_snoc _ taken, Program.output_spawn, List.append_nil, same]
    exact law.clients

theorem Forwarding.advance (law : Forwarding start events pool)
    (run : program.machine.Run allowed start events pool)
    (present : pool.threads[self]? = some thread)
    (taken : step self pool.shared thread choice = some (shared, moved)) :
    Forwarding start (events ++ [.advance self choice]) (pool.update self shared moved) := by
  have moves := step_loop taken
  have stepped : program.machine.step pool (.advance self choice) =
      some (pool.update self shared moved) := Program.machine_advance present taken
  have adds {Item : Type} (label : AgentState → RelayThread → RelayThread → List Item) :
      program.machine.outputs (program.output label) start (events ++ [.advance self choice]) =
        program.machine.outputs (program.output label) start events ++
          label pool.shared thread moved := by
    rw [run.outputs_snoc _ stepped, Program.output_advance present taken]
  have one := law.one.update present moves
  rcases law.loop with ⟨first, there⟩
  by_cases loops : self = 0
  · subst loops
    rw [present, Option.some.injEq] at there
    subst there
    have now : (pool.update 0 shared moved).threads[0]? = some moved :=
      Pool.update_self present _ _
    refine ⟨⟨?_, ?_, ?_⟩, one, moved, now⟩
    · rcases moves.considers with ⟨arrived, more, inHand⟩
      have before := law.considers
      rw [present, Option.map_some, Option.getD_some] at before
      rw [adds, now, Pool.update_shared, Option.map_some, Option.getD_some, more, before,
        List.append_assoc, List.append_assoc, inHand]
    · have before := law.controllers
      rw [present, Option.map_some, Option.getD_some] at before
      rw [adds, now, Pool.update_shared, Option.map_some, Option.getD_some, before]
      exact moves.controllers.symm
    · have before := law.clients
      rw [present, Option.map_some, Option.getD_some] at before
      rw [adds, now, Pool.update_shared, Option.map_some, Option.getD_some, before]
      exact moves.clients.symm
  · -- Another thread neither finds nor sends anything.
    have outside : thread.receives = false := by
      cases loop : thread.receives with
      | false => rfl
      | true => exact absurd (law.one self thread present loop) loops
    have outside' : moved.receives = false := by
      cases loop : moved.receives with
      | false => rfl
      | true => rw [moves.stays loop] at outside; cases outside
    have quiet := quiet_of_outside pool.shared moved outside
    have quiet' := quiet_of_outside pool.shared moved outside'
    have now : (pool.update self shared moved).threads[0]? = pool.threads[0]? :=
      Pool.update_other pool (Ne.symm loops) _ _
    refine ⟨⟨?_, ?_, ?_⟩, one, first, now.trans there⟩
    · rcases moves.considers with ⟨arrived, more, inHand⟩
      rw [quiet.toConsider, quiet.considered, quiet'.toConsider, List.append_nil,
        List.nil_append] at inHand
      rw [adds, quiet.considered, now, Pool.update_shared, more, inHand, List.append_nil,
        List.append_nil]
      exact law.considers
    · have kept := moves.controllers
      rw [quiet.toRoute, quiet.routed, quiet'.toRoute, List.append_nil, List.append_nil,
        List.append_nil] at kept
      rw [adds, quiet.routed, now, Pool.update_shared, kept, List.append_nil]
      exact law.controllers
    · have kept := moves.clients
      rw [quiet.toWrite, quiet.found, quiet'.toWrite, List.append_nil, List.append_nil,
        List.append_nil] at kept
      rw [adds, quiet.found, now, Pool.update_shared, kept, List.append_nil]
      exact law.clients

/-! ## Runs -/

theorem forwarding_initial (deviceID : GoString) (publicPort : UInt16) (idleTimeout : Int)
    (limits : SessionLimits) (reassemblyTimeout : Nat) (datagramPayload : Int)
    (counter : UInt32) :
    Forwarding (initialPool deviceID publicPort idleTimeout limits reassemblyTimeout
        datagramPayload counter) []
      (initialPool deviceID publicPort idleTimeout limits reassemblyTimeout datagramPayload
        counter) := by
  refine ⟨⟨rfl, rfl, rfl⟩, fun self thread present loops => ?_, _, rfl⟩
  rcases self with _ | _ | _ | _ | self
  · rfl
  · cases present
    cases loops
  · cases present
    cases loops
  · cases present
    cases loops
  · cases present

/-- What the datagrams of an agent session are to meet. -/
structure Isolated (pool : RelayPool) : Prop where
  /-- The ids of public clients and of controllers are apart. -/
  publicIDs : ∀ sessionID sess, pool.shared.sessions.byID.lookup sessionID = some sess →
    sessionID ≠ 0 ∧ sessionID &&& 0x80000000 = 0
  controllerIDs : ∀ sessionID tr, pool.shared.controllerRoutes.lookup sessionID = some tr →
    sessionID &&& 0x80000000 ≠ 0
  disjoint : ∀ sessionID, (pool.shared.sessions.byID.lookup sessionID).isSome = true →
    pool.shared.controllerRoutes.lookup sessionID = none
  /-- What went to a controller carries its own id. -/
  toControllers : ∀ tr datagram, (tr, datagram) ∈ pool.shared.toControllers →
    ∃ sessionID, Owns pool tr sessionID ∧ Carries datagram sessionID
  /-- What went to a client is made of datagrams with the id of its session. -/
  toClients : ∀ forwarded ∈ pool.shared.toClients, Delivered pool.shared forwarded
  /-- A datagram of the agent goes to the connected controller that has its id, and
  towards the clients if its id is none of a controller. -/
  routing : ∀ (self : Nat) (hdr : UDPHeader) (payload datagram : Bytes) (choice : RelayChoice)
    (shared : AgentState) (moved : RelayThread),
    pool.threads[self]? = some (.routing hdr payload datagram) →
    step self pool.shared (.routing hdr payload datagram) choice = some (shared, moved) →
    (∀ (tr : Nat) (loop : DatagramLoop),
      pool.threads[tr]? = some (.controller hdr.sessionID true loop) →
      moved = .toController tr datagram) ∧
    ((∀ (tr : Nat) (loop : DatagramLoop),
      pool.threads[tr]? ≠ some (.controller hdr.sessionID true loop)) →
      moved = .assembling hdr payload)
  /-- A packet for the clients goes to the session that has its id at `GetByID`. -/
  finding : ∀ (self : Nat) (sessionID : UInt32) (packet : Bytes) (choice : RelayChoice)
    (shared : AgentState) (moved : RelayThread),
    pool.threads[self]? = some (.lookup sessionID packet) →
    step self pool.shared (.lookup sessionID packet) choice = some (shared, moved) →
    (∀ sess, pool.shared.sessions.byID.lookup sessionID = some sess →
      moved = .writing sess sessionID packet) ∧
    (pool.shared.sessions.byID.lookup sessionID = none → moved = .receiveFromAgent)
  /-- It is written to the address of that session, whatever has become of it. -/
  writing : ∀ (self sess : Nat) (sessionID : UInt32) (packet : Bytes) (choice : RelayChoice),
    pool.threads[self]? = some (.writing sess sessionID packet) →
    ∃ s shared, pool.shared.sessions.sessions[sess]? = some s ∧ s.id = sessionID ∧
      step self pool.shared (.writing sess sessionID packet) choice =
        some (shared, .receiveFromAgent) ∧
      shared.toClients =
        pool.shared.toClients ++ [⟨sess, sessionID, s.clientAddr, packet⟩]
  /-- What a controller has sent to the agent carries its own id. -/
  fromControllers : ∀ tr datagram, (.controller tr, datagram) ∈ pool.shared.toAgent →
    ∃ sessionID, Owns pool tr sessionID ∧ Carries datagram sessionID

theorem isolated_of (ruled : Ruled pool) (owners : Owners pool) : Isolated pool where
  publicIDs sessionID sess found := by
    rcases ruled.sound.state.representation.byID sessionID sess found with ⟨_, _, _, nonzero, _⟩
    exact ⟨nonzero, ruled.sound.state.masked sessionID sess found⟩
  controllerIDs sessionID tr found := (ruled.sound.routes sessionID tr found).1
  disjoint sessionID present := by
    rcases Option.isSome_iff_exists.mp present with ⟨sess, found⟩
    cases route : pool.shared.controllerRoutes.lookup sessionID with
    | none => rfl
    | some tr =>
        exact absurd (ruled.sound.state.masked sessionID sess found)
          (ruled.sound.routes sessionID tr route).1
  toControllers := ruled.sound.controllers
  toClients := ruled.sound.state.clients
  routing self hdr payload datagram choice shared moved _ taken := by
    simp only [step] at taken
    refine ⟨fun tr loop serving => ?_, fun nobody => ?_⟩
    · rw [owners.routed tr hdr.sessionID loop serving] at taken
      cases taken
      rfl
    · split at taken
      · rename_i tr found
        rcases ruled.sound.routes _ tr found with ⟨_, loop, serving⟩
        exact absurd serving (nobody tr loop)
      · cases taken
        rfl
  finding self sessionID packet choice shared moved _ taken := by
    have moves := step_loop taken
    cases moves with
    | misses _ absent =>
        refine ⟨fun sess present => ?_, fun _ => rfl⟩
        rw [absent] at present
        cases present
    | finds _ present =>
        refine ⟨fun sess there => ?_, fun absent => ?_⟩
        · rw [present, Option.some.injEq] at there
          rw [there]
        · rw [present] at absent
          cases absent
    | elsewhere _ before => cases before
  writing self sess sessionID packet choice present := by
    rcases ruled.knows _ (Pool.mem_of_getElem? present) with ⟨_, s, here, named⟩
    exact ⟨s, { pool.shared with
      toClients := pool.shared.toClients ++ [⟨sess, sessionID, s.clientAddr, packet⟩] },
      here, named, by simp only [step, here], rfl⟩
  fromControllers := ruled.sound.agent

theorem forwards_of_run (deviceID : GoString) (publicPort : UInt16) (idleTimeout : Int)
    (limits : SessionLimits) (reassemblyTimeout : Nat) (datagramPayload : Int)
    (counter : UInt32)
    (run : program.machine.Run allowed
      (initialPool deviceID publicPort idleTimeout limits reassemblyTimeout datagramPayload
        counter) events pool) :
    Forwards (initialPool deviceID publicPort idleTimeout limits reassemblyTimeout
      datagramPayload counter) events pool := by
  refine (run.invariant (forwarding_initial _ _ _ _ _ _ _) fun past middle event next reached law
    _ taken => ?_).toForwards
  rcases Program.step_cases taken with
    ⟨thread, rfl, enters, rfl⟩ | ⟨self, choice, thread, shared, moved, rfl, present, step, rfl⟩
  · exact law.spawn reached enters taken
  · exact law.advance reached present step

def someChoice : RelayChoice where
  datagram := none
  client := ⟨.v4 0xC0000201, 5000⟩
  accepted := true
  datagrams := true
  loopMoves := true
  now := 0
  session := ⟨fun _ => 0, [some 5], 0⟩

def receiving (datagram : Bytes) : RelayChoice :=
  { someChoice with datagram := some datagram }

/-- A public client and a controller: a packet of each way for both. -/
def relayedEvents : List (PoolEvent RelayThread RelayChoice) :=
  [.advance 1 (receiving [1, 2]), .advance 1 someChoice, .advance 1 someChoice,
    .advance 1 someChoice, .spawn .connect, .advance 4 someChoice, .advance 4 someChoice,
    .advance 4 (receiving (encodeUDP 0x80000001 1 0 1 [7])), .advance 4 someChoice,
    .advance 0 (receiving (encodeUDP 0x80000001 1 0 1 [8])), .advance 0 someChoice,
    .advance 0 someChoice, .advance 0 (receiving (encodeUDP 5 1 0 1 [9])),
    .advance 0 someChoice, .advance 0 someChoice, .advance 0 someChoice, .advance 0 someChoice]

theorem otherRequests_run (self : Nat) (choice : RelayChoice) (n : Nat) (pool : RelayPool)
    (present : pool.threads[self]? = some .otherRequests) :
    program.machine.Run Machine.Unrestricted pool (List.replicate n (.advance self choice))
      { pool with shared := { pool.shared with
          nextSessionID := pool.shared.nextSessionID + UInt32.ofNat n } } := by
  induction n generalizing pool with
  | zero =>
      have same : pool.shared.nextSessionID + UInt32.ofNat 0 = pool.shared.nextSessionID :=
        UInt32.add_zero _
      rw [same]
      exact .nil
  | succ n induction =>
      let one : RelayPool := { pool with shared := { pool.shared with
        nextSessionID := pool.shared.nextSessionID + 1 } }
      have kept : pool.threads.set self .otherRequests = pool.threads := by
        rcases List.getElem?_eq_some_iff.mp present with ⟨bound, same⟩
        rw [← same]
        exact List.set_getElem_self bound
      have first : program.machine.step pool (.advance self choice) = some one := by
        simp [Program.machine, program, step, present, one, Pool.update, kept]
      have later := induction one present
      have counted : one.shared.nextSessionID + UInt32.ofNat n =
          pool.shared.nextSessionID + UInt32.ofNat (n + 1) := by
        rw [show n + 1 = 1 + n from Nat.add_comm n 1, UInt32.ofNat_add]
        exact UInt32.add_assoc _ _ _
      rw [List.replicate_succ]
      rw [counted] at later
      exact (Machine.Run.single trivial first).append later

def connected : RelayPool :=
  let start := initialPool [100] 3389 Clock.minute ⟨2, 1, 10⟩ 30 1200 0
  (program.machine.execute start
    [.spawn .connect, .advance 4 someChoice, .advance 4 someChoice]).getD start

theorem connected_run :
    program.machine.Run Machine.Unrestricted
      (initialPool [100] 3389 Clock.minute ⟨2, 1, 10⟩ 30 1200 0)
      [.spawn .connect, .advance 4 someChoice, .advance 4 someChoice] connected := by
  apply Machine.run_of_execute
  · cases executed : program.machine.execute
      (initialPool [100] 3389 Clock.minute ⟨2, 1, 10⟩ 30 1200 0)
      [.spawn .connect, .advance 4 someChoice, .advance 4 someChoice] with
    | none => exact absurd executed (by decide +kernel)
    | some pool => rw [connected, executed, Option.getD_some]
  · exact Machine.permits_unrestricted _ _

end Rdpulse.Relay.AgentDatagrams
