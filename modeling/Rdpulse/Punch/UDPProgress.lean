import Rdpulse.Punch.UDPPunch

namespace Rdpulse.Punch.UDPPunch

open Foundation Protocol
open Rdpulse.Path (AddrPort Side)

/-! # A PUNCH that is handed over is believed

Any PUNCH packet of the session makes a waiting call succeed, with the source of the
datagram as its peer. -/

/-! ## The dispatcher -/

section Dispatcher

variable {data key : Bytes} {packet : PunchPacket} {entry : DispatchSession}

theorem dispatch_of_decoded {d : UDPDispatcher} {addr : AddrPort} {channel : PacketChannel}
    (registered : d.sessions.lookup packet.sessionID = some entry)
    (decoded : decodePunchPacket data entry.key = .ok packet)
    (found : d.channels[entry.packets]? = some channel)
    (room : channel.queue.length < dispatcherQueueSize) :
    (d.dispatch ⟨data, addr⟩).channels[entry.packets]? =
      some { channel with queue := channel.queue ++ [⟨data, addr⟩] } := by
  simp only [UDPDispatcher.dispatch, packetSessionID_of_decoded decoded, registered,
    validPacket_of_decoded decoded, if_true]
  rw [List.getElem?_modify_eq, found]
  simp [room]

end Dispatcher

/-! ## The call -/

section Calls

variable {self : Nat} {network : Network} {call : Call} {packet : UDPPacket}
  {channel : PacketChannel} {rest : List UDPPacket} {pkt ack : PunchPacket} {nonce : UInt64}
  {source peer : AddrPort}

theorem alone_main {action : Action} {next : Call} {choice : Choice} {later : List ThreadChoice}
    (planned : planMain network call choice = some (action, next)) :
    program.alone self network (.punchUDPDispatched call) (.main choice :: later) =
      program.alone self (action.apply network) (.punchUDPDispatched next) later := by
  simp [Program.alone, program, plan, planned]

theorem alone_goroutine {action : Action} {next : Call} {choice : Choice}
    {later : List ThreadChoice}
    (planned : planGoroutine network call choice = some (action, next)) :
    program.alone self network (.punchUDPDispatched call) (.goroutine choice :: later) =
      program.alone self (action.apply network) (.punchUDPDispatched next) later := by
  simp [Program.alone, program, plan, planned]

theorem make_of_keyed (keyed : call.sessionToken.length ≠ 0) (pktType : UInt8)
    (nonce : UInt64) : ∃ packet, call.make pktType nonce = some packet := by
  simp [Call.make, newPunchPacket, keyed, Except.toOption]

theorem planGoroutine_newAck (point : call.goroutine = .newAck peer)
    (made : call.make punchTypePunchAck nonce = some ack) :
    planGoroutine network call (.nonce nonce) =
      some (.create (call.creation ack), { call with goroutine := .ack peer ack }) := by
  simp [planGoroutine, point, made]

theorem planMain_newAck (point : call.main = .newAck peer)
    (made : call.make punchTypePunchAck nonce = some ack) :
    planMain network call (.nonce nonce) =
      some (.create (call.creation ack), { call with main := .acks peer ack 3 }) := by
  simp [planMain, point, made]

@[simp] theorem create_arrivals (creation : Creation) :
    ((Action.create creation).apply network).arrivals = network.arrivals := rfl

@[simp] theorem receive_arrivals (side : Side) (packets : Nat) :
    ((Action.receive side packets).apply network).arrivals = network.arrivals := rfl

@[simp] theorem write_arrivals (creation : Creation) (source destination : AddrPort) :
    ((Action.write creation source destination).apply network).arrivals = network.arrivals := by
  simp only [Action.apply]
  split <;> rfl

theorem goroutine_accepts (waits : call.goroutine = .select) (once : call.once = false)
    (found : (network.dispatchers call.side).channels[call.packets]? = some channel)
    (head : channel.queue = packet :: rest)
    (decoded : decodePunchPacket packet.data call.sessionToken = .ok pkt)
    (same : pkt.sessionID = call.sessionID) (isPunch : pkt.type = punchTypePunch)
    (made : call.make punchTypePunchAck nonce = some ack) (later : List ThreadChoice) :
    ∃ moved, moved.arrivals = network.arrivals ∧
      program.alone self network (.punchUDPDispatched call)
          ([Choice.proceed, .proceed, .nonce nonce, .source source, .proceed, .proceed].map
            ThreadChoice.goroutine ++ later) =
        program.alone self moved (.punchUDPDispatched
          { call with
            once := true
            confirmedPeer := some packet.addr
            successCh := some packet.addr }) later := by
  refine ⟨(Action.write (call.creation ack) source packet.addr).apply
    ((Action.create (call.creation ack)).apply
      ((Action.receive call.side call.packets).apply network)), by simp, ?_⟩
  have taken : planGoroutine network call .proceed =
      some (.receive call.side call.packets, { call with goroutine := .decode packet }) := by
    simp [planGoroutine, waits, found, head]
  have accepted : ∀ network, planGoroutine network { call with goroutine := .decode packet }
      .proceed = some (.nothing, { call with goroutine := .newAck packet.addr }) := fun network => by
    simp [planGoroutine, decoded, same, isPunch]
  have drawn : ∀ network, planGoroutine network { call with goroutine := .newAck packet.addr }
      (.nonce nonce) =
        some (.create (call.creation ack), { call with goroutine := .ack packet.addr ack }) :=
    fun network => planGoroutine_newAck rfl made
  have answered : ∀ network, planGoroutine network { call with goroutine := .ack packet.addr ack }
      (.source source) =
        some (.write (call.creation ack) source packet.addr,
          { call with goroutine := .confirm packet.addr }) := fun network => rfl
  have confirmed : ∀ network, planGoroutine network { call with goroutine := .confirm packet.addr }
      .proceed =
        some (.nothing,
          { call with
            once := true
            confirmedPeer := some packet.addr
            goroutine := .push packet.addr }) := fun network => by
    simp [planGoroutine, once]
  simp only [List.map_cons, List.map_nil, List.cons_append, List.nil_append]
  rw [alone_goroutine taken, alone_goroutine (accepted _), alone_goroutine (drawn _),
    alone_goroutine (answered _), alone_goroutine (confirmed _), alone_goroutine rfl, ← waits]
  rfl

theorem main_returns (waits : call.main = .select) (sent : call.successCh = some peer)
    (made : call.make punchTypePunchAck nonce = some ack) :
    ∃ moved, moved.arrivals = network.arrivals ∧
      program.alone self network (.punchUDPDispatched call)
          ([Choice.success, .nonce nonce, .source source, .source source, .source source,
            .proceed].map ThreadChoice.main) =
        some (moved, .punchUDPDispatched
          { call with successCh := none, done := true, main := .returned peer .kept }) := by
  refine ⟨(Action.write (call.creation ack) source peer).apply
    ((Action.write (call.creation ack) source peer).apply
      ((Action.write (call.creation ack) source peer).apply
        ((Action.create (call.creation ack)).apply network))), by simp, ?_⟩
  have told : planMain network call .success =
      some (.nothing, { call with successCh := none, main := .newAck peer }) := by
    simp [planMain, waits, sent]
  have drawn : ∀ network, planMain network { call with successCh := none, main := .newAck peer }
      (.nonce nonce) =
        some (.create (call.creation ack),
          { call with successCh := none, main := .acks peer ack 3 }) :=
    fun network => planMain_newAck rfl made
  simp only [List.map_cons, List.map_nil]
  rw [alone_main told, alone_main (drawn _), alone_main rfl, alone_main rfl, alone_main rfl,
    alone_main rfl]
  rfl

theorem call_succeeds (main : call.main = .select) (goroutine : call.goroutine = .select)
    (once : call.once = false) (keyed : call.sessionToken.length ≠ 0)
    (found : (network.dispatchers call.side).channels[call.packets]? = some channel)
    (head : channel.queue = packet :: rest)
    (decoded : decodePunchPacket packet.data call.sessionToken = .ok pkt)
    (same : pkt.sessionID = call.sessionID) (isPunch : pkt.type = punchTypePunch) :
    ∃ choices moved, moved.arrivals = network.arrivals ∧
      program.alone self network (.punchUDPDispatched call) choices =
        some (moved, .punchUDPDispatched
          { call with
            once := true
            confirmedPeer := some packet.addr
            successCh := none
            done := true
            main := .returned packet.addr .kept }) := by
  rcases make_of_keyed keyed punchTypePunchAck 0 with ⟨ack, made⟩
  rcases @goroutine_accepts self network call packet channel rest pkt ack 0 packet.addr goroutine
    once found head decoded same isPunch made _ with ⟨answered, arrivals, accepts⟩
  rcases @main_returns self answered
    { call with
      once := true
      confirmedPeer := some packet.addr
      successCh := some packet.addr } ack 0 packet.addr packet.addr main rfl made with
    ⟨moved, later, returns⟩
  exact ⟨_, moved, later.trans arrivals, accepts.trans returns⟩

end Calls

/-! ## The run -/

def IsCall : Thread → Prop
  | .punchUDPDispatched _ => True
  | _ => False

theorem isCall_kept (self : Nat) (network : Network) (thread : Thread) (choice : ThreadChoice)
    (moved : Network) (next : Thread) (isCall : IsCall thread)
    (taken : program.step self network thread choice = some (moved, next)) : IsCall next := by
  cases thread with
  | punchUDPDispatched call =>
      simp only [program, Option.map_eq_some_iff] at taken
      rcases taken with ⟨⟨action, _⟩, planned, equal⟩
      cases equal
      simp only [plan] at planned
      split at planned
      · simp only [Option.map_eq_some_iff] at planned
        rcases planned with ⟨_, _, equal⟩
        cases equal
        trivial
      · simp only [Option.map_eq_some_iff] at planned
        rcases planned with ⟨_, _, equal⟩
        cases equal
        trivial
      · cases planned
        trivial
      · cases planned
  | _ => cases isCall

structure Waiting (network : Network) (call : Call) : Prop where
  main : call.main = .select
  goroutine : call.goroutine = .select
  once : call.once = false
  keyed : call.sessionToken.length ≠ 0
  registered : ∃ entry ∈ (network.dispatchers call.side).sessions.lookup call.sessionID,
    entry.packets = call.packets ∧ entry.key = call.sessionToken
  empty : (network.dispatchers call.side).channels[call.packets]? = some ⟨[], false⟩

instance (network : Network) (call : Call) : Decidable (Waiting network call) :=
  decidable_of_iff
    (call.main = .select ∧ call.goroutine = .select ∧ call.once = false ∧
      call.sessionToken.length ≠ 0 ∧
      (∃ entry ∈ (network.dispatchers call.side).sessions.lookup call.sessionID,
        entry.packets = call.packets ∧ entry.key = call.sessionToken) ∧
      (network.dispatchers call.side).channels[call.packets]? = some ⟨[], false⟩)
    ⟨fun ⟨main, goroutine, once, keyed, registered, empty⟩ =>
      ⟨main, goroutine, once, keyed, registered, empty⟩,
     fun waiting => ⟨waiting.main, waiting.goroutine, waiting.once, waiting.keyed,
      waiting.registered, waiting.empty⟩⟩

/-- A PUNCH of the session that `readLoop` hands over while the call waits makes it
return the source of the datagram, whoever sent it. -/
theorem handed_succeeds {allowed : NetworkPool → PoolEvent Thread ThreadChoice → Prop}
    {pool : NetworkPool} {reader self : Nat} {flight : Flight} {call : Call} {pkt : PunchPacket}
    (reads : pool.threads[reader]? = some (.readLoop call.side (.dispatch flight)))
    (present : pool.threads[self]? = some (.punchUDPDispatched call))
    (waiting : Waiting pool.shared call)
    (decoded : decodePunchPacket flight.read call.sessionToken = .ok pkt)
    (same : pkt.sessionID = call.sessionID) (isPunch : pkt.type = punchTypePunch)
    (permitted : allowed pool (.advance reader .proceed))
    (free : ∀ (middle : NetworkPool) (thread : Thread) (choice : ThreadChoice),
      middle.threads[self]? = some thread → IsCall thread →
        allowed middle (.advance self choice)) :
    ∃ events finish, program.machine.Run allowed pool events finish ∧
      finish.shared.arrivals = pool.shared.arrivals ∧
      finish.threads[self]? = some (.punchUDPDispatched
        { call with
          once := true
          confirmedPeer := some flight.source
          successCh := none
          done := true
          main := .returned flight.source .kept }) := by
  rcases waiting.registered with ⟨entry, registered, packets, key⟩
  have apart : self ≠ reader := by
    rintro rfl
    rw [reads] at present
    cases present
  -- `readLoop` queues the packet
  have dispatched : program.machine.step pool (.advance reader .proceed) =
      some (pool.update reader
        ((Action.dispatch call.side ⟨flight.read, flight.source⟩).apply pool.shared)
        (.readLoop call.side .read)) :=
    Program.machine_advance reads rfl
  have waits := (Pool.update_other pool apart
    ((Action.dispatch call.side ⟨flight.read, flight.source⟩).apply pool.shared)
    (.readLoop call.side .read)).trans present
  have found : ((((Action.dispatch call.side ⟨flight.read, flight.source⟩).apply
      pool.shared).dispatchers call.side).channels[call.packets]?) =
        some ⟨[⟨flight.read, flight.source⟩], false⟩ := by
    have empty := waiting.empty
    rw [← same] at registered
    rw [← key] at decoded
    rw [← packets] at empty ⊢
    simp only [Action.apply, Network.setDispatcher, Function.update_self]
    exact dispatch_of_decoded registered decoded empty (by decide)
  rcases @call_succeeds self _ call ⟨flight.read, flight.source⟩ _ [] pkt waiting.main
    waiting.goroutine waiting.once waiting.keyed found rfl decoded same isPunch with
    ⟨choices, moved, arrivals, taken⟩
  have first := Machine.Run.single permitted dispatched
  have later := Program.run_alone_of IsCall isCall_kept waits trivial taken
    fun middle thread choice _ found isCall => free middle thread choice found isCall
  exact ⟨_, _, first.append later, arrivals, Pool.update_self waits _ _⟩

end Rdpulse.Punch.UDPPunch
