import Rdpulse.Punch.UDPPunch

namespace Rdpulse.Punch.UDPPunch

open Foundation Protocol
open Rdpulse.Path (AddrPort Side)

/-! # What a successful UDP punch says about its address

The address is the source of the first packet that the receive goroutine accepts.
The packet carries no role and nothing the receiver chose, so the tag alone does not
tell which end made it, nor that it came straight from there. -/

def IsPunch (packet : PunchPacket) : Prop :=
  packet.type = punchTypePunch ∨ packet.type = punchTypePunchAck

instance (packet : PunchPacket) : Decidable (IsPunch packet) :=
  inferInstanceAs (Decidable (_ ∨ _))

/-- A PUNCH or PUNCH_ACK that the other end created for the session has reached this
end from this address, put on the wire by its creator. -/
def Named (network : Network) (side : Side) (sessionID : UInt64) (token : Bytes)
    (remote : AddrPort) : Prop :=
  ∃ flight ∈ network.arrivals side, flight.source = remote ∧
    ∃ creation ∈ network.created, flight.sender = .creator creation ∧
      creation.author = side.other ∧ creation.sessionID = sessionID ∧
      creation.token = token ∧ IsPunch creation.packet

/-- Every successful call of the session names its peer. -/
def NamesPeer (sessionID : UInt64) (token : Bytes) (pool : NetworkPool) : Prop :=
  ∀ (self : Nat) (call : Call), pool.threads[self]? = some (.punchUDPDispatched call) →
    call.sessionID = sessionID → call.sessionToken = token →
    ∀ remote closing, call.main = .returned remote closing →
      Named pool.shared call.side sessionID token remote

/-! ## The assumption and the condition -/

/-- If the datagram carries a packet under this token, it was made with the token. -/
def Attributed (network : Network) (token : Bytes) (flight : Flight) : Prop :=
  match decodePunchPacket flight.read token with
  | .error _ => True
  | .ok packet =>
      match flight.sender with
      | .creator creation => creation.token = token
      | .host _ => ∃ creation ∈ network.created, creation.token = token ∧ creation.packet = packet

/-- The datagram is this end's own PUNCH or PUNCH_ACK of the session, or the copy of
one that a host has sent on. -/
def Replayed (network : Network) (side : Side) (sessionID : UInt64) (token : Bytes)
    (flight : Flight) : Prop :=
  match decodePunchPacket flight.read token with
  | .error _ => False
  | .ok packet =>
      packet.sessionID = sessionID ∧ IsPunch packet ∧
        match flight.sender with
        | .creator creation => creation.author = side
        | .host _ =>
            ∃ creation ∈ network.created, creation.token = token ∧ creation.packet = packet

@[simp] def PunchPoint.err : PunchPoint → Option PunchFailure
  | .cancel err | .release err | .drain err | .failed err => some err
  | _ => none

def Call.Reads (call : Call) : Prop :=
  call.goroutine ≠ .notStarted ∧ call.goroutine ≠ .exited ∨ call.main = .resolve

instance (call : Call) : Decidable call.Reads :=
  inferInstanceAs (Decidable (_ ∨ _))

/-- A call of the session at this end that waits for its peer. -/
def Call.Unconfirmed (side : Side) (sessionID : UInt64) (token : Bytes) : Thread → Prop
  | .punchUDPDispatched call =>
      call.side = side ∧ call.sessionID = sessionID ∧ call.sessionToken = token ∧
        call.main.err = none ∧ call.Reads ∧ call.once = false
  | _ => False

def Unforgeable (token : Bytes) (pool : NetworkPool) :
    PoolEvent Thread ThreadChoice → Prop
  | .spawn _ => True
  | .advance self _ =>
      match pool.threads[self]? with
      | some (.readLoop _ (.dispatch flight)) => Attributed pool.shared token flight
      | _ => True

/-- No replayed datagram is handed over while a call of the session at that end waits
for its peer. -/
def NotReplayed (sessionID : UInt64) (token : Bytes) (pool : NetworkPool) :
    PoolEvent Thread ThreadChoice → Prop
  | .spawn _ => True
  | .advance self _ =>
      match pool.threads[self]? with
      | some (.readLoop side (.dispatch flight)) =>
          (∃ thread ∈ pool.threads, Call.Unconfirmed side sessionID token thread) →
            ¬ Replayed pool.shared side sessionID token flight
      | _ => True

def Undisturbed (sessionID : UInt64) (token : Bytes) (pool : NetworkPool)
    (event : PoolEvent Thread ThreadChoice) : Prop :=
  Unforgeable token pool event ∧ NotReplayed sessionID token pool event

/-! ## What one action does to the network -/

section Actions

variable {network : Network} {action : Action}

@[simp] theorem setDispatcher_created (side : Side) (d : UDPDispatcher) :
    (network.setDispatcher side d).created = network.created := rfl

@[simp] theorem setDispatcher_flights (side : Side) (d : UDPDispatcher) :
    (network.setDispatcher side d).flights = network.flights := rfl

@[simp] theorem setDispatcher_arrivals (side : Side) (d : UDPDispatcher) :
    (network.setDispatcher side d).arrivals = network.arrivals := rfl

theorem apply_created {creation : Creation} (member : creation ∈ network.created) :
    creation ∈ (action.apply network).created := by
  cases action with
  | create added => exact List.mem_cons_of_mem _ member
  | register side sessionID key =>
      simp only [Action.apply]
      split <;> exact member
  | write added source destination =>
      simp only [Action.apply]
      split <;> exact member
  | _ => exact member

theorem apply_arrivals {side : Side} {flight : Flight} (member : flight ∈ network.arrivals side) :
    flight ∈ (action.apply network).arrivals side := by
  cases action with
  | arrive one added =>
      simp only [Action.apply]
      by_cases same : side = one
      · subst same
        rw [Function.update_self]
        exact List.mem_cons_of_mem _ member
      · rw [Function.update_of_ne same]
        exact member
  | register one sessionID key =>
      simp only [Action.apply]
      split <;> exact member
  | write added source destination =>
      simp only [Action.apply]
      split <;> exact member
  | _ => exact member

theorem setDispatcher_channels {side one : Side} {d : UDPDispatcher}
    (grows : (network.dispatchers one).channels.length ≤ d.channels.length) :
    (network.dispatchers side).channels.length ≤
      ((network.setDispatcher one d).dispatchers side).channels.length := by
  by_cases same : side = one
  · subst same
    simpa [Network.setDispatcher] using grows
  · simp [Network.setDispatcher, Function.update_of_ne same]

theorem apply_channels (side : Side) :
    (network.dispatchers side).channels.length ≤
      ((action.apply network).dispatchers side).channels.length := by
  cases action with
  | register one sessionID key =>
      simp only [Action.apply]
      split
      · rename_i opened registered answer
        apply setDispatcher_channels
        rw [(UDPDispatcher.register_queued answer).2.2.1]
        omega
      · exact le_rfl
  | write added source destination =>
      simp only [Action.apply]
      split <;> exact le_rfl
  | receive one packets => exact setDispatcher_channels (by simp)
  | release one sessionID packets => exact setDispatcher_channels (by simp)
  | drainPackets one packets => exact setDispatcher_channels (by simp)
  | close one => exact setDispatcher_channels (by simp)
  | dispatch one packet => exact setDispatcher_channels (by simp)
  | nothing | create _ | arrive _ _ | send _ _ _ => exact le_rfl

theorem setDispatcher_queued {side one : Side} {d : UDPDispatcher} {packets : Nat}
    {packet : UDPPacket}
    (member : packet ∈ ((network.setDispatcher one d).dispatchers side).queued packets) :
    packet ∈ (network.dispatchers side).queued packets ∨
      side = one ∧ packet ∈ d.queued packets := by
  by_cases same : side = one
  · subst same
    simp only [Network.setDispatcher, Function.update_self] at member
    exact .inr ⟨rfl, member⟩
  · simp only [Network.setDispatcher, Function.update_of_ne same] at member
    exact .inl member

theorem apply_queued {side : Side} {packets : Nat} {packet : UDPPacket}
    (bound : packets < (network.dispatchers side).channels.length)
    (member : packet ∈ ((action.apply network).dispatchers side).queued packets) :
    packet ∈ (network.dispatchers side).queued packets ∨ action = .dispatch side packet := by
  cases action with
  | register one sessionID key =>
      simp only [Action.apply] at member
      split at member
      · rename_i opened registered answer
        rcases setDispatcher_queued member with old | ⟨rfl, inside⟩
        · exact .inl old
        · rw [(UDPDispatcher.register_queued answer).2.2.2 _ bound] at inside
          exact .inl inside
      · exact .inl member
  | write added source destination =>
      simp only [Action.apply] at member
      split at member <;> exact .inl member
  | receive one packets =>
      rcases setDispatcher_queued member with old | ⟨rfl, inside⟩
      · exact .inl old
      · exact .inl (UDPDispatcher.receive_queued inside)
  | release one sessionID packets =>
      rcases setDispatcher_queued member with old | ⟨rfl, inside⟩
      · exact .inl old
      · exact .inl (UDPDispatcher.release_queued inside)
  | drainPackets one packets =>
      rcases setDispatcher_queued member with old | ⟨rfl, inside⟩
      · exact .inl old
      · exact .inl (UDPDispatcher.drainPackets_queued inside)
  | close one =>
      rcases setDispatcher_queued member with old | ⟨rfl, inside⟩
      · exact .inl old
      · exact .inl (UDPDispatcher.close_queued inside)
  | dispatch one added =>
      rcases setDispatcher_queued member with old | ⟨rfl, inside⟩
      · exact .inl old
      · rcases UDPDispatcher.dispatch_queued inside with old | rfl
        · exact .inl old
        · exact .inr rfl
  | nothing | create _ | arrive _ _ | send _ _ _ => exact .inl member

end Actions

/-! ## What is known of the network -/

/-- What was read was sent, what an end sent it had created, and what is created is
what `NewPunchPacket` makes. -/
structure NetworkSound (network : Network) : Prop where
  arrived : ∀ side, ∀ flight ∈ network.arrivals side, flight ∈ network.flights
  sent : ∀ flight ∈ network.flights, ∀ creation, flight.sender = .creator creation →
    creation ∈ network.created ∧ flight.data = creation.packet.encode
  made : ∀ creation ∈ network.created, ∃ pktType nonce,
    newPunchPacket pktType creation.sessionID creation.token nonce = .ok creation.packet ∧
      (pktType = punchTypePunch ∨ pktType = punchTypePunchAck ∨ pktType = punchTypeKeepalive)

@[simp] def Action.Sound (network : Network) : Action → Prop
  | .create creation => ∃ pktType nonce,
      newPunchPacket pktType creation.sessionID creation.token nonce = .ok creation.packet ∧
        (pktType = punchTypePunch ∨ pktType = punchTypePunchAck ∨ pktType = punchTypeKeepalive)
  | .write creation _ _ => creation ∈ network.created
  | .arrive _ flight => flight ∈ network.flights
  | _ => True

theorem NetworkSound.apply {network : Network} {action : Action} (sound : NetworkSound network)
    (fits : action.Sound network) : NetworkSound (action.apply network) := by
  cases action with
  | create added =>
      refine ⟨sound.arrived, fun flight member creation sender => ?_, fun creation member => ?_⟩
      · have old := sound.sent flight member creation sender
        exact ⟨List.mem_cons_of_mem _ old.1, old.2⟩
      · rcases List.mem_cons.mp member with rfl | old
        · exact fits
        · exact sound.made creation old
  | write added source destination =>
      simp only [Action.apply]
      split
      · exact sound
      refine ⟨fun side flight member => ?_, fun flight member creation sender => ?_, sound.made⟩
      · exact List.mem_append_left _ (sound.arrived side flight member)
      · rcases List.mem_append.mp member with old | new
        · exact sound.sent flight old creation sender
        · cases List.mem_singleton.mp new
          cases sender
          exact ⟨fits, rfl⟩
  | send source destination data =>
      refine ⟨fun side flight member => ?_, fun flight member creation sender => ?_, sound.made⟩
      · exact List.mem_append_left _ (sound.arrived side flight member)
      · rcases List.mem_append.mp member with old | new
        · exact sound.sent flight old creation sender
        · cases List.mem_singleton.mp new
          cases sender
  | arrive one added =>
      refine ⟨fun side flight member => ?_, sound.sent, sound.made⟩
      simp only [Action.apply] at member ⊢
      by_cases same : side = one
      · subst same
        rw [Function.update_self] at member
        rcases List.mem_cons.mp member with rfl | old
        · exact fits
        · exact sound.arrived side flight old
      · rw [Function.update_of_ne same] at member
        exact sound.arrived side flight member
  | register side sessionID key =>
      simp only [Action.apply]
      split
      · exact ⟨sound.arrived, sound.sent, sound.made⟩
      · exact sound
  | _ => exact ⟨sound.arrived, sound.sent, sound.made⟩

def Telling (network : Network) (side : Side) (sessionID : UInt64) (token : Bytes)
    (packet : UDPPacket) : Prop :=
  ∀ pkt, decodePunchPacket packet.data token = .ok pkt → pkt.sessionID = sessionID →
    IsPunch pkt → Named network side sessionID token packet.addr

theorem Named.apply {network : Network} {action : Action} {side : Side} {sessionID : UInt64}
    {token : Bytes} {remote : AddrPort} (named : Named network side sessionID token remote) :
    Named (action.apply network) side sessionID token remote := by
  rcases named with ⟨flight, arrived, source, creation, created, told⟩
  exact ⟨flight, apply_arrivals arrived, source, creation, apply_created created, told⟩

theorem Telling.apply {network : Network} {action : Action} {side : Side} {sessionID : UInt64}
    {token : Bytes} {packet : UDPPacket} (telling : Telling network side sessionID token packet) :
    Telling (action.apply network) side sessionID token packet :=
  fun pkt decoded same isPunch => (telling pkt decoded same isPunch).apply

theorem NetworkSound.decode_copy {network : Network} (sound : NetworkSound network)
    {creation : Creation} (created : creation ∈ network.created) {flight : Flight}
    (data : flight.data = creation.packet.encode) :
    decodePunchPacket flight.read creation.token = .ok creation.packet ∧
      creation.packet.sessionID = creation.sessionID := by
  rcases sound.made creation created with ⟨pktType, nonce, made, known⟩
  have whole : flight.read = creation.packet.encode ++ [] := by
    rw [Flight.read, data, List.append_nil]
    apply List.take_of_length_le
    rw [PunchPacket.encode_length]
    decide
  rw [whole]
  exact ⟨PunchPacket.decode_encode made known [], PunchPacket.new_sessionID made⟩

theorem telling_of_not_replayed {network : Network} (sound : NetworkSound network) {side : Side}
    {flight : Flight} (arrived : flight ∈ network.arrivals side) {sessionID : UInt64}
    {token : Bytes} (attributed : Attributed network token flight)
    (notReplayed : ¬ Replayed network side sessionID token flight) :
    Telling network side sessionID token ⟨flight.read, flight.source⟩ := by
  intro pkt decoded same isPunch
  simp only [Attributed, decoded] at attributed
  simp only [Replayed, decoded] at notReplayed
  cases sender : flight.sender with
  | host address =>
      simp only [sender] at attributed notReplayed
      exact absurd ⟨same, isPunch, attributed⟩ notReplayed
  | creator creation =>
      simp only [sender] at attributed notReplayed
      have sent := sound.arrived side flight arrived
      rcases sound.sent flight sent creation sender with ⟨created, data⟩
      have carried := sound.decode_copy created data
      rw [attributed, decoded, Except.ok.injEq] at carried
      refine ⟨flight, arrived, rfl, creation, created, sender, ?_, ?_, attributed, ?_⟩
      · have notOwn : creation.author ≠ side := fun own => notReplayed ⟨same, isPunch, own⟩
        exact (Path.Side.eq_or_other side creation.author).resolve_left notOwn
      · rw [← carried.2, ← carried.1, same]
      · rw [← carried.1]
        exact isPunch

/-! ## What is known of a call -/

@[simp] def PunchPoint.peer : PunchPoint → Option AddrPort
  | .newAck peer | .acks peer _ _ | .returned peer _ | .keepalive peer _ => some peer
  | _ => none

@[simp] def PunchPoint.packet : PunchPoint → Option PunchPacket
  | .punch packet _ | .acks _ packet _ | .keepalive _ packet => some packet
  | _ => none

@[simp] def ReceivePoint.packet : ReceivePoint → Option PunchPacket
  | .ack _ packet => some packet
  | _ => none

@[simp] def ReceivePoint.remote : ReceivePoint → Option AddrPort
  | .newAck remote | .ack remote _ | .confirm remote => some remote
  | _ => none

structure CallSound (network : Network) (call : Call) : Prop where
  main : ∀ packet, call.main.packet = some packet → call.creation packet ∈ network.created
  goroutine : ∀ packet, call.goroutine.packet = some packet →
    call.creation packet ∈ network.created

/-- What the receive goroutine knows. Only the first packet it accepts counts. -/
def GoroutineKnown (network : Network) (call : Call) : Prop :=
  match call.goroutine with
  | .decode packet =>
      call.once = false → Telling network call.side call.sessionID call.sessionToken packet
  | .newAck remote | .ack remote _ | .confirm remote =>
      call.once = false → Named network call.side call.sessionID call.sessionToken remote
  | .push remote => Named network call.side call.sessionID call.sessionToken remote
  | .notStarted | .select | .exited => True

/-- While the call waits for its peer, only packets that name the peer lie in its
channel; what it has accepted names the peer. -/
structure CallKnown (network : Network) (call : Call) : Prop where
  bound : call.Reads → call.packets < (network.dispatchers call.side).channels.length
  queued : call.Reads → call.once = false →
    ∀ packet ∈ (network.dispatchers call.side).queued call.packets,
      Telling network call.side call.sessionID call.sessionToken packet
  goroutine : GoroutineKnown network call
  successCh : ∀ peer, call.successCh = some peer →
    Named network call.side call.sessionID call.sessionToken peer
  main : ∀ peer, call.main.peer = some peer →
    Named network call.side call.sessionID call.sessionToken peer

section Calls

variable {network : Network} {action : Action} {call next : Call} {choice : Choice}

theorem CallSound.apply (sound : CallSound network call) :
    CallSound (action.apply network) call :=
  ⟨fun packet sending => apply_created (sound.main packet sending),
    fun packet sending => apply_created (sound.goroutine packet sending)⟩

theorem GoroutineKnown.apply (known : GoroutineKnown network call) :
    GoroutineKnown (action.apply network) call := by
  unfold GoroutineKnown at known ⊢
  revert known
  cases call.goroutine with
  | decode packet => exact fun known waits => (known waits).apply
  | newAck remote | ack remote _ | confirm remote => exact fun known waits => (known waits).apply
  | push remote => exact fun known => known.apply
  | notStarted | select | exited => exact id

theorem CallKnown.apply (known : CallKnown network call)
    (handed : call.Reads → call.once = false → ∀ packet, action = .dispatch call.side packet →
      Telling network call.side call.sessionID call.sessionToken packet) :
    CallKnown (action.apply network) call where
  bound reads := Nat.lt_of_lt_of_le (known.bound reads) (apply_channels call.side)
  queued reads waits packet member := by
    rcases apply_queued (known.bound reads) member with old | dispatched
    · exact (known.queued reads waits packet old).apply
    · exact (handed reads waits packet dispatched).apply
  goroutine := known.goroutine.apply
  successCh peer sent := (known.successCh peer sent).apply
  main peer told := (known.main peer told).apply

theorem make_sound (network : Network) {pktType : UInt8} {nonce : UInt64} {packet : PunchPacket}
    (made : call.make pktType nonce = some packet)
    (known : pktType = punchTypePunch ∨ pktType = punchTypePunchAck ∨
      pktType = punchTypeKeepalive) :
    (Action.create (call.creation packet)).Sound network := by
  refine ⟨pktType, nonce, ?_, known⟩
  unfold Call.make at made
  cases answer : newPunchPacket pktType call.sessionID call.sessionToken nonce with
  | error err => simp [answer, Except.toOption] at made
  | ok one =>
      simp only [answer, Except.toOption, Option.some.injEq] at made
      rw [← made]
      exact answer

structure MainStep (network : Network) (call : Call) (action : Action) (next : Call) :
    Prop where
  same : next.side = call.side ∧ next.sessionID = call.sessionID ∧
    next.sessionToken = call.sessionToken ∧ next.once = call.once
  err : next.main.err = none → call.main.err = none
  sound : action.Sound network
  packet : ∀ packet, next.main.packet = some packet →
    call.main.packet = some packet ∨ action = .create (call.creation packet)
  quiet : ∀ side packet, action ≠ .dispatch side packet
  silent : ∀ source destination data, action ≠ .send source destination data
  goroutine : next.goroutine = call.goroutine ∨ call.main = .resolve ∧ next.goroutine = .select
  packets : next.packets = call.packets ∧ next.main ≠ .resolve ∨
    next.main = .resolve ∧ action = .register call.side call.sessionID call.sessionToken ∧
      ∃ registered, (network.dispatchers call.side).register call.sessionID call.sessionToken =
        .ok (next.packets, registered)
  successCh : ∀ peer, next.successCh = some peer → call.successCh = some peer
  peer : ∀ peer, next.main.peer = some peer →
    call.main.peer = some peer ∨ call.successCh = some peer

theorem planMain_step (sound : CallSound network call)
    (planned : planMain network call choice = some (action, next)) :
    MainStep network call action next := by
  unfold planMain at planned
  cases point : call.main with
  | checkDispatcher =>
      simp only [point] at planned
      split at planned <;> cases planned <;> constructor <;> simp [point]
  | register =>
      simp only [point] at planned
      split at planned <;> cases planned
      · constructor <;> simp
      · rename_i registered answer
        constructor <;> simp [point, answer]
  | resolve =>
      simp only [point] at planned
      repeat' split at planned
      all_goals cases planned
      all_goals constructor <;> simp [point]
  | select =>
      simp only [point] at planned
      split at planned
      · simp only [Option.map_eq_some_iff] at planned
        rcases planned with ⟨peer, sent, equal⟩
        cases equal
        constructor <;> simp [point, sent]
      all_goals repeat' split at planned
      all_goals cases planned
      all_goals constructor <;> simp [point]
  | newPunch =>
      simp only [point] at planned
      split at planned
      · split at planned <;> cases planned
        · constructor <;> simp [point]
        · rename_i made
          have created := make_sound network made (.inl rfl)
          constructor <;> simp_all
      · cases planned
        constructor <;> simp [point]
      · cases planned
  | punch packet left =>
      have sending := sound.main packet (by simp [point])
      simp only [point] at planned
      repeat' split at planned
      all_goals cases planned
      all_goals constructor <;> simp_all
  | newAck peer =>
      simp only [point] at planned
      split at planned
      · simp only [Option.map_eq_some_iff] at planned
        rcases planned with ⟨packet, made, equal⟩
        cases equal
        have created := make_sound network made (.inr (.inl rfl))
        constructor <;> simp_all
      · cases planned
  | acks peer packet left =>
      have sending := sound.main packet (by simp [point])
      simp only [point] at planned
      repeat' split at planned
      all_goals cases planned
      all_goals constructor <;> simp_all
  | cancel err | release err | drain err =>
      simp only [point] at planned
      cases planned
      constructor <;> simp
  | failed err =>
      simp only [point] at planned
      cases planned
  | returned remoteAddr closing =>
      simp only [point] at planned
      split at planned
      · split at planned <;> cases planned
        rename_i made
        have created := make_sound network made (.inr (.inr rfl))
        constructor <;> simp_all
      all_goals cases planned
      all_goals constructor <;> simp [point]
  | keepalive remoteAddr packet =>
      have sending := sound.main packet (by simp [point])
      simp only [point] at planned
      split at planned <;> cases planned
      constructor <;> simp_all

def Accepts (call : Call) (remote : AddrPort) : Prop :=
  ∃ packet pkt, call.goroutine = .decode packet ∧ packet.addr = remote ∧
    decodePunchPacket packet.data call.sessionToken = .ok pkt ∧
    pkt.sessionID = call.sessionID ∧ IsPunch pkt

structure GoroutineStep (network : Network) (call : Call) (action : Action) (next : Call) :
    Prop where
  same : next.side = call.side ∧ next.sessionID = call.sessionID ∧
    next.sessionToken = call.sessionToken ∧ next.main = call.main ∧ next.packets = call.packets
  sound : action.Sound network
  packet : ∀ packet, next.goroutine.packet = some packet →
    call.goroutine.packet = some packet ∨ action = .create (call.creation packet)
  quiet : ∀ side packet, action ≠ .dispatch side packet
  silent : ∀ source destination data, action ≠ .send source destination data
  started : call.goroutine ≠ .notStarted ∧ call.goroutine ≠ .exited
  once : next.once = false → call.once = false
  successCh : ∀ peer, next.successCh = some peer →
    call.successCh = some peer ∨ call.goroutine = .push peer
  decode : ∀ packet, next.goroutine = .decode packet →
    packet ∈ (network.dispatchers call.side).queued call.packets
  remote : ∀ remote, next.goroutine.remote = some remote →
    call.goroutine.remote = some remote ∨ Accepts call remote
  push : ∀ remote, next.goroutine = .push remote →
    call.goroutine.remote = some remote ∧ call.once = false

theorem planGoroutine_step (sound : CallSound network call)
    (planned : planGoroutine network call choice = some (action, next)) :
    GoroutineStep network call action next := by
  unfold planGoroutine at planned
  cases point : call.goroutine with
  | notStarted | exited =>
      simp only [point] at planned
      cases planned
  | select =>
      simp only [point] at planned
      split at planned
      · split at planned <;> cases planned
        constructor <;> simp [point]
      · split at planned
        · cases planned
        rename_i channel found
        split at planned
        · rename_i packet rest waiting
          cases planned
          have queued : packet ∈ (network.dispatchers call.side).queued call.packets :=
            (UDPDispatcher.mem_queued found).mpr (by simp [waiting])
          constructor <;> simp [point, queued]
        · split at planned <;> cases planned
          constructor <;> simp [point]
      · cases planned
  | decode packet =>
      simp only [point] at planned
      split at planned
      · cases planned
        constructor <;> simp [point]
      · rename_i pkt decoded
        split at planned
        · cases planned
          constructor <;> simp [point]
        rename_i same
        have accepts : IsPunch pkt → Accepts call packet.addr := fun isPunch =>
          ⟨packet, pkt, point, rfl, decoded, not_not.mp same, isPunch⟩
        split at planned
        · rename_i isPunch
          cases planned
          constructor <;> simp [point, accepts (.inl isPunch)]
        split at planned <;> cases planned
        · rename_i isAck
          constructor <;> simp [point, accepts (.inr isAck)]
        · constructor <;> simp [point]
  | newAck remote =>
      simp only [point] at planned
      split at planned
      · split at planned <;> cases planned
        · constructor <;> simp [point]
        · rename_i made
          have created := make_sound network made (.inr (.inl rfl))
          constructor <;> simp_all
      · cases planned
        constructor <;> simp [point]
      · cases planned
  | ack remote packet =>
      have sending := sound.goroutine packet (by simp [point])
      simp only [point] at planned
      split at planned <;> cases planned
      constructor <;> simp_all
  | confirm remote =>
      simp only [point] at planned
      split at planned <;> cases planned
      · constructor <;> simp [point]
      · rename_i waits
        constructor <;> simp [point, waits]
  | push remote =>
      simp only [point] at planned
      cases planned
      constructor <;> simp [point]

theorem apply_register {side : Side} {sessionID : UInt64} {key : Bytes} {packets : Nat}
    {registered : UDPDispatcher}
    (answer : (network.dispatchers side).register sessionID key = .ok (packets, registered)) :
    ((Action.register side sessionID key).apply network).dispatchers side = registered := by
  simp [Action.apply, answer, Network.setDispatcher]

theorem CallSound.main_step (sound : CallSound network call)
    (step : MainStep network call action next) : CallSound (action.apply network) next := by
  rcases step.same with ⟨side, sessionID, token, _⟩
  have creation : ∀ packet, next.creation packet = call.creation packet := fun packet => by
    simp only [Call.creation, side, sessionID, token]
  refine ⟨fun packet sending => ?_, fun packet sending => ?_⟩
  · rw [creation]
    rcases step.packet packet sending with old | rfl
    · exact apply_created (sound.main packet old)
    · exact List.mem_cons_self
  · rw [creation]
    rcases step.goroutine with same | ⟨_, started⟩
    · rw [same] at sending
      exact apply_created (sound.goroutine packet sending)
    · simp [started] at sending

theorem CallSound.goroutine_step (sound : CallSound network call)
    (step : GoroutineStep network call action next) : CallSound (action.apply network) next := by
  rcases step.same with ⟨side, sessionID, token, main, _⟩
  have creation : ∀ packet, next.creation packet = call.creation packet := fun packet => by
    simp only [Call.creation, side, sessionID, token]
  refine ⟨fun packet sending => ?_, fun packet sending => ?_⟩
  · rw [main] at sending
    rw [creation]
    exact apply_created (sound.main packet sending)
  · rw [creation]
    rcases step.packet packet sending with old | rfl
    · exact apply_created (sound.goroutine packet old)
    · exact List.mem_cons_self

theorem MainStep.reads (step : MainStep network call action next) (kept : next.main ≠ .resolve)
    (reads : next.Reads) : call.Reads := by
  have started := reads.resolve_right kept
  rcases step.goroutine with same | ⟨resolving, _⟩
  · rw [same] at started
    exact .inl started
  · exact .inr resolving

theorem CallKnown.main_step (known : CallKnown network call)
    (step : MainStep network call action next) : CallKnown (action.apply network) next := by
  have later : CallKnown (action.apply network) call :=
    known.apply fun _ _ packet dispatched => absurd dispatched (step.quiet _ packet)
  rcases step.same with ⟨side, sessionID, token, once⟩
  refine ⟨fun reads => ?_, fun reads waits => ?_, ?_, fun peer sent => ?_, fun peer told => ?_⟩
  · rcases step.packets with ⟨packets, kept⟩ | ⟨_, rfl, registered, answer⟩
    · rw [packets, side]
      exact later.bound (step.reads kept reads)
    · rw [side, apply_register answer]
      have opened := UDPDispatcher.register_queued answer
      rw [opened.1, opened.2.2.1]
      exact Nat.lt_succ_self _
  · rcases step.packets with ⟨packets, kept⟩ | ⟨_, rfl, registered, answer⟩
    · rw [packets, side, sessionID, token]
      exact later.queued (step.reads kept reads) (once ▸ waits)
    · rw [side, apply_register answer, (UDPDispatcher.register_queued answer).2.1]
      exact fun _ member => absurd member List.not_mem_nil
  · rcases step.goroutine with same | ⟨_, started⟩
    · have here := later.goroutine
      simp only [GoroutineKnown, same, side, sessionID, token, once] at here ⊢
      exact here
    · simp [GoroutineKnown, started]
  · rw [side, sessionID, token]
    exact later.successCh peer (step.successCh peer sent)
  · rw [side, sessionID, token]
    rcases step.peer peer told with old | sent
    · exact later.main peer old
    · exact later.successCh peer sent

theorem CallKnown.remote (known : CallKnown network call) (waits : call.once = false)
    {remote : AddrPort} (about : call.goroutine.remote = some remote ∨ Accepts call remote) :
    Named network call.side call.sessionID call.sessionToken remote := by
  have here := known.goroutine
  rcases about with about | ⟨packet, pkt, decoding, rfl, decoded, same, isPunch⟩
  · unfold GoroutineKnown at here
    revert here about
    cases call.goroutine with
    | newAck one | ack one _ | confirm one =>
        intro here about
        cases about
        exact here waits
    | _ => intro here about; cases about
  · simp only [GoroutineKnown, decoding] at here
    exact here waits pkt decoded same isPunch

theorem CallKnown.goroutine_step (known : CallKnown network call)
    (step : GoroutineStep network call action next) : CallKnown (action.apply network) next := by
  have later : CallKnown (action.apply network) call :=
    known.apply fun _ _ packet dispatched => absurd dispatched (step.quiet _ packet)
  have reads : call.Reads := .inl step.started
  rcases step.same with ⟨side, sessionID, token, main, packets⟩
  refine ⟨fun _ => ?_, fun _ waits => ?_, ?_, fun peer sent => ?_, fun peer told => ?_⟩
  · rw [packets, side]
    exact later.bound reads
  · rw [packets, side, sessionID, token]
    exact later.queued reads (step.once waits)
  · unfold GoroutineKnown
    rw [side, sessionID, token]
    cases point : next.goroutine with
    | notStarted | select | exited => trivial
    | decode packet =>
        exact fun waits =>
          (known.queued reads (step.once waits) packet (step.decode packet point)).apply
    | newAck remote | ack remote _ | confirm remote =>
        exact fun waits =>
          (known.remote (step.once waits) (step.remote remote (by simp [point]))).apply
    | push remote =>
        rcases step.push remote point with ⟨about, waits⟩
        exact (known.remote waits (.inl about)).apply
  · rw [side, sessionID, token]
    rcases step.successCh peer sent with old | pushing
    · exact later.successCh peer old
    · have here := later.goroutine
      simp only [GoroutineKnown, pushing] at here
      exact here
  · rw [main] at told
    rw [side, sessionID, token]
    exact later.main peer told

end Calls

end Rdpulse.Punch.UDPPunch
