import Rdpulse.Foundation.Conservation
import Rdpulse.Punch.UDPDispatcher

namespace Rdpulse.Punch.Dispatching

open Foundation Protocol

/-! Everything that can happen to one dispatcher: registrations, calls of the release
functions and of `Close`, datagrams that its reader takes from the socket, and consumers
of the channels. A step is an operation on a channel or a section under the lock, and
the sections of `Close`, which takes several steps, keep the lock. -/

inductive Once
  | unused
  | running
  | finished
  deriving DecidableEq

/-- The dispatcher, and for each channel the session id and key it was registered with
and the `Once` of its release. `panicked` is set by a send on a closed channel and by
closing a channel twice; `enqueued` and `received` record what went into the channels
and what consumers took out. -/
structure State where
  d : UDPDispatcher
  registered : List (UInt64 × Bytes)
  onces : List Once
  closeOnce : Once
  connClosed : Bool
  locked : Bool
  panicked : Bool
  enqueued : List (Nat × UDPPacket)
  received : List (Nat × UDPPacket)

def newState : State where
  d := newUDPDispatcher
  registered := []
  onces := []
  closeOnce := .unused
  connClosed := false
  locked := false
  panicked := false
  enqueued := []
  received := []

inductive Thread
  /-- `readLoop`, in the read, with a datagram, and after it. -/
  | reading
  | holding (packet : UDPPacket)
  | stopped
  | register (sessionID : UInt64) (key : Bytes)
  | answered (answer : Except RegisterError Nat)
  /-- A release function, before and in its `Once`, and in `drainPackets`. -/
  | release (packets : Nat)
  | releasing (packets : Nat)
  | draining (packets : Nat)
  | released (packets : Nat)
  /-- `Close`, before and in its `Once`, and then under the lock. -/
  | close
  | closeDone
  | closeConn
  | closeLock
  | closeSessions
  | closeDrain (packets : Nat)
  | closed
  | consume (packets : Nat)
  | consumed (packet : Option UDPPacket)
  deriving DecidableEq

def Thread.entry : Thread → Bool
  | .register _ _ | .release _ | .close | .consume _ => true
  | _ => false

/-- What the code leaves open: the outcome of a read, and which session the iteration
over the map gives next. -/
structure Choice where
  datagram : Option UDPPacket
  next : UInt64

namespace State

variable (state : State)

def channelClosed (packets : Nat) : Bool :=
  (state.d.channels[packets]?).any PacketChannel.closed

def target (packet : UDPPacket) : Option Nat :=
  match packetSessionID packet.data with
  | none => none
  | some sessionID =>
      match state.d.sessions.lookup sessionID with
      | none => none
      | some entry =>
          if entry.validPacket packet.data sessionID then some entry.packets else none

def hasRoom (packets : Nat) : Bool :=
  (state.d.channels[packets]?).any fun channel => channel.queue.length < dispatcherQueueSize

def dispatch (packet : UDPPacket) : State :=
  match state.target packet with
  | none => state
  | some packets =>
      { state with
        d := state.d.dispatch packet
        panicked := state.panicked || state.channelClosed packets
        enqueued :=
          if state.hasRoom packets then state.enqueued ++ [(packets, packet)]
          else state.enqueued }

/-- Takes a session out of the map and closes its channel, if it is the one expected. -/
def remove (sessionID : UInt64) (packets : Nat) : State :=
  { state with
    d := state.d.release sessionID packets
    panicked := state.panicked ||
      ((state.d.sessions.lookup sessionID).any (·.packets = packets) &&
        state.channelClosed packets) }

/-- A receive; `none` when it would wait, and a packet unless the channel is closed. -/
def receive (packets : Nat) : Option (Option UDPPacket × State) :=
  match state.d.channels[packets]? with
  | none => none
  | some channel =>
      match channel.queue.head? with
      | some packet => some (some packet, { state with d := state.d.receive packets })
      | none => if channel.closed then some (none, state) else none

end State

def step (_ : Nat) (state : State) (thread : Thread) (choice : Choice) :
    Option (State × Thread) :=
  match thread with
  | .reading =>
      match choice.datagram with
      | none => some (state, .stopped)
      | some packet => if state.connClosed then none else some (state, .holding packet)
  | .holding packet =>
      if state.locked then none else some (state.dispatch packet, .reading)
  | .register sessionID key =>
      if state.locked then none
      else
        match state.d.register sessionID key with
        | .error failure => some (state, .answered (.error failure))
        | .ok (packets, d) =>
            some ({ state with
              d
              registered := state.registered ++ [(sessionID, key)]
              onces := state.onces ++ [.unused] }, .answered (.ok packets))
  | .release packets =>
      match state.onces[packets]? with
      | some .unused =>
          some ({ state with onces := state.onces.set packets .running }, .releasing packets)
      | some .finished => some (state, .released packets)
      | _ => none
  | .releasing packets =>
      if state.locked then none
      else
        match state.registered[packets]? with
        | none => none
        | some (sessionID, _) => some (state.remove sessionID packets, .draining packets)
  | .draining packets =>
      match state.receive packets with
      | some (some _, state) => some (state, .draining packets)
      | _ => some ({ state with onces := state.onces.set packets .finished }, .released packets)
  | .close =>
      match state.closeOnce with
      | .unused => some ({ state with closeOnce := .running }, .closeDone)
      | .running => none
      | .finished => some (state, .closed)
  | .closeDone =>
      some ({ state with
        d := { state.d with done := true }
        panicked := state.panicked || state.d.done }, .closeConn)
  | .closeConn => some ({ state with connClosed := true }, .closeLock)
  | .closeLock => if state.locked then none else some ({ state with locked := true }, .closeSessions)
  | .closeSessions =>
      match state.d.sessions.entries with
      | [] => some ({ state with locked := false, closeOnce := .finished }, .closed)
      | _ =>
          match state.d.sessions.lookup choice.next with
          | none => none
          | some entry =>
              some (state.remove choice.next entry.packets, .closeDrain entry.packets)
  | .closeDrain packets =>
      match state.receive packets with
      | some (some _, state) => some (state, .closeDrain packets)
      | _ => some (state, .closeSessions)
  | .consume packets =>
      match state.receive packets with
      | none => none
      | some (none, state) => some (state, .consumed none)
      | some (some packet, state) =>
          some ({ state with received := state.received ++ [(packets, packet)] },
            .consumed (some packet))
  | .stopped | .answered _ | .released _ | .closed | .consumed _ => none

def program : Program State Thread Choice where
  entry := Thread.entry
  step := step

abbrev DispatchPool := Pool State Thread

def initialPool : DispatchPool where
  shared := newState
  threads := [.reading]

variable {state : State} {packets : Nat}

/-! ## What the dispatcher keeps -/

def Gone (state : State) (packets : Nat) : Prop :=
  ∀ sessionID entry, state.d.sessions.lookup sessionID = some entry → entry.packets ≠ packets

/-- A packet that belongs to a session: a punch packet under its key and with its id,
or a data packet of its codec. -/
def Accepts (sessionID : UInt64) (key packet : Bytes) : Prop :=
  (∃ decoded, decodePunchPacket packet key = .ok decoded ∧ decoded.sessionID = sessionID) ∨
    ∃ codec datagram, sessionID.toNat < 2 ^ 32 ∧
      newP2PCodec sessionID.toUInt32 key = .ok codec ∧ codec.decode packet = .ok datagram

structure Sound (state : State) : Prop where
  registered : state.registered.length = state.d.channels.length
  onces : state.onces.length = state.d.channels.length
  sessions : ∀ sessionID entry, state.d.sessions.lookup sessionID = some entry →
    ∃ key, state.registered[entry.packets]? = some (sessionID, key) ∧
      entry = newDispatchSession entry.packets sessionID key ∧
      state.channelClosed entry.packets = false
  enqueued : ∀ packets packet, (packets, packet) ∈ state.enqueued →
    ∃ sessionID key, state.registered[packets]? = some (sessionID, key) ∧
      Accepts sessionID key packet.data
  queued : ∀ packets packet, packet ∈ state.d.queued packets → (packets, packet) ∈ state.enqueued
  received : ∀ packets packet, (packets, packet) ∈ state.received →
    (packets, packet) ∈ state.enqueued
  finished : ∀ packets : Nat, state.onces[packets]? = some .finished → Gone state packets
  closed : state.closeOnce = .finished → state.d.sessions = ∅ ∧ state.d.done = true
  safe : state.panicked = false

/-- What a step never undoes: a registration that is gone stays so and gets no more
packets. -/
structure Kept (state next : State) : Prop where
  length : state.registered.length ≤ next.registered.length
  gone : ∀ packets < state.registered.length, Gone state packets → Gone next packets ∧
    next.enqueued.filter (·.1 = packets) = state.enqueued.filter (·.1 = packets)
  finished : ∀ packets : Nat, state.onces[packets]? = some .finished →
    next.onces[packets]? = some .finished
  done : state.d.done = true → next.d.done = true
  closed : state.closeOnce = .finished → next.closeOnce = .finished

theorem kept_refl (state : State) : Kept state state :=
  ⟨Nat.le_refl _, fun _ _ gone => ⟨gone, rfl⟩, fun _ => id, id, id⟩

theorem sound_new : Sound newState where
  registered := rfl
  onces := rfl
  sessions sessionID entry found := by cases found
  enqueued packets packet member := by cases member
  queued packets packet member := by simp [newState, newUDPDispatcher, UDPDispatcher.queued] at member
  received packets packet member := by cases member
  finished packets found := by simp [newState] at found
  closed closed := by cases closed
  safe := rfl

/-! ## The parsers -/

theorem accepts_of_valid {sessionID : UInt64} {key packet : Bytes}
    (valid : (newDispatchSession packets sessionID key).validPacket packet sessionID = true) :
    Accepts sessionID key packet := by
  simp only [DispatchSession.validPacket] at valid
  split at valid
  · cases valid
  split at valid
  · split at valid
    · rename_i decoded found
      exact .inl ⟨decoded, found, of_decide_eq_true valid⟩
    · cases valid
  split at valid
  · split at valid
    · cases valid
    · rename_i codec found
      simp only [newDispatchSession] at found
      split at found
      · rename_i narrow
        cases made : newP2PCodec sessionID.toUInt32 key with
        | error failure => simp [made, Except.toOption] at found
        | ok own =>
            simp only [made, Except.toOption, Option.some.injEq] at found
            subst found
            cases opened : own.decode packet with
            | error failure => simp [opened, Except.isOk, Except.toBool] at valid
            | ok datagram => exact .inr ⟨own, datagram, narrow, made, opened⟩
      · cases found
  · cases valid

theorem Accepts.sessionID {sessionID : UInt64} {key packet : Bytes}
    (accepts : Accepts sessionID key packet) : packetSessionID packet = some sessionID := by
  rcases accepts with ⟨decoded, opened, rfl⟩ | ⟨codec, datagram, narrow, made, opened⟩
  · exact packetSessionID_of_decoded opened
  · have own : codec.sessionID = sessionID.toUInt32 := by
      simp only [newP2PCodec] at made
      split at made <;> cases made
      rfl
    simp only [P2PCodec.decode] at opened
    split at opened
    · cases opened
    split at opened
    · cases opened
    split at opened
    · cases opened
    rename_i long magic session
    simp only [p2pDataHeaderSize, p2pDataMACSize, not_lt] at long
    have other : p2pDataMagic ≠ punchMagic := by decide
    rw [not_not] at magic session
    rw [packetSessionID, if_neg (by omega), if_neg (by rw [magic]; exact other), if_pos magic,
      session, own]
    congr 1
    apply UInt64.toNat_inj.mp
    simp
    omega

/-! ## The operations -/

theorem target_some {packet : UDPPacket} (found : state.target packet = some packets) :
    ∃ sessionID entry, packetSessionID packet.data = some sessionID ∧
      state.d.sessions.lookup sessionID = some entry ∧ entry.packets = packets ∧
      entry.validPacket packet.data sessionID = true ∧
      state.d.dispatch packet =
        { state.d with
          channels := state.d.channels.modify packets fun channel =>
            if channel.queue.length < dispatcherQueueSize then
              { channel with queue := channel.queue ++ [packet] }
            else channel } := by
  simp only [State.target] at found
  split at found
  · cases found
  rename_i sessionID named
  split at found
  · cases found
  rename_i entry lookup
  split at found
  · rename_i valid
    cases found
    refine ⟨sessionID, entry, named, lookup, rfl, valid, ?_⟩
    simp only [UDPDispatcher.dispatch, named, lookup, valid, if_true]
  · cases found

theorem modify_closed (channels : List PacketChannel) (changed : Nat)
    (change : PacketChannel → PacketChannel)
    (keeps : ∀ channel, (change channel).closed = channel.closed) (packets : Nat) :
    ((channels.modify changed change)[packets]?).any PacketChannel.closed =
      (channels[packets]?).any PacketChannel.closed := by
  rw [List.getElem?_modify]
  cases channels[packets]? with
  | none => rfl
  | some channel => by_cases same : changed = packets <;> simp [same, keeps]

theorem Sound.dispatch (sound : Sound state) (packet : UDPPacket) :
    Sound (state.dispatch packet) ∧ Kept state (state.dispatch packet) := by
  simp only [State.dispatch]
  cases found : state.target packet with
  | none => exact ⟨sound, kept_refl state⟩
  | some packets =>
      rcases target_some found with ⟨sessionID, entry, _, lookup, rfl, valid, equal⟩
      rcases sound.sessions sessionID entry lookup with ⟨key, registered, made, open'⟩
      have accepts : Accepts sessionID key packet.data := accepts_of_valid (made ▸ valid)
      have flags : ∀ packets, ((state.d.dispatch packet).channels[packets]?).any
          PacketChannel.closed = state.channelClosed packets := by
        intro packets
        rw [equal]
        exact modify_closed _ _ _ (fun channel => by split <;> rfl) packets
      have entries : (state.d.dispatch packet).sessions = state.d.sessions := by rw [equal]
      have done : (state.d.dispatch packet).done = state.d.done := by rw [equal]
      refine ⟨⟨?_, ?_, ?_, ?_, ?_, ?_, ?_, ?_, ?_⟩, ⟨Nat.le_refl _, ?_, fun _ => id, ?_, id⟩⟩
      · simpa using sound.registered
      · simpa using sound.onces
      · intro other found' there
        rw [entries] at there
        rcases sound.sessions other found' there with ⟨key', registered', made', open''⟩
        exact ⟨key', registered', made', by rw [← open'']; exact flags _⟩
      · intro other queued member
        dsimp only at member
        split at member
        · rcases List.mem_append.mp member with old | new
          · exact sound.enqueued other queued old
          · rw [List.mem_singleton, Prod.mk.injEq] at new
            rw [new.1, new.2]
            exact ⟨sessionID, key, registered, accepts⟩
        · exact sound.enqueued other queued member
      · intro other queued member
        simp only [UDPDispatcher.queued, equal, List.getElem?_modify] at member
        have old := sound.queued other queued
        simp only [UDPDispatcher.queued] at old
        cases channel : state.d.channels[other]? with
        | none => simp [channel] at member
        | some own =>
            rw [channel] at old
            by_cases same : entry.packets = other
            · subst same
              simp only [State.hasRoom, channel, if_true, Option.map_eq_map, Option.map_some, Option.getD_some,
                Option.any_some, decide_eq_true_eq] at member ⊢
              split at member
              · rename_i room
                rw [if_pos room, List.mem_append, List.mem_singleton, Prod.mk.injEq]
                rcases List.mem_append.mp member with before | new
                · exact .inl (old before)
                · exact .inr ⟨rfl, List.mem_singleton.mp new⟩
              · rename_i full
                rw [if_neg full]
                exact old member
            · simp only [channel, if_neg same, Option.map_eq_map, Option.map_some,
                Option.getD_some] at member
              show (other, queued) ∈ if state.hasRoom entry.packets then
                state.enqueued ++ [(entry.packets, packet)] else state.enqueued
              split
              · exact List.mem_append_left _ (old member)
              · exact old member
      · intro other queued member
        dsimp only
        split
        · exact List.mem_append_left _ (sound.received other queued member)
        · exact sound.received other queued member
      · intro other finished
        rw [Gone, entries]
        exact sound.finished other finished
      · intro closed
        rw [entries, done]
        exact sound.closed closed
      · simp [sound.safe, open']
      · intro other bound gone
        refine ⟨by rw [Gone, entries]; exact gone, ?_⟩
        have apart := gone sessionID entry lookup
        dsimp only
        split
        · simp [List.filter_append, apart]
        · rfl
      · rw [done]
        exact id

theorem register_ok {sessionID : UInt64} {key : Bytes} {d : UDPDispatcher}
    (answer : state.d.register sessionID key = .ok (packets, d)) :
    packets = state.d.channels.length ∧ state.d.done = false ∧
      state.d.sessions.lookup sessionID = none ∧
      d = { state.d with
        sessions := state.d.sessions.insert sessionID
          (newDispatchSession state.d.channels.length sessionID key)
        channels := state.d.channels ++ [⟨[], false⟩] } := by
  simp only [UDPDispatcher.register] at answer
  split at answer
  · cases answer
  split at answer
  · cases answer
  rename_i running
  split at answer
  · cases answer
  rename_i free
  cases answer
  exact ⟨rfl, by simpa using running, by simpa using free, rfl⟩

theorem Sound.bound (sound : Sound state) {sessionID : UInt64} {entry : DispatchSession}
    (found : state.d.sessions.lookup sessionID = some entry) :
    entry.packets < state.registered.length := by
  rcases sound.sessions sessionID entry found with ⟨key, registered, _⟩
  exact (List.getElem?_eq_some_iff.mp registered).1

theorem Sound.register (sound : Sound state) {sessionID : UInt64} {key : Bytes}
    {d : UDPDispatcher} (answer : state.d.register sessionID key = .ok (packets, d)) :
    Sound { state with
        d
        registered := state.registered ++ [(sessionID, key)]
        onces := state.onces ++ [.unused] } ∧
      Kept state { state with
        d
        registered := state.registered ++ [(sessionID, key)]
        onces := state.onces ++ [.unused] } := by
  rcases register_ok answer with ⟨_, running, free, rfl⟩
  have size := sound.registered
  have onceSize := sound.onces
  have open' : state.closeOnce ≠ .finished := by
    intro closed
    rw [(sound.closed closed).2] at running
    cases running
  have others : ∀ other entry, (state.d.sessions.insert sessionID
      (newDispatchSession state.d.channels.length sessionID key)).lookup other = some entry →
      (other = sessionID ∧ entry = newDispatchSession state.d.channels.length sessionID key) ∨
      state.d.sessions.lookup other = some entry := by
    intro other entry found
    by_cases same : other = sessionID
    · subst same
      rw [AList.lookup_insert, Option.some.injEq] at found
      exact .inl ⟨rfl, found.symm⟩
    · rw [AList.lookup_insert_ne same] at found
      exact .inr found
  have gone : ∀ other < state.registered.length, Gone state other →
      ∀ other' entry, (state.d.sessions.insert sessionID
        (newDispatchSession state.d.channels.length sessionID key)).lookup other' = some entry →
        entry.packets ≠ other := by
    intro other bound gone other' entry found
    rcases others other' entry found with ⟨_, rfl⟩ | old
    · simp only [newDispatchSession]
      omega
    · exact gone other' entry old
  refine ⟨⟨?_, ?_, ?_, ?_, ?_, sound.received, ?_, ?_, sound.safe⟩, ⟨?_, ?_, ?_, id, id⟩⟩
  · simpa using size
  · simpa using onceSize
  · intro other entry found
    rcases others other entry found with ⟨rfl, rfl⟩ | old
    · refine ⟨key, ?_, rfl, ?_⟩
      · simp [newDispatchSession, ← size]
      · simp [State.channelClosed, newDispatchSession]
    · rcases sound.sessions other entry old with ⟨key', registered, made, flag⟩
      have bound := sound.bound old
      refine ⟨key', ?_, made, ?_⟩
      · rw [List.getElem?_append_left bound]
        exact registered
      · simp only [State.channelClosed] at flag ⊢
        rw [List.getElem?_append_left (by omega)]
        exact flag
  · intro other packet member
    rcases sound.enqueued other packet member with ⟨sid, key', registered, accepts⟩
    refine ⟨sid, key', ?_, accepts⟩
    rw [List.getElem?_append_left (List.getElem?_eq_some_iff.mp registered).1]
    exact registered
  · intro other packet member
    apply sound.queued other packet
    simp only [UDPDispatcher.queued] at member ⊢
    rcases Nat.lt_trichotomy other state.d.channels.length with old | new | beyond
    · rwa [List.getElem?_append_left old] at member
    · subst new
      simp at member
    · rw [List.getElem?_eq_none (by simp; omega)] at member
      cases member
  · intro other finished
    by_cases old : other < state.onces.length
    · rw [List.getElem?_append_left old] at finished
      exact gone other (by omega) (sound.finished other finished)
    · rw [List.getElem?_append_right (by omega)] at finished
      rcases List.getElem?_eq_some_iff.mp finished with ⟨bound, same⟩
      simp at same
  · exact fun closed => absurd closed open'
  · simp
  · exact fun other bound forgotten => ⟨gone other bound forgotten, rfl⟩
  · intro other finished
    rw [List.getElem?_append_left (List.getElem?_eq_some_iff.mp finished).1]
    exact finished

theorem Sound.apart (sound : Sound state) {sessionID other : UInt64}
    {entry another : DispatchSession} (found : state.d.sessions.lookup sessionID = some entry)
    (there : state.d.sessions.lookup other = some another)
    (same : entry.packets = another.packets) : sessionID = other := by
  rcases sound.sessions sessionID entry found with ⟨key, registered, _⟩
  rcases sound.sessions other another there with ⟨key', registered', _⟩
  rw [same, registered', Option.some.injEq, Prod.mk.injEq] at registered
  exact registered.1.symm

theorem Sound.remove (sound : Sound state) {sessionID : UInt64} {key : Bytes}
    (registered : state.registered[packets]? = some (sessionID, key)) :
    Sound (state.remove sessionID packets) ∧ Kept state (state.remove sessionID packets) ∧
      Gone (state.remove sessionID packets) packets := by
  by_cases held : ∃ entry, state.d.sessions.lookup sessionID = some entry ∧
      entry.packets = packets
  · rcases held with ⟨entry, found, rfl⟩
    rcases sound.sessions sessionID entry found with ⟨_, _, _, open'⟩
    have released : state.d.release sessionID entry.packets =
        { state.d with
          sessions := state.d.sessions.erase sessionID
          channels := state.d.channels.modify entry.packets
            fun channel => { channel with closed := true } } := by
      simp [UDPDispatcher.release, found]
    have others : ∀ other another, (state.d.sessions.erase sessionID).lookup other = some another →
        state.d.sessions.lookup other = some another ∧ entry.packets ≠ another.packets := by
      intro other another there
      by_cases same : other = sessionID
      · rw [same, AList.lookup_erase] at there
        cases there
      · rw [AList.lookup_erase_ne same] at there
        exact ⟨there, fun equal => same (sound.apart found there equal).symm⟩
    simp only [State.remove, released, found, Option.any_some, decide_true, Bool.true_and]
    refine ⟨⟨?_, ?_, ?_, sound.enqueued, ?_, sound.received, ?_, ?_, ?_⟩,
      ⟨Nat.le_refl _, ?_, fun _ => id, id, id⟩, ?_⟩
    · simpa using sound.registered
    · simpa using sound.onces
    · intro other another there
      rcases others other another there with ⟨old, apart⟩
      rcases sound.sessions other another old with ⟨key', registered', made, flag⟩
      refine ⟨key', registered', made, ?_⟩
      simp only [State.channelClosed] at flag ⊢
      rw [List.getElem?_modify_ne _ _ apart]
      exact flag
    · intro other packet member
      apply sound.queued other packet
      simp only [UDPDispatcher.queued, List.getElem?_modify] at member ⊢
      cases channel : state.d.channels[other]? with
      | none => simp [channel] at member
      | some own =>
          rw [channel] at member
          by_cases same : entry.packets = other <;> simpa [same] using member
    · intro other finished other' another there
      exact sound.finished other finished other' another (others other' another there).1
    · intro closed
      rw [(sound.closed closed).1] at found
      cases found
    · simp [sound.safe, open']
    · exact fun other bound gone =>
        ⟨fun other' another there => gone other' another (others other' another there).1, rfl⟩
    · exact fun other another there => (others other another there).2.symm
  · have unchanged : state.remove sessionID packets = state := by
      have kept : state.d.release sessionID packets = state.d := by
        simp only [UDPDispatcher.release]
        cases found : state.d.sessions.lookup sessionID with
        | none => rfl
        | some entry => exact if_neg fun same => held ⟨entry, found, same⟩
      have harmless : ((state.d.sessions.lookup sessionID).any (·.packets = packets)) = false := by
        cases found : state.d.sessions.lookup sessionID with
        | none => rfl
        | some entry => exact decide_eq_false fun same => held ⟨entry, found, same⟩
      simp only [State.remove, kept, harmless, Bool.false_and, Bool.or_false]
    rw [unchanged]
    refine ⟨sound, kept_refl state, fun other entry found same => ?_⟩
    rcases sound.sessions other entry found with ⟨_, registered', _⟩
    rw [same, registered, Option.some.injEq, Prod.mk.injEq] at registered'
    exact held ⟨entry, registered'.1 ▸ found, same⟩

theorem Sound.receive (sound : Sound state) {answer : Option UDPPacket} {next : State}
    (received : state.receive packets = some (answer, next)) :
    Sound next ∧ Kept state next ∧ next.d.sessions = state.d.sessions ∧
      next.d.done = state.d.done ∧ next.closeOnce = state.closeOnce ∧
      ∀ packet, answer = some packet → (packets, packet) ∈ next.enqueued := by
  simp only [State.receive] at received
  split at received
  · cases received
  rename_i channel found
  split at received
  · rename_i packet head
    cases received
    refine ⟨⟨?_, ?_, ?_, sound.enqueued, ?_, sound.received, sound.finished, sound.closed,
      sound.safe⟩, ⟨Nat.le_refl _, fun _ _ gone => ⟨gone, rfl⟩, fun _ => id, id, id⟩, rfl, rfl,
      rfl, ?_⟩
    · simpa using sound.registered
    · simpa using sound.onces
    · intro sessionID entry there
      rcases sound.sessions sessionID entry there with ⟨key, registered, made, flag⟩
      refine ⟨key, registered, made, ?_⟩
      rw [← flag]
      simp only [State.channelClosed, UDPDispatcher.receive]
      exact modify_closed _ _ (fun channel => { channel with queue := channel.queue.tail })
        (fun _ => rfl) _
    · intro other taken member
      exact sound.queued other taken (UDPDispatcher.receive_queued member)
    · intro taken same
      cases same
      apply sound.queued packets packet
      rw [UDPDispatcher.mem_queued found]
      exact List.mem_of_head? head
  · split at received
    · cases received
      exact ⟨sound, kept_refl state, rfl, rfl, rfl, fun packet same => by cases same⟩
    · cases received

theorem Sound.setOnce (sound : Sound state) {before : Once} (once : Once)
    (present : state.onces[packets]? = some before)
    (next : before = .finished → once = .finished) (gone : once = .finished → Gone state packets) :
    Sound { state with onces := state.onces.set packets once } ∧
      Kept state { state with onces := state.onces.set packets once } := by
  have read : ∀ other : Nat, (state.onces.set packets once)[other]? =
      if packets = other then some once else state.onces[other]? := by
    intro other
    have bound := (List.getElem?_eq_some_iff.mp present).1
    rw [List.getElem?_set]
    by_cases same : packets = other
    · subst same
      simp [bound]
    · simp [same]
  refine ⟨⟨sound.registered, ?_, sound.sessions, sound.enqueued, sound.queued, sound.received, ?_,
    sound.closed, sound.safe⟩,
    ⟨Nat.le_refl _, fun _ _ gone => ⟨gone, rfl⟩, fun other finished => ?_, id, id⟩⟩
  · simpa using sound.onces
  · intro other finished
    rw [read] at finished
    split at finished
    · rename_i same
      subst same
      cases finished
      exact gone rfl
    · exact sound.finished other finished
  · rw [read]
    split
    · rename_i same
      subst same
      rw [present, Option.some.injEq] at finished
      rw [next finished]
    · exact finished

theorem Sound.control (sound : Sound state) (once : Once) (connClosed locked done : Bool)
    (kept : state.closeOnce = .finished → once = .finished)
    (finished : once = .finished → state.d.sessions = ∅ ∧ done = true)
    (stays : state.d.done = true → done = true) :
    Sound { state with d := { state.d with done }, closeOnce := once, connClosed, locked } ∧
      Kept state { state with d := { state.d with done }, closeOnce := once, connClosed, locked } :=
  ⟨⟨sound.registered, sound.onces, sound.sessions, sound.enqueued, sound.queued, sound.received,
      sound.finished, finished, sound.safe⟩,
    ⟨Nat.le_refl _, fun _ _ gone => ⟨gone, rfl⟩, fun _ => id, stays, kept⟩⟩

/-! ## Steps -/

/-- Who may still close `done`: the `Once` gives that to one thread. -/
def Thread.closeTokens : Thread → Nat
  | .closeDone => 1
  | _ => 0

def State.closeTokens (state : State) : Nat :=
  (if state.d.done then 1 else 0) + if state.closeOnce = .unused then 1 else 0

def Knows (state : State) : Thread → Prop
  | .draining packets => packets < state.registered.length ∧ Gone state packets
  | .released packets => state.onces[packets]? = some .finished
  | .closeConn | .closeLock | .closeSessions | .closeDrain _ => state.d.done = true
  | .closed => state.closeOnce = .finished
  | _ => True

theorem Knows.kept {next : State} {thread : Thread} (knows : Knows state thread)
    (kept : Kept state next) : Knows next thread := by
  cases thread with
  | draining packets =>
      exact ⟨Nat.lt_of_lt_of_le knows.1 kept.length, (kept.gone packets knows.1 knows.2).1⟩
  | released packets => exact kept.finished packets knows
  | closeConn | closeLock | closeSessions | closeDrain _ => exact kept.done knows
  | closed => exact kept.closed knows
  | _ => trivial

structure Good (state : State) (thread : Thread) (next : State) (moved : Thread) : Prop where
  sound : Sound next
  kept : Kept state next
  knows : Knows next moved
  tokens : next.closeTokens + moved.closeTokens ≤ state.closeTokens + thread.closeTokens

theorem good_same (sound : Sound state) {thread moved : Thread} (knows : Knows state moved)
    (tokens : moved.closeTokens = thread.closeTokens) : Good state thread state moved :=
  ⟨sound, kept_refl state, knows, by rw [tokens]⟩

theorem good_receive (sound : Sound state) {answer : Option UDPPacket} {next : State}
    (received : state.receive packets = some (answer, next)) {thread moved : Thread}
    (knows : Knows state moved) (tokens : moved.closeTokens = thread.closeTokens) :
    Good state thread next moved := by
  rcases sound.receive received with ⟨after, kept, _, done, once, _⟩
  refine ⟨after, kept, knows.kept kept, ?_⟩
  rw [tokens, State.closeTokens, State.closeTokens, done, once]

theorem remove_flags (state : State) (sessionID : UInt64) (packets : Nat) :
    (state.remove sessionID packets).d.done = state.d.done ∧
      (state.remove sessionID packets).closeOnce = state.closeOnce ∧
      (state.remove sessionID packets).registered = state.registered := by
  simp only [State.remove, UDPDispatcher.release]
  split
  · simp
  · split <;> simp

theorem dispatch_flags (state : State) (packet : UDPPacket) :
    (state.dispatch packet).d.done = state.d.done ∧
      (state.dispatch packet).closeOnce = state.closeOnce := by
  simp only [State.dispatch]
  cases found : state.target packet with
  | none => exact ⟨rfl, rfl⟩
  | some packets =>
      rcases target_some found with ⟨_, _, _, _, _, _, equal⟩
      simp [equal]

theorem good_step (sound : Sound state) {self : Nat} {thread moved : Thread} {choice : Choice}
    {next : State} (knows : Knows state thread)
    (closer : thread = .closeDone → state.d.done = false)
    (taken : step self state thread choice = some (next, moved)) :
    Good state thread next moved := by
  cases thread with
  | reading =>
      simp only [step] at taken
      split at taken
      · cases taken
        exact good_same sound trivial rfl
      · split at taken <;> cases taken
        exact good_same sound trivial rfl
  | holding packet =>
      simp only [step] at taken
      split at taken <;> cases taken
      rcases sound.dispatch packet with ⟨after, kept⟩
      rcases dispatch_flags state packet with ⟨done, once⟩
      exact ⟨after, kept, trivial, by simp [State.closeTokens, done, once, Thread.closeTokens]⟩
  | register sessionID key =>
      simp only [step] at taken
      split at taken
      · cases taken
      split at taken
      · cases taken
        exact good_same sound trivial rfl
      · rename_i packets d answer
        cases taken
        rcases sound.register answer with ⟨after, kept⟩
        refine ⟨after, kept, trivial, ?_⟩
        rcases register_ok answer with ⟨_, _, _, rfl⟩
        exact Nat.le_refl _
  | release packets =>
      simp only [step] at taken
      split at taken
      · rename_i unused
        cases taken
        rcases sound.setOnce .running unused (fun same => by cases same) (fun same => by cases same) with
          ⟨after, kept⟩
        exact ⟨after, kept, trivial, Nat.le_refl _⟩
      · rename_i finished
        cases taken
        exact good_same sound finished rfl
      · cases taken
  | releasing packets =>
      simp only [step] at taken
      split at taken
      · cases taken
      split at taken
      · cases taken
      · rename_i sessionID key registered
        cases taken
        rcases sound.remove registered with ⟨after, kept, gone⟩
        rcases remove_flags state sessionID packets with ⟨done, once, same⟩
        refine ⟨after, kept, ⟨?_, gone⟩, by simp [State.closeTokens, done, once, Thread.closeTokens]⟩
        rw [same]
        exact (List.getElem?_eq_some_iff.mp registered).1
  | draining packets =>
      have finish : ∀ once, state.onces[packets]? = some once →
          Good state (.draining packets)
            { state with onces := state.onces.set packets .finished } (.released packets) := by
        intro once present
        rcases sound.setOnce .finished present (fun _ => rfl) (fun _ => knows.2) with ⟨after, kept⟩
        refine ⟨after, kept, ?_, Nat.le_refl _⟩
        simp only [Knows]
        rw [List.getElem?_set_self (List.getElem?_eq_some_iff.mp present).1]
      have bound : packets < state.onces.length := by
        have size := sound.registered
        have onceSize := sound.onces
        have known := knows.1
        omega
      simp only [step] at taken
      split at taken
      · rename_i received
        cases taken
        exact good_receive sound received knows rfl
      · cases taken
        exact finish _ (List.getElem?_eq_getElem bound)
  | close =>
      simp only [step] at taken
      split at taken
      · rename_i unused
        cases taken
        rcases sound.control .running state.connClosed state.locked state.d.done
          (fun same => by rw [unused] at same; cases same) (fun same => by cases same) id with
          ⟨after, kept⟩
        exact ⟨after, kept, trivial, by simp [State.closeTokens, Thread.closeTokens, unused]⟩
      · cases taken
      · rename_i finished
        cases taken
        exact good_same sound finished rfl
  | closeDone =>
      cases taken
      have running := closer rfl
      rcases sound.control state.closeOnce state.connClosed state.locked true id
        (fun same => ⟨(sound.closed same).1, rfl⟩) (fun _ => rfl) with ⟨after, kept⟩
      simp only [running, Bool.or_false]
      refine ⟨after, kept, rfl, ?_⟩
      simp only [State.closeTokens, Thread.closeTokens, running]
      simp only [if_true, Bool.false_eq_true, if_false]
      omega
  | closeConn =>
      cases taken
      rcases sound.control state.closeOnce true state.locked state.d.done id sound.closed
        id with ⟨after, kept⟩
      exact ⟨after, kept, knows, Nat.le_refl _⟩
  | closeLock =>
      simp only [step] at taken
      split at taken <;> cases taken
      rcases sound.control state.closeOnce state.connClosed true state.d.done id
        sound.closed id with ⟨after, kept⟩
      exact ⟨after, kept, knows, Nat.le_refl _⟩
  | closeSessions =>
      simp only [step] at taken
      split at taken
      · rename_i empty
        cases taken
        have none_left : state.d.sessions = ∅ := AList.ext empty
        have done : state.d.done = true := knows
        rcases sound.control .finished state.connClosed false state.d.done (fun _ => rfl)
          (fun _ => ⟨none_left, done⟩) id with ⟨after, kept⟩
        refine ⟨after, kept, rfl, ?_⟩
        simp [State.closeTokens, Thread.closeTokens]
      · split at taken
        · cases taken
        · rename_i entry found
          cases taken
          rcases sound.sessions _ entry found with ⟨key, registered, _⟩
          rcases sound.remove registered with ⟨after, kept, _⟩
          rcases remove_flags state choice.next entry.packets with ⟨done, once, _⟩
          refine ⟨after, kept, ?_, by simp [State.closeTokens, done, once, Thread.closeTokens]⟩
          simp only [Knows, done]
          exact knows
  | closeDrain packets =>
      simp only [step] at taken
      split at taken
      · rename_i received
        cases taken
        exact good_receive sound received knows rfl
      · cases taken
        exact good_same sound knows rfl
  | consume packets =>
      simp only [step] at taken
      split at taken
      · cases taken
      · rename_i received
        cases taken
        exact good_receive sound received trivial rfl
      · rename_i packet after received
        cases taken
        rcases sound.receive received with ⟨holds, kept, _, done, once, put⟩
        refine ⟨⟨holds.registered, holds.onces, holds.sessions, holds.enqueued, holds.queued, ?_,
          holds.finished, holds.closed, holds.safe⟩,
          ⟨kept.length, kept.gone, kept.finished, kept.done, kept.closed⟩, trivial, ?_⟩
        · intro other taken member
          rcases List.mem_append.mp member with old | new
          · exact holds.received other taken old
          · rw [List.mem_singleton, Prod.mk.injEq] at new
            rw [new.1, new.2]
            exact put packet rfl
        · simp [State.closeTokens, done, once, Thread.closeTokens]
  | stopped | answered _ | released _ | closed | consumed _ => cases taken

/-! ## Runs -/

structure Ruled (pool : DispatchPool) : Prop where
  sound : Sound pool.shared
  knows : ∀ thread ∈ pool.threads, Knows pool.shared thread
  tokens : pool.total Thread.closeTokens + pool.shared.closeTokens ≤ 1

variable {pool : DispatchPool}

theorem ruled_initial : Ruled initialPool where
  sound := sound_new
  knows thread member := by
    rw [List.mem_singleton.mp member]
    trivial
  tokens := by decide

theorem Ruled.step (ruled : Ruled pool) {event : PoolEvent Thread Choice} {next : DispatchPool}
    (step : program.machine.step pool event = some next) :
    Ruled next ∧ Kept pool.shared next.shared := by
  rcases Program.step_cases step with
    ⟨thread, rfl, enters, rfl⟩ | ⟨self, choice, thread, shared, moved, rfl, present, taken, rfl⟩
  · refine ⟨⟨ruled.sound, fun other member => ?_, ?_⟩, kept_refl _⟩
    · rcases List.mem_append.mp member with old | new
      · exact ruled.knows other old
      · rw [List.mem_singleton.mp new]
        cases thread <;> trivial
    · have none_held : thread.closeTokens = 0 := by
        cases thread <;> first | rfl | cases enters
      rw [Pool.total_start, none_held]
      exact ruled.tokens
  · have member := Pool.mem_of_getElem? present
    have tokens := ruled.tokens
    have closer : thread = .closeDone → pool.shared.d.done = false := by
      rintro rfl
      have share : pool.total Thread.closeTokens ≠ 0 := fun none_held =>
        absurd (Pool.total_eq_zero.mp none_held _ member) (by decide)
      cases done : pool.shared.d.done with
      | false => rfl
      | true =>
          simp only [State.closeTokens, done, if_true] at tokens
          omega
    have good := @good_step _ ruled.sound self _ _ _ _ (ruled.knows thread member) closer taken
    refine ⟨⟨good.sound, fun other there => ?_, ?_⟩, good.kept⟩
    · rcases List.mem_or_eq_of_mem_set there with old | rfl
      · exact (ruled.knows other old).kept good.kept
      · exact good.knows
    · have total := Pool.total_update present Thread.closeTokens shared moved
      have moves := good.tokens
      rw [Pool.update_shared]
      omega

theorem Ruled.run (ruled : Ruled pool) {events : List (PoolEvent Thread Choice)}
    {later : DispatchPool}
    (run : program.machine.Run Machine.Unrestricted pool events later) : Ruled later :=
  run.preserves ruled fun _ _ _ ruled _ step => (ruled.step step).1

theorem Ruled.run_gone (ruled : Ruled pool) {events : List (PoolEvent Thread Choice)}
    {later : DispatchPool} (run : program.machine.Run Machine.Unrestricted pool events later)
    (bound : packets < pool.shared.registered.length) (gone : Gone pool.shared packets) :
    packets < later.shared.registered.length ∧ Gone later.shared packets ∧
      later.shared.enqueued.filter (·.1 = packets) =
        pool.shared.enqueued.filter (·.1 = packets) := by
  induction run with
  | nil => exact ⟨bound, gone, rfl⟩
  | snoc past _ step induction =>
      rcases induction with ⟨known, forgotten, same⟩
      have kept := ((ruled.run past).step step).2
      rcases kept.gone packets known forgotten with ⟨still, equal⟩
      exact ⟨Nat.lt_of_lt_of_le known kept.length, still, equal.trans same⟩

/-- No run sends on a closed channel or closes one twice. What is put into a channel
belongs to the session that it was made for, and to no session with another id, and is
all that consumers get. After a release of a registration or `Close` has returned,
nothing more is put into its channel. -/
theorem dispatcher_safety {events : List (PoolEvent Thread Choice)}
    (run : program.machine.Run Machine.Unrestricted initialPool events pool) :
    pool.shared.panicked = false ∧
    (∀ packets packet, (packets, packet) ∈ pool.shared.enqueued →
      ∃ sessionID key, pool.shared.registered[packets]? = some (sessionID, key) ∧
        Accepts sessionID key packet.data ∧
        ∀ other otherKey, Accepts other otherKey packet.data → other = sessionID) ∧
    (∀ packets packet, (packets, packet) ∈ pool.shared.received →
      (packets, packet) ∈ pool.shared.enqueued) ∧
    ∀ packets < pool.shared.registered.length,
      .released packets ∈ pool.threads ∨ .closed ∈ pool.threads →
      ∀ {after : List (PoolEvent Thread Choice)} {later : DispatchPool},
        program.machine.Run Machine.Unrestricted pool after later →
        later.shared.enqueued.filter (·.1 = packets) =
          pool.shared.enqueued.filter (·.1 = packets) := by
  have ruled := ruled_initial.run run
  refine ⟨ruled.sound.safe, ?_, ruled.sound.received, ?_⟩
  · intro packets packet member
    rcases ruled.sound.enqueued packets packet member with ⟨sessionID, key, registered, accepts⟩
    refine ⟨sessionID, key, registered, accepts, fun other otherKey also => ?_⟩
    have same := also.sessionID
    rw [accepts.sessionID, Option.some.injEq] at same
    exact same.symm
  · intro packets bound finished after later further
    have gone : Gone pool.shared packets := by
      rcases finished with released | closed
      · exact ruled.sound.finished packets (ruled.knows _ released)
      · intro sessionID entry found
        rw [(ruled.sound.closed (ruled.knows _ closed)).1] at found
        cases found
    exact (ruled.run_gone further bound gone).2.2

def delivers (data : Bytes) : Choice := ⟨some ⟨data, ⟨.v4 0x7f000001#32, 5000⟩⟩, 7⟩

/-- A PUNCH of session 7 under the key [1]. -/
def punchOfSeven : Bytes :=
  [82, 68, 80, 85, 1, 1, 0, 0, 0, 0, 0, 0, 0, 0, 0, 7, 0, 0, 0, 0, 0, 0, 0, 9, 87, 188, 245, 68,
    185, 88, 171, 64, 168, 189, 195, 213, 254, 23, 15, 215]

/-- Session 7 is registered and gets its packet, is released twice and registered again under
another key; the same packet is read once more, and the dispatcher is closed. -/
def reuseEvents : List (PoolEvent Thread Choice) :=
  let choice := delivers punchOfSeven
  [.spawn (.register 7 [1]), .advance 1 choice, .advance 0 choice, .advance 0 choice,
    .spawn (.consume 0), .advance 2 choice,
    .spawn (.release 0), .advance 3 choice, .advance 3 choice, .advance 3 choice,
    .spawn (.release 0), .advance 4 choice,
    .spawn (.register 7 [2]), .advance 5 choice, .advance 0 choice, .advance 0 choice,
    .spawn .close] ++ List.replicate 7 (.advance 6 choice)

theorem dispatcher_safety_reuse :
    ∃ pool packet, program.machine.Run Machine.Unrestricted initialPool reuseEvents pool ∧
      pool.shared.registered = [(7, [1]), (7, [2])] ∧ .released 0 ∈ pool.threads ∧
      .closed ∈ pool.threads ∧ pool.shared.enqueued = [(0, packet)] ∧
      pool.shared.received = [(0, packet)] ∧
      pool.shared.panicked = false ∧
      (∃ sessionID key, pool.shared.registered[0]? = some (sessionID, key) ∧
        Accepts sessionID key packet.data ∧
        ∀ other otherKey, Accepts other otherKey packet.data → other = sessionID) ∧
      ∀ packets < pool.shared.registered.length,
        .released packets ∈ pool.threads ∨ .closed ∈ pool.threads →
        ∀ {after : List (PoolEvent Thread Choice)} {later : DispatchPool},
          program.machine.Run Machine.Unrestricted pool after later →
          later.shared.enqueued.filter (·.1 = packets) =
            pool.shared.enqueued.filter (·.1 = packets) := by
  rcases program.machine.exists_run Machine.Unrestricted
    (fun pool => pool.shared.registered = [(7, [1]), (7, [2])] ∧
      .released 0 ∈ pool.threads ∧ .closed ∈ pool.threads ∧
      pool.shared.enqueued = [(0, ⟨punchOfSeven, ⟨.v4 0x7f000001#32, 5000⟩⟩)] ∧
      pool.shared.received = [(0, ⟨punchOfSeven, ⟨.v4 0x7f000001#32, 5000⟩⟩)])
    initialPool reuseEvents (by decide +kernel) with
    ⟨pool, run, registered, released, closed, enqueued, received⟩
  rcases dispatcher_safety run with ⟨safe, accepted, _, silent⟩
  exact ⟨pool, _, run, registered, released, closed, enqueued, received, safe,
    accepted 0 _ (enqueued ▸ List.mem_singleton_self _), silent⟩

end Rdpulse.Punch.Dispatching
