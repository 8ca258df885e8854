import Rdpulse.Path.SendProgress
import Rdpulse.UDP.Delivery

namespace Rdpulse.Path

open Foundation Protocol UDP

/-! # `SendUDP` hands over one complete copy at most

A call that falls back has not written the last fragment of its packet, so what it
leaves behind never completes. The call returns nil right after the last fragment. -/

namespace DataEngine

variable (engine : DataEngine)

def fragments (payload : Bytes) : Nat := engine.fragmenter.fragments payload

def datagram (packetID : UInt32) (payload : Bytes) (index : Nat) : Bytes :=
  engine.fragmenter.datagram engine.sessionID packetID payload index

def datagrams (packetID : UInt32) (payload : Bytes) : List Bytes :=
  (List.range (engine.fragments payload)).map (engine.datagram packetID payload)

variable {engine}

theorem fragments_of_bounded {payload : Bytes} (bounded : payload.length ≤ maxUDPPacketSize) :
    engine.fragments payload = max 1 ((payload.length + 1150 - 1) / 1150) := by
  rw [maxUDPPacketSize] at bounded
  have limit : engine.fragmenter.maxPayload = 1150 := rfl
  rw [fragments, Fragmenter.fragments_of_fits (by omega), limit]

theorem fragments_positive {payload : Bytes} (bounded : payload.length ≤ maxUDPPacketSize) :
    0 < engine.fragments payload := by
  rw [fragments_of_bounded bounded]
  omega

theorem fragments_few {payload : Bytes} (bounded : payload.length ≤ maxUDPPacketSize) :
    engine.fragments payload ≤ maxUDPFragments := by
  rw [fragments_of_bounded bounded, maxUDPFragments]
  rw [maxUDPPacketSize] at bounded
  omega

theorem datagram_injective {payload : Bytes} {packetID other : UInt32} {index place : Nat}
    (few : engine.fragments payload ≤ maxUDPFragments) (bound : index < engine.fragments payload)
    (placed : place < engine.fragments payload)
    (equal : engine.datagram packetID payload index = engine.datagram other payload place) :
    packetID = other ∧ index = place := by
  have decoded := Fragmenter.decodeUDP_datagram engine.sessionID packetID few bound
  have same : decodeUDP (engine.datagram packetID payload index) = _ := decoded
  rw [equal] at same
  have decodedToo := Fragmenter.decodeUDP_datagram engine.sessionID other few placed
  have headers := congrArg Prod.fst (Except.ok.inj (decodedToo.symm.trans same))
  have ids := congrArg UDPHeader.packetID headers
  have places := congrArg (fun hdr : UDPHeader => hdr.fragmentID.toNat) headers
  simp only [Fragmenter.header, Fragmenter.toNat_ofNat_index few bound,
    Fragmenter.toNat_ofNat_index few placed] at ids places
  exact ⟨ids.symm, places.symm⟩

end DataEngine

/-- What a call has handed over, to the punched socket and to the relay together. -/
def SendingManager.datagramsOf (sender : SendingManager) (call : Nat) : List Bytes :=
  (sender.handedOver.filter fun write => write.call = call).map Handover.datagram

section Copies

variable (engine : DataEngine) (sender : SendingManager) (call : Nat) (payload : Bytes)

/-- The call has handed over every fragment under this id. -/
def Complete (packetID : UInt32) : Prop :=
  ∀ datagram ∈ engine.datagrams packetID payload, datagram ∈ sender.datagramsOf call

def LastSent (packetID : UInt32) : Prop :=
  engine.datagram packetID payload (engine.fragments payload - 1) ∈ sender.datagramsOf call

structure Writing (packetID : UInt32) (pending : List Bytes) : Prop where
  few : engine.fragments payload ≤ maxUDPFragments
  drawn : (call, packetID) ∈ sender.drawn
  progress : ∃ count ≤ engine.fragments payload,
    pending = (engine.datagrams packetID payload).drop count ∧
    (∀ index < count, engine.datagram packetID payload index ∈ sender.datagramsOf call) ∧
    ∀ other, LastSent engine sender call payload other →
      other = packetID ∧ count = engine.fragments payload

def CopyKnown : SendUDPPoint → Prop
  | .readPunch packetID =>
      (call, packetID) ∈ sender.drawn ∧ ∀ other, ¬LastSent engine sender call payload other
  | .writeDirect packetID _ codec pending =>
      engine.p2pCodec = some codec ∧ Writing engine sender call payload packetID pending
  | .writeRelay packetID pending => Writing engine sender call payload packetID pending
  | .returned none => ∃ packetID, Complete engine sender call payload packetID ∧
      ∀ other, LastSent engine sender call payload other → other = packetID
  | .loadPath | .draw _ | .fallback _ | .returned (some _) =>
      ∀ other, ¬LastSent engine sender call payload other

def Emitted (write : Handover) : Prop :=
  (∃ hdr chunk, decodeUDP write.datagram = .ok (hdr, chunk) ∧
    hdr.sessionID = engine.sessionID ∧ (write.call, hdr.packetID) ∈ sender.drawn) ∧
  match write.carrier with
  | .relay => write.packet = write.datagram
  | .punched _ => ∃ codec, engine.p2pCodec = some codec ∧
      write.packet = codec.encode write.datagram

end Copies

structure SentKnown (engine : DataEngine) (pool : SendingPool) : Prop where
  emitted : ∀ write ∈ pool.shared.handedOver,
    Emitted engine pool.shared write ∧ write.call < pool.threads.length
  counter : pool.shared.nextPacketID = UInt32.ofNat pool.shared.drawn.length
  drawn : pool.shared.drawn.map Prod.snd =
    ((List.range pool.shared.drawn.length).map fun index => UInt32.ofNat (index + 1)).reverse

def SendingThread.CopyKnown (engine : DataEngine) (self : Nat) (sender : SendingManager) :
    SendingThread → Prop
  | .operation _ => True
  | .sendUDP payload point => Path.CopyKnown engine sender self payload point

def copyOutline (engine : DataEngine) : Program.Outline SendingManager SendingThread where
  global := SentKnown engine
  assertion self pool thread := thread.CopyKnown engine self pool.shared

/-! ## Actions and the log -/

section Log

variable {engine : DataEngine} {sender moved : SendingManager} {call : Nat} {payload : Bytes}

@[simp] theorem datagramsOf_handOver (sender : SendingManager) (write : Handover) (call : Nat) :
    (sender.handOver write).datagramsOf call =
      if write.call = call then write.datagram :: sender.datagramsOf call
      else sender.datagramsOf call := by
  by_cases same : write.call = call <;>
    simp [SendingManager.datagramsOf, SendingManager.handOver, same]

theorem CopyKnown.mono {point : SendUDPPoint} (before : CopyKnown engine sender call payload point)
    (same : moved.datagramsOf call = sender.datagramsOf call)
    (more : ∀ draw ∈ sender.drawn, draw ∈ moved.drawn) :
    CopyKnown engine moved call payload point := by
  have writing {packetID : UInt32} {pending : List Bytes}
      (before : Writing engine sender call payload packetID pending) :
      Writing engine moved call payload packetID pending := by
    refine ⟨before.few, more _ before.drawn, ?_⟩
    simpa only [LastSent, same] using before.progress
  cases point with
  | readPunch packetID =>
      refine ⟨more _ before.1, ?_⟩
      simpa only [LastSent, same] using before.2
  | writeDirect packetID res codec pending => exact ⟨before.1, writing before.2⟩
  | writeRelay packetID pending => exact writing before
  | returned err =>
      cases err with
      | none => simpa only [CopyKnown, Complete, LastSent, same] using before
      | some err => simpa only [CopyKnown, LastSent, same] using before
  | _ => simpa only [CopyKnown, LastSent, same] using before

theorem writing_start {packetID : UInt32} {datagrams : List Bytes}
    (drawn : (call, packetID) ∈ sender.drawn)
    (unsent : ∀ other, ¬LastSent engine sender call payload other)
    (split : engine.fragmenter.fragment engine.sessionID packetID payload = .ok datagrams) :
    Writing engine sender call payload packetID datagrams := by
  rcases Fragmenter.fragment_eq_ok split with ⟨few, rfl⟩
  exact ⟨few, drawn, 0, Nat.zero_le _, rfl, fun _ never => absurd never (Nat.not_lt_zero _),
    fun other sent => absurd sent (unsent other)⟩

theorem Writing.next {packetID : UInt32} {datagram : Bytes} {rest : List Bytes} {write : Handover}
    (before : Writing engine sender call payload packetID (datagram :: rest))
    (own : write.call = call) (same : write.datagram = datagram) :
    Writing engine (sender.handOver write) call payload packetID rest := by
  rcases before.progress with ⟨count, most, pending, sent, last⟩
  have fewer : count < engine.fragments payload := by
    by_contra all
    rw [List.drop_of_length_le (by simp [DataEngine.datagrams]; omega)] at pending
    cases pending
  have place : count < (engine.datagrams packetID payload).length := by
    simpa [DataEngine.datagrams] using fewer
  rw [List.drop_eq_getElem_cons place] at pending
  rcases List.cons.inj pending with ⟨head, tail⟩
  have this : datagram = engine.datagram packetID payload count := by
    simpa [DataEngine.datagrams] using head
  refine ⟨before.few, before.drawn, count + 1, fewer, tail, ?_, ?_⟩
  · intro index bound
    rw [datagramsOf_handOver, if_pos own, same, List.mem_cons]
    rcases Nat.lt_succ_iff_lt_or_eq.mp bound with earlier | rfl
    · exact .inr (sent index earlier)
    · exact .inl this.symm
  · intro other lastSent
    rw [LastSent, datagramsOf_handOver, if_pos own, same, List.mem_cons] at lastSent
    rcases lastSent with now | earlier
    · rw [this] at now
      rcases DataEngine.datagram_injective before.few (by omega) fewer now with ⟨rfl, index⟩
      exact ⟨rfl, by omega⟩
    · have done := (last other earlier).2
      omega

theorem Writing.unsent {packetID : UInt32} {pending : List Bytes}
    (before : Writing engine sender call payload packetID pending) (some : pending ≠ []) :
    ∀ other, ¬LastSent engine sender call payload other := by
  intro other lastSent
  rcases before.progress with ⟨count, _, rest, _, last⟩
  have all := (last other lastSent).2
  apply some
  rw [rest, all]
  exact List.drop_of_length_le (by simp [DataEngine.datagrams])

theorem Writing.complete {packetID : UInt32}
    (before : Writing engine sender call payload packetID []) :
    CopyKnown engine sender call payload (.returned none) := by
  rcases before.progress with ⟨count, most, rest, sent, last⟩
  have all : count = engine.fragments payload := by
    have none := List.drop_eq_nil_iff.mp rest.symm
    simp only [DataEngine.datagrams, List.length_map, List.length_range] at none
    omega
  refine ⟨packetID, ?_, fun other lastSent => (last other lastSent).1⟩
  intro datagram member
  rcases List.mem_map.mp member with ⟨index, range, rfl⟩
  exact sent index (all ▸ List.mem_range.mp range)

theorem Writing.decoded {packetID : UInt32} {datagram : Bytes} {rest : List Bytes}
    (before : Writing engine sender call payload packetID (datagram :: rest)) :
    ∃ hdr chunk, decodeUDP datagram = .ok (hdr, chunk) ∧ hdr.sessionID = engine.sessionID ∧
      (call, hdr.packetID) ∈ sender.drawn := by
  rcases before.progress with ⟨count, _, pending, _⟩
  have member : datagram ∈ engine.datagrams packetID payload :=
    List.mem_of_mem_drop (pending ▸ List.mem_cons_self)
  rcases List.mem_map.mp member with ⟨index, range, rfl⟩
  exact ⟨_, _, Fragmenter.decodeUDP_datagram engine.sessionID packetID before.few
    (List.mem_range.mp range), rfl, before.drawn⟩

end Log

/-! ## One action -/

section Step

variable {engine : DataEngine} {sender moved : SendingManager} {self : Nat} {payload : Bytes}
  {choice : SendChoice} {thread next : SendingThread}

structure LogStep (own : Nat) (sender moved : SendingManager) : Prop where
  handedOver : moved.handedOver = sender.handedOver ∨
    ∃ write, write.call = own ∧ moved.handedOver = write :: sender.handedOver
  drawn : moved.drawn = sender.drawn ∧ moved.nextPacketID = sender.nextPacketID ∨
    moved.drawn = (own, sender.nextPacketID + 1) :: sender.drawn ∧
      moved.nextPacketID = sender.nextPacketID + 1

theorem stepSendUDP_log {point after : SendUDPPoint}
    (taken : stepSendUDP engine self sender payload choice point = some (moved, after)) :
    LogStep self sender moved := by
  cases point with
  | draw path =>
      cases taken
      exact ⟨.inl rfl, .inr ⟨rfl, rfl⟩⟩
  | writeDirect packetID res codec pending =>
      rcases stepSendUDP_writeDirect taken with
        ⟨_, rfl, _⟩ | ⟨_, rfl, _⟩ | ⟨datagram, rest, _, rfl, _⟩
      · exact ⟨.inl rfl, .inl ⟨rfl, rfl⟩⟩
      · exact ⟨.inl rfl, .inl ⟨rfl, rfl⟩⟩
      · exact ⟨.inr ⟨_, rfl, rfl⟩, .inl ⟨rfl, rfl⟩⟩
  | writeRelay packetID pending =>
      rcases stepSendUDP_writeRelay taken with
        ⟨_, rfl, _⟩ | ⟨_, rfl, _⟩ | ⟨datagram, rest, _, rfl, _⟩
      · exact ⟨.inl rfl, .inl ⟨rfl, rfl⟩⟩
      · exact ⟨.inl rfl, .inl ⟨rfl, rfl⟩⟩
      · exact ⟨.inr ⟨_, rfl, rfl⟩, .inl ⟨rfl, rfl⟩⟩
  | fallback point =>
      simp only [stepSendUDP, Option.map_eq_some_iff] at taken
      rcases taken with ⟨⟨manager, resumed⟩, _, equal⟩
      cases equal
      exact ⟨.inl rfl, .inl ⟨rfl, rfl⟩⟩
  | loadPath =>
      simp only [stepSendUDP] at taken
      split at taken <;> cases taken <;> exact ⟨.inl rfl, .inl ⟨rfl, rfl⟩⟩
  | readPunch packetID =>
      simp only [stepSendUDP] at taken
      split at taken <;> cases taken
      exact ⟨.inl rfl, .inl ⟨rfl, rfl⟩⟩
  | returned err => cases taken

theorem stepSending_log (taken : stepSending engine self sender thread choice = some (moved, next)) :
    LogStep self sender moved := by
  rcases stepSending_cases taken with
    ⟨operation, inner, manager, after, rfl, _, stepped, rfl, rfl⟩ |
    ⟨payload, point, manager, after, rfl, fell, rfl, rfl⟩ |
    ⟨payload, point, after, rfl, outside, stepped, _, _, rfl⟩
  · exact ⟨.inl rfl, .inl ⟨rfl, rfl⟩⟩
  · exact ⟨.inl rfl, .inl ⟨rfl, rfl⟩⟩
  · exact stepSendUDP_log stepped

theorem LogStep.drawn_subset (step : LogStep self sender moved) :
    ∀ draw ∈ sender.drawn, draw ∈ moved.drawn := by
  intro draw member
  rcases step.drawn with ⟨same, _⟩ | ⟨more, _⟩
  · exact same ▸ member
  · exact more ▸ List.mem_cons_of_mem _ member

theorem LogStep.datagramsOf_other (step : LogStep self sender moved) {other : Nat}
    (different : other ≠ self) : moved.datagramsOf other = sender.datagramsOf other := by
  rcases step.handedOver with same | ⟨write, own, more⟩
  · simp [SendingManager.datagramsOf, same]
  · have elsewhere : write.call ≠ other := fun equal => different (equal.symm.trans own)
    simp [SendingManager.datagramsOf, more, elsewhere]

theorem CopyKnown.own {point after : SendUDPPoint}
    (before : CopyKnown engine sender self payload point)
    (taken : stepSendUDP engine self sender payload choice point = some (moved, after)) :
    CopyKnown engine moved self payload after := by
  cases point with
  | loadPath =>
      simp only [stepSendUDP] at taken
      split at taken <;> cases taken <;> exact before
  | draw path =>
      cases taken
      have drawn : (self, sender.nextPacketID + 1) ∈ (sender.drawPacketID self).drawn :=
        List.mem_cons_self
      cases path with
      | directLAN => exact ⟨drawn, before⟩
      | directUDP => exact ⟨drawn, before⟩
      | relay =>
          simp only [selectCarrier]
          split
          · exact before
          · split
            · exact before
            · rename_i datagrams split
              exact writing_start drawn before split
      | _ => exact before
  | readPunch packetID =>
      simp only [stepSendUDP] at taken
      split at taken
      · cases taken
      · cases taken
        cases sender.manager.directUDPPunch with
        | none => exact before.2
        | some res =>
            simp only [usePunch]
            split
            · exact before.2
            · split
              · exact before.2
              · rename_i codec found
                split
                · exact before.2
                · rename_i datagrams split
                  exact ⟨found, writing_start before.1 before.2 split⟩
  | writeDirect packetID res codec pending =>
      rcases stepSendUDP_writeDirect taken with
        ⟨rfl, rfl, rfl⟩ | ⟨some, rfl, rfl⟩ | ⟨datagram, rest, rfl, rfl, rfl⟩
      · exact before.2.complete
      · exact before.2.unsent some
      · exact ⟨before.1, before.2.next rfl rfl⟩
  | writeRelay packetID pending =>
      rcases stepSendUDP_writeRelay taken with
        ⟨rfl, rfl, rfl⟩ | ⟨some, rfl, rfl⟩ | ⟨datagram, rest, rfl, rfl, rfl⟩
      · exact Writing.complete before
      · exact Writing.unsent before some
      · exact Writing.next before rfl rfl
  | fallback point =>
      simp only [stepSendUDP, Option.map_eq_some_iff] at taken
      rcases taken with ⟨⟨manager, resumed⟩, _, equal⟩
      cases equal
      cases resumed <;> exact before
  | returned err => cases taken

theorem Emitted.mono {write : Handover} (before : Emitted engine sender write)
    (more : ∀ draw ∈ sender.drawn, draw ∈ moved.drawn) : Emitted engine moved write := by
  rcases before with ⟨⟨hdr, chunk, decoded, session, drawn⟩, carrier⟩
  exact ⟨⟨hdr, chunk, decoded, session, more _ drawn⟩, carrier⟩

theorem emitted_own {point after : SendUDPPoint}
    (before : CopyKnown engine sender self payload point)
    (taken : stepSendUDP engine self sender payload choice point = some (moved, after)) :
    ∀ write ∈ moved.handedOver, write ∈ sender.handedOver ∨
      write.call = self ∧ Emitted engine sender write := by
  intro write member
  cases point with
  | writeDirect packetID res codec pending =>
      rcases stepSendUDP_writeDirect taken with
        ⟨rfl, rfl, rfl⟩ | ⟨some, rfl, rfl⟩ | ⟨datagram, rest, rfl, rfl, rfl⟩
      · exact .inl member
      · exact .inl member
      · rcases List.mem_cons.mp member with rfl | old
        · exact .inr ⟨rfl, before.2.decoded, codec, before.1, rfl⟩
        · exact .inl old
  | writeRelay packetID pending =>
      rcases stepSendUDP_writeRelay taken with
        ⟨rfl, rfl, rfl⟩ | ⟨some, rfl, rfl⟩ | ⟨datagram, rest, rfl, rfl, rfl⟩
      · exact .inl member
      · exact .inl member
      · rcases List.mem_cons.mp member with rfl | old
        · exact .inr ⟨rfl, Writing.decoded before, rfl⟩
        · exact .inl old
  | draw path =>
      cases taken
      exact .inl member
  | loadPath =>
      simp only [stepSendUDP] at taken
      split at taken <;> cases taken <;> exact .inl member
  | readPunch packetID =>
      simp only [stepSendUDP] at taken
      split at taken <;> cases taken
      exact .inl member
  | fallback point =>
      simp only [stepSendUDP, Option.map_eq_some_iff] at taken
      rcases taken with ⟨⟨manager, resumed⟩, _, equal⟩
      cases equal
      exact .inl member
  | returned err => cases taken

end Step

/-! ## Runs -/

theorem drawn_next {sender moved : SendingManager} {self : Nat} (step : LogStep self sender moved)
    (counter : sender.nextPacketID = UInt32.ofNat sender.drawn.length)
    (drawn : sender.drawn.map Prod.snd =
      ((List.range sender.drawn.length).map fun index => UInt32.ofNat (index + 1)).reverse) :
    moved.nextPacketID = UInt32.ofNat moved.drawn.length ∧
      moved.drawn.map Prod.snd =
        ((List.range moved.drawn.length).map fun index => UInt32.ofNat (index + 1)).reverse := by
  rcases step.drawn with ⟨same, counted⟩ | ⟨more, counted⟩
  · rw [same, counted]
    exact ⟨counter, drawn⟩
  · have following : sender.nextPacketID + 1 = UInt32.ofNat (sender.drawn.length + 1) := by
      rw [counter, UInt32.ofNat_add]
      rfl
    rw [counted, more, List.length_cons, List.map_cons, drawn, List.range_succ, List.map_append,
      List.reverse_append, following]
    exact ⟨rfl, rfl⟩

theorem SentKnown.step {engine : DataEngine} {pool : SendingPool} {self : Nat}
    {thread next : SendingThread} {choice : SendChoice} {shared : SendingManager}
    (before : SentKnown engine pool) (present : pool.threads[self]? = some thread)
    (known : thread.CopyKnown engine self pool.shared)
    (taken : stepSending engine self pool.shared thread choice = some (shared, next)) :
    SentKnown engine (pool.update self shared next) := by
  have log := stepSending_log taken
  have ids := drawn_next log before.counter before.drawn
  refine ⟨fun write member => ?_, ids.1, ids.2⟩
  rw [Pool.update_length]
  have bound := (List.getElem?_eq_some_iff.mp present).1
  suffices source : write ∈ pool.shared.handedOver ∨
      write.call = self ∧ Emitted engine pool.shared write by
    rcases source with old | ⟨rfl, emitted⟩
    · exact ⟨(before.emitted write old).1.mono log.drawn_subset, (before.emitted write old).2⟩
    · exact ⟨emitted.mono log.drawn_subset, bound⟩
  rcases stepSending_cases taken with
    ⟨operation, inner, manager, after, rfl, _, stepped, rfl, rfl⟩ |
    ⟨payload, point, manager, after, rfl, fell, rfl, rfl⟩ |
    ⟨payload, point, after, rfl, outside, stepped, _, _, rfl⟩
  · exact .inl member
  · exact .inl member
  · exact emitted_own known stepped write member

theorem copyOutline_valid (engine : DataEngine)
    (allowed : SendingPool → SendingEvent → Prop) :
    (copyOutline engine).Valid (sending engine) allowed where
  started pool thread outline enters _ := by
    rcases outline.global with ⟨emitted, counter, drawn⟩
    refine ⟨⟨fun write member => ⟨(emitted write member).1, ?_⟩, counter, drawn⟩, ?_⟩
    · rw [Pool.start, List.length_append]
      exact Nat.lt_add_right _ (emitted write member).2
    · cases thread with
      | operation thread => trivial
      | sendUDP payload point =>
          simp only [sending, SendingThread.entry, decide_eq_true_eq] at enters
          subst enters
          intro other sent
          rw [LastSent, SendingManager.datagramsOf, List.mem_map] at sent
          rcases sent with ⟨write, member, _⟩
          rcases List.mem_filter.mp member with ⟨old, own⟩
          have earlier := (emitted write old).2
          rw [of_decide_eq_true own] at earlier
          exact Nat.lt_irrefl _ earlier
  undisturbedByStart _ _ other bystander outline _ _ found := outline.thread other bystander found
  sequential pool self thread choice shared next outline present _ taken := by
    have known : thread.CopyKnown engine self pool.shared := outline.thread self thread present
    refine ⟨outline.global.step present known taken, ?_⟩
    cases thread with
    | operation operation =>
        rcases stepSending_operation taken with ⟨_, _, _, _, _, _, rfl⟩
        trivial
    | sendUDP payload point =>
        rcases stepSending_sendUDP taken with ⟨after, stepped, rfl⟩
        exact CopyKnown.own known stepped
  interferenceFree pool self thread choice shared next other bystander outline present _ taken
      different found := by
    have theirs := outline.thread other bystander found
    have log := stepSending_log taken
    cases bystander with
    | operation operation => trivial
    | sendUDP payload point =>
        exact CopyKnown.mono theirs (log.datagramsOf_other different) log.drawn_subset

theorem copyOutline_of_run {engine : DataEngine} {relayTransport : Option RelayTransport}
    {allowed : SendingPool → SendingEvent → Prop} {events : List SendingEvent}
    {pool : SendingPool}
    (run : (sending engine).machine.Run allowed (initialSending engine relayTransport) events pool) :
    (copyOutline engine).Holds pool := by
  refine (copyOutline_valid engine allowed).run ⟨⟨?_, rfl, rfl⟩, fun _ _ present => ?_⟩ run
  · exact fun write member => by cases member
  · simp [initialSending] at present

/-! ## The claim -/

/-- One `SendUDP` call ends and hands over one complete copy at most. -/
structure SingleCopy (engine : DataEngine) (payload : Bytes) (call : Nat) (pool : SendingPool) :
    Prop where
  /-- From its start the call takes a bounded number of actions, in any schedule. -/
  terminates : pool.threads[call]? = some (.sendUDP payload .loadPath) →
    ∀ later final, (sending engine).machine.Run DirectOnce pool later final →
      turns call later ≤ 2 * engine.fragments payload + 12
  /-- It can go on, or waits for a critical section, which is finite. -/
  waits : ∀ point, pool.threads[call]? = some (.sendUDP payload point) →
    (∃ err, point = .returned err) ∨ Enabled engine pool call ∨
      ∃ holder, pool.shared.manager.mu = some holder ∧ Enabled engine pool holder ∧
        ∀ later final, (sending engine).machine.Run (WhileHolding holder) pool later final →
          turns holder later ≤ 6
  once : ∀ point, pool.threads[call]? = some (.sendUDP payload point) → ∀ first second,
    Complete engine pool.shared call payload first →
    Complete engine pool.shared call payload second → first = second
  delivered : pool.threads[call]? = some (.sendUDP payload (.returned none)) →
    ∃ packetID, Complete engine pool.shared call payload packetID
  reassembles : ∀ packetID, Complete engine pool.shared call payload packetID →
    Reassembles ⟨engine.sessionID, packetID⟩ (engine.datagrams packetID payload) payload
  emitted : ∀ write ∈ pool.shared.handedOver, write.call = call →
    Emitted engine pool.shared write
  distinct : pool.shared.drawn.length < 2 ^ 32 → (pool.shared.drawn.map Prod.snd).Nodup

theorem Complete.lastSent {engine : DataEngine} {sender : SendingManager} {call : Nat}
    {payload : Bytes} {packetID : UInt32} (bounded : payload.length ≤ maxUDPPacketSize)
    (complete : Complete engine sender call payload packetID) :
    LastSent engine sender call payload packetID := by
  have positive := engine.fragments_positive bounded
  exact complete _ (List.mem_map.mpr ⟨_, List.mem_range.mpr (by omega), rfl⟩)

/-- At every point of a call at most one id can be complete. -/
theorem CopyKnown.unique {engine : DataEngine} {sender : SendingManager} {call : Nat}
    {payload : Bytes} {point : SendUDPPoint} (known : CopyKnown engine sender call payload point) :
    ∃ packetID, ∀ other, LastSent engine sender call payload other → other = packetID := by
  have writing {packetID : UInt32} {pending : List Bytes}
      (before : Writing engine sender call payload packetID pending) :
      ∀ other, LastSent engine sender call payload other → other = packetID := by
    rcases before.progress with ⟨count, _, _, _, last⟩
    exact fun other sent => (last other sent).1
  cases point with
  | writeDirect packetID res codec pending => exact ⟨packetID, writing known.2⟩
  | writeRelay packetID pending => exact ⟨packetID, writing known⟩
  | readPunch packetID => exact ⟨0, fun other sent => absurd sent (known.2 other)⟩
  | returned err =>
      cases err with
      | none =>
          rcases known with ⟨packetID, _, last⟩
          exact ⟨packetID, last⟩
      | some err => exact ⟨0, fun other sent => absurd sent (known other)⟩
  | _ => exact ⟨0, fun other sent => absurd sent (known other)⟩

theorem drawn_nodup {sender : SendingManager}
    (drawn : sender.drawn.map Prod.snd =
      ((List.range sender.drawn.length).map fun index => UInt32.ofNat (index + 1)).reverse)
    (few : sender.drawn.length < 2 ^ 32) : (sender.drawn.map Prod.snd).Nodup := by
  rw [drawn, List.nodup_reverse]
  apply List.Nodup.map_on _ List.nodup_range
  intro first firstBound second secondBound equal
  rw [List.mem_range] at firstBound secondBound
  have numbers := congrArg UInt32.toNat equal
  rw [UInt32.toNat_ofNat', UInt32.toNat_ofNat', Nat.mod_eq_of_lt (by omega),
    Nat.mod_eq_of_lt (by omega)] at numbers
  omega

/-- However single writes fail and the path changes, a call comes to an end, its
datagrams complete at most one packet, exactly one if it returns nil, and that one
reassembles to the payload. -/
theorem sendUDP_single_copy (engine : DataEngine) (relayTransport : Option RelayTransport)
    (events : List SendingEvent) (pool : SendingPool)
    (run : (sending engine).machine.Run DirectOnce (initialSending engine relayTransport)
      events pool)
    (payload : Bytes) (bounded : payload.length ≤ maxUDPPacketSize) (call : Nat) :
    SingleCopy engine payload call pool := by
  have paths := pathOutline_of_run run
  have held := heldInside_of_run run
  have copies := copyOutline_of_run run
  refine ⟨?_, ?_, ?_, ?_, ?_, ?_, ?_⟩
  · exact fun present later final run => turns_sendUDP paths present run
  · intro point present
    rcases sendUDP_progress paths held present with finished | enabled | ⟨holder, holds, enabled⟩
    · exact .inl finished
    · exact .inr (.inl enabled)
    · exact .inr (.inr ⟨holder, holds, enabled, fun later final run => turns_holder held run⟩)
  · intro point present first second firstComplete secondComplete
    have known : CopyKnown engine pool.shared call payload point := copies.thread call _ present
    rcases known.unique with ⟨packetID, last⟩
    exact (last first (firstComplete.lastSent bounded)).trans
      (last second (secondComplete.lastSent bounded)).symm
  · intro present
    rcases copies.thread call _ present with ⟨packetID, complete, _⟩
    exact ⟨packetID, complete⟩
  · exact fun packetID _ => reassembles_datagrams (DataEngine.fragments_few bounded) bounded
  · exact fun write member _ => (copies.global.emitted write member).1
  · exact drawn_nodup copies.global.drawn

/-- The direct write fails, and the copy goes over the relay under the second id. -/
theorem sendUDP_single_copy_fallen :
    ∃ events pool, (sending ⟨7, [1]⟩).machine.Run DirectOnce
        (initialSending ⟨7, [1]⟩ (some ⟨true⟩)) events pool ∧
      SingleCopy ⟨7, [1]⟩ [5] 1 pool ∧
      pool.threads[1]? = some (.sendUDP [5] (.returned none)) ∧
      pool.shared.drawn = [(1, 2), (1, 1)] ∧
      pool.shared.handedOver.map Handover.carrier = [.relay] := by
  rcases (sending ⟨7, [1]⟩).machine.exists_run DirectOnce
      (fun pool => pool.threads[1]? = some (.sendUDP [5] (.returned none)) ∧
        pool.shared.drawn = [(1, 2), (1, 1)] ∧
        pool.shared.handedOver.map Handover.carrier = [.relay])
      (initialSending ⟨7, [1]⟩ (some ⟨true⟩))
      (.spawn (.operation (.setDirectUDP (some ⟨0, true⟩) false .loadClosed)) ::
        List.replicate 7 (.advance 0 (.operation .proceed)) ++
        .spawn (.sendUDP [5] .loadPath) :: List.replicate 3 (.advance 1 (.write true)) ++
        .advance 1 (.write false) :: List.replicate 10 (.advance 1 (.write true)))
      (by decide +kernel) with ⟨pool, run, returned, drawn, carrier⟩
  exact ⟨_, pool, run, sendUDP_single_copy _ _ _ pool run [5] (by decide) 1, returned, drawn,
    carrier⟩

end Rdpulse.Path
