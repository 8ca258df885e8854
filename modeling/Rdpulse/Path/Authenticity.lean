import Rdpulse.Path.DirectUDP

namespace Rdpulse.Path

open Foundation Protocol UDP

/-! # What the direct UDP path delivers

Every datagram that an end emits is a fragment of a packet it was passed, and as long
as an end accepts only datagrams of its peer, its reassembler gathers parts of the
peer's packets, each number at most once. -/

def FragmentOf (session : DirectSession) (side : Side) (passed : List (UInt32 × Bytes))
    (datagram : Bytes) : Prop :=
  ∃ packetID packet, (packetID, packet) ∈ passed ∧
    (session.fragmenter side).fragments packet ≤ maxUDPFragments ∧
    ∃ index < (session.fragmenter side).fragments packet,
      datagram = (session.fragmenter side).datagram session.codec.sessionID packetID packet index

structure SenderSound (session : DirectSession) (side : Side) (holder : DirectEnd) : Prop where
  small : holder.nextPacketID.toNat < 2 ^ 31
  drawn : ∀ packet ∈ holder.passed, packet.1.toNat ≤ holder.nextPacketID.toNat
  nodup : (holder.passed.map Prod.fst).Nodup
  encoded : ∀ datagram ∈ holder.encoded, FragmentOf session side holder.passed datagram
  relayed : ∀ datagram ∈ holder.relayed, FragmentOf session side holder.passed datagram

def PendingSound (session : DirectSession) (sender : Side) (passed : List (UInt32 × Bytes))
    (reassembler : Reassembler) : Prop :=
  ∀ packetID entry, reassembler.pending.lookup ⟨session.codec.sessionID, packetID⟩ = some entry →
    ∃ packet got, (packetID, packet) ∈ passed ∧
      entry.Gathers ((session.fragmenter sender).parts packet) got

def WindowSound (window : ReplayWindow) (delivered : List (UInt32 × Bytes)) : Prop :=
  (window.initialized = false ∧ delivered = []) ∨
    ∃ log : ReceiveLog, window.Represents log ∧ 0 ≤ log.highest ∧ log.highest < 2 ^ 31 ∧
      log.marked = delivered.map fun packet => (packet.1.toNat : Int)

structure ReceiverSound (session : DirectSession) (sender : Side)
    (passed : List (UInt32 × Bytes)) (holder : DirectEnd) : Prop where
  pending : PendingSound session sender passed holder.reassembler
  window : WindowSound holder.replayWindow holder.delivered
  delivered : ∀ packet ∈ holder.delivered, packet ∈ passed
  once : (holder.delivered.map Prod.fst).Nodup

section Lists

variable {session : DirectSession} {side : Side} {passed more : List (UInt32 × Bytes)}

theorem FragmentOf.mono {datagram : Bytes} (grows : ∀ packet ∈ passed, packet ∈ more)
    (fragment : FragmentOf session side passed datagram) :
    FragmentOf session side more datagram := by
  rcases fragment with ⟨packetID, packet, member, few, index, bound, equal⟩
  exact ⟨packetID, packet, grows _ member, few, index, bound, equal⟩

theorem PendingSound.mono {reassembler : Reassembler} (grows : ∀ packet ∈ passed, packet ∈ more)
    (pending : PendingSound session side passed reassembler) :
    PendingSound session side more reassembler := by
  intro packetID entry present
  rcases pending packetID entry present with ⟨packet, got, member, gathers⟩
  exact ⟨packet, got, grows _ member, gathers⟩

theorem ReceiverSound.mono {holder : DirectEnd} (grows : ∀ packet ∈ passed, packet ∈ more)
    (sound : ReceiverSound session side passed holder) :
    ReceiverSound session side more holder :=
  ⟨sound.pending.mono grows, sound.window, fun packet member =>
    grows packet (sound.delivered packet member), sound.once⟩

theorem packet_unique (nodup : (passed.map Prod.fst).Nodup) {packetID : UInt32}
    {packet other : Bytes} (member : (packetID, packet) ∈ passed)
    (otherMember : (packetID, other) ∈ passed) : packet = other :=
  congrArg Prod.snd (List.inj_on_of_nodup_map nodup member otherMember rfl)

end Lists

/-! ## Sending -/

section Sending

variable {session : DirectSession} {side : Side} {holder : DirectEnd}

theorem fragmentOf_datagrams {payload datagram : Bytes} {written : Nat}
    {passed : List (UInt32 × Bytes)} (member : (holder.nextPacketID, payload) ∈ passed)
    (emitted : datagram ∈ holder.datagrams session side payload written) :
    FragmentOf session side passed datagram := by
  rw [DirectEnd.datagrams] at emitted
  split at emitted
  · cases emitted
  rename_i datagrams split
  rcases Fragmenter.fragment_eq_ok split with ⟨few, rfl⟩
  rcases List.mem_map.mp (List.mem_of_mem_take emitted) with ⟨index, bound, rfl⟩
  exact ⟨_, _, member, few, index, List.mem_range.mp bound, rfl⟩

theorem next_toNat (room : holder.nextPacketID.toNat + 1 < 2 ^ 31) :
    holder.drawPacketID.nextPacketID.toNat = holder.nextPacketID.toNat + 1 := by
  rw [DirectEnd.drawPacketID, UInt32.toNat_add, UInt32.toNat_one]
  omega

theorem SenderSound.draw (sound : SenderSound session side holder)
    (room : holder.nextPacketID.toNat + 1 < 2 ^ 31) :
    SenderSound session side holder.drawPacketID where
  small := (next_toNat room).symm ▸ room
  drawn packet member := by
    rw [next_toNat room]
    exact Nat.le_succ_of_le (sound.drawn packet member)
  nodup := sound.nodup
  encoded := sound.encoded
  relayed := sound.relayed

theorem SenderSound.pass (sound : SenderSound session side holder)
    (room : holder.nextPacketID.toNat + 1 < 2 ^ 31) (payload : Bytes) :
    SenderSound session side
      { holder.drawPacketID with
        passed := (holder.drawPacketID.nextPacketID, payload) :: holder.passed } where
  small := (sound.draw room).small
  drawn packet member := by
    rcases List.mem_cons.mp member with rfl | old
    · exact Nat.le_refl _
    · exact (sound.draw room).drawn packet old
  nodup := by
    refine List.nodup_cons.mpr ⟨fun member => ?_, sound.nodup⟩
    rcases List.mem_map.mp member with ⟨packet, old, equal⟩
    have before := sound.drawn packet old
    rw [equal, next_toNat room] at before
    omega
  encoded datagram member :=
    (sound.encoded datagram member).mono fun _ => List.mem_cons_of_mem _
  relayed datagram member :=
    (sound.relayed datagram member).mono fun _ => List.mem_cons_of_mem _

theorem SenderSound.sendDirect (sound : SenderSound session side holder)
    (room : holder.nextPacketID.toNat + 1 < 2 ^ 31) (payload : Bytes) (written : Nat) :
    SenderSound session side (holder.sendDirect session side payload written) :=
  have passed := sound.pass room payload
  { small := passed.small
    drawn := passed.drawn
    nodup := passed.nodup
    encoded := fun datagram member => by
      rcases List.mem_append.mp member with new | old
      · exact fragmentOf_datagrams List.mem_cons_self new
      · exact passed.encoded datagram old
    relayed := passed.relayed }

theorem SenderSound.sendRelay (sound : SenderSound session side holder)
    (room : holder.nextPacketID.toNat + 1 < 2 ^ 31) (payload : Bytes) (written : Nat) :
    SenderSound session side (holder.sendRelay session side payload written) :=
  have passed := sound.pass room payload
  { small := passed.small
    drawn := passed.drawn
    nodup := passed.nodup
    encoded := passed.encoded
    relayed := fun datagram member => by
      rcases List.mem_append.mp member with new | old
      · exact fragmentOf_datagrams List.mem_cons_self new
      · exact passed.relayed datagram old }

end Sending

/-! ## Receiving -/

section Receiving

variable {session : DirectSession} {sender : Side} {passed : List (UInt32 × Bytes)}
  {reassembler : Reassembler}

theorem PendingSound.holds (pending : PendingSound session sender passed reassembler)
    (nodup : (passed.map Prod.fst).Nodup) {packetID : UInt32} {packet : Bytes}
    (member : (packetID, packet) ∈ passed) :
    ∃ got, reassembler.Holds ⟨session.codec.sessionID, packetID⟩
      ((session.fragmenter sender).parts packet) got := by
  cases present : reassembler.pending.lookup ⟨session.codec.sessionID, packetID⟩ with
  | none => exact ⟨∅, .inl ⟨rfl, present⟩⟩
  | some entry =>
      rcases pending packetID entry present with ⟨other, got, otherMember, gathers⟩
      rw [packet_unique nodup member otherMember]
      exact ⟨got, .inr ⟨entry, present, gathers⟩⟩

/-- Feeding a fragment of the sender's: only its parts are pending afterwards, and a
packet that it completes is the one it belongs to. -/
theorem PendingSound.feed (pending : PendingSound session sender passed reassembler)
    (nodup : (passed.map Prod.fst).Nodup) {packetID : UInt32} {packet : Bytes}
    (member : (packetID, packet) ∈ passed)
    (few : (session.fragmenter sender).fragments packet ≤ maxUDPFragments) {index : Nat}
    (bound : index < (session.fragmenter sender).fragments packet) (now : Nat) :
    let fed := reassembler.feedAppend false
      ((session.fragmenter sender).header session.codec.sessionID packetID packet index)
      ((session.fragmenter sender).chunk packet index) now
    PendingSound session sender passed fed.1 ∧
      ∀ assembled, fed.2 = .ok (some assembled) → assembled = packet := by
  intro fed
  by_cases single : (session.fragmenter sender).fragments packet = 1
  · simp only [fed, feedAppend_single single bound]
    exact ⟨pending, by simp [appendTo, eq_comm]⟩
  rcases pending.holds nodup member with ⟨got, holds⟩
  have others : ∀ key, key ≠ ⟨session.codec.sessionID, packetID⟩ →
      fed.1.pending.lookup key = reassembler.pending.lookup key := fun key different =>
    Reassembler.feedAppend_lookup_ne reassembler false _ _ now different
  have gone : fed.1.pending.lookup ⟨session.codec.sessionID, packetID⟩ = none →
      PendingSound session sender passed fed.1 := by
    intro absent other entry present
    by_cases same : other = packetID
    · rw [same, absent] at present
      cases present
    · rw [others _ fun equal => same (congrArg ReassemblyKey.packetID equal)] at present
      exact pending other entry present
  rcases feedAppend_several single few bound holds false now with
    ⟨kept, ⟨err, refused⟩, _⟩ | ⟨_, absent, refused⟩ | ⟨_, absent, complete⟩ | ⟨_, held, incomplete⟩
  · simp only [fed, refused, kept]
    exact ⟨pending, by simp⟩
  · exact ⟨gone absent, by simp [fed, refused]⟩
  · exact ⟨gone absent, by simp [fed, complete, appendTo, eq_comm]⟩
  · rcases held with ⟨_, absent⟩ | ⟨found, present, gathers⟩
    · exact ⟨gone absent, by simp [fed, incomplete]⟩
    · refine ⟨?_, by simp [fed, incomplete]⟩
      intro other entry presentOther
      by_cases same : other = packetID
      · subst same
        rw [show fed.1.pending.lookup _ = some found from present] at presentOther
        cases presentOther
        exact ⟨packet, _, member, gathers⟩
      · rw [others _ fun equal => same (congrArg ReassemblyKey.packetID equal)] at presentOther
        exact pending other entry presentOther

theorem PendingSound.receive (pending : PendingSound session sender passed reassembler)
    (nodup : (passed.map Prod.fst).Nodup) {datagram : Bytes}
    (honest : ∀ hdr payload, decodeUDP datagram = .ok (hdr, payload) →
      hdr.sessionID = session.codec.sessionID → FragmentOf session sender passed datagram)
    (now : Nat) :
    PendingSound session sender passed (reassembler.receive false datagram now).1 := by
  cases decoded : decodeUDP datagram with
  | error err =>
      simp only [Reassembler.receive, decoded]
      exact pending
  | ok read =>
      rcases read with ⟨hdr, payload⟩
      by_cases own : hdr.sessionID = session.codec.sessionID
      · rcases honest hdr payload decoded own with ⟨packetID, packet, member, few, index, bound, rfl⟩
        simp only [Reassembler.receive, Fragmenter.decodeUDP_datagram _ _ few bound]
        exact (pending.feed nodup member few bound now).1
      · intro packetID entry present
        rw [receive_lookup_unrelated ⟨hdr, payload, decoded, fun equal =>
          own (congrArg ReassemblyKey.sessionID equal)⟩] at present
        exact pending packetID entry present

theorem PendingSound.of_lookup {moved : Reassembler}
    (pending : PendingSound session sender passed reassembler)
    (fewer : ∀ key, moved.pending.lookup key = none ∨
      moved.pending.lookup key = reassembler.pending.lookup key) :
    PendingSound session sender passed moved := by
  intro packetID entry present
  rcases fewer ⟨session.codec.sessionID, packetID⟩ with absent | same
  · rw [absent] at present
    cases present
  · rw [same] at present
    exact pending packetID entry present

theorem WindowSound.mark {window : ReplayWindow} {delivered : List (UInt32 × Bytes)}
    (sound : WindowSound window delivered) {packetID : UInt32} (small : packetID.toNat < 2 ^ 31)
    (packet : Bytes) :
    let marked := window.markCompleted packetID
    (marked.1 = true ∧ packetID ∉ delivered.map Prod.fst ∧
        WindowSound marked.2 ((packetID, packet) :: delivered)) ∨
      marked.1 = false ∧ marked.2 = window := by
  intro marked
  rcases sound with ⟨fresh, empty⟩ | ⟨log, represents, nonneg, below, numbers⟩
  · rw [show marked = _ from ReplayWindow.markCompleted_first fresh packetID, empty]
    exact .inl ⟨rfl, List.not_mem_nil, .inr ⟨_, ReplayWindow.represents_first packetID,
      Int.natCast_nonneg _, Int.ofNat_lt.mpr small, rfl⟩⟩
  have number : log.extend 32 packetID.toNat = packetID.toNat :=
    ReceiveLog.extend_of_near (by omega) (by omega)
  rcases represents.markCompleted packetID with
    ⟨fresh, _, moved, answered, next⟩ | ⟨_, answered⟩
  · rw [show marked = _ from answered]
    refine .inl ⟨rfl, ?_, .inr ⟨_, next, le_trans nonneg (le_max_left _ _), ?_, ?_⟩⟩
    · rintro member
      rcases List.mem_map.mp member with ⟨other, old, rfl⟩
      rw [number, numbers] at fresh
      exact fresh (List.mem_map_of_mem old)
    · exact max_lt below (by omega)
    · simp only [ReceiveLog.mark, number, numbers, List.map_cons]
  · rw [show marked = _ from answered]
    exact .inr ⟨rfl, rfl⟩

theorem acceptDatagram_eq (holder : DirectEnd) (hdr : UDPHeader) (fragPayload : Bytes)
    (now : Nat) :
    ∃ reassembler replayWindow delivered, holder.acceptDatagram hdr fragPayload now =
      { holder with reassembler, replayWindow, delivered } := by
  simp only [DirectEnd.acceptDatagram]
  split
  · exact ⟨_, _, _, rfl⟩
  rcases (holder.reassembler.feedAppend false hdr fragPayload now) with ⟨moved, err | (_ | _)⟩
  all_goals exact ⟨_, _, _, rfl⟩

theorem receiveDirect_eq (session : DirectSession) (holder : DirectEnd) (remote source : AddrPort)
    (packet : Bytes) (now : Nat) :
    ∃ reassembler replayWindow delivered, holder.receiveDirect session remote source packet now =
      { holder with reassembler, replayWindow, delivered } := by
  simp only [DirectEnd.receiveDirect]
  split
  · exact ⟨_, _, _, rfl⟩
  split
  · exact ⟨_, _, _, rfl⟩
  split
  · exact ⟨_, _, _, rfl⟩
  split
  · exact ⟨_, _, _, rfl⟩
  · exact acceptDatagram_eq _ _ _ _

theorem ReceiverSound.of_pending {holder : DirectEnd} {moved : Reassembler}
    (sound : ReceiverSound session sender passed holder)
    (pending : PendingSound session sender passed moved) :
    ReceiverSound session sender passed { holder with reassembler := moved } :=
  ⟨pending, sound.window, sound.delivered, sound.once⟩

theorem ReceiverSound.acceptDatagram {holder : DirectEnd}
    (sound : ReceiverSound session sender passed holder) {hdr : UDPHeader}
    {fragPayload packet : Bytes} (member : (hdr.packetID, packet) ∈ passed)
    (small : hdr.packetID.toNat < 2 ^ 31) {now : Nat}
    (pending : PendingSound session sender passed
      (holder.reassembler.feedAppend false hdr fragPayload now).1)
    (whole : ∀ assembled, (holder.reassembler.feedAppend false hdr fragPayload now).2 =
      .ok (some assembled) → assembled = packet) :
    ReceiverSound session sender passed (holder.acceptDatagram hdr fragPayload now) := by
  simp only [DirectEnd.acceptDatagram]
  split
  · exact sound
  generalize holder.reassembler.feedAppend false hdr fragPayload now = fed at pending whole ⊢
  rcases fed with ⟨moved, err | (_ | assembled)⟩
  · exact sound.of_pending pending
  · exact sound.of_pending pending
  have same := whole assembled rfl
  subst same
  dsimp only
  rcases sound.window.mark small assembled with ⟨accepted, fresh, window⟩ | ⟨refused, kept⟩
  · rw [if_pos accepted]
    refine ⟨pending, window, ?_, List.nodup_cons.mpr ⟨fresh, sound.once⟩⟩
    intro other delivered
    rcases List.mem_cons.mp delivered with rfl | old
    · exact member
    · exact sound.delivered other old
  · rw [if_neg (Bool.eq_false_iff.mp refused)]
    exact ⟨pending, kept.symm ▸ sound.window, sound.delivered, sound.once⟩

theorem ReceiverSound.receiveDirect {holder peer : DirectEnd}
    (peerSound : SenderSound session sender peer)
    (sound : ReceiverSound session sender peer.passed holder) {remote source : AddrPort}
    {packet : Bytes}
    (genuine : ∀ datagram, sameAddrPort source remote = true →
      session.codec.decode packet = .ok datagram → datagram ∈ peer.encoded) (now : Nat) :
    ReceiverSound session sender peer.passed
      (holder.receiveDirect session remote source packet now) := by
  simp only [DirectEnd.receiveDirect]
  split
  · exact sound
  rename_i same
  split
  · exact sound
  split
  · exact sound
  rename_i datagram verified
  have encoded := genuine datagram (by simpa using same) verified
  rcases peerSound.encoded datagram encoded with ⟨packetID, whole, member, few, index, bound, rfl⟩
  rw [Fragmenter.decodeUDP_datagram _ _ few bound]
  rcases sound.pending.feed peerSound.nodup member few bound now with ⟨pending, complete⟩
  exact sound.acceptDatagram member
    (lt_of_le_of_lt (peerSound.drawn _ member) peerSound.small) pending complete

end Receiving

/-! ## Runs -/

def DirectSound (session : DirectSession) (ends : DirectEnds) : Prop :=
  ∀ side, SenderSound session side (ends side) ∧
    ReceiverSound session side.other (ends side.other).passed (ends side)

section Runs

variable {session : DirectSession}

theorem directSound_new (session : DirectSession) :
    DirectSound session fun _ => .new session :=
  fun _ =>
    ⟨{ small := Nat.two_pow_pos 31
       drawn := fun _ member => absurd member List.not_mem_nil
       nodup := List.nodup_nil
       encoded := fun _ member => absurd member List.not_mem_nil
       relayed := fun _ member => absurd member List.not_mem_nil },
     { pending := fun _ _ present => by cases present
       window := .inl ⟨rfl, rfl⟩
       delivered := fun _ member => absurd member List.not_mem_nil
       once := List.nodup_nil }⟩

theorem DirectSound.step {ends : DirectEnds} (sound : DirectSound session ends) {side : Side}
    {event : DirectEvent} (honest : Honest session ends (side, event))
    (clean : NotReflected session ends (side, event)) {moved : DirectEnd}
    (taken : DirectEnd.step session side (ends side) event = some moved) :
    SenderSound session side moved ∧
      ReceiverSound session side.other (ends side.other).passed moved ∧
      ∀ packet ∈ (ends side).passed, packet ∈ moved.passed := by
  rcases sound side with ⟨sends, receives⟩
  have peerSends := (sound side.other).1
  cases event with
  | setDirectUDP remote =>
      cases taken
      exact ⟨⟨sends.small, sends.drawn, sends.nodup, sends.encoded, sends.relayed⟩,
        ⟨receives.pending, receives.window, receives.delivered, receives.once⟩, fun _ => id⟩
  | sendDirect payload written =>
      simp only [DirectEnd.step] at taken
      split at taken
      · cases taken
      cases taken
      exact ⟨sends.sendDirect honest payload written,
        ⟨receives.pending, receives.window, receives.delivered, receives.once⟩,
        fun _ => List.mem_cons_of_mem _⟩
  | sendRelay payload written =>
      cases taken
      exact ⟨sends.sendRelay honest payload written,
        ⟨receives.pending, receives.window, receives.delivered, receives.once⟩,
        fun _ => List.mem_cons_of_mem _⟩
  | otherPacket =>
      cases taken
      exact ⟨sends.draw honest,
        ⟨receives.pending, receives.window, receives.delivered, receives.once⟩, fun _ => id⟩
  | receiveDirect remote source packet now =>
      simp only [DirectEnd.step] at taken
      split at taken
      swap
      · cases taken
      cases taken
      have genuine : ∀ datagram, sameAddrPort source remote = true →
          session.codec.decode packet = .ok datagram → datagram ∈ (ends side.other).encoded :=
        fun datagram same verified =>
          (honest datagram verified).elim (clean datagram same verified) id
      have received := receives.receiveDirect peerSends genuine now
      rcases receiveDirect_eq session (ends side) remote source packet now with ⟨_, _, _, equal⟩
      rw [equal] at received ⊢
      exact ⟨⟨sends.small, sends.drawn, sends.nodup, sends.encoded, sends.relayed⟩, received,
        fun _ => id⟩
  | receiveRelay datagram now =>
      cases taken
      have pending := receives.pending.receive peerSends.nodup
        (fun hdr payload decoded own =>
          peerSends.relayed datagram (honest hdr payload decoded own)) now
      exact ⟨⟨sends.small, sends.drawn, sends.nodup, sends.encoded, sends.relayed⟩,
        receives.of_pending pending, fun _ => id⟩
  | sweep now =>
      cases taken
      exact ⟨⟨sends.small, sends.drawn, sends.nodup, sends.encoded, sends.relayed⟩,
        receives.of_pending (receives.pending.of_lookup fun key =>
          Reassembler.sweep_lookup _ now key), fun _ => id⟩
  | close =>
      cases taken
      exact ⟨⟨sends.small, sends.drawn, sends.nodup, sends.encoded, sends.relayed⟩,
        receives.of_pending (receives.pending.of_lookup fun _ => .inl rfl), fun _ => id⟩

theorem DirectSound.run {start ends : DirectEnds} {events : List (Side × DirectEvent)}
    (run : (directMachine session).Run
      (fun ends event => Honest session ends event ∧ NotReflected session ends event)
      start events ends)
    (initially : DirectSound session start) : DirectSound session ends := by
  apply run.preserves initially
  rintro middle ⟨side, event⟩ next sound ⟨honest, clean⟩ step
  rcases Option.map_eq_some_iff.mp step with ⟨moved, taken, rfl⟩
  rcases sound.step honest clean taken with ⟨sends, receives, grows⟩
  intro each
  rcases Side.eq_or_other side each with rfl | rfl
  · rw [Function.update_self, Function.update_of_ne (Side.other_ne each)]
    exact ⟨sends, receives⟩
  · have other := sound side.other
    rw [Side.other_other] at other ⊢
    rw [Function.update_self, Function.update_of_ne (Side.other_ne side)]
    exact ⟨other.1, other.2.mono grows⟩

end Runs

/-- The direct path is authentic, and delivers each packet at most once, as long as
no end accepts from its peer's address a packet that it encoded itself. -/
theorem direct_authentic (session : DirectSession) (events : List (Side × DirectEvent))
    (ends : DirectEnds)
    (run : (directMachine session).Run
      (fun ends event => Honest session ends event ∧ NotReflected session ends event)
      (fun _ => .new session) events ends) : DirectAuthentic ends := by
  have sound := DirectSound.run run (directSound_new session)
  exact fun side => ⟨(sound side).2.delivered, (sound side).2.once⟩

/-! ## Two short runs -/

theorem receiveDirect_encode (session : DirectSession) (holder : DirectEnd) (remote : AddrPort)
    {datagram fragPayload : Bytes} {hdr : UDPHeader}
    (decoded : decodeUDP datagram = .ok (hdr, fragPayload)) (now : Nat) :
    holder.receiveDirect session remote remote (session.codec.encode datagram) now =
      holder.acceptDatagram hdr fragPayload now := by
  have same : ¬sameAddrPort remote remote = false := by simp [sameAddrPort]
  have data : ¬isPunchPacket (session.codec.encode datagram) = true := by
    rw [isPunchPacket, P2PCodec.encode_take, Bool.and_eq_true]
    rintro ⟨_, equal⟩
    exact absurd (of_decide_eq_true equal) (by decide)
  simp only [DirectEnd.receiveDirect, if_neg same, if_neg data, P2PCodec.decode_encode, decoded]

theorem step_receiveDirect_encode {session : DirectSession} {ends : DirectEnds} (side : Side)
    (remote : AddrPort) (punched : remote ∈ (ends side).remoteAddrs) {datagram fragPayload : Bytes}
    {hdr : UDPHeader} (decoded : decodeUDP datagram = .ok (hdr, fragPayload)) (now : Nat) :
    (directMachine session).step ends
        (side, .receiveDirect remote remote (session.codec.encode datagram) now) =
      some (Function.update ends side ((ends side).acceptDatagram hdr fragPayload now)) := by
  simp only [directMachine, DirectEnd.step, if_pos punched,
    receiveDirect_encode session (ends side) remote decoded now, Option.map_some]

theorem honest_encode {session : DirectSession} {ends : DirectEnds} {side : Side}
    {datagram : Bytes}
    (encoded : datagram ∈ (ends side).encoded ∨ datagram ∈ (ends side.other).encoded)
    (remote source : AddrPort) (now : Nat) :
    Honest session ends (side, .receiveDirect remote source (session.codec.encode datagram) now) := by
  intro verified decoded
  rw [P2PCodec.decode_encode] at decoded
  cases decoded
  exact encoded

def smallSession : DirectSession where
  codec := ⟨7, [1]⟩
  fragmenter := fun _ => newFragmenter 1150
  timeout := 100

def smallPeer : AddrPort := ⟨.v4 0x0a000002, 3389⟩

def smallDatagram : Bytes := encodeUDP 7 1 0 1 [5]

theorem decodeUDP_smallDatagram :
    decodeUDP smallDatagram = .ok (⟨1, 0x11, 7, 1, 0, 1⟩, [5]) := by
  rfl

/-- The ends after both have punched and the controller has sent that packet. -/
def smallEnds : DirectEnds
  | .controller =>
      { DirectEnd.new smallSession with remoteAddrs := [smallPeer] }.sendDirect smallSession
        .controller [5] 1
  | .agent => { DirectEnd.new smallSession with remoteAddrs := [smallPeer] }

theorem smallEnds_reached (allowed : DirectEnds → Side × DirectEvent → Prop)
    (punches : ∀ ends side, allowed ends (side, .setDirectUDP smallPeer))
    (sends : ∀ ends, (ends .controller).nextPacketID = 0 →
      allowed ends (.controller, .sendDirect [5] 1)) :
    ∃ events, (directMachine smallSession).Run allowed (fun _ => .new smallSession) events
      smallEnds := by
  have attained : (directMachine smallSession).Attains allowed (· = smallEnds)
      (fun _ => .new smallSession)
      [(.agent, .setDirectUDP smallPeer), (.controller, .setDirectUDP smallPeer),
        (.controller, .sendDirect [5] 1)] := by
    refine ⟨punches _ _, _, rfl, punches _ _, _, rfl, sends _ rfl, _, rfl, ?_⟩
    funext side
    cases side <;> rfl
  rcases Machine.exists_run _ _ _ _ _ attained with ⟨_, run, rfl⟩
  exact ⟨_, run⟩

/-- The packet arrives at the other end, and is delivered. -/
theorem direct_authentic_one_packet :
    ∃ events ends, (directMachine smallSession).Run
        (fun ends event => Honest smallSession ends event ∧ NotReflected smallSession ends event)
        (fun _ => .new smallSession) events ends ∧
      (ends .agent).delivered = [(1, [5])] ∧ DirectAuthentic ends := by
  rcases smallEnds_reached
      (fun ends event => Honest smallSession ends event ∧ NotReflected smallSession ends event)
      (fun _ _ => ⟨trivial, trivial⟩)
      (fun _ fresh => ⟨by rw [Honest, fresh]; decide, trivial⟩) with ⟨events, run⟩
  have sent : smallDatagram ∈ (smallEnds .controller).encoded := by decide
  have received := run.snoc
    ⟨honest_encode (.inr sent) smallPeer smallPeer 0, fun datagram _ decoded _ => by
      rw [P2PCodec.decode_encode] at decoded
      cases decoded
      exact sent⟩
    (step_receiveDirect_encode .agent smallPeer (by decide)
      decodeUDP_smallDatagram 0)
  exact ⟨_, _, received, rfl, direct_authentic smallSession _ _ received⟩

/-- The same packet reflected to its own sender, with the peer's address as its
source, is delivered there: the agent was never passed anything. -/
theorem reflected_packet_delivered :
    ∃ events ends, (directMachine smallSession).Run (Honest smallSession)
        (fun _ => .new smallSession) events ends ∧
      (ends .controller).delivered = [(1, [5])] ∧ (ends .agent).passed = [] ∧
      ¬DirectAuthentic ends := by
  rcases smallEnds_reached (Honest smallSession) (fun _ _ => trivial)
      (fun _ fresh => by rw [Honest, fresh]; decide) with ⟨events, run⟩
  have sent : smallDatagram ∈ (smallEnds .controller).encoded := by decide
  have received := run.snoc (honest_encode (.inl sent) smallPeer smallPeer 0)
    (step_receiveDirect_encode .controller smallPeer (by decide)
      decodeUDP_smallDatagram 0)
  refine ⟨_, _, received, rfl, rfl, fun authentic => ?_⟩
  exact List.not_mem_nil ((authentic .controller).1 (1, [5]) List.mem_cons_self)

end Rdpulse.Path
