import Rdpulse.Punch.TCPAuth

namespace Rdpulse.Punch

open Foundation Agent

/-! # Agreement of the direct TCP handshake

What a finished handshake says about the other side, against an attacker who
owns every connection but cannot forge a tag. -/

def Emitted (network : Network) (sessionID : UInt64) (token : Bytes) (role : UInt8)
    (challenge : Bytes) : Prop :=
  ∃ emission ∈ network.emitted, emission.sessionID = sessionID ∧ emission.token = token ∧
    emission.role = role ∧ emission.challenge = challenge

def Announced (network : Network) (sessionID : UInt64) (token : Bytes) : Prop :=
  ∃ session ∈ network.announced, session.id.toUInt64 = sessionID ∧ session.token = token

/-! ## What one action does to the network -/

structure Network.Extends (before after : Network) : Prop where
  emitted : ∀ emission ∈ before.emitted, emission ∈ after.emitted
  challenges : ∀ challenge ∈ before.challenges, challenge ∈ after.challenges
  announced : ∀ session ∈ before.announced, session ∈ after.announced

theorem Network.Extends.refl (network : Network) : network.Extends network :=
  ⟨fun _ => id, fun _ => id, fun _ => id⟩

theorem Network.extends_emit (network : Network) (emission : Emission) :
    network.Extends (network.emit emission) :=
  ⟨fun _ => List.mem_cons_of_mem _, fun _ => id, fun _ => id⟩

theorem Emitted.mono {before after : Network} {sessionID : UInt64} {token : Bytes}
    {role : UInt8} {challenge : Bytes} (emitted : Emitted before sessionID token role challenge)
    (grown : before.Extends after) : Emitted after sessionID token role challenge := by
  rcases emitted with ⟨emission, member, fields⟩
  exact ⟨emission, grown.emitted _ member, fields⟩

theorem Announced.mono {before after : Network} {sessionID : UInt64} {token : Bytes}
    (announced : Announced before sessionID token) (grown : before.Extends after) :
    Announced after sessionID token := by
  rcases announced with ⟨session, member, fields⟩
  exact ⟨session, grown.announced _ member, fields⟩

/-- Everything an action of a dialer can be: it emits its own tag, or leaves the
network as it is and at most fixes its challenge. -/
theorem stepDial_cases {self : Nat} {network moved : Network} {sessionID : UInt64}
    {sessionToken : Bytes} {role : UInt8} {challenge changed : Option Bytes} {choice : Choice}
    {point next : DialPoint}
    (taken : stepDial self network sessionID sessionToken role challenge choice point =
      some (moved, changed, next)) :
    (∃ value, point = .writeAuth ∧ challenge = some value ∧ changed = some value ∧
      moved = network.emit ⟨self, sessionID, sessionToken, role, value⟩ ∧
      (next = .readPeerAuth ∨ next = .returned (some .writeAuth))) ∨
    (moved = network ∧ point = .readChallenge ∧ next = .writeAuth ∧ changed.isSome = true) ∨
    (moved = network ∧ changed = challenge ∧ next ≠ .returned none ∧ next ≠ .setDeadline ∧
      (next = .checkToken → point = .setDeadline) ∧
      (next = .readChallenge → point = .checkToken)) ∨
    (∃ value peerAuth, moved = network ∧ point = .verify peerAuth ∧ challenge = some value ∧
      changed = some value ∧ next = .returned none ∧
      peerAuth = tcpAuthTag sessionID sessionToken (expectedRole role) value) := by
  cases point <;> cases choice <;> cases challenge <;> grind [stepDial]

/-- Everything an action of an acceptor can be: it answers a client or a probe,
draws its challenge, finds a token, recognises a client tag, or does none of
these. -/
theorem stepAccept_cases {self : Nat} {network moved : Network} {connNil lookupNil : Bool}
    {challenge token changed found : Option Bytes} {choice : Choice} {point next : AcceptPoint}
    (taken : stepAccept self network connNil lookupNil challenge token choice point =
      some (moved, changed, found, next)) :
    (∃ sessionID value secret, point = .writeResponse sessionID ∧ challenge = some value ∧
      token = some secret ∧ changed = challenge ∧ found = token ∧
      moved = network.emit ⟨self, sessionID, secret, tcpRoleServer, value⟩ ∧
      (next = .returned sessionID none ∨ next = .returned 0 (some .writeResponse))) ∨
    (∃ sessionID value secret, point = .writeProbeResponse sessionID ∧ challenge = some value ∧
      token = some secret ∧ changed = challenge ∧ found = token ∧
      moved = network.emit ⟨self, sessionID, secret, tcpRoleProbeAck, value⟩ ∧
      (next = .returned sessionID (some .tcpProbe) ∨
        next = .returned 0 (some .writeProbeResponse))) ∨
    (∃ drawn, point = .drawChallenge ∧ choice = .bytes drawn ∧ changed = some drawn ∧
      found = token ∧ moved = { network with challenges := drawn :: network.challenges } ∧
      next = .writeChallenge) ∨
    (∃ peerAuth secret, point = .lookup peerAuth ∧ moved = network ∧ changed = challenge ∧
      network.registry.lookup (Bytes.uint64 peerAuth) = some secret ∧ found = some secret ∧
      next = .verify peerAuth) ∨
    (∃ peerAuth value secret, point = .verify peerAuth ∧ moved = network ∧
      challenge = some value ∧ token = some secret ∧ changed = challenge ∧ found = token ∧
      peerAuth = tcpAuthTag (Bytes.uint64 peerAuth) secret tcpRoleClient value ∧
      next = .writeResponse (Bytes.uint64 peerAuth)) ∨
    (moved = network ∧ changed = challenge ∧ found = token ∧
      (next = .drawChallenge → point = .checkArguments) ∧ next ≠ .checkArguments ∧
      (∀ peerAuth, next ≠ .verify peerAuth) ∧ (∀ sessionID, next ≠ .writeResponse sessionID) ∧
      ∀ sessionID, next ≠ .returned sessionID none) := by
  cases point with
  | writeResponse sessionID =>
      refine .inl ?_
      cases choice <;> cases challenge <;> cases token <;> grind [stepAccept]
  | writeProbeResponse sessionID =>
      refine .inr (.inl ?_)
      cases choice <;> cases challenge <;> cases token <;> grind [stepAccept]
  | drawChallenge =>
      cases choice <;> grind [stepAccept]
  | lookup peerAuth =>
      cases answer : network.registry.lookup (Bytes.uint64 peerAuth) <;> grind [stepAccept]
  | verify peerAuth =>
      cases challenge <;> cases token <;> grind [stepAccept]
  | _ => cases choice <;> grind [stepAccept]

/-! ## What a run knows at each point -/

def DialKnown (network : Network) (sessionID : UInt64) (token : Bytes) (role : UInt8)
    (challenge : Option Bytes) : DialPoint → Prop
  | .setDeadline | .checkToken | .readChallenge => challenge = none
  | .returned none =>
      ∀ value, challenge = some value →
        Emitted network sessionID token (expectedRole role) value
  | _ => True

def AcceptKnown (network : Network) (challenge token : Option Bytes) : AcceptPoint → Prop
  | .checkArguments | .drawChallenge => challenge = none
  | .verify peerAuth =>
      ∀ secret, token = some secret → Announced network (Bytes.uint64 peerAuth) secret
  | .writeResponse sessionID | .returned sessionID none =>
      ∀ value secret, challenge = some value → token = some secret →
        Emitted network sessionID secret tcpRoleClient value ∧
          Announced network sessionID secret
  | _ => True

def Known (network : Network) : Thread → Prop
  | .authenticateTCPPeer sessionID token role challenge point =>
      (role = tcpRoleClient ∨ role = tcpRoleProbe) ∧
        DialKnown network sessionID token role challenge point
  | .acceptTCPPeer _ _ challenge token point =>
      (∀ value, challenge = some value → value ∈ network.challenges) ∧
        AcceptKnown network challenge token point
  | .registry _ _ => True

theorem Known.mono {before after : Network} {thread : Thread} (known : Known before thread)
    (grown : before.Extends after) : Known after thread := by
  cases thread with
  | registry op applied => trivial
  | authenticateTCPPeer sessionID token role challenge point =>
      refine ⟨known.1, ?_⟩
      have here := known.2
      unfold DialKnown at here ⊢
      split
      · exact here
      · exact here
      · exact here
      · exact fun value present => (here value present).mono grown
      · trivial
  | acceptTCPPeer connNil lookupNil challenge token point =>
      refine ⟨fun value present => grown.challenges _ (known.1 value present), ?_⟩
      have here := known.2
      unfold AcceptKnown at here ⊢
      split
      · exact here
      · exact here
      · exact fun secret present => (here secret present).mono grown
      · exact fun value secret drawn present =>
          (here value secret drawn present).imp (·.mono grown) (·.mono grown)
      · exact fun value secret drawn present =>
          (here value secret drawn present).imp (·.mono grown) (·.mono grown)
      · trivial

theorem Known.entry {network : Network} {thread : Thread} (enters : entry thread = true) :
    Known network thread := by
  cases thread with
  | authenticateTCPPeer sessionID token role challenge point =>
      simp only [Punch.entry, Bool.and_eq_true, Bool.or_eq_true, decide_eq_true_eq] at enters
      rcases enters with ⟨⟨roles, unset⟩, rfl⟩
      exact ⟨roles, unset⟩
  | acceptTCPPeer connNil lookupNil challenge token point =>
      simp only [Punch.entry, Bool.and_eq_true, decide_eq_true_eq] at enters
      rcases enters with ⟨⟨rfl, rfl⟩, rfl⟩
      exact ⟨by simp, rfl⟩
  | registry op applied => trivial

def RegistryAnnounced (network : Network) : Prop :=
  ∀ id session, network.registry id = some session →
    ∃ added ∈ network.announced, added.id = session.id ∧ added.token = session.token

theorem announced_of_lookup {network : Network} (registered : RegistryAnnounced network)
    {sessionID : UInt64} {token : Bytes}
    (found : network.registry.lookup sessionID = some token) :
    Announced network sessionID token := by
  rcases P2PSessionRegistry.lookup_eq_some found with ⟨session, present, same, _, rfl⟩
  rcases registered _ _ present with ⟨added, member, id, equal⟩
  exact ⟨added, member, by rw [id, same], equal⟩

theorem applyRegistry_announced {network : Network} (registered : RegistryAnnounced network)
    (op : RegistryOp) : RegistryAnnounced (applyRegistry network op) := by
  intro id session present
  cases op with
  | register added =>
      rcases P2PSessionRegistry.register_eq_some present with rfl | old
      · exact ⟨session, List.mem_cons_self, rfl, rfl⟩
      · rcases registered id session old with ⟨known, member, fields⟩
        exact ⟨known, List.mem_cons_of_mem _ member, fields⟩
  | remove sessionID =>
      exact registered id session (P2PSessionRegistry.remove_eq_some present)
  | cancel =>
      rcases P2PSessionRegistry.cancel_eq_some present with ⟨before, old, rfl⟩
      exact registered id before old

theorem extends_applyRegistry (network : Network) (op : RegistryOp) :
    network.Extends (applyRegistry network op) := by
  cases op with
  | register added => exact ⟨fun _ => id, fun _ => id, fun _ => List.mem_cons_of_mem _⟩
  | remove sessionID => exact ⟨fun _ => id, fun _ => id, fun _ => id⟩
  | cancel => exact ⟨fun _ => id, fun _ => id, fun _ => id⟩

theorem step_dial {self : Nat} {network moved : Network} {sessionID : UInt64} {token : Bytes}
    {role : UInt8} {challenge : Option Bytes} {point : DialPoint} {choice : Choice}
    {next : Thread}
    (taken : step self network (.authenticateTCPPeer sessionID token role challenge point) choice =
      some (moved, next)) :
    ∃ changed after, stepDial self network sessionID token role challenge choice point =
        some (moved, changed, after) ∧
      next = .authenticateTCPPeer sessionID token role changed after := by
  simp only [step, Option.map_eq_some_iff] at taken
  rcases taken with ⟨⟨shared, changed, after⟩, inner, equal⟩
  cases equal
  exact ⟨changed, after, inner, rfl⟩

theorem step_accept {self : Nat} {network moved : Network} {connNil lookupNil : Bool}
    {challenge token : Option Bytes} {point : AcceptPoint} {choice : Choice} {next : Thread}
    (taken : step self network (.acceptTCPPeer connNil lookupNil challenge token point) choice =
      some (moved, next)) :
    ∃ changed found after,
      stepAccept self network connNil lookupNil challenge token choice point =
        some (moved, changed, found, after) ∧
      next = .acceptTCPPeer connNil lookupNil changed found after := by
  simp only [step, Option.map_eq_some_iff] at taken
  rcases taken with ⟨⟨shared, changed, found, after⟩, inner, equal⟩
  cases equal
  exact ⟨changed, found, after, inner, rfl⟩

theorem step_registry {self : Nat} {network moved : Network} {op : RegistryOp} {applied : Bool}
    {choice : Choice} {next : Thread}
    (taken : step self network (.registry op applied) choice = some (moved, next)) :
    moved = applyRegistry network op ∧ next = .registry op true := by
  cases applied with
  | true => cases taken
  | false =>
      cases taken
      exact ⟨rfl, rfl⟩

theorem step_extends {self : Nat} {network moved : Network} {thread next : Thread}
    {choice : Choice} (taken : step self network thread choice = some (moved, next)) :
    network.Extends moved := by
  cases thread with
  | authenticateTCPPeer sessionID token role challenge point =>
      rcases step_dial taken with ⟨changed, after, inner, _⟩
      rcases stepDial_cases inner with
        ⟨_, _, _, _, rfl, _⟩ | ⟨rfl, _⟩ | ⟨rfl, _⟩ | ⟨_, _, rfl, _⟩
      · exact network.extends_emit _
      all_goals exact .refl _
  | acceptTCPPeer connNil lookupNil challenge token point =>
      rcases step_accept taken with ⟨changed, found, after, inner, _⟩
      rcases stepAccept_cases inner with
        ⟨_, _, _, _, _, _, _, _, rfl, _⟩ | ⟨_, _, _, _, _, _, _, _, rfl, _⟩ |
          ⟨_, _, _, _, _, rfl, _⟩ | ⟨_, _, _, rfl, _⟩ | ⟨_, _, _, _, rfl, _⟩ | ⟨rfl, _⟩
      · exact network.extends_emit _
      · exact network.extends_emit _
      · exact ⟨fun _ => id, fun _ => List.mem_cons_of_mem _, fun _ => id⟩
      all_goals exact .refl _
  | registry op applied =>
      rcases step_registry taken with ⟨rfl, _⟩
      exact extends_applyRegistry network op

theorem Known.step {pool : NetworkPool} {self : Nat} {thread next : Thread} {choice : Choice}
    {moved : Network} (present : pool.threads[self]? = some thread)
    (registered : RegistryAnnounced pool.shared)
    (unforgeable : Unforgeable pool (.advance self choice))
    (known : Known pool.shared thread)
    (taken : step self pool.shared thread choice = some (moved, next)) : Known moved next := by
  have grown := step_extends taken
  cases thread with
  | authenticateTCPPeer sessionID token role challenge point =>
      rcases step_dial taken with ⟨changed, after, inner, rfl⟩
      refine ⟨known.1, ?_⟩
      rcases stepDial_cases inner with
        ⟨value, _, _, _, _, rfl | rfl⟩ | ⟨_, _, rfl, _⟩ |
          ⟨rfl, rfl, notReturned, notDeadline, fromDeadline, fromCheck⟩ |
          ⟨value, peerAuth, rfl, rfl, rfl, rfl, rfl, equal⟩
      · trivial
      · trivial
      · trivial
      · unfold DialKnown
        split
        · exact absurd rfl notDeadline
        · rw [fromDeadline rfl] at known
          exact known.2
        · rw [fromCheck rfl] at known
          exact known.2
        · exact absurd rfl notReturned
        · trivial
      · simp only [Unforgeable, present] at unforgeable
        intro checked same
        cases same
        exact unforgeable equal
  | acceptTCPPeer connNil lookupNil challenge token point =>
      rcases step_accept taken with ⟨changed, found, after, inner, rfl⟩
      have drawn := known.1
      rcases stepAccept_cases inner with
        ⟨sessionID, value, secret, rfl, rfl, rfl, rfl, rfl, rfl, rfl | rfl⟩ |
          ⟨sessionID, value, secret, rfl, rfl, rfl, rfl, rfl, rfl, rfl | rfl⟩ |
          ⟨fresh, rfl, rfl, rfl, rfl, rfl, rfl⟩ |
          ⟨peerAuth, secret, rfl, rfl, rfl, answer, rfl, rfl⟩ |
          ⟨peerAuth, value, secret, rfl, rfl, rfl, rfl, rfl, rfl, equal, rfl⟩ |
          ⟨rfl, rfl, rfl, fromCheck, notCheck, notVerify, notWrite, notReturned⟩
      · exact ⟨drawn, fun _ _ sameValue sameSecret =>
          (known.2 _ _ sameValue sameSecret).imp (·.mono grown) (·.mono grown)⟩
      · exact ⟨drawn, trivial⟩
      · exact ⟨drawn, trivial⟩
      · exact ⟨drawn, trivial⟩
      · refine ⟨fun value same => ?_, trivial⟩
        cases same
        exact List.mem_cons_self
      · refine ⟨drawn, fun checked same => ?_⟩
        cases same
        exact announced_of_lookup registered answer
      · simp only [Unforgeable, present] at unforgeable
        refine ⟨drawn, fun checked matched sameValue sameSecret => ?_⟩
        cases sameValue
        cases sameSecret
        exact ⟨unforgeable.1 equal, known.2 secret rfl⟩
      · refine ⟨drawn, ?_⟩
        unfold AcceptKnown
        split
        · exact absurd rfl notCheck
        · rw [fromCheck rfl] at known
          exact known.2
        · exact absurd rfl (notVerify _)
        · exact absurd rfl (notWrite _)
        · exact absurd rfl (notReturned _)
        · trivial
  | registry op applied =>
      rcases step_registry taken with ⟨_, rfl⟩
      trivial

/-! ## Who emitted what -/

theorem dial_persists {self : Nat} {network moved : Network} {sessionID : UInt64}
    {token : Bytes} {role : UInt8} {value : Bytes} {point : DialPoint} {choice : Choice}
    {next : Thread}
    (known : Known network (.authenticateTCPPeer sessionID token role (some value) point))
    (taken : step self network (.authenticateTCPPeer sessionID token role (some value) point)
      choice = some (moved, next)) :
    ∃ after, next = .authenticateTCPPeer sessionID token role (some value) after := by
  rcases step_dial taken with ⟨changed, after, inner, rfl⟩
  rcases stepDial_cases inner with
    ⟨_, _, same, rfl, _⟩ | ⟨_, rfl, _⟩ | ⟨_, rfl, _⟩ | ⟨_, _, _, _, same, rfl, _⟩
  · exact ⟨after, by rw [same]⟩
  · exact absurd known.2 (by simp [DialKnown])
  · exact ⟨after, rfl⟩
  · exact ⟨after, by rw [same]⟩

theorem accept_persists {self : Nat} {network moved : Network} {connNil lookupNil : Bool}
    {value : Bytes} {token : Option Bytes} {point : AcceptPoint} {choice : Choice}
    {next : Thread}
    (known : Known network (.acceptTCPPeer connNil lookupNil (some value) token point))
    (taken : step self network (.acceptTCPPeer connNil lookupNil (some value) token point)
      choice = some (moved, next)) :
    ∃ found after, next = .acceptTCPPeer connNil lookupNil (some value) found after := by
  rcases step_accept taken with ⟨changed, found, after, inner, rfl⟩
  rcases stepAccept_cases inner with
    ⟨_, _, _, _, _, _, rfl, _⟩ | ⟨_, _, _, _, _, _, rfl, _⟩ | ⟨_, rfl, _⟩ |
      ⟨_, _, _, _, rfl, _⟩ | ⟨_, _, _, _, _, _, _, rfl, _⟩ | ⟨_, rfl, _⟩
  · exact ⟨found, after, rfl⟩
  · exact ⟨found, after, rfl⟩
  · exact absurd known.2 (by simp [AcceptKnown])
  all_goals exact ⟨found, after, rfl⟩

def DialerOf (pool : NetworkPool) (self : Nat) (sessionID : UInt64) (token : Bytes)
    (role : UInt8) (challenge : Bytes) : Prop :=
  ∃ point, pool.threads[self]? =
    some (.authenticateTCPPeer sessionID token role (some challenge) point)

def AcceptorOf (pool : NetworkPool) (self : Nat) (challenge : Bytes) : Prop :=
  ∃ connNil lookupNil token point, pool.threads[self]? =
    some (.acceptTCPPeer connNil lookupNil (some challenge) token point)

def Authored (pool : NetworkPool) (emission : Emission) : Prop :=
  (emission.role = tcpRoleClient ∨ emission.role = tcpRoleProbe) ∧
      DialerOf pool emission.author emission.sessionID emission.token emission.role
        emission.challenge ∨
    (emission.role = tcpRoleServer ∨ emission.role = tcpRoleProbeAck) ∧
      AcceptorOf pool emission.author emission.challenge

section Steps

variable {pool : NetworkPool} {self : Nat} {thread next : Thread} {choice : Choice}
  {moved : Network}

theorem DialerOf.step (present : pool.threads[self]? = some thread)
    (known : Known pool.shared thread)
    (taken : Punch.step self pool.shared thread choice = some (moved, next))
    {other : Nat} {sessionID : UInt64} {token : Bytes} {role : UInt8} {challenge : Bytes}
    (dialer : DialerOf pool other sessionID token role challenge) :
    DialerOf (pool.update self moved next) other sessionID token role challenge := by
  rcases dialer with ⟨point, found⟩
  by_cases same : other = self
  · subst same
    rw [present] at found
    cases found
    rcases dial_persists known taken with ⟨after, rfl⟩
    exact ⟨after, Pool.update_self present _ _⟩
  · exact ⟨point, (Pool.update_other pool same _ _).trans found⟩

theorem AcceptorOf.step (present : pool.threads[self]? = some thread)
    (known : Known pool.shared thread)
    (taken : Punch.step self pool.shared thread choice = some (moved, next))
    {other : Nat} {challenge : Bytes} (acceptor : AcceptorOf pool other challenge) :
    AcceptorOf (pool.update self moved next) other challenge := by
  rcases acceptor with ⟨connNil, lookupNil, token, point, found⟩
  by_cases same : other = self
  · subst same
    rw [present] at found
    cases found
    rcases accept_persists known taken with ⟨changed, after, rfl⟩
    exact ⟨connNil, lookupNil, changed, after, Pool.update_self present _ _⟩
  · exact ⟨connNil, lookupNil, token, point, (Pool.update_other pool same _ _).trans found⟩

theorem DialerOf.start {other : Nat} {sessionID : UInt64} {token : Bytes} {role : UInt8}
    {challenge : Bytes} (dialer : DialerOf pool other sessionID token role challenge)
    (added : Thread) : DialerOf (pool.start added) other sessionID token role challenge := by
  rcases dialer with ⟨point, found⟩
  exact ⟨point, Pool.start_old found added⟩

theorem AcceptorOf.start {other : Nat} {challenge : Bytes}
    (acceptor : AcceptorOf pool other challenge) (added : Thread) :
    AcceptorOf (pool.start added) other challenge := by
  rcases acceptor with ⟨connNil, lookupNil, token, point, found⟩
  exact ⟨connNil, lookupNil, token, point, Pool.start_old found added⟩

theorem emitted_step (present : pool.threads[self]? = some thread)
    (known : Known pool.shared thread)
    (taken : Punch.step self pool.shared thread choice = some (moved, next))
    {emission : Emission} (member : emission ∈ moved.emitted) :
    emission ∈ pool.shared.emitted ∨ Authored pool emission := by
  cases thread with
  | authenticateTCPPeer sessionID token role challenge point =>
      rcases step_dial taken with ⟨changed, after, inner, rfl⟩
      rcases stepDial_cases inner with
        ⟨value, rfl, rfl, rfl, rfl, _⟩ | ⟨rfl, _⟩ | ⟨rfl, _⟩ | ⟨_, _, rfl, _⟩
      · rcases List.mem_cons.mp member with rfl | old
        · exact .inr (.inl ⟨known.1, _, present⟩)
        · exact .inl old
      all_goals exact .inl member
  | acceptTCPPeer connNil lookupNil challenge token point =>
      rcases step_accept taken with ⟨changed, found, after, inner, rfl⟩
      rcases stepAccept_cases inner with
        ⟨sessionID, value, secret, rfl, rfl, rfl, rfl, rfl, rfl, _⟩ |
          ⟨sessionID, value, secret, rfl, rfl, rfl, rfl, rfl, rfl, _⟩ |
          ⟨_, _, _, _, _, rfl, _⟩ | ⟨_, _, _, rfl, _⟩ | ⟨_, _, _, _, rfl, _⟩ | ⟨rfl, _⟩
      · rcases List.mem_cons.mp member with rfl | old
        · exact .inr (.inr ⟨.inl rfl, _, _, _, _, present⟩)
        · exact .inl old
      · rcases List.mem_cons.mp member with rfl | old
        · exact .inr (.inr ⟨.inr rfl, _, _, _, _, present⟩)
        · exact .inl old
      all_goals exact .inl member
  | registry op applied =>
      rcases step_registry taken with ⟨rfl, _⟩
      refine .inl ?_
      cases op <;> exact member

theorem acceptorOf_before (present : pool.threads[self]? = some thread)
    (taken : Punch.step self pool.shared thread choice = some (moved, next))
    {other : Nat} {challenge : Bytes}
    (acceptor : AcceptorOf (pool.update self moved next) other challenge) :
    AcceptorOf pool other challenge ∨
      other = self ∧ choice = .bytes challenge ∧
        ∃ connNil lookupNil changed token,
          thread = .acceptTCPPeer connNil lookupNil changed token .drawChallenge := by
  rcases acceptor with ⟨connNil, lookupNil, token, point, found⟩
  by_cases same : other = self
  · subst same
    rw [Pool.update_self present] at found
    cases found
    cases thread with
    | authenticateTCPPeer sessionID token role challenge point =>
        rcases step_dial taken with ⟨_, _, _, equal⟩
        cases equal
    | registry op applied => cases (step_registry taken).2
    | acceptTCPPeer connNilBefore lookupNilBefore before tokenBefore pointBefore =>
        rcases step_accept taken with ⟨changed, after, last, inner, equal⟩
        cases equal
        rcases stepAccept_cases inner with
          ⟨_, _, _, _, _, _, rfl, _⟩ | ⟨_, _, _, _, _, _, rfl, _⟩ | ⟨_, rfl, drew, equal, _⟩ |
            ⟨_, _, _, _, rfl, _⟩ | ⟨_, _, _, _, _, _, _, rfl, _⟩ | ⟨_, rfl, _⟩
        · exact .inl ⟨_, _, _, _, present⟩
        · exact .inl ⟨_, _, _, _, present⟩
        · cases equal
          exact .inr ⟨rfl, drew, _, _, _, _, rfl⟩
        all_goals exact .inl ⟨_, _, _, _, present⟩
  · rw [Pool.update_other pool same] at found
    exact .inl ⟨_, _, _, _, found⟩

end Steps

/-! ## The outline of the handshake -/

def SoleAcceptor (pool : NetworkPool) : Prop :=
  ∀ one other challenge, AcceptorOf pool one challenge → AcceptorOf pool other challenge →
    one = other

structure HandshakeGlobal (pool : NetworkPool) : Prop where
  registered : RegistryAnnounced pool.shared
  authored : ∀ emission ∈ pool.shared.emitted, Authored pool emission
  sole : SoleAcceptor pool

def handshakeOutline : Program.Outline Network Thread where
  global := HandshakeGlobal
  assertion _ pool thread := Known pool.shared thread

theorem step_registryAnnounced {self : Nat} {network moved : Network} {thread next : Thread}
    {choice : Choice} (registered : RegistryAnnounced network)
    (taken : step self network thread choice = some (moved, next)) :
    RegistryAnnounced moved := by
  cases thread with
  | authenticateTCPPeer sessionID token role challenge point =>
      rcases step_dial taken with ⟨changed, after, inner, _⟩
      rcases stepDial_cases inner with
        ⟨_, _, _, _, rfl, _⟩ | ⟨rfl, _⟩ | ⟨rfl, _⟩ | ⟨_, _, rfl, _⟩ <;> exact registered
  | acceptTCPPeer connNil lookupNil challenge token point =>
      rcases step_accept taken with ⟨changed, found, after, inner, _⟩
      rcases stepAccept_cases inner with
        ⟨_, _, _, _, _, _, _, _, rfl, _⟩ | ⟨_, _, _, _, _, _, _, _, rfl, _⟩ |
          ⟨_, _, _, _, _, rfl, _⟩ | ⟨_, _, _, rfl, _⟩ | ⟨_, _, _, _, rfl, _⟩ | ⟨rfl, _⟩ <;>
        exact registered
  | registry op applied =>
      rcases step_registry taken with ⟨rfl, _⟩
      exact applyRegistry_announced registered op

theorem acceptorOf_started {pool : NetworkPool} {added : Thread} {other : Nat}
    {challenge : Bytes} (enters : entry added = true)
    (acceptor : AcceptorOf (pool.start added) other challenge) :
    AcceptorOf pool other challenge := by
  rcases acceptor with ⟨connNil, lookupNil, token, point, found⟩
  rcases Pool.start_cases found with old | ⟨_, rfl⟩
  · exact ⟨connNil, lookupNil, token, point, old⟩
  · simp [entry] at enters

theorem sole_step {pool : NetworkPool} {self : Nat} {thread next : Thread} {choice : Choice}
    {moved : Network} (sole : SoleAcceptor pool)
    (known : ∀ (self : Nat) thread, pool.threads[self]? = some thread →
      Known pool.shared thread)
    (present : pool.threads[self]? = some thread)
    (fresh : FreshChallenge pool (.advance self choice))
    (taken : step self pool.shared thread choice = some (moved, next)) :
    SoleAcceptor (pool.update self moved next) := by
  have unused : ∀ other challenge, AcceptorOf pool other challenge → choice = .bytes challenge →
      (∃ connNil lookupNil changed token,
        thread = .acceptTCPPeer connNil lookupNil changed token .drawChallenge) → False := by
    rintro other challenge ⟨_, _, _, _, found⟩ rfl ⟨_, _, _, _, rfl⟩
    simp only [FreshChallenge, present] at fresh
    exact fresh ((known other _ found).1 challenge rfl)
  intro one other challenge first second
  rcases acceptorOf_before present taken first with
    old | ⟨rfl, drew, draws⟩ <;>
    rcases acceptorOf_before present taken second with
      older | ⟨rfl, drewToo, drawsToo⟩
  · exact sole one other challenge old older
  · exact (unused one challenge old drewToo drawsToo).elim
  · exact (unused other challenge older drew draws).elim
  · rfl

theorem handshakeOutline_valid : handshakeOutline.Valid program Attacker where
  started pool thread holds enters _ := by
    refine ⟨⟨holds.global.registered, ?_, ?_⟩, Known.entry enters⟩
    · intro emission member
      exact (holds.global.authored emission member).imp
        (fun dialer => ⟨dialer.1, dialer.2.start thread⟩)
        (fun acceptor => ⟨acceptor.1, acceptor.2.start thread⟩)
    · intro one other challenge first second
      exact holds.global.sole one other challenge (acceptorOf_started enters first)
        (acceptorOf_started enters second)
  undisturbedByStart pool thread other bystander holds _ _ found :=
    holds.thread other bystander found
  sequential pool self thread choice moved next holds present permitted taken := by
    have known : Known pool.shared thread := holds.thread self thread present
    refine ⟨⟨step_registryAnnounced holds.global.registered taken, ?_, ?_⟩,
      known.step present holds.global.registered permitted.1 taken⟩
    · intro emission member
      have before : Authored pool emission :=
        (emitted_step present known taken member).elim
          (holds.global.authored emission) id
      exact before.imp
        (fun dialer => ⟨dialer.1, dialer.2.step present known taken⟩)
        (fun acceptor => ⟨acceptor.1, acceptor.2.step present known taken⟩)
    · exact sole_step holds.global.sole holds.thread present permitted.2 taken
  interferenceFree pool self thread choice moved next other bystander holds _ _ taken _
      found :=
    (holds.thread other bystander found).mono (step_extends taken)

theorem handshakeOutline_of_run {events : List (PoolEvent Thread Choice)} {pool : NetworkPool}
    (run : program.machine.Run Attacker initialPool events pool) :
    handshakeOutline.Holds pool := by
  refine handshakeOutline_valid.run ⟨⟨?_, ?_, ?_⟩, ?_⟩ run
  · intro id session present
    cases present
  · intro emission member
    cases member
  · rintro one other challenge ⟨_, _, _, _, found⟩
    simp [initialPool] at found
  · intro self thread present
    simp [initialPool] at present

/-! ## Honest actions -/

section Honest

variable {pool : NetworkPool} {self : Nat} {connNil lookupNil : Bool} {token : Option Bytes}
  {sessionID : UInt64} {secret value : Bytes} {role : UInt8} {choice : Choice}

theorem accept_reads {peerAuth : Bytes} (length : peerAuth.length = 24)
    (present : pool.threads[self]? =
      some (.acceptTCPPeer connNil lookupNil (some value) token .readPeerAuth)) :
    program.machine.step pool (.advance self (.bytes peerAuth)) =
      some (pool.update self pool.shared
        (.acceptTCPPeer connNil lookupNil (some value) token (.lookup peerAuth))) :=
  Program.machine_advance present (by simp [program, step, stepAccept, length])

theorem accept_looks_up (nonempty : secret.length ≠ 0)
    (found : pool.shared.registry.lookup sessionID = some secret)
    (present : pool.threads[self]? =
      some (.acceptTCPPeer connNil lookupNil (some value) token
        (.lookup (tcpAuthTag sessionID secret role value)))) :
    program.machine.step pool (.advance self choice) =
      some (pool.update self pool.shared
        (.acceptTCPPeer connNil lookupNil (some value) (some secret)
          (.verify (tcpAuthTag sessionID secret role value)))) :=
  Program.machine_advance present (by simp [program, step, stepAccept, found, nonempty])

theorem accept_recognises_client
    (present : pool.threads[self]? =
      some (.acceptTCPPeer connNil lookupNil (some value) (some secret)
        (.verify (tcpAuthTag sessionID secret tcpRoleClient value)))) :
    program.machine.step pool (.advance self choice) =
      some (pool.update self pool.shared
        (.acceptTCPPeer connNil lookupNil (some value) (some secret)
          (.writeResponse sessionID))) :=
  Program.machine_advance present (by simp [program, step, stepAccept])

theorem dial_reads {peerAuth : Bytes} (length : peerAuth.length = 24)
    (present : pool.threads[self]? =
      some (.authenticateTCPPeer sessionID secret role (some value) .readPeerAuth)) :
    program.machine.step pool (.advance self (.bytes peerAuth)) =
      some (pool.update self pool.shared
        (.authenticateTCPPeer sessionID secret role (some value) (.verify peerAuth))) :=
  Program.machine_advance present (by simp [program, step, stepDial, length])

theorem dial_verifies
    (present : pool.threads[self]? =
      some (.authenticateTCPPeer sessionID secret role (some value)
        (.verify (tcpAuthTag sessionID secret (expectedRole role) value)))) :
    program.machine.step pool (.advance self choice) =
      some (pool.update self pool.shared
        (.authenticateTCPPeer sessionID secret role (some value) (.returned none))) :=
  Program.machine_advance present (by simp [program, step, stepDial])

end Honest

/-! ## What the results speak of -/

/-- Acceptor run `self` drew this challenge and has answered on it. -/
def Answered (pool : NetworkPool) (self : Nat) (sessionID : UInt64) (token : Bytes)
    (role : UInt8) (challenge : Bytes) : Prop :=
  AcceptorOf pool self challenge ∧
    ⟨self, sessionID, token, role, challenge⟩ ∈ pool.shared.emitted

/-- Dialer run `self` returned nil. -/
def Authenticated (pool : NetworkPool) (self : Nat) (sessionID : UInt64) (token : Bytes)
    (role : UInt8) (challenge : Bytes) : Prop :=
  pool.threads[self]? =
    some (.authenticateTCPPeer sessionID token role (some challenge) (.returned none))

theorem acceptor_of_expectedRole {pool : NetworkPool} {emission : Emission} {role : UInt8}
    (authored : Authored pool emission) (expected : emission.role = expectedRole role) :
    AcceptorOf pool emission.author emission.challenge := by
  rcases authored with ⟨dialerRole, _⟩ | ⟨_, acceptor⟩
  · rw [expected] at dialerRole
    unfold expectedRole at dialerRole
    split at dialerRole <;>
      simp [tcpRoleServer, tcpRoleProbeAck, tcpRoleClient, tcpRoleProbe] at dialerRole
  · exact acceptor

def Accepted (pool : NetworkPool) (self : Nat) (sessionID : UInt64) (token challenge : Bytes) :
    Prop :=
  ∃ connNil lookupNil, pool.threads[self]? =
    some (.acceptTCPPeer connNil lookupNil (some challenge) (some token)
      (.returned sessionID none))

/-- Dialer run `dialer` of role client stands behind the accept `self`: it holds
the token of the session, received the accept's challenge and sent its tag. -/
def StandsBehind (pool : NetworkPool) (dialer self : Nat) : Prop :=
  ∃ sessionID token challenge, Accepted pool self sessionID token challenge ∧
    DialerOf pool dialer sessionID token tcpRoleClient challenge ∧
    ⟨dialer, sessionID, token, tcpRoleClient, challenge⟩ ∈ pool.shared.emitted

theorem DialerOf.sole {pool : NetworkPool} {self : Nat} {sessionID otherID : UInt64}
    {token otherToken : Bytes} {role otherRole : UInt8} {challenge otherChallenge : Bytes}
    (dialer : DialerOf pool self sessionID token role challenge)
    (other : DialerOf pool self otherID otherToken otherRole otherChallenge) :
    otherChallenge = challenge := by
  rcases dialer with ⟨_, present⟩
  rcases other with ⟨_, found⟩
  rw [present] at found
  cases found
  rfl

theorem Accepted.acceptorOf {pool : NetworkPool} {self : Nat} {sessionID : UInt64}
    {token challenge : Bytes} (accepted : Accepted pool self sessionID token challenge) :
    AcceptorOf pool self challenge := by
  rcases accepted with ⟨connNil, lookupNil, present⟩
  exact ⟨connNil, lookupNil, some token, .returned sessionID none, present⟩

/-! ## One challenge for two dialers -/

def sessionToken : Bytes := [1, 2, 3, 4]
def drawnChallenge : Bytes := List.replicate 16 9

/-- The attacker hands the challenge of one acceptor to two client dialers, and
its answer to both. -/
def oneChallengeTwoDialers : List (PoolEvent Thread Choice) :=
  [.spawn (.registry (.register ⟨7, "controller", sessionToken, false⟩) false),
    .advance 0 .proceed,
    .spawn (.acceptTCPPeer false false none none .checkArguments),
    .advance 1 .proceed, .advance 1 (.bytes drawnChallenge), .advance 1 .proceed,
    .spawn (.authenticateTCPPeer 7 sessionToken tcpRoleClient none .setDeadline),
    .advance 2 .proceed, .advance 2 .proceed, .advance 2 (.bytes drawnChallenge),
    .advance 2 .proceed,
    .spawn (.authenticateTCPPeer 7 sessionToken tcpRoleClient none .setDeadline),
    .advance 3 .proceed, .advance 3 .proceed, .advance 3 (.bytes drawnChallenge),
    .advance 3 .proceed,
    .advance 1 (.bytes (tcpAuthTag 7 sessionToken tcpRoleClient drawnChallenge)),
    .advance 1 .proceed, .advance 1 .proceed, .advance 1 .proceed,
    .advance 2 (.bytes (tcpAuthTag 7 sessionToken tcpRoleServer drawnChallenge)),
    .advance 2 .proceed,
    .advance 3 (.bytes (tcpAuthTag 7 sessionToken tcpRoleServer drawnChallenge)),
    .advance 3 .proceed]

theorem oneChallengeTwoDialers_run :
    ∃ pool, program.machine.Run Attacker initialPool oneChallengeTwoDialers pool ∧
      Accepted pool 1 7 sessionToken drawnChallenge ∧
      StandsBehind pool 2 1 ∧ StandsBehind pool 3 1 ∧
      Authenticated pool 2 7 sessionToken tcpRoleClient drawnChallenge ∧
      Authenticated pool 3 7 sessionToken tcpRoleClient drawnChallenge := by
  refine Machine.exists_run _ _ _ _ _ ?_
  iterate 4 refine ⟨⟨trivial, trivial⟩, _, rfl, ?_⟩
  refine ⟨⟨trivial, List.not_mem_nil⟩, _, rfl, ?_⟩
  iterate 11 refine ⟨⟨trivial, trivial⟩, _, rfl, ?_⟩
  -- From here on tags are compared, which rewriting decides and evaluation would not.
  refine ⟨⟨trivial, trivial⟩, _, accept_reads (tcpAuthTag_length ..) rfl, ?_⟩
  refine ⟨⟨trivial, trivial⟩, _, accept_looks_up (by decide) rfl rfl, ?_⟩
  refine ⟨⟨⟨?_, ?_⟩, trivial⟩, _, accept_recognises_client rfl, ?_⟩
  · rw [uint64_tcpAuthTag]
    exact fun _ => ⟨_, List.mem_cons_self, rfl, rfl, rfl, rfl⟩
  · rw [uint64_tcpAuthTag]
    exact fun different => absurd rfl different
  refine ⟨⟨trivial, trivial⟩, _, rfl, ?_⟩
  refine ⟨⟨trivial, trivial⟩, _, dial_reads (tcpAuthTag_length ..) rfl, ?_⟩
  refine ⟨⟨fun _ => ⟨_, List.mem_cons_self, rfl, rfl, rfl, rfl⟩, trivial⟩, _,
    dial_verifies rfl, ?_⟩
  refine ⟨⟨trivial, trivial⟩, _, dial_reads (tcpAuthTag_length ..) rfl, ?_⟩
  refine ⟨⟨fun _ => ⟨_, List.mem_cons_self, rfl, rfl, rfl, rfl⟩, trivial⟩, _,
    dial_verifies rfl, ?_⟩
  refine ⟨⟨_, _, rfl⟩, ⟨_, _, _, ⟨_, _, rfl⟩, ⟨_, rfl⟩, ?_⟩, ⟨_, _, _, ⟨_, _, rfl⟩, ⟨_, rfl⟩, ?_⟩,
    rfl, rfl⟩
  · exact List.mem_cons_of_mem _ (List.mem_cons_of_mem _ List.mem_cons_self)
  · exact List.mem_cons_of_mem _ List.mem_cons_self

/-! ## The dialing side -/

theorem answered_of_authenticated {pool : NetworkPool} (holds : handshakeOutline.Holds pool)
    {self : Nat} {sessionID : UInt64} {token : Bytes} {role : UInt8} {challenge : Bytes}
    (authenticated : Authenticated pool self sessionID token role challenge) :
    ∃ acceptor, Answered pool acceptor sessionID token (expectedRole role) challenge := by
  have known : Known pool.shared _ := holds.thread self _ authenticated
  rcases known.2 challenge rfl with ⟨⟨author, _, _, answer, _⟩, member, rfl, rfl, expected, rfl⟩
  simp only at expected member
  subst expected
  have acceptor := acceptor_of_expectedRole (holds.global.authored _ member) rfl
  exact ⟨author, acceptor, member⟩

/-- Each dialer run that returns nil has exactly one acceptor run behind it,
which used its session, token and challenge and has answered in the matching
role. -/
theorem dialer_agreement (events : List (PoolEvent Thread Choice)) (pool : NetworkPool)
    (run : program.machine.Run Attacker initialPool events pool)
    (self : Nat) (sessionID : UInt64) (token : Bytes) (role : UInt8) (challenge : Bytes)
    (authenticated : Authenticated pool self sessionID token role challenge) :
    ∃! acceptor, Answered pool acceptor sessionID token (expectedRole role) challenge := by
  have holds := handshakeOutline_of_run run
  rcases answered_of_authenticated holds authenticated with ⟨acceptor, answered⟩
  exact ⟨acceptor, answered, fun other also =>
    holds.global.sole _ _ _ also.1 answered.1⟩

theorem dialer_agreement_two_dialers :
    ∃ pool, Authenticated pool 2 7 sessionToken tcpRoleClient drawnChallenge ∧
      ∃! acceptor, Answered pool acceptor 7 sessionToken tcpRoleServer drawnChallenge := by
  rcases oneChallengeTwoDialers_run with ⟨pool, run, _, _, _, authenticated, _⟩
  exact ⟨pool, authenticated, dialer_agreement _ _ run _ _ _ _ _ authenticated⟩

/-- Two dialer runs that returned nil never have the same acceptor run. -/
def DistinctAcceptors (pool : NetworkPool) : Prop :=
  ∀ one other acceptor sessionID token role challenge otherID otherToken otherRole
      otherChallenge,
    Authenticated pool one sessionID token role challenge →
    Authenticated pool other otherID otherToken otherRole otherChallenge →
    Answered pool acceptor sessionID token (expectedRole role) challenge →
    Answered pool acceptor otherID otherToken (expectedRole otherRole) otherChallenge →
    one = other

/-- Every dialer run that has begun since `early` and returned nil was answered
since. -/
def AnsweredMeanwhile (early late : NetworkPool) : Prop :=
  ∀ self sessionID token role challenge, early.threads[self]? = none →
    Authenticated late self sessionID token role challenge →
    ∃ acceptor, Answered late acceptor sessionID token (expectedRole role) challenge ∧
      ¬ Answered early acceptor sessionID token (expectedRole role) challenge

/-! ## A handshake played again

The attacker records the challenge and the answer of a finished handshake and
hands them to a dialer that starts afterwards. -/

def recordedHandshake : List (PoolEvent Thread Choice) :=
  [.spawn (.registry (.register ⟨7, "controller", sessionToken, false⟩) false),
    .advance 0 .proceed,
    .spawn (.acceptTCPPeer false false none none .checkArguments),
    .advance 1 .proceed, .advance 1 (.bytes drawnChallenge), .advance 1 .proceed,
    .spawn (.authenticateTCPPeer 7 sessionToken tcpRoleClient none .setDeadline),
    .advance 2 .proceed, .advance 2 .proceed, .advance 2 (.bytes drawnChallenge),
    .advance 2 .proceed,
    .advance 1 (.bytes (tcpAuthTag 7 sessionToken tcpRoleClient drawnChallenge)),
    .advance 1 .proceed, .advance 1 .proceed, .advance 1 .proceed,
    .advance 2 (.bytes (tcpAuthTag 7 sessionToken tcpRoleServer drawnChallenge)),
    .advance 2 .proceed]

def playedAgain : List (PoolEvent Thread Choice) :=
  [.spawn (.authenticateTCPPeer 7 sessionToken tcpRoleClient none .setDeadline),
    .advance 3 .proceed, .advance 3 .proceed, .advance 3 (.bytes drawnChallenge),
    .advance 3 .proceed,
    .advance 3 (.bytes (tcpAuthTag 7 sessionToken tcpRoleServer drawnChallenge)),
    .advance 3 .proceed]

/-- A dialer joined, sent its tag and returned nil; nobody else did anything. -/
structure JoinedAlone (early late : NetworkPool) (joiner : Nat) : Prop where
  threads : late.threads = early.threads ++
    [.authenticateTCPPeer 7 sessionToken tcpRoleClient (some drawnChallenge) (.returned none)]
  emitted : late.shared.emitted =
    ⟨joiner, 7, sessionToken, tcpRoleClient, drawnChallenge⟩ :: early.shared.emitted

theorem recordedHandshake_run :
    ∃ early, program.machine.Run Attacker initialPool recordedHandshake early ∧
      early.threads.length = 3 ∧ Authenticated early 2 7 sessionToken tcpRoleClient drawnChallenge ∧
      ∃ late, program.machine.Run Attacker early playedAgain late ∧ JoinedAlone early late 3 := by
  refine Machine.exists_run _ _ _ _ _ ?_
  iterate 4 refine ⟨⟨trivial, trivial⟩, _, rfl, ?_⟩
  refine ⟨⟨trivial, List.not_mem_nil⟩, _, rfl, ?_⟩
  iterate 6 refine ⟨⟨trivial, trivial⟩, _, rfl, ?_⟩
  refine ⟨⟨trivial, trivial⟩, _, accept_reads (tcpAuthTag_length ..) rfl, ?_⟩
  refine ⟨⟨trivial, trivial⟩, _, accept_looks_up (by decide) rfl rfl, ?_⟩
  refine ⟨⟨⟨?_, ?_⟩, trivial⟩, _, accept_recognises_client rfl, ?_⟩
  · rw [uint64_tcpAuthTag]
    exact fun _ => ⟨_, List.mem_cons_self, rfl, rfl, rfl, rfl⟩
  · rw [uint64_tcpAuthTag]
    exact fun different => absurd rfl different
  refine ⟨⟨trivial, trivial⟩, _, rfl, ?_⟩
  refine ⟨⟨trivial, trivial⟩, _, dial_reads (tcpAuthTag_length ..) rfl, ?_⟩
  refine ⟨⟨fun _ => ⟨_, List.mem_cons_self, rfl, rfl, rfl, rfl⟩, trivial⟩, _,
    dial_verifies rfl, ?_⟩
  refine ⟨rfl, rfl, Machine.exists_run _ _ _ _ _ ?_⟩
  iterate 5 refine ⟨⟨trivial, trivial⟩, _, rfl, ?_⟩
  refine ⟨⟨trivial, trivial⟩, _, dial_reads (tcpAuthTag_length ..) rfl, ?_⟩
  refine ⟨⟨fun _ => ⟨_, List.mem_cons_of_mem _ List.mem_cons_self, rfl, rfl, rfl, rfl⟩, trivial⟩,
    _, dial_verifies rfl, ?_⟩
  exact ⟨rfl, rfl⟩

theorem JoinedAlone.answered {early late : NetworkPool} {joiner acceptor : Nat}
    {sessionID : UInt64} {token challenge : Bytes} {role : UInt8}
    (joined : JoinedAlone early late joiner) (expected : role ≠ tcpRoleClient)
    (answered : Answered late acceptor sessionID token role challenge) :
    Answered early acceptor sessionID token role challenge := by
  rcases answered with ⟨⟨connNil, lookupNil, found, point, present⟩, member⟩
  constructor
  · refine ⟨connNil, lookupNil, found, point, ?_⟩
    rw [joined.threads, List.getElem?_append] at present
    split at present
    · exact present
    · rcases List.mem_singleton.mp (List.mem_of_getElem? present) with ⟨⟩
  · rw [joined.emitted, List.mem_cons] at member
    rcases member with own | old
    · cases own
      exact absurd rfl expected
    · exact old

/-- Neither was the later dialer answered during its run, nor has it an acceptor
run of its own. -/
theorem handshake_played_again :
    ∃ past early later late, program.machine.Run Attacker initialPool past early ∧
      program.machine.Run Attacker early later late ∧
      ¬ AnsweredMeanwhile early late ∧ ¬ DistinctAcceptors late := by
  rcases recordedHandshake_run with ⟨early, before, started, first, late, after, joined⟩
  have second : Authenticated late 3 7 sessionToken tcpRoleClient drawnChallenge := by
    simp [Authenticated, joined.threads, started]
  refine ⟨_, early, _, late, before, after, fun meanwhile => ?_, fun distinct => ?_⟩
  · have absent : early.threads[3]? = none := List.getElem?_eq_none (by omega)
    rcases meanwhile 3 _ _ _ _ absent second with ⟨acceptor, answered, notBefore⟩
    exact notBefore (joined.answered (by decide) answered)
  · have also : Authenticated late 2 7 sessionToken tcpRoleClient drawnChallenge := by
      rw [Authenticated, joined.threads, List.getElem?_append_left (by omega)]
      exact first
    rcases answered_of_authenticated (handshakeOutline_of_run (before.append after)) also with
      ⟨acceptor, answered⟩
    exact absurd (distinct 2 3 acceptor _ _ _ _ _ _ _ _ also second answered answered)
      (by decide)

/-! ## The accepting side -/

/-- Each accept that returns nil is of an announced session and has a client
dialer behind it; no dialer stands behind two accepts. -/
theorem acceptor_agreement (events : List (PoolEvent Thread Choice)) (pool : NetworkPool)
    (run : program.machine.Run Attacker initialPool events pool)
    (self : Nat) (sessionID : UInt64) (token challenge : Bytes)
    (accepted : Accepted pool self sessionID token challenge) :
    Announced pool.shared sessionID token ∧
      (∃ dialer, StandsBehind pool dialer self) ∧
      ∀ dialer other, StandsBehind pool dialer self → StandsBehind pool dialer other →
        other = self := by
  have holds := handshakeOutline_of_run run
  refine ⟨?_, ?_, ?_⟩
  · rcases accepted with ⟨connNil, lookupNil, present⟩
    have known : Known pool.shared _ := holds.thread self _ present
    exact (known.2 challenge token rfl rfl).2
  · rcases accepted with ⟨connNil, lookupNil, present⟩
    have known : Known pool.shared _ := holds.thread self _ present
    rcases (known.2 challenge token rfl rfl).1 with
      ⟨⟨author, _, _, _, _⟩, member, rfl, rfl, rfl, rfl⟩
    rcases holds.global.authored _ member with ⟨_, dialer⟩ | ⟨acceptorRole, _⟩
    · exact ⟨author, _, _, _, ⟨connNil, lookupNil, present⟩, dialer, member⟩
    · simp [tcpRoleServer, tcpRoleClient, tcpRoleProbeAck] at acceptorRole
  · rintro dialer other ⟨_, _, one, first, here, _⟩ ⟨_, _, two, second, there, _⟩
    have same : two = one := here.sole there
    subst same
    exact holds.global.sole _ _ _ second.acceptorOf first.acceptorOf

theorem acceptor_agreement_two_dialers :
    ∃ pool, Accepted pool 1 7 sessionToken drawnChallenge ∧
      Announced pool.shared 7 sessionToken ∧ (∃ dialer, StandsBehind pool dialer 1) ∧
      ∀ dialer other, StandsBehind pool dialer 1 → StandsBehind pool dialer other →
        other = 1 := by
  rcases oneChallengeTwoDialers_run with ⟨pool, run, accepted, _⟩
  exact ⟨pool, accepted, acceptor_agreement _ _ run _ _ _ _ accepted⟩

theorem two_dialers_behind_one_accept :
    ∃ events pool, program.machine.Run Attacker initialPool events pool ∧
      ∃ self sessionID token challenge, Accepted pool self sessionID token challenge ∧
        ¬ ∃! dialer, StandsBehind pool dialer self := by
  rcases oneChallengeTwoDialers_run with ⟨pool, run, accepted, second, third, _⟩
  refine ⟨_, pool, run, 1, _, _, _, accepted, ?_⟩
  rintro ⟨sole, _, only⟩
  exact absurd ((only 2 second).trans (only 3 third).symm) (by decide)

end Rdpulse.Punch
