import Rdpulse.Punch.UDPCalls
import Rdpulse.Punch.UDPProgress

namespace Rdpulse.Punch.UDPPunch

open Foundation Protocol
open Rdpulse.Path (AddrPort Side)

/-! Successful calls name their peer, as long as nothing is replayed to an end that
waits. -/

/-! ## The outline -/

def Known (sessionID : UInt64) (token : Bytes) (network : Network) : Thread → Prop
  | .punchUDPDispatched call =>
      CallSound network call ∧
        (call.sessionID = sessionID → call.sessionToken = token → call.main.err = none →
          CallKnown network call)
  | .readLoop side (.dispatch flight) => flight ∈ network.arrivals side
  | _ => True

section Steps

variable {sessionID : UInt64} {token : Bytes} {network : Network} {action : Action}
  {thread next : Thread} {choice : ThreadChoice}

theorem Known.entry (enters : entry thread = true) : Known sessionID token network thread := by
  cases thread with
  | punchUDPDispatched call =>
      simp only [UDPPunch.entry, Bool.and_eq_true, decide_eq_true_eq] at enters
      rcases enters with ⟨⟨⟨⟨⟨main, goroutine⟩, successCh⟩, _⟩, _⟩, _⟩
      have idle : ¬ call.Reads := by
        rintro (started | resolving)
        · exact started.1 goroutine
        · simp [main] at resolving
      refine ⟨⟨by simp [main], by simp [goroutine]⟩, fun _ _ _ => ?_⟩
      exact ⟨fun reads => absurd reads idle, fun reads => absurd reads idle,
        by simp [GoroutineKnown, goroutine], by simp [successCh], by simp [main]⟩
  | readLoop side point => simp [UDPPunch.entry] at enters
  | closeDispatcher side closed => trivial
  | host address stored => trivial

/-! What each kind of thread may do. -/

theorem plan_call {call : Call} (sound : CallSound network call)
    (planned : plan network (.punchUDPDispatched call) choice = some (action, next)) :
    ∃ after, next = .punchUDPDispatched after ∧
      (MainStep network call action after ∨ GoroutineStep network call action after ∨
        action = .nothing ∧ after = { call with done := true }) := by
  simp only [plan] at planned
  split at planned
  · simp only [Option.map_eq_some_iff] at planned
    rcases planned with ⟨⟨_, after⟩, inner, equal⟩
    cases equal
    exact ⟨after, rfl, .inl (planMain_step sound inner)⟩
  · simp only [Option.map_eq_some_iff] at planned
    rcases planned with ⟨⟨_, after⟩, inner, equal⟩
    cases equal
    exact ⟨after, rfl, .inr (.inl (planGoroutine_step sound inner))⟩
  · cases planned
    exact ⟨_, rfl, .inr (.inr ⟨rfl, rfl⟩)⟩
  · cases planned

theorem plan_readLoop {side : Side} {point : ReadPoint}
    (planned : plan network (.readLoop side point) choice = some (action, next)) :
    (∃ flight ∈ network.flights, action = .arrive side flight ∧
        next = .readLoop side (.dispatch flight)) ∨
      action = .nothing ∧ next = .readLoop side .stopped ∨
      ∃ flight, point = .dispatch flight ∧
        action = .dispatch side ⟨flight.read, flight.source⟩ ∧ next = .readLoop side .read := by
  simp only [plan] at planned
  split at planned
  · split at planned
    · cases planned
    simp only [Option.map_eq_some_iff] at planned
    rcases planned with ⟨flight, sent, equal⟩
    cases equal
    exact .inl ⟨flight, List.mem_of_getElem? sent, rfl, rfl⟩
  · split at planned <;> cases planned
    exact .inr (.inl ⟨rfl, rfl⟩)
  · cases planned
    exact .inr (.inr ⟨_, rfl, rfl, rfl⟩)
  · cases planned

theorem plan_closeDispatcher {side : Side} {closed : Bool}
    (planned : plan network (.closeDispatcher side closed) choice = some (action, next)) :
    action = .close side ∧ next = .closeDispatcher side true := by
  simp only [plan] at planned
  split at planned <;> cases planned
  exact ⟨rfl, rfl⟩

theorem plan_host {address : AddrPort} {stored : List Bytes}
    (planned : plan network (.host address stored) choice = some (action, next)) :
    (∃ flight ∈ network.flights, action = .nothing ∧
        next = .host address (flight.data :: stored)) ∨
      next = .host address stored ∧ ∃ destination data, action = .send address destination data ∧
        (data ∈ stored ∨ choice = .send data destination) := by
  simp only [plan] at planned
  split at planned
  · split at planned
    · cases planned
    rename_i flight sent
    split at planned <;> cases planned
    exact .inl ⟨flight, List.mem_of_getElem? sent, rfl, rfl⟩
  · simp only [Option.map_eq_some_iff] at planned
    rcases planned with ⟨data, member, equal⟩
    cases equal
    exact .inr ⟨rfl, _, _, rfl, .inl (List.mem_of_getElem? member)⟩
  · cases planned
    exact .inr ⟨rfl, _, _, rfl, .inr rfl⟩
  · cases planned

def ThreadSound (network : Network) : Thread → Prop
  | .punchUDPDispatched call => CallSound network call
  | _ => True

theorem Known.sound (known : Known sessionID token network thread) :
    ThreadSound network thread := by
  cases thread with
  | punchUDPDispatched call => exact known.1
  | _ => trivial

theorem plan_sound (sound : ThreadSound network thread)
    (planned : plan network thread choice = some (action, next)) : action.Sound network := by
  cases thread with
  | punchUDPDispatched call =>
      rcases plan_call sound planned with ⟨_, _, step | step | ⟨rfl, _⟩⟩
      · exact step.sound
      · exact step.sound
      · trivial
  | readLoop side point =>
      rcases plan_readLoop planned with ⟨_, sent, rfl, _⟩ | ⟨rfl, _⟩ | ⟨_, _, rfl, _⟩
      · exact sent
      · trivial
      · trivial
  | closeDispatcher side closed =>
      rw [(plan_closeDispatcher planned).1]
      trivial
  | host address stored =>
      rcases plan_host planned with ⟨_, _, rfl, _⟩ | ⟨_, _, _, rfl, _⟩ <;> trivial

theorem plan_dispatch (sound : ThreadSound network thread) {side : Side} {packet : UDPPacket}
    (planned : plan network thread choice = some (.dispatch side packet, next)) :
    ∃ flight, thread = .readLoop side (.dispatch flight) ∧
      packet = ⟨flight.read, flight.source⟩ := by
  cases thread with
  | punchUDPDispatched call =>
      rcases plan_call sound planned with ⟨_, _, step | step | ⟨equal, _⟩⟩
      · exact absurd rfl (step.quiet _ _)
      · exact absurd rfl (step.quiet _ _)
      · cases equal
  | readLoop side point =>
      rcases plan_readLoop planned with ⟨_, _, equal, _⟩ | ⟨equal, _⟩ | ⟨flight, rfl, equal, _⟩
      · cases equal
      · cases equal
      · cases equal
        exact ⟨flight, rfl, rfl⟩
  | closeDispatcher side closed => cases (plan_closeDispatcher planned).1
  | host address stored =>
      rcases plan_host planned with ⟨_, _, equal, _⟩ | ⟨_, _, _, equal, _⟩ <;> cases equal

theorem ThreadSound.step (sound : ThreadSound network thread)
    (planned : plan network thread choice = some (action, next)) :
    ThreadSound (action.apply network) next := by
  cases thread with
  | punchUDPDispatched call =>
      rcases plan_call sound planned with ⟨after, rfl, step | step | ⟨rfl, rfl⟩⟩
      · exact CallSound.main_step sound step
      · exact CallSound.goroutine_step sound step
      · exact ⟨sound.main, sound.goroutine⟩
  | readLoop side point =>
      rcases plan_readLoop planned with ⟨_, _, _, rfl⟩ | ⟨_, rfl⟩ | ⟨_, _, _, rfl⟩ <;> trivial
  | closeDispatcher side closed =>
      rw [(plan_closeDispatcher planned).2]
      trivial
  | host address stored =>
      rcases plan_host planned with ⟨_, _, _, rfl⟩ | ⟨rfl, _⟩ <;> trivial

theorem Known.step (known : Known sessionID token network thread)
    (planned : plan network thread choice = some (action, next)) :
    Known sessionID token (action.apply network) next := by
  have sound := known.sound.step planned
  cases thread with
  | punchUDPDispatched call =>
      rcases plan_call known.1 planned with ⟨after, rfl, step | step | ⟨rfl, rfl⟩⟩
      · refine ⟨sound, fun id secret unfailed => ?_⟩
        rw [step.same.2.1] at id
        rw [step.same.2.2.1] at secret
        exact (known.2 id secret (step.err unfailed)).main_step step
      · refine ⟨sound, fun id secret unfailed => ?_⟩
        rw [step.same.2.1] at id
        rw [step.same.2.2.1] at secret
        rw [step.same.2.2.2.1] at unfailed
        exact (known.2 id secret unfailed).goroutine_step step
      · refine ⟨sound, fun id secret unfailed => ?_⟩
        have here := known.2 id secret unfailed
        exact ⟨here.bound, here.queued, here.goroutine, here.successCh, here.main⟩
  | readLoop side point =>
      rcases plan_readLoop planned with ⟨flight, _, rfl, rfl⟩ | ⟨_, rfl⟩ | ⟨_, _, _, rfl⟩
      · simp [Known, Action.apply]
      · trivial
      · trivial
  | closeDispatcher side closed =>
      rw [(plan_closeDispatcher planned).2]
      trivial
  | host address stored =>
      rcases plan_host planned with ⟨_, _, _, rfl⟩ | ⟨rfl, _⟩ <;> trivial

/-- An action of another thread keeps what is known, if a packet it puts into the
channel of a waiting call names the peer. -/
theorem Known.apply (known : Known sessionID token network thread)
    (handed : ∀ side packet, action = .dispatch side packet →
      Call.Unconfirmed side sessionID token thread →
      Telling network side sessionID token packet) :
    Known sessionID token (action.apply network) thread := by
  cases thread with
  | punchUDPDispatched call =>
      refine ⟨known.1.apply, fun id secret unfailed => ?_⟩
      apply (known.2 id secret unfailed).apply
      intro reads waits packet dispatched
      rw [id, secret]
      exact handed call.side packet dispatched ⟨rfl, id, secret, unfailed, reads, waits⟩
  | readLoop side point =>
      cases point with
      | dispatch flight => exact apply_arrivals known
      | read | stopped => trivial
  | closeDispatcher side closed => trivial
  | host address stored => trivial

end Steps

def namingOutline (sessionID : UInt64) (token : Bytes) : Program.Outline Network Thread where
  global pool := NetworkSound pool.shared
  assertion _ pool thread := Known sessionID token pool.shared thread

theorem namingOutline_valid (sessionID : UInt64) (token : Bytes) :
    (namingOutline sessionID token).Valid program (Undisturbed sessionID token) where
  started pool thread holds enters _ := ⟨holds.global, Known.entry enters⟩
  undisturbedByStart pool thread other bystander holds _ _ found :=
    holds.thread other bystander found
  sequential pool self thread choice shared next holds present _ taken := by
    simp only [program, Option.map_eq_some_iff] at taken
    rcases taken with ⟨⟨action, _⟩, planned, equal⟩
    cases equal
    have known := holds.thread self thread present
    exact ⟨holds.global.apply (plan_sound known.sound planned), known.step planned⟩
  interferenceFree pool self thread choice shared next other bystander holds present permitted
      taken _ found := by
    simp only [program, Option.map_eq_some_iff] at taken
    rcases taken with ⟨⟨action, _⟩, planned, equal⟩
    cases equal
    have known := holds.thread self thread present
    apply (holds.thread other bystander found).apply
    intro side packet dispatched waiting
    subst dispatched
    rcases plan_dispatch known.sound planned with ⟨flight, rfl, rfl⟩
    simp only [Undisturbed, Unforgeable, NotReplayed, present] at permitted
    exact telling_of_not_replayed holds.global known permitted.1
      (permitted.2 ⟨bystander, Pool.mem_of_getElem? found, waiting⟩)

theorem namingOutline_initial (sessionID : UInt64) (token : Bytes) :
    (namingOutline sessionID token).Holds initialPool where
  global :=
    ⟨fun _ _ member => absurd member List.not_mem_nil,
      fun _ member => absurd member List.not_mem_nil,
      fun _ member => absurd member List.not_mem_nil⟩
  thread self thread present := by
    have member := List.mem_of_getElem? present
    simp only [initialPool, List.mem_cons, List.not_mem_nil, or_false] at member
    rcases member with rfl | rfl <;> trivial

/-- While no replay is handed to an end that waits for its peer, a call that succeeds
names the address from which a packet of the other end came. -/
theorem punch_names_peer (sessionID : UInt64) (token : Bytes)
    (events : List (PoolEvent Thread ThreadChoice)) (pool : NetworkPool)
    (run : program.machine.Run (Undisturbed sessionID token) initialPool events pool) :
    NamesPeer sessionID token pool := by
  have holds := (namingOutline_valid sessionID token).run (namingOutline_initial _ _) run
  intro self call present id secret remote closing returned
  have known := (holds.thread self _ present).2 id secret (by simp [returned])
  have named := known.main remote (by simp [returned])
  rw [id, secret] at named
  exact named

/-! ## Hosts that only forward -/

/-- A host sends only what it has received. -/
def Forwards (pool : NetworkPool) : PoolEvent Thread ThreadChoice → Prop
  | .advance self (.send data _) =>
      match pool.threads[self]? with
      | some (.host _ stored) => data ∈ stored
      | _ => True
  | _ => True

def Forwarding (token : Bytes) (pool : NetworkPool) (event : PoolEvent Thread ThreadChoice) :
    Prop :=
  Unforgeable token pool event ∧ Forwards pool event

def Copied (network : Network) (data : Bytes) : Prop :=
  ∃ creation ∈ network.created, data = creation.packet.encode

def CopyKnown (network : Network) : Thread → Prop
  | .punchUDPDispatched call => CallSound network call
  | .readLoop _ (.dispatch flight) => Copied network flight.data
  | .host _ stored => ∀ data ∈ stored, Copied network data
  | _ => True

def copyOutline : Program.Outline Network Thread where
  global pool := NetworkSound pool.shared ∧
    ∀ flight ∈ pool.shared.flights, Copied pool.shared flight.data
  assertion _ pool thread := CopyKnown pool.shared thread

section Copies

variable {network : Network} {action : Action} {thread next : Thread} {choice : ThreadChoice}

theorem Copied.apply {data : Bytes} (copied : Copied network data) :
    Copied (action.apply network) data := by
  rcases copied with ⟨creation, created, equal⟩
  exact ⟨creation, apply_created created, equal⟩

theorem CopyKnown.sound (known : CopyKnown network thread) : ThreadSound network thread := by
  cases thread with
  | punchUDPDispatched call => exact known
  | _ => trivial

theorem CopyKnown.apply (known : CopyKnown network thread) :
    CopyKnown (action.apply network) thread := by
  cases thread with
  | punchUDPDispatched call => exact CallSound.apply known
  | readLoop side point =>
      cases point with
      | dispatch flight => exact Copied.apply known
      | read | stopped => trivial
  | closeDispatcher side closed => trivial
  | host address stored => exact fun data member => (known data member).apply

theorem copied_apply (copied : ∀ flight ∈ network.flights, Copied network flight.data)
    (sound : action.Sound network)
    (sends : ∀ source destination data, action = .send source destination data →
      Copied network data) :
    ∀ flight ∈ (action.apply network).flights, Copied (action.apply network) flight.data := by
  intro flight member
  apply Copied.apply
  cases action with
  | write creation source destination =>
      simp only [Action.apply] at member
      split at member
      · exact copied flight member
      · rcases List.mem_append.mp member with old | new
        · exact copied flight old
        · cases List.mem_singleton.mp new
          exact ⟨creation, sound, rfl⟩
  | send source destination data =>
      rcases List.mem_append.mp member with old | new
      · exact copied flight old
      · cases List.mem_singleton.mp new
        exact sends source destination data rfl
  | register side sessionID key =>
      simp only [Action.apply] at member
      split at member <;> exact copied flight member
  | _ => exact copied flight member

theorem plan_send (known : CopyKnown network thread)
    (forwards : ∀ address stored data destination, thread = .host address stored →
      choice = .send data destination → data ∈ stored) {source destination : AddrPort}
    {data : Bytes}
    (planned : plan network thread choice = some (.send source destination data, next)) :
    Copied network data := by
  cases thread with
  | punchUDPDispatched call =>
      rcases plan_call known planned with ⟨_, _, step | step | ⟨equal, _⟩⟩
      · exact absurd rfl (step.silent _ _ _)
      · exact absurd rfl (step.silent _ _ _)
      · cases equal
  | readLoop side point =>
      rcases plan_readLoop planned with ⟨_, _, equal, _⟩ | ⟨equal, _⟩ | ⟨_, _, equal, _⟩ <;>
        cases equal
  | closeDispatcher side closed => cases (plan_closeDispatcher planned).1
  | host address stored =>
      rcases plan_host planned with ⟨_, _, equal, _⟩ | ⟨_, _, _, equal, stores | sent⟩
      · cases equal
      · cases equal
        exact known data stores
      · cases equal
        exact known _ (forwards _ _ _ _ rfl sent)

theorem CopyKnown.step (known : CopyKnown network thread)
    (copied : ∀ flight ∈ network.flights, Copied network flight.data)
    (planned : plan network thread choice = some (action, next)) :
    CopyKnown (action.apply network) next := by
  have sound := known.sound.step planned
  cases thread with
  | punchUDPDispatched call =>
      rcases plan_call known planned with ⟨after, rfl, _⟩
      exact sound
  | readLoop side point =>
      rcases plan_readLoop planned with ⟨flight, sent, _, rfl⟩ | ⟨_, rfl⟩ | ⟨_, _, _, rfl⟩
      · exact (copied flight sent).apply
      · trivial
      · trivial
  | closeDispatcher side closed =>
      rw [(plan_closeDispatcher planned).2]
      trivial
  | host address stored =>
      rcases plan_host planned with ⟨flight, sent, _, rfl⟩ | ⟨rfl, _⟩
      · intro data member
        rcases List.mem_cons.mp member with rfl | old
        · exact (copied flight sent).apply
        · exact (known data old).apply
      · exact CopyKnown.apply known

end Copies

theorem copyOutline_valid : copyOutline.Valid program Forwards where
  started pool thread holds enters _ := by
    refine ⟨holds.global, ?_⟩
    cases thread with
    | punchUDPDispatched call =>
        have enters : entry (.punchUDPDispatched call) = true := enters
        exact (@Known.entry 0 [] pool.shared _ enters).1
    | readLoop side point => simp [program, entry] at enters
    | closeDispatcher side closed => trivial
    | host address stored =>
        have fresh : decide (stored = []) = true := enters
        rw [decide_eq_true_eq] at fresh
        intro data member
        rw [fresh] at member
        cases member
  undisturbedByStart pool thread other bystander holds _ _ found :=
    holds.thread other bystander found
  sequential pool self thread choice shared next holds present forwards taken := by
    simp only [program, Option.map_eq_some_iff] at taken
    rcases taken with ⟨⟨action, _⟩, planned, equal⟩
    cases equal
    have known := holds.thread self thread present
    have sound := plan_sound known.sound planned
    refine ⟨⟨holds.global.1.apply sound, copied_apply holds.global.2 sound ?_⟩,
      known.step holds.global.2 planned⟩
    intro source destination data sends
    have sends : action = .send source destination data := sends
    subst sends
    refine plan_send known (fun address stored data destination host sent => ?_) planned
    subst host sent
    simp only [Forwards, present] at forwards
    exact forwards
  interferenceFree pool self thread choice shared next other bystander holds _ _ taken _ found := by
    simp only [program, Option.map_eq_some_iff] at taken
    rcases taken with ⟨⟨action, _⟩, planned, equal⟩
    cases equal
    exact (holds.thread other bystander found).apply

/-- Where hosts only forward, every datagram is a copy of a packet that an end created:
nobody forges a tag. -/
theorem copied_of_forwards {allowed : NetworkPool → PoolEvent Thread ThreadChoice → Prop}
    {events : List (PoolEvent Thread ThreadChoice)} {pool : NetworkPool}
    (run : program.machine.Run allowed initialPool events pool)
    (forwards : ∀ pool event, allowed pool event → Forwards pool event) :
    copyOutline.Holds pool := by
  apply copyOutline_valid.run _ (run.weaken forwards)
  refine ⟨⟨(namingOutline_initial 0 []).global, fun _ member => absurd member List.not_mem_nil⟩, ?_⟩
  intro self thread present
  have member := List.mem_of_getElem? present
  simp only [initialPool, List.mem_cons, List.not_mem_nil, or_false] at member
  rcases member with rfl | rfl <;> trivial

/-! ## Two runs -/

instance (network : Network) (token : Bytes) (flight : Flight) :
    Decidable (Attributed network token flight) := by
  unfold Attributed
  split
  · infer_instance
  · split <;> infer_instance

instance (network : Network) (side : Side) (sessionID : UInt64) (token : Bytes)
    (flight : Flight) : Decidable (Replayed network side sessionID token flight) := by
  unfold Replayed
  split
  · infer_instance
  · have : ∀ sender : Sender, Decidable (match sender with
        | .creator creation => creation.author = side
        | .host _ => ∃ creation ∈ network.created, creation.token = token ∧
            creation.packet = ‹PunchPacket›) := fun sender => by
      split <;> infer_instance
    infer_instance

instance (side : Side) (sessionID : UInt64) (token : Bytes) (thread : Thread) :
    Decidable (Call.Unconfirmed side sessionID token thread) := by
  unfold Call.Unconfirmed
  split <;> infer_instance

instance (token : Bytes) (pool : NetworkPool) (event : PoolEvent Thread ThreadChoice) :
    Decidable (Unforgeable token pool event) := by
  unfold Unforgeable
  split
  · infer_instance
  · split <;> infer_instance

instance (sessionID : UInt64) (token : Bytes) (pool : NetworkPool)
    (event : PoolEvent Thread ThreadChoice) : Decidable (NotReplayed sessionID token pool event) := by
  unfold NotReplayed
  split
  · infer_instance
  · split <;> infer_instance

instance (sessionID : UInt64) (token : Bytes) (pool : NetworkPool)
    (event : PoolEvent Thread ThreadChoice) : Decidable (Undisturbed sessionID token pool event) :=
  inferInstanceAs (Decidable (_ ∧ _))

instance (pool : NetworkPool) (event : PoolEvent Thread ThreadChoice) :
    Decidable (Forwards pool event) := by
  unfold Forwards
  casesm* PoolEvent _ _, ThreadChoice <;> try infer_instance
  rename_i self data destination
  dsimp only
  generalize pool.threads[self]? = found
  casesm* Option Thread, Thread <;> infer_instance

instance (token : Bytes) (pool : NetworkPool) (event : PoolEvent Thread ThreadChoice) :
    Decidable (Forwarding token pool event) :=
  inferInstanceAs (Decidable (_ ∧ _))

namespace Sample

def addressOf (number : UInt16) : AddrPort := ⟨.v4 0xc0000201, number⟩

def controllerAddr : AddrPort := addressOf 1
def agentAddr : AddrPort := addressOf 2
def strangerAddr : AddrPort := addressOf 3

def sessionToken : Bytes := [1]

def candidate (port : UInt8) : CandidateInfo := ⟨protocolUDP, [], [port], 0⟩

def resolve : Resolver
  | [port] => some (addressOf port.toUInt16)
  | _ => none

def call (side : Side) (candidates : List CandidateInfo) : Thread :=
  .punchUDPDispatched
    { side := side
      dispatcherNil := false
      candidates := candidates
      candidateUpdates := false
      sessionID := 7
      sessionToken := sessionToken
      packets := 0
      targets := []
      successCh := none
      confirmedPeer := none
      once := false
      done := false
      main := .checkDispatcher
      goroutine := .notStarted }

def main (self : Nat) (choices : List Choice) : List (PoolEvent Thread ThreadChoice) :=
  choices.map fun choice => .advance self (.main choice)

def goroutine (self : Nat) (choices : List Choice) : List (PoolEvent Thread ThreadChoice) :=
  choices.map fun choice => .advance self (.goroutine choice)

def punches (self : Nat) (nonce : UInt64) (source : AddrPort) (targets : Nat) :
    List (PoolEvent Thread ThreadChoice) :=
  main self ([.proceed, .proceed, .resolved resolve, .tick, .nonce nonce] ++
    List.replicate targets (.source source) ++ [.proceed])

def bothEnds (candidates : List CandidateInfo) : List (PoolEvent Thread ThreadChoice) :=
  [.spawn (call .controller candidates), .spawn (call .agent [candidate 1])]

/-- The stranger at a candidate address sends the controller's PUNCH back to it. -/
def echo : List (PoolEvent Thread ThreadChoice) :=
  bothEnds [candidate 3, candidate 2] ++ [.spawn (.host strangerAddr [])] ++
    punches 2 1 controllerAddr 2 ++
    [.advance 4 (.store 0), .advance 4 (.forward 0 controllerAddr), .advance 0 (.read 2)]

def direct : List (PoolEvent Thread ThreadChoice) :=
  bothEnds [candidate 2] ++ punches 2 1 controllerAddr 1 ++ punches 3 4 agentAddr 1 ++
    [.advance 0 (.read 1)]

def Poised (kind : Flight → Prop) (pool : NetworkPool) : Prop :=
  match (pool.threads[0]? : Option Thread), (pool.threads[2]? : Option Thread) with
  | some (.readLoop side (.dispatch flight)), some (.punchUDPDispatched call) =>
      side = call.side ∧ kind flight ∧ Waiting pool.shared call ∧ call.side = .controller ∧
        call.sessionID = 7 ∧ call.sessionToken = sessionToken
  | _, _ => False

def OnlyPunches (network : Network) : Prop :=
  ∀ creation ∈ network.created, creation.packet.type = punchTypePunch ∧
    creation.sessionID = 7 ∧ creation.token = sessionToken

def FromStranger (flight : Flight) : Prop :=
  flight.source = strangerAddr ∧ flight.sender matches .host _

def FromAgent (flight : Flight) : Prop :=
  flight.source = agentAddr ∧
    match flight.sender with
    | .creator creation => creation.author = .agent ∧ creation.token = sessionToken
    | .host _ => False

instance (kind : Flight → Prop) [DecidablePred kind] : DecidablePred (Poised kind) :=
  fun pool => by
    unfold Poised
    split <;> infer_instance

instance : DecidablePred OnlyPunches := fun network =>
  inferInstanceAs (Decidable (∀ creation ∈ network.created, _))

instance : DecidablePred FromStranger := fun _ =>
  inferInstanceAs (Decidable (_ ∧ _))

instance : DecidablePred FromAgent := fun flight => by
  unfold FromAgent
  have : Decidable (match flight.sender with
      | .creator creation => creation.author = .agent ∧ creation.token = sessionToken
      | .host _ => False) := by
    split <;> infer_instance
  infer_instance

theorem Poised.parts {kind : Flight → Prop} {pool : NetworkPool} (poised : Poised kind pool) :
    ∃ flight call, pool.threads[0]? = some (.readLoop call.side (.dispatch flight)) ∧
      pool.threads[2]? = some (.punchUDPDispatched call) ∧ kind flight ∧
      Waiting pool.shared call ∧ call.side = .controller ∧ call.sessionID = 7 ∧
      call.sessionToken = sessionToken := by
  unfold Poised at poised
  split at poised
  · rename_i side flight call reads present
    rcases poised with ⟨rfl, parts⟩
    exact ⟨flight, call, reads, present, parts⟩
  · cases poised

end Sample

open Sample

theorem undisturbed_of_isCall {sessionID : UInt64} {token : Bytes} {middle : NetworkPool}
    {self : Nat} {thread : Thread} {choice : ThreadChoice}
    (found : middle.threads[self]? = some thread) (isCall : IsCall thread) :
    Undisturbed sessionID token middle (.advance self choice) := by
  cases thread with
  | punchUDPDispatched call =>
      simp only [Undisturbed, Unforgeable, NotReplayed, found]
      exact ⟨trivial, trivial⟩
  | _ => cases isCall

theorem forwards_of_isCall {middle : NetworkPool} {self : Nat} {thread : Thread}
    {choice : ThreadChoice} (found : middle.threads[self]? = some thread)
    (isCall : IsCall thread) : Forwards middle (.advance self choice) := by
  cases thread with
  | punchUDPDispatched call => cases choice <;> simp [Forwards, found]
  | _ => cases isCall

theorem poised_succeeds {allowed : NetworkPool → PoolEvent Thread ThreadChoice → Prop}
    {pool : NetworkPool} (sound : NetworkSound pool.shared) (punches : OnlyPunches pool.shared)
    {flight : Flight} {call : Call}
    (reads : pool.threads[0]? = some (.readLoop call.side (.dispatch flight)))
    (present : pool.threads[2]? = some (.punchUDPDispatched call))
    (waiting : Waiting pool.shared call) (id : call.sessionID = 7)
    (secret : call.sessionToken = Sample.sessionToken) (copied : Copied pool.shared flight.data)
    (permitted : allowed pool (.advance 0 .proceed))
    (free : ∀ (middle : NetworkPool) (thread : Thread) (choice : ThreadChoice),
      middle.threads[2]? = some thread → IsCall thread → allowed middle (.advance 2 choice)) :
    ∃ events finish, program.machine.Run allowed pool events finish ∧
      finish.shared.arrivals = pool.shared.arrivals ∧
      ∃ after : Call, finish.threads[2]? = some (.punchUDPDispatched after) ∧
        after.side = call.side ∧ after.sessionID = 7 ∧ after.sessionToken = Sample.sessionToken ∧
        after.main = .returned flight.source .kept := by
  rcases copied with ⟨creation, created, data⟩
  rcases punches creation created with ⟨isPunch, sessionID, token⟩
  rcases sound.decode_copy created data with ⟨decoded, same⟩
  rw [token, ← secret] at decoded
  rw [sessionID, ← id] at same
  rcases handed_succeeds reads present waiting decoded same isPunch permitted free with
    ⟨events, finish, run, arrivals, returned⟩
  exact ⟨events, finish, run, arrivals, _, returned, rfl, id, secret, rfl⟩

theorem punch_names_peer_direct :
    ∃ pool, (∃ (self : Nat) (call : Call),
        pool.threads[self]? = some (.punchUDPDispatched call) ∧ call.sessionID = 7 ∧
          call.sessionToken = Sample.sessionToken ∧ call.main = .returned agentAddr .kept) ∧
      NamesPeer 7 Sample.sessionToken pool := by
  rcases Machine.exists_run program.machine (Undisturbed 7 Sample.sessionToken)
      (fun pool => Poised FromAgent pool ∧ OnlyPunches pool.shared)
      initialPool direct (by decide +kernel) with
    ⟨pool, run, poised, punches⟩
  rcases poised.parts with
    ⟨flight, call, reads, present, ⟨source, sender⟩, waiting, side, session, secret⟩
  have holds := (namingOutline_valid 7 Sample.sessionToken).run (namingOutline_initial _ _) run
  have arrived : flight ∈ pool.shared.arrivals call.side := holds.thread 0 _ reads
  have sent := holds.global.arrived _ flight arrived
  cases by_ : flight.sender with
  | host address => simp [by_] at sender
  | creator creation =>
      simp only [by_] at sender
      have copied := holds.global.sent flight sent creation by_
      have permitted : Undisturbed 7 Sample.sessionToken pool (.advance 0 .proceed) := by
        simp only [Undisturbed, Unforgeable, NotReplayed, reads, Attributed, Replayed, by_, side]
        refine ⟨?_, fun _ => ?_⟩
        · split
          · trivial
          · exact sender.2
        · split
          · exact id
          · rw [sender.1]
            exact fun replayed => by cases replayed.2.2
      rcases poised_succeeds holds.global punches reads present waiting session secret
          ⟨creation, copied⟩ permitted
          (fun _ _ _ found isCall => undisturbed_of_isCall found isCall) with
        ⟨events, finish, later, _, after, found, _, sameID, sameToken, returned⟩
      rw [source] at returned
      exact ⟨finish, ⟨2, after, found, sameID, sameToken, returned⟩,
        punch_names_peer 7 Sample.sessionToken _ finish (run.append later)⟩

/-- The stranger's address is taken for the peer's. -/
theorem stranger_named :
    ∃ events pool, program.machine.Run (Forwarding Sample.sessionToken) initialPool events pool ∧
      ¬ NamesPeer 7 Sample.sessionToken pool := by
  rcases Machine.exists_run program.machine (Forwarding Sample.sessionToken)
      (fun pool => Poised FromStranger pool ∧ OnlyPunches pool.shared ∧
        ∀ flight ∈ pool.shared.arrivals .controller, flight.sender matches .host _)
      initialPool echo (by decide +kernel) with
    ⟨pool, run, poised, punches, strangers⟩
  rcases poised.parts with
    ⟨flight, call, reads, present, ⟨_, stranger⟩, waiting, side, id, secret⟩
  have holds := copied_of_forwards run fun _ _ permitted => permitted.2
  have copied : Copied pool.shared flight.data := holds.thread 0 _ reads
  have unforgeable : Unforgeable Sample.sessionToken pool (.advance 0 .proceed) := by
    simp only [Unforgeable, reads, Attributed]
    split
    · trivial
    · rename_i packet decoded
      split
      · simp_all
      · rcases copied with ⟨creation, created, data⟩
        have token := (punches creation created).2.2
        have carried := (holds.global.1.decode_copy created data).1
        rw [token, decoded, Except.ok.injEq] at carried
        exact ⟨creation, created, token, carried.symm⟩
  have permitted : Forwarding Sample.sessionToken pool (.advance 0 .proceed) := ⟨unforgeable, trivial⟩
  rcases poised_succeeds holds.global.1 punches reads present waiting id secret copied permitted
      (fun _ _ _ found isCall =>
        ⟨(@undisturbed_of_isCall 7 _ _ _ _ _ found isCall).1, forwards_of_isCall found isCall⟩) with
    ⟨events, finish, later, arrivals, after, found, sameSide, sameID, sameToken, returned⟩
  refine ⟨_, finish, run.append later, fun names => ?_⟩
  rcases names 2 after found sameID sameToken _ _ returned with
    ⟨one, arrived, _, creation, _, sender, _⟩
  rw [arrivals, sameSide, side] at arrived
  have stranger := strangers one arrived
  simp [sender] at stranger

end Rdpulse.Punch.UDPPunch
