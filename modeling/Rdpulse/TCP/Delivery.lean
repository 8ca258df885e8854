import Rdpulse.TCP.Steps

namespace Rdpulse.TCP

open Foundation Pipes Protocol

/-! # What the tunnels deliver

The handlers of all the programs join connections to chains, from mstsc to an RDP service.
Whatever the interleaving, and whatever fails on the way, each chain keeps the bytes of its
own two users apart from all others and in order. -/

variable (deployment : Deployment)

def Attributed (pool : NetworkPool) : Prop :=
  ∀ e other place, holder pool.shared.pipes e = some other →
    placeOf pool.shared.pipes e.pipe = some place →
    ∃ thread, pool.threads[other]? = some thread ∧ Holds deployment thread e place

def outline : Program.Outline Network Thread where
  global pool := Silent pool.shared.pipes ∧ Attributed deployment pool
  assertion self pool thread := Known deployment pool.shared.pipes self thread

section Outline

variable {deployment} {self other : Nat} {before after : Pipes PipeInfo} {thread next bystander : Thread}

theorem Known.frame (known : Known deployment before other bystander)
    (advance : Advance deployment self before after thread next) (apart : other ≠ self) :
    Known deployment after other bystander := by
  have untouched {e : End} (held : holder before e = some other) : Untouched before after e := by
    refine advance.bytes e (infos_of_holder held) ?_
    rw [held]
    exact fun same => apart (Option.some.inj same)
  cases bystander with
  | visitor place => exact known
  | service agent => exact known
  | faults => exact known
  | accepting place => exact known
  | user e => exact advance.holder _ _ known
  | single place accepted point =>
      rcases known with ⟨handled, held, placed, reached⟩
      exact ⟨handled, advance.holder _ _ held, advance.place _ _ placed,
        reached.frame (untouched held)⟩
  | double place accepted opened point =>
      rcases known with ⟨handled, first, second, placed, onwards, reached⟩
      exact ⟨handled, advance.holder _ _ first, advance.holder _ _ second,
        advance.place _ _ placed, advance.place _ _ onwards,
        reached.frame (untouched first) (untouched second)⟩

theorem Silent.advance (silent : Silent before)
    (advance : Advance deployment self before after thread next) : Silent after := by
  intro e bound free
  by_cases old : e.pipe < before.infos.length
  · have unheld : holder before e = none := by
      cases held : holder before e with
      | none => rfl
      | some owner =>
          rw [advance.holder e owner held] at free
          cases free
    have untouched := advance.bytes e old (by simp [unheld])
    rw [untouched.1, untouched.2]
    exact silent e old unheld
  · exact advance.newborn e (by omega) bound

theorem known_of_entry {pipes : Pipes PipeInfo} (enters : entry thread = true) :
    Known deployment pipes self thread := by
  cases thread with
  | visitor place => cases place <;> simp_all [entry, Known, Visited]
  | accepting place => cases place <;> simp_all [entry, Known, IsRDP]
  | service agent => trivial
  | faults => trivial
  | user e => cases enters
  | single place accepted point => cases enters
  | double place accepted opened point => cases enters

theorem outline_valid : (outline deployment).Valid (program deployment) Machine.Unrestricted where
  started pool thread holds enters _ := by
    refine ⟨⟨holds.global.1, fun e owner place held found => ?_⟩, known_of_entry enters⟩
    rcases holds.global.2 e owner place held found with ⟨owning, present, owns⟩
    exact ⟨owning, Pool.start_old present thread, owns⟩
  undisturbedByStart pool thread other bystander holds _ _ found := holds.thread other bystander found
  sequential pool self thread choice shared next holds present _ taken := by
    have advance := step_advance holds.global.1 (holds.thread self thread present) taken
    refine ⟨⟨holds.global.1.advance advance, fun e owner place held found => ?_⟩, advance.known⟩
    rcases advance.gained e owner place held found with ⟨before, there⟩ | ⟨rfl, gains⟩
    · rcases holds.global.2 e owner place before there with ⟨owning, known, owns⟩
      by_cases own : owner = self
      · subst own
        rw [present] at known
        cases known
        exact ⟨next, Pool.update_self present shared next, advance.same e place owns⟩
      · exact ⟨owning, (Pool.update_other pool own shared next).trans known, owns⟩
    · exact ⟨next, Pool.update_self present shared next, gains⟩
  interferenceFree pool self thread choice shared next other bystander holds present _ taken
      different found :=
    (holds.thread other bystander found).frame
      (step_advance holds.global.1 (holds.thread self thread present) taken) different

theorem outline_initial : (outline deployment).Holds initialPool where
  global := by
    constructor
    · intro e bound
      cases bound
    · intro e other place held
      cases held
  thread self thread present := by simp [initialPool] at present

end Outline

/-! ## Places -/

/-- The Agent whose RDP service a connection to this place is meant for. -/
def destination : Place → Nat
  | .publicPort agent | .agent agent | .rdp agent => agent
  | .localPort controller | .relay controller => deployment.target controller

def hops : Place → Nat
  | .localPort _ => 3
  | .publicPort _ | .relay _ => 2
  | .agent _ => 1
  | .rdp _ => 0

theorem destination_onward (place : Place) :
    destination deployment (onward deployment place) = destination deployment place := by
  cases place <;> rfl

theorem hops_onward {place : Place} (handled : ¬IsRDP place) :
    hops (onward deployment place) + 1 = hops place := by
  cases place with
  | rdp agent => exact absurd trivial handled
  | _ => rfl

theorem not_visited_onward (place : Place) : ¬Visited (onward deployment place) := by
  cases place <;> exact id

theorem hops_le (place : Place) : hops place ≤ 3 := by
  cases place <;> simp [hops]

/-! ## Chains of connections -/

section Chains

variable {deployment} {pool : NetworkPool}

def Serves (pool : NetworkPool) (accepted opened : Nat) : Prop :=
  ∃ (self : Nat) (place : Place) (point : DoublePoint), pool.threads[self]? =
    some (.double place accepted opened point)

def skipOf (pipes : Pipes PipeInfo) (index : Nat) : Nat :=
  match placeOf pipes index with
  | none => 0
  | some place => skip place

theorem skipOf_eq {pipes : Pipes PipeInfo} {index : Nat} {place : Place}
    (placed : placeOf pipes index = some place) : skipOf pipes index = skip place := by
  simp only [skipOf, placed]

theorem toldPayload_eq_nil {pipes : Pipes PipeInfo} {e : End} {place : Place}
    (placed : placeOf pipes e.pipe = some place) (short : (pipes.told e).length ≤ skip place) :
    toldPayload pipes (skipOf pipes) e = [] := by
  rw [toldPayload, skipOf_eq placed]
  exact List.drop_eq_nil_of_le short

theorem DoubleKnown.short {pipes : Pipes PipeInfo} {place : Place} {accepted opened : Nat}
    {point : DoublePoint} (known : DoubleKnown deployment pipes place accepted opened point) :
    (∃ splice caller, point = .proxying splice caller) ∨
      ((pipes.told (acceptedEnd accepted)).length ≤ skip place ∧
        (pipes.told (openedEnd opened)).length ≤ skip (onward deployment place)) := by
  cases point with
  | writeOpen call =>
      rcases known with ⟨here, there, told, _, _, asked⟩
      have stopped := stopped_asking here there told asked
      exact .inr ⟨stopped.toldAccepted, stopped.toldOpened⟩
  | readAnswer got =>
      rcases known with ⟨here, there, told, _, _, _, asked⟩
      have stopped := stopped_asking here there told asked
      exact .inr ⟨stopped.toldAccepted, stopped.toldOpened⟩
  | writeOK call =>
      rcases known with ⟨here, there, told, _, consented⟩
      have stopped := stopped_answering here there told consented
      exact .inr ⟨stopped.toldAccepted, stopped.toldOpened⟩
  | proxying splice caller => exact .inl ⟨splice, caller, rfl⟩
  | leaving ops => exact .inr ⟨known.toldAccepted, known.toldOpened⟩

theorem joined_of_double {pipes : Pipes PipeInfo} {self : Nat} {place : Place}
    {accepted opened : Nat} {point : DoublePoint}
    (known : Known deployment pipes self (.double place accepted opened point)) :
    Joined pipes (skipOf pipes) accepted opened := by
  rcases known with ⟨_, _, _, placed, onwards, reached⟩
  rcases reached.short with ⟨splice, caller, rfl⟩ | ⟨first, second⟩
  · rcases reached with ⟨origin, carries, greeted⟩
    rcases wiring_ends deployment place accepted opened with ⟨one, two⟩ | ⟨one, two⟩
    · have passes := carries.payloads one two greeted.toldAccepted greeted.heardAccepted
        greeted.toldOpened greeted.heardOpened
      constructor
      · rw [toldPayload, heardPayload, skipOf_eq placed, skipOf_eq onwards]
        exact passes.1
      · rw [toldPayload, heardPayload, skipOf_eq placed, skipOf_eq onwards]
        exact passes.2
    · have passes := carries.payloads one two greeted.toldOpened greeted.heardOpened
        greeted.toldAccepted greeted.heardAccepted
      constructor
      · rw [toldPayload, heardPayload, skipOf_eq placed, skipOf_eq onwards]
        exact passes.2
      · rw [toldPayload, heardPayload, skipOf_eq placed, skipOf_eq onwards]
        exact passes.1
  · have nothingOut : toldPayload pipes (skipOf pipes) ⟨opened, .near⟩ = [] :=
      toldPayload_eq_nil onwards second
    have nothingHome : toldPayload pipes (skipOf pipes) ⟨accepted, .far⟩ = [] :=
      toldPayload_eq_nil placed first
    constructor
    · rw [nothingOut]
      exact List.nil_prefix
    · rw [nothingHome]
      exact List.nil_prefix

/-! ## Where the chains begin and end -/

theorem exists_accepted (holds : (outline deployment).Holds pool) {index : Nat} {place : Place}
    (placed : placeOf pool.shared.pipes index = some place) (handled : ¬Visited place) :
    ∃ accepted served, Serves pool accepted index ∧
      placeOf pool.shared.pipes accepted = some served ∧ onward deployment served = place ∧
      ¬IsRDP served := by
  rcases Option.map_eq_some_iff.mp placed with ⟨info, found, _⟩
  have held : holder pool.shared.pipes (openedEnd index) = some info.opener := by
    simp only [holder, openedEnd, found]
  rcases holds.global.2 (openedEnd index) info.opener place held placed with
    ⟨thread, present, owns⟩
  have known := holds.thread info.opener thread present
  cases thread with
  | user e =>
      rcases owns with ⟨_, visited⟩
      exact absurd visited handled
  | single served accepted point =>
      rcases owns with ⟨wrong, _⟩
      exact absurd wrong.symm (acceptedEnd_ne_openedEnd accepted index)
  | double served accepted opened point =>
      rcases owns with ⟨wrong, _⟩ | ⟨same, onwards⟩
      · exact absurd wrong.symm (acceptedEnd_ne_openedEnd accepted index)
      · cases same
        exact ⟨accepted, served, ⟨info.opener, served, point, present⟩, known.2.2.2.1,
          onwards.symm, known.1⟩
  | visitor place => exact owns.elim
  | service agent => exact owns.elim
  | faults => exact owns.elim
  | accepting place => exact owns.elim

/-- Every connection goes back to one that mstsc has made. -/
theorem exists_visit (holds : (outline deployment).Holds pool) {index : Nat} {place : Place}
    (placed : placeOf pool.shared.pipes index = some place) :
    ∃ visit origin, placeOf pool.shared.pipes visit = some origin ∧ Visited origin ∧
      destination deployment origin = destination deployment place ∧
      Relation.ReflTransGen (Serves pool) visit index := by
  induction left : 3 - hops place using Nat.strong_induction_on generalizing index place with
  | _ left induction =>
      by_cases visited : Visited place
      · exact ⟨index, place, placed, visited, rfl, .refl⟩
      · rcases exists_accepted holds placed visited with ⟨accepted, served, serves, at_, rfl, handled⟩
        have nearer := hops_onward deployment handled
        have bound := hops_le served
        rcases induction (3 - hops served) (by omega) at_ rfl with
          ⟨visit, origin, from_, was, meant, chain⟩
        exact ⟨visit, origin, from_, was, meant.trans (destination_onward deployment served).symm,
          chain.tail serves⟩

theorem joined_of_serves (holds : (outline deployment).Holds pool) {accepted opened : Nat}
    (serves : Serves pool accepted opened) :
    Joined pool.shared.pipes (skipOf pool.shared.pipes) accepted opened := by
  rcases serves with ⟨self, place, point, present⟩
  exact joined_of_double (holds.thread self _ present)

theorem SingleKnown.short {pipes : Pipes PipeInfo} {place : Place} {accepted : Nat}
    {point : SinglePoint} (known : SingleKnown pipes place accepted point) :
    (pipes.told (acceptedEnd accepted)).length ≤ skip place := by
  have silent (told : pipes.told (acceptedEnd accepted) = []) :
      (pipes.told (acceptedEnd accepted)).length ≤ skip place := by
    rw [told]
    exact Nat.zero_le _
  have refusing {hdr : TCPHeader} {rest : Bytes} (headed : skip place = tcpHeaderSize)
      (told : pipes.told (acceptedEnd accepted) ++ rest = (errorHeader hdr).encode) :
      (pipes.told (acceptedEnd accepted)).length ≤ skip place := by
    rw [headed]
    exact Nat.le_trans (length_le_of_append told) (Nat.le_of_eq (TCPHeader.encode_length _))
  cases point with
  | checking => exact silent known.2.1
  | opening => exact silent known.2.1
  | readOpen got => exact silent known.2.1
  | dialing hdr => exact silent known.2.1
  | writeError call =>
      rcases known with ⟨headed, hdr, told⟩
      exact refusing headed told
  | leaving ops =>
      rcases known with told | ⟨headed, hdr, rest, told⟩
      · exact silent told
      · exact refusing headed told

theorem exists_opened (holds : (outline deployment).Holds pool) {index : Nat} {place : Place}
    (placed : placeOf pool.shared.pipes index = some place) (handled : ¬IsRDP place)
    (told : toldPayload pool.shared.pipes (skipOf pool.shared.pipes) ⟨index, .far⟩ ≠ []) :
    ∃ opened, Serves pool index opened ∧
      placeOf pool.shared.pipes opened = some (onward deployment place) ∧
      toldPayload pool.shared.pipes (skipOf pool.shared.pipes) ⟨opened, .far⟩ ≠ [] := by
  rcases Option.map_eq_some_iff.mp placed with ⟨info, found, _⟩
  have bound := (List.getElem?_eq_some_iff.mp found).1
  cases held : holder pool.shared.pipes (acceptedEnd index) with
  | none =>
      have silent := (holds.global.1 (acceptedEnd index) bound held).1
      refine absurd ?_ told
      rw [toldPayload, show (⟨index, .far⟩ : End) = acceptedEnd index from rfl, silent,
        List.drop_nil]
  | some owner =>
      rcases holds.global.2 (acceptedEnd index) owner place held placed with
        ⟨thread, present, owns⟩
      have known := holds.thread owner thread present
      cases thread with
      | user e =>
          rcases owns with ⟨_, served⟩
          exact absurd served handled
      | single served accepted point =>
          rcases owns with ⟨same, rfl⟩
          cases same
          exact absurd (toldPayload_eq_nil (e := acceptedEnd index) placed
            known.2.2.2.short) told
      | double served accepted opened point =>
          rcases owns with ⟨same, rfl⟩ | ⟨wrong, _⟩
          · cases same
            refine ⟨opened, ⟨owner, place, point, present⟩, known.2.2.2.2.1, ?_⟩
            -- What was written here has been read there, so it has been written there.
            intro nothing
            have through := (joined_of_double known).back.trans
              (heardPayload_isPrefix pool.shared.pipes (skipOf pool.shared.pipes)
                ⟨opened, .far⟩)
            rw [nothing] at through
            exact told (List.prefix_nil.mp through)
          · exact absurd wrong (acceptedEnd_ne_openedEnd index opened)
      | visitor place => exact owns.elim
      | service agent => exact owns.elim
      | faults => exact owns.elim
      | accepting place => exact owns.elim

theorem exists_service (holds : (outline deployment).Holds pool) {index : Nat} {place : Place}
    (placed : placeOf pool.shared.pipes index = some place)
    (told : toldPayload pool.shared.pipes (skipOf pool.shared.pipes) ⟨index, .far⟩ ≠ []) :
    ∃ service, placeOf pool.shared.pipes service = some (.rdp (destination deployment place)) ∧
      Relation.ReflTransGen (Serves pool) index service := by
  induction left : hops place using Nat.strong_induction_on generalizing index place with
  | _ left induction =>
      by_cases arrived : IsRDP place
      · cases place with
        | rdp agent => exact ⟨index, placed, .refl⟩
        | publicPort agent => exact arrived.elim
        | localPort controller => exact arrived.elim
        | relay controller => exact arrived.elim
        | agent agent => exact arrived.elim
      · rcases exists_opened holds placed arrived told with ⟨opened, serves, onwards, passed⟩
        have nearer := hops_onward deployment arrived
        rcases induction (hops (onward deployment place)) (by omega) onwards passed rfl with
          ⟨service, served, chain⟩
        rw [destination_onward] at served
        exact ⟨service, served, .head serves chain⟩

theorem Serves.opened_unique (holds : (outline deployment).Holds pool) :
    Relator.RightUnique (Serves pool) := by
  rintro accepted opened other ⟨self, place, point, present⟩ ⟨also, place', point', found⟩
  have first := (holds.thread self _ present).2.1
  have second := (holds.thread also _ found).2.1
  rw [first] at second
  cases second
  rw [present] at found
  cases found
  rfl

theorem Serves.accepted_unique (holds : (outline deployment).Holds pool) :
    Relator.RightUnique (Function.swap (Serves pool)) := by
  rintro opened accepted other ⟨self, place, point, present⟩ ⟨also, place', point', found⟩
  have first := (holds.thread self _ present).2.2.1
  have second := (holds.thread also _ found).2.2.1
  rw [first] at second
  cases second
  rw [present] at found
  cases found
  rfl

end Chains

/-! ## Tunnels -/

structure Tunnel (pool : NetworkPool) (visit service agent : Nat) : Prop where
  visited : ∃ place, placeOf pool.shared.pipes visit = some place ∧ Visited place ∧
    destination deployment place = agent
  served : placeOf pool.shared.pipes service = some (.rdp agent)
  chain : Relation.ReflTransGen (Serves pool) visit service

section Tunnels

variable {deployment} {pool : NetworkPool}

theorem exists_tunnel (holds : (outline deployment).Holds pool) {service agent : Nat}
    (served : placeOf pool.shared.pipes service = some (.rdp agent)) :
    ∃ visit, Tunnel deployment pool visit service agent := by
  rcases exists_visit holds served with ⟨visit, origin, placed, visited, meant, chain⟩
  exact ⟨visit, ⟨origin, placed, visited, meant⟩, served, chain⟩

theorem skip_visited {place : Place} (visited : Visited place) : skip place = 0 := by
  cases place with
  | publicPort agent => rfl
  | localPort controller => rfl
  | relay controller => exact visited.elim
  | agent agent => exact visited.elim
  | rdp agent => exact visited.elim

theorem Tunnel.bytes (holds : (outline deployment).Holds pool) {visit service agent : Nat}
    (tunnel : Tunnel deployment pool visit service agent) :
    (pool.shared.pipes.heard ⟨service, .far⟩).IsPrefix (pool.shared.pipes.told ⟨visit, .near⟩) ∧
      (pool.shared.pipes.heard ⟨visit, .near⟩).IsPrefix
        (pool.shared.pipes.told ⟨service, .far⟩) := by
  rcases tunnel.visited with ⟨place, placed, visited, _⟩
  have joined := Relation.ReflTransGen.mono (fun _ _ serves => joined_of_serves holds serves)
    _ _ tunnel.chain
  have through := chain_isPrefix joined
  have start : skipOf pool.shared.pipes visit = 0 :=
    (skipOf_eq placed).trans (skip_visited visited)
  have arrived : skipOf pool.shared.pipes service = 0 := skipOf_eq tunnel.served
  simpa only [heardPayload, toldPayload, start, arrived, List.drop_zero] using through

theorem Tunnel.last (holds : (outline deployment).Holds pool) {visit service agent next : Nat}
    (tunnel : Tunnel deployment pool visit service agent) (serves : Serves pool service next) :
    False := by
  rcases serves with ⟨self, place, point, present⟩
  rcases holds.thread self _ present with ⟨handled, _, _, placed, _⟩
  rw [tunnel.served] at placed
  cases placed
  exact handled trivial

theorem Tunnel.first (holds : (outline deployment).Holds pool) {visit service agent before : Nat}
    (tunnel : Tunnel deployment pool visit service agent) (serves : Serves pool before visit) :
    False := by
  rcases tunnel.visited with ⟨origin, at_, visited, _⟩
  rcases serves with ⟨self, place, point, present⟩
  have onwards := (holds.thread self _ present).2.2.2.2.1
  rw [at_] at onwards
  cases onwards
  exact not_visited_onward deployment place visited

/-- In every state that the system can reach, every connection to an RDP service belongs to a
tunnel from a connection that mstsc has made to this very Agent, and every connection of mstsc
that has received anything to a tunnel to the Agent that it was meant for. What the RDP
service has received is a prefix of what mstsc has sent through its tunnel, and the other way
round. -/
theorem bytes_of_tunnels {events : List (PoolEvent Thread Choice)}
    (run : (program deployment).machine.Run Machine.Unrestricted initialPool events pool) :
    (∀ visit service agent, Tunnel deployment pool visit service agent →
      (pool.shared.pipes.heard ⟨service, .far⟩).IsPrefix
          (pool.shared.pipes.told ⟨visit, .near⟩) ∧
        (pool.shared.pipes.heard ⟨visit, .near⟩).IsPrefix
          (pool.shared.pipes.told ⟨service, .far⟩)) ∧
      (∀ service agent, placeOf pool.shared.pipes service = some (.rdp agent) →
        ∃ visit, Tunnel deployment pool visit service agent) ∧
      ∀ visit place, placeOf pool.shared.pipes visit = some place → Visited place →
        pool.shared.pipes.heard ⟨visit, .near⟩ ≠ [] →
        ∃ service, Tunnel deployment pool visit service (destination deployment place) := by
  have holds := outline_valid.run outline_initial run
  refine ⟨fun visit service agent tunnel => tunnel.bytes holds,
    fun service agent served => exists_tunnel holds served,
    fun visit place placed visited received => ?_⟩
  have sent : toldPayload pool.shared.pipes (skipOf pool.shared.pipes) ⟨visit, .far⟩ ≠ [] := by
    intro nothing
    rw [toldPayload, skipOf_eq placed, skip_visited visited, List.drop_zero] at nothing
    have passed := pool.shared.pipes.heard_isPrefix ⟨visit, .far⟩
    rw [nothing] at passed
    exact received (List.prefix_nil.mp passed)
  rcases exists_service holds placed sent with ⟨service, served, chain⟩
  exact ⟨service, ⟨place, placed, visited, rfl⟩, served, chain⟩

def oneAgent : Deployment where
  target := fun _ => 0
  controllerCarrier := fun _ => .quic
  agentCarrier := fun _ => .quic
  window := 100

/-- mstsc connects to the public port, and its first bytes reach the RDP service. The four
threads are numbered from `thread`, and the three connections from `pipe`. -/
def visitEvents (thread pipe : Nat) (bytes : Bytes) : List (PoolEvent Thread Choice) :=
  [.spawn (.visitor (.publicPort 0)), .advance thread .go,
    .spawn (.accepting (.publicPort 0)), .advance (thread + 1) (.accept pipe),
    .advance (thread + 1) (.answer true), .advance (thread + 1) (.answer true),
    .advance (thread + 1) (.io .go), .advance (thread + 1) (.io (.write 8)),
    .spawn (.accepting (.agent 0)), .advance (thread + 2) (.accept (pipe + 1)),
    .advance (thread + 2) (.io (.read 8 none)), .advance (thread + 2) (.answer true),
    .advance (thread + 2) (.io .go), .advance (thread + 2) (.io (.write 8)),
    .advance (thread + 1) (.io (.read 8 none)),
    .spawn (.service 0), .advance (thread + 3) (.accept (pipe + 2)),
    .advance thread (.send bytes),
    .advance (thread + 1) (.splice (.back (.read bytes.length none))),
    .advance (thread + 1) (.splice (.back .go)),
    .advance (thread + 1) (.splice (.back (.write bytes.length))),
    .advance (thread + 2) (.splice (.forth (.read bytes.length none))),
    .advance (thread + 2) (.splice (.forth .go)),
    .advance (thread + 2) (.splice (.forth (.write bytes.length))),
    .advance (thread + 3) (.receive bytes.length)]

theorem bytes_of_tunnels_visit :
    ∃ pool visit, (program oneAgent).machine.Run Machine.Unrestricted initialPool
        (visitEvents 0 0 [1, 2, 3]) pool ∧
      pool.shared.pipes.heard ⟨2, .far⟩ = [1, 2, 3] ∧ Tunnel oneAgent pool visit 2 0 ∧
      (pool.shared.pipes.heard ⟨2, .far⟩).IsPrefix (pool.shared.pipes.told ⟨visit, .near⟩) := by
  rcases Machine.exists_run (program oneAgent).machine Machine.Unrestricted
      (fun pool => pool.shared.pipes.heard ⟨2, .far⟩ = [1, 2, 3] ∧
        placeOf pool.shared.pipes 2 = some (.rdp 0))
      initialPool (visitEvents 0 0 [1, 2, 3]) (by decide +kernel) with ⟨pool, run, heard, placed⟩
  have delivered := bytes_of_tunnels run
  rcases delivered.2.1 2 0 placed with ⟨visit, tunnel⟩
  exact ⟨pool, visit, run, heard, tunnel, (delivered.1 visit 2 0 tunnel).1⟩

/-- No two tunnels meet: two of them begin with the same connection of mstsc exactly if they
end with the same connection to an RDP service. -/
theorem tunnels_apart {events : List (PoolEvent Thread Choice)}
    (run : (program deployment).machine.Run Machine.Unrestricted initialPool events pool)
    {visit service agent other also another : Nat}
    (tunnel : Tunnel deployment pool visit service agent)
    (second : Tunnel deployment pool other also another) : visit = other ↔ service = also := by
  have holds := outline_valid.run outline_initial run
  constructor
  · rintro rfl
    rcases tunnel.chain.total_of_right_unique (Serves.opened_unique holds) second.chain with
      onwards | onwards
    · rcases onwards.cases_head with same | ⟨next, serves, _⟩
      · exact same
      · exact (tunnel.last holds serves).elim
    · rcases onwards.cases_head with same | ⟨next, serves, _⟩
      · exact same.symm
      · exact (second.last holds serves).elim
  · rintro rfl
    have home := Relation.reflTransGen_swap.mpr tunnel.chain
    have way := Relation.reflTransGen_swap.mpr second.chain
    rcases home.total_of_right_unique (Serves.accepted_unique holds) way with back | back
    · rcases back.cases_head with same | ⟨before, serves, _⟩
      · exact same
      · exact (tunnel.first holds serves).elim
    · rcases back.cases_head with same | ⟨before, serves, _⟩
      · exact same.symm
      · exact (second.first holds serves).elim

/-- Two visits. -/
theorem tunnels_apart_visits :
    ∃ pool visit other, (program oneAgent).machine.Run Machine.Unrestricted initialPool
        (visitEvents 0 0 [1, 2, 3] ++ visitEvents 4 3 [4]) pool ∧
      Tunnel oneAgent pool visit 2 0 ∧ Tunnel oneAgent pool other 5 0 ∧ visit ≠ other := by
  rcases Machine.exists_run (program oneAgent).machine Machine.Unrestricted
      (fun pool => placeOf pool.shared.pipes 2 = some (.rdp 0) ∧
        placeOf pool.shared.pipes 5 = some (.rdp 0))
      initialPool (visitEvents 0 0 [1, 2, 3] ++ visitEvents 4 3 [4]) (by decide +kernel) with
    ⟨pool, run, first, second⟩
  have holds := outline_valid.run outline_initial run
  rcases exists_tunnel holds first with ⟨visit, tunnel⟩
  rcases exists_tunnel holds second with ⟨other, also⟩
  have apart := tunnels_apart run tunnel also
  exact ⟨pool, visit, other, run, tunnel, also, fun same => by cases apart.mp same⟩

end Tunnels

/-! ## The counters -/

section Counters

variable {deployment} {pool : NetworkPool} {place : Place} {accepted opened : Nat}

theorem Greeted.ends {origin : Pipes PipeInfo} (greeted : Greeted deployment origin place accepted opened)
    {pipes : Pipes PipeInfo} (placed : placeOf pipes accepted = some place)
    (onwards : placeOf pipes opened = some (onward deployment place)) {e : End}
    (own : e = acceptedEnd accepted ∨ e = openedEnd opened) :
    (origin.told e).length = skipOf pipes e.pipe ∧ (origin.heard e).length = skipOf pipes e.pipe := by
  rcases own with rfl | rfl
  · rw [show (acceptedEnd accepted).pipe = accepted from rfl, skipOf_eq placed]
    exact ⟨greeted.toldAccepted, greeted.heardAccepted⟩
  · rw [show (openedEnd opened).pipe = opened from rfl, skipOf_eq onwards]
    exact ⟨greeted.toldOpened, greeted.heardOpened⟩

/-- `BytesIn` and `BytesOut` of a `Proxy` count, as far as an `int64` can, what the handler
has read of the payload at either end. Whoever copies, at most one buffer of this has not
been written at the other end. -/
theorem copying_counted {events : List (PoolEvent Thread Choice)}
    (run : (program deployment).machine.Run Machine.Unrestricted initialPool events pool)
    {self : Nat} {splice : Splice} {caller : CallerPoint}
    (present : pool.threads[self]? = some (.double place accepted opened (.proxying splice caller))) :
    let ends := wiring deployment place accepted opened
    let heard := fun e => (heardPayload pool.shared.pipes (skipOf pool.shared.pipes) e).length
    let told := fun e => (toldPayload pool.shared.pipes (skipOf pool.shared.pipes) e).length
    (∀ counters, stats place splice = some counters →
      counters.bytesIn = int64 (heard ends.one) ∧ counters.bytesOut = int64 (heard ends.two)) ∧
      (told ends.two ≤ heard ends.one ∧ heard ends.one ≤ told ends.two + proxyBufferSize) ∧
      told ends.one ≤ heard ends.two ∧ heard ends.two ≤ told ends.one + proxyBufferSize := by
  have holds := outline_valid.run outline_initial run
  rcases holds.thread self _ present with ⟨_, _, _, placed, onwards, origin, carries, greeted⟩
  have sized : (wiring deployment place accepted opened).size = proxyBufferSize := by
    cases place <;> rfl
  have own : ((wiring deployment place accepted opened).one = acceptedEnd accepted ∨
        (wiring deployment place accepted opened).one = openedEnd opened) ∧
      ((wiring deployment place accepted opened).two = acceptedEnd accepted ∨
        (wiring deployment place accepted opened).two = openedEnd opened) := by
    rcases wiring_ends deployment place accepted opened with ⟨one, two⟩ | ⟨one, two⟩
    · exact ⟨.inl one, .inr two⟩
    · exact ⟨.inr one, .inl two⟩
  have one := greeted.ends placed onwards own.1
  have two := greeted.ends placed onwards own.2
  have forth := carries.forth.bounds
  have back := carries.back.bounds
  simp only [Wiring.forth, Wiring.back, sized, one, two] at forth back
  simp only [heardPayload, toldPayload, List.length_drop]
  refine ⟨fun counters counts => ?_, by omega, by omega⟩
  have counted : counters = proxyStats splice := by
    cases place with
    | relay controller => cases counts
    | _ => exact (Option.some.inj counts).symm
  have readOne : splice.forth.count = (pool.shared.pipes.heard
      (wiring deployment place accepted opened).one).length - skipOf pool.shared.pipes
        (wiring deployment place accepted opened).one.pipe := by omega
  have readTwo : splice.back.count = (pool.shared.pipes.heard
      (wiring deployment place accepted opened).two).length - skipOf pool.shared.pipes
        (wiring deployment place accepted opened).two.pipe := by omega
  rw [counted]
  simp only [proxyStats, readOne, readTwo, and_self]

def visitSplice : Splice where
  forth := .start
  back := ⟨.reading, 3⟩
  results := []
  owner := .awaitFirst

theorem copying_counted_visit :
    ∃ pool : NetworkPool, (program oneAgent).machine.Run Machine.Unrestricted initialPool
        (visitEvents 0 0 [1, 2, 3]) pool ∧
      (proxyStats visitSplice).bytesOut =
        int64 (heardPayload pool.shared.pipes (skipOf pool.shared.pipes) (acceptedEnd 0)).length := by
  rcases Machine.exists_run (program oneAgent).machine Machine.Unrestricted
      (fun pool => pool.threads[1]? =
        some (Thread.double (.publicPort 0) 0 1 (.proxying visitSplice .waiting)))
      initialPool (visitEvents 0 0 [1, 2, 3]) (by decide +kernel) with ⟨pool, run, present⟩
  exact ⟨pool, run, ((copying_counted run present).1 _ rfl).2⟩

end Counters

/-! ## The agreement before the copying -/

section Agreement

variable {deployment} {pool : NetworkPool} {pipes : Pipes PipeInfo} {place : Place}
  {accepted opened : Nat}

theorem wiring_own (place : Place) (accepted opened : Nat) :
    (acceptedEnd accepted = (wiring deployment place accepted opened).one ∨
        acceptedEnd accepted = (wiring deployment place accepted opened).two) ∧
      (openedEnd opened = (wiring deployment place accepted opened).one ∨
        openedEnd opened = (wiring deployment place accepted opened).two) := by
  rcases wiring_ends deployment place accepted opened with ⟨one, two⟩ | ⟨one, two⟩
  · exact ⟨.inl one.symm, .inr two.symm⟩
  · exact ⟨.inr two.symm, .inl one.symm⟩

theorem DoubleKnown.answering {point : DoublePoint}
    (known : DoubleKnown deployment pipes place accepted opened point)
    (headed : skip place = tcpHeaderSize) :
    ∃ hdr : TCPHeader, hdr.type = tcpTypeOpen ∧
      hdr.encode.IsPrefix (pipes.heard (acceptedEnd accepted)) ∧
      ((pipes.told (acceptedEnd accepted)).IsPrefix (okHeader hdr).encode ∨
        (okHeader hdr).encode.IsPrefix (pipes.told (acceptedEnd accepted))) := by
  have partly {rest : Bytes} (consented : Consented pipes accepted rest) :
      ∃ hdr : TCPHeader, hdr.type = tcpTypeOpen ∧
        hdr.encode.IsPrefix (pipes.heard (acceptedEnd accepted)) ∧
        ((pipes.told (acceptedEnd accepted)).IsPrefix (okHeader hdr).encode ∨
          (okHeader hdr).encode.IsPrefix (pipes.told (acceptedEnd accepted))) := by
    rcases consented with ⟨hdr, opens, heard, told⟩
    exact ⟨hdr, opens, by rw [heard], .inl ⟨rest, told⟩⟩
  cases point with
  | writeOpen call =>
      rw [known.1] at headed
      cases headed
  | readAnswer got =>
      rw [known.1] at headed
      cases headed
  | writeOK call => exact partly known.2.2.2.2
  | proxying splice caller =>
      rcases known with ⟨origin, carries, greeted⟩
      rcases greeted.answers headed with ⟨hdr, opens, heard, told⟩
      have grown := carries.grown (wiring_own place accepted opened).1
      rw [List.append_nil] at told
      rw [heard, told] at grown
      exact ⟨hdr, opens, grown.2, .inr grown.1⟩
  | leaving ops =>
      rcases known.answers headed with ⟨rest, consented⟩
      exact partly consented

theorem header_eq {first second : TCPHeader} {told : Bytes} (whole : first.encode.IsPrefix told)
    (other : told.IsPrefix second.encode ∨ second.encode.IsPrefix told) : first = second := by
  have sized : first.encode.length = second.encode.length := by
    rw [TCPHeader.encode_length, TCPHeader.encode_length]
  apply TCPHeader.encode_injective
  rcases other with inside | front
  · exact (whole.trans inside).eq_of_length sized
  · exact (List.prefix_of_prefix_length_le whole front (Nat.le_of_eq sized)).eq_of_length sized

/-- Only a handler that has a connection to its RDP service answers with OPEN_OK, and it
answers the header it was asked with. -/
theorem exists_answering (holds : (outline deployment).Holds pool) {index agent : Nat}
    (placed : placeOf pool.shared.pipes index = some (.agent agent)) {answer : TCPHeader}
    (consents : answer.type = tcpTypeOpenOK)
    (told : answer.encode.IsPrefix (pool.shared.pipes.told ⟨index, .far⟩)) :
    ∃ (answerer service : Nat) (point : DoublePoint) (hdr : TCPHeader),
      pool.threads[answerer]? = some (.double (.agent agent) index service point) ∧
        hdr.encode.IsPrefix (pool.shared.pipes.heard ⟨index, .far⟩) ∧ answer = okHeader hdr := by
  have said : pool.shared.pipes.told (acceptedEnd index) ≠ [] := by
    intro nothing
    rw [show (⟨index, .far⟩ : End) = acceptedEnd index from rfl, nothing] at told
    have empty := congrArg List.length (List.prefix_nil.mp told)
    rw [TCPHeader.encode_length] at empty
    cases empty
  rcases Option.map_eq_some_iff.mp placed with ⟨info, found, _⟩
  have bound := (List.getElem?_eq_some_iff.mp found).1
  cases held : holder pool.shared.pipes (acceptedEnd index) with
  | none => exact absurd (holds.global.1 (acceptedEnd index) bound held).1 said
  | some owner =>
      rcases holds.global.2 (acceptedEnd index) owner _ held placed with ⟨thread, present, owns⟩
      have known := holds.thread owner thread present
      cases thread with
      | user e => exact owns.2.elim
      | single served accepted point =>
          rcases owns with ⟨same, rfl⟩
          cases same
          -- It may have refused, but a refusal is no consent.
          have refusing {hdr : TCPHeader} {rest : Bytes}
              (part : pool.shared.pipes.told (acceptedEnd index) ++ rest =
                (errorHeader hdr).encode) : False := by
            have same := header_eq told (.inl ⟨rest, part⟩)
            rw [same] at consents
            cases consents
          have point_ := known.2.2.2
          cases point with
          | checking => exact absurd point_.2.1 said
          | opening => exact absurd point_.2.1 said
          | readOpen got => exact absurd point_.2.1 said
          | dialing hdr => exact absurd point_.2.1 said
          | writeError call =>
              rcases point_ with ⟨_, hdr, part⟩
              exact (refusing part).elim
          | leaving ops =>
              rcases point_ with silent | ⟨_, hdr, rest, part⟩
              · exact absurd silent said
              · exact (refusing part).elim
      | double served accepted opened point =>
          rcases owns with ⟨same, rfl⟩ | ⟨wrong, _⟩
          · cases same
            rcases known.2.2.2.2.2.answering rfl with ⟨hdr, _, heard, answered⟩
            exact ⟨owner, opened, point, hdr, present, heard, header_eq told answered⟩
          · exact absurd wrong (acceptedEnd_ne_openedEnd index opened)
      | visitor place => exact owns.elim
      | service agent => exact owns.elim
      | faults => exact owns.elim
      | accepting place => exact owns.elim

/-- Where the Relay copies into a stream to an Agent, a handler of this Agent has accepted
this very stream, has connected to its RDP service, and has answered the Relay's header with
the connection ID that it has read there. -/
theorem copying_agreed {events : List (PoolEvent Thread Choice)}
    (run : (program deployment).machine.Run Machine.Unrestricted initialPool events pool)
    {self agent : Nat} {splice : Splice} {caller : CallerPoint}
    (present : pool.threads[self]? = some (.double place accepted opened (.proxying splice caller)))
    (asks : onward deployment place = .agent agent) :
    ∃ (connID : UInt32) (answerer service : Nat) (point : DoublePoint),
      (openHeader connID).encode.IsPrefix (pool.shared.pipes.told ⟨opened, .near⟩) ∧
        (okHeader (openHeader connID)).encode.IsPrefix (pool.shared.pipes.told ⟨opened, .far⟩) ∧
        pool.threads[answerer]? = some (.double (.agent agent) opened service point) ∧
        placeOf pool.shared.pipes service = some (.rdp agent) := by
  have holds := outline_valid.run outline_initial run
  rcases holds.thread self _ present with ⟨_, _, _, _, onwards, origin, carries, greeted⟩
  rw [asks] at onwards
  have grown := carries.grown (wiring_own place accepted opened).2
  rcases greeted.asks (by rw [asks]; rfl) with ⟨⟨connID, asked⟩, answer, consents, read⟩
  rw [List.append_nil] at asked
  rw [asked, read] at grown
  -- The answer that the Relay has read is what the Agent has written.
  have told : answer.encode.IsPrefix (pool.shared.pipes.told ⟨opened, .far⟩) :=
    grown.2.trans (pool.shared.pipes.heard_isPrefix ⟨opened, .far⟩)
  rcases exists_answering holds onwards consents told with
    ⟨answerer, service, point, hdr, answering, heard, rfl⟩
  have same : hdr = openHeader connID :=
    header_eq (heard.trans (pool.shared.pipes.heard_isPrefix ⟨opened, .near⟩)) (.inr grown.1)
  subst same
  exact ⟨connID, answerer, service, point, grown.1, told, answering,
    (holds.thread answerer _ answering).2.2.2.2.1⟩

theorem copying_agreed_visit :
    ∃ (pool : NetworkPool) (connID : UInt32) (answerer service : Nat) (point : DoublePoint),
      (program oneAgent).machine.Run Machine.Unrestricted initialPool
        (visitEvents 0 0 [1, 2, 3]) pool ∧
      (openHeader connID).encode.IsPrefix (pool.shared.pipes.told ⟨1, .near⟩) ∧
      (okHeader (openHeader connID)).encode.IsPrefix (pool.shared.pipes.told ⟨1, .far⟩) ∧
      pool.threads[answerer]? = some (Thread.double (.agent 0) 1 service point) := by
  rcases Machine.exists_run (program oneAgent).machine Machine.Unrestricted
      (fun pool => pool.threads[1]? =
        some (Thread.double (.publicPort 0) 0 1 (.proxying visitSplice .waiting)))
      initialPool (visitEvents 0 0 [1, 2, 3]) (by decide +kernel) with ⟨pool, run, present⟩
  rcases copying_agreed run present rfl with
    ⟨connID, answerer, service, point, asked, answered, answering, _⟩
  exact ⟨pool, connID, answerer, service, point, run, asked, answered, answering⟩

end Agreement

end Rdpulse.TCP
