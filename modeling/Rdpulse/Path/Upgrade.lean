import Rdpulse.Path.Effects

namespace Rdpulse.Path

open Foundation

/-! # Direct upgrades are not lost

Whether the paths selected by `SetDirectTCP` and `SetDirectUDP` survive the
relay timer. `SetDirectUDP` and `SetQUICRelay` exclude each other through the
mutex; `SetDirectTCP` takes no mutex, so its store can fall between the load
and the store of `tcpPath` in `SetQUICRelay`. -/

/-- Once a `SetDirectTCP` has returned on an open manager, TCP is direct. -/
def TCPUpgradeKept (pool : ManagerPool) : Prop :=
  pool.shared.closed = false → ∀ isLAN,
    Thread.setDirectTCP isLAN .returned ∈ pool.threads →
      pool.shared.tcpPath.isDirectTCP = true

def NotFallbackStore (pool : ManagerPool) : PoolEvent Thread Choice → Prop
  | .spawn _ => True
  | .advance self _ => ∀ thread, pool.threads[self]? = some thread →
      thread.storesFallback = false

/-- From the return of a `SetDirectUDP` on, UDP stays direct on an open manager
for as long as no `FallbackUDPFromDirect` stores. `pool` is where the call
returns. -/
def UDPUpgradeKept (pool : ManagerPool) : Prop :=
  ∀ self choice res isLAN returned later final,
    pool.threads[self]? = some (.setDirectUDP (some res) isLAN .unlock) →
    program.machine.step pool (.advance self choice) = some returned →
    program.machine.Run NotFallbackStore returned later final →
    final.shared.closed = false →
    final.shared.udpPath.isDirectUDP = true

/-- No store of `SetDirectTCP` falls between the load of `tcpPath` in
`SetQUICRelay` and the store that the load decided on. -/
def NoStoreInsideRelayCheck (pool : ManagerPool) : PoolEvent Thread Choice → Prop
  | .spawn _ => True
  | .advance self _ => ∀ isLAN,
      pool.threads[self]? = some (.setDirectTCP isLAN .store) →
        Thread.setQUICRelay .storeTCP ∉ pool.threads

/-! ## TCP -/

def TCPKnown (manager : Manager) : Thread → Prop
  | .setDirectTCP _ .notify | .setDirectTCP _ .returned =>
      manager.closed = true ∨ manager.tcpPath.isDirectTCP = true
  | .setQUICRelay .storeTCP => manager.tcpPath.isDirectTCP = false
  | _ => True

def tcpOutline : Program.Outline Manager Thread where
  global _ := True
  assertion _ pool thread := TCPKnown pool.shared thread

theorem TCPKnown.mono {manager moved : Manager} {thread : Thread}
    (before : TCPKnown manager thread) (path : moved.tcpPath = manager.tcpPath)
    (closed : manager.closed = true → moved.closed = true) : TCPKnown moved thread := by
  unfold TCPKnown at before ⊢
  split <;> grind

theorem TCPKnown.step {self : Nat} {manager moved : Manager} {thread next : Thread}
    {choice : Choice} (before : TCPKnown manager thread)
    (taken : step self manager thread choice = some (moved, next)) :
    TCPKnown moved next := by
  cases thread with
  | setDirectTCP isLAN point =>
      cases point <;>
        grind [Path.step, stepSetDirectTCP, Manager.notifyPathChanged, TCPKnown,
          PathType.isDirectTCP]
  | setQUICRelay point =>
      cases point <;>
        grind [Path.step, stepSetQUICRelay, Manager.lock, TCPKnown, PathType.isDirectTCP]
  | cancelContext cancelled =>
      cases cancelled
      · cases taken
        trivial
      · cases taken
  | _ =>
      simp only [Path.step, Option.map_eq_some_iff] at taken
      rcases taken with ⟨after, _, equal⟩
      cases equal
      trivial

theorem TCPKnown.entry {manager : Manager} {thread : Thread}
    (enters : entry thread = true) : TCPKnown manager thread := by
  cases thread <;> grind [Path.entry, TCPKnown]

theorem TCPKnown.of_direct {manager : Manager} {thread : Thread}
    (direct : manager.tcpPath.isDirectTCP = true)
    (outside : thread ≠ .setQUICRelay .storeTCP) : TCPKnown manager thread := by
  unfold TCPKnown
  split
  · exact .inr direct
  · exact .inr direct
  · exact absurd rfl outside
  · trivial

/-- A store made while TCP is not direct takes nothing from a thread that could
only rely on the manager being closed. -/
theorem TCPKnown.of_not_direct {manager moved : Manager} {thread : Thread}
    (before : TCPKnown manager thread) (was : manager.tcpPath.isDirectTCP = false)
    (now : moved.tcpPath.isDirectTCP = false)
    (closed : manager.closed = true → moved.closed = true) : TCPKnown moved thread := by
  unfold TCPKnown at before ⊢
  split <;> simp_all

theorem tcpOutline_valid : tcpOutline.Valid program NoStoreInsideRelayCheck where
  started _ _ _ enters _ := ⟨trivial, TCPKnown.entry enters⟩
  undisturbedByStart _ _ other bystander holds _ _ found :=
    holds.thread other bystander found
  sequential _ self thread _ _ _ holds present _ taken :=
    ⟨trivial, (holds.thread self thread present).step taken⟩
  interferenceFree pool self thread choice shared next other bystander holds present
      permitted taken different found := by
    have theirs : TCPKnown pool.shared bystander := holds.thread other bystander found
    have own : TCPKnown pool.shared thread := holds.thread self thread present
    have closed : pool.shared.closed = true → shared.closed = true := step_closed taken
    change TCPKnown shared bystander
    rcases step_tcpPath taken with kept | ⟨isLAN, rfl, direct⟩ | rfl
    · exact theirs.mono kept closed
    · -- No `SetQUICRelay` is inside its check while `SetDirectTCP` stores.
      have outside := permitted isLAN present
      exact .of_direct direct fun equal => outside (equal ▸ Pool.mem_of_getElem? found)
    · cases taken
      exact theirs.of_not_direct own rfl closed

theorem tcpUpgradeKept_of_run {relayTransport : Option RelayTransport} {p2pCodec : Bool}
    {events : List (PoolEvent Thread Choice)} {pool : ManagerPool}
    (run : program.machine.Run NoStoreInsideRelayCheck
      (initialPool relayTransport p2pCodec) events pool) : TCPUpgradeKept pool := by
  have holds := tcpOutline_valid.run
    ⟨trivial, fun self thread present => by simp [initialPool] at present⟩ run
  intro opened isLAN returned
  rcases List.getElem_of_mem returned with ⟨self, bound, equal⟩
  have present : pool.threads[self]? = some (.setDirectTCP isLAN .returned) := by
    rw [List.getElem?_eq_getElem bound, equal]
  rcases holds.thread self _ present with closed | direct
  · simp [opened] at closed
  · exact direct

/-! ## UDP -/

def UDPKnown (manager : Manager) : Thread → Prop
  | .setDirectUDP _ _ .notify | .setDirectUDP _ _ .unlock =>
      manager.closed = true ∨ manager.udpPath.isDirectUDP = true
  | .setQUICRelay .storeUDP => manager.udpPath = .unknown
  | _ => True

def udpOutline : Program.Outline Manager Thread where
  global _ := True
  assertion _ pool thread := UDPKnown pool.shared thread

theorem UDPKnown.mono {manager moved : Manager} {thread : Thread}
    (before : UDPKnown manager thread) (path : moved.udpPath = manager.udpPath)
    (closed : manager.closed = true → moved.closed = true) : UDPKnown moved thread := by
  unfold UDPKnown at before ⊢
  split <;> grind

theorem UDPKnown.step {self : Nat} {manager moved : Manager} {thread next : Thread}
    {choice : Choice} (before : UDPKnown manager thread)
    (taken : step self manager thread choice = some (moved, next)) :
    UDPKnown moved next := by
  cases thread with
  | setDirectUDP res isLAN point =>
      cases point <;>
        grind [Path.step, stepSetDirectUDP, Manager.lock, Manager.unlock, Manager.closePunch,
          Manager.notifyPathChanged, UDPKnown, PathType.isDirectUDP]
  | setQUICRelay point =>
      cases point <;> grind [Path.step, stepSetQUICRelay, Manager.lock, UDPKnown]
  | cancelContext cancelled =>
      cases cancelled
      · cases taken
        trivial
      · cases taken
  | _ =>
      simp only [Path.step, Option.map_eq_some_iff] at taken
      rcases taken with ⟨after, _, equal⟩
      cases equal
      trivial

theorem UDPKnown.entry {manager : Manager} {thread : Thread}
    (enters : entry thread = true) : UDPKnown manager thread := by
  cases thread <;> grind [Path.entry, UDPKnown]

theorem UDPKnown.outside {manager : Manager} {thread : Thread}
    (free : thread.holdsLock = false) : UDPKnown manager thread := by
  unfold UDPKnown
  split <;> simp_all [Thread.holdsLock]

theorem holdsLock_of_udpStore {thread : Thread}
    (stores : (∃ res isLAN, thread = .setDirectUDP res isLAN .store) ∨
      thread = .setQUICRelay .storeUDP ∨ thread.storesFallback = true) :
    thread.holdsLock = true := by
  rcases stores with ⟨res, isLAN, rfl⟩ | rfl | stores
  · rfl
  · rfl
  · unfold Thread.storesFallback at stores
    split at stores <;> simp_all [Thread.holdsLock, FallbackPoint.holdsLock]

theorem udpOutline_valid : udpOutline.Valid program
    (fun pool event => Machine.Unrestricted pool event ∧ mutexOutline.Holds pool) where
  started _ _ _ enters _ := ⟨trivial, UDPKnown.entry enters⟩
  undisturbedByStart _ _ other bystander holds _ _ found :=
    holds.thread other bystander found
  sequential _ self thread _ _ _ holds present _ taken :=
    ⟨trivial, (holds.thread self thread present).step taken⟩
  interferenceFree pool self thread choice shared next other bystander holds present
      permitted taken different found := by
    have theirs : UDPKnown pool.shared bystander := holds.thread other bystander found
    have excluded : thread.holdsLock = true → bystander.holdsLock = false := by
      intro held
      by_contra both
      have mine := permitted.2.thread self thread present held
      have yours := permitted.2.thread other bystander found (by simpa using both)
      exact different (Option.some.inj (yours.symm.trans mine))
    change UDPKnown shared bystander
    rcases step_udpPath taken with kept | ⟨res, isLAN, rfl, _⟩ | ⟨stores, _⟩
    · exact theirs.mono kept (step_closed taken)
    · exact UDPKnown.outside (excluded rfl)
    · exact UDPKnown.outside (excluded (holdsLock_of_udpStore (.inr stores)))

theorem mutexOutline_of_run {relayTransport : Option RelayTransport} {p2pCodec : Bool}
    {allowed : ManagerPool → PoolEvent Thread Choice → Prop}
    {events : List (PoolEvent Thread Choice)} {pool : ManagerPool}
    (run : program.machine.Run allowed (initialPool relayTransport p2pCodec) events pool) :
    mutexOutline.Holds pool :=
  (mutexOutline_valid allowed).run (mutexOutline_initial relayTransport p2pCodec) run

theorem udpOutline_of_run {relayTransport : Option RelayTransport} {p2pCodec : Bool}
    {allowed : ManagerPool → PoolEvent Thread Choice → Prop}
    {events : List (PoolEvent Thread Choice)} {pool : ManagerPool}
    (run : program.machine.Run allowed (initialPool relayTransport p2pCodec) events pool) :
    udpOutline.Holds pool := by
  have known : program.machine.Run
      (fun state event => Machine.Unrestricted state event ∧ mutexOutline.Holds state)
      (initialPool relayTransport p2pCodec) events pool :=
    (run.weaken fun _ _ _ => trivial).strengthen fun _ _ reached =>
      mutexOutline_of_run reached
  exact udpOutline_valid.run
    ⟨trivial, fun self thread present => by simp [initialPool] at present⟩ known

/-- Only a fallback's store takes UDP off a direct path. -/
theorem udpPath_stays_direct {pool next : ManagerPool} {event : PoolEvent Thread Choice}
    (known : udpOutline.Holds pool) (direct : pool.shared.udpPath.isDirectUDP = true)
    (notFallback : NotFallbackStore pool event)
    (step : program.machine.step pool event = some next) :
    next.shared.udpPath.isDirectUDP = true := by
  rcases Program.step_cases step with
    ⟨thread, rfl, _, rfl⟩ | ⟨self, choice, thread, shared, moved, rfl, present, taken, rfl⟩
  · exact direct
  · have own : UDPKnown pool.shared thread := known.thread self thread present
    rw [Pool.update_shared]
    rcases step_udpPath taken with kept | ⟨_, _, _, stored⟩ | ⟨rfl | stores, _⟩
    · rw [kept]
      exact direct
    · exact stored
    · have unset : pool.shared.udpPath = .unknown := own
      simp [unset, PathType.isDirectUDP] at direct
    · simp [notFallback thread present] at stores

theorem machine_step_closed {pool next : ManagerPool} {event : PoolEvent Thread Choice}
    (closed : pool.shared.closed = true)
    (step : program.machine.step pool event = some next) : next.shared.closed = true := by
  rcases Program.step_cases step with
    ⟨thread, rfl, _, rfl⟩ | ⟨self, choice, thread, shared, moved, rfl, _, taken, rfl⟩
  · exact closed
  · exact step_closed taken closed

theorem udpUpgradeKept_of_run {relayTransport : Option RelayTransport} {p2pCodec : Bool}
    {allowed : ManagerPool → PoolEvent Thread Choice → Prop}
    {events : List (PoolEvent Thread Choice)} {pool : ManagerPool}
    (run : program.machine.Run allowed (initialPool relayTransport p2pCodec) events pool) :
    UDPUpgradeKept pool := by
  intro self choice res isLAN returned later final present returning suffix opened
  have known : UDPKnown pool.shared (.setDirectUDP (some res) isLAN .unlock) :=
    (udpOutline_of_run run).thread self _ present
  have returnedOpen : returned.shared.closed ≠ true := fun closed => by
    have finallyClosed := suffix.preserves closed fun _ _ _ was _ step =>
      machine_step_closed was step
    simp [opened] at finallyClosed
  have direct : pool.shared.udpPath.isDirectUDP = true :=
    known.resolve_left fun closed => returnedOpen (machine_step_closed closed returning)
  have first : returned.shared.udpPath.isDirectUDP = true := by
    refine udpPath_stays_direct (udpOutline_of_run run) direct ?_ returning
    intro thread found
    rw [present] at found
    cases found
    rfl
  have toReturn : program.machine.Run Machine.Unrestricted
      (initialPool relayTransport p2pCodec) (events ++ [.advance self choice]) returned :=
    (run.weaken fun _ _ _ => trivial).snoc trivial returning
  have known : program.machine.Run
      (fun state event => NotFallbackStore state event ∧ udpOutline.Holds state)
      returned later final :=
    suffix.strengthen fun past middle reached =>
      udpOutline_of_run (toReturn.append (reached.weaken fun _ _ _ => trivial))
  exact known.preserves first fun middle event next directThere permitted step =>
    udpPath_stays_direct permitted.2 directThere permitted.1 step

/-! ## Both upgrades -/

instance (pool : ManagerPool) (event : PoolEvent Thread Choice) :
    Decidable (NoStoreInsideRelayCheck pool event) :=
  match event with
  | .spawn _ => isTrue trivial
  | .advance self _ =>
      inferInstanceAs (Decidable (∀ isLAN,
        pool.threads[self]? = some (.setDirectTCP isLAN .store) →
          Thread.setQUICRelay .storeTCP ∉ pool.threads))

/-- Where no `SetDirectTCP` stores inside the check of a `SetQUICRelay`, neither
kind of direct upgrade is lost. -/
theorem direct_upgrades_kept (relayTransport : Option RelayTransport) (p2pCodec : Bool)
    (events : List (PoolEvent Thread Choice)) (pool : ManagerPool)
    (run : program.machine.Run NoStoreInsideRelayCheck
      (initialPool relayTransport p2pCodec) events pool) :
    TCPUpgradeKept pool ∧ UDPUpgradeKept pool :=
  ⟨tcpUpgradeKept_of_run run, udpUpgradeKept_of_run run⟩

/-- The relay timer fires, and the TCP probe succeeds once the relay is
selected. -/
def relayThenProbe : List (PoolEvent Thread Choice) :=
  .spawn (.setQUICRelay .lock) :: List.replicate 7 (.advance 0 .proceed) ++
    .spawn (.setDirectTCP false .loadClosed) :: List.replicate 3 (.advance 1 .proceed)

theorem direct_upgrades_kept_after_relay :
    ∃ pool, Thread.setDirectTCP false .returned ∈ pool.threads ∧
      TCPUpgradeKept pool ∧ UDPUpgradeKept pool := by
  rcases Machine.exists_run program.machine NoStoreInsideRelayCheck
      (fun pool => Thread.setDirectTCP false .returned ∈ pool.threads)
      (initialPool (some ⟨true⟩) true) relayThenProbe (by decide) with
    ⟨pool, run, returned⟩
  exact ⟨pool, returned, direct_upgrades_kept _ _ _ _ run⟩

/-- The TCP probe succeeds between the two actions of the relay timer's check. -/
def probeInsideRelayCheck : List (PoolEvent Thread Choice) :=
  .spawn (.setQUICRelay .lock) :: List.replicate 2 (.advance 0 .proceed) ++
    .spawn (.setDirectTCP false .loadClosed) :: List.replicate 3 (.advance 1 .proceed) ++
      [.advance 0 .proceed]

theorem direct_tcp_upgrade_lost :
    ∃ events pool, program.machine.Run Machine.Unrestricted
        (initialPool (some ⟨true⟩) true) events pool ∧
      ¬ TCPUpgradeKept pool := by
  rcases Machine.exists_run program.machine Machine.Unrestricted
      (fun pool => pool.shared.closed = false ∧
        Thread.setDirectTCP false .returned ∈ pool.threads ∧ pool.shared.tcpPath = .relay)
      (initialPool (some ⟨true⟩) true) probeInsideRelayCheck
      (by decide) with
    ⟨pool, run, opened, returned, relay⟩
  refine ⟨_, pool, run, fun kept => ?_⟩
  have direct := kept opened false returned
  simp [relay, PathType.isDirectTCP] at direct

end Rdpulse.Path
