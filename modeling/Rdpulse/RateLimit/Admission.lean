import Rdpulse.Foundation.Conservation
import Rdpulse.RateLimit.Accounting

namespace Rdpulse.RateLimit.Admission

open Foundation Protocol

/-! # Who is let in

The loops that accept connections: `acceptLoop` of the TLS listener, `acceptDirectTCP` of the
Agent, `StartTCPClientListener` and `runControllerStreamLoop` of the Relay. Each asks a guard,
then takes a place in a channel of a fixed size, and starts a goroutine that gives both back.
Loops may share a guard. -/

/-- What a loop asks for. `capacity` is that of its channel. -/
structure Loop where
  guarded : Bool
  capacity : Option Nat
  deriving DecidableEq, Repr

/-- The arguments of `NewIPGuard`, and the loops with this guard. -/
structure Service where
  maxConcurrent : Int
  maxPerWindow : Int
  window : Int
  loops : Nat → Loop

def acceptLoop : Service where
  maxConcurrent := 16
  maxPerWindow := 60
  window := Clock.minute
  loops _ := { guarded := true, capacity := some 128 }

def maxConcurrentDirectTCPHandshakes : Nat := 64

def acceptDirectTCP : Service where
  maxConcurrent := 8
  maxPerWindow := 30
  window := Clock.minute
  loops _ := { guarded := true, capacity := some maxConcurrentDirectTCPHandshakes }

/-- `StartTCPClientListener` with `handleTCPClient`, for all the Agents of a Relay: they share
one guard, with limits from the configuration. -/
def startTCPClientListener (maxPublicTCPPerIP maxPublicTCPRatePerSecond : Int) : Service where
  maxConcurrent := if maxPublicTCPPerIP ≤ 0 then 32 else maxPublicTCPPerIP
  maxPerWindow := if maxPublicTCPRatePerSecond ≤ 0 then 20 else maxPublicTCPRatePerSecond
  window := Clock.second
  loops _ := { guarded := true, capacity := none }

def maxConcurrentStreams : Nat := 128

/-- `runControllerStreamLoop` with `handleControllerRelayStream`, one loop for each Controller.
There is no guard to ask. -/
def runControllerStreamLoop : Service where
  maxConcurrent := 0
  maxPerWindow := 0
  window := 0
  loops _ := { guarded := false, capacity := some maxConcurrentStreams }

/-- A connection on its way through a loop; `grant` is the number of the function that
`Acquire` returned for it. -/
structure Visit where
  loop : Nat
  addr : Option GoString
  grant : Option Nat
  deriving DecidableEq, Repr

inductive AcceptorPoint
  | accepting
  | acquiring (visit : Visit)
  | entering (visit : Visit)
  /-- There was no place. -/
  | backingOut (visit : Visit)
  | closing
  | launching (visit : Visit)
  | stopped
  deriving DecidableEq, Repr

inductive HandlerPoint
  | waiting
  | serving (visit : Visit)
  | releasing (visit : Visit)
  | leaving (visit : Visit)
  | returned
  deriving DecidableEq, Repr

inductive Thread
  | acceptor (loop : Nat) (point : AcceptorPoint)
  | handler (point : HandlerPoint)
  deriving DecidableEq, Repr

/-- `places` is the length of each loop's channel, `launched` has the goroutines that have not
run yet. -/
structure Hall where
  traffic : Traffic
  places : Nat → Nat
  launched : List Visit

def Hall.initial (service : Service) (clock : Int) : Hall where
  traffic :=
    .initial (newIPGuard service.maxConcurrent service.maxPerWindow service.window) clock
  places _ := 0
  launched := []

/-- What is left to the outside: who connects, when a handler is done, what the clock says. -/
inductive Choice
  | proceed
  | connection (addr : Option GoString)
  | failed
  | now (time : Int)
  deriving DecidableEq, Repr

/-- `Acquire`, and the number of the function that it returned. -/
def acquire (traffic : Traffic) (addr : Option GoString) (now : Int) : Traffic × Option Nat :=
  (traffic.acquire true addr now,
    (traffic.guard.acquire true addr now).2.map fun _ => traffic.releases.length)

def release (traffic : Traffic) (grant : Option Nat) (now : Int) : Traffic :=
  match grant.bind fun index => traffic.releases[index]? with
  | some function => traffic.release (grant.getD 0) function now
  | none => traffic

def stepAcceptor (service : Service) (loop : Nat) (hall : Hall) (choice : Choice) :
    AcceptorPoint → Option (Hall × AcceptorPoint)
  | .accepting =>
      match choice with
      | .connection addr =>
          if (service.loops loop).guarded then some (hall, .acquiring ⟨loop, addr, none⟩)
          else some (hall, .entering ⟨loop, addr, none⟩)
      | .failed => some (hall, .stopped)
      | _ => none
  | .acquiring visit =>
      match choice with
      | .now time =>
          match acquire hall.traffic visit.addr time with
          | (traffic, some index) =>
              some ({ hall with traffic }, .entering { visit with grant := some index })
          | (traffic, none) => some ({ hall with traffic }, .closing)
      | _ => none
  | .entering visit =>
      match (service.loops loop).capacity with
      | none => some (hall, .launching visit)
      | some capacity =>
          if hall.places loop < capacity then
            some ({ hall with
              places := Function.update hall.places loop (hall.places loop + 1) },
              .launching visit)
          else some (hall, .backingOut visit)
  | .backingOut visit =>
      match choice with
      | .now time =>
          some ({ hall with traffic := release hall.traffic visit.grant time }, .closing)
      | _ => none
  | .closing => some (hall, .accepting)
  | .launching visit => some ({ hall with launched := hall.launched ++ [visit] }, .accepting)
  | .stopped => none

/-- The deferred calls of a handler run in the order opposite to theirs in the code. -/
def stepHandler (service : Service) (hall : Hall) (choice : Choice) :
    HandlerPoint → Option (Hall × HandlerPoint)
  | .waiting =>
      match hall.launched with
      | visit :: rest => some ({ hall with launched := rest }, .serving visit)
      | [] => none
  | .serving visit => some (hall, .releasing visit)
  | .releasing visit =>
      match choice with
      | .now time =>
          some ({ hall with traffic := release hall.traffic visit.grant time }, .leaving visit)
      | _ => none
  | .leaving visit =>
      match (service.loops visit.loop).capacity with
      | none => some (hall, .returned)
      | some _ =>
          if hall.places visit.loop = 0 then none
          else
            some ({ hall with
              places := Function.update hall.places visit.loop (hall.places visit.loop - 1) },
              .returned)
  | .returned => none

def step (service : Service) (hall : Hall) (thread : Thread) (choice : Choice) :
    Option (Hall × Thread) :=
  match thread with
  | .acceptor loop point =>
      (stepAcceptor service loop hall choice point).map fun (hall, next) =>
        (hall, .acceptor loop next)
  | .handler point =>
      (stepHandler service hall choice point).map fun (hall, next) => (hall, .handler next)

def program (service : Service) : Program Hall Thread Choice where
  entry
    | .acceptor _ point => point = .accepting
    | .handler point => point = .waiting
  step _ := step service

abbrev HallPool := Pool Hall Thread

def initialPool (service : Service) (clock : Int) : HallPool where
  shared := .initial service clock
  threads := []

/-! ## The guard, whatever the clock says -/

section Guard

variable {traffic : Traffic} {guard : IPGuard}

def activeOf (guard : IPGuard) (key : GoString) : Int :=
  ((guard.entries key).map Entry.active).getD 0

structure Balanced (configured : IPGuard) (traffic : Traffic) : Prop where
  maxConcurrent : traffic.guard.maxConcurrent = configured.maxConcurrent
  active : ∀ key, activeOf traffic.guard key = traffic.outstanding key
  limited : ∀ key, activeOf traffic.guard key ≤ configured.maxConcurrent

theorem activeOf_put (guard : IPGuard) (key other : GoString) (e : Entry) :
    activeOf (guard.put key e) other = if other = key then e.active else activeOf guard other := by
  by_cases same : other = key
  · subst same
    simp [activeOf]
  · simp [activeOf, IPGuard.put_entries_ne _ same, same]

theorem activeOf_enter (guard : IPGuard) (sweeping : Bool) (now : Int) (key : GoString) :
    activeOf (guard.enter sweeping now) key = activeOf guard key := by
  rcases guard.enter_entries sweeping key now with kept | ⟨forgotten, e, entry, idle⟩
  · simp [activeOf, kept]
  · have none : e.active = 0 := by
      simp only [IPGuard.idle, Bool.and_eq_true, beq_iff_eq] at idle
      exact idle.1
    simp [activeOf, forgotten, entry, none]

theorem current_active (guard : IPGuard) (key : GoString) (now : Int) :
    (guard.current key now).active = activeOf guard key := by
  simp only [IPGuard.current, activeOf]
  cases guard.entries key with
  | none => simp
  | some e =>
      simp only [Option.getD_some, Option.map_some]
      split <;> rfl

variable {configured : IPGuard}

theorem Balanced.acquire (balanced : Balanced configured traffic) (addr : Option GoString)
    (now : Int) :
    (∃ after, acquire traffic addr now = (after, some traffic.releases.length) ∧
      after.releases = traffic.releases ++ [⟨addressKey addr, false⟩] ∧
      Balanced configured after) ∨
    ∃ after, acquire traffic addr now = (after, none) ∧ after.releases = traffic.releases ∧
      Balanced configured after := by
  have active (key : GoString) : activeOf (traffic.guard.enter true now) key =
      traffic.outstanding key := by
    rw [activeOf_enter]
    exact balanced.active key
  have limit : (traffic.guard.enter true now).maxConcurrent = configured.maxConcurrent := by
    rw [IPGuard.enter_maxConcurrent, balanced.maxConcurrent]
  have limited (key : GoString) : activeOf (traffic.guard.enter true now) key ≤
      configured.maxConcurrent := by
    rw [activeOf_enter]
    exact balanced.limited key
  simp only [Admission.acquire, Traffic.acquire, IPGuard.acquire]
  generalize traffic.guard.enter true now = guard at *
  generalize addressKey addr = key at *
  rcases guard.grant_cases key now with ⟨free, _, equal⟩ | equal <;> rw [equal]
  · refine .inl ⟨_, rfl, rfl, limit, fun other => ?_, fun other => ?_⟩
    · rw [outstanding_append, activeOf_put, current_active]
      by_cases same : other = key
      · subst same
        simp [active other]
      · simp [same, Ne.symm same, active other]
    · rw [activeOf_put]
      split
      · rw [limit] at free
        exact free
      · exact limited other
  · have unchanged (other : GoString) : activeOf (guard.put key { guard.current key now with
        lastSeen := now }) other = activeOf guard other := by
      rw [activeOf_put, current_active]
      split
      · rename_i same
        rw [same]
      · rfl
    refine .inr ⟨_, rfl, rfl, limit, fun other => ?_, fun other => ?_⟩
    · exact (unchanged other).trans (active other)
    · exact (unchanged other).le.trans (limited other)

theorem Balanced.release (balanced : Balanced configured traffic) {index : Nat} {key : GoString}
    (held : traffic.releases[index]? = some ⟨key, false⟩) (now : Int) :
    (release traffic (some index) now).releases = traffic.releases.set index ⟨key, true⟩ ∧
      Balanced configured (release traffic (some index) now) := by
  have counted (guard : IPGuard) (other : GoString) := outstanding_set held rfl guard other now
  simp only at counted
  have positive : 0 < activeOf traffic.guard key := by
    have own := counted traffic.guard key
    rw [if_pos rfl] at own
    rw [balanced.active key]
    omega
  have entry : ∃ e, traffic.guard.entries key = some e ∧ e.active = activeOf traffic.guard key := by
    simp only [activeOf] at positive ⊢
    cases entry : traffic.guard.entries key with
    | none => simp [entry] at positive
    | some e => exact ⟨e, rfl, by simp⟩
  rcases entry with ⟨e, entry, active⟩
  simp only [Admission.release, Option.bind_some, held, Option.getD_some, Traffic.release,
    Bool.false_eq_true, if_false, IPGuard.release, entry, active, if_pos positive]
  refine ⟨trivial, balanced.maxConcurrent, fun other => ?_, fun other => ?_⟩
  · have own := counted (traffic.guard.put key { e with
      active := activeOf traffic.guard key - 1, lastSeen := now }) other
    have before := balanced.active other
    rw [activeOf_put]
    by_cases same : other = key
    · subst same
      rw [if_pos rfl] at own ⊢
      dsimp only
      omega
    · rw [if_neg (Ne.symm same)] at own
      rw [if_neg same]
      omega
  · rw [activeOf_put]
    have limited := balanced.limited
    split
    · have own := limited key
      dsimp only
      omega
    · exact limited other

end Guard

/-! ## Who holds what -/

def granted : Thread → Option Visit
  | .acceptor _ (.entering visit) | .acceptor _ (.backingOut visit)
  | .acceptor _ (.launching visit) => some visit
  | .handler (.serving visit) | .handler (.releasing visit) => some visit
  | _ => none

def seated : Thread → Option Visit
  | .acceptor _ (.launching visit) => some visit
  | .handler (.serving visit) | .handler (.releasing visit) | .handler (.leaving visit) =>
      some visit
  | _ => none

def share (of : Thread → Option Visit) (counts : Visit → Bool) (thread : Thread) : Nat :=
  ((of thread).any counts).toNat

def held (pool : HallPool) (of : Thread → Option Visit) (counts : Visit → Bool) : Nat :=
  pool.total (share of counts) + pool.shared.launched.countP counts

def Visit.grips (index : Nat) (visit : Visit) : Bool := visit.grant == some index

def Visit.isFrom (key : GoString) (visit : Visit) : Bool :=
  visit.grant.isSome && addressKey visit.addr == key

def Visit.isOf (loop : Nat) (visit : Visit) : Bool := visit.loop == loop

def unreleased (traffic : Traffic) (index : Nat) : Nat :=
  ((traffic.releases[index]?).any fun function => !function.done).toNat

def Attached : Thread → Prop
  | .acceptor loop (.acquiring visit) | .acceptor loop (.entering visit)
  | .acceptor loop (.backingOut visit) | .acceptor loop (.launching visit) => visit.loop = loop
  | _ => True

/-- What a step does to the guard, the channels and the goroutines. -/
inductive Advance (service : Service) : Hall → Thread → Hall → Thread → Prop
  | quiet {hall : Hall} {thread next : Thread} :
      (granted next = granted thread ∨
        granted thread = none ∧ ∃ visit, granted next = some visit ∧ visit.grant = none) →
      seated next = seated thread →
      Advance service hall thread hall next
  | admitted {hall : Hall} {loop : Nat} {visit : Visit} {traffic : Traffic} {index : Nat}
      {time : Int} :
      acquire hall.traffic visit.addr time = (traffic, some index) →
      Advance service hall (.acceptor loop (.acquiring visit)) { hall with traffic }
        (.acceptor loop (.entering { visit with grant := some index }))
  | refused {hall : Hall} {loop : Nat} {visit : Visit} {traffic : Traffic} {time : Int} :
      acquire hall.traffic visit.addr time = (traffic, none) →
      Advance service hall (.acceptor loop (.acquiring visit)) { hall with traffic }
        (.acceptor loop .closing)
  | seats {hall : Hall} {loop : Nat} {visit : Visit} {capacity : Nat} :
      (service.loops loop).capacity = some capacity → hall.places loop < capacity →
      Advance service hall (.acceptor loop (.entering visit))
        { hall with places := Function.update hall.places loop (hall.places loop + 1) }
        (.acceptor loop (.launching visit))
  | released {hall : Hall} {thread next : Thread} {visit : Visit} {time : Int} :
      granted thread = some visit → granted next = none → seated next = seated thread →
      Advance service hall thread
        { hall with traffic := release hall.traffic visit.grant time } next
  | launches {hall : Hall} {loop : Nat} {visit : Visit} :
      Advance service hall (.acceptor loop (.launching visit))
        { hall with launched := hall.launched ++ [visit] } (.acceptor loop .accepting)
  | runs {hall : Hall} {visit : Visit} {rest : List Visit} :
      hall.launched = visit :: rest →
      Advance service hall (.handler .waiting) { hall with launched := rest }
        (.handler (.serving visit))
  | leaves {hall : Hall} {visit : Visit} {capacity : Nat} :
      (service.loops visit.loop).capacity = some capacity → hall.places visit.loop ≠ 0 →
      Advance service hall (.handler (.leaving visit))
        { hall with
          places := Function.update hall.places visit.loop (hall.places visit.loop - 1) }
        (.handler .returned)
  /-- There is no channel in which to have a place. -/
  | unbounded {hall : Hall} {thread next : Thread} {loop : Nat} :
      (service.loops loop).capacity = none → granted next = granted thread →
      (∀ other, other ≠ loop → share seated (Visit.isOf other) next =
        share seated (Visit.isOf other) thread) →
      Advance service hall thread hall next

section Steps

variable {service : Service} {hall next : Hall} {thread moved : Thread} {choice : Choice}

theorem Attached.step (attached : Attached thread)
    (taken : step service hall thread choice = some (next, moved)) : Attached moved := by
  cases thread with
  | acceptor loop point =>
      rcases Option.map_eq_some_iff.mp taken with ⟨⟨after, reached⟩, stepped, same⟩
      cases same
      cases point <;> simp only [stepAcceptor] at stepped
      all_goals repeat' split at stepped
      all_goals cases stepped
      all_goals first | exact attached | trivial
  | handler point =>
      rcases Option.map_eq_some_iff.mp taken with ⟨after, _, same⟩
      cases same
      trivial

theorem step_advance (attached : Attached thread)
    (taken : step service hall thread choice = some (next, moved)) :
    Advance service hall thread next moved := by
  cases thread with
  | acceptor loop point =>
      rcases Option.map_eq_some_iff.mp taken with ⟨⟨after, reached⟩, stepped, same⟩
      cases same
      cases point with
      | accepting =>
          cases choice <;> simp only [stepAcceptor] at stepped <;> try cases stepped
          · split at stepped <;> cases stepped
            · exact .quiet (.inl rfl) rfl
            · exact .quiet (.inr ⟨rfl, _, rfl, rfl⟩) rfl
          · exact .quiet (.inl rfl) rfl
      | acquiring visit =>
          cases choice <;> simp only [stepAcceptor] at stepped <;> try cases stepped
          split at stepped <;> cases stepped
          · exact .admitted ‹_›
          · exact .refused ‹_›
      | entering visit =>
          simp only [stepAcceptor] at stepped
          split at stepped
          · rename_i unbounded
            cases stepped
            refine .unbounded unbounded rfl fun other apart => ?_
            have elsewhere : visit.loop ≠ other := fun same => apart (same.symm.trans attached)
            simp [share, seated, Visit.isOf, elsewhere]
          · split at stepped <;> cases stepped
            · exact .seats ‹_› ‹_›
            · exact .quiet (.inl rfl) rfl
      | backingOut visit =>
          cases choice <;> simp only [stepAcceptor] at stepped <;> try cases stepped
          exact .released rfl rfl rfl
      | closing =>
          cases stepped
          exact .quiet (.inl rfl) rfl
      | launching visit =>
          cases stepped
          exact .launches
      | stopped => cases stepped
  | handler point =>
      rcases Option.map_eq_some_iff.mp taken with ⟨⟨after, reached⟩, stepped, same⟩
      cases same
      cases point with
      | waiting =>
          simp only [stepHandler] at stepped
          split at stepped <;> cases stepped
          exact .runs ‹_›
      | serving visit =>
          cases stepped
          exact .quiet (.inl rfl) rfl
      | releasing visit =>
          cases choice <;> simp only [stepHandler] at stepped <;> try cases stepped
          exact .released rfl rfl rfl
      | leaving visit =>
          simp only [stepHandler] at stepped
          split at stepped
          · rename_i unbounded
            cases stepped
            refine .unbounded unbounded rfl fun other apart => ?_
            have elsewhere : (visit.loop == other) = false := by simpa using Ne.symm apart
            simp [share, seated, Visit.isOf, elsewhere]
          · split at stepped <;> cases stepped
            exact .leaves ‹_› ‹_›
      | returned => cases stepped

end Steps

/-! ## The accounts -/

structure Tallies (amount : Traffic → Nat) (counts : Visit → Bool) : Prop where
  unguarded : ∀ visit : Visit, visit.grant = none → counts visit = false
  unchanged : ∀ traffic after : Traffic, after.releases = traffic.releases →
    amount after = amount traffic
  acquired : ∀ (traffic after : Traffic) (visit : Visit),
    after.releases = traffic.releases ++ [⟨addressKey visit.addr, false⟩] →
    amount after =
      amount traffic + (counts { visit with grant := some traffic.releases.length }).toNat
  released : ∀ (traffic after : Traffic) (visit : Visit) (index : Nat),
    visit.grant = some index →
    traffic.releases[index]? = some ⟨addressKey visit.addr, false⟩ →
    after.releases = traffic.releases.set index ⟨addressKey visit.addr, true⟩ →
    amount after + (counts visit).toNat = amount traffic

theorem tallies_grips (index : Nat) :
    Tallies (fun traffic => unreleased traffic index) (Visit.grips index) where
  unguarded visit none := by simp [Visit.grips, none]
  unchanged traffic after same := by simp [unreleased, same]
  acquired traffic after visit same := by
    rcases Nat.lt_trichotomy index traffic.releases.length with old | rfl | later
    · have other : traffic.releases.length ≠ index := by omega
      simp [unreleased, same, Visit.grips, List.getElem?_append_left old, other]
    · simp [unreleased, same, Visit.grips]
    · have other : (traffic.releases.length == index) = false := by
        simp only [beq_eq_false_iff_ne]
        omega
      have before : traffic.releases[index]? = none := List.getElem?_eq_none (by omega)
      have now : after.releases[index]? = none := List.getElem?_eq_none (by simp [same]; omega)
      simp [unreleased, Visit.grips, before, now, other]
  released traffic after visit other grant found same := by
    rcases List.getElem?_eq_some_iff.mp found with ⟨bound, there⟩
    by_cases own : other = index
    · subst own
      simp [unreleased, same, Visit.grips, grant, bound, there]
    · simp [unreleased, same, Visit.grips, grant, own, List.getElem?_set_ne own]

theorem tallies_isFrom (key : GoString) :
    Tallies (fun traffic => traffic.outstanding key) (Visit.isFrom key) where
  unguarded visit none := by simp [Visit.isFrom, none]
  unchanged traffic after same := by simp [Traffic.outstanding, same]
  acquired traffic after visit same := by
    simp only [Traffic.outstanding, same, List.countP_append, List.countP_singleton]
    simp [Visit.isFrom, Bool.toNat, Bool.cond_eq_ite]
  released traffic after visit index grant found same := by
    have counted := outstanding_set found rfl traffic.guard key traffic.clock
    have amount : after.outstanding key =
        (traffic.releases.set index ⟨addressKey visit.addr, true⟩).countP
          fun function => function.key == key && !function.done := by
      rw [Traffic.outstanding, same]
    rw [amount, ← counted]
    simp [Traffic.outstanding, Visit.isFrom, grant, Bool.toNat, Bool.cond_eq_ite]

section Balance

variable {service : Service} {configured : IPGuard} {hall next : Hall} {thread moved : Thread}

def Visit.Holds (traffic : Traffic) (visit : Visit) : Prop :=
  ∀ index, visit.grant = some index →
    traffic.releases[index]? = some ⟨addressKey visit.addr, false⟩

theorem share_some {of : Thread → Option Visit} {visit : Visit} (holds : of thread = some visit)
    (counts : Visit → Bool) : share of counts thread = (counts visit).toNat := by
  simp [share, holds]

theorem share_none {of : Thread → Option Visit} (holds : of thread = none)
    (counts : Visit → Bool) : share of counts thread = 0 := by
  simp [share, holds]

theorem Advance.tally {amount : Traffic → Nat} {counts : Visit → Bool}
    (advance : Advance service hall thread next moved) (tallies : Tallies amount counts)
    (balanced : Balanced configured hall.traffic)
    (holds : ∀ visit, granted thread = some visit → visit.Holds hall.traffic) :
    share granted counts moved + next.launched.countP counts + amount hall.traffic =
      share granted counts thread + hall.launched.countP counts + amount next.traffic := by
  cases advance with
  | quiet grants _ =>
      rcases grants with same | ⟨none, visit, some, unguarded⟩
      · simp [share, same]
      · simp [share, none, some, tallies.unguarded visit unguarded]
  | @admitted loop visit traffic index time acquired =>
      rcases balanced.acquire visit.addr time with ⟨after, equal, releases, _⟩ | ⟨_, equal, _⟩
      · cases acquired.symm.trans equal
        have tallied := tallies.acquired hall.traffic traffic visit releases
        have before : granted (.acceptor loop (.acquiring visit)) = none := rfl
        rw [share_none before, share_some rfl]
        dsimp only
        omega
      · cases acquired.symm.trans equal
  | @refused loop visit traffic time acquired =>
      rcases balanced.acquire visit.addr time with ⟨_, equal, _⟩ | ⟨after, equal, releases, _⟩
      · cases acquired.symm.trans equal
      · cases acquired.symm.trans equal
        have before : granted (.acceptor loop (.acquiring visit)) = none := rfl
        have after : granted (.acceptor loop .closing) = none := rfl
        rw [share_none before, share_none after, tallies.unchanged _ _ releases]
  | seats => rfl
  | released grants none _ =>
      rename_i visit time _
      rw [share_some grants, share_none none]
      dsimp only
      cases grant : visit.grant with
      | none => simp [release, tallies.unguarded visit grant]
      | some index =>
          have held := holds visit grants index grant
          have releases := (balanced.release held time).1
          have tallied := tallies.released hall.traffic _ visit index grant held releases
          omega
  | @launches loop visit =>
      have before : granted (.acceptor loop (.launching visit)) = some visit := rfl
      have after : granted (.acceptor loop .accepting) = none := rfl
      rw [share_some before, share_none after, List.countP_append, List.countP_singleton]
      simp only [Bool.toNat, Bool.cond_eq_ite]
      omega
  | @runs visit rest queue =>
      have before : granted (.handler .waiting) = none := rfl
      have after : granted (.handler (.serving visit)) = some visit := rfl
      rw [share_none before, share_some after, queue, List.countP_cons]
      simp only [Bool.toNat, Bool.cond_eq_ite]
      omega
  | leaves => rfl
  | unbounded _ same _ => simp [share, same]

theorem Advance.seat {loop limit : Nat} (advance : Advance service hall thread next moved)
    (attached : Attached thread) (bounded : (service.loops loop).capacity = some limit)
    (room : hall.places loop ≤ limit) :
    share seated (Visit.isOf loop) moved + next.launched.countP (Visit.isOf loop) +
        hall.places loop =
      share seated (Visit.isOf loop) thread + hall.launched.countP (Visit.isOf loop) +
        next.places loop ∧ next.places loop ≤ limit := by
  cases advance with
  | quiet _ same => exact ⟨by simp [share, same], room⟩
  | admitted => exact ⟨rfl, room⟩
  | refused => exact ⟨rfl, room⟩
  | @seats other visit capacity known free =>
      have before : seated (.acceptor other (.entering visit)) = none := rfl
      have after : seated (.acceptor other (.launching visit)) = some visit := rfl
      have own : visit.loop = other := attached
      rw [share_none before, share_some after]
      by_cases same : loop = other
      · subst same
        cases bounded.symm.trans known
        simp [Visit.isOf, own]
        omega
      · have elsewhere : (other == loop) = false := by simpa using Ne.symm same
        simp [Visit.isOf, own, same, elsewhere, room]
  | released _ _ same => exact ⟨by simp [share, same], room⟩
  | @launches other visit =>
      have before : seated (.acceptor other (.launching visit)) = some visit := rfl
      have after : seated (.acceptor other .accepting) = none := rfl
      rw [share_some before, share_none after, List.countP_append, List.countP_singleton]
      simp only [Bool.toNat, Bool.cond_eq_ite]
      exact ⟨by omega, room⟩
  | @runs visit rest queue =>
      have before : seated (.handler .waiting) = none := rfl
      have after : seated (.handler (.serving visit)) = some visit := rfl
      rw [share_none before, share_some after, queue, List.countP_cons]
      simp only [Bool.toNat, Bool.cond_eq_ite]
      exact ⟨by omega, room⟩
  | @leaves visit capacity _ taken =>
      have before : seated (.handler (.leaving visit)) = some visit := rfl
      have after : seated (.handler .returned) = none := rfl
      rw [share_some before, share_none after]
      by_cases same : visit.loop = loop
      · subst same
        simp [Visit.isOf]
        omega
      · have elsewhere : (visit.loop == loop) = false := by simpa using same
        simp [Visit.isOf, elsewhere, Ne.symm same, room]
  | unbounded known _ same =>
      rename_i other _
      have apart : loop ≠ other := by
        rintro rfl
        rw [bounded] at known
        cases known
      exact ⟨by rw [same loop apart], room⟩

end Balance

/-! ## The outline -/

section Outline

variable {service : Service} {clock : Int}

def Service.guard (service : Service) : IPGuard :=
  newIPGuard service.maxConcurrent service.maxPerWindow service.window

def Visit.Known (traffic : Traffic) (visit : Visit) : Prop :=
  ∀ index, visit.grant = some index →
    ∃ done, traffic.releases[index]? = some ⟨addressKey visit.addr, done⟩

structure Global (service : Service) (pool : HallPool) : Prop where
  balanced : Balanced service.guard pool.shared.traffic
  grips : ∀ index, held pool granted (Visit.grips index) = unreleased pool.shared.traffic index
  grants : ∀ key, held pool granted (Visit.isFrom key) = pool.shared.traffic.outstanding key
  seats : ∀ loop limit, (service.loops loop).capacity = some limit →
    held pool seated (Visit.isOf loop) = pool.shared.places loop ∧ pool.shared.places loop ≤ limit
  launched : ∀ visit ∈ pool.shared.launched, visit.Known pool.shared.traffic

def outline (service : Service) : Program.Outline Hall Thread where
  global := Global service
  assertion _ pool thread := Attached thread ∧
    ∀ visit, granted thread = some visit → visit.Known pool.shared.traffic

theorem held_start (pool : HallPool) (thread : Thread) (of : Thread → Option Visit)
    (counts : Visit → Bool) (none : of thread = none) :
    held (pool.start thread) of counts = held pool of counts := by
  simp [held, Pool.total_start, share_none none]

theorem held_update {pool : HallPool} {self : Nat} {thread moved : Thread} {next : Hall}
    (present : pool.threads[self]? = some thread) {of : Thread → Option Visit}
    {counts : Visit → Bool} {before after : Nat} (balance : held pool of counts = before)
    (step : share of counts moved + next.launched.countP counts + before =
      share of counts thread + pool.shared.launched.countP counts + after) :
    held (pool.update self next moved) of counts = after := by
  have total := Pool.total_update present (share of counts) next moved
  simp only [held, Pool.update_shared] at balance ⊢
  omega

theorem Global.holds {pool : HallPool} (global : Global service pool) {self : Nat}
    {thread : Thread} (present : pool.threads[self]? = some thread) {visit : Visit}
    (grants : granted thread = some visit) (known : visit.Known pool.shared.traffic) :
    visit.Holds pool.shared.traffic := by
  intro index grant
  rcases known index grant with ⟨done, found⟩
  have amount := global.grips index
  have own : share granted (Visit.grips index) thread = 1 := by
    rw [share_some grants]
    simp [Visit.grips, grant]
  have some := Pool.le_total present (share granted (Visit.grips index))
  cases done with
  | false => exact found
  | true =>
      simp only [unreleased, found, held] at amount
      simp at amount
      omega

def Later (traffic after : Traffic) : Prop :=
  ∀ (index : Nat) (key : GoString) (done : Bool),
    traffic.releases[index]? = some ⟨key, done⟩ →
    ∃ now : Bool, after.releases[index]? = some ⟨key, now⟩

theorem Visit.Known.later {traffic after : Traffic} {visit : Visit} (known : visit.Known traffic)
    (later : Later traffic after) : visit.Known after := by
  intro index grant
  rcases known index grant with ⟨done, found⟩
  exact later index _ done found

theorem later_of_eq {traffic after : Traffic} (same : after.releases = traffic.releases) :
    Later traffic after := by
  intro index key done found
  exact ⟨done, by rw [same, found]⟩

variable {pool : HallPool} {self : Nat} {thread moved : Thread} {next : Hall}

theorem Advance.later (advance : Advance service pool.shared thread next moved)
    (global : Global service pool)
    (holds : ∀ visit, granted thread = some visit → visit.Holds pool.shared.traffic) :
    Later pool.shared.traffic next.traffic ∧ Balanced service.guard next.traffic := by
  have balanced := global.balanced
  cases advance with
  | @admitted loop visit traffic index time acquired =>
      rcases balanced.acquire visit.addr time with ⟨after, equal, releases, kept⟩ | ⟨_, equal, _⟩
      · cases acquired.symm.trans equal
        refine ⟨fun index key done found => ⟨done, ?_⟩, kept⟩
        rw [releases, List.getElem?_append_left (List.getElem?_eq_some_iff.mp found).1, found]
      · cases acquired.symm.trans equal
  | @refused loop visit traffic time acquired =>
      rcases balanced.acquire visit.addr time with ⟨_, equal, _⟩ | ⟨after, equal, releases, kept⟩
      · cases acquired.symm.trans equal
      · cases acquired.symm.trans equal
        exact ⟨later_of_eq releases, kept⟩
  | released grants _ _ =>
      rename_i visit time _ _
      cases grant : visit.grant with
      | none => exact ⟨later_of_eq rfl, balanced⟩
      | some index =>
          have own := holds visit grants index grant
          rcases balanced.release own time with ⟨releases, kept⟩
          refine ⟨fun other key done found => ?_, kept⟩
          dsimp only
          rw [releases]
          by_cases same : index = other
          · subst same
            rw [own] at found
            cases found
            exact ⟨true, by simp [(List.getElem?_eq_some_iff.mp own).1]⟩
          · exact ⟨done, by rw [List.getElem?_set_ne same, found]⟩
  | _ => exact ⟨later_of_eq rfl, balanced⟩

theorem Advance.known (advance : Advance service pool.shared thread next moved)
    (global : Global service pool) (later : Later pool.shared.traffic next.traffic)
    (known : ∀ visit, granted thread = some visit → visit.Known pool.shared.traffic) :
    (∀ visit, granted moved = some visit → visit.Known next.traffic) ∧
      ∀ visit ∈ next.launched, visit.Known next.traffic := by
  have kept (visit : Visit) (member : visit ∈ pool.shared.launched) : visit.Known next.traffic :=
    (global.launched visit member).later later
  have own (visit : Visit) (grants : granted thread = some visit) : visit.Known next.traffic :=
    (known visit grants).later later
  cases advance with
  | quiet grants _ =>
      refine ⟨fun visit now => ?_, kept⟩
      rcases grants with same | ⟨_, other, new, unguarded⟩
      · exact own visit (same.symm.trans now)
      · cases new.symm.trans now
        intro index grant
        rw [unguarded] at grant
        cases grant
  | @admitted loop visit traffic index time acquired =>
      refine ⟨fun other now => ?_, kept⟩
      cases now
      intro number grant
      cases grant
      rcases global.balanced.acquire visit.addr time with ⟨after, equal, releases, _⟩ | ⟨_, equal, _⟩
      · cases acquired.symm.trans equal
        exact ⟨false, by simp [releases]⟩
      · cases acquired.symm.trans equal
  | refused => exact ⟨fun _ now => (by cases now), kept⟩
  | seats => exact ⟨own, kept⟩
  | released _ none _ =>
      refine ⟨fun visit now => ?_, kept⟩
      rw [none] at now
      cases now
  | launches =>
      refine ⟨fun _ now => (by cases now), fun visit member => ?_⟩
      rcases List.mem_append.mp member with old | new
      · exact kept visit old
      · cases List.mem_singleton.mp new
        exact own _ rfl
  | runs queue =>
      refine ⟨fun visit now => ?_, fun visit member => kept visit ?_⟩
      · cases now
        exact kept _ (by simp [queue])
      · rw [queue]
        exact List.mem_cons_of_mem _ member
  | leaves => exact ⟨fun _ now => (by cases now), kept⟩
  | unbounded _ same _ => exact ⟨fun visit now => own visit (same.symm.trans now), kept⟩

theorem entry_free {thread : Thread} (enters : (program service).entry thread = true) :
    granted thread = none ∧ seated thread = none ∧ Attached thread := by
  cases thread with
  | acceptor loop point =>
      have first : point = .accepting := by simpa [program] using enters
      subst first
      exact ⟨rfl, rfl, trivial⟩
  | handler point =>
      have first : point = .waiting := by simpa [program] using enters
      subst first
      exact ⟨rfl, rfl, trivial⟩

theorem outline_valid : (outline service).Valid (program service) Machine.Unrestricted where
  started pool thread holds enters _ := by
    rcases entry_free enters with ⟨ungranted, unseated, attached⟩
    have global := holds.global
    refine ⟨⟨global.balanced, fun index => ?_, fun key => ?_, fun loop limit bounded => ?_,
      global.launched⟩, attached, fun visit grants => ?_⟩
    · rw [held_start _ _ _ _ ungranted]
      exact global.grips index
    · rw [held_start _ _ _ _ ungranted]
      exact global.grants key
    · rw [held_start _ _ _ _ unseated]
      exact global.seats loop limit bounded
    · rw [ungranted] at grants
      cases grants
  undisturbedByStart pool thread other bystander holds _ _ found := holds.thread other bystander found
  sequential pool self thread choice shared next holds present _ taken := by
    have global := holds.global
    rcases holds.thread self thread present with ⟨attached, known⟩
    have own (visit : Visit) (grants : granted thread = some visit) :=
      global.holds present grants (known visit grants)
    have advance := step_advance attached taken
    have later := advance.later global own
    have after := advance.known global later.1 known
    exact ⟨⟨later.2,
      fun index => held_update present (global.grips index)
        (advance.tally (tallies_grips index) global.balanced own),
      fun key => held_update present (global.grants key)
        (advance.tally (tallies_isFrom key) global.balanced own),
      fun loop limit bounded => by
        rcases global.seats loop limit bounded with ⟨equal, room⟩
        rcases advance.seat attached bounded room with ⟨balance, bound⟩
        exact ⟨held_update present equal balance, bound⟩,
      after.2⟩, attached.step taken, after.1⟩
  interferenceFree pool self thread choice shared next other bystander holds present _ taken _
      found := by
    rcases holds.thread self thread present with ⟨attached, known⟩
    rcases holds.thread other bystander found with ⟨theirs, also⟩
    have own (visit : Visit) (grants : granted thread = some visit) :=
      holds.global.holds present grants (known visit grants)
    have later := (step_advance attached taken).later holds.global own
    exact ⟨theirs, fun visit grants => (also visit grants).later later.1⟩

theorem outline_initial : (outline service).Holds (initialPool service clock) := by
  refine ⟨⟨⟨rfl, fun key => rfl, fun key => ?_⟩, fun index => rfl, fun key => rfl,
    fun loop limit _ => ⟨rfl, Nat.zero_le limit⟩, fun visit member => ?_⟩,
    fun self thread present => ?_⟩
  · exact Int.le_of_lt (positive_newIPGuard _ _ _).maxConcurrent
  · cases member
  · simp [initialPool] at present

/-- In every run, a grant that has not been given back has exactly one connection on its way to
give it back. So the guard counts, for each address, the connections that are let in, of all
loops together, and they are within its limit; a channel has a place for each connection of its
loop, within its size; and whoever leaves finds a place to free. -/
theorem admissions_accounted {events : List (PoolEvent Thread Choice)}
    (run : (program service).machine.Run Machine.Unrestricted (initialPool service clock) events
      pool) :
    (∀ index, held pool granted (Visit.grips index) = unreleased pool.shared.traffic index) ∧
    (∀ key, pool.shared.traffic.active key = held pool granted (Visit.isFrom key) ∧
      held pool granted (Visit.isFrom key) ≤ service.guard.maxConcurrent) ∧
    (∀ loop limit, (service.loops loop).capacity = some limit →
      pool.shared.places loop = held pool seated (Visit.isOf loop) ∧
      held pool seated (Visit.isOf loop) ≤ limit) ∧
    ∀ (self : Nat) (visit : Visit) (limit : Nat),
      pool.threads[self]? = some (.handler (.leaving visit)) →
      (service.loops visit.loop).capacity = some limit → pool.shared.places visit.loop ≠ 0 := by
  have global := (outline_valid.run outline_initial run).global
  have seats (loop limit : Nat) (bounded : (service.loops loop).capacity = some limit) :
      pool.shared.places loop = held pool seated (Visit.isOf loop) ∧
        held pool seated (Visit.isOf loop) ≤ limit := by
    rcases global.seats loop limit bounded with ⟨equal, room⟩
    exact ⟨equal.symm, equal ▸ room⟩
  refine ⟨global.grips, fun key => ?_, seats, fun self visit limit present bounded => ?_⟩
  · have active := global.balanced.active key
    have limited := global.balanced.limited key
    rw [global.grants key]
    exact ⟨active, active ▸ limited⟩
  · have own := Pool.le_total present (share seated (Visit.isOf visit.loop))
    have place : share seated (Visit.isOf visit.loop) (.handler (.leaving visit)) = 1 := by
      simp [share, seated, Visit.isOf]
    rw [(seats visit.loop limit bounded).1, held]
    omega

/-- Two connections to the Agent from one address. The second handler runs while the first is
about to leave. -/
def twoPeers : List (PoolEvent Thread Choice) :=
  let peer := some [49, 58, 50]
  let admits : List Choice := [.connection peer, .now 0, .proceed, .proceed]
  [.spawn (.acceptor 0 .accepting)] ++ admits.map (.advance 0) ++
    [.spawn (.handler .waiting), .advance 1 .proceed] ++ admits.map (.advance 0) ++
    [.spawn (.handler .waiting), .advance 2 .proceed, .advance 1 .proceed, .advance 1 (.now 1)]

theorem admissions_accounted_twoPeers :
    ∃ pool, (program acceptDirectTCP).machine.Run Machine.Unrestricted
        (initialPool acceptDirectTCP 0) twoPeers pool ∧
      pool.shared.traffic.active [49] = 1 ∧ held pool granted (Visit.isFrom [49]) = 1 ∧
      held pool seated (Visit.isOf 0) = 2 := by
  rcases Machine.exists_run (program acceptDirectTCP).machine Machine.Unrestricted
      (fun pool => held pool granted (Visit.isFrom [49]) = 1 ∧ pool.shared.places 0 = 2)
      (initialPool acceptDirectTCP 0) twoPeers (by decide +kernel) with ⟨pool, run, one, two⟩
  have accounted := admissions_accounted run
  have active := (accounted.2.1 [49]).1
  have places := (accounted.2.2.1 0 maxConcurrentDirectTCPHandshakes rfl).1
  exact ⟨pool, run, by rw [active, one]; rfl, one, places.symm.trans two⟩

end Outline

end Rdpulse.RateLimit.Admission
