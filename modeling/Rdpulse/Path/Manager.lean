import Rdpulse.Foundation.Threads

namespace Rdpulse.Path

open Foundation

/-! The path manager of one controller session, at the granularity of its
atomic loads and stores, its mutex and the `pathChanged` channel. Every public
operation is a small program whose points are named after the next action. -/

inductive PathType
  | unknown
  | directLAN
  | directUDP
  | directTCP
  | relay
  | disabled
  deriving DecidableEq, Repr

namespace PathType

/-- `PathDirectLAN` or `PathDirectUDP`: the values of `udpPath` that
`ReceiveUDP` and `FallbackUDPFromDirect` treat as direct. -/
def isDirectUDP : PathType → Bool
  | .directLAN | .directUDP => true
  | _ => false

/-- `PathDirectLAN` or `PathDirectTCP`: the values `SetDirectTCP` stores. -/
def isDirectTCP : PathType → Bool
  | .directLAN | .directTCP => true
  | _ => false

end PathType

structure RelayTransport where
  supportsDatagrams : Bool
  deriving DecidableEq, Repr

/-- `transport.SupportsDatagrams`; `none` is the nil transport. -/
def supportsDatagrams : Option RelayTransport → Bool
  | none => false
  | some transport => transport.supportsDatagrams

structure PunchResult where
  ref : Nat
  conn : Bool
  deriving DecidableEq, Repr

/-- The shared fields of `Manager`. Channels made by `pathWaiter` are numbered;
`pathChanged` names the open one, so every other number below `waitersMade` is
a closed channel. -/
structure Manager where
  mu : Option Nat
  tcpPath : PathType
  udpPath : PathType
  directUDPPunch : Option PunchResult
  relayTransport : Option RelayTransport
  p2pCodec : Bool
  pathChanged : Option Nat
  waitersMade : Nat
  closed : Bool
  /-- `m.ctx` has been cancelled. -/
  managerDone : Bool
  /-- The context given to `NewManager` and `ReceiveUDP` has been cancelled. -/
  contextDone : Bool
  /-- The punch results on which `Close` was called, latest first. -/
  punchesClosed : List PunchResult

namespace Manager

def new (relayTransport : Option RelayTransport) (p2pCodec : Bool) : Manager where
  mu := none
  tcpPath := .unknown
  udpPath := .unknown
  directUDPPunch := none
  relayTransport := relayTransport
  p2pCodec := p2pCodec
  pathChanged := none
  waitersMade := 0
  closed := false
  managerDone := false
  contextDone := false
  punchesClosed := []

def lock (manager : Manager) (self : Nat) : Option Manager :=
  if manager.mu = none then some { manager with mu := some self } else none

def unlock (manager : Manager) : Manager := { manager with mu := none }

def closePunch (manager : Manager) (res : Option PunchResult) : Manager :=
  { manager with punchesClosed := res.toList ++ manager.punchesClosed }

def pathWaiter (manager : Manager) : Manager × Nat :=
  match manager.pathChanged with
  | some waiter => (manager, waiter)
  | none =>
      ({ manager with
          pathChanged := some manager.waitersMade
          waitersMade := manager.waitersMade + 1 },
        manager.waitersMade)

def notifyPathChanged (manager : Manager) : Manager :=
  { manager with pathChanged := none }

def waiterClosed (manager : Manager) (waiter : Nat) : Bool :=
  decide (waiter < manager.waitersMade) && manager.pathChanged != some waiter

def isOpen (manager : Manager) : Bool :=
  !manager.closed && !manager.managerDone && !manager.contextDone

def relayOrDisabled (manager : Manager) : PathType :=
  if supportsDatagrams manager.relayTransport then .relay else .disabled

end Manager

/-! ## Program points -/

inductive SetDirectUDPPoint
  | loadClosed
  | lock
  | recheckClosed
  | install
  | store
  | notify
  | unlock
  | returned
  deriving DecidableEq, Repr

inductive SetDirectTCPPoint
  | loadClosed
  | store
  | notify
  | returned
  deriving DecidableEq, Repr

inductive FallbackPoint
  | lock
  | load
  | closePunch
  | store
  | notify
  | unlock
  | returned
  deriving DecidableEq, Repr

inductive SetQUICRelayPoint
  | lock
  | loadTCP
  | storeTCP
  | loadUDP
  | storeUDP
  | notify
  | unlock
  | returned
  deriving DecidableEq, Repr

inductive ClosePoint
  | swap
  | cancel
  | lock
  | closePunch
  | unlock
  | returned
  deriving DecidableEq, Repr

/-- The receive goroutine, which calls `ReceiveUDP` again whenever it returns
without a cancelled context. `relayReceive` stands for the blocked
`ReceiveDatagram(ctx)`, `disabled` for the bare `<-ctx.Done()`. -/
inductive ReceiveUDPPoint
  | selectDone
  | loadPath
  | readPunch
  | directReceive
  | relayReceive
  | disabled
  | register
  | recheck (waiter : Nat)
  | wait (waiter : Nat)
  | fallback (point : FallbackPoint)
  | stopped
  deriving DecidableEq, Repr

inductive Thread
  | setDirectUDP (res : Option PunchResult) (isLAN : Bool) (point : SetDirectUDPPoint)
  | setDirectTCP (isLAN : Bool) (point : SetDirectTCPPoint)
  | fallbackUDPFromDirect (point : FallbackPoint)
  | setQUICRelay (point : SetQUICRelayPoint)
  | close (point : ClosePoint)
  | receiveUDP (point : ReceiveUDPPoint)
  | cancelContext (cancelled : Bool)
  deriving DecidableEq, Repr

/-- What the code leaves open at a point: the operation goes on, the context it
waits on is done, or the relay answers `io.EOF`, on which the receive goroutine
stops. -/
inductive Choice
  | proceed
  | contextDone
  | endOfFile
  deriving DecidableEq, Repr

/-! ## Steps -/

def stepSetDirectUDP (self : Nat) (manager : Manager) (res : Option PunchResult)
    (isLAN : Bool) : SetDirectUDPPoint → Option (Manager × SetDirectUDPPoint)
  | .loadClosed =>
      if manager.closed || res.isNone then some (manager.closePunch res, .returned)
      else some (manager, .lock)
  | .lock => (manager.lock self).map fun locked => (locked, .recheckClosed)
  | .recheckClosed =>
      if manager.closed then some (manager.closePunch res, .unlock)
      else some (manager, .install)
  | .install => some ({ manager with directUDPPunch := res }, .store)
  | .store =>
      some ({ manager with udpPath := if isLAN then .directLAN else .directUDP }, .notify)
  | .notify => some (manager.notifyPathChanged, .unlock)
  | .unlock => some (manager.unlock, .returned)
  | .returned => none

def stepSetDirectTCP (manager : Manager) (isLAN : Bool) :
    SetDirectTCPPoint → Option (Manager × SetDirectTCPPoint)
  | .loadClosed =>
      if manager.closed then some (manager, .returned) else some (manager, .store)
  | .store =>
      some ({ manager with tcpPath := if isLAN then .directLAN else .directTCP }, .notify)
  | .notify => some (manager.notifyPathChanged, .returned)
  | .returned => none

def stepFallback (self : Nat) (manager : Manager) :
    FallbackPoint → Option (Manager × FallbackPoint)
  | .lock => (manager.lock self).map fun locked => (locked, .load)
  | .load =>
      if manager.udpPath.isDirectUDP then some (manager, .closePunch)
      else some (manager, .unlock)
  | .closePunch =>
      some ({ manager.closePunch manager.directUDPPunch with directUDPPunch := none }, .store)
  | .store => some ({ manager with udpPath := manager.relayOrDisabled }, .notify)
  | .notify => some (manager.notifyPathChanged, .unlock)
  | .unlock => some (manager.unlock, .returned)
  | .returned => none

def stepSetQUICRelay (self : Nat) (manager : Manager) :
    SetQUICRelayPoint → Option (Manager × SetQUICRelayPoint)
  | .lock => (manager.lock self).map fun locked => (locked, .loadTCP)
  | .loadTCP =>
      if manager.tcpPath = .unknown then some (manager, .storeTCP)
      else some (manager, .loadUDP)
  | .storeTCP => some ({ manager with tcpPath := .relay }, .loadUDP)
  | .loadUDP =>
      if manager.udpPath = .unknown then some (manager, .storeUDP)
      else some (manager, .notify)
  | .storeUDP => some ({ manager with udpPath := manager.relayOrDisabled }, .notify)
  | .notify => some (manager.notifyPathChanged, .unlock)
  | .unlock => some (manager.unlock, .returned)
  | .returned => none

def stepClose (self : Nat) (manager : Manager) : ClosePoint → Option (Manager × ClosePoint)
  | .swap =>
      if manager.closed then some (manager, .returned)
      else some ({ manager with closed := true }, .cancel)
  | .cancel => some ({ manager with managerDone := true }, .lock)
  | .lock => (manager.lock self).map fun locked => (locked, .closePunch)
  | .closePunch => some (manager.closePunch manager.directUDPPunch, .unlock)
  | .unlock => some (manager.unlock, .returned)
  | .returned => none

/-- `FallbackUDPFromDirect` inside `ReceiveUDP`, which continues its loop when
the call returns. -/
def resumeReceive : FallbackPoint → ReceiveUDPPoint
  | .returned => .selectDone
  | point => .fallback point

def stepReceiveUDP (self : Nat) (manager : Manager) (choice : Choice) :
    ReceiveUDPPoint → Option (Manager × ReceiveUDPPoint)
  | .selectDone =>
      if manager.contextDone || manager.managerDone then some (manager, .stopped)
      else some (manager, .loadPath)
  | .loadPath =>
      match manager.udpPath with
      | .directLAN | .directUDP => some (manager, .readPunch)
      | .relay =>
          if manager.relayTransport.isNone then some (manager, .register)
          else some (manager, .relayReceive)
      | .disabled => some (manager, .disabled)
      | .unknown | .directTCP => some (manager, .register)
  | .readPunch =>
      -- `m.mu.RLock()` around one pointer read waits for a writer.
      if manager.mu.isSome then none
      else
        match manager.directUDPPunch with
        | none => some (manager, .fallback .lock)
        | some res =>
            if res.conn && manager.p2pCodec then some (manager, .directReceive)
            else some (manager, .fallback .lock)
  | .directReceive =>
      -- A datagram, or the 200 ms read deadline: the loop goes on either way.
      some (manager, .selectDone)
  | .relayReceive =>
      match choice with
      | .proceed => some (manager, .selectDone)
      | .contextDone => if manager.contextDone then some (manager, .stopped) else none
      | .endOfFile => some (manager, .stopped)
  | .disabled => if manager.contextDone then some (manager, .stopped) else none
  | .register =>
      let (registered, waiter) := manager.pathWaiter
      some (registered, .recheck waiter)
  | .recheck waiter =>
      if manager.udpPath ≠ .unknown ∧ manager.relayTransport.isSome then
        some (manager, .selectDone)
      else some (manager, .wait waiter)
  | .wait waiter =>
      match choice with
      | .proceed => if manager.waiterClosed waiter then some (manager, .selectDone) else none
      | .contextDone =>
          if manager.contextDone || manager.managerDone then some (manager, .stopped) else none
      | .endOfFile => none
  | .fallback point =>
      (stepFallback self manager point).map fun (moved, next) => (moved, resumeReceive next)
  | .stopped => none

def step (self : Nat) (manager : Manager) (thread : Thread) (choice : Choice) :
    Option (Manager × Thread) :=
  match thread with
  | .setDirectUDP res isLAN point =>
      (stepSetDirectUDP self manager res isLAN point).map fun (moved, next) =>
        (moved, .setDirectUDP res isLAN next)
  | .setDirectTCP isLAN point =>
      (stepSetDirectTCP manager isLAN point).map fun (moved, next) =>
        (moved, .setDirectTCP isLAN next)
  | .fallbackUDPFromDirect point =>
      (stepFallback self manager point).map fun (moved, next) =>
        (moved, .fallbackUDPFromDirect next)
  | .setQUICRelay point =>
      (stepSetQUICRelay self manager point).map fun (moved, next) =>
        (moved, .setQUICRelay next)
  | .close point =>
      (stepClose self manager point).map fun (moved, next) => (moved, .close next)
  | .receiveUDP point =>
      (stepReceiveUDP self manager choice point).map fun (moved, next) =>
        (moved, .receiveUDP next)
  | .cancelContext false =>
      some ({ manager with contextDone := true, managerDone := true }, .cancelContext true)
  | .cancelContext true => none

def entry : Thread → Bool
  | .setDirectUDP _ _ point => point = .loadClosed
  | .setDirectTCP _ point => point = .loadClosed
  | .fallbackUDPFromDirect point => point = .lock
  | .setQUICRelay point => point = .lock
  | .close point => point = .swap
  | .receiveUDP point => point = .selectDone
  | .cancelContext cancelled => !cancelled

def program : Program Manager Thread Choice where
  entry := entry
  step := step

abbrev ManagerPool := Pool Manager Thread

def initialPool (relayTransport : Option RelayTransport) (p2pCodec : Bool) : ManagerPool where
  shared := Manager.new relayTransport p2pCodec
  threads := []

end Rdpulse.Path
