import Rdpulse.Foundation.Threads

namespace Rdpulse.GUI

open Foundation

/-! The sessions of the desktop application: `onControllerConnect` with its clean-up
goroutine, `onControllerDisconnect`, `onTargetStart` with the goroutine that runs the
client, and `onTargetStop`. A critical section is one step. An attempt has the number of
the thread that makes it, and so have its context, its proxy and its path manager. -/

structure Session where
  running : Bool
  /-- The attempt whose cancel function is stored. -/
  cancel : Option Nat
  /-- Auxiliary: the attempts that were started and not disconnected since. -/
  wanted : List Nat
  deriving DecidableEq, Repr

namespace Session

def new : Session := ⟨false, none, []⟩

def start (session : Session) (self : Nat) : Session := ⟨true, some self, self :: session.wanted⟩

def stopped (wanted : List Nat) : Session := ⟨false, none, wanted⟩

end Session

structure App where
  controller : Session
  controllerProxy : Option Nat
  controllerPathMgr : Option Nat
  target : Session
  canceled : List Nat
  proxiesClosed : List Nat
  pathMgrsClosed : List Nat
  deriving DecidableEq, Repr

namespace App

def new : App := ⟨.new, none, none, .new, [], [], []⟩

def cancel (app : App) (stored : Option Nat) : App :=
  { app with canceled := stored.toList ++ app.canceled }

def closeProxy (app : App) (stored : Option Nat) : App :=
  { app with proxiesClosed := stored.toList ++ app.proxiesClosed }

def closePathMgr (app : App) (stored : Option Nat) : App :=
  { app with pathMgrsClosed := stored.toList ++ app.pathMgrsClosed }

end App

inductive StartError
  | alreadyRunning
  | config
  | connect
  | relay
  deriving DecidableEq, Repr

def StartError.text : StartError → String
  | .alreadyRunning => "已有正在运行的连接会话"
  | .config => "读取配置失败: "
  | .connect => "连接失败: "
  | .relay => "连接中继失败: "

inductive ConnectPoint
  | enter
  | connecting
  | failed
  | established
  /-- The call has returned, and its goroutine waits for the context to end. -/
  | watching
  | cleanUp
  | returned (err : Option StartError)
  deriving DecidableEq, Repr

inductive DisconnectPoint
  | take
  | cancel (stored proxy pathMgr : Option Nat)
  | closeProxy (proxy pathMgr : Option Nat)
  | closePathMgr (pathMgr : Option Nat)
  | returned
  deriving DecidableEq, Repr

inductive StopPoint
  | take
  | cancel (stored : Option Nat)
  | returned
  deriving DecidableEq, Repr

inductive CallPoint
  | select
  | stop (point : StopPoint)
  | returned (err : Option StartError)
  deriving DecidableEq, Repr

/-- The goroutine of `onTargetStart`. `reported` says that `OnInitialConnect` was called. -/
inductive RunPoint
  | running (reported : Bool)
  | ended
  | returned
  deriving DecidableEq, Repr

/-- `readyCh` holds whether the initial connect failed. -/
inductive StartPoint
  | enter
  | launch
  | launched (call : CallPoint) (readyCh : Option Bool) (run : RunPoint)
  | returned (err : Option StartError)
  deriving DecidableEq, Repr

inductive Thread
  | connect (point : ConnectPoint)
  | disconnect (point : DisconnectPoint)
  | targetStart (point : StartPoint)
  | targetStop (point : StopPoint)
  deriving DecidableEq, Repr

/-- What the code leaves open. `goroutine` and `report` are steps of the goroutine of
`onTargetStart`, all others of the call. -/
inductive Choice
  | proceed
  | configError
  | connectFails
  | timeout
  | goroutine
  | report (failed : Bool)
  deriving DecidableEq, Repr

def stepConnect (self : Nat) (app : App) (choice : Choice) :
    ConnectPoint → Option (App × ConnectPoint)
  | .enter =>
      if app.controller.running then some (app, .returned (some .alreadyRunning))
      else if choice = .configError then some (app, .returned (some .config))
      else some ({ app with controller := app.controller.start self }, .connecting)
  | .connecting =>
      if choice = .connectFails then some (app, .failed) else some (app, .established)
  | .failed =>
      some ({ app.cancel app.controller.cancel with
        controller := Session.stopped app.controller.wanted }, .returned (some .connect))
  | .established =>
      some ({ app with controllerProxy := some self, controllerPathMgr := some self }, .watching)
  | .watching => if self ∈ app.canceled then some (app, .cleanUp) else none
  | .cleanUp =>
      some ({ ((app.cancel app.controller.cancel).closeProxy app.controllerProxy).closePathMgr
          app.controllerPathMgr with
        controller := Session.stopped app.controller.wanted
        controllerProxy := none
        controllerPathMgr := none }, .returned none)
  | .returned _ => none

def stepDisconnect (app : App) : DisconnectPoint → Option (App × DisconnectPoint)
  | .take =>
      some ({ app with
        controller := Session.stopped []
        controllerProxy := none
        controllerPathMgr := none },
        .cancel app.controller.cancel app.controllerProxy app.controllerPathMgr)
  | .cancel stored proxy pathMgr => some (app.cancel stored, .closeProxy proxy pathMgr)
  | .closeProxy proxy pathMgr => some (app.closeProxy proxy, .closePathMgr pathMgr)
  | .closePathMgr pathMgr => some (app.closePathMgr pathMgr, .returned)
  | .returned => none

/-- `onTargetStop`. `wanted` is what it leaves of the attempts: none if the user stops, all
but its own if a start that has failed does. -/
def stepStop (app : App) (wanted : List Nat) : StopPoint → Option (App × StopPoint)
  | .take => some ({ app with target := Session.stopped wanted }, .cancel app.target.cancel)
  | .cancel stored => some (app.cancel stored, .returned)
  | .returned => none

def stepCall (self : Nat) (app : App) (choice : Choice) (readyCh : Option Bool) :
    CallPoint → Option (App × CallPoint × Option Bool)
  | .select =>
      if choice = .timeout then some (app, .returned none, readyCh)
      else
        match readyCh with
        | none => none
        | some true => some (app, .stop .take, none)
        | some false => some (app, .returned none, none)
  | .stop point =>
      (stepStop app (app.target.wanted.filter fun attempt => attempt ≠ self) point).map
        fun (moved, next) =>
          (moved, if next = .returned then .returned (some .relay) else .stop next, readyCh)
  | .returned _ => none

/-- The goroutine of `onTargetStart`; `Run` returns once its context has ended. -/
def stepRun (self : Nat) (app : App) : RunPoint → Option (App × RunPoint)
  | .running _ => if self ∈ app.canceled then some (app, .ended) else none
  | .ended => some ({ app with target := Session.stopped app.target.wanted }, .returned)
  | .returned => none

def stepStart (self : Nat) (app : App) (choice : Choice) : StartPoint → Option (App × StartPoint)
  | .enter =>
      if app.target.running then some (app, .returned none)
      else if choice = .configError then some (app, .returned (some .config))
      else some ({ app with target := app.target.start self }, .launch)
  | .launch => some (app, .launched .select none (.running false))
  | .launched call readyCh run =>
      match choice with
      | .goroutine =>
          (stepRun self app run).map fun (moved, next) => (moved, .launched call readyCh next)
      | .report failed =>
          if run = .running false then some (app, .launched call (some failed) (.running true))
          else none
      | _ =>
          (stepCall self app choice readyCh call).map fun (moved, next, ready) =>
            (moved, .launched next ready run)
  | .returned _ => none

def step (self : Nat) (app : App) (thread : Thread) (choice : Choice) : Option (App × Thread) :=
  match thread with
  | .connect point =>
      (stepConnect self app choice point).map fun (moved, next) => (moved, .connect next)
  | .disconnect point =>
      (stepDisconnect app point).map fun (moved, next) => (moved, .disconnect next)
  | .targetStart point =>
      (stepStart self app choice point).map fun (moved, next) => (moved, .targetStart next)
  | .targetStop point =>
      (stepStop app [] point).map fun (moved, next) => (moved, .targetStop next)

def entry : Thread → Bool
  | .connect point => point = .enter
  | .disconnect point => point = .take
  | .targetStart point => point = .enter
  | .targetStop point => point = .take

def sessions : Program App Thread Choice where
  entry := entry
  step := step

abbrev AppPool := Pool App Thread

abbrev AppEvent := PoolEvent Thread Choice

def initialPool : AppPool := ⟨.new, []⟩

end Rdpulse.GUI
