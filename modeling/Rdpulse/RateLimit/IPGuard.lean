import Mathlib.Logic.Function.Basic
import Rdpulse.Foundation.Clock
import Rdpulse.Protocol.Control

namespace Rdpulse.RateLimit

open Foundation Protocol

/-! The guard that bounds, for each remote address, how many connections are open
at once and how many start in a window of time. -/

structure Entry where
  active : Int
  windowStart : Int
  count : Int
  lastSeen : Int
  deriving DecidableEq, Repr

structure IPGuard where
  entries : GoString → Option Entry
  maxConcurrent : Int
  maxPerWindow : Int
  window : Int
  operations : UInt64

def newIPGuard (maxConcurrent maxPerWindow window : Int) : IPGuard where
  entries := fun _ => none
  maxConcurrent := if maxConcurrent ≤ 0 then 16 else maxConcurrent
  maxPerWindow := if maxPerWindow ≤ 0 then 60 else maxPerWindow
  window := if window ≤ 0 then Clock.minute else window
  operations := 0

/-! ## Keys -/

def colon : UInt8 := 58
def leftBracket : UInt8 := 91
def rightBracket : UInt8 := 93

/-- `net.SplitHostPort`; its errors all end in the same branch of the caller. -/
def splitHostPort (hostport : GoString) : Option (GoString × GoString) :=
  if colon ∉ hostport then none else
  -- The port starts after the last colon.
  let i := hostport.length - 1 - hostport.reverse.idxOf colon
  let port := hostport.drop (i + 1)
  if hostport.head? = some leftBracket then
    let close := hostport.idxOf rightBracket
    if close + 1 ≠ i then none
    else if leftBracket ∈ hostport.drop 1 then none
    else if rightBracket ∈ hostport.drop (close + 1) then none
    else some ((hostport.take close).drop 1, port)
  else if colon ∈ hostport.take i then none
  else if leftBracket ∈ hostport then none
  else if rightBracket ∈ hostport then none
  else some (hostport.take i, port)

def isBracket (byte : UInt8) : Bool := byte == leftBracket || byte == rightBracket

def trimBrackets (host : GoString) : GoString :=
  ((host.dropWhile isBracket).reverse.dropWhile isBracket).reverse

/-- The argument is `addr.String()`, or `none` for a nil address. -/
def addressKey : Option GoString → GoString
  | none => "unknown".toUTF8.toList
  | some addr =>
      match splitHostPort addr with
      | some (host, _) => trimBrackets host
      | none => addr

namespace IPGuard

/-! ## The operations -/

def put (guard : IPGuard) (key : GoString) (e : Entry) : IPGuard :=
  { guard with entries := Function.update guard.entries key (some e) }

def idle (guard : IPGuard) (e : Entry) (now : Int) : Bool :=
  e.active == 0 && decide (int64 (2 * guard.window) < Clock.sub now e.lastSeen)

def sweepLocked (guard : IPGuard) (now : Int) : IPGuard :=
  { guard with entries := fun key => (guard.entries key).filter (!guard.idle · now) }

/-- How `Acquire` starts; the code has `sweeping` set. -/
def enter (guard : IPGuard) (sweeping : Bool) (now : Int) : IPGuard :=
  let counted := { guard with operations := guard.operations + 1 }
  if sweeping && counted.operations % 128 == 0 then counted.sweepLocked now else counted

/-- A window starts: the key is new to the guard, or its last window is over. -/
def resets (guard : IPGuard) (key : GoString) (now : Int) : Bool :=
  match guard.entries key with
  | none => true
  | some e => guard.window ≤ Clock.sub now e.windowStart

def current (guard : IPGuard) (key : GoString) (now : Int) : Entry :=
  -- `lastSeen` has the zero value here, and is overwritten on every way out.
  let e := (guard.entries key).getD { active := 0, windowStart := now, count := 0, lastSeen := 0 }
  if guard.window ≤ Clock.sub now e.windowStart then { e with windowStart := now, count := 0 }
  else e

structure Release where
  key : GoString
  done : Bool
  deriving DecidableEq, Repr

def grant (guard : IPGuard) (key : GoString) (now : Int) : IPGuard × Option Release :=
  let e := guard.current key now
  if guard.maxConcurrent ≤ e.active ∨ guard.maxPerWindow ≤ e.count then
    (guard.put key { e with lastSeen := now }, none)
  else
    (guard.put key { e with active := e.active + 1, count := e.count + 1, lastSeen := now },
      some { key, done := false })

def acquire (guard : IPGuard) (sweeping : Bool) (addr : Option GoString) (now : Int) :
    IPGuard × Option Release :=
  (guard.enter sweeping now).grant (addressKey addr) now

def release (guard : IPGuard) (key : GoString) (now : Int) : IPGuard :=
  match guard.entries key with
  | some current =>
      if 0 < current.active then
        guard.put key { current with active := current.active - 1, lastSeen := now }
      else guard
  | none => guard

end IPGuard

end Rdpulse.RateLimit
