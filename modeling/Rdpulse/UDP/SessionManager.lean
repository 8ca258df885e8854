import Mathlib.Data.List.AList
import Rdpulse.Foundation.Clock
import Rdpulse.Path.AddrPort
import Rdpulse.Protocol.Control

namespace Rdpulse.UDP

open Foundation Rdpulse.Path Protocol

/-! The table of UDP sessions, by id and by client. A session is named by its position
among all that the manager has made. -/

structure ClientAddr where
  addr : Option Addr := none
  port : UInt16 := 0
  deriving DecidableEq, Repr

def ClientAddr.isValid (client : ClientAddr) : Bool := client.addr.isSome

structure SessionKey where
  deviceID : GoString := []
  publicPort : UInt16 := 0
  clientAddr : ClientAddr := {}
  deriving DecidableEq, Repr

/-- `ended` and `socketCloses` count the calls of `onClose` and `Conn.Close`; a nil
callback is one that does nothing. -/
structure UDPSession where
  id : UInt32
  deviceID : GoString := []
  publicPort : UInt16 := 0
  clientAddr : ClientAddr := {}
  conn : Option Nat := none
  lastSeen : Int
  closed : Bool := false
  ended : Nat := 0
  socketCloses : Nat := 0
  deriving DecidableEq, Repr

namespace UDPSession

def key (sess : UDPSession) : SessionKey :=
  { deviceID := sess.deviceID, publicPort := sess.publicPort, clientAddr := sess.clientAddr }

def clientIP (sess : UDPSession) : Option Addr := sess.clientAddr.addr.map Addr.unmap

def isExpired (sess : UDPSession) (timeout now : Int) : Bool :=
  timeout < Clock.sub now sess.lastSeen

end UDPSession

structure SessionLimits where
  maxSessions : Int
  maxSessionsPerIP : Int
  maxCreatePerSecond : Int
  deriving DecidableEq, Repr

structure SessionManager where
  sessions : List UDPSession
  byID : AList fun _ : UInt32 => Nat
  byKey : AList fun _ : SessionKey => Nat
  sessionsPerIP : AList fun _ : Addr => Int
  idleTimeout : Int
  limits : SessionLimits
  rateWindowStart : Option Int
  rateWindowCount : Int
  closed : Bool
  deriving DecidableEq

def newSessionManagerWithLimits (idleTimeout : Int) (limits : SessionLimits) :
    SessionManager where
  sessions := []
  byID := ∅
  byKey := ∅
  sessionsPerIP := ∅
  idleTimeout := if idleTimeout ≤ 0 then 60 * Clock.second else idleTimeout
  limits :=
    { maxSessions := if limits.maxSessions ≤ 0 then 256 else limits.maxSessions
      maxSessionsPerIP := if limits.maxSessionsPerIP ≤ 0 then 32 else limits.maxSessionsPerIP
      maxCreatePerSecond :=
        if limits.maxCreatePerSecond ≤ 0 then 50 else limits.maxCreatePerSecond }
  rateWindowStart := none
  rateWindowCount := 0
  closed := false

namespace SessionManager

variable (m : SessionManager)

def updateSession (sess : Nat) (change : UDPSession → UDPSession) : SessionManager :=
  { m with sessions := m.sessions.modify sess change }

def updateActivity (sess : Nat) (now : Int) : SessionManager :=
  m.updateSession sess fun s => { s with lastSeen := now }

def getByID (id : UInt32) (now : Int) : Option Nat × SessionManager :=
  match m.byID.lookup id with
  | none => (none, m)
  | some sess => (some sess, m.updateActivity sess now)

def getByKey (key : SessionKey) (now : Int) : Option Nat × SessionManager :=
  match m.byKey.lookup key with
  | none => (none, m)
  | some sess => (some sess, m.updateActivity sess now)

def allowCreateLocked (now : Int) : Bool × SessionManager :=
  let expired :=
    match m.rateWindowStart with
    | none => true
    | some start => decide (Clock.second ≤ Clock.sub now start)
  let m := if expired then { m with rateWindowStart := some now, rateWindowCount := 0 } else m
  if m.limits.maxCreatePerSecond ≤ m.rateWindowCount then (false, m)
  else (true, { m with rateWindowCount := m.rateWindowCount + 1 })

/-- The loop that draws an id. `none` is a failed read of random bytes; the answer is
`none` while the loop goes on. -/
def drawID : List (Option UInt32) → Option (Option UInt32)
  | [] => none
  | none :: _ => some none
  | some drawn :: rest =>
      let id := drawn &&& 0x7fffffff
      if id ≠ 0 ∧ m.byID.lookup id = none then some (some id) else drawID rest

def create (key : SessionKey) (id : UInt32) (seen : Int) : SessionManager :=
  let sess : UDPSession :=
    { id, deviceID := key.deviceID, publicPort := key.publicPort, clientAddr := key.clientAddr,
      lastSeen := seen }
  { m with
    sessions := m.sessions ++ [sess]
    byID := m.byID.insert id m.sessions.length
    byKey := m.byKey.insert key m.sessions.length
    sessionsPerIP :=
      match sess.clientIP with
      | none => m.sessionsPerIP
      | some ip => m.sessionsPerIP.insert ip ((m.sessionsPerIP.lookup ip).getD 0 + 1) }

/-- `now` and `seen` are the readings for the limit and for the session's activity. -/
def getOrCreateByKey (key : SessionKey) (now seen : Int) (draws : List (Option UInt32)) :
    Option ((Option Nat × Bool) × SessionManager) :=
  match m.byKey.lookup key with
  | some sess => some ((some sess, false), m.updateActivity sess seen)
  | none =>
      if m.closed || m.limits.maxSessions ≤ (m.byID.entries.length : Int) then
        some ((none, false), m)
      else if (key.clientAddr.addr.map Addr.unmap).any fun ip =>
          m.limits.maxSessionsPerIP ≤ (m.sessionsPerIP.lookup ip).getD 0 then
        some ((none, false), m)
      else
        match m.allowCreateLocked now with
        | (false, m) => some ((none, false), m)
        | (true, m) =>
            match m.drawID draws with
            | none => none
            | some none => some ((none, false), m)
            | some (some id) => some ((some m.sessions.length, true), m.create key id seen)

def addSessionWithID (id : UInt32) (conn : Option Nat) (now seen : Int) :
    Option Nat × SessionManager :=
  match m.byID.lookup id with
  | some sess => (some sess, m.updateActivity sess seen)
  | none =>
      if id = 0 || m.closed || m.limits.maxSessions ≤ (m.byID.entries.length : Int) then (none, m)
      else
        match m.allowCreateLocked now with
        | (false, m) => (none, m)
        | (true, m) =>
            (some m.sessions.length,
              { m with
                sessions := m.sessions ++ [{ id, conn, lastSeen := seen }]
                byID := m.byID.insert id m.sessions.length })

def releaseIP (sessionsPerIP : AList fun _ : Addr => Int) : Option Addr → AList fun _ : Addr => Int
  | none => sessionsPerIP
  | some ip =>
      let count := (sessionsPerIP.lookup ip).getD 0
      if 1 < count then sessionsPerIP.insert ip (count - 1) else sessionsPerIP.erase ip

def detach (id : UInt32) : Option Nat × SessionManager :=
  match m.byID.lookup id with
  | none => (none, m)
  | some sess =>
      match m.sessions[sess]? with
      | none => (none, m)
      | some s =>
          (some sess,
            { m with
              byID := m.byID.erase id
              byKey := m.byKey.erase s.key
              sessionsPerIP := releaseIP m.sessionsPerIP s.clientIP })

def detachAll : List Nat × SessionManager :=
  if m.closed then ([], m)
  else
    (m.byID.entries.map Sigma.snd,
      { m with closed := true, byID := ∅, byKey := ∅, sessionsPerIP := ∅ })

/-- The locked section of `sweep`. The readings are those of the calls of `IsExpired`. -/
def expired (clock : Nat → Int) : List Nat :=
  ((m.byID.entries.map Sigma.snd).zipIdx.filter fun (sess, turn) =>
    (m.sessions[sess]?).any (·.isExpired m.idleTimeout (clock turn))).map Prod.fst

def swapClosed (sess : Nat) : Bool × SessionManager :=
  ((m.sessions[sess]?).any UDPSession.closed,
    m.updateSession sess fun s => { s with closed := true })

def finishClose (sess : Nat) : SessionManager :=
  m.updateSession sess fun s =>
    { s with
      ended := s.ended + 1
      socketCloses := if s.conn.isSome then s.socketCloses + 1 else s.socketCloses }

end SessionManager

end Rdpulse.UDP
