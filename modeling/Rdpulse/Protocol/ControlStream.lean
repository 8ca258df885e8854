import Rdpulse.Foundation.Bytes
import Rdpulse.Foundation.Threads

namespace Rdpulse.Protocol.ControlStream

open Foundation
open Foundation.Bytes

/-! Goroutines that write control messages with one `ControlWriter`, and the loop at the other
end of the stream that reads them. The stream is reliable: the bytes written to it are read in
order, at any later time and in any portions. -/

structure Json (Message : Type) where
  marshal : Message → Except String Bytes
  unmarshal : Bytes → Except String Message

def maxControlMessageSize : Nat := 1024 * 1024

/-! ## Threads -/

/-- Where a call of `WriteMessage` is; `write` has the number of bytes written so far. -/
inductive WritePoint (Message : Type)
  | idle
  | lock (msg : Option Message)
  | marshal (msg : Option Message)
  | write (msg : Message) (frame : Bytes) (n : Nat)
  | unlock (msg : Option Message) (err : Option String)

structure Goroutine (Message : Type) where
  todo : List (Option Message)
  point : WritePoint Message
  returned : List (Option Message × Option String)

/-- Where a call of `ReadControlMessage` is, with the bytes that `io.ReadFull` has. After an
error nothing more is read. -/
inductive ReadPoint
  | header (lenBuf : Bytes)
  | body (msgLen : UInt32) (buf : Bytes)
  | failed
  deriving DecidableEq, Repr

inductive Thread (Message : Type)
  | goroutine (routine : Goroutine Message)
  | reader

/-- The mutex of the writer; the bytes written to the stream and how many of them are read; the
reader's variables and what `ReadControlMessage` returned. `accepted` records the messages that
were given to `Write`, in order. -/
structure Shared (Message : Type) where
  holder : Option Nat := none
  written : Bytes := []
  read : Nat := 0
  point : ReadPoint := .header []
  results : List (Except String Message) := []
  accepted : List Message := []

/-- What the code leaves open: how many bytes a part of a write or a read has. -/
inductive Choice
  | proceed
  | bytes (count : Nat)
  deriving DecidableEq, Repr

variable {Message : Type}

/-! ## `WriteControlMessage` -/

def controlFrame (json : Json Message) (msg : Message) : Except String Bytes :=
  match json.marshal msg with
  | .error err => .error ("marshal control message failed: " ++ err)
  | .ok data =>
      if maxControlMessageSize < data.length then
        .error ("control message size " ++ toString data.length ++ " exceeds limit 1048576")
      else .ok (putUint32 (UInt32.ofNat data.length) ++ data)

def writeStep (json : Json Message) (self : Nat) (shared : Shared Message)
    (routine : Goroutine Message) (choice : Choice) : Option (Shared Message × Goroutine Message) :=
  match routine.point with
  | .idle =>
      match routine.todo with
      | [] => none
      | msg :: rest => some (shared, { routine with todo := rest, point := .lock msg })
  | .lock msg =>
      if shared.holder = none then
        some ({ shared with holder := some self }, { routine with point := .marshal msg })
      else none
  | .marshal none =>
      some (shared,
        { routine with point := .unlock none (some "cannot write nil control message") })
  | .marshal (some msg) =>
      match controlFrame json msg with
      | .error err => some (shared, { routine with point := .unlock (some msg) (some err) })
      | .ok frame =>
          some ({ shared with accepted := shared.accepted ++ [msg] },
            { routine with point := .write msg frame 0 })
  | .write msg frame n =>
      match choice with
      | .bytes count =>
          if n + count ≤ frame.length then
            some ({ shared with written := shared.written ++ (frame.drop n).take count },
              { routine with point := .write msg frame (n + count) })
          else none
      | .proceed =>
          -- `Write` returns when all is written, with the number of bytes.
          if n < frame.length then none
          else
            some (shared,
              { routine with
                point :=
                  .unlock (some msg) (if n ≠ frame.length then some "short write" else none) })
  | .unlock msg err =>
      some ({ shared with holder := none },
        { routine with point := .idle, returned := routine.returned ++ [(msg, err)] })

/-! ## `ReadControlMessage` -/

def Shared.next (shared : Shared Message) (count : Nat) : Bytes :=
  (shared.written.drop shared.read).take count

/-- One `Read` of `io.ReadFull` into a buffer of this size, which has some bytes already. -/
def readFull (shared : Shared Message) (size : Nat) (buf : Bytes) (count : Nat)
    (point : Bytes → ReadPoint) : Option (Shared Message) :=
  if buf.length + count ≤ size && shared.read + count ≤ shared.written.length then
    some { shared with
      read := shared.read + count
      point := point (buf ++ shared.next count) }
  else none

def readStep (json : Json Message) (shared : Shared Message) (choice : Choice) :
    Option (Shared Message) :=
  match shared.point, choice with
  | .header lenBuf, .bytes count => readFull shared 4 lenBuf count .header
  | .header lenBuf, .proceed =>
      if lenBuf.length < 4 then none
      else
        let msgLen := uint32 lenBuf
        if maxControlMessageSize < msgLen.toNat then
          some { shared with
            point := .failed
            results := shared.results ++ [.error ("control message size " ++
              toString msgLen.toNat ++ " exceeds limit 1048576")] }
        else some { shared with point := .body msgLen [] }
  | .body msgLen buf, .bytes count =>
      readFull shared msgLen.toNat buf count (.body msgLen)
  | .body msgLen buf, .proceed =>
      if buf.length < msgLen.toNat then none
      else
        match json.unmarshal buf with
        | .error err =>
            some { shared with
              point := .failed
              results := shared.results ++
                [.error ("unmarshal control message failed: " ++ err)] }
        | .ok msg =>
            some { shared with point := .header [], results := shared.results ++ [.ok msg] }
  | .failed, _ => none

def program (json : Json Message) : Program (Shared Message) (Thread Message) Choice where
  entry
    | .goroutine routine =>
        match routine.point, routine.returned with
        | .idle, [] => true
        | _, _ => false
    | .reader => false
  step self shared thread choice :=
    match thread with
    | .goroutine routine =>
        (writeStep json self shared routine choice).map fun moved =>
          (moved.1, .goroutine moved.2)
    | .reader => (readStep json shared choice).map fun moved => (moved, .reader)

def initial : Pool (Shared Message) (Thread Message) where
  shared := {}
  threads := [.reader]

end Rdpulse.Protocol.ControlStream
