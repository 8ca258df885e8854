import Mathlib.Data.Fintype.BigOperators
import Rdpulse.Foundation.Execution
import Rdpulse.Foundation.Tables
import Rdpulse.UDP.Reassembly

namespace Rdpulse.UDP.Pooled

open Foundation Protocol

/-! Reassembly with its maps and its pooled entries as they are, where nothing keeps a
stale slot out of the pool but what the operations do. -/

structure PacketReassembly where
  sessionID : UInt32 := 0
  packetID : UInt32 := 0
  fragmentCount : UInt8 := 0
  receivedCount : UInt8 := 0
  totalBytes : Nat := 0
  fragments : Fin maxUDPFragments → Option Bytes := fun _ => none
  fragBufs : Fin maxUDPFragments → Bool := fun _ => false
  createdAt : Int := 0

def defaultBufferSize : Nat := 2048

namespace PacketReassembly

variable (p : PacketReassembly)

def releaseFragments : PacketReassembly :=
  { p with
    fragments := fun i => if i.val < p.fragmentCount.toNat then none else p.fragments i
    fragBufs := fun i => if i.val < p.fragmentCount.toNat then false else p.fragBufs i }

def recycle : PacketReassembly :=
  { p.releaseFragments with receivedCount := 0, totalBytes := 0, fragmentCount := 0 }

def start (hdr : UDPHeader) (now : Int) : PacketReassembly :=
  { p with
    sessionID := hdr.sessionID
    packetID := hdr.packetID
    fragmentCount := hdr.fragmentCount
    receivedCount := 0
    totalBytes := 0
    createdAt := now }

def store (index : Fin maxUDPFragments) (payload : Bytes) : PacketReassembly :=
  { p with
    fragments := Function.update p.fragments index (some payload)
    fragBufs :=
      if payload.length ≤ defaultBufferSize then Function.update p.fragBufs index true
      else p.fragBufs
    receivedCount := p.receivedCount + 1
    totalBytes := p.totalBytes + payload.length }

def assembled : Bytes :=
  (List.finRange maxUDPFragments).flatMap fun i =>
    if i.val < p.fragmentCount.toNat then (p.fragments i).getD [] else []

end PacketReassembly

/-- What `reassemblyPool` has to give; it belongs to the whole process. -/
abbrev Pool := List PacketReassembly

/-- `reassemblyPool.Get`, which takes some entry or makes one. -/
def Pool.get (pool : Pool) (index : Nat) : PacketReassembly × Pool :=
  match pool[index]? with
  | some p => (p, pool.eraseIdx index)
  | none => ({}, pool)

structure Reassembler where
  timeout : Int
  pending : AList fun _ : ReassemblyKey => PacketReassembly
  sessionCount : AList fun _ : UInt32 => Nat
  closed : Bool

/-- `NewReassembler`, which replaces a timeout that is not positive by 100 ms. -/
def newReassembler (timeout : Int) : Reassembler where
  timeout := if timeout ≤ 0 then 100000000 else timeout
  pending := ∅
  sessionCount := ∅
  closed := false

namespace Reassembler

variable (r : Reassembler)

def deleteEntryLocked (pool : Pool) (key : ReassemblyKey) (entry : PacketReassembly) :
    Reassembler × Pool :=
  let count := (r.sessionCount.lookup entry.sessionID).getD 0
  ({ r with
      pending := r.pending.erase key
      sessionCount :=
        if 1 < count then r.sessionCount.insert entry.sessionID (count - 1)
        else r.sessionCount.erase entry.sessionID },
    entry.recycle :: pool)

def openEntry (pool : Pool) (hdr : UDPHeader) (now : Int) (get : Nat) :
    Option ((Reassembler × Pool) × PacketReassembly) :=
  let key : ReassemblyKey := ⟨hdr.sessionID, hdr.packetID⟩
  match r.pending.lookup key with
  | some entry => some ((r, pool), entry)
  | none =>
      let count := (r.sessionCount.lookup hdr.sessionID).getD 0
      if maxGlobalReassemblyCount ≤ r.pending.entries.length then none
      else if maxReassemblyPerSession ≤ count then none
      else
        let (pooled, pool) := Pool.get pool get
        let entry := pooled.start hdr now
        some (({ r with
                  pending := r.pending.insert key entry
                  sessionCount := r.sessionCount.insert hdr.sessionID (count + 1) }, pool), entry)

/-- The end of `FeedAppend`. The entry is the one in the map, which has been written. -/
def finish (pool : Pool) (dstNil : Bool) (key : ReassemblyKey) (entry : PacketReassembly) :
    (Reassembler × Pool) × Except FeedError (Option Bytes) :=
  if entry.receivedCount = entry.fragmentCount then
    (r.deleteEntryLocked pool key entry, .ok (appendTo dstNil entry.assembled))
  else (({ r with pending := r.pending.insert key entry }, pool), .ok none)

def feedAppend (pool : Pool) (dstNil : Bool) (hdr : UDPHeader) (payload : Bytes) (now : Int)
    (get : Nat) : (Reassembler × Pool) × Except FeedError (Option Bytes) :=
  if hdr.fragmentCount = 1 ∧ hdr.fragmentID = 0 then
    ((r, pool), .ok (appendTo dstNil payload))
  else if valid : ValidFragment hdr.fragmentID hdr.fragmentCount then
    if r.closed then ((r, pool), .error .closed)
    else
      let key : ReassemblyKey := ⟨hdr.sessionID, hdr.packetID⟩
      match r.openEntry pool hdr now get with
      | none => ((r, pool), .error .reassemblyLimit)
      | some ((r, pool), entry) =>
          if entry.fragmentCount ≠ hdr.fragmentCount then
            (r.deleteEntryLocked pool key entry, .error .invalidFragment)
          else
            let index : Fin maxUDPFragments :=
              ⟨hdr.fragmentID.toNat, Nat.lt_of_lt_of_le valid.1 valid.2⟩
            match entry.fragments index with
            | some _ => r.finish pool dstNil key entry
            | none =>
                let entry := entry.store index payload
                if maxUDPPacketSize < entry.totalBytes then
                  (r.deleteEntryLocked pool key entry, .error .corruptPacketSize)
                else r.finish pool dstNil key entry
  else ((r, pool), .error .invalidFragment)

def tick (pool : Pool) (now : Int) : Reassembler × Pool :=
  let deadline := now - r.timeout
  r.pending.entries.foldl
    (fun (r, pool) found =>
      if found.2.createdAt < deadline then r.deleteEntryLocked pool found.1 found.2
      else (r, pool))
    (r, pool)

def stop (pool : Pool) : Reassembler × Pool :=
  ({ r with closed := true, pending := ∅, sessionCount := ∅ },
    r.pending.entries.map (fun found => found.2.recycle) ++ pool)

end Reassembler

/-- All reassemblers of the process and the pool that they share. -/
structure Process where
  reassemblers : List Reassembler
  pool : Pool

/-- `collect` is the runtime, which may drop what is in the pool. -/
inductive Event
  | make (timeout : Int)
  | feed (reassembler : Nat) (dstNil : Bool) (hdr : UDPHeader) (payload : Bytes) (now : Int)
      (get : Nat)
  | tick (reassembler : Nat) (now : Int)
  | stop (reassembler : Nat)
  | collect (index : Nat)

namespace Process

variable (state : Process)

def put (index : Nat) (moved : Reassembler × Pool) : Process where
  reassemblers := state.reassemblers.set index moved.1
  pool := moved.2

def step : Event → Option Process
  | .make timeout =>
      some { state with reassemblers := state.reassemblers ++ [newReassembler timeout] }
  | .feed index dstNil hdr payload now get =>
      (state.reassemblers[index]?).map fun r =>
        state.put index (r.feedAppend state.pool dstNil hdr payload now get).1
  | .tick index now =>
      (state.reassemblers[index]?).map fun r => state.put index (r.tick state.pool now)
  | .stop index =>
      (state.reassemblers[index]?).map fun r => state.put index (r.stop state.pool)
  | .collect index => some { state with pool := state.pool.eraseIdx index }

end Process

def process : Machine Process Event where
  step := Process.step

end Rdpulse.UDP.Pooled
