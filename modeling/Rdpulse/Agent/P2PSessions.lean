import Rdpulse.Foundation.Bytes

namespace Rdpulse.Agent

open Foundation

/-! The registry of the sessions that the relay announced to a controlled
agent. A Go map is a function here; reads and writes are the critical sections
of its mutex. -/

/-- `p2pSession`; `done` says that its context has been cancelled. -/
structure P2PSession where
  id : UInt32
  controller : String
  token : Bytes
  done : Bool
  deriving DecidableEq, Repr

abbrev P2PSessionRegistry := UInt32 → Option P2PSession

namespace P2PSessionRegistry

def new : P2PSessionRegistry := fun _ => none

def register (registry : P2PSessionRegistry) (session : P2PSession) : P2PSessionRegistry :=
  fun id => if id = session.id then some session else registry id

def remove (registry : P2PSessionRegistry) (sessionID : UInt32) : P2PSessionRegistry :=
  fun id => if id = sessionID then none else registry id

def cancel (registry : P2PSessionRegistry) : P2PSessionRegistry :=
  fun id => (registry id).map fun session => { session with done := true }

/-- `lookup`. Ids travel as 64 bits and are compared back after truncation. -/
def lookup (registry : P2PSessionRegistry) (sessionID : UInt64) : Option Bytes :=
  match registry sessionID.toUInt32 with
  | none => none
  | some session =>
      if session.id.toUInt64 ≠ sessionID then none
      else if session.done then none
      else some session.token

theorem register_eq_some {registry : P2PSessionRegistry} {added session : P2PSession}
    {id : UInt32} (found : registry.register added id = some session) :
    session = added ∨ registry id = some session := by
  unfold register at found
  split at found
  · exact .inl (Option.some.inj found).symm
  · exact .inr found

theorem remove_eq_some {registry : P2PSessionRegistry} {sessionID id : UInt32}
    {session : P2PSession} (found : registry.remove sessionID id = some session) :
    registry id = some session := by
  unfold remove at found
  split at found
  · cases found
  · exact found

theorem cancel_eq_some {registry : P2PSessionRegistry} {id : UInt32}
    {session : P2PSession} (found : registry.cancel id = some session) :
    ∃ before, registry id = some before ∧ session = { before with done := true } := by
  simp only [cancel, Option.map_eq_some_iff] at found
  rcases found with ⟨before, present, equal⟩
  exact ⟨before, present, equal.symm⟩

theorem lookup_eq_some {registry : P2PSessionRegistry} {sessionID : UInt64} {token : Bytes}
    (found : registry.lookup sessionID = some token) :
    ∃ session, registry sessionID.toUInt32 = some session ∧
      session.id.toUInt64 = sessionID ∧ session.done = false ∧ session.token = token := by
  unfold lookup at found
  split at found
  · cases found
  · rename_i session present
    split at found
    · cases found
    · rename_i same
      split at found
      · cases found
      · rename_i live
        exact ⟨session, present, not_not.mp same, by simpa using live, Option.some.inj found⟩

end P2PSessionRegistry

end Rdpulse.Agent
