import Rdpulse.TLSMux.Receiving

namespace Rdpulse.TLSMux

open Foundation

/-! The end of a stream: `Read` reports it only after it has returned every byte
written, unless its second select takes the peer's CLOSE before queued frames. -/

/-- What the application of both ends keeps to on the stream `id` from `sender`:
it uses streams that it was given, has every `Write` return before `Close`, and
runs one `Read` at a time. -/
def Disciplined (sender : End) (id : UInt32) (pool : MuxPool)
    (event : PoolEvent Thread Choice) : Prop :=
  WellUsed pool event ∧ WritesBeforeClose sender id pool event ∧
    SoleReader sender.other id pool event

instance (sender : End) (id : UInt32) (pool : MuxPool) (event : PoolEvent Thread Choice) :
    Decidable (Disciplined sender id pool event) :=
  inferInstanceAs (Decidable (_ ∧ _ ∧ _))

def Mux.written (mux : Mux) (sender : End) (id : UInt32) : Bytes :=
  (payloads id (mux.trace sender).begun).flatten

def Thread.failing (ref : Nat) : Thread → Bool
  | .openStream _ point =>
      match point with
      | .closeLocal target _ => target = ref
      | _ => false
  | _ => false

/-- The receiver has not closed the stream. -/
def StillOpen (pool : MuxPool) (ref : Nat) (stream : MuxStream) : Prop :=
  stream.localDone = false ∧ ∀ thread ∈ pool.threads, thread.failing ref = false

instance (pool : MuxPool) (ref : Nat) (stream : MuxStream) :
    Decidable (StillOpen pool ref stream) :=
  inferInstanceAs (Decidable (_ ∧ _))

section Runs

variable {sender : End} {id : UInt32} {events : List (PoolEvent Thread Choice)} {pool : MuxPool}

theorem sendOutline_of_run {allowed : MuxPool → PoolEvent Thread Choice → Prop}
    (disciplined : ∀ pool event, allowed pool event → Disciplined sender id pool event)
    (run : program.machine.Run allowed initialPool events pool) :
    WellFormed pool ∧ (sendOutline sender id).Holds pool := by
  have formed : ∀ {past middle}, program.machine.Run allowed initialPool past middle →
      WellFormed middle := fun before =>
    wellFormed_of_run (fun pool event permitted => (disciplined pool event permitted).1) before
  have known := run.strengthen fun _ _ before => formed before
  refine ⟨formed run, sendOutline_valid.run (sendOutline_initial sender id)
    (known.weaken fun pool event permitted => ?_)⟩
  have kept := disciplined pool event permitted.1
  exact ⟨kept.1, kept.2.1, permitted.2⟩

theorem receiveOutline_of_run
    (run : program.machine.Run (fun pool event => Disciplined sender id pool event ∧
      DrainsFirst sender.other id pool event) initialPool events pool) :
    (receiveOutline sender id).Holds pool := by
  have known := run.strengthen fun _ _ before =>
    And.intro (sendOutline_of_run (fun _ _ permitted => permitted.1) before)
      (integrityOutline_of_run (fun _ _ permitted => ⟨permitted.1.1, permitted.1.2.2⟩) before)
  refine receiveOutline_valid.run (receiveOutline_initial sender id)
    (known.weaken fun pool event permitted => ?_)
  rcases permitted with ⟨⟨⟨used, _, sole⟩, drains⟩, ⟨formed, sends⟩, fed⟩
  exact ⟨used, sole, drains, formed, sends, fed⟩

end Runs

/-- A stream opened by the client and accepted by the server, on which the
server reads, the client writes one byte and closes. -/
def shortTransfer : List (PoolEvent Thread Choice) :=
  [.spawn (.openStream .client .drawID), .advance 2 .proceed, .advance 2 .proceed,
    .advance 2 .proceed, .advance 2 .proceed, .advance 2 (.wrote 9), .advance 2 .proceed,
    .advance 2 .proceed, .advance 1 .proceed, .advance 1 .proceed, .advance 1 .proceed,
    .spawn (.acceptStream .server .select), .advance 3 .proceed,
    .spawn (.read 1 16 .start), .advance 4 .proceed, .advance 4 .proceed, .advance 4 .proceed,
    .spawn (.write 0 [7] .start), .advance 5 .proceed, .advance 5 .proceed, .advance 5 .proceed,
    .advance 5 .proceed, .advance 5 (.wrote 10), .advance 5 .proceed, .advance 5 .proceed,
    .advance 5 .proceed,
    .spawn (.close 0 .once), .advance 6 .proceed, .advance 6 .proceed, .advance 6 .proceed,
    .advance 6 .proceed, .advance 6 .proceed, .advance 6 (.wrote 9), .advance 6 .proceed,
    .advance 6 .proceed, .advance 6 .proceed,
    .advance 1 .proceed, .advance 1 .proceed, .advance 1 .proceed, .advance 1 .proceed,
    .advance 1 .proceed, .advance 1 .proceed, .advance 1 .proceed]

end Rdpulse.TLSMux
