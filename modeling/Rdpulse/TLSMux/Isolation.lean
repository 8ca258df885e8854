import Rdpulse.TLSMux.EndOfStream

namespace Rdpulse.TLSMux

open Foundation

/-! What `Read` returns on a stream was written on the same stream: in order, each
chunk at most once, and without a gap until the receiver closes the stream. -/

/-- The applications use streams that they were given, and the receiver of the
stream `id` runs one `Read` of it at a time. -/
def ReadsInTurn (sender : End) (id : UInt32) (pool : MuxPool)
    (event : PoolEvent Thread Choice) : Prop :=
  WellUsed pool event ∧ SoleReader sender.other id pool event

instance (sender : End) (id : UInt32) (pool : MuxPool) (event : PoolEvent Thread Choice) :
    Decidable (ReadsInTurn sender id pool event) :=
  inferInstanceAs (Decidable (_ ∧ _))

section Runs

variable {sender : End} {id : UInt32} {events : List (PoolEvent Thread Choice)} {pool : MuxPool}

theorem returned_prefix_content (stream : MuxStream) : stream.readOut <+: stream.content :=
  List.prefix_append _ _

theorem read_prefix_written (mux : Mux) (sender : End) (id : UInt32) :
    payloads id (mux.link sender).read <+: payloads id (mux.trace sender).begun := by
  change _ <+: payloads id (mux.link sender).begun
  rw [Link.begun_eq, payloads_append]
  exact List.prefix_append _ _

theorem granted_in_table {ref : Nat} {stream : MuxStream} (formed : WellFormed pool)
    (granted : Granted pool ref) (found : pool.shared.objects[ref]? = some stream)
    (undone : stream.localDone = false) :
    (stream.id, ref) ∈ (pool.shared.session stream.session).streams := by
  rcases (StreamsKnown.kept formed.streams.global ref stream found).2 with
    entered | done | ⟨err, closing⟩
  · exact entered
  · rw [undone] at done
    cases done
  · rcases List.getElem?_of_mem closing with ⟨place, there⟩
    exact (granted_not_failing formed.streams granted there).elim

end Runs

def twoWrites : List (PoolEvent Thread Choice) :=
  shortTransfer.take 13 ++
    [.spawn (.write 0 [7] .start), .advance 4 .proceed, .advance 4 .proceed, .advance 4 .proceed,
      .advance 4 .proceed, .advance 4 (.wrote 10), .advance 4 .proceed, .advance 4 .proceed,
      .advance 4 .proceed,
      .spawn (.write 0 [8] .start), .advance 5 .proceed, .advance 5 .proceed, .advance 5 .proceed,
      .advance 5 .proceed, .advance 5 (.wrote 10), .advance 5 .proceed, .advance 5 .proceed,
      .advance 5 .proceed]

/-- While the server's `Close` is under way `readLoop` drops the first byte and
queues the second, which the next `Read` returns. -/
def dropInClose : List (PoolEvent Thread Choice) :=
  twoWrites ++
    [.spawn (.close 1 .once), .advance 6 .proceed, .advance 6 .proceed,
      .advance 1 .proceed, .advance 1 .proceed, .advance 1 .proceed, .advance 1 .localDone,
      .advance 1 .proceed, .advance 1 .proceed, .advance 1 .proceed, .advance 1 .proceed,
      .spawn (.read 1 16 .start), .advance 7 .proceed, .advance 7 .proceed, .advance 7 .proceed,
      .advance 7 .proceed, .advance 7 .proceed]

/-- Both `Read`s take a frame from the queue, and the second overwrites the
current frame of the first. -/
def overlappingReads : List (PoolEvent Thread Choice) :=
  twoWrites ++
    [.advance 1 .proceed, .advance 1 .proceed, .advance 1 .proceed, .advance 1 .proceed,
      .advance 1 .proceed, .advance 1 .proceed, .advance 1 .proceed, .advance 1 .proceed,
      .spawn (.read 1 16 .start), .advance 6 .proceed, .advance 6 .proceed,
      .spawn (.read 1 16 .start), .advance 7 .proceed, .advance 7 .proceed,
      .advance 6 .proceed, .advance 7 .proceed, .advance 7 .proceed, .advance 7 .proceed]

end Rdpulse.TLSMux
