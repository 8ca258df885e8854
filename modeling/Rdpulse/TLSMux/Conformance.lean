import Rdpulse.TLSMux.Calls

namespace Rdpulse.TLSMux

open Foundation

/-! Whether two conforming ends can abort each other. No frame check fails as
long as every opened stream finds room in the peer's table; the limit that
`OpenStream` checks is on its own table only, and the tables differ. -/

/-- The condition under which conforming ends do not abort each other: an end
draws no id 0, and when `readLoop` is about to enter the stream of an OPEN frame,
its table has room, and, if the peer's ids have wrapped, no stream of that id. -/
def Accommodates (pool : MuxPool) : PoolEvent Thread Choice → Prop
  | .spawn _ => True
  | .advance self _ =>
      match pool.threads[self]? with
      | some (.openStream side .drawID) => (pool.shared.session side).nextID ≠ 0
      | some (.readLoop side (.insert id)) =>
          (pool.shared.session side).streams.length < maxStreams ∧
            (2 ^ 31 < (pool.shared.trace side.other).drawn.length →
              pool.shared.getStream side id = none)
      | _ => True

instance (pool : MuxPool) (event : PoolEvent Thread Choice) :
    Decidable (Accommodates pool event) := by
  rcases event with _ | ⟨self, _⟩
  · exact .isTrue trivial
  · dsimp only [Accommodates]
    generalize pool.threads[self]? = found
    casesm* Option Thread, Thread, OpenStreamPoint, ReadLoopPoint <;> infer_instance

theorem Accommodates.nonzero {pool : MuxPool} {event : PoolEvent Thread Choice}
    (accommodates : Accommodates pool event) : NonzeroID pool event := by
  cases event with
  | spawn => trivial
  | advance self choice =>
      simp only [NonzeroID]
      split
      · rename_i side present
        simpa [Accommodates, present] using accommodates
      · trivial

theorem readLoop_passes {mux : Mux} {side : End} {choice : Choice}
    {point : ReadLoopPoint} {action : Action} {check : FrameCheck} {last : CloseSessionPoint}
    (sound : (mux.opener side.other).Sound side.other)
    (consistent : (mux.link side.other).Consistent)
    (reading : ReadingKnown (mux.link side.other) point)
    (entering : ∀ id, point = .insert id → EnteringKnown mux side id ∧
      (mux.session side).streams.length < maxStreams ∧
        (¬ (mux.opener side.other).Unwrapped → mux.getStream side id = none))
    (running : ∀ inner, point ≠ .stopped (.frameCheck check) inner) :
    planReadLoop mux side choice point ≠
      some (action, .stopped (.frameCheck check) last) := by
  intro planned
  cases point with
  | readHeader =>
      rcases planReadLoop_cases planned with
        ⟨_, available, ⟨failing, failed, _⟩ | ⟨payloadFollows, dispatched, rfl⟩⟩ |
          ⟨_, _, _, ⟨_, other, _⟩ | ⟨other, _⟩⟩ | ⟨notTake, _⟩
      · rcases consistent.next reading available with ⟨frame, rest, ahead, header⟩
        have member : frame ∈ (mux.link side.other).begun := by
          rw [Link.begun_eq, ahead]
          simp
        have received : decodeHeader (mux.wire side.other).bytes = frame.header := header
        rw [received] at failed
        exact dispatch_valid (sound.valid frame member) (consistent.small frame member)
          failing failed
      · rcases dispatch_ok dispatched with
          ⟨_, _, ⟨_, _, _, equal⟩ | ⟨_, equal⟩⟩ | ⟨_, ⟨_, equal⟩ | ⟨_, equal⟩⟩ <;> cases equal
      · cases other
      · cases other
      · simp only [planReadLoop] at planned
        split at planned
        · split at planned
          · cases planned
          · split at planned <;> cases planned <;> cases notTake
        · cases planned
        · cases planned
  | insert id =>
      rcases entering id rfl with ⟨known, room, wrapped⟩
      have absent : mux.getStream side id = none := by
        by_cases unwrapped : (mux.opener side.other).Unwrapped
        · exact known.new unwrapped
        · exact wrapped unwrapped
      simp [planReadLoop, absent, Nat.not_le.mpr room] at planned
  | stopped stop inner =>
      simp only [planReadLoop, Option.map_eq_some_iff] at planned
      rcases planned with ⟨⟨taken, after⟩, _, equal⟩
      cases equal
      exact running inner rfl
  | _ =>
      simp only [planReadLoop] at planned
      repeat' split at planned
      all_goals cases planned

def checkOutline : Program.Outline Mux Thread where
  global _ := True
  assertion _ _ thread := ∀ side check point,
    thread ≠ .readLoop side (.stopped (.frameCheck check) point)

theorem checkOutline_valid :
    checkOutline.Valid program fun pool event =>
      Accommodates pool event ∧ linkOutline.Holds pool ∧ tableOutline.Holds pool where
  started pool thread _ enters _ := by
    refine ⟨trivial, ?_⟩
    rintro side check point rfl
    simp [program, entry] at enters
  undisturbedByStart pool thread other bystander holds _ _ found :=
    holds.thread other bystander found
  sequential pool self thread choice moved next holds present permitted taken := by
    refine ⟨trivial, ?_⟩
    rintro side check last rfl
    rcases permitted with ⟨accommodates, links, tables⟩
    rcases step_plan taken with ⟨action, planned, rfl⟩
    rcases plan_to_readLoop planned with ⟨point, rfl⟩
    rcases plan_readLoop planned with ⟨_, inner, equal⟩
    cases equal
    refine readLoop_passes (tables.global side.other).1 (links.global side.other)
      (links.thread self _ present).2.2 ?_ ?_ inner
    · rintro id rfl
      simp only [Accommodates, present] at accommodates
      exact ⟨tables.thread self _ present, accommodates.1,
        fun wrapped => accommodates.2 (Nat.lt_of_not_le wrapped)⟩
    · rintro stop rfl
      exact holds.thread self _ present side check stop rfl
  interferenceFree pool self thread choice moved next other bystander holds _ _ _ _ found :=
    holds.thread other bystander found

/-- In every run in which the opened streams find room, no `readLoop` returns
because of a frame check. -/
theorem no_frame_check {events : List (PoolEvent Thread Choice)} {pool : MuxPool}
    (run : program.machine.Run Accommodates initialPool events pool) (self : Nat) (side : End)
    (check : FrameCheck) (point : CloseSessionPoint) :
    pool.threads[self]? ≠ some (.readLoop side (.stopped (.frameCheck check) point)) := by
  intro present
  have initially : checkOutline.Holds initialPool := by
    refine ⟨trivial, fun self thread found => ?_⟩
    rintro side check point rfl
    rcases self with _ | _ | _
    · cases found
    · cases found
    · simp [initialPool] at found
  have known := run.strengthen fun _ _ past =>
    And.intro (linkOutline_of_run past)
      (tableOutline_of_run (fun _ _ _ permitted => permitted.nonzero) past)
  exact (checkOutline_valid.run initially known).thread self _ present side check point rfl

theorem no_frame_check_two_opens :
    ∃ events pool, program.machine.Run Accommodates initialPool events pool ∧
      (pool.shared.session .server).streams = [(1, 2), (2, 0)] ∧
      ∀ (self : Nat) (side : End) (check : FrameCheck) (point : CloseSessionPoint),
        pool.threads[self]? ≠ some (.readLoop side (.stopped (.frameCheck check) point)) := by
  have found := program.machine.exists_run Accommodates
    (fun pool => (pool.shared.session .server).streams = [(1, 2), (2, 0)]) initialPool
    [.spawn (.openStream .server .drawID), .spawn (.openStream .client .drawID),
      .advance 2 .proceed, .advance 2 .proceed, .advance 3 .proceed, .advance 3 .proceed,
      .advance 3 .proceed, .advance 3 .proceed, .advance 3 (.wrote 9), .advance 1 .proceed,
      .advance 1 .proceed] (by decide)
  rcases found with ⟨pool, run, table⟩
  exact ⟨_, pool, run, table, no_frame_check run⟩

/-! ## Tables that differ -/

/-- The applications open, accept, read, write, close and send datagrams, and
the connection does not fail. -/
def Conforming (_ : MuxPool) : PoolEvent Thread Choice → Prop
  | .spawn (.receiveDatagram _ _) | .spawn (.setDeadlines _ _ _ _)
  | .spawn (.closeSession _ _) => False
  | .spawn _ => True
  | .advance _ choice => choice ≠ .fail

/-- The client has opened `count` streams, which the server has accepted beside
one that it opened itself and whose OPEN frame is still on its way. -/
structure Crowded (count : Nat) (mux : Mux) : Prop where
  opened : (mux.session .client).streams.length = count
  drawn : (mux.session .client).nextID = idAt .client count
  theirs : ∀ entry ∈ (mux.session .client).streams, ∃ place < count, entry.1 = idAt .client place
  token : (mux.session .client).writeToken = none
  held : (mux.session .server).streams.length = count + 1
  ours : ∀ entry ∈ (mux.session .server).streams,
    entry.1 = 2 ∨ ∃ place < count, entry.1 = idAt .client place
  accepted : (mux.session .server).acceptCh = []
  bytes : (mux.wire .client).bytes = []
  whole : (mux.wire .client).broken = false


theorem Crowded.new {count : Nat} {mux : Mux} (crowded : Crowded count mux)
    (below : count < maxStreams) (side : End) :
    mux.getStream side (idAt .client count) = none := by
  simp only [maxStreams] at below
  have others : ∀ place < count, idAt .client place ≠ idAt .client count := by
    intro place before same
    have equal := idAt_injective (by omega) (by omega) same
    omega
  rw [getStream_none]
  intro entry member
  cases side with
  | client =>
      rcases crowded.theirs entry member with ⟨place, before, equal⟩
      rw [equal]
      exact others place before
  | server =>
      rcases crowded.ours entry member with equal | ⟨place, before, equal⟩
      · rw [equal]
        intro same
        have values := congrArg UInt32.toNat same
        rw [idAt_toNat] at values
        simp [End.firstID] at values
        omega
      · rw [equal]
        exact others place before

theorem filter_absent {mux : Mux} {side : End} {id : UInt32}
    (absent : mux.getStream side id = none) :
    ((mux.session side).streams.filter fun entry => entry.1 ≠ id) =
      (mux.session side).streams := by
  rw [List.filter_eq_self]
  intro entry member
  simpa using getStream_none.mp absent entry member

def afterOpen (self count : Nat) (mux : Mux) : Mux :=
  Action.applyAll self mux (openActions .client (idAt .client count))

def afterAccept (self count : Nat) (mux : Mux) : Mux :=
  (Action.popAccept .server).apply self
    (Action.applyAll 1 mux (readOpenActions .server (idAt .client count) mux.objects.length))

theorem Crowded.opened_fields {count : Nat} {mux : Mux} (crowded : Crowded count mux)
    (below : count < maxStreams) (self : Nat) :
    ((afterOpen self count mux).session .client).streams =
        (idAt .client count, mux.objects.length) :: (mux.session .client).streams ∧
      ((afterOpen self count mux).session .client).nextID = idAt .client (count + 1) ∧
      ((afterOpen self count mux).session .client).writeToken = none ∧
      (afterOpen self count mux).session .server = mux.session .server ∧
      ((afterOpen self count mux).wire .client).bytes = (openFrame (idAt .client count)).encode ∧
      ((afterOpen self count mux).wire .client).broken = false := by
  have kept := filter_absent (crowded.new below .client)
  simp only [afterOpen, Action.applyAll, openActions, writeFrameActions, List.foldl_cons,
    List.foldl_nil]
  simp [Action.apply, Action.begin, crowded.whole, crowded.bytes, crowded.drawn, idAt_succ]
  simpa using kept

theorem Crowded.afterAccept {count : Nat} {mux : Mux} (crowded : Crowded count mux)
    (below : count < maxStreams) (opener acceptor : Nat) :
    Crowded (count + 1) (afterAccept acceptor count (afterOpen opener count mux)) := by
  rcases crowded.opened_fields below opener with ⟨streams, next, token, server, bytes, whole⟩
  have absent : (afterOpen opener count mux).getStream .server (idAt .client count) = none := by
    simp only [Mux.getStream, server]
    exact crowded.new below .server
  have kept := filter_absent absent
  generalize afterOpen opener count mux = middle at *
  have table : ((TLSMux.afterAccept acceptor count middle).session .server).streams =
      (idAt .client count, middle.objects.length) :: (mux.session .server).streams := by
    rw [← server, ← kept]
    simp [TLSMux.afterAccept, Action.applyAll, readOpenActions, Action.apply]
  have client : (TLSMux.afterAccept acceptor count middle).session .client =
      middle.session .client := by
    simp [TLSMux.afterAccept, Action.applyAll, readOpenActions, Action.apply]
  refine ⟨?_, ?_, ?_, ?_, ?_, ?_, ?_, ?_, ?_⟩
  · simp [client, streams, crowded.opened]
  · rw [client, next]
  · rw [client, streams]
    intro entry member
    rcases List.mem_cons.mp member with rfl | old
    · exact ⟨count, by omega, rfl⟩
    · rcases crowded.theirs entry old with ⟨place, before, equal⟩
      exact ⟨place, by omega, equal⟩
  · rw [client, token]
  · simp [table, crowded.held]
  · rw [table]
    intro entry member
    rcases List.mem_cons.mp member with rfl | old
    · exact .inr ⟨count, by omega, rfl⟩
    · rcases crowded.ours entry old with two | ⟨place, before, equal⟩
      · exact .inl two
      · exact .inr ⟨place, by omega, equal⟩
  · simp [TLSMux.afterAccept, Action.applyAll, readOpenActions, Action.apply, server,
      crowded.accepted]
  · simp [TLSMux.afterAccept, Action.applyAll, readOpenActions, Action.apply, End.other, bytes,
      openFrame, List.drop_of_length_le]
  · simp [TLSMux.afterAccept, Action.applyAll, readOpenActions, Action.apply, End.other, whole]

theorem idAt_client_valid (count : Nat) :
    idAt .client count ≠ 0 ∧ End.server.remoteOwnsID (idAt .client count) = true := by
  refine ⟨fun zero => ?_, (remoteOwnsID_idAt .client count).1⟩
  have values := congrArg UInt32.toNat zero
  rw [idAt_toNat] at values
  simp [End.firstID] at values
  omega

theorem open_call {count : Nat} {pool : MuxPool}
    (reading : pool.threads[1]? = some (.readLoop .server .readHeader))
    (crowded : Crowded count pool.shared) (below : count < maxStreams) :
    ∃ events next self, program.machine.Run Conforming pool events next ∧
      next.threads[1]? = some (.readLoop .server .readHeader) ∧
      next.shared = afterOpen self count pool.shared := by
  have present : 1 < pool.threads.length := (List.getElem?_eq_some_iff.mp reading).1
  refine ⟨_, _, pool.threads.length, Program.run_call (openStream_alone pool.threads.length
    crowded.drawn (by rw [crowded.opened]; exact below) crowded.token crowded.whole)
    rfl trivial (by simp [Conforming]), ?_, rfl⟩
  · rw [Pool.update_other _ (by omega)]
    exact Pool.start_old reading _

theorem crowded_round {count : Nat} {pool : MuxPool}
    (reading : pool.threads[1]? = some (.readLoop .server .readHeader))
    (crowded : Crowded count pool.shared) (below : count + 1 < maxStreams) :
    ∃ events next, program.machine.Run Conforming pool events next ∧
      next.threads[1]? = some (.readLoop .server .readHeader) ∧
      Crowded (count + 1) next.shared := by
  have small : count < maxStreams := by omega
  have valid := idAt_client_valid count
  rcases open_call reading crowded small with ⟨_, middle, self, opening, still, shared⟩
  rcases crowded.opened_fields small self with ⟨_, _, _, server, bytes, _⟩
  rw [← shared] at server bytes
  have absent : middle.shared.getStream .server (idAt .client count) = none := by
    simp only [Mux.getStream, server]
    exact crowded.new small .server
  have entering : program.machine.Run Conforming middle _ _ :=
    Program.run_alone still (readOpen_alone 1 valid.1 valid.2 bytes absent
      (by rw [server, crowded.held]; exact below) (by rw [server, crowded.accepted]; decide))
      (by simp [Conforming])
  have present : 1 < middle.threads.length := (List.getElem?_eq_some_iff.mp still).1
  generalize entry : middle.update 1 (Action.applyAll 1 middle.shared (readOpenActions .server
    (idAt .client count) middle.shared.objects.length)) (.readLoop .server .readHeader) =
      entered at entering
  have reads : entered.threads[1]? = some (.readLoop .server .readHeader) := by
    rw [← entry]
    exact Pool.update_self still _ _
  have waiting : (entered.shared.session .server).acceptCh = [middle.shared.objects.length] := by
    rw [← entry]
    simp [Action.applyAll, readOpenActions, Action.apply, server, crowded.accepted]
  have accepting : program.machine.Run Conforming entered _ _ :=
    Program.run_call (acceptStream_alone entered.threads.length waiting) rfl trivial
      (by simp [Conforming])
  refine ⟨_, _, (opening.append entering).append accepting, ?_, ?_⟩
  · have inside : 1 < entered.threads.length := (List.getElem?_eq_some_iff.mp reads).1
    rw [Pool.update_other _ (by omega)]
    exact Pool.start_old reads _
  · rw [Pool.update_shared, ← entry, Pool.update_shared, shared]
    exact crowded.afterAccept small self _

theorem stream_limit_abort {pool : MuxPool}
    (reading : pool.threads[1]? = some (.readLoop .server .readHeader))
    (crowded : Crowded (maxStreams - 1) pool.shared) :
    ∃ events next, program.machine.Run Conforming pool events next ∧
      next.threads[1]? =
        some (.readLoop .server (stopping (.frameCheck .streamLimit))) := by
  have small : maxStreams - 1 < maxStreams := by decide
  have valid := idAt_client_valid (maxStreams - 1)
  rcases open_call reading crowded small with ⟨_, middle, self, opening, still, shared⟩
  rcases crowded.opened_fields small self with ⟨_, _, _, server, bytes, _⟩
  rw [← shared] at server bytes
  have absent : middle.shared.getStream .server (idAt .client (maxStreams - 1)) = none := by
    simp only [Mux.getStream, server]
    exact crowded.new small .server
  have refusing : program.machine.Run Conforming middle _ _ :=
    Program.run_alone still
      (readOpen_full 1 valid.1 valid.2 bytes absent (by rw [server, crowded.held]; decide))
      (by simp [Conforming])
  exact ⟨_, _, opening.append refusing, Pool.update_self still _ _⟩

theorem crowded_reached (count : Nat) (below : count < maxStreams) :
    ∃ events pool, program.machine.Run Conforming initialPool events pool ∧
      pool.threads[1]? = some (.readLoop .server .readHeader) ∧ Crowded count pool.shared := by
  induction count with
  | zero =>
      have alone := @openStream_alone 2 Mux.new .server 2 rfl (by decide) rfl rfl
      have opening : program.machine.Run Conforming initialPool _ _ :=
        Program.run_call alone rfl trivial (by simp [Conforming])
      refine ⟨_, _, opening, rfl, rfl, rfl, (fun _ wrong => by cases wrong), rfl, rfl, ?_, rfl, rfl,
        rfl⟩
      intro entry member
      exact .inl (congrArg Prod.fst (List.mem_singleton.mp member))
  | succ count induction =>
      rcases induction (by omega) with ⟨before, pool, run, reading, crowded⟩
      rcases crowded_round reading crowded below with ⟨after, next, more, still, grown⟩
      exact ⟨_, next, run.append more, still, grown⟩

/-- A server that has one stream of its own aborts the session on the client's
256th OPEN frame, which the client sent with 255 streams in its table. -/
theorem conforming_ends_abort :
    ∃ events pool, program.machine.Run Conforming initialPool events pool ∧
      pool.threads[1]? =
        some (.readLoop .server (stopping (.frameCheck .streamLimit))) := by
  rcases crowded_reached (maxStreams - 1) (by decide) with ⟨before, pool, run, reading, crowded⟩
  rcases stream_limit_abort reading crowded with ⟨after, next, more, aborted⟩
  exact ⟨_, next, run.append more, aborted⟩

end Rdpulse.TLSMux
