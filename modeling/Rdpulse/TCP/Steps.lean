import Rdpulse.TCP.Tunnels

namespace Rdpulse.TCP

open Foundation Pipes Protocol

/-! # What one step does

A step of a thread passes bytes at its own ends only, gains at most one end, and leaves the
thread with what it has to know at its next point. -/

variable (deployment : Deployment)

structure Advance (mover : Nat) (before after : Pipes PipeInfo) (thread next : Thread) : Prop where
  holder : ∀ e other, holder before e = some other → holder after e = some other
  place : ∀ index place, placeOf before index = some place → placeOf after index = some place
  bytes : ∀ e, e.pipe < before.infos.length → TCP.holder before e ≠ some mover →
    Untouched before after e
  newborn : ∀ e, before.infos.length ≤ e.pipe → e.pipe < after.infos.length →
    after.told e = [] ∧ after.heard e = []
  gained : ∀ e other place, TCP.holder after e = some other → placeOf after e.pipe = some place →
    (TCP.holder before e = some other ∧ placeOf before e.pipe = some place) ∨
      (other = mover ∧ Holds deployment next e place)
  same : ∀ e place, Holds deployment thread e place → Holds deployment next e place
  known : Known deployment after mover next

section Kinds

variable {deployment} {self : Nat} {before after : Pipes PipeInfo} {thread next : Thread}

theorem infos_of_holder {pipes : Pipes PipeInfo} {e : End} {other : Nat}
    (held : holder pipes e = some other) : e.pipe < pipes.infos.length := by
  unfold holder at held
  split at held
  · cases held
  · rename_i info found
    exact (List.getElem?_eq_some_iff.mp found).1

theorem advance_of_held (infos : after.infos = before.infos)
    (elsewhere : ∀ e, holder before e ≠ some self → Untouched before after e)
    (same : ∀ e place, Holds deployment thread e place → Holds deployment next e place)
    (known : Known deployment after self next) :
    Advance deployment self before after thread next where
  holder other owner owned := (holder_congr infos other).trans owned
  place index place found := (placeOf_congr infos index).trans found
  bytes other _ foreign := elsewhere other foreign
  newborn other new old := by
    rw [infos] at old
    omega
  gained other owner place owned found :=
    .inl ⟨(holder_congr infos other).symm.trans owned,
      (placeOf_congr infos other.pipe).symm.trans found⟩
  same := same
  known := known

theorem advance_of_moves {e : End} {written got : Bytes}
    (moves : before.Moves after e written got) (held : holder before e = some self)
    (same : ∀ e place, Holds deployment thread e place → Holds deployment next e place)
    (known : Known deployment after self next) :
    Advance deployment self before after thread next := by
  refine advance_of_held moves.infos (fun other foreign => moves.elsewhere other ?_) same known
  intro equal
  rw [equal] at foreign
  exact foreign held

theorem holder_openPipe_old {pipes : Pipes PipeInfo} {e : End} {info : PipeInfo} {window : Nat}
    {prompt : Bool} (old : e.pipe < pipes.infos.length) :
    holder (pipes.openPipe info window prompt) e = holder pipes e := by
  simp only [holder, openPipe, List.getElem?_append_left old]

theorem placeOf_openPipe_old {pipes : Pipes PipeInfo} {index : Nat} {info : PipeInfo}
    {window : Nat} {prompt : Bool} (old : index < pipes.infos.length) :
    placeOf (pipes.openPipe info window prompt) index = placeOf pipes index := by
  simp only [placeOf, openPipe, List.getElem?_append_left old]

theorem holder_openPipe_new (pipes : Pipes PipeInfo) (info : PipeInfo) (window : Nat)
    (prompt : Bool) : holder (pipes.openPipe info window prompt)
      (openedEnd pipes.infos.length) = some info.opener := by
  simp [holder, openPipe, openedEnd]

theorem placeOf_openPipe_new (pipes : Pipes PipeInfo) (info : PipeInfo) (window : Nat)
    (prompt : Bool) :
    placeOf (pipes.openPipe info window prompt) pipes.infos.length = some info.place := by
  simp [placeOf, openPipe]

theorem advance_of_dial {place : Place} {window : Nat} {prompt : Bool}
    (opened : after = before.openPipe ⟨place, self, none⟩ window prompt)
    (holds : Holds deployment next (openedEnd before.infos.length) place)
    (same : ∀ e place, Holds deployment thread e place → Holds deployment next e place)
    (known : Known deployment after self next) :
    Advance deployment self before after thread next where
  holder e owner owned := by
    rw [opened, holder_openPipe_old (infos_of_holder owned)]
    exact owned
  place index served found := by
    rw [opened, placeOf_openPipe_old, found]
    rcases Option.map_eq_some_iff.mp found with ⟨info, there, _⟩
    exact (List.getElem?_eq_some_iff.mp there).1
  bytes e old _ := by
    rw [opened]
    exact ⟨told_openPipe_old before e _ _ _ old, heard_openPipe_old before e _ _ _ old⟩
  newborn e new old := by
    rw [opened] at old ⊢
    simp only [openPipe, List.length_append, List.length_singleton] at old
    rcases e with ⟨pipe, side⟩
    have index : pipe = before.infos.length := Nat.le_antisymm (Nat.lt_succ_iff.mp old) new
    cases index
    exact ⟨told_openPipe_new before _ _ _ side, heard_openPipe_new before _ _ _ side⟩
  gained e owner served owned found := by
    have bound := infos_of_holder owned
    rw [opened] at owned found bound
    by_cases old : e.pipe < before.infos.length
    · rw [holder_openPipe_old old] at owned
      rw [placeOf_openPipe_old old] at found
      exact .inl ⟨owned, found⟩
    · -- The only new end with a holder is the one that the thread got.
      have index : e.pipe = before.infos.length := by
        simp only [openPipe, List.length_append, List.length_singleton] at bound
        omega
      rcases e with ⟨pipe, side⟩
      cases index
      cases side with
      | near =>
          rw [show (⟨before.infos.length, .near⟩ : End) = openedEnd before.infos.length from rfl,
            holder_openPipe_new] at owned
          rw [placeOf_openPipe_new] at found
          cases owned
          cases found
          exact .inr ⟨rfl, holds⟩
      | far => simp [TCP.holder, openPipe] at owned
  same := same
  known := known

theorem acceptPipe_spec {network moved : Network} {place : Place} {index : Nat}
    (taken : acceptPipe network self place index = some moved) :
    index < network.pipes.infos.length ∧ moved.pipes.infos.length = network.pipes.infos.length ∧
      moved.pipes.lanes = network.pipes.lanes ∧
      holder network.pipes (acceptedEnd index) = none ∧
      holder moved.pipes (acceptedEnd index) = some self ∧
      placeOf moved.pipes index = some place ∧
      (∀ e, e ≠ acceptedEnd index → holder moved.pipes e = holder network.pipes e) ∧
      ∀ other, placeOf moved.pipes other = placeOf network.pipes other := by
  unfold acceptPipe at taken
  split at taken
  · cases taken
  rename_i info found
  split at taken
  · rename_i waiting
    rcases waiting with ⟨there, unaccepted⟩
    have bound := (List.getElem?_eq_some_iff.mp found).1
    cases taken
    have entry (other : Nat) : (network.pipes.setInfo index
        { info with accepter := some self }).infos[other]? =
        if index = other then some { info with accepter := some self }
        else network.pipes.infos[other]? := by
      simp only [setInfo, List.getElem?_set, bound, if_true]
    refine ⟨bound, List.length_set, rfl, ?_, ?_, ?_, fun e apart => ?_, fun other => ?_⟩
    · simp [holder, acceptedEnd, found, unaccepted]
    · simp only [Network.withPipes_pipes, holder, acceptedEnd, entry, if_true]
    · simp only [Network.withPipes_pipes, placeOf, entry, if_true]
      exact congrArg some there
    · simp only [Network.withPipes_pipes, holder, entry]
      by_cases here : index = e.pipe
      · rcases e with ⟨pipe, side⟩
        cases here
        cases side with
        | near => simp [found]
        | far => exact absurd rfl apart
      · rw [if_neg here]
    · simp only [Network.withPipes_pipes, placeOf, entry]
      by_cases here : index = other
      · cases here
        simp [found]
      · rw [if_neg here]
  · cases taken

theorem advance_of_accept {network moved : Network} {place : Place} {index : Nat}
    (taken : acceptPipe network self place index = some moved)
    (holds : Holds deployment next (acceptedEnd index) place)
    (same : ∀ e place, Holds deployment thread e place → Holds deployment next e place)
    (known : Known deployment moved.pipes self next) :
    Advance deployment self network.pipes moved.pipes thread next := by
  rcases acceptPipe_spec taken with ⟨bound, sized, lanes, free, held, placed, others, places⟩
  have silent (e : End) : Untouched network.pipes moved.pipes e := by
    simp only [Untouched, told, heard, lanes, and_self]
  refine ⟨fun e owner owned => ?_, fun index served found => (places index).trans found,
    fun e _ _ => silent e, fun e new old => ?_, fun e owner served owned found => ?_, same, known⟩
  · rw [others e ?_, owned]
    rintro rfl
    rw [free] at owned
    cases owned
  · rw [sized] at old
    omega
  · rw [places] at found
    by_cases here : e = acceptedEnd index
    · subst here
      rw [held] at owned
      rw [show (acceptedEnd index).pipe = index from rfl, ← places, placed] at found
      cases owned
      cases found
      exact .inr ⟨rfl, holds⟩
    · rw [others e here] at owned
      exact .inl ⟨owned, found⟩

end Kinds

/-! ## Handlers with one connection -/

section Handlers

variable {deployment} {self : Nat} {network moved : Network} {place : Place}
  {accepted opened : Nat} {choice : Choice}

theorem advance_single {pipes : Pipes PipeInfo} {point later : SinglePoint} {written got : Bytes}
    (known : Known deployment network.pipes self (.single place accepted point))
    (moves : network.pipes.Moves pipes (acceptedEnd accepted) written got)
    (reached : SingleKnown pipes place accepted later) :
    Advance deployment self network.pipes pipes (.single place accepted point)
      (.single place accepted later) := by
  rcases known with ⟨handled, held, placed, _⟩
  exact advance_of_moves moves held (fun _ _ holds => holds)
    ⟨handled, (holder_congr moves.infos _).trans held, (placeOf_congr moves.infos _).trans placed,
      reached⟩

theorem advance_single_still {point later : SinglePoint}
    (known : Known deployment network.pipes self (.single place accepted point))
    (reached : SingleKnown network.pipes place accepted later) :
    Advance deployment self network.pipes network.pipes (.single place accepted point)
      (.single place accepted later) :=
  advance_single known (moves_nothing _ _) reached

theorem agent_of_skip (headed : skip place = tcpHeaderSize) : ∃ agent, place = .agent agent := by
  cases place with
  | agent agent => exact ⟨agent, rfl⟩
  | publicPort agent => cases headed
  | localPort controller => cases headed
  | relay controller => cases headed
  | rdp agent => cases headed

theorem dial_untouched (deployment : Deployment) (held : holder network.pipes (acceptedEnd accepted) = some self)
    (served : Place) :
    Untouched network.pipes (network.dial deployment self served).pipes (acceptedEnd accepted) :=
  ⟨told_openPipe_old _ _ _ _ _ (infos_of_holder held),
    heard_openPipe_old _ _ _ _ _ (infos_of_holder held)⟩

theorem advance_dialed {point : SinglePoint} {later : DoublePoint}
    (known : Known deployment network.pipes self (.single place accepted point))
    (reached : DoubleKnown deployment (network.dial deployment self (onward deployment place)).pipes
      place accepted network.fresh later) :
    Advance deployment self network.pipes
      (network.dial deployment self (onward deployment place)).pipes
      (.single place accepted point) (.double place accepted network.fresh later) := by
  rcases known with ⟨handled, held, placed, _⟩
  refine advance_of_dial rfl (.inr ⟨rfl, rfl⟩) (fun e served holds => .inl holds)
    ⟨handled, ?_, holder_openPipe_new _ _ _ _, ?_, placeOf_openPipe_new _ _ _ _, reached⟩
  · exact (holder_openPipe_old (infos_of_holder held)).trans held
  · exact (placeOf_openPipe_old (infos_of_holder held)).trans placed

theorem advance_asking {point : SinglePoint} {connID : UInt32}
    (known : Known deployment network.pipes self (.single place accepted point))
    (here : skip place = 0) (there : skip (onward deployment place) = tcpHeaderSize)
    (told : network.pipes.told (acceptedEnd accepted) = [])
    (heard : network.pipes.heard (acceptedEnd accepted) = []) :
    Advance deployment self network.pipes
      (network.dial deployment self (onward deployment place)).pipes
      (.single place accepted point) (.double place accepted network.fresh
        (.writeOpen (.starting (openHeader connID).encode))) := by
  have old := dial_untouched deployment known.2.1 (onward deployment place)
  refine advance_dialed known ⟨here, there, old.1.trans told, old.2.trans heard,
    heard_openPipe_new _ _ _ _ _, connID, ?_⟩
  have new : (network.dial deployment self (onward deployment place)).pipes.told
      (openedEnd network.fresh) = [] := told_openPipe_new _ _ _ _ _
  rw [new]
  rfl

theorem advance_opening (known : Known deployment network.pipes self (.single place accepted .opening))
    {next : Thread}
    (taken : stepSingle deployment self network place accepted choice .opening =
      some (moved, next)) :
    Advance deployment self network.pipes moved.pipes (.single place accepted .opening) next := by
  rcases known.2.2.2 with ⟨here, told, heard⟩
  cases choice with
  | answer yes =>
      cases yes with
      | false =>
          cases taken
          exact advance_single_still known (.inl told)
      | true =>
          cases place with
          | publicPort agent =>
              cases taken
              exact advance_asking known rfl rfl told heard
          | relay controller =>
              cases taken
              exact advance_asking known rfl rfl told heard
          | localPort controller =>
              cases taken
              have old := dial_untouched deployment known.2.1 (.relay controller)
              have new := told_openPipe_new network.pipes ⟨.relay controller, self, none⟩
                deployment.window (carrier deployment (.relay controller)).prompt .near
              have fresh := heard_openPipe_new network.pipes ⟨.relay controller, self, none⟩
                deployment.window (carrier deployment (.relay controller)).prompt .near
              refine advance_dialed known ⟨_, Splice.carries_start _ _, ?_, ?_, ?_, ?_, ?_, ?_⟩
              · exact congrArg List.length (old.1.trans told)
              · exact congrArg List.length (old.2.trans heard)
              · exact congrArg List.length new
              · exact congrArg List.length fresh
              · exact fun wrong => by cases wrong
              · exact fun wrong => by cases wrong
          | agent agent => cases here
          | rdp agent => exact absurd trivial known.1
  | _ => simp [stepSingle] at taken

theorem advance_readOpen {got : Bytes} {next : Thread}
    (known : Known deployment network.pipes self (.single place accepted (.readOpen got)))
    (taken : stepSingle deployment self network place accepted choice (.readOpen got) =
      some (moved, next)) :
    Advance deployment self network.pipes moved.pipes (.single place accepted (.readOpen got))
      next := by
  rcases known.2.2.2 with ⟨here, told, heard, short⟩
  cases choice with
  | io io =>
      simp only [stepSingle] at taken
      split at taken
      · cases taken
      · rename_i pipes later found
        rcases readFull_spec short found with ⟨chunk, moves, bounded, shape⟩
        cases taken
        refine advance_single known moves ⟨here, (moves.told_kept _).trans told, ?_, ?_⟩
        · rcases shape with same | ⟨wrong, _⟩ | wrong
          · cases same
            rw [Network.withPipes_pipes, moves.heard, heard]
          · cases wrong
          · cases wrong
        · rcases shape with same | ⟨wrong, _⟩ | wrong
          · cases same
            exact bounded
          · cases wrong
          · cases wrong
      · rename_i pipes buf found
        rcases readFull_spec short found with ⟨chunk, moves, bounded, shape⟩
        have still := (moves.told_kept (acceptedEnd accepted)).trans told
        split at taken
        · rename_i hdr accepts
          split at taken
          · rename_i opens
            cases taken
            rcases shape with wrong | ⟨same, full⟩ | wrong
            · cases wrong
            · cases same
              have encoded := ((readTCPHeader_iff full).mp accepts).2
              refine advance_single known moves ⟨here, still, ?_, opens⟩
              rw [Network.withPipes_pipes, moves.heard, heard]
              exact encoded
            · cases wrong
          · cases taken
            exact advance_single known moves (.inl still)
        · cases taken
          exact advance_single known moves (.inl still)
      · rename_i pipes found
        rcases readFull_spec short found with ⟨chunk, moves, _, _⟩
        cases taken
        exact advance_single known moves (.inl ((moves.told_kept _).trans told))
  | _ => simp [stepSingle] at taken

theorem advance_dialing {hdr : TCPHeader} {next : Thread}
    (known : Known deployment network.pipes self (.single place accepted (.dialing hdr)))
    (taken : stepSingle deployment self network place accepted choice (.dialing hdr) =
      some (moved, next)) :
    Advance deployment self network.pipes moved.pipes (.single place accepted (.dialing hdr))
      next := by
  rcases known.2.2.2 with ⟨here, told, heard, opens⟩
  cases choice with
  | answer yes =>
      cases yes with
      | false =>
          cases taken
          refine advance_single_still known ⟨here, hdr, ?_⟩
          rw [told]
          rfl
      | true =>
          cases taken
          have old := dial_untouched deployment known.2.1 (onward deployment place)
          have there : skip (onward deployment place) = 0 := by
            rcases agent_of_skip here with ⟨agent, rfl⟩
            rfl
          refine advance_dialed known ⟨here, there, told_openPipe_new _ _ _ _ _,
            heard_openPipe_new _ _ _ _ _, hdr, opens, old.2.trans heard, ?_⟩
          rw [old.1, told]
          rfl
  | _ => simp [stepSingle] at taken

theorem told_write {pipes : Pipes PipeInfo} {e : End} {call : WriteCall} {sent whole : Bytes}
    (moves : network.pipes.Moves pipes e sent []) {rest : Bytes} (split : call.rest = sent ++ rest)
    (told : network.pipes.told e ++ call.rest = whole) : pipes.told e ++ rest = whole := by
  rw [moves.told, List.append_assoc, ← split, told]

theorem exists_rest {call : WriteCall} {result : WriteResult} {sent : Bytes}
    (shape : (∃ later, result = .pending later ∧ call.rest = sent ++ later.rest) ∨
      (result = .succeeded ∧ call.rest = sent) ∨ ∃ failure, result = .failed failure ∧ sent = []) :
    ∃ rest, call.rest = sent ++ rest := by
  rcases shape with ⟨later, _, split⟩ | ⟨_, whole⟩ | ⟨_, _, nothing⟩
  · exact ⟨later.rest, split⟩
  · exact ⟨[], by rw [whole, List.append_nil]⟩
  · exact ⟨call.rest, by rw [nothing, List.nil_append]⟩

theorem advance_writeError {call : WriteCall} {next : Thread}
    (known : Known deployment network.pipes self (.single place accepted (.writeError call)))
    (taken : stepSingle deployment self network place accepted choice (.writeError call) =
      some (moved, next)) :
    Advance deployment self network.pipes moved.pipes (.single place accepted (.writeError call))
      next := by
  rcases known.2.2.2 with ⟨here, hdr, told⟩
  cases choice with
  | io io =>
      simp only [stepSingle] at taken
      split at taken
      · cases taken
      · rename_i pipes later found
        rcases write_spec found with ⟨sent, moves, shape⟩
        cases taken
        rcases shape with ⟨other, same, split⟩ | ⟨wrong, _⟩ | ⟨_, wrong, _⟩
        · cases same
          exact advance_single known moves ⟨here, hdr, told_write moves split told⟩
        · cases wrong
        · cases wrong
      · rename_i pipes result _ found
        rcases write_spec found with ⟨sent, moves, shape⟩
        cases taken
        -- Whether it succeeds or fails, what has been sent is a part of the header.
        rcases exists_rest shape with ⟨rest, split⟩
        exact advance_single known moves (.inr ⟨here, hdr, rest, told_write moves split told⟩)
  | _ => simp [stepSingle] at taken

theorem stepSingle_advance {point : SinglePoint} {next : Thread}
    (known : Known deployment network.pipes self (.single place accepted point))
    (taken : stepSingle deployment self network place accepted choice point = some (moved, next)) :
    Advance deployment self network.pipes moved.pipes (.single place accepted point) next := by
  cases point with
  | checking =>
      have ready := known.2.2.2
      cases choice with
      | answer yes =>
          cases yes with
          | true =>
              cases taken
              exact advance_single_still known ready
          | false =>
              cases taken
              exact advance_single_still known (.inl ready.2.1)
      | _ => simp [stepSingle] at taken
  | opening => exact advance_opening known taken
  | readOpen got => exact advance_readOpen known taken
  | dialing hdr => exact advance_dialing known taken
  | writeError call => exact advance_writeError known taken
  | leaving ops =>
      have told := known.2.2.2
      simp only [stepSingle] at taken
      split at taken
      · rename_i op later _
        cases taken
        have kept : SingleKnown network.pipes place accepted (.leaving later) := told
        exact advance_single known (moves_apply _ op _)
          (kept.frame ⟨told_apply _ _ _, heard_apply _ _ _⟩)
      · cases taken

/-! ## Handlers with both connections -/

theorem advance_double {pipes : Pipes PipeInfo} {point later : DoublePoint} {e : End}
    {written got : Bytes}
    (known : Known deployment network.pipes self (.double place accepted opened point))
    (moves : network.pipes.Moves pipes e written got)
    (own : e = acceptedEnd accepted ∨ e = openedEnd opened)
    (reached : DoubleKnown deployment pipes place accepted opened later) :
    Advance deployment self network.pipes pipes (.double place accepted opened point)
      (.double place accepted opened later) := by
  rcases known with ⟨handled, first, second, placed, onwards, _⟩
  have held : holder network.pipes e = some self := by
    rcases own with rfl | rfl
    · exact first
    · exact second
  exact advance_of_moves moves held (fun _ _ holds => holds)
    ⟨handled, (holder_congr moves.infos _).trans first, (holder_congr moves.infos _).trans second,
      (placeOf_congr moves.infos _).trans placed, (placeOf_congr moves.infos _).trans onwards,
      reached⟩

theorem untouched_accepted (accepted : Nat) {pipes : Pipes PipeInfo} {written got : Bytes}
    (moves : network.pipes.Moves pipes (openedEnd opened) written got) :
    Untouched network.pipes pipes (acceptedEnd accepted) :=
  moves.elsewhere _ (acceptedEnd_ne_openedEnd accepted opened)

theorem untouched_opened (opened : Nat) {pipes : Pipes PipeInfo} {written got : Bytes}
    (moves : network.pipes.Moves pipes (acceptedEnd accepted) written got) :
    Untouched network.pipes pipes (openedEnd opened) :=
  moves.elsewhere _ (acceptedEnd_ne_openedEnd accepted opened).symm

theorem length_le_of_append {front rest whole : Bytes} (same : front ++ rest = whole) :
    front.length ≤ whole.length := by
  rw [← same, List.length_append]
  omega

theorem stopped_asking {pipes : Pipes PipeInfo} {rest : Bytes}
    (here : skip place = 0) (there : skip (onward deployment place) = tcpHeaderSize)
    (told : pipes.told (acceptedEnd accepted) = []) (asked : Asked pipes opened rest) :
    Stopped deployment pipes place accepted opened where
  toldAccepted := by
    rw [told]
    exact Nat.zero_le _
  toldOpened := by
    rcases asked with ⟨connID, same⟩
    rw [there]
    exact Nat.le_trans (length_le_of_append same) (Nat.le_of_eq (TCPHeader.encode_length _))
  asks _ := ⟨rest, asked⟩
  answers wrong := by
    rw [here] at wrong
    cases wrong

theorem advance_writeOpen {call : WriteCall} {next : DoublePoint}
    (known : Known deployment network.pipes self (.double place accepted opened (.writeOpen call)))
    (taken : stepDouble deployment network place accepted opened choice (.writeOpen call) =
      some (moved, next)) :
    Advance deployment self network.pipes moved.pipes
      (.double place accepted opened (.writeOpen call)) (.double place accepted opened next) := by
  rcases known.2.2.2.2.2 with ⟨here, there, told, heard, quiet, connID, asked⟩
  cases choice with
  | io io =>
      simp only [stepDouble] at taken
      split at taken
      · cases taken
      · rename_i pipes later found
        rcases write_spec found with ⟨sent, moves, shape⟩
        cases taken
        have still := untouched_accepted accepted moves
        rcases shape with ⟨other, same, split⟩ | ⟨wrong, _⟩ | ⟨_, wrong, _⟩
        · cases same
          exact advance_double known moves (.inr rfl)
            ⟨here, there, still.1.trans told, still.2.trans heard,
              (moves.heard_kept _).trans quiet, connID, told_write moves split asked⟩
        · cases wrong
        · cases wrong
      · rename_i pipes found
        rcases write_spec found with ⟨sent, moves, shape⟩
        cases taken
        have still := untouched_accepted accepted moves
        rcases shape with ⟨_, wrong, _⟩ | ⟨_, whole⟩ | ⟨_, wrong, _⟩
        · cases wrong
        · refine advance_double known moves (.inr rfl)
            ⟨here, there, still.1.trans told, still.2.trans heard,
              (moves.heard_kept _).trans quiet, Nat.zero_le _, connID, ?_⟩
          exact told_write moves (by rw [whole, List.append_nil]) asked
        · cases wrong
      · rename_i pipes failure found
        rcases write_spec found with ⟨sent, moves, shape⟩
        rcases exists_rest shape with ⟨rest, split⟩
        cases taken
        have still := untouched_accepted accepted moves
        exact advance_double known moves (.inr rfl)
          (stopped_asking here there (still.1.trans told)
            ⟨connID, told_write moves split asked⟩)
  | _ => simp [stepDouble] at taken

theorem greeted_asking {pipes : Pipes PipeInfo} {hdr : TCPHeader}
    (here : skip place = 0) (there : skip (onward deployment place) = tcpHeaderSize)
    (told : pipes.told (acceptedEnd accepted) = []) (heard : pipes.heard (acceptedEnd accepted) = [])
    (asked : Asked pipes opened []) (consents : hdr.type = tcpTypeOpenOK)
    (answer : pipes.heard (openedEnd opened) = hdr.encode) :
    Greeted deployment pipes place accepted opened where
  toldAccepted := by rw [told, here, List.length_nil]
  heardAccepted := by rw [heard, here, List.length_nil]
  toldOpened := by
    rcases asked with ⟨connID, same⟩
    rw [List.append_nil] at same
    rw [same, there, TCPHeader.encode_length]
  heardOpened := by rw [answer, there, TCPHeader.encode_length]
  asks _ := ⟨asked, hdr, consents, answer⟩
  answers wrong := by
    rw [here] at wrong
    cases wrong

theorem advance_readAnswer {got : Bytes} {next : DoublePoint}
    (known : Known deployment network.pipes self (.double place accepted opened (.readAnswer got)))
    (taken : stepDouble deployment network place accepted opened choice (.readAnswer got) =
      some (moved, next)) :
    Advance deployment self network.pipes moved.pipes
      (.double place accepted opened (.readAnswer got)) (.double place accepted opened next) := by
  rcases known.2.2.2.2.2 with ⟨here, there, told, heard, read, short, connID, asked⟩
  cases choice with
  | io io =>
      simp only [stepDouble] at taken
      split at taken
      · cases taken
      · rename_i pipes later found
        rcases readFull_spec short found with ⟨chunk, moves, bounded, shape⟩
        cases taken
        have still := untouched_accepted accepted moves
        rcases shape with same | ⟨wrong, _⟩ | wrong
        · cases same
          exact advance_double known moves (.inr rfl)
            ⟨here, there, still.1.trans told, still.2.trans heard,
              by rw [Network.withPipes_pipes, moves.heard, read], bounded, connID,
              by rw [Network.withPipes_pipes, moves.told_kept, asked]⟩
        · cases wrong
        · cases wrong
      · rename_i pipes buf found
        rcases readFull_spec short found with ⟨chunk, moves, bounded, shape⟩
        have still := untouched_accepted accepted moves
        have before := still.1.trans told
        have asking : Asked pipes opened [] := ⟨connID, by rw [moves.told_kept, asked]⟩
        have stopped := stopped_asking here there before asking
        split at taken
        · rename_i hdr accepts
          split at taken
          · rename_i consents
            cases taken
            rcases shape with wrong | ⟨same, full⟩ | wrong
            · cases wrong
            · cases same
              have encoded := ((readTCPHeader_iff full).mp accepts).2
              have answer : pipes.heard (openedEnd opened) = hdr.encode := by
                rw [moves.heard, read]
                exact encoded
              exact advance_double known moves (.inr rfl) ⟨pipes, Splice.carries_start _ _,
                greeted_asking here there before (still.2.trans heard) asking consents answer⟩
            · cases wrong
          · cases taken
            exact advance_double known moves (.inr rfl) stopped
        · cases taken
          exact advance_double known moves (.inr rfl) stopped
      · rename_i pipes found
        rcases readFull_spec short found with ⟨chunk, moves, _, _⟩
        cases taken
        have still := untouched_accepted accepted moves
        exact advance_double known moves (.inr rfl) (stopped_asking here there
          (still.1.trans told) ⟨connID, by rw [Network.withPipes_pipes, moves.told_kept, asked]⟩)
  | _ => simp [stepDouble] at taken

theorem stopped_answering {pipes : Pipes PipeInfo} {rest : Bytes}
    (here : skip place = tcpHeaderSize) (there : skip (onward deployment place) = 0)
    (told : pipes.told (openedEnd opened) = []) (consented : Consented pipes accepted rest) :
    Stopped deployment pipes place accepted opened where
  toldAccepted := by
    rcases consented with ⟨hdr, _, _, same⟩
    rw [here]
    exact Nat.le_trans (length_le_of_append same) (Nat.le_of_eq (TCPHeader.encode_length _))
  toldOpened := by
    rw [told]
    exact Nat.zero_le _
  asks wrong := by
    rw [there] at wrong
    cases wrong
  answers _ := ⟨rest, consented⟩

theorem greeted_answering {pipes : Pipes PipeInfo}
    (here : skip place = tcpHeaderSize) (there : skip (onward deployment place) = 0)
    (told : pipes.told (openedEnd opened) = []) (heard : pipes.heard (openedEnd opened) = [])
    (consented : Consented pipes accepted []) :
    Greeted deployment pipes place accepted opened where
  toldAccepted := by
    rcases consented with ⟨hdr, _, _, same⟩
    rw [List.append_nil] at same
    rw [same, here, TCPHeader.encode_length]
  heardAccepted := by
    rcases consented with ⟨hdr, _, read, _⟩
    rw [read, here, TCPHeader.encode_length]
  toldOpened := by rw [told, there, List.length_nil]
  heardOpened := by rw [heard, there, List.length_nil]
  asks wrong := by
    rw [there] at wrong
    cases wrong
  answers _ := consented

theorem advance_writeOK {call : WriteCall} {next : DoublePoint}
    (known : Known deployment network.pipes self (.double place accepted opened (.writeOK call)))
    (taken : stepDouble deployment network place accepted opened choice (.writeOK call) =
      some (moved, next)) :
    Advance deployment self network.pipes moved.pipes
      (.double place accepted opened (.writeOK call)) (.double place accepted opened next) := by
  rcases known.2.2.2.2.2 with ⟨here, there, told, heard, hdr, opens, read, consent⟩
  cases choice with
  | io io =>
      simp only [stepDouble] at taken
      split at taken
      · cases taken
      · rename_i pipes later found
        rcases write_spec found with ⟨sent, moves, shape⟩
        cases taken
        have still := untouched_opened opened moves
        rcases shape with ⟨other, same, split⟩ | ⟨wrong, _⟩ | ⟨_, wrong, _⟩
        · cases same
          exact advance_double known moves (.inl rfl)
            ⟨here, there, still.1.trans told, still.2.trans heard, hdr, opens,
              (moves.heard_kept _).trans read, told_write moves split consent⟩
        · cases wrong
        · cases wrong
      · rename_i pipes found
        rcases write_spec found with ⟨sent, moves, shape⟩
        cases taken
        have still := untouched_opened opened moves
        rcases shape with ⟨_, wrong, _⟩ | ⟨_, whole⟩ | ⟨_, wrong, _⟩
        · cases wrong
        · have consented : Consented pipes accepted [] := ⟨hdr, opens,
            (moves.heard_kept _).trans read,
            told_write moves (by rw [whole, List.append_nil]) consent⟩
          exact advance_double known moves (.inl rfl) ⟨pipes, Splice.carries_start _ _,
            greeted_answering here there (still.1.trans told) (still.2.trans heard) consented⟩
        · cases wrong
      · rename_i pipes failure found
        rcases write_spec found with ⟨sent, moves, shape⟩
        rcases exists_rest shape with ⟨rest, split⟩
        cases taken
        have still := untouched_opened opened moves
        exact advance_double known moves (.inl rfl)
          (stopped_answering here there (still.1.trans told)
            ⟨hdr, opens, (moves.heard_kept _).trans read, told_write moves split consent⟩)
  | _ => simp [stepDouble] at taken

theorem stepCaller_quiet {splice : Splice} {caller next : CallerPoint}
    (taken : stepCaller deployment place accepted opened network splice choice caller =
      some (moved, next)) :
    moved.pipes = network.pipes ∨ ∃ op, moved.pipes = network.pipes.apply op := by
  cases caller with
  | waiting =>
      simp only [stepCaller] at taken
      split at taken
      · cases taken
        exact .inl rfl
      · cases taken
        exact .inl rfl
      · cases taken
  | cancelling ops =>
      simp only [stepCaller] at taken
      split at taken
      · cases taken
        exact .inr ⟨_, rfl⟩
      · cases taken
        exact .inl rfl
      · cases taken
  | leaving ops =>
      simp only [stepCaller] at taken
      split at taken
      · cases taken
        exact .inr ⟨_, rfl⟩
      · cases taken

theorem advance_proxying {splice : Splice} {caller : CallerPoint} {next : DoublePoint}
    (known : Known deployment network.pipes self
      (.double place accepted opened (.proxying splice caller)))
    (taken : stepDouble deployment network place accepted opened choice (.proxying splice caller) =
      some (moved, next)) :
    Advance deployment self network.pipes moved.pipes
      (.double place accepted opened (.proxying splice caller))
      (.double place accepted opened next) := by
  rcases known with ⟨handled, first, second, placed, onwards, origin, carries, greeted⟩
  -- Either the copying goes on, or its caller closes something.
  have cases_ : (∃ goroutine later,
      splice.step network.pipes (wiring deployment place accepted opened) goroutine =
        some (moved.pipes, later) ∧ next = .proxying later caller) ∨
      ((moved.pipes = network.pipes ∨ ∃ op, moved.pipes = network.pipes.apply op) ∧
        ∃ later, next = .proxying splice later) := by
    simp only [stepDouble] at taken
    split at taken
    · rename_i goroutine
      split at taken
      · cases taken
      · rename_i pipes later found
        cases taken
        exact .inl ⟨goroutine, later, found, rfl⟩
    · split at taken
      · cases taken
      · rename_i after later found
        cases taken
        exact .inr ⟨stepCaller_quiet found, later, rfl⟩
  rcases cases_ with ⟨goroutine, later, found, rfl⟩ | ⟨quiet, later, rfl⟩
  · rcases Splice.step_elsewhere found with ⟨infos, elsewhere⟩
    refine advance_of_held infos (fun e foreign => ?_) (fun _ _ holds => holds)
      ⟨handled, (holder_congr infos _).trans first, (holder_congr infos _).trans second,
        (placeOf_congr infos _).trans placed, (placeOf_congr infos _).trans onwards, origin,
        carries.step (wiring_apart deployment place accepted opened) found, greeted⟩
    have apart : e ≠ acceptedEnd accepted ∧ e ≠ openedEnd opened := by
      constructor
      · rintro rfl
        exact foreign first
      · rintro rfl
        exact foreign second
    rcases wiring_ends deployment place accepted opened with ⟨one, two⟩ | ⟨one, two⟩
    · exact elsewhere e (one ▸ apart.1) (two ▸ apart.2)
    · exact elsewhere e (one ▸ apart.2) (two ▸ apart.1)
  · have same : moved.pipes.infos = network.pipes.infos ∧
        ∀ e, Untouched network.pipes moved.pipes e := by
      rcases quiet with same | ⟨op, closed⟩
      · rw [same]
        exact ⟨rfl, fun _ => ⟨rfl, rfl⟩⟩
      · rw [closed]
        exact ⟨apply_infos _ _, fun e => ⟨told_apply _ _ _, heard_apply _ _ _⟩⟩
    exact advance_of_held same.1 (fun e _ => same.2 e) (fun _ _ holds => holds)
      ⟨handled, (holder_congr same.1 _).trans first, (holder_congr same.1 _).trans second,
        (placeOf_congr same.1 _).trans placed, (placeOf_congr same.1 _).trans onwards, origin,
        carries.frame (same.2 _) (same.2 _), greeted⟩

theorem stepDouble_advance {point next : DoublePoint}
    (known : Known deployment network.pipes self (.double place accepted opened point))
    (taken : stepDouble deployment network place accepted opened choice point =
      some (moved, next)) :
    Advance deployment self network.pipes moved.pipes (.double place accepted opened point)
      (.double place accepted opened next) := by
  cases point with
  | writeOpen call => exact advance_writeOpen known taken
  | readAnswer got => exact advance_readAnswer known taken
  | writeOK call => exact advance_writeOK known taken
  | proxying splice caller => exact advance_proxying known taken
  | leaving ops =>
      have stopped := known.2.2.2.2.2
      simp only [stepDouble] at taken
      split at taken
      · rename_i op later _
        cases taken
        have kept : DoubleKnown deployment network.pipes place accepted opened (.leaving later) :=
          stopped
        exact advance_double known (moves_apply _ op _) (.inl rfl)
          (kept.frame ⟨told_apply _ _ _, heard_apply _ _ _⟩ ⟨told_apply _ _ _, heard_apply _ _ _⟩)
      · cases taken

end Handlers

/-! ## Every thread -/

def Silent (pipes : Pipes PipeInfo) : Prop :=
  ∀ e, e.pipe < pipes.infos.length → holder pipes e = none →
    pipes.told e = [] ∧ pipes.heard e = []

section Threads

variable {deployment} {self : Nat} {network moved : Network} {choice : Choice}

theorem firstKnown {pipes : Pipes PipeInfo} {place : Place} {accepted : Nat}
    (told : pipes.told (acceptedEnd accepted) = []) (heard : pipes.heard (acceptedEnd accepted) = []) :
    SingleKnown pipes place accepted (firstPoint place) := by
  cases place with
  | agent agent => exact ⟨rfl, told, heard, Nat.zero_le _⟩
  | publicPort agent => exact ⟨rfl, told, heard⟩
  | localPort controller => exact ⟨rfl, told, heard⟩
  | relay controller => exact ⟨rfl, told, heard⟩
  | rdp agent => exact ⟨rfl, told, heard⟩

theorem user_advance {e : End} (known : holder network.pipes e = some self)
    (taken : stepUser network e choice = some moved) :
    Advance deployment self network.pipes moved.pipes (.user e) (.user e) := by
  have moves : ∃ written got, network.pipes.Moves moved.pipes e written got := by
    cases choice with
    | send bytes =>
        simp only [stepUser] at taken
        split at taken
        · cases taken
        · cases taken
          exact ⟨bytes, [], moves_push _ _ _⟩
    | receive count =>
        cases taken
        exact ⟨[], _, moves_pull _ _ _⟩
    | shut writing =>
        cases writing with
        | true =>
            cases taken
            exact ⟨[], [], moves_apply network.pipes (.endWriting e) e⟩
        | false =>
            cases taken
            exact ⟨[], [], moves_apply network.pipes (.endReading e) e⟩
    | _ => simp [stepUser] at taken
  rcases moves with ⟨written, got, moves⟩
  exact advance_of_moves moves known (fun _ _ holds => holds)
    ((holder_congr moves.infos e).trans known)

theorem step_advance {thread next : Thread} (silent : Silent network.pipes)
    (known : Known deployment network.pipes self thread)
    (taken : step deployment self network thread choice = some (moved, next)) :
    Advance deployment self network.pipes moved.pipes thread next := by
  cases thread with
  | visitor place =>
      cases taken
      exact advance_of_dial rfl ⟨rfl, known⟩ (fun _ _ wrong => wrong.elim)
        (holder_openPipe_new _ _ _ _)
  | service agent =>
      cases choice with
      | accept index =>
          rcases Option.map_eq_some_iff.mp taken with ⟨after, accepted, same⟩
          cases same
          exact advance_of_accept accepted ⟨rfl, trivial⟩ (fun _ _ wrong => wrong.elim)
            (acceptPipe_spec accepted).2.2.2.2.1
      | _ => simp [step] at taken
  | user e =>
      rcases Option.map_eq_some_iff.mp taken with ⟨after, stepped, same⟩
      cases same
      exact user_advance known stepped
  | faults =>
      cases choice with
      | fault e broken =>
          cases taken
          exact advance_of_held rfl
            (fun other _ => ⟨told_setBroken _ _ _ _, heard_setBroken _ _ _ _⟩)
            (fun _ _ wrong => wrong) trivial
      | _ => simp [step] at taken
  | accepting place =>
      cases choice with
      | accept index =>
          rcases Option.map_eq_some_iff.mp taken with ⟨after, accepted, same⟩
          cases same
          rcases acceptPipe_spec accepted with ⟨bound, _, lanes, free, held, placed, _⟩
          -- Nobody has held this end before, so nothing has passed at it.
          have quiet := silent (acceptedEnd index) bound free
          refine advance_of_accept accepted ⟨rfl, rfl⟩ (fun _ _ wrong => wrong.elim)
            ⟨known, held, placed, firstKnown ?_ ?_⟩
          · simp only [told, lanes] at quiet ⊢
            exact quiet.1
          · simp only [heard, lanes] at quiet ⊢
            exact quiet.2
      | _ => simp [step] at taken
  | single place accepted point => exact stepSingle_advance known taken
  | double place accepted opened point =>
      rcases Option.map_eq_some_iff.mp taken with ⟨after, stepped, same⟩
      cases same
      exact stepDouble_advance known stepped

end Threads

end Rdpulse.TCP
