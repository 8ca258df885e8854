import Rdpulse.Agent.SessionRegistry

namespace Rdpulse.Agent.SessionRegistry

open Foundation Protocol

/-! # What the registry of P2P sessions guarantees -/

/-! ## Registrations that stand -/

def Op.Displaces (id : UInt32) : Op → Prop
  | .register _ msg => msg.sessionID = id
  | .remove sessionID => sessionID = id
  | .close _ => True
  | _ => False

/-- The latest registration of the id has this parent and token, and no later call has
removed, replaced or closed it. -/
def Stands (events : List Op) (id : UInt32) (parent : Nat) (token : Bytes) : Prop :=
  ∃ before msg after, events = before ++ .register parent msg :: after ∧
    msg.sessionID = id ∧ msg.sessionToken = token ∧ ∀ op ∈ after, ¬op.Displaces id

theorem stands_snoc {events : List Op} {op : Op} {id : UInt32} {parent : Nat} {token : Bytes} :
    Stands (events ++ [op]) id parent token ↔
      (∃ msg, op = .register parent msg ∧ msg.sessionID = id ∧ msg.sessionToken = token) ∨
        (¬op.Displaces id ∧ Stands events id parent token) := by
  constructor
  · rintro ⟨before, msg, after, split, named, given, kept⟩
    rcases List.eq_nil_or_concat after with rfl | ⟨earlier, last, rfl⟩
    · rcases List.append_inj' split rfl with ⟨_, equal⟩
      exact .inl ⟨msg, List.singleton_inj.mp equal, named, given⟩
    · rw [List.concat_eq_append, ← List.cons_append, ← List.append_assoc] at split
      rcases List.append_inj' split rfl with ⟨rfl, equal⟩
      have same : op = last := List.singleton_inj.mp equal
      subst same
      refine .inr ⟨kept op (by simp), before, msg, earlier, rfl, named, given, fun other member => ?_⟩
      exact kept other (by simp [member])
  · rintro (⟨msg, rfl, named, given⟩ | ⟨kept, before, msg, after, rfl, named, given, others⟩)
    · exact ⟨events, msg, [], rfl, named, given, by simp⟩
    · refine ⟨before, msg, after ++ [op], by simp, named, given, fun other member => ?_⟩
      rcases List.mem_append.mp member with earlier | last
      · exact others other earlier
      · rw [List.mem_singleton.mp last]
        exact kept

/-! ## The invariant -/

/-- Sessions in the map are open. The others have been cancelled, and their channels
closed once. -/
structure Sound (r : Registry) : Prop where
  present : ∀ id ref, r.sessions.lookup id = some ref →
    ∃ session, r.objects[ref]? = some session ∧ session.id = id ∧
      session.cancelled = false ∧ session.updates.closed = false
  departed : ∀ ref session, r.objects[ref]? = some session →
    (∀ id, r.sessions.lookup id ≠ some ref) →
    session.cancelled = true ∧ session.updates.closed = true
  counted : ∀ ref session, r.objects[ref]? = some session →
    r.closings.count ref = if session.updates.closed then 1 else 0
  known : ∀ ref ∈ r.closings, ref < r.objects.length

def Registry.standing (r : Registry) (id : UInt32) : Option (Nat × Bytes) :=
  ((r.sessions.lookup id).bind (r.objects[·]?)).map fun session =>
    (session.parent, session.token)

def Op.restand (id : UInt32) (before : Option (Nat × Bytes)) : Op → Option (Nat × Bytes)
  | .register parent msg =>
      if id = msg.sessionID then some (parent, msg.sessionToken) else before
  | .remove sessionID => if id = sessionID then none else before
  | .close _ => none
  | _ => before

section Steps

variable {r next : Registry} {id : UInt32} {ref : Nat} {session : P2PSession}

theorem Sound.injective (sound : Sound r) {other : UInt32}
    (found : r.sessions.lookup id = some ref) (there : r.sessions.lookup other = some ref) :
    id = other := by
  rcases sound.present id ref found with ⟨session, stored, named, _⟩
  rcases sound.present other ref there with ⟨_, again, named', _⟩
  rw [stored] at again
  cases again
  exact named.symm.trans named'

theorem sound_new : Sound .newP2PSessionRegistry where
  present id ref found := by cases found
  departed ref session stored := by cases stored
  counted ref session stored := by cases stored
  known ref member := by cases member

def P2PSession.retired (session : P2PSession) : P2PSession :=
  { session with cancelled := true, updates := { session.updates with closed := true } }

theorem Sound.withdraw (sound : Sound r) (found : r.sessions.lookup id = some ref) :
    ∃ next, { r with sessions := r.sessions.erase id }.retire ref = .ok next ∧ Sound next ∧
      next.sessions = r.sessions.erase id ∧ next.ended = r.ended ∧
      next.objects.length = r.objects.length ∧
      ∀ other, next.standing other = if other = id then none else r.standing other := by
  rcases sound.present id ref found with ⟨session, stored, named, live, openChannel⟩
  have bound : ref < r.objects.length := (List.getElem?_eq_some_iff.mp stored).1
  have elsewhere : ∀ other one, (r.sessions.erase id).lookup other = some one →
      r.sessions.lookup other = some one ∧ one ≠ ref := by
    intro other one there
    by_cases same : other = id
    · rw [same, AList.lookup_erase] at there
      cases there
    · rw [AList.lookup_erase_ne same] at there
      refine ⟨there, ?_⟩
      rintro rfl
      exact same (sound.injective there found)
  refine ⟨{ r with
      sessions := r.sessions.erase id
      objects := r.objects.set ref session.retired
      closings := r.closings ++ [ref] }, ?_, ?_, rfl, rfl, List.length_set, fun other => ?_⟩
  · simp [Registry.retire, stored, openChannel, P2PSession.retired]
  · constructor
    · intro other one there
      rcases elsewhere other one there with ⟨kept, apart⟩
      rw [List.getElem?_set_ne (Ne.symm apart)]
      exact sound.present other one kept
    · intro one gone there absent
      by_cases same : ref = one
      · subst same
        rw [List.getElem?_set_self bound] at there
        cases there
        exact ⟨rfl, rfl⟩
      · rw [List.getElem?_set_ne same] at there
        refine sound.departed one gone there fun other kept => ?_
        by_cases own : other = id
        · rw [own, found] at kept
          exact same (Option.some.inj kept)
        · exact absent other ((AList.lookup_erase_ne own).trans kept)
    · intro one kept there
      by_cases same : ref = one
      · subst same
        rw [List.getElem?_set_self bound] at there
        cases there
        have before := sound.counted ref session stored
        rw [openChannel] at before
        simp [P2PSession.retired, List.count_append, before]
      · rw [List.getElem?_set_ne same] at there
        simp [List.count_append, sound.counted one kept there, same]
    · intro one member
      rw [List.length_set]
      rcases List.mem_append.mp member with earlier | last
      · exact sound.known one earlier
      · rw [List.mem_singleton.mp last]
        exact bound
  · by_cases same : other = id
    · subst same
      rw [if_pos rfl, Registry.standing]
      simp only [AList.lookup_erase, Option.bind_none, Option.map_none]
    · rw [if_neg same, Registry.standing, Registry.standing, AList.lookup_erase_ne same]
      cases there : r.sessions.lookup other with
      | none => rfl
      | some one =>
          have apart : ref ≠ one := by
            rintro rfl
            exact same (sound.injective there found)
          simp [List.getElem?_set_ne apart]

theorem Sound.add (sound : Sound r) (absent : r.sessions.lookup session.id = none)
    (live : session.cancelled = false) (openChannel : session.updates.closed = false) :
    Sound { r with
      objects := r.objects ++ [session]
      sessions := r.sessions.insert session.id r.objects.length } := by
  have bounded : ∀ id ref, r.sessions.lookup id = some ref → ref < r.objects.length := by
    intro id ref found
    rcases sound.present id ref found with ⟨_, stored, _⟩
    exact (List.getElem?_eq_some_iff.mp stored).1
  constructor
  · intro other one there
    by_cases same : other = session.id
    · rw [same, AList.lookup_insert] at there
      cases there
      exact ⟨session, by simp, same.symm, live, openChannel⟩
    · rw [AList.lookup_insert_ne same] at there
      rw [List.getElem?_append_left (bounded other one there)]
      exact sound.present other one there
  · intro one gone there outside
    have apart : one ≠ r.objects.length := by
      rintro rfl
      exact outside session.id (AList.lookup_insert _)
    have earlier : one < r.objects.length := by
      have bound := (List.getElem?_eq_some_iff.mp there).1
      simp only [List.length_append, List.length_singleton] at bound
      omega
    rw [List.getElem?_append_left earlier] at there
    refine sound.departed one gone there fun other kept => ?_
    refine outside other ((AList.lookup_insert_ne ?_).trans kept)
    rintro rfl
    rw [absent] at kept
    cases kept
  · intro one kept there
    by_cases earlier : one < r.objects.length
    · rw [List.getElem?_append_left earlier] at there
      exact sound.counted one kept there
    · have bound := (List.getElem?_eq_some_iff.mp there).1
      simp only [List.length_append, List.length_singleton] at bound
      have same : one = r.objects.length := by omega
      subst same
      have equal : session = kept := by simpa using there
      subst equal
      have unclosed : r.objects.length ∉ r.closings := fun member =>
        Nat.lt_irrefl _ (sound.known _ member)
      simp [openChannel, List.count_eq_zero.mpr unclosed]
  · intro one member
    have bound := sound.known one member
    simp only [List.length_append, List.length_singleton]
    omega

/-! ## What the calls do -/

theorem insert_erase (sessions : AList fun _ : UInt32 => Nat) (id : UInt32) (ref : Nat) :
    (sessions.erase id).insert id ref = sessions.insert id ref := by
  apply AList.ext
  rw [AList.entries_insert, AList.entries_insert]
  have gone : id ∉ (sessions.entries.kerase id).keys :=
    List.notMem_keys_kerase id sessions.nodupKeys
  exact congrArg (⟨id, ref⟩ :: ·) (List.kerase_of_notMem_keys gone)

theorem Sound.register (sound : Sound r) (parent : Nat) (msg : ControlMessage) :
    ∃ next, r.register parent msg = .ok next ∧ Sound next ∧ next.ended = r.ended ∧
      ∀ id, next.standing id = (Op.register parent msg).restand id (r.standing id) := by
  let session : P2PSession :=
    ⟨msg.sessionID, msg.deviceID, msg.sessionToken, {}, parent, false⟩
  have added : ∀ {r : Registry}, Sound r → r.sessions.lookup msg.sessionID = none → ∀ id,
      Registry.standing { r with
          objects := r.objects ++ [session]
          sessions := r.sessions.insert msg.sessionID r.objects.length } id =
        (Op.register parent msg).restand id (r.standing id) := by
    intro r sound absent id
    by_cases same : id = msg.sessionID
    · subst same
      simp [Registry.standing, Op.restand, session]
    · simp only [Registry.standing, Op.restand, if_neg same, AList.lookup_insert_ne same]
      cases found : r.sessions.lookup id with
      | none => rfl
      | some ref =>
          rcases sound.present id ref found with ⟨_, stored, _⟩
          rw [Option.bind_some, Option.bind_some,
            List.getElem?_append_left (List.getElem?_eq_some_iff.mp stored).1]
  cases found : r.sessions.lookup msg.sessionID with
  | none =>
      refine ⟨{ r with
        objects := r.objects ++ [session]
        sessions := r.sessions.insert msg.sessionID r.objects.length }, ?_,
        @Sound.add r session sound found rfl rfl, rfl, added sound found⟩
      simp [Registry.register, found, session, pure, Except.pure, bind, Except.bind]
  | some old =>
      rcases sound.withdraw found with ⟨middle, retired, after, table, ended, size, stands⟩
      have absent : middle.sessions.lookup msg.sessionID = none := by
        rw [table, AList.lookup_erase]
      refine ⟨{ middle with
        objects := middle.objects ++ [session]
        sessions := middle.sessions.insert msg.sessionID middle.objects.length }, ?_,
        @Sound.add middle session after absent rfl rfl, ended, fun id => ?_⟩
      · rcases sound.present _ old found with ⟨gone, stored, _, _, openChannel⟩
        have bound : old < r.objects.length := (List.getElem?_eq_some_iff.mp stored).1
        simp only [Registry.retire, stored, openChannel, Bool.false_eq_true, if_false] at retired
        cases retired
        simp [Registry.register, Registry.retire, found, session, stored, openChannel,
          List.getElem?_append_left bound, List.set_append_left _ _ bound, insert_erase,
          pure, Except.pure, bind, Except.bind]
      · rw [added after absent id, Op.restand, Op.restand, stands]
        by_cases same : id = msg.sessionID
        · rw [if_pos same, if_pos same]
        · rw [if_neg same, if_neg same, if_neg same]

theorem Sound.remove (sound : Sound r) (sessionID : UInt32) :
    ∃ next, r.remove sessionID = .ok next ∧ Sound next ∧ next.ended = r.ended ∧
      ∀ id, next.standing id = (Op.remove sessionID).restand id (r.standing id) := by
  cases found : r.sessions.lookup sessionID with
  | none =>
      refine ⟨r, by simp [Registry.remove, found], sound, rfl, fun id => ?_⟩
      by_cases same : id = sessionID
      · subst same
        simp [Registry.standing, Op.restand, found]
      · rw [Op.restand, if_neg same]
  | some ref =>
      rcases sound.withdraw found with ⟨next, retired, after, _, ended, _, stands⟩
      exact ⟨next, by simp [Registry.remove, found, retired], after, ended, stands⟩

theorem Sound.closeAll {order : List (UInt32 × Nat)} (sound : Sound r)
    (visited : order.Perm r.entries) :
    ∃ next, r.closeAll order = .ok next ∧ Sound next ∧ next.ended = r.ended ∧
      ∀ id, next.standing id = none := by
  induction order generalizing r with
  | nil =>
      refine ⟨r, rfl, sound, rfl, fun id => ?_⟩
      have empty : r.sessions.entries = [] := by
        simpa [Registry.entries] using visited.symm.eq_nil
      have absent : r.sessions.lookup id = none := by
        refine AList.lookup_eq_none.mpr fun member => ?_
        rw [AList.mem_keys, AList.keys, empty] at member
        cases member
      simp [Registry.standing, absent]
  | cons entry rest induction =>
      rcases entry with ⟨id, ref⟩
      have member : (⟨id, ref⟩ : Sigma fun _ : UInt32 => Nat) ∈ r.sessions.entries := by
        rcases List.mem_map.mp (visited.mem_iff.mp List.mem_cons_self) with ⟨⟨_, _⟩, there, equal⟩
        cases equal
        exact there
      have found : r.sessions.lookup id = some ref := AList.mem_lookup_iff.mpr member
      rcases sound.withdraw found with ⟨middle, retired, after, table, ended, _, _⟩
      have left : rest.Perm middle.entries := by
        have whole := (Table.perm_cons_erase found).map fun entry => (entry.1, entry.2)
        rw [Registry.entries, table]
        exact (visited.trans whole).cons_inv
      rcases induction after left with ⟨next, closed, sound', ended', stands⟩
      refine ⟨next, ?_, sound', ended'.trans ended, stands⟩
      simp [Registry.closeAll, retired, closed, bind, Except.bind]

structure Quiet (change : P2PSession → P2PSession) : Prop where
  id : ∀ session, (change session).id = session.id
  cancelled : ∀ session, (change session).cancelled = session.cancelled
  closed : ∀ session, (change session).updates.closed = session.updates.closed
  parent : ∀ session, (change session).parent = session.parent
  token : ∀ session, (change session).token = session.token

theorem Sound.modify (sound : Sound r) {change : P2PSession → P2PSession} (quiet : Quiet change)
    (ref : Nat) : Sound { r with objects := r.objects.modify ref change } := by
  have read : ∀ (one : Nat) (session : P2PSession), (r.objects.modify ref change)[one]? = some session →
      ∃ before : P2PSession, r.objects[one]? = some before ∧
        session.cancelled = before.cancelled ∧
        session.updates.closed = before.updates.closed := by
    intro one session there
    rw [List.getElem?_modify] at there
    rcases Option.map_eq_some_iff.mp there with ⟨before, stored, rfl⟩
    refine ⟨before, stored, ?_⟩
    by_cases same : ref = one
    · simp [same, quiet.cancelled, quiet.closed]
    · simp [same]
  constructor
  · intro id one found
    rcases sound.present id one found with ⟨session, stored, named, live, openChannel⟩
    by_cases same : ref = one
    · refine ⟨change session, by simp [same, stored], ?_⟩
      exact ⟨(quiet.id session).trans named, (quiet.cancelled session).trans live,
        (quiet.closed session).trans openChannel⟩
    · exact ⟨session, by simp [same, stored], named, live, openChannel⟩
  · intro one session there absent
    rcases read one session there with ⟨before, stored, cancelled, closed⟩
    rw [cancelled, closed]
    exact sound.departed one before stored absent
  · intro one session there
    rcases read one session there with ⟨before, stored, _, closed⟩
    rw [closed]
    exact sound.counted one before stored
  · intro one member
    rw [List.length_modify]
    exact sound.known one member

theorem standing_modify {change : P2PSession → P2PSession} (quiet : Quiet change) (ref : Nat)
    (id : UInt32) :
    Registry.standing { r with objects := r.objects.modify ref change } id = r.standing id := by
  simp only [Registry.standing]
  cases r.sessions.lookup id with
  | none => rfl
  | some one =>
      rw [Option.bind_some, Option.bind_some, List.getElem?_modify]
      cases r.objects[one]? with
      | none => rfl
      | some session =>
          by_cases same : ref = one
          · simp [same, quiet.parent, quiet.token]
          · simp [same]

theorem Sound.update (sound : Sound r) (sessionID : UInt32) (candidates : List CandidateInfo) :
    ∃ next, r.update sessionID candidates = .ok next ∧ Sound next ∧ next.ended = r.ended ∧
      ∀ id, next.standing id = r.standing id := by
  cases found : r.sessions.lookup sessionID with
  | none => exact ⟨r, by simp [Registry.update, found], sound, rfl, fun _ => rfl⟩
  | some ref =>
      rcases sound.present sessionID ref found with ⟨session, stored, _, _, openChannel⟩
      by_cases room : session.updates.buffered.length < updatesCapacity
      · let change (session : P2PSession) : P2PSession :=
          { session with
            updates :=
              { session.updates with
                buffered := session.updates.buffered ++ [candidates] } }
        have quiet : Quiet change :=
          ⟨fun _ => rfl, fun _ => rfl, fun _ => rfl, fun _ => rfl, fun _ => rfl⟩
        refine ⟨{ r with objects := r.objects.modify ref change }, ?_, sound.modify quiet ref, rfl,
          standing_modify quiet ref⟩
        simp [Registry.update, found, stored, openChannel, room, change,
          List.modify_eq_set_getElem?]
      · exact ⟨r, by simp [Registry.update, found, stored, openChannel, room], sound, rfl,
          fun _ => rfl⟩

theorem Sound.apply (sound : Sound r) {op : Op} (fits : r.Fits op) :
    ∃ next, r.apply op = .ok next ∧ Sound next ∧
      (∀ parent, parent ∈ next.ended ↔ parent ∈ r.ended ∨ op = .endParent parent) ∧
      ∀ id, next.standing id = op.restand id (r.standing id) := by
  cases op with
  | register parent msg =>
      rcases sound.register parent msg with ⟨next, taken, after, ended, stands⟩
      exact ⟨next, taken, after, by simp [ended], stands⟩
  | update sessionID candidates =>
      rcases sound.update sessionID candidates with ⟨next, taken, after, ended, stands⟩
      exact ⟨next, taken, after, by simp [ended], stands⟩
  | lookup sessionID => exact ⟨r, rfl, sound, by simp, fun _ => rfl⟩
  | remove sessionID =>
      rcases sound.remove sessionID with ⟨next, taken, after, ended, stands⟩
      exact ⟨next, taken, after, by simp [ended], stands⟩
  | close order =>
      rcases sound.closeAll fits with ⟨next, taken, after, ended, stands⟩
      exact ⟨next, taken, after, by simp [ended], stands⟩
  | endParent parent =>
      refine ⟨_, rfl, ⟨sound.present, sound.departed, sound.counted, sound.known⟩,
        fun other => ?_, fun _ => rfl⟩
      simp [or_comm, eq_comm]
  | receive ref =>
      have quiet : Quiet fun session =>
          { session with
            updates := { session.updates with buffered := session.updates.buffered.tail } } :=
        ⟨fun _ => rfl, fun _ => rfl, fun _ => rfl, fun _ => rfl, fun _ => rfl⟩
      exact ⟨_, rfl, sound.modify quiet ref, by simp [Registry.receive], standing_modify quiet ref⟩

end Steps

/-! ## Runs -/

/-- What the map says is what the calls have made of it. -/
structure Recorded (events : List Op) (r : Registry) : Prop where
  sound : Sound r
  stands : ∀ id parent token, Stands events id parent token ↔ r.standing id = some (parent, token)
  ended : ∀ parent, parent ∈ r.ended ↔ .endParent parent ∈ events

theorem Recorded.step {events : List Op} {op : Op} {r next : Registry} (known : Recorded events r)
    (taken : calls.step r op = some next) : Recorded (events ++ [op]) next := by
  by_cases fits : r.Fits op
  · rcases known.sound.apply fits with ⟨after, applied, sound, ended, stands⟩
    simp only [calls, if_pos fits, applied, Except.toOption, Option.some.injEq] at taken
    subst taken
    refine ⟨sound, fun id parent token => ?_, fun parent => ?_⟩
    · rw [stands_snoc, known.stands, stands]
      cases op <;> grind [Op.Displaces, Op.restand]
    · rw [ended, known.ended, List.mem_append, List.mem_singleton]
      exact or_congr_right eq_comm
  · simp [calls, if_neg fits] at taken

theorem recorded_of_run {events : List Op} {r : Registry}
    (run : calls.Run Machine.Unrestricted .newP2PSessionRegistry events r) : Recorded events r := by
  refine run.invariant ⟨sound_new, fun id parent token => ?_, fun parent => ?_⟩
    fun _ _ _ _ _ known _ taken => known.step taken
  · constructor
    · rintro ⟨before, _, _, split, _⟩
      cases before <;> cases split
    · intro stands
      cases stands
  · exact iff_of_false List.not_mem_nil List.not_mem_nil

theorem lookup_eq_some {r : Registry} (sound : Sound r) (sessionID : UInt64) (token : Bytes) :
    r.lookup sessionID = some token ↔ sessionID.toNat < 2 ^ 32 ∧
      ∃ parent, r.standing sessionID.toUInt32 = some (parent, token) ∧ parent ∉ r.ended := by
  have fits : sessionID.toUInt32.toUInt64 = sessionID ↔ sessionID.toNat < 2 ^ 32 := by
    rw [← UInt64.toNat_inj, UInt32.toNat_toUInt64, UInt64.toNat_toUInt32]
    omega
  cases found : r.sessions.lookup sessionID.toUInt32 with
  | none => simp [Registry.lookup, Registry.standing, found]
  | some ref =>
      rcases sound.present _ ref found with ⟨session, stored, named, live, _⟩
      simp only [Registry.lookup, Registry.standing, found, Option.bind_some, stored, named,
        Option.map_some, Registry.done, live, Bool.false_or, List.contains_eq_mem,
        Option.some.injEq, Prod.mk.injEq]
      by_cases small : sessionID.toNat < 2 ^ 32
      · rw [if_neg (not_not.mpr (fits.mpr small))]
        simp only [small, true_and]
        by_cases ending : session.parent ∈ r.ended
        · simp [ending]
        · simp [ending]
      · rw [if_pos (mt fits.mp small)]
        simp only [small, false_and, reduceCtorEq]

/-- In any sequence of calls no channel is closed twice or sent to after it is closed, a
session that is not in the map has been cancelled and its channel closed once, and
`lookup` answers with the token of the registration that stands. -/
theorem registry_safe {events : List Op} {r : Registry}
    (run : calls.Run Machine.Unrestricted .newP2PSessionRegistry events r) :
    (∀ op, r.Fits op → ∃ next, r.apply op = .ok next) ∧
    (∀ ref session, r.objects[ref]? = some session →
      (∀ id, r.sessions.lookup id ≠ some ref) →
      session.cancelled = true ∧ session.updates.closed = true ∧ r.closings.count ref = 1) ∧
    (∀ sessionID token, r.lookup sessionID = some token ↔ sessionID.toNat < 2 ^ 32 ∧
      ∃ parent, Stands events sessionID.toUInt32 parent token ∧ .endParent parent ∉ events) := by
  have known := recorded_of_run run
  refine ⟨fun op fits => ?_, fun ref session stored absent => ?_, fun sessionID token => ?_⟩
  · rcases known.sound.apply fits with ⟨next, applied, _⟩
    exact ⟨next, applied⟩
  · rcases known.sound.departed ref session stored absent with ⟨cancelled, closed⟩
    refine ⟨cancelled, closed, ?_⟩
    rw [known.sound.counted ref session stored, closed, if_pos rfl]
  · rw [lookup_eq_some known.sound]
    simp only [known.stands, known.ended]

/-- A session is registered again under its id and updated. Its second token is found,
but not under an id with more bits. -/
theorem registry_safe_replaced :
    ∃ events r, calls.Run Machine.Unrestricted .newP2PSessionRegistry events r ∧
      r.lookup 7 = some [2] ∧ r.lookup 0x100000007 = none ∧ r.closings = [0] ∧
      Stands events 7 0 [2] := by
  rcases calls.exists_run Machine.Unrestricted
    (fun r => r.lookup 7 = some [2] ∧ r.lookup 0x100000007 = none ∧ r.closings = [0])
    .newP2PSessionRegistry
    [.register 0 { type := .connectNotify, sessionID := 7, sessionToken := [1] },
      .register 0 { type := .connectNotify, sessionID := 7, sessionToken := [2] }, .update 7 []]
    (by decide +kernel) with ⟨r, run, found, wide, closed⟩
  rcases (((registry_safe run).2.2 7 [2]).mp found).2 with ⟨parent, stands, _⟩
  have own : parent = 0 := by
    rcases stands with ⟨before, msg, after, split, _⟩
    have member : Op.register parent msg ∈ before ++ Op.register parent msg :: after := by simp
    rw [← split] at member
    simp at member
    omega
  exact ⟨_, r, run, found, wide, closed, own ▸ stands⟩

end Rdpulse.Agent.SessionRegistry
