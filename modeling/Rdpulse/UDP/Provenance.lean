import Rdpulse.UDP.Reassembly

namespace Rdpulse.UDP

open Foundation Protocol

/-! Where the bytes of a reassembled packet come from: from fragments of its own session. -/

variable {source : UInt32 → Bytes → Prop}

def PacketReassembly.Drawn (entry : PacketReassembly) (origin : Bytes → Prop) : Prop :=
  ∀ payload, some payload ∈ entry.fragments → origin payload

def MadeOf (origin : Bytes → Prop) (packet : Bytes) : Prop :=
  ∃ parts : List Bytes, packet = parts.flatten ∧ ∀ part ∈ parts, origin part

theorem madeOf_single {origin : Bytes → Prop} {payload : Bytes} (own : origin payload) :
    MadeOf origin payload :=
  ⟨[payload], by simp, by simpa using own⟩

theorem madeOf_mono {origin wider : Bytes → Prop} (implies : ∀ part, origin part → wider part)
    {packet : Bytes} (made : MadeOf origin packet) : MadeOf wider packet := by
  rcases made with ⟨parts, equal, all⟩
  exact ⟨parts, equal, fun part member => implies part (all part member)⟩

namespace PacketReassembly

variable {entry : PacketReassembly} {origin : Bytes → Prop}

theorem start_drawn (pooled : PooledReassembly) (fragmentCount : UInt8) (now : Nat)
    (origin : Bytes → Prop) : (start pooled fragmentCount now).Drawn origin := by
  intro payload member
  rcases List.mem_iff_getElem?.mp member with ⟨index, found⟩
  have blank := pooled.blank index
  simp only [start] at found
  rw [found] at blank
  cases blank

theorem Drawn.store (drawn : entry.Drawn origin) {index : Nat}
    (bound : index < entry.fragmentCount.toNat) {payload : Bytes} (own : origin payload) :
    (entry.store index bound payload).Drawn origin := by
  intro other member
  rcases List.mem_or_eq_of_mem_set member with old | same
  · exact drawn other old
  · cases same
    exact own

theorem Drawn.assembled (drawn : entry.Drawn origin) : MadeOf origin entry.assembled := by
  refine ⟨(entry.fragments.take entry.fragmentCount.toNat).filterMap id, ?_, ?_⟩
  · rw [PacketReassembly.assembled]
    generalize entry.fragments.take entry.fragmentCount.toNat = slots
    induction slots with
    | nil => rfl
    | cons slot rest induction =>
        cases slot with
        | none => simpa using induction
        | some payload => simpa using induction
  · intro part member
    rcases List.mem_filterMap.mp member with ⟨slot, there, same⟩
    simp only [id_eq] at same
    subst same
    exact drawn part (List.mem_of_mem_take there)

end PacketReassembly

namespace Reassembler

variable {reassembler : Reassembler}

def Drawn (reassembler : Reassembler) (source : UInt32 → Bytes → Prop) : Prop :=
  ∀ key entry, reassembler.pending.lookup key = some entry →
    entry.Drawn (source key.sessionID)

theorem drawn_new (timeout : Nat) (source : UInt32 → Bytes → Prop) :
    (new timeout).Drawn source := by
  intro key entry found
  cases found

theorem Drawn.mono (drawn : reassembler.Drawn source) {wider : UInt32 → Bytes → Prop}
    (implies : ∀ sessionID part, source sessionID part → wider sessionID part) :
    reassembler.Drawn wider :=
  fun key entry found payload member => implies _ _ (drawn key entry found payload member)

theorem Drawn.sweep (drawn : reassembler.Drawn source) (now : Nat) :
    (reassembler.sweep now).Drawn source := by
  intro key entry found
  rcases sweep_lookup reassembler now key with gone | same
  · rw [gone] at found
    cases found
  · exact drawn key entry (same ▸ found)

theorem Drawn.close (_ : reassembler.Drawn source) : reassembler.close.Drawn source := by
  intro key entry found
  simp [Reassembler.close] at found

theorem Drawn.openEntry (drawn : reassembler.Drawn source) {key : ReassemblyKey}
    {fragmentCount : UInt8} {now : Nat} {opened : Reassembler} {entry : PacketReassembly}
    (made : reassembler.openEntry key fragmentCount now = some (opened, entry)) :
    opened.Drawn source ∧ entry.Drawn (source key.sessionID) := by
  simp only [Reassembler.openEntry] at made
  split at made
  · rename_i found
    cases made
    exact ⟨drawn, drawn key entry found⟩
  split at made
  · cases made
  split at made
  · cases made
  cases made
  refine ⟨fun other found there => ?_, PacketReassembly.start_drawn _ _ _ _⟩
  by_cases same : other = key
  · subst same
    rw [AList.lookup_insert, Option.some.injEq] at there
    rw [← there]
    exact PacketReassembly.start_drawn _ _ _ _
  · rw [AList.lookup_insert_ne same] at there
    exact drawn other found there

theorem Drawn.deleteEntry (drawn : reassembler.Drawn source) (key : ReassemblyKey)
    (entry : PacketReassembly) : (reassembler.deleteEntry key entry).Drawn source := by
  intro other found there
  by_cases same : other = key
  · rw [same, deleteEntry_lookup] at there
    cases there
  · rw [deleteEntry_lookup_ne _ _ same] at there
    exact drawn other found there

theorem Drawn.finish (drawn : reassembler.Drawn source) (dstNil : Bool) {key : ReassemblyKey}
    {entry : PacketReassembly} (own : entry.Drawn (source key.sessionID)) :
    (reassembler.finish dstNil key entry).1.Drawn source ∧
      ∀ packet, (reassembler.finish dstNil key entry).2 = .ok (some packet) →
        MadeOf (source key.sessionID) packet := by
  rw [Reassembler.finish]
  split
  · refine ⟨drawn.deleteEntry key entry, fun packet complete => ?_⟩
    simp only [appendTo, Except.ok.injEq] at complete
    split at complete
    · cases complete
    · cases complete
      exact own.assembled
  · refine ⟨fun other found there => ?_, fun packet complete => by cases complete⟩
    by_cases same : other = key
    · subst same
      rw [AList.lookup_insert, Option.some.injEq] at there
      exact there ▸ own
    · rw [AList.lookup_insert_ne same] at there
      exact drawn other found there

theorem Drawn.feedAppend (drawn : reassembler.Drawn source) (dstNil : Bool) {hdr : UDPHeader}
    {payload : Bytes} (own : source hdr.sessionID payload) (now : Nat) :
    (reassembler.feedAppend dstNil hdr payload now).1.Drawn source ∧
      ∀ packet, (reassembler.feedAppend dstNil hdr payload now).2 = .ok (some packet) →
        MadeOf (source hdr.sessionID) packet := by
  simp only [Reassembler.feedAppend]
  split
  · refine ⟨drawn, fun packet complete => ?_⟩
    simp only [appendTo, Except.ok.injEq] at complete
    split at complete
    · cases complete
    · cases complete
      exact madeOf_single own
  split
  swap
  · exact ⟨drawn, fun packet complete => by cases complete⟩
  split
  · exact ⟨drawn, fun packet complete => by cases complete⟩
  split
  · exact ⟨drawn, fun packet complete => by cases complete⟩
  rename_i opened entry made
  rcases drawn.openEntry made with ⟨after, filled⟩
  split
  swap
  · exact ⟨after.deleteEntry _ entry, fun packet complete => by cases complete⟩
  split
  · exact after.finish dstNil filled
  split
  · exact ⟨after.deleteEntry _ _, fun packet complete => by cases complete⟩
  · exact after.finish dstNil (filled.store _ own)

end Reassembler

end Rdpulse.UDP
