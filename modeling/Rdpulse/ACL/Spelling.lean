import Rdpulse.ACL.Manager
import Rdpulse.Foundation.Tables

namespace Rdpulse.ACL

open Foundation Protocol Rdpulse.Path

/-! # Spellings of an IPv4 address

A client, a listed prefix and a temporary entry may each be written as IPv4 or as IPv6. -/

/-- `::ffff:a.b.c.d` -/
def mapped (bits : BitVec 32) : BitVec 128 := (0xffff : BitVec 96) ++ bits

theorem mapped_high (bits : BitVec 32) : (mapped bits).extractLsb' 32 96 = 0xffff :=
  BitVec.extractLsb'_append_eq_left

theorem mapped_low (bits : BitVec 32) : (mapped bits).extractLsb' 0 32 = bits :=
  BitVec.extractLsb'_append_eq_right

theorem unmap_mapped (bits : BitVec 32) (zone : String) :
    (Addr.v6 (mapped bits) zone).unmap = .v4 bits := by
  rw [Addr.unmap, if_pos (mapped_high bits), mapped_low]

theorem unmapped_lt (length : Fin 129) : length.val - 96 < 33 := by
  omega

def Prefix.unmap : Prefix → Prefix
  | .v4 bits length => .v4 bits length
  | .v6 bits length =>
      if bits.extractLsb' 32 96 = 0xffff ∧ 96 ≤ length.val then
        .v4 (bits.extractLsb' 0 32) ⟨length.val - 96, unmapped_lt length⟩
      else .v6 bits length

/-- `::ffff:a.b.c.d/(96+n)` -/
def mappedPrefix (bits : BitVec 32) (length : Fin 33) : Prefix :=
  .v6 (mapped bits) ⟨96 + length.val, by omega⟩

theorem unmap_mappedPrefix (bits : BitVec 32) (length : Fin 33) :
    (mappedPrefix bits length).unmap = .v4 bits length := by
  have rest : (⟨96 + length.val - 96, by omega⟩ : Fin 33) = length :=
    Fin.ext (Nat.add_sub_cancel_left 96 length.val)
  rw [mappedPrefix, Prefix.unmap, if_pos ⟨mapped_high bits, Nat.le_add_right _ _⟩, mapped_low, rest]

/-! ## Rules -/

structure TemporaryCall where
  ip : Option Addr
  ttl : Time
  now : Time

/-- What an ACL is made of: the arguments of `NewManager`, and the calls made since. -/
structure Rules where
  defaultPolicy : GoString
  allowList : List GoString
  temporary : List TemporaryCall

def Rules.manager (parsers : Parsers) (rules : Rules) : Except String Manager :=
  (newManager parsers rules.defaultPolicy rules.allowList).map fun m =>
    rules.temporary.foldl (fun m call => m.allowTemporary call.ip call.ttl call.now) m

def listedPrefix (parsers : Parsers) (entry : GoString) : Option Prefix :=
  if trimSpace entry = [] then none
  else (parsers.parsePrefix (withLength (trimSpace entry))).toOption

inductive RespelledEntry (parsers : Parsers) : GoString → GoString → Prop
  | same (entry : GoString) : RespelledEntry parsers entry entry
  | long {entry other : GoString} {bits : BitVec 32} {length : Fin 33}
      (plain : listedPrefix parsers entry = some (.v4 bits length))
      (longer : listedPrefix parsers other = some (mappedPrefix bits length)) :
      RespelledEntry parsers entry other

inductive RespelledCall : TemporaryCall → TemporaryCall → Prop
  | same (call : TemporaryCall) : RespelledCall call call
  | long (bits : BitVec 32) (ttl now : Time) :
      RespelledCall ⟨some (.v4 bits), ttl, now⟩ ⟨some (.v6 (mapped bits) ""), ttl, now⟩

structure Respelled (parsers : Parsers) (rules rules' : Rules) : Prop where
  policy : rules'.defaultPolicy = rules.defaultPolicy
  allowList : List.Forall₂ (RespelledEntry parsers) rules.allowList rules'.allowList
  temporary : List.Forall₂ RespelledCall rules.temporary rules'.temporary

/-! ## What the rules say of an address -/

def Rules.openByDefault (rules : Rules) : Prop := rules.defaultPolicy.map toLower = allowPolicy

def Rules.unexpired (rules : Rules) (spelled : Addr → Bool) (now : Time) : Prop :=
  ∃ expiresAt, (rules.temporary.filterMap fun call =>
    if call.ip.any spelled then some (call.now + call.ttl) else none).getLast? =
      some expiresAt ∧ now < expiresAt

/-- In IPv4 form, and in either form. -/
def plainly (addr : Addr) (ip : Addr) : Bool := ip = addr.unmap
def anyhow (addr : Addr) (ip : Addr) : Bool := ip.unmap = addr.unmap

def Rules.lists (parsers : Parsers) (rules : Rules) (addr : Addr) : Prop :=
  ∃ entry ∈ rules.allowList, ∃ range, listedPrefix parsers entry = some range ∧
    range.contains addr.unmap

def Rules.covers (parsers : Parsers) (rules : Rules) (addr : Addr) : Prop :=
  ∃ entry ∈ rules.allowList, ∃ range, listedPrefix parsers entry = some range ∧
    range.unmap.contains addr.unmap

def Rules.Allows (parsers : Parsers) (rules : Rules) (now : Time) (addr : Addr) : Prop :=
  rules.unexpired (anyhow addr) now ∨ rules.covers parsers addr ∨ rules.openByDefault

/-- An address under a policy of denial of which no listed prefix in its own form decides:
only rules in IPv6 form let it in, or a temporary entry in IPv4 form outlives a later call
in IPv6 form. -/
inductive Misjudged (parsers : Parsers) (rules : Rules) (now : Time) (addr : Addr) : Prop
  | missed (denied : ¬rules.openByDefault) (unlisted : ¬rules.lists parsers addr)
      (plain : ¬rules.unexpired (plainly addr) now)
      (allowed : rules.unexpired (anyhow addr) now ∨ rules.covers parsers addr)
  | outlived (denied : ¬rules.openByDefault) (uncovered : ¬rules.covers parsers addr)
      (plain : rules.unexpired (plainly addr) now)
      (expired : ¬rules.unexpired (anyhow addr) now)

def clients (bits : BitVec 32) : List RemoteAddr :=
  [.tcp (Bytes.putBigEndian 4 bits.toNat), .tcp (Bytes.putBigEndian 16 (mapped bits).toNat),
    .udp (Bytes.putBigEndian 4 bits.toNat), .udp (Bytes.putBigEndian 16 (mapped bits).toNat)]

/-- The decision on an address is the one that the rules are there for, and is the same
however the client and the rules are written. -/
structure Independent (parsers : Parsers) (rules : Rules) (m m' : Manager) (now : Time)
    (addr : Addr) : Prop where
  client : ∀ bits, addr.unmap = .v4 bits →
    (∀ remote ∈ clients bits,
      m.isAllowed parsers remote now = m.isAllowedAddr (some addr) now) ∧
    (∀ zone, m.isAllowedAddr (some (.v6 (mapped bits) zone)) now =
      m.isAllowedAddr (some addr) now) ∧
    m.isAllowedAddr (some (.v4 bits)) now = m.isAllowedAddr (some addr) now
  respelled : m'.isAllowedAddr (some addr) now = m.isAllowedAddr (some addr) now
  exact : m.isAllowedAddr (some addr) now = true ↔ rules.Allows parsers now addr

section Decision

variable {parsers : Parsers} {rules rules' : Rules} {m m' : Manager} {now : Time} {addr : Addr}

theorem RespelledEntry.unmap_eq {entry other : GoString}
    (respelled : RespelledEntry parsers entry other) :
    (listedPrefix parsers entry).map Prefix.unmap = (listedPrefix parsers other).map Prefix.unmap := by
  cases respelled with
  | same => rfl
  | long plain longer =>
      rw [plain, longer, Option.map_some, Option.map_some, unmap_mappedPrefix]
      rfl

theorem RespelledCall.same_expiry {call other : TemporaryCall}
    (respelled : RespelledCall call other) (addr : Addr) :
    (if call.ip.any (anyhow addr) then some (call.now + call.ttl) else none) =
      if other.ip.any (anyhow addr) then some (other.now + other.ttl) else none := by
  cases respelled with
  | same => rfl
  | long bits ttl now =>
      have one : anyhow addr (.v6 (mapped bits) "") = anyhow addr (.v4 bits) := by
        rw [anyhow, anyhow, unmap_mapped]
        rfl
      simp only [Option.any_some, one]

theorem covers_iff (parsers : Parsers) (rules : Rules) (addr : Addr) :
    rules.covers parsers addr ↔ ∃ range,
      some range ∈ rules.allowList.map (fun entry =>
        (listedPrefix parsers entry).map Prefix.unmap) ∧ range.contains addr.unmap := by
  constructor
  · rintro ⟨entry, member, range, listed, contains⟩
    refine ⟨range.unmap, List.mem_map.mpr ⟨entry, member, ?_⟩, contains⟩
    rw [listed, Option.map_some]
  · rintro ⟨range, member, contains⟩
    rcases List.mem_map.mp member with ⟨entry, there, shown⟩
    rcases Option.map_eq_some_iff.mp shown with ⟨given, listed, rfl⟩
    exact ⟨entry, there, given, listed, contains⟩

theorem map_eq_of_forall₂ {α β : Type} {related : α → α → Prop} {transform : α → β}
    (same : ∀ one other, related one other → transform one = transform other)
    {ones others : List α} (pairs : List.Forall₂ related ones others) :
    ones.map transform = others.map transform := by
  induction pairs with
  | nil => rfl
  | cons pair _ induction => rw [List.map_cons, List.map_cons, same _ _ pair, induction]

theorem Respelled.allows_iff (respelled : Respelled parsers rules rules') (now : Time)
    (addr : Addr) : rules'.Allows parsers now addr ↔ rules.Allows parsers now addr := by
  have ranges := map_eq_of_forall₂ (fun _ _ respelled => respelled.unmap_eq) respelled.allowList
  have calls := map_eq_of_forall₂ (fun _ _ respelled => respelled.same_expiry addr)
    respelled.temporary
  have temporary : rules'.unexpired (anyhow addr) now ↔ rules.unexpired (anyhow addr) now := by
    have kept := congrArg (List.filterMap id) calls
    rw [List.filterMap_map, List.filterMap_map] at kept
    exact iff_of_eq (congrArg (fun expiries : List Time =>
      ∃ expiresAt, expiries.getLast? = some expiresAt ∧ now < expiresAt) kept.symm)
  have prefixes : rules'.covers parsers addr ↔ rules.covers parsers addr := by
    rw [covers_iff, covers_iff, ranges]
  unfold Rules.Allows Rules.openByDefault
  rw [temporary, prefixes, respelled.policy]

/-! ## What the manager decides -/

theorem mem_parseEntries {entries : List GoString} {ranges : List Prefix}
    (parsed : parseEntries parsers entries = .ok ranges) (range : Prefix) :
    range ∈ ranges ↔ ∃ entry ∈ entries, listedPrefix parsers entry = some range := by
  induction entries generalizing ranges with
  | nil =>
      cases parsed
      simp
  | cons entry rest induction =>
      rw [parseEntries] at parsed
      simp only [List.exists_mem_cons_iff]
      by_cases empty : trimSpace entry = []
      · rw [if_pos empty] at parsed
        rw [induction parsed, listedPrefix, if_pos empty]
        simp
      · rw [if_neg empty] at parsed
        rw [listedPrefix, if_neg empty]
        cases first : parsers.parsePrefix (withLength (trimSpace entry)) with
        | error err =>
            rw [first] at parsed
            cases parsed
        | ok given =>
            rw [first] at parsed
            cases others : parseEntries parsers rest with
            | error err =>
                rw [others] at parsed
                cases parsed
            | ok more =>
                rw [others] at parsed
                cases parsed
                rw [List.mem_cons, induction others]
                simp [Except.toOption, eq_comm]

theorem foldl_allowTemporary (calls : List TemporaryCall) (m : Manager) :
    calls.foldl (fun m call => m.allowTemporary call.ip call.ttl call.now) m =
      { m with
        tempIPs := calls.foldl
          (fun table call => table.insert call.ip (call.now + call.ttl)) m.tempIPs } := by
  induction calls generalizing m with
  | nil => rfl
  | cons call rest induction =>
      rw [List.foldl_cons, induction]
      rfl

theorem manager_eq (built : rules.manager parsers = .ok m) :
    (m.defaultAllow = true ↔ rules.openByDefault) ∧
      (∀ range, range ∈ m.staticPrefixes ↔
        ∃ entry ∈ rules.allowList, listedPrefix parsers entry = some range) ∧
      ∀ ip, m.tempIPs.lookup ip = (rules.temporary.filterMap fun call =>
        if call.ip = ip then some (call.now + call.ttl) else none).getLast? := by
  unfold Rules.manager newManager at built
  cases parsed : parseEntries parsers rules.allowList with
  | error err =>
      rw [parsed] at built
      cases built
  | ok ranges =>
      rw [parsed] at built
      cases built
      simp only [foldl_allowTemporary]
      refine ⟨decide_eq_true_iff, mem_parseEntries parsed, fun ip => ?_⟩
      rw [Table.lookup_foldl_insert]
      simp

theorem isAllowedAddr_iff (built : rules.manager parsers = .ok m) (now : Time) (addr : Addr) :
    m.isAllowedAddr (some addr) now = true ↔
      rules.unexpired (plainly addr) now ∨ rules.lists parsers addr ∨ rules.openByDefault := by
  rcases manager_eq built with ⟨policy, listed, temporary⟩
  have prefixes : (m.staticPrefixes.any fun range => range.contains addr.unmap) = true ↔
      rules.lists parsers addr := by
    rw [List.any_eq_true]
    constructor
    · rintro ⟨range, member, contains⟩
      rcases (listed range).mp member with ⟨entry, there, stands⟩
      exact ⟨entry, there, range, stands, contains⟩
    · rintro ⟨entry, there, range, stands, contains⟩
      exact ⟨range, (listed range).mpr ⟨entry, there, stands⟩, contains⟩
  have known : m.tempIPs.lookup (some addr.unmap) = (rules.temporary.filterMap fun call =>
      if call.ip.any (plainly addr) then some (call.now + call.ttl) else none).getLast? := by
    rw [temporary]
    congr 2
    funext call
    cases call.ip <;> simp [plainly]
  unfold Manager.isAllowedAddr Rules.unexpired
  rw [Option.map_some, ← known]
  dsimp only
  cases m.tempIPs.lookup (some addr.unmap) with
  | none => simp [prefixes, policy]
  | some expiresAt => simp [prefixes, policy, or_assoc]

theorem extractLsb'_eq_of_shift {one other : BitVec 128} {count : Nat} (few : count ≤ 32)
    (same : (one ^^^ other) >>> count = 0) :
    one.extractLsb' 32 96 = other.extractLsb' 32 96 := by
  apply BitVec.eq_of_getLsbD_eq
  intro index inside
  have zero := congrArg (fun bits : BitVec 128 => bits.getLsbD (32 + index - count)) same
  simp only [BitVec.getLsbD_ushiftRight, BitVec.getLsbD_xor, BitVec.ofNat_eq_ofNat,
    BitVec.getLsbD_zero, show count + (32 + index - count) = 32 + index by omega] at zero
  have equal : one.getLsbD (32 + index) = other.getLsbD (32 + index) := bne_eq_false_iff_eq.mp zero
  rw [BitVec.getLsbD_extractLsb', BitVec.getLsbD_extractLsb', equal]

theorem contains_unmap {range : Prefix} (contains : range.contains addr.unmap = true) :
    range.unmap.contains addr.unmap = true := by
  cases range with
  | v4 bits length => exact contains
  | v6 bits length =>
      by_cases short : bits.extractLsb' 32 96 = 0xffff ∧ 96 ≤ length.val
      · cases plain : addr.unmap with
        | v4 known =>
            rw [plain] at contains
            cases contains
        | v6 known zone =>
            rw [plain] at contains
            simp only [Prefix.contains, Bool.and_eq_true, decide_eq_true_eq] at contains
            have high := extractLsb'_eq_of_shift (by omega) contains.2
            have shorter : (Addr.v6 known zone).unmap = .v4 (known.extractLsb' 0 32) :=
              if_pos (high.trans short.1)
            have same := Addr.unmap_unmap addr
            rw [plain, shorter] at same
            cases same
      · rw [Prefix.unmap, if_neg short]
        exact contains

theorem covers_of_lists (lists : rules.lists parsers addr) : rules.covers parsers addr := by
  rcases lists with ⟨entry, member, range, listed, contains⟩
  exact ⟨entry, member, range, listed, contains_unmap contains⟩

theorem right_iff (built : rules.manager parsers = .ok m) (now : Time) (addr : Addr) :
    (m.isAllowedAddr (some addr) now = true ↔ rules.Allows parsers now addr) ↔
      ¬Misjudged parsers rules now addr := by
  rw [isAllowedAddr_iff built]
  have wider := @covers_of_lists parsers rules addr
  constructor
  · intro same misjudged
    cases misjudged with
    | missed denied unlisted plain allowed =>
        rcases same.mpr (allowed.imp_right .inl) with temporary | lists | opened
        · exact plain temporary
        · exact unlisted lists
        · exact denied opened
    | outlived denied uncovered plain expired =>
        rcases same.mp (.inl plain) with temporary | covers | opened
        · exact expired temporary
        · exact uncovered covers
        · exact denied opened
  · intro sound
    constructor
    · rintro (plain | lists | opened)
      · by_contra refused
        simp only [Rules.Allows, not_or] at refused
        exact sound (.outlived refused.2.2 refused.2.1 plain refused.1)
      · exact .inr (.inl (wider lists))
      · exact .inr (.inr opened)
    · intro allows
      by_contra refused
      simp only [not_or] at refused
      refine sound (.missed refused.2.2 refused.2.1 refused.1 ?_)
      rcases allows with temporary | covers | opened
      · exact .inl temporary
      · exact .inr covers
      · exact absurd opened refused.2.2

/-! ## Clients -/

theorem isAllowedAddr_unmap (m : Manager) (now : Time) {one other : Addr}
    (same : one.unmap = other.unmap) :
    m.isAllowedAddr (some one) now = m.isAllowedAddr (some other) now := by
  unfold Manager.isAllowedAddr
  rw [Option.map_some, Option.map_some, same]

theorem addrFromSlice_short (bits : BitVec 32) :
    addrFromSlice (Bytes.putBigEndian 4 bits.toNat) = some (.v4 bits) := by
  rw [addrFromSlice, if_pos (Bytes.putBigEndian_length 4 _), Bytes.bigEndian_putBigEndian,
    Nat.mod_eq_of_lt (show bits.toNat < 256 ^ 4 from bits.isLt), BitVec.ofNat_toNat,
    BitVec.setWidth_eq]

theorem addrFromSlice_long (bits : BitVec 128) :
    addrFromSlice (Bytes.putBigEndian 16 bits.toNat) = some (.v6 bits "") := by
  have long := Bytes.putBigEndian_length 16 bits.toNat
  rw [addrFromSlice, if_neg (by rw [long]; decide), if_pos long, Bytes.bigEndian_putBigEndian,
    Nat.mod_eq_of_lt (show bits.toNat < 256 ^ 16 from bits.isLt), BitVec.ofNat_toNat,
    BitVec.setWidth_eq]

theorem isAllowed_clients (m : Manager) (parsers : Parsers) (now : Time) {bits : BitVec 32}
    (plain : addr.unmap = .v4 bits) :
    ∀ remote ∈ clients bits, m.isAllowed parsers remote now = m.isAllowedAddr (some addr) now := by
  have short : (addrFromSlice (Bytes.putBigEndian 4 bits.toNat)).map Addr.unmap =
      some (.v4 bits) := by
    rw [addrFromSlice_short]
    rfl
  have long : (addrFromSlice (Bytes.putBigEndian 16 (mapped bits).toNat)).map Addr.unmap =
      some (.v4 bits) := by
    rw [addrFromSlice_long, Option.map_some, unmap_mapped]
  have answer : m.isAllowedAddr (some (.v4 bits)) now = m.isAllowedAddr (some addr) now :=
    isAllowedAddr_unmap m now plain.symm
  intro remote member
  simp only [clients, List.mem_cons, List.not_mem_nil, or_false] at member
  rcases member with rfl | rfl | rfl | rfl <;>
    simp only [Manager.isAllowed, short, long, answer]

/-! ## The guarantee -/

/-- The spelling of an address makes no difference to an ACL just where neither the rules nor
the rules written otherwise misjudge it. -/
theorem decisions_independent (respelled : Respelled parsers rules rules')
    (built : rules.manager parsers = .ok m) (built' : rules'.manager parsers = .ok m')
    (now : Time) (addr : Addr) :
    Independent parsers rules m m' now addr ↔
      ¬Misjudged parsers rules now addr ∧ ¬Misjudged parsers rules' now addr := by
  have right := right_iff built now addr
  have right' := right_iff built' now addr
  rw [respelled.allows_iff] at right'
  rw [← right, ← right']
  constructor
  · intro independent
    refine ⟨independent.exact, ?_⟩
    rw [independent.respelled]
    exact independent.exact
  · rintro ⟨exact, exact'⟩
    refine ⟨fun bits plain => ⟨isAllowed_clients m parsers now plain, fun zone => ?_, ?_⟩, ?_, exact⟩
    · exact isAllowedAddr_unmap m now ((unmap_mapped bits zone).trans plain.symm)
    · exact isAllowedAddr_unmap m now plain.symm
    · rw [Bool.eq_iff_iff, exact, exact']

/-! ## One host in a list -/

def network : GoString := [0x31, 0x30, 0x2e, 0x30, 0x2e, 0x30, 0x2e, 0x30, 0x2f, 0x38]
def host : GoString := [0x31, 0x30, 0x2e, 0x30, 0x2e, 0x30, 0x2e, 0x35]
def longHost : GoString := [0x3a, 0x3a, 0x66, 0x66, 0x66, 0x66, 0x3a] ++ host

def sampleParsers : Parsers where
  parsePrefix text :=
    if text = network then .ok (.v4 0x0A000000 8)
    else if text = withLength host then .ok (.v4 0x0A000005 32)
    else if text = withLength longHost then .ok (mappedPrefix 0x0A000005 32)
    else .error "netip.ParsePrefix"
  splitHostPort _ := none
  parseAddr _ := none

def denying (allowList : List GoString) : Rules where
  defaultPolicy := [0x64, 0x65, 0x6e, 0x79]
  allowList := allowList
  temporary := []

def managerOf (ranges : List Prefix) : Manager := ⟨false, ranges, ∅⟩

theorem respelled_host : RespelledEntry sampleParsers host longHost := by
  have plain : listedPrefix sampleParsers host = some (.v4 0x0A000005 32) := by decide +kernel
  exact .long plain (by decide +kernel)

/-- The host is in a network that is listed too. -/
theorem decisions_independent_network :
    Independent sampleParsers (denying [network, host])
      (managerOf [.v4 0x0A000000 8, .v4 0x0A000005 32])
      (managerOf [.v4 0x0A000000 8, mappedPrefix 0x0A000005 32]) 0 (.v4 0x0A000005) := by
  have sound : ∀ entry, ¬Misjudged sampleParsers (denying [network, entry]) 0 (.v4 0x0A000005) := by
    intro entry misjudged
    have lists : (denying [network, entry]).lists sampleParsers (.v4 0x0A000005) :=
      ⟨network, List.mem_cons_self, .v4 0x0A000000 8, by decide +kernel, by decide⟩
    cases misjudged with
    | missed _ unlisted _ _ => exact unlisted lists
    | outlived _ uncovered _ _ => exact uncovered (covers_of_lists lists)
  have respelled : Respelled sampleParsers (denying [network, host])
      (denying [network, longHost]) :=
    ⟨rfl, .cons (.same _) (.cons respelled_host .nil), .nil⟩
  exact (decisions_independent respelled rfl rfl 0 _).mpr ⟨sound host, sound longHost⟩

/-- The host alone is let in, and is not where it is listed in IPv6 form. -/
theorem respelled_host_denied :
    Respelled sampleParsers (denying [host]) (denying [longHost]) ∧
      (denying [host]).manager sampleParsers = .ok (managerOf [.v4 0x0A000005 32]) ∧
      (denying [longHost]).manager sampleParsers =
        .ok (managerOf [mappedPrefix 0x0A000005 32]) ∧
      ¬Independent sampleParsers (denying [host]) (managerOf [.v4 0x0A000005 32])
        (managerOf [mappedPrefix 0x0A000005 32]) 0 (.v4 0x0A000005) := by
  refine ⟨⟨rfl, .cons respelled_host .nil, .nil⟩, rfl, rfl, fun independent => ?_⟩
  have same := independent.respelled
  revert same
  decide

end Decision

end Rdpulse.ACL
