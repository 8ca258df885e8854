import Mathlib.Data.UInt

namespace Rdpulse.Path

/-! Addresses and ports of the package `netip`. -/

inductive Addr
  | v4 (bits : BitVec 32)
  | v6 (bits : BitVec 128) (zone : String)
  deriving DecidableEq, Repr

/-- `Unmap`: an IPv4 address in IPv6 form is that address. -/
def Addr.unmap : Addr → Addr
  | .v4 bits => .v4 bits
  | .v6 bits zone =>
      if bits.extractLsb' 32 96 = 0xffff then .v4 (bits.extractLsb' 0 32) else .v6 bits zone

structure AddrPort where
  addr : Addr
  port : UInt16
  deriving DecidableEq, Repr

def Addr.isUnspecified : Addr → Bool
  | .v4 bits => bits = 0
  | .v6 bits zone => bits = 0 && zone = ""

/-- `IsMulticast`, of an IPv4 address in IPv6 form too. -/
def Addr.isMulticast (addr : Addr) : Bool :=
  match addr.unmap with
  | .v4 bits => bits.extractLsb' 28 4 = 0xe
  | .v6 bits _ => bits.extractLsb' 120 8 = 0xff

@[simp] theorem Addr.unmap_unmap (addr : Addr) : addr.unmap.unmap = addr.unmap := by
  cases addr with
  | v4 bits => rfl
  | v6 bits zone =>
      by_cases mapped : bits.extractLsb' 32 96 = 0xffff
      · have short : (Addr.v6 bits zone).unmap = .v4 (bits.extractLsb' 0 32) := if_pos mapped
        rw [short]
        rfl
      · have same : (Addr.v6 bits zone).unmap = .v6 bits zone := if_neg mapped
        rw [same, same]

theorem Addr.isMulticast_unmap (addr : Addr) : addr.unmap.isMulticast = addr.isMulticast := by
  rw [isMulticast, unmap_unmap, isMulticast]

end Rdpulse.Path
