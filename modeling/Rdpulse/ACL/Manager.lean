import Mathlib.Data.List.AList
import Rdpulse.Foundation.Bytes
import Rdpulse.Path.AddrPort
import Rdpulse.Protocol.Control

namespace Rdpulse.ACL

open Foundation Protocol Rdpulse.Path

/-! The list of client addresses that a Relay lets in. -/

abbrev Time := Int

inductive Prefix
  | v4 (bits : BitVec 32) (length : Fin 33)
  | v6 (bits : BitVec 128) (length : Fin 129)
  deriving DecidableEq, Repr

/-- `Contains`: of the addresses of the same family, in no zone, those with the same first
bits. -/
def Prefix.contains : Prefix → Addr → Bool
  | .v4 bits length, .v4 addr => (addr ^^^ bits) >>> (32 - length.val) = 0
  | .v6 bits length, .v6 addr zone => zone = "" && (addr ^^^ bits) >>> (128 - length.val) = 0
  | _, _ => false

structure Parsers where
  parsePrefix : GoString → Except String Prefix
  splitHostPort : GoString → Option GoString
  parseAddr : GoString → Option Addr

/-! ## Strings -/

def spaces : List GoString :=
  [[0x09], [0x0a], [0x0b], [0x0c], [0x0d], [0x20], [0xc2, 0x85], [0xc2, 0xa0],
    [0xe1, 0x9a, 0x80]] ++
  (List.range 11).map (fun index => [0xe2, 0x80, 0x80 + UInt8.ofNat index]) ++
  [[0xe2, 0x80, 0xa8], [0xe2, 0x80, 0xa9], [0xe2, 0x80, 0xaf], [0xe2, 0x81, 0x9f],
    [0xe3, 0x80, 0x80]]

/-- The text after the given words at its start; as many are dropped as it has bytes. -/
def dropWords (words : List GoString) : Nat → GoString → GoString
  | 0, text => text
  | count + 1, text =>
      match words.find? fun word => word.isPrefixOf text with
      | some word => dropWords words count (text.drop word.length)
      | none => text

def trimSpace (text : GoString) : GoString :=
  let left := dropWords spaces text.length text
  (dropWords (spaces.map List.reverse) left.length left.reverse).reverse

/-- A letter of `strings.ToLower`; no letter beyond ASCII becomes one of "allow". -/
def toLower (byte : UInt8) : UInt8 := if 0x41 ≤ byte && byte ≤ 0x5a then byte + 0x20 else byte

def allowPolicy : GoString := [0x61, 0x6c, 0x6c, 0x6f, 0x77]

/-! ## `Manager` -/

structure Manager where
  defaultAllow : Bool
  staticPrefixes : List Prefix
  tempIPs : AList fun _ : Option Addr => Time

def withLength (entry : GoString) : GoString :=
  if 0x2f ∈ entry then entry
  else if 0x3a ∈ entry then entry ++ [0x2f, 0x31, 0x32, 0x38]
  else entry ++ [0x2f, 0x33, 0x32]

def parseEntries (parsers : Parsers) : List GoString → Except String (List Prefix)
  | [] => .ok []
  | entry :: rest =>
      if trimSpace entry = [] then parseEntries parsers rest
      else
        match parsers.parsePrefix (withLength (trimSpace entry)) with
        | .error err => .error err
        | .ok range => (parseEntries parsers rest).map fun ranges => range :: ranges

def newManager (parsers : Parsers) (defaultPolicy : GoString) (allowList : List GoString) :
    Except String Manager :=
  (parseEntries parsers allowList).map fun ranges =>
    { defaultAllow := defaultPolicy.map toLower = allowPolicy
      staticPrefixes := ranges
      tempIPs := ∅ }

inductive RemoteAddr
  | tcp (ip : Bytes)
  | udp (ip : Bytes)
  | other (text : GoString)
  deriving DecidableEq, Repr

def addrFromSlice (ip : Bytes) : Option Addr :=
  if ip.length = 4 then some (.v4 (BitVec.ofNat 32 (Bytes.bigEndian ip)))
  else if ip.length = 16 then some (.v6 (BitVec.ofNat 128 (Bytes.bigEndian ip)) "")
  else none

namespace Manager

/-- The key is the address as it is given; an invalid one is `none`. -/
def allowTemporary (m : Manager) (ip : Option Addr) (ttl now : Time) : Manager :=
  { m with tempIPs := m.tempIPs.insert ip (now + ttl) }

def isAllowedAddr (m : Manager) (addr : Option Addr) (now : Time) : Bool :=
  match addr.map Addr.unmap with
  | none => m.defaultAllow
  | some addr =>
      match m.tempIPs.lookup (some addr) with
      | some expiresAt =>
          now < expiresAt || (m.staticPrefixes.any fun range => range.contains addr) ||
            m.defaultAllow
      | none => (m.staticPrefixes.any fun range => range.contains addr) || m.defaultAllow

def isAllowed (m : Manager) (parsers : Parsers) (remoteAddr : RemoteAddr) (now : Time) : Bool :=
  let addr :=
    match remoteAddr with
    | .tcp ip => (addrFromSlice ip).map Addr.unmap
    | .udp ip => (addrFromSlice ip).map Addr.unmap
    | .other text =>
        ((parsers.splitHostPort text).bind parsers.parseAddr).map Addr.unmap
  m.isAllowedAddr addr now

end Manager

end Rdpulse.ACL
