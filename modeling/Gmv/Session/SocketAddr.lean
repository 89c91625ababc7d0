import Mathlib.Data.List.Nodup

/-!
# Socket addresses

The textual form of `std::net::SocketAddr`: a dotted IPv4 address or a bracketed
IPv6 address with an optional scope, followed by a port.  Each reader takes a
value from the front of the text and leaves the rest; a reader that fails takes
nothing.
-/

namespace Gmv.Session

structure Ipv4Addr where
  first : UInt8
  second : UInt8
  third : UInt8
  fourth : UInt8
  deriving DecidableEq, Repr

structure Ipv6Addr where
  groups : Vector UInt16 8
  deriving DecidableEq, Repr

inductive SocketAddr where
  | v4 (ip : Ipv4Addr) (port : UInt16)
  | v6 (ip : Ipv6Addr) (scopeId : UInt32) (port : UInt16)
  deriving DecidableEq, Repr

namespace SocketAddr

/-- A reader of the front of a text. -/
abbrev Reader (α : Type) := StateT (List Char) Option α

def readGivenChar (target : Char) : Reader Unit := fun text =>
  match text with
  | char :: rest => if char = target then some ((), rest) else none
  | [] => none

/-- `char::to_digit`. -/
def toDigit (radix : Nat) (char : Char) : Option Nat :=
  let value :=
    if char.isDigit then some (char.toNat - '0'.toNat)
    else if 'a' ≤ char ∧ char ≤ 'z' then some (char.toNat - 'a'.toNat + 10)
    else if 'A' ≤ char ∧ char ≤ 'Z' then some (char.toNat - 'A'.toNat + 10)
    else none
  value.filter fun digit => digit < radix

/-- The value and the number of the leading digits, and the text after them. -/
def readDigits (radix : Nat) : Nat → Nat → List Char → Nat × Nat × List Char
  | result, count, [] => (result, count, [])
  | result, count, char :: rest =>
      match toDigit radix char with
      | some digit => readDigits radix (result * radix + digit) (count + 1) rest
      | none => (result, count, char :: rest)

/-- A number below `size`. A fixed-width field limits its digits as well. -/
def readNumber (radix : Nat) (maxDigits : Option Nat) (allowZeroPrefix : Bool) (size : Nat) :
    Reader Nat := fun text =>
  let (result, count, rest) := readDigits radix 0 0 text
  if maxDigits.any fun most => most < count then none
  else if count = 0 then none
  else if !allowZeroPrefix && text.head? == some '0' && decide (1 < count) then none
  else if result < size then some (result, rest)
  else none

/-- A field that is not the first one stands behind a separator. -/
def readSeparator {α : Type} (separator : Char) (index : Nat) (inner : Reader α) : Reader α := do
  if 0 < index then readGivenChar separator
  inner

def readOctet (index : Nat) : Reader UInt8 := do
  let octet ← readSeparator '.' index (readNumber 10 (some 3) false 256)
  return UInt8.ofNat octet

def readIpv4Addr : Reader Ipv4Addr := do
  let first ← readOctet 0
  let second ← readOctet 1
  let third ← readOctet 2
  let fourth ← readOctet 3
  return ⟨first, second, third, fourth⟩

/-- Up to `left` groups behind the `index` groups already read, with a flag for an
embedded trailing IPv4 address. -/
def readGroups (index : Nat) : Nat → List Char → (List UInt16 × Bool) × List Char
  | 0, text => (([], false), text)
  | left + 1, text =>
      let embedded := if 0 < left then readSeparator ':' index readIpv4Addr text else none
      match embedded with
      | some (ip, rest) =>
          (([ip.first.toUInt16 * 256 + ip.second.toUInt16,
              ip.third.toUInt16 * 256 + ip.fourth.toUInt16], true), rest)
      | none =>
          match readSeparator ':' index (readNumber 16 (some 4) true 65536) text with
          | some (group, rest) =>
              let ((groups, ipv4), rest) := readGroups (index + 1) left rest
              ((UInt16.ofNat group :: groups, ipv4), rest)
          | none => (([], false), text)

/-- The address with the given front and back groups and zeros between them. -/
def Ipv6Addr.ofParts (head tail : List UInt16) : Ipv6Addr :=
  let zeros := List.replicate (8 - head.length - tail.length) 0
  ⟨Vector.ofFn fun index => (head ++ zeros ++ tail).getD index 0⟩

def readIpv6Addr : Reader Ipv6Addr := fun text =>
  let ((head, headIpv4), rest) := readGroups 0 8 text
  if head.length = 8 then some (Ipv6Addr.ofParts head [], rest)
  else if headIpv4 then none
  else do
    let (_, rest) ← readGivenChar ':' rest
    let (_, rest) ← readGivenChar ':' rest
    let ((tail, _), rest) := readGroups 0 (8 - (head.length + 1)) rest
    return (Ipv6Addr.ofParts head tail, rest)

def readPort : Reader UInt16 := do
  readGivenChar ':'
  let port ← readNumber 10 none true 65536
  return UInt16.ofNat port

def readScopeId : Reader UInt32 := do
  readGivenChar '%'
  let scopeId ← readNumber 10 none true 4294967296
  return UInt32.ofNat scopeId

def readSocketAddrV4 : Reader SocketAddr := do
  let ip ← readIpv4Addr
  let port ← readPort
  return .v4 ip port

def readSocketAddrV6 : Reader SocketAddr := do
  readGivenChar '['
  let ip ← readIpv6Addr
  let scopeId ← readScopeId <|> pure 0
  readGivenChar ']'
  let port ← readPort
  return .v6 ip scopeId port

/-- `SocketAddr::from_str`: the whole text is one address. -/
def parse (value : String) : Option SocketAddr :=
  match (readSocketAddrV4 <|> readSocketAddrV6) value.toList with
  | some (addr, []) => some addr
  | _ => none

example : parse "127.0.0.1:15060" = some (.v4 ⟨127, 0, 0, 1⟩ 15060) := by decide +kernel

example : parse "[fe80::1.2.3.4%7]:05060" =
    some (.v6 ⟨#v[0xfe80, 0, 0, 0, 0, 0, 0x102, 0x304]⟩ 7 5060) := by decide +kernel

example : parse "127.0.0.01:5060" = none := by decide +kernel

end SocketAddr

end Gmv.Session
