import CoEdit.Number.Decimal

/-!
# Addresses

Addresses of both families, their texts, and the address of a peer, which is an address and a port.

A text of the fourth version has four decimal numbers without superfluous zeros. A text of the sixth version has eight groups
of up to four digits in base sixteen; a double colon stands for one or more groups of zero, and the last two groups may be
written as an address of the fourth version. Printing shortens the first longest run of two or more groups of zero, and writes
the last two groups of an address that stands for one of the fourth version the way that version does.
-/

namespace CoEdit

/-- Family of an address. -/
inductive AddressFamily where
  | ipv6 | ipv4
  deriving DecidableEq, Repr

namespace AddressFamily

/-- Name of the family in messages. -/
def name : AddressFamily → String
  | .ipv6 => "IPv6"
  | .ipv4 => "IPv4"

/-- Name of the family in configuration. -/
def keyword : AddressFamily → String
  | .ipv6 => "ipv6"
  | .ipv4 => "ipv4"

end AddressFamily

/-- An address of a host, as its number. -/
inductive IpAddress where
  | v4 (bits : UInt32)
  | v6 (high low : UInt64)
  deriving DecidableEq, Repr

/-- Reads part of a text and leaves the rest. -/
abbrev AddressReader (α : Type) := List Char → Option (α × List Char)

namespace IpAddress

/-- Family of the address. -/
def family : IpAddress → AddressFamily
  | .v4 _ => .ipv4
  | .v6 _ _ => .ipv6

/-- The address of a family that stands for all addresses. -/
def any : AddressFamily → IpAddress
  | .ipv6 => .v6 0 0
  | .ipv4 => .v4 0

/-- Whether the address is one of the machine itself, or stands for all of its addresses. -/
def isLocal : IpAddress → Bool
  | .v4 bits => bits = 0 || bits >>> 24 = 127
  | .v6 high low => high = 0 && low ≤ 1

/-- The families to listen on for an address; without an address both, the sixth version first. -/
def families : Option IpAddress → List AddressFamily
  | some a => [a.family]
  | none => [.ipv6, .ipv4]

/-! ## Reading -/

/-- Reads one given character. -/
def readChar (c : Char) : AddressReader Unit
  | x :: rest => if x = c then some ((), rest) else none
  | [] => none

/-- Reads a number of at most `digits` digits below a bound. -/
def readNumber (base digits bound : Nat) (leadingZeros : Bool) : AddressReader Nat := fun cs =>
  let isDigit (c : Char) : Bool := (Decimal.digitValue? base c).isSome
  let ds := cs.takeWhile isDigit
  if ds.length ≤ digits ∧ (leadingZeros ∨ ds.length ≤ 1 ∨ ds.head? ≠ some '0') then
    ((Decimal.natural? base ds).filter (· < bound)).map fun n => (n, cs.dropWhile isDigit)
  else none

/-- Reads what comes after a separator; the first of a sequence has none before it. -/
def readAfter {α : Type} (separator : Char) (first : Bool) (r : AddressReader α) : AddressReader α := fun cs =>
  if first then r cs else (readChar separator cs).bind fun (_, rest) => r rest

/-- Reads the four numbers of an address of the fourth version. -/
def readV4 : AddressReader (Nat × Nat × Nat × Nat) := fun cs => do
  let octet := readNumber 10 3 256 false
  let (a, cs) ← octet cs
  let (b, cs) ← readAfter '.' false octet cs
  let (c, cs) ← readAfter '.' false octet cs
  let (d, cs) ← readAfter '.' false octet cs
  return ((a, b, c, d), cs)

/-- Reads at most `room` groups; says whether the last two were written as an address of the fourth version. -/
def readGroups : (room : Nat) → (first : Bool) → List Char → List Nat × Bool × List Char
  | 0, _, cs => ([], false, cs)
  | room + 1, first, cs =>
    match (if 0 < room then readAfter ':' first readV4 cs else none) with
    | some ((a, b, c, d), rest) => ([a * 256 + b, c * 256 + d], true, rest)
    | none =>
      match readAfter ':' first (readNumber 16 4 65536 true) cs with
      | some (g, rest) =>
        let (gs, plain, rest) := readGroups room false rest
        (g :: gs, plain, rest)
      | none => ([], false, cs)

/-- The address of eight groups. -/
def ofGroups (gs : List Nat) : IpAddress :=
  .v6 (UInt64.ofNat ((gs.take 4).foldl (fun n g => n * 65536 + g) 0))
    (UInt64.ofNat ((gs.drop 4).foldl (fun n g => n * 65536 + g) 0))

/-- Reads an address of the sixth version. -/
def readV6 : AddressReader IpAddress := fun cs =>
  let (front, plain, rest) := readGroups 8 true cs
  if front.length = 8 then some (ofGroups front, rest)
  else if plain then none
  else do
    let (_, rest) ← readChar ':' rest
    let (_, rest) ← readChar ':' rest
    let (back, _, rest) := readGroups (7 - front.length) true rest
    return (ofGroups (front ++ List.replicate (8 - front.length - back.length) 0 ++ back), rest)

/-- Reads an address of the fourth version as an address. -/
def readV4Address : AddressReader IpAddress := fun cs =>
  (readV4 cs).map fun ((a, b, c, d), rest) => (.v4 (UInt32.ofNat (((a * 256 + b) * 256 + c) * 256 + d)), rest)

/-- The value of a reader that reads the whole text. -/
def whole? {α : Type} (r : AddressReader α) (text : String) : Option α :=
  match r text.toList with
  | some (a, []) => some a
  | _ => none

/-- The address a text writes. -/
def ofText? (text : String) : Option IpAddress :=
  whole? (fun cs => (readV4Address cs).orElse fun _ => readV6 cs) text

/-! ## Printing -/

/-- The eight groups of an address of the sixth version. -/
def groups (high low : UInt64) : List Nat :=
  let parts (n : Nat) : List Nat := [n / 0x1000000000000 % 65536, n / 0x100000000 % 65536, n / 65536 % 65536, n % 65536]
  parts high.toNat ++ parts low.toNat

/-- Four numbers with points between them. -/
def dotted (n : Nat) : String :=
  String.intercalate "." ([n / 0x1000000 % 256, n / 65536 % 256, n / 256 % 256, n % 256].map toString)

/-- The length of the run of zeros a list begins with. -/
def zeroRun (gs : List Nat) : Nat := (gs.takeWhile (· = 0)).length

/-- The first longest run of zeros: its place and its length. -/
def longestRun : (place : Nat) → List Nat → Nat × Nat
  | _, [] => (0, 0)
  | place, g :: rest =>
    let (p, n) := longestRun (place + 1) rest
    let m := zeroRun (g :: rest)
    if n ≤ m ∧ 0 < m then (place, m) else (p, n)

/-- Groups in base sixteen with colons between them. -/
def colonated (gs : List Nat) : String :=
  String.intercalate ":" (gs.map fun g => String.ofList (Nat.toDigits 16 g))

/-- The text of an address. -/
def text : IpAddress → String
  | .v4 bits => dotted bits.toNat
  | .v6 high low =>
    if high = 0 ∧ low.toNat / 0x100000000 = 0xFFFF then "::ffff:" ++ dotted (low.toNat % 0x100000000)
    else
      let gs := groups high low
      let (place, n) := longestRun 0 gs
      if 1 < n then colonated (gs.take place) ++ "::" ++ colonated (gs.drop (place + n)) else colonated gs

end IpAddress

/-- The address a peer connects from. -/
structure PeerAddress where
  ip : IpAddress
  /-- Interface of a link-local address; zero for none. -/
  scope : UInt32 := 0
  port : UInt16
  deriving DecidableEq, Repr

namespace PeerAddress

open IpAddress

/-- Reads a colon and a port. -/
def readPort : AddressReader UInt16 := fun cs =>
  (readAfter ':' false (readNumber 10 (cs.length) 65536 true) cs).map fun (n, rest) => (UInt16.ofNat n, rest)

/-- Reads an address between brackets and a port. -/
def readBracketed : AddressReader PeerAddress := fun cs => do
  let (_, cs) ← readChar '[' cs
  let (ip, cs) ← readV6 cs
  let (scope, cs) := ((readAfter '%' false (readNumber 10 cs.length 0x100000000 true) cs).getD (0, cs))
  let (_, cs) ← readChar ']' cs
  let (port, cs) ← readPort cs
  return ({ ip, scope := UInt32.ofNat scope, port }, cs)

/-- Reads an address of the fourth version and a port. -/
def readPlain : AddressReader PeerAddress := fun cs => do
  let (ip, cs) ← readV4Address cs
  let (port, cs) ← readPort cs
  return ({ ip, port }, cs)

/-- The peer address a text writes. -/
def ofText? (text : String) : Option PeerAddress :=
  whole? (fun cs => (readPlain cs).orElse fun _ => readBracketed cs) text

/-- The text of a peer address. -/
def text (p : PeerAddress) : String :=
  match p.ip with
  | .v4 _ => p.ip.text ++ ":" ++ toString p.port
  | .v6 _ _ =>
    let scope := if p.scope = 0 then "" else "%" ++ toString p.scope
    "[" ++ p.ip.text ++ scope ++ "]:" ++ toString p.port

end PeerAddress

end CoEdit
