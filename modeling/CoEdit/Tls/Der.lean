/-!
# Tagged values

A tagged value is a byte that tells its sort, the length of what follows, and that many bytes. A length has the fewest bytes
possible, and no more than two after the first.
-/

namespace CoEdit

/-- Reads the beginning of a text of bytes and leaves the rest. -/
abbrev ByteReader (α : Type) := List UInt8 → Option (α × List UInt8)

namespace Der

/-- The tags of values. -/
def integer : UInt8 := 0x02
def bitString : UInt8 := 0x03
def octetString : UInt8 := 0x04
def sequence : UInt8 := 0x30
def field (n : UInt8) : UInt8 := 0xA0 + n

/-- The number that bytes stand for, the highest first. -/
def natural (bytes : List UInt8) : Nat := bytes.foldl (fun n b => n * 256 + b.toNat) 0

/-- Bytes of a number of a given size, the highest first. -/
def bytesOf : (size n : Nat) → List UInt8
  | 0, _ => []
  | size + 1, n => bytesOf size (n / 256) ++ [UInt8.ofNat (n % 256)]

/-- Reads a length. -/
def readLength : ByteReader Nat
  | 0x81 :: n :: rest => if 0x80 ≤ n then some (n.toNat, rest) else none
  | 0x82 :: m :: n :: rest => if m = 0 then none else some (m.toNat * 256 + n.toNat, rest)
  | n :: rest => if n < 0x80 then some (n.toNat, rest) else none
  | [] => none

/-- Reads a value of a tag. -/
def read (tag : UInt8) : ByteReader (List UInt8)
  | [] => none
  | t :: rest =>
    if t ≠ tag then none
    else (readLength rest).bind fun (n, rest) =>
      if n ≤ rest.length then some (rest.take n, rest.drop n) else none

/-- Reads a value of a tag if one is there. -/
def readOptional (tag : UInt8) : ByteReader (Option (List UInt8)) := fun bytes =>
  match bytes with
  | t :: _ => if t = tag then (read tag bytes).map fun (v, rest) => (some v, rest) else some (none, bytes)
  | [] => some (none, [])

/-- The value of a tag that is all there is. -/
def whole? (tag : UInt8) (bytes : List UInt8) : Option (List UInt8) :=
  match read tag bytes with
  | some (v, []) => some v
  | _ => none

/-- Whether the bytes of a whole number are the fewest possible. -/
def isShortest : List UInt8 → Bool
  | [] => false
  | [_] => true
  | a :: b :: _ => !(a = 0 && b < 0x80)

/-- Reads a whole number that is not negative. -/
def readNatural : ByteReader Nat := fun bytes =>
  (read integer bytes).bind fun (v, rest) =>
    if isShortest v ∧ v.headD 0 < 0x80 then some (natural v, rest) else none

/-- The bytes of a string of bits that fills them. -/
def filledBits? : List UInt8 → Option (List UInt8)
  | 0 :: bytes => some bytes
  | _ => none

/-- The length of a value. -/
def lengthBytes (n : Nat) : List UInt8 :=
  if n < 0x80 then [UInt8.ofNat n]
  else if n < 0x100 then [0x81, UInt8.ofNat n]
  else [0x82, UInt8.ofNat (n / 256), UInt8.ofNat (n % 256)]

/-- Writes a value of a tag. -/
def write (tag : UInt8) (value : List UInt8) : List UInt8 := tag :: lengthBytes value.length ++ value

/-- Writes a natural number. -/
def writeNatural (n : Nat) : List UInt8 :=
  let size := if n = 0 then 1 else n.log2 / 8 + 1
  let bytes := bytesOf size n
  write integer (if bytes.headD 0 < 0x80 then bytes else 0 :: bytes)

end Der

end CoEdit
