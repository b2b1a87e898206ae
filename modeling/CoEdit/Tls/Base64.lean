/-!
# Bytes in base sixty-four

Four digits stand for three bytes. The last group may be shorter, with or without signs of equality in the place of the missing
digits. Blanks and line ends mean nothing.
-/

namespace CoEdit

namespace Base64

/-- The value of a digit. -/
def digit? (c : UInt8) : Option Nat :=
  if 65 ≤ c ∧ c ≤ 90 then some (c.toNat - 65)
  else if 97 ≤ c ∧ c ≤ 122 then some (c.toNat - 97 + 26)
  else if 48 ≤ c ∧ c ≤ 57 then some (c.toNat - 48 + 52)
  else if c = 43 then some 62
  else if c = 47 then some 63
  else none

/-- Whether a byte means nothing. -/
def isBlank (c : UInt8) : Bool := c = 32 || c = 9 || c = 10 || c = 13

/-- Whether a byte stands in the place of a missing digit. -/
def isPadding (c : UInt8) : Bool := c = 61

/-- The bytes of digits. -/
def bytesOf : List Nat → List UInt8
  | a :: b :: c :: d :: rest =>
    UInt8.ofNat (a * 4 + b / 16) :: UInt8.ofNat (b % 16 * 16 + c / 4) :: UInt8.ofNat (c % 4 * 64 + d) :: bytesOf rest
  | [a, b, c] => [UInt8.ofNat (a * 4 + b / 16), UInt8.ofNat (b % 16 * 16 + c / 4)]
  | [a, b] => [UInt8.ofNat (a * 4 + b / 16)]
  | _ => []

/-- Whether digits and padding fill whole groups, or digits without padding leave no single digit over. -/
def isWhole (digits padding : Nat) : Bool :=
  if padding = 0 then digits % 4 ≠ 1 else padding ≤ 2 && (digits + padding) % 4 = 0

/-- The bytes of a text. -/
def decode? (text : List UInt8) : Option (List UInt8) :=
  let marks := text.filter (fun c => !isBlank c)
  let padding := (marks.reverse.takeWhile isPadding).length
  let digits := marks.take (marks.length - padding)
  if isWhole digits.length padding then (digits.mapM digit?).map bytesOf else none

end Base64

end CoEdit
