import CoEdit.Number.Decimal
import CoEdit.Tree

/-!
# Numbers of JSON documents

A number is an optional minus sign, digits without a superfluous zero in front, an optional fraction and an optional exponent.
Without fraction and exponent it stays a whole number where it fits sixty-four bits; minus zero is a double.

The digits are gathered into a word of sixty-four bits. Digits that would overflow it are dropped, those before the point
counting for a power of ten. The word becomes a double, and that is multiplied or divided by the double nearest to a power of
ten: two roundings, so the last bit may differ from the nearest double's. A number too large for a double is written as any other
(`Numeral.ofText?`), but has no value (`Numeral.value?`).
-/

namespace CoEdit.Json

/-- Gathers digits into a word of sixty-four bits: the word, how many were taken, and how many were left once the next one
would have overflowed. -/
def gather : (word taken : Nat) → List Char → Nat × Nat × Nat
  | word, taken, [] => (word, taken, 0)
  | word, taken, c :: rest =>
    let next := word * 10 + (c.toNat - '0'.toNat)
    if next < 0x10000000000000000 then gather next (taken + 1) rest else (word, taken, rest.length + 1)

/-- Multiplies a double by a power of ten, in steps of at most 308 places downwards. -/
def scaled : (fuel : Nat) → Double → Int → Option Double
  | 0, d, _ => some d
  | fuel + 1, d, e =>
    if e.natAbs ≤ 308 then
      if 0 ≤ e then (some (d.mul (Double.powerOfTen e.toNat))).filter Double.isFinite
      else some (d.div (Double.powerOfTen (-e).toNat))
    else if d.magnitude = 0 then some d
    else if 0 ≤ e then none
    else scaled fuel (d.div (Double.powerOfTen 308)) (e + 308)

/-- The double of a word and a power of ten. -/
def ofParts (negative : Bool) (word : Nat) (e : Int) : Option Double :=
  (scaled 4 (Double.ofNat word) e).map fun d => if negative then d.negate else d

/-- The exponent a number ends with, if it has one: its mark, sign and digits. -/
def exponentPart? : List Char → Option (Bool × Nat)
  | [] => some (false, 0)
  | c :: rest =>
    if c = 'e' ∨ c = 'E' then
      match rest with
      | '-' :: ds => (Decimal.natural? 10 ds).map ((true, ·))
      | '+' :: ds => (Decimal.natural? 10 ds).map ((false, ·))
      | ds => (Decimal.natural? 10 ds).map ((false, ·))
    else none

/-- What a number has after its whole digits: the digits of a fraction, and whether an exponent is negative, and the exponent. -/
structure NumeralTail where
  fraction : List Char := []
  down : Bool := false
  exponent : Nat := 0
  deriving Repr

/-- A number as it is written. One without a fraction and an exponent has no tail. -/
structure Numeral where
  negative : Bool
  whole : List Char
  tail : Option NumeralTail := none
  deriving Repr

namespace Numeral

/-- A number with its sign taken off, as it is written. -/
def ofUnsigned? (negative : Bool) (cs : List Char) : Option Numeral :=
  let whole := cs.takeWhile Char.isDigit
  let rest := cs.dropWhile Char.isDigit
  if whole = [] ∨ (whole.head? = some '0' ∧ whole ≠ ['0']) then none
  else match rest with
    | [] => some { negative, whole }
    | '.' :: more =>
      let fraction := more.takeWhile Char.isDigit
      if fraction = [] then none
      else (exponentPart? (more.dropWhile Char.isDigit)).map fun (down, exponent) =>
        { negative, whole, tail := some { fraction, down, exponent } }
    | _ => (exponentPart? rest).map fun (down, exponent) => { negative, whole, tail := some { down, exponent } }

/-- A number as it is written. -/
def ofText? : List Char → Option Numeral
  | '-' :: rest => ofUnsigned? true rest
  | cs => ofUnsigned? false cs

/-- The double of a number with a fraction or an exponent, or of one with too many digits for a word. -/
def double? (n : Numeral) (t : NumeralTail) : Option Double :=
  let (word, _, dropped) := gather 0 0 n.whole
  let (word, taken, _) := gather word 0 t.fraction
  if 0x80000000 ≤ t.exponent then
    if word ≠ 0 ∧ ¬ t.down then none else some (Double.ofMagnitude n.negative 0)
  else ofParts n.negative word ((dropped : Int) - taken + (if t.down then -(t.exponent : Int) else t.exponent))

/-- The value of a number, if it is not too large for a double. -/
def value? (n : Numeral) : Option Number :=
  match n.tail with
  | some t => (n.double? t).map .double
  | none => match gather 0 0 n.whole with
    | (word, _, 0) =>
      if ¬ n.negative then some (.integer word)
      else if word = 0 ∨ 0x8000000000000000 < word then some (.double (Double.ofRatio true word 1))
      else some (.integer (-(word : Int)))
    | _ => (n.double? {}).map .double

end Numeral

/-- The number a text writes. -/
def number? (cs : List Char) : Option Number := (Numeral.ofText? cs).bind Numeral.value?

end CoEdit.Json
