import CoEdit.Number.Double

/-!
# Shortest decimals

The decimal of a finite double has the fewest digits that read back as the double, and of those decimals it is the nearest one;
from the middle the even one is taken. `Double.shortest` finds it: the decimals that read back as a double form an interval
around it, and on the grid of a given number of digits only the double's two neighbours need to be looked at, since when any
point of the grid lies in the interval one of these does.

`Double.text` writes the digits the way numbers of configuration trees are written.
-/

namespace CoEdit

namespace Double

/-- The decimals that read back as a finite positive magnitude: four times the lower end, the magnitude and the upper end over
a common denominator, and whether the ends belong to them. -/
structure Neighbourhood where
  low : Nat
  middle : Nat
  high : Nat
  denominator : Nat
  closed : Bool

/-- The neighbourhood of a magnitude. Below a power of two the doubles lie twice as close. -/
def neighbourhood (magnitude : Nat) : Neighbourhood :=
  let (m, e) := significand magnitude
  let low := if m = 0x10000000000000 ∧ 0 < e then 4 * m - 1 else 4 * m - 2
  if 1074 ≤ e then
    let s := Nat.pow 2 (e - 1074)
    ⟨low * s, 4 * m * s, (4 * m + 2) * s, 4, m % 2 = 0⟩
  else ⟨low, 4 * m, 4 * m + 2, 4 * Nat.pow 2 (1074 - e), m % 2 = 0⟩

/-- Whether `n / d` lies in the neighbourhood. -/
def Neighbourhood.contains (b : Neighbourhood) (n d : Nat) : Bool :=
  let x := n * b.denominator
  if b.closed then b.low * d ≤ x && x ≤ b.high * d else b.low * d < x && x < b.high * d

/-- How often a number must be taken ten times, at most `fuel` times, to reach another. -/
def tensBelow : (fuel n d : Nat) → Nat
  | 0, _, _ => 0
  | fuel + 1, n, d => if d ≤ n then 0 else tensBelow fuel (10 * n) d + 1

/-- The exponent of the power of ten at or below a positive ratio. -/
def decimalOrder (n d : Nat) : Int :=
  if d ≤ n then ((Nat.toDigits 10 (n / d)).length : Int) - 1 else -(tensBelow 400 n d : Int)

/-- The nearer of a ratio's two neighbours on the grid of the multiples of ten to the `g` that lies in the neighbourhood. -/
def Neighbourhood.onGrid (b : Neighbourhood) (g : Int) : Option Nat :=
  let (n, d) := if 0 ≤ g then (b.middle, b.denominator * Nat.pow 10 g.toNat) else (b.middle * Nat.pow 10 (-g).toNat, b.denominator)
  let inside (c : Nat) : Bool := if 0 ≤ g then b.contains (c * Nat.pow 10 g.toNat) 1 else b.contains c (Nat.pow 10 (-g).toNat)
  let q := n / d
  let nearest := roundedQuotient n d
  let other := if nearest = q then q + 1 else q
  if inside nearest then some nearest
  else if inside other then some other
  else none

/-- Searches the grids of `digits`, `digits + 1` and so on digits. -/
def Neighbourhood.search (b : Neighbourhood) (order : Int) : (fuel digits : Nat) → Nat × Int
  | 0, digits => (b.middle / b.denominator, order - digits + 1)
  | fuel + 1, digits =>
    let g := order - digits + 1
    match b.onGrid g with
    | some c => (c, g)
    | none => b.search order fuel (digits + 1)

/-- The digits without the zeros at their end, and the exponent of the last of them. -/
def withoutTrailingZeros : (fuel m : Nat) → Int → Nat × Int
  | 0, m, e => (m, e)
  | fuel + 1, m, e => if m % 10 = 0 ∧ m ≠ 0 then withoutTrailingZeros fuel (m / 10) (e + 1) else (m, e)

/-- The shortest decimal of a finite magnitude other than zero: its digits as a number, and the exponent of the last digit. -/
def shortest (magnitude : Nat) : Nat × Int :=
  let b := neighbourhood magnitude
  let (m, e) := b.search (decimalOrder b.middle b.denominator) 17 1
  withoutTrailingZeros 400 m e

/-- A run of zeros. -/
def zeros (n : Nat) : List Char := List.replicate n '0'

/-- A sign for the numbers that have one. -/
def signText (d : Double) : List Char := if d.isNegative then ['-'] else []

/-- A number with a point and without an exponent; `whole` is what follows a number without a fraction. -/
def positional (digits : List Char) (e : Int) (whole : List Char) : List Char :=
  let point : Int := digits.length + e
  if 0 ≤ e then digits ++ zeros e.toNat ++ whole
  else if 0 < point then digits.take point.toNat ++ ['.'] ++ digits.drop point.toNat
  else ['0', '.'] ++ zeros (-point).toNat ++ digits

/-- A number with one digit before the point and an exponent, which has a sign. -/
def scientific (digits : List Char) (e : Int) : List Char :=
  let order : Int := digits.length + e - 1
  let fraction := digits.drop 1
  digits.take 1 ++ (if fraction = [] then [] else '.' :: fraction) ++ ['e'] ++
    (if 0 < order then ['+'] else []) ++ (toString order).toList

/-- The text of a finite number in a configuration tree: with a point and at least one digit after it where the point stands at
most sixteen digits after the first digit or less than five zeros before it, with an exponent elsewhere. -/
def text (d : Double) : String :=
  if d.magnitude = 0 then String.ofList (d.signText ++ ['0', '.', '0'])
  else
    let (m, e) := shortest d.magnitude
    let digits := Nat.toDigits 10 m
    let point : Int := digits.length + e
    String.ofList (d.signText ++
      if -5 < point ∧ point ≤ 16 then positional digits e ['.', '0'] else scientific digits e)

end Double

end CoEdit
