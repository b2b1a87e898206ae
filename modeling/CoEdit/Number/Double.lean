/-!
# Doubles

A double is its sixty-four bits: a sign, eleven bits of exponent and fifty-two of fraction. Arithmetic is exact arithmetic on
ratios of natural numbers followed by one rounding, to the nearest double and from the middle to the even one, so that every
operation is a function one can compute with and no rounding is hidden.
-/

namespace CoEdit

/-- A number of the IEEE 754 format of sixty-four bits. -/
structure Double where
  /-- Sign, biased exponent and fraction, from the highest bit down. -/
  bits : UInt64
  deriving DecidableEq, Repr

namespace Double

/-- The value of the bit of the sign. -/
def signBit : Nat := 0x8000000000000000

/-- The bits of positive infinity. -/
def infinityBits : Nat := 0x7FF * 0x10000000000000

/-- The double with a magnitude given by its bits, and a sign. -/
def ofMagnitude (negative : Bool) (magnitude : Nat) : Double :=
  ⟨UInt64.ofNat (if negative then signBit + magnitude else magnitude)⟩

/-- The bits without the sign. -/
def magnitude (d : Double) : Nat := d.bits.toNat % signBit

/-- Whether the sign is set; a zero has a sign too. -/
def isNegative (d : Double) : Bool := signBit ≤ d.bits.toNat

/-- Whether the number is neither infinite nor undefined. -/
def isFinite (d : Double) : Bool := d.magnitude < infinityBits

/-- Whether the number is undefined. -/
def isUndefined (d : Double) : Bool := infinityBits < d.magnitude

/-- Infinity, of either sign. -/
def infinity (negative : Bool) : Double := ofMagnitude negative infinityBits

/-- The undefined number. -/
def undefined : Double := ⟨0x7FF8000000000000⟩

/-- The number with the other sign. -/
def negate (d : Double) : Double := ofMagnitude (!d.isNegative) d.magnitude

/-- A finite magnitude is a whole multiple of a power of two: the multiple, and the exponent moved up by 1074. -/
def significand (magnitude : Nat) : Nat × Nat :=
  let e := magnitude / 0x10000000000000
  let f := magnitude % 0x10000000000000
  if e = 0 then (f, 0) else (0x10000000000000 + f, e - 1)

/-- The ratio a finite magnitude stands for. -/
def ratioOf (magnitude : Nat) : Nat × Nat :=
  let (m, e) := significand magnitude
  if 1074 ≤ e then (m * Nat.pow 2 (e - 1074), 1) else (m, Nat.pow 2 (1074 - e))

/-- The ratio of a number's size. -/
def ratio (d : Double) : Nat × Nat := ratioOf d.magnitude

/-- A quotient rounded to the nearest whole number, from the middle to the even one. -/
def roundedQuotient (n d : Nat) : Nat :=
  let q := n / d
  let r := n % d
  if 2 * r < d then q else if d < 2 * r then q + 1 else if q % 2 = 0 then q else q + 1

/-- The exponent of the power of two at or below a positive ratio. -/
def binaryOrder (n d : Nat) : Int :=
  let k : Int := (Nat.log2 n : Int) - (Nat.log2 d : Int)
  if (if 0 ≤ k then n < d * Nat.pow 2 k.toNat else n * Nat.pow 2 (-k).toNat < d) then k - 1 else k

/-- The magnitude nearest to a ratio, from the middle to the even one; infinity when the ratio is too large. -/
def magnitudeOfRatio (n d : Nat) : Nat :=
  if n = 0 then 0
  else
    let e : Int := max (binaryOrder n d - 52) (-1074)
    let q := if 0 ≤ e then roundedQuotient n (d * Nat.pow 2 e.toNat) else roundedQuotient (n * Nat.pow 2 (-e).toNat) d
    min ((e + 1074).toNat * 0x10000000000000 + q) infinityBits

/-- The double nearest to a ratio. -/
def ofRatio (negative : Bool) (n d : Nat) : Double := ofMagnitude negative (magnitudeOfRatio n d)

/-- The double nearest to a natural number. -/
def ofNat (n : Nat) : Double := ofRatio false n 1

/-- The double nearest to a whole number. -/
def ofInt (z : Int) : Double := ofRatio (z < 0) z.natAbs 1

/-- The double nearest to a product of finite numbers. -/
def mul (a b : Double) : Double :=
  let (n, d) := a.ratio
  let (n', d') := b.ratio
  ofRatio (a.isNegative != b.isNegative) (n * n') (d * d')

/-- The double nearest to a quotient of finite numbers whose divisor is not zero. -/
def div (a b : Double) : Double :=
  let (n, d) := a.ratio
  let (n', d') := b.ratio
  ofRatio (a.isNegative != b.isNegative) (n * d') (d * n')

/-- The double nearest to a power of ten. -/
def powerOfTen (k : Nat) : Double := ofNat (Nat.pow 10 k)

/-- The double nearest to `m` times ten to the `e`. A decimal with more than four hundred places before or after the point is
infinite or zero, whatever its digits. -/
def ofDecimal (negative : Bool) (m : Nat) (e : Int) : Double :=
  if m = 0 then ofMagnitude negative 0
  else
    let places : Int := (Nat.toDigits 10 m).length + e
    if 400 < places then infinity negative
    else if places < -400 then ofMagnitude negative 0
    else if 0 ≤ e then ofRatio negative (m * Nat.pow 10 e.toNat) 1
    else ofRatio negative m (Nat.pow 10 (-e).toNat)

end Double

end CoEdit
