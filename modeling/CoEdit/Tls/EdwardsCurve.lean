import CoEdit.Number.Modular
import CoEdit.Tls.Sha512

/-!
# The twisted curve of 255 bits

The points with y² − x² = 1 + d·x²·y² over the field of 2²⁵⁵ − 19 elements. A point is kept as (x, y, z, t), which stands for
(x/z, y/z) where x·y = z·t. One formula adds any two points.

The public key of a seed is the multiple of the generator by a number that the digest of the seed gives.
-/

namespace CoEdit

namespace EdwardsCurve

/-- The prime of the field. -/
def prime : Nat := Nat.pow 2 255 - 19

/-- The constant of the curve. -/
def d : Nat := (prime - 121665) * Modular.inverse prime 121666 % prime

/-- A point that stands for (x/z, y/z). -/
structure Point where
  x : Nat
  y : Nat
  z : Nat
  t : Nat

/-- The point (0, 1), which changes no sum. -/
def neutral : Point := { x := 0, y := 1, z := 1, t := 0 }

/-- The generator. -/
def generator : Point :=
  let x := 15112221349535400772501151409588531511454012693041857206046113283949847762202
  let y := 46316835694926478169428394003475163141307993866256225615783033603165251855960
  { x, y, z := 1, t := x * y % prime }

/-- The sum of two points. -/
def add (p q : Point) : Point :=
  let a := Modular.sub prime p.y p.x * Modular.sub prime q.y q.x % prime
  let b := (p.y + p.x) * (q.y + q.x) % prime
  let c := 2 * d * p.t * q.t % prime
  let e := 2 * p.z * q.z % prime
  let f := Modular.sub prime b a
  let g := Modular.sub prime e c
  let h := (e + c) % prime
  let i := (b + a) % prime
  { x := f * g % prime, y := h * i % prime, z := g * h % prime, t := f * i % prime }

/-- The multiple of a point by a number of 256 bits. -/
def multiple (n : Nat) (p : Point) : Point :=
  (Modular.bits 256 n).foldl (fun q b => let q := add q q; if b then add q p else q) neutral

/-- The number that the digest of a seed gives. -/
def secret (seed : List UInt8) : Nat :=
  let n := Der.natural ((Sha512.digest seed).take 32).reverse
  n % Nat.pow 2 254 / 8 * 8 + Nat.pow 2 254

/-- The public key of a seed: the second coordinate, the lowest byte first, and whether the first one is odd. -/
def publicKey (seed : List UInt8) : List UInt8 :=
  let p := multiple (secret seed) generator
  let w := Modular.inverse prime p.z
  let x := p.x * w % prime
  let y := p.y * w % prime
  (Der.bytesOf 32 (y + x % 2 * Nat.pow 2 255)).reverse

end EdwardsCurve

end CoEdit
