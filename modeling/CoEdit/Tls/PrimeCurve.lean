import CoEdit.Number.Modular
import CoEdit.Tls.Der

/-!
# Curves over prime fields

The points with y² = x³ − 3x + b over a prime field, and the point at infinity. A point is kept as a triple (x, y, z) that stands
for (x/z², y/z³), and for the point at infinity when z is zero, so that sums need no division.

The public key of a number is the multiple of the generator by it.
-/

namespace CoEdit

/-- A curve, its generator and the order of the generator. -/
structure PrimeCurve where
  prime : Nat
  order : Nat
  generator : Nat × Nat
  /-- How many bytes a coordinate has. -/
  size : Nat
  /-- The identifier of the curve, as a tagged value. -/
  identifier : List UInt8

/-- A point that stands for (x/z², y/z³). -/
structure CurvePoint where
  x : Nat
  y : Nat
  z : Nat

namespace PrimeCurve

/-- The curve of 256 bits. -/
def p256 : PrimeCurve where
  prime := Nat.pow 2 256 - Nat.pow 2 224 + Nat.pow 2 192 + Nat.pow 2 96 - 1
  order := 0xffffffff00000000ffffffffffffffffbce6faada7179e84f3b9cac2fc632551
  generator := (0x6b17d1f2e12c4247f8bce6e563a440f277037d812deb33a0f4a13945d898c296,
    0x4fe342e2fe1a7f9b8ee7eb4a7c0f9e162bce33576b315ececbb6406837bf51f5)
  size := 32
  identifier := [0x06, 0x08, 0x2A, 0x86, 0x48, 0xCE, 0x3D, 0x03, 0x01, 0x07]

/-- The curve of 384 bits. -/
def p384 : PrimeCurve where
  prime := Nat.pow 2 384 - Nat.pow 2 128 - Nat.pow 2 96 + 0x100000000 - 1
  order := 0xffffffffffffffffffffffffffffffffffffffffffffffffc7634d81f4372ddf581a0db248b0a77aecec196accc52973
  generator := (0xaa87ca22be8b05378eb1c71ef320ad746e1d3b628ba79b9859f741e082542a385502f25dbf55296c3a545e3872760ab7,
    0x3617de4a96262c6f5d9e98bf9292dc29f8f41dbd289a147ce9da3113b5f0b8c00a60b1ce1d7e819d7a431d7c90ea0e5f)
  size := 48
  identifier := [0x06, 0x05, 0x2B, 0x81, 0x04, 0x00, 0x22]

/-- The point at infinity. -/
def infinity : CurvePoint := { x := 1, y := 1, z := 0 }

/-- Twice a point. -/
def double (c : PrimeCurve) (p : CurvePoint) : CurvePoint :=
  let m := c.prime
  let d := p.z * p.z % m
  let g := p.y * p.y % m
  let b := p.x * g % m
  let a := 3 * (Modular.sub m p.x d) * (p.x + d) % m
  let x := Modular.sub m (a * a) (8 * b)
  { x
    y := Modular.sub m (a * Modular.sub m (4 * b) x) (8 * g * g)
    z := 2 * p.y * p.z % m }

/-- The sum of two points. -/
def add (c : PrimeCurve) (p q : CurvePoint) : CurvePoint :=
  let m := c.prime
  if p.z = 0 then q
  else if q.z = 0 then p
  else
    let pz := p.z * p.z % m
    let qz := q.z * q.z % m
    let u := p.x * qz % m
    let v := q.x * pz % m
    let s := p.y * qz * q.z % m
    let t := q.y * pz * p.z % m
    if u = v then (if s = t then c.double p else infinity)
    else
      let h := Modular.sub m v u
      let r := Modular.sub m t s
      let hh := h * h % m
      let hhh := h * hh % m
      let w := u * hh % m
      let x := Modular.sub m (r * r) (hhh + 2 * w)
      { x
        y := Modular.sub m (r * Modular.sub m w x) (s * hhh)
        z := h * p.z * q.z % m }

/-- The multiple of a point by a number. -/
def multiple (c : PrimeCurve) (n : Nat) (p : CurvePoint) : CurvePoint :=
  (Modular.bits (8 * c.size) n).foldl (fun q b => let q := c.double q; if b then c.add q p else q) infinity

/-- The coordinates of a point. -/
def coordinates (c : PrimeCurve) (p : CurvePoint) : Nat × Nat :=
  let w := Modular.inverse c.prime p.z
  let ww := w * w % c.prime
  (p.x * ww % c.prime, p.y * ww * w % c.prime)

/-- The public key of a number: both coordinates of the multiple of the generator, after a byte that says so. -/
def publicKey (c : PrimeCurve) (n : Nat) : List UInt8 :=
  let (x, y) := c.coordinates (c.multiple n { x := c.generator.1, y := c.generator.2, z := 1 })
  0x04 :: Der.bytesOf c.size x ++ Der.bytesOf c.size y

end PrimeCurve

end CoEdit
