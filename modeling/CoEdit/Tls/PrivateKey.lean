import CoEdit.Tls.EdwardsCurve
import CoEdit.Tls.Pem
import CoEdit.Tls.PrimeCurve

/-!
# Private keys

A private key is of one of three sorts: two primes, a multiple of the generator of a prime curve, or a seed for the twisted curve.
Each sort has forms it is written in, some of them inside an envelope that names the sort. A key is usable when its parts fit
together. Its public key is written the way certificates hold it.
-/

namespace CoEdit

/-- Identifiers of sorts of keys, as tagged values. -/
def rsaAlgorithm : List UInt8 := [0x06, 0x09, 0x2A, 0x86, 0x48, 0x86, 0xF7, 0x0D, 0x01, 0x01, 0x01, 0x05, 0x00]
def ellipticAlgorithm : List UInt8 := [0x06, 0x07, 0x2A, 0x86, 0x48, 0xCE, 0x3D, 0x02, 0x01]
def edwardsAlgorithm : List UInt8 := [0x06, 0x03, 0x2B, 0x65, 0x70]

/-- A public key of a sort, the way certificates hold it. -/
def publicKeyInfo (algorithm key : List UInt8) : List UInt8 :=
  Der.write Der.sequence (Der.write Der.sequence algorithm ++ Der.write Der.bitString (0 :: key))

/-- A key in an envelope that names its sort. -/
structure KeyEnvelope where
  algorithm : List UInt8
  key : List UInt8
  /-- The public key, which only the second version of the envelope has. -/
  publicKey : Option (List UInt8)

namespace KeyEnvelope

/-- Reads the public key of the second version, in either of its forms. -/
def readPublicKey : ByteReader (List UInt8) := fun bytes =>
  match Der.read (Der.field 1) bytes with
  | some (v, rest) => ((Der.whole? Der.bitString v).bind Der.filledBits?).map fun key => (key, rest)
  | none => (Der.read 0x81 bytes).bind fun (v, rest) => (Der.filledBits? v).map fun key => (key, rest)

/-- Reads an envelope. -/
def ofBytes? (bytes : List UInt8) : Option KeyEnvelope := do
  let body ← Der.whole? Der.sequence bytes
  let (version, rest) ← Der.readNatural body
  let (algorithm, rest) ← Der.read Der.sequence rest
  let (key, rest) ← Der.read Der.octetString rest
  let (_, rest) ← Der.readOptional (Der.field 0) rest
  match version, rest with
  | 0, [] => some { algorithm, key, publicKey := none }
  | 1, _ => match readPublicKey rest with
    | some (publicKey, []) => some { algorithm, key, publicKey := some publicKey }
    | _ => none
  | _, _ => none

end KeyEnvelope

/-! ## Two primes -/

/-- A key of two primes. -/
structure RsaKey where
  modulus : Nat
  publicExponent : Nat
  privateExponent : Nat
  p : Nat
  q : Nat
  exponentP : Nat
  exponentQ : Nat
  coefficient : Nat

namespace RsaKey

/-- How many binary digits a number has. -/
def bitLength (n : Nat) : Nat := if n = 0 then 0 else n.log2 + 1

/-- Whether the parts fit together and the modulus has a usual size. -/
def isSound (k : RsaKey) : Bool :=
  let size := bitLength k.modulus
  2048 ≤ size && size ≤ 4096 &&
    k.publicExponent % 2 = 1 && 65537 ≤ k.publicExponent && k.publicExponent < 0x200000000 &&
    k.p * k.q = k.modulus && bitLength k.p = (size + 1) / 2 && bitLength k.q = (size + 1) / 2 &&
    k.privateExponent % 2 = 1 && k.privateExponent < k.modulus && size / 2 ≤ bitLength k.privateExponent &&
    k.exponentP % 2 = 1 && k.exponentP < k.p && k.exponentQ % 2 = 1 && k.exponentQ < k.q &&
    k.coefficient < k.p && k.coefficient * k.q % k.p = 1

/-- Reads a key. -/
def ofBytes? (bytes : List UInt8) : Option RsaKey := do
  let body ← Der.whole? Der.sequence bytes
  let (version, rest) ← Der.readNatural body
  let (modulus, rest) ← Der.readNatural rest
  let (publicExponent, rest) ← Der.readNatural rest
  let (privateExponent, rest) ← Der.readNatural rest
  let (p, rest) ← Der.readNatural rest
  let (q, rest) ← Der.readNatural rest
  let (exponentP, rest) ← Der.readNatural rest
  let (exponentQ, rest) ← Der.readNatural rest
  let (coefficient, rest) ← Der.readNatural rest
  let k : RsaKey := { modulus, publicExponent, privateExponent, p, q, exponentP, exponentQ, coefficient }
  if version = 0 ∧ rest = [] ∧ k.isSound then some k else none

/-- The public key. -/
def publicKeyInfo (k : RsaKey) : List UInt8 :=
  CoEdit.publicKeyInfo rsaAlgorithm
    (Der.write Der.sequence (Der.writeNatural k.modulus ++ Der.writeNatural k.publicExponent))

end RsaKey

/-! ## Multiples of a generator -/

namespace PrimeCurve

/-- The sort of the keys of a curve. -/
def algorithm (c : PrimeCurve) : List UInt8 := ellipticAlgorithm ++ c.identifier

/-- Whether a key may name a curve: it names this one or none. -/
def mayBeNamed (c : PrimeCurve) (name : Option (List UInt8)) : Bool := name.isNone || name = some c.identifier

/-- The public key of a private key that holds its public key as well. -/
def publicKeyOf? (c : PrimeCurve) (bytes : List UInt8) : Option (List UInt8) := do
  let body ← Der.whole? Der.sequence bytes
  let (version, rest) ← Der.readNatural body
  let (secret, rest) ← Der.read Der.octetString rest
  let (name, rest) ← Der.readOptional (Der.field 0) rest
  let claimed ← ((Der.whole? (Der.field 1) rest).bind (Der.whole? Der.bitString)).bind Der.filledBits?
  let n := Der.natural secret
  if version = 1 ∧ c.mayBeNamed name ∧ secret.length = c.size ∧ 0 < n ∧ n < c.order ∧ c.publicKey n = claimed then
    some (publicKeyInfo c.algorithm claimed)
  else none

end PrimeCurve

/-! ## Seeds -/

namespace EdwardsCurve

/-- The public key of a seed, which must be the one claimed if one is. -/
def publicKeyOf? (bytes : List UInt8) (claimed : Option (List UInt8)) : Option (List UInt8) := do
  let seed ← Der.whole? Der.octetString bytes
  let key := publicKey seed
  if seed.length = 32 ∧ (claimed.isNone ∨ claimed = some key) then some (publicKeyInfo edwardsAlgorithm key) else none

end EdwardsCurve

/-! ## Keys of any sort -/

namespace PemSection

/-- The public key of a private key in an envelope. -/
def envelopedPublicKey? (content : List UInt8) : Option (List UInt8) :=
  (KeyEnvelope.ofBytes? content).bind fun e =>
    if e.algorithm = edwardsAlgorithm then EdwardsCurve.publicKeyOf? e.key e.publicKey
    else if e.publicKey.isSome then none
    else if e.algorithm = rsaAlgorithm then (RsaKey.ofBytes? e.key).map RsaKey.publicKeyInfo
    else if e.algorithm = PrimeCurve.p256.algorithm then PrimeCurve.p256.publicKeyOf? e.key
    else if e.algorithm = PrimeCurve.p384.algorithm then PrimeCurve.p384.publicKeyOf? e.key
    else none

/-- The public key of a usable private key. -/
def publicKey? (s : PemSection) : Option (List UInt8) :=
  match s.label with
  | .rsaPrivateKey => (RsaKey.ofBytes? s.content).map RsaKey.publicKeyInfo
  | .ecPrivateKey => (PrimeCurve.p256.publicKeyOf? s.content).orElse fun _ => PrimeCurve.p384.publicKeyOf? s.content
  | .privateKey => envelopedPublicKey? s.content
  | _ => none

end PemSection

end CoEdit
