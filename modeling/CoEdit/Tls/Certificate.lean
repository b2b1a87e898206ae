import CoEdit.Tls.Der

/-!
# Certificates

A certificate of the third version. Of its parts only the public key is looked at, but all must be in place, no extension that
is known may be there twice, and one that is not known must not be critical.
-/

namespace CoEdit

namespace Certificate

/-- An extension of a certificate. -/
structure Extension where
  identifier : List UInt8
  isCritical : Bool

/-- The identifiers of the extensions that are known: all begin alike and end with a number. -/
def knownExtensions : List (List UInt8) := [15, 17, 19, 30, 31, 37].map fun n => [0x55, 0x1D, n]

/-- Reads an extension. -/
def readExtension : ByteReader Extension := fun bytes => do
  let (body, after) ← Der.read Der.sequence bytes
  let (identifier, rest) ← Der.read 0x06 body
  let (critical, rest) ← Der.readOptional 0x01 rest
  let (_, rest) ← Der.read Der.octetString rest
  if rest = [] ∧ (critical.isNone ∨ critical = some [0xFF] ∨ critical = some [0x00]) then
    some ({ identifier, isCritical := critical = some [0xFF] }, after)
  else none

/-- Reads extensions to the end; `fuel` is at least the number of bytes. -/
def extensions? : (fuel : Nat) → List UInt8 → Option (List Extension)
  | _, [] => some []
  | 0, _ => none
  | fuel + 1, bytes => do
    let (e, rest) ← readExtension bytes
    return e :: (← extensions? fuel rest)

/-- Whether the extensions of a certificate can be accepted. -/
def acceptable (es : List Extension) : Bool :=
  es.all (fun e => !e.isCritical || knownExtensions.contains e.identifier) &&
    knownExtensions.all (fun id => es.countP (fun e => e.identifier = id) ≤ 1)

/-- Whether what follows the public key is nothing or extensions that can be accepted. -/
def endsWell (rest : List UInt8) : Bool :=
  rest = [] ||
    match (Der.whole? (Der.field 3) rest).bind fun tagged => (Der.whole? Der.sequence tagged).bind fun list =>
      extensions? list.length list with
    | some es => acceptable es
    | none => false

/-- The public key of a certificate, as it is written there. -/
def publicKeyInfo? (bytes : List UInt8) : Option (List UInt8) := do
  let outer ← Der.whole? Der.sequence bytes
  let (body, rest) ← Der.read Der.sequence outer
  let (algorithm, rest) ← Der.read Der.sequence rest
  let signature ← (Der.whole? Der.bitString rest).bind Der.filledBits?
  let (version, rest) ← Der.read (Der.field 0) body
  let (serial, rest) ← Der.read Der.integer rest
  let (innerAlgorithm, rest) ← Der.read Der.sequence rest
  let (_, rest) ← Der.read Der.sequence rest
  let (_, rest) ← Der.read Der.sequence rest
  let (_, rest) ← Der.read Der.sequence rest
  let (key, rest) ← Der.read Der.sequence rest
  if version = [Der.integer, 1, 2] ∧ serial ≠ [] ∧ innerAlgorithm = algorithm ∧ signature ≠ [] ∧ endsWell rest then
    some (Der.write Der.sequence key)
  else none

end Certificate

end CoEdit
