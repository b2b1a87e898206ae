import CoEdit.Disk
import CoEdit.Number.Decimal

/-!
# Key exchange groups

A configuration names a finite-field group. It stands for a strength: of the curves a handshake may use, only those at least as
strong are offered. Parameters that are live and of the right group are kept as they are.
-/

namespace CoEdit

/-- Why there is no material for TLS. -/
inductive SecurityError where
  | unknownGroup (name : String)
  | unopenedCertificates (file : Path) (cause : DiskError)
  /-- The file cannot be parsed. What its parser says about it, and a colon before that, are left out of the text. -/
  | malformedCertificates
  | noCertificates (file : Path)
  | unopenedKey (file : Path) (cause : DiskError)
  /-- The same for the file of the key. -/
  | malformedKey
  | noKey (file : Path)
  /-- The certificate or the key cannot be used, or they do not belong together. -/
  | unusable
  deriving DecidableEq, Repr

/-- The text of a failure. -/
def SecurityError.message : SecurityError → String
  | .unknownGroup name => "Unknown DH group: " ++ name
  | .unopenedCertificates file cause => "Failed to open certificate file " ++ file.text ++ ": " ++ cause.message
  | .malformedCertificates => "Failed to parse certificates"
  | .noCertificates file => "No certificates found in " ++ file.text
  | .unopenedKey file cause => "Failed to open private key file " ++ file.text ++ ": " ++ cause.message
  | .malformedKey => "Failed to parse private key"
  | .noKey file => "No private key found in " ++ file.text
  | .unusable => "Invalid certificate or key"

/-- Elliptic curves for the exchange of keys. -/
inductive Curve where
  | x25519 | secp256r1 | secp384r1
  deriving DecidableEq, Repr

namespace Curve

/-- Name of a curve. -/
def name : Curve → String
  | .x25519 => "X25519"
  | .secp256r1 => "secp256r1"
  | .secp384r1 => "secp384r1"

/-- Strength of a curve in bits. -/
def strength : Curve → Nat
  | .x25519 => 128
  | .secp256r1 => 128
  | .secp384r1 => 192

/-- All curves, the preferred ones first. -/
def all : List Curve := [.x25519, .secp256r1, .secp384r1]

end Curve

/-- Finite-field groups, by the size of their prime. -/
inductive DhGroup where
  | ffdhe2048 | ffdhe3072 | ffdhe4096 | ffdhe6144 | ffdhe8192
  deriving DecidableEq, Repr

namespace DhGroup

/-- All groups, the smallest first. -/
def all : List DhGroup := [.ffdhe2048, .ffdhe3072, .ffdhe4096, .ffdhe6144, .ffdhe8192]

/-- Size of the prime in bits. -/
def bits : DhGroup → Nat
  | .ffdhe2048 => 2048
  | .ffdhe3072 => 3072
  | .ffdhe4096 => 4096
  | .ffdhe6144 => 6144
  | .ffdhe8192 => 8192

/-- Strength of a group in bits. -/
def strength : DhGroup → Nat
  | .ffdhe2048 => 103
  | .ffdhe3072 => 125
  | .ffdhe4096 => 150
  | .ffdhe6144 => 175
  | .ffdhe8192 => 192

/-- Name of a group in configuration. -/
def name (g : DhGroup) : String := "ffdhe" ++ toString g.bits

/-- Name of a group in handshakes. -/
def label (g : DhGroup) : String := "FFDHE" ++ toString g.bits

/-- The group of a name, whose letters A to Z may be in upper case. -/
def ofName (text : String) : Except SecurityError DhGroup :=
  let lowered := String.ofList (Decimal.lowered text.toList)
  match all.find? (fun g => g.name = lowered) with
  | some g => .ok g
  | none => .error (.unknownGroup lowered)

/-- The curves at least as strong as the group, in order of preference. -/
def curves (g : DhGroup) : List Curve := Curve.all.filter (fun c => g.strength ≤ c.strength)

/-- Some curve is as strong as any group. -/
theorem curves_ne_nil (g : DhGroup) : g.curves ≠ [] := by
  cases g <;> decide

end DhGroup

/-- Parameters of a group. Each time they are made they get a number of their own. -/
structure DhParameters where
  serial : Nat
  group : DhGroup
  deriving DecidableEq, Repr

namespace DhParameters

/-- Parameters of the group of a name: the live ones if they are of that group, or else new ones with the number `fresh`. -/
def ensure (live : Option DhParameters) (name : String) (fresh : Nat) : Except SecurityError DhParameters :=
  (DhGroup.ofName name).map fun g =>
    match live with
    | some p => if p.group = g then p else { serial := fresh, group := g }
    | none => { serial := fresh, group := g }

end DhParameters

end CoEdit
