import CoEdit.Tls.Certificate
import CoEdit.Tls.Group
import CoEdit.Tls.PrivateKey

/-!
# Credentials

Credentials are the certificates that are shown to clients, the server's own first, with the private key that belongs to it, and
the curves a handshake may use. They offer every curve until they are narrowed to those as strong as a group.
-/

namespace CoEdit

/-- Certificates and a key that belong together, and the curves on offer. -/
structure Credentials where
  certificateFile : Path
  certificates : List (List UInt8)
  key : PemSection
  /-- The group that the curves were chosen for. -/
  group : Option DhGroup := none
  offered : List Curve := Curve.all
  deriving DecidableEq, Repr

namespace Credentials

/-- What is read from a file that may be none: the content of a directory is no failure to open it. -/
def openFile (d : Disk) (file : Path) : Except DiskError (Option PemFile) :=
  match d.read file with
  | .ok content => .ok (some (PemFile.ofBytes content.toList))
  | .error .isADirectory => .ok none
  | .error e => .error e

/-- The certificates of a file, of which there is at least one. -/
def loadCertificates (d : Disk) (file : Path) : Except SecurityError (List (List UInt8)) :=
  match openFile d file with
  | .error e => .error (.unopenedCertificates file e)
  | .ok f => match f.bind PemFile.certificates? with
    | none => .error .malformedCertificates
    | some [] => .error (.noCertificates file)
    | some certificates => .ok certificates

/-- The first private key of a file. -/
def loadKey (d : Disk) (file : Path) : Except SecurityError PemSection :=
  match openFile d file with
  | .error e => .error (.unopenedKey file e)
  | .ok none => .error .malformedKey
  | .ok (some f) => match f.privateKey? with
    | some key => .ok key
    | none => if f.isBroken then .error .malformedKey else .error (.noKey file)

/-- Whether a private key is usable and belongs to the first of some certificates. -/
def belongs (certificates : List (List UInt8)) (key : PemSection) : Bool :=
  match key.publicKey?, certificates.head?.bind Certificate.publicKeyInfo? with
  | some k, some c => k = c
  | _, _ => false

/-- Loads a certificate, the certificates that vouch for it, and its key. -/
def load (d : Disk) (certificateFile keyFile : Path) (chain : Option Path) : Except SecurityError Credentials := do
  let own ← loadCertificates d certificateFile
  let others ← match chain with
    | some file => loadCertificates d file
    | none => pure []
  let key ← loadKey d keyFile
  if belongs (own ++ others) key then .ok { certificateFile, certificates := own ++ others, key }
  else .error .unusable

/-- The same credentials, offering only the curves as strong as a group. -/
def narrowed (c : Credentials) (g : DhGroup) : Credentials := { c with group := some g, offered := g.curves }

end Credentials

end CoEdit
