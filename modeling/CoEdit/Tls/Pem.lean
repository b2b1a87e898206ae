import CoEdit.Tls.Base64

/-!
# Files of certificates and keys

A file is read line by line. A line that begins with `-----BEGIN ` and a label begins a section, in place of one that was not
ended; the line `-----END ` with the same label ends it. What stands outside of sections means nothing, and so does a section
with an unknown label. The lines of a section with a known label are bytes in base sixty-four.

A file is read up to its first fault: a first line without exactly five hyphens at its end, digits that are none, or a section
without an end.
-/

namespace CoEdit

/-- What a section holds. -/
inductive PemLabel where
  | certificate | publicKey | rsaPrivateKey | privateKey | ecPrivateKey | revocationList | request | helloConfig
  deriving DecidableEq, Repr

namespace PemLabel

/-- All labels. -/
def all : List PemLabel :=
  [.certificate, .publicKey, .rsaPrivateKey, .privateKey, .ecPrivateKey, .revocationList, .request, .helloConfig]

/-- The text of a label. -/
def text : PemLabel → String
  | .certificate => "CERTIFICATE"
  | .publicKey => "PUBLIC KEY"
  | .rsaPrivateKey => "RSA PRIVATE KEY"
  | .privateKey => "PRIVATE KEY"
  | .ecPrivateKey => "EC PRIVATE KEY"
  | .revocationList => "X509 CRL"
  | .request => "CERTIFICATE REQUEST"
  | .helloConfig => "ECHCONFIG"

/-- The label of a text. -/
def ofBytes? (bytes : List UInt8) : Option PemLabel := all.find? (fun l => l.text.toUTF8.toList = bytes)

/-- Whether a section holds a private key. -/
def isPrivateKey : PemLabel → Bool
  | .rsaPrivateKey | .privateKey | .ecPrivateKey => true
  | _ => false

end PemLabel

/-- A section with a known label. -/
structure PemSection where
  label : PemLabel
  content : List UInt8
  deriving DecidableEq, Repr

/-- The sections of a file up to its first fault, and whether there is one. -/
structure PemFile where
  sections : List PemSection := []
  isBroken : Bool := false
  deriving DecidableEq, Repr

namespace PemFile

/-- The lines of a file, each with the byte that ends it; `line` is what has been read of the present one, backwards. -/
def linesFrom (line : List UInt8) : List UInt8 → List (List UInt8)
  | [] => if line = [] then [] else [line.reverse]
  | c :: rest => if c = 10 ∨ c = 13 then (c :: line).reverse :: linesFrom [] rest else linesFrom (c :: line) rest

/-- The text that begins the first line of a section. -/
def opening : List UInt8 := "-----BEGIN ".toUTF8.toList

/-- The text that begins the last line of a section. -/
def closing : List UInt8 := "-----END ".toUTF8.toList

/-- The text that ends both lines. -/
def hyphens : List UInt8 := "-----".toUTF8.toList

/-- The rest of a text after another one. -/
def after? (start text : List UInt8) : Option (List UInt8) :=
  if start.isPrefixOf text then some (text.drop start.length) else none

/-- Whether a byte may follow the label of a first line. -/
def isTail (c : UInt8) : Bool := c = 45 || c = 10 || c = 13 || c = 32

/-- The label of a first line, of which the text is given after its opening. The line ends with five hyphens among blanks. -/
def openedLabel? (text : List UInt8) : Option (List UInt8) :=
  let tail := text.reverse.takeWhile isTail
  if tail.count 45 = 5 then
    some (text.take (text.length - tail.length) ++ tail.reverse.takeWhile (· ≠ 45))
  else none

/-- A section being read: its label, and its lines so far. -/
structure OpenSection where
  label : List UInt8
  content : List UInt8

/-- Whether a line ends a section. -/
def closes (label line : List UInt8) : Bool := (closing ++ label ++ hyphens).isPrefixOf line

/-- Reads lines; `section` is the section being read, and `found` are the sections before it, the last one first. -/
def readLines (found : List PemSection) (opened : Option OpenSection) : List (List UInt8) → PemFile
  | [] => { sections := found.reverse, isBroken := opened.isSome }
  | line :: rest =>
    match after? opening line with
    | some text => match openedLabel? text with
      | some label => readLines found (some { label, content := (opened.map (·.content)).getD [] }) rest
      | none => { sections := found.reverse, isBroken := true }
    | none => match opened with
      | none => readLines found none rest
      | some s =>
        if closes s.label line then
          match PemLabel.ofBytes? s.label with
          | none => readLines found none rest
          | some label => match Base64.decode? s.content with
            | some content => readLines ({ label, content } :: found) none rest
            | none => { sections := found.reverse, isBroken := true }
        else readLines found (some { s with content := s.content ++ line }) rest

/-- Reads a file. -/
def ofBytes (bytes : List UInt8) : PemFile := readLines [] none (linesFrom [] bytes)

/-- The certificates of a file, unless it has a fault. -/
def certificates? (f : PemFile) : Option (List (List UInt8)) :=
  if f.isBroken then none
  else some ((f.sections.filter (fun s => s.label = .certificate)).map (·.content))

/-- The first private key of a file. -/
def privateKey? (f : PemFile) : Option PemSection := f.sections.find? (fun s => s.label.isPrivateKey)

end PemFile

end CoEdit
