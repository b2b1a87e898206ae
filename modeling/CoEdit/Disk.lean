import CoEdit.Path

/-!
# Disks

A disk is a set of places, each a file or a directory, and a working directory. A place is the list of names that leads to it
from the root; the root itself is always a directory. There are no links.

Every operation names a place by a path. Walking a path, each step needs a directory to start from, so a step out of a file
fails as "not a directory" and a step out of nothing as "not found"; a slash at the end is one more step, to where one stands.
-/

namespace CoEdit

/-- Names from the root to a file or directory. -/
abbrev Place := List String

/-- Why an operation on a disk failed. -/
inductive DiskError where
  | notFound
  | permissionDenied
  | alreadyExists
  | notADirectory
  | isADirectory
  | nameTooLong
  /-- The file is no program. -/
  | notExecutable
  /-- The path holds a character that ends names. -/
  | nulCharacter
  /-- The content of the file is no text. -/
  | notText
  deriving DecidableEq, Repr

/-- The text of a failure. -/
def DiskError.message : DiskError → String
  | .notFound => "No such file or directory (os error 2)"
  | .permissionDenied => "Permission denied (os error 13)"
  | .alreadyExists => "File exists (os error 17)"
  | .notADirectory => "Not a directory (os error 20)"
  | .isADirectory => "Is a directory (os error 21)"
  | .nameTooLong => "File name too long (os error 36)"
  | .notExecutable => "Exec format error (os error 8)"
  | .nulCharacter => "file name contained an unexpected NUL byte"
  | .notText => "stream did not contain valid UTF-8"

/-- Contents are equal when their bytes are. -/
instance contentDecidableEq : DecidableEq ByteArray := ByteArray.instDecidableEq

/-- What stands at a place. -/
inductive DiskEntry where
  | directory
  | file (content : ByteArray) (executable : Bool)

/-- Files and directories, and the directory that relative paths start from. -/
structure Disk where
  entries : List (Place × DiskEntry)
  workingDirectory : Place

namespace Disk

/-- A disk with an empty working directory and nothing else. -/
def empty : Disk := { entries := [(["work"], .directory)], workingDirectory := ["work"] }

/-- What stands at a place. -/
def entry? (d : Disk) (at_ : Place) : Option DiskEntry :=
  if at_ = [] then some .directory else d.entries.lookup at_

/-- Puts something at a place, in place of what stood there. -/
def set (d : Disk) (at_ : Place) (e : DiskEntry) : Disk :=
  { d with entries := (at_, e) :: d.entries.filter (fun x => decide (x.1 ≠ at_)) }

/-- Takes a place away with everything below it. -/
def erase (d : Disk) (at_ : Place) : Disk :=
  { d with entries := d.entries.filter (fun x => !at_.isPrefixOf x.1) }

/-! ## Walking paths -/

/-- The longest name and the longest path, in bytes. -/
def nameLimit : Nat := 255
def pathLimit : Nat := 4096

/-- Where one step leads. -/
def step (here : Place) (name : String) : Place :=
  if name = "." then here else if name = ".." then here.dropLast else here ++ [name]

/-- Takes the steps of a path. All but the place reached must exist. -/
def walk (d : Disk) : Place → List String → Except DiskError Place
  | here, [] => .ok here
  | here, name :: rest =>
    match d.entry? here with
    | none => .error .notFound
    | some (.file _ _) => .error .notADirectory
    | some .directory =>
      if nameLimit < name.utf8ByteSize then .error .nameTooLong else walk d (step here name) rest

/-- The steps of a path, in which a slash at the end is a step to where one stands. -/
def steps (p : Path) : List String :=
  let names := (Path.pieces p.text.toList).filter (· ≠ [])
  (names ++ (if p.text.toList.getLast? = some '/' then [['.']] else [])).map String.ofList

/-- What is wrong with a path by itself. -/
def pathFault (p : Path) : Option DiskError :=
  if '\x00' ∈ p.text.toList then some .nulCharacter
  else if p.text = "" then some .notFound
  else if pathLimit ≤ p.text.utf8ByteSize then some .nameTooLong
  else none

/-- The place a path leads to; there may be nothing. -/
def locate (d : Disk) (p : Path) : Except DiskError Place :=
  match pathFault p with
  | some e => .error e
  | none => d.walk (if p.isAbsolute then [] else d.workingDirectory) (steps p)

/-- What a path leads to. -/
def find (d : Disk) (p : Path) : Except DiskError (Place × DiskEntry) :=
  match d.locate p with
  | .error e => .error e
  | .ok at_ => match d.entry? at_ with
    | none => .error .notFound
    | some e => .ok (at_, e)

/-- Whether a path leads to a directory. -/
def isDirectory (d : Disk) (p : Path) : Bool :=
  match d.find p with
  | .ok (_, .directory) => true
  | _ => false

/-- Whether a path leads to a file. -/
def isFile (d : Disk) (p : Path) : Bool :=
  match d.find p with
  | .ok (_, .file _ _) => true
  | _ => false

/-- Whether a path leads to anything. -/
def exists? (d : Disk) (p : Path) : Bool := (d.find p).isOk

/-! ## Reading and writing -/

/-- The content of a file. -/
def read (d : Disk) (p : Path) : Except DiskError ByteArray :=
  match d.find p with
  | .error e => .error e
  | .ok (_, .directory) => .error .isADirectory
  | .ok (_, .file content _) => .ok content

/-- The content of a file as text. -/
def readText (d : Disk) (p : Path) : Except DiskError String :=
  match d.read p with
  | .error e => .error e
  | .ok content => match String.fromUTF8? content with
    | some text => .ok text
    | none => .error .notText

/-- Writes a file, which is made if there is none; one that can be run stays so. -/
def write (d : Disk) (p : Path) (content : ByteArray) : Except DiskError Disk :=
  match d.locate p with
  | .error e => .error e
  | .ok at_ => match d.entry? at_ with
    | some .directory => .error .isADirectory
    | some (.file _ executable) => .ok (d.set at_ (.file content executable))
    | none => if (steps p).getLast? = some "." then .error .isADirectory else .ok (d.set at_ (.file content false))

/-- The path without slashes at its end. -/
def withoutEndSlashes (p : Path) : Path :=
  match p.text.toList.reverse.dropWhile (· = '/') with
  | [] => p
  | cs => ⟨String.ofList cs.reverse⟩

/-- Makes a directory in one that exists. -/
def makeDirectory (d : Disk) (p : Path) : Except DiskError Disk :=
  match d.locate (withoutEndSlashes p) with
  | .error e => .error e
  | .ok at_ => match d.entry? at_ with
    | some _ => .error .alreadyExists
    | none => .ok (d.set at_ .directory)

/-- Makes a directory and those above it that are missing; `fuel` bounds how far up it goes. -/
def makeDirectoriesUpTo : (fuel : Nat) → Disk → Path → Except DiskError Unit × Disk
  | 0, d, _ => (.error .notFound, d)
  | fuel + 1, d, p =>
    if p.text = "" then (.ok (), d)
    else match d.makeDirectory p with
      | .ok d => (.ok (), d)
      | .error .notFound => match p.parent? with
        | none => (.error .notFound, d)
        | some above => match makeDirectoriesUpTo fuel d above with
          | (.error e, d) => (.error e, d)
          | (.ok (), d) => match d.makeDirectory p with
            | .ok d => (.ok (), d)
            | .error e => if d.isDirectory p then (.ok (), d) else (.error e, d)
      | .error e => if d.isDirectory p then (.ok (), d) else (.error e, d)

/-- Makes a directory and those above it that are missing. Directories made before a failure stay. -/
def makeDirectories (d : Disk) (p : Path) : Except DiskError Unit × Disk :=
  makeDirectoriesUpTo (p.text.length + 1) d p

/-- The places directly below one. -/
def childrenOf (d : Disk) (at_ : Place) : List (String × DiskEntry) :=
  d.entries.filterMap fun (p, e) => match p.getLast? with
    | some name => if p.dropLast = at_ then some (name, e) else none
    | none => none

/-- The names in a directory, in no particular order. -/
def list (d : Disk) (p : Path) : Except DiskError (List String) :=
  match d.find p with
  | .error e => .error e
  | .ok (_, .file _ _) => .error .notADirectory
  | .ok (at_, .directory) => .ok ((d.childrenOf at_).map (·.1))

/-- Takes a file or a directory away, with everything in it. -/
def remove (d : Disk) (p : Path) : Except DiskError Disk :=
  match d.find p with
  | .error e => .error e
  | .ok (at_, _) => .ok (d.erase at_)

/-- Lets a file be run. -/
def makeRunnable (d : Disk) (p : Path) : Except DiskError Disk :=
  match d.find p with
  | .error e => .error e
  | .ok (at_, .file content _) => .ok (d.set at_ (.file content true))
  | .ok (_, .directory) => .ok d

/-- Whether a path leads to a file that can be run, and why not. -/
def runnable (d : Disk) (p : Path) : Except DiskError ByteArray :=
  match d.find p with
  | .error e => .error e
  | .ok (_, .file content true) => .ok content
  | .ok _ => .error .permissionDenied

/-- Everything below the working directory, named from it; directories end with a slash. -/
def contents (d : Disk) : List String :=
  let below := d.entries.filterMap fun (p, e) =>
    if d.workingDirectory.isPrefixOf p ∧ p ≠ d.workingDirectory then
      let name := String.intercalate "/" (p.drop d.workingDirectory.length)
      some (match e with | .directory => name ++ "/" | .file _ _ => name)
    else none
  below.mergeSort (fun a b => decide (a ≤ b))

end Disk

end CoEdit
