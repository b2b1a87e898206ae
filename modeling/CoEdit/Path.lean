import CoEdit.Text.Quoted

/-!
# Paths

A path is text. What it means is its components: the names between slashes, where empty names and names of one dot between
others are skipped. Two paths are the same when their components are.

A file name divides at its last dot into a stem and an extension; a name that only begins with a dot has no extension.
-/

namespace CoEdit

/-- A path of a file or directory. -/
structure Path where
  text : String
  deriving DecidableEq, Repr

/-- A component of a path. -/
inductive PathComponent where
  | root
  | current
  | parent
  | normal (name : String)
  deriving DecidableEq, Repr

namespace Path

instance : Inhabited Path := ⟨⟨""⟩⟩

/-- The pieces between slashes; `piece` is what has been read of the present one, backwards. -/
def piecesFrom (piece : List Char) : List Char → List (List Char)
  | [] => [piece.reverse]
  | c :: rest => if c = '/' then piece.reverse :: piecesFrom [] rest else piecesFrom (c :: piece) rest

/-- The pieces of a text between slashes, empty ones among them. -/
def pieces (cs : List Char) : List (List Char) := piecesFrom [] cs

/-- The component a piece is, if it is not skipped; only the first piece of a relative path keeps a single dot. -/
def componentOf (first : Bool) (piece : List Char) : Option PathComponent :=
  if piece = [] then none
  else if piece = ['.'] then (if first then some .current else none)
  else if piece = ['.', '.'] then some .parent
  else some (.normal (String.ofList piece))

/-- Whether the path begins at the root. -/
def isAbsolute (p : Path) : Bool := p.text.toList.head? = some '/'

/-- The components of a path. -/
def components (p : Path) : List PathComponent :=
  match p.text.toList with
  | '/' :: rest => .root :: (pieces rest).filterMap (componentOf false)
  | cs => match pieces cs with
    | [] => []
    | first :: rest => (componentOf true first).toList ++ rest.filterMap (componentOf false)

/-- Whether two paths have the same components. -/
def same (p q : Path) : Bool := p.components = q.components

/-- The last component, when it is a name. -/
def fileName? (p : Path) : Option String :=
  match p.components.getLast? with
  | some (.normal name) => some name
  | _ => none

/-! ## Stems and extensions -/

/-- A name without its last dot and what follows, and what follows; a name without a dot has no second part. -/
def dividedAtLastDot (name : List Char) : Option (List Char × List Char) :=
  if '.' ∈ name then
    let after := (name.reverse.takeWhile (· ≠ '.')).reverse
    some (name.take (name.length - after.length - 1), after)
  else none

/-- The stem and the extension of a file name. -/
def stemAndExtension (name : List Char) : List Char × Option (List Char) :=
  match dividedAtLastDot name with
  | some ([], _) => (name, none)
  | some (stem, ext) => (stem, some ext)
  | none => (name, none)

/-- The extension of the file name. -/
def extension? (p : Path) : Option String :=
  p.fileName?.bind fun name => (stemAndExtension name.toList).2.map String.ofList

/-- The stem of the file name. -/
def stem? (p : Path) : Option String :=
  p.fileName?.map fun name => String.ofList (stemAndExtension name.toList).1

/-! ## Parents and joins -/

/-- A path read backwards without what is skipped at its end: slashes after the root, and single dots. -/
def trimmedBackwards : List Char → List Char
  | [] => []
  | '/' :: [] => ['/']
  | '/' :: rest => trimmedBackwards rest
  | '.' :: rest => match rest with
    | '/' :: _ => trimmedBackwards rest
    | _ => '.' :: rest
  | c :: rest => c :: rest

/-- The path without its last component, and nothing for a root or an empty path. -/
def parent? (p : Path) : Option Path :=
  match p.components.getLast? with
  | none => none
  | some .root => none
  | some _ =>
    let whole := trimmedBackwards p.text.toList.reverse
    some ⟨String.ofList (trimmedBackwards (whole.dropWhile (· ≠ '/'))).reverse⟩

/-- The path of something inside a directory; an absolute path stands for itself. -/
def join (p q : Path) : Path :=
  if q.isAbsolute then q
  else if p.text = "" ∨ p.text.toList.getLast? = some '/' then ⟨p.text ++ q.text⟩
  else ⟨p.text ++ "/" ++ q.text⟩

/-- The path with another extension: the stem of the file name, a dot and the extension. A path without a file name stays as it
is, and so does one whose file name is two dots and an extension, which would lose the extension first and then name no file. -/
def withExtension (p : Path) (ext : String) : Path :=
  match p.fileName? with
  | none => p
  | some name =>
    let backwards := p.text.toList.reverse
    let kept := trimmedBackwards backwards
    match stemAndExtension name.toList with
    | (_, none) => ⟨String.ofList kept.reverse ++ "." ++ ext⟩
    | (stem, some old) =>
      let cut := kept.drop (old.length + 1)
      if stem = ['.'] ∧ kept = backwards then ⟨String.ofList ('.' :: cut).reverse⟩
      else ⟨String.ofList cut.reverse ++ "." ++ ext⟩

end Path

end CoEdit
