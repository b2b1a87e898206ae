import CoEdit.Disk

/-!
# Documents

Documents are files below a root directory. A document is named by its path below the root, with slashes between names, and
its file has an extension of its own in place of whatever extension the name had.

Nothing is made on disk until the first write, which makes every missing directory on the way.
-/

namespace CoEdit

/-- Why an operation on stored documents or accounts failed. -/
inductive StorageError where
  | rootNotADirectory (root : Path)
  | invalidName (name : String)
  | notAttached
  /-- The file holds no accounts. What its parser says about it, and a colon before that, are left out of the text. -/
  | malformedAccounts (file : Path)
  | accountExists (id : String)
  | disk (path : Path) (cause : DiskError)
  deriving DecidableEq, Repr

/-- The text of a failure. -/
def StorageError.message : StorageError → String
  | .rootNotADirectory root => "Storage root is not a directory: " ++ root.text
  | .invalidName name => "Invalid document name: " ++ name
  | .notAttached => "Account storage is not attached to a filesystem storage"
  | .malformedAccounts file => "Failed to parse account file " ++ file.text
  | .accountExists id => "Account already exists: " ++ id
  | .disk path cause => "I/O error on " ++ path.text ++ ": " ++ cause.message

/-- Short name of the kind of a failure. -/
def StorageError.kind : StorageError → String
  | .rootNotADirectory _ => "not-a-directory"
  | .invalidName _ => "invalid-name"
  | .notAttached => "not-attached"
  | .malformedAccounts _ => "account-file"
  | .accountExists _ => "account-exists"
  | .disk _ _ => "io"

/-- The documents below a root directory. -/
structure DocumentStore where
  root : Path
  deriving DecidableEq, Repr

namespace DocumentStore

/-- The extension of the files of documents. -/
def extension : String := "xml"

/-- Whether the root exists. A root that is no directory is a failure. -/
def checkRoot (s : DocumentStore) (d : Disk) : Except StorageError Bool :=
  match d.find s.root with
  | .ok (_, .directory) => .ok true
  | .ok (_, .file _ _) => .error (.rootNotADirectory s.root)
  | .error .notFound => .ok false
  | .error e => .error (.disk s.root e)

/-- Makes the root where it is missing. -/
def ensureRoot (s : DocumentStore) (d : Disk) : Except StorageError Unit × Disk :=
  match s.checkRoot d with
  | .error e => (.error e, d)
  | .ok true => (.ok (), d)
  | .ok false => match d.makeDirectories s.root with
    | (.ok (), d) => (.ok (), d)
    | (.error e, d) => (.error (.disk s.root e), d)

/-- A text without the slashes it begins with. -/
def withoutLeadingSlashes (cs : List Char) : List Char := cs.dropWhile (· = '/')

/-- A text without the slashes at its ends. -/
def withoutOuterSlashes (cs : List Char) : List Char :=
  ((withoutLeadingSlashes cs).reverse.dropWhile (· = '/')).reverse

/-- Whether every component of a path is a name, so that it leads nowhere but down. -/
def leadsDown (p : Path) : Bool :=
  p.components.all fun
    | .normal _ => true
    | _ => false

/-- The file of a document. -/
def documentPath (s : DocumentStore) (name : String) : Except StorageError Path :=
  let relative : Path := ⟨String.ofList (withoutLeadingSlashes name.toList)⟩
  if name = "" ∨ ¬ leadsDown relative then .error (.invalidName name)
  else .ok ((s.root.join relative).withExtension extension)

/-- The content of a document. -/
def read (s : DocumentStore) (d : Disk) (name : String) : Except StorageError ByteArray :=
  match s.documentPath name with
  | .error e => .error e
  | .ok path => (d.read path).mapError (.disk path)

/-- Writes a document, making the directories it needs. -/
def write (s : DocumentStore) (d : Disk) (name : String) (content : ByteArray) : Except StorageError Unit × Disk :=
  match s.documentPath name with
  | .error e => (.error e, d)
  | .ok path =>
    let above := path.parent?.getD ⟨""⟩
    match d.makeDirectories above with
    | (.error e, d) => (.error (.disk above e), d)
    | (.ok (), d) => match d.write path content with
      | .error e => (.error (.disk path e), d)
      | .ok d => (.ok (), d)

/-- The directory a list is asked of: the root, or one below it. -/
def listedDirectory (s : DocumentStore) (dir : String) : Except StorageError Path :=
  let relative : Path := ⟨String.ofList (withoutOuterSlashes dir.toList)⟩
  if relative.text = "" then .ok s.root
  else if leadsDown relative then .ok (s.root.join relative)
  else .error (.invalidName dir)

/-- The document that a file of a directory holds, if it holds one. -/
def documentOf? (fileName : String) : Option String :=
  let p : Path := ⟨fileName⟩
  if p.extension? = some extension then p.stem? else none

/-- The names of the documents directly inside a directory, in order. A directory that is missing has none. -/
def list (s : DocumentStore) (d : Disk) (dir : String) : Except StorageError (List String) :=
  match s.listedDirectory dir with
  | .error e => .error e
  | .ok path => match d.list path with
    | .error .notFound => .ok []
    | .error e => .error (.disk path e)
    | .ok names => .ok ((names.filterMap documentOf?).mergeSort (fun a b => decide (a ≤ b)))

end DocumentStore

end CoEdit
