import CoEdit.Storage.Documents
import CoEdit.Json.Reader
import CoEdit.Json.Writer

/-!
# Accounts

The accounts of users, kept in memory and in a file in the root of the documents. An account book that is not attached to a
root has no file and takes no accounts.

The file is a list of accounts. An account is an object with exactly one `id` and one `name`, both strings, among other entries
that mean nothing, or a list of these two. The values of the other entries need not be had: they may be nested at any depth and
hold numbers that are too large and strings that are no texts.
-/

namespace CoEdit

/-- An account of a user. -/
structure Account where
  id : String
  name : String
  deriving DecidableEq, Repr

namespace Account

/-- The value of the only entry with a key. -/
def only? (k : String) (es : List (Option String × Json.Value)) : Option Json.Value :=
  match es.filter (fun e => e.1 = some k) with
  | [(_, v)] => some v
  | _ => none

/-- The account that a part of a document describes. All keys must be texts. -/
def ofValue? : Json.Value → Option Account
  | .object es =>
    if es.all (·.1.isSome) then match only? "id" es, only? "name" es with
      | some (.string (some id)), some (.string (some name)) => some { id, name }
      | _, _ => none
    else none
  | .array [.string (some id), .string (some name)] => some { id, name }
  | _ => none

/-- The description of an account. -/
def toTree (a : Account) : Tree := .object [("id", .string a.id), ("name", .string a.name)]

end Account

/-- Accounts by their identifiers, and the documents they belong to. -/
structure AccountBook where
  store : Option DocumentStore := none
  accounts : Table String Account := []
  deriving Repr

namespace AccountBook

/-- A book that is attached to nothing. -/
def detached : AccountBook := {}

/-- The file of the accounts in a root. -/
def file (s : DocumentStore) : Path := s.root.join ⟨"accounts.json"⟩

/-- The accounts of a file's content. -/
def accounts? (content : String) : Option (List Account) :=
  match Json.value? content with
  | some (.array items) => items.mapM Account.ofValue?
  | _ => none

/-- The content of a file of accounts. -/
def content (accounts : List Account) : String := (Tree.array (accounts.map Account.toTree)).toSpreadJson

/-- Accounts by their identifiers; of two with one identifier, the later stands. -/
def byId (accounts : List Account) : Table String Account := Table.ofEntries (accounts.map fun a => (a.id, a))

/-- The accounts in a root. A missing root or a missing file has none. -/
def load (s : DocumentStore) (d : Disk) : Except StorageError (Table String Account) :=
  match s.checkRoot d with
  | .error e => .error e
  | .ok _ => match d.readText (file s) with
    | .error .notFound => .ok []
    | .error e => .error (.disk (file s) e)
    | .ok text => match accounts? text with
      | none => .error (.malformedAccounts (file s))
      | some accounts => .ok (byId accounts)

/-- The book attached to a root, with the accounts found there. Nothing is made on disk. -/
def attach (s : DocumentStore) (d : Disk) : Except StorageError AccountBook :=
  (load s d).map fun accounts => { store := some s, accounts }

/-- The root the book is attached to. -/
def root? (b : AccountBook) : Option Path := b.store.map (·.root)

/-- The account with an identifier. -/
def get? (b : AccountBook) (id : String) : Option Account := Table.get? id b.accounts

/-- The accounts with a name, in the order of their identifiers. -/
def named (b : AccountBook) (name : String) : List Account := (Table.values b.accounts).filter (fun a => a.name = name)

/-- How many accounts there are. -/
def size (b : AccountBook) : Nat := b.accounts.length

/-- Adds an account and writes the file; the book stays as it was unless both succeed. -/
def add (b : AccountBook) (d : Disk) (a : Account) : Except StorageError AccountBook × Disk :=
  match b.store with
  | none => (.error .notAttached, d)
  | some s =>
    if Table.contains a.id b.accounts then (.error (.accountExists a.id), d)
    else match s.ensureRoot d with
      | (.error e, d) => (.error e, d)
      | (.ok (), d) =>
        let accounts := Table.insert a.id a b.accounts
        match d.write (file s) (content (Table.values accounts)).toUTF8 with
        | .error e => (.error (.disk (file s) e), d)
        | .ok d => (.ok { b with accounts }, d)

end AccountBook

end CoEdit
