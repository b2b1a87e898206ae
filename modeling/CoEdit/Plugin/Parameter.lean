import CoEdit.Config.Basic
import CoEdit.Number.Decimal
import CoEdit.Storage.Documents
import CoEdit.Text.Blank

/-!
# Parameters of plugins

A plugin declares the parameters it takes, each with a name and a kind. A table of trees is read against the declarations: every
key must name a parameter, every tree must convert to the parameter's kind, no parameter may be given twice, and every required
one must be given. In names, `_` stands for `-`.

Texts are read as booleans and numbers, numbers and booleans as texts, and one text as a list of one.
-/

namespace CoEdit

/-- Kinds of parameters. -/
inductive ParameterKind where
  | boolean | int | uint | double | string | stringList | path
  deriving DecidableEq, Repr

/-- How a kind is named in messages. -/
def ParameterKind.description : ParameterKind → String
  | .boolean => "a boolean"
  | .int => "an integer"
  | .uint => "an unsigned integer"
  | .double => "a number"
  | .string => "a string"
  | .stringList => "a list of strings"
  | .path => "a path"

/-- The kind of a short name; what names no other kind names texts. -/
def ParameterKind.ofName : String → ParameterKind
  | "boolean" => .boolean
  | "int" => .int
  | "uint" => .uint
  | "double" => .double
  | "string-list" => .stringList
  | "path" => .path
  | _ => .string

/-- A parameter as a plugin declares it. -/
structure ParameterSpec where
  name : String
  kind : ParameterKind
  required : Bool := false
  description : String := ""
  deriving DecidableEq, Repr

/-- The value of a parameter. -/
inductive ParameterValue where
  | boolean (b : Bool)
  | int (z : Int)
  | uint (n : Nat)
  | double (d : Double)
  | string (s : String)
  | stringList (items : List String)
  | path (p : Path)
  deriving DecidableEq, Repr

/-- What is wrong with a parameter. -/
inductive ParameterFault where
  | unknown
  | wrongKind (wanted : ParameterKind)
  | repeated
  | missing
  /-- A plugin does not like the value. -/
  | refused (reason : String)
  deriving DecidableEq, Repr

/-- The text of a fault. -/
def ParameterFault.message : ParameterFault → String
  | .unknown => "unknown parameter"
  | .wrongKind wanted => "expected " ++ wanted.description
  | .repeated => "given more than once"
  | .missing => "required parameter missing"
  | .refused reason => reason

/-- Why a plugin failed. -/
inductive PluginError where
  | initialization (reason : String)
  | parameter (name : String) (fault : ParameterFault)
  | runtime (reason : String)
  | io (reason : String)
  | storage (cause : StorageError)
  deriving DecidableEq, Repr

/-- The text of a failure. -/
def PluginError.message : PluginError → String
  | .initialization reason => "Initialization failed: " ++ reason
  | .parameter name fault => "Invalid parameter '" ++ name ++ "': " ++ fault.message
  | .runtime reason => "Runtime error: " ++ reason
  | .io reason => "I/O error: " ++ reason
  | .storage cause => "Storage error: " ++ cause.message

/-- Short name of the kind of a failure. -/
def PluginError.kind : PluginError → String
  | .initialization _ => "init"
  | .parameter _ _ => "parameter"
  | .runtime _ => "runtime"
  | .io _ => "io"
  | .storage _ => "storage"

namespace ParameterKind

/-- A number as a whole number, if it is one. -/
def whole? : Number → Option Int
  | .integer z => some z
  | .double _ => none

/-- A number as a double. -/
def toDouble : Number → Double
  | .integer z => Double.ofInt z
  | .double d => d

/-- The characters of a text without the blanks at its ends. -/
def trimmed (s : String) : List Char := Text.trim s.toList

/-- The text of a tree, if it is one. -/
def text? : Tree → Option String
  | .string s => some s
  | _ => none

/-- Whether a whole number fits sixty-four bits with a sign. -/
def fitsSigned (z : Int) : Bool := -0x8000000000000000 ≤ z && z < 0x8000000000000000

/-- Whether a whole number fits sixty-four bits without a sign. -/
def fitsUnsigned (z : Int) : Bool := 0 ≤ z && z < 0x10000000000000000

/-- The boolean a text writes. -/
def boolean? (s : String) : Option Bool :=
  if s = "true" then some true else if s = "false" then some false else none

/-- The value of a kind that a tree converts to. -/
def convert? : ParameterKind → Tree → Option ParameterValue
  | .boolean, .bool b => some (.boolean b)
  | .boolean, .string s => (boolean? s).map .boolean
  | .int, .number n => ((whole? n).filter fitsSigned).map .int
  | .int, .string s => (Decimal.signed? 10 (-0x8000000000000000) 0x8000000000000000 (trimmed s)).map .int
  | .uint, .number n => ((whole? n).filter fitsUnsigned).map fun z => .uint z.toNat
  | .uint, .string s => (Decimal.unsigned? 10 0x10000000000000000 (trimmed s)).map .uint
  | .double, .number n => some (.double (toDouble n))
  | .double, .string s => (Decimal.double? (trimmed s)).map .double
  | .string, .string s => some (.string s)
  | .string, .number n => some (.string n.text)
  | .string, .bool b => some (.string (if b then "true" else "false"))
  | .stringList, .string s => some (.stringList [s])
  | .stringList, .array items => (items.mapM text?).map .stringList
  | .path, .string s => if s = "" then none else some (.path ⟨s⟩)
  | _, _ => none

end ParameterKind

/-- The spelling of a name that stands for all of its spellings. -/
def canonicalName (name : String) : String := String.ofList (name.toList.map fun c => if c = '_' then '-' else c)

/-- Parameters that were read: their canonical names and their values. -/
abbrev PluginParameters := Table String ParameterValue

namespace PluginParameters

/-- The first declaration of a parameter under any spelling of its name. -/
def spec? (specs : List ParameterSpec) (name : String) : Option ParameterSpec :=
  specs.find? (fun s => canonicalName s.name = canonicalName name)

/-- Reads one entry of a table. -/
def readEntry (specs : List ParameterSpec) (ps : PluginParameters) (entry : String × Tree) :
    Except PluginError PluginParameters :=
  match spec? specs entry.1 with
  | none => .error (.parameter entry.1 .unknown)
  | some s => match s.kind.convert? entry.2 with
    | none => .error (.parameter s.name (.wrongKind s.kind))
    | some v =>
      if Table.contains (canonicalName entry.1) ps then .error (.parameter entry.1 .repeated)
      else .ok (Table.insert (canonicalName entry.1) v ps)

/-- The value of a parameter under any spelling of its name. -/
def get? (ps : PluginParameters) (name : String) : Option ParameterValue := Table.get? (canonicalName name) ps

/-- Whether a parameter is given. -/
def contains (ps : PluginParameters) (name : String) : Bool := (ps.get? name).isSome

/-- Reads a table against declarations. -/
def parse (specs : List ParameterSpec) (raw : ParameterTable) : Except PluginError PluginParameters :=
  match raw.foldlM (readEntry specs) [] with
  | .error e => .error e
  | .ok ps => match specs.find? (fun s => s.required && !PluginParameters.contains ps s.name) with
    | some s => .error (.parameter s.name .missing)
    | none => .ok ps

/-! ## Values of one kind -/

/-- The value of a boolean parameter. -/
def boolean? (ps : PluginParameters) (name : String) : Option Bool :=
  match ps.get? name with
  | some (.boolean b) => some b
  | _ => none

/-- The value of a parameter that is a whole number with a sign. -/
def int? (ps : PluginParameters) (name : String) : Option Int :=
  match ps.get? name with
  | some (.int z) => some z
  | _ => none

/-- The value of a parameter that is a whole number without a sign. -/
def uint? (ps : PluginParameters) (name : String) : Option Nat :=
  match ps.get? name with
  | some (.uint n) => some n
  | _ => none

/-- The value of a parameter that is a double. -/
def double? (ps : PluginParameters) (name : String) : Option Double :=
  match ps.get? name with
  | some (.double d) => some d
  | _ => none

/-- The value of a parameter that is a text. -/
def string? (ps : PluginParameters) (name : String) : Option String :=
  match ps.get? name with
  | some (.string s) => some s
  | _ => none

/-- The value of a parameter that is a list of texts. -/
def stringList? (ps : PluginParameters) (name : String) : Option (List String) :=
  match ps.get? name with
  | some (.stringList items) => some items
  | _ => none

/-- The value of a parameter that is a path. -/
def path? (ps : PluginParameters) (name : String) : Option Path :=
  match ps.get? name with
  | some (.path p) => some p
  | _ => none

end PluginParameters

end CoEdit
