import CoEdit.Tree
import CoEdit.Yaml.Node

/-!
# Reading YAML documents

A plain scalar is null, a boolean, a number or a string, whichever its text writes; a scalar of another style is a string, and the
standard tags say what a scalar is. A tag of one's own is refused. Keys are the texts of scalars, and of two entries with one key
the later stands.

Lists and tables may be nested 128 deep, and aliases may be followed a hundred times for each unit of the document's size.
-/

namespace CoEdit.Yaml

/-- Whether a text is digits with a superfluous zero in front, which is no number. -/
def isPaddedNumber (cs : List Char) : Bool :=
  let ds := match cs with
    | '-' :: rest => rest
    | '+' :: rest => rest
    | _ => cs
  match ds with
  | '0' :: rest => !rest.isEmpty && rest.all Char.isDigit
  | _ => false

/-- Whether a text begins with a sign. -/
def isSigned : List Char → Bool
  | '+' :: _ => true
  | '-' :: _ => true
  | _ => false

/-- The base that a text begins with, and what follows it. -/
def basedDigits? : List Char → Option (Nat × List Char)
  | '0' :: 'x' :: rest => some (16, rest)
  | '0' :: 'o' :: rest => some (8, rest)
  | '0' :: 'b' :: rest => some (2, rest)
  | _ => none

/-- A text without the plus sign it may begin with. -/
def withoutPlus : List Char → List Char
  | '+' :: rest => rest
  | cs => cs

/-- The number a text writes that is not below zero. -/
def unsigned? (cs : List Char) : Option Nat :=
  let body := withoutPlus cs
  match basedDigits? body with
  | some (base, ds) => if isSigned ds then none else Decimal.natural? base ds
  | none => if isSigned body ∨ isPaddedNumber cs then none else Decimal.natural? 10 body

/-- The number below or at zero that a text with a minus sign writes. -/
def negative? : List Char → Option Int
  | '-' :: body =>
    let n := match basedDigits? body with
      | some (base, ds) => Decimal.natural? base ds
      | none => if isPaddedNumber body then none else Decimal.natural? 10 body
    n.map fun n => -(n : Int)
  | _ => none

/-- The whole number a text writes. -/
def integer? (cs : List Char) : Option Int := ((unsigned? cs).map fun n => (n : Int)).orElse fun _ => negative? cs

/-- The bounds of whole numbers of 128 bits, beyond which a number is read as a double. -/
def isWide (z : Int) : Bool := -(Nat.pow 2 127) ≤ z && z < Nat.pow 2 128

/-- The double a text writes. -/
def double? (cs : List Char) : Option Double :=
  let body := withoutPlus cs
  let text := String.ofList cs
  if cs.head? = some '+' ∧ isSigned body then none
  else if [".inf", ".Inf", ".INF"].contains (String.ofList body) then some (Double.infinity false)
  else if ["-.inf", "-.Inf", "-.INF"].contains text then some (Double.infinity true)
  else if [".nan", ".NaN", ".NAN"].contains text then some Double.undefined
  else (Decimal.double? body).filter Double.isFinite

/-- Whether a text writes null. -/
def isNull (text : String) : Bool := ["null", "Null", "NULL", "~"].contains text

/-- The boolean a text writes. -/
def boolean? (text : String) : Option Bool :=
  if ["true", "True", "TRUE"].contains text then some true
  else if ["false", "False", "FALSE"].contains text then some false
  else none

/-- A whole number as a tree; one that does not fit sixty-four bits is refused. -/
def integerTree? (z : Int) : Option Tree :=
  if Number.lowerBound ≤ z ∧ z < Number.upperBound then some (.number (.integer z)) else none

/-- The tree of a plain scalar. -/
def plainTree? (text : String) : Option Tree :=
  let cs := text.toList
  if text = "" ∨ isNull text then some .null
  else match boolean? text with
    | some b => some (.bool b)
    | none => match (integer? cs).filter isWide with
      | some z => integerTree? z
      | none => match (if isPaddedNumber cs then none else double? cs) with
        | some d => some (.ofDouble d)
        | none => some (.string text)

/-- Whether a tag is one of one's own. -/
def isLocalTag (tag : Option String) : Bool := tag.any fun t => t.toList.head? = some '!'

/-- The name of a standard tag. -/
def standardTag? (tag : String) : Option String :=
  let lead := "tag:yaml.org,2002:".toList
  if lead.isPrefixOf tag.toList then some (String.ofList (tag.toList.drop lead.length)) else none

/-- The tree of a scalar. -/
def scalarTree? (tag : Option String) (style : ScalarStyle) (text : String) : Option Tree :=
  match tag with
  | none => if style = .plain then plainTree? text else some (.string text)
  | some t =>
    match standardTag? t with
    | some "bool" => (boolean? text).map .bool
    | some "int" => ((integer? text.toList).filter isWide).bind integerTree?
    | some "float" => (double? text.toList).map .ofDouble
    | some "null" => if isNull text then some .null else none
    | _ => if isLocalTag tag then none else some (.string text)

/-- Reads while counting how many more aliases may be followed. -/
abbrev TreeReader := StateT Nat Option

/-- The node that is meant: an alias is followed. -/
def Document.follow (d : Document) : Node → TreeReader Node
  | .alias number => fun jumps => match jumps with
    | 0 => none
    | jumps + 1 => (d.find? number).map fun n => (n, jumps)
  | n => pure n

/-- The key a node writes. -/
def Document.key (d : Document) (n : Node) : TreeReader String := do
  match ← d.follow n with
  | .scalar _ _ text => return text
  | _ => failure

/-- The tree of a node whose lists and tables are nested at most `depth` deep. -/
def Document.tree (d : Document) : (depth : Nat) → Node → TreeReader Tree
  | 0, n => do
    match ← d.follow n with
    | .scalar tag style text => (scalarTree? tag style text : Option Tree)
    | _ => failure
  | depth + 1, n => do
    match ← d.follow n with
    | .scalar tag style text => (scalarTree? tag style text : Option Tree)
    | .sequence tag items => if isLocalTag tag then failure else return .array (← items.mapM (d.tree depth))
    | .mapping tag entries =>
      if isLocalTag tag then failure
      else return .ofEntries (← entries.mapM fun e => do return (← d.key e.1, ← d.tree depth e.2))
    | .alias _ => failure

/-- How deep lists and tables may be nested. -/
def depthLimit : Nat := 128

/-- The tree of a document. -/
def Document.toTree? (d : Document) : Option Tree :=
  (d.tree depthLimit d.root (100 * d.root.size)).map (·.1)

end CoEdit.Yaml

namespace CoEdit

/-- The tree of a YAML document, if the text is one. -/
def Tree.ofYaml? (text : String) : Option Tree :=
  ((Yaml.tokens? text).bind Yaml.Document.ofTokens?).bind Yaml.Document.toTree?

end CoEdit
