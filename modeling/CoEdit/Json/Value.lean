import CoEdit.Tree

/-!
# Values of JSON documents

A value is what a document says, with every entry of its objects in order, whether all of it can be had or not: a number that is too
large is a value, and so is a string that is no text. Where all of it can be had the value is a tree (`Value.tree?`).
-/

namespace CoEdit.Json

/-- What a document says. -/
inductive Value where
  | null
  | bool (b : Bool)
  /-- A number, unless it is too large. -/
  | number (n : Option Number)
  /-- A string, unless it is no text. -/
  | string (s : Option String)
  | array (items : List Value)
  /-- The entries in their order. A key may be no text. -/
  | object (entries : List (Option String × Value))
  deriving Repr

namespace Value

mutual

/-- How deep the brackets of a value are nested. -/
def depth : Value → Nat
  | .array items => depthOfItems items + 1
  | .object es => depthOfEntries es + 1
  | _ => 0

/-- How deep the brackets of the items are nested. -/
def depthOfItems : List Value → Nat
  | [] => 0
  | v :: rest => max (depth v) (depthOfItems rest)

/-- How deep the brackets of the entries are nested. -/
def depthOfEntries : List (Option String × Value) → Nat
  | [] => 0
  | (_, v) :: rest => max (depth v) (depthOfEntries rest)

end

mutual

/-- The tree of a value, if all of it can be had. -/
def tree? : Value → Option Tree
  | .null => some .null
  | .bool b => some (.bool b)
  | .number n => n.map .number
  | .string s => s.map .string
  | .array items => (treesOf? items).map .array
  | .object es => (entriesOf? es).map .object

/-- The trees of the items. -/
def treesOf? : List Value → Option (List Tree)
  | [] => some []
  | v :: rest => (tree? v).bind fun t => (treesOf? rest).map (t :: ·)

/-- The trees of the entries, with their keys. -/
def entriesOf? : List (Option String × Value) → Option (List (String × Tree))
  | [] => some []
  | (key, v) :: rest => key.bind fun k => (tree? v).bind fun t => (entriesOf? rest).map ((k, t) :: ·)

end

end Value

end CoEdit.Json
