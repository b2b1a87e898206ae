import CoEdit.Table
import CoEdit.Number.Shortest

/-!
# Trees

A tree is what a document says once its syntax is gone: null, booleans, numbers, strings, lists of trees and tables of trees.
Documents of every format are read into trees, and layers of configuration are merged as trees.

A whole number is kept as such when it fits sixty-four bits, with or without a sign; every other number is a double.
-/

namespace CoEdit

/-- A number of a tree. -/
inductive Number where
  | integer (z : Int)
  | double (d : Double)
  deriving DecidableEq, Repr

namespace Number

/-- The first whole number that no longer fits sixty-four bits. -/
def upperBound : Int := 0x10000000000000000

/-- The last whole number that fits sixty-four bits with a sign. -/
def lowerBound : Int := -0x8000000000000000

/-- A whole number, kept as one where it fits. -/
def ofInt (z : Int) : Number :=
  if lowerBound ≤ z ∧ z < upperBound then .integer z else .double (Double.ofInt z)

/-- The number as text: whole numbers without a point, doubles with a point or an exponent. -/
def text : Number → String
  | .integer z => toString z
  | .double d => d.text

end Number

/-- What a document says. -/
inductive Tree where
  | null
  | bool (b : Bool)
  | number (n : Number)
  | string (s : String)
  | array (items : List Tree)
  | object (entries : List (String × Tree))
  deriving Repr

namespace Tree

instance : Inhabited Tree := ⟨.null⟩

/-- A whole number as a tree. -/
def ofInt (z : Int) : Tree := .number (.ofInt z)

/-- A natural number as a tree. -/
def ofNat (n : Nat) : Tree := .ofInt n

/-- A double as a tree: a number that is infinite or undefined has no place in a tree and becomes null. -/
def ofDouble (d : Double) : Tree := if d.isFinite then .number (.double d) else .null

/-- The table of an object. -/
def entries? : Tree → Option (Table String Tree)
  | .object es => some es
  | _ => none

/-- Whether a tree is an object. -/
def isObject (t : Tree) : Bool := t.entries?.isSome

/-- The tree under a key of an object. -/
def child? (t : Tree) (k : String) : Option Tree := t.entries?.bind (Table.get? k)

/-- The tree at the end of a path of keys. -/
def at? : Tree → List String → Option Tree
  | t, [] => some t
  | t, k :: rest => (t.child? k).bind fun c => c.at? rest

/-- An object of the given entries. -/
def ofEntries (es : List (String × Tree)) : Tree := .object (Table.ofEntries es)

mutual

/-- Whether two trees are the same. -/
def same : Tree → Tree → Bool
  | .null, .null => true
  | .bool a, .bool b => a == b
  | .number a, .number b => decide (a = b)
  | .string a, .string b => a == b
  | .array a, .array b => sameItems a b
  | .object a, .object b => sameEntries a b
  | _, _ => false

/-- Whether two lists of trees are the same. -/
def sameItems : List Tree → List Tree → Bool
  | [], [] => true
  | a :: as, b :: bs => same a b && sameItems as bs
  | _, _ => false

/-- Whether two tables of trees are the same. -/
def sameEntries : List (String × Tree) → List (String × Tree) → Bool
  | [], [] => true
  | (k, a) :: as, (l, b) :: bs => k == l && same a b && sameEntries as bs
  | _, _ => false

end

instance : BEq Tree := ⟨same⟩

mutual

/-- The tree in which the entries of every object are a table: of two entries with one key, the later stands. -/
def settled : Tree → Tree
  | .array items => .array (settledItems items)
  | .object es => .object (settledEntries [] es)
  | t => t

/-- The list of the settled items. -/
def settledItems : List Tree → List Tree
  | [] => []
  | t :: rest => settled t :: settledItems rest

/-- The table built so far, with the settled entries of a list put in. -/
def settledEntries (built : Table String Tree) : List (String × Tree) → Table String Tree
  | [] => built
  | (k, t) :: rest => settledEntries (Table.insert k (settled t) built) rest

end

end Tree

end CoEdit
