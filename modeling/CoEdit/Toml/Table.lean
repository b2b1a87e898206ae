import CoEdit.Toml.Number

/-!
# Tables of TOML documents

A table comes about in one of three ways: by a header or in braces (`declared`), by a header of a table inside of it (`implied`),
or by a path of keys (`dotted`). A table that was implied can still be declared; entries reach into a table by a path of keys only
where the table came about by such paths.
-/

namespace CoEdit.Toml

/-- How a table came about. -/
inductive TableOrigin where
  | declared | implied | dotted
  deriving DecidableEq, Repr

/-- What stands under a key. -/
inductive Item where
  | value (t : Tree)
  | table (origin : TableOrigin) (entries : List (String × Item))
  /-- Tables of one name, the latest first. -/
  | tables (elements : List (List (String × Item)))
  deriving Repr

/-- The entries of a table. -/
abbrev Entries := List (String × Item)

namespace Entries

/-- Puts an item under a key, in place of the one that stands there. -/
def put (k : String) (i : Item) : Entries → Entries
  | [] => [(k, i)]
  | (k', i') :: rest => if k = k' then (k, i) :: rest else (k', i') :: put k i rest

/-- Changes the table at the end of a path, making the tables on the way that are missing. Of tables of one name the latest is
entered. -/
def within (made : TableOrigin) (f : TableOrigin → Entries → Option Entries) :
    List String → TableOrigin → Entries → Option Entries
  | [], origin, es => f origin es
  | k :: rest, _, es =>
    match es.lookup k with
    | none => (within made f rest made []).map fun inner => put k (.table made inner) es
    | some (.value _) => none
    | some (.table origin inner) =>
      if made = .dotted ∧ origin = .declared then none
      else (within made f rest origin inner).map fun inner => put k (.table origin inner) es
    | some (.tables []) => none
    | some (.tables (last :: before)) =>
      (within made f rest .declared last).map fun last => put k (.tables (last :: before)) es

/-- Adds an entry that was written with a path or without one. -/
def define (pathEmpty : Bool) (k : String) (t : Tree) (origin : TableOrigin) (es : Entries) : Option Entries :=
  if decide (origin = .dotted) = pathEmpty then none
  else if (es.lookup k).isSome then none
  else some (put k (.value t) es)

/-- Adds an entry below the present table. -/
def assign (path : List String) (k : String) (t : Tree) (origin : TableOrigin) (es : Entries) : Option Entries :=
  within .dotted (define path.isEmpty k t) path origin es

/-- Declares a table. -/
def declare (k : String) (_ : TableOrigin) (es : Entries) : Option Entries :=
  match es.lookup k with
  | none => some (put k (.table .declared []) es)
  | some (.table .implied inner) => some (put k (.table .declared inner) es)
  | _ => none

/-- Declares one more table of a name. -/
def declareNext (k : String) (_ : TableOrigin) (es : Entries) : Option Entries :=
  match es.lookup k with
  | none => some (put k (.tables [[]]) es)
  | some (.tables elements) => some (put k (.tables ([] :: elements)) es)
  | _ => none

end Entries

mutual

/-- The tree of an item. -/
def Item.toTree : Item → Tree
  | .value t => t
  | .table _ es => .ofEntries (entriesToTrees es)
  | .tables elements => .array (elementsToTrees elements).reverse

/-- The trees of the entries of a table. -/
def entriesToTrees : List (String × Item) → List (String × Tree)
  | [] => []
  | (k, i) :: rest => (k, i.toTree) :: entriesToTrees rest

/-- The trees of tables. -/
def elementsToTrees : List (List (String × Item)) → List Tree
  | [] => []
  | es :: rest => .ofEntries (entriesToTrees es) :: elementsToTrees rest

end

end CoEdit.Toml
