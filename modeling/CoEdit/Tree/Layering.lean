import CoEdit.Tree

/-!
# Layers of trees

A later layer refines an earlier one: objects are merged key by key, and anything else in the later layer replaces what the
earlier one had, lists included.
-/

namespace CoEdit

namespace Tree

mutual

/-- The tree of `base` refined by `overlay`. -/
def merge : Tree → Tree → Tree
  | .object base, .object overlay => .object (mergeEntries base overlay)
  | _, overlay => overlay
  termination_by structural _ overlay => overlay

/-- The table of `base` with every entry of an overlay merged into it, in order. -/
def mergeEntries (base : List (String × Tree)) : List (String × Tree) → List (String × Tree)
  | [] => base
  | (k, v) :: rest =>
    mergeEntries (Table.insert k (match Table.get? k base with | some old => merge old v | none => v) base) rest
  termination_by structural overlay => overlay

end

/-- The tree of several layers, each refining those before it, over an empty object. -/
def layered (layers : List Tree) : Tree := layers.foldl merge (.object [])

/-- What is not an object is replaced as a whole. -/
theorem merge_of_not_object {base overlay : Tree} (h : base.isObject = false ∨ overlay.isObject = false) :
    merge base overlay = overlay := by
  cases base <;> cases overlay <;> simp_all [isObject, entries?, merge]

end Tree

end CoEdit
