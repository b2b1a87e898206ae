import CoEdit.Yaml.Token

/-!
# Nodes of YAML documents

A node is a scalar, a list, a table or an alias. `Document.ofTokens?` reads the only document of a text.

An anchor is known by how many different names of anchors had been met when it was written, an alias by the anchor its name stood
for at that place. A name that is used again gets a new number, which a later name may get too; then the latest anchor with the
number counts.
-/

namespace CoEdit.Yaml

/-- A node. -/
inductive Node where
  | scalar (tag : Option String) (style : ScalarStyle) (text : String)
  | sequence (tag : Option String) (items : List Node)
  | mapping (tag : Option String) (entries : List (Node × Node))
  | alias (anchor : Nat)
  deriving Repr

namespace Node

/-- A node that is not written. -/
def missing : Node := .scalar none .plain ""

mutual

/-- The size of a node: one for each scalar and alias, two for each list and table. -/
def size : Node → Nat
  | .scalar _ _ _ => 1
  | .alias _ => 1
  | .sequence _ items => sizeOfItems items + 2
  | .mapping _ entries => sizeOfEntries entries + 2

/-- The size of the items of a list. -/
def sizeOfItems : List Node → Nat
  | [] => 0
  | n :: rest => n.size + sizeOfItems rest

/-- The size of the entries of a table. -/
def sizeOfEntries : List (Node × Node) → Nat
  | [] => 0
  | (k, v) :: rest => k.size + v.size + sizeOfEntries rest

end

end Node

/-- What is left to read, and what is known about anchors. -/
structure NodeState where
  tokens : List Token
  /-- Prefixes of the handles of tags. -/
  handles : List (String × String)
  /-- The numbers that names stand for. -/
  names : List (String × Nat) := []
  /-- How many anchored nodes have been begun. -/
  begun : Nat := 0
  /-- For the number of an anchor, which of the anchored nodes it is; the latest first. -/
  anchored : List (Nat × Nat) := []
  /-- The anchored nodes that are complete. -/
  complete : List (Nat × Node) := []

/-- Reads nodes from tokens. -/
abbrev NodeReader := StateT NodeState Option

namespace NodeReader

/-- The next token. -/
def peek : NodeReader (Option Token) := fun s => some (s.tokens.head?, s)

/-- Passes a token. -/
def advance : NodeReader Unit := fun s => some ((), { s with tokens := s.tokens.drop 1 })

/-- Refuses the document. -/
def refuse {α : Type} : NodeReader α := fun _ => none

/-- Passes a token if it is the next one. -/
def accept (t : Token) : NodeReader Bool := fun s =>
  if s.tokens.head? = some t then some (true, { s with tokens := s.tokens.drop 1 }) else some (false, s)

/-- Passes a token that must be the next one. -/
def expect (t : Token) : NodeReader Unit := do
  if ¬ (← accept t) then refuse

/-- Gives an anchor its number: the node that is begun, as its place among the anchored ones. -/
def beginAnchor (name : String) : NodeReader Nat := fun s =>
  let number := s.names.length
  some (s.begun,
    { s with
      names := (name, number) :: s.names.filter (fun e => e.1 ≠ name)
      begun := s.begun + 1
      anchored := (number, s.begun) :: s.anchored })

/-- Completes an anchored node. -/
def endAnchor (place : Option Nat) (n : Node) : NodeReader Node := fun s =>
  match place with
  | some place => some (n, { s with complete := (place, n) :: s.complete })
  | none => some (n, s)

/-- The node of an alias, whose name must be known. -/
def ofAlias (name : String) : NodeReader Node := fun s => (s.names.lookup name).map fun number => (.alias number, s)

/-- The tag of a handle and a suffix. -/
def resolveTag (handle suffix : String) : NodeReader String := fun s =>
  if handle = "" then some (suffix, s) else (s.handles.lookup handle).map fun text => (text ++ suffix, s)

/-- Reads the anchor of a node, if there is one. -/
def anchorName : NodeReader (Option String) := do
  match ← peek with
  | some (.anchor name) =>
    advance
    return some name
  | _ => return none

/-- Reads the tag of a node, if there is one. -/
def tagParts : NodeReader (Option (String × String)) := do
  match ← peek with
  | some (.tag handle suffix) =>
    advance
    return some (handle, suffix)
  | _ => return none

/-- Reads the anchor and the tag of a node, in either order. -/
def properties : NodeReader (Option String × Option String) := do
  let before ← anchorName
  let tag ← tagParts
  let anchor ← match before with
    | some name => pure (some name)
    | none => anchorName
  match tag with
  | none => return (anchor, none)
  | some (handle, suffix) => return (anchor, some (← resolveTag handle suffix))

/-- The tag of a scalar: a single exclamation mark counts for nothing. -/
def scalarTag (tag : Option String) : Option String := tag.filter (· ≠ "!")

/-- The tokens before which the key or value of a block is missing. -/
def endsBlockNode : Option Token → Bool
  | some .key | some .value | some .blockEnd => true
  | _ => false

/-- The tokens before which an item without indentation of its own is missing. -/
def endsIndentless (t : Option Token) : Bool := t = some .blockEntry || endsBlockNode t

mutual

/-- Reads a node; `block` says whether it may be a block, `indentless` whether it may be a list whose items are not indented. -/
def node : (fuel : Nat) → (block indentless : Bool) → NodeReader Node
  | 0, _, _ => refuse
  | fuel + 1, block, indentless => do
    match ← peek with
    | some (.alias name) =>
      advance
      ofAlias name
    | _ =>
      let (anchor, tag) ← properties
      match ← peek with
      | some (.scalar text style) =>
        advance
        let place ← anchor.mapM beginAnchor
        endAnchor place (.scalar (scalarTag tag) style text)
      | t =>
        let place ← anchor.mapM beginAnchor
        if indentless ∧ t = some .blockEntry then
          endAnchor place (.sequence tag (← indentlessItems fuel))
        else if t = some .flowSequenceStart then
          advance
          endAnchor place (.sequence tag (← flowItems fuel true))
        else if t = some .flowMappingStart then
          advance
          endAnchor place (.mapping tag (← flowEntries fuel true))
        else if block ∧ t = some .blockSequenceStart then
          advance
          endAnchor place (.sequence tag (← blockItems fuel))
        else if block ∧ t = some .blockMappingStart then
          advance
          endAnchor place (.mapping tag (← blockEntries fuel))
        else if anchor.isSome ∨ tag.isSome then endAnchor place (.scalar tag .plain "")
        else refuse

/-- Reads the items of an indented list. -/
def blockItems : (fuel : Nat) → NodeReader (List Node)
  | 0 => refuse
  | fuel + 1 => do
    if ← accept .blockEntry then
      let t ← peek
      let item ← if t = some .blockEntry ∨ t = some .blockEnd then pure Node.missing else node fuel true false
      return item :: (← blockItems fuel)
    else
      expect .blockEnd
      return []

/-- Reads the items of a list that is not indented. -/
def indentlessItems : (fuel : Nat) → NodeReader (List Node)
  | 0 => refuse
  | fuel + 1 => do
    if ← accept .blockEntry then
      let item ← if endsIndentless (← peek) then pure Node.missing else node fuel true false
      return item :: (← indentlessItems fuel)
    else return []

/-- Reads the entries of an indented table. -/
def blockEntries : (fuel : Nat) → NodeReader (List (Node × Node))
  | 0 => refuse
  | fuel + 1 => do
    if ← accept .key then
      let key ← if endsBlockNode (← peek) then pure Node.missing else node fuel true true
      let value ←
        if ← accept .value then
          if endsBlockNode (← peek) then pure Node.missing else node fuel true true
        else pure Node.missing
      return (key, value) :: (← blockEntries fuel)
    else
      expect .blockEnd
      return []

/-- Reads the items of a list between brackets; an item may be a table of one entry. -/
def flowItems : (fuel : Nat) → (first : Bool) → NodeReader (List Node)
  | 0, _ => refuse
  | fuel + 1, first => do
    if ← accept .flowSequenceEnd then return []
    else
      if ¬ first then expect .flowEntry
      if ← accept .key then
        let item ← flowPair fuel
        return item :: (← flowItems fuel false)
      else if ← accept .flowSequenceEnd then return []
      else
        let item ← node fuel false false
        return item :: (← flowItems fuel false)

/-- Reads a table of one entry, after the mark of its key. What stands in place of a missing key is passed over. -/
def flowPair : (fuel : Nat) → NodeReader Node
  | 0 => refuse
  | fuel + 1 => do
    let t ← peek
    let key ←
      if t = some .value ∨ t = some .flowEntry ∨ t = some .flowSequenceEnd then
        advance
        pure Node.missing
      else node fuel false false
    let value ←
      if ← accept .value then
        let t ← peek
        if t = some .flowEntry ∨ t = some .flowSequenceEnd then pure Node.missing else node fuel false false
      else pure Node.missing
    return .mapping none [(key, value)]

/-- Reads the entries of a table between brackets. -/
def flowEntries : (fuel : Nat) → (first : Bool) → NodeReader (List (Node × Node))
  | 0, _ => refuse
  | fuel + 1, first => do
    if ← accept .flowMappingEnd then return []
    else
      if ¬ first then expect .flowEntry
      if ← accept .key then
        let t ← peek
        let key ←
          if t = some .value ∨ t = some .flowEntry ∨ t = some .flowMappingEnd then pure Node.missing
          else node fuel false false
        let value ←
          if ← accept .value then
            let t ← peek
            if t = some .flowEntry ∨ t = some .flowMappingEnd then pure Node.missing else node fuel false false
          else pure Node.missing
        return (key, value) :: (← flowEntries fuel false)
      else if ← accept .flowMappingEnd then return []
      else
        let key ← node fuel false false
        return (key, .missing) :: (← flowEntries fuel false)

end

/-- Reads the directives before a document: the number of those for the version, and the handles declared. A version other than
the first two, a second version and a second declaration of a handle are refused. -/
def directives : (fuel versions : Nat) → (handles : List (String × String)) → NodeReader (Nat × List (String × String))
  | 0, _, _ => refuse
  | fuel + 1, versions, handles => do
    match ← peek with
    | some (.version major minor) =>
      if versions ≠ 0 ∨ major ≠ 1 ∨ ¬ (minor = 1 ∨ minor = 2) then refuse
      else
        advance
        directives fuel 1 handles
    | some (.tagDirective handle text) =>
      if (handles.lookup handle).isSome then refuse
      else
        advance
        directives fuel versions ((handle, text) :: handles)
    | _ => return (versions, handles)

end NodeReader

/-- The root of a document, and the nodes that aliases stand for. -/
structure Document where
  root : Node
  /-- For the number of an anchor, which of the anchored nodes it is; the latest first. -/
  anchored : List (Nat × Nat) := []
  nodes : List (Nat × Node) := []
  deriving Repr

namespace Document

/-- The node that an alias of a number stands for. -/
def find? (d : Document) (number : Nat) : Option Node := (d.anchored.lookup number).bind fun place => d.nodes.lookup place

/-- The handles that need no declaration. -/
def defaultHandles : List (String × String) := [("!", "!"), ("!!", "tag:yaml.org,2002:")]

/-- Passes the marks of the end of a document. -/
def skipEnds (ts : List Token) : List Token := ts.dropWhile (· = .documentEnd)

/-- Reads the root of a document that begins with directives and a mark, or simply begins. -/
def readRoot (fuel : Nat) : NodeReader Node := do
  let (versions, handles) ← NodeReader.directives fuel 0 []
  let marked ← NodeReader.accept .documentStart
  if ¬ marked ∧ (versions ≠ 0 ∨ handles ≠ []) then NodeReader.refuse
  else
    modify fun s => { s with handles := handles ++ s.handles }
    match ← NodeReader.peek with
    | some .documentStart | some .documentEnd | some (.version _ _) | some (.tagDirective _ _) | none =>
      if marked then return Node.missing else NodeReader.refuse
    | _ => NodeReader.node fuel true false

/-- The only document of a text; a text without a document has an empty one. -/
def ofTokens? (ts : List Token) : Option Document :=
  if ts = [] then some { root := .missing }
  else match readRoot (4 * ts.length + 8) { tokens := ts, handles := defaultHandles } with
    | some (root, s) =>
      if skipEnds s.tokens = [] then some { root, anchored := s.anchored, nodes := s.complete } else none
    | none => none

end Document

end CoEdit.Yaml
