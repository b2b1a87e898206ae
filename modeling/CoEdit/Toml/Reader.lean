import CoEdit.Toml.Table

/-!
# Reading TOML documents

A document is lines. A line declares a table or adds an entry to the table declared last.
-/

namespace CoEdit.Toml

open Reader

mutual

/-- Takes a value; `depth` bounds how deep lists and tables may still be nested. -/
def value : (fuel depth : Nat) → Reader Tree
  | 0, _ => refuse
  | fuel + 1, depth => do
    match ← peek with
    | none => refuse
    | some c =>
      if c = '"' ∨ c = '\'' then return .string (← string c)
      else if c = '[' ∨ c = '{' then
        match depth with
        | 0 => refuse
        | depth + 1 =>
          let _ ← one (fun _ => true)
          if c = '[' then return .array (← items fuel depth)
          else return .ofEntries (entriesToTrees (← inlineEntries fuel depth true []))
      else if c = 't' then
        literally ['t', 'r', 'u', 'e']
        return .bool true
      else if c = 'f' then
        literally ['f', 'a', 'l', 's', 'e']
        return .bool false
      else if c = 'i' ∨ c = 'n' then specialDouble
      else number

/-- Takes the items of a list and its closing bracket; a comma may follow the last item. -/
def items : (fuel depth : Nat) → Reader (List Tree)
  | 0, _ => refuse
  | fuel + 1, depth => do
    gap
    if ← accept [']'] then return []
    else
      let t ← value fuel depth
      gap
      if ← accept [','] then return t :: (← items fuel depth)
      else
        literally [']']
        return [t]

/-- Takes the entries of a table in braces and the closing brace. -/
def inlineEntries : (fuel depth : Nat) → (first : Bool) → Entries → Reader Entries
  | 0, _, _, _ => refuse
  | fuel + 1, depth, first, es => do
    blanks
    if ← (if first then accept ['\x7d'] else pure false) then return es
    else
      let (path, k) ← keyPath
      literally ['=']
      blanks
      let t ← value fuel depth
      blanks
      match es.assign path k t .declared with
      | none => refuse
      | some es =>
        if ← accept [','] then inlineEntries fuel depth false es
        else
          literally ['\x7d']
          return es

end

/-- The tables of a document so far, and the path of the one declared last. -/
structure DocumentState where
  entries : Entries := []
  path : List String := []

/-- Changes the table at the end of a path from the root, in which headers stand. -/
def DocumentState.change (s : DocumentState) (path : List String) (f : TableOrigin → Entries → Option Entries) :
    Option Entries :=
  s.entries.within .implied f path .declared

/-- Takes the header of a table, or of one more table of a name. -/
def header (s : DocumentState) : Reader DocumentState := do
  let next ← accept ['[', '[']
  if ¬ next then literally ['[']
  let (path, k) ← keyPath
  literally (if next then [']', ']'] else [']'])
  restOfLine
  match s.change path (if next then Entries.declareNext k else Entries.declare k) with
  | some entries => return { entries, path := path ++ [k] }
  | none => refuse

/-- Takes an entry of the table declared last. -/
def entry (s : DocumentState) : Reader DocumentState := do
  let (path, k) ← keyPath
  literally ['=']
  blanks
  let t ← value (2 * (← remaining) + 2) (depthLimit - 1)
  restOfLine
  match s.change s.path (fun origin es => es.assign path k t origin) with
  | some entries => return { s with entries }
  | none => refuse

/-- Takes the lines of a document. -/
def lines : (fuel : Nat) → DocumentState → Reader DocumentState
  | 0, _ => refuse
  | fuel + 1, s => do
    blanks
    match ← peek with
    | none => return s
    | some c =>
      if c = '#' then
        comment
        lineEnd
        lines fuel s
      else if c = '\n' ∨ c = '\r' then
        newline
        lines fuel s
      else if c = '[' then lines fuel (← header s)
      else lines fuel (← entry s)

/-- Takes a document, which may begin with a mark of its byte order. -/
def document : Reader DocumentState := do
  let _ ← accept ['\ufeff']
  lines ((← remaining) + 1) {}

end CoEdit.Toml

namespace CoEdit

/-- The tree of a TOML document, if the text is one. -/
def Tree.ofToml? (text : String) : Option Tree :=
  (Toml.document text.toList).map fun (s, _) => .ofEntries (Toml.entriesToTrees s.entries)

end CoEdit
