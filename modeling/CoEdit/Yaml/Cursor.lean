/-!
# Reading YAML text

A cursor is what is left of a text and where that stands: how many characters were read, and the line and the column. Columns
decide nesting, so every step keeps them.

A gap is the blanks and line breaks between two pieces of a scalar. A single line break within a scalar is folded into a blank,
and of several the first is dropped (`Gap.text`).
-/

namespace CoEdit.Yaml

/-- Whether a character ends a line. -/
def isBreak (c : Char) : Bool :=
  c = '\n' || c = '\r' || c = '\u0085' || c = '\u2028' || c = '\u2029'

/-- Whether a character is a space or a tab. -/
def isBlank (c : Char) : Bool := c = ' ' || c = '\t'

/-- Whether a place in a text is a blank, a line break or the end. -/
def isBlankOrEnd : Option Char → Bool
  | none => true
  | some c => isBlank c || isBreak c

/-- Whether a place in a text is a line break or the end. -/
def isBreakOrEnd : Option Char → Bool
  | none => true
  | some c => isBreak c

/-- The characters of names. -/
def isNameChar (c : Char) : Bool := c.isAlphanum || c = '_' || c = '-'

/-- The characters a document may hold. -/
def isAllowed (c : Char) : Bool :=
  c = '\t' || c = '\n' || c = '\r' || c = '\u0085' || (' ' ≤ c && c ≤ '~') || ('\u00a0' ≤ c && c.toNat ≤ 0xFFFD) ||
    0x10000 ≤ c.toNat

/-- What is left of a text, and where it stands. -/
structure Cursor where
  rest : List Char
  index : Nat := 0
  line : Nat := 0
  column : Nat := 0
  deriving Repr

namespace Cursor

/-- The character some places ahead. -/
def peek (c : Cursor) (ahead : Nat) : Option Char := c.rest[ahead]?

/-- Whether a given character stands some places ahead. -/
def at_ (c : Cursor) (ahead : Nat) (x : Char) : Bool := c.peek ahead = some x

/-- Whether the text is over. -/
def isAtEnd (c : Cursor) : Bool := c.rest.isEmpty

/-- Passes characters that end no line. -/
def skip (c : Cursor) (n : Nat) : Cursor :=
  let n := min n c.rest.length
  { c with rest := c.rest.drop n, index := c.index + n, column := c.column + n }

/-- Passes all characters of a class that holds no line breaks. -/
def skipWhile (c : Cursor) (p : Char → Bool) : Cursor := c.skip (c.rest.takeWhile p).length

/-- Passes a comment, if there is one. -/
def skipComment (c : Cursor) : Cursor := if c.at_ 0 '#' then c.skipWhile (fun x => !isBreak x) else c

/-- Passes a line break, if there is one: the break as it is kept, and the cursor after it. Breaks that only separate lines are
kept as line feeds, those that separate lines and paragraphs as they are. -/
def takeBreak (c : Cursor) : List Char × Cursor :=
  match c.rest with
  | '\r' :: '\n' :: rest => (['\n'], ⟨rest, c.index + 2, c.line + 1, 0⟩)
  | x :: rest =>
    if isBreak x then
      (if x = '\u2028' ∨ x = '\u2029' then [x] else ['\n'], ⟨rest, c.index + 1, c.line + 1, 0⟩)
    else ([], c)
  | [] => ([], c)

/-- Passes a line break, if there is one. -/
def skipBreak (c : Cursor) : Cursor := c.takeBreak.2

/-- Whether a mark of three characters stands alone at the beginning of a line. -/
def isMark (c : Cursor) (x : Char) : Bool :=
  c.column = 0 && c.at_ 0 x && c.at_ 1 x && c.at_ 2 x && isBlankOrEnd (c.peek 3)

/-- Whether a document begins or ends here. -/
def isDocumentMark (c : Cursor) : Bool := c.isMark '-' || c.isMark '.'

end Cursor

/-- The blanks and breaks between two pieces of a scalar. -/
structure Gap where
  /-- Whether a line has ended. -/
  broken : Bool := false
  spaces : List Char := []
  first : List Char := []
  others : List Char := []
  deriving Repr

namespace Gap

/-- What a gap stands for in a scalar. -/
def text (g : Gap) : List Char :=
  if ¬ g.broken then g.spaces
  else if g.first = ['\n'] then (if g.others = [] then [' '] else g.others)
  else g.first ++ g.others

/-- Reads a gap. Tabs before the column `tabsFrom` of a new line are refused. -/
def read (tabsFrom : Nat) : (fuel : Nat) → Cursor → Gap → Option (Gap × Cursor)
  | 0, c, g => some (g, c)
  | fuel + 1, c, g =>
    match c.peek 0 with
    | none => some (g, c)
    | some x =>
      if isBlank x then
        if g.broken ∧ c.column < tabsFrom ∧ x = '\t' then none
        else if g.broken then read tabsFrom fuel (c.skip 1) g
        else read tabsFrom fuel (c.skip 1) { g with spaces := g.spaces ++ [x] }
      else if isBreak x then
        let (kept, c) := c.takeBreak
        if g.broken then read tabsFrom fuel c { g with others := g.others ++ kept }
        else read tabsFrom fuel c { g with broken := true, spaces := [], first := kept }
      else some (g, c)

end Gap

end CoEdit.Yaml
