import CoEdit.Yaml.Scalar

/-!
# Tokens of YAML documents

The text of a document is cut into tokens, among them those that only indentation shows: the beginnings and ends of blocks.

Whether something is a key is seen only at the colon after it. So every place where a key could begin is remembered, one for each
level of brackets (`KeyPlace`), and at a colon the tokens for the key are put in before what was read since. A key must end on the
line it began on, within 1024 characters.
-/

namespace CoEdit.Yaml

/-- A token. -/
inductive Token where
  | version (major minor : Nat)
  | tagDirective (handle prefixText : String)
  | documentStart | documentEnd
  | blockSequenceStart | blockMappingStart | blockEnd
  | flowSequenceStart | flowSequenceEnd | flowMappingStart | flowMappingEnd
  | blockEntry | flowEntry | key | value
  | alias (name : String)
  | anchor (name : String)
  | tag (handle suffix : String)
  | scalar (text : String) (style : ScalarStyle)
  deriving DecidableEq, Repr

/-- A place where a key may have begun. -/
structure KeyPlace where
  /-- How many tokens stood before it. -/
  tokensBefore : Nat
  cursor : Cursor
  /-- Whether nothing but a key can stand there. -/
  required : Bool

/-- What the scanner knows. -/
structure Scanner where
  cursor : Cursor
  /-- Tokens so far, the latest first. -/
  tokens : List Token := []
  /-- Indentation of the present block, plus one, and of those around it. -/
  indent : Nat := 0
  outerIndents : List Nat := []
  /-- Where a key may have begun: outside of brackets, or inside the innermost ones. -/
  keyPlace : Option KeyPlace := none
  /-- The same for each level of brackets around. -/
  outerKeyPlaces : List (Option KeyPlace) := []
  /-- Whether a key may begin at the cursor. -/
  keyAllowed : Bool := true

namespace Scanner

/-- Whether the cursor is inside of brackets. -/
def inFlow (s : Scanner) : Bool := !s.outerKeyPlaces.isEmpty

/-- Adds a token. -/
def emit (s : Scanner) (t : Token) : Scanner := { s with tokens := t :: s.tokens }

/-- Adds a token before those read since `before` tokens had been read. -/
def emitAt (s : Scanner) (before : Nat) (t : Token) : Scanner :=
  let since := s.tokens.length - before
  { s with tokens := s.tokens.take since ++ t :: s.tokens.drop since }

/-- Adds a token and passes the characters that write it. -/
def emitMark (s : Scanner) (t : Token) (length : Nat) : Scanner :=
  { s.emit t with cursor := s.cursor.skip length }

/-! ## Blocks -/

/-- Ends blocks until one is indented no deeper than `indent`, which is one more than its column. -/
def unroll (indent : Nat) : (outer : List Nat) → Scanner → Scanner
  | outer, s =>
    if s.indent ≤ indent then s
    else match outer with
      | [] => { s.emit .blockEnd with indent := 0, outerIndents := [] }
      | i :: rest => unroll indent rest { s.emit .blockEnd with indent := i, outerIndents := rest }

/-- Ends the blocks that are indented deeper than a column, which is given plus one. Brackets have no indentation. -/
def endBlocks (s : Scanner) (indent : Nat) : Scanner := if s.inFlow then s else unroll indent s.outerIndents s

/-- Begins a block at a column, unless one has begun there; its token goes before those read since `before` tokens. -/
def beginBlock (s : Scanner) (column before : Nat) (t : Token) : Scanner :=
  if s.inFlow ∨ column + 1 ≤ s.indent then s
  else { s.emitAt before t with indent := column + 1, outerIndents := s.indent :: s.outerIndents }

/-! ## Places of keys -/

/-- Whether a key that began at a place cannot end at the cursor any more. -/
def isStale (s : Scanner) (k : KeyPlace) : Bool :=
  k.cursor.line < s.cursor.line || k.cursor.index + 1024 < s.cursor.index

/-- Forgets a place that has become stale; a key that is required there is missing its colon. -/
def checkKeyPlace (s : Scanner) (k : Option KeyPlace) : Option (Option KeyPlace) :=
  match k with
  | none => some none
  | some k => if s.isStale k then (if k.required then none else some none) else some (some k)

/-- Forgets all places that have become stale. -/
def checkKeyPlaces (s : Scanner) : Option Scanner := do
  let keyPlace ← s.checkKeyPlace s.keyPlace
  let outerKeyPlaces ← s.outerKeyPlaces.mapM s.checkKeyPlace
  return { s with keyPlace, outerKeyPlaces }

/-- Forgets the place of the present level. -/
def dropKeyPlace (s : Scanner) : Option Scanner :=
  match s.keyPlace with
  | some k => if k.required then none else some { s with keyPlace := none }
  | none => some s

/-- The cursor as the place of a key. -/
def placeHere (s : Scanner) : KeyPlace where
  tokensBefore := s.tokens.length
  cursor := s.cursor
  required := !s.inFlow && s.indent = s.cursor.column + 1

/-- Remembers that a key may begin here. -/
def markKeyPlace (s : Scanner) : Option Scanner :=
  if s.keyAllowed then
    s.dropKeyPlace.map fun s => { s with keyPlace := some s.placeHere }
  else some s

/-! ## Directives, anchors and tags -/

/-- Reads a number of at most nine digits. -/
def readVersionNumber (c : Cursor) : Option (Nat × Cursor) :=
  let digits := c.rest.takeWhile Char.isDigit
  if digits.length ≤ 9 then (Decimal.natural? 10 digits).map fun n => (n, c.skip digits.length) else none

/-- Reads the version of a directive. -/
def readVersion (c : Cursor) : Option (Token × Cursor) := do
  let (major, c) ← readVersionNumber (c.skipWhile isBlank)
  if ¬ c.at_ 0 '.' then none
  else
    let (minor, c) ← readVersionNumber (c.skip 1)
    return (.version major minor, c)

/-- The characters of tags besides those of names. -/
def isUriMark (c : Char) : Bool :=
  [';', '/', '?', ':', '@', '&', '=', '+', '$', '.', '%', '!', '~', '*', '\'', '(', ')'].contains c

/-- The characters of tags; `wide` says whether commas and square brackets are among them. -/
def isUriChar (wide : Bool) (c : Char) : Bool :=
  isNameChar c || isUriMark c || (wide && (c = ',' || c = '[' || c = ']'))

/-- The bytes of characters and of escapes, which are a percent sign and two digits each. -/
def uriBytes? : List Char → Option (List UInt8)
  | '%' :: a :: b :: rest => do
    let value ← Decimal.natural? 16 [a, b]
    return UInt8.ofNat value :: (← uriBytes? rest)
  | c :: rest => if c = '%' then none else (uriBytes? rest).map fun bytes => (String.singleton c).toUTF8.toList ++ bytes
  | [] => some []

/-- The text of characters and escapes. -/
def uriText? (cs : List Char) : Option String := (uriBytes? cs).bind fun bytes => String.fromUTF8? ⟨bytes.toArray⟩

/-- Reads part of a tag; an empty one is refused unless it continues something. -/
def readUri (wide continued : Bool) (c : Cursor) : Option (String × Cursor) :=
  let cs := c.rest.takeWhile (isUriChar wide)
  if cs = [] ∧ ¬ continued then none else (uriText? cs).map fun text => (text, c.skip cs.length)

/-- Reads the handle of a tag: an exclamation mark, and possibly a name and another one. -/
def readHandle (c : Cursor) : Option (String × Cursor) :=
  if ¬ c.at_ 0 '!' then none
  else
    let name := (c.rest.drop 1).takeWhile isNameChar
    let c := c.skip (name.length + 1)
    if c.at_ 0 '!' then some (String.ofList ('!' :: name ++ ['!']), c.skip 1) else some (String.ofList ('!' :: name), c)

/-- Reads the handle and the prefix of a directive for tags. -/
def readTagDirective (c : Cursor) : Option (Token × Cursor) := do
  let (handle, c) ← readHandle (c.skipWhile isBlank)
  if handle ≠ "!" ∧ ¬ (handle.toList.getLast? = some '!') then none
  else if ¬ (c.peek 0).any isBlank then none
  else
    let (text, c) ← readUri true false (c.skipWhile isBlank)
    if isBlankOrEnd (c.peek 0) then some (.tagDirective handle text, c) else none

/-- Reads a directive up to the end of its line. -/
def readDirective (c : Cursor) : Option (Token × Cursor) := do
  let name := (c.rest.drop 1).takeWhile isNameChar
  let c := c.skip (name.length + 1)
  if ¬ isBlankOrEnd (c.peek 0) then none
  else
    let (t, c) ←
      if name = ['Y', 'A', 'M', 'L'] then readVersion c
      else if name = ['T', 'A', 'G'] then readTagDirective c
      else none
    let c := (c.skipWhile isBlank).skipComment
    if isBreakOrEnd (c.peek 0) then some (t, c.skipBreak) else none

/-- Reads the name of an anchor or an alias, after its mark. -/
def readName (c : Cursor) : Option (String × Cursor) :=
  let name := (c.rest.drop 1).takeWhile isNameChar
  let c := c.skip (name.length + 1)
  let ends := isBlankOrEnd (c.peek 0) || (c.peek 0).any fun x => ['?', ':', ',', ']', '}', '%', '@', '\x60'].contains x
  if name = [] ∨ ¬ ends then none else some (String.ofList name, c)

/-- Reads a tag between angle brackets. -/
def readVerbatimTag (c : Cursor) : Option (Token × Cursor) := do
  let (text, c) ← readUri true false (c.skip 2)
  if c.at_ 0 '>' then some (.tag "" text, c.skip 1) else none

/-- Reads a tag with a handle. A name between two exclamation marks is a handle; after a single one it is part of the tag. -/
def readShorthandTag (c : Cursor) : Option (Token × Cursor) := do
  let (handle, c) ← readHandle c
  let name := handle.toList.drop 1
  if name.getLast? = some '!' then
    let (text, c) ← readUri false false c
    return (.tag handle text, c)
  else
    let (text, c) ← readUri false true c
    let suffix := String.ofList name ++ text
    if name = [] ∧ text = "" then none
    else return (.tag "!" suffix, c)

/-- Reads a tag. A single exclamation mark is a tag of its own. -/
def readTag (inFlow : Bool) (c : Cursor) : Option (Token × Cursor) := do
  let bare := c.skip 1
  let (t, c) ←
    if c.at_ 1 '<' then readVerbatimTag c
    else if ¬ (bare.peek 0).any (isUriChar false) then some (.tag "" "!", bare)
    else readShorthandTag c
  if (inFlow ∧ c.at_ 0 ',') ∨ isBlankOrEnd (c.peek 0) then some (t, c) else none

/-! ## Fetching tokens -/

/-- Passes blanks, comments and line breaks. A new line outside of brackets may begin with a key, and tabs may not stand where one
could begin. -/
def skipToToken : (fuel : Nat) → Scanner → Scanner
  | 0, s => s
  | fuel + 1, s =>
    let c := if s.cursor.index = 0 ∧ s.cursor.at_ 0 '\ufeff' then s.cursor.skip 1 else s.cursor
    let c := (c.skipWhile fun x => x = ' ' || ((s.inFlow || !s.keyAllowed) && x = '\t')).skipComment
    if (c.peek 0).any isBreak then
      skipToToken fuel { s with cursor := c.skipBreak, keyAllowed := s.keyAllowed || !s.inFlow }
    else { s with cursor := c }

/-- Reads a token that ends all blocks: a directive or a mark of a document. -/
def fetchDocumentToken (s : Scanner) (r : Option (Token × Cursor)) : Option Scanner := do
  let s ← (s.endBlocks 0).dropKeyPlace
  let (t, cursor) ← r
  return { s.emit t with cursor, keyAllowed := false }

/-- Reads an opening bracket. -/
def fetchFlowStart (s : Scanner) (t : Token) : Option Scanner := do
  let s ← s.markKeyPlace
  return { s.emitMark t 1 with keyAllowed := true, keyPlace := none, outerKeyPlaces := s.keyPlace :: s.outerKeyPlaces }

/-- Reads a closing bracket. -/
def fetchFlowEnd (s : Scanner) (t : Token) : Option Scanner := do
  let s ← s.dropKeyPlace
  let s := { s.emitMark t 1 with keyAllowed := false }
  match s.outerKeyPlaces with
  | k :: rest => return { s with keyPlace := k, outerKeyPlaces := rest }
  | [] => return s

/-- Reads a comma between brackets. -/
def fetchFlowEntry (s : Scanner) : Option Scanner := do
  let s ← s.dropKeyPlace
  return { s.emitMark .flowEntry 1 with keyAllowed := true }

/-- Begins a block at the cursor, where one may begin. -/
def beginBlockHere (s : Scanner) (t : Token) : Option Scanner :=
  if s.inFlow then some s
  else if s.keyAllowed then some (s.beginBlock s.cursor.column s.tokens.length t)
  else none

/-- Reads the dash of an item. -/
def fetchBlockEntry (s : Scanner) : Option Scanner := do
  let s ← (← s.beginBlockHere .blockSequenceStart).dropKeyPlace
  return { s.emitMark .blockEntry 1 with keyAllowed := true }

/-- Reads the question mark of a key. -/
def fetchKey (s : Scanner) : Option Scanner := do
  let s ← (← s.beginBlockHere .blockMappingStart).dropKeyPlace
  return { s.emitMark .key 1 with keyAllowed := !s.inFlow }

/-- Reads the colon of a value. -/
def fetchValue (s : Scanner) : Option Scanner :=
  match s.keyPlace with
  | some k =>
    let s := (s.emitAt k.tokensBefore .key).beginBlock k.cursor.column k.tokensBefore .blockMappingStart
    some { s.emitMark .value 1 with keyPlace := none, keyAllowed := false }
  | none => (s.beginBlockHere .blockMappingStart).map fun s => { s.emitMark .value 1 with keyAllowed := !s.inFlow }

/-- Reads a token that may begin a key, after which none may begin. -/
def fetchInKey (s : Scanner) (read : Cursor → Option (Token × Cursor)) : Option Scanner := do
  let s ← s.markKeyPlace
  let (t, cursor) ← read s.cursor
  return { s.emit t with cursor, keyAllowed := false }

/-- Reads a block of lines. -/
def fetchBlockScalar (s : Scanner) (literal : Bool) : Option Scanner := do
  let s ← s.dropKeyPlace
  let (text, cursor) ← blockScalar literal s.indent s.cursor
  return { s.emit (.scalar text (if literal then .literal else .folded)) with cursor, keyAllowed := true }

/-- Reads a scalar between quotes. -/
def fetchQuotedScalar (s : Scanner) (single : Bool) : Option Scanner :=
  s.fetchInKey fun c => (quotedScalar single c).map fun (text, c) =>
    (.scalar text (if single then .singleQuoted else .doubleQuoted), c)

/-- Reads a plain scalar. -/
def fetchPlainScalar (s : Scanner) : Option Scanner := do
  let s ← s.markKeyPlace
  let (text, broken, cursor) ← plainScalar s.inFlow s.indent s.cursor
  return { s.emit (.scalar text .plain) with cursor, keyAllowed := broken }

/-- The characters that no plain scalar begins with, dashes, question marks and colons aside. -/
def isIndicator (c : Char) : Bool :=
  [',', '[', ']', '{', '}', '#', '&', '*', '!', '|', '>', '\'', '"', '%', '@', '\x60'].contains c

/-- Whether a plain scalar can begin at the cursor. -/
def beginsPlain (s : Scanner) (x : Char) : Bool :=
  if x = '-' then !(s.cursor.peek 1).any isBlank
  else if x = '?' ∨ x = ':' then !s.inFlow && !isBlankOrEnd (s.cursor.peek 1)
  else !isBlank x && !isBreak x && !isIndicator x

/-- Reads the token at the cursor, which begins with `x`. -/
def fetch (s : Scanner) (x : Char) : Option Scanner :=
  let c := s.cursor
  let alone := isBlankOrEnd (c.peek 1)
  if c.column = 0 ∧ x = '%' then s.fetchDocumentToken (readDirective c)
  else if c.isMark '-' then s.fetchDocumentToken (some (.documentStart, c.skip 3))
  else if c.isMark '.' then s.fetchDocumentToken (some (.documentEnd, c.skip 3))
  else if x = '[' then s.fetchFlowStart .flowSequenceStart
  else if x = '{' then s.fetchFlowStart .flowMappingStart
  else if x = ']' then s.fetchFlowEnd .flowSequenceEnd
  else if x = '}' then s.fetchFlowEnd .flowMappingEnd
  else if x = ',' then s.fetchFlowEntry
  else if x = '-' ∧ alone then s.fetchBlockEntry
  else if x = '?' ∧ (s.inFlow ∨ alone) then s.fetchKey
  else if x = ':' ∧ (s.inFlow ∨ alone) then s.fetchValue
  else if x = '*' then s.fetchInKey fun c => (readName c).map fun (name, c) => (.alias name, c)
  else if x = '&' then s.fetchInKey fun c => (readName c).map fun (name, c) => (.anchor name, c)
  else if x = '!' then s.fetchInKey (readTag s.inFlow)
  else if x = '|' ∧ ¬ s.inFlow then s.fetchBlockScalar true
  else if x = '>' ∧ ¬ s.inFlow then s.fetchBlockScalar false
  else if x = '\'' then s.fetchQuotedScalar true
  else if x = '"' then s.fetchQuotedScalar false
  else if s.beginsPlain x then s.fetchPlainScalar
  else none

/-- Reads tokens to the end of the text. -/
def run : (fuel : Nat) → Scanner → Option Scanner
  | 0, _ => none
  | fuel + 1, s => do
    let s ← (skipToToken (s.cursor.rest.length + 1) s).checkKeyPlaces
    match s.cursor.peek 0 with
    | none => (s.endBlocks 0).dropKeyPlace
    | some x => run fuel (← (s.endBlocks (s.cursor.column + 1)).fetch x)

end Scanner

/-- The tokens of a text. -/
def tokens? (text : String) : Option (List Token) :=
  let cs := text.toList
  if cs.all isAllowed then (Scanner.run (cs.length + 1) { cursor := { rest := cs } }).map fun s => s.tokens.reverse else none

end CoEdit.Yaml
