import CoEdit.Number.Decimal
import CoEdit.Yaml.Cursor

/-!
# Scalars of YAML documents

A scalar is written plain, between quotes of either kind, or as a block of lines. Plain and quoted scalars are folded over
lines; a block keeps its lines (`|`) or folds them (`>`), and an indicator tells whether the line breaks at its end are kept.
-/

namespace CoEdit.Yaml

/-- How a scalar is written. -/
inductive ScalarStyle where
  | plain | singleQuoted | doubleQuoted | literal | folded
  deriving DecidableEq, Repr

/-! ## Quoted scalars -/

/-- The character an escape of one letter stands for. -/
def escaped? (c : Char) : Option Char :=
  if c = '0' then some '\x00'
  else if c = 'a' then some '\x07'
  else if c = 'b' then some '\x08'
  else if c = 't' ∨ c = '\t' then some '\t'
  else if c = 'n' then some '\n'
  else if c = 'v' then some '\x0b'
  else if c = 'f' then some '\x0c'
  else if c = 'r' then some '\r'
  else if c = 'e' then some '\x1b'
  else if c = ' ' ∨ c = '"' ∨ c = '/' ∨ c = '\\' then some c
  else if c = 'N' then some '\u0085'
  else if c = '_' then some '\u00a0'
  else if c = 'L' then some '\u2028'
  else if c = 'P' then some '\u2029'
  else none

/-- How many digits follow the letter of an escape. -/
def codeLength? (c : Char) : Option Nat :=
  if c = 'x' then some 2 else if c = 'u' then some 4 else if c = 'U' then some 8 else none

/-- The character of a code point. -/
def ofCodePoint? (n : Nat) : Option Char :=
  if (0xD800 ≤ n ∧ n ≤ 0xDFFF) ∨ 0x10FFFF < n then none else some (Char.ofNat n)

/-- Reads an escape, after its backslash. -/
def readEscape (c : Cursor) : Option (Char × Cursor) := do
  let letter ← c.peek 0
  match codeLength? letter with
  | none => return (← escaped? letter, c.skip 1)
  | some n =>
    let digits := (c.rest.drop 1).take n
    if digits.length < n then none
    else
      let value ← Decimal.natural? 16 digits
      return (← ofCodePoint? value, c.skip (n + 1))

/-- Reads a quoted scalar after its opening quote; `text` is what has been read, backwards. -/
def readQuoted (single : Bool) : (fuel : Nat) → Cursor → (text : List Char) → Option (List Char × Cursor)
  | 0, _, _ => none
  | fuel + 1, c, text =>
    if c.isDocumentMark then none
    else match c.peek 0 with
      | none => none
      | some x =>
        if single ∧ x = '\'' ∧ c.at_ 1 '\'' then readQuoted single fuel (c.skip 2) ('\'' :: text)
        else if x = (if single then '\'' else '"') then some (text.reverse, c.skip 1)
        else if ¬ single ∧ x = '\\' then
          match c.peek 1 with
          | none => none
          | some y =>
            if isBreak y then
              (Gap.read 0 c.rest.length (c.skip 1).skipBreak { broken := true }).bind fun (g, c) =>
                readQuoted single fuel c (g.text.reverse ++ text)
            else (readEscape (c.skip 1)).bind fun (e, c) => readQuoted single fuel c (e :: text)
        else if isBlank x ∨ isBreak x then
          (Gap.read 0 c.rest.length c {}).bind fun (g, c) => readQuoted single fuel c (g.text.reverse ++ text)
        else readQuoted single fuel (c.skip 1) (x :: text)

/-- Reads a quoted scalar. -/
def quotedScalar (single : Bool) (c : Cursor) : Option (String × Cursor) :=
  (readQuoted single (c.rest.length + 1) (c.skip 1) []).map fun (cs, c) => (String.ofList cs, c)

/-! ## Plain scalars -/

/-- The characters that structure a list or a table between brackets. -/
def isFlowIndicator (c : Char) : Bool := c = ',' || c = '[' || c = ']' || c = '{' || c = '}'

/-- Whether a plain scalar ends before the present character; nothing if that character makes it faulty. -/
def endsPlain (inFlow : Bool) (c : Cursor) (x : Char) : Option Bool :=
  if inFlow ∧ x = ':' ∧ ((c.peek 1).any fun y => isFlowIndicator y || y = '?') then none
  else some ((x = ':' && isBlankOrEnd (c.peek 1)) || (inFlow && isFlowIndicator x))

/-- Reads a plain scalar: `text` is what has been read, backwards, and `gap` the gap since. The scalar ends where a comment, a
document or, outside of brackets, a line with too little indentation begins; the gap before that is reported. -/
def readPlain (inFlow : Bool) (indent : Nat) :
    (fuel : Nat) → Cursor → (text : List Char) → Gap → Option (List Char × Gap × Cursor)
  | 0, _, _, _ => none
  | fuel + 1, c, text, gap =>
    let ended := some (text.reverse, gap, c)
    match c.peek 0 with
    | none => ended
    | some x =>
      if isBlank x ∨ isBreak x then
        (Gap.read indent c.rest.length c {}).bind fun (g, c) =>
          if (¬ inFlow ∧ c.column < indent) ∨ c.isDocumentMark ∨ c.at_ 0 '#' then some (text.reverse, g, c)
          else readPlain inFlow indent fuel c text g
      else match endsPlain inFlow c x with
        | none => none
        | some true => ended
        | some false => readPlain inFlow indent fuel (c.skip 1) (x :: (gap.text.reverse ++ text)) {}

/-- Reads a plain scalar, and whether a line has ended after it. -/
def plainScalar (inFlow : Bool) (indent : Nat) (c : Cursor) : Option (String × Bool × Cursor) :=
  (readPlain inFlow indent (c.rest.length + 1) c [] {}).map fun (cs, gap, c) => (String.ofList cs, gap.broken, c)

/-! ## Blocks -/

/-- What becomes of the line breaks at the end of a block. -/
inductive Chomping where
  | strip | clip | keep
  deriving DecidableEq, Repr

/-- The sign of a chomping. -/
def chomping? (c : Cursor) : Option Chomping :=
  if c.at_ 0 '+' then some .keep else if c.at_ 0 '-' then some .strip else none

/-- The digit of an indentation; a zero is refused. -/
def increment? (c : Cursor) : Option (Option Nat) :=
  match c.peek 0 with
  | some x => if x.isDigit then (if x = '0' then none else some (some (x.toNat - '0'.toNat))) else some none
  | none => some none

/-- Reads the sign and the digit of a block, in either order. -/
def readBlockHeader (c : Cursor) : Option (Chomping × Option Nat × Cursor) :=
  match chomping? c with
  | some k => (increment? (c.skip 1)).map fun
    | some n => (k, some n, c.skip 2)
    | none => (k, none, c.skip 1)
  | none => (increment? c).map fun
    | some n => match chomping? (c.skip 1) with
      | some k => (k, some n, c.skip 2)
      | none => (.clip, some n, c.skip 1)
    | none => (.clip, none, c)

/-- Reads the indentation of empty lines and their breaks; `known` is the indentation if it is known. Reports the breaks and the
deepest column met. -/
def readBlockBreaks (known : Option Nat) :
    (fuel : Nat) → Cursor → (breaks : List Char) → (deepest : Nat) → Option (List Char × Nat × Cursor)
  | 0, c, breaks, deepest => some (breaks, deepest, c)
  | fuel + 1, c, breaks, deepest =>
    let room := match known with
      | some n => n - c.column
      | none => c.rest.length
    let c := c.skip ((c.rest.take room).takeWhile (· = ' ')).length
    let deepest := max deepest c.column
    let early : Bool := match known with
      | some n => decide (c.column < n)
      | none => true
    if early && c.at_ 0 '\t' then none
    else if (c.peek 0).any isBreak then
      let (kept, c) := c.takeBreak
      readBlockBreaks known fuel c (breaks ++ kept) deepest
    else some (breaks, deepest, c)

/-- The state of reading the lines of a block: the text so far, the break after the last line, the breaks of empty lines since,
and whether the last line began with a blank. -/
structure BlockLines where
  text : List Char := []
  lastBreak : List Char := []
  emptyBreaks : List Char := []
  blankBefore : Bool := false

/-- Reads the lines of a block. -/
def readBlockLines (literal : Bool) (indent : Nat) : (fuel : Nat) → Cursor → BlockLines → Option (BlockLines × Cursor)
  | 0, c, b => some (b, c)
  | fuel + 1, c, b =>
    if c.column = indent ∧ ¬ c.isAtEnd then
      let blank := (c.peek 0).any isBlank
      let joined := if ¬ literal ∧ b.lastBreak = ['\n'] ∧ ¬ b.blankBefore ∧ ¬ blank
        then (if b.emptyBreaks = [] then [' '] else []) else b.lastBreak
      let line := c.rest.takeWhile (fun x => !isBreak x)
      let (lastBreak, c) := (c.skip line.length).takeBreak
      (readBlockBreaks (some indent) (c.rest.length + 1) c [] 0).bind fun (emptyBreaks, _, c) =>
        readBlockLines literal indent fuel c
          { text := b.text ++ joined ++ b.emptyBreaks ++ line, lastBreak, emptyBreaks, blankBefore := blank }
    else some (b, c)

/-- Reads a block; `parent` is the indentation of what it stands in, plus one. -/
def blockScalar (literal : Bool) (parent : Nat) (c : Cursor) : Option (String × Cursor) := do
  let (chomping, increment, c) ← readBlockHeader (c.skip 1)
  let c := (c.skipWhile isBlank).skipComment
  if ¬ isBreakOrEnd (c.peek 0) then none
  else
    let c := c.skipBreak
    let known := increment.map fun n => (parent - 1) + n
    let (emptyBreaks, deepest, c) ← readBlockBreaks known (c.rest.length + 1) c [] 0
    let indent := known.getD (max deepest (max parent 1))
    let (b, c) ← readBlockLines literal indent (c.rest.length + 1) c { emptyBreaks }
    let tail := match chomping with
      | .strip => []
      | .clip => b.lastBreak
      | .keep => b.lastBreak ++ b.emptyBreaks
    return (String.ofList (b.text ++ tail), c)

end CoEdit.Yaml
