import CoEdit.Number.Decimal

/-!
# Reading TOML text

A reader takes characters from the front of a text, or refuses it. This module holds blanks, comments, strings and keys.
-/

namespace CoEdit.Toml

/-- Takes characters from the front of a text. -/
abbrev Reader := StateT (List Char) Option

namespace Reader

/-- Refuses the text. -/
def refuse {α : Type} : Reader α := fun _ => none

/-- The next character, which stays. -/
def peek : Reader (Option Char) := fun cs => some (cs.head?, cs)

/-- How much is left. -/
def remaining : Reader Nat := fun cs => some (cs.length, cs)

/-- Takes one character of a class. -/
def one (p : Char → Bool) : Reader Char
  | c :: rest => if p c then some (c, rest) else none
  | [] => none

/-- Takes the given characters. -/
def literally : List Char → Reader Unit
  | [] => pure ()
  | c :: rest => do
    let _ ← one (· = c)
    literally rest

/-- Takes the characters of a class as long as there are any. -/
def many (p : Char → Bool) : Reader (List Char) := fun cs => some (cs.takeWhile p, cs.dropWhile p)

/-- Takes the given characters if they come next. -/
def accept (text : List Char) : Reader Bool := fun cs =>
  if text.isPrefixOf cs then some (true, cs.drop text.length) else some (false, cs)

/-- What a reader takes, if it takes anything. -/
def maybe {α : Type} (r : Reader α) : Reader (Option α) := fun cs =>
  match r cs with
  | some (a, rest) => some (some a, rest)
  | none => some (none, cs)

/-- What the first of two readers takes, or else the second. -/
def either {α : Type} (r s : Reader α) : Reader α := fun cs =>
  match r cs with
  | some x => some x
  | none => s cs

end Reader

open Reader

/-! ## Blanks and lines -/

/-- Whether a character is a space or a tab. -/
def isBlank (c : Char) : Bool := c = ' ' || c = '\t'

/-- Whether a character may stand in a comment. -/
def isText (c : Char) : Bool := c = '\t' || (' ' ≤ c && c ≠ '\x7f')

/-- Takes blanks. -/
def blanks : Reader Unit := do
  let _ ← many isBlank

/-- Takes the end of a line. -/
def newline : Reader Unit := either (literally ['\n']) (literally ['\r', '\n'])

/-- Takes a comment, if there is one. -/
def comment : Reader Unit := do
  if ← accept ['#'] then
    let _ ← many isText

/-- Takes the end of a line or of the text. -/
def lineEnd : Reader Unit := do
  if (← peek).isSome then newline

/-- Takes the rest of a line, in which only a comment may stand. -/
def restOfLine : Reader Unit := do
  blanks
  comment
  lineEnd

/-- Takes blanks, comments and line ends. -/
def gapUpTo : (fuel : Nat) → Reader Unit
  | 0 => pure ()
  | fuel + 1 => do
    blanks
    comment
    match ← maybe newline with
    | some () => gapUpTo fuel
    | none => pure ()

/-- Takes blanks, comments and line ends. -/
def gap : Reader Unit := do gapUpTo (← remaining)

/-! ## Strings -/

/-- The character an escape of one letter stands for. -/
def escaped? (c : Char) : Option Char :=
  if c = 'b' then some '\x08'
  else if c = 't' then some '\t'
  else if c = 'n' then some '\n'
  else if c = 'f' then some '\x0c'
  else if c = 'r' then some '\r'
  else if c = '"' ∨ c = '\\' then some c
  else none

/-- The character of a code point. -/
def ofCodePoint? (n : Nat) : Option Char :=
  if (0xD800 ≤ n ∧ n ≤ 0xDFFF) ∨ 0x10FFFF < n then none else some (Char.ofNat n)

/-- Takes the digits of a code point. -/
def codePoint (digits : Nat) : Reader Char := fun cs =>
  let ds := cs.take digits
  if ds.length < digits then none
  else ((Decimal.natural? 16 ds).bind ofCodePoint?).map fun c => (c, cs.drop digits)

/-- Takes an escape, after its backslash. -/
def escape : Reader Char := do
  let c ← one (fun _ => true)
  if c = 'u' then codePoint 4
  else if c = 'U' then codePoint 8
  else match escaped? c with
    | some e => return e
    | none => refuse

/-- Takes a string up to its closing quote. A quote of the kind `'` knows no escapes. -/
def stringBody (quote : Char) : (fuel : Nat) → Reader (List Char)
  | 0 => refuse
  | fuel + 1 => do
    let c ← one isText
    if c = quote then return []
    else if c = '\\' ∧ quote = '"' then
      let e ← escape
      return e :: (← stringBody quote fuel)
    else return c :: (← stringBody quote fuel)

/-- Takes blanks and line ends. -/
def blankLines : (fuel : Nat) → Reader Unit
  | 0 => pure ()
  | fuel + 1 => do
    blanks
    match ← maybe newline with
    | some () => blankLines fuel
    | none => pure ()

/-- Takes a string of several lines up to its closing quotes. Quotes next to those that close it belong to it, two at most. A
backslash before the end of a line skips everything up to the next character that is not blank. -/
def linesBody (quote : Char) : (fuel : Nat) → Reader (List Char)
  | 0 => refuse
  | fuel + 1 => do
    if ← accept [quote, quote, quote] then
      let more ← many (· = quote)
      if more.length ≤ 2 then return more else refuse
    else
      match ← maybe newline with
      | some () => return '\n' :: (← linesBody quote fuel)
      | none =>
        let c ← one isText
        if c = '\\' ∧ quote = '"' then
          match ← maybe (do blanks; newline) with
          | some () =>
            blankLines (← remaining)
            linesBody quote fuel
          | none =>
            let e ← escape
            return e :: (← linesBody quote fuel)
        else return c :: (← linesBody quote fuel)

/-- Takes a string of one line. -/
def shortString (quote : Char) : Reader String := do
  literally [quote]
  return String.ofList (← stringBody quote (← remaining))

/-- Takes a string of one or several lines; a line end right after the opening quotes does not count. -/
def string (quote : Char) : Reader String := do
  if ← accept [quote, quote, quote] then
    let _ ← maybe newline
    return String.ofList (← linesBody quote (← remaining))
  else shortString quote

/-! ## Keys -/

/-- The characters of keys without quotes. -/
def isKeyChar (c : Char) : Bool := c.isAlphanum || c = '-' || c = '_'

/-- Takes one key. -/
def simpleKey : Reader String := do
  match ← peek with
  | some '"' => shortString '"'
  | some '\'' => shortString '\''
  | _ =>
    let cs ← many isKeyChar
    if cs = [] then refuse else return String.ofList cs

/-- Takes keys with points between them. -/
def keysUpTo : (fuel : Nat) → Reader (List String)
  | 0 => refuse
  | fuel + 1 => do
    blanks
    let k ← simpleKey
    blanks
    if ← accept ['.'] then return k :: (← keysUpTo fuel) else return [k]

/-- How many keys may be strung together, and how deep values may be nested. -/
def depthLimit : Nat := 80

/-- Takes a path of keys, and the last key. -/
def keyPath : Reader (List String × String) := do
  let ks ← keysUpTo (depthLimit - 1)
  match ks.getLast? with
  | some k => return (ks.dropLast, k)
  | none => refuse

end CoEdit.Toml
