import CoEdit.Json.Number

/-!
# Tokens of JSON documents

A document is a sequence of brackets, commas, colons, strings and words, with blanks between them. The scanner reads one
character at a time: it is a fold over the text, and what it has read so far is all it knows.

A number may be too large, and a string may have half of a surrogate pair on its own. These are tokens without a value, for it is
up to the reader whether the value is wanted.
-/

namespace CoEdit.Json

/-- A token of a document. -/
inductive Token where
  | openArray | closeArray | openObject | closeObject | comma | colon
  | null
  | bool (b : Bool)
  /-- A number, unless it is too large. -/
  | number (n : Option Number)
  /-- A string, unless it is no text. -/
  | string (s : Option String)
  deriving Repr

/-- The part of a string that was read: its characters, newest first, unless half of a surrogate pair stood on its own, and the
first half of a pair if it is what was read last. -/
structure Spelled where
  chars : Option (List Char) := some []
  high : Option Nat := none
  deriving Repr

namespace Spelled

/-- Puts a character into a string. -/
def char (s : Spelled) (c : Char) : Spelled :=
  match s.high with
  | none => { chars := s.chars.map (c :: ·) }
  | some _ => { chars := none }

/-- Puts the code point of an escape into a string. The halves of a surrogate pair are joined. -/
def code (s : Spelled) (n : Nat) : Spelled :=
  match s.high with
  | none =>
    if 0xD800 ≤ n ∧ n ≤ 0xDBFF then { s with high := some n }
    else if 0xDC00 ≤ n ∧ n ≤ 0xDFFF then { chars := none }
    else s.char (Char.ofNat n)
  | some h =>
    if 0xDC00 ≤ n ∧ n ≤ 0xDFFF then
      { chars := s.chars.map (Char.ofNat (0x10000 + (h - 0xD800) * 0x400 + (n - 0xDC00)) :: ·) }
    else { chars := none }

/-- The text of a string that has ended. -/
def text? (s : Spelled) : Option String :=
  match s.high with
  | none => s.chars.map fun cs => String.ofList cs.reverse
  | some _ => none

end Spelled

/-- What the scanner is inside of; the characters of a word and the digits of an escape are those read so far, those of a word
newest first. -/
inductive Mode where
  | between
  | word (cs : List Char)
  | text (s : Spelled)
  | escape (s : Spelled)
  | code (s : Spelled) (digits : List Char)
  deriving Repr

/-- The tokens read so far, newest first, and what the scanner is inside of. -/
structure Scan where
  tokens : List Token := []
  mode : Mode := .between
  deriving Repr

/-- The blanks of a document. -/
def isBlank (c : Char) : Bool := c = ' ' || c = '\n' || c = '\t' || c = '\r'

/-- The bracket or separator a character is. -/
def Token.ofPunctuation? (c : Char) : Option Token :=
  if c = '[' then some .openArray
  else if c = ']' then some .closeArray
  else if c = '{' then some .openObject
  else if c = '}' then some .closeObject
  else if c = ',' then some .comma
  else if c = ':' then some .colon
  else none

/-- The token a word is: one of the three names, or a number, however large. -/
def Token.ofWord? (cs : List Char) : Option Token :=
  if cs = ['n', 'u', 'l', 'l'] then some .null
  else if cs = ['t', 'r', 'u', 'e'] then some (.bool true)
  else if cs = ['f', 'a', 'l', 's', 'e'] then some (.bool false)
  else (Numeral.ofText? cs).map fun n => .number n.value?

/-- The character a one-letter escape stands for. -/
def escaped? (c : Char) : Option Char :=
  if c = '"' ∨ c = '\\' ∨ c = '/' then some c
  else if c = 'b' then some '\x08'
  else if c = 'f' then some '\x0c'
  else if c = 'n' then some '\n'
  else if c = 'r' then some '\r'
  else if c = 't' then some '\t'
  else none

/-- Ends the word being read, if any. -/
def Scan.settle (s : Scan) : Option Scan :=
  match s.mode with
  | .between => some s
  | .word cs => (Token.ofWord? cs.reverse).map fun t => ⟨t :: s.tokens, .between⟩
  | _ => none

/-- Reads a character that stands outside of strings. -/
def Scan.outside (s : Scan) (c : Char) : Option Scan :=
  if c = '"' then s.settle.map fun s => ⟨s.tokens, .text {}⟩
  else if isBlank c then s.settle
  else match Token.ofPunctuation? c with
    | some t => s.settle.map fun s => ⟨t :: s.tokens, .between⟩
    | none => match s.mode with
      | .word cs => some ⟨s.tokens, .word (c :: cs)⟩
      | _ => some ⟨s.tokens, .word [c]⟩

/-- Reads one character. -/
def Scan.step (s : Scan) (c : Char) : Option Scan :=
  match s.mode with
  | .between => s.outside c
  | .word _ => s.outside c
  | .text t =>
    if c = '"' then some ⟨.string t.text? :: s.tokens, .between⟩
    else if c = '\\' then some ⟨s.tokens, .escape t⟩
    else if c < ' ' then none
    else some ⟨s.tokens, .text (t.char c)⟩
  | .escape t =>
    if c = 'u' then some ⟨s.tokens, .code t []⟩
    else (escaped? c).map fun e => ⟨s.tokens, .text (t.char e)⟩
  | .code t digits =>
    let digits := digits ++ [c]
    if digits.length < 4 then
      if (Decimal.digitValue? 16 c).isSome then some ⟨s.tokens, .code t digits⟩ else none
    else (Decimal.natural? 16 digits).map fun n => ⟨s.tokens, .text (t.code n)⟩

/-- The tokens of a document. -/
def tokens? (cs : List Char) : Option (List Token) :=
  ((cs.foldlM Scan.step {}).bind Scan.settle).map fun s => s.tokens.reverse

end CoEdit.Json
