import CoEdit.Text.Printable
import CoEdit.Text.Extending

/-!
# Quoted text

Text between double quotes in which every character can be seen: quotes and backslashes are escaped, line ends and tabs have
their letters, and a character that is not printable, or that would be drawn onto the character before it, is written as its
code point. Names of files escape the single quote as well, which texts do not.
-/

namespace CoEdit.Text

/-- The digits of a number in base sixteen, in lower case, without leading zeros. -/
def hexDigits (n : Nat) : List Char := Nat.toDigits 16 n

/-- A character as its code point in base sixteen, between braces. -/
def codePointEscape (c : Char) : List Char := ['\\', 'u', '\x7b'] ++ hexDigits c.toNat ++ ['\x7d']

/-- A character of a quoted text; `single` says whether a single quote is escaped. -/
def quotedChar (single : Bool) (c : Char) : List Char :=
  if c = '\x00' then ['\\', '0']
  else if c = '\t' then ['\\', 't']
  else if c = '\r' then ['\\', 'r']
  else if c = '\n' then ['\\', 'n']
  else if c = '\\' then ['\\', '\\']
  else if c = '"' then ['\\', '"']
  else if c = '\'' then (if single then ['\\', '\''] else ['\''])
  else if isExtending c then codePointEscape c
  else if isPrintable c then [c]
  else codePointEscape c

/-- A text between double quotes. -/
def quoted (s : String) : String := String.ofList (['"'] ++ s.toList.flatMap (quotedChar false) ++ ['"'])

/-- The name of a file between double quotes. -/
def quotedFileName (s : String) : String := String.ofList (['"'] ++ s.toList.flatMap (quotedChar true) ++ ['"'])

end CoEdit.Text
