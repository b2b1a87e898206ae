import CoEdit.Tree

/-!
# Writing JSON documents

Strings escape quotes, backslashes and control characters and nothing else. A document is written on one line, or spread over
lines with two blanks for each level.
-/

namespace CoEdit.Json

/-- One digit in base sixteen. -/
def hexDigit (n : Nat) : Char := (Nat.digitChar n)

/-- A character of a string. -/
def writtenChar (c : Char) : List Char :=
  if c = '"' then ['\\', '"']
  else if c = '\\' then ['\\', '\\']
  else if c = '\x08' then ['\\', 'b']
  else if c = '\x0c' then ['\\', 'f']
  else if c = '\n' then ['\\', 'n']
  else if c = '\r' then ['\\', 'r']
  else if c = '\t' then ['\\', 't']
  else if c < ' ' then ['\\', 'u', '0', '0', hexDigit (c.toNat / 16), hexDigit (c.toNat % 16)]
  else [c]

/-- A string between quotes. -/
def writtenString (s : String) : List Char := ['"'] ++ s.toList.flatMap writtenChar ++ ['"']

mutual

/-- A tree on one line. -/
def written : Tree → List Char
  | .null => ['n', 'u', 'l', 'l']
  | .bool true => ['t', 'r', 'u', 'e']
  | .bool false => ['f', 'a', 'l', 's', 'e']
  | .number n => n.text.toList
  | .string s => writtenString s
  | .array items => ['['] ++ writtenItems items ++ [']']
  | .object es => ['\x7b'] ++ writtenEntries es ++ ['\x7d']

/-- The items of a list, with commas between them. -/
def writtenItems : List Tree → List Char
  | [] => []
  | [t] => written t
  | t :: rest => written t ++ [','] ++ writtenItems rest

/-- The entries of a table, with commas between them. -/
def writtenEntries : List (String × Tree) → List Char
  | [] => []
  | [(k, t)] => writtenString k ++ [':'] ++ written t
  | (k, t) :: rest => writtenString k ++ [':'] ++ written t ++ [','] ++ writtenEntries rest

end

/-- A new line, and the blanks of a level. -/
def newLine (level : Nat) : List Char := '\n' :: List.replicate (2 * level) ' '

mutual

/-- A tree spread over lines. -/
def spread (level : Nat) : Tree → List Char
  | .null => ['n', 'u', 'l', 'l']
  | .bool true => ['t', 'r', 'u', 'e']
  | .bool false => ['f', 'a', 'l', 's', 'e']
  | .number n => n.text.toList
  | .string s => writtenString s
  | .array [] => ['[', ']']
  | .array (t :: rest) => ['['] ++ newLine (level + 1) ++ spread (level + 1) t ++ spreadItems level rest ++ newLine level ++ [']']
  | .object [] => ['\x7b', '\x7d']
  | .object ((k, t) :: rest) =>
    ['\x7b'] ++ newLine (level + 1) ++ writtenString k ++ [':', ' '] ++ spread (level + 1) t ++ spreadEntries level rest ++
      newLine level ++ ['\x7d']

/-- The items after the first, each after a comma on a line of its own. -/
def spreadItems (level : Nat) : List Tree → List Char
  | [] => []
  | t :: rest => [','] ++ newLine (level + 1) ++ spread (level + 1) t ++ spreadItems level rest

/-- The entries after the first, each after a comma on a line of its own. -/
def spreadEntries (level : Nat) : List (String × Tree) → List Char
  | [] => []
  | (k, t) :: rest =>
    [','] ++ newLine (level + 1) ++ writtenString k ++ [':', ' '] ++ spread (level + 1) t ++ spreadEntries level rest

end

end CoEdit.Json

namespace CoEdit

/-- The document of a tree, on one line. -/
def Tree.toJson (t : Tree) : String := String.ofList (Json.written t)

/-- The document of a tree, spread over lines. -/
def Tree.toSpreadJson (t : Tree) : String := String.ofList (Json.spread 0 t)

end CoEdit
