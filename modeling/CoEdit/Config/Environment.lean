import CoEdit.Config.Error

/-!
# Placeholders for variables of the environment

A placeholder is a dollar sign and, between braces, a name and possibly a default after the sign `:-`. A default is any text
without a closing brace. A text is divided into placeholders and other characters from left to right (`Placeholder.pieces`), and
expanding it replaces each placeholder by its variable or its default. What is put in is not looked at again.
-/

namespace CoEdit

/-- Variables and their values. -/
abbrev Environment := Table String String

/-- A part of a text with placeholders. -/
inductive TextPiece where
  | literal (c : Char)
  | placeholder (name : List Char) (fallback : Option (List Char))
  deriving DecidableEq, Repr

namespace Placeholder

/-- Whether a name can begin with a character. -/
def isNameStart (c : Char) : Bool := ('A' ≤ c && c ≤ 'Z') || ('a' ≤ c && c ≤ 'z') || c = '_'

/-- Whether a name can go on with a character. -/
def isNameChar (c : Char) : Bool := isNameStart c || ('0' ≤ c && c ≤ '9')

/-- Whether a character is other than a closing brace. -/
def isDefaultChar (c : Char) : Bool := c ≠ '\x7d'

/-- Reads the rest of a placeholder after its name. -/
def ending? (name : List Char) : List Char → Option (TextPiece × List Char)
  | '\x7d' :: rest => some (.placeholder name none, rest)
  | ':' :: '-' :: rest => match rest.dropWhile isDefaultChar with
    | _ :: after => some (.placeholder name (some (rest.takeWhile isDefaultChar)), after)
    | [] => none
  | _ => none

/-- Reads a placeholder at the beginning of a text. -/
def read? : List Char → Option (TextPiece × List Char)
  | '$' :: '\x7b' :: c :: rest =>
    if isNameStart c then ending? (c :: rest.takeWhile isNameChar) (rest.dropWhile isNameChar) else none
  | _ => none

/-- What follows a placeholder is shorter than the text it was read from. -/
theorem ending?_length {name cs rest : List Char} {p : TextPiece} (h : ending? name cs = some (p, rest)) :
    rest.length < cs.length := by
  unfold ending? at h
  split at h
  · cases h; simp
  · next after =>
    split at h
    · next x after' hd =>
      cases h
      have := (List.dropWhile_suffix (l := after) isDefaultChar).length_le
      rw [hd] at this
      simp only [List.length_cons] at this ⊢
      omega
    · cases h
  · cases h

/-- What follows a placeholder is shorter than the text it was read from. -/
theorem read?_length {cs rest : List Char} {p : TextPiece} (h : read? cs = some (p, rest)) : rest.length < cs.length := by
  unfold read? at h
  split at h
  · next c after =>
    split at h
    · have h1 := ending?_length h
      have h2 := (List.dropWhile_suffix (l := after) isNameChar).length_le
      simp only [List.length_cons]
      omega
    · cases h
  · cases h

/-- The pieces of a text, from left to right. -/
def pieces (cs : List Char) : List TextPiece :=
  match cs with
  | [] => []
  | c :: rest =>
    match _h : read? (c :: rest) with
    | some (p, after) => p :: pieces after
    | none => .literal c :: pieces rest
  termination_by cs.length
  decreasing_by
    · exact read?_length ‹_›
    · simp

/-- What a piece becomes. -/
def expandPiece (env : Environment) : TextPiece → Except ConfigError (List Char)
  | .literal c => .ok [c]
  | .placeholder name fallback =>
    match Table.get? (String.ofList name) env, fallback with
    | some value, _ => .ok value.toList
    | none, some text => .ok text
    | none, none => .error (.unsetVariable (String.ofList name))

end Placeholder

/-- The text in which every placeholder is replaced; the first variable that is missing without a default is the fault. -/
def Environment.expand (env : Environment) (text : String) : Except ConfigError String :=
  ((Placeholder.pieces text.toList).mapM (Placeholder.expandPiece env)).map fun parts => String.ofList parts.flatten

end CoEdit
