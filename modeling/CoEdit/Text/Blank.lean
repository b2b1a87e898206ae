/-!
# Blanks

The blanks of a text are the characters with the Unicode property White_Space, and trimming a text takes them off its ends.
-/

namespace CoEdit.Text

/-- The code points with the property White_Space above the ASCII range. -/
def wideBlanks : List Nat :=
  [0x85, 0xA0, 0x1680, 0x2000, 0x2001, 0x2002, 0x2003, 0x2004, 0x2005, 0x2006, 0x2007, 0x2008, 0x2009, 0x200A, 0x2028, 0x2029,
    0x202F, 0x205F, 0x3000]

/-- Whether a character is a blank. -/
def isBlank (c : Char) : Bool := c = ' ' || ('\t' ≤ c && c ≤ '\r') || wideBlanks.contains c.toNat

/-- A text without the blanks at its ends. -/
def trim (cs : List Char) : List Char := ((cs.dropWhile isBlank).reverse.dropWhile isBlank).reverse

/-- Trimming a text that neither begins nor ends with a blank leaves it as it is. -/
theorem trim_eq_self {cs : List Char} (hd : ∀ c ∈ cs.head?, isBlank c = false) (lt : ∀ c ∈ cs.getLast?, isBlank c = false) :
    trim cs = cs := by
  have h1 : cs.dropWhile isBlank = cs := by
    cases cs with
    | nil => rfl
    | cons c rest => simp [hd c (by simp)]
  have h2 : cs.reverse.dropWhile isBlank = cs.reverse := by
    cases hr : cs.reverse with
    | nil => rfl
    | cons c rest =>
      have : c ∈ cs.getLast? := by rw [List.getLast?_eq_head?_reverse, hr]; simp
      simp [lt c this]
  simp [trim, h1, h2]

end CoEdit.Text
