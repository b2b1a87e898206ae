import CoEdit.Plugin.Autosave
import CoEdit.Proofs.Json.WholeNumbers
import CoEdit.Proofs.Plugin.Overriding
import Mathlib.Algebra.Group.Int.Defs

/-!
# Parameters that are whole numbers

A whole number is given to a parameter as a number of a JSON document or as a text, with blanks around its digits (`Tree.Writes`). There
are two kinds of parameters that take it, with a sign and without one. Each takes exactly the whole numbers between its limits, and all
writings of one number alike (`WholeKind.convert?_writes`). A number that is a double is taken by neither, and so none that has a fraction
or an exponent is.
-/

namespace CoEdit

open Decimal

/-! ## Blanks around a text -/

namespace Text

/-- Blanks around a text without blanks are trimmed. -/
theorem trim_surrounded {before cs after : List Char} (hb : ∀ c ∈ before, isBlank c = true) (ha : ∀ c ∈ after, isBlank c = true)
    (hne : cs ≠ []) (hcs : ∀ c ∈ cs, isBlank c = false) : trim (before ++ cs ++ after) = cs := by
  obtain ⟨c, rest, rfl⟩ := List.exists_cons_of_ne_nil hne
  have hfront : (before ++ (c :: rest) ++ after).dropWhile isBlank = c :: rest ++ after := by
    rw [List.append_assoc, List.dropWhile_append_of_pos hb, List.cons_append, List.dropWhile_cons_of_neg]
    simp [hcs c List.mem_cons_self]
  have hback : ∀ x ∈ after.reverse, isBlank x = true := fun x hx => ha x (List.mem_reverse.1 hx)
  have htrimmed : trim (c :: rest) = c :: rest := trim_eq_self (fun x hx => hcs x (List.mem_of_mem_head? hx))
    fun x hx => hcs x (List.mem_of_mem_getLast? hx)
  rw [trim, hfront, List.reverse_append, List.dropWhile_append_of_pos hback]
  rwa [trim, List.dropWhile_cons_of_neg (by simp [hcs c List.mem_cons_self])] at htrimmed

end Text

/-! ## Texts of whole numbers -/

namespace Decimal

/-- The text of a whole number has no blanks. -/
theorem not_isBlank_of_mem_written {z : Int} {c : Char} (hc : c ∈ written z) : Text.isBlank c = false := by
  have hall : ∀ d < 10, Text.isBlank (Nat.digitChar d) = false := by decide
  rcases mem_written hc with rfl | hc
  · rfl
  · obtain ⟨hlt, hchar⟩ := digitChar_of_isDigit hc
    rw [← hchar]
    exact hall _ hlt

end Decimal

/-- A tree gives a whole number: as a number of a JSON document, as one of another tree, or as a text with blanks around its digits. -/
inductive Tree.Writes (z : Int) : Tree → Prop
  | number {n : Number} (h : Json.number? (written z) = some n) : Tree.Writes z (.number n)
  | value : Tree.Writes z (.ofInt z)
  | text {before after : List Char} (hb : ∀ c ∈ before, Text.isBlank c = true) (ha : ∀ c ∈ after, Text.isBlank c = true) :
      Tree.Writes z (.string (String.ofList (before ++ written z ++ after)))

/-! ## The two kinds -/

/-- The kinds of whole numbers that parameters have. -/
inductive WholeKind where
  | signed
  | unsigned
  deriving DecidableEq, Repr

namespace WholeKind

/-- The kind of a parameter that takes such whole numbers. -/
def kind : WholeKind → ParameterKind
  | .signed => .int
  | .unsigned => .uint

/-- Whether a whole number lies between the limits of the kind. -/
def Fits : WholeKind → Int → Prop
  | .signed, z => -2 ^ 63 ≤ z ∧ z < 2 ^ 63
  | .unsigned, z => 0 ≤ z ∧ z < 2 ^ 64

instance : (k : WholeKind) → (z : Int) → Decidable (k.Fits z)
  | .signed, z => inferInstanceAs (Decidable (-2 ^ 63 ≤ z ∧ z < 2 ^ 63))
  | .unsigned, z => inferInstanceAs (Decidable (0 ≤ z ∧ z < 2 ^ 64))

/-- The whole number as a value of the kind. -/
def value : WholeKind → Int → ParameterValue
  | .signed, z => .int z
  | .unsigned, z => .uint z.toNat

variable {k : WholeKind} {z : Int} {t : Tree} {v : ParameterValue}

/-- A whole number that lies between the limits of either kind fits sixty-four bits. -/
theorem Fits.word (h : k.Fits z) : -0x8000000000000000 ≤ z ∧ z < 0x10000000000000000 := by
  cases k with
  | signed => exact ⟨h.1, by have := h.2; omega⟩
  | unsigned => exact ⟨by have := h.1; omega, h.2⟩

theorem convert?_integer (k : WholeKind) (z : Int) :
    k.kind.convert? (.number (.integer z)) = if k.Fits z then some (k.value z) else none := by
  cases k with
  | signed =>
    have hfits : ParameterKind.fitsSigned z = decide (Fits .signed z) := (Bool.decide_and _ _).symm
    rw [kind, ParameterKind.convert?, ParameterKind.whole?, Option.filter_some, hfits]
    split <;> simp_all [value]
  | unsigned =>
    have hfits : ParameterKind.fitsUnsigned z = decide (Fits .unsigned z) := (Bool.decide_and _ _).symm
    rw [kind, ParameterKind.convert?, ParameterKind.whole?, Option.filter_some, hfits]
    split <;> simp_all [value]

theorem convert?_double (k : WholeKind) (d : Double) : k.kind.convert? (.number (.double d)) = none := by
  cases k <;> rfl

/-- A number is taken if it is whole and lies between the limits. -/
theorem convert?_eq_some {n : Number} : k.kind.convert? (.number n) = some v ↔ ∃ z, n = .integer z ∧ k.Fits z ∧ v = k.value z := by
  cases n with
  | integer z =>
    rw [convert?_integer]
    by_cases hz : k.Fits z <;> simp [hz, eq_comm]
  | double d => simp [convert?_double]

/-- A number that is whole is kept as one if it lies between the limits of either kind. -/
theorem Fits.ofInt (h : k.Fits z) : Number.ofInt z = .integer z := by
  obtain ⟨hlow, hhigh⟩ := h.word
  rw [Number.ofInt, Number.lowerBound, Number.upperBound, if_pos ⟨hlow, hhigh⟩]

/-- What is taken of a number that stands for a whole number, if it is that number or a double. -/
theorem convert?_of_number {n : Number} (hsame : ∀ w, n = .integer w → w = z) (hword : k.Fits z → n = .integer z) :
    k.kind.convert? (.number n) = if k.Fits z then some (k.value z) else none := by
  split
  · rename_i hz
    rw [hword hz, convert?_integer, if_pos hz]
  · rename_i hz
    cases n with
    | integer w =>
      obtain rfl := hsame w rfl
      rw [convert?_integer, if_neg hz]
    | double d => exact convert?_double k d

/-- A text is taken if the whole number it writes lies between the limits. -/
theorem convert?_text (k : WholeKind) {before after : List Char} (hb : ∀ c ∈ before, Text.isBlank c = true)
    (ha : ∀ c ∈ after, Text.isBlank c = true) :
    k.kind.convert? (.string (String.ofList (before ++ written z ++ after))) = if k.Fits z then some (k.value z) else none := by
  have htrimmed : ParameterKind.trimmed (String.ofList (before ++ written z ++ after)) = written z := by
    rw [ParameterKind.trimmed, String.toList_ofList]
    exact Text.trim_surrounded hb ha (written_ne_nil z) fun c hc => not_isBlank_of_mem_written hc
  cases k with
  | signed =>
    have hread : signed? 10 (-0x8000000000000000) 0x8000000000000000 (written z) = if Fits .signed z then some z else none :=
      signed?_written _ _ z
    rw [kind, ParameterKind.convert?, htrimmed, hread]
    split <;> rfl
  | unsigned =>
    have hread : unsigned? 10 0x10000000000000000 (written z) = if Fits .unsigned z then some z.toNat else none :=
      unsigned?_written _ z
    rw [kind, ParameterKind.convert?, htrimmed, hread]
    split <;> rfl

/-- Whichever way a whole number is given, it is taken if it lies between the limits, and the value is the number itself. -/
theorem convert?_writes (k : WholeKind) (h : t.Writes z) : k.kind.convert? t = if k.Fits z then some (k.value z) else none := by
  cases h with
  | number h =>
    refine convert?_of_number (fun w hw => ?_) fun hz => ?_
    · rw [hw] at h
      exact (written_injective (Json.number?_eq_integer.1 h).1).symm
    · exact Option.some.inj (h.symm.trans (Json.number?_eq_integer.2 ⟨rfl, hz.word⟩))
  | value =>
    refine convert?_of_number (fun w hw => ?_) Fits.ofInt
    unfold Number.ofInt at hw
    split at hw
    · cases hw
      rfl
    · cases hw
  | text hb ha => exact convert?_text k hb ha

/-- Of the numbers of JSON documents, those are taken that are written as whole numbers between the limits are. -/
theorem convert?_json (k : WholeKind) {cs : List Char} {n : Number} (hn : Json.number? cs = some n) :
    k.kind.convert? (.number n) = some v ↔ ∃ z, cs = written z ∧ k.Fits z ∧ v = k.value z := by
  rw [convert?_eq_some]
  constructor
  · rintro ⟨z, rfl, hz⟩
    exact ⟨z, (Json.number?_eq_integer.1 hn).1, hz⟩
  · rintro ⟨z, rfl, hz, hv⟩
    have hread := Json.number?_eq_integer.2 ⟨rfl, hz.word⟩
    exact ⟨z, Option.some.inj (hn.symm.trans hread), hz, hv⟩

/-- A number with a fraction or an exponent is not taken. -/
theorem convert?_of_fraction (k : WholeKind) {cs : List Char} {n : Number} (hn : Json.number? cs = some n)
    (hcs : '.' ∈ cs ∨ 'e' ∈ cs ∨ 'E' ∈ cs) : k.kind.convert? (.number n) = none := by
  rw [Option.eq_none_iff_forall_ne_some]
  intro v hv
  obtain ⟨z, rfl, -⟩ := (convert?_json k hn).1 hv
  rcases hcs with h | h | h <;> rcases mem_written h with h | h <;> cases h

end WholeKind

namespace PluginParameters

variable {specs : List ParameterSpec} {s : ParameterSpec} {key : String} {k : WholeKind}

/-- What is read of an entry whose parameter was not given before. -/
theorem readEntry_of_new (hs : spec? specs key = some s) {ps : PluginParameters} (hnew : ps.contains key = false) (t : Tree) :
    readEntry specs ps (key, t) = match s.kind.convert? t with
      | some v => .ok (Table.insert (canonicalName key) v ps)
      | none => .error (.parameter s.name (.wrongKind s.kind)) := by
  have hnew : Table.contains (canonicalName key) ps = false := hnew
  unfold readEntry
  dsimp only
  rw [hs]
  dsimp only
  cases s.kind.convert? t with
  | none => rfl
  | some v => exact if_neg (by rw [hnew]; exact Bool.false_ne_true)

/-- A table that is accepted gives each parameter the value that its tree converts to. -/
theorem convert?_of_parse {raw : ParameterTable} {ps : PluginParameters} {t : Tree} (hs : spec? specs key = some s)
    (h : parse specs raw = .ok ps) (ht : (key, t) ∈ raw) : ∃ v, s.kind.convert? t = some v ∧ ps.get? key = some v := by
  obtain ⟨hr, -, hget⟩ := parse_eq_ok h
  obtain ⟨v, hv⟩ := Option.isSome_iff_exists.1 (hr.values _ ht)
  have hconvert : s.kind.convert? t = some v := by
    rwa [value?, hs, Option.bind_some] at hv
  exact ⟨v, hconvert, (hget key).trans (hr.given?_eq_some.2 ⟨_, ht, rfl, hv⟩)⟩

/-- A parameter of a kind of whole numbers takes a whole number, however it is given and whatever else is given, if it lies between the
limits of the kind, and then has it as its value; otherwise it is refused. A number with a fraction or an exponent is always refused.
(The numbers of JSON documents that are whole and fit sixty-four bits, with or without a sign, are kept as they are. The other ones are
doubles.) -/
theorem whole_by_limits (hs : spec? specs key = some s) (hk : s.kind = k.kind) :
    (∀ z t, t.Writes z → ∀ ps : PluginParameters, ps.contains key = false →
      readEntry specs ps (key, t) =
        if k.Fits z then .ok (Table.insert (canonicalName key) (k.value z) ps) else .error (.parameter s.name (.wrongKind s.kind))) ∧
    (∀ z t, t.Writes z → ∀ raw ps, parse specs raw = .ok ps → (key, t) ∈ raw → k.Fits z ∧ ps.get? key = some (k.value z)) ∧
    (∀ cs n, Json.number? cs = some n → '.' ∈ cs ∨ 'e' ∈ cs ∨ 'E' ∈ cs → ∀ ps : PluginParameters, ps.contains key = false →
      readEntry specs ps (key, .number n) = .error (.parameter s.name (.wrongKind s.kind))) ∧
    ∀ z, (-2 ^ 63 ≤ z ∧ z < 2 ^ 64 → Json.number? (written z) = some (.integer z)) ∧
      (¬(-2 ^ 63 ≤ z ∧ z < 2 ^ 64) → ∀ n, Json.number? (written z) = some n → ∃ d, n = .double d) := by
  refine ⟨fun z t ht ps hnew => ?_, fun z t ht raw ps hp hmem => ?_, fun cs n hn hcs ps hnew => ?_,
    fun z => ⟨fun hz => ?_, fun hz n hn => ?_⟩⟩
  · rw [readEntry_of_new hs hnew, hk, k.convert?_writes ht]
    by_cases hz : k.Fits z
    · rw [if_pos hz, if_pos hz]
    · rw [if_neg hz, if_neg hz]
  · obtain ⟨v, hv, hget⟩ := convert?_of_parse hs hp hmem
    rw [hk, k.convert?_writes ht] at hv
    split at hv
    · rename_i hz
      cases hv
      exact ⟨hz, hget⟩
    · cases hv
  · rw [readEntry_of_new hs hnew, hk, k.convert?_of_fraction hn hcs]
  · exact Json.number?_eq_integer.2 ⟨rfl, hz⟩
  · cases n with
    | integer w =>
      obtain ⟨hw, hfits⟩ := Json.number?_eq_integer.1 hn
      exact absurd (written_injective hw ▸ hfits) hz
    | double d => exact ⟨d, rfl⟩

/-- The largest number of seconds that fits is taken as an interval, as text, and the next one is not, as a number. A thousand is not if it
has an exponent. -/
theorem whole_by_limits_interval :
    readEntry Autosave.parameters [] ("interval", .string "\t18446744073709551615 ") =
      .ok [("interval", .uint 18446744073709551615)] ∧
    (∃ n, Json.number? "18446744073709551616".toList = some n ∧
      readEntry Autosave.parameters [] ("interval", .number n) = .error (.parameter "interval" (.wrongKind .uint))) ∧
    ∃ n, Json.number? ['1', 'e', '3'] = some n ∧
      readEntry Autosave.parameters [] ("interval", .number n) = .error (.parameter "interval" (.wrongKind .uint)) := by
  obtain ⟨hwritten, -, hfraction, -⟩ := @whole_by_limits Autosave.parameters _ "interval" .unsigned rfl rfl
  have hlargest : Tree.Writes (2 ^ 64 - 1) (.string "\t18446744073709551615 ") :=
    @Tree.Writes.text _ ['\t'] [' '] (List.forall_mem_singleton.2 rfl) (List.forall_mem_singleton.2 rfl)
  obtain ⟨n, hn⟩ : ∃ n, Json.number? (written (2 ^ 64)) = some n := ⟨_, rfl⟩
  obtain ⟨m, hm⟩ : ∃ m, Json.number? ['1', 'e', '3'] = some m := ⟨_, rfl⟩
  refine ⟨hwritten _ _ hlargest [] rfl, ⟨n, hn, ?_⟩, m, hm, hfraction _ _ hm (by decide) [] rfl⟩
  exact hwritten _ _ (.number hn) [] rfl

end PluginParameters
end CoEdit
