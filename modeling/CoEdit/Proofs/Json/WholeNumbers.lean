import CoEdit.Json.Number
import CoEdit.Proofs.Number.Digits
import Mathlib.Data.List.TakeWhile

/-!
# Whole numbers of JSON documents

A number of a JSON document is a whole number exactly if it is written as one that fits sixty-four bits, with or without a sign, is
written (`Json.number?_eq_integer`). Every other number that is read is a double: one with a fraction or an exponent, a whole number that
does not fit, and minus zero.
-/

namespace CoEdit.Json

open Decimal

variable {negative : Bool} {cs rest : List Char} {word taken n : Nat} {z : Int}

/-! ## Digits that are gathered -/

/-- A digit more makes a number larger. -/
theorem le_of_digitsFrom {m : Nat} (h : digitsFrom 10 n cs = some m) : n ≤ m := by
  induction cs generalizing n with
  | nil =>
    cases h
    exact Nat.le_refl _
  | cons c rest ih =>
    obtain ⟨v, -, hrest⟩ := Option.bind_eq_some_iff.1 h
    have hle := ih hrest
    omega

/-- What is gathered fits a word. -/
theorem gather_lt (hword : word < 0x10000000000000000) (taken : Nat) (cs : List Char) :
    (gather word taken cs).1 < 0x10000000000000000 := by
  induction cs generalizing word taken with
  | nil => exact hword
  | cons c rest ih =>
    rw [gather]
    split
    · rename_i hnext
      exact ih hnext _
    · exact hword

/-- All digits are gathered into a word if the number that they write fits it, and the word is that number. -/
theorem gather_eq (hword : word < 0x10000000000000000) (hcs : ∀ c ∈ cs, c.isDigit = true) :
    (∃ t, gather word taken cs = (n, t, 0)) ↔ digitsFrom 10 word cs = some n ∧ n < 0x10000000000000000 := by
  induction cs generalizing word taken with
  | nil =>
    constructor
    · rintro ⟨t, h⟩
      cases h
      exact ⟨rfl, hword⟩
    · rintro ⟨h, -⟩
      cases h
      exact ⟨taken, rfl⟩
  | cons c rest ih =>
    obtain ⟨hc, hrest⟩ := List.forall_mem_cons.1 hcs
    rw [gather, digitsFrom, digitValue?_of_isDigit hc, Option.bind_some]
    split
    · rename_i hnext
      exact ih hnext hrest
    · rename_i hnext
      refine iff_of_false ?_ ?_
      · rintro ⟨t, h⟩
        cases h
      · rintro ⟨h, hn⟩
        have hle := le_of_digitsFrom h
        omega

/-! ## Numbers that are whole -/

/-- A whole number without its sign fits sixty-four bits, and with a minus sign it is not zero. -/
def Fits (negative : Bool) (n : Nat) : Prop :=
  if negative then n ≠ 0 ∧ n ≤ 0x8000000000000000 else n < 0x10000000000000000

/-- A natural number with a sign. -/
def signed (negative : Bool) (n : Nat) : Int := if negative then -n else n

theorem Fits.lt (h : Fits negative n) : n < 0x10000000000000000 := by
  unfold Fits at h
  split at h <;> omega

namespace Numeral

/-- A text is written as a number without a tail if it is digits without a superfluous zero in front. -/
theorem ofUnsigned?_tail_none {x : Numeral} : ofUnsigned? negative cs = some x ∧ x.tail = none ↔
    x = { negative, whole := cs } ∧ (∀ c ∈ cs, c.isDigit = true) ∧ cs ≠ [] ∧ (cs.head? = some '0' → cs = ['0']) := by
  constructor
  · rintro ⟨h, htail⟩
    unfold ofUnsigned? at h
    dsimp only at h
    split at h
    · cases h
    · rename_i hplain
      split at h
      · rename_i hrest
        have hcs := List.dropWhile_eq_nil_iff.1 hrest
        rw [List.takeWhile_eq_self_iff.2 hcs] at h hplain
        rw [not_or, not_and_not_right] at hplain
        exact ⟨(Option.some.inj h).symm, hcs, hplain⟩
      -- with a fraction or an exponent there is a tail
      · split at h
        · cases h
        · obtain ⟨e, -, rfl⟩ := Option.map_eq_some_iff.1 h
          cases htail
      · obtain ⟨e, -, rfl⟩ := Option.map_eq_some_iff.1 h
        cases htail
  · rintro ⟨rfl, hcs, hne, hzero⟩
    refine ⟨?_, rfl⟩
    unfold ofUnsigned?
    rw [List.takeWhile_eq_self_iff.2 hcs, List.dropWhile_eq_nil_iff.2 hcs]
    exact if_neg (by rw [not_or, not_and_not_right]; exact ⟨hne, hzero⟩)

/-- The value of a number is whole if it has no tail and its digits write a number that fits. -/
theorem value?_eq_integer {x : Numeral} : x.value? = some (.integer z) ↔
    x.tail = none ∧ ∃ n, (∃ t, gather 0 0 x.whole = (n, t, 0)) ∧ Fits x.negative n ∧ z = signed x.negative n := by
  have hdouble : ∀ d? : Option Double, d?.map Number.double ≠ some (.integer z) := by
    intro d? hd
    obtain ⟨d, -, hd⟩ := Option.map_eq_some_iff.1 hd
    cases hd
  unfold value?
  split
  · rename_i t htail
    rw [htail]
    exact iff_of_false (hdouble _) nofun
  · rename_i htail
    rw [and_iff_right htail]
    split
    -- all digits were gathered: only the sign is left to look at
    · rename_i word taken hgather
      have hlt : word < 0x10000000000000000 := by
        have hfst : (gather 0 0 x.whole).1 < 0x10000000000000000 := gather_lt (by decide) 0 x.whole
        rwa [hgather] at hfst
      simp only [hgather, Prod.mk.injEq, exists_and_left, exists_eq_left', and_true, exists_eq']
      cases hn : x.negative with
      | false => simp [Fits, signed, hlt, eq_comm]
      | true =>
        have hfits : Fits true word ↔ ¬(word = 0 ∨ 0x8000000000000000 < word) := by
          rw [not_or, Nat.not_lt]
          exact Iff.rfl
        rw [hfits, if_neg (by simp)]
        split
        · simp [*]
        · simp [*, signed, eq_comm]
    -- digits were dropped: the number does not fit, and is a double
    · rename_i hdropped
      refine iff_of_false (hdouble _) ?_
      rintro ⟨n, ⟨t, ht⟩, -⟩
      exact hdropped _ _ ht

/-- A number without a sign is a whole number if it is written with the digits of one that fits. -/
theorem ofUnsigned?_eq_integer : (ofUnsigned? negative cs).bind value? = some (.integer z) ↔
    ∃ n, cs = Nat.toDigits 10 n ∧ Fits negative n ∧ z = signed negative n := by
  rw [Option.bind_eq_some_iff]
  constructor
  · rintro ⟨x, hx, hvalue⟩
    obtain ⟨htail, n, hgather, hfits⟩ := value?_eq_integer.1 hvalue
    obtain ⟨rfl, hcs, hne, hzero⟩ := ofUnsigned?_tail_none.1 ⟨hx, htail⟩
    obtain ⟨hn, -⟩ := (gather_eq (by decide) hcs).1 hgather
    exact ⟨n, eq_toDigits_of_digitsFrom hcs hne hzero hn, hfits⟩
  · rintro ⟨n, rfl, hfits⟩
    have hcs : ∀ c ∈ Nat.toDigits 10 n, c.isDigit = true := fun c hc => Nat.isDigit_of_mem_toDigits (by decide) (by decide) hc
    have hzero : (Nat.toDigits 10 n).head? = some '0' → Nat.toDigits 10 n = ['0'] := by
      intro hhead
      have hn : n = 0 := by
        by_contra hn
        exact head?_toDigits (by decide) hn hhead
      rw [hn]
      rfl
    refine ⟨_, (ofUnsigned?_tail_none.2 ⟨rfl, hcs, Nat.toDigits_ne_nil, hzero⟩).1, value?_eq_integer.2 ⟨rfl, n, ?_, hfits⟩⟩
    exact (gather_eq (by decide) hcs).2 ⟨digitsFrom_toDigits (by decide) (by decide) n, hfits.1.lt⟩

end Numeral

/-- The whole numbers that are read are those that fit sixty-four bits, with or without a sign, each from its digits. -/
theorem number?_eq_integer : number? cs = some (.integer z) ↔
    cs = Decimal.written z ∧ -0x8000000000000000 ≤ z ∧ z < 0x10000000000000000 := by
  constructor
  · intro h
    unfold number? Numeral.ofText? at h
    split at h
    · obtain ⟨n, rfl, hfits, rfl⟩ := Numeral.ofUnsigned?_eq_integer.1 h
      have hneg : signed true n = -n := rfl
      rw [hneg, written_neg hfits.1]
      exact ⟨rfl, by have := hfits.2; omega, by omega⟩
    · obtain ⟨n, rfl, hfits, rfl⟩ := Numeral.ofUnsigned?_eq_integer.1 h
      have hpos : signed false n = n := rfl
      rw [hpos, written_natCast]
      exact ⟨rfl, by omega, by have := hfits.lt; omega⟩
  · rintro ⟨rfl, hlow, hhigh⟩
    rcases exists_nat_or_neg z with ⟨n, rfl⟩ | ⟨n, hn, rfl⟩
    · obtain ⟨c, rest, hd, hc⟩ := exists_toDigits_eq_cons n
      have hread : (Numeral.ofUnsigned? false (Nat.toDigits 10 n)).bind Numeral.value? = some (.integer n) :=
        Numeral.ofUnsigned?_eq_integer.2 ⟨n, rfl, show n < 0x10000000000000000 by omega, rfl⟩
      rw [written_natCast]
      rw [hd] at hread ⊢
      unfold number? Numeral.ofText?
      split
      · rename_i heq
        exact absurd (List.cons.inj heq).1 (ne_of_isDigit hc rfl)
      · exact hread
    · rw [written_neg hn]
      exact Numeral.ofUnsigned?_eq_integer.2 ⟨n, rfl, ⟨hn, by omega⟩, rfl⟩

end CoEdit.Json
