import CoEdit.Number.Decimal

/-!
# Digits of numbers

A number that is written in a base of at most sixteen is read back from its digits (`Decimal.natural?_toDigits`). The digits are those of
the base and nothing else, and only zero begins with one. In base ten, digits without a superfluous zero are those of the number they
write (`Decimal.eq_toDigits_of_digitsFrom`).

A whole number is written as its decimal digits, after a minus sign if it is negative (`Decimal.written`). Read with bounds, this gives the
number itself if it lies within them, and nothing otherwise (`Decimal.signed?_written`, `Decimal.unsigned?_written`).
-/

namespace CoEdit

namespace Decimal

variable {base n d : Nat} {cs rest : List Char} {c : Char}

theorem digitValue?_digitChar (hb : base ≤ 16) (hd : d < base) : digitValue? base d.digitChar = some d := by
  have hall : ∀ base ≤ 16, ∀ d < base, digitValue? base (Nat.digitChar d) = some d := by decide
  exact hall base hb d hd

theorem digitsFrom_append (n : Nat) (cs rest : List Char) :
    digitsFrom base n (cs ++ rest) = (digitsFrom base n cs).bind fun m => digitsFrom base m rest := by
  induction cs generalizing n with
  | nil => rfl
  | cons c cs ih =>
    rw [List.cons_append, digitsFrom, digitsFrom]
    cases digitValue? base c with
    | none => rfl
    | some v => exact ih _

theorem digitsFrom_toDigits (h1 : 1 < base) (hb : base ≤ 16) (n : Nat) : digitsFrom base 0 (Nat.toDigits base n) = some n := by
  induction n using Nat.strongRecOn with
  | ind n ih =>
    by_cases hn : n < base
    · rw [Nat.toDigits_of_lt_base hn, digitsFrom, digitValue?_digitChar hb hn, Option.bind_some, digitsFrom, Nat.zero_mul,
        Nat.zero_add]
    · have hle : base ≤ n := Nat.le_of_not_lt hn
      have hless : n / base < n := Nat.div_lt_self (by omega) h1
      rw [Nat.toDigits_of_base_le h1 hle, digitsFrom_append, ih _ hless, Option.bind_some, digitsFrom,
        digitValue?_digitChar hb (Nat.mod_lt _ (by omega)), Option.bind_some, digitsFrom, Nat.div_add_mod']

/-- A number is read back from its digits. -/
theorem natural?_toDigits (h1 : 1 < base) (hb : base ≤ 16) (n : Nat) : natural? base (Nat.toDigits base n) = some n := by
  have hread := digitsFrom_toDigits h1 hb n
  cases hd : Nat.toDigits base n with
  | nil => exact absurd hd Nat.toDigits_ne_nil
  | cons c cs =>
    rw [natural?, ← hd]
    · exact hread
    · simp

/-- All digits of a number are digits of its base. -/
theorem isSome_digitValue? (h1 : 1 < base) (hb : base ≤ 16) {n : Nat} :
    ∀ c ∈ Nat.toDigits base n, (digitValue? base c).isSome = true := by
  induction n using Nat.strongRecOn with
  | ind n ih =>
    by_cases hn : n < base
    · rw [Nat.toDigits_of_lt_base hn]
      rintro c hc
      rw [List.mem_singleton.1 hc, digitValue?_digitChar hb hn]
      rfl
    · have hle : base ≤ n := Nat.le_of_not_lt hn
      rw [Nat.toDigits_of_base_le h1 hle]
      intro c hc
      rcases List.mem_append.1 hc with hc | hc
      · exact ih _ (Nat.div_lt_self (by omega) h1) c hc
      · rw [List.mem_singleton.1 hc, digitValue?_digitChar hb (Nat.mod_lt _ (by omega))]
        rfl

/-- Only zero begins with the digit zero. -/
theorem head?_toDigits (h1 : 1 < base) {n : Nat} (hn : n ≠ 0) : (Nat.toDigits base n).head? ≠ some '0' := by
  induction n using Nat.strongRecOn with
  | ind n ih =>
    by_cases hlt : n < base
    · rw [Nat.toDigits_of_lt_base hlt, List.head?_cons, ne_eq, Option.some.injEq, Nat.digitChar_eq_zero]
      exact hn
    · have hle : base ≤ n := Nat.le_of_not_lt hlt
      have hpos : n / base ≠ 0 := by
        have := Nat.div_pos hle (by omega)
        omega
      have hhead : (Nat.toDigits base n).head? = (Nat.toDigits base (n / base)).head? := by
        rw [Nat.toDigits_of_base_le h1 hle, List.head?_append]
        cases hd : Nat.toDigits base (n / base) with
        | nil => exact absurd hd Nat.toDigits_ne_nil
        | cons c cs => rfl
      rw [hhead]
      exact ih _ (Nat.div_lt_self (by omega) h1) hpos

/-! ## Decimal digits -/

/-- A decimal digit is the digit of its value. -/
theorem digitChar_of_isDigit (hc : c.isDigit = true) :
    c.toNat - '0'.toNat < 10 ∧ Nat.digitChar (c.toNat - '0'.toNat) = c := by
  obtain ⟨hlow, hhigh⟩ := Char.isDigit_iff_toNat.1 hc
  have hzero : '0'.toNat = 48 := rfl
  have hnine : '9'.toNat = 57 := rfl
  have hlt : c.toNat - '0'.toNat < 10 := by omega
  refine ⟨hlt, Char.toNat_inj.1 ?_⟩
  rw [Nat.toNat_digitChar_of_lt_ten hlt]
  omega

/-- The value of a decimal digit. -/
theorem digitValue?_of_isDigit (hc : c.isDigit = true) : digitValue? 10 c = some (c.toNat - '0'.toNat) := by
  obtain ⟨hlt, hchar⟩ := digitChar_of_isDigit hc
  have hvalue : digitValue? 10 (Nat.digitChar _) = some _ := digitValue?_digitChar (by decide) hlt
  rwa [hchar] at hvalue

/-- Digits that follow those of a positive number are the last digits of the number that all of them write. -/
theorem toDigits_append_of_digitsFrom {m : Nat} (hn : 0 < n) (hcs : ∀ c ∈ cs, c.isDigit = true) (h : digitsFrom 10 n cs = some m) :
    Nat.toDigits 10 n ++ cs = Nat.toDigits 10 m := by
  induction cs generalizing n with
  | nil =>
    cases h
    exact List.append_nil _
  | cons c rest ih =>
    obtain ⟨hc, hrest⟩ := List.forall_mem_cons.1 hcs
    obtain ⟨hlt, hchar⟩ := digitChar_of_isDigit hc
    rw [digitsFrom, digitValue?_of_isDigit hc, Option.bind_some] at h
    have hone : Nat.toDigits 10 n ++ [c] = Nat.toDigits 10 (n * 10 + (c.toNat - '0'.toNat)) := by
      rw [Nat.mul_comm, ← Nat.toDigits_append_toDigits (by decide) hn hlt, Nat.toDigits_of_lt_base hlt, hchar]
    calc Nat.toDigits 10 n ++ c :: rest
        = (Nat.toDigits 10 n ++ [c]) ++ rest := by simp
      _ = Nat.toDigits 10 (n * 10 + (c.toNat - '0'.toNat)) ++ rest := by rw [hone]
      _ = Nat.toDigits 10 m := ih (by omega) hrest h

/-- Digits that do not begin with a superfluous zero are the digits of the number they write. -/
theorem eq_toDigits_of_digitsFrom {m : Nat} (hcs : ∀ c ∈ cs, c.isDigit = true) (hne : cs ≠ [])
    (hzero : cs.head? = some '0' → cs = ['0']) (h : digitsFrom 10 0 cs = some m) : cs = Nat.toDigits 10 m := by
  cases cs with
  | nil => exact absurd rfl hne
  | cons c rest =>
    obtain ⟨hc, hrest⟩ := List.forall_mem_cons.1 hcs
    obtain ⟨hlt, hchar⟩ := digitChar_of_isDigit hc
    rw [digitsFrom, digitValue?_of_isDigit hc, Option.bind_some, Nat.zero_mul, Nat.zero_add] at h
    by_cases hv : c.toNat - '0'.toNat = 0
    · rw [hv] at hchar
      obtain rfl : '0' = c := hchar
      obtain ⟨-, rfl⟩ := List.cons_eq_cons.1 (hzero rfl)
      cases h
      rfl
    · have happend := toDigits_append_of_digitsFrom (Nat.pos_of_ne_zero hv) hrest h
      rw [Nat.toDigits_of_lt_base hlt, hchar] at happend
      exact happend

/-! ## Whole numbers -/

/-- The decimal digits of a whole number, after a minus sign if it is negative. -/
def written (z : Int) : List Char := if z < 0 then '-' :: Nat.toDigits 10 z.natAbs else Nat.toDigits 10 z.natAbs

theorem written_natCast (n : Nat) : written n = Nat.toDigits 10 n := by
  rw [written, if_neg (by omega), Int.natAbs_natCast]

theorem written_neg (hn : n ≠ 0) : written (-n) = '-' :: Nat.toDigits 10 n := by
  rw [written, if_pos (by omega), Int.natAbs_neg, Int.natAbs_natCast]

/-- A whole number is a natural number, or a positive one with a minus sign. -/
theorem exists_nat_or_neg (z : Int) : (∃ n : Nat, z = n) ∨ ∃ n : Nat, n ≠ 0 ∧ z = -n := by
  by_cases hz : 0 ≤ z
  · exact Or.inl ⟨z.toNat, by omega⟩
  · exact Or.inr ⟨z.natAbs, by omega, by omega⟩

theorem ne_of_isDigit (hc : c.isDigit = true) {x : Char} (hx : x.isDigit = false) : c ≠ x := by
  rintro rfl
  rw [hc] at hx
  cases hx

/-- A natural number begins with a digit. -/
theorem exists_toDigits_eq_cons (n : Nat) : ∃ c rest, Nat.toDigits 10 n = c :: rest ∧ c.isDigit = true := by
  have hdigits : ∀ c ∈ Nat.toDigits 10 n, c.isDigit = true := fun c hc => Nat.isDigit_of_mem_toDigits (by decide) (by decide) hc
  cases hd : Nat.toDigits 10 n with
  | nil => exact absurd hd Nat.toDigits_ne_nil
  | cons c rest => exact ⟨c, rest, rfl, hdigits c (by rw [hd]; exact List.mem_cons_self)⟩

/-- A whole number is read from its digits if it lies within the bounds. -/
theorem signed?_written (low high z : Int) : signed? 10 low high (written z) = if low ≤ z ∧ z < high then some z else none := by
  rcases exists_nat_or_neg z with ⟨n, rfl⟩ | ⟨n, hn, rfl⟩
  · have hread : natural? 10 (Nat.toDigits 10 n) = some n := natural?_toDigits (by decide) (by decide) n
    obtain ⟨c, rest, hd, hc⟩ := exists_toDigits_eq_cons n
    rw [written_natCast]
    rw [hd] at hread ⊢
    unfold signed?
    split
    · rename_i heq
      exact absurd (List.cons.inj heq).1 (ne_of_isDigit hc rfl)
    · rename_i heq
      exact absurd (List.cons.inj heq).1 (ne_of_isDigit hc rfl)
    · simp [hread, Option.filter]
  · rw [written_neg hn]
    simp [signed?, natural?_toDigits, Option.filter]

/-- A whole number is read without a sign from its digits if it is not negative and below the bound. -/
theorem unsigned?_written (bound : Nat) (z : Int) :
    unsigned? 10 bound (written z) = if 0 ≤ z ∧ z < bound then some z.toNat else none := by
  rcases exists_nat_or_neg z with ⟨n, rfl⟩ | ⟨n, hn, rfl⟩
  · have hread : natural? 10 (Nat.toDigits 10 n) = some n := natural?_toDigits (by decide) (by decide) n
    obtain ⟨c, rest, hd, hc⟩ := exists_toDigits_eq_cons n
    rw [written_natCast]
    rw [hd] at hread ⊢
    unfold unsigned?
    split
    · rename_i heq
      exact absurd (List.cons.inj heq).1 (ne_of_isDigit hc rfl)
    · simp [hread, Option.filter]
  · have hminus : natural? 10 ('-' :: Nat.toDigits 10 n) = none := rfl
    rw [written_neg hn, if_neg (by omega)]
    simp [unsigned?, hminus]

/-- The text of a whole number is made of digits and a minus sign. -/
theorem mem_written {z : Int} (hc : c ∈ written z) : c = '-' ∨ c.isDigit = true := by
  have hdigit : ∀ {n : Nat}, c ∈ Nat.toDigits 10 n → c.isDigit = true := fun h => Nat.isDigit_of_mem_toDigits (by decide) (by decide) h
  rcases exists_nat_or_neg z with ⟨n, rfl⟩ | ⟨n, hn, rfl⟩
  · rw [written_natCast] at hc
    exact Or.inr (hdigit hc)
  · rw [written_neg hn, List.mem_cons] at hc
    exact hc.imp_right hdigit

theorem written_ne_nil (z : Int) : written z ≠ [] := by
  unfold written
  split
  · exact List.cons_ne_nil _ _
  · exact Nat.toDigits_ne_nil

/-- No two whole numbers have the same text. -/
theorem written_injective {z w : Int} (h : written z = written w) : z = w := by
  have hread : signed? 10 z (z + 1) (written z) = some z := by rw [signed?_written, if_pos (by omega)]
  rw [h, signed?_written] at hread
  split at hread
  · exact (Option.some.inj hread).symm
  · cases hread

end Decimal
end CoEdit
