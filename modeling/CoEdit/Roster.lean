/-!
# Rosters

A roster is a list of things that carry their own number, in ascending order of the numbers. Looking one up after
`Roster.insert` or `Roster.remove` is stated for every list, ascending or not.
-/

namespace CoEdit

/-- Things that carry a number of their own. -/
class Numbered (α : Type) where
  number : α → Nat

export Numbered (number)

/-- Things in ascending order of their numbers. -/
abbrev Roster (α : Type) := List α

namespace Roster

variable {α : Type} [Numbered α]

/-- The first thing with a number. -/
def get? (n : Nat) (r : Roster α) : Option α := r.find? (fun a => decide (number a = n))

/-- Whether some thing has a number. -/
def contains (n : Nat) (r : Roster α) : Bool := (get? n r).isSome

/-- Puts a thing at its place, in place of one with the same number. -/
def insert (a : α) : Roster α → Roster α
  | [] => [a]
  | b :: rest =>
    if number a = number b then a :: rest
    else if number a < number b then a :: b :: rest
    else b :: insert a rest

/-- The roster without a number. -/
def remove (n : Nat) (r : Roster α) : Roster α := r.filter (fun a => decide (number a ≠ n))

/-- The numbers, in order. -/
def numbers (r : Roster α) : List Nat := r.map number

/-- Each number comes strictly before those after it. -/
def Ascending (r : Roster α) : Prop := r.Pairwise (fun a b => number a < number b)

/-- What is found has the number and stands in the roster. -/
theorem get?_eq_some {n : Nat} {r : Roster α} {a : α} (h : get? n r = some a) : number a = n ∧ a ∈ r := by
  refine ⟨?_, List.mem_of_find?_eq_some h⟩
  simpa using List.find?_some h

/-- A number is found where it stands. -/
theorem contains_iff (n : Nat) (r : Roster α) : contains n r = true ↔ n ∈ numbers r := by
  simp [contains, get?, numbers]

/-- After an insertion the number of the thing leads to it, and every other number to what it led to. -/
theorem get?_insert (a : α) (n : Nat) (r : Roster α) : get? n (insert a r) = if number a = n then some a else get? n r := by
  induction r with
  | nil => simp [insert, get?]
  | cons b rest ih =>
    simp only [get?] at ih
    simp only [insert]
    split
    · next h => simp only [get?, List.find?_cons, ← h]; by_cases hn : number a = n <;> simp [hn]
    · split
      · simp only [get?, List.find?_cons]; by_cases hn : number a = n <;> simp [hn]
      · next h _ =>
        simp only [get?, List.find?_cons, ih]
        by_cases hb : number b = n
        · have : ¬ number a = n := fun ha => h (ha.trans hb.symm)
          simp [hb, this]
        · simp [hb]

/-- A removed number leads to nothing, and every other number to what it led to. -/
theorem get?_remove (m n : Nat) (r : Roster α) : get? n (remove m r) = if m = n then none else get? n r := by
  induction r with
  | nil => simp [remove, get?]
  | cons b rest ih =>
    simp only [get?, remove] at ih ⊢
    by_cases hb : number b = m
    · rw [List.filter_cons_of_neg (by simp [hb]), ih, List.find?_cons]
      by_cases hn : m = n
      · simp [hn]
      · simp [hb, hn]
    · rw [List.filter_cons_of_pos (by simp [hb]), List.find?_cons, ih, List.find?_cons]
      by_cases hn : number b = n
      · have : ¬ m = n := fun hm => hb (hn.trans hm.symm)
        simp [hn, this]
      · simp [hn]

/-- After an insertion there is the number of the thing, and those there were. -/
theorem contains_insert (a : α) (n : Nat) (r : Roster α) :
    contains n (insert a r) = (decide (number a = n) || contains n r) := by
  rw [contains, get?_insert]
  by_cases h : number a = n
  · simp [h]
  · simp [h, contains]

/-- After a removal there are the other numbers. -/
theorem contains_remove (m n : Nat) (r : Roster α) : contains n (remove m r) = (!decide (m = n) && contains n r) := by
  rw [contains, get?_remove]
  by_cases h : m = n
  · simp [h]
  · simp [h, contains]

/-- The numbers after an insertion are the one inserted and those that stood there. -/
theorem mem_numbers_insert (a : α) (n : Nat) (r : Roster α) : n ∈ numbers (insert a r) ↔ n = number a ∨ n ∈ numbers r := by
  rw [← contains_iff, ← contains_iff, contains, contains, get?_insert]
  by_cases h : number a = n
  · simp [h]
  · simp [h, Ne.symm h]

/-- A change of things that keeps their numbers changes what a number leads to. -/
theorem get?_map (f : α → α) (hf : ∀ a, number (f a) = number a) (n : Nat) (r : Roster α) : get? n (r.map f) = (get? n r).map f := by
  rw [get?, get?, List.find?_map]
  simp only [Function.comp_def, hf]

/-- A change of things that keeps their numbers keeps what numbers there are. -/
theorem contains_map (f : α → α) (hf : ∀ a, number (f a) = number a) (n : Nat) (r : Roster α) :
    contains n (r.map f) = contains n r := by
  rw [Bool.eq_iff_iff, contains_iff, contains_iff, numbers, numbers, List.map_map]
  simp only [Function.comp_def, hf]

/-- What stands in a roster after an insertion is the thing inserted or stood there before. -/
theorem mem_of_mem_insert {a b : α} {r : Roster α} (h : b ∈ insert a r) : b = a ∨ b ∈ r := by
  induction r with
  | nil => exact Or.inl (List.mem_singleton.1 h)
  | cons c rest ih =>
    simp only [insert] at h
    split at h
    · rcases List.mem_cons.1 h with h | h
      · exact Or.inl h
      · exact Or.inr (List.mem_cons_of_mem c h)
    · split at h
      · exact List.mem_cons.1 h
      · rcases List.mem_cons.1 h with rfl | h
        · exact Or.inr List.mem_cons_self
        · exact (ih h).imp_right (List.mem_cons_of_mem c)

/-- The numbers after a removal are the others. -/
theorem mem_numbers_remove (m n : Nat) (r : Roster α) : n ∈ numbers (remove m r) ↔ n ≠ m ∧ n ∈ numbers r := by
  rw [← contains_iff, ← contains_iff, contains, contains, get?_remove]
  by_cases h : m = n
  · simp [h]
  · simp [h, Ne.symm h]

/-- An insertion keeps the order. -/
theorem Ascending.insert {r : Roster α} (h : Ascending r) (a : α) : Ascending (Roster.insert a r) := by
  induction r with
  | nil => simp [Roster.insert, Ascending]
  | cons b rest ih =>
    simp only [Ascending, List.pairwise_cons] at h ih ⊢
    simp only [Roster.insert]
    split
    · next he => exact List.pairwise_cons.mpr ⟨fun x hx => he ▸ h.1 x hx, h.2⟩
    · split
      · next hlt =>
        refine List.pairwise_cons.mpr ⟨fun x hx => ?_, List.pairwise_cons.mpr h⟩
        rcases List.mem_cons.mp hx with rfl | hx
        · exact hlt
        · exact Nat.lt_trans hlt (h.1 x hx)
      · next hne hlt =>
        refine List.pairwise_cons.mpr ⟨fun x hx => ?_, ih h.2⟩
        have : number x ∈ numbers (Roster.insert a rest) := List.mem_map_of_mem hx
        rcases (mem_numbers_insert a _ rest).mp this with he | hm
        · omega
        · obtain ⟨y, hy, hyx⟩ := List.mem_map.mp hm
          exact hyx ▸ h.1 y hy

/-- A removal keeps the order. -/
theorem Ascending.remove {r : Roster α} (h : Ascending r) (n : Nat) : Ascending (Roster.remove n r) :=
  List.Pairwise.filter _ h

/-- A thing in an ascending roster is found under its number. -/
theorem Ascending.get?_of_mem {r : Roster α} (h : Ascending r) {a : α} (ha : a ∈ r) : get? (number a) r = some a := by
  induction r with
  | nil => exact absurd ha List.not_mem_nil
  | cons b rest ih =>
    simp only [Ascending, List.pairwise_cons] at h ih
    rcases List.mem_cons.1 ha with rfl | ha
    · simp [get?]
    · have hne : number b ≠ number a := Nat.ne_of_lt (h.1 a ha)
      simp only [get?, List.find?_cons, hne, decide_false] at ih ⊢
      exact ih h.2 ha

/-- No number stands twice in an ascending roster. -/
theorem Ascending.nodup_numbers {r : Roster α} (h : Ascending r) : (numbers r).Nodup :=
  List.pairwise_map.2 (h.imp Nat.ne_of_lt)

end Roster

end CoEdit
