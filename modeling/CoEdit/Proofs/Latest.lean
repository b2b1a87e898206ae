import Mathlib.Tactic.Tauto

/-!
# The latest of a list that nothing hides

Of the layers of a configuration, or of the changes in the course of a run, one may have something that a later one hides. `LastIn` says
that there is one that has it and that none of the later ones hides it.
-/

namespace CoEdit

/-- Something in a list has what is looked for, and nothing after it hides that. -/
def LastIn {α : Type} (l : List α) (has hides : α → Prop) : Prop :=
  ∃ before a after, l = before ++ a :: after ∧ has a ∧ ∀ b ∈ after, ¬hides b

namespace LastIn

variable {α : Type} (has hides : α → Prop)

theorem not_nil : ¬LastIn [] has hides := by
  rintro ⟨before, a, after, h, -⟩
  cases before <;> cases h

theorem cons_iff (a : α) (l : List α) : LastIn (a :: l) has hides ↔ LastIn l has hides ∨ (has a ∧ ∀ b ∈ l, ¬hides b) := by
  constructor
  · rintro ⟨before, b, after, h, hb, hafter⟩
    cases before with
    | nil =>
      cases h
      exact Or.inr ⟨hb, hafter⟩
    | cons c before =>
      cases h
      exact Or.inl ⟨before, b, after, rfl, hb, hafter⟩
  · rintro (⟨before, b, after, rfl, hb, hafter⟩ | ⟨ha, hl⟩)
    · exact ⟨a :: before, b, after, rfl, hb, hafter⟩
    · exact ⟨[], a, l, rfl, ha, hl⟩

theorem singleton_iff (a : α) : LastIn [a] has hides ↔ has a := by
  simp [cons_iff, not_nil]

theorem append_iff (l l' : List α) :
    LastIn (l ++ l') has hides ↔ LastIn l' has hides ∨ (LastIn l has hides ∧ ∀ b ∈ l', ¬hides b) := by
  induction l with
  | nil => simp [not_nil]
  | cons a l ih =>
    rw [List.cons_append, cons_iff, cons_iff, ih, List.forall_mem_append]
    tauto

end LastIn
end CoEdit
