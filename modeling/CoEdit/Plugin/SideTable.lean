import CoEdit.Plugin.Basic

/-!
# States by plugin and subject

A side table holds the states of plugins for connections, or those for sessions. An entry has the number of a plugin and the
number of what the state is about, and no two entries have both in common.
-/

namespace CoEdit

/-- A state of a plugin for something. -/
structure SideEntry where
  plugin : Nat
  subject : Nat
  state : SideState
  deriving DecidableEq

/-- States by plugin and subject. -/
abbrev SideTable := List SideEntry

namespace SideTable

/-- Whether an entry is about a plugin and a subject. -/
def about (plugin subject : Nat) (e : SideEntry) : Bool := e.plugin = plugin && e.subject = subject

/-- The state of a plugin for a subject. -/
def get? (plugin subject : Nat) (t : SideTable) : Option SideState := (t.find? (about plugin subject)).map (·.state)

/-- The table without the state of a plugin for a subject. -/
def remove (plugin subject : Nat) (t : SideTable) : SideTable := t.filter (fun e => !about plugin subject e)

/-- Keeps a state, in place of the one there was. -/
def set (plugin subject : Nat) (state : SideState) (t : SideTable) : SideTable :=
  remove plugin subject t ++ [({ plugin, subject, state } : SideEntry)]

/-- Changes a state, if there is one. -/
def modify (plugin subject : Nat) (f : SideState → SideState) (t : SideTable) : SideTable :=
  t.map fun e => if about plugin subject e then { e with state := f e.state } else e

/-- The pairs of plugins and subjects with a state. -/
def keys (t : SideTable) : List (Nat × Nat) := t.map fun e => (e.plugin, e.subject)

/-- A pair has a state where it is among the keys. -/
theorem get?_isSome_iff (p s : Nat) (t : SideTable) : (get? p s t).isSome ↔ (p, s) ∈ keys t := by
  simp only [get?, Option.isSome_map, List.find?_isSome, keys, List.mem_map, about, Bool.and_eq_true, decide_eq_true_eq,
    Prod.mk.injEq]

/-- After a removal the pair has no state, and every other pair has what it had. -/
theorem get?_remove (p s q u : Nat) (t : SideTable) :
    get? q u (remove p s t) = if p = q ∧ s = u then none else get? q u t := by
  induction t with
  | nil => simp [get?, remove]
  | cons e rest ih =>
    simp only [get?, remove] at ih ⊢
    by_cases he : about p s e = true
    · rw [List.filter_cons_of_neg (by simp [he]), ih, List.find?_cons]
      by_cases hq : p = q ∧ s = u
      · simp [hq]
      · have : about q u e = false := by
          simp only [about, Bool.and_eq_true, decide_eq_true_eq, Bool.and_eq_false_iff, decide_eq_false_iff_not] at he ⊢
          omega
        simp [hq, this]
    · rw [List.filter_cons_of_pos (by simp [he]), List.find?_cons, List.find?_cons]
      by_cases hu : about q u e = true
      · have : ¬(p = q ∧ s = u) := by
          simp only [about, Bool.and_eq_true, decide_eq_true_eq] at he hu
          omega
        simp [hu, this]
      · simpa [hu] using ih

/-- After a state was kept the pair has it, and every other pair has what it had. -/
theorem get?_set (p s q u : Nat) (state : SideState) (t : SideTable) :
    get? q u (set p s state t) = if p = q ∧ s = u then some state else get? q u t := by
  have h := get?_remove p s q u t
  simp only [get?, set, List.find?_append] at h ⊢
  by_cases hq : p = q ∧ s = u
  · obtain ⟨rfl, rfl⟩ := hq
    simp only [and_self, if_true, Option.map_eq_none_iff] at h
    simp [h, about]
  · simp only [hq, if_false] at h ⊢
    have : about q u { plugin := p, subject := s, state } = false := by
      simp only [about, Bool.and_eq_false_iff, decide_eq_false_iff_not]
      omega
    simp [this, h]

/-- After a change the pair has the changed state if it had one, and every other pair has what it had. -/
theorem get?_modify (p s q u : Nat) (f : SideState → SideState) (t : SideTable) :
    get? q u (modify p s f t) = if p = q ∧ s = u then (get? q u t).map f else get? q u t := by
  induction t with
  | nil => simp [get?, modify]
  | cons e rest ih =>
    simp only [get?, modify, List.map_cons, List.find?_cons] at ih ⊢
    have hk : about q u (if about p s e then { e with state := f e.state } else e) = about q u e := by split <;> rfl
    rw [hk]
    by_cases he : about q u e = true
    · have hp : about p s e = true ↔ p = q ∧ s = u := by
        simp only [about, Bool.and_eq_true, decide_eq_true_eq] at he ⊢
        omega
      by_cases hq : p = q ∧ s = u
      · simp only [he, hp.2 hq, if_pos hq, if_true, Option.map_some]
      · simp only [he, if_neg hq, if_neg (mt hp.1 hq), Option.map_some]
    · simpa only [Bool.eq_false_iff.2 he] using ih

end SideTable

end CoEdit
