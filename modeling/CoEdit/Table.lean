/-!
# Tables

A table is a list of entries, one per key, in ascending order of the keys. It is a plain list so that a tree of tables is an
ordinary inductive type; `Table.insert` keeps the order and `Table.Ascending` says it.

The laws of `get?` below hold of every list of entries, ascending or not. What needs the order says so.
-/

namespace CoEdit

/-- Entries in ascending order of their keys. -/
abbrev Table (κ ν : Type) := List (κ × ν)

namespace Table

variable {κ ν : Type}

/-- The value of the first entry with the key. -/
def get? [DecidableEq κ] (k : κ) : Table κ ν → Option ν
  | [] => none
  | (k', v) :: rest => if k' = k then some v else get? k rest

/-- Whether some entry has the key. -/
def contains [DecidableEq κ] (k : κ) (t : Table κ ν) : Bool := (get? k t).isSome

/-- Puts a value under a key, at the key's place in the order, replacing the value it had. -/
def insert [DecidableEq κ] [LT κ] [DecidableLT κ] (k : κ) (v : ν) : Table κ ν → Table κ ν
  | [] => [(k, v)]
  | (k', v') :: rest =>
    if k = k' then (k, v) :: rest
    else if k < k' then (k, v) :: (k', v') :: rest
    else (k', v') :: insert k v rest

/-- The table without the key. -/
def erase [DecidableEq κ] (k : κ) (t : Table κ ν) : Table κ ν := t.filter (fun e => decide (e.1 ≠ k))

/-- The keys, in order. -/
def keys (t : Table κ ν) : List κ := t.map (·.1)

/-- The values, in order of their keys. -/
def values (t : Table κ ν) : List ν := t.map (·.2)

/-- The table of a list of entries: of two entries with one key, the later stands. -/
def ofEntries [DecidableEq κ] [LT κ] [DecidableLT κ] (es : List (κ × ν)) : Table κ ν :=
  es.foldl (fun t e => insert e.1 e.2 t) []

/-- Each key comes strictly before the keys after it. -/
def Ascending [LT κ] (t : Table κ ν) : Prop := t.Pairwise (fun a b => a.1 < b.1)

section
variable [DecidableEq κ]

@[simp] theorem get?_nil (k : κ) : get? k ([] : Table κ ν) = none := rfl

/-- A key is found where an entry has it. -/
theorem get?_isSome_iff (k : κ) (t : Table κ ν) : (get? k t).isSome ↔ k ∈ keys t := by
  induction t with
  | nil => simp [keys]
  | cons e rest ih =>
    simp only [get?, keys, List.map_cons, List.mem_cons] at ih ⊢
    split
    · next h => simp [h]
    · next h => rw [ih]; exact ⟨Or.inr, fun hk => hk.resolve_left fun he => h he.symm⟩

/-- A found value stands in the table under its key. -/
theorem mem_of_get? {k : κ} {v : ν} {t : Table κ ν} (h : get? k t = some v) : (k, v) ∈ t := by
  induction t with
  | nil => simp at h
  | cons e rest ih =>
    simp only [get?] at h
    split at h
    · next hk => cases h; subst hk; exact List.mem_cons_self
    · exact List.mem_cons_of_mem _ (ih h)

/-- After an insertion the key has the value, and every other key has what it had. -/
theorem get?_insert [LT κ] [DecidableLT κ] (k j : κ) (v : ν) (t : Table κ ν) :
    get? j (insert k v t) = if k = j then some v else get? j t := by
  induction t with
  | nil => simp [insert, get?]
  | cons e rest ih =>
    simp only [insert]
    split
    · next h => subst h; simp only [get?]; split <;> rfl
    · split
      · simp only [get?]
      · next h _ =>
        simp only [get?, ih]
        split
        · next he => subst he; simp [h]
        · rfl

/-- An erased key is gone, and every other key has what it had. -/
theorem get?_erase (k j : κ) (t : Table κ ν) : get? j (erase k t) = if k = j then none else get? j t := by
  induction t with
  | nil => simp [erase]
  | cons e rest ih =>
    simp only [erase, List.filter_cons] at ih ⊢
    by_cases h : e.1 = k
    · simp only [h, ne_eq, not_true_eq_false, decide_false, Bool.false_eq_true, if_false, ih, get?]
      split <;> rfl
    · simp only [ne_eq, h, not_false_eq_true, decide_true, if_true, get?, ih]
      by_cases hj : e.1 = j
      · subst hj; simp [Ne.symm h]
      · simp [hj]

/-- An insertion keeps the order. -/
theorem Ascending.insert [LT κ] [DecidableLT κ] [@Trans κ κ κ (· < ·) (· < ·) (· < ·)] [Std.Trichotomous fun a b : κ => a < b]
    {t : Table κ ν} (h : Ascending t) (k : κ) (v : ν) : Ascending (Table.insert k v t) := by
  induction t with
  | nil => exact List.pairwise_singleton _ _
  | cons e rest ih =>
    obtain ⟨hfirst, hrest⟩ := List.pairwise_cons.1 h
    simp only [Table.insert]
    split
    · next he => exact List.pairwise_cons.2 ⟨fun x hx => he ▸ hfirst x hx, hrest⟩
    · split
      · next hlt =>
        refine List.pairwise_cons.2 ⟨fun x hx => ?_, h⟩
        rcases List.mem_cons.1 hx with rfl | hx
        · exact hlt
        · exact Trans.trans hlt (hfirst x hx)
      · next hne hlt =>
        have hle : e.1 < k := Decidable.byContradiction fun hn => hne (Std.Trichotomous.trichotomous k e.1 hlt hn)
        refine List.pairwise_cons.2 ⟨fun x hx => ?_, ih hrest⟩
        have hkey : (get? x.1 (Table.insert k v rest)).isSome := (get?_isSome_iff _ _).2 (List.mem_map_of_mem hx)
        rw [get?_insert] at hkey
        split at hkey
        · next hx => exact hx ▸ hle
        · obtain ⟨y, hy, he⟩ := List.mem_map.1 ((get?_isSome_iff _ _).1 hkey)
          exact he ▸ hfirst y hy

/-- An entry of the table after an insertion is the one that was put in, or stood there. -/
theorem mem_insert [LT κ] [DecidableLT κ] {k : κ} {v : ν} {t : Table κ ν} {e : κ × ν} (he : e ∈ Table.insert k v t) :
    e = (k, v) ∨ e ∈ t := by
  induction t with
  | nil => exact Or.inl (List.mem_singleton.1 he)
  | cons f rest ih =>
    simp only [Table.insert] at he
    split at he
    · exact (List.mem_cons.1 he).imp_right (List.mem_cons_of_mem _)
    · split at he
      · exact List.mem_cons.1 he
      · rcases List.mem_cons.1 he with rfl | he
        · exact Or.inr List.mem_cons_self
        · exact (ih he).imp_right (List.mem_cons_of_mem _)

end

end Table

end CoEdit
