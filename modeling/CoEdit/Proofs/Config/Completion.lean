import CoEdit.Config.Decode
import CoEdit.Proofs.Tree.Layers
import Mathlib.Data.List.Pairwise

/-!
# Records that are completed

A record is read entry by entry, and each field has a place of its own. So an entry that leaves the record as it is may be added to a
table under any key the table does not have, whatever else is read before it (`Decoder.foldlM_insert`). A tree over the tree of the
defaults is the tree completed key by key (`Tree.mergeEntries_eq_completed`), and reads as before (`Decoder.Defaults.record_merge`).
-/

namespace CoEdit

namespace Decoder

variable {α β γ : Type}

/-! ## Fields that keep out of each other's way -/

/-- What one field would leave as it is, it still leaves as it is after the other was read. -/
def Spares (g f : RecordField α) : Prop := ∀ a t u b, f.read a t = .ok a → g.read a u = .ok b → f.read b t = .ok b

/-- Two fields have places of their own. -/
structure Independent (f g : RecordField α) : Prop where
  left : Spares f g
  right : Spares g f

instance : Std.Symm (@Independent α) := ⟨fun _ _ h => ⟨h.right, h.left⟩⟩

theorem spares_field {k l : String} {d : Decoder β} {e : Decoder γ} {put : α → β → α} {put' : α → γ → α}
    (h : ∀ a v w, put (put' a w) v = put' (put a v) w) : Spares (field l e put') (field k d put) := by
  intro a t u b hkeep hread
  simp only [field] at hkeep hread ⊢
  cases ht : d t with
  | error _ =>
    rw [ht] at hkeep
    cases hkeep
  | ok v =>
    cases hu : e u with
    | error _ =>
      rw [hu] at hread
      cases hread
    | ok w =>
      rw [ht] at hkeep
      rw [hu] at hread
      cases hread
      have hput : put a v = a := Except.ok.inj hkeep
      exact congrArg Except.ok (by rw [h, hput])

/-- Fields that are put in place in either order have places of their own. -/
theorem independent_field {k l : String} {d : Decoder β} {e : Decoder γ} {put : α → β → α} {put' : α → γ → α}
    (h : ∀ a v w, put (put' a w) v = put' (put a v) w) : Independent (field k d put) (field l e put') :=
  ⟨spares_field fun a v w => (h a w v).symm, spares_field h⟩

variable {fields : List (RecordField α)}

/-- An entry under one key does not get in the way of one under another key. -/
theorem readEntry_after (hf : fields.Pairwise Independent) {a b : α} {k l : String} {t u : Tree} (hkl : k ≠ l)
    (hkeep : readEntry fields a (k, t) = .ok a) (hread : readEntry fields a (l, u) = .ok b) : readEntry fields b (k, t) = .ok b := by
  unfold readEntry at hkeep hread ⊢
  cases hk : fields.find? (fun f => f.key = k) with
  | none => rfl
  | some f =>
    cases hl : fields.find? (fun f => f.key = l) with
    | none =>
      simp only [hl] at hread
      cases hread
      simp only [hk] at hkeep
      exact hkeep
    | some g =>
      simp only [hk] at hkeep
      simp only [hl] at hread
      have hfg : f ≠ g := by
        rintro rfl
        have hfk : f.key = k := by simpa using List.find?_some hk
        have hfl : f.key = l := by simpa using List.find?_some hl
        exact hkl (hfk.symm.trans hfl)
      exact (hf.forall (List.mem_of_find?_eq_some hk) (List.mem_of_find?_eq_some hl) hfg).right a t u b hkeep hread

/-- What is read as the value a field has leaves the record as it is. -/
theorem readEntry_of_put_eq {a : α} {k : String} {t : Tree} {d : Decoder β} {put : α → β → α} {v : β}
    (hfind : fields.find? (fun f => f.key = k) = some (field k d put)) (hread : d t = .ok v) (hput : put a v = a) :
    readEntry fields a (k, t) = .ok a := by
  rw [readEntry, hfind]
  dsimp only [field]
  rw [hread]
  exact congrArg Except.ok hput

/-- Trees that are read as the same value read as the same entry. -/
theorem readEntry_congr {k : String} {t u : Tree} {d : Decoder β} {put : α → β → α}
    (hfind : fields.find? (fun f => f.key = k) = some (field k d put)) (h : d t = d u) (a : α) :
    readEntry fields a (k, t) = readEntry fields a (k, u) := by
  rw [readEntry, readEntry, hfind]
  dsimp only [field]
  rw [h]

/-! ## Tables that are completed -/

variable {a : α} {es defs : Table String Tree} {k : String} {t : Tree}

/-- An entry may be put into a table if it leaves the record as it is, or reads as the one it replaces. -/
theorem foldlM_insert (hf : fields.Pairwise Independent) (hes : es.Ascending)
    (hnew : Table.get? k es = none → readEntry fields a (k, t) = .ok a)
    (hold : ∀ v, Table.get? k es = some v → ∀ b, readEntry fields b (k, t) = readEntry fields b (k, v)) :
    (Table.insert k t es).foldlM (readEntry fields) a = es.foldlM (readEntry fields) a := by
  induction es generalizing a with
  | nil =>
    rw [Table.insert, List.foldlM_cons, hnew rfl]
    rfl
  | cons e rest ih =>
    obtain ⟨l, u⟩ := e
    obtain ⟨hfirst, hrest⟩ := List.pairwise_cons.1 hes
    rw [Table.insert]
    by_cases hkl : k = l
    · rw [if_pos hkl, List.foldlM_cons, List.foldlM_cons, hold u (if_pos hkl.symm), hkl]
    · have hget : Table.get? k ((l, u) :: rest) = Table.get? k rest := if_neg (Ne.symm hkl)
      rw [if_neg hkl]
      by_cases hlt : k < l
      · -- The key stands before all others, so no entry has it.
        have hnone : Table.get? k rest = none := Table.get?_eq_none_of_lt fun x hx => String.lt_trans hlt (hfirst x hx)
        rw [if_pos hlt, List.foldlM_cons, hnew (hget.trans hnone)]
        rfl
      · rw [if_neg hlt, List.foldlM_cons, List.foldlM_cons]
        cases hread : readEntry fields a (l, u) with
        | error _ => rfl
        | ok b => exact ih hrest (fun h => readEntry_after hf hkl (hnew (hget.trans h)) hread) fun v hv => hold v (hget.trans hv)

end Decoder

namespace Tree

variable {es defs : Table String Tree}

/-- A table completed with an entry: its value stands under the key if there is none, and below the one there is. -/
def completedWith (es : Table String Tree) (e : String × Tree) : Table String Tree :=
  Table.insert e.1 (match Table.get? e.1 es with | some v => merge e.2 v | none => e.2) es

/-- A table completed with all entries of another. -/
def completed (es defs : Table String Tree) : Table String Tree := defs.foldl completedWith es

theorem get?_completedWith (es : Table String Tree) (e : String × Tree) (k : String) : Table.get? k (completedWith es e) =
    if e.1 = k then some (match Table.get? k es with | some v => merge e.2 v | none => e.2) else Table.get? k es := by
  rw [completedWith, Table.get?_insert]
  split
  · next h => rw [h]
  · rfl

theorem ascending_completedWith (hes : es.Ascending) (e : String × Tree) : (completedWith es e).Ascending := hes.insert _ _

theorem get?_completed (hdefs : defs.Ascending) (es : Table String Tree) (k : String) : Table.get? k (completed es defs) =
    match Table.get? k defs with
    | some d => some (match Table.get? k es with | some v => merge d v | none => d)
    | none => Table.get? k es := by
  induction defs generalizing es with
  | nil => rfl
  | cons e rest ih =>
    obtain ⟨hfirst, hrest⟩ := List.pairwise_cons.1 hdefs
    rw [completed, List.foldl_cons, ← completed, ih hrest, get?_completedWith, Table.get?]
    by_cases he : e.1 = k
    · have hnone : Table.get? k rest = none := Table.get?_eq_none_of_lt fun x hx => he ▸ hfirst x hx
      rw [hnone, if_pos he, if_pos he]
    · rw [if_neg he, if_neg he]

theorem ascending_completed (hes : es.Ascending) (defs : Table String Tree) : (completed es defs).Ascending :=
  List.foldlRecOn defs _ (motive := Table.Ascending) hes fun _ h e _ => ascending_completedWith h e

/-- To put a table over the defaults is to complete it with them. -/
theorem mergeEntries_eq_completed (hdefs : defs.Ascending) (hes : es.Ascending) : mergeEntries defs es = completed es defs := by
  refine Table.Ascending.ext (ascending_mergeEntries hdefs es) (ascending_completed hes defs) fun k => ?_
  rw [get?_mergeEntries hes, get?_completed hdefs]
  cases Table.get? k defs <;> cases Table.get? k es <;> rfl

end Tree

namespace Decoder

variable {α : Type} {fields : List (RecordField α)} {a : α} {es defs : Table String Tree}

/-- A table of defaults of a record: its entries leave the record as it is, and make no difference below the values of other tables. -/
structure Defaults (fields : List (RecordField α)) (a : α) (defs : Table String Tree) : Prop where
  apart : fields.Pairwise Independent
  ascending : defs.Ascending
  kept : ∀ e ∈ defs, readEntry fields a e = .ok a
  refined : ∀ e ∈ defs, ∀ t, t.IsSettled → ∀ b, readEntry fields b (e.1, Tree.merge e.2 t) = readEntry fields b (e.1, t)

/-- Defaults that are not objects are replaced as a whole. -/
theorem refined_of_plain (h : ∀ e ∈ defs, e.2.isObject = false) (fields : List (RecordField α)) :
    ∀ e ∈ defs, ∀ t, t.IsSettled → ∀ b, readEntry fields b (e.1, Tree.merge e.2 t) = readEntry fields b (e.1, t) := by
  intro e he t _ b
  rw [Tree.merge_of_not_object (.inl (h e he))]

theorem Defaults.foldlM_completed (h : Defaults fields a defs) (hes : es.Ascending)
    (hsettled : ∀ k t, Table.get? k es = some t → t.IsSettled) :
    (Tree.completed es defs).foldlM (readEntry fields) a = es.foldlM (readEntry fields) a := by
  obtain ⟨hapart, hascending, hkept, hrefined⟩ := h
  replace hsettled : ∀ e ∈ defs, ∀ t, Table.get? e.1 es = some t → t.IsSettled := fun e _ t => hsettled e.1 t
  induction defs generalizing es with
  | nil => rfl
  | cons e rest ih =>
    obtain ⟨hfirst, hrest⟩ := List.pairwise_cons.1 hascending
    obtain ⟨hekept, hkept⟩ := List.forall_mem_cons.1 hkept
    obtain ⟨herefined, hrefined⟩ := List.forall_mem_cons.1 hrefined
    obtain ⟨hesettled, hsettled⟩ := List.forall_mem_cons.1 hsettled
    have hother : ∀ e' ∈ rest, Table.get? e'.1 (Tree.completedWith es e) = Table.get? e'.1 es := fun e' he' => by
      rw [Tree.get?_completedWith, if_neg fun hk => String.lt_irrefl e.1 (by simpa only [← hk] using hfirst e' he')]
    rw [Tree.completed, List.foldl_cons, ← Tree.completed, ih (Tree.ascending_completedWith hes e) hrest hkept hrefined fun e' he' t ht =>
      hsettled e' he' t (hother e' he' ▸ ht)]
    refine foldlM_insert hapart hes ?_ ?_
    · intro hnone
      rw [hnone]
      exact hekept
    · intro v hv b
      rw [hv]
      exact herefined v (hesettled v hv) b

/-- A tree over the defaults of a record reads as the tree itself. -/
theorem Defaults.record_merge (h : Defaults fields a defs) (name : String) {t : Tree} (ht : t.IsSettled) :
    record name fields a (Tree.merge (.object defs) t) = record name fields a t := by
  cases ht with
  | @object es hes hall =>
    have hread := h.foldlM_completed hes fun k t hk => hall (k, t) (Table.mem_of_get? hk)
    rw [← Tree.mergeEntries_eq_completed h.ascending hes] at hread
    exact hread
  | _ => rfl

end Decoder
end CoEdit
