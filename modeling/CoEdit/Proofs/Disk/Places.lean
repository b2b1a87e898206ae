import CoEdit.Disk
import CoEdit.Proofs.Path.Components

/-!
# Where paths lead

Where a path leads is told by its components alone (`Path.place`): an operation that gets there gets to that place (`Disk.locate_ok`).
On the way it stands at the places the components before lead to, one after the other (`Disk.mem_passed_iff`); each must be a directory.
-/

namespace CoEdit

namespace Path

/-- Where a component leads. -/
def follow (here : Place) : PathComponent → Place
  | .root => []
  | .current => here
  | .parent => here.dropLast
  | .normal name => here ++ [name]

/-- The place a path leads to from a directory. -/
def place (p : Path) (here : Place) : Place := p.components.foldl follow here

/-- Names lead down. -/
theorem foldl_follow_names (names : List String) (here : Place) :
    (names.map PathComponent.normal).foldl follow here = here ++ names := by
  induction names generalizing here with
  | nil => simp
  | cons name names ih => simp [follow, ih]

/-- The place of a path whose components end with names. -/
theorem place_names {p : Path} {before : List PathComponent} {names : List String} (hp : p.components = before ++ names.map .normal)
    (here : Place) : p.place here = before.foldl follow here ++ names := by
  rw [place, hp, List.foldl_append, foldl_follow_names]

/-- Where nothing leads up or to the root, everything leads down. -/
theorem prefix_foldl_follow {cs : List PathComponent} (hroot : .root ∉ cs) (hparent : .parent ∉ cs) (here : Place) :
    here <+: cs.foldl follow here := by
  induction cs generalizing here with
  | nil => exact List.prefix_refl here
  | cons c cs ih =>
    rw [List.mem_cons, not_or] at hroot hparent
    have hrest := ih hroot.2 hparent.2 (follow here c)
    cases c with
    | root => exact absurd rfl hroot.1
    | parent => exact absurd rfl hparent.1
    | current => exact hrest
    | normal name => exact (List.prefix_append here [name]).trans hrest

end Path

namespace Disk

open CoEdit.Path

/-- Where a path begins. -/
def start (p : Path) (cwd : Place) : Place := if p.isAbsolute then [] else cwd

/-- The places that steps are taken from. -/
def passed : Place → List String → List Place
  | _, [] => []
  | here, name :: rest => here :: passed (step here name) rest

theorem passed_append (here : Place) (before after : List String) :
    passed here (before ++ after) = passed here before ++ passed (before.foldl step here) after := by
  induction before generalizing here with
  | nil => rfl
  | cons name before ih => simp [passed, ih]

/-! ## Walks -/

variable {d : Disk} {here at_ v : Place} {names : List String} {p : Path}

/-- A walk gets where the steps lead, if each of them is taken from a directory and no name is too long. -/
theorem walk_eq_ok : d.walk here names = .ok at_ ↔ at_ = names.foldl step here ∧
    (∀ u ∈ passed here names, d.entry? u = some .directory) ∧ ∀ name ∈ names, name.utf8ByteSize ≤ nameLimit := by
  induction names generalizing here with
  | nil => simp [walk, passed, eq_comm]
  | cons name names ih =>
    rw [walk]
    cases he : d.entry? here with
    | none => simp [passed, he]
    | some e =>
      cases e with
      | file content executable => simp [passed, he]
      | directory =>
        dsimp only
        split
        · rename_i hlong
          have hnot : ¬name.utf8ByteSize ≤ nameLimit := Nat.not_le_of_lt hlong
          simp [hnot]
        · rename_i hshort
          simp [ih, passed, he, Nat.le_of_not_lt hshort]

/-- A walk that fails before it meets a gap fails the same way wherever directories and files stay what they are. -/
theorem walk_eq_error {d' : Disk} {e : DiskError} (hdirs : ∀ u, d.entry? u = some .directory → d'.entry? u = some .directory)
    (hfiles : ∀ u c x, d.entry? u = some (.file c x) → ∃ c' x', d'.entry? u = some (.file c' x'))
    (h : d.walk here names = .error e) (he : e ≠ .notFound) : d'.walk here names = .error e := by
  induction names generalizing here with
  | nil => cases h
  | cons name names ih =>
    rw [walk] at h ⊢
    cases hhere : d.entry? here with
    | none =>
      rw [hhere] at h
      cases h
      exact absurd rfl he
    | some entry =>
      cases entry with
      | file content executable =>
        obtain ⟨c, x, hfile⟩ := hfiles here content executable hhere
        rw [hhere] at h
        rw [hfile]
        exact h
      | directory =>
        rw [hhere] at h
        rw [hdirs here hhere]
        dsimp only at h ⊢
        split
        · rename_i hlong
          rw [if_pos hlong] at h
          exact h
        · rename_i hshort
          rw [if_neg hshort] at h
          exact ih h

/-! ## Steps and components -/

/-- A piece between slashes, as a step. -/
theorem step_componentOf {piece : List Char} (hne : piece ≠ []) (first : Bool) (here : Place) :
    step here (String.ofList piece) = (componentOf first piece).toList.foldl follow here := by
  have hdot : String.ofList piece = "." ↔ piece = ['.'] := by
    rw [← String.toList_inj]
    simp
  have hdots : String.ofList piece = ".." ↔ piece = ['.', '.'] := by
    rw [← String.toList_inj]
    simp
  unfold step componentOf
  simp only [hdot, hdots, if_neg hne]
  split
  · cases first <;> rfl
  · split <;> rfl

/-- The steps that pieces between slashes are. -/
def stepsOf (pieces : List (List Char)) : List String := (pieces.filter (· ≠ [])).map String.ofList

theorem stepsOf_cons {piece : List Char} (hne : piece ≠ []) (pieces : List (List Char)) :
    stepsOf (piece :: pieces) = String.ofList piece :: stepsOf pieces := by
  simp [stepsOf, hne]

theorem foldl_stepsOf (pieces : List (List Char)) (here : Place) :
    (stepsOf pieces).foldl step here = (pieces.filterMap (componentOf false)).foldl follow here := by
  induction pieces generalizing here with
  | nil => rfl
  | cons piece pieces ih =>
    by_cases hne : piece = []
    · subst hne
      exact ih here
    · rw [stepsOf_cons hne, List.foldl_cons, step_componentOf hne false, ih, List.filterMap_cons]
      cases componentOf false piece <;> rfl

theorem exists_prefix_cons {α : Type} {P : List α → Prop} {x : α} {xs : List α} :
    (∃ ys, ys <+: x :: xs ∧ P ys) ↔ P [] ∨ ∃ ys, ys <+: xs ∧ P (x :: ys) := by
  constructor
  · rintro ⟨ys, hys, hp⟩
    rcases List.prefix_cons_iff.1 hys with rfl | ⟨rest, rfl, hrest⟩
    · exact Or.inl hp
    · exact Or.inr ⟨rest, hrest, hp⟩
  · rintro (hp | ⟨ys, hys, hp⟩)
    · exact ⟨[], List.nil_prefix, hp⟩
    · exact ⟨x :: ys, (List.prefix_cons_inj x).2 hys, hp⟩

/-- The places that steps stand at, their end among them, are those that the components before lead to. -/
theorem mem_passed_stepsOf (pieces : List (List Char)) (here : Place) :
    (v ∈ passed here (stepsOf pieces) ∨ v = (stepsOf pieces).foldl step here) ↔
      ∃ cs, cs <+: pieces.filterMap (componentOf false) ∧ v = cs.foldl follow here := by
  induction pieces generalizing here with
  | nil => simp [stepsOf, passed]
  | cons piece pieces ih =>
    by_cases hne : piece = []
    · subst hne
      exact ih here
    · rw [stepsOf_cons hne, passed, List.foldl_cons, List.mem_cons, or_assoc, ih, step_componentOf hne false, List.filterMap_cons]
      cases componentOf false piece with
      | none =>
        simp only [Option.toList_none, List.foldl_nil, or_iff_right_iff_imp]
        rintro rfl
        exact ⟨[], List.nil_prefix, rfl⟩
      | some c =>
        rw [exists_prefix_cons]
        rfl

/-- A slash at the end is a step to where one stands. -/
theorem steps_eq (p : Path) :
    steps p = stepsOf (pieces p.text.toList) ++ if p.text.toList.getLast? = some '/' then ["."] else [] := by
  unfold steps stepsOf
  rw [List.map_append]
  congr 1
  split <;> rfl

theorem foldl_steps (p : Path) (here : Place) : (steps p).foldl step here = (stepsOf (pieces p.text.toList)).foldl step here := by
  rw [steps_eq, List.foldl_append]
  split <;> rfl

/-- The places that the steps of a path stand at. -/
theorem mem_passed_steps (p : Path) (here : Place) :
    (v ∈ passed here (steps p) ∨ v = (steps p).foldl step here) ↔
      v ∈ passed here (stepsOf (pieces p.text.toList)) ∨ v = (stepsOf (pieces p.text.toList)).foldl step here := by
  rw [foldl_steps, steps_eq, passed_append, List.mem_append]
  split
  · simp only [passed, List.mem_singleton]
    rw [or_assoc, or_self]
  · simp [passed]

/-! ## Components of paths -/

/-- The steps of a path and its components lead the same way. -/
theorem steps_place (p : Path) (cwd : Place) : (steps p).foldl step (start p cwd) = p.place cwd := by
  rw [foldl_steps, foldl_stepsOf, place, start]
  change (Path.inner p.text.toList).foldl follow _ = _
  cases h : p.isAbsolute with
  | true =>
    rw [components_of_absolute h]
    rfl
  | false => rcases components_of_relative h with hp | hp <;> rw [hp] <;> rfl

/-- A path leads over the places that its components lead to, one after the other. -/
def LeadsOver (p : Path) (cwd v : Place) : Prop := ∃ cs, cs <+: p.components ∧ (p.isAbsolute = true → cs ≠ []) ∧ v = cs.foldl follow cwd

/-- The places that the steps of a path stand at are those it leads over. -/
theorem mem_passed_iff (p : Path) (cwd : Place) :
    (v ∈ passed (start p cwd) (steps p) ∨ v = p.place cwd) ↔ LeadsOver p cwd v := by
  rw [← steps_place, mem_passed_steps, mem_passed_stepsOf, LeadsOver, start]
  change (∃ cs, cs <+: Path.inner p.text.toList ∧ _) ↔ _
  cases h : p.isAbsolute with
  | true =>
    -- the root is always among the components, so the path does not lead over where one starts
    rw [components_of_absolute h, exists_prefix_cons]
    simp [follow]
  | false =>
    rcases components_of_relative h with hp | hp
    · simp [hp]
    · rw [hp, exists_prefix_cons]
      simp only [Bool.false_eq_true, false_implies, true_and, List.foldl_nil, List.foldl_cons, follow]
      refine (or_iff_right_of_imp ?_).symm
      rintro rfl
      exact ⟨[], List.nil_prefix, rfl⟩

/-- Behind what a path has led through, there is no root. -/
theorem root_not_mem_of_leadsOver {cs rest : List PathComponent} (hp : p.components = cs ++ rest) (hne : p.isAbsolute = true → cs ≠ []) :
    .root ∉ rest := by
  intro hmem
  have habs : p.isAbsolute = true := (isAbsolute_iff p).2 (hp ▸ List.mem_append_right _ hmem)
  rw [components_of_absolute habs] at hp
  cases cs with
  | nil => exact hne habs rfl
  | cons c cs =>
    rw [List.cons_append] at hp
    exact root_not_mem_inner _ ((List.cons.inj hp).2 ▸ List.mem_append_right cs hmem)

/-! ## Places of paths -/

theorem locate_eq (h : pathFault p = none) : d.locate p = d.walk (start p d.workingDirectory) (steps p) := by
  rw [locate, h]
  rfl

theorem pathFault_of_locate (h : d.locate p = .ok at_) : pathFault p = none := by
  unfold locate at h
  split at h
  · cases h
  · assumption

/-- A path gets to the place its components lead to, and all places it passes are directories. -/
theorem locate_ok (h : d.locate p = .ok at_) :
    at_ = p.place d.workingDirectory ∧ ∀ u ∈ passed (start p d.workingDirectory) (steps p), d.entry? u = some .directory := by
  rw [locate_eq (pathFault_of_locate h), walk_eq_ok, steps_place] at h
  exact ⟨h.1, h.2.1⟩

/-- All places a path leads over are directories, but for its own. -/
theorem directory_of_leadsOver (h : d.locate p = .ok at_) (hv : LeadsOver p d.workingDirectory v) :
    d.entry? v = some .directory ∨ v = at_ := by
  obtain ⟨rfl, hpassed⟩ := locate_ok h
  rcases (mem_passed_iff p d.workingDirectory).2 hv with hv | hv
  · exact Or.inl (hpassed v hv)
  · exact Or.inr hv

/-- A path that is not empty has steps. -/
theorem steps_ne_nil (h : p.text ≠ "") : steps p ≠ [] := by
  rw [steps_eq]
  split
  · simp
  · rename_i hlast
    have hne : p.text.toList ≠ [] := fun hnil => h (String.toList_eq_nil_iff.1 hnil)
    obtain ⟨piece, hpiece, hfull⟩ := (pieces_nonempty_iff p.text.toList).2
      ⟨p.text.toList.getLast hne, List.getLast_mem hne, fun he => hlast (by rw [List.getLast?_eq_some_getLast hne, he])⟩
    simp only [List.append_nil, stepsOf, ne_eq, List.map_eq_nil_iff, List.filter_eq_nil_iff]
    intro hall
    exact hall piece hpiece (by simpa using hfull)

end Disk
end CoEdit
