import CoEdit.Proofs.Disk.Growth

/-!
# Ways that can be passed

A way can be passed if all places it leads over are directories and none of its names is too long (`Disk.Passable`). This is said of the
components of a path alone, so it does not matter how the path is written: one without a fault of its own leads to a directory if its way can
be passed (`Disk.locate_of_passable`), and one that ends with a name leads where it does if the way up to that name can be passed
(`Disk.locate_end_iff`).
-/

namespace CoEdit
namespace Disk

open CoEdit.Path

variable {d d' : Disk} {at_ v : Place} {p q : Path} {cwd : Place}

/-! ## Steps and components -/

/-- A step is to where one stands, up, or to a name among the components. -/
theorem steps_cases {name : String} (h : name ∈ steps p) : name = "." ∨ name = ".." ∨ .normal name ∈ p.components := by
  rw [steps_eq, List.mem_append] at h
  rcases h with h | h
  · obtain ⟨piece, hpiece, rfl⟩ := List.mem_map.1 h
    obtain ⟨hmem, hne⟩ := List.mem_filter.1 hpiece
    by_cases hdot : piece = ['.']
    · exact Or.inl (by rw [hdot])
    · by_cases hdots : piece = ['.', '.']
      · exact Or.inr (Or.inl (by rw [hdots]))
      · refine Or.inr (Or.inr ?_)
        refine normal_mem_inner_iff.1 (List.mem_filterMap.2 ⟨piece, hmem, ?_⟩)
        rw [componentOf, if_neg (of_decide_eq_true hne), if_neg hdot, if_neg hdots]
  · split at h
    · exact Or.inl (List.mem_singleton.1 h)
    · cases h

/-- A name among the components is a step. -/
theorem mem_steps_of_components {name : String} (h : .normal name ∈ p.components) : name ∈ steps p := by
  obtain ⟨piece, hpiece, rfl, hname⟩ := exists_piece_of_component h
  rw [steps_eq]
  exact List.mem_append_left _ (List.mem_map.2 ⟨_, List.mem_filter.2 ⟨hpiece, decide_eq_true hname.ne_nil⟩, String.ofList_toList⟩)

/-! ## Passable ways -/

/-- All places on the way are directories, and no name is too long. -/
structure Passable (d : Disk) (p : Path) : Prop where
  directories : ∀ v, LeadsOver p d.workingDirectory v → d.entry? v = some .directory
  short : ∀ name, .normal name ∈ p.components → name.utf8ByteSize ≤ nameLimit

/-- Ways with the same components are the same. -/
theorem LeadsOver.congr (h : p.components = q.components) : LeadsOver p cwd v ↔ LeadsOver q cwd v := by
  unfold LeadsOver
  rw [h, isAbsolute_iff, isAbsolute_iff, h]

theorem Passable.congr (hp : d.Passable p) (h : q.components = p.components) : d.Passable q :=
  ⟨fun v hv => hp.directories v ((LeadsOver.congr h).1 hv), fun name hname => hp.short name (h ▸ hname)⟩

/-- The beginning of a way leads over no other places. -/
theorem LeadsOver.of_beginning (h : q.components <+: p.components) (habs : p.isAbsolute = true → q.isAbsolute = true)
    (hv : LeadsOver q cwd v) : LeadsOver p cwd v := by
  obtain ⟨cs, hcs, hne, rfl⟩ := hv
  exact ⟨cs, hcs.trans h, fun hp => hne (habs hp), rfl⟩

theorem leadsOver_place (p : Path) (cwd : Place) : LeadsOver p cwd (p.place cwd) := (mem_passed_iff p cwd).1 (Or.inr rfl)

theorem short_steps (h : ∀ name, .normal name ∈ p.components → name.utf8ByteSize ≤ nameLimit) :
    ∀ name ∈ steps p, name.utf8ByteSize ≤ nameLimit := by
  intro name hname
  rcases steps_cases hname with rfl | rfl | hmem
  · decide
  · decide
  · exact h name hmem

/-- A path without a fault of its own leads to a directory, if its way can be passed. -/
theorem locate_of_passable (hfault : pathFault p = none) (hp : d.Passable p) :
    d.locate p = .ok (p.place d.workingDirectory) ∧ d.entry? (p.place d.workingDirectory) = some .directory := by
  refine ⟨?_, hp.directories _ (leadsOver_place p _)⟩
  rw [locate_eq hfault, walk_eq_ok, steps_place]
  exact ⟨rfl, fun u hu => hp.directories u ((mem_passed_iff p _).1 (Or.inl hu)), short_steps hp.short⟩

theorem short_of_locate (h : d.locate p = .ok at_) {name : String} (hname : .normal name ∈ p.components) :
    name.utf8ByteSize ≤ nameLimit := by
  rw [locate_eq (pathFault_of_locate h), walk_eq_ok] at h
  exact h.2.2 name (mem_steps_of_components hname)

theorem isDirectory_iff : d.isDirectory p = true ↔
    d.locate p = .ok (p.place d.workingDirectory) ∧ d.entry? (p.place d.workingDirectory) = some .directory := by
  unfold isDirectory find
  cases hl : d.locate p with
  | error e => simp
  | ok at_ =>
    obtain ⟨rfl, -⟩ := locate_ok hl
    cases he : d.entry? (p.place d.workingDirectory) with
    | none => simp [he]
    | some e => cases e <;> simp [he]

/-- The way to a directory can be passed, and no other path without a fault leads to one. -/
theorem isDirectory_iff_passable (hfault : pathFault p = none) : d.isDirectory p = true ↔ d.Passable p := by
  refine ⟨fun h => ⟨fun v hv => directory_of_isDirectory h hv, fun name hname => ?_⟩, fun h => isDirectory_iff.2 (locate_of_passable hfault h)⟩
  exact short_of_locate (isDirectory_iff.1 h).1 hname

/-- A path whose names stand in a path without a fault has none but its length. -/
theorem pathFault_of_components (hq : pathFault q = none) (h : ∀ name, .normal name ∈ p.components → .normal name ∈ q.components)
    (hne : p.text ≠ "") : pathFault p = none ∨ pathFault p = some .nameTooLong := by
  have hnul : '\x00' ∉ p.text.toList := by
    intro hc
    obtain ⟨name, hname, hc⟩ := (mem_text_iff (by decide) (by decide) p).1 hc
    have hc := (mem_text_iff (by decide) (by decide) q).2 ⟨name, h name hname, hc⟩
    rw [pathFault, if_pos hc] at hq
    cases hq
  rw [pathFault, if_neg hnul, if_neg hne]
  split
  · exact Or.inr rfl
  · exact Or.inl rfl

theorem pathFault_of_isDirectory (h : d.isDirectory p = true) : pathFault p = none := pathFault_of_locate (isDirectory_iff.1 h).1

theorem passable_of_isDirectory (h : d.isDirectory p = true) : d.Passable p :=
  (isDirectory_iff_passable (pathFault_of_isDirectory h)).1 h

theorem Keeps.isDirectory (h : d.Keeps d') (hp : d.isDirectory p = true) : d'.isDirectory p = true := by
  obtain ⟨hl, he⟩ := isDirectory_iff.1 hp
  rw [isDirectory_iff, h.workingDirectory]
  exact ⟨h.locate hl, h.directories _ he⟩

/-! ## Ways to a name -/

variable {pre x : List Char}

theorem stepsOf_append (xs ys : List (List Char)) : stepsOf (xs ++ ys) = stepsOf xs ++ stepsOf ys := by
  rw [stepsOf, List.filter_append, List.map_append]
  rfl

/-- The pieces of a text with a piece at its end. -/
theorem exists_pieces_end (hb : AtBoundary pre) (hx : '/' ∉ x) :
    ∃ before, pieces (pre ++ x) = before ++ [x] ∧ stepsOf before = stepsOf (pieces pre) := by
  rcases hb with rfl | ⟨b, rfl⟩
  · exact ⟨[], pieces_of_not_mem hx, rfl⟩
  · refine ⟨pieces b, ?_, ?_⟩
    · rw [List.append_assoc, List.singleton_append, pieces_append, pieces_of_not_mem hx]
    · rw [pieces_append, stepsOf_append]
      exact (List.append_nil _).symm

/-- What stands in front of the last name of a path, as a path of its own. -/
abbrev before (pre : List Char) : Path := ⟨String.ofList pre⟩

theorem start_before (hp : p.text.toList = pre ++ x) (hx : '/' ∉ x) : start p cwd = start (before pre) cwd := by
  have habs : p.isAbsolute = (before pre).isAbsolute := by
    unfold isAbsolute
    rw [hp, String.toList_ofList]
    cases pre with
    | nil =>
      rw [List.nil_append, List.head?_nil]
      refine decide_eq_decide.2 (iff_of_false (fun h => hx ?_) (by simp))
      exact List.mem_of_mem_head? h
    | cons c pre => rfl
  unfold start
  rw [habs]

/-- A path that ends with a name passes the places that the path in front of the name leads over. -/
theorem mem_passed_end_iff (hp : p.text.toList = pre ++ x) (hb : AtBoundary pre) (hx : '/' ∉ x) (hne : x ≠ []) :
    v ∈ passed (start p cwd) (steps p) ↔ LeadsOver (before pre) cwd v := by
  have hlast : p.text.toList.getLast? ≠ some '/' := by
    obtain ⟨y, c, rfl⟩ := (List.eq_nil_or_concat x).resolve_left hne
    intro h
    rw [hp, List.concat_eq_append, ← List.append_assoc, List.getLast?_concat, Option.some.injEq] at h
    exact hx (by simp [h])
  obtain ⟨pieces', hpieces, hsteps⟩ := exists_pieces_end hb hx
  have hpassed : passed (start p cwd) (steps p) =
      passed (start (before pre) cwd) (stepsOf pieces') ++ [(stepsOf pieces').foldl step (start (before pre) cwd)] := by
    rw [steps_eq, if_neg hlast, List.append_nil, hp, hpieces, stepsOf_append, stepsOf_cons hne, passed_append, start_before hp hx]
    rfl
  rw [hpassed, List.mem_append, List.mem_singleton, hsteps, ← mem_passed_iff, ← steps_place, mem_passed_steps, String.toList_ofList]

/-- A path that ends with a name leads where it does, if the way in front of the name can be passed and the name is not too long. -/
theorem locate_end_iff (hp : p.text.toList = pre ++ x) (hb : AtBoundary pre) (hx : IsName x) (hfault : pathFault p = none) :
    d.locate p = .ok at_ ↔
      at_ = p.place d.workingDirectory ∧ d.Passable (before pre) ∧ (String.ofList x).utf8ByteSize ≤ nameLimit := by
  have hcomponents : p.components = (before pre).components ++ [.normal (String.ofList x)] := by
    rw [components_eq, hp, componentsOf_end hb hx.slashless, hx.componentOf, components_eq (before pre), String.toList_ofList]
    rfl
  have hpassed : ∀ u, u ∈ passed (start p d.workingDirectory) (steps p) ↔ LeadsOver (before pre) d.workingDirectory u :=
    fun u => mem_passed_end_iff hp hb hx.slashless hx.ne_nil
  constructor
  · intro h
    obtain ⟨hat, hdirs⟩ := locate_ok h
    refine ⟨hat, ⟨fun v hv => hdirs v ((hpassed v).2 hv), fun name hname => ?_⟩, ?_⟩
    · exact short_of_locate h (hcomponents ▸ List.mem_append_left _ hname)
    · exact short_of_locate h (hcomponents ▸ List.mem_append_right _ (List.mem_singleton_self _))
  · rintro ⟨rfl, hway, hshort⟩
    rw [locate_eq hfault, walk_eq_ok, steps_place]
    refine ⟨rfl, fun u hu => hway.directories u ((hpassed u).1 hu), short_steps fun name hname => ?_⟩
    rw [hcomponents, List.mem_append, List.mem_singleton] at hname
    rcases hname with hname | hname
    · exact hway.short name hname
    · exact PathComponent.normal.inj hname ▸ hshort

end Disk
end CoEdit
