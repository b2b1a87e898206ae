import CoEdit.Proofs.Disk.Passage
import CoEdit.Proofs.Path.Parents

/-!
# Making directories

How making a directory and those above it turns out is said once, without the bound on how far up it goes (`Disk.Making`). It fills gaps on
the way of its path and nowhere else, and leaves the way to each new directory made of directories (`Disk.makeDirectories_growsOn`). Where
it fails for a path without a fault of its own, the way of the path cannot be passed afterwards either
(`Disk.not_passable_of_makeDirectories`).
-/

namespace CoEdit
namespace Disk

open CoEdit.Path

variable {d d' d'' : Disk} {at_ v : Place} {p q : Path}

/-! ## One directory -/

/-- Slashes at the end change no components. -/
theorem components_withoutEndSlashes (p : Path) : (withoutEndSlashes p).components = p.components := by
  have hdrop : ∀ r : List Char, r.dropWhile (· = '/') ≠ [] →
      componentsOf (r.dropWhile (· = '/')).reverse = componentsOf r.reverse := by
    intro r hr
    induction r with
    | nil => rfl
    | cons c r ih =>
      by_cases hc : c = '/'
      · subst hc
        rw [List.dropWhile_cons_of_pos (by simp)] at hr ⊢
        have hne : r ≠ [] := by
          rintro rfl
          exact hr rfl
        rw [ih hr, List.reverse_cons, componentsOf_append_slash (by simpa using hne)]
      · rw [List.dropWhile_cons_of_neg (by simpa using hc)]
  unfold withoutEndSlashes
  split
  · rfl
  · rename_i hne
    rw [components_eq, String.toList_ofList, hdrop _ hne, List.reverse_reverse, ← components_eq]

/-- A path that begins another without a fault has none but to be empty. -/
theorem pathFault_of_beginning (hfault : pathFault p = none) (hq : q.text.toList <+: p.text.toList) (hne : q.text ≠ "") :
    pathFault q = none := by
  unfold pathFault at hfault ⊢
  split at hfault
  · cases hfault
  · rename_i hnul
    split at hfault
    · cases hfault
    · split at hfault
      · cases hfault
      · rename_i hlong
        have hlength : q.text.utf8ByteSize ≤ p.text.utf8ByteSize := by
          obtain ⟨rest, hrest⟩ := hq
          have htext : p.text = q.text ++ String.ofList rest := by
            rw [← String.toList_inj, String.toList_append, String.toList_ofList, hrest]
          rw [htext, String.utf8ByteSize_append]
          exact Nat.le_add_right _ _
        rw [if_neg fun hmem => hnul (hq.subset hmem), if_neg hne, if_neg fun h => hlong (Nat.le_trans h hlength)]

theorem withoutEndSlashes_begins (p : Path) : (withoutEndSlashes p).text.toList <+: p.text.toList := by
  unfold withoutEndSlashes
  split
  · exact List.prefix_refl _
  · rw [String.toList_ofList]
    have hbegins := List.reverse_prefix.2 (List.dropWhile_suffix (l := p.text.toList.reverse) fun c => decide (c = '/'))
    rw [List.reverse_reverse] at hbegins
    exact hbegins

/-- On a way that can be passed there is nothing to make. -/
theorem makeDirectory_of_passable (hfault : pathFault p = none) (hp : d.Passable p) : d.makeDirectory p = .error .alreadyExists := by
  have hsame := components_withoutEndSlashes p
  have hne : (withoutEndSlashes p).text ≠ "" := by
    intro hempty
    rw [components_eq (withoutEndSlashes p), hempty] at hsame
    have htext : p.text.toList ≠ [] := by
      rintro hnil
      rw [String.toList_eq_nil_iff] at hnil
      simp [pathFault, hnil] at hfault
    exact componentsOf_ne_nil htext (components_eq p ▸ hsame.symm)
  have hfault' := pathFault_of_beginning hfault (withoutEndSlashes_begins p) hne
  obtain ⟨hl, he⟩ := locate_of_passable hfault' (hp.congr hsame)
  unfold makeDirectory
  rw [hl]
  dsimp only
  rw [he]

/-! ## How making directories turns out -/

theorem not_isDirectory_of_missing (h : d.makeDirectory p = .error .notFound) : ¬d.isDirectory p = true := by
  intro hdir
  rw [makeDirectory_of_passable (pathFault_of_isDirectory hdir) (passable_of_isDirectory hdir)] at h
  cases h

/-- How one attempt at a directory turns out. A directory that is there counts as made. -/
inductive Trying (d : Disk) (p : Path) : Except DiskError Unit × Disk → Prop
  | made {d' : Disk} (h : d.makeDirectory p = .ok d') : Trying d p (.ok (), d')
  | there (h : d.isDirectory p = true) : Trying d p (.ok (), d)
  | refused {e : DiskError} (h : ¬d.isDirectory p = true) : Trying d p (.error e, d)

/-- How making a directory and those above it turns out. -/
inductive Making (d : Disk) : Path → Except DiskError Unit × Disk → Prop
  | empty {p : Path} (h : p.text = "") : Making d p (.ok (), d)
  | tried {p : Path} {r : Except DiskError Unit × Disk} (hne : p.text ≠ "") (h : Trying d p r) : Making d p r
  /-- The directory above cannot be made. -/
  | stopped {p q : Path} {e : DiskError} {d₁ : Disk} (hne : p.text ≠ "") (habove : p.parent? = some q)
      (hup : Making d q (.error e, d₁)) : Making d p (.error e, d₁)
  /-- The directory above is made first. -/
  | continued {p q : Path} {d₁ : Disk} {r : Except DiskError Unit × Disk} (hne : p.text ≠ "") (habove : p.parent? = some q)
      (hup : Making d q (.ok (), d₁)) (h : Trying d₁ p r) : Making d p r

theorem making_upTo {fuel : Nat} (hfuel : p.text.length < fuel) (d : Disk) : Making d p (makeDirectoriesUpTo fuel d p) := by
  induction fuel generalizing p with
  | zero => exact absurd hfuel (Nat.not_lt_zero _)
  | succ fuel ih =>
    rw [makeDirectoriesUpTo]
    split
    · exact .empty (by assumption)
    · rename_i hne
      split
      · exact .tried hne (.made (by assumption))
      · rename_i hmissing
        split
        · exact .tried hne (.refused (not_isDirectory_of_missing hmissing))
        · rename_i above habove
          obtain ⟨-, -, hlength⟩ := parent?_eq_some habove
          have hup : Making d above (makeDirectoriesUpTo fuel d above) := ih (by omega)
          split
          · rename_i hmade
            exact .stopped hne habove (hmade ▸ hup)
          · rename_i hmade
            rw [hmade] at hup
            split
            · exact .continued hne habove hup (.made (by assumption))
            · split
              · exact .continued hne habove hup (.there (by assumption))
              · exact .continued hne habove hup (.refused (by assumption))
      · split
        · exact .tried hne (.there (by assumption))
        · exact .tried hne (.refused (by assumption))

theorem making (d : Disk) (p : Path) : Making d p (d.makeDirectories p) := making_upTo (Nat.lt_succ_self _) d

theorem makeDirectories_empty (h : p.text = "") (d : Disk) : d.makeDirectories p = (.ok (), d) := by
  rw [makeDirectories, makeDirectoriesUpTo, if_pos h]

/-! ## Where directories are made -/

/-- The way of a path up to a place on it is made of directories. -/
def Paved (d : Disk) (p : Path) (cs : List PathComponent) : Prop :=
  ∀ cs', cs' <+: cs → (p.isAbsolute = true → cs' ≠ []) → d.entry? (cs'.foldl follow d.workingDirectory) = some .directory

/-- A new directory on the way of a path. -/
structure NewOn (d d' : Disk) (p : Path) (v : Place) (cs : List PathComponent) : Prop where
  was : d.entry? v = none
  is : d'.entry? v = some .directory
  onWay : cs <+: p.components
  ne_nil : p.isAbsolute = true → cs ≠ []
  place : v = cs.foldl follow d.workingDirectory
  paved : d'.Paved p cs

/-- Gaps on the way of a path are filled with directories, and nothing else happens. -/
structure GrowsOn (p : Path) (d d' : Disk) : Prop where
  workingDirectory : d'.workingDirectory = d.workingDirectory
  entries : ∀ v, d'.entry? v = d.entry? v ∨ ∃ cs, NewOn d d' p v cs

theorem GrowsOn.refl (p : Path) (d : Disk) : GrowsOn p d d := ⟨rfl, fun _ => Or.inl rfl⟩

theorem GrowsOn.grows (h : GrowsOn p d d') : d.Grows d' :=
  ⟨h.workingDirectory, fun v => (h.entries v).imp_right fun ⟨_, hnew⟩ => ⟨hnew.was, hnew.is⟩⟩

theorem Paved.keeps {cs : List PathComponent} (hp : d.Paved p cs) (h : d.Keeps d') : d'.Paved p cs := by
  intro cs' hcs hne
  rw [h.workingDirectory]
  exact h.directories _ (hp cs' hcs hne)

theorem GrowsOn.trans (h : GrowsOn p d d') (h' : GrowsOn p d' d'') : GrowsOn p d d'' := by
  refine ⟨h'.workingDirectory.trans h.workingDirectory, fun v => ?_⟩
  rcases h.entries v with hv | ⟨cs, hnew⟩
  · rcases h'.entries v with hv' | ⟨cs, hnew⟩
    · exact Or.inl (hv'.trans hv)
    · exact Or.inr ⟨cs, hv ▸ hnew.was, hnew.is, hnew.onWay, hnew.ne_nil, h.workingDirectory ▸ hnew.place, hnew.paved⟩
  · have hkeeps := h'.grows.keeps
    exact Or.inr ⟨cs, hnew.was, hkeeps.directories v hnew.is, hnew.onWay, hnew.ne_nil, hnew.place, hnew.paved.keeps hkeeps⟩

/-- What is on the way of the parent is on the way of the path. -/
theorem GrowsOn.of_parent (hq : p.parent? = some q) (h : GrowsOn q d d') : GrowsOn p d d' := by
  obtain ⟨⟨c, -, hp⟩, -⟩ := parent?_eq_some hq
  have habs := isAbsolute_of_parent? hq
  refine ⟨h.workingDirectory, fun v => (h.entries v).imp_right ?_⟩
  rintro ⟨cs, hnew⟩
  refine ⟨cs, hnew.was, hnew.is, hnew.onWay.trans (hp ▸ List.prefix_append _ _), habs ▸ hnew.ne_nil, hnew.place, ?_⟩
  intro cs' hcs hne
  exact hnew.paved cs' hcs (habs ▸ hne)

theorem makeDirectory_growsOn (h : d.makeDirectory p = .ok d') : GrowsOn p d d' := by
  obtain ⟨at_, hl, he, rfl⟩ := makeDirectory_ok h
  have hsame := components_withoutEndSlashes p
  have hat : at_ = p.place d.workingDirectory := by rw [(locate_ok hl).1, Path.place, Path.place, hsame]
  have hne : at_ ≠ [] := by
    rintro rfl
    cases he
  refine ⟨rfl, fun v => ?_⟩
  by_cases hv : v = at_
  · subst hv
    refine Or.inr ⟨p.components, he, entry?_set_self hne d _, List.prefix_refl _, fun habs => ?_, hat, ?_⟩
    · rw [components_of_absolute habs]
      exact List.cons_ne_nil _ _
    · intro cs' hcs hne'
      change Disk.entry? (d.set v .directory) (cs'.foldl follow d.workingDirectory) = _
      by_cases hu : cs'.foldl follow d.workingDirectory = v
      · rw [hu, entry?_set_self hne]
      · rw [entry?_set_of_ne hu]
        have hover : LeadsOver p d.workingDirectory (cs'.foldl follow d.workingDirectory) := ⟨cs', hcs, hne', rfl⟩
        exact (directory_of_leadsOver hl ((LeadsOver.congr hsame).2 hover)).resolve_right hu
  · exact Or.inl (entry?_set_of_ne hv d _)

theorem Trying.growsOn {r : Except DiskError Unit × Disk} (h : Trying d p r) : GrowsOn p d r.2 := by
  cases h with
  | made h => exact makeDirectory_growsOn h
  | there _ => exact .refl p d
  | refused _ => exact .refl p d

theorem Making.growsOn {r : Except DiskError Unit × Disk} (h : Making d p r) : GrowsOn p d r.2 := by
  induction h with
  | empty _ => exact .refl _ d
  | tried _ h => exact h.growsOn
  | stopped _ habove _ ih => exact ih.of_parent habove
  | continued _ habove _ h ih => exact (ih.of_parent habove).trans h.growsOn

/-- Making directories fills gaps on the way of the path. -/
theorem makeDirectories_growsOn (d : Disk) (p : Path) : GrowsOn p d (d.makeDirectories p).2 := (making d p).growsOn

/-! ## When it fails -/

theorem Passable.parent (hq : p.parent? = some q) (hp : d.Passable p) : d.Passable q := by
  obtain ⟨⟨c, -, hcomponents⟩, -⟩ := parent?_eq_some hq
  have hbegins : q.components <+: p.components := hcomponents ▸ List.prefix_append _ _
  refine ⟨fun v hv => hp.directories v (hv.of_beginning hbegins ?_), fun name hname => hp.short name (hbegins.subset hname)⟩
  rw [isAbsolute_of_parent? hq]
  exact id

theorem Trying.not_passable {r : Except DiskError Unit × Disk} (h : Trying d p r) (hfault : pathFault p = none) {e : DiskError}
    (hr : r.1 = .error e) : ¬r.2.Passable p := by
  cases h with
  | made _ => cases hr
  | there _ => cases hr
  | refused hno => exact fun hp => hno ((isDirectory_iff_passable hfault).2 hp)

theorem Making.ne_empty {e : DiskError} (h : Making d p (.error e, d')) : p.text ≠ "" := by
  cases h with
  | tried hne _ => exact hne
  | stopped hne _ _ => exact hne
  | continued hne _ _ _ => exact hne

theorem Making.not_passable {r : Except DiskError Unit × Disk} (h : Making d p r) (hfault : pathFault p = none) {e : DiskError}
    (hr : r.1 = .error e) : ¬r.2.Passable p := by
  induction h with
  | empty _ => cases hr
  | tried _ h => exact h.not_passable hfault hr
  | stopped _ habove hup ih =>
    obtain ⟨-, hbegins, -⟩ := parent?_eq_some habove
    have hup' := ih (pathFault_of_beginning hfault hbegins hup.ne_empty) hr
    exact fun hp => hup' (hp.parent habove)
  | continued _ _ _ h _ => exact h.not_passable hfault hr

/-- Where making directories fails for a path without a fault, its way cannot be passed afterwards. -/
theorem not_passable_of_makeDirectories {e : DiskError} (hfault : pathFault p = none) (h : d.makeDirectories p = (.error e, d')) :
    ¬d'.Passable p := by
  have hmaking := making d p
  rw [h] at hmaking
  exact hmaking.not_passable hfault rfl

end Disk
end CoEdit
