import CoEdit.Proofs.Disk.Places

/-!
# What operations do to a disk

Nothing but a file or a gap is ever written over, so a directory stays a directory and a file stays a file (`Disk.Keeps`). Paths that lead
somewhere still lead there, and what is in the way of one stays in its way. Making directories only fills gaps (`Disk.Grows`); writing a
file changes one place (`Disk.write_ok`).

On a disk where everything stands in a directory (`Disk.IsTree`), as on every one that operations make from an empty disk, no path that
ends with a step up or on the spot leads to a file.
-/

namespace CoEdit
namespace Disk

variable {d d' d'' : Disk} {at_ v : Place} {p : Path} {e : DiskEntry}

/-! ## Entries -/

@[simp] theorem entry?_nil (d : Disk) : d.entry? [] = some .directory := rfl

theorem lookup_filter_ne (entries : List (Place × DiskEntry)) (h : v ≠ at_) :
    (entries.filter fun x => decide (x.1 ≠ at_)).lookup v = entries.lookup v := by
  induction entries with
  | nil => rfl
  | cons x entries ih =>
    obtain ⟨w, e⟩ := x
    rw [List.filter_cons]
    by_cases hw : w = at_
    · have hv : (v == w) = false := by simpa [hw] using h
      rw [if_neg (by simpa using hw), ih, List.lookup_cons, hv]
    · rw [if_pos (by simpa using hw), List.lookup_cons, List.lookup_cons, ih]

theorem entry?_set_self (h : at_ ≠ []) (d : Disk) (e : DiskEntry) : Disk.entry? (d.set at_ e) at_ = some e := by
  unfold entry? set
  simp [h]

theorem entry?_set_of_ne (h : v ≠ at_) (d : Disk) (e : DiskEntry) : Disk.entry? (d.set at_ e) v = d.entry? v := by
  have hv : (v == at_) = false := by simpa using h
  unfold entry? set
  simp only [List.lookup_cons, hv, lookup_filter_ne _ h]

/-! ## Directories and files stay -/

/-- What was a directory is one, and what was a file is one. -/
structure Keeps (d d' : Disk) : Prop where
  workingDirectory : d'.workingDirectory = d.workingDirectory
  directories : ∀ v, d.entry? v = some .directory → d'.entry? v = some .directory
  files : ∀ v c x, d.entry? v = some (.file c x) → ∃ c' x', d'.entry? v = some (.file c' x')

theorem Keeps.refl (d : Disk) : d.Keeps d := ⟨rfl, fun _ h => h, fun _ c x h => ⟨c, x, h⟩⟩

theorem Keeps.trans (h : d.Keeps d') (h' : d'.Keeps d'') : d.Keeps d'' := by
  refine ⟨h'.workingDirectory.trans h.workingDirectory, fun v hv => h'.directories v (h.directories v hv), ?_⟩
  intro v c x hv
  obtain ⟨c', x', hv'⟩ := h.files v c x hv
  exact h'.files v c' x' hv'

/-- A path that gets to a place still does. -/
theorem Keeps.locate (h : d.Keeps d') (hp : d.locate p = .ok at_) : d'.locate p = .ok at_ := by
  have hfault := pathFault_of_locate hp
  rw [locate_eq hfault, walk_eq_ok] at hp
  rw [locate_eq hfault, walk_eq_ok, h.workingDirectory]
  exact ⟨hp.1, fun u hu => h.directories u (hp.2.1 u hu), hp.2.2⟩

/-- A path with something in its way still has it in its way. -/
theorem Keeps.locate_error (h : d.Keeps d') {err : DiskError} (hp : d.locate p = .error err) (herr : err ≠ .notFound) :
    d'.locate p = .error err := by
  cases hfault : pathFault p with
  | some fault =>
    unfold Disk.locate at hp ⊢
    rw [hfault] at hp ⊢
    exact hp
  | none =>
    rw [locate_eq hfault] at hp
    rw [locate_eq hfault, h.workingDirectory]
    exact walk_eq_error h.directories h.files hp herr

/-! ## Reading -/

theorem read_eq_ok {content : ByteArray} :
    d.read p = .ok content ↔ ∃ at_ x, d.locate p = .ok at_ ∧ d.entry? at_ = some (.file content x) := by
  unfold read find
  cases d.locate p with
  | error err => simp
  | ok at_ =>
    cases he : d.entry? at_ with
    | none => simp [he]
    | some e =>
      cases e with
      | directory => simp [he]
      | file c x =>
        simp only [Except.ok.injEq, exists_and_left, exists_eq_left', he, Option.some.injEq, DiskEntry.file.injEq]
        exact ⟨fun h => ⟨h, x, rfl⟩, fun h => h.1⟩

/-- A read that fails, but for a gap, fails the same way afterwards. -/
theorem Keeps.read_error (h : d.Keeps d') {err : DiskError} (hp : d.read p = .error err) (herr : err ≠ .notFound) :
    d'.read p = .error err := by
  unfold read find at hp ⊢
  cases hl : d.locate p with
  | error fault =>
    rw [hl] at hp
    cases hp
    rw [h.locate_error hl herr]
  | ok at_ =>
    rw [hl] at hp
    rw [h.locate hl]
    cases he : d.entry? at_ with
    | none =>
      simp only [he] at hp
      cases hp
      exact absurd rfl herr
    | some e =>
      cases e with
      | file c x =>
        simp only [he] at hp
        cases hp
      | directory =>
        simp only [he] at hp
        simp only [h.directories at_ he]
        exact hp

/-- What is read stays the same while its place does. -/
theorem Keeps.read (h : d.Keeps d') {content : ByteArray} (hp : d.read p = .ok content)
    (hsame : d'.entry? (p.place d.workingDirectory) = d.entry? (p.place d.workingDirectory)) : d'.read p = .ok content := by
  obtain ⟨at_, x, hl, he⟩ := read_eq_ok.1 hp
  obtain ⟨rfl, -⟩ := locate_ok hl
  exact read_eq_ok.2 ⟨_, x, h.locate hl, hsame.trans he⟩

/-! ## Making directories -/

/-- Gaps are filled with directories; nothing else happens. -/
structure Grows (d d' : Disk) : Prop where
  workingDirectory : d'.workingDirectory = d.workingDirectory
  entries : ∀ v, d'.entry? v = d.entry? v ∨ d.entry? v = none ∧ d'.entry? v = some .directory

theorem Grows.refl (d : Disk) : d.Grows d := ⟨rfl, fun _ => Or.inl rfl⟩

theorem Grows.trans (h : d.Grows d') (h' : d'.Grows d'') : d.Grows d'' := by
  refine ⟨h'.workingDirectory.trans h.workingDirectory, fun v => ?_⟩
  rcases h.entries v with hv | ⟨hv, hd⟩ <;> rcases h'.entries v with hv' | ⟨hv', hd'⟩
  · exact Or.inl (hv'.trans hv)
  · exact Or.inr ⟨hv ▸ hv', hd'⟩
  · exact Or.inr ⟨hv, hv'.trans hd⟩
  · exact Or.inr ⟨hv, hd'⟩

theorem Grows.keeps (h : d.Grows d') : d.Keeps d' := by
  refine ⟨h.workingDirectory, fun v hv => ?_, fun v c x hv => ⟨c, x, ?_⟩⟩
  · rcases h.entries v with hs | ⟨-, hd⟩
    · exact hs.trans hv
    · exact hd
  · rcases h.entries v with hs | ⟨hn, -⟩
    · exact hs.trans hv
    · rw [hn] at hv
      cases hv

/-- A directory is made where nothing was. -/
theorem makeDirectory_ok (h : d.makeDirectory p = .ok d') :
    ∃ at_, d.locate (withoutEndSlashes p) = .ok at_ ∧ d.entry? at_ = none ∧ d' = d.set at_ .directory := by
  unfold makeDirectory at h
  split at h
  · cases h
  · rename_i at_ hl
    split at h
    · cases h
    · rename_i he
      cases h
      exact ⟨at_, hl, he, rfl⟩

theorem makeDirectory_grows (h : d.makeDirectory p = .ok d') : d.Grows d' := by
  obtain ⟨at_, -, he, rfl⟩ := makeDirectory_ok h
  refine ⟨rfl, fun v => ?_⟩
  by_cases hv : v = at_
  · subst hv
    have hne : v ≠ [] := by
      rintro rfl
      cases he
    exact Or.inr ⟨he, entry?_set_self hne d _⟩
  · exact Or.inl (entry?_set_of_ne hv d _)

/-- What making one directory does, however often, making all that are missing does. -/
theorem makeDirectoriesUpTo_induct {R : Disk → Disk → Prop} (hrefl : ∀ d, R d d) (htrans : ∀ {a b c}, R a b → R b c → R a c)
    (hmade : ∀ {d p d'}, d.makeDirectory p = .ok d' → R d d') (fuel : Nat) (d : Disk) (p : Path) :
    R d (makeDirectoriesUpTo fuel d p).2 := by
  induction fuel generalizing d p with
  | zero => exact hrefl d
  | succ fuel ih =>
    rw [makeDirectoriesUpTo]
    split
    · exact hrefl d
    · split
      · exact hmade (by assumption)
      · split
        · exact hrefl d
        · rename_i above _
          have habove := ih d above
          split
          · rename_i hup
            rw [hup] at habove
            exact habove
          · rename_i hup
            rw [hup] at habove
            split
            · exact htrans habove (hmade (by assumption))
            · split <;> exact habove
      · split <;> exact hrefl d

theorem makeDirectories_grows (d : Disk) (p : Path) : d.Grows (d.makeDirectories p).2 :=
  makeDirectoriesUpTo_induct Grows.refl Grows.trans makeDirectory_grows _ d p

/-! ## Writing -/

/-- A file is written at the place of the path, where there was one or nothing. -/
theorem write_ok {content : ByteArray} (h : d.write p content = .ok d') : ∃ x, d.locate p = .ok (p.place d.workingDirectory) ∧
    d.entry? (p.place d.workingDirectory) ≠ some .directory ∧ d' = d.set (p.place d.workingDirectory) (.file content x) := by
  unfold write at h
  split at h
  · cases h
  · rename_i at_ hl
    obtain ⟨rfl, -⟩ := locate_ok hl
    refine (?_ : ∃ x, _ ∧ _)
    split at h
    · cases h
    · rename_i c x he
      cases h
      exact ⟨x, hl, by simp [he], rfl⟩
    · rename_i he
      split at h
      · cases h
      · cases h
        exact ⟨false, hl, by simp [he], rfl⟩

theorem ne_nil_of_not_directory (h : d.entry? v ≠ some .directory) : v ≠ [] := by
  rintro rfl
  exact h rfl

theorem keeps_set_file (h : d.entry? at_ ≠ some .directory) (content : ByteArray) (x : Bool) : d.Keeps (d.set at_ (.file content x)) := by
  refine ⟨rfl, fun v hv => ?_, fun v c x' hv => ?_⟩
  · have hne : v ≠ at_ := by
      rintro rfl
      exact h hv
    exact (entry?_set_of_ne hne d _).trans hv
  · by_cases hne : v = at_
    · subst hne
      exact ⟨content, x, entry?_set_self (ne_nil_of_not_directory h) d _⟩
    · exact ⟨c, x', (entry?_set_of_ne hne d _).trans hv⟩

theorem write_keeps {content : ByteArray} (h : d.write p content = .ok d') : d.Keeps d' := by
  obtain ⟨x, -, he, rfl⟩ := write_ok h
  exact keeps_set_file he content x

/-- What is written is read again. -/
theorem read_of_write {content : ByteArray} (h : d.write p content = .ok d') : d'.read p = .ok content := by
  obtain ⟨x, hl, he, hd⟩ := write_ok h
  refine read_eq_ok.2 ⟨_, x, (write_keeps h).locate hl, ?_⟩
  rw [hd]
  exact entry?_set_self (ne_nil_of_not_directory he) d _

/-! ## Trees -/

/-- Whatever stands on the disk stands in a directory. -/
def IsTree (d : Disk) : Prop := ∀ above name, d.entry? (above ++ [name]) ≠ none → d.entry? above = some .directory

theorem isTree_empty : empty.IsTree := by
  intro above name h
  cases above with
  | nil => rfl
  | cons n above =>
    exfalso
    apply h
    unfold entry? empty
    simp

/-- What is above something is a directory. -/
theorem IsTree.above (h : d.IsTree) {w : Place} (hv : v <+: w) (hne : v ≠ w) (he : d.entry? w ≠ none) :
    d.entry? v = some .directory := by
  obtain ⟨names, rfl⟩ := hv
  induction names generalizing v with
  | nil => simp at hne
  | cons name names ih =>
    refine h v name ?_
    by_cases hnames : names = []
    · subst hnames
      exact he
    · have hsplit : v ++ [name] ++ names = v ++ name :: names := by simp
      simp [ih (v := v ++ [name]) (by simpa using hnames) (hsplit ▸ he)]

theorem IsTree.dropLast (h : d.IsTree) (he : d.entry? v = some .directory) : d.entry? v.dropLast = some .directory := by
  rcases List.eq_nil_or_concat v with rfl | ⟨above, name, rfl⟩
  · rfl
  · rw [List.concat_eq_append] at he ⊢
    rw [List.dropLast_concat]
    exact h above name (by simp [he])

/-- Something put into a directory, where there is none. -/
theorem IsTree.set (h : d.IsTree) {above : Place} {name : String} (habove : d.entry? above = some .directory)
    (he : d.entry? (above ++ [name]) ≠ some .directory) (e : DiskEntry) : (d.set (above ++ [name]) e).IsTree := by
  intro above' name' hv
  have hne : above' ≠ above ++ [name] := by
    rintro rfl
    rw [entry?_set_of_ne (by simp)] at hv
    exact he (h _ name' hv)
  rw [entry?_set_of_ne hne]
  by_cases hsame : above' ++ [name'] = above ++ [name]
  · rw [(List.append_inj' hsame rfl).1]
    exact habove
  · rw [entry?_set_of_ne hsame] at hv
    exact h _ name' hv

/-- A path leads to a directory, or into one. -/
theorem IsTree.locate (h : d.IsTree) (hp : d.locate p = .ok at_) :
    d.entry? at_ = some .directory ∨ ∃ above name, at_ = above ++ [name] ∧ d.entry? above = some .directory := by
  have hfault := pathFault_of_locate hp
  have hne : p.text ≠ "" := by
    intro hnil
    simp [pathFault, hnil] at hfault
  rw [locate_eq hfault, walk_eq_ok] at hp
  obtain ⟨hat, hpassed, -⟩ := hp
  rcases List.eq_nil_or_concat (steps p) with hnil | ⟨before, name, hsteps⟩
  · exact absurd hnil (steps_ne_nil hne)
  · rw [hsteps, List.concat_eq_append] at hat hpassed
    rw [List.foldl_append] at hat
    rw [passed_append] at hpassed
    have hhere := hpassed _ (List.mem_append_right _ (List.mem_singleton_self _))
    rw [hat, List.foldl_cons, List.foldl_nil, step]
    split
    · exact Or.inl hhere
    · split
      · exact Or.inl (h.dropLast hhere)
      · exact Or.inr ⟨_, name, rfl, hhere⟩

theorem IsTree.makeDirectory (h : d.IsTree) (hd : d.makeDirectory p = .ok d') : d'.IsTree := by
  obtain ⟨at_, hl, he, rfl⟩ := makeDirectory_ok hd
  rcases h.locate hl with hdir | ⟨above, name, rfl, habove⟩
  · rw [he] at hdir
    cases hdir
  · exact h.set habove (by simp [he]) _

theorem IsTree.makeDirectories (h : d.IsTree) (p : Path) : (d.makeDirectories p).2.IsTree :=
  makeDirectoriesUpTo_induct (R := fun d d' => d.IsTree → d'.IsTree) (fun _ => id) (fun hab hbc ha => hbc (hab ha))
    (fun hd h => h.makeDirectory hd) _ d p h

theorem IsTree.write (h : d.IsTree) {content : ByteArray} (hw : d.write p content = .ok d') : d'.IsTree := by
  obtain ⟨x, hl, he, rfl⟩ := write_ok hw
  rcases h.locate hl with hdir | ⟨above, name, hat, habove⟩
  · exact absurd hdir he
  · rw [hat] at he ⊢
    exact h.set habove he _

/-- A path whose last component is a step up leads to a directory. -/
theorem IsTree.parent (h : d.IsTree) {before : List PathComponent} (hp : p.components = before ++ [.parent]) (hl : d.locate p = .ok at_) :
    d.entry? at_ = some .directory := by
  have hover : LeadsOver p d.workingDirectory (before.foldl Path.follow d.workingDirectory) := by
    refine ⟨before, hp ▸ List.prefix_append _ _, fun habs hnil => ?_, rfl⟩
    rw [Path.components_of_absolute habs, hnil] at hp
    cases hp
  have hat : at_ = (before.foldl Path.follow d.workingDirectory).dropLast := by
    rw [(locate_ok hl).1, Path.place, hp, List.foldl_append]
    rfl
  rcases directory_of_leadsOver hl hover with hdir | hsame
  · exact hat ▸ h.dropLast hdir
  · -- only the root is its own parent
    have hlen := congrArg List.length hat
    rw [hsame, List.length_dropLast] at hlen
    have hnil : at_ = [] := List.length_eq_zero_iff.1 (by omega)
    rw [hnil, entry?_nil]

/-- A path with a slash at its end leads to a directory. -/
theorem directory_of_slash (hp : p.text.toList.getLast? = some '/') (hl : d.locate p = .ok at_) : d.entry? at_ = some .directory := by
  obtain ⟨hat, hpassed⟩ := locate_ok hl
  rw [steps_eq, if_pos hp, passed_append, ← foldl_steps, steps_place, ← hat] at hpassed
  exact hpassed at_ (List.mem_append_right _ (List.mem_singleton_self _))

/-! ## Ways to a file -/

/-- What a path that never leads up leads over on its way to a file are directories. -/
theorem IsTree.over_of_no_parent (h : d.IsTree) (hp : .parent ∉ p.components) (he : d.entry? (p.place d.workingDirectory) ≠ none)
    (hover : LeadsOver p d.workingDirectory v) (hne : v ≠ p.place d.workingDirectory) : d.entry? v = some .directory := by
  obtain ⟨cs, ⟨rest, hrest⟩, habs, rfl⟩ := hover
  have hparent : .parent ∉ rest := fun hmem => hp (hrest ▸ List.mem_append_right _ hmem)
  have hdown := Path.prefix_foldl_follow (root_not_mem_of_leadsOver hrest.symm habs) hparent (cs.foldl Path.follow d.workingDirectory)
  rw [← List.foldl_append, hrest] at hdown
  exact h.above hdown hne he

/-- The way to a directory is made of directories. -/
theorem directory_of_isDirectory (h : d.isDirectory p = true) (hover : LeadsOver p d.workingDirectory v) :
    d.entry? v = some .directory := by
  unfold isDirectory at h
  split at h
  · rename_i at_ hfind
    unfold find at hfind
    split at hfind
    · cases hfind
    · rename_i hl
      split at hfind
      · cases hfind
      · rename_i he
        cases hfind
        rcases directory_of_leadsOver hl hover with hdir | rfl
        · exact hdir
        · exact he
  · cases h

/-- A file that a path leads to was led to before, if the way was there. -/
theorem read_of_way {content : ByteArray} (hcwd : d'.workingDirectory = d.workingDirectory) (hread : d'.read p = .ok content)
    (hsame : d'.entry? (p.place d.workingDirectory) = d.entry? (p.place d.workingDirectory))
    (hway : ∀ v, LeadsOver p d.workingDirectory v → v ≠ p.place d.workingDirectory → d.entry? v = some .directory) :
    d.read p = .ok content := by
  obtain ⟨at_, x, hl, he⟩ := read_eq_ok.1 hread
  have hfault := pathFault_of_locate hl
  have hat := (locate_ok hl).1
  rw [locate_eq hfault, walk_eq_ok, hcwd] at hl
  obtain ⟨hfold, hpassed, hnames⟩ := hl
  rw [hcwd] at hat
  subst hat
  refine read_eq_ok.2 ⟨_, x, ?_, hsame ▸ he⟩
  rw [locate_eq hfault, walk_eq_ok]
  refine ⟨hfold, fun u hu => hway u ((mem_passed_iff p _).1 (Or.inl hu)) ?_, hnames⟩
  -- a path does not pass the file it leads to
  rintro rfl
  rw [hpassed _ hu] at he
  cases he

end Disk
end CoEdit
