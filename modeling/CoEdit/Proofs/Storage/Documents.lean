import CoEdit.Proofs.Disk.Growth
import CoEdit.Proofs.Path.Extension
import CoEdit.Storage.Documents
import Mathlib.Data.List.TakeWhile

/-!
# Where documents are stored

The file of a document is found below the root, at the parts of the document's name; the last part has its extension replaced
(`DocumentStore.LeadsTo`). Two kinds of names slip through: one of nothing but slashes, whose file would be the root's own
name with another extension, and one that ends with two dots and an extension, whose path is that of the directory above.
-/

namespace CoEdit

open CoEdit.Path

namespace DocumentStore

variable {s : DocumentStore} {name : String} {p : Path}

/-! ## Parts of names -/

/-- What stands between the slashes of a text, but for nothing and single dots. -/
def partsOf (cs : List Char) : List String := ((pieces cs).filter fun x => x ≠ [] ∧ x ≠ ['.']).map String.ofList

/-- The parts of the name of a document. -/
def nameParts (name : String) : List String := partsOf name.toList

/-- The name of the file for the last part of a name. -/
def fileName (part : String) : String := stemOf part ++ "." ++ extension

/-- Where the file of a document is, from the root. -/
def fileParts (name : String) : List String := (nameParts name).dropLast ++ ((nameParts name).getLast?.map fileName).toList

@[simp] theorem partsOf_slash (cs : List Char) : partsOf ('/' :: cs) = partsOf cs := rfl

theorem ne_empty_of_mem_partsOf {cs : List Char} {part : String} (h : part ∈ partsOf cs) : part ≠ "" := by
  obtain ⟨x, hx, rfl⟩ := List.mem_map.1 h
  have hne : x ≠ [] := (of_decide_eq_true (List.mem_filter.1 hx).2).1
  rintro hnil
  have hlist := congrArg String.toList hnil
  rw [String.toList_ofList] at hlist
  exact hne hlist

/-- Names that lead only down are the parts of the text. -/
theorem inner_eq_partsOf {cs : List Char} (h : ∀ c ∈ Path.inner cs, ∃ name, c = .normal name) :
    Path.inner cs = (partsOf cs).map .normal := by
  unfold Path.inner partsOf at *
  generalize pieces cs = xs at h ⊢
  induction xs with
  | nil => rfl
  | cons x rest ih =>
    rw [List.filterMap_cons] at h ⊢
    rw [List.filter_cons]
    by_cases hskipped : x = [] ∨ x = ['.']
    · have hnone : componentOf false x = none := by
        rcases hskipped with rfl | rfl <;> rfl
      have hnot : decide (x ≠ [] ∧ x ≠ ['.']) = false := by
        rcases hskipped with rfl | rfl <;> rfl
      rw [hnone] at h ⊢
      rw [hnot]
      exact ih h
    · rw [not_or] at hskipped
      have hdots : x ≠ ['.', '.'] := by
        rintro rfl
        obtain ⟨name, hname⟩ := h .parent (by simp [componentOf])
        cases hname
      have hname : componentOf false x = some (.normal (String.ofList x)) := by
        rw [componentOf, if_neg hskipped.1, if_neg hskipped.2, if_neg hdots]
      rw [hname] at h ⊢
      rw [if_pos (decide_eq_true hskipped), List.map_cons, List.map_cons]
      exact congrArg _ (ih fun c hc => h c (List.mem_cons_of_mem _ hc))

/-! ## Relative paths -/

/-- The path that the name of a document is, below the root. -/
def relativePath (name : String) : Path := ⟨String.ofList (withoutLeadingSlashes name.toList)⟩

theorem relativePath_isAbsolute (name : String) : (relativePath name).isAbsolute = false := by
  have hhead := List.head?_dropWhile_not (· = '/') name.toList
  refine decide_eq_false fun habs => ?_
  rw [relativePath, String.toList_ofList, withoutLeadingSlashes] at habs
  rw [habs] at hhead
  cases hhead

/-- A name is slashes and a relative path. -/
theorem exists_slashes (name : String) : ∃ slashes, name.toList = slashes ++ (relativePath name).text.toList ∧ ∀ c ∈ slashes, c = '/' := by
  refine ⟨name.toList.takeWhile (· = '/'), ?_, ?_⟩
  · rw [relativePath, String.toList_ofList, withoutLeadingSlashes, List.takeWhile_append_dropWhile]
  · intro c hc
    simpa using List.mem_takeWhile_imp hc

theorem atBoundary_of_slashes {slashes : List Char} (h : ∀ c ∈ slashes, c = '/') : AtBoundary slashes := by
  rcases List.eq_nil_or_concat slashes with rfl | ⟨before, c, rfl⟩
  · exact Or.inl rfl
  · exact Or.inr ⟨before, by rw [List.concat_eq_append, h c (by simp)]⟩

theorem partsOf_slashes {slashes : List Char} (h : ∀ c ∈ slashes, c = '/') (cs : List Char) : partsOf (slashes ++ cs) = partsOf cs := by
  induction slashes with
  | nil => rfl
  | cons c slashes ih =>
    rw [h c List.mem_cons_self, List.cons_append, partsOf_slash]
    exact ih fun c hc => h c (List.mem_cons_of_mem _ hc)

theorem nameParts_eq (name : String) : nameParts name = partsOf (relativePath name).text.toList := by
  obtain ⟨slashes, hname, hslashes⟩ := exists_slashes name
  rw [nameParts, hname, partsOf_slashes hslashes]

theorem endsInParent_relativePath (name : String) : EndsInParent (relativePath name).text.toList ↔ EndsInParent name.toList := by
  obtain ⟨slashes, hname, hslashes⟩ := exists_slashes name
  rw [hname, endsInParent_append (atBoundary_of_slashes hslashes)]

theorem relativePath_empty_iff (name : String) : (relativePath name).text.toList = [] ↔ ∀ c ∈ name.toList, c = '/' := by
  simp [relativePath, withoutLeadingSlashes, List.dropWhile_eq_nil_iff]

theorem leadsDown_iff (p : Path) : leadsDown p = true ↔ ∀ c ∈ p.components, ∃ name, c = .normal name := by
  rw [leadsDown, List.all_eq_true]
  refine forall₂_congr fun c _ => ?_
  cases c <;> simp

/-- The components of an accepted name are its parts. -/
theorem components_relativePath (h : leadsDown (relativePath name) = true) :
    (relativePath name).components = (nameParts name).map .normal := by
  have hnames := (leadsDown_iff _).1 h
  have hinner := components_of_names (relativePath_isAbsolute name) hnames
  rw [hinner] at hnames ⊢
  rw [inner_eq_partsOf hnames, nameParts_eq]

/-! ## Paths of documents -/

theorem documentPath_ok (h : s.documentPath name = .ok p) :
    leadsDown (relativePath name) = true ∧ p = (s.root.join (relativePath name)).withExtension extension := by
  unfold documentPath at h
  dsimp only at h
  split at h
  · cases h
  · rename_i hvalid
    rw [not_or, Classical.not_not] at hvalid
    exact ⟨hvalid.2, (Except.ok.inj h).symm⟩

/-- A name with a character other than the slash, which does not end with two dots and an extension. -/
def IsOrdinary (name : String) : Prop := (∃ c ∈ name.toList, c ≠ '/') ∧ ¬EndsInParent name.toList

/-- Where the name of a document leads. -/
inductive LeadsTo (s : DocumentStore) (name : String) (p : Path) : Prop where
  /-- An ordinary name leads below the root. -/
  | below (ordinary : IsOrdinary name) (parts : nameParts name ≠ [])
      (hp : p.components = s.root.components ++ (fileParts name).map .normal)
  /-- A name that ends with two dots and an extension leads to the directory above. -/
  | above (dots : EndsInParent name.toList)
      (hp : p.components = s.root.components ++ (nameParts name).dropLast.map .normal ++ [.parent])
  /-- A name of slashes leads to a file beside the root. -/
  | beside (slashes : ∀ c ∈ name.toList, c = '/') (before : List PathComponent) (x : String)
      (hroot : s.root.components = before ++ [.normal x]) (hp : p.components = before ++ [.normal (fileName x)])
  /-- It leads to the root itself if that does not end with a name. -/
  | root (slashes : ∀ c ∈ name.toList, c = '/') (hp : p.components = s.root.components)
      (text : p.text = "" ∨ p.text.toList.getLast? = some '/')

theorem extension_ok : extension.toList ≠ [] ∧ '/' ∉ extension.toList := by decide

/-- Nothing is added to the root but a slash. -/
theorem leadsTo_of_slashes (hslashes : ∀ c ∈ name.toList, c = '/') :
    LeadsTo s name ((s.root.join ⟨""⟩).withExtension extension) := by
  have hsame : (s.root.join ⟨""⟩).components = s.root.components := by
    rw [components_join rfl (by simp [components_eq])]
    exact List.append_nil _
  obtain ⟨dir, htext, hdir, -⟩ := text_join (p := s.root) (q := ⟨""⟩) rfl
  have hdir' : (s.root.join ⟨""⟩).text.toList = dir := by simpa using htext
  cases hx : (s.root.join ⟨""⟩).fileName? with
  | none =>
    have hp : (s.root.join ⟨""⟩).withExtension extension = s.root.join ⟨""⟩ := by rw [withExtension, hx]
    rw [hp]
    refine .root hslashes hsame ?_
    rw [← String.toList_eq_nil_iff, hdir']
    rcases hdir with rfl | ⟨b, rfl⟩
    · exact Or.inl rfl
    · exact Or.inr (by simp)
  | some x =>
    obtain ⟨before, hbefore, ⟨-, hp⟩ | ⟨hdots, -⟩⟩ := withExtension_cases hx extension_ok.1 extension_ok.2
    · exact .beside hslashes before x (hsame.symm.trans hbefore) hp
    · rw [hdir', ← List.append_nil dir, endsInParent_append hdir] at hdots
      obtain ⟨pre, ext, hsplit, -⟩ := hdots
      simp at hsplit

/-- The last part has its extension replaced, or is dropped for a step up. -/
theorem leadsTo_of_parts (hdown : leadsDown (relativePath name) = true) (hne : (relativePath name).text.toList ≠ []) :
    LeadsTo s name ((s.root.join (relativePath name)).withExtension extension) := by
  have hcomponents := components_relativePath hdown
  have hrelative := relativePath_isAbsolute name
  have hjoin := components_join (p := s.root) hrelative ((leadsDown_iff _).1 hdown)
  obtain ⟨dir, htext, hdir, -⟩ := text_join (p := s.root) hrelative
  have hends : EndsInParent (s.root.join (relativePath name)).text.toList ↔ EndsInParent name.toList := by
    rw [htext, endsInParent_append hdir, endsInParent_relativePath]
  have hparts : nameParts name ≠ [] := by
    intro hnil
    rw [hnil, List.map_nil, components_eq] at hcomponents
    exact componentsOf_ne_nil hne hcomponents
  obtain ⟨above, part, hsplit⟩ := (List.eq_nil_or_concat (nameParts name)).resolve_left hparts
  rw [List.concat_eq_append] at hsplit
  rw [hcomponents, hsplit, List.map_append, ← List.append_assoc] at hjoin
  obtain ⟨before, hbefore, hp⟩ := withExtension_cases (fileName?_of_components hjoin) extension_ok.1 extension_ok.2
  rw [hjoin] at hbefore
  obtain ⟨rfl, -⟩ := List.append_inj' hbefore rfl
  rcases hp with ⟨hdots, hp⟩ | ⟨hdots, hp⟩
  · have hchar : ∃ c ∈ name.toList, c ≠ '/' := by
      rw [Ne, relativePath_empty_iff] at hne
      simpa using hne
    refine .below ⟨hchar, fun h => hdots (hends.2 h)⟩ hparts ?_
    rw [hp, fileParts, hsplit]
    simp [fileName]
  · refine .above (hends.1 hdots) ?_
    rw [hp, hsplit]
    simp

theorem documentPath_leadsTo (h : s.documentPath name = .ok p) : LeadsTo s name p := by
  obtain ⟨hdown, hp⟩ := documentPath_ok h
  rw [hp]
  by_cases hempty : (relativePath name).text.toList = []
  · have hrelative : relativePath name = ⟨""⟩ := congrArg Path.mk (String.toList_eq_nil_iff.1 hempty)
    rw [hrelative]
    exact leadsTo_of_slashes ((relativePath_empty_iff name).1 hempty)
  · exact leadsTo_of_parts hdown hempty

/-! ## Below the root -/

/-- The parts of the file are those of the name, but for the last. -/
theorem fileParts_concat {above : List String} {part : String} (h : nameParts name = above ++ [part]) :
    fileParts name = above ++ [fileName part] := by
  simp [fileParts, h]

theorem exists_fileParts (h : nameParts name ≠ []) : ∃ above part, nameParts name = above ++ [part] ∧
    fileParts name = above ++ [fileName part] := by
  obtain ⟨above, part, hsplit⟩ := (List.eq_nil_or_concat (nameParts name)).resolve_left h
  rw [List.concat_eq_append] at hsplit
  exact ⟨above, part, hsplit, fileParts_concat hsplit⟩

theorem fileParts_ne_nil (h : nameParts name ≠ []) : fileParts name ≠ [] := by
  obtain ⟨above, part, -, hparts⟩ := exists_fileParts h
  rw [hparts]
  exact List.append_ne_nil_of_right_ne_nil _ (List.cons_ne_nil _ _)

/-- A path that leads on from a directory through names, at least one. -/
def IsBelow (p root : Path) : Prop := ∃ names : List String, names ≠ [] ∧ p.components = root.components ++ names.map .normal

/-- A place inside a directory, at whatever depth. -/
def Inside (above v : Place) : Prop := ∃ names : List String, names ≠ [] ∧ v = above ++ names

theorem IsBelow.place {root : Path} (h : IsBelow p root) (here : Place) : Inside (root.place here) (p.place here) := by
  obtain ⟨names, hne, hp⟩ := h
  exact ⟨names, hne, place_names hp here⟩

/-- Reading takes content only from below the root, and writing changes files only there. Directories may be made above. -/
structure Confined (s : DocumentStore) (d : Disk) (name : String) : Prop where
  read : ∀ content, s.read d name = .ok content →
    ∃ v x, Inside (s.root.place d.workingDirectory) v ∧ d.entry? v = some (.file content x)
  write : ∀ content v, Disk.entry? (s.write d name content).2 v = d.entry? v ∨
    d.entry? v = none ∧ Disk.entry? (s.write d name content).2 v = some .directory ∨ Inside (s.root.place d.workingDirectory) v

theorem read_eq_ok (hp : s.documentPath name = .ok p) {d : Disk} {content : ByteArray} :
    s.read d name = .ok content ↔ d.read p = .ok content := by
  unfold read
  rw [hp]
  dsimp only
  cases d.read p <;> simp [Except.mapError]

/-- Directories are made for the parent of the path; then the file is written, or not. -/
theorem write_stages (hp : s.documentPath name = .ok p) (d : Disk) (content : ByteArray) :
    (∃ e, s.write d name content = (.error e, (d.makeDirectories (p.parent?.getD ⟨""⟩)).2)) ∨
      ∃ d', (d.makeDirectories (p.parent?.getD ⟨""⟩)).2.write p content = .ok d' ∧ s.write d name content = (.ok (), d') := by
  unfold write
  rw [hp]
  dsimp only
  split
  · rename_i e d₁ hmade
    exact Or.inl ⟨_, by rw [hmade]⟩
  · rename_i d₁ hmade
    rw [hmade]
    cases hw : d₁.write p content with
    | error e => exact Or.inl ⟨_, rfl⟩
    | ok d' => exact Or.inr ⟨d', rfl, rfl⟩

/-- Writing makes directories and then, unless that fails, writes the file. -/
theorem write_cases (hp : s.documentPath name = .ok p) (d : Disk) (content : ByteArray) :
    ∃ d₁ : Disk, d.Grows d₁ ∧ (d.IsTree → d₁.IsTree) ∧ ((∃ e, s.write d name content = (.error e, d₁)) ∨
      ∃ d', d₁.write p content = .ok d' ∧ s.write d name content = (.ok (), d')) :=
  ⟨_, Disk.makeDirectories_grows d _, fun h => h.makeDirectories _, write_stages hp d content⟩

theorem confined_of_isBelow (hp : s.documentPath name = .ok p) (hbelow : IsBelow p s.root) (d : Disk) : Confined s d name := by
  have hplace := hbelow.place d.workingDirectory
  constructor
  · intro content hread
    obtain ⟨at_, x, hl, he⟩ := Disk.read_eq_ok.1 ((read_eq_ok hp).1 hread)
    obtain ⟨rfl, -⟩ := Disk.locate_ok hl
    exact ⟨_, x, hplace, he⟩
  · intro content v
    obtain ⟨d₁, hgrows, -, ⟨e, hw⟩ | ⟨d', hd, hw⟩⟩ := write_cases hp d content
    · rw [hw]
      exact (hgrows.entries v).imp_right Or.inl
    · rw [hw]
      obtain ⟨x, -, -, rfl⟩ := Disk.write_ok hd
      rw [hgrows.workingDirectory]
      by_cases hv : v = p.place d.workingDirectory
      · exact Or.inr (Or.inr (hv ▸ hplace))
      · rw [Disk.entry?_set_of_ne hv]
        exact (hgrows.entries v).imp_right Or.inl

theorem extension?_of_components {before : List PathComponent} {part : String} (hpart : part ≠ "")
    (hp : p.components = before ++ [.normal (fileName part)]) : p.extension? = some extension := by
  have hstem := stem_ne_nil (x := part.toList) (fun h => hpart (String.toList_eq_nil_iff.1 h))
  have hname : (fileName part).toList = (stemAndExtension part.toList).1 ++ '.' :: extension.toList := by
    simp [fileName, stemOf]
  rw [extension?, fileName?_of_components hp, Option.bind_some, hname, stemAndExtension_append hstem (by decide)]
  simp

/-- Where a name is accepted, its path is below the root and has the extension of documents if the name is ordinary, and only then. Reading
and writing a document of an ordinary name touches no file but below the root. -/
theorem documentPath_confined (h : s.documentPath name = .ok p) :
    (IsBelow p s.root ∧ p.extension? = some extension ↔ IsOrdinary name) ∧ (IsOrdinary name → ∀ d, Confined s d name) := by
  have hordinary : IsOrdinary name → IsBelow p s.root ∧ p.extension? = some extension := by
    intro hname
    cases documentPath_leadsTo h with
    | below _ hparts hp =>
      refine ⟨⟨fileParts name, fileParts_ne_nil hparts, hp⟩, ?_⟩
      obtain ⟨above, part, hsplit, hfile⟩ := exists_fileParts hparts
      rw [hfile, List.map_append, ← List.append_assoc] at hp
      have hpart : part ∈ nameParts name := by simp [hsplit]
      exact extension?_of_components (ne_empty_of_mem_partsOf hpart) hp
    | above hdots _ => exact absurd hdots hname.2
    | beside hslashes _ _ _ _ =>
      obtain ⟨c, hc, hne⟩ := hname.1
      exact absurd (hslashes c hc) hne
    | root hslashes _ _ =>
      obtain ⟨c, hc, hne⟩ := hname.1
      exact absurd (hslashes c hc) hne
  refine ⟨⟨?_, hordinary⟩, fun hname d => confined_of_isBelow h (hordinary hname).1 d⟩
  rintro ⟨⟨names, hne, hbelow⟩, -⟩
  cases documentPath_leadsTo h with
  | below hname _ _ => exact hname
  | above _ hp =>
    obtain ⟨init, last, rfl⟩ := (List.eq_nil_or_concat names).resolve_left hne
    have hlast := congrArg List.getLast? (hp.symm.trans hbelow)
    simp at hlast
  | beside _ before x hroot hp =>
    have hlength := congrArg List.length (hp.symm.trans hbelow)
    rw [hroot] at hlength
    have hpos := List.length_pos_iff.2 hne
    simp only [List.length_append, List.length_singleton, List.length_map] at hlength
    omega
  | root _ hp _ =>
    have hnil := List.self_eq_append_right.1 (hp.symm.trans hbelow)
    exact absurd (List.map_eq_nil_iff.1 hnil) hne

/-- A document in a directory below the root. -/
theorem documentPath_confined_nested : IsBelow ⟨"docs/notes/todo.xml"⟩ ⟨"docs"⟩ ∧ ∀ d, Confined ⟨⟨"docs"⟩⟩ d "notes/todo" := by
  have hpath : documentPath ⟨⟨"docs"⟩⟩ "notes/todo" = .ok ⟨"docs/notes/todo.xml"⟩ := by decide +kernel
  have hname : IsOrdinary "notes/todo" := by
    refine ⟨⟨'n', by decide, by decide⟩, ?_⟩
    rintro ⟨before, ext, hsplit, -⟩
    have hdot : '.' ∉ "notes/todo".toList := by decide
    exact hdot (by simp [hsplit])
  obtain ⟨hbelow, hconfined⟩ := documentPath_confined hpath
  exact ⟨(hbelow.2 hname).1, hconfined hname⟩

/-- A name of one slash is accepted, and its file is beside the root. -/
theorem documentPath_beside : documentPath ⟨⟨"docs"⟩⟩ "/" = .ok ⟨"docs.xml"⟩ ∧ ¬IsBelow ⟨"docs.xml"⟩ ⟨"docs"⟩ := by
  have hpath : documentPath ⟨⟨"docs"⟩⟩ "/" = .ok ⟨"docs.xml"⟩ := by decide +kernel
  refine ⟨hpath, ?_⟩
  rintro ⟨names, hne, hbelow⟩
  have hdocs : (⟨"docs"⟩ : Path).components = [.normal "docs"] := by decide +kernel
  have hfile : (⟨"docs.xml"⟩ : Path).components = [.normal "docs.xml"] := by decide +kernel
  rw [hdocs, hfile] at hbelow
  exact absurd (PathComponent.normal.inj (List.cons.inj hbelow).1) (by decide)

/-- A name of two dots and an extension is accepted, and leads up. -/
example : documentPath ⟨⟨"docs"⟩⟩ "..a" = .ok ⟨"docs/.."⟩ := by decide +kernel

end DocumentStore
end CoEdit
