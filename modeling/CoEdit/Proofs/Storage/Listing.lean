import CoEdit.Proofs.Disk.Contents
import CoEdit.Proofs.Storage.Writes

/-!
# What a directory lists

A listing gives the names of what stands in the directory with the extension of documents, in order and each once
(`DocumentStore.list_of_isDirectory`). Under a root that had nothing in it these are the documents that were written directly in the
directory, without their extensions, and directories that are named like the file of a document (`DocumentStore.list_written`).
-/

namespace CoEdit

open CoEdit.Path

namespace DocumentStore

variable {s : DocumentStore} {name dir : String} {p path : Path} {d : Disk} {v : Place}

/-! ## Files and names -/

/-- The document in a file is named by the file's name without the extension. -/
theorem documentOf?_eq_some {f n : String} (hf : IsName f.toList) : documentOf? f = some n ↔ n ≠ "" ∧ f = n ++ "." ++ extension := by
  have hcomponents : (⟨f⟩ : Path).components = [] ++ [.normal f] := components_name hf
  have hname := fileName?_of_components hcomponents
  have hext : (⟨f⟩ : Path).extension? = (stemAndExtension f.toList).2.map String.ofList := by rw [extension?, hname, Option.bind_some]
  have hstem : (⟨f⟩ : Path).stem? = some (stemOf f) := by rw [stem?, hname, Option.map_some, stemOf]
  rw [documentOf?, hext, hstem]
  constructor
  · intro h
    split at h
    · rename_i hxml
      cases h
      rcases stemAndExtension_cases f.toList with hnone | ⟨stem, old, hne, -, hsplit, hsome⟩
      · simp [hnone] at hxml
      · rw [hsome, Option.map_some, Option.some.injEq] at hxml
        rw [stemOf, hsome]
        refine ⟨fun h => hne (by simpa using congrArg String.toList h), String.toList_injective ?_⟩
        simp [hsplit, ← hxml]
    · cases h
  · rintro ⟨hne, rfl⟩
    have hsplit : (n ++ "." ++ extension).toList = n.toList ++ '.' :: extension.toList := by simp
    have hdivided : stemAndExtension (n ++ "." ++ extension).toList = (n.toList, some extension.toList) := by
      rw [hsplit]
      exact stemAndExtension_append (fun h => hne (String.toList_eq_nil_iff.1 h)) (by decide)
    rw [stemOf, hdivided]
    simp

theorem stemOf_ne_empty {part : String} (h : part ≠ "") : stemOf part ≠ "" := by
  intro hempty
  have hne := stem_ne_nil (x := part.toList) fun hnil => h (String.toList_eq_nil_iff.1 hnil)
  exact hne (by simpa [stemOf] using congrArg String.toList hempty)

theorem append_extension_inj {m n : String} (h : m ++ "." ++ extension = n ++ "." ++ extension) : m = n := by
  have hlist := congrArg String.toList h
  simp only [String.toList_append, List.append_assoc] at hlist
  exact String.toList_injective (List.append_cancel_right hlist)

/-! ## The directory of a list -/

theorem ne_dot_of_mem_partsOf {cs : List Char} {part : String} (h : part ∈ partsOf cs) : part ≠ "." := by
  obtain ⟨x, hx, rfl⟩ := List.mem_map.1 h
  have hne : x ≠ ['.'] := (of_decide_eq_true (List.mem_filter.1 hx).2).2
  intro hdot
  have hlist := congrArg String.toList hdot
  rw [String.toList_ofList] at hlist
  exact hne hlist

theorem partsOf_append (a b : List Char) : partsOf (a ++ '/' :: b) = partsOf a ++ partsOf b := by
  rw [partsOf, pieces_append, List.filter_append, List.map_append]
  rfl

theorem partsOf_append_slashes {slashes : List Char} (h : ∀ c ∈ slashes, c = '/') (cs : List Char) :
    partsOf (cs ++ slashes) = partsOf cs := by
  induction slashes generalizing cs with
  | nil => rw [List.append_nil]
  | cons c slashes ih =>
    rw [h c List.mem_cons_self, partsOf_append, ← List.nil_append slashes, ih fun c hc => h c (List.mem_cons_of_mem _ hc)]
    exact List.append_nil _

/-- A text is slashes, what stands between them, and slashes. -/
structure Between (cs core : List Char) (lead trail : List Char) : Prop where
  split : cs = lead ++ core ++ trail
  lead : ∀ c ∈ lead, c = '/'
  trail : ∀ c ∈ trail, c = '/'
  head : core.head? ≠ some '/'

theorem exists_between (cs : List Char) : ∃ lead trail, Between cs (withoutOuterSlashes cs) lead trail := by
  have htrail : withoutLeadingSlashes cs =
      withoutOuterSlashes cs ++ ((withoutLeadingSlashes cs).reverse.takeWhile (· = '/')).reverse := by
    rw [withoutOuterSlashes, ← List.reverse_append, List.takeWhile_append_dropWhile, List.reverse_reverse]
  refine ⟨cs.takeWhile (· = '/'), ((withoutLeadingSlashes cs).reverse.takeWhile (· = '/')).reverse, ?_, ?_, ?_, ?_⟩
  · rw [List.append_assoc, ← htrail, withoutLeadingSlashes, List.takeWhile_append_dropWhile]
  · intro c hc
    simpa using List.mem_takeWhile_imp hc
  · intro c hc
    simpa using List.mem_takeWhile_imp (List.mem_reverse.1 hc)
  · intro hhead
    have hleading : (withoutLeadingSlashes cs).head? = some '/' := by
      rw [htrail, List.head?_append, hhead]
      rfl
    obtain ⟨rest, hrest⟩ := List.head?_eq_some_iff.1 hleading
    have hnot := List.head?_dropWhile_not (fun c => decide (c = '/')) cs
    rw [withoutLeadingSlashes] at hrest
    rw [hrest] at hnot
    simp at hnot

theorem Between.partsOf {cs core lead trail : List Char} (h : Between cs core lead trail) : partsOf cs = partsOf core := by
  rw [h.split, List.append_assoc, partsOf_slashes h.lead, partsOf_append_slashes h.trail]

/-- A directory that is listed is below the root, at the parts of its name. -/
theorem listedDirectory_ok (h : s.listedDirectory dir = .ok path) :
    path.components = s.root.components ++ (partsOf dir.toList).map .normal ∧
      ∃ core lead trail, Between dir.toList core lead trail ∧ componentsOf core = (partsOf dir.toList).map .normal := by
  obtain ⟨lead, trail, hbetween⟩ := exists_between dir.toList
  have hparts := hbetween.partsOf
  unfold listedDirectory at h
  dsimp only at h
  split at h
  · rename_i hempty
    cases h
    rw [← String.toList_eq_nil_iff, String.toList_ofList] at hempty
    have hnil : DocumentStore.partsOf dir.toList = [] := by rw [hparts, hempty]; rfl
    exact ⟨by simp [hnil], _, lead, trail, hbetween, by rw [hnil, hempty]; rfl⟩
  · split at h
    · rename_i hdown
      cases h
      have hnames := (leadsDown_iff _).1 hdown
      have habs : (⟨String.ofList (withoutOuterSlashes dir.toList)⟩ : Path).isAbsolute = false := by
        simpa [isAbsolute] using hbetween.head
      have hcomponents : (⟨String.ofList (withoutOuterSlashes dir.toList)⟩ : Path).components =
          (DocumentStore.partsOf dir.toList).map .normal := by
        have hinner := components_of_names habs hnames
        rw [hinner] at hnames ⊢
        rw [inner_eq_partsOf hnames, String.toList_ofList, hparts]
      exact ⟨by rw [components_join habs hnames, hcomponents], _, lead, trail, hbetween, hcomponents⟩
    · cases h

theorem withoutLeadingSlashes_slashes {slashes : List Char} (h : ∀ c ∈ slashes, c = '/') (cs : List Char) :
    withoutLeadingSlashes (slashes ++ cs) = withoutLeadingSlashes cs :=
  List.dropWhile_append_of_pos fun c hc => by simpa using h c hc

theorem withoutLeadingSlashes_of_head {cs : List Char} (h : cs.head? ≠ some '/') : withoutLeadingSlashes cs = cs := by
  cases cs with
  | nil => rfl
  | cons c cs => exact List.dropWhile_cons_of_neg (by simpa using h)

/-- A name in a directory that can be listed is accepted, and has the parts of the directory and itself. -/
theorem leadsDown_inside (h : s.listedDirectory dir = .ok path) {n : String} (hn : IsName n.toList) :
    leadsDown (relativePath (dir ++ "/" ++ n)) = true ∧ nameParts (dir ++ "/" ++ n) = partsOf dir.toList ++ [n] := by
  obtain ⟨-, core, lead, trail, hbetween, hcore⟩ := listedDirectory_ok h
  have hsplit : (dir ++ "/" ++ n).toList = dir.toList ++ '/' :: n.toList := by simp
  have hparts : partsOf n.toList = [n] := by
    rw [partsOf, pieces_of_not_mem hn.slashless]
    simp [hn.ne_nil, hn.ne_dot]
  have hhead : n.toList.head? ≠ some '/' := fun hc => hn.slashless (List.mem_of_mem_head? hc)
  have hrelative : (relativePath (dir ++ "/" ++ n)).text.toList = withoutLeadingSlashes (core ++ (trail ++ '/' :: n.toList)) := by
    rw [relativePath, String.toList_ofList, hsplit, hbetween.split, List.append_assoc, List.append_assoc,
      withoutLeadingSlashes_slashes hbetween.lead]
  have hcomponents : (relativePath (dir ++ "/" ++ n)).components = (partsOf dir.toList ++ [n]).map .normal := by
    rw [components_eq, hrelative, List.map_append, ← hcore]
    by_cases hempty : core = []
    · have hslashes : ∀ c ∈ trail ++ ['/'], c = '/' := by
        intro c hc
        rcases List.mem_append.1 hc with hc | hc
        · exact hbetween.trail c hc
        · exact List.mem_singleton.1 hc
      have htrail : trail ++ '/' :: n.toList = (trail ++ ['/']) ++ n.toList := by simp
      rw [hempty, List.nil_append, htrail, withoutLeadingSlashes_slashes hslashes, withoutLeadingSlashes_of_head hhead]
      exact (components_eq ⟨n⟩).symm.trans (components_name hn)
    · have hfront : (core ++ (trail ++ '/' :: n.toList)).head? ≠ some '/' := by
        rw [List.head?_append, List.head?_eq_some_head hempty, Option.some_or, ← List.head?_eq_some_head hempty]
        exact hbetween.head
      rw [withoutLeadingSlashes_of_head hfront, ← List.append_assoc, componentsOf_append (by simp [hempty]),
        componentsOf_append_slashes hempty hbetween.trail, inner_of_not_mem hn.slashless, hn.componentOf, String.ofList_toList]
      rfl
  refine ⟨(leadsDown_iff _).2 fun c hc => ?_, ?_⟩
  · obtain ⟨part, -, rfl⟩ := List.mem_map.1 (hcomponents ▸ hc)
    exact ⟨part, rfl⟩
  · rw [nameParts, hsplit, partsOf_append, hparts]

/-! ## Ways to documents -/

/-- A document below the root has its file's name at the end of its path. -/
theorem documentPath_text (hp : s.documentPath name = .ok p) {above : List String} {part : String}
    (hsplit : nameParts name = above ++ [part]) (hcomponents : p.components = s.root.components ++ (fileParts name).map .normal) :
    ∃ pre, p.text.toList = pre ++ (fileName part).toList ∧ AtBoundary pre ∧ IsName (fileName part).toList ∧
      (Disk.before pre).components = s.root.components ++ above.map .normal := by
  obtain ⟨hdown, hpath⟩ := documentPath_ok hp
  have hjoin := components_join (p := s.root) (relativePath_isAbsolute name) ((leadsDown_iff _).1 hdown)
  rw [components_relativePath hdown, hsplit, List.map_append, ← List.append_assoc] at hjoin
  obtain ⟨pre, skipped, hl, ⟨-, htext⟩ | ⟨-, htext⟩⟩ := withExtension_text (fileName?_of_components hjoin) extension
  · have hfile : (fileName part).toList = (stemAndExtension part.toList).1 ++ '.' :: extension.toList := by simp [fileName, stemOf]
    rw [← hpath] at htext
    refine ⟨pre, by rw [htext, hfile], hl.boundary, hfile ▸ hl.isName.stem extension_ok.1 extension_ok.2, ?_⟩
    have hlast := hl.components
    rw [← components_eq, hjoin] at hlast
    rw [components_eq, String.toList_ofList]
    exact (List.append_inj' hlast rfl).1.symm
  · have hparent := congrArg List.getLast? ((hl.components_dots (hpath ▸ htext)).symm.trans hcomponents)
    rw [fileParts_concat hsplit, List.map_append, ← List.append_assoc] at hparent
    simp at hparent

/-- A document is found where it is, if the way to its directory can be passed and the name of its file is not too long. -/
theorem locate_document (hp : s.documentPath name = .ok p) {above : List String} {part : String}
    (hsplit : nameParts name = above ++ [part]) (hcomponents : p.components = s.root.components ++ (fileParts name).map .normal)
    (hfault : Disk.pathFault p = none) (hpath : path.components = s.root.components ++ above.map .normal) {at_ : Place} :
    d.locate p = .ok at_ ↔
      at_ = p.place d.workingDirectory ∧ d.Passable path ∧ (fileName part).utf8ByteSize ≤ Disk.nameLimit := by
  obtain ⟨pre, htext, hboundary, hname, hbefore⟩ := documentPath_text hp hsplit hcomponents
  have hsame := hbefore.trans hpath.symm
  rw [Disk.locate_end_iff htext hboundary hname hfault, String.ofList_toList]
  exact and_congr_right fun _ => and_congr_left fun _ => ⟨fun h => h.congr hsame.symm, fun h => h.congr hsame⟩

/-! ## Roots that had nothing in them -/

variable {ws : List (String × ByteArray)} {parts : List String}

theorem sound_write (h : d.Sound) (s : DocumentStore) (name : String) (content : ByteArray) : (s.write d name content).2.Sound := by
  cases hp : s.documentPath name with
  | error e =>
    unfold write
    rw [hp]
    exact h
  | ok p =>
    have hmade := h.makeDirectories (p.parent?.getD ⟨""⟩)
    rcases write_stages hp d content with ⟨e, hw⟩ | ⟨d', hd, hw⟩
    · rw [hw]
      exact hmade
    · rw [hw]
      exact hmade.write hd

theorem sound_writeAll (h : d.Sound) (s : DocumentStore) (ws : List (String × ByteArray)) : (s.writeAll d ws).Sound := by
  induction ws using List.reverseRecOn with
  | nil => exact h
  | append_singleton ws w ih =>
    rw [writeAll_concat]
    exact sound_write ih s w.1 w.2

/-- There is nothing in the root, at whatever depth. -/
def IsBare (s : DocumentStore) (d : Disk) : Prop := ∀ v, Inside (s.root.place d.workingDirectory) v → d.entry? v = none

/-- The files below a root that had nothing in it are those of the documents that were written. -/
theorem written_of_file (tree : d.IsTree) (hbare : IsBare s d) (hne : parts ≠ []) {c : ByteArray} {x : Bool}
    (he : Disk.entry? (s.writeAll d ws) (s.root.place d.workingDirectory ++ parts) = some (.file c x)) :
    ∃ m ∈ s.written d ws, nameParts m ≠ [] ∧ fileParts m = parts := by
  induction ws using List.reverseRecOn generalizing c x with
  | nil =>
    rw [writeAll_nil, hbare _ ⟨parts, hne, rfl⟩] at he
    cases he
  | append_singleton ws w ih =>
    obtain ⟨htree, hkeeps⟩ := writeAll_keeps tree s ws
    rw [writeAll_concat] at he
    rcases (write_changes htree s w.1 w.2).2.2 (s.root.place d.workingDirectory ++ parts) with hsame | hchange
    · obtain ⟨m, hm, hparts⟩ := ih (hsame.symm.trans he)
      exact ⟨m, mem_written_concat.2 (Or.inl hm), hparts⟩
    · cases hchange with
      | onWay _ is _ =>
        rw [is] at he
        cases he
      | below _ _ _ _ is _ =>
        rw [is] at he
        cases he
      | file _ hfile place _ done =>
        rw [hkeeps.workingDirectory] at place
        exact ⟨w.1, mem_written_concat.2 (Or.inr ⟨rfl, done⟩), hfile.parts_eq hne place.symm⟩

/-- The way to a root that does not lead up, or that is there, makes no directories inside the root. -/
theorem not_inside_of_onWay (hroot : .parent ∉ s.root.components ∨ d.isDirectory s.root = true) (hwas : d.entry? v = none)
    (hover : Disk.LeadsOver s.root d.workingDirectory v) : ¬Inside (s.root.place d.workingDirectory) v := by
  rintro ⟨names, hne, rfl⟩
  rcases hroot with hparent | hdir
  · obtain ⟨cs, ⟨rest, hrest⟩, habs, hplace⟩ := hover
    have hdown := prefix_foldl_follow (Disk.root_not_mem_of_leadsOver hrest.symm habs)
      (fun hmem => hparent (hrest ▸ List.mem_append_right _ hmem)) (cs.foldl follow d.workingDirectory)
    rw [← List.foldl_append, hrest, ← hplace, ← Path.place] at hdown
    have hlength := hdown.length_le
    have hpos := List.length_pos_iff.2 hne
    rw [List.length_append] at hlength
    omega
  · rw [Disk.directory_of_isDirectory hdir hover] at hwas
    cases hwas

/-- The directories below a root that had nothing in it are those that names lead through. -/
theorem exists_of_directory (tree : d.IsTree) (hbare : IsBare s d)
    (hroot : .parent ∉ s.root.components ∨ d.isDirectory s.root = true) (hne : parts ≠ [])
    (he : Disk.entry? (s.writeAll d ws) (s.root.place d.workingDirectory ++ parts) = some .directory) :
    ∃ w ∈ ws, parts <+: (nameParts w.1).dropLast := by
  induction ws using List.reverseRecOn with
  | nil =>
    rw [writeAll_nil, hbare _ ⟨parts, hne, rfl⟩] at he
    cases he
  | append_singleton ws w ih =>
    obtain ⟨htree, hkeeps⟩ := writeAll_keeps tree s ws
    have hcwd := hkeeps.workingDirectory
    rw [writeAll_concat] at he
    rcases (write_changes htree s w.1 w.2).2.2 (s.root.place d.workingDirectory ++ parts) with hsame | hchange
    · obtain ⟨u, hu, hparts⟩ := ih (hsame.symm.trans he)
      exact ⟨u, List.mem_append_left _ hu, hparts⟩
    · cases hchange with
      | onWay was _ leads =>
        exact absurd ⟨parts, hne, by rw [hcwd]⟩ (not_inside_of_onWay (hroot.imp_right hkeeps.isDirectory) was leads)
      | below _ hparts place _ _ _ =>
        rw [hcwd] at place
        exact ⟨w, by simp, List.append_cancel_left place ▸ hparts⟩
      | file _ _ _ is _ =>
        rw [is] at he
        cases he

/-- Where a document was written its directory is reached, and its file is there. -/
theorem reached_of_written (tree : d.IsTree) {m : String} (hm : m ∈ s.written d ws) {above : List String} {part : String}
    (hsplit : nameParts m = above ++ [part]) (hpath : path.components = s.root.components ++ above.map .normal) :
    Disk.Passable (s.writeAll d ws) path ∧ (fileName part).utf8ByteSize ≤ Disk.nameLimit ∧
      (∃ q, Disk.pathFault q = none ∧ q.components = path.components ++ [.normal (fileName part)]) ∧
      ∃ c x, Disk.entry? (s.writeAll d ws) (path.place d.workingDirectory ++ [fileName part]) = some (.file c x) := by
  obtain ⟨p, hp, hfile, hl, c, x, he⟩ := file_of_written tree hm
  have hne : nameParts m ≠ [] := by simp [hsplit]
  have hcomponents : p.components = s.root.components ++ (fileParts m).map .normal := by
    cases hfile with
    | below _ hcomponents => exact hcomponents
    | beside hnil _ _ _ _ => exact absurd hnil hne
  have hfault := Disk.pathFault_of_locate hl
  obtain ⟨-, hpassable, hshort⟩ := (locate_document hp hsplit hcomponents hfault hpath).1 hl
  have hlast : p.components = path.components ++ [fileName part].map .normal := by
    rw [hcomponents, fileParts_concat hsplit, List.map_append, ← List.append_assoc, ← hpath]
  refine ⟨hpassable, hshort, ⟨p, hfault, hlast⟩, c, x, ?_⟩
  rw [← he, place_names hlast, Path.place]

/-! ## Lists -/

/-- Names that are all different are strictly ascending once they are sorted. -/
theorem mergeSort_ascending {names : List String} (h : names.Nodup) :
    (names.mergeSort fun a b => decide (a ≤ b)).Pairwise (· < ·) := by
  have htrans : ∀ a b c : String, decide (a ≤ b) → decide (b ≤ c) → decide (a ≤ c) := fun a b c hab hbc =>
    decide_eq_true (String.le_trans (of_decide_eq_true hab) (of_decide_eq_true hbc))
  have htotal : ∀ a b : String, decide (a ≤ b) || decide (b ≤ a) := fun a b => by simpa using String.le_total a b
  have hsorted := List.pairwise_mergeSort htrans htotal names
  have hnodup := (List.mergeSort_perm names fun a b => decide (a ≤ b)).nodup_iff.2 h
  refine hsorted.imp₂ (fun a b hab hne => ?_) hnodup
  exact String.not_le.1 fun hba => hne (String.le_antisymm (of_decide_eq_true hab) hba)

theorem list_eq (hdir : s.listedDirectory dir = .ok path) (files : List String) (h : d.list path = .ok files) :
    s.list d dir = .ok ((files.filterMap documentOf?).mergeSort fun a b => decide (a ≤ b)) := by
  rw [list, hdir]
  dsimp only
  rw [h]

/-- A directory lists what stands there with the extension of documents, in order and each once. -/
theorem list_of_isDirectory (sound : d.Sound) (hdir : s.listedDirectory dir = .ok path) (h : d.isDirectory path = true) :
    ∃ names, s.list d dir = .ok names ∧ names.Pairwise (· < ·) ∧
      ∀ n, n ∈ names ↔ n ≠ "" ∧ d.entry? (path.place d.workingDirectory ++ [n ++ "." ++ extension]) ≠ none := by
  obtain ⟨hl, he⟩ := Disk.isDirectory_iff.1 h
  have hlist : d.list path = .ok ((d.childrenOf (path.place d.workingDirectory)).map (·.1)) := by
    unfold Disk.list Disk.find
    rw [hl]
    dsimp only
    rw [he]
  have hnamed : ∀ f, f ∈ (d.childrenOf (path.place d.workingDirectory)).map (·.1) ↔
      d.entry? (path.place d.workingDirectory ++ [f]) ≠ none := by
    intro f
    rw [List.mem_map, Option.ne_none_iff_exists']
    constructor
    · rintro ⟨⟨f, e⟩, hf, rfl⟩
      exact ⟨e, (Disk.mem_childrenOf sound).1 hf⟩
    · rintro ⟨e, hf⟩
      exact ⟨(f, e), (Disk.mem_childrenOf sound).2 hf, rfl⟩
  have hname : ∀ f, f ∈ (d.childrenOf (path.place d.workingDirectory)).map (·.1) → IsName f.toList := fun f hf =>
    sound.named _ ((hnamed f).1 hf) f (by simp)
  refine ⟨_, list_eq hdir _ hlist, mergeSort_ascending ?_, fun n => ?_⟩
  · refine List.pairwise_filterMap.2 ((Disk.nodup_childrenOf sound _).imp_of_mem fun hf hg hne m hm n hn hsame => hne ?_)
    rw [((documentOf?_eq_some (hname _ hf)).1 hm).2, ((documentOf?_eq_some (hname _ hg)).1 hn).2, hsame]
  · rw [List.mem_mergeSort, List.mem_filterMap]
    constructor
    · rintro ⟨f, hf, hn⟩
      obtain ⟨hne, rfl⟩ := (documentOf?_eq_some (hname f hf)).1 hn
      exact ⟨hne, (hnamed _).1 hf⟩
    · rintro ⟨hne, hf⟩
      have hf := (hnamed _).2 hf
      exact ⟨_, hf, (documentOf?_eq_some (hname _ hf)).2 ⟨hne, rfl⟩⟩

/-- A list is of a directory that is there, or empty. -/
theorem list_cases {names : List String} (hdir : s.listedDirectory dir = .ok path) (h : s.list d dir = .ok names) :
    d.isDirectory path = true ∨ names = [] ∧ d.find path = .error .notFound := by
  unfold list at h
  rw [hdir] at h
  dsimp only at h
  unfold Disk.list at h
  unfold Disk.isDirectory
  cases hfind : d.find path with
  | error e =>
    rw [hfind] at h
    cases e <;> cases h
    exact Or.inr ⟨rfl, rfl⟩
  | ok found =>
    obtain ⟨at_, e⟩ := found
    cases e with
    | directory => exact Or.inl rfl
    | file c x =>
      rw [hfind] at h
      cases h

theorem list_ascending (sound : d.Sound) (hdir : s.listedDirectory dir = .ok path) {names : List String} (h : s.list d dir = .ok names) :
    names.Pairwise (· < ·) := by
  rcases list_cases hdir h with hthere | ⟨rfl, -⟩
  · obtain ⟨names', hnames, hascending, -⟩ := list_of_isDirectory sound hdir hthere
    rw [h] at hnames
    cases hnames
    exact hascending
  · exact List.Pairwise.nil

/-- The empty path is never found. -/
theorem list_of_empty (hdir : s.listedDirectory dir = .ok path) (h : path.text = "") (d : Disk) : s.list d dir = .ok [] := by
  have hfault : Disk.pathFault path = some .notFound := by simp [Disk.pathFault, h]
  rw [list, hdir]
  dsimp only
  rw [Disk.list, Disk.find, Disk.locate, hfault]

/-! ## What is listed can be read -/

/-- The document can be read, or its path is too long. -/
def Readable (s : DocumentStore) (d : Disk) (name : String) : Prop :=
  ∃ p, s.documentPath name = .ok p ∧ (Disk.pathFault p = some .nameTooLong ∨ ∃ content, s.read d name = .ok content)

/-- A name that is all stem, and no single dot, names a document in a directory that can be listed. -/
theorem documentPath_inside (hdir : s.listedDirectory dir = .ok path) {n : String} (hn : IsName n.toList) (hwhole : stemOf n = n) :
    ∃ q, s.documentPath (dir ++ "/" ++ n) = .ok q ∧
      q.components = s.root.components ++ (fileParts (dir ++ "/" ++ n)).map .normal := by
  obtain ⟨hdown, -⟩ := leadsDown_inside hdir hn
  have hsplit : (dir ++ "/" ++ n).toList = (dir.toList ++ ['/']) ++ n.toList := by simp
  have hne : dir ++ "/" ++ n ≠ "" := by
    intro hempty
    rw [hempty] at hsplit
    simp at hsplit
  have hslashes : ¬∀ c ∈ (dir ++ "/" ++ n).toList, c = '/' := by
    intro hall
    obtain ⟨c, rest, hlist⟩ := List.exists_cons_of_ne_nil hn.ne_nil
    exact hn.slashless (hall c (by simp [hsplit, hlist]) ▸ by simp [hlist])
  have hdots : ¬EndsInParent (dir ++ "/" ++ n).toList := by
    rintro ⟨before, ext, hends, hbefore, hext, hdot, hslash⟩
    have hpiece : '/' ∉ '.' :: '.' :: ext := by simpa using hslash
    rw [hsplit] at hends
    obtain ⟨-, hlast⟩ := boundary_inj hends (Or.inr ⟨_, rfl⟩) hbefore hn.slashless hpiece
    have hstem : stemAndExtension ('.' :: '.' :: ext) = (['.'], some ext) :=
      stemAndExtension_append (x := ['.']) (List.cons_ne_nil _ _) hdot
    rw [stemOf, hlast, hstem] at hwhole
    exact hn.ne_dot (by simp [← hwhole])
  have hp : s.documentPath (dir ++ "/" ++ n) = .ok ((s.root.join (relativePath (dir ++ "/" ++ n))).withExtension extension) := by
    have hvalid : ¬(dir ++ "/" ++ n = "" ∨ ¬leadsDown (relativePath (dir ++ "/" ++ n)) = true) := by
      rw [not_or, Classical.not_not]
      exact ⟨hne, hdown⟩
    exact if_neg hvalid
  refine ⟨_, hp, ?_⟩
  cases documentPath_leadsTo hp with
  | below _ _ hcomponents => exact hcomponents
  | above hends _ => exact absurd hends hdots
  | beside hall _ _ _ _ => exact absurd hall hslashes
  | root hall _ _ => exact absurd hall hslashes

/-- A document that was written in the directory is read by the name that is listed for it, if that is its whole name. -/
theorem readable_of_written (sound : d.Sound) (hdir : s.listedDirectory dir = .ok path) {m : String} (hm : m ∈ s.written d ws)
    {part : String} (hsplit : nameParts m = partsOf dir.toList ++ [part]) (hwhole : stemOf (stemOf part) = stemOf part)
    (hdot : stemOf part ≠ ".") : Readable s (s.writeAll d ws) (dir ++ "/" ++ stemOf part) := by
  obtain ⟨hpath, -⟩ := listedDirectory_ok hdir
  obtain ⟨hpassable, hshort, ⟨q', hfault', hq'⟩, c, x, he⟩ := reached_of_written sound.tree hm hsplit hpath
  have hfile : IsName (fileName part).toList := (sound_writeAll sound s ws).named _ (by rw [he]; simp) _ (by simp)
  have hname : IsName (stemOf part).toList := by
    refine ⟨fun h => hfile.slashless ?_, fun h => ?_, fun h => hdot (String.toList_injective h), fun h => ?_⟩
    · simp [fileName, h]
    · have hmem : part ∈ nameParts m := by rw [hsplit]; simp
      exact stemOf_ne_empty (ne_empty_of_mem_partsOf hmem) (String.toList_eq_nil_iff.1 h)
    · -- two dots are a dot and an empty extension
      have hstem : stemAndExtension ['.', '.'] = (['.'], some []) := by decide
      rw [stemOf, h, hstem] at hwhole
      exact absurd (congrArg String.toList hwhole) (by simp [h])
  obtain ⟨q, hq, hcomponents⟩ := documentPath_inside hdir hname hwhole
  obtain ⟨-, hparts⟩ := leadsDown_inside hdir hname
  have hsame : fileName (stemOf part) = fileName part := by rw [fileName, hwhole, fileName]
  have hlast : q.components = path.components ++ [fileName part].map .normal := by
    rw [hcomponents, fileParts_concat hparts, hsame, List.map_append, ← List.append_assoc, ← hpath]
  have hne : q.text ≠ "" := by
    intro hempty
    rw [components_eq, hempty] at hlast
    simp at hlast
  refine ⟨q, hq, ?_⟩
  rcases Disk.pathFault_of_components hfault' (fun name hmem => by rw [hq']; exact hlast ▸ hmem) hne with hfault | hlong
  · have hlocate : Disk.locate (s.writeAll d ws) q = .ok (path.place d.workingDirectory ++ [fileName part]) := by
      rw [locate_document hq hparts hcomponents hfault hpath, hsame]
      refine ⟨?_, hpassable, hshort⟩
      rw [(writeAll_keeps sound.tree s ws).2.workingDirectory, place_names hlast, Path.place]
    exact Or.inr ⟨c, (read_eq_ok hq).2 (Disk.read_eq_ok.2 ⟨_, x, hlocate, he⟩)⟩
  · exact Or.inl hlong

/-! ## Lists of what was written -/

/-- A directory in the listed one that is named like the file of a document. -/
def Lookalike (s : DocumentStore) (d : Disk) (dir n : String) : Prop := ∃ path, s.listedDirectory dir = .ok path ∧
  d.isDirectory path = true ∧ n ≠ "" ∧ d.entry? (path.place d.workingDirectory ++ [n ++ "." ++ extension]) = some .directory

/-- The last part of the name has no extension, and none before is named like the file of a document. -/
def IsPlain (name : String) : Prop :=
  (∀ part ∈ (nameParts name).getLast?, stemOf part = part) ∧ ∀ part ∈ (nameParts name).dropLast, documentOf? part = none

theorem place_listed (hdir : s.listedDirectory dir = .ok path) (here : Place) :
    path.place here = s.root.place here ++ partsOf dir.toList := by
  rw [place_names (listedDirectory_ok hdir).1, Path.place]

/-- A list can be had where a document was written in the directory, unless the path of the directory is too long. -/
theorem isDirectory_of_written (tree : d.IsTree) (hdir : s.listedDirectory dir = .ok path) (hne : path.text ≠ "") {m : String}
    (hm : m ∈ s.written d ws) {part : String} (hsplit : nameParts m = partsOf dir.toList ++ [part])
    (hlong : Disk.pathFault path ≠ some .nameTooLong) : Disk.isDirectory (s.writeAll d ws) path = true := by
  obtain ⟨hpath, -⟩ := listedDirectory_ok hdir
  obtain ⟨hpassable, -, ⟨q, hfault, hq⟩, -⟩ := reached_of_written tree hm hsplit hpath
  have hnone := (Disk.pathFault_of_components hfault (fun name hmem => by rw [hq]; exact List.mem_append_left _ hmem)
    hne).resolve_right hlong
  exact (Disk.isDirectory_iff_passable hnone).2 hpassable

/-- What is listed was written, or is a directory that looks like it. -/
theorem mem_list_iff (sound : d.Sound) (bare : IsBare s d) (hdir : s.listedDirectory dir = .ok path) (hne : path.text ≠ "")
    {names : List String} (h : s.list (s.writeAll d ws) dir = .ok names) (n : String) : n ∈ names ↔
      (∃ m ∈ s.written d ws, ∃ part, nameParts m = partsOf dir.toList ++ [part] ∧ n = stemOf part) ∨
        Lookalike s (s.writeAll d ws) dir n := by
  have hsound := sound_writeAll sound s ws
  have hcwd := (writeAll_keeps sound.tree s ws).2.workingDirectory
  rcases list_cases hdir h with hthere | ⟨rfl, hmissing⟩
  · obtain ⟨names', hnames, -, hmem⟩ := list_of_isDirectory hsound hdir hthere
    rw [h] at hnames
    cases hnames
    rw [hmem, hcwd]
    constructor
    · rintro ⟨hname, he⟩
      obtain ⟨e, he⟩ := Option.ne_none_iff_exists'.1 he
      cases e with
      | directory => exact Or.inr ⟨path, hdir, hthere, hname, hcwd ▸ he⟩
      | file c x =>
        left
        rw [place_listed hdir, List.append_assoc] at he
        obtain ⟨m, hm, hparts, hfile⟩ := written_of_file sound.tree bare (by simp) he
        obtain ⟨above, part, hsplit, hfile'⟩ := exists_fileParts hparts
        obtain ⟨rfl, hlast⟩ := List.append_inj' (hfile'.symm.trans hfile) rfl
        exact ⟨m, hm, part, hsplit, (append_extension_inj (List.singleton_inj.1 hlast)).symm⟩
    · rintro (⟨m, hm, part, hsplit, rfl⟩ | ⟨path', hdir', -, hname, he⟩)
      · obtain ⟨-, -, -, c, x, he⟩ := reached_of_written sound.tree hm hsplit (listedDirectory_ok hdir).1
        have hmem : part ∈ nameParts m := by rw [hsplit]; simp
        rw [fileName] at he
        exact ⟨stemOf_ne_empty (ne_empty_of_mem_partsOf hmem), by rw [he]; simp⟩
      · rw [hdir] at hdir'
        cases hdir'
        rw [hcwd] at he
        exact ⟨hname, by rw [he]; simp⟩
  · have hnot : Disk.isDirectory (s.writeAll d ws) path ≠ true := by
      unfold Disk.isDirectory
      rw [hmissing]
      simp
    refine iff_of_false List.not_mem_nil ?_
    rintro (⟨m, hm, part, hsplit, -⟩ | ⟨path', hdir', hthere, -, -⟩)
    · refine hnot (isDirectory_of_written sound.tree hdir hne hm hsplit fun hlong => ?_)
      unfold Disk.find Disk.locate at hmissing
      rw [hlong] at hmissing
      cases hmissing
    · rw [hdir] at hdir'
      cases hdir'
      exact hnot hthere

/-- Names without extensions make no directories that look like documents. -/
theorem not_lookalike_of_plain (sound : d.Sound) (bare : IsBare s d)
    (hroot : .parent ∉ s.root.components ∨ d.isDirectory s.root = true) (hplain : ∀ w ∈ ws, IsPlain w.1) (n : String) :
    ¬Lookalike s (s.writeAll d ws) dir n := by
  rintro ⟨path, hdir, -, hne, he⟩
  have hname := (sound_writeAll sound s ws).named _ (by rw [he]; simp) (n ++ "." ++ extension) (by simp)
  rw [(writeAll_keeps sound.tree s ws).2.workingDirectory, place_listed hdir, List.append_assoc] at he
  obtain ⟨w, hw, hparts⟩ := exists_of_directory sound.tree bare hroot (by simp) he
  have hnone := (hplain w hw).2 (n ++ "." ++ extension) (hparts.subset (by simp))
  rw [(documentOf?_eq_some hname).2 ⟨hne, rfl⟩] at hnone
  cases hnone

/-- Under a root that had nothing in it, a list gives the documents that were written in the directory, in order and each once, but without
their extensions, and directories that look like documents. What it gives can be read, if it is no such directory and the document's whole
name. If no name has an extension where it matters, the list is exactly of what was written, and all of it can be read. Only the directory
with the empty path lists nothing, whatever was written. -/
theorem list_written (sound : d.Sound) (bare : IsBare s d) (hdir : s.listedDirectory dir = .ok path) :
    (path.text = "" → s.list (s.writeAll d ws) dir = .ok []) ∧
    (∀ m ∈ s.written d ws, ∀ part, nameParts m = partsOf dir.toList ++ [part] → Disk.pathFault path ≠ some .nameTooLong →
      ∃ names, s.list (s.writeAll d ws) dir = .ok names) ∧
    ∀ names, s.list (s.writeAll d ws) dir = .ok names → path.text ≠ "" → names.Pairwise (· < ·) ∧
      (∀ n, n ∈ names ↔ (∃ m ∈ s.written d ws, ∃ part, nameParts m = partsOf dir.toList ++ [part] ∧ n = stemOf part) ∨
        Lookalike s (s.writeAll d ws) dir n) ∧
      (∀ n ∈ names, stemOf n = n → n ≠ "." → ¬Lookalike s (s.writeAll d ws) dir n →
        Readable s (s.writeAll d ws) (dir ++ "/" ++ n)) ∧
      ((∀ w ∈ ws, IsPlain w.1) → .parent ∉ s.root.components ∨ d.isDirectory s.root = true →
        ∀ n, (n ∈ names ↔ ∃ m ∈ s.written d ws, nameParts m = partsOf dir.toList ++ [n]) ∧
          (n ∈ names → Readable s (s.writeAll d ws) (dir ++ "/" ++ n))) := by
  have hsound := sound_writeAll sound s ws
  refine ⟨fun hempty => list_of_empty hdir hempty _, fun m hm part hsplit hlong => ?_, fun names hnames hne => ?_⟩
  · by_cases hne : path.text = ""
    · exact ⟨[], list_of_empty hdir hne _⟩
    · have hthere := isDirectory_of_written sound.tree hdir hne hm hsplit hlong
      obtain ⟨names, hnames, -⟩ := list_of_isDirectory hsound hdir hthere
      exact ⟨names, hnames⟩
  · have hmem := mem_list_iff sound bare hdir hne hnames
    have hread : ∀ n ∈ names, stemOf n = n → n ≠ "." → ¬Lookalike s (s.writeAll d ws) dir n →
        Readable s (s.writeAll d ws) (dir ++ "/" ++ n) := by
      intro n hn hwhole hdot hnot
      obtain ⟨m, hm, part, hsplit, rfl⟩ := ((hmem n).1 hn).resolve_right hnot
      exact readable_of_written sound hdir hm hsplit hwhole hdot
    refine ⟨list_ascending hsound hdir hnames, hmem, hread, fun hplain hway n => ?_⟩
    have hnot : ∀ n, ¬Lookalike s (s.writeAll d ws) dir n := not_lookalike_of_plain sound bare hway hplain
    have hwhole : ∀ m ∈ s.written d ws, ∀ part, nameParts m = partsOf dir.toList ++ [part] → stemOf part = part := by
      intro m hm part hsplit
      obtain ⟨w, hw, rfl⟩ := exists_of_mem_written hm
      exact (hplain w hw).1 part (by simp [hsplit])
    have hexact : n ∈ names ↔ ∃ m ∈ s.written d ws, nameParts m = partsOf dir.toList ++ [n] := by
      rw [hmem, or_iff_left (hnot n)]
      constructor
      · rintro ⟨m, hm, part, hsplit, rfl⟩
        exact ⟨m, hm, (hwhole m hm part hsplit).symm ▸ hsplit⟩
      · rintro ⟨m, hm, hsplit⟩
        exact ⟨m, hm, n, hsplit, (hwhole m hm n hsplit).symm⟩
    refine ⟨hexact, fun hn => ?_⟩
    obtain ⟨m, hm, hsplit⟩ := hexact.1 hn
    refine hread n hn (hwhole m hm n hsplit) (fun hdot => ?_) (hnot n)
    have hmem : n ∈ nameParts m := by rw [hsplit]; simp
    exact ne_dot_of_mem_partsOf hmem hdot

theorem isBare_empty : IsBare ⟨⟨"docs"⟩⟩ Disk.empty := by
  have hplace : (⟨"docs"⟩ : Path).place Disk.empty.workingDirectory = ["work", "docs"] := by decide +kernel
  rintro v ⟨names, -, rfl⟩
  rw [hplace]
  simp [ Disk.entry?, Disk.empty, List.lookup_cons]

/-- Two documents of one directory, and one of another. -/
theorem list_written_notes : ∃ d : Disk, d = writeAll ⟨⟨"docs"⟩⟩ Disk.empty [("notes/b", ⟨#[1]⟩), ("a", ⟨#[2]⟩), ("notes/a", ⟨#[3]⟩)] ∧
    list ⟨⟨"docs"⟩⟩ d "notes/" = .ok ["a", "b"] ∧ ∀ n ∈ ["a", "b"], Readable ⟨⟨"docs"⟩⟩ d ("notes/" ++ "/" ++ n) := by
  have hdir : listedDirectory ⟨⟨"docs"⟩⟩ "notes/" = .ok ⟨"docs/notes"⟩ := by decide +kernel
  have hlist : list ⟨⟨"docs"⟩⟩ (writeAll ⟨⟨"docs"⟩⟩ Disk.empty [("notes/b", ⟨#[1]⟩), ("a", ⟨#[2]⟩), ("notes/a", ⟨#[3]⟩)]) "notes/" =
      .ok ["a", "b"] := by
    rw [list_eq hdir ["a.xml", "b.xml"] (by decide +kernel)]
    have hdocuments : ["a.xml", "b.xml"].filterMap documentOf? = ["a", "b"] := by decide +kernel
    rw [hdocuments, List.mergeSort_of_pairwise (by decide +kernel)]
  have hplain : ∀ w ∈ [("notes/b", (⟨#[1]⟩ : ByteArray)), ("a", ⟨#[2]⟩), ("notes/a", ⟨#[3]⟩)], IsPlain w.1 := by
    have hname : ∀ name ∈ ["notes/b", "a", "notes/a"], IsPlain name := by
      unfold IsPlain
      decide +kernel
    intro w hw
    exact hname w.1 (List.mem_map.2 ⟨w, hw, rfl⟩)
  refine ⟨_, rfl, hlist, fun n hn => ?_⟩
  obtain ⟨-, -, -, hread⟩ := (list_written Disk.sound_empty isBare_empty hdir).2.2 _ hlist (by decide)
  exact (hread hplain (Or.inl (by decide +kernel)) n).2 hn

/-- A document loses its extension in the list, and a directory that is named like the file of a document is listed as one. -/
theorem list_misleads : written ⟨⟨"docs"⟩⟩ Disk.empty [("b.xml/c", ⟨#[1]⟩), ("a.x", ⟨#[2]⟩)] = ["b.xml/c", "a.x"] ∧
    ∃ d : Disk, d = writeAll ⟨⟨"docs"⟩⟩ Disk.empty [("b.xml/c", ⟨#[1]⟩), ("a.x", ⟨#[2]⟩)] ∧
      list ⟨⟨"docs"⟩⟩ d "" = .ok ["a", "b"] ∧ read ⟨⟨"docs"⟩⟩ d ("" ++ "/" ++ "b") = .error (.disk ⟨"docs/b.xml"⟩ .isADirectory) := by
  refine ⟨by decide +kernel, _, rfl, ?_, by decide +kernel⟩
  have hdir : listedDirectory ⟨⟨"docs"⟩⟩ "" = .ok ⟨"docs"⟩ := by decide +kernel
  rw [list_eq hdir ["a.xml", "b.xml"] (by decide +kernel)]
  have hdocuments : ["a.xml", "b.xml"].filterMap documentOf? = ["a", "b"] := by decide +kernel
  rw [hdocuments, List.mergeSort_of_pairwise (by decide +kernel)]

end DocumentStore
end CoEdit
