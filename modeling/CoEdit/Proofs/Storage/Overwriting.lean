import CoEdit.Proofs.Storage.Documents

/-!
# What writing a document leaves alone

Two documents share a file if their names have the same parts but for the extension of the last one (`DocumentStore.SameFile`). A write
that succeeds is read again, and whatever could be read of a document with another file is read as before (`DocumentStore.LeavesAlone`).
Not more can be read of it than before, either, unless the root was missing and its path leads up somewhere: then the directories that
the write made may open a way.
-/

namespace CoEdit

open CoEdit.Path

namespace DocumentStore

variable {s : DocumentStore} {n m name : String} {p q : Path} {d d' : Disk} {at_ v : Place}

/-! ## Files of documents -/

/-- Two documents have one file: the parts of their names are the same, but for the extension of the last. -/
def SameFile (n m : String) : Prop :=
  (nameParts n).dropLast = (nameParts m).dropLast ∧ (nameParts n).getLast?.map stemOf = (nameParts m).getLast?.map stemOf

theorem fileName_inj {a b : String} (h : fileName a = fileName b) : stemOf a = stemOf b := by
  have hlist := congrArg String.toList h
  simp only [fileName, String.toList_append, List.append_assoc, List.append_cancel_right_eq] at hlist
  exact String.toList_injective hlist

theorem sameFile_of_fileParts (hn : nameParts n ≠ []) (hm : nameParts m ≠ []) (h : fileParts n = fileParts m) : SameFile n m := by
  obtain ⟨above, part, hparts, hfile⟩ := exists_fileParts hn
  obtain ⟨above', part', hparts', hfile'⟩ := exists_fileParts hm
  rw [hfile, hfile'] at h
  obtain ⟨rfl, hpart⟩ := List.append_inj' h (by simp)
  have hstem := fileName_inj (List.singleton_inj.1 hpart)
  simp [SameFile, hparts, hparts', hstem]

theorem fileParts_of_sameFile (hn : nameParts n ≠ []) (hm : nameParts m ≠ []) (h : SameFile n m) : fileParts n = fileParts m := by
  obtain ⟨above, part, hparts, hfile⟩ := exists_fileParts hn
  obtain ⟨above', part', hparts', hfile'⟩ := exists_fileParts hm
  obtain ⟨habove, hstem⟩ := h
  simp only [hparts, hparts', List.dropLast_concat, List.getLast?_concat, Option.map_some, Option.some.injEq] at habove hstem
  rw [hfile, hfile', habove, fileName, fileName, hstem]

/-- The path of a document that a file may stand at. -/
inductive FileOf (s : DocumentStore) (name : String) (p : Path) : Prop where
  | below (parts : nameParts name ≠ []) (hp : p.components = s.root.components ++ (fileParts name).map .normal)
  | beside (parts : nameParts name = []) (before : List PathComponent) (x : String)
      (hroot : s.root.components = before ++ [.normal x]) (hp : p.components = before ++ [.normal (fileName x)])

/-- On a tree, the other paths lead to directories. -/
theorem fileOf_of_locate (tree : d.IsTree) (hp : s.documentPath name = .ok p) (hl : d.locate p = .ok at_)
    (he : d.entry? at_ ≠ some .directory) : FileOf s name p := by
  cases documentPath_leadsTo hp with
  | below _ parts hp => exact .below parts hp
  | above _ hp => exact absurd (tree.parent hp hl) he
  | beside hslashes before x hroot hp =>
    refine .beside ?_ before x hroot hp
    rw [nameParts, ← List.append_nil name.toList, partsOf_slashes hslashes]
    rfl
  | root _ _ htext =>
    rcases htext with hempty | hslash
    · have hfault := Disk.pathFault_of_locate hl
      simp [Disk.pathFault, hempty] at hfault
    · exact absurd (Disk.directory_of_slash hslash hl) he

/-- Both kinds of paths go on from where the root begins, through names. -/
theorem FileOf.exists_names (h : FileOf s name p) : ∃ (before : List PathComponent) (tail names : List String),
    s.root.components = before ++ tail.map .normal ∧ p.components = before ++ names.map .normal := by
  cases h with
  | below _ hp => exact ⟨s.root.components, [], fileParts name, by simp, hp⟩
  | beside _ before x hroot hp => exact ⟨before, [x], [fileName x], hroot, hp⟩

/-- A file beside the root stands less deep than one below it. -/
theorem place_beside_ne_below {before : List PathComponent} {x : String} {names : List String} (hne : names ≠ [])
    (hroot : s.root.components = before ++ [.normal x]) (hp : p.components = before ++ [.normal (fileName x)])
    (hq : q.components = s.root.components ++ names.map .normal) (here : Place) : p.place here ≠ q.place here := by
  intro h
  rw [hroot, List.append_assoc] at hq
  have hp' : p.place here = before.foldl follow here ++ [fileName x] := place_names hp here
  have hq' : q.place here = before.foldl follow here ++ x :: names := place_names hq here
  have hlength := congrArg List.length (List.append_cancel_left (hp'.symm.trans (h.trans hq')))
  have hpos := List.length_pos_iff.2 hne
  simp only [List.length_cons, List.length_nil] at hlength
  omega

/-- Documents whose files stand at one place share a file. -/
theorem FileOf.sameFile (hp : FileOf s n p) (hq : FileOf s m q) {here : Place} (h : p.place here = q.place here) : SameFile n m := by
  cases hp with
  | below hn hp =>
    cases hq with
    | below hm hq =>
      rw [place_names hp, place_names hq] at h
      exact sameFile_of_fileParts hn hm (List.append_cancel_left h)
    | beside _ before x hroot hq => exact absurd h.symm (place_beside_ne_below (fileParts_ne_nil hn) hroot hq hp here)
  | beside hn before x hroot hp =>
    cases hq with
    | below hm hq => exact absurd h (place_beside_ne_below (fileParts_ne_nil hm) hroot hp hq here)
    | beside hm _ _ _ _ => simp [SameFile, hn, hm]

/-- Documents that share a file are written to one place. -/
theorem FileOf.place_eq (hp : FileOf s n p) (hq : FileOf s m q) (h : SameFile n m) (here : Place) : p.place here = q.place here := by
  have hempty : nameParts n = [] ↔ nameParts m = [] := by
    have hlast := h.2
    rw [← List.getLast?_eq_none_iff, ← Option.map_eq_none_iff (f := stemOf), hlast, Option.map_eq_none_iff, List.getLast?_eq_none_iff]
  cases hp with
  | below hn hp =>
    cases hq with
    | below hm hq => rw [place_names hp, place_names hq, fileParts_of_sameFile hn hm h]
    | beside hm _ _ _ _ => exact absurd (hempty.2 hm) hn
  | beside hn before x hroot hp =>
    cases hq with
    | below hm _ => exact absurd (hempty.1 hn) hm
    | beside _ before' x' hroot' hq =>
      obtain ⟨rfl, hx⟩ := List.append_inj' (hroot.symm.trans hroot') rfl
      cases hx
      rw [Path.place, Path.place, hp, hq]

/-- Where the root is there, so is the way to any file there may be; where the path of the root never leads up, whatever stands somewhere
has the way to it. -/
theorem FileOf.way (h : FileOf s name p) (tree : d.IsTree) (hroot : .parent ∉ s.root.components ∨ d.isDirectory s.root = true)
    (he : d.entry? (p.place d.workingDirectory) ≠ none) (hover : Disk.LeadsOver p d.workingDirectory v)
    (hne : v ≠ p.place d.workingDirectory) : d.entry? v = some .directory := by
  obtain ⟨before, tail, names, hr, hp⟩ := h.exists_names
  rcases hroot with hparent | hdir
  · refine tree.over_of_no_parent ?_ he hover hne
    rw [hp]
    rw [hr] at hparent
    simpa using hparent
  · obtain ⟨cs, ⟨rest, hrest⟩, habs, rfl⟩ := hover
    rw [hp] at hrest
    rcases List.append_eq_append_iff.1 hrest with ⟨more, hmore, -⟩ | ⟨more, -, hnames⟩
    · -- still on the way of the root
      refine Disk.directory_of_isDirectory hdir ⟨cs, ?_, ?_, rfl⟩
      · rw [hr, hmore, List.append_assoc]
        exact List.prefix_append _ _
      · intro hroot
        refine habs ((isAbsolute_iff p).2 ?_)
        have hmem := (isAbsolute_iff s.root).1 hroot
        rw [hr] at hmem
        rw [hp]
        simpa using hmem
    · -- past it, the names lead down
      have hrestNames : ∀ c ∈ rest, ∃ name, .normal name = c := by
        intro c hc
        obtain ⟨name, -, hname⟩ := List.mem_map.1 (hnames ▸ List.mem_append_right more hc)
        exact ⟨name, hname⟩
      have hdown : cs.foldl follow d.workingDirectory <+: p.place d.workingDirectory := by
        rw [Path.place, hp, ← hrest, List.foldl_append]
        refine prefix_foldl_follow ?_ ?_ _
        · intro hmem
          obtain ⟨name, hname⟩ := hrestNames .root hmem
          cases hname
        · intro hmem
          obtain ⟨name, hname⟩ := hrestNames .parent hmem
          cases hname
      exact tree.above hdown hne he

/-! ## Reading after writing -/

theorem read_eq_error (hp : s.documentPath name = .ok p) {path : Path} {cause : DiskError} :
    s.read d name = .error (.disk path cause) ↔ p = path ∧ d.read p = .error cause := by
  unfold read
  rw [hp]
  dsimp only
  cases d.read p <;> simp [Except.mapError]

/-- A write that succeeds puts the content into the file and fills gaps with directories. -/
theorem write_ok (hp : s.documentPath name = .ok p) {content : ByteArray} (hw : s.write d name content = (.ok (), d')) :
    ∃ d₁ : Disk, d.Grows d₁ ∧ (d.IsTree → d₁.IsTree) ∧ d₁.write p content = .ok d' := by
  obtain ⟨d₁, hgrows, htree, ⟨e, he⟩ | ⟨d₂, hd, he⟩⟩ := write_cases hp d content
  · rw [he] at hw
    cases hw
  · rw [he] at hw
    cases hw
    exact ⟨d₁, hgrows, htree, hd⟩

theorem write_keeps (hp : s.documentPath name = .ok p) {content : ByteArray} (hw : s.write d name content = (.ok (), d')) :
    d.Keeps d' := by
  obtain ⟨d₁, hgrows, -, hd⟩ := write_ok hp hw
  exact hgrows.keeps.trans (Disk.write_keeps hd)

/-- After a write that succeeds, the file stands at the place of the document, which may stand nowhere but on a file's path. -/
theorem write_spec (tree : d.IsTree) (hp : s.documentPath name = .ok p) {content : ByteArray}
    (hw : s.write d name content = (.ok (), d')) : FileOf s name p ∧ d'.IsTree ∧
      (∃ x, d'.entry? (p.place d.workingDirectory) = some (.file content x)) ∧
      ∀ v, v ≠ p.place d.workingDirectory → d'.entry? v = d.entry? v ∨ d.entry? v = none ∧ d'.entry? v = some .directory := by
  obtain ⟨d₁, hgrows, htree, hd⟩ := write_ok hp hw
  obtain ⟨x, hl, he, hset⟩ := Disk.write_ok hd
  refine ⟨fileOf_of_locate (htree tree) hp hl he, (htree tree).write hd, ⟨x, ?_⟩, fun v hv => ?_⟩
  · rw [hset, ← hgrows.workingDirectory]
    exact Disk.entry?_set_self (Disk.ne_nil_of_not_directory he) d₁ _
  · rw [hset, hgrows.workingDirectory, Disk.entry?_set_of_ne hv]
    exact hgrows.entries v

/-- What one document's write leaves of the result of reading another. -/
structure LeavesAlone (s : DocumentStore) (d d' : Disk) (name : String) : Prop where
  content : ∀ content, s.read d name = .ok content → s.read d' name = .ok content
  failure : ∀ path cause, cause ≠ .notFound → s.read d name = .error (.disk path cause) → s.read d' name = .error (.disk path cause)
  missing : .parent ∉ s.root.components ∨ d.isDirectory s.root = true → ∀ path, s.read d name = .error (.disk path .notFound) →
    ∀ content, s.read d' name ≠ .ok content

/-- A file that can be read stands at the place of the document, which is one of a file. -/
theorem fileOf_of_read (tree : d.IsTree) (hp : s.documentPath name = .ok p) {content : ByteArray} (hread : d.read p = .ok content) :
    FileOf s name p ∧ ∃ x, d.entry? (p.place d.workingDirectory) = some (.file content x) := by
  obtain ⟨at_, x, hl, he⟩ := Disk.read_eq_ok.1 hread
  obtain ⟨rfl, -⟩ := Disk.locate_ok hl
  exact ⟨fileOf_of_locate tree hp hl (by simp [he]), x, he⟩

/-- A write leaves documents with other files alone. -/
theorem leavesAlone_of_write (tree : d.IsTree) (hn : s.documentPath n = .ok p) (hm : s.documentPath m = .ok q) {content : ByteArray}
    (hw : s.write d n content = (.ok (), d')) (hfile : ¬SameFile n m) : LeavesAlone s d d' m := by
  obtain ⟨hfp, htree', -, hothers⟩ := write_spec tree hn hw
  have hkeeps := write_keeps hn hw
  constructor
  · intro old hread
    rw [read_eq_ok hm] at hread ⊢
    obtain ⟨hfq, x, he⟩ := fileOf_of_read tree hm hread
    refine hkeeps.read hread ?_
    rcases hothers _ (fun h => hfile (hfp.sameFile hfq h.symm)) with hsame | ⟨hnone, -⟩
    · exact hsame
    · rw [he] at hnone
      cases hnone
  · intro path cause hcause hread
    rw [read_eq_error hm] at hread ⊢
    exact ⟨hread.1, hkeeps.read_error hread.2 hcause⟩
  · intro hroot path hread new hnew
    rw [read_eq_error hm] at hread
    rw [read_eq_ok hm] at hnew
    obtain ⟨hfq, x, he⟩ := fileOf_of_read htree' hm hnew
    rw [hkeeps.workingDirectory] at he
    -- the file was there before, and so was the way to it
    have hsame : d'.entry? (q.place d.workingDirectory) = d.entry? (q.place d.workingDirectory) := by
      rcases hothers _ (fun h => hfile (hfp.sameFile hfq h.symm)) with hsame | ⟨-, hdir⟩
      · exact hsame
      · rw [he] at hdir
        cases hdir
    have hbefore := Disk.read_of_way hkeeps.workingDirectory hnew hsame
      fun v => hfq.way tree hroot (by simp [← hsame, he])
    rw [hread.2] at hbefore
    cases hbefore

/-- A write that succeeds is read again. What can be read of another document is left alone if that has a file of its own; one that shares
the file has the new content. -/
theorem write_leaves_others (tree : d.IsTree) (hn : s.documentPath n = .ok p) (hm : s.documentPath m = .ok q) {content : ByteArray}
    (hw : s.write d n content = (.ok (), d')) : s.read d' n = .ok content ∧ (¬SameFile n m → LeavesAlone s d d' m) ∧
      (SameFile n m → ∀ c, s.read d' m = .ok c → c = content) := by
  obtain ⟨d₁, hgrows, htree, hd⟩ := write_ok hn hw
  refine ⟨(read_eq_ok hn).2 (Disk.read_of_write hd), leavesAlone_of_write tree hn hm hw, ?_⟩
  intro hsame c hread
  obtain ⟨hfp, htree', ⟨x, hx⟩, -⟩ := write_spec tree hn hw
  obtain ⟨hfq, x', hx'⟩ := fileOf_of_read htree' hm ((read_eq_ok hm).1 hread)
  rw [(write_keeps hn hw).workingDirectory, ← hfp.place_eq hfq hsame, hx] at hx'
  cases hx'
  rfl

/-- Two documents of one directory, written one after the other. -/
theorem write_leaves_others_pair : ∃ d d', write ⟨⟨"docs"⟩⟩ Disk.empty "notes/b" ⟨#[2]⟩ = (.ok (), d) ∧
    write ⟨⟨"docs"⟩⟩ d "notes/a" ⟨#[1]⟩ = (.ok (), d') ∧ read ⟨⟨"docs"⟩⟩ d' "notes/a" = .ok ⟨#[1]⟩ ∧
    read ⟨⟨"docs"⟩⟩ d' "notes/b" = .ok ⟨#[2]⟩ := by
  have hn : documentPath ⟨⟨"docs"⟩⟩ "notes/a" = .ok ⟨"docs/notes/a.xml"⟩ := by decide +kernel
  have hm : documentPath ⟨⟨"docs"⟩⟩ "notes/b" = .ok ⟨"docs/notes/b.xml"⟩ := by decide +kernel
  have hfile : ¬SameFile "notes/a" "notes/b" := by
    unfold SameFile
    decide +kernel
  have hfirst : (write ⟨⟨"docs"⟩⟩ Disk.empty "notes/b" ⟨#[2]⟩).1 = .ok () := by decide +kernel
  have hsecond : (write ⟨⟨"docs"⟩⟩ (write ⟨⟨"docs"⟩⟩ Disk.empty "notes/b" ⟨#[2]⟩).2 "notes/a" ⟨#[1]⟩).1 = .ok () := by decide +kernel
  generalize hb : write ⟨⟨"docs"⟩⟩ Disk.empty "notes/b" ⟨#[2]⟩ = first at hfirst hsecond
  obtain ⟨_, d⟩ := first
  cases hfirst
  generalize ha : write ⟨⟨"docs"⟩⟩ d "notes/a" ⟨#[1]⟩ = second at hsecond
  obtain ⟨_, d'⟩ := second
  cases hsecond
  obtain ⟨-, htree, -⟩ := write_spec Disk.isTree_empty hm hb
  have hbefore := (write_leaves_others Disk.isTree_empty hm hm hb).1
  obtain ⟨hread, halone, -⟩ := write_leaves_others htree hn hm ha
  exact ⟨d, d', rfl, ha, hread, (halone hfile).content _ hbefore⟩

/-- Two documents that differ in their extensions overwrite each other. -/
theorem write_overwrites : nameParts "a.x" ≠ nameParts "a.y" ∧ ∃ d : Disk, d.IsTree ∧ read ⟨⟨"docs"⟩⟩ d "a.x" = .ok ⟨#[1]⟩ ∧
    (write ⟨⟨"docs"⟩⟩ d "a.y" ⟨#[2]⟩).1 = .ok () ∧ read ⟨⟨"docs"⟩⟩ (write ⟨⟨"docs"⟩⟩ d "a.y" ⟨#[2]⟩).2 "a.x" = .ok ⟨#[2]⟩ := by
  refine ⟨by decide +kernel, (write ⟨⟨"docs"⟩⟩ Disk.empty "a.x" ⟨#[1]⟩).2, ?_, by decide +kernel, by decide +kernel, by decide +kernel⟩
  have hx : documentPath ⟨⟨"docs"⟩⟩ "a.x" = .ok ⟨"docs/a.xml"⟩ := by decide +kernel
  have hdone : (write ⟨⟨"docs"⟩⟩ Disk.empty "a.x" ⟨#[1]⟩).1 = .ok () := by decide +kernel
  generalize ha : write ⟨⟨"docs"⟩⟩ Disk.empty "a.x" ⟨#[1]⟩ = first at hdone
  obtain ⟨_, d⟩ := first
  cases hdone
  exact (write_spec Disk.isTree_empty hx ha).2.1

end DocumentStore
end CoEdit
