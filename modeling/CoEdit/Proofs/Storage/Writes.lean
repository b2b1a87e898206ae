import CoEdit.Proofs.Disk.Making
import CoEdit.Proofs.Storage.Overwriting
import Mathlib.Data.List.Induction

/-!
# What writing documents changes

A write changes places of three kinds (`DocumentStore.Change`): gaps on the way to the root become directories, gaps below the root become
directories at the parts of the name before the last, and the file of the document gets the content if the write succeeds. Nothing else on
the disk changes (`DocumentStore.write_changes`).
-/

namespace CoEdit

open CoEdit.Path

namespace DocumentStore

variable {s : DocumentStore} {name : String} {p : Path} {d d' : Disk} {v : Place} {content : ByteArray}

/-! ## The way to a document -/

/-- What begins a way that goes on through names ends before the names or among them. -/
theorem prefix_append_names {cs before : List PathComponent} {names : List String} (h : cs <+: before ++ names.map .normal) :
    cs <+: before ∨ ∃ parts, parts ≠ [] ∧ parts <+: names ∧ cs = before ++ parts.map .normal := by
  obtain ⟨rest, hrest⟩ := h
  rcases List.append_eq_append_iff.1 hrest with ⟨more, hmore, -⟩ | ⟨more, rfl, hnames⟩
  · exact Or.inl (hmore ▸ List.prefix_append _ _)
  · obtain ⟨parts, others, rfl, rfl, -⟩ := List.map_eq_append_iff.1 hnames
    by_cases hne : parts = []
    · subst hne
      exact Or.inl (by simp)
    · exact Or.inr ⟨parts, hne, List.prefix_append _ _, rfl⟩

/-- The places above the file of a document are on the way to the root, or below it at the parts of the name before the last. -/
theorem way_cases (hp : s.documentPath name = .ok p) {cs : List PathComponent} (hcs : cs <+: p.components.dropLast) :
    cs <+: s.root.components ∨
      ∃ parts, parts ≠ [] ∧ parts <+: (nameParts name).dropLast ∧ cs = s.root.components ++ parts.map .normal := by
  cases documentPath_leadsTo hp with
  | below _ hparts hp =>
    obtain ⟨above, part, hsplit, hfile⟩ := exists_fileParts hparts
    rw [hp, hfile, List.map_append, ← List.append_assoc, List.map_singleton, List.dropLast_concat] at hcs
    rw [hsplit, List.dropLast_concat]
    exact prefix_append_names hcs
  | above _ hp =>
    rw [hp, List.dropLast_concat] at hcs
    exact prefix_append_names hcs
  | beside _ before x hroot hp =>
    rw [hp, List.dropLast_concat] at hcs
    exact Or.inl (hcs.trans (hroot ▸ List.prefix_append _ _))
  | root _ hp _ => exact Or.inl (hcs.trans (hp ▸ List.dropLast_prefix _))

/-- The path of a document is absolute if the root is. -/
theorem isAbsolute_documentPath (hp : s.documentPath name = .ok p) : p.isAbsolute = s.root.isAbsolute := by
  rw [Bool.eq_iff_iff, isAbsolute_iff, isAbsolute_iff]
  cases documentPath_leadsTo hp with
  | below _ _ hp => simp [hp]
  | above _ hp =>
    rw [hp, List.append_assoc, List.mem_append]
    simp [-List.map_dropLast]
  | beside _ before x hroot hp => simp [hp, hroot]
  | root _ hp _ => rw [hp]

/-! ## Places that change -/

/-- How a write changes a place. -/
inductive Change (s : DocumentStore) (name : String) (content : ByteArray) (d d' : Disk) (v : Place) : Prop
  /-- A directory is made on the way to the root. -/
  | onWay (was : d.entry? v = none) (is : d'.entry? v = some .directory) (leads : Disk.LeadsOver s.root d.workingDirectory v)
  /-- A directory is made below the root, at the parts of the name before the last. -/
  | below {parts : List String} (hne : parts ≠ []) (hparts : parts <+: (nameParts name).dropLast)
      (place : v = s.root.place d.workingDirectory ++ parts) (was : d.entry? v = none) (is : d'.entry? v = some .directory)
      (way : ∀ u, Disk.LeadsOver s.root d.workingDirectory u → d'.entry? u = some .directory)
  /-- The file is written. -/
  | file {p : Path} (hp : s.documentPath name = .ok p) (hfile : FileOf s name p) (place : v = p.place d.workingDirectory)
      {x : Bool} (is : d'.entry? v = some (.file content x)) (done : (s.write d name content).1 = .ok ())

/-- The directories that are made for a write. -/
theorem change_of_newOn {above : Path} (hp : s.documentPath name = .ok p) (habove : p.parent? = some above) {d₁ : Disk}
    {cs : List PathComponent} (hnew : Disk.NewOn d d₁ above v cs) (hkeeps : d₁.Keeps d')
    (hcwd : d'.workingDirectory = d.workingDirectory) : Change s name content d d' v := by
  obtain ⟨⟨c, -, hcomponents⟩, -⟩ := parent?_eq_some habove
  have habs : above.isAbsolute = s.root.isAbsolute := (isAbsolute_of_parent? habove).trans (isAbsolute_documentPath hp)
  have hcs : cs <+: p.components.dropLast := by
    rw [hcomponents, List.dropLast_concat]
    exact hnew.onWay
  have his := hkeeps.directories v hnew.is
  rcases way_cases hp hcs with hcs | ⟨parts, hne, hparts, rfl⟩
  · exact .onWay hnew.was his ⟨cs, hcs, habs ▸ hnew.ne_nil, hnew.place⟩
  · refine .below hne hparts ?_ hnew.was his ?_
    · rw [hnew.place, List.foldl_append, foldl_follow_names, Path.place]
    · rintro u ⟨cs', hcs', habs', rfl⟩
      rw [← hcwd]
      exact hnew.paved.keeps hkeeps cs' (hcs'.trans (List.prefix_append _ _)) (habs ▸ habs')

/-- A write changes nothing but what is on the way to the root, directories at the parts of the name, and the file. -/
theorem write_changes (tree : d.IsTree) (s : DocumentStore) (name : String) (content : ByteArray) :
    (s.write d name content).2.IsTree ∧ d.Keeps (s.write d name content).2 ∧
      ∀ v, Disk.entry? (s.write d name content).2 v = d.entry? v ∨ Change s name content d (s.write d name content).2 v := by
  cases hp : s.documentPath name with
  | error e =>
    have hw : s.write d name content = (.error e, d) := by
      unfold write
      rw [hp]
    rw [hw]
    exact ⟨tree, .refl d, fun v => Or.inl rfl⟩
  | ok p =>
    have hmade := tree.makeDirectories (p.parent?.getD ⟨""⟩)
    have hnew : ∀ (d' : Disk), (d.makeDirectories (p.parent?.getD ⟨""⟩)).2.Keeps d' → ∀ v,
        Disk.entry? (d.makeDirectories (p.parent?.getD ⟨""⟩)).2 v = d.entry? v ∨ Change s name content d d' v := by
      intro d' hkeeps v
      cases habove : p.parent? with
      | none => exact Or.inl rfl
      | some above =>
        rw [habove, Option.getD_some] at hkeeps
        have hgrows := Disk.makeDirectories_growsOn d above
        have hcwd := hkeeps.workingDirectory.trans hgrows.workingDirectory
        exact (hgrows.entries v).imp_right fun ⟨_, hn⟩ => change_of_newOn hp habove hn hkeeps hcwd
    have hgrows := Disk.makeDirectories_grows d (p.parent?.getD ⟨""⟩)
    rcases write_stages hp d content with ⟨e, hw⟩ | ⟨d', hd, hw⟩
    · rw [hw]
      exact ⟨hmade, hgrows.keeps, hnew _ (.refl _)⟩
    · have hdone : (s.write d name content).1 = .ok () := by rw [hw]
      rw [hw]
      refine ⟨hmade.write hd, hgrows.keeps.trans (Disk.write_keeps hd), fun v => ?_⟩
      obtain ⟨x, hl, he, hset⟩ := Disk.write_ok hd
      by_cases hv : v = p.place d.workingDirectory
      · refine Or.inr (.file hp (fileOf_of_locate hmade hp hl he) hv (x := x) ?_ hdone)
        rw [hset, hv, hgrows.workingDirectory]
        exact Disk.entry?_set_self (hgrows.workingDirectory ▸ Disk.ne_nil_of_not_directory he) _ _
      · rcases hnew d' (Disk.write_keeps hd) v with hsame | hchange
        · left
          rw [hset, hgrows.workingDirectory, Disk.entry?_set_of_ne hv, hsame]
        · exact Or.inr hchange

/-! ## Writes one after the other -/

/-- The disk after writes of documents, each of a name and a content. -/
def writeAll (s : DocumentStore) (d : Disk) (ws : List (String × ByteArray)) : Disk :=
  ws.foldl (fun d w => (s.write d w.1 w.2).2) d

/-- The names whose writes succeed. -/
def written (s : DocumentStore) : Disk → List (String × ByteArray) → List String
  | _, [] => []
  | d, w :: rest => match s.write d w.1 w.2 with
    | (.ok (), d) => w.1 :: written s d rest
    | (.error _, d) => written s d rest

variable {ws : List (String × ByteArray)} {w : String × ByteArray}

@[simp] theorem writeAll_nil (s : DocumentStore) (d : Disk) : s.writeAll d [] = d := rfl

theorem writeAll_concat (s : DocumentStore) (d : Disk) (ws : List (String × ByteArray)) (w : String × ByteArray) :
    s.writeAll d (ws ++ [w]) = (s.write (s.writeAll d ws) w.1 w.2).2 := by
  simp [writeAll]

theorem written_concat (s : DocumentStore) (d : Disk) (ws : List (String × ByteArray)) (w : String × ByteArray) :
    s.written d (ws ++ [w]) = s.written d ws ++ if (s.write (s.writeAll d ws) w.1 w.2).1 = .ok () then [w.1] else [] := by
  induction ws generalizing d with
  | nil =>
    cases hw : s.write d w.1 w.2 with
    | mk result d' => cases result <;> simp [written, hw]
  | cons u rest ih =>
    rw [List.cons_append, written, written, writeAll, List.foldl_cons, ← writeAll]
    rcases s.write d u.1 u.2 with ⟨result, d'⟩
    cases result with
    | error e => exact ih d'
    | ok done => exact congrArg (List.cons u.1) (ih d')

theorem mem_written_concat {n : String} : n ∈ s.written d (ws ++ [w]) ↔
    n ∈ s.written d ws ∨ n = w.1 ∧ (s.write (s.writeAll d ws) w.1 w.2).1 = .ok () := by
  rw [written_concat, List.mem_append]
  split <;> simp_all

/-- Only names that were tried are written. -/
theorem exists_of_mem_written {n : String} (h : n ∈ s.written d ws) : ∃ w ∈ ws, w.1 = n := by
  induction ws using List.reverseRecOn with
  | nil => cases h
  | append_singleton ws w ih =>
    rcases mem_written_concat.1 h with h | ⟨rfl, -⟩
    · obtain ⟨u, hu, he⟩ := ih h
      exact ⟨u, List.mem_append_left _ hu, he⟩
    · exact ⟨w, by simp, rfl⟩

theorem writeAll_keeps (tree : d.IsTree) (s : DocumentStore) (ws : List (String × ByteArray)) :
    (s.writeAll d ws).IsTree ∧ d.Keeps (s.writeAll d ws) := by
  induction ws using List.reverseRecOn with
  | nil => exact ⟨tree, .refl d⟩
  | append_singleton ws w ih =>
    obtain ⟨htree, hkeeps⟩ := ih
    obtain ⟨htree', hkeeps', -⟩ := write_changes htree s w.1 w.2
    rw [writeAll_concat]
    exact ⟨htree', hkeeps.trans hkeeps'⟩

/-- What was written is there. -/
theorem file_of_written (tree : d.IsTree) {n : String} (h : n ∈ s.written d ws) : ∃ p, s.documentPath n = .ok p ∧ FileOf s n p ∧
    Disk.locate (s.writeAll d ws) p = .ok (p.place d.workingDirectory) ∧
      ∃ c x, Disk.entry? (s.writeAll d ws) (p.place d.workingDirectory) = some (.file c x) := by
  induction ws using List.reverseRecOn with
  | nil => cases h
  | append_singleton ws w ih =>
    obtain ⟨htree, hkeeps⟩ := writeAll_keeps tree s ws
    have hstep := (write_changes htree s w.1 w.2).2.1
    rw [writeAll_concat]
    rcases mem_written_concat.1 h with h | ⟨rfl, hdone⟩
    · obtain ⟨p, hp, hfile, hl, c, x, hc⟩ := ih h
      exact ⟨p, hp, hfile, hstep.locate hl, hstep.files _ c x hc⟩
    · cases hp : s.documentPath w.1 with
      | error e =>
        unfold write at hdone
        rw [hp] at hdone
        cases hdone
      | ok p =>
        have hw : s.write (s.writeAll d ws) w.1 w.2 = (.ok (), (s.write (s.writeAll d ws) w.1 w.2).2) := Prod.ext hdone rfl
        obtain ⟨_, -, -, hd⟩ := write_ok hp hw
        obtain ⟨at_, x, hl, hc⟩ := Disk.read_eq_ok.1 (Disk.read_of_write hd)
        have hat : at_ = p.place d.workingDirectory := by
          rw [(Disk.locate_ok hl).1, hstep.workingDirectory, hkeeps.workingDirectory]
        exact ⟨p, rfl, (write_spec htree hp hw).1, hat ▸ hl, w.2, x, hat ▸ hc⟩

/-- A file stands at the parts that belong to it. -/
theorem FileOf.parts_eq (h : FileOf s name p) {here : Place} {parts : List String} (hne : parts ≠ [])
    (hplace : p.place here = s.root.place here ++ parts) : nameParts name ≠ [] ∧ fileParts name = parts := by
  cases h with
  | below hn hp =>
    rw [place_names hp] at hplace
    exact ⟨hn, List.append_cancel_left hplace⟩
  | beside _ before x hroot hp =>
    have hproot : s.root.components = before ++ [x].map .normal := hroot
    have hpp : p.components = before ++ [fileName x].map .normal := hp
    rw [place_names hpp, place_names hproot] at hplace
    have hlength := congrArg List.length hplace
    have hpos := List.length_pos_iff.2 hne
    simp only [List.length_append, List.length_singleton] at hlength
    omega

/-- Below the root there are files of documents and the directories above them. -/
theorem directory_of_written (tree : d.IsTree) {n : String} (h : n ∈ s.written d ws) {parts : List String}
    (hparts : parts <+: (nameParts n).dropLast) (hne : nameParts n ≠ []) :
    Disk.entry? (s.writeAll d ws) (s.root.place d.workingDirectory ++ parts) = some .directory := by
  obtain ⟨p, -, hfile, -, c, x, he⟩ := file_of_written tree h
  cases hfile with
  | below _ hp =>
    obtain ⟨above, part, hsplit, hfileParts⟩ := exists_fileParts hne
    rw [hsplit, List.dropLast_concat] at hparts
    obtain ⟨rest, rfl⟩ := hparts
    rw [place_names hp, ← Path.place, hfileParts, List.append_assoc, ← List.append_assoc] at he
    refine (writeAll_keeps tree s ws).1.above (List.prefix_append _ (rest ++ [fileName part])) (by simp) ?_
    rw [he]
    exact Option.some_ne_none _
  | beside hn _ _ _ _ => exact absurd hn hne

end DocumentStore
end CoEdit
