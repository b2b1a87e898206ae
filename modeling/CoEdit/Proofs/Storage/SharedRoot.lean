import CoEdit.Proofs.Storage.AccountFile
import CoEdit.Proofs.Storage.Writes

/-!
# Accounts and documents in one root

The file of the accounts stands in the root itself, and the way to it is the way to the root (`AccountBook.locate_file`). No document has
its file there, for documents have an extension of their own; but a document whose name leads through a directory named like the file of
the accounts makes that directory if the file is missing (`DocumentStore.Blocks`). Apart from such names, documents in a root that is there
change nothing for the accounts (`AccountBook.attach_beside_documents`).
-/

namespace CoEdit

open CoEdit.Path

namespace AccountBook

variable {s : DocumentStore} {b : AccountBook} {a : Account} {d d' : Disk} {at_ : Place} {ws : List (String × ByteArray)}

/-- In a root that is there, a file that is not found is not there. -/
theorem read_file_notFound (h : d.isDirectory s.root = true) : d.read (file s) = .error .notFound ↔
    Disk.pathFault (file s) = none ∧ d.entry? (s.root.place d.workingDirectory ++ [fileName]) = none := by
  unfold Disk.read Disk.find
  rw [locate_file_of_isDirectory h]
  cases hfault : Disk.pathFault (file s) with
  | some e =>
    have hne : e ≠ .notFound := fun he => pathFault_file_ne s (he ▸ hfault)
    simpa using hne
  | none =>
    dsimp only
    cases he : d.entry? (s.root.place d.workingDirectory ++ [fileName]) with
    | none => simp
    | some e => cases e <;> simp

/-- In a root that is there, what is found of the accounts depends on the file alone. -/
theorem find_file_congr (h : d.isDirectory s.root = true) (hkeeps : d.Keeps d')
    (hsame : Disk.pathFault (file s) = none →
      d'.entry? (s.root.place d.workingDirectory ++ [fileName]) = d.entry? (s.root.place d.workingDirectory ++ [fileName])) :
    d'.locate (file s) = d.locate (file s) ∧ d'.find (file s) = d.find (file s) := by
  have hlocate : d'.locate (file s) = d.locate (file s) := by
    rw [locate_file_of_isDirectory h, locate_file_of_isDirectory (hkeeps.isDirectory h), hkeeps.workingDirectory]
  refine ⟨hlocate, ?_⟩
  unfold Disk.find
  rw [hlocate, locate_file_of_isDirectory h]
  cases hfault : Disk.pathFault (file s) with
  | some e => rfl
  | none =>
    dsimp only
    rw [hsame hfault]

/-- Where a path is found alike, writing there succeeds or fails alike. -/
theorem write_alike {p : Path} (hlocate : d'.locate p = d.locate p) (hfind : d'.find p = d.find p) (content : ByteArray) :
    (d'.write p content).map (fun _ => ()) = (d.write p content).map (fun _ => ()) := by
  unfold Disk.find at hfind
  unfold Disk.write
  rw [hlocate] at hfind ⊢
  cases hl : d.locate p with
  | error e => rfl
  | ok at_ =>
    rw [hl] at hfind
    have hsame : d'.entry? at_ = d.entry? at_ := by
      dsimp only at hfind
      revert hfind
      rcases d.entry? at_ with _ | _ <;> rcases d'.entry? at_ with _ | _ <;> simp
    dsimp only
    rw [hsame]
    rcases d.entry? at_ with _ | _ | _
    · dsimp only
      split <;> rfl
    · rfl
    · rfl

/-- In a root that is there, adding an account with a new identifier is writing the file. -/
theorem add_of_isDirectory (h : d.isDirectory s.root = true) (hs : b.store = some s) (hnew : Table.contains a.id b.accounts = false) :
    (b.add d a).1 = ((d.write (file s) (b.contentWith a)).mapError (.disk (file s))).map
      fun _ => { b with accounts := Table.insert a.id a b.accounts } := by
  unfold add
  rw [hs]
  dsimp only
  rw [if_neg (by simp [hnew]), ensureRoot_of_isDirectory h]
  dsimp only
  rw [← contentWith]
  cases d.write (file s) (b.contentWith a) <;> rfl

/-- Where the file is found alike, the accounts are attached alike, and adding an account succeeds or fails alike. -/
theorem alike_of_file (h : d.isDirectory s.root = true) (hkeeps : d.Keeps d') (hlocate : d'.locate (file s) = d.locate (file s))
    (hfind : d'.find (file s) = d.find (file s)) :
    attach s d' = attach s d ∧ ∀ (b : AccountBook) (a : Account), b.store = some s → (b.add d' a).1 = (b.add d a).1 := by
  have h' := hkeeps.isDirectory h
  constructor
  · have htext : d'.readText (file s) = d.readText (file s) := by
      unfold Disk.readText Disk.read
      rw [hfind]
    rw [attach, attach, load, load, checkRoot_of_isDirectory h, checkRoot_of_isDirectory h']
    dsimp only
    rw [htext]
  · intro b a hs
    cases hnew : Table.contains a.id b.accounts with
    | true =>
      unfold add
      rw [hs, hnew]
      rfl
    | false =>
      rw [add_of_isDirectory h hs hnew, add_of_isDirectory h' hs hnew]
      have hwrite := write_alike hlocate hfind (b.contentWith a)
      revert hwrite
      generalize d'.write (file s) _ = r'
      generalize d.write (file s) _ = r
      intro hwrite
      cases r <;> cases r' <;> cases hwrite <;> rfl

end AccountBook

namespace DocumentStore

variable {s : DocumentStore} {name : String} {d : Disk} {ws : List (String × ByteArray)}

/-- The name leads through something named like the file of the accounts. -/
def Blocks (name : String) : Prop := [AccountBook.fileName] <+: (nameParts name).dropLast

theorem fileName_ne_accounts (part : String) : fileName part ≠ AccountBook.fileName := by
  intro h
  have hlast := congrArg (fun t : String => t.toList.getLast?) h
  simp [fileName, extension, AccountBook.fileName] at hlast

/-- In a root that is there, a write changes nothing at the file of the accounts, unless nothing is there and the name blocks it. -/
theorem write_leaves_accounts (tree : d.IsTree) (h : d.isDirectory s.root = true) (content : ByteArray)
    (hblocks : d.entry? (s.root.place d.workingDirectory ++ [AccountBook.fileName]) = none → ¬Blocks name) :
    Disk.entry? (s.write d name content).2 (s.root.place d.workingDirectory ++ [AccountBook.fileName]) =
      d.entry? (s.root.place d.workingDirectory ++ [AccountBook.fileName]) := by
  rcases (write_changes tree s name content).2.2 _ with hsame | hchange
  · exact hsame
  · exfalso
    cases hchange with
    | onWay was _ leads =>
      rw [Disk.directory_of_isDirectory h leads] at was
      cases was
    | below _ hparts place was _ _ =>
      rw [← List.append_cancel_left place] at hparts
      exact hblocks was hparts
    | file _ hfile place _ _ =>
      obtain ⟨hn, hparts⟩ := hfile.parts_eq (List.cons_ne_nil _ _) place.symm
      obtain ⟨above, part, -, hfileParts⟩ := exists_fileParts hn
      have hlast := congrArg List.getLast? (hfileParts.symm.trans hparts)
      rw [List.getLast?_concat] at hlast
      exact fileName_ne_accounts part (Option.some.inj hlast)

theorem writeAll_leaves_accounts (tree : d.IsTree) (h : d.isDirectory s.root = true)
    (hblocks : d.entry? (s.root.place d.workingDirectory ++ [AccountBook.fileName]) = none → ∀ w ∈ ws, ¬Blocks w.1) :
    Disk.entry? (s.writeAll d ws) (s.root.place d.workingDirectory ++ [AccountBook.fileName]) =
      d.entry? (s.root.place d.workingDirectory ++ [AccountBook.fileName]) := by
  induction ws using List.reverseRecOn with
  | nil => rfl
  | append_singleton ws w ih =>
    have hbefore := ih fun hnone u hu => hblocks hnone u (List.mem_append_left _ hu)
    obtain ⟨htree, hkeeps⟩ := writeAll_keeps tree s ws
    have hcwd := hkeeps.workingDirectory
    rw [writeAll_concat, ← hbefore, ← hcwd]
    refine write_leaves_accounts htree (hkeeps.isDirectory h) w.2 fun hnone => ?_
    rw [hcwd, hbefore] at hnone
    exact hblocks hnone w (by simp)

end DocumentStore

namespace AccountBook

variable {s : DocumentStore} {d : Disk} {ws : List (String × ByteArray)}

open DocumentStore

/-- Where a name that was written blocks the file of the accounts, there is a directory in its place. -/
theorem blocked_of_written (tree : d.IsTree) (h : d.isDirectory s.root = true) (hfault : Disk.pathFault (file s) = none)
    (hblocks : ∃ n ∈ s.written d ws, Blocks n) : attach s (s.writeAll d ws) = .error (.disk (file s) .isADirectory) ∧
      ∀ (b : AccountBook) (a : Account), b.store = some s → Table.contains a.id b.accounts = false →
        (b.add (s.writeAll d ws) a).1 = .error (.disk (file s) .isADirectory) := by
  obtain ⟨n, hn, hblocks⟩ := hblocks
  have hne : nameParts n ≠ [] := by
    intro hnil
    rw [Blocks, hnil] at hblocks
    simp at hblocks
  have hdir := directory_of_written tree hn hblocks hne
  obtain ⟨-, hkeeps⟩ := writeAll_keeps tree s ws
  have h' := hkeeps.isDirectory h
  have hlocate := locate_file_of_isDirectory h'
  rw [hfault, hkeeps.workingDirectory] at hlocate
  dsimp only at hlocate
  constructor
  · rw [attach, load, checkRoot_of_isDirectory h']
    dsimp only
    rw [Disk.readText, Disk.read, Disk.find, hlocate]
    dsimp only
    rw [hdir]
    rfl
  · intro b a hs hnew
    rw [add_of_isDirectory h' hs hnew, Disk.write, hlocate]
    dsimp only
    rw [hdir]
    rfl

/-- Writing documents in a root that is there changes nothing for the accounts: they are attached as they would be without, with the same
accounts or the same failure, and an account is added or refused as it would be. That is, unless the file of the accounts was missing and
a name leads through a directory in its place. If such a document was written, accounts that could be attached cannot be any more. -/
theorem attach_beside_documents (tree : d.IsTree) (hroot : d.isDirectory s.root = true) (ws : List (String × ByteArray)) :
    ((d.read (file s) = .error .notFound → ∀ w ∈ ws, ¬Blocks w.1) → attach s (s.writeAll d ws) = attach s d ∧
      ∀ (b : AccountBook) (a : Account), b.store = some s → (b.add (s.writeAll d ws) a).1 = (b.add d a).1) ∧
    (d.read (file s) = .error .notFound → (∃ n ∈ s.written d ws, Blocks n) → attach s d = .ok ⟨some s, []⟩ ∧
      attach s (s.writeAll d ws) = .error (.disk (file s) .isADirectory) ∧
      ∀ (b : AccountBook) (a : Account), b.store = some s → Table.contains a.id b.accounts = false →
        (b.add (s.writeAll d ws) a).1 = .error (.disk (file s) .isADirectory)) := by
  constructor
  · intro hblocks
    obtain ⟨-, hkeeps⟩ := writeAll_keeps tree s ws
    obtain ⟨hlocate, hfind⟩ := find_file_congr hroot hkeeps fun hfault => writeAll_leaves_accounts tree hroot fun hnone =>
      hblocks ((read_file_notFound hroot).2 ⟨hfault, hnone⟩)
    exact alike_of_file hroot hkeeps hlocate hfind
  · intro hmissing hblocks
    refine ⟨?_, blocked_of_written tree hroot ((read_file_notFound hroot).1 hmissing).1 hblocks⟩
    rw [attach, load, checkRoot_of_isDirectory hroot]
    dsimp only
    rw [Disk.readText, hmissing]
    rfl

/-- A document in a directory named like it, but for an extension, changes nothing for the accounts; one in a directory named like their
file does. -/
theorem attach_beside_documents_nested : ∃ d : Disk, d.isDirectory ⟨"docs"⟩ = true ∧
    attach ⟨⟨"docs"⟩⟩ (writeAll ⟨⟨"docs"⟩⟩ d [("accounts/b", ⟨#[1]⟩)]) = attach ⟨⟨"docs"⟩⟩ d ∧
    attach ⟨⟨"docs"⟩⟩ (writeAll ⟨⟨"docs"⟩⟩ d [("accounts.json/b", ⟨#[1]⟩)]) = .error (.disk ⟨"docs/accounts.json"⟩ .isADirectory) := by
  have htree := (write_changes Disk.isTree_empty ⟨⟨"docs"⟩⟩ "a" ⟨#[1]⟩).1
  have hroot : (write ⟨⟨"docs"⟩⟩ Disk.empty "a" ⟨#[1]⟩).2.isDirectory ⟨"docs"⟩ = true := by decide +kernel
  have hmissing : Disk.read (write ⟨⟨"docs"⟩⟩ Disk.empty "a" ⟨#[1]⟩).2 (file ⟨⟨"docs"⟩⟩) = .error .notFound := by decide +kernel
  refine ⟨_, hroot, ?_, ?_⟩
  · refine ((attach_beside_documents htree hroot [("accounts/b", ⟨#[1]⟩)]).1 fun _ w hw => ?_).1
    obtain rfl := List.mem_singleton.1 hw
    have hparts : (nameParts "accounts/b").dropLast = ["accounts"] := by decide +kernel
    rw [Blocks, hparts]
    decide
  · refine ((attach_beside_documents htree hroot [("accounts.json/b", ⟨#[1]⟩)]).2 hmissing ⟨"accounts.json/b", ?_, ?_⟩).2.1
    · decide +kernel
    · have hparts : (nameParts "accounts.json/b").dropLast = ["accounts.json"] := by decide +kernel
      rw [Blocks, hparts]
      decide

/-- A document in a directory named like the file of the accounts takes its place. -/
theorem attach_blocked : ∃ d : Disk, d.IsTree ∧ d.isDirectory ⟨"docs"⟩ = true ∧ attach ⟨⟨"docs"⟩⟩ d = .ok ⟨some ⟨⟨"docs"⟩⟩, []⟩ ∧
    (write ⟨⟨"docs"⟩⟩ d "accounts.json/x" ⟨#[1]⟩).1 = .ok () ∧
    attach ⟨⟨"docs"⟩⟩ (write ⟨⟨"docs"⟩⟩ d "accounts.json/x" ⟨#[1]⟩).2 = .error (.disk ⟨"docs/accounts.json"⟩ .isADirectory) :=
  ⟨(write ⟨⟨"docs"⟩⟩ Disk.empty "a" ⟨#[1]⟩).2, (write_changes Disk.isTree_empty ⟨⟨"docs"⟩⟩ "a" ⟨#[1]⟩).1, by decide +kernel,
    by decide +kernel, by decide +kernel, by decide +kernel⟩

end AccountBook
end CoEdit
