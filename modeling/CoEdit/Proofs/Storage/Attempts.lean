import CoEdit.Proofs.Disk.Making
import CoEdit.Proofs.Storage.AccountFile
import Mathlib.Data.List.Induction

/-!
# Accounts in memory and on disk

A book that is attached to roots and takes accounts, in any order, agrees with its file: a fresh book that is attached to the same root has
the same accounts, or cannot be attached. The latter happens only after an account was refused because the missing root could not be made,
when the directories that were made before the failure stand in the way (`AccountBook.attempts_agree`).
-/

namespace CoEdit

open CoEdit.Path

namespace DocumentStore

variable {s : DocumentStore} {d : Disk}

/-- How making sure of the root turns out. -/
inductive Rooting (s : DocumentStore) (d : Disk) : Except StorageError Unit × Disk → Prop
  | refused {e : StorageError} (h : s.checkRoot d = .error e) : Rooting s d (.error e, d)
  | there (h : s.checkRoot d = .ok true) : Rooting s d (.ok (), d)
  | unmade {e : DiskError} {d₁ : Disk} (hmissing : s.checkRoot d = .ok false)
      (hmade : d.makeDirectories s.root = (.error e, d₁)) : Rooting s d (.error (.disk s.root e), d₁)
  | made {d₁ : Disk} (hmissing : s.checkRoot d = .ok false) (hmade : d.makeDirectories s.root = (.ok (), d₁)) : Rooting s d (.ok (), d₁)

theorem rooting (s : DocumentStore) (d : Disk) : s.Rooting d (s.ensureRoot d) := by
  unfold ensureRoot
  cases hroot : s.checkRoot d with
  | error e => exact .refused hroot
  | ok there =>
    cases there with
    | true => exact .there hroot
    | false =>
      dsimp only
      rcases hmade : d.makeDirectories s.root with ⟨_ | _, d₁⟩
      · exact .unmade hroot hmade
      · exact .made hroot hmade

/-- Making sure of the root changes nothing but gaps, which may become directories. -/
theorem Rooting.grows {r : Except StorageError Unit × Disk} (h : s.Rooting d r) : d.Grows r.2 := by
  have hgrows := Disk.makeDirectories_grows d s.root
  cases h with
  | refused _ => exact .refl d
  | there _ => exact .refl d
  | unmade _ hmade =>
    rw [hmade] at hgrows
    exact hgrows
  | made _ hmade =>
    rw [hmade] at hgrows
    exact hgrows

end DocumentStore

namespace AccountBook

variable {s : DocumentStore} {b b' : AccountBook} {a : Account} {d d' : Disk}

/-! ## Attempts -/

/-- Something that is tried with an account book. -/
inductive Attempt where
  | attach (s : DocumentStore)
  | add (a : Account)

/-- How an attempt turns out: the book there would be, or the failure, and the disk. -/
def outcome (b : AccountBook) (d : Disk) : Attempt → Except StorageError AccountBook × Disk
  | .attach s => (attach s d, d)
  | .add a => b.add d a

/-- The book and the disk after an attempt. A book stays as it was if the attempt fails. -/
def attempt (r : AccountBook × Disk) (x : Attempt) : AccountBook × Disk :=
  match outcome r.1 r.2 x with
  | (.ok b, d) => (b, d)
  | (.error _, d) => (r.1, d)

/-- The book and the disk after attempts with a book that was attached to nothing. -/
def attempts (d : Disk) (xs : List Attempt) : AccountBook × Disk := xs.foldl attempt (detached, d)

theorem attempts_concat (d : Disk) (xs : List Attempt) (x : Attempt) : attempts d (xs ++ [x]) = attempt (attempts d xs) x := by
  simp [attempts]

theorem attempt_of_ok {r : AccountBook × Disk} {x : Attempt} (h : outcome r.1 r.2 x = (.ok b, d)) : attempt r x = (b, d) := by
  rw [attempt, h]

theorem attempt_of_error {r : AccountBook × Disk} {x : Attempt} {e : StorageError} (h : outcome r.1 r.2 x = (.error e, d)) :
    attempt r x = (r.1, d) := by
  rw [attempt, h]

/-! ## What adding an account does -/

/-- How adding an account turns out. -/
inductive Adding (b : AccountBook) (d : Disk) (a : Account) : Except StorageError AccountBook × Disk → Prop
  | unattached (hs : b.store = none) : Adding b d a (.error .notAttached, d)
  | taken {s : DocumentStore} (hs : b.store = some s) (hold : Table.contains a.id b.accounts = true) :
      Adding b d a (.error (.accountExists a.id), d)
  /-- The root cannot be made. -/
  | rootless {s : DocumentStore} {e : StorageError} {d₁ : Disk} (hs : b.store = some s)
      (hnew : Table.contains a.id b.accounts = false) (hroot : s.Rooting d (.error e, d₁)) : Adding b d a (.error e, d₁)
  /-- The file cannot be written. -/
  | unwritten {s : DocumentStore} {e : DiskError} {d₁ : Disk} (hs : b.store = some s)
      (hnew : Table.contains a.id b.accounts = false) (hroot : s.Rooting d (.ok (), d₁))
      (hw : d₁.write (file s) (b.contentWith a) = .error e) : Adding b d a (.error (.disk (file s) e), d₁)
  | added {s : DocumentStore} {d₁ d' : Disk} (hs : b.store = some s) (hnew : Table.contains a.id b.accounts = false)
      (hroot : s.Rooting d (.ok (), d₁)) (hw : d₁.write (file s) (b.contentWith a) = .ok d') :
      Adding b d a (.ok { b with accounts := Table.insert a.id a b.accounts }, d')

theorem adding (b : AccountBook) (d : Disk) (a : Account) : Adding b d a (b.add d a) := by
  unfold add
  cases hs : b.store with
  | none => exact .unattached hs
  | some s =>
    dsimp only
    cases hnew : Table.contains a.id b.accounts with
    | true => exact .taken hs hnew
    | false =>
      rw [if_neg Bool.false_ne_true]
      have hroot := s.rooting d
      generalize s.ensureRoot d = r at hroot ⊢
      obtain ⟨_ | _, d₁⟩ := r
      · exact .rootless hs hnew hroot
      · dsimp only
        rw [← contentWith]
        cases hw : d₁.write (file s) (b.contentWith a) with
        | error e => exact .unwritten hs hnew hroot hw
        | ok d' => exact hs ▸ .added hs hnew hroot hw

/-- Where an account is refused, gaps may have become directories and nothing else has changed. -/
theorem add_error_grows {e : StorageError} (h : b.add d a = (.error e, d')) : d.Grows d' := by
  have hadding := adding b d a
  rw [h] at hadding
  cases hadding with
  | unattached _ => exact .refl d
  | taken _ _ => exact .refl d
  | rootless _ _ hroot => exact hroot.grows
  | unwritten _ _ hroot _ => exact hroot.grows

/-! ## What is attached -/

/-- What a book can be that is attached. -/
theorem attach_ok (h : attach s d = .ok b) : b.store = some s ∧ IsKeyed b.accounts ∧ b.accounts.Ascending := by
  unfold attach at h
  cases hload : load s d with
  | error e =>
    rw [hload] at h
    cases h
  | ok t =>
    rw [hload] at h
    cases h
    refine ⟨rfl, ?_⟩
    unfold load at hload
    split at hload
    · cases hload
    · split at hload
      · cases hload
        exact ⟨fun _ he => absurd he List.not_mem_nil, List.Pairwise.nil⟩
      · cases hload
      · split at hload
        · cases hload
        · cases hload
          exact ⟨isKeyed_byId _, Table.ascending_ofEntries _⟩

theorem pathFault_root (hfault : Disk.pathFault (file s) = none) (hne : s.root.text ≠ "") : Disk.pathFault s.root = none := by
  refine Disk.pathFault_of_beginning hfault ?_ hne
  obtain ⟨dir, htext, -, rfl | ⟨-, rfl⟩⟩ := text_join (p := s.root) (q := ⟨fileName⟩) rfl
  · exact ⟨_, htext.symm⟩
  · exact ⟨_, (List.append_assoc _ _ _).symm.trans htext.symm⟩

/-- Where the file can be reached the root is there, or is the empty path. -/
theorem checkRoot_of_locate {at_ : Place} (h : d.locate (file s) = .ok at_) :
    s.checkRoot d = .ok true ∨ s.root.text = "" ∧ s.checkRoot d = .ok false := by
  have hfault := Disk.pathFault_of_locate h
  by_cases hempty : s.root.text = ""
  · right
    refine ⟨hempty, ?_⟩
    have hroot : Disk.pathFault s.root = some .notFound := by
      rw [Disk.pathFault, hempty]
      decide
    unfold DocumentStore.checkRoot Disk.find Disk.locate
    rw [hroot]
  · left
    have hroot := pathFault_root hfault hempty
    exact checkRoot_of_isDirectory ((Disk.isDirectory_iff_passable hroot).2 ((locate_file hfault).1 h).2)

/-- The file is not read. -/
def Unreadable (s : DocumentStore) (d : Disk) : Prop := ∀ content, d.read (file s) ≠ .ok content

/-- Where the file is not read, there are no accounts, or none can be attached. -/
theorem attach_of_unreadable (h : Unreadable s d) : attach s d = .ok ⟨some s, []⟩ ∨ ∃ e, attach s d = .error e := by
  unfold attach load
  cases s.checkRoot d with
  | error e => exact Or.inr ⟨e, rfl⟩
  | ok there =>
    dsimp only
    unfold Disk.readText
    cases hread : d.read (file s) with
    | ok content => exact absurd hread (h content)
    | error e =>
      by_cases he : e = .notFound
      · subst he
        exact Or.inl rfl
      · right
        refine ⟨.disk (file s) e, ?_⟩
        cases e <;> first | rfl | exact absurd rfl he

/-- What was written is attached. -/
theorem attach_of_write {accounts : List Account} (hw : d.write (file s) (content accounts).toUTF8 = .ok d') :
    attach s d' = .ok ⟨some s, byId accounts⟩ := by
  have hread := Disk.read_of_write hw
  obtain ⟨at_, x, hl, -⟩ := Disk.read_eq_ok.1 hread
  have htext : d'.readText (file s) = .ok (content accounts) := by
    rw [Disk.readText, hread]
    dsimp only
    rw [fromUTF8?_toUTF8]
  unfold attach load
  rcases checkRoot_of_locate hl with hroot | ⟨-, hroot⟩
  · rw [hroot, htext]
    dsimp only
    rw [accounts?_content]
    rfl
  · rw [hroot, htext]
    dsimp only
    rw [accounts?_content]
    rfl

/-- A file that cannot be written is not read either. -/
theorem unreadable_of_write {c : ByteArray} {e : DiskError} (h : d.write (file s) c = .error e) : Unreadable s d := by
  intro content hread
  obtain ⟨at_, x, hl, he⟩ := Disk.read_eq_ok.1 hread
  unfold Disk.write at h
  rw [hl] at h
  dsimp only at h
  rw [he] at h
  cases h

/-- In a root that is missing there are no accounts. -/
theorem accounts_of_missing (h : attach s d = .ok b) (hroot : s.checkRoot d = .ok false) (hne : s.root.text ≠ "") : b.accounts = [] := by
  have hunreadable : Unreadable s d := by
    intro content hread
    obtain ⟨at_, x, hl, -⟩ := Disk.read_eq_ok.1 hread
    rcases checkRoot_of_locate hl with htrue | ⟨hempty, -⟩
    · rw [htrue] at hroot
      cases hroot
    · exact hne hempty
  rcases attach_of_unreadable hunreadable with hnone | ⟨e, he⟩
  · rw [h] at hnone
    cases hnone
    rfl
  · rw [h] at he
    cases he

/-- Where an account is refused, the disk stays as it was, or the root was missing and the file is not read afterwards. -/
theorem add_error {e : StorageError} (hs : b.store = some s) (h : b.add d a = (.error e, d')) :
    d' = d ∨ s.checkRoot d = .ok false ∧ s.root.text ≠ "" ∧ Unreadable s d' := by
  have hadding := adding b d a
  rw [h] at hadding
  cases hadding with
  | unattached _ => exact Or.inl rfl
  | taken _ _ => exact Or.inl rfl
  | rootless hs' _ hroot =>
    cases hs.symm.trans hs'
    cases hroot with
    | refused _ => exact Or.inl rfl
    | unmade hmissing hmade =>
      have hne : s.root.text ≠ "" := by
        intro hempty
        rw [Disk.makeDirectories_empty hempty] at hmade
        cases hmade
      refine Or.inr ⟨hmissing, hne, fun content hread => ?_⟩
      obtain ⟨at_, x, hl, -⟩ := Disk.read_eq_ok.1 hread
      have hfault := Disk.pathFault_of_locate hl
      exact Disk.not_passable_of_makeDirectories (pathFault_root hfault hne) hmade ((locate_file hfault).1 hl).2
  | unwritten hs' _ hroot hw =>
    cases hs.symm.trans hs'
    cases hroot with
    | there _ => exact Or.inl rfl
    | made hmissing hmade =>
      by_cases hempty : s.root.text = ""
      · rw [Disk.makeDirectories_empty hempty] at hmade
        cases hmade
        exact Or.inl rfl
      · exact Or.inr ⟨hmissing, hempty, unreadable_of_write hw⟩

/-! ## Runs -/

variable {xs : List Attempt} {x : Attempt} {r : AccountBook × Disk}

/-- None of the attempts succeeds, one after the other. -/
def NoneSucceeds (r : AccountBook × Disk) : List Attempt → Prop
  | [] => True
  | x :: rest => (∃ e, (outcome r.1 r.2 x).1 = .error e) ∧ NoneSucceeds (attempt r x) rest

theorem noneSucceeds_concat (r : AccountBook × Disk) (xs : List Attempt) (x : Attempt) : NoneSucceeds r (xs ++ [x]) ↔
    NoneSucceeds r xs ∧ ∃ e, (outcome (xs.foldl attempt r).1 (xs.foldl attempt r).2 x).1 = .error e := by
  induction xs generalizing r with
  | nil => simp [NoneSucceeds]
  | cons y xs ih => rw [List.cons_append, NoneSucceeds, NoneSucceeds, ih, and_assoc, List.foldl_cons]

/-- An account was refused while the root was missing, and nothing has succeeded since. -/
def Stranded (d : Disk) (xs : List Attempt) (s : DocumentStore) : Prop := ∃ before a after, xs = before ++ .add a :: after ∧
  s.checkRoot (attempts d before).2 = .ok false ∧ NoneSucceeds (attempts d before) (.add a :: after)

theorem Stranded.concat (h : Stranded d xs s) (hx : ∃ e, (outcome (attempts d xs).1 (attempts d xs).2 x).1 = .error e) :
    Stranded d (xs ++ [x]) s := by
  obtain ⟨before, a, after, rfl, hroot, hnone⟩ := h
  refine ⟨before, a, after ++ [x], by simp, hroot, ?_⟩
  rw [← List.cons_append, noneSucceeds_concat]
  rw [attempts, List.foldl_append] at hx
  exact ⟨hnone, hx⟩

/-- Where a book stands with the file it was attached to: it agrees with it, or it is empty and the file is not read. -/
inductive Standing (d : Disk) (xs : List Attempt) : Prop
  | agrees (h : ∀ s, (attempts d xs).1.store = some s → attach s (attempts d xs).2 = .ok (attempts d xs).1)
  | stranded {s : DocumentStore} (hs : (attempts d xs).1.store = some s) (hstranded : Stranded d xs s)
      (none : (attempts d xs).1.accounts = []) (unreadable : Unreadable s (attempts d xs).2)

/-- The accounts of a book are by their identifiers, in order. -/
theorem isKeyed_attempts (d : Disk) (xs : List Attempt) :
    IsKeyed (attempts d xs).1.accounts ∧ (attempts d xs).1.accounts.Ascending := by
  induction xs using List.reverseRecOn with
  | nil => exact ⟨fun _ he => absurd he List.not_mem_nil, List.Pairwise.nil⟩
  | append_singleton xs x ih =>
    rw [attempts_concat]
    rcases hx : outcome (attempts d xs).1 (attempts d xs).2 x with ⟨e | b, d'⟩
    · rw [attempt_of_error hx]
      exact ih
    · rw [attempt_of_ok hx]
      cases x with
      | attach s =>
        obtain ⟨hb, -⟩ := Prod.mk.inj hx
        exact (attach_ok hb).2
      | add a =>
        have hadding := adding (attempts d xs).1 (attempts d xs).2 a
        rw [show (attempts d xs).1.add (attempts d xs).2 a = (.ok b, d') from hx] at hadding
        cases hadding with
        | added _ _ _ _ => exact ⟨ih.1.insert a, ih.2.insert a.id a⟩

/-- A book that has taken an account agrees with its file. -/
theorem attach_of_add (hkeyed : IsKeyed b.accounts) (hascending : b.accounts.Ascending) (h : b.add d a = (.ok b', d'))
    (hs : b'.store = some s) : attach s d' = .ok b' := by
  have hadding := adding b d a
  rw [h] at hadding
  cases hadding with
  | added hs' _ _ hw =>
    cases hs.symm.trans hs'
    rw [attach_of_write hw, byId_values (hascending.insert a.id a) (hkeyed.insert a), ← hs']

/-- A failure changes the disk only where an account is refused because the root was missing. -/
theorem outcome_error {e : StorageError} (hs : b.store = some s) (h : outcome b d x = (.error e, d')) :
    d' = d ∨ (∃ a, x = .add a) ∧ s.checkRoot d = .ok false ∧ s.root.text ≠ "" ∧ Unreadable s d' := by
  cases x with
  | attach s' => exact Or.inl (Prod.mk.inj h).2.symm
  | add a => exact (add_error hs h).imp_right fun hmissing => ⟨⟨a, rfl⟩, hmissing⟩

/-- A failure leaves the standing of a book as it is, except that an account that is refused where the root was missing can strand it. -/
theorem Standing.concat_error (h : Standing d xs) {e : StorageError} (hx : outcome (attempts d xs).1 (attempts d xs).2 x = (.error e, d')) :
    Standing d (xs ++ [x]) := by
  have hnext : attempts d (xs ++ [x]) = ((attempts d xs).1, d') := (attempts_concat d xs x).trans (attempt_of_error hx)
  have hfailed : ∃ e, (outcome (attempts d xs).1 (attempts d xs).2 x).1 = .error e := ⟨e, by rw [hx]⟩
  cases h with
  | agrees h =>
    cases hs : (attempts d xs).1.store with
    | none =>
      refine .agrees fun s hs' => ?_
      rw [hnext, hs] at hs'
      cases hs'
    | some s =>
      rcases outcome_error hs hx with rfl | ⟨⟨a, rfl⟩, hroot, hne, hunreadable⟩
      · refine .agrees ?_
        rw [hnext]
        exact h
      · refine .stranded (hnext ▸ hs) ⟨xs, a, [], rfl, hroot, hfailed, trivial⟩ ?_ (hnext ▸ hunreadable)
        rw [hnext]
        exact accounts_of_missing (h s hs) hroot hne
  | stranded hs hstranded hnone hunreadable =>
    refine .stranded (hnext ▸ hs) (hstranded.concat hfailed) (hnext ▸ hnone) ?_
    rw [hnext]
    rcases outcome_error hs hx with rfl | ⟨-, -, -, hunreadable'⟩
    · exact hunreadable
    · exact hunreadable'

/-- What one attempt makes of the standing of a book. -/
theorem Standing.concat (h : Standing d xs) (x : Attempt) : Standing d (xs ++ [x]) := by
  obtain ⟨hkeyed, hascending⟩ := isKeyed_attempts d xs
  rcases hx : outcome (attempts d xs).1 (attempts d xs).2 x with ⟨e | b, d'⟩
  · exact h.concat_error hx
  · have hnext : attempts d (xs ++ [x]) = (b, d') := (attempts_concat d xs x).trans (attempt_of_ok hx)
    refine .agrees ?_
    rw [hnext]
    intro s hs
    cases x with
    | attach s' =>
      obtain ⟨hb, rfl⟩ := Prod.mk.inj hx
      cases (attach_ok hb).1.symm.trans hs
      exact hb
    | add a => exact attach_of_add hkeyed hascending hx hs

theorem standing (d : Disk) (xs : List Attempt) : Standing d xs := by
  induction xs using List.reverseRecOn with
  | nil => exact .agrees fun s hs => by cases hs
  | append_singleton xs x ih => exact ih.concat x

theorem outcome_grows {e : StorageError} (h : outcome b d x = (.error e, d')) : d.Grows d' := by
  cases x with
  | attach s =>
    obtain ⟨-, rfl⟩ := Prod.mk.inj h
    exact .refl d
  | add a => exact add_error_grows h

/-- After any attempts, on any disk: the key of each account is its identifier. A fresh book that is attached to the same root has the same
accounts; or it cannot be attached, which is so only after an account was refused while the root was missing, and then there are no accounts.
An account is added only by an attached book that has none with its identifier, and nothing else is. A failure leaves the book, and of the
disk everything but gaps that become directories; one to attach leaves all of it. -/
theorem attempts_agree (d : Disk) (xs : List Attempt) :
    IsKeyed (attempts d xs).1.accounts ∧
    (∀ s, (attempts d xs).1.store = some s → attach s (attempts d xs).2 = .ok (attempts d xs).1 ∨
      (∃ e, attach s (attempts d xs).2 = .error e) ∧ Stranded d xs s ∧ (attempts d xs).1.accounts = []) ∧
    (∀ a b d', (attempts d xs).1.add (attempts d xs).2 a = (.ok b, d') → (attempts d xs).1.store ≠ none ∧
      (attempts d xs).1.get? a.id = none ∧ b.store = (attempts d xs).1.store ∧
        ∀ id, b.get? id = if a.id = id then some a else (attempts d xs).1.get? id) ∧
    ∀ x e, (outcome (attempts d xs).1 (attempts d xs).2 x).1 = .error e → (attempts d (xs ++ [x])).1 = (attempts d xs).1 ∧
      (attempts d xs).2.Grows (attempts d (xs ++ [x])).2 ∧ ∀ s, x = .attach s → (attempts d (xs ++ [x])).2 = (attempts d xs).2 := by
  refine ⟨(isKeyed_attempts d xs).1, fun s hs => ?_, fun a b d' hadd => ?_, fun x e hx => ?_⟩
  · cases standing d xs with
    | agrees h => exact Or.inl (h s hs)
    | stranded hs' hstranded hnone hunreadable =>
      cases hs.symm.trans hs'
      refine (attach_of_unreadable hunreadable).imp (fun hok => hok.trans ?_) fun herror => ⟨herror, hstranded, hnone⟩
      rw [← hs, ← hnone]
  · have hadding := adding (attempts d xs).1 (attempts d xs).2 a
    rw [hadd] at hadding
    cases hadding with
    | added hs hnew _ _ =>
      refine ⟨by rw [hs]; simp, ?_, rfl, fun id => Table.get?_insert a.id id a _⟩
      simpa [AccountBook.get?, Table.contains] using hnew
  · rcases hout : outcome (attempts d xs).1 (attempts d xs).2 x with ⟨e' | b, d'⟩
    · rw [attempts_concat, attempt_of_error hout]
      refine ⟨rfl, outcome_grows hout, ?_⟩
      rintro s rfl
      exact (Prod.mk.inj hout).2.symm
    · rw [hout] at hx
      cases hx

/-- Two accounts are added to a root that was missing, with a failure between them. -/
theorem attempts_agree_pair : ∃ d : Disk, d = (attempts Disk.empty [.add ⟨"u1", "alice"⟩, .attach ⟨⟨"docs"⟩⟩, .add ⟨"u2", "bob"⟩,
      .add ⟨"u2", "eve"⟩, .add ⟨"u1", "a \"quoted\" name\n"⟩]).2 ∧
    attach ⟨⟨"docs"⟩⟩ d = .ok ⟨some ⟨⟨"docs"⟩⟩, [("u1", ⟨"u1", "a \"quoted\" name\n"⟩), ("u2", ⟨"u2", "bob"⟩)]⟩ := by
  have hbook : (attempts Disk.empty [.add ⟨"u1", "alice"⟩, .attach ⟨⟨"docs"⟩⟩, .add ⟨"u2", "bob"⟩, .add ⟨"u2", "eve"⟩,
      .add ⟨"u1", "a \"quoted\" name\n"⟩]).1 =
      ⟨some ⟨⟨"docs"⟩⟩, [("u1", ⟨"u1", "a \"quoted\" name\n"⟩), ("u2", ⟨"u2", "bob"⟩)]⟩ := by decide +kernel
  refine ⟨_, rfl, ?_⟩
  rcases (attempts_agree Disk.empty [.add ⟨"u1", "alice"⟩, .attach ⟨⟨"docs"⟩⟩, .add ⟨"u2", "bob"⟩, .add ⟨"u2", "eve"⟩,
    .add ⟨"u1", "a \"quoted\" name\n"⟩]).2.1 ⟨⟨"docs"⟩⟩ (by rw [hbook]) with hagrees | ⟨-, -, hnone⟩
  · rw [hagrees, hbook]
  · rw [hbook] at hnone
    cases hnone

/-- A root whose way leads through the place of its own file of accounts. -/
theorem attempts_disagree : (attempts Disk.empty [.attach ⟨⟨"accounts.json/.."⟩⟩, .add ⟨"u", "U"⟩]).1 = ⟨some ⟨⟨"accounts.json/.."⟩⟩, []⟩ ∧
    attach ⟨⟨"accounts.json/.."⟩⟩ (attempts Disk.empty [.attach ⟨⟨"accounts.json/.."⟩⟩, .add ⟨"u", "U"⟩]).2 =
      .error (.disk ⟨"accounts.json/../accounts.json"⟩ .isADirectory) := by
  decide +kernel

end AccountBook
end CoEdit
