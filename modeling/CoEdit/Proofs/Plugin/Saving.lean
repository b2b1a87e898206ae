import CoEdit.Plugin.Autosave
import CoEdit.Proofs.Storage.Overwriting

/-!
# What saving a document does

A document holds what stands in its file, whether the way there is clear or not (`DocumentStore.Holds`). A write that succeeds makes the
document hold the content, and no write takes away what a document with another file holds. So a flush does one of three things: it finds
nothing to write, or it fails and everything waits as before, or what waited is held and nothing waits any more
(`AutosaveSession.flush_cases`).
-/

namespace CoEdit

namespace DocumentStore

variable {s : DocumentStore} {d d' : Disk} {name other : String} {content content' : ByteArray}

/-- The file of a document holds content. -/
def Holds (s : DocumentStore) (d : Disk) (name : String) (content : ByteArray) : Prop :=
  ∃ p x, s.documentPath name = .ok p ∧ d.entry? (p.place d.workingDirectory) = some (.file content x)

/-- What a document holds is read where its path leads somewhere. -/
theorem Holds.read (h : s.Holds d name content) {p : Path} {v : Place} (hp : s.documentPath name = .ok p) (hl : d.locate p = .ok v) :
    s.read d name = .ok content := by
  obtain ⟨q, x, hq, he⟩ := h
  obtain rfl := Except.ok.inj (hp.symm.trans hq)
  obtain ⟨rfl, -⟩ := Disk.locate_ok hl
  exact (read_eq_ok hp).2 (Disk.read_eq_ok.2 ⟨_, x, hl, he⟩)

/-- Directories that fill gaps take nothing away. -/
theorem Holds.grows (h : s.Holds d name content) (hg : d.Grows d') : s.Holds d' name content := by
  obtain ⟨p, x, hp, he⟩ := h
  refine ⟨p, x, hp, ?_⟩
  rw [hg.workingDirectory]
  rcases hg.entries (p.place d.workingDirectory) with hsame | ⟨hnone, -⟩
  · exact hsame.trans he
  · rw [he] at hnone
    cases hnone

/-- The working directory stays where it is when a document is written. -/
theorem workingDirectory_write (s : DocumentStore) (d : Disk) (name : String) (content : ByteArray) :
    Disk.workingDirectory (s.write d name content).2 = d.workingDirectory := by
  cases hp : s.documentPath name with
  | error e =>
    unfold write
    rw [hp]
  | ok p =>
    obtain ⟨d₁, hgrows, -, ⟨e, hw⟩ | ⟨d₂, hd, hw⟩⟩ := write_cases hp d content
    · rw [hw]
      exact hgrows.workingDirectory
    · obtain ⟨x, -, -, rfl⟩ := Disk.write_ok hd
      rw [hw]
      exact hgrows.workingDirectory

/-- A write that succeeds makes the document hold the content. -/
theorem holds_of_write (hw : s.write d name content = (.ok (), d')) : s.Holds d' name content := by
  cases hp : s.documentPath name with
  | error e =>
    unfold write at hw
    rw [hp] at hw
    cases hw
  | ok p =>
    obtain ⟨d₁, hgrows, -, hd⟩ := write_ok hp hw
    obtain ⟨x, -, hne, rfl⟩ := Disk.write_ok hd
    exact ⟨p, x, hp, Disk.entry?_set_self (Disk.ne_nil_of_not_directory hne) d₁ _⟩

/-- A write that fails has made directories at most. -/
theorem grows_of_write {e : StorageError} (hw : (s.write d name content).1 = .error e) : d.Grows (s.write d name content).2 := by
  cases hp : s.documentPath name with
  | error e =>
    unfold write
    rw [hp]
    exact Disk.Grows.refl d
  | ok p =>
    obtain ⟨d₁, hgrows, -, ⟨e, he⟩ | ⟨d₂, -, he⟩⟩ := write_cases hp d content
    · rw [he]
      exact hgrows
    · rw [he] at hw
      cases hw

/-- A write takes nothing away that a document with another file holds. -/
theorem Holds.write (h : s.Holds d other content') (name : String) (content : ByteArray)
    (hfile : ∀ p q, s.documentPath name = .ok p → s.documentPath other = .ok q →
      p.place d.workingDirectory ≠ q.place d.workingDirectory) : s.Holds (s.write d name content).2 other content' := by
  cases hp : s.documentPath name with
  | error e =>
    unfold DocumentStore.write
    rw [hp]
    exact h
  | ok p =>
    obtain ⟨d₁, hgrows, -, ⟨e, hw⟩ | ⟨d₂, hd, hw⟩⟩ := write_cases hp d content
    · rw [hw]
      exact h.grows hgrows
    · obtain ⟨y, -, -, rfl⟩ := Disk.write_ok hd
      obtain ⟨q, x, hq, he⟩ := h.grows hgrows
      rw [hw]
      refine ⟨q, x, hq, ?_⟩
      have hne := hfile p q hp hq
      rw [← hgrows.workingDirectory] at hne
      exact (Disk.entry?_set_of_ne hne.symm d₁ _).trans he

end DocumentStore

namespace AutosaveSession

variable {a : AutosaveSession} {target : AutosaveTarget}

/-- The disk after the program was told of a file that was written, if there is a program. -/
def afterHook (target : AutosaveTarget) (d : Disk) : Disk :=
  match target.settings.hook, target.settings.storage.documentPath target.document with
  | some hook, .ok file => (runHook hook file d).1
  | _, _ => d

/-- The session once what waited was written at a time. -/
def saved (a : AutosaveSession) (clock : Nat) : AutosaveSession :=
  { a with pending := none, lastSave := some clock, saves := a.saves + 1 }

/-- A flush finds nothing to write, or fails to write what waits and changes nothing else, or writes it. -/
theorem flush_cases (ht : a.target = some target) (around : Surroundings) :
    (a.pending = none ∧ a.flush around = { written := .ok false, session := a, disk := around.disk }) ∨
    (∃ content e, a.pending = some content ∧
      a.flush around =
        { written := .error (.storage e), session := a
          disk := (target.settings.storage.write around.disk target.document content).2 } ∧
      (target.settings.storage.write around.disk target.document content).1 = .error e) ∨
    ∃ content d, a.pending = some content ∧ target.settings.storage.write around.disk target.document content = (.ok (), d) ∧
      (a.flush around).written = .ok true ∧ (a.flush around).session = a.saved around.clock ∧
      (a.flush around).disk = afterHook target d := by
  unfold flush saved
  rw [ht]
  cases hp : a.pending with
  | none => exact Or.inl ⟨rfl, rfl⟩
  | some content =>
    dsimp only
    cases hw : target.settings.storage.write around.disk target.document content with
    | mk r d =>
      cases r with
      | error e => exact Or.inr (Or.inl ⟨content, e, rfl, by rw [hw], by rw [hw]⟩)
      | ok u =>
        refine Or.inr (Or.inr ⟨content, d, rfl, hw, ?_⟩)
        obtain ⟨p, x, hpath, -⟩ := DocumentStore.holds_of_write hw
        unfold afterHook
        cases target.settings.hook with
        | none => exact ⟨rfl, rfl, rfl⟩
        | some hook =>
          rw [hpath]
          exact ⟨rfl, rfl, rfl⟩

end AutosaveSession

namespace Autosave

/-! ## What is taken for granted -/

/-- A plugin that saves documents, the sessions that are reported to it, and what is known of the disk all along. -/
structure Premises where
  /-- The number of the plugin. -/
  number : Nat
  settings : AutosaveSettings
  sessions : Session → Prop
  known : Disk → Prop

namespace Premises

variable (π : Premises)

/-- The plugin saves the document of a session, which is one on a text. -/
def Tracks (x : Session) : Prop := π.sessions x ∧ descriptor.accepts x.kind = true

/-- Where the document of a session is saved to. -/
def target (x : Session) : AutosaveTarget := { document := x.path, settings := π.settings }

/-- The document of a session holds content. -/
def Holds (d : Disk) (x : Session) (content : ByteArray) : Prop := π.settings.storage.Holds d x.path content

/-- Two sessions have documents with files of their own. -/
def Apart (x y : Session) : Prop :=
  ∀ d, π.known d → ∀ p q, π.settings.storage.documentPath x.path = .ok p → π.settings.storage.documentPath y.path = .ok q →
    p.place d.workingDirectory ≠ q.place d.workingDirectory

/-- What the documents of sessions hold stays there, and what is known stays known. -/
structure Spares (d d' : Disk) : Prop where
  known : π.known d → π.known d'
  holds : π.known d → ∀ x content, π.Tracks x → π.Holds d x content → π.Holds d' x content

/-- What the documents of sessions with other files than a session hold stays there, and what is known stays known. -/
structure SparesBut (x : Session) (d d' : Disk) : Prop where
  known : π.known d → π.known d'
  holds : π.known d → ∀ y content, π.Tracks y → π.Apart x y → π.Holds d y content → π.Holds d' y content

/-- What is known stays known when documents are written, and the program that is told of it spares the documents. -/
structure Granted : Prop where
  write : ∀ d x content, π.known d → π.Tracks x → π.known (π.settings.storage.write d x.path content).2
  hook : ∀ d x, π.Tracks x → π.Spares d (AutosaveSession.afterHook (π.target x) d)

variable {π} {d d' d'' : Disk} {x : Session} {a : AutosaveSession} {around : Surroundings} {content : ByteArray}

theorem Spares.refl (d : Disk) : π.Spares d d := ⟨fun h => h, fun _ _ _ _ h => h⟩

theorem Spares.trans (h : π.Spares d d') (h' : π.Spares d' d'') : π.Spares d d'' :=
  ⟨fun hk => h'.known (h.known hk), fun hk x content hx hh => h'.holds (h.known hk) x content hx (h.holds hk x content hx hh)⟩

theorem Spares.but (h : π.Spares d d') (x : Session) : π.SparesBut x d d' :=
  ⟨h.known, fun hk y content hy _ hh => h.holds hk y content hy hh⟩

theorem SparesBut.trans (h : π.SparesBut x d d') (h' : π.Spares d' d'') : π.SparesBut x d d'' :=
  ⟨fun hk => h'.known (h.known hk),
    fun hk y content hy ha hh => h'.holds (h.known hk) y content hy (h.holds hk y content hy ha hh)⟩

/-! ## Flushing -/

/-- Writing the document of a session spares those with other files. -/
theorem Granted.sparesBut_write (g : π.Granted) (hx : π.Tracks x) (d : Disk) (content : ByteArray) :
    π.SparesBut x d (π.settings.storage.write d x.path content).2 :=
  ⟨fun hk => g.write d x content hk hx, fun hk _ _ _ ha hh => hh.write x.path content fun p q hp hq => ha d hk p q hp hq⟩

/-- Trying to write the document of a session in vain spares all. -/
theorem Granted.spares_write {e : StorageError} (g : π.Granted) (hx : π.Tracks x)
    (he : (π.settings.storage.write d x.path content).1 = .error e) :
    π.Spares d (π.settings.storage.write d x.path content).2 :=
  ⟨fun hk => g.write d x content hk hx, fun _ _ _ _ hh => hh.grows (DocumentStore.grows_of_write he)⟩

/-- A flush of a session spares documents with other files. What waits goes on waiting and all documents are spared, or it is held then
and nothing waits. -/
structure Flushes (π : Premises) (x : Session) (a : AutosaveSession) (d : Disk) (f : AutosaveSession.Flushed) : Prop where
  spares : π.SparesBut x d f.disk
  target : f.session.target = some (π.target x)
  outcome : f.session.pending = a.pending ∧ π.Spares d f.disk ∨
    ∃ content, a.pending = some content ∧ f.session.pending = none ∧ π.Holds f.disk x content

/-- A flush that does nothing. -/
theorem flushes_nothing (ht : a.target = some (π.target x)) (w : Except PluginError Bool) (d : Disk) :
    π.Flushes x a d { written := w, session := a, disk := d } :=
  ⟨(Spares.refl d).but x, ht, Or.inl ⟨rfl, Spares.refl d⟩⟩

theorem Granted.flush (g : π.Granted) (ht : a.target = some (π.target x)) (hx : π.Tracks x) (hk : π.known around.disk) :
    π.Flushes x a around.disk (a.flush around) := by
  rcases AutosaveSession.flush_cases ht around with ⟨-, hf⟩ | ⟨content, e, -, hf, he⟩ | ⟨content, d, hp, hw, -, hsession, hd⟩
  · rw [hf]
    exact flushes_nothing ht _ _
  · have hspares := g.spares_write hx he
    rw [hf]
    exact ⟨hspares.but x, ht, Or.inl ⟨rfl, hspares⟩⟩
  · have hwritten : π.SparesBut x around.disk d := by
      have hspares := g.sparesBut_write hx around.disk content
      rw [show π.settings.storage.write around.disk x.path content = (.ok (), d) from hw] at hspares
      exact hspares
    have hhook : π.Spares d (a.flush around).disk := hd ▸ g.hook d x hx
    have hpending : (a.flush around).session.pending = none := hsession ▸ rfl
    exact ⟨hwritten.trans hhook, hsession ▸ ht,
      Or.inr ⟨content, hp, hpending, hhook.holds (hwritten.known hk) x content hx (DocumentStore.holds_of_write hw)⟩⟩

theorem Granted.flushIfDue (g : π.Granted) (ht : a.target = some (π.target x)) (hx : π.Tracks x) (hk : π.known around.disk)
    (now : Nat) : π.Flushes x a around.disk (a.flushIfDue around now) := by
  unfold AutosaveSession.flushIfDue
  split
  · exact g.flush ht hx hk
  · exact flushes_nothing ht _ _

/-- What is logged when the content of a session that goes away could not be written. -/
def finalSaveFailed (y : Session) (e : PluginError) : LogEntry :=
  .warning "Final save failed" [("session", Session.label y.id), ("path", y.path), ("error", e.message)]

/-- When a session goes away and nothing waits, the disk stays as it is. What waits is held afterwards, or could not be written, which
is said. -/
theorem Granted.flushed (g : π.Granted) (ht : a.target = some (π.target x)) (hx : π.Tracks x) (hk : π.known around.disk)
    (y : Session) :
    (a.pending = none → (Autosave.flushed around y (.autosave a)).disk = around.disk) ∧
    ∀ content, a.pending = some content → π.Holds (Autosave.flushed around y (.autosave a)).disk x content ∨
      ∃ e, (π.settings.storage.write around.disk x.path content).1 = .error e ∧
        (Autosave.flushed around y (.autosave a)).said = [.log (finalSaveFailed y (.storage e))] := by
  rcases AutosaveSession.flush_cases ht around with ⟨hnone, hf⟩ | ⟨content, e, hp, hf, he⟩ | ⟨content, d, hp, hw, -, hsession, -⟩
  · refine ⟨fun _ => congrArg AutosaveSession.Flushed.disk hf, fun content hp => ?_⟩
    rw [hp] at hnone
    cases hnone
  · rw [hp]
    refine ⟨nofun, fun content' hp' => Or.inr ⟨e, ?_, ?_⟩⟩
    · rw [← Option.some.inj hp']
      exact he
    · rw [Autosave.flushed, hf]
      rfl
  · rw [hp]
    refine ⟨nofun, fun content' hp' => Or.inl ?_⟩
    rcases (g.flush ht hx hk).outcome with ⟨hpending, -⟩ | ⟨content'', hp'', -, hholds⟩
    · rw [hp, hsession] at hpending
      cases hpending
    · cases hp'
      obtain rfl := Option.some.inj (hp.symm.trans hp'')
      exact hholds

end Premises
end Autosave
end CoEdit
