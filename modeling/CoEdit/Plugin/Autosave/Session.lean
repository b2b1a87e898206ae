import CoEdit.Log
import CoEdit.Plugin.Parameter
import CoEdit.Script

/-!
# Saving the document of a session

The content that was recorded last waits to be written. It is written when it is flushed: at once, or when the last save is an
interval ago. A write that fails leaves the content waiting. A session without a target keeps its content and writes nothing.
-/

namespace CoEdit

/-- What a plugin finds around it when it is called: the disk, and the time in seconds. -/
structure Surroundings where
  disk : Disk
  clock : Nat

/-- Where documents are saved to, how often, and the program that is told. -/
structure AutosaveSettings where
  storage : DocumentStore
  interval : Nat
  hook : Option Path
  deriving DecidableEq, Repr

/-- The document that the content belongs to. -/
structure AutosaveTarget where
  document : String
  settings : AutosaveSettings
  deriving DecidableEq, Repr

/-- Content that waits, and what became of earlier content. -/
structure AutosaveSession where
  target : Option AutosaveTarget := none
  pending : Option ByteArray := none
  /-- The time of the last save, or else of the binding to a target. -/
  lastSave : Option Nat := none
  /-- How many times content was written. -/
  saves : Nat := 0
  deriving DecidableEq

namespace AutosaveSession

/-- The session of a document. -/
def bind (s : AutosaveSession) (target : AutosaveTarget) (clock : Nat) : AutosaveSession :=
  { s with target := some target, lastSave := some clock }

/-- New content takes the place of what waits. -/
def recordChange (s : AutosaveSession) (content : ByteArray) : AutosaveSession := { s with pending := some content }

/-- Whether content waits. -/
def isDirty (s : AutosaveSession) : Bool := s.pending.isSome

/-- Whether content waits and the last save is an interval ago. -/
def isDue (s : AutosaveSession) (now : Nat) : Bool :=
  match s.target, s.lastSave with
  | some target, some last => s.isDirty && decide (target.settings.interval ≤ now - last)
  | _, _ => false

/-- Tells the program that a file was written. A program that cannot be run is only reported. -/
def runHook (hook : Path) (file : Path) (d : Disk) : Disk × List LogEntry :=
  match d.launch hook [file.text] with
  | .ok d => (d, [])
  | .error e => (d, [.warning "Could not run autosave hook" [("hook", hook.text), ("error", e.message)]])

/-- What a flush leaves: whether content was written, the session, the disk and what was logged. -/
structure Flushed where
  written : Except PluginError Bool
  session : AutosaveSession
  disk : Disk
  log : List LogEntry := []

/-- Writes the content that waits. -/
def flush (s : AutosaveSession) (around : Surroundings) : Flushed :=
  match s.target, s.pending with
  | some target, some content =>
    match target.settings.storage.write around.disk target.document content with
    | (.error e, disk) => { written := .error (.storage e), session := s, disk }
    | (.ok (), disk) =>
      let session := { s with pending := none, lastSave := some around.clock, saves := s.saves + 1 }
      match target.settings.hook with
      | none => { written := .ok true, session, disk }
      | some hook => match target.settings.storage.documentPath target.document with
        | .error e => { written := .error (.storage e), session, disk }
        | .ok file =>
          let (disk, log) := runHook hook file disk
          { written := .ok true, session, disk, log }
  | _, _ => { written := .ok false, session := s, disk := around.disk }

/-- Writes the content that waits if it is due at a time. -/
def flushIfDue (s : AutosaveSession) (around : Surroundings) (now : Nat) : Flushed :=
  if s.isDue now then s.flush around else { written := .ok false, session := s, disk := around.disk }

/-- Without a target nothing is written. -/
theorem flush_of_target_none {s : AutosaveSession} (h : s.target = none) (around : Surroundings) :
    s.flush around = { written := .ok false, session := s, disk := around.disk } := by
  simp [flush, h]

end AutosaveSession

end CoEdit
