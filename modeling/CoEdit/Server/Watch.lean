import CoEdit.Duration
import CoEdit.Error
import CoEdit.Server.Loop

/-!
# Watching configuration files

The directories of the configuration files are watched, not the files: a file that is replaced by another one is noticed too. An
event matters when it changes, makes or removes one of the files.

Events that matter lead to a reload, but not at once: the watcher waits until nothing at all has happened for a while. So a burst
of events leads to one reload after the last of them, if any of them matters. That the watching itself fails counts as an event that
does not matter.
-/

namespace CoEdit

/-- What happened to files. -/
inductive FileChange where
  | created | modified | removed
  /-- A file was opened, read or closed. -/
  | accessed
  deriving DecidableEq, Repr

/-- Something that happened to files. -/
structure FileEvent where
  change : FileChange
  files : List Path
  deriving DecidableEq, Repr

/-- The path of a place from the root. -/
def Place.path (p : Place) : Path := ⟨"/" ++ String.intercalate "/" p⟩

/-- The path from the root of what a path leads to. -/
def Disk.absolute? (d : Disk) (p : Path) : Option Path := (d.find p).toOption.map fun x => Place.path x.1

namespace FileEvent

/-- Whether a file that changed is one that is watched. Events name files from the root, those watched may be relative. -/
def sameFile (d : Disk) (changed watched : Path) : Bool :=
  changed.same watched ||
    (changed.fileName? = watched.fileName? &&
      match changed.parent?, (d.absolute? watched).bind Path.parent? with
      | some here, some there => here.same there
      | _, _ => false)

/-- Whether an event matters to watched files. -/
def concerns (e : FileEvent) (d : Disk) (watched : List Path) : Bool :=
  e.change ≠ .accessed && e.files.any fun changed => watched.any (sameFile d changed)

end FileEvent

/-! ## What is watched -/

/-- A watch over configuration files. -/
structure ConfigWatch where
  files : List Path
  /-- How long nothing must have happened before a reload is requested. -/
  debounce : Duration := .halfSecond
  deriving DecidableEq

namespace ConfigWatch

/-- The directory of a file; that of a mere name is the working directory. -/
def directoryOf (file : Path) : Path :=
  match file.parent? with
  | some dir => if dir.text = "" then ⟨"."⟩ else dir
  | none => ⟨"."⟩

/-- The directories that are watched. -/
def directories (w : ConfigWatch) : List Path := w.files.map directoryOf

/-- Watches files, whose directories must exist. -/
def start (d : Disk) (files : List Path) (debounce : Duration := .halfSecond) : Except ServerError ConfigWatch :=
  match files.filterMap (fun f => match d.find (directoryOf f) with
    | .ok _ => none
    | .error e => some (directoryOf f, e)) with
  | [] => .ok { files, debounce }
  | (dir, cause) :: _ => .error (.unwatchable dir cause)

/-- The events by which a change of a file is noticed: one for each watched directory that the file is in. -/
def noticed (w : ConfigWatch) (d : Disk) (change : FileChange) (file : Path) : List FileEvent :=
  match d.absolute? (directoryOf file), file.fileName? with
  | some home, some name =>
    (w.directories.filter fun dir => decide (d.absolute? dir = some home)).map fun _ => { change, files := [home.join ⟨name⟩] }
  | _, _ => []

end ConfigWatch

/-! ## Waiting for bursts to end -/

/-- When something happened, and whether it matters. -/
structure TimedEvent where
  time : Nat
  isRelevant : Bool
  deriving DecidableEq, Repr

/-- What a watcher waits for. -/
inductive WatchState where
  /-- Nothing that matters has happened. -/
  | idle
  /-- Something that matters has happened, and the last event of all was at a time. -/
  | settling (last : Nat)
  deriving DecidableEq, Repr

namespace WatchState

/-- The state after an event in the idle state. -/
def wake (e : TimedEvent) : WatchState := if e.isRelevant then .settling e.time else .idle

/-- The reload that is requested if nothing more happens. -/
def finish (period : Nat) : WatchState → List Nat
  | .idle => []
  | .settling last => [last + period]

section

/- The period, and whether an event that comes at the very time at which the period ends is noticed first. -/
variable (period : Nat) (ties : Nat → Bool)

/-- Whether an event is noticed before the period has passed since the last one. -/
def inTime (last time : Nat) : Bool := time < last + period || (time = last + period && ties time)

/-- The reloads that are requested before an event, as the period has passed by then, and the state after the event. -/
def step (s : WatchState) (e : TimedEvent) : List Nat × WatchState :=
  match s with
  | .idle => ([], wake e)
  | .settling last => if inTime period ties last e.time then ([], .settling e.time) else ([last + period], wake e)

/-- The times at which reloads are requested, when nothing more happens after the events. -/
def requests (s : WatchState) : List TimedEvent → List Nat
  | [] => s.finish period
  | e :: rest => (s.step period ties e).1 ++ requests (s.step period ties e).2 rest

end

end WatchState

/-! ## From changes to reloads -/

/-- What a watcher is told: what happened to files, or why that cannot be told. -/
inductive WatchReport where
  | event (e : FileEvent)
  | failure (reason : String)
  deriving DecidableEq, Repr

/-- A report, and the time and the disk as it comes. -/
structure WatchSignal where
  time : Nat
  disk : Disk
  report : WatchReport

namespace ConfigWatch

/-- Whether a report matters. -/
def isRelevant (w : ConfigWatch) (s : WatchSignal) : Bool :=
  match s.report with
  | .event e => e.concerns s.disk w.files
  | .failure _ => false

/-- What a report is to the watcher. -/
def timed (w : ConfigWatch) (s : WatchSignal) : TimedEvent := { time := s.time, isRelevant := w.isRelevant s }

/-- The times at which a watcher requests reloads, in nanoseconds like those of the reports. -/
def requestTimes (w : ConfigWatch) (ties : Nat → Bool) (signals : List WatchSignal) : List Nat :=
  WatchState.idle.requests w.debounce.nanoseconds ties (signals.map w.timed)

/-- The reports of a change of a file. -/
def signals (w : ConfigWatch) (h : Host) (change : FileChange) (file : Path) : List WatchSignal :=
  (w.noticed h.disk change file).map fun e => { time := h.clock * 1000000000, disk := h.disk, report := .event e }

end ConfigWatch

/-- Takes notice of a change of a file: the reloads that it leads to are requested and made. Whether there are any is the first part of
the result. -/
def ServerLoop.noticeChange (l : ServerLoop) (h : Host) (w : ConfigWatch) (change : FileChange) (file : Path) :
    Bool × ServerLoop × Host :=
  let (queued, l) := l.requestReloads (w.requestTimes (fun _ => true) (w.signals h change file)).length
  (0 < queued, l.runQueue h)

end CoEdit
