import CoEdit.Config.Environment
import CoEdit.Network
import CoEdit.Plugin.Basic

/-!
# Hosts

A host is what a server runs on: a disk, the variables of the environment, a network and a clock. It hands out numbers that are
never used twice, and it keeps the trace of all that matters to an observer, the oldest first: what was said, which plugins were
made, what they were called for, what became of their states and of the storage.
-/

namespace CoEdit

/-- What a plugin was called for, with the states it was given and left. -/
inductive Callback where
  | started (context : PluginContext) (parameters : PluginParameters) (succeeded : Bool)
  | connectionAdded (id : Nat) (given left : SideState)
  | connectionRemoved (id : Nat) (given : SideState)
  | sessionAdded (id : Nat) (state : Option (SideState × SideState))
  | sessionRemoved (id : Nat) (given : Option SideState)
  | stopped
  deriving DecidableEq

/-- What a plugin has a state for. -/
inductive Subject where
  | connection (id : Nat)
  | session (id : Nat)
  deriving DecidableEq, Repr

/-- Something that happened. -/
inductive Occurrence where
  | said (u : Utterance)
  | created (number : Nat) (plugin : String)
  | called (number : Nat) (plugin : String) (callback : Callback)
  /-- The state of a plugin for something was changed by someone who looked it up. -/
  | changed (number : Nat) (subject : Subject) (state : SideState)
  /-- The root of the documents was made, or an attempt to make it failed. -/
  | rootEnsured (root : Path)
  /-- The directory works on the documents of a root from now on. -/
  | storageInstalled (root : Path)
  deriving DecidableEq

/-- What a server runs on. -/
structure Host where
  disk : Disk
  environment : Environment := []
  network : Network := {}
  /-- The time in seconds. -/
  clock : Nat := 0
  /-- The number of the next plugin. -/
  nextPlugin : Nat := 1
  /-- The number of the next endpoint. -/
  nextEndpoint : Nat := 1
  /-- The number of the next parameters for TLS. -/
  nextSerial : Nat := 1
  trace : List Occurrence := []

namespace Host

/-- What a plugin finds around it. -/
def surroundings (h : Host) : Surroundings := { disk := h.disk, clock := h.clock }

/-- Keeps an occurrence in the trace. -/
def note (h : Host) (o : Occurrence) : Host := { h with trace := h.trace ++ [o] }

/-- Logs an entry. -/
def log (h : Host) (e : LogEntry) : Host := h.note (.said (.log e))

/-- Logs entries one after the other. -/
def logAll (h : Host) (es : List LogEntry) : Host := es.foldl log h

/-- Takes over the reaction of a plugin. -/
def react (h : Host) (r : Reaction) : Host := { h with disk := r.disk, trace := h.trace ++ r.said.map .said }

/-- Keeps a call of a plugin, and takes over its reaction. -/
def call (h : Host) (number : Nat) (plugin : String) (c : Callback) (r : Reaction) : Host :=
  (h.note (.called number plugin c)).react r

/-- What was said, the oldest first. -/
def utterances (h : Host) : List Utterance :=
  h.trace.filterMap fun
    | .said u => some u
    | _ => none

end Host

end CoEdit
