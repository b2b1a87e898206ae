import CoEdit.Server.Basic

/-!
# Taking over a new configuration

A reload first acquires all that the new configuration needs and the server does not have: credentials, listeners if the port
changed, documents if their root did. Any failure up to there gives back what was acquired and leaves the server as it was.

What follows cannot fail. The endpoints are replaced or changed in place, the old plugins leave before the documents they were
started with, the new ones are started, and the context is installed on every endpoint and connection.
-/

namespace CoEdit

/-- What a reload changed. -/
structure ReloadSummary where
  listenersReplaced : Bool
  storageReplaced : Bool
  pluginsLoaded : Nat
  pluginFailures : List LoadError
  abortedAuthentications : Nat
  deriving DecidableEq, Repr

/-- What was acquired for a new configuration: listeners and documents where these change. -/
structure Acquisition where
  snapshot : Snapshot
  listeners : Option (List Listener)
  storage : Option AttachedStorage

namespace Server

/-- Whether a new port is served by other listeners than those there are. -/
def portChanges (s : Server) (current : UInt16) (candidate : Snapshot) : Bool :=
  candidate.port ≠ current && !(candidate.port = 0 && s.snapshot.port = 0)

/-- Binds listeners if the port changed. -/
def bindCandidate (h : Host) (candidate : Snapshot) (changes : Bool) : Except Refusal (Option (List Listener)) × Host :=
  if changes then
    let (bound, h) := bindListeners h candidate.listenAddress candidate.port
    (bound.map some, h)
  else (.ok none, h)

/-- Attaches documents if their root changed. -/
def attachCandidate (s : Server) (d : Disk) (candidate : Snapshot) : Except Refusal (Option AttachedStorage) :=
  if candidate.storageRoot.same s.snapshot.storageRoot then .ok none
  else (attachStorage d candidate.storageRoot).map some

/-- Opens listeners that were bound. -/
def openCandidate (h : Host) (bound : Option (List Listener)) : Except Refusal (Option (List Listener)) × Host :=
  match bound with
  | none => (.ok none, h)
  | some bound =>
    let (opened, h) := openListeners h bound
    (opened.map some, h)

/-- Acquires what a candidate needs on the present port. -/
def acquireFor (s : Server) (h : Host) (candidate : Snapshot) (current : UInt16) : Except Refusal Acquisition × Host :=
  match bindCandidate h candidate (s.portChanges current candidate) with
  | (.error e, h) => (.error e, h)
  | (.ok bound, h) => match s.attachCandidate h.disk candidate with
    | .error e => (.error e, h.release (bound.getD []))
    | .ok storage => match openCandidate h bound with
      | (.error e, h) => (.error e, h)
      | (.ok listeners, h) => (.ok { snapshot := candidate, listeners, storage }, h)

/-- Acquires what the configuration of a source needs. -/
def acquire (s : Server) (h : Host) (source : ConfigSource) : Except Refusal Acquisition × Host :=
  match loadConfig source h with
  | (.error e, h) => (.error e, h)
  | (.ok c, h) => match Snapshot.prepare c s.snapshot.dhParameters h with
    | (.error e, h) => (.error e, h)
    | (.ok candidate, h) =>
      if candidate.listenAddress ≠ s.snapshot.listenAddress then
        (.error (.addressChanged s.snapshot.listenAddress candidate.listenAddress), h)
      else match s.port? h with
        | none => (.error .noListener, h)
        | some current => s.acquireFor h candidate current

/-- The endpoints after a reload: new ones for new listeners, or the old ones with other credentials and another policy. -/
def renewPool (s : Server) (h : Host) (a : Acquisition) : Pool × Host :=
  match a.listeners with
  | none => (s.pool.secured a.snapshot.policy a.snapshot.credentials, h)
  | some listeners =>
    Pool.addListeners [] { h with network := s.pool.closeAll h.network } a.snapshot.policy a.snapshot.credentials
      a.snapshot.context (sixthFirst listeners)

/-- The directory after a reload: it works on other documents if these changed. -/
def renewStorage (dir : Directory) (h : Host) (a : Acquisition) : Directory × Host :=
  match a.storage with
  | none => (dir, h)
  | some storage => installStorage dir h storage

/-- Takes over what was acquired. -/
def commit (s : Server) (h : Host) (a : Acquisition) : ReloadSummary × Server × Host :=
  let (pool, h) := s.renewPool h a
  let (old, h) := s.registry.unloadAll h
  let (dir, h) := renewStorage s.directory h a
  let (report, registry, h) := loadPlugins {} (old.release h) s.options a.snapshot dir
  ({ listenersReplaced := a.listeners.isSome
     storageReplaced := a.storage.isSome
     pluginsLoaded := report.loaded.length
     pluginFailures := report.failures
     abortedAuthentications := dir.authenticating },
    { s with
      snapshot := a.snapshot
      pool := pool.withContext a.snapshot.context
      registry
      directory := dir.installContext a.snapshot.context }, h)

/-- Takes over the configuration of a source, or refuses it. -/
def reloadFrom (s : Server) (h : Host) (source : ConfigSource) : Except Refusal ReloadSummary × Server × Host :=
  match s.acquire h source with
  | (.error e, h) => (.error e, s, h)
  | (.ok a, h) =>
    let (summary, s, h) := s.commit h a
    (.ok summary, s, h)

end Server

/-- Counts the reloads that were tried. -/
structure ReloadEngine where
  generation : Nat := 0
  deriving DecidableEq, Repr

namespace ReloadEngine

/-- What is logged when a configuration is refused. -/
def refusalEntry (generation : Nat) (r : Refusal) : LogEntry :=
  .failure "Reload failed, keeping current configuration"
    [("generation", toString generation), ("kind", r.kind.name), ("error", r.message)]

/-- Tries a reload. -/
def reload (e : ReloadEngine) (s : Server) (h : Host) (source : ConfigSource) :
    Except Refusal ReloadSummary × ReloadEngine × Server × Host :=
  let e : ReloadEngine := { generation := e.generation + 1 }
  match s.reloadFrom h source with
  | (.ok summary, s, h) => (.ok summary, e, s, h)
  | (.error r, s, h) => (.error r, e, s, h.log (refusalEntry e.generation r))

end ReloadEngine

end CoEdit
