import CoEdit.Plugin.Batch
import CoEdit.Server.Resources

/-!
# Servers

A server runs with a snapshot: it has a pool of endpoints, plugins, and a directory of connections and sessions. What comes into
the directory and what goes out of it through the server is reported to the plugins.
-/

namespace CoEdit

/-- What a server is made with. -/
structure ServerOptions where
  /-- The modules that are looked through before the directory of the configuration. -/
  modules : ModuleSource
  /-- How libraries in that directory are opened. -/
  opener : LibraryOpener := .none
  /-- Whether a plugin that cannot be loaded keeps the server from starting. -/
  strict : Bool := false

/-- The modules to choose from when a directory is configured. -/
def ServerOptions.source (o : ServerOptions) (directory : Option Path) : ModuleSource :=
  match directory with
  | some path => .chained [o.modules, .libraries path o.opener]
  | none => o.modules

/-- A server that runs. -/
structure Server where
  snapshot : Snapshot
  pool : Pool
  registry : Registry
  directory : Directory
  options : ServerOptions

namespace Server

/-- The port the server listens on. -/
def port? (s : Server) (h : Host) : Option UInt16 := s.pool.port? h.network

/-! ## Starting and stopping -/

/-- Starts the plugins of a snapshot among others, whose registry is given. -/
def loadPlugins (registry : Registry) (h : Host) (options : ServerOptions) (snapshot : Snapshot) (dir : Directory) :
    LoadReport × Registry × Host :=
  let settings := snapshot.config.plugins
  registry.loadAll h (options.source settings.path) settings.load settings.parametersFor dir

/-- The server of a snapshot whose listeners are open and whose documents are attached. -/
def assemble (snapshot : Snapshot) (listeners : List Listener) (storage : AttachedStorage) (dir : Directory)
    (options : ServerOptions) (h : Host) : LoadReport × Server × Host :=
  let (pool, h) := Pool.addListeners [] h snapshot.policy snapshot.credentials snapshot.context listeners
  let (dir, h) := installStorage dir h storage
  let dir := dir.installContext snapshot.context
  let (report, registry, h) := loadPlugins {} h options snapshot dir
  (report, { snapshot, pool := pool.withContext snapshot.context, registry, directory := dir, options }, h)

/-- Unloads the plugins and closes the endpoints. -/
def shutdown (s : Server) (h : Host) : Server × Host :=
  let (registry, h) := s.registry.unloadAll h
  ({ s with registry, pool := [] }, { h with network := s.pool.closeAll h.network })

/-- Lets go of a server, which closes and unloads what it still has. -/
def release (s : Server) (h : Host) : Host := s.registry.release { h with network := s.pool.closeAll h.network }

/-- Starts a server with a snapshot that was prepared. -/
def startPrepared (snapshot : Snapshot) (dir : Directory) (options : ServerOptions) (h : Host) :
    Except Refusal Server × Host :=
  match bindListeners h snapshot.listenAddress snapshot.port with
  | (.error e, h) => (.error e, h)
  | (.ok bound, h) => match attachStorage h.disk snapshot.storageRoot with
    | .error e => (.error e, h.release bound)
    | .ok storage => match openListeners h bound with
      | (.error e, h) => (.error e, h)
      | (.ok opened, h) =>
        let (report, s, h) := assemble snapshot opened storage dir options h
        match report.failures with
        | e :: _ =>
          if options.strict then
            let (s, h) := s.shutdown h
            (.error (.plugin e), s.release h)
          else (.ok s, h)
        | [] => (.ok s, h)

/-- Starts a server with a configuration that is valid. -/
def startWith (c : Config) (dir : Directory) (options : ServerOptions) (h : Host) : Except Refusal Server × Host :=
  match Snapshot.prepare c none h with
  | (.error e, h) => (.error e, h)
  | (.ok snapshot, h) => startPrepared snapshot dir options h

/-- The configuration of a source, with the warnings about it logged. -/
def loadConfig (source : ConfigSource) (h : Host) : Except Refusal Config × Host :=
  let (log, result) := source.load h.environment h.disk
  (result.mapError (fun e => .notLoaded (.configuration e)), h.logAll log)

/-- Starts a server with the configuration of a source. -/
def start (source : ConfigSource) (dir : Directory) (options : ServerOptions) (h : Host) : Except Refusal Server × Host :=
  match loadConfig source h with
  | (.error e, h) => (.error e, h)
  | (.ok c, h) => startWith c dir options h

/-! ## Connections and sessions -/

/-- Adds a connection and reports it. -/
def addConnection (s : Server) (h : Host) (c : Connection) : Except DirectoryError Unit × Server × Host :=
  match s.directory.addConnection c with
  | .error e => (.error e, s, h)
  | .ok directory => match directory.connection? c.id with
    | none => (.ok (), { s with directory }, h)
    | some added =>
      let (registry, h) := s.registry.connectionAdded h added
      (.ok (), { s with directory, registry }, h)

/-- Reports that a connection goes away, and forgets it. -/
def removeConnection (s : Server) (h : Host) (id : Nat) : Option Connection × Server × Host :=
  let (registry, h) := match s.directory.connection? id with
    | some c => s.registry.connectionRemoved h c
    | none => (s.registry, h)
  let (c, directory) := s.directory.removeConnection id
  (c, { s with directory, registry }, h)

/-- Adds a session and reports it. -/
def addSession (s : Server) (h : Host) (x : Session) : Except DirectoryError Unit × Server × Host :=
  match s.directory.addSession x with
  | .error e => (.error e, s, h)
  | .ok directory => match directory.session? x.id with
    | none => (.ok (), { s with directory }, h)
    | some added =>
      let (registry, h) := s.registry.sessionAdded h added
      (.ok (), { s with directory, registry }, h)

/-- Reports that a session goes away, and forgets it. -/
def removeSession (s : Server) (h : Host) (id : Nat) : Option Session × Server × Host :=
  let (registry, h) := match s.directory.session? id with
    | some x => s.registry.sessionRemoved h x
    | none => (s.registry, h)
  let (x, directory) := s.directory.removeSession id
  (x, { s with directory, registry }, h)

end Server

end CoEdit
