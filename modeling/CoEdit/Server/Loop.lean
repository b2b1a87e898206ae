import CoEdit.Server.Reload

/-!
# The event loop

A running server is driven by events, one at a time, so that nothing happens in the middle of a reload. Connections are accepted
by tasks, one for each endpoint whose listener has a socket. The tasks follow the endpoints whenever these may have changed: at
the start and after every successful reload.

The server reloads from its source, which is the source of the last successful reload that named one.

Requests that nobody waits for stand in a queue of limited length.
-/

namespace CoEdit

/-- What the loop of a server is told. -/
inductive ServerEvent where
  /-- A client came in at an endpoint. -/
  | accepted (endpoint : Nat) (peer : PeerAddress)
  /-- A client went away. -/
  | closed (id : Nat)
  /-- A reload is wanted, from another source or from the one there is. -/
  | reload (source : Option ConfigSource)
  | status
  | shutdown
  deriving DecidableEq, Repr

/-- What a server says of itself. -/
structure ServerStatus where
  port : Option UInt16
  endpoints : Nat
  connections : Nat
  plugins : List String
  reloads : Nat
  deriving DecidableEq, Repr

/-- What an event is answered with. -/
inductive ServerReply where
  | nothing
  | reloaded (outcome : Except Refusal ReloadSummary)
  | status (s : ServerStatus)

/-- A task that accepts the connections of an endpoint. No two tasks have the same number. -/
structure AcceptTask where
  number : Nat
  endpoint : Nat
  deriving DecidableEq, Repr

/-- A server and the state of its loop. -/
structure ServerLoop where
  server : Server
  /-- Where reloads without a source of their own read from. -/
  source : ConfigSource
  engine : ReloadEngine := {}
  accepting : List AcceptTask := []
  cancelled : List AcceptTask := []
  nextTask : Nat := 1
  /-- The connections that the loop accepted and that have not gone away. -/
  serving : List Nat := []
  nextConnection : Nat := 1
  queue : List ServerEvent := []
  isRunning : Bool := true

namespace ServerLoop

/-! ## Tasks -/

/-- The endpoints that connections can be taken from and that have none of the given tasks. -/
def unserved (l : ServerLoop) (n : Network) (tasks : List AcceptTask) : Pool :=
  l.server.pool.filter fun e => n.canAccept e.listener && !tasks.any (fun t => t.endpoint = e.number)

/-- Cancels the tasks of endpoints that left the pool, and starts tasks for those that have none. -/
def syncTasks (l : ServerLoop) (n : Network) : ServerLoop :=
  let live := l.server.pool.numbers
  let (kept, left) := l.accepting.partition fun t => live.contains t.endpoint
  let fresh := ((l.unserved n kept).zipIdx l.nextTask).map fun (e, number) => { number, endpoint := e.number }
  { l with
    accepting := kept ++ fresh
    cancelled := l.cancelled ++ left
    nextTask := l.nextTask + fresh.length }

/-- The loop of a server that was started. -/
def run (server : Server) (source : ConfigSource) (h : Host) : ServerLoop :=
  { server, source : ServerLoop }.syncTasks h.network

/-- Starts a server with the configuration of a source, and its loop. -/
def start (source : ConfigSource) (dir : Directory) (options : ServerOptions) (h : Host) :
    Except Refusal ServerLoop × Host :=
  let (started, h) := Server.start source dir options h
  (started.map fun server => run server source h, h)

/-! ## Events -/

/-- Registers a connection under the next number if its endpoint is still there. -/
def accept (l : ServerLoop) (h : Host) (endpoint : Nat) (peer : PeerAddress) : ServerLoop × Host :=
  match l.server.pool.get? endpoint with
  | none => (l, h)
  | some _ =>
    let id := l.nextConnection
    match l.server.addConnection h { id, peer } with
    | (.ok (), server, h) => ({ l with server, nextConnection := id + 1, serving := l.serving ++ [id] }, h)
    | (.error e, server, h) =>
      ({ l with server, nextConnection := id + 1 },
        h.log (.failure "Failed to register connection"
          [("connection", Connection.label id), ("error", (ServerError.directory e).message)]))

/-- Forgets a connection. -/
def close (l : ServerLoop) (h : Host) (id : Nat) : ServerLoop × Host :=
  let (_, server, h) := l.server.removeConnection h id
  ({ l with server, serving := l.serving.filter (· ≠ id) }, h)

/-- Reloads from a source, or from the one there is. -/
def reload (l : ServerLoop) (h : Host) (source : Option ConfigSource) :
    Except Refusal ReloadSummary × ServerLoop × Host :=
  match l.engine.reload l.server h (source.getD l.source) with
  | (.error e, engine, server, h) => (.error e, { l with engine, server }, h)
  | (.ok summary, engine, server, h) =>
    (.ok summary, { l with engine, server, source := source.getD l.source }.syncTasks h.network, h)

/-- What the server says of itself. -/
def status (l : ServerLoop) (h : Host) : ServerStatus :=
  { port := l.server.port? h
    endpoints := l.server.pool.length
    connections := l.server.directory.connections.length
    plugins := l.server.registry.active
    reloads := l.engine.generation }

/-- Stops the loop and the server. -/
def stop (l : ServerLoop) (h : Host) : ServerLoop × Host :=
  let (server, h) := l.server.shutdown h
  ({ l with server, cancelled := l.cancelled ++ l.accepting, accepting := [], serving := [], isRunning := false }, h)

/-- Takes an event while the loop runs. -/
def handle (l : ServerLoop) (h : Host) : ServerEvent → ServerReply × ServerLoop × Host
  | .accepted endpoint peer => (.nothing, l.accept h endpoint peer)
  | .closed id => (.nothing, l.close h id)
  | .reload source =>
    let (outcome, l, h) := l.reload h source
    (.reloaded outcome, l, h)
  | .status => (.status (l.status h), l, h)
  | .shutdown => (.nothing, l.stop h)

/-- Takes an event. A loop that has stopped takes none; reloads are refused. -/
def step (l : ServerLoop) (h : Host) (e : ServerEvent) : ServerReply × ServerLoop × Host :=
  if l.isRunning then l.handle h e
  else match e with
    | .reload _ => (.reloaded (.error .notRunning), l, h)
    | _ => (.nothing, l, h)

/-! ## The queue -/

/-- How many events wait at most. -/
def queueCapacity : Nat := 256

/-- Queues a reload if the loop runs and there is room. -/
def requestReload (l : ServerLoop) : Bool × ServerLoop :=
  if l.isRunning && decide (l.queue.length < queueCapacity) then (true, { l with queue := l.queue ++ [.reload none] })
  else (false, l)

/-- Queues reloads one after the other, as many as are wanted and find room. -/
def requestReloads (l : ServerLoop) : Nat → Nat × ServerLoop
  | 0 => (0, l)
  | n + 1 =>
    let (queued, l) := l.requestReload
    let (more, l) := requestReloads l n
    (more + queued.toNat, l)

/-- Takes all events of the queue. -/
def runQueue (l : ServerLoop) (h : Host) : ServerLoop × Host :=
  l.queue.foldl (fun (l, h) e => (l.step h e).2) ({ l with queue := [] }, h)

end ServerLoop

end CoEdit
