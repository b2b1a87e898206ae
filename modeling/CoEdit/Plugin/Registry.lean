import CoEdit.Plugin.Load
import CoEdit.Plugin.SideTable

/-!
# The registry of plugins

The registry holds the plugins that run, in the order they were loaded, the connections and sessions it has been told about, and
the states of the former for the latter. A plugin has a state for every observed connection, and for every observed session of
the kind it asks for.

What appears is reported to the plugins in the order they were loaded, what goes away in the reverse order. A plugin that joins
is told of all that is observed, connections first; one that leaves sees all of it go away, the last first, and is stopped then.
-/

namespace CoEdit

/-- The plugins that run, what they observe, and their states. -/
structure Registry where
  instances : List PluginInstance := []
  connections : Roster Connection := []
  sessions : Roster Session := []
  connectionStates : SideTable := []
  sessionStates : SideTable := []

namespace PluginInstance

/-- Reports a connection that appeared, and keeps the state for it. -/
def enterConnection (i : PluginInstance) (c : Connection) (states : SideTable × Host) : SideTable × Host :=
  let (t, h) := states
  let given := i.running.connectionState
  let (left, reaction) := i.running.connectionAdded h.surroundings c given
  (t.set i.number c.id left, i.call h (.connectionAdded c.id given left) reaction)

/-- Reports a connection that goes away, and gives the state for it back. -/
def leaveConnection (i : PluginInstance) (c : Connection) (states : SideTable × Host) : SideTable × Host :=
  let (t, h) := states
  match t.get? i.number c.id with
  | some state =>
    (t.remove i.number c.id,
      i.call h (.connectionRemoved c.id state) (i.running.connectionRemoved h.surroundings c state))
  | none =>
    (t, h.log (.warning "Missing connection entry" [("plugin", i.name), ("connection", Connection.label c.id)]))

/-- Reports a session that appeared, and keeps the state for it if it is of the kind asked for. -/
def enterSession (i : PluginInstance) (s : Session) (states : SideTable × Host) : SideTable × Host :=
  let (t, h) := states
  if i.descriptor.accepts s.kind then
    let given := i.running.sessionState
    let (left, reaction) := i.running.sessionAdded h.surroundings s given
    (t.set i.number s.id left, i.call h (.sessionAdded s.id (some (given, left))) reaction)
  else (t, i.call h (.sessionAdded s.id none) (i.running.otherSessionAdded h.surroundings s))

/-- Reports a session that goes away, and gives the state for it back if there is one. -/
def leaveSession (i : PluginInstance) (s : Session) (states : SideTable × Host) : SideTable × Host :=
  let (t, h) := states
  match t.get? i.number s.id with
  | some state =>
    (t.remove i.number s.id,
      i.call h (.sessionRemoved s.id (some state)) (i.running.sessionRemoved h.surroundings s state))
  | none => (t, i.call h (.sessionRemoved s.id none) (i.running.otherSessionRemoved h.surroundings s))

end PluginInstance

namespace Registry

/-! ## Looking things up -/

/-- The names of the plugins. -/
def active (r : Registry) : List String := r.instances.map (·.name)

/-- The first plugin of a name. -/
def named? (r : Registry) (name : String) : Option PluginInstance := r.instances.find? (fun i => i.name = name)

/-- Whether a plugin of a name runs. -/
def contains (r : Registry) (name : String) : Bool := (r.named? name).isSome

/-- The state of a plugin for a connection. -/
def connectionState? (r : Registry) (plugin id : Nat) : Option SideState := r.connectionStates.get? plugin id

/-- The state of a plugin for a session. -/
def sessionState? (r : Registry) (plugin id : Nat) : Option SideState := r.sessionStates.get? plugin id

/-- Changes the state of a plugin for a connection. -/
def modifyConnectionState (r : Registry) (plugin id : Nat) (f : SideState → SideState) : Registry :=
  { r with connectionStates := r.connectionStates.modify plugin id f }

/-- Changes the state of a plugin for a session. -/
def modifySessionState (r : Registry) (plugin id : Nat) (f : SideState → SideState) : Registry :=
  { r with sessionStates := r.sessionStates.modify plugin id f }

/-- Changes the state of a plugin for a connection or a session, if there is one, which the trace keeps. -/
def adjust (r : Registry) (h : Host) (plugin : Nat) (subject : Subject) (f : SideState → SideState) : Registry × Host :=
  match subject with
  | .connection id => match r.connectionState? plugin id with
    | some state => (r.modifyConnectionState plugin id f, h.note (.changed plugin subject (f state)))
    | none => (r, h)
  | .session id => match r.sessionState? plugin id with
    | some state => (r.modifySessionState plugin id f, h.note (.changed plugin subject (f state)))
    | none => (r, h)

/-! ## Plugins join -/

/-- A plugin joins and is told of all that is observed. -/
def insert (r : Registry) (h : Host) (i : PluginInstance) : Registry × Host :=
  let (connectionStates, h) := r.connections.foldl (fun x c => i.enterConnection c x) (r.connectionStates, h)
  let (sessionStates, h) := r.sessions.foldl (fun x s => i.enterSession s x) (r.sessionStates, h)
  ({ r with instances := r.instances ++ [i], connectionStates, sessionStates }, h)

/-! ## Connections and sessions come and go -/

/-- A connection appeared. -/
def connectionAdded (r : Registry) (h : Host) (c : Connection) : Registry × Host :=
  if r.connections.contains c.id then
    (r, h.log (.warning "Connection reported twice, ignoring" [("connection", Connection.label c.id)]))
  else
    let (connectionStates, h) := r.instances.foldl (fun x i => i.enterConnection c x) (r.connectionStates, h)
    ({ r with connections := r.connections.insert c, connectionStates }, h)

/-- A connection goes away. -/
def connectionRemoved (r : Registry) (h : Host) (c : Connection) : Registry × Host :=
  if ¬ r.connections.contains c.id then
    (r, h.log (.warning "Unknown connection removed, ignoring" [("connection", Connection.label c.id)]))
  else
    let (connectionStates, h) := r.instances.reverse.foldl (fun x i => i.leaveConnection c x) (r.connectionStates, h)
    ({ r with connections := r.connections.remove c.id, connectionStates }, h)

/-- A session appeared. -/
def sessionAdded (r : Registry) (h : Host) (s : Session) : Registry × Host :=
  if r.sessions.contains s.id then
    (r, h.log (.warning "Session reported twice, ignoring" [("session", Session.label s.id)]))
  else
    let (sessionStates, h) := r.instances.foldl (fun x i => i.enterSession s x) (r.sessionStates, h)
    ({ r with sessions := r.sessions.insert s, sessionStates }, h)

/-- A session goes away. -/
def sessionRemoved (r : Registry) (h : Host) (s : Session) : Registry × Host :=
  if ¬ r.sessions.contains s.id then
    (r, h.log (.warning "Unknown session removed, ignoring" [("session", Session.label s.id)]))
  else
    let (sessionStates, h) := r.instances.reverse.foldl (fun x i => i.leaveSession s x) (r.sessionStates, h)
    ({ r with sessions := r.sessions.remove s.id, sessionStates }, h)

/-- Observes a connection that was not observed before. -/
def observeConnection (x : Registry × Host) (c : Connection) : Registry × Host :=
  if x.1.connections.contains c.id then x else x.1.connectionAdded x.2 c

/-- Observes a session that was not observed before. -/
def observeSession (x : Registry × Host) (s : Session) : Registry × Host :=
  if x.1.sessions.contains s.id then x else x.1.sessionAdded x.2 s

/-- Observes all that is in a directory and was not observed before, connections first. -/
def observe (r : Registry) (h : Host) (d : Directory) : Registry × Host :=
  d.sessions.foldl observeSession (d.connections.foldl observeConnection (r, h))

/-! ## Plugins leave -/

/-- A plugin that is no longer among the others sees all that is observed go away and is stopped. -/
def dismiss (r : Registry) (h : Host) (i : PluginInstance) : Registry × Host :=
  let (connectionStates, h) := r.connections.reverse.foldl (fun x c => i.leaveConnection c x) (r.connectionStates, h)
  let (sessionStates, h) := r.sessions.reverse.foldl (fun x s => i.leaveSession s x) (r.sessionStates, h)
  ({ r with connectionStates, sessionStates }, i.retire h)

/-- The first plugin of a name leaves. Whether there was one is the first part of the result. -/
def unload (r : Registry) (h : Host) (name : String) : Bool × Registry × Host :=
  match r.named? name with
  | none => (false, r, h)
  | some i => (true, { r with instances := r.instances.eraseP (fun i => i.name = name) }.dismiss h i)

/-- The plugins of a list leave, the first one first. -/
def dismissAll (r : Registry) (h : Host) (leaving : List PluginInstance) : Registry × Host :=
  leaving.foldl (fun x i => x.1.dismiss x.2 i) (r, h)

/-- All plugins leave, the last loaded first. What is observed stays so. -/
def unloadAll (r : Registry) (h : Host) : Registry × Host :=
  if r.instances = [] then (r, h)
  else
    let (r, h) := { r with instances := [] }.dismissAll h r.instances.reverse
    ({ r with connectionStates := [], sessionStates := [] }, h)

/-- Lets go of a registry: all plugins leave, and any that did not is stopped. -/
def release (r : Registry) (h : Host) : Host :=
  let (r, h) := r.unloadAll h
  r.instances.foldl (fun h i => i.stop h) h

end Registry

end CoEdit
