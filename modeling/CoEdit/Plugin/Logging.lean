import CoEdit.Plugin.Basic

/-!
# A plugin that logs connections and sessions

Connections and sessions are logged when they come and when they go. Either kind can be turned off.
-/

namespace CoEdit

namespace Logging

/-- Parameters of the plugin. -/
def parameters : List ParameterSpec := [
  { name := "log-connections", kind := .boolean, description := "Log connections being added and removed" },
  { name := "log-sessions", kind := .boolean, description := "Log sessions being added and removed" }]

/-- Logs a message if this is turned on. -/
def react (around : Surroundings) (on : Bool) (message : String) (fields : List (String × String)) : Reaction :=
  if on then around.saying [.log (.notice message fields)] else around.silence

/-- What is logged of a connection. -/
def connectionFields (c : Connection) : List (String × String) :=
  [("connection", Connection.label c.id), ("peer", c.peer.text)]

/-- What is logged of a session. -/
def sessionFields (s : Session) : List (String × String) := [("session", Session.label s.id), ("path", s.path)]

/-- Logs a session that was added. -/
def sessionOpened (on : Bool) (around : Surroundings) (s : Session) : Reaction :=
  react around on "Session opened" (sessionFields s ++ [("kind", s.kind.name)])

/-- Logs a session that was removed. -/
def sessionClosed (on : Bool) (around : Surroundings) (s : Session) : Reaction :=
  react around on "Session closed" (sessionFields s)

/-- A running plugin that logs connections, sessions or both. -/
def running (connections sessions : Bool) : RunningPlugin where
  connectionState := .seen
  connectionAdded around c state := (state, react around connections "Client connected" (connectionFields c))
  connectionRemoved around c _ := react around connections "Client disconnected" (connectionFields c)
  sessionAdded around s state := (state, sessionOpened sessions around s)
  sessionRemoved around s _ := sessionClosed sessions around s
  otherSessionAdded := sessionOpened sessions
  otherSessionRemoved := sessionClosed sessions

/-- The plugin, which logs both unless a parameter says otherwise. -/
def plugin : Plugin where
  start around _ ps :=
    (.ok (running ((ps.boolean? "log-connections").getD true) ((ps.boolean? "log-sessions").getD true)), around.silence)

/-- The module of the plugin. -/
def descriptor : PluginDescriptor :=
  { name := "logging", description := "Logs connection and session lifecycle events", parameters, plugin }

end Logging

end CoEdit
