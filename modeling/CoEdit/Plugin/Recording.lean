import CoEdit.Plugin.Basic

/-!
# A plugin that records its calls

Every call is recorded as an event. The state for a connection names the plugin and the connection, the state for a session the
session.
-/

namespace CoEdit

namespace Recording

/-- Parameters of a recording plugin. -/
def parameters : List ParameterSpec := [
  { name := "fail", kind := .boolean, description := "Fail initialization" },
  { name := "label", kind := .string, description := "Free-form label" }]

/-- Records an event. -/
def react (around : Surroundings) (e : RecordedEvent) : Reaction := around.saying [.event e]

/-- The state for a connection, if it is of the right sort. -/
def connectionRecorded (name : String) (id : Nat) : SideState → SideState
  | .recordedConnection _ => .recordedConnection (some (name, id))
  | state => state

/-- The state for a session, if it is of the right sort. -/
def sessionRecorded (id : Nat) : SideState → SideState
  | .recordedSession _ => .recordedSession (some id)
  | state => state

/-- A running plugin. -/
def running (name : String) : RunningPlugin where
  connectionState := .recordedConnection none
  sessionState := .recordedSession none
  connectionAdded around c state := (connectionRecorded name c.id state, react around (.connectionAdded name c.id))
  connectionRemoved around c _ := react around (.connectionRemoved name c.id)
  sessionAdded around s state := (sessionRecorded s.id state, react around (.sessionAdded name s.id true))
  sessionRemoved around s _ := react around (.sessionRemoved name s.id true)
  otherSessionAdded around s := react around (.sessionAdded name s.id false)
  otherSessionRemoved around s := react around (.sessionRemoved name s.id false)
  stop around := react around (.stopped name)

/-- A plugin that starts unless it is told to fail, or always fails. -/
def plugin (name : String) (fails : Bool) : Plugin where
  start around _ ps :=
    (if fails || ps.boolean? "fail" = some true then .error (.initialization (name ++ " refuses to start"))
      else .ok (running name),
      react around (.started name))
  abandon around := react around (.stopped name)

/-- A module with a recording plugin. -/
def descriptor (name : String) : PluginDescriptor :=
  { name, description := "Records plugin callbacks", parameters, plugin := plugin name false }

/-- A module with a plugin that never starts. -/
def failingDescriptor (name : String) : PluginDescriptor :=
  { name, description := "Fails to initialize", parameters, plugin := plugin name true }

end Recording

end CoEdit
