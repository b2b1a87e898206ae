import CoEdit.Directory
import CoEdit.Plugin.Autosave.Session

/-!
# Plugins

A plugin is started with a context and its parameters. If it starts it is running, and is told about the connections and
sessions of the server until it is stopped; if it fails to start it is stopped at once.

For each connection, and for each session of the kind it asks for, a running plugin has a state that the server keeps: it is made
by the plugin, shown to it when the connection or session appears, and given back when it goes away. Of sessions of another kind
it is told without a state.

Each call of a plugin leaves a reaction: the disk after it, and what the plugin said.
-/

namespace CoEdit

/-- Something a recording plugin was called for. -/
inductive RecordedEvent where
  | started (plugin : String)
  | stopped (plugin : String)
  | connectionAdded (plugin : String) (id : Nat)
  | connectionRemoved (plugin : String) (id : Nat)
  | sessionAdded (plugin : String) (id : Nat) (hasState : Bool)
  | sessionRemoved (plugin : String) (id : Nat) (hasState : Bool)
  deriving DecidableEq, Repr

/-- Something that was said. -/
inductive Utterance where
  | log (entry : LogEntry)
  | event (e : RecordedEvent)
  | note (text : String)
  deriving DecidableEq, Repr

/-- State of a plugin for a connection or a session. -/
inductive SideState where
  /-- Nothing. -/
  | unit
  /-- The connection was seen. -/
  | seen
  /-- A plugin and the connection it was told about. -/
  | recordedConnection (record : Option (String × Nat))
  /-- The session a plugin was told about. -/
  | recordedSession (session : Option Nat)
  | autosave (session : AutosaveSession)
  deriving DecidableEq

/-- What a plugin leaves when it was called. -/
structure Reaction where
  disk : Disk
  said : List Utterance := []

/-- No reaction. -/
def Surroundings.silence (s : Surroundings) : Reaction := { disk := s.disk }

/-- A reaction of a few words. -/
def Surroundings.saying (s : Surroundings) (said : List Utterance) : Reaction := { disk := s.disk, said }

/-- What a plugin gets when it is started. -/
structure PluginContext where
  /-- The name the plugin was loaded under. -/
  name : String
  storage : DocumentStore
  deriving DecidableEq, Repr

/-- A plugin that was started. -/
structure RunningPlugin where
  connectionState : SideState := .unit
  sessionState : SideState := .unit
  connectionAdded : Surroundings → Connection → SideState → SideState × Reaction := fun around _ state => (state, around.silence)
  connectionRemoved : Surroundings → Connection → SideState → Reaction := fun around _ _ => around.silence
  sessionAdded : Surroundings → Session → SideState → SideState × Reaction := fun around _ state => (state, around.silence)
  sessionRemoved : Surroundings → Session → SideState → Reaction := fun around _ _ => around.silence
  /-- A session of another kind than the plugin asks for was added. -/
  otherSessionAdded : Surroundings → Session → Reaction := fun around _ => around.silence
  /-- A session of another kind than the plugin asks for was removed. -/
  otherSessionRemoved : Surroundings → Session → Reaction := fun around _ => around.silence
  stop : Surroundings → Reaction := fun around => around.silence

/-- A plugin that was made and not yet started. -/
structure Plugin where
  start : Surroundings → PluginContext → PluginParameters → Except PluginError RunningPlugin × Reaction
  /-- Stops a plugin that failed to start. -/
  abandon : Surroundings → Reaction := fun around => around.silence

/-- The version of the interface between the server and its plugins. -/
def pluginApiVersion : Nat := 1

/-- What a module says about the plugin in it. -/
structure PluginDescriptor where
  apiVersion : Nat := pluginApiVersion
  name : String
  description : String
  parameters : List ParameterSpec := []
  /-- The kind of sessions the plugin has states for. -/
  sessionType : Option String := none
  plugin : Plugin

namespace PluginDescriptor

/-- Whether the plugin has states for sessions of a kind. -/
def accepts (d : PluginDescriptor) (kind : SessionKind) : Bool :=
  match d.sessionType with
  | some name => kind.isA name
  | none => true

/-- A plugin has states for the sessions of the kind it asks for and of the kinds derived from it, or for all. -/
theorem accepts_iff (d : PluginDescriptor) (kind : SessionKind) : d.accepts kind = true ↔
    d.sessionType = none ∨ ∃ name k, d.sessionType = some name ∧ kind.DerivesFrom k ∧ k.name = name := by
  unfold accepts
  split
  · rename_i name hn
    rw [SessionKind.isA_iff, hn]
    constructor
    · rintro ⟨k, hk, hname⟩
      exact Or.inr ⟨name, k, rfl, hk, hname⟩
    · rintro (h | ⟨name', k, h, hk, hname⟩)
      · cases h
      · cases h
        exact ⟨k, hk, hname⟩
  · rename_i hn
    exact ⟨fun _ => Or.inl hn, fun _ => rfl⟩

/-- The optional text between the words for something and nothing. -/
def optionText (text : Option String) : String :=
  match text with
  | some t => "Some(" ++ Text.quoted t ++ ")"
  | none => "None"

/-- A full description. -/
def summary (d : PluginDescriptor) : String :=
  "PluginDescriptor \x7b api_version: " ++ toString d.apiVersion ++ ", name: " ++ Text.quoted d.name ++
    ", description: " ++ Text.quoted d.description ++ ", parameters: " ++ toString d.parameters.length ++
    ", session_type: " ++ optionText d.sessionType ++ " \x7d"

end PluginDescriptor

end CoEdit
