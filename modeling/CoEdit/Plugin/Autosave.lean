import CoEdit.Plugin.Basic

/-!
# A plugin that saves documents

Each session on a text has an `AutosaveSession` as its state, whose document is the path of the session. What still waits when
the session goes away is written then.
-/

namespace CoEdit

namespace Autosave

/-- Parameters of the plugin. -/
def parameters : List ParameterSpec := [
  { name := "interval", kind := .uint, required := true, description := "Seconds between saves" },
  { name := "hook", kind := .path, description := "Program run after each save" }]

/-- The description of an optional path. -/
def hookText (hook : Option Path) : String :=
  match hook with
  | some p => "Some(" ++ Text.quotedFileName p.text ++ ")"
  | none => "None"

/-- Binds the state of a new session to its document. -/
def bound (settings : AutosaveSettings) (around : Surroundings) (s : Session) : SideState → SideState
  | .autosave session => .autosave (session.bind { document := s.path, settings } around.clock)
  | state => state

/-- Writes what waits in the state of a session that goes away. -/
def flushed (around : Surroundings) (s : Session) : SideState → Reaction
  | .autosave session =>
    let f := session.flush around
    let log := f.log ++ match f.written with
      | .ok _ => []
      | .error e =>
        [.warning "Final save failed" [("session", Session.label s.id), ("path", s.path), ("error", e.message)]]
    { disk := f.disk, said := log.map .log }
  | _ => around.silence

/-- A running plugin. -/
def running (settings : AutosaveSettings) : RunningPlugin where
  sessionState := .autosave {}
  sessionAdded around s state := (bound settings around s state, around.silence)
  sessionRemoved := flushed

/-- The plugin, which needs an interval of at least a second. -/
def plugin : Plugin where
  start around context ps :=
    match ps.uint? "interval" with
    | none | some 0 => (.error (.parameter "interval" (.refused "must be at least 1")), around.silence)
    | some interval =>
      let hook := ps.path? "hook"
      (.ok (running { storage := context.storage, interval, hook }),
        around.saying [.log (.notice "Autosave enabled"
          [("plugin", context.name), ("interval", toString interval ++ "s"), ("hook", hookText hook)])])

/-- The module of the plugin. -/
def descriptor : PluginDescriptor where
  name := "autosave"
  description := "Periodically saves text documents to storage"
  parameters := parameters
  sessionType := some "text"
  plugin := plugin

end Autosave

end CoEdit
