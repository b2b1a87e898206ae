import CoEdit.Plugin.Registry

/-!
# Saving through the registry

The host of a session finds the content that waits among the states of a plugin, puts new content there, and has it written.
-/

namespace CoEdit

namespace Registry

/-- The content that a plugin keeps for a session. -/
def autosave? (r : Registry) (plugin id : Nat) : Option AutosaveSession :=
  match r.sessionState? plugin id with
  | some (.autosave s) => some s
  | _ => none

/-- Keeps content in place of what a plugin kept for a session. -/
def setAutosave (r : Registry) (plugin id : Nat) (s : AutosaveSession) : Registry :=
  r.modifySessionState plugin id fun _ => .autosave s

/-- New content of a session, if the plugin keeps any for it. -/
def recordChange (r : Registry) (plugin id : Nat) (content : ByteArray) : Registry :=
  match r.autosave? plugin id with
  | some s => r.setAutosave plugin id (s.recordChange content)
  | none => r

/-- Takes over what a flush left. -/
def keepFlushed (r : Registry) (h : Host) (plugin id : Nat) (f : AutosaveSession.Flushed) :
    Except PluginError Bool × Registry × Host :=
  (f.written, r.setAutosave plugin id f.session, { h with disk := f.disk }.logAll f.log)

/-- Writes the content that waits for a session. Without a plugin that keeps any there is no answer. -/
def flush (r : Registry) (h : Host) (plugin id : Nat) : Option (Except PluginError Bool × Registry × Host) :=
  (r.autosave? plugin id).map fun s => r.keepFlushed h plugin id (s.flush h.surroundings)

/-- Writes the content that waits for a session if it is due at a time. -/
def flushIfDue (r : Registry) (h : Host) (plugin id now : Nat) : Option (Except PluginError Bool × Registry × Host) :=
  (r.autosave? plugin id).map fun s => r.keepFlushed h plugin id (s.flushIfDue h.surroundings now)

end Registry

end CoEdit
