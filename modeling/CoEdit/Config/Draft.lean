import CoEdit.Config.Validation

/-!
# Drafts of configurations

A configuration can be made from the defaults by setting one thing after another. What comes of it is a configuration only if
it is valid.
-/

namespace CoEdit

/-- One thing to set. -/
inductive ConfigEdit where
  | listenAddress (address : IpAddress)
  | port (port : UInt16)
  | rootDirectory (root : Path)
  | securityPolicy (policy : SecurityPolicy)
  | certificate (certificate key : Path)
  | password (password : String)
  | pluginPath (path : Path)
  /-- Loads one more plugin. -/
  | plugin (name : String)
  | pluginParameter (plugin key : String) (value : Tree)

namespace Config

/-- The configuration with one thing set. -/
def edited (c : Config) : ConfigEdit → Config
  | .listenAddress a => { c with server := { c.server with listenAddress := some a } }
  | .port p => { c with server := { c.server with port := p } }
  | .rootDirectory r => { c with storage := { c.storage with rootDirectory := r } }
  | .securityPolicy p => { c with security := { c.security with policy := p } }
  | .certificate certificate key =>
    { c with security := { c.security with certificateFile := some certificate, keyFile := some key } }
  | .password p => { c with security := { c.security with password := some p } }
  | .pluginPath p => { c with plugins := { c.plugins with path := some p } }
  | .plugin name => { c with plugins := { c.plugins with load := c.plugins.load ++ [name] } }
  | .pluginParameter plugin key value =>
    let table := Table.insert key value (c.plugins.parametersFor plugin)
    { c with plugins := { c.plugins with parameters := Table.insert plugin table c.plugins.parameters } }

/-- The configuration of a draft: the defaults with all edits made, if it is valid. -/
def ofDraft (edits : List ConfigEdit) : List LogEntry × Except ConfigError Config :=
  let c := edits.foldl edited {}
  let (warnings, verdict) := c.validate
  (warnings, verdict.map fun () => c)

end Config

end CoEdit
