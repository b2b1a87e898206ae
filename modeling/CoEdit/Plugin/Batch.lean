import CoEdit.Plugin.Registry

/-!
# Loading plugins in batches

The plugins of a list are loaded one after the other. A failure is logged and the others go on. A name that is listed again and
the name of a plugin that runs already are skipped. At the end the registry observes the directory.
-/

namespace CoEdit

/-- What became of a batch. -/
structure LoadReport where
  /-- The plugins that were loaded, in order. -/
  loaded : List String := []
  /-- Why the others were not, in order. -/
  failures : List LoadError := []
  deriving DecidableEq, Repr

/-- Whether all plugins of a batch were loaded. -/
def LoadReport.isComplete (r : LoadReport) : Bool := r.failures = []

/-- A batch in progress: the names seen so far, and what has become of them. -/
structure Batch where
  registry : Registry
  host : Host
  seen : List String := []
  report : LoadReport := {}

namespace Batch

/-- Logs about a name. -/
def log (b : Batch) (e : LogEntry) : Batch := { b with host := b.host.log e }

/-- Loads the plugin of a name that is neither listed before nor runs. -/
def loadOne (source : ModuleSource) (parameters : String → ParameterTable) (storage : DocumentStore) (b : Batch)
    (name : String) : Batch :=
  match source.load b.host name (parameters name) storage with
  | (.ok i, h) =>
    let (registry, host) := b.registry.insert h i
    { b with registry, host, report := { b.report with loaded := b.report.loaded ++ [name] } }
  | (.error e, h) =>
    { b with
      host := h.log (.failure "Failed to load plugin" [("plugin", name), ("error", e.message)])
      report := { b.report with failures := b.report.failures ++ [e] } }

/-- Takes up the next name of the list. -/
def step (source : ModuleSource) (parameters : String → ParameterTable) (storage : DocumentStore) (b : Batch)
    (name : String) : Batch :=
  if b.seen.contains name then
    b.log (.warning "Plugin requested more than once, loading it once" [("plugin", name)])
  else
    let b := { b with seen := name :: b.seen }
    if b.registry.contains name then b.log (.warning "Plugin already loaded" [("plugin", name)])
    else b.loadOne source parameters storage name

end Batch

/-- Loads the plugins of a list, and observes the directory. -/
def Registry.loadAll (r : Registry) (h : Host) (source : ModuleSource) (requested : List String)
    (parameters : String → ParameterTable) (d : Directory) : LoadReport × Registry × Host :=
  let b := requested.foldl (Batch.step source parameters d.storage) { registry := r, host := h }
  let (registry, host) := b.registry.observe b.host d
  let host := if requested ≠ [] ∧ b.report.loaded = [] then
      host.log (.warning "No plugin could be loaded, plugins are disabled until the next reload")
    else host
  (b.report, registry, host)

end CoEdit
