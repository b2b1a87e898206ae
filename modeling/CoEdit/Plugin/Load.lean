import CoEdit.Host
import CoEdit.Plugin.Module

/-!
# Loading a plugin

A plugin is loaded in steps, and the first that fails is the reason why it is not loaded: its module is found, made for this
server and under the name it was asked for; the plugin is made; its parameters are read; it starts. A plugin that was made but
whose parameters are wrong is never called. One that fails to start is stopped once.

Letting go of a plugin stops it if that has not happened yet.
-/

namespace CoEdit

/-- A plugin that runs, under a number that no other plugin ever had. -/
structure PluginInstance where
  number : Nat
  descriptor : PluginDescriptor
  /-- What the plugin was started with. -/
  context : PluginContext
  running : RunningPlugin
  /-- Whether the plugin was stopped. -/
  isStopped : Bool := false

namespace PluginInstance

/-- The name of the plugin. -/
def name (i : PluginInstance) : String := i.descriptor.name

/-- Keeps a call of the plugin. -/
def call (i : PluginInstance) (h : Host) (c : Callback) (r : Reaction) : Host := h.call i.number i.name c r

/-- Stops a plugin that was not stopped before. -/
def stop (i : PluginInstance) (h : Host) : Host :=
  if i.isStopped then h else i.call h .stopped (i.running.stop h.surroundings)

/-- The plugin once it was stopped. -/
def stopped (i : PluginInstance) : PluginInstance := { i with isStopped := true }

/-- Stops a plugin and lets go of it, which would stop it again. -/
def retire (i : PluginInstance) (h : Host) : Host := i.stopped.stop (i.stop h)

end PluginInstance

/-- What is wrong with a module before a plugin is made from it. -/
def PluginModule.fault? (m : PluginModule) (name : String) : Option LoadError :=
  if m.descriptor.apiVersion ≠ pluginApiVersion then some (.wrongApi name m.descriptor.apiVersion)
  else if m.descriptor.name ≠ name then some (.wrongName name m.descriptor.name)
  else none

/-- Makes the plugin of a module that has nothing wrong with it, and starts it. -/
def PluginDescriptor.start (descriptor : PluginDescriptor) (h : Host) (name : String) (raw : ParameterTable)
    (storage : DocumentStore) : Except LoadError PluginInstance × Host :=
  let number := h.nextPlugin
  let h := { h with nextPlugin := number + 1 }.note (.created number name)
  match PluginParameters.parse descriptor.parameters raw with
  | .error e => (.error (.parameters name e), h)
  | .ok parameters =>
    let context : PluginContext := { name, storage }
    match descriptor.plugin.start h.surroundings context parameters with
    | (.ok running, reaction) =>
      (.ok { number, descriptor, context, running }, h.call number name (.started context parameters true) reaction)
    | (.error e, reaction) =>
      let h := h.call number name (.started context parameters false) reaction
      let failed : PluginInstance := { number, descriptor, context, running := { stop := descriptor.plugin.abandon } }
      (.error (.notStarted name e), failed.retire h)

/-- Loads the plugin of a name. -/
def ModuleSource.load (source : ModuleSource) (h : Host) (name : String) (raw : ParameterTable)
    (storage : DocumentStore) : Except LoadError PluginInstance × Host :=
  match source.resolve h.disk name with
  | .error e => (.error e, h)
  | .ok m => match m.fault? name with
    | some e => (.error e, h)
    | none => m.descriptor.start h name raw storage

end CoEdit
