import CoEdit.Plugin.Basic

/-!
# Modules

A module holds a plugin. Modules come from sources: those that are built in, libraries in a directory, and chains of sources. In
a chain the first source that has the module wins. A source that has a module but refuses it ends the search; a source that does
not have it lets the search go on, and the reasons of all are joined when none has it.

How a library is opened is a function that a source of libraries carries.
-/

namespace CoEdit

/-- Why a plugin could not be loaded. Each carries the name that was asked for. -/
inductive LoadError where
  | unopened (name : String) (reason : String)
  | noEntryPoint (name : String) (reason : String)
  | wrongApi (name : String) (found : Nat)
  | wrongName (name : String) (found : String)
  | parameters (name : String) (cause : PluginError)
  | notStarted (name : String) (cause : PluginError)
  deriving DecidableEq, Repr

namespace LoadError

/-- The text of a failure. -/
def message : LoadError → String
  | .unopened name reason => "Failed to open plugin module '" ++ name ++ "': " ++ reason
  | .noEntryPoint name reason => "Plugin module '" ++ name ++ "' has no entry point: " ++ reason
  | .wrongApi name found =>
    "Plugin '" ++ name ++ "' was built for plugin API " ++ toString found ++ ", server provides " ++
      toString pluginApiVersion
  | .wrongName name found => "Plugin module '" ++ name ++ "' registers itself as '" ++ found ++ "'"
  | .parameters name cause => "Invalid parameters for plugin '" ++ name ++ "': " ++ cause.message
  | .notStarted name cause => "Plugin '" ++ name ++ "' failed to initialize: " ++ cause.message

/-- Short name of the kind of a failure. -/
def kind : LoadError → String
  | .unopened _ _ => "open-failed"
  | .noEntryPoint _ _ => "no-entry-point"
  | .wrongApi _ _ => "abi-mismatch"
  | .wrongName _ _ => "name-mismatch"
  | .parameters _ _ => "parameter"
  | .notStarted _ _ => "initialize"

/-- The name that was asked for. -/
def plugin : LoadError → String
  | .unopened name _ => name
  | .noEntryPoint name _ => name
  | .wrongApi name _ => name
  | .wrongName name _ => name
  | .parameters name _ => name
  | .notStarted name _ => name

end LoadError

/-- A module that was found. -/
structure PluginModule where
  descriptor : PluginDescriptor
  /-- Whether the module is a library. -/
  native : Bool

/-- A full description. -/
def PluginModule.summary (m : PluginModule) : String :=
  "PluginModule \x7b descriptor: " ++ m.descriptor.summary ++ ", native: " ++ (if m.native then "true" else "false") ++ " \x7d"

/-- Why a file is no module. -/
inductive LibraryFault where
  | unopened (reason : String)
  | noEntryPoint (reason : String)
  deriving DecidableEq, Repr

/-- Opens the library in a file. -/
abbrev LibraryOpener := Path → Except LibraryFault PluginDescriptor

/-- Opens no library at all. -/
def LibraryOpener.none : LibraryOpener := fun p => .error (.unopened (p.text ++ ": not a plugin library"))

/-- Where modules come from. -/
inductive ModuleSource where
  | builtin (modules : Table String PluginDescriptor)
  | libraries (directory : Path) (opener : LibraryOpener)
  | chained (sources : List ModuleSource)

namespace ModuleSource

/-- The name of the file of a plugin's library. -/
def libraryName (plugin : String) : String :=
  "libtandem_plugin_" ++ String.ofList (plugin.toList.map fun c => if c = '-' then '_' else c) ++ ".so"

/-- The file of a plugin's library in a directory. -/
def libraryPath (directory : Path) (plugin : String) : Path := directory.join ⟨libraryName plugin⟩

/-- The library of a plugin in a directory. -/
def openLibrary (opener : LibraryOpener) (d : Disk) (directory : Path) (name : String) : Except LoadError PluginModule :=
  let file := libraryPath directory name
  if ¬ d.isFile file then .error (.unopened name (file.text ++ " not found"))
  else match opener file with
    | .ok descriptor => .ok { descriptor, native := true }
    | .error (.unopened reason) => .error (.unopened name reason)
    | .error (.noEntryPoint reason) => .error (.noEntryPoint name reason)

/-- The reasons of a chain in which no source has the module. -/
def joinedReasons (reasons : List String) : String :=
  if reasons = [] then "no module sources configured" else String.intercalate "; " reasons

mutual

/-- The module of a name. -/
def resolve (d : Disk) (name : String) : ModuleSource → Except LoadError PluginModule
  | .builtin modules => match Table.get? name modules with
    | some descriptor => .ok { descriptor, native := false }
    | none => .error (.unopened name "no built-in module with this name")
  | .libraries directory opener => openLibrary opener d directory name
  | .chained sources => resolveFirst d name [] sources

/-- The module of a name in the first source that has it, after sources that do not have it for the given reasons. -/
def resolveFirst (d : Disk) (name : String) (reasons : List String) : List ModuleSource → Except LoadError PluginModule
  | [] => .error (.unopened name (joinedReasons reasons))
  | source :: rest => match resolve d name source with
    | .error (.unopened _ reason) => resolveFirst d name (reasons ++ [reason]) rest
    | other => other

end

end ModuleSource

end CoEdit
