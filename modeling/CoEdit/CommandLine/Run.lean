import CoEdit.CommandLine.Help
import CoEdit.Server.Watch
import CoEdit.Text.Quoted

/-!
# Running commands

A command ends with an exit code and lines for the standard output and the standard error output. Only the command that serves
may not end: then there is a service, a server that runs with its host.
-/

namespace CoEdit

/-- What a command leaves when it ends. -/
structure CommandResult where
  exitCode : UInt8 := 0
  output : List String := []
  errors : List String := []
  deriving DecidableEq, Repr

/-- A server that runs, its host, and the watch over its configuration files. -/
structure Service where
  loop : ServerLoop
  host : Host
  watch : Option ConfigWatch := none

/-- Files of configuration as a source: one file stands for itself. -/
def ConfigSource.ofFiles : List Path → ConfigSource
  | [path] => .file path
  | files => .layered files

namespace Command

/-- A list of paths as it is shown in the log. -/
def listText (files : List Path) : String :=
  "[" ++ String.intercalate ", " (files.map fun p => Text.quotedFileName p.text) ++ "]"

/-- The result of a failure, and of what caused it. -/
def failed (message : String) (cause : Option String := none) : CommandResult :=
  { exitCode := 1
    errors := ["Error: " ++ message] ++
      (match cause with
        | some text => ["", "Caused by:", "    " ++ text]
        | none => []) }

/-- The result of wrong arguments. -/
def misused : CommandResult :=
  { exitCode := 2, errors := ["error: the arguments cannot be used", "", "For more information, try '--help'."] }

/-! ## Validating -/

/-- Entries about a valid configuration. -/
def validEntries (c : Config) : List LogEntry :=
  [.notice "✓ Configuration is valid",
    .notice ("  Port: " ++ toString c.server.port),
    .notice ("  Storage: " ++ c.storage.rootDirectory.text),
    .notice ("  Security policy: " ++ c.security.policy.keyword),
    .notice ("  Plugins: " ++ String.intercalate ", " c.plugins.load)]

/-- Says whether configuration files are valid. -/
def validateFiles (env : Environment) (d : Disk) (files : List Path) : CommandResult :=
  let source := ConfigSource.ofFiles files
  let (warnings, loaded) := source.load env d
  let (exitCode, verdict) : UInt8 × List LogEntry := match loaded with
    | .ok c => (0, validEntries c)
    | .error e =>
      (1, [.failure ("✗ Configuration validation failed: " ++ (ServerError.configuration e).message)])
  { exitCode
    output := ((.notice ("Validating configuration: " ++ listText source.files) :: warnings) ++ verdict).map LogEntry.line }

/-! ## Log levels -/

/-- What may stand for a level in a list of levels. -/
def levelWords : List String := Config.logLevels ++ ["off", "0", "1", "2", "3", "4", "5"]

/-- Whether a text is a level. -/
def isLevel (cs : List Char) : Bool := levelWords.contains (Config.lowered (String.ofList cs))

/-- The characters of names of parts of the program. -/
def isPartChar (c : Char) : Bool := c.isAlphanum || c = '_' || c = ':' || c = '-' || 127 < c.toNat

/-- What follows the name of a part, or a span in brackets. -/
def afterPart? (cs : List Char) : Option (List Char) :=
  match cs with
  | '[' :: rest => match rest.dropWhile (· ≠ ']') with
    | _ :: rest => some rest
    | [] => none
  | _ => if (cs.takeWhile isPartChar).isEmpty then none else some (cs.dropWhile isPartChar)

/-- Whether a text may follow the parts that a level is for. -/
def isLevelEnd (cs : List Char) : Bool :=
  match cs with
  | [] => true
  | '=' :: level => level.isEmpty || isLevel level
  | _ => false

/-- Whether a text says how much is logged: a level, or parts of the program with the level for them. -/
def isDirective (cs : List Char) : Bool :=
  isLevel cs ||
    match afterPart? cs with
    | none => false
    | some rest => isLevelEnd rest || ((afterPart? rest).map isLevelEnd).getD false

/-- Whether a text can be used as a level: it says how much is logged, item by item. -/
def isLogLevel (text : String) : Bool := ((text.splitOn ",").filter (· ≠ "")).all fun s => isDirective s.toList

/-! ## Serving -/

/-- Starts a server with a configuration that was loaded, and watches its files if that is wanted. -/
def startService (source : ConfigSource) (c : Config) (strict watch : Bool) (h : Host) : Except CommandResult Service :=
  match Server.startWith c { storage := { root := c.storage.rootDirectory } } { modules := .builtin [], strict } h with
  | (.error e, _) => .error (failed e.message)
  | (.ok server, host) =>
    let loop := ServerLoop.run server source host
    if watch || c.server.watchConfig then
      match ConfigWatch.start host.disk source.files c.server.watchDebounce with
      | .ok watch => .ok { loop, host, watch := some watch }
      | .error e => .error (failed e.message)
    else .ok { loop, host }

/-- Loads configuration files and starts a server. -/
def serveFiles (files : List Path) (logLevel : Option String) (strict watch : Bool) (h : Host) :
    Except CommandResult Service :=
  let source := ConfigSource.ofFiles files
  match (source.load h.environment h.disk).2 with
  | .error e => .error (failed "Failed to load configuration" (some (ServerError.configuration e).message))
  | .ok c =>
    let level := logLevel.getD c.logging.level
    if isLogLevel level then startService source c strict watch h
    else .error (failed ("Invalid log level: " ++ level) (some "invalid filter directive"))

/-! ## All commands -/

/-- The lines about the version. -/
def versionLines : List String := ["Tandem server", "Version: " ++ programVersion, "Rust version: 1.75"]

/-- Runs a command on a host: it ends with a result, or leaves a service. -/
def run (c : Command) (h : Host) : Except CommandResult Service :=
  match c with
  | .serve files logLevel strict watch => serveFiles files logLevel strict watch h
  | .validate files => .error (validateFiles h.environment h.disk files)
  | .version => .error { output := versionLines }
  | .help (some name) => .error { output := Help.commandLines h.environment name }
  | .help none => .error { output := Help.programLines }
  | .helpOnHelp => .error { output := Help.helpLines }
  | .shortVersion => .error { output := [programName ++ " " ++ programVersion] }
  | .misuse => .error misused

end Command

end CoEdit
