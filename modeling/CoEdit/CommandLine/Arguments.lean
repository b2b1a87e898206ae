import CoEdit.Config.Environment
import CoEdit.Path

/-!
# Arguments

The program is run with a command and the options of that command. An option has a long name after two dashes, and may have a
short one, a letter after one dash. A value follows its option as the next argument, after an equals sign, or right after the
letter; as the next argument it must not look like an option.

Arguments are read from left to right, and the first one that asks for help or is wrong ends the reading.
-/

namespace CoEdit

/-- An option of a command. -/
structure OptionSpec where
  letter : Option Char := none
  name : String
  /-- What its value is called, if it has one. -/
  value : Option String := none
  /-- Whether it may be given more than once. -/
  repeatable : Bool := false
  /-- Whether its value may be empty. -/
  allowsEmpty : Bool := true
  description : String
  deriving DecidableEq, Repr

/-- The commands of the program. -/
inductive CommandName where
  | serve | validate | version
  deriving DecidableEq, Repr

namespace CommandName

/-- All commands. -/
def all : List CommandName := [.serve, .validate, .version]

/-- How a command is written. -/
def text : CommandName → String
  | .serve => "serve"
  | .validate => "validate"
  | .version => "version"

/-- The command a text writes. -/
def ofText? (s : String) : Option CommandName := all.find? fun c => c.text = s

/-- What a command does. -/
def description : CommandName → String
  | .serve => "Start the server"
  | .validate => "Validate configuration files"
  | .version => "Show version information"

/-- The option that names configuration files. -/
def configOption : OptionSpec :=
  { letter := some 'c'
    name := "config"
    value := some "CONFIG"
    repeatable := true
    allowsEmpty := false
    description := "Configuration files, later files override earlier ones" }

/-- The options of a command. -/
def options : CommandName → List OptionSpec
  | .serve =>
    [configOption,
      { letter := some 'l'
        name := "log-level"
        value := some "LOG_LEVEL"
        description := "Log level (trace, debug, info, warn, error), overrides the configuration" },
      { name := "strict-plugins", description := "Refuse to start when a configured plugin fails to load" },
      { name := "watch", description := "Reload when a configuration file changes" }]
  | .validate => [configOption]
  | .version => []

end CommandName

/-! ## Reading options -/

/-- Why reading arguments ended early. -/
inductive ArgumentStop where
  | help
  | misuse
  deriving DecidableEq, Repr

/-- An option that was given, by its long name, with its value. -/
structure GivenOption where
  name : String
  value : String := ""
  deriving DecidableEq, Repr

/-- What one argument is by its form. -/
inductive ArgumentForm where
  /-- A long name, with what follows an equals sign. -/
  | long (name : String) (attached : Option String)
  /-- A letter, with what follows it. -/
  | short (letter : Char) (attached : Option String)
  /-- The mark after which there are no options. -/
  | endOfOptions
  | plain (text : String)
  deriving DecidableEq, Repr

namespace ArgumentForm

/-- The part of a text before the first equals sign, and what follows it. -/
def dividedAtEquals (cs : List Char) : String × Option String :=
  (String.ofList (cs.takeWhile (· ≠ '=')),
    match cs.dropWhile (· ≠ '=') with
    | [] => none
    | _ :: rest => some (String.ofList rest))

/-- The form of an argument. -/
def of (arg : String) : ArgumentForm :=
  match arg.toList with
  | ['-', '-'] => .endOfOptions
  | '-' :: '-' :: name => let (name, attached) := dividedAtEquals name; .long name attached
  | '-' :: letter :: [] => .short letter none
  | '-' :: letter :: '=' :: rest => .short letter (some (String.ofList rest))
  | '-' :: letter :: rest => .short letter (some (String.ofList rest))
  | _ => .plain arg

end ArgumentForm

namespace OptionSpec

/-- Whether an option may be given after those given before. -/
def isRoom (o : OptionSpec) (given : List GivenOption) : Bool := o.repeatable || !given.any (fun g => g.name = o.name)

/-- An option with a value, if it takes this value and may still be given. -/
def take (o : OptionSpec) (given : List GivenOption) (value : String) : Except ArgumentStop (List GivenOption) :=
  if o.isRoom given && (o.allowsEmpty || value ≠ "") then .ok (given ++ [{ name := o.name, value }]) else .error .misuse

end OptionSpec

/-- What an option with an attached text, and the arguments after it, come to: what is given, and the arguments that are left. -/
def readValue (o : OptionSpec) (given : List GivenOption) (attached : Option String) (rest : List String) :
    Except ArgumentStop (List GivenOption × Nat) :=
  match o.value, attached, rest with
  | none, none, _ => (o.take given "").map (·, 0)
  | none, some _, _ => .error .misuse
  | some _, some value, _ => (o.take given value).map (·, 0)
  | some _, none, [] => .error .misuse
  | some _, none, next :: _ => match ArgumentForm.of next with
    | .plain value => (o.take given value).map (·, 1)
    | _ => .error .misuse

/-- Reads the options of a command. -/
def readOptions (options : List OptionSpec) (given : List GivenOption) (args : List String) :
    Except ArgumentStop (List GivenOption) :=
  match args with
  | [] => .ok given
  | arg :: rest =>
    let found (o : Option OptionSpec) (attached : Option String) : Except ArgumentStop (List GivenOption) :=
      match o with
      | none => .error .misuse
      | some o => match readValue o given attached rest with
        | .error e => .error e
        | .ok (given, used) => readOptions options given (rest.drop used)
    match ArgumentForm.of arg with
    | .long "help" none => .error .help
    | .short 'h' _ => .error .help
    | .long name attached => found (options.find? fun o => o.name = name) attached
    | .short letter attached => found (options.find? fun o => o.letter = some letter) attached
    | .endOfOptions => if rest = [] then .ok given else .error .misuse
    | .plain _ => .error .misuse
  termination_by args.length
  decreasing_by simp only [List.length_drop, List.length_cons]; omega

/-! ## Commands -/

/-- What the program is to do. -/
inductive Command where
  | serve (files : List Path) (logLevel : Option String) (strict watch : Bool)
  | validate (files : List Path)
  | version
  /-- Help about a command, or about the program. -/
  | help (about : Option CommandName)
  /-- Help about help. -/
  | helpOnHelp
  /-- The name and version of the program on one line. -/
  | shortVersion
  | misuse
  deriving DecidableEq, Repr

namespace Command

/-- The environment variable that names a configuration file when no option does. -/
def configVariable : String := "TANDEM_CONFIG"

/-- The configuration file when nothing names one. -/
def defaultFile : String := "tandem.yaml"

/-- The configuration files that options and environment name. -/
def filesOf? (env : Environment) (given : List GivenOption) : Option (List Path) :=
  match given.filter (fun g => g.name = "config") with
  | [] => match Table.get? configVariable env with
    | some "" => none
    | some file => some [⟨file⟩]
    | none => some [⟨defaultFile⟩]
  | files => some (files.map fun g => ⟨g.value⟩)

/-- The value of an option that was given. -/
def valueOf? (given : List GivenOption) (name : String) : Option String :=
  (given.find? fun g => g.name = name).map (·.value)

/-- The command of a name with the options given. -/
def ofOptions (env : Environment) (name : CommandName) (given : List GivenOption) : Command :=
  match name, filesOf? env given with
  | .version, _ => .version
  | _, none => .misuse
  | .validate, some files => .validate files
  | .serve, some files =>
    .serve files (valueOf? given "log-level") (valueOf? given "strict-plugins").isSome (valueOf? given "watch").isSome

/-- What help is asked about. -/
def helpAbout : List String → Command
  | [] => .help none
  | [name] => match CommandName.ofText? name with
    | some c => .help (some c)
    | none => if name = "help" then .helpOnHelp else .misuse
  | _ => .misuse

/-- What the arguments ask for. -/
def ofArguments (env : Environment) : List String → Command
  | [] => .misuse
  | first :: rest => match CommandName.ofText? first with
    | some name => match readOptions name.options [] rest with
      | .ok given => ofOptions env name given
      | .error .help => .help (some name)
      | .error .misuse => .misuse
    | none =>
      if first = "help" then helpAbout rest
      else match ArgumentForm.of first with
        | .long "help" none => .help none
        | .short 'h' _ => .help none
        | .long "version" none => .shortVersion
        | .short 'V' _ => .shortVersion
        | _ => .misuse

end Command

end CoEdit
