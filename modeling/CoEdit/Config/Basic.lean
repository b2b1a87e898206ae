import CoEdit.Address
import CoEdit.Duration
import CoEdit.Path
import CoEdit.SecurityPolicy
import CoEdit.Tree

/-!
# Configurations

What an operator can set, and what holds where nothing is set. `Config.toTree` writes a configuration as a tree with every key.
-/

namespace CoEdit

/-- Parameters of a plugin, as they are written. -/
abbrev ParameterTable := Table String Tree

/-- Where to listen, and whether to follow changes of the configuration. -/
structure ServerSettings where
  /-- Without an address, both families listen on all of theirs. -/
  listenAddress : Option IpAddress := none
  /-- With port zero, each listener gets a free port. -/
  port : UInt16 := 6523
  watchConfig : Bool := false
  /-- How long files must be quiet before a change counts. -/
  watchDebounce : Duration := .halfSecond
  deriving DecidableEq

/-- Where documents and accounts are kept. -/
structure StorageSettings where
  rootDirectory : Path := ⟨"documents"⟩
  deriving DecidableEq

/-- How connections are protected and clients are told apart. -/
structure SecuritySettings where
  policy : SecurityPolicy := .requireTls
  certificateFile : Option Path := none
  keyFile : Option Path := none
  certificateChain : Option Path := none
  dhGroup : String := "ffdhe2048"
  /-- Without a password every client is accepted. -/
  password : Option String := none
  deriving DecidableEq

/-- Which plugins to load, where to find them and what to tell them. -/
structure PluginSettings where
  load : List String := []
  path : Option Path := none
  parameters : Table String ParameterTable := []

/-- What to log and how. -/
structure LoggingSettings where
  level : String := "info"
  format : String := "text"
  deriving DecidableEq

/-- Everything an operator can set. -/
structure Config where
  server : ServerSettings := {}
  storage : StorageSettings := {}
  security : SecuritySettings := {}
  plugins : PluginSettings := {}
  logging : LoggingSettings := {}

instance : Inhabited Config := ⟨{}⟩

/-- Whether a certificate and its key are set. -/
def SecuritySettings.hasCertificate (s : SecuritySettings) : Bool := s.certificateFile.isSome && s.keyFile.isSome

/-- The parameters of a plugin. -/
def PluginSettings.parametersFor (s : PluginSettings) (plugin : String) : ParameterTable :=
  (Table.get? plugin s.parameters).getD []

namespace Config

/-- A text that may be missing. -/
def textOrNull : Option String → Tree
  | some s => .string s
  | none => .null

/-- A path that may be missing. -/
def pathOrNull (p : Option Path) : Tree := textOrNull (p.map Path.text)

/-- The tree of a configuration, with every key. -/
def toTree (c : Config) : Tree :=
  .object
    [("observability", .object [("logging", .object
        [("format", .string c.logging.format), ("level", .string c.logging.level)])]),
      ("plugins", .object
        [("load", .array (c.plugins.load.map .string)),
          ("parameters", .object (c.plugins.parameters.map fun e => (e.1, .object e.2))),
          ("path", pathOrNull c.plugins.path)]),
      ("security", .object
        [("certificate-chain", pathOrNull c.security.certificateChain),
          ("certificate-file", pathOrNull c.security.certificateFile),
          ("dh-group", .string c.security.dhGroup),
          ("key-file", pathOrNull c.security.keyFile),
          ("password", textOrNull c.security.password),
          ("policy", .string c.security.policy.keyword)]),
      ("server", .object
        [("listen-address", textOrNull (c.server.listenAddress.map IpAddress.text)),
          ("port", .ofNat c.server.port.toNat),
          ("watch-config", .bool c.server.watchConfig),
          ("watch-debounce", .string c.server.watchDebounce.text)]),
      ("storage", .object [("root-directory", .string c.storage.rootDirectory.text)])]

end Config

end CoEdit
