import CoEdit.Config.Decode
import CoEdit.Config.Environment
import CoEdit.Config.Validation
import CoEdit.Disk
import CoEdit.Json.Reader
import CoEdit.Toml.Reader
import CoEdit.Tree.Layering
import CoEdit.Yaml.Reader

/-!
# Sources of configurations

A document is expanded, parsed by its format, decoded and validated, in this order. Several files are merged as trees before they
are decoded, so that a later file overrides exactly the keys it has.
-/

namespace CoEdit

namespace DocumentFormat

/-- The tree of a document, if it is one of the format. -/
def tree? : DocumentFormat → String → Option Tree
  | .yaml, text => Tree.ofYaml? text
  | .toml, text => Tree.ofToml? text
  | .json, text => Tree.ofJson? text

/-- The format that an extension tells. -/
def ofExtension? (extension : String) : Option DocumentFormat :=
  if extension = "yaml" ∨ extension = "yml" then some .yaml
  else if extension = "toml" then some .toml
  else if extension = "json" then some .json
  else none

/-- The format of a file. -/
def ofPath (p : Path) : Except ConfigError DocumentFormat :=
  match p.extension? with
  | none => .error .noExtension
  | some extension => match ofExtension? extension with
    | some format => .ok format
    | none => .error (.unknownExtension extension)

/-- The tree of a document with placeholders; an empty document is an empty table. -/
def parse (format : DocumentFormat) (env : Environment) (text : String) : Except ConfigError Tree :=
  match env.expand text with
  | .error e => .error e
  | .ok text => match format.tree? text with
    | none => .error (.malformed format)
    | some .null => .ok (.object [])
    | some t => .ok t

end DocumentFormat

namespace Config

/-- The configuration of a tree. -/
def decode (t : Tree) : Except ConfigError Config := (Config.ofTree t).mapError .undecodable

/-- The configuration of a document, valid or not. -/
def ofText (format : DocumentFormat) (env : Environment) (text : String) : Except ConfigError Config :=
  (format.parse env text).bind decode

/-- The tree of a file. -/
def treeOfFile (env : Environment) (d : Disk) (file : Path) : Except ConfigError Tree :=
  match d.readText file with
  | .error e => .error (.unreadable file e)
  | .ok text => (DocumentFormat.ofPath file).bind fun format => format.parse env text

/-- The configuration of a file, valid or not. -/
def ofFile (env : Environment) (d : Disk) (file : Path) : Except ConfigError Config :=
  (treeOfFile env d file).bind decode

/-- The configuration of files of which each refines those before it, valid or not. -/
def ofFiles (env : Environment) (d : Disk) (files : List Path) : Except ConfigError Config :=
  if files = [] then .error .noFiles
  else ((files.mapM (treeOfFile env d)).map Tree.layered).bind decode

/-- A configuration, if it is valid, and the warnings about it. -/
def validated (c : Except ConfigError Config) : List LogEntry × Except ConfigError Config :=
  match c with
  | .error e => ([], .error e)
  | .ok c => let (warnings, verdict) := c.validate; (warnings, verdict.map fun () => c)

end Config

/-- Where a configuration comes from. It is read again at every reload. -/
inductive ConfigSource where
  | file (path : Path)
  /-- Files of which each refines those before it. -/
  | layered (files : List Path)
  | inline (format : DocumentFormat) (text : String)
  deriving DecidableEq, Repr

namespace ConfigSource

/-- The configuration of a source, valid or not. -/
def read (s : ConfigSource) (env : Environment) (d : Disk) : Except ConfigError Config :=
  match s with
  | .file path => Config.ofFile env d path
  | .layered files => Config.ofFiles env d files
  | .inline format text => Config.ofText format env text

/-- The configuration of a source, if it is valid, and the warnings about it. -/
def load (s : ConfigSource) (env : Environment) (d : Disk) : List LogEntry × Except ConfigError Config :=
  Config.validated (s.read env d)

/-- The files of a source. -/
def files : ConfigSource → List Path
  | .file path => [path]
  | .layered files => files
  | .inline _ _ => []

end ConfigSource

end CoEdit
