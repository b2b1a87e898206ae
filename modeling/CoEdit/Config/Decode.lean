import CoEdit.Config.Basic
import CoEdit.Config.Error

/-!
# Reading configurations from trees

A record is read from a table, whose entries are taken in the order of their keys, or from a list, whose items are the fields in
the order of their declaration. Either way what is missing keeps its default, and the first fault met is the one reported.
-/

namespace CoEdit

/-- A value read from a tree. -/
abbrev Decoder (α : Type) := Tree → Except DecodeError α

/-- A field of a record: its key, and what a tree under that key makes of the record. -/
structure RecordField (α : Type) where
  key : String
  read : α → Tree → Except DecodeError α

namespace Decoder

/-- The field of a key that is read by a decoder and put in place by `put`. -/
def field {α β : Type} (key : String) (d : Decoder β) (put : α → β → α) : RecordField α :=
  { key, read := fun a t => (d t).map (put a) }

/-- The record with one entry of a table read into it; an entry under an unknown key means nothing. -/
def readEntry {α : Type} (fields : List (RecordField α)) (a : α) (entry : String × Tree) : Except DecodeError α :=
  match fields.find? (fun f => f.key = entry.1) with
  | some f => f.read a entry.2
  | none => .ok a

/-- A record with the given fields over its defaults. -/
def record {α : Type} (name : String) (fields : List (RecordField α)) (defaults : α) : Decoder α
  | .object es => es.foldlM (readEntry fields) defaults
  | .array items =>
    match (fields.zip items).foldlM (fun a e => e.1.read a e.2) defaults with
    | .error e => .error e
    | .ok a => if fields.length < items.length then .error (.tooManyItems items.length) else .ok a
  | t => .error (.wrongKind t (.record name))

/-- Reads a boolean. -/
def boolean : Decoder Bool
  | .bool b => .ok b
  | t => .error (.wrongKind t .boolean)

/-- Reads a string. -/
def string : Decoder String
  | .string s => .ok s
  | t => .error (.wrongKind t .string)

/-- Reads a path. -/
def path : Decoder Path
  | .string s => .ok ⟨s⟩
  | t => .error (.wrongKind t .path)

/-- Reads the number of a port. -/
def port : Decoder UInt16
  | .number (.integer z) =>
    if 0 ≤ z ∧ z < 65536 then .ok (UInt16.ofNat z.toNat) else .error (.wrongValue (.number (.integer z)) .port)
  | t => .error (.wrongKind t .port)

/-- Reads an address. -/
def address : Decoder IpAddress
  | .string s => match IpAddress.ofText? s with
    | some a => .ok a
    | none => .error .notAnAddress
  | t => .error (.wrongKind t .address)

/-- Reads a duration. -/
def duration : Decoder Duration
  | .string s => match Duration.ofText? s with
    | some d => .ok d
    | none => .error (.wrongValue (.string s) .duration)
  | t => .error (.wrongKind t .duration)

/-- Reads a policy by its name. -/
def policyNamed (name : String) : Except DecodeError SecurityPolicy :=
  match SecurityPolicy.ofKeyword? name with
  | some p => .ok p
  | none => .error (.unknownPolicy name)

/-- Reads a policy: its name, or a table with its name over nothing. -/
def policy : Decoder SecurityPolicy
  | .string s => policyNamed s
  | .object [(k, t)] => match policyNamed k, t with
    | .error e, _ => .error e
    | .ok p, .null => .ok p
    | .ok _, t => .error (.wrongKind t .nothing)
  | .object es => .error (.wrongValue (.object es) .singleKey)
  | t => .error (.wrongKind t .variant)

/-- Reads something that may be missing. -/
def optional {α : Type} (d : Decoder α) : Decoder (Option α)
  | .null => .ok none
  | t => (d t).map some

/-- Reads a list. -/
def list {α : Type} (d : Decoder α) : Decoder (List α)
  | .array items => items.mapM d
  | t => .error (.wrongKind t .list)

/-- Reads a table, in the order of its keys. -/
def table {α : Type} (d : Decoder α) : Decoder (Table String α)
  | .object es => es.mapM fun e => (d e.2).map fun a => (e.1, a)
  | t => .error (.wrongKind t .table)

/-- Reads a table of trees. -/
def parameterTable : Decoder ParameterTable
  | .object es => .ok es
  | t => .error (.wrongKind t .table)

/-! ## The sections -/

/-- Reads where to listen. -/
def serverSettings : Decoder ServerSettings :=
  record "ServerConfig"
    [field "listen-address" (optional address) (fun s a => { s with listenAddress := a }),
      field "port" port (fun s p => { s with port := p }),
      field "watch-config" boolean (fun s b => { s with watchConfig := b }),
      field "watch-debounce" duration (fun s d => { s with watchDebounce := d })]
    {}

/-- Reads where documents are kept. -/
def storageSettings : Decoder StorageSettings :=
  record "StorageConfig" [field "root-directory" path (fun _ p => { rootDirectory := p })] {}

/-- Reads how connections are protected. -/
def securitySettings : Decoder SecuritySettings :=
  record "SecurityConfig"
    [field "policy" policy (fun s p => { s with policy := p }),
      field "certificate-file" (optional path) (fun s p => { s with certificateFile := p }),
      field "key-file" (optional path) (fun s p => { s with keyFile := p }),
      field "certificate-chain" (optional path) (fun s p => { s with certificateChain := p }),
      field "dh-group" string (fun s g => { s with dhGroup := g }),
      field "password" (optional string) (fun s p => { s with password := p })]
    {}

/-- Reads which plugins to load. -/
def pluginSettings : Decoder PluginSettings :=
  record "PluginsConfig"
    [field "load" (list string) (fun s l => { s with load := l }),
      field "path" (optional path) (fun s p => { s with path := p }),
      field "parameters" (table parameterTable) (fun s t => { s with parameters := t })]
    {}

/-- Reads what to log. -/
def loggingSettings : Decoder LoggingSettings :=
  record "LoggingConfig"
    [field "level" string (fun s l => { s with level := l }),
      field "format" string (fun s f => { s with format := f })]
    {}

/-- Reads the section around the settings of the log. -/
def observability : Decoder LoggingSettings :=
  record "ObservabilityConfig" [field "logging" loggingSettings (fun _ l => l)] {}

end Decoder

/-- The configuration a tree describes. -/
def Config.ofTree : Decoder Config :=
  Decoder.record "Config"
    [Decoder.field "server" Decoder.serverSettings (fun c s => { c with server := s }),
      Decoder.field "storage" Decoder.storageSettings (fun c s => { c with storage := s }),
      Decoder.field "security" Decoder.securitySettings (fun c s => { c with security := s }),
      Decoder.field "plugins" Decoder.pluginSettings (fun c s => { c with plugins := s }),
      Decoder.field "observability" Decoder.observability (fun c s => { c with logging := s })]
    {}

end CoEdit
