import CoEdit.Config.Basic
import CoEdit.Config.Error
import CoEdit.Log

/-!
# What makes a configuration valid

The findings about a configuration are faults and warnings, in the order in which its sections are looked at. The first fault is
the verdict, and only the warnings found before it are given.
-/

namespace CoEdit

/-- Something found in a configuration. -/
inductive Finding where
  | fault (e : ConfigError)
  | warning (e : LogEntry)
  deriving Repr

namespace Finding

/-- A fault under a condition. -/
def faultIf (condition : Bool) (e : ConfigError) : List Finding := if condition then [.fault e] else []

/-- A warning. -/
def warn (message : String) (fields : List (String × String)) : Finding := .warning { level := .warn, message, fields }

/-- A warning under a condition. -/
def warnIf (condition : Bool) (message : String) (fields : List (String × String)) : List Finding :=
  if condition then [warn message fields] else []

/-- The warnings before the first fault, and the fault. -/
def verdict : List Finding → List LogEntry × Except ConfigError Unit
  | [] => ([], .ok ())
  | .fault e :: _ => ([], .error e)
  | .warning w :: rest => let (ws, r) := verdict rest; (w :: ws, r)

end Finding

namespace Config

open Finding

/-- Findings about the storage. -/
def storageFindings (s : StorageSettings) : List Finding := faultIf (s.rootDirectory.text = "") .emptyRoot

/-- Findings about the security. -/
def securityFindings (s : SecuritySettings) : List Finding :=
  faultIf (s.certificateFile.isSome && s.keyFile.isNone) .certificateWithoutKey ++
  faultIf (s.certificateFile.isNone && s.keyFile.isSome) .keyWithoutCertificate ++
  faultIf (s.certificateChain.isSome && s.certificateFile.isNone) .chainWithoutCertificate ++
  faultIf (s.policy.usesTls && !s.hasCertificate) (.policyWithoutCertificate s.policy) ++
  warnIf (!s.policy.usesTls && s.hasCertificate)
    "Certificate configured but security policy is no-tls; it will not be used" [] ++
  faultIf (s.dhGroup = "") .emptyGroup ++
  faultIf (s.password = some "") .emptyPassword

/-- The characters of names of plugins. -/
def isPluginNameChar (c : Char) : Bool := ('a' ≤ c && c ≤ 'z') || ('0' ≤ c && c ≤ '9') || c = '-' || c = '_'

/-- Whether a text names a plugin. -/
def isPluginName (name : String) : Bool := name ≠ "" && name.toList.all isPluginNameChar

/-- Findings about a list of plugins to load, after those already seen. -/
def loadFindings (seen : List String) : List String → List Finding
  | [] => []
  | name :: rest =>
    faultIf (!isPluginName name) (.invalidPluginName name) ++
    warnIf (seen.contains name) "Plugin listed more than once" [("plugin", name)] ++
    loadFindings (name :: seen) rest

/-- Findings about the plugins. -/
def pluginFindings (s : PluginSettings) : List Finding :=
  loadFindings [] s.load ++
  ((Table.keys s.parameters).filter (fun name => !s.load.contains name)).map fun name =>
    warn "Parameters given for a plugin that is not loaded" [("plugin", name)]

/-- The formats of logs. -/
def logFormats : List String := ["text", "json"]

/-- The levels of logs; any of their letters may be in upper case. -/
def logLevels : List String := ["trace", "debug", "info", "warn", "error"]

/-- A text with its letters A to Z in lower case. -/
def lowered (s : String) : String := String.ofList (Decimal.lowered s.toList)

/-- Findings about the log. -/
def loggingFindings (s : LoggingSettings) : List Finding :=
  faultIf (!logFormats.contains s.format) (.invalidLogFormat s.format) ++
  faultIf (!logLevels.contains (lowered s.level)) (.invalidLogLevel (lowered s.level))

/-- All findings about a configuration. -/
def findings (c : Config) : List Finding :=
  storageFindings c.storage ++ securityFindings c.security ++ pluginFindings c.plugins ++ loggingFindings c.logging

/-- The warnings about a configuration, and whether it is valid. -/
def validate (c : Config) : List LogEntry × Except ConfigError Unit := verdict c.findings

end Config

end CoEdit
