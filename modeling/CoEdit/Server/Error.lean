import CoEdit.Error
import CoEdit.Plugin.Module

/-!
# Refusals

Why a server did not start, or did not take over a new configuration. A server that refuses a configuration goes on as it was.
-/

namespace CoEdit

/-- Why a configuration was refused. -/
inductive Refusal where
  | plugin (cause : LoadError)
  | addressChanged (current requested : Option IpAddress)
  | notBound (cause : NetworkError)
  | notOpened (cause : NetworkError)
  | notAttached (cause : StorageError)
  /-- The configuration, or the certificate or key it names, could not be loaded. -/
  | notLoaded (cause : ServerError)
  | badSecurity (cause : SecurityError)
  | noListener
  | notRunning
  deriving Repr

/-- Kinds of refusals. -/
inductive RefusalKind where
  | openFailed
  | noEntryPoint
  | pluginInitFailed
  | addressChangeUnsupported
  | listenerBindFailed
  | listenerOpenFailed
  | storageAttachFailed
  | configParseFailed
  | securityMaterial
  | internal
  deriving DecidableEq, Repr

namespace RefusalKind

/-- Short name of a kind. -/
def name : RefusalKind → String
  | .openFailed => "open-failed"
  | .noEntryPoint => "no-entry-point"
  | .pluginInitFailed => "plugin-init-failed"
  | .addressChangeUnsupported => "listen-address-change-unsupported"
  | .listenerBindFailed => "listener-bind-failed"
  | .listenerOpenFailed => "listener-open-failed"
  | .storageAttachFailed => "storage-attach-failed"
  | .configParseFailed => "config-parse-failed"
  | .securityMaterial => "security-material"
  | .internal => "internal"

/-- What the texts of a kind begin with. -/
def heading : RefusalKind → String
  | .openFailed => "Failed to open plugin module: "
  | .noEntryPoint => "Plugin module has no usable entry point: "
  | .pluginInitFailed => "Plugin failed to initialize: "
  | .addressChangeUnsupported => "Changing the listen address requires a restart "
  | .listenerBindFailed => "Failed to bind listener: "
  | .listenerOpenFailed => "Failed to open listener: "
  | .storageAttachFailed => "Failed to attach storage: "
  | .configParseFailed => "Failed to load configuration: "
  | .securityMaterial => "Invalid security material: "
  | .internal => "Internal error: "

end RefusalKind

namespace Refusal

/-- How an address to listen on is named. -/
def addressText : Option IpAddress → String
  | some a => a.text
  | none => "any address"

/-- The kind of a refusal. -/
def kind : Refusal → RefusalKind
  | .plugin (.unopened _ _) => .openFailed
  | .plugin (.noEntryPoint _ _) => .noEntryPoint
  | .plugin (.wrongApi _ _) => .noEntryPoint
  | .plugin (.wrongName _ _) => .noEntryPoint
  | .plugin (.parameters _ _) => .configParseFailed
  | .plugin (.notStarted _ _) => .pluginInitFailed
  | .addressChanged _ _ => .addressChangeUnsupported
  | .notBound _ => .listenerBindFailed
  | .notOpened _ => .listenerOpenFailed
  | .notAttached _ => .storageAttachFailed
  | .notLoaded _ => .configParseFailed
  | .badSecurity _ => .securityMaterial
  | .noListener => .internal
  | .notRunning => .internal

/-- What is said of the cause of a refusal. -/
def detail : Refusal → String
  | .addressChanged current requested =>
    "(running on " ++ addressText current ++ ", configured " ++ addressText requested ++ ")"
  | .plugin cause => cause.message
  | .notBound cause => (ServerError.network cause).message
  | .notOpened cause => (ServerError.network cause).message
  | .notAttached cause => cause.message
  | .notLoaded cause => cause.message
  | .badSecurity cause => (ServerError.security cause).message
  | .noListener => "the server has no open listener"
  | .notRunning => "the server is not running"

/-- The text of a refusal. -/
def message (r : Refusal) : String := r.kind.heading ++ r.detail

end Refusal

end CoEdit
