import CoEdit.Config.Error
import CoEdit.Directory
import CoEdit.Network
import CoEdit.Tls.Group

/-!
# Errors

The failures of all parts of the server, each under the name of its part.
-/

namespace CoEdit

/-- A failure of some part of the server. -/
inductive ServerError where
  | configuration (cause : ConfigError)
  | security (cause : SecurityError)
  | storage (cause : StorageError)
  | network (cause : NetworkError)
  | directory (cause : DirectoryError)
  /-- A directory whose files were to be watched is none. -/
  | unwatchable (directory : Path) (cause : DiskError)
  deriving Repr

/-- The text of a failure, after the name of the part. -/
def ServerError.message : ServerError → String
  | .configuration cause => "Configuration error: " ++ cause.message
  | .security cause => "Security error: " ++ cause.message
  | .storage cause => "Storage error: " ++ cause.message
  | .network cause => "Network error: " ++ cause.message
  | .directory cause => "Runtime error: " ++ cause.message
  | .unwatchable dir cause => "Runtime error: Failed to watch " ++ dir.text ++ ": " ++ cause.message

/-- Short name of the kind of a failure. -/
def ServerError.kind : ServerError → String
  | .configuration _ => "config"
  | .security _ => "security"
  | .storage _ => "storage"
  | .network _ => "network"
  | .directory _ => "runtime"
  | .unwatchable _ _ => "runtime"

end CoEdit
