/-!
# Log entries

What the server and its plugins tell the operator: a level, a message and named texts.
-/

namespace CoEdit

/-- How much an entry matters. -/
inductive LogLevel where
  | error | warn | info
  deriving DecidableEq, Repr

/-- Name of a level. -/
def LogLevel.name : LogLevel → String
  | .error => "ERROR"
  | .warn => "WARN"
  | .info => "INFO"

/-- One entry of the log. -/
structure LogEntry where
  level : LogLevel
  message : String
  fields : List (String × String) := []
  deriving DecidableEq, Repr

/-- A warning. -/
def LogEntry.warning (message : String) (fields : List (String × String) := []) : LogEntry := ⟨.warn, message, fields⟩

/-- A report of something that failed. -/
def LogEntry.failure (message : String) (fields : List (String × String) := []) : LogEntry := ⟨.error, message, fields⟩

/-- A report of something that happened. -/
def LogEntry.notice (message : String) (fields : List (String × String) := []) : LogEntry := ⟨.info, message, fields⟩

/-- The entry on one line. -/
def LogEntry.line (e : LogEntry) : String :=
  e.level.name ++ " " ++ e.message ++ String.join (e.fields.map fun (k, v) => " " ++ k ++ "=" ++ v)

end CoEdit
