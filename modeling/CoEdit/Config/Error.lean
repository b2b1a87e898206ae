import CoEdit.Disk
import CoEdit.SecurityPolicy
import CoEdit.Tree

/-!
# Faults of configurations

Why a tree is no configuration (`DecodeError`), and why no configuration could be had from a source (`ConfigError`).
-/

namespace CoEdit

/-- How a tree is named in messages. -/
def Tree.description : Tree → String
  | .null => "null"
  | .bool true => "boolean `true`"
  | .bool false => "boolean `false`"
  | .number (.integer z) => "integer `" ++ toString z ++ "`"
  | .number (.double d) => "floating point `" ++ d.text ++ "`"
  | .string s => "string " ++ Text.quoted s
  | .array _ => "sequence"
  | .object _ => "map"

/-- What a configuration wants at some place. -/
inductive Expectation where
  | record (name : String)
  | port
  | boolean
  | string
  | path
  | address
  | duration
  | list
  | table
  /-- The name of a policy, or a table of one name and nothing. -/
  | variant
  | singleKey
  | nothing
  deriving DecidableEq, Repr

/-- How an expectation is named in messages. -/
def Expectation.description : Expectation → String
  | .record name => "struct " ++ name
  | .port => "u16"
  | .boolean => "a boolean"
  | .string => "a string"
  | .path => "path string"
  | .address => "IP address"
  | .duration => "a duration"
  | .list => "a sequence"
  | .table => "a map"
  | .variant => "string or map"
  | .singleKey => "map with a single key"
  | .nothing => "unit"

/-- Why a tree is no configuration. -/
inductive DecodeError where
  /-- A tree of another kind than wanted. -/
  | wrongKind (found : Tree) (wanted : Expectation)
  /-- A tree of the right kind that is not one of those wanted. -/
  | wrongValue (found : Tree) (wanted : Expectation)
  | notAnAddress
  | unknownPolicy (name : String)
  /-- A list with more items than the record it stands for has fields. -/
  | tooManyItems (n : Nat)
  deriving Repr

/-- The text of a fault. -/
def DecodeError.message : DecodeError → String
  | .wrongKind found wanted => "invalid type: " ++ found.description ++ ", expected " ++ wanted.description
  | .wrongValue found wanted => "invalid value: " ++ found.description ++ ", expected " ++ wanted.description
  | .notAnAddress => "invalid IP address syntax"
  | .unknownPolicy name =>
    "unknown variant `" ++ name ++ "`, expected one of " ++
      String.intercalate ", " (SecurityPolicy.all.map fun p => "`" ++ p.keyword ++ "`")
  | .tooManyItems n => "invalid length " ++ toString n ++ ", expected fewer elements in array"

/-- Formats of documents. -/
inductive DocumentFormat where
  | yaml | toml | json
  deriving DecidableEq, Repr

/-- Name of a format. -/
def DocumentFormat.name : DocumentFormat → String
  | .yaml => "YAML"
  | .toml => "TOML"
  | .json => "JSON"

/-- Why no configuration could be had. -/
inductive ConfigError where
  | unknownPolicy (text : String)
  | noExtension
  | unknownExtension (extension : String)
  | unreadable (file : Path) (cause : DiskError)
  | noFiles
  | unsetVariable (name : String)
  /-- The document cannot be parsed. What its parser says about it, and a colon before that, are left out of the text. -/
  | malformed (format : DocumentFormat)
  | undecodable (cause : DecodeError)
  | emptyRoot
  | certificateWithoutKey
  | keyWithoutCertificate
  | chainWithoutCertificate
  | policyWithoutCertificate (policy : SecurityPolicy)
  | emptyGroup
  | emptyPassword
  | invalidPluginName (name : String)
  | invalidLogFormat (format : String)
  | invalidLogLevel (level : String)
  deriving Repr

/-- The text of a fault. -/
def ConfigError.message : ConfigError → String
  | .unknownPolicy text => "Invalid security policy: " ++ text ++ " (expected no-tls, allow-tls or require-tls)"
  | .noExtension => "Unable to detect config format"
  | .unknownExtension extension => "Unsupported config format: " ++ extension
  | .unreadable file cause => "Failed to read config file " ++ file.text ++ ": " ++ cause.message
  | .noFiles => "No configuration files provided"
  | .unsetVariable name => "Environment variable '" ++ name ++ "' not set and no default provided"
  | .malformed format => "Failed to parse " ++ format.name
  | .undecodable cause => "Invalid configuration: " ++ cause.message
  | .emptyRoot => "storage root-directory cannot be empty"
  | .certificateWithoutKey => "security certificate-file is set but key-file is missing"
  | .keyWithoutCertificate => "security key-file is set but certificate-file is missing"
  | .chainWithoutCertificate => "security certificate-chain requires certificate-file"
  | .policyWithoutCertificate policy =>
    "security policy " ++ policy.keyword ++ " requires certificate-file and key-file"
  | .emptyGroup => "security dh-group cannot be empty"
  | .emptyPassword => "security password cannot be empty"
  | .invalidPluginName name =>
    "Invalid plugin name: " ++ Text.quoted name ++ " (use lowercase letters, digits, '-' and '_')"
  | .invalidLogFormat format => "Invalid log format: " ++ format ++ " (must be text or json)"
  | .invalidLogLevel level => "Invalid log level: " ++ level

end CoEdit
