import CoEdit.Config.Source
import CoEdit.Host
import CoEdit.Server.Error
import CoEdit.Tls.Credentials

/-!
# Snapshots

A snapshot is the configuration that a server runs with, and what was made from it: credentials if a certificate and its key are
named, and with them the parameters of the group. The credentials of a snapshot offer only curves as strong as the group.
-/

namespace CoEdit

/-- A configuration and what was made from it. -/
structure Snapshot where
  config : Config
  credentials : Option Credentials := none
  dhParameters : Option DhParameters := none

namespace Snapshot

/-- The address to listen on. -/
def listenAddress (s : Snapshot) : Option IpAddress := s.config.server.listenAddress

/-- The port that was asked for. -/
def port (s : Snapshot) : UInt16 := s.config.server.port

/-- What is demanded of clients. -/
def policy (s : Snapshot) : SecurityPolicy := s.config.security.policy

/-- What clients authenticate with. -/
def context (s : Snapshot) : Option AuthContext := s.config.security.password.map AuthContext.plain

/-- The root of the documents. -/
def storageRoot (s : Snapshot) : Path := s.config.storage.rootDirectory

/-- The credentials that a configuration names, if it names any. -/
def credentialsOf (c : Config) (d : Disk) : Except SecurityError (Option Credentials) :=
  match c.security.certificateFile, c.security.keyFile with
  | some certificate, some key => (Credentials.load d certificate key c.security.certificateChain).map some
  | _, _ => .ok none

/-- The snapshot of a configuration. Parameters that are live are kept if they are of the right group. -/
def prepare (c : Config) (live : Option DhParameters) (h : Host) : Except Refusal Snapshot × Host :=
  match credentialsOf c h.disk with
  | .error e => (.error (.notLoaded (.security e)), h)
  | .ok none => (.ok { config := c }, h)
  | .ok (some credentials) => match DhParameters.ensure live c.security.dhGroup h.nextSerial with
    | .error e => (.error (.badSecurity e), h)
    | .ok parameters =>
      (.ok { config := c, credentials := some (credentials.narrowed parameters.group), dhParameters := some parameters },
        { h with nextSerial := h.nextSerial + 1 })

end Snapshot

end CoEdit
