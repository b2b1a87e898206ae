import CoEdit.Connection
import CoEdit.Session
import CoEdit.Storage.Accounts

/-!
# Directories

A directory knows the connections and sessions of a server that are alive, in the order of their numbers, the documents and
accounts they work on, and the context that clients authenticate with. A connection takes that context when it is added.
-/

namespace CoEdit

/-- Why something could not be added to a directory. -/
inductive DirectoryError where
  | connectionExists (id : Nat)
  | sessionExists (id : Nat)
  deriving DecidableEq, Repr

/-- The text of a failure. -/
def DirectoryError.message : DirectoryError → String
  | .connectionExists id => "Connection " ++ Connection.label id ++ " already registered"
  | .sessionExists id => "Session " ++ Session.label id ++ " already registered"

/-- What is alive in a server, and what it works on. -/
structure Directory where
  connections : Roster Connection := []
  sessions : Roster Session := []
  storage : DocumentStore
  accounts : AccountBook := .detached
  security : Option AuthContext := none
  deriving Repr

namespace Directory

/-- The root of the documents. -/
def storageRoot (d : Directory) : Path := d.storage.root

/-- The connection with a number. -/
def connection? (d : Directory) (id : Nat) : Option Connection := d.connections.get? id

/-- The session with a number. -/
def session? (d : Directory) (id : Nat) : Option Session := d.sessions.get? id

/-- Adds a connection, which takes the present context. -/
def addConnection (d : Directory) (c : Connection) : Except DirectoryError Directory :=
  if d.connections.contains c.id then .error (.connectionExists c.id)
  else .ok { d with connections := d.connections.insert (c.install d.security) }

/-- Forgets a connection. -/
def removeConnection (d : Directory) (id : Nat) : Option Connection × Directory :=
  (d.connection? id, { d with connections := d.connections.remove id })

/-- Adds a session. -/
def addSession (d : Directory) (s : Session) : Except DirectoryError Directory :=
  if d.sessions.contains s.id then .error (.sessionExists s.id)
  else .ok { d with sessions := d.sessions.insert s }

/-- Forgets a session. -/
def removeSession (d : Directory) (id : Nat) : Option Session × Directory :=
  (d.session? id, { d with sessions := d.sessions.remove id })

/-- Changes every connection. -/
def mapConnections (d : Directory) (f : Connection → Connection) : Directory :=
  { d with connections := d.connections.map f }

/-- How many connections are in the middle of a handshake. -/
def authenticating (d : Directory) : Nat := d.connections.countP Connection.isAuthenticating

/-- Installs a context for the connections to come and on every connection there is. -/
def installContext (d : Directory) (context : Option AuthContext) : Directory :=
  { d.mapConnections (fun c => c.install context) with security := context }

/-- Works on other documents and accounts from now on. -/
def setStorage (d : Directory) (storage : DocumentStore) (accounts : AccountBook) : Directory :=
  { d with storage, accounts }

end Directory

end CoEdit
