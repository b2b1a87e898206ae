import CoEdit.Address
import CoEdit.Roster

/-!
# Connections

A connection of a client, and how far it has got with authentication.

A connection keeps the context that was installed on it last. Installing a context aborts a handshake in progress and leaves
every other state as it is; without a context every client is accepted.
-/

namespace CoEdit

/-- How clients authenticate: a mechanism and what it checks. -/
structure AuthContext where
  mechanism : String
  password : String
  deriving DecidableEq, Repr

namespace AuthContext

/-- Authentication with a password. -/
def plain (password : String) : AuthContext := { mechanism := "PLAIN", password }

/-- Whether a password is the right one. -/
def verify (c : AuthContext) (password : String) : Bool := c.password = password

/-- A description that keeps the password to itself. -/
def description (c : AuthContext) : String :=
  "AuthContext \x7b mechanism: \"" ++ c.mechanism ++ "\", password: \"<redacted>\" \x7d"

end AuthContext

/-- Progress of a connection with authentication. -/
inductive AuthState where
  | unauthenticated
  | authenticating
  | authenticated
  deriving DecidableEq, Repr

/-- Name of a state. -/
def AuthState.name : AuthState → String
  | .unauthenticated => "Unauthenticated"
  | .authenticating => "Authenticating"
  | .authenticated => "Authenticated"

/-- A connection of a client. -/
structure Connection where
  id : Nat
  peer : PeerAddress
  state : AuthState := .unauthenticated
  context : Option AuthContext := none
  deriving DecidableEq, Repr

namespace Connection

instance : Numbered Connection := ⟨Connection.id⟩

/-- A number of a connection in messages. -/
def label (id : Nat) : String := "conn-" ++ toString id

/-- A handshake begins. -/
def beginAuthentication (c : Connection) : Connection := { c with state := .authenticating }

/-- Whether a password would complete the handshake. -/
def accepts (c : Connection) (password : String) : Bool :=
  match c.context with
  | some context => context.verify password
  | none => true

/-- A handshake ends with a password, and the connection is authenticated if it is accepted. -/
def completeAuthentication (c : Connection) (password : String) : Connection :=
  { c with state := if c.accepts password then .authenticated else .unauthenticated }

/-- Whether a handshake is in progress. -/
def isAuthenticating (c : Connection) : Bool := c.state = .authenticating

/-- A context is installed, or taken away. -/
def install (c : Connection) (context : Option AuthContext) : Connection :=
  { c with context, state := if c.isAuthenticating then .unauthenticated else c.state }

/-- A context is installed, or taken away. The first part of the result is whether a handshake was aborted. -/
def resetAuthentication (c : Connection) (context : Option AuthContext) : Bool × Connection :=
  if c.isAuthenticating then (true, { c with context, state := .unauthenticated }) else (false, { c with context })

@[simp] theorem beginAuthentication_id (c : Connection) : c.beginAuthentication.id = c.id := rfl

@[simp] theorem completeAuthentication_id (c : Connection) (p : String) : (c.completeAuthentication p).id = c.id := rfl

@[simp] theorem install_id (c : Connection) (x : Option AuthContext) : (c.install x).id = c.id := rfl

@[simp] theorem install_context (c : Connection) (x : Option AuthContext) : (c.install x).context = x := rfl

@[simp] theorem resetAuthentication_fst (c : Connection) (x : Option AuthContext) :
    (c.resetAuthentication x).1 = c.isAuthenticating := by
  unfold resetAuthentication
  split <;> simp_all

@[simp] theorem resetAuthentication_snd (c : Connection) (x : Option AuthContext) : (c.resetAuthentication x).2 = c.install x := by
  unfold resetAuthentication install
  split <;> simp_all

/-- After a context is installed no handshake is in progress. -/
theorem install_not_authenticating (c : Connection) (x : Option AuthContext) : (c.install x).state ≠ .authenticating := by
  cases hc : c.state <;> simp [install, isAuthenticating, hc]

end Connection

end CoEdit
