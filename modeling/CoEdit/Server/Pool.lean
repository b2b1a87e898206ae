import CoEdit.Host
import CoEdit.SecurityPolicy
import CoEdit.Tls.Credentials

/-!
# Endpoints

An endpoint is an open listener with what holds for its new connections: a policy, credentials and a context. A pool is the list
of the endpoints of a server, in the order they were added. The port of a pool is that of its endpoint of the sixth version, or
else of the first one.
-/

namespace CoEdit

/-- A listener with what holds for its new connections. -/
structure Endpoint where
  /-- The number of the endpoint, which no other one ever had. -/
  number : Nat
  listener : Listener
  policy : SecurityPolicy
  credentials : Option Credentials
  context : Option AuthContext
  deriving DecidableEq, Repr

namespace Endpoint

/-- The family of the listener. -/
def family (e : Endpoint) : AddressFamily := e.listener.family

/-- The endpoint with other credentials and another policy. -/
def secured (e : Endpoint) (policy : SecurityPolicy) (credentials : Option Credentials) : Endpoint :=
  { e with policy, credentials }

/-- The endpoint with another context. -/
def withContext (e : Endpoint) (context : Option AuthContext) : Endpoint := { e with context }

/-- Whether the endpoint has the credentials that its policy needs. -/
def isCovered (e : Endpoint) : Bool := !e.policy.usesTls || e.credentials.isSome

/-- An endpoint of a listener, with a new number. -/
def create (h : Host) (listener : Listener) (policy : SecurityPolicy) (credentials : Option Credentials)
    (context : Option AuthContext) : Endpoint × Host :=
  ({ number := h.nextEndpoint, listener, policy, credentials, context }, { h with nextEndpoint := h.nextEndpoint + 1 })

end Endpoint

/-- The endpoints of a server. -/
abbrev Pool := List Endpoint

namespace Pool

/-- The endpoint with a number. -/
def get? (p : Pool) (number : Nat) : Option Endpoint := p.find? (fun e => e.number = number)

/-- The first endpoint of a family. -/
def ofFamily? (p : Pool) (family : AddressFamily) : Option Endpoint := p.find? (fun e => e.family = family)

/-- The endpoint whose port is that of the pool. -/
def leading? (p : Pool) : Option Endpoint := (p.ofFamily? .ipv6).orElse fun _ => p.head?

/-- The port of the pool. -/
def port? (p : Pool) (n : Network) : Option UInt16 := p.leading?.bind fun e => n.port? e.listener

/-- The numbers of the endpoints. -/
def numbers (p : Pool) : List Nat := p.map (·.number)

/-- Closes the listeners of all endpoints. -/
def closeAll (p : Pool) (n : Network) : Network := p.foldl (fun n e => n.close e.listener) n

/-- Lets go of all endpoints, which closes those that are still bound. -/
def release (p : Pool) (n : Network) : Network := n.releaseAll (p.map (·.listener))

/-- All endpoints with other credentials and another policy. -/
def secured (p : Pool) (policy : SecurityPolicy) (credentials : Option Credentials) : Pool :=
  p.map fun e => e.secured policy credentials

/-- All endpoints with another context. -/
def withContext (p : Pool) (context : Option AuthContext) : Pool := p.map fun e => e.withContext context

/-- Adds an endpoint for each listener, in order. -/
def addListeners (p : Pool) (h : Host) (policy : SecurityPolicy) (credentials : Option Credentials)
    (context : Option AuthContext) : List Listener → Pool × Host
  | [] => (p, h)
  | l :: rest =>
    let (e, h) := Endpoint.create h l policy credentials context
    addListeners (p ++ [e]) h policy credentials context rest

end Pool

end CoEdit
