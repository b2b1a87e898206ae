import CoEdit.Address

/-!
# Listeners

The network knows every listener that was ever made, by its number. A listener is bound first, which claims its port, and opened
then, which lets clients in. A listener with port zero gets the next free port when it is bound. Closing a listener gives its
port back, and so does letting go of one that is still bound.

Which attempts to bind and to open fail is part of the network, by family and port. So is which listeners give no handle that
connections could be taken from.
-/

namespace CoEdit

/-- Why a listener could not be bound or opened. -/
inductive NetworkError where
  | portTaken (family : AddressFamily) (port : UInt16)
  | openedUnbound (family : AddressFamily)
  | refused (family : AddressFamily) (port : UInt16)
  /-- The address is none of the machine. -/
  | unavailable (address : PeerAddress)
  deriving DecidableEq, Repr

/-- The text of a failure. -/
def NetworkError.message : NetworkError → String
  | .portTaken family port => family.name ++ " listener on port " ++ toString port ++ ": bind: Address already in use"
  | .openedUnbound family => family.name ++ " listener opened before bind"
  | .refused family port => family.name ++ " listener on port " ++ toString port ++ ": listen: Permission denied"
  | .unavailable address =>
    address.ip.family.name ++ " listener on " ++ address.text ++ ": bind: Cannot assign requested address (os error 99)"

/-- What the network knows of a listener. -/
structure ListenerState where
  family : AddressFamily
  /-- Without an address the listener is on all addresses of its family. -/
  address : Option IpAddress
  /-- The port asked for, and once bound the port it has. -/
  port : UInt16
  isBound : Bool := false
  isOpen : Bool := false
  /-- Whether it was closed. -/
  isClosed : Bool := false
  deriving DecidableEq, Repr

/-- A listener, by its number. -/
structure Listener where
  number : Nat
  family : AddressFamily
  address : Option IpAddress
  deriving DecidableEq, Repr

/-- The address a listener is on. -/
def Listener.ip (l : Listener) : IpAddress := l.address.getD (.any l.family)

/-- All listeners, and what becomes of attempts to bind and open them. -/
structure Network where
  listeners : List ListenerState := []
  bindFailures : List (AddressFamily × UInt16) := []
  openFailures : List (AddressFamily × UInt16) := []
  /-- The next port for a listener that asks for none. -/
  nextPort : UInt16 := 40000
  /-- Whether listeners are sockets of the machine, which connections can be taken from once they are open. -/
  hasSockets : Bool := false
  /-- Listeners that no connections can be taken from although they have a socket, by number. -/
  deaf : List Nat := []
  deriving DecidableEq, Repr

namespace Network

/-- The state of a listener. -/
def state? (n : Network) (number : Nat) : Option ListenerState := n.listeners[number]?

/-- Changes the state of a listener. -/
def change (n : Network) (number : Nat) (f : ListenerState → ListenerState) : Network :=
  { n with listeners := n.listeners.modify number f }

/-- Makes a listener, neither bound nor open. -/
def create (n : Network) (family : AddressFamily) (address : Option IpAddress) (port : UInt16) : Listener × Network :=
  ({ number := n.listeners.length, family, address },
    { n with listeners := n.listeners ++ [{ family, address, port }] })

/-- Claims the port of a listener. A network with sockets has the addresses of its own machine only. -/
def bind (n : Network) (l : Listener) : Except NetworkError Unit × Network :=
  match n.state? l.number with
  | none => (.ok (), n)
  | some s =>
    if n.hasSockets && !l.ip.isLocal then (.error (.unavailable { ip := l.ip, port := s.port }), n)
    else if n.bindFailures.contains (l.family, s.port) then (.error (.portTaken l.family s.port), n)
    else if s.port = 0 then
      (.ok (), { n.change l.number (fun s => { s with port := n.nextPort, isBound := true }) with
        nextPort := n.nextPort + 1 })
    else (.ok (), n.change l.number (fun s => { s with isBound := true }))

/-- Lets clients in. -/
def openListener (n : Network) (l : Listener) : Except NetworkError Unit × Network :=
  match n.state? l.number with
  | none => (.ok (), n)
  | some s =>
    if ¬ s.isBound then (.error (.openedUnbound l.family), n)
    else if n.openFailures.contains (l.family, s.port) then (.error (.refused l.family s.port), n)
    else (.ok (), n.change l.number (fun s => { s with isOpen := true }))

/-- A listener after it was closed. -/
def closedState (s : ListenerState) : ListenerState := { s with isBound := false, isOpen := false, isClosed := true }

/-- Closes a listener. -/
def close (n : Network) (l : Listener) : Network := n.change l.number closedState

/-- Lets go of a listener, which closes it if it is bound. -/
def release (n : Network) (l : Listener) : Network :=
  n.change l.number (fun s => if s.isBound then closedState s else s)

/-- Lets go of listeners one after the other. -/
def releaseAll (n : Network) (ls : List Listener) : Network := ls.foldl release n

/-- Whether a listener lets clients in. -/
def isOpen (n : Network) (l : Listener) : Bool := ((n.state? l.number).map (·.isOpen)).getD false

/-- The port a listener is bound to. -/
def port? (n : Network) (l : Listener) : Option UInt16 :=
  (n.state? l.number).bind fun s => if s.isBound then some s.port else none

/-- Whether connections can be taken from a listener. -/
def canAccept (n : Network) (l : Listener) : Bool := n.hasSockets && n.isOpen l && !n.deaf.contains l.number

/-- How many listeners are open. -/
def openCount (n : Network) : Nat := n.listeners.countP (·.isOpen)

/-- Makes attempts to bind a port fail. -/
def failBind (n : Network) (family : AddressFamily) (port : UInt16) : Network :=
  { n with bindFailures := (family, port) :: n.bindFailures }

/-- Makes attempts to open a listener on a port fail. -/
def failOpen (n : Network) (family : AddressFamily) (port : UInt16) : Network :=
  { n with openFailures := (family, port) :: n.openFailures }

/-- Forgets which attempts fail. -/
def clearFailures (n : Network) : Network := { n with bindFailures := [], openFailures := [] }

/-- A new listener has the number that no listener had. -/
theorem state?_create (n : Network) (family : AddressFamily) (address : Option IpAddress) (port : UInt16) :
    (n.create family address port).2.state? (n.create family address port).1.number =
      some { family, address, port } := by
  simp [create, state?]

/-- A change of one listener changes no other. -/
theorem state?_change (n : Network) (i j : Nat) (f : ListenerState → ListenerState) :
    (n.change i f).state? j = if i = j then (n.state? j).map f else n.state? j := by
  simp only [change, state?, List.getElem?_modify]
  split <;> simp_all

end Network

end CoEdit
