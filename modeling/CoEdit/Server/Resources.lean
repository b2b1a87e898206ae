import CoEdit.Server.Pool
import CoEdit.Server.Snapshot

/-!
# What a server acquires

Listeners are bound for each family of an address; one that is bound is enough. Bound listeners are opened; one that is open is
enough, and the others are let go. When none is left the listeners are let go and the failure is reported: of binding the last
one, of opening the first one.

Documents are attached without touching the disk, and installed later: the root is made then, and a root that cannot be made is
only reported.
-/

namespace CoEdit

/-- Listeners that were bound so far, and the last failure. -/
structure Binding where
  bound : List Listener := []
  failure : Option NetworkError := none
  host : Host

/-- Binds a listener of a family. -/
def Binding.step (address : Option IpAddress) (port : UInt16) (b : Binding) (family : AddressFamily) : Binding :=
  let (l, network) := b.host.network.create family address port
  match network.bind l with
  | (.ok (), network) => { b with bound := b.bound ++ [l], host := { b.host with network } }
  | (.error e, network) =>
    { b with
      failure := some e
      host := { b.host with network := network.release l }.log (.warning "Failed to bind listener"
        [("family", family.name), ("port", toString port), ("error", (ServerError.network e).message)]) }

/-- Binds a listener for each family of an address. -/
def bindListeners (h : Host) (address : Option IpAddress) (port : UInt16) : Except Refusal (List Listener) × Host :=
  let b := (IpAddress.families address).foldl (Binding.step address port) { host := h }
  match b.bound, b.failure with
  | [], some e => (.error (.notBound e), b.host)
  | bound, _ => (.ok bound, b.host)

/-- Listeners that were opened so far, and the first failure. -/
structure Opening where
  opened : List Listener := []
  failure : Option NetworkError := none
  host : Host

/-- Opens a listener, or lets it go. -/
def Opening.step (o : Opening) (l : Listener) : Opening :=
  match o.host.network.openListener l with
  | (.ok (), network) => { o with opened := o.opened ++ [l], host := { o.host with network } }
  | (.error e, network) =>
    { o with
      failure := some (o.failure.getD e)
      host := { o.host with network := network.release l }.log (.warning "Failed to open listener"
        [("family", l.family.name), ("error", (ServerError.network e).message)]) }

/-- Opens bound listeners. -/
def openListeners (h : Host) (bound : List Listener) : Except Refusal (List Listener) × Host :=
  let o := bound.foldl Opening.step { host := h }
  match o.opened, o.failure with
  | [], some e => (.error (.notOpened e), o.host)
  | opened, _ => (.ok opened, o.host)

/-- Lets go of listeners. -/
def Host.release (h : Host) (ls : List Listener) : Host := { h with network := h.network.releaseAll ls }

/-- Documents below a root, and the accounts among them. -/
structure AttachedStorage where
  storage : DocumentStore
  accounts : AccountBook

/-- Attaches the documents and accounts of a root. -/
def attachStorage (d : Disk) (root : Path) : Except Refusal AttachedStorage :=
  let storage : DocumentStore := { root }
  match AccountBook.attach storage d with
  | .error e => .error (.notAttached e)
  | .ok accounts => .ok { storage, accounts }

/-- Makes the root of documents, and has a directory work on them. -/
def installStorage (dir : Directory) (h : Host) (s : AttachedStorage) : Directory × Host :=
  let (made, disk) := s.storage.ensureRoot h.disk
  let h := { h with disk }.note (.rootEnsured s.storage.root)
  let h := match made with
    | .ok () => h
    | .error e =>
      h.log (.warning "Cannot create storage root" [("root", s.storage.root.text), ("error", e.message)])
  (dir.setStorage s.storage s.accounts, h.note (.storageInstalled s.storage.root))

/-- Listeners with those of the sixth version first. -/
def sixthFirst (ls : List Listener) : List Listener :=
  ls.filter (fun l => l.family = .ipv6) ++ ls.filter (fun l => l.family ≠ .ipv6)

end CoEdit
