import CoEdit.Server.Loop

/-!
# Reports

What the parts of a server say of themselves, as trees, for tools that ask. Paths, addresses and policies are shown as texts, an
authentication context by the name of its mechanism, and what is absent as null.
-/

namespace CoEdit

namespace Tree

/-- A text, or null. -/
def ofText? (s : Option String) : Tree := (s.map Tree.string).getD .null

/-- A list of texts. -/
def ofTexts (ss : List String) : Tree := .array (ss.map .string)

/-- A port, or null. -/
def ofPort? (p : Option UInt16) : Tree := (p.map fun p => ofNat p.toNat).getD .null

/-- An address, or null. -/
def ofAddress? (a : Option IpAddress) : Tree := ofText? (a.map IpAddress.text)

/-- The mechanism of a context, or null. -/
def ofContext? (c : Option AuthContext) : Tree := ofText? (c.map AuthContext.mechanism)

end Tree

/-! ## What is connected -/

/-- A connection with its state. -/
def Connection.toTree (c : Connection) : Tree :=
  .ofEntries [("id", .ofNat c.id), ("addr", .string c.peer.text), ("state", .string c.state.name),
    ("mechanism", .ofContext? c.context)]

/-- A session with its most derived kind. -/
def Session.toTree (s : Session) : Tree :=
  .ofEntries [("id", .ofNat s.id), ("path", .string s.path), ("kind", .string s.kind.name)]

/-- A directory with all that is connected. -/
def Directory.entries (d : Directory) : List (String × Tree) :=
  [("connections", .array (d.connections.map Connection.toTree)), ("sessions", .array (d.sessions.map Session.toTree)),
    ("security", .ofContext? d.security), ("root", .string d.storageRoot.text)]

/-! ## What is listened on -/

/-- Credentials with the length of their chain and the groups on offer. -/
def Credentials.toTree (c : Credentials) : Tree :=
  .ofEntries [("file", .string c.certificateFile.text), ("chain", .ofNat c.certificates.length),
    ("dh", .ofText? (c.group.map DhGroup.name)), ("groups", .ofTexts (c.offered.map (·.name)))]

/-- Credentials, or null. -/
def Tree.ofCredentials? (c : Option Credentials) : Tree := (c.map Credentials.toTree).getD .null

/-- A listener with its state. -/
def ListenerState.toTree (s : ListenerState) : Tree :=
  .ofEntries [("family", .string s.family.keyword), ("address", .ofAddress? s.address), ("port", .ofNat s.port.toNat),
    ("bound", .bool s.isBound), ("open", .bool s.isOpen), ("closed", .bool s.isClosed)]

/-- All listeners there ever were. -/
def Network.toTree (n : Network) : Tree := .array (n.listeners.map ListenerState.toTree)

/-- An endpoint with its listener and its security. -/
def Endpoint.toTree (n : Network) (e : Endpoint) : Tree :=
  .ofEntries [("family", .string e.family.keyword), ("address", .ofAddress? e.listener.address),
    ("port", .ofPort? (n.port? e.listener)), ("open", .bool (n.isOpen e.listener)), ("policy", .string e.policy.keyword),
    ("credentials", .ofCredentials? e.credentials), ("mechanism", .ofContext? e.context)]

/-! ## What runs -/

/-- A registry with the plugins that run and the number of their states. -/
def Registry.toTree (r : Registry) : Tree :=
  .ofEntries [("active", .ofTexts r.active), ("len", .ofNat r.instances.length), ("empty", .bool r.instances.isEmpty),
    ("connection_entries", .ofNat r.connectionStates.length), ("session_entries", .ofNat r.sessionStates.length)]

/-- A parameter as a plugin declares it. -/
def ParameterSpec.toTree (p : ParameterSpec) : Tree :=
  .array [.string p.name, .string p.kind.description, .bool p.required, .string p.description]

/-- A plugin as it describes itself. -/
def PluginDescriptor.toTree (d : PluginDescriptor) : Tree :=
  .ofEntries [("name", .string d.name), ("session_type", .ofText? d.sessionType), ("description", .string d.description),
    ("parameters", .array (d.parameters.map ParameterSpec.toTree))]

/-- A snapshot with what it takes from its configuration. -/
def Snapshot.toTree (s : Snapshot) : Tree :=
  let plugins := s.config.plugins
  .ofEntries [("listen_address", .ofAddress? s.listenAddress), ("port", .ofNat s.port.toNat),
    ("policy", .string s.policy.keyword), ("credentials", .ofCredentials? s.credentials),
    ("dh_group", .string s.config.security.dhGroup), ("dh_params", .ofText? (s.dhParameters.map (·.group.name))),
    ("mechanism", .ofContext? s.context), ("storage_root", .string s.storageRoot.text),
    ("plugins", .ofTexts plugins.load), ("plugin_path", .ofText? (plugins.path.map Path.text)),
    ("plugin_parameters", .ofEntries (plugins.parameters.map fun e => (e.1, .object e.2)))]

/-- What a server says of itself. -/
def ServerStatus.toTree (s : ServerStatus) : Tree :=
  .ofEntries [("port", .ofPort? s.port), ("endpoints", .ofNat s.endpoints), ("connections", .ofNat s.connections),
    ("plugins", .ofTexts s.plugins), ("reloads", .ofNat s.reloads)]

end CoEdit
