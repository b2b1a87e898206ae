import CoEdit.Proofs.Plugin.Frame
import CoEdit.Proofs.Server.Acquisition
import CoEdit.Proofs.Server.Endpoints

/-!
# Runs of a server

A run starts a server on a host and goes on by actions: reloads from any source, connections and sessions that come and go,
handshakes, changes of the directory that nobody reports, a shutdown, and changes of the circumstances, which are the files, the
environment, the time, what attempts to bind and to open become of and which listeners are deaf.

`Server.Reached admitted allowed h₀ s h` says that the server `s` and the host `h` come of a run that began on the host `h₀` with an
admitted configuration and took allowed actions only.
-/

namespace CoEdit

/-! ## Circumstances -/

/-- What the world around a server may change at any time. -/
structure Circumstances where
  disk : Disk
  environment : Environment
  clock : Nat
  bindFailures : List (AddressFamily × UInt16)
  openFailures : List (AddressFamily × UInt16)
  /-- Listeners that no connections can be taken from, by number. -/
  deaf : List Nat := []

/-- The host under other circumstances. -/
def Host.under (h : Host) (w : Circumstances) : Host :=
  { h with
    disk := w.disk
    environment := w.environment
    clock := w.clock
    network := { h.network with bindFailures := w.bindFailures, openFailures := w.openFailures, deaf := w.deaf } }

/-- Who holds the listeners does not depend on the circumstances. -/
theorem Network.Holds.congr {n₀ n n' : Network} {ls : List Listener} (h : n₀.Holds n ls) (he : n'.listeners = n.listeners) :
    n₀.Holds n' ls := by
  have hs : ∀ i, n'.state? i = n.state? i := fun i => by rw [state?, state?, he]
  refine ⟨fun i hi => (hs i).trans (h.earlier i hi), he ▸ h.grows, h.fresh, h.distinct, ?_, ?_⟩
  · intro l hl
    rw [hs]
    exact h.bound l hl
  · intro i hi hn s hs'
    rw [hs] at hs'
    exact h.idle i hi hn s hs'

/-! ## Actions -/

/-- The directory with one connection changed. -/
def Directory.updateConnection (d : Directory) (id : Nat) (f : Connection → Connection) : Directory :=
  d.mapConnections fun c => if c.id = id then f c else c

/-- What can be done with a server that runs. -/
inductive ServerAction where
  | reload (engine : ReloadEngine) (source : ConfigSource)
  | addConnection (c : Connection)
  | removeConnection (id : Nat)
  | addSession (x : Session)
  | removeSession (id : Nat)
  | beginAuthentication (id : Nat)
  | completeAuthentication (id : Nat) (password : String)
  /-- The directory is changed in a way that is not reported. -/
  | editDirectory (f : Directory → Directory)
  | shutdown
  | circumstances (w : Circumstances)

/-- Whether what the action does to the directory is reported. -/
def ServerAction.IsReported : ServerAction → Prop
  | .editDirectory _ => False
  | _ => True

namespace Server

/-- The server and its host after an action. -/
def perform (s : Server) (h : Host) : ServerAction → Server × Host
  | .reload engine source => (engine.reload s h source).2.2
  | .addConnection c => (s.addConnection h c).2
  | .removeConnection id => (s.removeConnection h id).2
  | .addSession x => (s.addSession h x).2
  | .removeSession id => (s.removeSession h id).2
  | .beginAuthentication id =>
    ({ s with directory := s.directory.updateConnection id Connection.beginAuthentication }, h)
  | .completeAuthentication id password =>
    ({ s with directory := s.directory.updateConnection id fun c => c.completeAuthentication password }, h)
  | .editDirectory f => ({ s with directory := f s.directory }, h)
  | .shutdown => s.shutdown h
  | .circumstances w => (s, h.under w)

/-- The servers, and their hosts, of the runs that begin on a host. -/
inductive Reached (admitted : Config → Prop) (allowed : ServerAction → Prop) (h₀ : Host) : Server → Host → Prop
  | start {c : Config} {dir : Directory} {options : ServerOptions} {s : Server} {h : Host} (hc : admitted c)
      (hs : startWith c dir options h₀ = (.ok s, h)) : Reached admitted allowed h₀ s h
  | step {s : Server} {h : Host} (hr : Reached admitted allowed h₀ s h) (a : ServerAction) (ha : allowed a) :
      Reached admitted allowed h₀ (s.perform h a).1 (s.perform h a).2

/-- The server and its host after actions, one after the other. -/
def performAll (s : Server) (h : Host) (as : List ServerAction) : Server × Host :=
  as.foldl (fun x a => x.1.perform x.2 a) (s, h)

/-- A run goes on by any number of actions. -/
theorem Reached.performAll {admitted : Config → Prop} {allowed : ServerAction → Prop} {h₀ : Host} {s : Server} {h : Host}
    (hr : Reached admitted allowed h₀ s h) (as : List ServerAction) (ha : ∀ a ∈ as, allowed a) :
    Reached admitted allowed h₀ (s.performAll h as).1 (s.performAll h as).2 := by
  induction as generalizing s h with
  | nil => exact hr
  | cons a as ih => exact ih (hr.step a (ha a List.mem_cons_self)) fun b hb => ha b (List.mem_cons_of_mem a hb)

/-! ## Starting -/

/-- A server that is ready, and what became of its plugins, before it is decided whether those that failed keep it from starting. -/
def establish (c : Config) (dir : Directory) (options : ServerOptions) (h : Host) :
    Except Refusal (LoadReport × Server) × Host :=
  match Snapshot.prepare c none h with
  | (.error e, h) => (.error e, h)
  | (.ok snapshot, h) => match bindListeners h snapshot.listenAddress snapshot.port with
    | (.error e, h) => (.error e, h)
    | (.ok bound, h) => match attachStorage h.disk snapshot.storageRoot with
      | .error e => (.error e, h.release bound)
      | .ok storage => match openListeners h bound with
        | (.error e, h) => (.error e, h)
        | (.ok opened, h) =>
          let (report, s, h) := assemble snapshot opened storage dir options h
          (.ok (report, s), h)

/-- A start is refused where a server cannot be made ready, and where it is strict and a plugin failed. -/
theorem startWith_eq (c : Config) (dir : Directory) (options : ServerOptions) (h : Host) :
    startWith c dir options h = match establish c dir options h with
      | (.error e, h) => (.error e, h)
      | (.ok (report, s), h) => match report.failures with
        | e :: _ => if options.strict then (.error (.plugin e), (s.shutdown h).1.release (s.shutdown h).2) else (.ok s, h)
        | [] => (.ok s, h) := by
  unfold startWith establish
  generalize Snapshot.prepare c none h = x
  obtain ⟨_ | snapshot, h₁⟩ := x
  · rfl
  dsimp only
  unfold startPrepared
  generalize bindListeners h₁ snapshot.listenAddress snapshot.port = x
  obtain ⟨_ | bound, h₂⟩ := x
  · rfl
  dsimp only
  generalize attachStorage h₂.disk snapshot.storageRoot = x
  cases x with
  | error e => rfl
  | ok storage =>
    dsimp only
    generalize openListeners h₂ bound = x
    obtain ⟨_ | opened, h₃⟩ := x <;> rfl

/-- A server that is ready went through all stages, and was assembled from what they left. -/
theorem establish_ok {c : Config} {dir : Directory} {options : ServerOptions} {report : LoadReport} {s : Server} {h h' : Host}
    (hs : establish c dir options h = (.ok (report, s), h')) : ∃ snapshot h₁ bound h₂ storage opened h₃,
      Snapshot.prepare c none h = (.ok snapshot, h₁) ∧
      bindListeners h₁ snapshot.listenAddress snapshot.port = (.ok bound, h₂) ∧
      attachStorage h₂.disk snapshot.storageRoot = .ok storage ∧
      openListeners h₂ bound = (.ok opened, h₃) ∧
      assemble snapshot opened storage dir options h₃ = (report, s, h') := by
  unfold establish at hs
  split at hs
  · cases hs
  · rename_i snapshot h₁ hp
    split at hs
    · cases hs
    · rename_i bound h₂ hb
      split at hs
      · cases hs
      · rename_i storage ha
        split at hs
        · cases hs
        · rename_i opened h₃ ho
          cases hs
          exact ⟨snapshot, h₁, bound, h₂, storage, opened, h₃, hp, hb, ha, ho, rfl⟩

/-- A server that was started is one that was ready. -/
theorem establish_of_startWith {c : Config} {dir : Directory} {options : ServerOptions} {s : Server} {h h' : Host}
    (hs : startWith c dir options h = (.ok s, h')) : ∃ report, establish c dir options h = (.ok (report, s), h') := by
  rw [startWith_eq] at hs
  revert hs
  generalize establish c dir options h = x
  intro hs
  obtain ⟨_ | ⟨report, s'⟩, h₁⟩ := x
  · cases hs
  · refine ⟨report, ?_⟩
    dsimp only at hs
    split at hs
    · split at hs <;> cases hs
      rfl
    · cases hs
      rfl

/-- A server that was started went through all stages, and was assembled from what they left. -/
theorem startWith_ok {c : Config} {dir : Directory} {options : ServerOptions} {s : Server} {h h' : Host}
    (hs : startWith c dir options h = (.ok s, h')) : ∃ snapshot h₁ bound h₂ storage opened h₃,
      Snapshot.prepare c none h = (.ok snapshot, h₁) ∧
      bindListeners h₁ snapshot.listenAddress snapshot.port = (.ok bound, h₂) ∧
      attachStorage h₂.disk snapshot.storageRoot = .ok storage ∧
      openListeners h₂ bound = (.ok opened, h₃) ∧
      (assemble snapshot opened storage dir options h₃).2 = (s, h') := by
  obtain ⟨report, he⟩ := establish_of_startWith hs
  obtain ⟨snapshot, h₁, bound, h₂, storage, opened, h₃, hp, hb, ha, ho, hx⟩ := establish_ok he
  exact ⟨snapshot, h₁, bound, h₂, storage, opened, h₃, hp, hb, ha, ho, by rw [hx]⟩

/-- A server that was started with the configuration of a source was started with a valid one. -/
theorem reached_of_start {allowed : ServerAction → Prop} {source : ConfigSource} {dir : Directory} {options : ServerOptions}
    {s : Server} {h₀ h : Host} (hs : start source dir options h₀ = (.ok s, h)) :
    ∃ h₁, h₀.Calm h₁ ∧ h₁.network = h₀.network ∧ Reached Config.IsValid allowed h₁ s h := by
  unfold start at hs
  split at hs
  · cases hs
  · rename_i c h₁ hl
    obtain ⟨hc, hn⟩ := loadConfig_calm hl
    exact ⟨h₁, hc, hn, .start (loadConfig_valid hl) hs⟩

/-! ## Connections and sessions -/

section
variable (s : Server) (h : Host)

/-- A connection whose number is taken is refused, and nothing happens. -/
theorem addConnection_refused {c : Connection} (hc : s.directory.connections.contains c.id = true) :
    s.addConnection h c = (.error (.connectionExists c.id), s, h) := by
  rw [addConnection, Directory.addConnection, if_pos hc]

/-- Any other connection is added with the present context, and reported with it. -/
theorem addConnection_accepted {c : Connection} (hc : s.directory.connections.contains c.id = false) :
    s.addConnection h c =
      (.ok (),
        { s with
          directory := { s.directory with connections := s.directory.connections.insert (c.install s.directory.security) }
          registry := (s.registry.connectionAdded h (c.install s.directory.security)).1 },
        (s.registry.connectionAdded h (c.install s.directory.security)).2) := by
  have hg : (s.directory.connections.insert (c.install s.directory.security)).get? c.id =
      some (c.install s.directory.security) := by
    rw [Roster.get?_insert]
    exact if_pos rfl
  rw [addConnection, Directory.addConnection, if_neg (by simp [hc])]
  simp only [Directory.connection?, hg]

/-- A session whose number is taken is refused, and nothing happens. -/
theorem addSession_refused {x : Session} (hx : s.directory.sessions.contains x.id = true) :
    s.addSession h x = (.error (.sessionExists x.id), s, h) := by
  rw [addSession, Directory.addSession, if_pos hx]

/-- Any other session is added and reported. -/
theorem addSession_accepted {x : Session} (hx : s.directory.sessions.contains x.id = false) :
    s.addSession h x =
      (.ok (),
        { s with
          directory := { s.directory with sessions := s.directory.sessions.insert x }
          registry := (s.registry.sessionAdded h x).1 },
        (s.registry.sessionAdded h x).2) := by
  have hg : (s.directory.sessions.insert x).get? x.id = some x := by
    rw [Roster.get?_insert]
    exact if_pos rfl
  rw [addSession, Directory.addSession, if_neg (by simp [hx])]
  simp only [Directory.session?, hg]

/-- A connection that is there goes away before it is forgotten. -/
theorem removeConnection_known {id : Nat} {c : Connection} (hc : s.directory.connection? id = some c) :
    s.removeConnection h id =
      (some c,
        { s with
          directory := { s.directory with connections := s.directory.connections.remove id }
          registry := (s.registry.connectionRemoved h c).1 },
        (s.registry.connectionRemoved h c).2) := by
  rw [removeConnection, Directory.removeConnection, hc]

/-- Nothing is reported of a connection that is not there. -/
theorem removeConnection_unknown {id : Nat} (hc : s.directory.connection? id = none) :
    s.removeConnection h id =
      (none, { s with directory := { s.directory with connections := s.directory.connections.remove id } }, h) := by
  rw [removeConnection, Directory.removeConnection, hc]

/-- A session that is there goes away before it is forgotten. -/
theorem removeSession_known {id : Nat} {x : Session} (hx : s.directory.session? id = some x) :
    s.removeSession h id =
      (some x,
        { s with
          directory := { s.directory with sessions := s.directory.sessions.remove id }
          registry := (s.registry.sessionRemoved h x).1 },
        (s.registry.sessionRemoved h x).2) := by
  rw [removeSession, Directory.removeSession, hx]

/-- Nothing is reported of a session that is not there. -/
theorem removeSession_unknown {id : Nat} (hx : s.directory.session? id = none) :
    s.removeSession h id =
      (none, { s with directory := { s.directory with sessions := s.directory.sessions.remove id } }, h) := by
  rw [removeSession, Directory.removeSession, hx]

end

/-! ## Taking over -/

theorem attends_installStorage (dir : Directory) (h : Host) (x : AttachedStorage) : h.Attends (installStorage dir h x).2 := by
  have hdisk : ∀ disk, h.Attends { h with disk } := fun _ => ⟨rfl, rfl, rfl, rfl, rfl, Nat.le_refl _, List.prefix_refl _⟩
  unfold installStorage
  dsimp only
  split
  · exact ((hdisk _).trans (Host.attends_note _ _)).trans (Host.attends_note _ _)
  · exact (((hdisk _).trans (Host.attends_note _ _)).trans (Host.attends_log _ _)).trans (Host.attends_note _ _)

theorem attends_renewStorage (dir : Directory) (h : Host) (a : Acquisition) : h.Attends (renewStorage dir h a).2 := by
  unfold renewStorage
  split
  · exact .refl h
  · exact attends_installStorage _ _ _

theorem attends_loadPlugins (r : Registry) (h : Host) (options : ServerOptions) (snapshot : Snapshot) (dir : Directory) :
    h.Attends (loadPlugins r h options snapshot dir).2.2 := r.attends_loadAll h _ _ _ dir

/-- After the endpoints of a server are made nothing is done to the network, or to their numbers. -/
theorem attends_assemble (snapshot : Snapshot) (ls : List Listener) (x : AttachedStorage) (dir : Directory) (options : ServerOptions)
    (h : Host) : (Pool.addListeners [] h snapshot.policy snapshot.credentials snapshot.context ls).2.Attends
      (assemble snapshot ls x dir options h).2.2 :=
  (attends_installStorage dir _ x).trans (attends_loadPlugins _ _ _ _ _)

/-- Only the endpoints have to do with the network when a configuration is taken over. -/
theorem attends_commit (s : Server) (h : Host) (a : Acquisition) : (s.renewPool h a).2.Attends (s.commit h a).2.2 :=
  ((s.registry.attends_unloadAll _).trans (attends_renewStorage s.directory _ a)).trans
    ((Registry.attends_release _ _).trans (attends_loadPlugins _ _ _ _ _))

/-- What is done to the network when a server is assembled was done before. -/
theorem network_assemble (snapshot : Snapshot) (ls : List Listener) (x : AttachedStorage) (dir : Directory)
    (options : ServerOptions) (h : Host) : (assemble snapshot ls x dir options h).2.2.network = h.network :=
  (attends_assemble snapshot ls x dir options h).network.trans (Pool.network_addListeners [] _ _ _ h ls)

theorem network_commit (s : Server) (h : Host) (a : Acquisition) :
    (s.commit h a).2.2.network = (s.renewPool h a).2.network := (attends_commit s h a).network

theorem connections_renewStorage (dir : Directory) (h : Host) (a : Acquisition) :
    (renewStorage dir h a).1.connections = dir.connections := by
  unfold renewStorage
  split <;> rfl

/-- A reload that takes over installs the context of the new snapshot on every connection. -/
theorem connections_commit (s : Server) (h : Host) (a : Acquisition) :
    (s.commit h a).2.1.directory.connections = s.directory.connections.map fun c => c.install a.snapshot.context :=
  congrArg (List.map _) (connections_renewStorage _ _ _)

/-- A reload takes over what was acquired, or logs why nothing was. Either way it counts. -/
theorem reload_eq (engine : ReloadEngine) (s : Server) (h : Host) (source : ConfigSource) :
    engine.reload s h source = match s.acquire h source with
      | (.ok a, h') => (.ok (s.commit h' a).1, ⟨engine.generation + 1⟩, (s.commit h' a).2)
      | (.error r, h') => (.error r, ⟨engine.generation + 1⟩, s, h'.log (ReloadEngine.refusalEntry (engine.generation + 1) r)) := by
  unfold ReloadEngine.reload reloadFrom
  generalize s.acquire h source = x
  obtain ⟨_ | a, h'⟩ := x <;> rfl

/-- A reload that succeeds takes over what was acquired. -/
theorem reload_ok {engine engine' : ReloadEngine} {s s' : Server} {h h' : Host} {source : ConfigSource} {summary : ReloadSummary}
    (he : engine.reload s h source = (.ok summary, engine', s', h')) :
    ∃ a g, s.acquire h source = (.ok a, g) ∧ s.commit g a = (summary, s', h') := by
  rw [reload_eq] at he
  cases ha : s.acquire h source with
  | mk r g =>
    rw [ha] at he
    cases r with
    | error e => cases he
    | ok a =>
      cases he
      exact ⟨a, g, rfl, rfl⟩

/-- A reload either takes over what was acquired, or leaves the server as it is. -/
theorem reload_cases (engine : ReloadEngine) (s : Server) (h : Host) (source : ConfigSource) :
    (∃ a h', s.acquire h source = (.ok a, h') ∧ (engine.reload s h source).2.2 = (s.commit h' a).2) ∨
      ∃ r h' entry, s.acquire h source = (.error r, h') ∧ (engine.reload s h source).2.2 = (s, h'.log entry) := by
  rw [reload_eq]
  generalize s.acquire h source = x
  obtain ⟨r, h'⟩ := x
  cases r with
  | error r => exact Or.inr ⟨r, h', _, rfl, rfl⟩
  | ok a => exact Or.inl ⟨a, h', rfl, rfl⟩

/-- An action that is neither a reload nor a shutdown leaves the snapshot, the endpoints and the listeners as they are. -/
theorem perform_cases (s : Server) (h : Host) (a : ServerAction) :
    (∃ engine source, a = .reload engine source) ∨ a = .shutdown ∨
      (s.perform h a).1.snapshot = s.snapshot ∧ (s.perform h a).1.pool = s.pool ∧
        (s.perform h a).2.network.listeners = h.network.listeners := by
  cases a with
  | reload engine source => exact Or.inl ⟨engine, source, rfl⟩
  | shutdown => exact Or.inr (Or.inl rfl)
  | addConnection c =>
    rw [Server.perform]
    cases hc : s.directory.connections.contains c.id with
    | true =>
      rw [addConnection_refused s h hc]
      exact Or.inr (Or.inr ⟨rfl, rfl, rfl⟩)
    | false =>
      rw [addConnection_accepted s h hc]
      exact Or.inr (Or.inr ⟨rfl, rfl, congrArg _ (Registry.attends_connectionAdded _ _ _).network⟩)
  | removeConnection id =>
    rw [Server.perform]
    cases hc : s.directory.connection? id with
    | none =>
      rw [removeConnection_unknown s h hc]
      exact Or.inr (Or.inr ⟨rfl, rfl, rfl⟩)
    | some c =>
      rw [removeConnection_known s h hc]
      exact Or.inr (Or.inr ⟨rfl, rfl, congrArg _ (Registry.attends_connectionRemoved _ _ _).network⟩)
  | addSession x =>
    rw [Server.perform]
    cases hx : s.directory.sessions.contains x.id with
    | true =>
      rw [addSession_refused s h hx]
      exact Or.inr (Or.inr ⟨rfl, rfl, rfl⟩)
    | false =>
      rw [addSession_accepted s h hx]
      exact Or.inr (Or.inr ⟨rfl, rfl, congrArg _ (Registry.attends_sessionAdded _ _ _).network⟩)
  | removeSession id =>
    rw [Server.perform]
    cases hx : s.directory.session? id with
    | none =>
      rw [removeSession_unknown s h hx]
      exact Or.inr (Or.inr ⟨rfl, rfl, rfl⟩)
    | some x =>
      rw [removeSession_known s h hx]
      exact Or.inr (Or.inr ⟨rfl, rfl, congrArg _ (Registry.attends_sessionRemoved _ _ _).network⟩)
  | beginAuthentication id => exact Or.inr (Or.inr ⟨rfl, rfl, rfl⟩)
  | completeAuthentication id password => exact Or.inr (Or.inr ⟨rfl, rfl, rfl⟩)
  | editDirectory f => exact Or.inr (Or.inr ⟨rfl, rfl, rfl⟩)
  | circumstances w => exact Or.inr (Or.inr ⟨rfl, rfl, rfl⟩)

end Server

/-! ## A plain server -/

/-- The host of an empty machine. -/
def Host.blank : Host := { disk := .empty }

/-- A configuration without plugins or TLS. -/
def Config.plain : Config := { security := { policy := .noTls } }

theorem Config.plain_isValid : plain.IsValid := by
  unfold IsValid
  rfl

/-- A start without plugins or TLS, on an empty machine. -/
def Server.plainStart : Except Refusal Server × Host :=
  startWith .plain { storage := ⟨⟨"documents"⟩⟩ } { modules := .builtin [] } .blank

/-- The plain server starts. -/
theorem Server.plainStart_ok : ∃ s h, plainStart = (.ok s, h) := by
  have hok : plainStart.1.isOk = true := by decide
  cases hp : plainStart with
  | mk r h =>
    rw [hp] at hok
    cases r with
    | ok s => exact ⟨s, h, rfl⟩
    | error e => cases hok

end CoEdit
