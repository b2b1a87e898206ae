import CoEdit.Proofs.Plugin.Likeness
import CoEdit.Proofs.Server.Coherence
import CoEdit.Proofs.Server.Decision
import CoEdit.Proofs.Server.Mirror

/-!
# A reload and a fresh start

A reload that replaces the endpoints and the documents comes to the same as a fresh start with the new configuration, on a host
where the configuration finds the same (`Server.Like`) and with the connections and sessions that there are. Both are refused for
the same reason, or both succeed and the servers agree on all but the numbers of endpoints and plugins (`Server.Agrees`).

The two go about it in different orders: a start installs the context before the plugins are loaded and a reload after them, and a
reload has the old plugins leave first. `Server.Reached.reload_agrees` puts the stages side by side.
-/

namespace CoEdit

/-! ## Networks with the same rules -/

namespace Network

variable {n n' : Network} {address : Option IpAddress} {port : UInt16}

/-- For a port that is asked for, networks with the same rules grant the same, whatever their next free ports are. -/
theorem SameRules.grants (r : SameRules n n') (hp : port ≠ 0) (next next' : UInt16) (families : List AddressFamily) :
    n'.grants address port next' families = n.grants address port next families := by
  induction families generalizing next next' with
  | nil => rfl
  | cons f fs ih =>
    rw [Network.grants, Network.grants, r.bindFault?]
    cases n.bindFault? address port f with
    | some e => exact ih next next'
    | none =>
      simp only [if_neg hp]
      rw [ih next next']

theorem SameRules.granted (r : SameRules n n') (hp : port ≠ 0) : n'.granted address port = n.granted address port :=
  r.grants hp _ _ _

theorem SameRules.openable (r : SameRules n n') (hp : port ≠ 0) : n'.openable address port = n.openable address port := by
  rw [Network.openable, Network.openable, r.granted hp, r.openFailures]

theorem SameRules.bindObjection? (r : SameRules n n') (hp : port ≠ 0) :
    n'.bindObjection? address port = n.bindObjection? address port := by
  rw [Network.bindObjection?, Network.bindObjection?, r.granted hp, r.bindFault?]

theorem SameRules.openObjection? (r : SameRules n n') (hp : port ≠ 0) :
    n'.openObjection? address port = n.openObjection? address port := by
  rw [Network.openObjection?, Network.openObjection?, r.openable hp, r.granted hp]

end Network

/-! ## Endpoints and credentials -/

/-- What an endpoint is to clients: its family and its port, and what holds for new connections. -/
def Endpoint.outline (n : Network) (e : Endpoint) :
    (AddressFamily × Option UInt16) × SecurityPolicy × Option Credentials × Option AuthContext :=
  ((e.family, n.port? e.listener), e.policy, e.credentials, e.context)

/-- Endpoints that carry the same are told apart by their families and ports. -/
theorem Pool.outline_of_carries {p : Pool} {policy : SecurityPolicy} {credentials : Option Credentials}
    {context : Option AuthContext} (hp : ∀ e ∈ p, e.Carries policy credentials context) (n : Network) :
    p.map (Endpoint.outline n) = (n.ports p.listeners).map fun x => (x, policy, credentials, context) := by
  rw [Network.ports, listeners, List.map_map, List.map_map]
  refine List.map_congr_left fun e he => ?_
  obtain ⟨rfl, rfl, rfl⟩ := hp e he
  rfl

/-- Parameters are of the group of their name, whether they are new or were live before. -/
theorem DhParameters.ofName_of_ensure {live : Option DhParameters} {name : String} {fresh : Nat} {p : DhParameters}
    (he : ensure live name fresh = .ok p) : DhGroup.ofName name = .ok p.group := by
  unfold ensure at he
  cases hg : DhGroup.ofName name with
  | error e =>
    rw [hg] at he
    cases he
  | ok g =>
    rw [hg] at he
    cases he
    cases live with
    | none => rfl
    | some q =>
      dsimp only
      split
      · rename_i hq
        rw [hq]
      · rfl

/-- The credentials of a snapshot are those that its configuration names, with the curves that its group allows. -/
theorem Snapshot.prepare_credentials {c : Config} {live : Option DhParameters} {h h' : Host} {s : Snapshot}
    (hp : prepare c live h = (.ok s, h')) : ∃ x, credentialsOf c h.disk = .ok x ∧
      s.credentials = x.bind fun credentials => (DhGroup.ofName c.security.dhGroup).toOption.map credentials.narrowed := by
  unfold prepare at hp
  cases hc : credentialsOf c h.disk with
  | error e =>
    rw [hc] at hp
    cases hp
  | ok x =>
    rw [hc] at hp
    refine ⟨x, rfl, ?_⟩
    cases x with
    | none =>
      cases hp
      rfl
    | some credentials =>
      dsimp only at hp
      cases he : DhParameters.ensure live c.security.dhGroup h.nextSerial with
      | error e =>
        rw [he] at hp
        cases hp
      | ok parameters =>
        rw [he] at hp
        cases hp
        rw [DhParameters.ofName_of_ensure he]
        rfl

/-! ## What there is to object to a start -/

/-- What there is to object to a start with a configuration, one condition after the other: the credentials load, the group is
known if there are any, some family can be bound, the root can be attached, and some listener can be opened. -/
def Host.objections (h : Host) (c : Config) : List (Option Refusal) :=
  [(refusal? ((Snapshot.credentialsOf c h.disk).mapError fun e => .notLoaded (.security e))),
    if c.security.hasCertificate then refusal? ((DhGroup.ofName c.security.dhGroup).mapError .badSecurity) else none,
    h.network.bindObjection? c.server.listenAddress c.server.port,
    refusal? ((AccountBook.attach ⟨c.storage.rootDirectory⟩ h.disk).mapError .notAttached),
    h.network.openObjection? c.server.listenAddress c.server.port]

/-- A host on which nothing has happened yet, under the circumstances of another. -/
def Host.renewed (h : Host) : Host :=
  { disk := h.disk
    environment := h.environment
    clock := h.clock
    network :=
      { hasSockets := h.network.hasSockets
        bindFailures := h.network.bindFailures
        openFailures := h.network.openFailures } }

namespace Server

variable {s t : Server} {h h' g g' h₀ : Host} {c : Config} {dir : Directory} {options : ServerOptions}

/-- A server cannot be made ready for the first thing there is to object, and for nothing else. -/
theorem refusal?_establish {r : Except Refusal (LoadReport × Server)} (hs : establish c dir options h = (r, h')) :
    refusal? r = (h.objections c).findSome? id := by
  unfold establish at hs
  simp only [Host.objections, first_cons, List.findSome?_nil, Option.or_none]
  rw [← Option.or_assoc]
  cases hp : Snapshot.prepare c none h with
  | mk prepared h₁ =>
    obtain ⟨hc₁, hn₁⟩ := Snapshot.prepare_calm hp
    rw [← refusal?_prepare hp]
    rw [hp] at hs
    cases prepared with
    | error e =>
      cases hs
      rfl
    | ok snapshot =>
      obtain ⟨rfl, -⟩ := Snapshot.prepare_ok hp
      rw [refusal?_ok, Option.none_or, ← hn₁]
      dsimp only at hs
      cases hb : bindListeners h₁ snapshot.listenAddress snapshot.port with
      | mk bound h₂ =>
        have hd := (bindListeners_holds hb).1.disk.trans hc₁.disk
        have hbind : refusal? bound =
            h₁.network.bindObjection? snapshot.config.server.listenAddress snapshot.config.server.port := refusal?_bindListeners hb
        have hattach : refusal? (attachStorage h₂.disk snapshot.storageRoot) =
            refusal? ((AccountBook.attach ⟨snapshot.config.storage.rootDirectory⟩ h.disk).mapError .notAttached) :=
          hd ▸ refusal?_attachStorage _ _
        rw [hb] at hs
        rw [← hbind, ← hattach]
        cases bound with
        | error e =>
          cases hs
          rfl
        | ok bound =>
          rw [refusal?_ok, Option.none_or]
          dsimp only at hs
          cases ha : attachStorage h₂.disk snapshot.storageRoot with
          | error e =>
            rw [ha] at hs
            cases hs
            rfl
          | ok storage =>
            rw [ha] at hs
            rw [refusal?_ok, Option.none_or]
            dsimp only at hs
            cases ho : openListeners h₂ bound with
            | mk opened h₃ =>
              have hopen : refusal? opened =
                  h₁.network.openObjection? snapshot.config.server.listenAddress snapshot.config.server.port :=
                refusal?_openListeners hb ho
              rw [ho] at hs
              rw [← hopen]
              cases opened <;> cases hs <;> rfl

/-- For a configuration that replaces both endpoints and documents a server has the same to object as there is to a start. -/
theorem objections_of_new (haddress : c.server.listenAddress = s.snapshot.listenAddress) (hport : ¬s.KeepsPort h c)
    (hroot : ¬s.KeepsRoot c) : (s.objections h c).findSome? id = (h.objections c).findSome? id := by
  simp only [objections, Host.objections, first_cons, if_pos haddress, if_neg hport, if_neg hroot, Option.none_or]

/-! ## Hosts on which a configuration finds the same -/

/-- A host on which a configuration finds what it finds when a server takes it over: attempts to bind and to open become of the
same, it is the same time, the same credentials and documents are found, and, once the plugins of the server have left, the disks
are and stay alike to the modules of the configuration. -/
structure Like (s : Server) (h : Host) (c : Config) (g : Host) (R : Disk → Disk → Prop) : Prop where
  rules : h.network.SameRules g.network
  clock : g.clock = h.clock
  credentials : Snapshot.credentialsOf c g.disk = Snapshot.credentialsOf c h.disk
  documents : attachStorage g.disk c.storage.rootDirectory = attachStorage h.disk c.storage.rootDirectory
  disks : R (s.registry.unloadAll h).2.disk g.disk
  root : ∀ {d e : Disk}, R d e →
    R (DocumentStore.ensureRoot ⟨c.storage.rootDirectory⟩ d).2 (DocumentStore.ensureRoot ⟨c.storage.rootDirectory⟩ e).2
  modules : (s.options.source c.plugins.path).Steady h.clock R

/-- Where a configuration finds the same there is the same to object to it. -/
theorem Like.objections {R : Disk → Disk → Prop} (k : s.Like h c g R) (hp : c.server.port ≠ 0) :
    g.objections c = h.objections c := by
  have hattach : refusal? ((AccountBook.attach ⟨c.storage.rootDirectory⟩ g.disk).mapError .notAttached) =
      refusal? ((AccountBook.attach ⟨c.storage.rootDirectory⟩ h.disk).mapError .notAttached) := by
    rw [← refusal?_attachStorage, ← refusal?_attachStorage, k.documents]
  rw [Host.objections, Host.objections, k.credentials, k.rules.bindObjection? hp, k.rules.openObjection? hp, hattach]

/-! ## Servers that agree -/

/-- Two servers on their hosts agree: on what their endpoints are to clients, on their directories, and on their plugins with what
these were started with and what they have states for. No registry has a state for anything but its own plugins. -/
structure Agrees (s : Server) (h : Host) (t : Server) (g : Host) : Prop where
  endpoints : t.pool.map (Endpoint.outline g.network) = s.pool.map (Endpoint.outline h.network)
  directory : t.directory = s.directory
  active : t.registry.active = s.registry.active
  plugins : t.registry.profile = s.registry.profile
  sound : s.registry.Sound h
  sound' : t.registry.Sound g

/-! ## What the stages leave -/

/-- What is acquired for a configuration that replaces both endpoints and documents. -/
theorem acquire_new {source : ConfigSource} {a : Acquisition} (ha : s.acquire h source = (.ok a, h'))
    (hc : (source.load h.environment h.disk).2 = .ok c) (hport : ¬s.KeepsPort h c) (hroot : ¬s.KeepsRoot c) :
    a.snapshot.config = c ∧
    (∃ x, Snapshot.credentialsOf c h.disk = .ok x ∧
      a.snapshot.credentials = x.bind fun cr => (DhGroup.ofName c.security.dhGroup).toOption.map cr.narrowed) ∧
    (∃ ls, a.listeners = some ls ∧
      h'.network.ports ls = (h.network.openable c.server.listenAddress c.server.port).map Network.onPort) ∧
    ∃ x, a.storage = some x ∧ attachStorage h.disk c.storage.rootDirectory = .ok x := by
  obtain ⟨c', h₁, h₂, current, hl, hp, -, -, hf⟩ := acquire_ok ha
  obtain ⟨-, bound, h₃, hb, hs, -⟩ := acquireFor_ok hf
  obtain ⟨hc₁, -⟩ := loadConfig_calm hl
  obtain ⟨hc₂, -⟩ := Snapshot.prepare_calm hp
  obtain ⟨hc₃, -⟩ := bindCandidate_holds hb
  obtain ⟨hconfig, -⟩ := Snapshot.prepare_ok hp
  have hcc : c' = c := by
    have hload : (source.load h.environment h.disk).2.mapError (fun e => Refusal.notLoaded (.configuration e)) = .ok c' :=
      congrArg Prod.fst hl
    rw [hc] at hload
    exact (Except.ok.inj hload).symm
  subst hcc
  obtain ⟨x, hx, hcr⟩ := Snapshot.prepare_credentials hp
  obtain ⟨-, hsome, hnone⟩ := acquire_ports ha
  refine ⟨hconfig, ⟨x, hc₁.disk ▸ hx, hcr⟩, ?_, ?_⟩
  · cases hls : a.listeners with
    | none =>
      refine absurd ?_ hport
      rw [KeepsPort, ← hconfig]
      exact hnone hls
    | some ls =>
      obtain ⟨-, hports⟩ := hsome ls hls
      refine ⟨ls, rfl, ?_⟩
      rw [← hconfig]
      exact hports
  · rw [(hc₁.trans (hc₂.trans hc₃)).disk] at hs
    cases hstorage : a.storage with
    | none =>
      rw [hstorage] at hs
      have hkept := attachCandidate_ok hs
      rw [Snapshot.storageRoot, hconfig] at hkept
      exact absurd hkept hroot
    | some x =>
      rw [hstorage] at hs
      have hattached := attachCandidate_ok hs
      rw [Snapshot.storageRoot, hconfig] at hattached
      exact ⟨x, rfl, hattached⟩

/-- What a server is assembled from. -/
theorem establish_parts {report : LoadReport} (hs : establish c dir options g = (.ok (report, t), g')) :
    ∃ snapshot opened storage g₁, g.Calm g₁ ∧ snapshot.config = c ∧
      (∃ x, Snapshot.credentialsOf c g.disk = .ok x ∧
        snapshot.credentials = x.bind fun cr => (DhGroup.ofName c.security.dhGroup).toOption.map cr.narrowed) ∧
      attachStorage g.disk c.storage.rootDirectory = .ok storage ∧
      assemble snapshot opened storage dir options g₁ = (report, t, g') := by
  obtain ⟨snapshot, g₁, bound, g₂, storage, opened, g₃, hp, hb, ha, ho, he⟩ := establish_ok hs
  obtain ⟨hc₁, -⟩ := Snapshot.prepare_calm hp
  obtain ⟨hc₂, hh⟩ := bindListeners_holds hb
  obtain ⟨hc₃, -⟩ := openListeners_holds hh ho
  obtain ⟨hconfig, -⟩ := Snapshot.prepare_ok hp
  rw [(hc₁.trans hc₂).disk, Snapshot.storageRoot, hconfig] at ha
  exact ⟨snapshot, opened, storage, g₃, (hc₁.trans hc₂).trans hc₃, hconfig, Snapshot.prepare_credentials hp, ha, he⟩

/-- Making new endpoints does nothing that plugins could see. -/
theorem surroundings_renewPool (s : Server) (h : Host) (a : Acquisition) : (s.renewPool h a).2.surroundings = h.surroundings := by
  unfold renewPool
  split
  · rfl
  · rw [Pool.host_addListeners]
    rfl

/-- Of installing documents plugins see that their root was made. -/
theorem surroundings_installStorage (dir : Directory) (h : Host) (x : AttachedStorage) :
    (installStorage dir h x).2.surroundings = { disk := (x.storage.ensureRoot h.disk).2, clock := h.clock } := by
  unfold installStorage
  dsimp only
  split <;> rfl

/-- Plugins that are loaded in the same way, for directories with the same documents, connections and sessions, come to the same
profile. -/
theorem loadPlugins_alike {R : Disk → Disk → Prop} {time : Nat} {a b : Snapshot} (hab : b.config = a.config)
    (hs : (options.source a.config.plugins.path).Steady time R) (hhg : Host.Alike time R h g) {d d' : Directory}
    (hd : d'.storage = d.storage) (hc : ∀ id, d'.connections.contains id = d.connections.contains id)
    (hx : ∀ id, d'.sessions.get? id = d.sessions.get? id) (strict : Bool) :
    (loadPlugins {} g { options with strict } b d').1 = (loadPlugins {} h options a d).1 ∧
      (loadPlugins {} g { options with strict } b d').2.1.profile = (loadPlugins {} h options a d).2.1.profile := by
  obtain ⟨hr, hrc, hrx⟩ := loadPlugins_mirrors h options a d
  obtain ⟨hr', hrc', hrx'⟩ := loadPlugins_mirrors g { options with strict } b d'
  have hload := Registry.loadAll_alike hs hhg a.config.plugins.load a.config.plugins.parametersFor hd
  have hsource : ({ options with strict } : ServerOptions).source = options.source := rfl
  rw [hr.keeps.profile, hr'.keeps.profile]
  simp only [hrc, hrx, hrc', hrx', hc, hx]
  unfold loadPlugins
  rw [hab, hsource]
  exact ⟨hload.1, congrArg _ hload.2⟩

/-- Where the documents are replaced, the plugins are loaded on the host that the old ones left, once the new root was made. -/
theorem commit_of_storage (s : Server) (h : Host) {a : Acquisition} {x : AttachedStorage} (hx : a.storage = some x) :
    let left := (s.registry.unloadAll (s.renewPool h a).2).2
    let dir := s.directory.setStorage x.storage x.accounts
    let loaded := loadPlugins {} (installStorage s.directory left x).2 s.options a.snapshot dir
    (s.commit h a).2.1.registry = loaded.2.1 ∧ (s.commit h a).1.pluginFailures = loaded.1.failures ∧
      (s.commit h a).1.pluginsLoaded = loaded.1.loaded.length ∧
      (s.commit h a).2.1.directory = dir.installContext a.snapshot.context := by
  unfold commit renewStorage
  rw [hx]
  dsimp only
  rw [Registry.release_unloadAll]
  exact ⟨rfl, rfl, rfl, rfl⟩

/-- Where a configuration finds the same, plugins that are loaded with a new root find hosts that are alike. -/
theorem Like.installed {R : Disk → Disk → Prop} (k : s.Like h c g R) (hh : h'.surroundings = h.surroundings)
    (hg : g'.surroundings = g.surroundings) {x : AttachedStorage} (hx : x.storage.root = c.storage.rootDirectory)
    (d d' : Directory) :
    Host.Alike h.clock R (installStorage d (s.registry.unloadAll h').2 x).2 (installStorage d' g' x).2 := by
  obtain ⟨-, hleft⟩ := s.registry.unloadAll_congr hh
  have hstore : x.storage = ⟨c.storage.rootDirectory⟩ := congrArg DocumentStore.mk hx
  have hi := surroundings_installStorage d (s.registry.unloadAll h').2 x
  have hi' := surroundings_installStorage d' g' x
  have hdisk : (s.registry.unloadAll h').2.disk = (s.registry.unloadAll h).2.disk := congrArg Surroundings.disk hleft
  have hclock : (s.registry.unloadAll h').2.clock = h.clock :=
    (congrArg Surroundings.clock hleft).trans (s.registry.attends_unloadAll h).clock
  have hdisk' : g'.disk = g.disk := congrArg Surroundings.disk hg
  have hclock' : g'.clock = h.clock := (congrArg Surroundings.clock hg).trans k.clock
  rw [hstore, hdisk, hclock] at hi
  rw [hstore, hdisk', hclock'] at hi'
  refine ⟨?_, congrArg Surroundings.clock hi, congrArg Surroundings.clock hi'⟩
  change R (installStorage d (s.registry.unloadAll h').2 x).2.surroundings.disk (installStorage d' g' x).2.surroundings.disk
  rw [hi, hi']
  exact k.root k.disks

/-! ## Agreement -/

/-- A start that is not strict succeeds once the server is ready. -/
theorem startWith_of_establish {report : LoadReport}
    (hs : establish c dir { options with strict := false } g = (.ok (report, t), g')) :
    startWith c dir { options with strict := false } g = (.ok t, g') := by
  rw [startWith_eq, hs]
  dsimp only
  split
  · rfl
  · rfl

section
variable {source : ConfigSource} {a : Acquisition} {report : LoadReport} {R : Disk → Disk → Prop} {n₀ : Network}

/-- The endpoints after a reload that replaced them are to clients what those of a server are that was started. -/
theorem endpoints_agree (v : s.Tends n₀ h) (ha : s.acquire h source = (.ok a, h'))
    (hc : (source.load h.environment h.disk).2 = .ok c) (hport : ¬s.KeepsPort h c) (hroot : ¬s.KeepsRoot c)
    (k : s.Like h c g R) (hp : c.server.port ≠ 0) (hs : establish c dir options g = (.ok (report, t), g')) :
    t.pool.map (Endpoint.outline g'.network) =
      (s.commit h' a).2.1.pool.map (Endpoint.outline (s.commit h' a).2.2.network) := by
  obtain ⟨hconfig, ⟨x, hx, hcr⟩, ⟨ls, hls, hports⟩, -⟩ := acquire_new ha hc hport hroot
  obtain ⟨snapshot, opened, storage, g₁, -, hconfig', ⟨y, hy, hcr'⟩, -, hassemble⟩ := establish_parts hs
  obtain ⟨-, -, hports'⟩ := establish_ports hs
  obtain ⟨-, hh, -⟩ := acquire_holds ha
  simp only [Except.map, held_ok] at hh
  have hxy : y = x := by
    rw [k.credentials, hx] at hy
    exact (Except.ok.inj hy).symm
  have hcommit := ports_commit v hh
  rw [hls] at hcommit
  dsimp only at hcommit
  rw [sixthFirst_of_families (Network.families_of_ports hports), hports, ← k.rules.openable hp, ← hports'] at hcommit
  have hcarries := carries_renewPool s h' a
  have hcarries' : ∀ e ∈ t.pool, e.Carries snapshot.policy snapshot.credentials snapshot.context := by
    have hpool := Pool.carries_withContext _ _ _ snapshot.context (Pool.carries_addListeners [] snapshot.policy snapshot.credentials
      snapshot.context g₁ opened (by simp))
    have ht : t = (assemble snapshot opened storage dir options g₁).2.1 := by rw [hassemble]
    rw [ht]
    exact hpool
  have hpolicy : snapshot.policy = a.snapshot.policy := by rw [Snapshot.policy, Snapshot.policy, hconfig, hconfig']
  have hcontext : snapshot.context = a.snapshot.context := by rw [Snapshot.context, Snapshot.context, hconfig, hconfig']
  have hcredentials : snapshot.credentials = a.snapshot.credentials := by rw [hcr, hcr', hxy]
  rw [Pool.outline_of_carries hcarries', Pool.outline_of_carries (p := (s.commit h' a).2.1.pool) hcarries, hpolicy, hcontext,
    hcredentials]
  exact congrArg _ hcommit.symm

/-- The directory after a reload that replaced the documents is that of a server that was started with the same connections and
sessions, whose plugins are loaded in the same way. -/
theorem directory_and_plugins_agree (ha : s.acquire h source = (.ok a, h'))
    (hc : (source.load h.environment h.disk).2 = .ok c) (hport : ¬s.KeepsPort h c) (hroot : ¬s.KeepsRoot c)
    (k : s.Like h c g R) (hcs : dir.connections = s.directory.connections) (hxs : dir.sessions = s.directory.sessions)
    (hs : establish c dir { s.options with strict := false } g = (.ok (report, t), g')) :
    t.directory = (s.commit h' a).2.1.directory ∧ t.registry.profile = (s.commit h' a).2.1.registry.profile ∧
      report.failures = (s.commit h' a).1.pluginFailures ∧ report.loaded.length = (s.commit h' a).1.pluginsLoaded := by
  obtain ⟨hconfig, -, -, x, hx, hattached⟩ := acquire_new ha hc hport hroot
  obtain ⟨snapshot, opened, storage, g₁, hcalm, hconfig', -, hattached', hassemble⟩ := establish_parts hs
  obtain ⟨hcalm', -, -⟩ := acquire_holds ha
  have hstorage : storage = x := by
    rw [k.documents, hattached] at hattached'
    exact (Except.ok.inj hattached').symm
  subst hstorage
  have hcontext : snapshot.context = a.snapshot.context := by rw [Snapshot.context, Snapshot.context, hconfig, hconfig']
  have hdir : (dir.setStorage storage.storage storage.accounts).installContext snapshot.context =
      (s.directory.setStorage storage.storage storage.accounts).installContext a.snapshot.context := by
    simp only [Directory.installContext, Directory.mapConnections, Directory.setStorage, hcs, hxs, hcontext]
  obtain ⟨hregistry, hfailures, hloaded, hdirectory⟩ := commit_of_storage s h' hx
  have hh : (s.renewPool h' a).2.surroundings = h.surroundings := by
    rw [surroundings_renewPool, Host.surroundings, Host.surroundings, hcalm'.disk, hcalm'.clock]
  have hg : (Pool.addListeners [] g₁ snapshot.policy snapshot.credentials snapshot.context opened).2.surroundings =
      g.surroundings := by
    rw [Pool.host_addListeners, Host.surroundings, Host.surroundings, hcalm.disk, hcalm.clock]
  -- A start installs the context before the plugins are loaded and a reload after that. It makes no difference to them: the
  -- documents and the sessions stay, and so do the numbers of the connections.
  have halike := k.installed hh hg (attachStorage_ok hattached).1 s.directory dir
  have hsame : ∀ id, ((dir.setStorage storage.storage storage.accounts).installContext snapshot.context).connections.contains id =
      (s.directory.setStorage storage.storage storage.accounts).connections.contains id :=
    fun id => (contains_installContext _ _ id).trans (congrArg (Roster.contains id) hcs)
  have hstore : ((dir.setStorage storage.storage storage.accounts).installContext snapshot.context).storage =
      (s.directory.setStorage storage.storage storage.accounts).storage := rfl
  obtain ⟨hreport, hprofile⟩ := loadPlugins_alike (hconfig'.trans hconfig.symm) (hconfig ▸ k.modules) halike hstore hsame
    (fun id => congrArg (Roster.get? id) hxs) false
  have hreport' := (congrArg Prod.fst hassemble).symm.trans hreport
  have hregistry' := (congrArg (fun x => x.2.1.registry.profile) hassemble).symm.trans hprofile
  have hdirectory' := (congrArg (fun x => x.2.1.directory) hassemble).symm.trans hdir
  refine ⟨hdirectory'.trans hdirectory.symm, ?_, ?_, ?_⟩
  · rw [hregistry]
    exact hregistry'
  · rw [hfailures]
    exact congrArg LoadReport.failures hreport'
  · rw [hloaded]
    exact congrArg (fun r => r.loaded.length) hreport'

end

/-- Let a configuration with a port ask a server that listens for another port and another root, on the address it has. A reload
and a fresh start that is not strict, on a host where the configuration finds the same and for a directory with the same
connections and sessions, are both refused for the same reason, or both succeed. If they succeed, the servers agree, and of the
plugins the same ones failed for the same reasons. -/
theorem Reached.reload_agrees {admitted : Config → Prop} {allowed : ServerAction → Prop} (hr : Reached admitted allowed h₀ s h)
    (hpool : s.pool ≠ []) {source : ConfigSource} (hc : (source.load h.environment h.disk).2 = .ok c) (hport : c.server.port ≠ 0)
    (haddress : c.server.listenAddress = s.snapshot.listenAddress) (hnew : s.port? h ≠ some c.server.port) (hroot : ¬s.KeepsRoot c)
    {R : Disk → Disk → Prop} (k : s.Like h c g R) (hcs : dir.connections = s.directory.connections)
    (hxs : dir.sessions = s.directory.sessions) (engine : ReloadEngine) :
    (∃ e, (engine.reload s h source).1 = .error e ∧ (startWith c dir { s.options with strict := false } g).1 = .error e) ∨
    ∃ summary report t g', (engine.reload s h source).1 = .ok summary ∧
      establish c dir { s.options with strict := false } g = (.ok (report, t), g') ∧
      startWith c dir { s.options with strict := false } g = (.ok t, g') ∧
      (engine.reload s h source).2.2.1.Agrees (engine.reload s h source).2.2.2 t g' ∧
      summary.pluginFailures = report.failures ∧ summary.pluginsLoaded = report.loaded.length := by
  obtain ⟨current, hcurrent⟩ := hr.tends.exists_port hpool
  have hkeeps : ¬s.KeepsPort h c := fun hk => hk.elim hnew fun hz => hport hz.1
  have hobjections : s.objection? h source = (g.objections c).findSome? id := by
    unfold objection?
    rw [hc]
    exact (objections_of_new haddress hkeeps hroot).trans (congrArg _ (k.objections hport).symm)
  -- Both are refused for the first objection, so one is refused if and only if the other is.
  cases ha : s.acquire h source with
  | mk r h₁ =>
    have hdecided := refusal?_acquire hcurrent ha
    rw [hobjections] at hdecided
    cases hs : establish c dir { s.options with strict := false } g with
    | mk r' g' =>
      rw [← refusal?_establish hs] at hdecided
      cases r with
      | error e =>
        left
        obtain rfl := refusal?_eq_some.1 hdecided.symm
        refine ⟨e, ?_, ?_⟩
        · rw [ReloadEngine.reload, reloadFrom, ha]
        · rw [startWith_eq, hs]
      | ok a =>
        right
        obtain ⟨⟨report, t⟩, rfl⟩ := refusal?_eq_none.1 hdecided.symm
        have hstart := startWith_of_establish hs
        obtain ⟨hdirectory, hprofile, hfailures, hloaded⟩ := directory_and_plugins_agree ha hc hkeeps hroot k hcs hxs hs
        have hendpoints := endpoints_agree hr.tends ha hc hkeeps hroot k hport hs
        have hreload : engine.reload s h source =
            (.ok (s.commit h₁ a).1, ⟨engine.generation + 1⟩, (s.commit h₁ a).2.1, (s.commit h₁ a).2.2) := by
          rw [ReloadEngine.reload, reloadFrom, ha]
        rw [hreload]
        refine ⟨_, report, t, g', rfl, rfl, hstart, ⟨hendpoints, hdirectory, ?_, hprofile, (mirrors_commit s h₁ a).sound,
          (mirrors_start hstart).sound⟩, hfailures.symm, hloaded.symm⟩
        rw [Registry.active_eq_profile, Registry.active_eq_profile, hprofile]

/-- A server keeps the options it was started with. -/
theorem options_of_startWith (hs : startWith c dir options h = (.ok s, h')) : s.options = options := by
  obtain ⟨snapshot, h₁, bound, h₂, storage, opened, h₃, -, -, -, -, he⟩ := startWith_ok hs
  exact (congrArg (fun x => x.1.options) he).symm

/-- A configuration with another port and another root, a plugin, and another plugin that is nowhere to be found. -/
def moved : ConfigSource := .inline .toml (movedDocument "[\"watch\", \"missing\"]")

/-- The server with a plugin and a connection is told to move. It agrees with one that is started where it moves to: both have the
same plugin, and lack the same one. -/
theorem reload_agrees_moved : ∃ (s : Server) (h : Host) (c : Config) (t : Server) (g : Host),
    Reached (fun _ => True) (fun _ => True) .blank s h ∧
    startWith c { s.directory with security := none } { s.options with strict := false } h.renewed = (.ok t, g) ∧
    (ReloadEngine.reload {} s h moved).2.2.1.Agrees (ReloadEngine.reload {} s h moved).2.2.2 t g ∧
    t.registry.active = ["watch"] := by
  have hmoves : watchedStart.1.toOption.map (fun s =>
      (s.snapshot.listenAddress.isNone, s.port? watchedStart.2,
        (moved.load watchedStart.2.environment watchedStart.2.disk).2.toOption.map fun c =>
          (c.server.port, [c.server.listenAddress.isNone, c.plugins.path.isNone,
            c.storage.rootDirectory.same s.snapshot.storageRoot]))) = some (true, some 6523, some (7000, [true, true, false])) := by
    decide +kernel
  have hruns : watchedStart.1.toOption.map (fun s =>
      let x := ReloadEngine.reload {} s watchedStart.2 moved
      (x.1.isOk, x.2.2.1.registry.active)) = some (true, ["watch"]) := by
    decide +kernel
  cases hs : watchedStart with
  | mk started h =>
    rw [hs] at hmoves hruns
    cases started with
    | error e => cases hruns
    | ok s =>
      cases hc : (moved.load h.environment h.disk).2 with
      | error e =>
        simp [hc, Except.toOption] at hmoves
      | ok c =>
        rw [hc] at hmoves
        simp only [Except.toOption, Option.map_some, Option.some.injEq, Prod.mk.injEq, List.cons.injEq, Option.isNone_iff_eq_none]
          at hmoves hruns
        obtain ⟨haddress', hport', hport, haddress, hpath, hroot, -⟩ := hmoves
        obtain ⟨hok, hactive⟩ := hruns
        have hr : Reached (fun _ => True) (fun _ => True) .blank s h := .start trivial hs
        have hpool : s.pool ≠ [] := by
          intro hnil
          rw [port?, hnil] at hport'
          cases hport'
        have hmodules : (s.options.source c.plugins.path).Steady h.clock fun _ _ => True := by
          rw [options_of_startWith hs, hpath]
          refine ModuleSource.steady_builtin fun name d hd => ?_
          rw [Table.get?] at hd
          split at hd
          · cases hd
            exact ⟨fun _ _ _ => rfl, fun _ _ _ => trivial, fun _ => trivial⟩
          · cases hd
        have k : s.Like h c h.renewed fun _ _ => True :=
          ⟨⟨rfl, rfl, rfl⟩, rfl, rfl, rfl, trivial, fun _ => trivial, hmodules⟩
        have hcs : ({ s.directory with security := none } : Directory).connections = s.directory.connections := rfl
        rcases Reached.reload_agrees hr hpool hc (by rw [hport]; decide) (haddress.trans haddress'.symm)
            (by rw [hport, hport']; decide) (by simp [KeepsRoot, hroot]) k hcs rfl {}
          with ⟨e, he, -⟩ | ⟨summary, report, t, g, -, -, hstart, hagrees, -, -⟩
        · rw [he] at hok
          cases hok
        · exact ⟨s, h, c, t, g, hr, hstart, hagrees, hagrees.active.trans hactive⟩

end Server
end CoEdit
