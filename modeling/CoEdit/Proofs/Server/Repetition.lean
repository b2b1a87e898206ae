import CoEdit.Proofs.Server.ConfiguredPort
import CoEdit.Proofs.Server.Handover
import CoEdit.Proofs.Server.Material
import CoEdit.Proofs.Server.Summary

/-!
# Reloading once more

A reload that succeeded can be repeated. If its source reads the same, the material that the configuration names reads the same, the
environment is the same and plugins come out as they did before, then the second reload succeeds whatever the network would do if it
were asked, and changes nothing but that it puts the same plugins in the place of those there are (`Server.Repeats`).
-/

namespace CoEdit

/-! ## What a configuration is read from -/

/-- The files of the material that a configuration names. -/
def SecuritySettings.files (s : SecuritySettings) : List Path :=
  s.certificateFile.toList ++ s.keyFile.toList ++ s.certificateChain.toList

section
variable {d d' : Disk}

theorem Disk.readText_congr {p : Path} (hd : d'.read p = d.read p) : d'.readText p = d.readText p := by
  rw [readText, hd, readText]

theorem Config.mapM_treeOfFile_congr (env : Environment) {files : List Path} (hd : ∀ p ∈ files, d'.read p = d.read p) :
    files.mapM (treeOfFile env d') = files.mapM (treeOfFile env d) := by
  induction files with
  | nil => rfl
  | cons file files ih =>
    have hfile : treeOfFile env d' file = treeOfFile env d file := by
      rw [treeOfFile, Disk.readText_congr (hd file List.mem_cons_self), treeOfFile]
    rw [List.mapM_cons, List.mapM_cons, hfile, ih fun p hp => hd p (List.mem_cons_of_mem file hp)]

/-- A source is told from its files. -/
theorem ConfigSource.load_congr {source : ConfigSource} (env : Environment) (hd : ∀ p ∈ source.files, d'.read p = d.read p) :
    source.load env d' = source.load env d := by
  rw [load, load]
  congr 1
  cases source with
  | file path =>
    have hpath : d'.readText path = d.readText path := Disk.readText_congr (hd path List.mem_cons_self)
    rw [read, read, Config.ofFile, Config.ofFile, Config.treeOfFile, Config.treeOfFile, hpath]
  | layered files =>
    have htrees := Config.mapM_treeOfFile_congr env (show ∀ p ∈ files, d'.read p = d.read p from hd)
    rw [read, read, Config.ofFiles, Config.ofFiles, htrees]
  | inline format text => rfl

theorem Credentials.load_congr {certificate key : Path} {chain : Option Path}
    (hd : ∀ p ∈ certificate :: key :: chain.toList, d'.read p = d.read p) :
    load d' certificate key chain = load d certificate key chain := by
  have hopen : ∀ p ∈ certificate :: key :: chain.toList, openFile d' p = openFile d p := by
    intro p hp
    rw [openFile, hd p hp, openFile]
  have hcertificates : ∀ p ∈ certificate :: key :: chain.toList, loadCertificates d' p = loadCertificates d p := by
    intro p hp
    rw [loadCertificates, hopen p hp, loadCertificates]
  have hkey : loadKey d' key = loadKey d key := by rw [loadKey, hopen key (by simp), loadKey]
  rw [load, load, hcertificates certificate (by simp), hkey]
  cases chain with
  | none => rfl
  | some file =>
    have hfile := hcertificates file (by simp)
    simp only [hfile]

/-- Credentials are told from the files that are named. -/
theorem Snapshot.credentialsOf_congr {c : Config} (hd : ∀ p ∈ c.security.files, d'.read p = d.read p) :
    credentialsOf c d' = credentialsOf c d := by
  unfold credentialsOf
  split
  · rename_i certificate key hc hk
    have hfiles : c.security.files = certificate :: key :: c.security.certificateChain.toList := by
      rw [SecuritySettings.files, hc, hk]
      rfl
    rw [Credentials.load_congr fun p hp => hd p (hfiles ▸ hp)]
  · rfl

end

/-- A snapshot that was prepared is prepared again, with the parameters that it has, wherever the same credentials are read. -/
theorem Snapshot.prepare_again {c : Config} {live : Option DhParameters} {h h' g : Host} {s : Snapshot}
    (hp : prepare c live h = (.ok s, h')) (hc : credentialsOf c g.disk = credentialsOf c h.disk) :
    ∃ g', prepare c s.dhParameters g = (.ok s, g') := by
  unfold prepare at hp ⊢
  rw [hc]
  split at hp
  · cases hp
  · cases hp
    exact ⟨g, rfl⟩
  · split at hp
    · cases hp
    · rename_i p hensured
      cases hp
      have hagain : DhParameters.ensure (some p) c.security.dhGroup g.nextSerial = .ok p := by
        rw [DhParameters.ensure, DhParameters.ofName_of_ensure hensured]
        exact congrArg Except.ok (if_pos rfl)
      exact ⟨{ g with nextSerial := g.nextSerial + 1 }, by simp only [hagain]⟩

/-! ## Taking over what is there -/

/-- A connection on which a context was installed is the same when it is installed again. -/
theorem Connection.install_install (c : Connection) (context : Option AuthContext) :
    (c.install context).install context = c.install context := by
  have hnot : (c.install context).isAuthenticating = false := decide_eq_false (c.install_not_authenticating context)
  rw [install, hnot]
  rfl

/-- No handshake is in progress in a directory on which a context was installed. -/
theorem Directory.authenticating_installContext (d : Directory) (context : Option AuthContext) :
    (d.installContext context).authenticating = 0 := by
  rw [authenticating, List.countP_eq_zero]
  intro c hc
  obtain ⟨c', -, rfl⟩ := List.mem_map.1 hc
  simpa [Connection.isAuthenticating] using c'.install_not_authenticating context

theorem Directory.installContext_installContext (d : Directory) (context : Option AuthContext) :
    (d.installContext context).installContext context = d.installContext context := by
  have hconnections : (d.connections.map fun c => c.install context).map (fun c => c.install context) =
      d.connections.map fun c => c.install context := by
    rw [List.map_map]
    exact List.map_congr_left fun c _ => c.install_install context
  rw [installContext, installContext, mapConnections, mapConnections]
  dsimp only
  rw [hconnections]

/-- Endpoints are not changed by what they carry. -/
theorem Pool.eq_of_carries {p : Pool} {policy : SecurityPolicy} {credentials : Option Credentials} {context : Option AuthContext}
    (hp : ∀ e ∈ p, e.Carries policy credentials context) : (p.secured policy credentials).withContext context = p := by
  rw [withContext, secured, List.map_map]
  refine (List.map_congr_left fun e he => ?_).trans (List.map_id p)
  obtain ⟨rfl, rfl, rfl⟩ := hp e he
  rfl

/-! ## Plugins -/

/-- Attempts that are made for the same names and come out the same are reported alike. -/
theorem LoadAttempt.reported_congr {as bs : List LoadAttempt} (hn : bs.map (·.name) = as.map (·.name))
    (h : ∀ a ∈ as, ∀ b ∈ bs, b.name = a.name → b.failure? = a.failure?) :
    loadedNames bs = loadedNames as ∧ failures bs = failures as := by
  induction as generalizing bs with
  | nil =>
    rw [List.map_nil, List.map_eq_nil_iff] at hn
    rw [hn]
    exact ⟨rfl, rfl⟩
  | cons a as ih =>
    cases bs with
    | nil => cases hn
    | cons b bs =>
      obtain ⟨hname, hnames⟩ := List.cons.inj hn
      have hname : b.name = a.name := hname
      have hab := h a List.mem_cons_self b List.mem_cons_self hname
      obtain ⟨hloaded, hfailures⟩ := ih hnames fun x hx y hy => h x (List.mem_cons_of_mem a hx) y (List.mem_cons_of_mem b hy)
      refine ⟨?_, ?_⟩
      · rw [loadedNames, loadedNames, List.filter_cons, List.filter_cons, hab]
        rw [loadedNames, loadedNames] at hloaded
        split
        · rw [List.map_cons, List.map_cons, hloaded, hname]
        · exact hloaded
      · rw [failures, failures, List.filterMap_cons, List.filterMap_cons, hab, ← failures, ← failures, hfailures]

namespace Server

variable {s s' : Server} {h h' h₀ : Host} {engine engine' : ReloadEngine} {source : ConfigSource} {summary : ReloadSummary}
  {admitted : Config → Prop} {allowed : ServerAction → Prop}

/-- The attempts to load the plugins of what was acquired. -/
def attempts (s : Server) (h : Host) (a : Acquisition) : List LoadAttempt :=
  let settings := a.snapshot.config.plugins
  Registry.attempts {} (s.refurnished h a).2 (s.options.source settings.path) settings.load settings.parametersFor
    (s.refurnished h a).1

/-- The attempts to load plugins of a reload. -/
def reloadAttempts (s : Server) (h : Host) (source : ConfigSource) : List LoadAttempt :=
  match s.acquire h source with
  | (.ok a, h) => s.attempts h a
  | (.error _, _) => []

/-- What is told of plugins when something is taken over, and which there are then. -/
theorem plugins_commit (s : Server) (h : Host) (a : Acquisition) :
    (s.commit h a).1.pluginsLoaded = (LoadAttempt.loadedNames (s.attempts h a)).length ∧
      (s.commit h a).1.pluginFailures = LoadAttempt.failures (s.attempts h a) ∧
      (s.commit h a).2.1.registry.active = LoadAttempt.loadedNames (s.attempts h a) := by
  let settings := a.snapshot.config.plugins
  have hreport := Registry.report_loadAll {} (s.refurnished h a).2 (s.options.source settings.path) settings.load
    settings.parametersFor (s.refurnished h a).1
  have hactive := Registry.active_loadAll {} (s.refurnished h a).2 (s.options.source settings.path) settings.load
    settings.parametersFor (s.refurnished h a).1
  rw [hreport] at hactive
  unfold commit
  dsimp only
  rw [Registry.release_unloadAll]
  exact ⟨congrArg (fun report => report.loaded.length) hreport, congrArg LoadReport.failures hreport, hactive⟩

/-- The attempts are made for the plugins that the configuration asks for, each once. -/
theorem names_attempts (s : Server) (h : Host) (a : Acquisition) :
    (s.attempts h a).map (·.name) = Registry.missing {} a.snapshot.config.plugins.load :=
  Registry.names_attempts _ _ _ _ _ _

/-! ## The second reload -/

/-- A configuration that reads the same is loaded again. -/
theorem loadConfig_again {c : Config} {k : Host} (hl : loadConfig source h = (.ok c, h')) (he : k.environment = h.environment)
    (hd : ∀ p ∈ source.files, k.disk.read p = h.disk.read p) : ∃ k', loadConfig source k = (.ok c, k') := by
  have hloaded : (source.load k.environment k.disk).2 = .ok c := by
    rw [he, ConfigSource.load_congr _ hd]
    exact load_of_loadConfig hl
  exact ⟨k.logAll (source.load k.environment k.disk).1, Prod.ext (congrArg (Except.mapError _) hloaded) rfl⟩

/-- Nothing is acquired for a snapshot of what a server runs with. -/
theorem acquireFor_again {current : UInt16} (hport : s.port? h = some current) (hk : s.KeepsPort h s.snapshot.config) :
    s.acquireFor h s.snapshot current = (.ok { snapshot := s.snapshot, listeners := none, storage := none }, h) := by
  have hkept : s.portChanges current s.snapshot = false :=
    Bool.eq_false_iff.2 fun hc => (portChanges_iff hport s.snapshot).1 hc hk
  have hroot : s.attachCandidate h.disk s.snapshot = .ok none := if_pos (Path.same_refl _)
  unfold acquireFor bindCandidate
  rw [hkept, if_neg Bool.false_ne_true]
  dsimp only
  rw [hroot]
  rfl

/-- What was acquired once is there when it is acquired again: a server that runs with the snapshot that was prepared, on the port that
is configured, prepares the same snapshot and acquires nothing else. -/
theorem acquire_again {k : Host} {a : Acquisition} (ha : s.acquire h source = (.ok a, h')) (hs : s'.snapshot = a.snapshot)
    (he : k.environment = h.environment)
    (hd : ∀ p ∈ source.files ++ a.snapshot.config.security.files, k.disk.read p = h.disk.read p)
    (hpool : ∃ port, s'.port? k = some port) (hk : s'.KeepsPort k a.snapshot.config) :
    ∃ k', s'.acquire k source = (.ok { snapshot := a.snapshot, listeners := none, storage := none }, k') ∧
      k'.network = k.network := by
  obtain ⟨c, h₁, h₂, current, hl, hp, -, -, -⟩ := acquire_ok ha
  obtain ⟨hconfig, -⟩ := Snapshot.prepare_ok hp
  subst hconfig
  obtain ⟨k₁, hl'⟩ := loadConfig_again hl he fun p hm => hd p (List.mem_append_left _ hm)
  obtain ⟨hcalm, hnetwork⟩ := loadConfig_calm hl'
  have hcredentials : Snapshot.credentialsOf a.snapshot.config k₁.disk = Snapshot.credentialsOf a.snapshot.config h₁.disk := by
    rw [hcalm.disk, (loadConfig_calm hl).1.disk]
    exact Snapshot.credentialsOf_congr fun p hm => hd p (List.mem_append_right _ hm)
  obtain ⟨k₂, hp'⟩ := Snapshot.prepare_again hp hcredentials
  have hnetwork₂ : k₂.network = k.network := (Snapshot.prepare_calm hp').2.trans hnetwork
  obtain ⟨port, hport⟩ := hpool
  have hport₂ : s'.port? k₂ = some port := by
    rw [port?, hnetwork₂]
    exact hport
  have hk₂ : s'.KeepsPort k₂ s'.snapshot.config := by
    rw [KeepsPort, port?, hnetwork₂, ← port?, hs]
    rw [KeepsPort, hs] at hk
    exact hk
  refine ⟨k₂, ?_, hnetwork₂⟩
  unfold acquire
  rw [hl']
  dsimp only
  rw [hs, hp']
  dsimp only
  rw [if_neg (not_not_intro rfl), hport₂, ← hs]
  exact acquireFor_again hport₂ hk₂

/-- A server that acquires something has an endpoint. -/
theorem pool_ne_nil_of_acquire {a : Acquisition} (ha : s.acquire h source = (.ok a, h')) : s.pool ≠ [] := by
  obtain ⟨h₁, current, -, -, hport, -⟩ := acquire_network ha
  intro hnil
  rw [port?, hnil] at hport
  cases hport

/-- After a reload a server listens on the port that is configured, or on free ones as before. -/
theorem keepsPort_commit (hr : Reached admitted allowed h₀ s h) {a : Acquisition} (ha : s.acquire h source = (.ok a, h')) :
    (s.commit h' a).2.1.KeepsPort (s.commit h' a).2.2 a.snapshot.config := by
  by_cases hp : a.snapshot.config.server.port = 0
  · exact Or.inr ⟨hp, hp⟩
  left
  obtain ⟨hreplaced, hquiet⟩ := acquire_listeners ha
  cases hl : a.listeners with
  | none =>
    have hk : s.KeepsPort h a.snapshot.config := Decidable.not_not.1 fun hk => by simpa [hl] using hreplaced.2 hk
    have hstays := stays_commit hr.tends hl (hquiet hl)
    rw [port?_eq_leadingPort?, hstays.ports, ← port?_eq_leadingPort?]
    exact hk.resolve_right fun hz => hp hz.1
  | some ls =>
    have hy := yields_commit hr.tends hr.numbered ha hl
    have hnonempty := ((hr.serving (pool_ne_nil_of_acquire ha)).commit hr.tends ha).nonempty
    rw [port?_eq_leadingPort?]
    refine Network.leadingPort?_of_forall hnonempty fun x hx => ?_
    rw [hy.onPort hp] at hx
    obtain ⟨family, -, rfl⟩ := List.mem_map.1 hx
    rfl

/-- A reload that is repeated under other circumstances: from a server and its host with the first summary it leads to another server
and its host with the second one. Nothing is replaced, nothing is aborted, and the network is not asked for anything. -/
structure Repeats (x : ReloadSummary) (s : Server) (h : Host) (w : Circumstances) (x' : ReloadSummary) (s' : Server) (h' : Host) :
    Prop where
  summary : x' = { x with listenersReplaced := false, storageReplaced := false, abortedAuthentications := 0 }
  snapshot : s'.snapshot = s.snapshot
  pool : s'.pool = s.pool
  ports : s'.ports h' = s.ports h
  directory : s'.directory = s.directory
  active : s'.registry.active = s.registry.active
  network : h'.network = (h.under w).network

/-- A server that took something over takes over the same snapshot once more. -/
theorem repeats_commit (s : Server) (h : Host) (a : Acquisition) {k : Host} {w : Circumstances}
    (hk : k.network = ((s.commit h a).2.2.under w).network)
    (houtcomes : ∀ x ∈ s.attempts h a, ∀ y ∈ (s.commit h a).2.1.attempts k { snapshot := a.snapshot, listeners := none, storage := none },
      y.name = x.name → y.failure? = x.failure?) :
    Repeats (s.commit h a).1 (s.commit h a).2.1 (s.commit h a).2.2 w
      ((s.commit h a).2.1.commit k { snapshot := a.snapshot, listeners := none, storage := none }).1
      ((s.commit h a).2.1.commit k { snapshot := a.snapshot, listeners := none, storage := none }).2.1
      ((s.commit h a).2.1.commit k { snapshot := a.snapshot, listeners := none, storage := none }).2.2 := by
  let b : Acquisition := { snapshot := a.snapshot, listeners := none, storage := none }
  have hcarries := carries_renewPool s h a
  have hdirectory : ((s.commit h a).2.1.commit k b).2.1.directory = (s.commit h a).2.1.directory := by
    rw [directory_commit _ _ rfl]
    exact Directory.installContext_installContext _ _
  have hpool : ((s.commit h a).2.1.commit k b).2.1.pool = (s.commit h a).2.1.pool := Pool.eq_of_carries hcarries
  have hnetwork : ((s.commit h a).2.1.commit k b).2.2.network = ((s.commit h a).2.2.under w).network :=
    (network_commit _ _ _).trans hk
  obtain ⟨hloaded, hfailures, hactive⟩ := s.plugins_commit h a
  obtain ⟨hloaded', hfailures', hactive'⟩ := (s.commit h a).2.1.plugins_commit k b
  obtain ⟨hsame, hsame'⟩ := LoadAttempt.reported_congr
    (((s.commit h a).2.1.names_attempts k b).trans (s.names_attempts h a).symm) houtcomes
  have haborted : ((s.commit h a).2.1.commit k b).1.abortedAuthentications = 0 :=
    (abortedAuthentications_commit _ _ _).trans (Directory.authenticating_installContext _ _)
  refine ⟨?_, rfl, hpool, ?_, hdirectory, ?_, hnetwork⟩
  · refine (ReloadSummary.mk.injEq ..).mpr ⟨rfl, rfl, ?_, ?_, haborted⟩
    · exact hloaded'.trans ((congrArg List.length hsame).trans hloaded.symm)
    · exact hfailures'.trans (hsame'.trans hfailures.symm)
  · rw [ports, hpool, hnetwork]
    rfl
  · rw [hactive', hactive, hsame]

/-- A reload that succeeded is repeated from the same source, with the files and the environment that it read and with plugins that come
out as they did. Whatever else is different, it succeeds again and changes nothing. In particular it does so if nothing can be bound
or opened any more: the network is not asked. -/
theorem Reached.reload_again (hr : Reached admitted allowed h₀ s h)
    (he : engine.reload s h source = (.ok summary, engine', s', h')) (w : Circumstances) (henvironment : w.environment = h.environment)
    (hfiles : ∀ p ∈ source.files ++ s'.snapshot.config.security.files, w.disk.read p = h.disk.read p)
    (houtcomes : ∀ a ∈ s.reloadAttempts h source, ∀ b ∈ s'.reloadAttempts (h'.under w) source,
      b.name = a.name → b.failure? = a.failure?) (again : ReloadEngine) :
    ∃ summary' s'' h'', again.reload s' (h'.under w) source = (.ok summary', ⟨again.generation + 1⟩, s'', h'') ∧
      Repeats summary s' h' w summary' s'' h'' := by
  have htends := hr.tends.reload engine source
  rw [he] at htends
  obtain ⟨a, g, ha, hc⟩ := reload_ok he
  obtain rfl : (s.commit g a).1 = summary := congrArg Prod.fst hc
  obtain rfl : (s.commit g a).2.1 = s' := congrArg (fun x => x.2.1) hc
  obtain rfl : (s.commit g a).2.2 = h' := congrArg (fun x => x.2.2) hc
  have hserving := (hr.serving (pool_ne_nil_of_acquire ha)).commit hr.tends ha
  have hport := htends.exists_port fun hnil => hserving.nonempty ((ports_eq_nil _ _).2 hnil)
  have hsnapshot : (s.commit g a).2.1.snapshot = a.snapshot := rfl
  obtain ⟨k, ha', hnetwork⟩ := acquire_again (k := (s.commit g a).2.2.under w) ha hsnapshot henvironment hfiles hport
    (keepsPort_commit hr ha)
  have houtcomes : ∀ x ∈ s.attempts g a, ∀ y ∈ (s.commit g a).2.1.attempts k { snapshot := a.snapshot, listeners := none, storage := none },
      y.name = x.name → y.failure? = x.failure? := by
    rw [reloadAttempts, ha, reloadAttempts, ha'] at houtcomes
    exact houtcomes
  refine ⟨_, _, _, by rw [reload_eq, ha'], ?_⟩
  exact repeats_commit s g a hnetwork houtcomes

/-- A disk with the file of a configuration: another port, another root, and a plugin that is listed twice beside one that is nowhere to
be found. -/
def listed : Circumstances where
  disk := Disk.empty.set ["work", "server.toml"] (.file (movedDocument "[\"watch\", \"missing\", \"watch\"]").toUTF8 false)
  environment := []
  clock := 0
  bindFailures := []
  openFailures := []

/-- The same later, when no listener can be bound to the port or opened on it. -/
def refusing : Circumstances :=
  { listed with clock := 9, bindFailures := [(.ipv6, 7000), (.ipv4, 7000)], openFailures := [(.ipv6, 7000), (.ipv4, 7000)] }

/-- The server with a plugin moves to another port and another root. When it is told the same again, it stays there, although it could not
move there any more. -/
theorem reload_again_refusing : ∃ s h summary engine' s' h' summary' s'' h'',
    Reached (fun _ => True) (fun _ => True) .blank s h ∧
    ReloadEngine.reload {} s h (.file ⟨"server.toml"⟩) = (.ok summary, engine', s', h') ∧
    summary.listenersReplaced = true ∧ summary.storageReplaced = true ∧ summary.pluginFailures.length = 1 ∧
    engine'.reload s' (h'.under refusing) (.file ⟨"server.toml"⟩) = (.ok summary', ⟨engine'.generation + 1⟩, s'', h'') ∧
    Repeats summary s' h' refusing summary' s'' h'' := by
  have hrun : watchedStart.1.toOption.map (fun s =>
      let h := watchedStart.2.under listed
      let x := ReloadEngine.reload {} s h (.file ⟨"server.toml"⟩)
      (x.1.toOption.map fun summary => [summary.listenersReplaced, summary.storageReplaced, decide (summary.pluginFailures.length = 1)],
        decide (∀ a ∈ s.reloadAttempts h (.file ⟨"server.toml"⟩),
          ∀ b ∈ x.2.2.1.reloadAttempts (x.2.2.2.under refusing) (.file ⟨"server.toml"⟩), b.name = a.name → b.failure? = a.failure?))) =
      some (some [true, true, true], true) := by
    decide +kernel
  cases hs : watchedStart with
  | mk started h =>
    rw [hs] at hrun
    cases started with
    | error e => cases hrun
    | ok s =>
      have hr : Reached (fun _ => True) (fun _ => True) .blank s (h.under listed) :=
        .step (.start trivial hs) (.circumstances listed) trivial
      simp only [Except.toOption, Option.map_some, Option.some.injEq, Prod.mk.injEq] at hrun
      generalize hl : ReloadEngine.reload {} s (h.under listed) (.file ⟨"server.toml"⟩) = x at hrun
      cases x with
      | mk outcome y =>
        obtain ⟨engine', s', h'⟩ := y
        cases outcome with
        | error e => cases hrun.1
        | ok summary =>
          obtain ⟨hsummary, houtcomes⟩ := hrun
          simp only [Option.map_some, Option.some.injEq, List.cons.injEq, decide_eq_true_eq, and_true] at hsummary
          obtain ⟨hlisteners, hstorage, hfailures⟩ := hsummary
          obtain ⟨summary', s'', h'', hagain, hrepeats⟩ :=
            Reached.reload_again hr hl refusing rfl (fun _ _ => rfl) (of_decide_eq_true houtcomes) engine'
          exact ⟨s, _, summary, engine', s', h', summary', s'', h'', hr, hl, hlisteners, hstorage, hfailures, hagain, hrepeats⟩

end Server
end CoEdit
