import CoEdit.Proofs.Plugin.Observed
import CoEdit.Proofs.Server.Run

/-!
# The registry mirrors the directory

The server changes its directory and tells its registry, in this order when something appears and in the other when it goes away. A
reload makes a registry anew. `Server.Mirrors` says that the registry is sound and observes what is in the directory;
`Server.Reached.mirrors` says it of every run in which all that happens to the directory is reported.
-/

namespace CoEdit
namespace Server

/-- The registry is sound, and observes the connections and sessions of the directory. -/
structure Mirrors (s : Server) (h : Host) : Prop where
  sound : s.registry.Sound h
  connections : ∀ id, s.registry.connections.contains id = s.directory.connections.contains id
  sessions : ∀ id, s.registry.sessions.get? id = s.directory.sessions.get? id

variable {s : Server} {h h' : Host}

theorem Mirrors.mono (m : s.Mirrors h) (hh : h.nextPlugin ≤ h'.nextPlugin) : s.Mirrors h' :=
  ⟨⟨m.sound.keeps, fun i hi => Nat.lt_of_lt_of_le (m.sound.handedOut i hi) hh⟩, m.connections, m.sessions⟩

/-- A registry that is made for a directory is sound and observes what is in the directory. -/
theorem loadPlugins_mirrors (h : Host) (options : ServerOptions) (snapshot : Snapshot) (dir : Directory) :
    (loadPlugins {} h options snapshot dir).2.1.Sound (loadPlugins {} h options snapshot dir).2.2 ∧
      (∀ id, (loadPlugins {} h options snapshot dir).2.1.connections.contains id = dir.connections.contains id) ∧
      ∀ id, (loadPlugins {} h options snapshot dir).2.1.sessions.get? id = dir.sessions.get? id := by
  have ho := fun id => Registry.observes_loadAll {} h (options.source snapshot.config.plugins.path)
    snapshot.config.plugins.load snapshot.config.plugins.parametersFor dir id
  refine ⟨(Registry.sound_empty h).loadAll _ _ _ dir, fun id => (ho id).1.trans ?_, fun id => (ho id).2.trans ?_⟩
  · simp [Roster.contains, Roster.get?]
  · simp [Roster.get?]

/-- A context that is installed changes no number. -/
theorem contains_installContext (d : Directory) (context : Option AuthContext) (id : Nat) :
    (d.installContext context).connections.contains id = d.connections.contains id :=
  Roster.contains_map (fun c : Connection => c.install context) (fun c => c.install_id context) id d.connections

theorem contains_updateConnection (d : Directory) (id : Nat) {f : Connection → Connection} (hf : ∀ c, (f c).id = c.id)
    (n : Nat) : (d.updateConnection id f).connections.contains n = d.connections.contains n := by
  refine Roster.contains_map (fun c => if c.id = id then f c else c) ?_ n d.connections
  intro c
  split
  · exact hf c
  · rfl

/-- A server has the connections of the directory that it was started with. -/
theorem contains_start {c : Config} {dir : Directory} {options : ServerOptions} (hs : startWith c dir options h = (.ok s, h'))
    (id : Nat) : s.directory.connections.contains id = dir.connections.contains id := by
  obtain ⟨snapshot, h₁, bound, h₂, storage, opened, h₃, -, -, -, -, he⟩ := startWith_ok hs
  have hc : (assemble snapshot opened storage dir options h₃).2.1.directory.connections.contains id = dir.connections.contains id :=
    contains_installContext (dir.setStorage storage.storage storage.accounts) snapshot.context id
  rw [he] at hc
  exact hc

/-- The registry mirrors the directory from the start. -/
theorem mirrors_start {c : Config} {dir : Directory} {options : ServerOptions} (hs : startWith c dir options h = (.ok s, h')) :
    s.Mirrors h' := by
  obtain ⟨snapshot, h₁, bound, h₂, storage, opened, h₃, -, -, -, -, he⟩ := startWith_ok hs
  have hm : (assemble snapshot opened storage dir options h₃).2.1.Mirrors (assemble snapshot opened storage dir options h₃).2.2 := by
    obtain ⟨hr, hc, hx⟩ := loadPlugins_mirrors _ options snapshot _
    exact ⟨hr, hc, hx⟩
  rw [he] at hm
  exact hm

/-- The registry mirrors the directory after a reload. -/
theorem mirrors_commit (s : Server) (h : Host) (a : Acquisition) : (s.commit h a).2.1.Mirrors (s.commit h a).2.2 := by
  obtain ⟨hr, hc, hx⟩ := loadPlugins_mirrors _ s.options a.snapshot _
  exact ⟨hr, fun id => (hc id).trans (contains_installContext _ _ _).symm, hx⟩

/-- A connection that is refused changes nothing, and another one is reported. -/
theorem Mirrors.addConnection (m : s.Mirrors h) (c : Connection) :
    (s.addConnection h c).2.1.Mirrors (s.addConnection h c).2.2 := by
  cases hc : s.directory.connections.contains c.id with
  | true =>
    rw [addConnection_refused s h hc]
    exact m
  | false =>
    rw [addConnection_accepted s h hc]
    refine ⟨m.sound.connectionAdded _, ?_, ?_⟩
    · intro id
      dsimp only
      rw [Registry.contains_connectionAdded, m.connections, Roster.contains_insert]
      rfl
    · intro id
      dsimp only
      rw [Registry.sessions_connectionAdded, m.sessions]

theorem Mirrors.removeConnection (m : s.Mirrors h) (id : Nat) :
    (s.removeConnection h id).2.1.Mirrors (s.removeConnection h id).2.2 := by
  cases hc : s.directory.connection? id with
  | none =>
    rw [removeConnection_unknown s h hc]
    refine ⟨m.sound, ?_, m.sessions⟩
    intro n
    dsimp only
    rw [m.connections, Roster.contains_remove]
    by_cases hid : id = n
    · subst hid
      have hn : s.directory.connections.contains id = false := Option.isSome_eq_false_iff.2 (Option.isNone_iff_eq_none.2 hc)
      simp [hn]
    · simp [hid]
  | some c =>
    rw [removeConnection_known s h hc]
    refine ⟨m.sound.connectionRemoved _, ?_, ?_⟩
    · intro n
      obtain ⟨hid, -⟩ := Roster.get?_eq_some hc
      dsimp only
      rw [Registry.contains_connectionRemoved, m.connections, Roster.contains_remove, ← hid]
      rfl
    · intro n
      dsimp only
      rw [Registry.sessions_connectionRemoved, m.sessions]

theorem Mirrors.addSession (m : s.Mirrors h) (x : Session) : (s.addSession h x).2.1.Mirrors (s.addSession h x).2.2 := by
  cases hx : s.directory.sessions.contains x.id with
  | true =>
    rw [addSession_refused s h hx]
    exact m
  | false =>
    rw [addSession_accepted s h hx]
    refine ⟨m.sound.sessionAdded _, ?_, ?_⟩
    · intro id
      dsimp only
      rw [Registry.connections_sessionAdded, m.connections]
    · intro id
      dsimp only
      rw [Registry.get?_sessionAdded, m.sessions, Roster.get?_insert]
      by_cases hid : x.id = id
      · have hn : s.directory.sessions.get? id = none := by
          rw [← hid]
          simpa [Roster.contains] using hx
        simp [hid, hn, number]
      · simp [hid, number]

theorem Mirrors.removeSession (m : s.Mirrors h) (id : Nat) :
    (s.removeSession h id).2.1.Mirrors (s.removeSession h id).2.2 := by
  cases hx : s.directory.session? id with
  | none =>
    rw [removeSession_unknown s h hx]
    refine ⟨m.sound, m.connections, ?_⟩
    intro n
    dsimp only
    rw [m.sessions, Roster.get?_remove]
    split
    · rename_i hid
      exact hid ▸ hx
    · rfl
  | some x =>
    rw [removeSession_known s h hx]
    refine ⟨m.sound.sessionRemoved _, ?_, ?_⟩
    · intro n
      dsimp only
      rw [Registry.connections_sessionRemoved, m.connections]
    · intro n
      obtain ⟨hid, -⟩ := Roster.get?_eq_some hx
      dsimp only
      rw [Registry.get?_sessionRemoved, m.sessions, Roster.get?_remove, ← hid]
      rfl

/-- A connection of the directory that changes keeps its number. -/
theorem Mirrors.updateConnection (m : s.Mirrors h) (id : Nat) {f : Connection → Connection} (hf : ∀ c, (f c).id = c.id) :
    Mirrors { s with directory := s.directory.updateConnection id f } h := by
  refine ⟨m.sound, ?_, m.sessions⟩
  intro n
  exact (m.connections n).trans (contains_updateConnection s.directory id hf n).symm

/-- A server that is shut down observes what it did. -/
theorem Mirrors.shutdown (m : s.Mirrors h) : (s.shutdown h).1.Mirrors (s.shutdown h).2 := by
  have ho := s.registry.observesAs_unloadAll h
  have hr := m.sound.unloadAll
  refine ⟨⟨hr.keeps, hr.handedOut⟩, ?_, ?_⟩
  · intro id
    exact (congrArg (Roster.contains id) ho.1).trans (m.connections id)
  · intro id
    exact (congrArg (Roster.get? id) ho.2).trans (m.sessions id)

theorem Mirrors.reload (m : s.Mirrors h) (engine : ReloadEngine) (source : ConfigSource) :
    (engine.reload s h source).2.2.1.Mirrors (engine.reload s h source).2.2.2 := by
  rcases reload_cases engine s h source with ⟨a, h₁, -, he⟩ | ⟨r, h₁, entry, hac, he⟩
  · rw [he]
    exact mirrors_commit s h₁ a
  · obtain ⟨hc, -, -⟩ := acquire_holds hac
    rw [he]
    exact m.mono (Nat.le_of_eq hc.nextPlugin.symm)

/-- The registry mirrors the directory through every action that is reported. -/
theorem Mirrors.perform (m : s.Mirrors h) {a : ServerAction} (ha : a.IsReported) :
    (s.perform h a).1.Mirrors (s.perform h a).2 := by
  cases a with
  | reload engine source => exact m.reload engine source
  | addConnection c => exact m.addConnection c
  | removeConnection id => exact m.removeConnection id
  | addSession x => exact m.addSession x
  | removeSession id => exact m.removeSession id
  | beginAuthentication id => exact m.updateConnection id Connection.beginAuthentication_id
  | completeAuthentication id password => exact m.updateConnection id fun c => c.completeAuthentication_id password
  | editDirectory f => exact ha.elim
  | shutdown => exact m.shutdown
  | circumstances w => exact m.mono (Nat.le_refl _)

/-- Along a run in which all that happens to the directory is reported, the registry observes exactly the connections and sessions of
the directory. It has a state for exactly the pairs of a plugin and a connection, and for exactly the pairs of a plugin and a session
of a kind that the plugin asks for. Adding what is there already changes nothing. -/
theorem Reached.mirrors {admitted : Config → Prop} {h₀ : Host} (hr : Reached admitted ServerAction.IsReported h₀ s h) :
    (∀ id, s.registry.connections.contains id = s.directory.connections.contains id) ∧
    (∀ id, s.registry.sessions.get? id = s.directory.sessions.get? id) ∧
    (∀ p id, (s.registry.connectionState? p id).isSome ↔
      (∃ i ∈ s.registry.instances, i.number = p) ∧ s.directory.connections.contains id = true) ∧
    (∀ p id, (s.registry.sessionState? p id).isSome ↔
      ∃ x, s.directory.session? id = some x ∧ ∃ i ∈ s.registry.instances, i.number = p ∧
        (i.descriptor.sessionType = none ∨
          ∃ name k, i.descriptor.sessionType = some name ∧ x.kind.DerivesFrom k ∧ k.name = name)) ∧
    (∀ c : Connection, s.directory.connections.contains c.id = true →
      s.addConnection h c = (.error (.connectionExists c.id), s, h)) ∧
    ∀ x : Session, s.directory.sessions.contains x.id = true → s.addSession h x = (.error (.sessionExists x.id), s, h) := by
  have m : s.Mirrors h := by
    induction hr with
    | start _ hs => exact mirrors_start hs
    | step _ a ha ih => exact ih.perform ha
  refine ⟨m.connections, m.sessions, ?_, ?_, fun c => addConnection_refused s h,
    fun x => addSession_refused s h⟩
  · intro p id
    rw [m.sound.keeps.connection, m.connections]
  · intro p id
    simp only [m.sound.keeps.session, m.sessions, PluginDescriptor.accepts_iff, Directory.session?]

/-- A start with a plugin for sessions on texts, another plugin that is nowhere to be found, and a connection. -/
def watchedStart : Except Refusal Server × Host :=
  startWith { Config.plain with plugins := { load := ["watch", "missing"] } }
    { storage := ⟨⟨"documents"⟩⟩, connections := [{ id := 1, peer := { ip := .any .ipv4, port := 9 } }] }
    { modules := .builtin [("watch",
      { name := "watch", description := "", sessionType := some "text"
        plugin := { start := fun around _ _ => (.ok {}, around.silence) } })] }
    .blank

/-- The document of a configuration with another port, another root, and a list of plugins to be loaded. -/
def movedDocument (plugins : String) : String :=
  "server.port = 7000\nstorage.root-directory = \"archive\"\nsecurity.policy = \"no-tls\"\nplugins.load = " ++ plugins

/-- The plugin has a state for the connection that was there first and for a session on a page, and none for another session. -/
theorem mirrors_watched : ∃ s h, Reached (fun _ => True) ServerAction.IsReported .blank s h ∧ s.registry.active = ["watch"] ∧
    (s.registry.connectionState? 1 1).isSome ∧ (s.registry.sessionState? 1 5).isSome ∧
    ¬(s.registry.sessionState? 1 6).isSome ∧ ∀ id, s.registry.sessions.get? id = s.directory.sessions.get? id := by
  let actions : List ServerAction :=
    [.addSession { id := 5, path := "a", kind := .derived "page" (.derived "text" (.root "document")) },
      .addSession { id := 6, path := "b", kind := .root "document" }]
  have hrun : watchedStart.1.toOption.map (fun s =>
      let r := (s.performAll watchedStart.2 actions).1.registry
      (r.active, (r.connectionState? 1 1).isSome, (r.sessionState? 1 5).isSome, (r.sessionState? 1 6).isSome)) =
      some (["watch"], true, true, false) := by
    decide +kernel
  cases hs : watchedStart with
  | mk started h =>
    rw [hs] at hrun
    cases started with
    | error e => cases hrun
    | ok s =>
      simp only [Except.toOption, Option.map_some, Option.some.injEq, Prod.mk.injEq] at hrun
      have hr : Reached (fun _ => True) ServerAction.IsReported .blank s h := .start trivial hs
      have hr' := hr.performAll actions (by simp [actions, ServerAction.IsReported])
      exact ⟨_, _, hr', hrun.1, hrun.2.1, hrun.2.2.1, by simp [hrun.2.2.2], (Reached.mirrors hr').2.1⟩

end Server
end CoEdit
