import CoEdit.Proofs.Plugin.Outcomes
import CoEdit.Proofs.Plugin.Tenure
import CoEdit.Proofs.Server.Agreement
import CoEdit.Proofs.Server.Handover
import CoEdit.Proofs.Server.Replacement

/-!
# Strict starts

A strict start goes all the way to a server that is ready, as any other start does, and asks only then whether a plugin failed. If none
did, the server is the one there would be anyway. Otherwise it is withdrawn: the plugins that run leave and the listeners are closed
(`Server.Withdrawn`), and the start is refused for the first plugin that failed (`Server.startWith_strict`).
-/

namespace CoEdit

/-- Whether a connection or session is in a directory. -/
def Directory.has (d : Directory) : Subject → Bool
  | .connection id => d.connections.contains id
  | .session id => d.sessions.contains id

namespace Server

variable {c : Config} {dir : Directory} {options : ServerOptions} {report : LoadReport} {s : Server} {h h₀ h' : Host}

/-- The plugins of a server are those that attempts loaded, one attempt for each that the configuration asks for, in order. -/
structure Attempted (s : Server) (c : Config) (attempts : List LoadAttempt) : Prop where
  names : attempts.map (·.name) = c.plugins.load.eraseDups
  batch : ∃ g, attempts =
    Registry.attempts {} g (s.options.source c.plugins.path) c.plugins.load c.plugins.parametersFor s.directory
  instances : s.registry.instances = LoadAttempt.instances attempts

/-- A server that was made ready on the way from `h₀` to `h` is gone on `h'`. -/
structure Withdrawn (s : Server) (dir : Directory) (h₀ h h' : Host) : Prop where
  plugins : s.registry.Tenure h₀ h h'
  /-- What the plugins were told of is what was in the directory. -/
  observes : ∀ u, s.registry.observes u = dir.has u
  /-- Listeners that were made since `h₀` and were bound or open on `h` are closed. -/
  closed : ∀ i st, h₀.network.listeners.length ≤ i → h.network.state? i = some st → st.isBound = true ∨ st.isOpen = true →
    h'.network.IsClosed i
  /-- None that was made since is bound or open. -/
  idle : ∀ i, h₀.network.listeners.length ≤ i → h'.network.Idle i
  /-- Nothing became of those that were made before. -/
  earlier : ∀ i, i < h₀.network.listeners.length → h'.network.state? i = h₀.network.state? i

/-! ## Making ready -/

/-- Whether a start is strict makes no difference to the server that is made ready. -/
theorem establish_strict (c : Config) (dir : Directory) (options : ServerOptions) (strict : Bool) (h : Host) :
    establish c dir { options with strict } h =
      ((establish c dir options h).1.map fun x => (x.1, { x.2 with options := { options with strict } }),
        (establish c dir options h).2) := by
  unfold establish
  generalize Snapshot.prepare c none h = x
  obtain ⟨_ | snapshot, h₁⟩ := x
  · rfl
  dsimp only
  generalize bindListeners h₁ snapshot.listenAddress snapshot.port = x
  obtain ⟨_ | bound, h₂⟩ := x
  · rfl
  dsimp only
  generalize attachStorage h₂.disk snapshot.storageRoot = x
  cases x with
  | error e => rfl
  | ok storage =>
    dsimp only
    generalize openListeners h₂ bound = x
    obtain ⟨_ | opened, h₃⟩ := x <;> rfl

/-- The plugins of a server that is ready are those of a batch, before which nobody was called. They are told of what was in the
directory. -/
theorem plugins_of_establish (he : establish c dir options h₀ = (.ok (report, s), h)) : ∃ g, (∀ n, g.callsOf n = h₀.callsOf n) ∧
    Registry.loadAll {} g (s.options.source c.plugins.path) c.plugins.load c.plugins.parametersFor s.directory =
      (report, s.registry, h) ∧ ∀ u, s.directory.has u = dir.has u := by
  obtain ⟨snapshot, opened, storage, g₁, hcalm, rfl, -, -, hx⟩ := establish_parts he
  obtain ⟨hstorage, -⟩ := installStorage_succeeds dir { g₁ with nextEndpoint := g₁.nextEndpoint + opened.length } storage
  unfold assemble at hx
  dsimp only at hx
  rw [Pool.host_addListeners] at hx
  cases hx
  refine ⟨_, fun n => (hstorage.callsOf n).trans (hcalm.callsOf n), rfl, ?_⟩
  intro u
  cases u with
  | connection id => exact contains_installContext (dir.setStorage storage.storage storage.accounts) _ id
  | session id => rfl

/-- The attempts to load plugins that a start makes. -/
theorem attempted_of_establish (he : establish c dir options h₀ = (.ok (report, s), h)) :
    ∃ attempts, s.Attempted c attempts ∧ report.failures = LoadAttempt.failures attempts := by
  obtain ⟨g, -, hload, -⟩ := plugins_of_establish he
  have hreport := Registry.report_loadAll {} g (s.options.source c.plugins.path) c.plugins.load c.plugins.parametersFor s.directory
  have hinstances :=
    Registry.instances_loadAll {} g (s.options.source c.plugins.path) c.plugins.load c.plugins.parametersFor s.directory
  rw [hload] at hreport hinstances
  refine ⟨_, ⟨(Registry.names_attempts _ _ _ _ _ _).trans ?_, ⟨g, rfl⟩, hinstances⟩,
    congrArg LoadReport.failures hreport⟩
  rw [Registry.missing, List.filter_eq_self.2 (by simp [Registry.active])]

namespace Attempted

variable {attempts : List LoadAttempt} (a : s.Attempted c attempts)

include a

theorem active_eq : s.registry.active = LoadAttempt.loadedNames attempts := by
  rw [Registry.active, a.instances, LoadAttempt.names_instances]

theorem distinct : (attempts.map (·.name)).Nodup := by
  rw [a.names]
  exact nodup_eraseDups _

/-- No plugin failed if and only if all that were asked for run. -/
theorem failures_eq_nil_iff :
    LoadAttempt.failures attempts = [] ↔ ∀ name ∈ c.plugins.load, name ∈ s.registry.active := by
  rw [LoadAttempt.failures_eq_nil_iff a.distinct, a.active_eq, a.names]
  simp only [List.mem_eraseDups]

/-- The first failure is that of the first plugin that was asked for and does not run. -/
theorem find?_load {e : LoadError} {rest : List LoadError} (hf : LoadAttempt.failures attempts = e :: rest) :
    c.plugins.load.find? (fun name => name ∉ s.registry.active) = some e.plugin := by
  rw [← find?_eraseDups, ← a.names, a.active_eq]
  exact LoadAttempt.find?_names a.distinct hf

end Attempted

/-! ## Withdrawing -/

/-- There is nothing to let go of when a server was shut down. -/
theorem release_shutdown (s : Server) (h : Host) : (s.shutdown h).1.release (s.shutdown h).2 = (s.shutdown h).2 :=
  Registry.release_unloadAll _ _ _

/-- Listeners that are bound or open are closed when the server that tends them is shut down. -/
theorem Tends.isClosed_shutdown {n₀ : Network} (t : s.Tends n₀ h) {i : Nat} {st : ListenerState} (hi : n₀.listeners.length ≤ i)
    (hst : h.network.state? i = some st) (hheld : st.isBound = true ∨ st.isOpen = true) :
    (s.shutdown h).2.network.IsClosed i := by
  have hnetwork : (s.shutdown h).2.network = s.pool.closeAll h.network :=
    congrArg s.pool.closeAll (s.registry.attends_unloadAll h).network
  have hmem : i ∈ s.pool.listeners.map (·.number) := by
    refine Decidable.byContradiction fun hn => ?_
    obtain ⟨hbound, hopen⟩ := t.holds.idle i hi hn st hst
    simp [hbound, hopen] at hheld
  rw [Pool.listeners, List.map_map] at hmem
  obtain ⟨e, he, rfl⟩ := List.mem_map.1 hmem
  rw [hnetwork]
  refine Network.isClosed_closeAll (fun x hx => ?_) e he
  obtain ⟨st, hst, -⟩ := t.holds.bound _ (Pool.mem_listeners s.pool hx)
  exact ⟨st, hst⟩

/-- A server that is ready is shut down and let go of. -/
theorem withdrawn_of_establish (he : establish c dir options h₀ = (.ok (report, s), h)) :
    s.Withdrawn dir h₀ h ((s.shutdown h).1.release (s.shutdown h).2) := by
  rw [release_shutdown]
  obtain ⟨g, hcalls, hload, hdir⟩ := plugins_of_establish he
  have ht := Registry.tenure_loadAll hcalls (s.options.source c.plugins.path) c.plugins.load c.plugins.parametersFor s.directory
  have ho := Registry.observes_loadAll {} g (s.options.source c.plugins.path) c.plugins.load c.plugins.parametersFor s.directory
  rw [hload] at ht ho
  have t := tends_establish he
  have hgone := t.shutdown.holds
  refine ⟨⟨ht.leaving, ht.stays, ht.others⟩, ?_, fun i st hi hst hheld => t.isClosed_shutdown hi hst hheld,
    fun i hi => hgone.idle i hi List.not_mem_nil, hgone.earlier⟩
  intro u
  rw [← hdir]
  cases u with
  | connection id => exact (ho id).1.trans (Bool.false_or _)
  | session id => exact congrArg Option.isSome ((ho id).2.trans Option.none_or)

/-! ## Starting -/

section
variable (he : establish c dir { options with strict := false } h₀ = (.ok (report, s), h))

include he

/-- A strict start makes the server that was made ready if no plugin failed. -/
theorem strict_of_complete (hf : report.failures = []) : startWith c dir { options with strict := true } h₀ =
    (.ok { s with options := { options with strict := true } }, h) := by
  have hready := establish_strict c dir { options with strict := false } true h₀
  rw [he] at hready
  rw [startWith_eq, hready]
  simp only [Except.map, hf]

/-- A strict start is refused for the first plugin that failed, and the server that was made ready is withdrawn. -/
theorem strict_of_failed {e : LoadError} {rest : List LoadError} (hf : report.failures = e :: rest) : ∃ h',
    startWith c dir { options with strict := true } h₀ = (.error (.plugin e), h') ∧ s.Withdrawn dir h₀ h h' := by
  have hready := establish_strict c dir { options with strict := false } true h₀
  rw [he] at hready
  refine ⟨_, ?_, withdrawn_of_establish he⟩
  rw [startWith_eq, hready]
  simp only [Except.map, hf]
  rfl

end

/-- A strict start succeeds if and only if a start that is not strict does and all plugins that were asked for run then, and both
make the same server on the same host. Where the start that is not strict is refused, the strict one is refused for the same reason.
Where a plugin failed, the strict start is refused for the first that did, in the order in which they were asked for, and the server
that was made ready is withdrawn. -/
theorem startWith_strict (c : Config) (dir : Directory) (options : ServerOptions) (h₀ : Host) :
    ((∃ s, (startWith c dir { options with strict := true } h₀).1 = .ok s) ↔
      ∃ s, (startWith c dir { options with strict := false } h₀).1 = .ok s ∧ ∀ name ∈ c.plugins.load, name ∈ s.registry.active) ∧
    (∀ s h, startWith c dir { options with strict := true } h₀ = (.ok s, h) →
      startWith c dir { options with strict := false } h₀ = (.ok { s with options := { options with strict := false } }, h)) ∧
    (∀ e h, startWith c dir { options with strict := false } h₀ = (.error e, h) →
      startWith c dir { options with strict := true } h₀ = (.error e, h)) ∧
    ∀ s h, startWith c dir { options with strict := false } h₀ = (.ok s, h) → (∃ name ∈ c.plugins.load, name ∉ s.registry.active) →
      ∃ attempts e rest h', s.Attempted c attempts ∧ LoadAttempt.failures attempts = e :: rest ∧
        c.plugins.load.find? (fun name => name ∉ s.registry.active) = some e.plugin ∧
        startWith c dir { options with strict := true } h₀ = (.error (.plugin e), h') ∧ s.Withdrawn dir h₀ h h' := by
  cases he : establish c dir { options with strict := false } h₀ with
  | mk r h =>
    cases r with
    | error e =>
      have hready := establish_strict c dir { options with strict := false } true h₀
      rw [he] at hready
      have hlenient : startWith c dir { options with strict := false } h₀ = (.error e, h) := by rw [startWith_eq, he]
      have hstrict : startWith c dir { options with strict := true } h₀ = (.error e, h) := by rw [startWith_eq, hready]; rfl
      rw [hlenient, hstrict]
      simp
    | ok x =>
      obtain ⟨report, s⟩ := x
      have hlenient := startWith_of_establish he
      have hoptions := options_of_startWith hlenient
      obtain ⟨attempts, hattempted, hfailures⟩ := attempted_of_establish he
      have hall := hattempted.failures_eq_nil_iff
      rw [hlenient]
      cases hf : LoadAttempt.failures attempts with
      | nil =>
        rw [strict_of_complete he (hfailures.trans hf)]
        refine ⟨⟨fun _ => ⟨s, rfl, hall.1 hf⟩, fun _ => ⟨_, rfl⟩⟩, ?_, ?_, ?_⟩
        · rintro s' h' ⟨⟩
          rw [← hoptions]
        · intro e' h' hs
          cases hs
        · rintro s' h' ⟨⟩ ⟨name, hname, hnot⟩
          exact absurd (hall.1 hf name hname) hnot
      | cons e rest =>
        obtain ⟨gone, hstrict, hgone⟩ := strict_of_failed he (hfailures.trans hf)
        rw [hstrict]
        refine ⟨⟨?_, ?_⟩, ?_, ?_, ?_⟩
        · rintro ⟨_, hs⟩
          cases hs
        · rintro ⟨s', ⟨⟩, hrun⟩
          rw [hall.2 hrun] at hf
          cases hf
        · intro s' h' hs
          cases hs
        · intro e' h' hs
          cases hs
        · rintro s' h' ⟨⟩ -
          exact ⟨attempts, e, rest, gone, hattempted, hf, hattempted.find?_load hf, rfl, hgone⟩

/-- Two plugins that listen to what they are told. -/
def listening : ServerOptions where
  modules := .builtin <| ["first", "second"].map fun name =>
    (name, { name, description := "", plugin := { start := fun around _ _ => (.ok {}, around.silence) } })

/-- A configuration that asks for both, and for two more that are nowhere to be found. -/
def demanding : Config := { Config.plain with plugins := { load := ["first", "missing", "second", "gone", "missing"] } }

/-- A directory with a connection and a session. -/
def occupied : Directory where
  storage := ⟨⟨"documents"⟩⟩
  connections := [{ id := 1, peer := { ip := .any .ipv4, port := 9 } }]
  sessions := [{ id := 5, path := "a", kind := .root "text" }]

/-- A start that asks for too much, strict or not. -/
def demandingStart (strict : Bool) : Except Refusal Server × Host :=
  startWith demanding occupied { listening with strict } .blank

/-- The strict start is refused for the plugin that is missing first. Both plugins that were started see the connection and the session
go away and are stopped, the second before the first, and no listener is open any more. -/
theorem startWith_strict_demanding : ∃ s h e h',
    demandingStart false = (.ok s, h) ∧ s.registry.active = ["first", "second"] ∧
    demandingStart true = (.error (.plugin e), h') ∧ e.plugin = "missing" ∧
    s.Withdrawn occupied .blank h h' ∧ h.network.openCount = 2 ∧ h'.network.openCount = 0 ∧
    h'.cues = [(1, .started), (2, .started), (1, .entered (.connection 1)), (2, .entered (.connection 1)),
      (1, .entered (.session 5)), (2, .entered (.session 5)),
      (2, .departed (.connection 1)), (2, .departed (.session 5)), (2, .stopped),
      (1, .departed (.connection 1)), (1, .departed (.session 5)), (1, .stopped)] := by
  have hlenient : ((demandingStart false).1.toOption.map fun s => s.registry.active) = some ["first", "second"] ∧
      (demandingStart false).2.network.openCount = 2 := by
    decide +kernel
  have hstrict : (demandingStart true).2.network.openCount = 0 ∧ (demandingStart true).2.cues =
      [(1, .started), (2, .started), (1, .entered (.connection 1)), (2, .entered (.connection 1)),
        (1, .entered (.session 5)), (2, .entered (.session 5)),
        (2, .departed (.connection 1)), (2, .departed (.session 5)), (2, .stopped),
        (1, .departed (.connection 1)), (1, .departed (.session 5)), (1, .stopped)] := by
    decide +kernel
  cases hs : demandingStart false with
  | mk started h =>
    rw [hs] at hlenient
    cases started with
    | error e => cases hlenient.1
    | ok s =>
      obtain ⟨hactive, hopen⟩ := hlenient
      have hactive : s.registry.active = ["first", "second"] := Option.some.inj hactive
      have hmissing : ∃ name ∈ demanding.plugins.load, name ∉ s.registry.active :=
        ⟨"missing", by decide, by rw [hactive]; decide⟩
      obtain ⟨attempts, e, rest, h', -, -, hfirst, hrefused, hgone⟩ :=
        (startWith_strict demanding occupied listening .blank).2.2.2 s h hs hmissing
      rw [← demandingStart] at hrefused
      rw [hrefused] at hstrict
      rw [hactive] at hfirst
      exact ⟨s, h, e, h', rfl, hactive, hrefused, (Option.some.inj hfirst).symm, hgone, hopen, hstrict⟩

end Server
end CoEdit
