import CoEdit.Proofs.Plugin.Succession
import CoEdit.Proofs.Server.Agreement

/-!
# Plugins and documents stay in step

The plugins of a server were started with the documents that its directory works on (`Server.InStep`). A reload replaces both, and does so
in an order that never lets a plugin run on other documents than its own: the old plugins leave, then the root of the new documents is
made and the directory works on them, then the new plugins are made (`Server.Handover`).
-/

namespace CoEdit

open Host Occurrence

namespace Host

variable {h h' : Host}

/-- Where only entries were logged nobody was called. -/
theorem Calm.cues (c : h.Calm h') : h'.cues = h.cues := by
  obtain ⟨es, hes⟩ := c.logged
  have hnil : (es.map fun e => Occurrence.said (.log e)).filterMap Occurrence.cue? = [] := by
    simp [List.filterMap_map, Function.comp_def, Occurrence.cue?]
  rw [Host.cues, hes, List.filterMap_append, hnil, List.append_nil]
  rfl

theorem Calm.callsOf (c : h.Calm h') (n : Nat) : h'.callsOf n = h.callsOf n := by
  obtain ⟨es, hes⟩ := c.logged
  have hnil : (es.map fun e => Occurrence.said (.log e)).filterMap (Occurrence.callOf? n) = [] := by
    simp [List.filterMap_map, Function.comp_def, Occurrence.callOf?]
  rw [Host.callsOf, hes, List.filterMap_append, hnil, List.append_nil]
  rfl

end Host

/-! ## Documents -/

/-- What becomes of the documents in a reload. If they are replaced, the root of the new ones is made on the disk, and the directory works
on them then; otherwise nothing happens. -/
def DocumentStore.Succeeds (new old : DocumentStore) (replaced : Bool) (h h' : Host) : Prop :=
  if replaced then
    h'.disk = (new.ensureRoot h.disk).2 ∧ ∃ warnings : List LogEntry,
      h'.trace = h.trace ++ .rootEnsured new.root :: (warnings.map fun e => .said (.log e)) ++ [.storageInstalled new.root]
  else new = old ∧ h' = h

theorem installStorage_succeeds (dir : Directory) (h : Host) (x : AttachedStorage) :
    (installStorage dir h x).1.storage.Succeeds dir.storage true h (installStorage dir h x).2 ∧
      (installStorage dir h x).2.nextPlugin = h.nextPlugin := by
  have hstorage : (installStorage dir h x).1.storage = x.storage := rfl
  rw [hstorage, DocumentStore.Succeeds, if_pos rfl]
  unfold installStorage
  generalize x.storage.ensureRoot h.disk = made
  obtain ⟨_ | _, disk⟩ := made
  · exact ⟨⟨rfl, [_], by simp [Host.log, Host.note]; rfl⟩, rfl⟩
  · exact ⟨⟨rfl, [], by simp [Host.note]⟩, rfl⟩

namespace Server

theorem renewStorage_succeeds (dir : Directory) (h : Host) (a : Acquisition) :
    (renewStorage dir h a).1.storage.Succeeds dir.storage a.storage.isSome h (renewStorage dir h a).2 ∧
      (renewStorage dir h a).2.nextPlugin = h.nextPlugin := by
  unfold renewStorage
  cases a.storage with
  | none => exact ⟨⟨rfl, rfl⟩, rfl⟩
  | some x => exact installStorage_succeeds dir h x

end Server

/-- Nobody is made or called while the documents are replaced. -/
theorem DocumentStore.Succeeds.quiet {new old : DocumentStore} {replaced : Bool} {h h' : Host} (d : new.Succeeds old replaced h h') :
    ∃ os, h'.trace = h.trace ++ os ∧ (∀ o ∈ os, o.cue? = none) ∧ ∀ n p, .created n p ∉ os := by
  unfold DocumentStore.Succeeds at d
  split at d
  · obtain ⟨-, warnings, ht⟩ := d
    refine ⟨_, by rw [ht, List.append_assoc], ?_, ?_⟩
    · intro o ho
      simp only [List.cons_append, List.mem_cons, List.mem_append, List.mem_map, List.not_mem_nil, or_false] at ho
      rcases ho with rfl | ⟨e, -, rfl⟩ | rfl <;> rfl
    · intro n p hm
      simp at hm
  · obtain ⟨-, rfl⟩ := d
    exact ⟨[], by simp, by simp, by simp⟩

theorem Occurrence.callOf?_of_cue? {o : Occurrence} (ho : o.cue? = none) (n : Nat) : o.callOf? n = none := by
  cases o with
  | called m p c => cases ho
  | _ => rfl

theorem DocumentStore.Succeeds.callsOf {new old : DocumentStore} {replaced : Bool} {h h' : Host}
    (d : new.Succeeds old replaced h h') (n : Nat) : h'.callsOf n = h.callsOf n := by
  obtain ⟨os, ht, hos, -⟩ := d.quiet
  exact GoesOn.callsOf ⟨os, ht, hos⟩ fun o ho => callOf?_of_cue? ho n

namespace Server

variable {s s' : Server} {h₀ h h' : Host}

/-! ## Reloads -/

/-- A reload from one server and host to another, by way of three hosts: one on which all was acquired, one that the old plugins have
left, and one on which the new documents are installed. -/
structure Handover (s : Server) (h h₁ h₂ h₃ : Host) (replaced : Bool) (s' : Server) (h' : Host) : Prop where
  /-- Nothing but entries of the log comes before the old plugins leave. -/
  acquired : h.Continues (fun o => ∃ e, o = .said (.log e)) h₁ ∧ h₁.disk = h.disk
  left : h₂ = (s.registry.unloadAll h₁).2
  /-- They are told that things go away and are stopped, and nobody else is called. -/
  farewells : h₁.Continues (IsFarewell s.registry.numbers) h₂
  /-- Every one of them is told that all goes away that is observed, and is stopped. -/
  complete : h₂.cues = h.cues ++ s.registry.numbers.reverse.flatMap s.registry.farewell
  /-- Then the documents are replaced, if they are. -/
  documents : s'.directory.storage.Succeeds s.directory.storage replaced h₂ h₃
  root : replaced = true → s'.directory.storage.root = s'.snapshot.storageRoot
  /-- After that nothing happens to the documents, and plugins with new numbers are made and called. -/
  welcomes : h₃.GoesOn (IsWelcome h.nextPlugin) h'
  numbers : (∀ n ∈ s.registry.numbers, n < h.nextPlugin) ∧ ∀ n ∈ s'.registry.numbers, h.nextPlugin ≤ n
  /-- No old plugin is called after it left. -/
  old : ∀ n ∈ s.registry.numbers, h'.callsOf n = h₂.callsOf n
  /-- No new plugin is made or called before the new documents are installed. -/
  new : ∀ n, h.nextPlugin ≤ n → h₃.callsOf n = h.callsOf n ∧ ∀ p, .created n p ∈ h₃.trace → .created n p ∈ h.trace

/-- Endpoints that are renewed leave no trace. -/
theorem renewPool_trace (s : Server) (h : Host) (a : Acquisition) :
    (s.renewPool h a).2.trace = h.trace ∧ (s.renewPool h a).2.disk = h.disk ∧ (s.renewPool h a).2.nextPlugin = h.nextPlugin := by
  unfold renewPool
  split
  · exact ⟨rfl, rfl, rfl⟩
  · rw [Pool.host_addListeners]
    exact ⟨rfl, rfl, rfl⟩

section
variable (s : Server) (h : Host) (a : Acquisition)

/-- The host that the old plugins have left. -/
def vacated : Host := (s.registry.unloadAll (s.renewPool h a).2).2

/-- The directory and the host once the documents were replaced. -/
def refurnished : Directory × Host := renewStorage s.directory (s.vacated h a) a

/-- What is taken over, with the plugins that are loaded last. -/
theorem commit_eq : (s.commit h a).2 =
    ({ s with
        snapshot := a.snapshot
        pool := (s.renewPool h a).1.withContext a.snapshot.context
        registry := (loadPlugins {} (s.refurnished h a).2 s.options a.snapshot (s.refurnished h a).1).2.1
        directory := (s.refurnished h a).1.installContext a.snapshot.context },
      (loadPlugins {} (s.refurnished h a).2 s.options a.snapshot (s.refurnished h a).1).2.2) := by
  unfold commit
  dsimp only
  rw [Registry.release_unloadAll]
  rfl

theorem refurnished_succeeds : (s.refurnished h a).1.storage.Succeeds s.directory.storage a.storage.isSome (s.vacated h a)
    (s.refurnished h a).2 := (renewStorage_succeeds s.directory (s.vacated h a) a).1

theorem nextPlugin_refurnished : (s.refurnished h a).2.nextPlugin = h.nextPlugin :=
  (renewStorage_succeeds s.directory (s.vacated h a) a).2.trans
    ((s.registry.nextPlugin_unloadAll _).trans (s.renewPool_trace h a).2.2)

/-- Nobody but the old plugins is called before the new ones are loaded. -/
theorem callsOf_refurnished {n : Nat} (hn : n ∉ s.registry.numbers) : (s.refurnished h a).2.callsOf n = h.callsOf n := by
  have hpool : (s.renewPool h a).2.callsOf n = h.callsOf n := congrArg (List.filterMap _) (s.renewPool_trace h a).1
  have hleft : (s.vacated h a).callsOf n = h.callsOf n := (s.registry.callsOf_unloadAll _ hn).trans hpool
  exact ((s.refurnished_succeeds h a).callsOf n).trans hleft

/-- Nobody is made before that either. -/
theorem created_refurnished {n : Nat} {p : String} (hp : .created n p ∈ (s.refurnished h a).2.trace) : .created n p ∈ h.trace := by
  obtain ⟨os, hos, -, hcreated⟩ := (s.refurnished_succeeds h a).quiet
  obtain ⟨ls, hls, hleft⟩ := (s.registry.farewell_unloadAll (s.renewPool h a).2).trace
  rw [hos, vacated, hls, (s.renewPool_trace h a).1, List.mem_append, List.mem_append] at hp
  rcases hp with (hp | hp) | hp
  · exact hp
  · exact (hleft _ hp).elim
  · exact absurd hp (hcreated n p)

end

/-- What was acquired is taken over in order. -/
theorem handover_commit (hc : h.Calm h') (k : s.registry.Keeps s.registry.instances)
    (hrun : ∀ i ∈ s.registry.instances, i.isStopped = false) (hnew : ∀ n ∈ s.registry.numbers, n < h.nextPlugin)
    {a : Acquisition} (ha : s.Fits a) : ∃ h₁ h₂ h₃,
      s.Handover h h₁ h₂ h₃ a.storage.isSome (s.commit h' a).2.1 (s.commit h' a).2.2 := by
  obtain ⟨htrace, hdisk, hnext⟩ := s.renewPool_trace h' a
  have hnext₁ : (s.renewPool h' a).2.nextPlugin = h.nextPlugin := hnext.trans hc.nextPlugin
  have hdocuments := s.refurnished_succeeds h' a
  have hload := Registry.welcome_loadAll (s.refurnished h' a).2 (s.options.source a.snapshot.config.plugins.path)
    a.snapshot.config.plugins.load a.snapshot.config.plugins.parametersFor (s.refurnished h' a).1
  rw [s.nextPlugin_refurnished h' a, hc.nextPlugin] at hload
  have hfarewells := s.registry.farewell_unloadAll (s.renewPool h' a).2
  have hcues₁ : (s.renewPool h' a).2.cues = h.cues := by
    rw [Host.cues, htrace]
    exact hc.cues
  refine ⟨(s.renewPool h' a).2, s.vacated h' a, (s.refurnished h' a).2, ?_⟩
  rw [commit_eq]
  refine ⟨⟨⟨hnext₁, ?_⟩, hdisk.trans hc.disk⟩, rfl, hfarewells, ?_, hdocuments, ?_, hload.1, ⟨hnew, ?_⟩, ?_, ?_⟩
  · obtain ⟨es, hes⟩ := hc.logged
    refine ⟨_, htrace.trans hes, ?_⟩
    intro o ho
    obtain ⟨e, -, rfl⟩ := List.mem_map.1 ho
    exact ⟨e, rfl⟩
  · exact (Registry.cues_unloadAll k hrun).trans (congrArg (· ++ _) hcues₁)
  · intro hreplaced
    obtain ⟨x, hx⟩ := Option.isSome_iff_exists.1 hreplaced
    have hst := ha.storage
    rw [hx] at hst
    obtain ⟨disk, hst⟩ := hst
    have hd : (s.refurnished h' a).1.storage = x.storage := by
      rw [refurnished, renewStorage, hx]
      rfl
    exact (congrArg DocumentStore.root hd).trans (attachStorage_ok hst).1
  · intro n hn
    obtain ⟨i, hi, rfl⟩ := List.mem_map.1 hn
    exact hload.2 i hi
  · intro n hn
    exact (hload.1.callsOf_of_lt (hnew n hn)).trans (hdocuments.callsOf n)
  · intro n hn
    have hno : n ∉ s.registry.numbers := fun hm => absurd (hnew n hm) (Nat.not_lt.2 hn)
    refine ⟨(s.callsOf_refurnished h' a hno).trans (hc.callsOf n), ?_⟩
    intro p hp
    obtain ⟨es, hes⟩ := hc.logged
    have hp := s.created_refurnished h' a hp
    rw [hes, List.mem_append] at hp
    exact hp.resolve_right (by simp)

/-! ## Runs -/

/-- The plugins were started with the documents that the directory works on, on a host that the run began on. -/
def InStep (h₀ : Host) (s : Server) (h : Host) : Prop := s.registry.StartedOn s.directory.storage h₀ h

theorem inStep_start {c : Config} {dir : Directory} {options : ServerOptions} (hs : startWith c dir options h₀ = (.ok s, h)) :
    InStep h₀ s h := by
  obtain ⟨snapshot, h₁, bound, h₂, storage, opened, h₃, hp, hb, -, ho, he⟩ := startWith_ok hs
  obtain ⟨hc₁, -⟩ := Snapshot.prepare_calm hp
  obtain ⟨hc₂, hbound⟩ := bindListeners_holds hb
  obtain ⟨hc₃, -, -⟩ := openListeners_holds hbound ho
  have hcalm : h₀.Calm h₃ := (hc₁.trans hc₂).trans hc₃
  obtain ⟨hstorage, hnext⟩ := installStorage_succeeds dir { h₃ with nextEndpoint := h₃.nextEndpoint + opened.length } storage
  have hempty : Registry.StartedOn {} (installStorage dir { h₃ with nextEndpoint := h₃.nextEndpoint + opened.length } storage).1.storage
      h₀ (installStorage dir { h₃ with nextEndpoint := h₃.nextEndpoint + opened.length } storage).2 := by
    refine Registry.startedOn_of_empty rfl _ ?_
    intro n _
    exact (hstorage.callsOf n).trans (hcalm.callsOf n)
  have hinstep : InStep h₀ (assemble snapshot opened storage dir options h₃).2.1 (assemble snapshot opened storage dir options h₃).2.2 := by
    unfold assemble
    dsimp only
    rw [Pool.host_addListeners]
    exact hempty.loadAll _ _ _ ((installStorage dir _ storage).1.installContext snapshot.context)
  rw [he] at hinstep
  exact hinstep

/-- The plugins of a reload are started with the documents that were installed for them. -/
theorem InStep.commit (hs : InStep h₀ s h) (hc : h.Calm h') (a : Acquisition) :
    InStep h₀ (s.commit h' a).2.1 (s.commit h' a).2.2 := by
  have hempty : Registry.StartedOn {} (s.refurnished h' a).1.storage h₀ (s.refurnished h' a).2 := by
    refine Registry.startedOn_of_empty rfl _ ?_
    intro n hn
    rw [nextPlugin_refurnished, hc.nextPlugin] at hn
    have hno : n ∉ s.registry.numbers := fun hm => absurd (Registry.StartedOn.of_numbers hs n hm) (Nat.not_lt.2 hn)
    exact (s.callsOf_refurnished h' a hno).trans ((hc.callsOf n).trans (hs.uncalled n hn))
  rw [commit_eq]
  exact hempty.loadAll _ _ _ (s.refurnished h' a).1

/-- The plugins of the registry are told of something, and the directory works on the same documents. -/
theorem InStep.report (hs : InStep h₀ s h) (hi : s'.registry.instances = s.registry.instances)
    (hd : s'.directory.storage = s.directory.storage) (hc : h.Continues (IsReport s.registry.numbers) h') : InStep h₀ s' h' := by
  have hstarted := Registry.StartedOn.report hs hi hc (Registry.StartedOn.of_numbers hs)
  rw [InStep, hd]
  exact hstarted

/-- Plugins and documents stay in step through every action that is reported. -/
theorem InStep.perform (hs : InStep h₀ s h) {a : ServerAction} (ha : a.IsReported) :
    InStep h₀ (s.perform h a).1 (s.perform h a).2 := by
  have hnone := Continues.refl (IsReport s.registry.numbers) h
  cases a with
  | reload engine source =>
    rcases reload_cases engine s h source with ⟨a, h₁, hac, he⟩ | ⟨r, h₁, entry, hac, he⟩
    · obtain ⟨hc, -, -⟩ := acquire_holds hac
      rw [Server.perform, he]
      exact hs.commit hc a
    · obtain ⟨hc, -, -⟩ := acquire_holds hac
      rw [Server.perform, he]
      exact Registry.StartedOn.congr hs (hc.log entry).nextPlugin (hc.log entry).callsOf
  | addConnection c =>
    rw [Server.perform]
    cases hc : s.directory.connections.contains c.id with
    | true =>
      rw [addConnection_refused s h hc]
      exact hs
    | false =>
      rw [addConnection_accepted s h hc]
      exact hs.report (Registry.instances_connectionAdded _ _ _) rfl
        ((s.registry.reports_connectionAdded h _).mono fun _ => And.left)
  | removeConnection id =>
    rw [Server.perform]
    cases hc : s.directory.connection? id with
    | none =>
      rw [removeConnection_unknown s h hc]
      exact hs.report rfl rfl hnone
    | some c =>
      rw [removeConnection_known s h hc]
      exact hs.report (Registry.instances_connectionRemoved _ _ _) rfl
        ((s.registry.reports_connectionRemoved h c).mono fun _ => And.left)
  | addSession x =>
    rw [Server.perform]
    cases hx : s.directory.sessions.contains x.id with
    | true =>
      rw [addSession_refused s h hx]
      exact hs
    | false =>
      rw [addSession_accepted s h hx]
      exact hs.report (Registry.instances_sessionAdded _ _ _) rfl ((s.registry.reports_sessionAdded h x).mono fun _ => And.left)
  | removeSession id =>
    rw [Server.perform]
    cases hx : s.directory.session? id with
    | none =>
      rw [removeSession_unknown s h hx]
      exact hs.report rfl rfl hnone
    | some x =>
      rw [removeSession_known s h hx]
      exact hs.report (Registry.instances_sessionRemoved _ _ _) rfl
        ((s.registry.reports_sessionRemoved h x).mono fun _ => And.left)
  | beginAuthentication id => exact hs.report rfl rfl hnone
  | completeAuthentication id password => exact hs.report rfl rfl hnone
  | editDirectory f => exact ha.elim
  | shutdown =>
    refine Registry.startedOn_of_empty (s.registry.instances_unloadAll h) _ ?_
    intro n hn
    have hn : h.nextPlugin ≤ n := Nat.le_trans (Nat.le_of_eq (s.registry.nextPlugin_unloadAll h).symm) hn
    have hno : n ∉ s.registry.numbers := fun hm => absurd (Registry.StartedOn.of_numbers hs n hm) (Nat.not_lt.2 hn)
    exact (s.registry.callsOf_unloadAll h hno).trans (hs.uncalled n hn)
  | circumstances w => exact Registry.StartedOn.congr hs rfl fun _ => rfl

/-- Along a run in which all that happens to the directory is reported, every plugin of the server was started, as the first that it was
called for on the way, with the documents that the directory works on. In a reload that succeeds the old plugins leave before the
documents are replaced, and the new ones are made after that. -/
theorem Reached.in_step {admitted : Config → Prop} (hr : Reached admitted ServerAction.IsReported h₀ s h) :
    (∀ i ∈ s.registry.instances, i.context = { name := i.name, storage := s.directory.storage } ∧
      ∃ parameters told, (∀ c ∈ told, c.IsReport) ∧ h.callsOf i.number =
        h₀.callsOf i.number ++ .started { name := i.name, storage := s.directory.storage } parameters true :: told) ∧
    ∀ (engine engine' : ReloadEngine) (source : ConfigSource) (summary : ReloadSummary) (s' : Server) (h' : Host),
      engine.reload s h source = (.ok summary, engine', s', h') →
      ∃ h₁ h₂ h₃, s.Handover h h₁ h₂ h₃ summary.storageReplaced s' h' := by
  have hboth : InStep h₀ s h ∧ s.Mirrors h := by
    induction hr with
    | start _ hs => exact ⟨inStep_start hs, mirrors_start hs⟩
    | step _ a ha ih => exact ⟨ih.1.perform ha, ih.2.perform ha⟩
  obtain ⟨hs, hm⟩ := hboth
  refine ⟨fun i hi => ⟨hs.context i hi, hs.calls i hi⟩, ?_⟩
  intro engine engine' source summary s' h' hreload
  unfold ReloadEngine.reload reloadFrom at hreload
  cases ha : s.acquire h source with
  | mk r h₁ =>
    rw [ha] at hreload
    cases r with
    | error r => cases hreload
    | ok a =>
      cases hreload
      obtain ⟨hc, -, -⟩ := acquire_holds ha
      exact handover_commit hc hm.sound.keeps hs.unstopped (Registry.StartedOn.of_numbers hs) (acquire_fits ha)

/-- The server with a plugin and a connection moves to other documents: its plugin is told that the connection goes away and is stopped,
and the one after it is started with the new documents. -/
theorem in_step_moved : ∃ (s s' : Server) (h h₁ h₂ h₃ h' : Host) (summary : ReloadSummary) (engine : ReloadEngine),
    Reached (fun _ => True) ServerAction.IsReported .blank s h ∧
    ReloadEngine.reload {} s h moved = (.ok summary, engine, s', h') ∧ summary.storageReplaced = true ∧
    s.Handover h h₁ h₂ h₃ summary.storageReplaced s' h' ∧ s'.directory.storage = ⟨⟨"archive"⟩⟩ ∧
    (∀ i ∈ s'.registry.instances, i.context = { name := i.name, storage := s'.directory.storage }) ∧
    h'.cues = [(1, .started), (1, .entered (.connection 1)), (1, .departed (.connection 1)), (1, .stopped),
      (2, .started), (2, .entered (.connection 1))] := by
  have hruns : watchedStart.1.toOption.map (fun s =>
      let x := ReloadEngine.reload {} s watchedStart.2 moved
      (x.1.toOption.map (·.storageReplaced), x.2.2.1.directory.storage, x.2.2.2.cues)) =
      some (some true, ⟨⟨"archive"⟩⟩, [(1, .started), (1, .entered (.connection 1)), (1, .departed (.connection 1)), (1, .stopped),
        (2, .started), (2, .entered (.connection 1))]) := by
    decide +kernel
  cases hs : watchedStart with
  | mk started h =>
    rw [hs] at hruns
    cases started with
    | error e => cases hruns
    | ok s =>
      simp only [Except.toOption, Option.map_some, Option.some.injEq, Prod.mk.injEq] at hruns
      obtain ⟨hreplaced, hstorage, hcues⟩ := hruns
      have hr : Reached (fun _ => True) ServerAction.IsReported .blank s h := .start trivial hs
      have hr' := hr.step (.reload {} moved) trivial
      cases hx : ReloadEngine.reload {} s h moved with
      | mk result x =>
        obtain ⟨engine, s', h'⟩ := x
        rw [Server.perform, hx] at hr'
        rw [hx] at hreplaced hstorage hcues
        cases result with
        | error r => cases hreplaced
        | ok summary =>
          obtain ⟨h₁, h₂, h₃, hover⟩ := (Reached.in_step hr).2 {} engine moved summary s' h' hx
          exact ⟨s, s', h, h₁, h₂, h₃, h', summary, engine, hr, hx, Option.some.inj hreplaced, hover, hstorage,
            fun i hi => ((Reached.in_step hr').1 i hi).1, hcues⟩

end Server
end CoEdit
