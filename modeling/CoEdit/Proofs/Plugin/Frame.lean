import CoEdit.Plugin.Batch

/-!
# What plugins leave alone

Whatever is done to the plugins of a registry, the host keeps its network, its environment, its clock and the numbers of endpoints
and of parameters for TLS; numbers of plugins only grow, and the trace is only continued. `Host.Attends` says this of two hosts.
-/

namespace CoEdit

/-- Between two hosts plugins were made, called and listened to, and nothing else happened but on the disk. -/
structure Host.Attends (h h' : Host) : Prop where
  network : h'.network = h.network
  environment : h'.environment = h.environment
  clock : h'.clock = h.clock
  nextEndpoint : h'.nextEndpoint = h.nextEndpoint
  nextSerial : h'.nextSerial = h.nextSerial
  nextPlugin : h.nextPlugin ≤ h'.nextPlugin
  trace : h.trace <+: h'.trace

namespace Host

variable {h h' h'' : Host}

theorem Attends.refl (h : Host) : Attends h h := ⟨rfl, rfl, rfl, rfl, rfl, Nat.le_refl _, List.prefix_refl _⟩

theorem Attends.trans (a : Attends h h') (a' : Attends h' h'') : Attends h h'' :=
  ⟨a'.network.trans a.network, a'.environment.trans a.environment, a'.clock.trans a.clock,
    a'.nextEndpoint.trans a.nextEndpoint, a'.nextSerial.trans a.nextSerial, Nat.le_trans a.nextPlugin a'.nextPlugin,
    a.trace.trans a'.trace⟩

theorem attends_note (h : Host) (o : Occurrence) : Attends h (h.note o) :=
  ⟨rfl, rfl, rfl, rfl, rfl, Nat.le_refl _, List.prefix_append _ _⟩

theorem attends_log (h : Host) (e : LogEntry) : Attends h (h.log e) := attends_note h _

theorem attends_react (h : Host) (r : Reaction) : Attends h (h.react r) :=
  ⟨rfl, rfl, rfl, rfl, rfl, Nat.le_refl _, List.prefix_append _ _⟩

theorem attends_call (h : Host) (number : Nat) (plugin : String) (c : Callback) (r : Reaction) :
    Attends h (h.call number plugin c r) :=
  (attends_note h _).trans (attends_react _ r)

/-- A fold whose steps attend to plugins attends to plugins. -/
theorem attends_foldl {α β : Type} (host : β → Host) {f : β → α → β} (hf : ∀ b a, Attends (host b) (host (f b a)))
    (l : List α) (b : β) : Attends (host b) (host (l.foldl f b)) :=
  List.foldlRecOn l f (motive := fun b' => Attends (host b) (host b')) (Attends.refl _) fun b' ih a _ => ih.trans (hf b' a)

end Host

open Host

/-! ## Single plugins -/

namespace PluginInstance

theorem attends_enterConnection (i : PluginInstance) (c : Connection) (x : SideTable × Host) :
    x.2.Attends (i.enterConnection c x).2 :=
  attends_call _ _ _ _ _

theorem attends_leaveConnection (i : PluginInstance) (c : Connection) (x : SideTable × Host) :
    x.2.Attends (i.leaveConnection c x).2 := by
  unfold leaveConnection
  dsimp only
  split
  · exact attends_call _ _ _ _ _
  · exact attends_log _ _

theorem attends_enterSession (i : PluginInstance) (s : Session) (x : SideTable × Host) :
    x.2.Attends (i.enterSession s x).2 := by
  unfold enterSession
  dsimp only
  split <;> exact attends_call _ _ _ _ _

theorem attends_leaveSession (i : PluginInstance) (s : Session) (x : SideTable × Host) :
    x.2.Attends (i.leaveSession s x).2 := by
  unfold leaveSession
  dsimp only
  split <;> exact attends_call _ _ _ _ _

theorem attends_stop (i : PluginInstance) (h : Host) : h.Attends (i.stop h) := by
  unfold stop
  split
  · exact Attends.refl h
  · exact attends_call _ _ _ _ _

theorem attends_retire (i : PluginInstance) (h : Host) : h.Attends (i.retire h) :=
  (i.attends_stop h).trans (i.stopped.attends_stop _)

end PluginInstance

/-! ## Loading -/

/-- The host after a plugin of a name was made. -/
def Host.make (h : Host) (name : String) : Host :=
  { h with nextPlugin := h.nextPlugin + 1 }.note (.created h.nextPlugin name)

/-- Loading a plugin ends in one of four ways: no plugin is made, or one is made and its parameters are wrong, or it starts, or it
fails to start and is retired. -/
theorem ModuleSource.load_cases (source : ModuleSource) (h : Host) (name : String) (raw : ParameterTable)
    (storage : DocumentStore) :
    (∃ e, source.load h name raw storage = (.error e, h)) ∨
    (∃ e, source.load h name raw storage = (.error (.parameters name e), h.make name)) ∨
    (∃ (i : PluginInstance) (parameters : PluginParameters) (reaction : Reaction),
      i.number = h.nextPlugin ∧ i.name = name ∧ i.context = { name, storage } ∧ i.isStopped = false ∧
      source.load h name raw storage =
        (.ok i, (h.make name).call h.nextPlugin name (.started { name, storage } parameters true) reaction)) ∨
    ∃ (i : PluginInstance) (parameters : PluginParameters) (e : PluginError) (reaction : Reaction),
      i.number = h.nextPlugin ∧ i.name = name ∧ i.isStopped = false ∧
      source.load h name raw storage =
        (.error (.notStarted name e),
          i.retire ((h.make name).call h.nextPlugin name (.started { name, storage } parameters false) reaction)) := by
  unfold ModuleSource.load
  split
  · exact Or.inl ⟨_, rfl⟩
  · rename_i m _
    split
    · exact Or.inl ⟨_, rfl⟩
    · rename_i hf
      have hname : m.descriptor.name = name := by
        unfold PluginModule.fault? at hf
        split at hf
        · cases hf
        · split at hf
          · cases hf
          · rename_i hn
            exact Decidable.not_not.1 hn
      unfold PluginDescriptor.start
      dsimp only
      split
      · exact Or.inr (Or.inl ⟨_, rfl⟩)
      · split
        · rename_i running _ _
          let started : PluginInstance :=
            { number := h.nextPlugin, descriptor := m.descriptor, context := { name, storage }, running }
          exact Or.inr (Or.inr (Or.inl ⟨started, _, _, rfl, hname, rfl, rfl, rfl⟩))
        · let failed : PluginInstance :=
            { number := h.nextPlugin, descriptor := m.descriptor, context := { name, storage },
              running := { stop := m.descriptor.plugin.abandon } }
          exact Or.inr (Or.inr (Or.inr ⟨failed, _, _, _, rfl, hname, rfl, rfl⟩))

theorem attends_make (h : Host) (name : String) : h.Attends (h.make name) :=
  ⟨rfl, rfl, rfl, rfl, rfl, Nat.le_succ _, List.prefix_append _ _⟩

theorem ModuleSource.attends_load (source : ModuleSource) (h : Host) (name : String) (raw : ParameterTable)
    (storage : DocumentStore) : h.Attends (source.load h name raw storage).2 := by
  have hm := attends_make h name
  rcases source.load_cases h name raw storage with ⟨e, he⟩ | ⟨e, he⟩ | ⟨i, ps, reaction, hi, -, -, -, he⟩ |
    ⟨i, ps, e, reaction, -, -, -, he⟩
  · rw [he]
    exact Attends.refl h
  · rw [he]
    exact hm
  · rw [he]
    exact hm.trans (attends_call _ _ _ _ _)
  · rw [he]
    exact (hm.trans (attends_call _ _ _ _ _)).trans (i.attends_retire _)

/-- A plugin that was loaded has the number that was next. -/
theorem ModuleSource.number_of_load {source : ModuleSource} {h h' : Host} {name : String} {raw : ParameterTable}
    {storage : DocumentStore} {i : PluginInstance} (hl : source.load h name raw storage = (.ok i, h')) :
    i.number = h.nextPlugin ∧ i.number < h'.nextPlugin := by
  rcases source.load_cases h name raw storage with ⟨e, he⟩ | ⟨e, he⟩ | ⟨i, ps, reaction, hi, -, -, -, he⟩ |
    ⟨i', ps, e, reaction, -, -, -, he⟩
  · rw [he] at hl
    cases hl
  · rw [he] at hl
    cases hl
  · rw [he] at hl
    cases hl
    exact ⟨hi, Nat.lt_of_le_of_lt (Nat.le_of_eq hi) (Nat.lt_succ_self h.nextPlugin)⟩
  · rw [he] at hl
    cases hl

/-! ## The registry -/

namespace Registry

theorem attends_insert (r : Registry) (h : Host) (i : PluginInstance) : h.Attends (r.insert h i).2 :=
  have hc := attends_foldl Prod.snd (fun x c => i.attends_enterConnection c x) r.connections (r.connectionStates, h)
  hc.trans (attends_foldl Prod.snd (fun x s => i.attends_enterSession s x) r.sessions (r.sessionStates, _))

theorem attends_connectionAdded (r : Registry) (h : Host) (c : Connection) : h.Attends (r.connectionAdded h c).2 := by
  unfold connectionAdded
  split
  · exact attends_log _ _
  · exact attends_foldl Prod.snd (fun x i => i.attends_enterConnection c x) r.instances (r.connectionStates, h)

theorem attends_connectionRemoved (r : Registry) (h : Host) (c : Connection) : h.Attends (r.connectionRemoved h c).2 := by
  unfold connectionRemoved
  split
  · exact attends_log _ _
  · exact attends_foldl Prod.snd (fun x i => i.attends_leaveConnection c x) r.instances.reverse (r.connectionStates, h)

theorem attends_sessionAdded (r : Registry) (h : Host) (s : Session) : h.Attends (r.sessionAdded h s).2 := by
  unfold sessionAdded
  split
  · exact attends_log _ _
  · exact attends_foldl Prod.snd (fun x i => i.attends_enterSession s x) r.instances (r.sessionStates, h)

theorem attends_sessionRemoved (r : Registry) (h : Host) (s : Session) : h.Attends (r.sessionRemoved h s).2 := by
  unfold sessionRemoved
  split
  · exact attends_log _ _
  · exact attends_foldl Prod.snd (fun x i => i.attends_leaveSession s x) r.instances.reverse (r.sessionStates, h)

/-- To observe a directory is to report its connections and sessions. -/
theorem observe_induction {P : Registry × Host → Prop} {r : Registry} {h : Host} (hr : P (r, h))
    (hc : ∀ r h c, P (r, h) → P (r.connectionAdded h c)) (hs : ∀ r h s, P (r, h) → P (r.sessionAdded h s)) (d : Directory) :
    P (r.observe h d) := by
  refine List.foldlRecOn d.sessions observeSession (motive := P) ?_ ?_
  · refine List.foldlRecOn d.connections observeConnection (motive := P) hr ?_
    intro x hx c _
    unfold observeConnection
    split
    · exact hx
    · exact hc x.1 x.2 c hx
  · intro x hx s _
    unfold observeSession
    split
    · exact hx
    · exact hs x.1 x.2 s hx

theorem attends_observe (r : Registry) (h : Host) (d : Directory) : h.Attends (r.observe h d).2 := by
  refine observe_induction (P := fun x => h.Attends x.2) (Attends.refl h) ?_ ?_ d
  · intro r' h' c ha
    exact ha.trans (r'.attends_connectionAdded h' c)
  · intro r' h' s ha
    exact ha.trans (r'.attends_sessionAdded h' s)

theorem attends_adjust (r : Registry) (h : Host) (plugin : Nat) (subject : Subject) (f : SideState → SideState) :
    h.Attends (r.adjust h plugin subject f).2 := by
  unfold adjust
  split
  · split
    · exact attends_note _ _
    · exact Attends.refl _
  · split
    · exact attends_note _ _
    · exact Attends.refl _

theorem attends_dismiss (r : Registry) (h : Host) (i : PluginInstance) : h.Attends (r.dismiss h i).2 :=
  have hc := attends_foldl Prod.snd (fun x c => i.attends_leaveConnection c x) r.connections.reverse (r.connectionStates, h)
  have hs := attends_foldl Prod.snd (fun x s => i.attends_leaveSession s x) r.sessions.reverse (r.sessionStates, _)
  (hc.trans hs).trans (i.attends_retire _)

theorem attends_unload (r : Registry) (h : Host) (name : String) : h.Attends (r.unload h name).2.2 := by
  unfold unload
  split
  · exact Attends.refl _
  · exact attends_dismiss _ _ _

theorem attends_unloadAll (r : Registry) (h : Host) : h.Attends (r.unloadAll h).2 := by
  unfold unloadAll
  split
  · exact Attends.refl _
  · exact attends_foldl Prod.snd (fun x i => x.1.attends_dismiss x.2 i) r.instances.reverse ({ r with instances := [] }, h)

theorem attends_release (r : Registry) (h : Host) : h.Attends (r.release h) :=
  (r.attends_unloadAll h).trans (attends_foldl id (fun h i => i.attends_stop h) (r.unloadAll h).1.instances _)

end Registry

/-! ## Batches -/

/-- A batch skips a name, or loads its plugin and puts it into the registry, or logs why that failed. -/
theorem Batch.step_cases (source : ModuleSource) (parameters : String → ParameterTable) (storage : DocumentStore) (b : Batch)
    (name : String) :
    ((b.seen.contains name || b.registry.contains name) = true ∧ ∃ e,
      (b.step source parameters storage name).registry = b.registry ∧
      (b.step source parameters storage name).host = b.host.log e) ∨
    ((b.seen.contains name || b.registry.contains name) = false ∧
      ((∃ i h, source.load b.host name (parameters name) storage = (.ok i, h) ∧
        (b.step source parameters storage name).registry = (b.registry.insert h i).1 ∧
        (b.step source parameters storage name).host = (b.registry.insert h i).2) ∨
      ∃ e h entry, source.load b.host name (parameters name) storage = (.error e, h) ∧
        (b.step source parameters storage name).registry = b.registry ∧
        (b.step source parameters storage name).host = h.log entry)) := by
  unfold Batch.step
  cases hs : b.seen.contains name with
  | true => exact Or.inl ⟨rfl, _, rfl, rfl⟩
  | false =>
    rw [if_neg Bool.false_ne_true, Bool.false_or]
    dsimp only
    cases hc : b.registry.contains name with
    | true => exact Or.inl ⟨rfl, _, rfl, rfl⟩
    | false =>
      refine Or.inr ⟨rfl, ?_⟩
      rw [if_neg Bool.false_ne_true]
      unfold Batch.loadOne
      dsimp only
      generalize source.load b.host name (parameters name) storage = x
      obtain ⟨loaded, h⟩ := x
      cases loaded with
      | ok i => exact Or.inl ⟨i, h, rfl, rfl, rfl⟩
      | error e => exact Or.inr ⟨e, h, _, rfl, rfl, rfl⟩

theorem Batch.attends_step (source : ModuleSource) (parameters : String → ParameterTable) (storage : DocumentStore) (b : Batch)
    (name : String) : b.host.Attends (b.step source parameters storage name).host := by
  have ha := source.attends_load b.host name (parameters name) storage
  rcases b.step_cases source parameters storage name with ⟨-, e, -, hh⟩ | ⟨-, ⟨i, h, hl, -, hh⟩ | ⟨e, h, entry, hl, -, hh⟩⟩
  · rw [hh]
    exact attends_log _ _
  · rw [hl] at ha
    rw [hh]
    exact ha.trans (Registry.attends_insert _ _ _)
  · rw [hl] at ha
    rw [hh]
    exact ha.trans (attends_log _ _)

theorem Registry.attends_loadAll (r : Registry) (h : Host) (source : ModuleSource) (requested : List String)
    (parameters : String → ParameterTable) (d : Directory) : h.Attends (r.loadAll h source requested parameters d).2.2 := by
  unfold Registry.loadAll
  have hb := attends_foldl Batch.host (fun b name => b.attends_step source parameters d.storage name) requested
    { registry := r, host := h }
  revert hb
  generalize requested.foldl (Batch.step source parameters d.storage) { registry := r, host := h } = b
  intro hb
  have ho := hb.trans (b.registry.attends_observe b.host d)
  dsimp only
  split
  · exact ho.trans (attends_log _ _)
  · exact ho

end CoEdit
