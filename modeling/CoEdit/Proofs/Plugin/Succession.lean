import CoEdit.Proofs.Plugin.Cues
import CoEdit.Proofs.Plugin.Lifecycle

/-!
# One generation of plugins after another

Plugins that are unloaded are told of nothing but departures and are stopped (`Occurrence.IsFarewell`). A batch makes and calls nobody
but plugins with new numbers (`Occurrence.IsWelcome`). `Registry.StartedOn` says what the plugins of a registry were started with: all
of them with the same documents, as the first thing they were called for.
-/

namespace CoEdit

open Host Occurrence

/-- Something was said, or a plugin of a list was told that something goes away, or was stopped. -/
def Occurrence.IsFarewell (is : List Nat) : Occurrence → Prop
  | .said _ => True
  | .called n _ c => n ∈ is ∧ (c.cue = .stopped ∨ ∃ u, c.cue = .departed u)
  | _ => False

/-- Nothing happened to the documents, and a plugin that was made or called has a number from some number on. -/
def Occurrence.IsWelcome (first : Nat) : Occurrence → Prop
  | .created n _ => first ≤ n
  | .called n _ _ => first ≤ n
  | .rootEnsured _ => False
  | .storageInstalled _ => False
  | _ => True

namespace Host

variable {P Q : Occurrence → Prop} {h h' h'' : Host}

/-- Between two hosts the trace went on with occurrences of a kind; numbers may have been handed out. -/
def GoesOn (P : Occurrence → Prop) (h h' : Host) : Prop := ∃ os, h'.trace = h.trace ++ os ∧ ∀ o ∈ os, P o

theorem GoesOn.refl (P : Occurrence → Prop) (h : Host) : h.GoesOn P h := ⟨[], by simp, by simp⟩

theorem GoesOn.trans (g : h.GoesOn P h') (g' : h'.GoesOn P h'') : h.GoesOn P h'' := by
  obtain ⟨os, ho, hp⟩ := g
  obtain ⟨os', ho', hp'⟩ := g'
  refine ⟨os ++ os', by rw [ho', ho, List.append_assoc], ?_⟩
  intro o hm
  exact (List.mem_append.1 hm).elim (hp o) (hp' o)

theorem Continues.goesOn (c : h.Continues P h') (hpq : ∀ o, P o → Q o) : h.GoesOn Q h' := (c.mono hpq).trace

/-- A plugin is not called where nothing is a call of it. -/
theorem GoesOn.callsOf {n : Nat} (g : h.GoesOn P h') (hp : ∀ o, P o → o.callOf? n = none) : h'.callsOf n = h.callsOf n := by
  obtain ⟨os, ho, hos⟩ := g
  have hnil : os.filterMap (Occurrence.callOf? n) = [] := List.filterMap_eq_nil_iff.2 fun o hm => hp o (hos o hm)
  rw [Host.callsOf, ho, List.filterMap_append, hnil, List.append_nil]
  rfl

/-- Where plugins with numbers from some number on are made and called, the others are not. -/
theorem GoesOn.callsOf_of_lt {first n : Nat} (g : h.GoesOn (IsWelcome first) h') (hn : n < first) : h'.callsOf n = h.callsOf n := by
  refine g.callsOf ?_
  intro o ho
  cases o with
  | called m p c =>
    have hm : first ≤ m := ho
    exact if_neg (by omega)
  | _ => rfl

theorem goesOn_make (p : String) {first : Nat} (hf : first ≤ h.nextPlugin) : h.GoesOn (IsWelcome first) (h.make p) := by
  refine ⟨[.created h.nextPlugin p], rfl, ?_⟩
  intro o ho
  rw [List.mem_singleton.1 ho]
  exact hf

theorem continues_welcome {first n : Nat} (hn : first ≤ n) (h : Host) (p : String) (c : Callback) (r : Reaction) :
    h.Continues (IsWelcome first) (h.call n p c r) :=
  continues_call h r (fun _ => trivial) hn

end Host

/-- Plugins with numbers from some number on are told of something. -/
theorem Occurrence.IsReport.welcome {is : List Nat} {first : Nat} (hi : ∀ n ∈ is, first ≤ n) {o : Occurrence} (ho : o.IsReport is) :
    o.IsWelcome first := by
  cases o with
  | called n p c => exact hi n ho.1
  | created n p => exact ho.elim
  | rootEnsured root => exact ho.elim
  | storageInstalled root => exact ho.elim
  | said u => trivial
  | changed n u state => trivial

/-! ## Farewells -/

namespace PluginInstance

variable (i : PluginInstance) {is : List Nat} (hi : i.number ∈ is)

include hi

theorem farewell_leaveConnection (x : SideTable × Host) (c : Connection) :
    x.2.Continues (IsFarewell is) (i.leaveConnection c x).2 := by
  unfold leaveConnection
  dsimp only
  split
  · exact continues_call _ _ (fun _ => trivial) ⟨hi, Or.inr ⟨_, rfl⟩⟩
  · exact continues_note _ trivial

theorem farewell_leaveSession (x : SideTable × Host) (y : Session) : x.2.Continues (IsFarewell is) (i.leaveSession y x).2 := by
  unfold leaveSession
  dsimp only
  split <;> exact continues_call _ _ (fun _ => trivial) ⟨hi, Or.inr ⟨_, rfl⟩⟩

theorem farewell_stop (h : Host) : h.Continues (IsFarewell is) (i.stop h) := by
  unfold stop
  split
  · exact Continues.refl _ h
  · exact continues_call _ _ (fun _ => trivial) ⟨hi, Or.inl rfl⟩

end PluginInstance

namespace Registry

theorem farewell_dismiss (r : Registry) (h : Host) (i : PluginInstance) {is : List Nat} (hi : i.number ∈ is) :
    h.Continues (IsFarewell is) (r.dismiss h i).2 := by
  have hc := continues_foldl Prod.snd (l := r.connections.reverse) (fun x c _ => i.farewell_leaveConnection hi x c)
    (r.connectionStates, h)
  have hy := continues_foldl Prod.snd (l := r.sessions.reverse) (fun x y _ => i.farewell_leaveSession hi x y)
    (r.sessionStates, (r.connections.reverse.foldl (fun x c => i.leaveConnection c x) (r.connectionStates, h)).2)
  exact (hc.trans hy).trans (i.farewell_stop hi _)

/-- Plugins that are unloaded are told that all goes away and are stopped, and nobody else is called. -/
theorem farewell_unloadAll (r : Registry) (h : Host) : h.Continues (IsFarewell r.numbers) (r.unloadAll h).2 := by
  unfold unloadAll
  split
  · exact Continues.refl _ h
  · exact continues_foldl Prod.snd (fun x i hi => x.1.farewell_dismiss x.2 i (number_mem (List.mem_reverse.1 hi)))
      ({ r with instances := [] }, h)

theorem nextPlugin_unloadAll (r : Registry) (h : Host) : (r.unloadAll h).2.nextPlugin = h.nextPlugin :=
  (r.farewell_unloadAll h).nextPlugin

/-- Who is not in the registry is not called when it is unloaded. -/
theorem callsOf_unloadAll (r : Registry) (h : Host) {n : Nat} (hn : n ∉ r.numbers) : (r.unloadAll h).2.callsOf n = h.callsOf n := by
  refine GoesOn.callsOf (r.farewell_unloadAll h).trace ?_
  intro o ho
  cases o with
  | called m p c => exact if_neg fun he : m = n => hn (he ▸ ho.1)
  | _ => rfl

end Registry

/-! ## Welcomes -/

/-- An attempt to load a plugin makes and calls nobody but the plugin with the next number. -/
theorem ModuleSource.welcome_load (source : ModuleSource) (h : Host) (name : String) (raw : ParameterTable) (storage : DocumentStore)
    {first : Nat} (hf : first ≤ h.nextPlugin) : h.GoesOn (IsWelcome first) (source.load h name raw storage).2 := by
  have hm : h.GoesOn (IsWelcome first) (h.make name) := goesOn_make name hf
  rcases source.load_cases h name raw storage with ⟨e, he⟩ | ⟨e, he⟩ | ⟨i, ps, reaction, -, -, -, -, he⟩ |
    ⟨i, ps, e, reaction, hi, -, -, he⟩
  · rw [he]
    exact GoesOn.refl _ h
  · rw [he]
    exact hm
  · rw [he]
    exact hm.trans (continues_welcome hf _ _ _ _).trace
  · have hstop : ∀ g : Host, g.Continues (IsWelcome first) (i.stop g) := by
      intro g
      unfold PluginInstance.stop
      split
      · exact Continues.refl _ g
      · exact continues_welcome (hi ▸ hf) _ _ _ _
    rw [he, i.retire_eq]
    exact (hm.trans (continues_welcome hf _ _ _ _).trace).trans (hstop _).trace

/-- Only the plugin that is made can be called. -/
theorem ModuleSource.callsOf_load (source : ModuleSource) (h : Host) (name : String) (raw : ParameterTable) (storage : DocumentStore)
    {n : Nat} (hn : n ≠ h.nextPlugin ∨ (source.load h name raw storage).2.nextPlugin ≤ n) :
    (source.load h name raw storage).2.callsOf n = h.callsOf n := by
  have hmade : (h.make name).nextPlugin = h.nextPlugin + 1 := rfl
  rcases source.load_cases h name raw storage with ⟨e, he⟩ | ⟨e, he⟩ | ⟨i, ps, reaction, -, -, -, -, he⟩ |
    ⟨i, ps, e, reaction, hi, -, hs, he⟩
  · rw [he]
  · rw [he]
    exact callsOf_make _ _ _
  · rw [he] at hn ⊢
    have hne : n ≠ h.nextPlugin := by
      have hnext : ((h.make name).call h.nextPlugin name (.started { name, storage } ps true) reaction).nextPlugin =
        h.nextPlugin + 1 := rfl
      dsimp only at hn
      omega
    rw [callsOf_call, if_neg hne.symm, List.append_nil, callsOf_make]
  · rw [he] at hn ⊢
    have hne : n ≠ h.nextPlugin := by
      have hnext : (i.retire ((h.make name).call h.nextPlugin name (.started { name, storage } ps false) reaction)).nextPlugin =
        h.nextPlugin + 1 := i.nextPlugin_stop _
      dsimp only at hn
      omega
    rw [i.retire_eq, i.callsOf_stop _ hs, hi, if_neg hne.symm, List.append_nil, callsOf_call, if_neg hne.symm,
      List.append_nil, callsOf_make]

/-- What a batch does with its next name concerns nobody but plugins with new numbers, and so are the numbers of the registry then. -/
theorem Batch.welcome_step (source : ModuleSource) (parameters : String → ParameterTable) (storage : DocumentStore) {b : Batch}
    {first : Nat} (hf : first ≤ b.host.nextPlugin) (hr : ∀ n ∈ b.registry.numbers, first ≤ n) (name : String) :
    b.host.GoesOn (IsWelcome first) (b.step source parameters storage name).host ∧
      ∀ n ∈ (b.step source parameters storage name).registry.numbers, first ≤ n := by
  have hload := source.welcome_load b.host name (parameters name) storage hf
  rcases b.step_cases source parameters storage name with ⟨-, e, hr', hh⟩ | ⟨-, ⟨i, h, hl, hr', hh⟩ | ⟨e, h, entry, hl, hr', hh⟩⟩
  · rw [hr', hh]
    exact ⟨(continues_note b.host (P := IsWelcome first) (o := .said (.log e)) trivial).trace, hr⟩
  · have hi : first ≤ i.number := (ModuleSource.number_of_load hl).1 ▸ hf
    have hjoin := (b.registry.reports_insert h i).goesOn (Q := IsWelcome first) fun o ho =>
      ho.welcome fun n hn => List.mem_singleton.1 hn ▸ hi
    rw [hl] at hload
    rw [hr', hh]
    refine ⟨hload.trans hjoin, ?_⟩
    intro n hn
    have hnumbers : (b.registry.insert h i).1.numbers = b.registry.numbers ++ [i.number] := List.map_append
    rw [hnumbers] at hn
    rcases List.mem_append.1 hn with hn | hn
    · exact hr n hn
    · exact List.mem_singleton.1 hn ▸ hi
  · rw [hl] at hload
    rw [hr', hh]
    exact ⟨hload.trans (continues_note h (P := IsWelcome first) (o := .said (.log entry)) trivial).trace, hr⟩

theorem Batch.welcome_foldl (source : ModuleSource) (parameters : String → ParameterTable) (storage : DocumentStore)
    (names : List String) {b : Batch} {first : Nat} (hf : first ≤ b.host.nextPlugin) (hr : ∀ n ∈ b.registry.numbers, first ≤ n) :
    b.host.GoesOn (IsWelcome first) (names.foldl (Batch.step source parameters storage) b).host ∧
      ∀ n ∈ (names.foldl (Batch.step source parameters storage) b).registry.numbers, first ≤ n := by
  induction names generalizing b with
  | nil => exact ⟨GoesOn.refl _ _, hr⟩
  | cons name names ih =>
    obtain ⟨hstep, hnumbers⟩ := Batch.welcome_step source parameters storage hf hr name
    have hnext := (b.attends_step source parameters storage name).nextPlugin
    obtain ⟨hrest, hall⟩ := ih (Nat.le_trans hf hnext) hnumbers
    exact ⟨hstep.trans hrest, hall⟩

/-- A batch that is put into a new registry makes and calls nobody but plugins with new numbers. -/
theorem Registry.welcome_loadAll (h : Host) (source : ModuleSource) (requested : List String) (parameters : String → ParameterTable)
    (d : Directory) : h.GoesOn (IsWelcome h.nextPlugin) (Registry.loadAll {} h source requested parameters d).2.2 ∧
      ∀ i ∈ (Registry.loadAll {} h source requested parameters d).2.1.instances, h.nextPlugin ≤ i.number := by
  have hb := Batch.welcome_foldl source parameters d.storage requested (b := { registry := {}, host := h }) (Nat.le_refl _)
    fun n hn => absurd hn List.not_mem_nil
  unfold loadAll
  dsimp only
  revert hb
  generalize requested.foldl (Batch.step source parameters d.storage) { registry := {}, host := h } = b
  rintro ⟨hg, hn⟩
  obtain ⟨hi, ho⟩ := b.registry.reports_observe b.host d
  have hobserve := hg.trans (ho.goesOn fun o ho => ho.welcome hn)
  constructor
  · split
    · exact hobserve.trans (continues_note _ trivial).trace
    · exact hobserve
  · intro i hm
    rw [hi] at hm
    exact hn i.number (number_mem hm)

/-! ## What plugins were started with -/

/-- A plugin that was loaded runs, and it was started with the documents it was loaded for. -/
theorem ModuleSource.started_of_load {source : ModuleSource} {h h' : Host} {name : String} {raw : ParameterTable} {storage : DocumentStore}
    {i : PluginInstance} (hl : source.load h name raw storage = (.ok i, h')) :
    i.isStopped = false ∧ i.context = { name := i.name, storage } ∧
      ∃ ps, h'.callsOf i.number = h.callsOf i.number ++ [.started { name := i.name, storage } ps true] := by
  rcases source.load_cases h name raw storage with ⟨e, he⟩ | ⟨e, he⟩ | ⟨j, ps, reaction, hj, hname, hcontext, hs, he⟩ |
    ⟨j, ps, e, reaction, -, -, -, he⟩
  · rw [he] at hl
    cases hl
  · rw [he] at hl
    cases hl
  · rw [he] at hl
    cases hl
    refine ⟨hs, by rw [hcontext, hname], ps, ?_⟩
    rw [callsOf_call, callsOf_make, hj, if_pos rfl, hname]
  · rw [he] at hl
    cases hl

namespace Registry

/-- The plugins of a registry were started with the same documents, on a host that went on from another. They run, and were told of
connections and sessions since. Nobody was called yet under a number that is still to be handed out. -/
structure StartedOn (r : Registry) (storage : DocumentStore) (h₀ h : Host) : Prop where
  handedOut : ∀ i ∈ r.instances, i.number < h.nextPlugin
  unstopped : ∀ i ∈ r.instances, i.isStopped = false
  context : ∀ i ∈ r.instances, i.context = { name := i.name, storage }
  calls : ∀ i ∈ r.instances, ∃ parameters told, (∀ c ∈ told, c.IsReport) ∧
    h.callsOf i.number = h₀.callsOf i.number ++ .started { name := i.name, storage } parameters true :: told
  uncalled : ∀ n, h.nextPlugin ≤ n → h.callsOf n = h₀.callsOf n

variable {r r' : Registry} {storage : DocumentStore} {h₀ h h' : Host}

theorem startedOn_of_empty (hr : r.instances = []) (storage : DocumentStore)
    (hu : ∀ n, h.nextPlugin ≤ n → h.callsOf n = h₀.callsOf n) : r.StartedOn storage h₀ h := by
  refine ⟨?_, ?_, ?_, ?_, hu⟩ <;> simp [hr]

/-- What calls nobody and hands out no number does not matter. -/
theorem StartedOn.congr (s : r.StartedOn storage h₀ h) (hn : h'.nextPlugin = h.nextPlugin)
    (hc : ∀ n, h'.callsOf n = h.callsOf n) : r.StartedOn storage h₀ h' := by
  refine ⟨?_, s.unstopped, s.context, ?_, ?_⟩
  · rw [hn]
    exact s.handedOut
  · intro i hi
    rw [hc]
    exact s.calls i hi
  · intro n hm
    rw [hc]
    exact s.uncalled n (hn ▸ hm)

/-- Plugins of the registry are told of something. -/
theorem StartedOn.report (s : r.StartedOn storage h₀ h) (hi : r'.instances = r.instances) {is : List Nat}
    (hc : h.Continues (IsReport is) h') (his : ∀ n ∈ is, n < h.nextPlugin) : r'.StartedOn storage h₀ h' := by
  constructor
  · rw [hi, hc.nextPlugin]
    exact s.handedOut
  · rw [hi]
    exact s.unstopped
  · rw [hi]
    exact s.context
  · intro i hm
    rw [hi] at hm
    obtain ⟨parameters, told, ht, hcalls⟩ := s.calls i hm
    obtain ⟨more, hmore, hrep, -⟩ := hc.callsOf i.number
    refine ⟨parameters, told ++ more, ?_, ?_⟩
    · intro c hm
      exact (List.mem_append.1 hm).elim (ht c) (hrep c)
    · rw [hmore, hcalls, List.append_assoc]
      rfl
  · intro n hn
    obtain ⟨more, hmore, -, hno⟩ := hc.callsOf n
    rw [hc.nextPlugin] at hn
    have hni : n ∉ is := fun hm => Nat.not_lt.2 hn (his n hm)
    rw [hmore, hno hni, List.append_nil]
    exact s.uncalled n hn

theorem StartedOn.of_numbers (s : r.StartedOn storage h₀ h) : ∀ n ∈ r.numbers, n < h.nextPlugin := by
  intro n hn
  obtain ⟨i, hi, rfl⟩ := List.mem_map.1 hn
  exact s.handedOut i hi

/-- Loading a plugin, whatever comes of it, is nothing to those that run. -/
theorem StartedOn.loading (s : r.StartedOn storage h₀ h) (source : ModuleSource) (name : String) (raw : ParameterTable) :
    r.StartedOn storage h₀ (source.load h name raw storage).2 := by
  have hgrows := (source.attends_load h name raw storage).nextPlugin
  refine ⟨fun i hi => Nat.lt_of_lt_of_le (s.handedOut i hi) hgrows, s.unstopped, s.context, ?_, ?_⟩
  · intro i hi
    rw [source.callsOf_load h name raw storage (Or.inl (Nat.ne_of_lt (s.handedOut i hi)))]
    exact s.calls i hi
  · intro n hn
    rw [source.callsOf_load h name raw storage (Or.inr hn)]
    exact s.uncalled n (Nat.le_trans hgrows hn)

/-- A plugin that was loaded and started joins those that were started with the same documents. -/
theorem StartedOn.load (s : r.StartedOn storage h₀ h) {source : ModuleSource} {name : String} {raw : ParameterTable}
    {i : PluginInstance} (hl : source.load h name raw storage = (.ok i, h')) :
    StartedOn { r with instances := r.instances ++ [i] } storage h₀ h' := by
  obtain ⟨hi, hlt⟩ := ModuleSource.number_of_load hl
  obtain ⟨hrun, hcontext, ps, hcalls⟩ := ModuleSource.started_of_load hl
  have hs := s.loading source name raw
  rw [hl] at hs
  rw [s.uncalled _ (Nat.le_of_eq hi.symm)] at hcalls
  constructor
  · exact List.forall_mem_append.2 ⟨hs.handedOut, List.forall_mem_singleton.2 hlt⟩
  · exact List.forall_mem_append.2 ⟨hs.unstopped, List.forall_mem_singleton.2 hrun⟩
  · exact List.forall_mem_append.2 ⟨hs.context, List.forall_mem_singleton.2 hcontext⟩
  · exact List.forall_mem_append.2 ⟨hs.calls, List.forall_mem_singleton.2 ⟨ps, [], by simp, hcalls⟩⟩
  · exact hs.uncalled

theorem StartedOn.batchStep (source : ModuleSource) (parameters : String → ParameterTable) {b : Batch}
    (s : b.registry.StartedOn storage h₀ b.host) (name : String) :
    (b.step source parameters storage name).registry.StartedOn storage h₀ (b.step source parameters storage name).host := by
  rcases b.step_cases source parameters storage name with ⟨-, e, hr, hh⟩ | ⟨-, ⟨i, h, hl, hr, hh⟩ | ⟨e, h, entry, hl, hr, hh⟩⟩
  · rw [hr, hh]
    exact s.congr rfl fun n => (callsOf_note _ _ _).trans (List.append_nil _)
  · rw [hr, hh]
    refine (s.load hl).report rfl (b.registry.reports_insert h i) ?_
    intro n hn
    rw [List.mem_singleton.1 hn]
    exact (ModuleSource.number_of_load hl).2
  · rw [hr, hh]
    have hs := s.loading source name (parameters name)
    rw [hl] at hs
    exact hs.congr rfl fun n => (callsOf_note _ _ _).trans (List.append_nil _)

/-- A batch starts plugins with the documents of the directory. -/
theorem StartedOn.loadAll (source : ModuleSource) (requested : List String) (parameters : String → ParameterTable) (d : Directory)
    (s : r.StartedOn d.storage h₀ h) : (r.loadAll h source requested parameters d).2.1.StartedOn d.storage h₀
      (r.loadAll h source requested parameters d).2.2 := by
  have hb := List.foldlRecOn requested (Batch.step source parameters d.storage)
    (motive := fun b => b.registry.StartedOn d.storage h₀ b.host) (b := { registry := r, host := h }) s
    fun b hb name _ => hb.batchStep source parameters name
  unfold Registry.loadAll
  dsimp only
  revert hb
  generalize requested.foldl (Batch.step source parameters d.storage) { registry := r, host := h } = b
  intro hb
  obtain ⟨hi, ho⟩ := b.registry.reports_observe b.host d
  have hobserve := hb.report hi ho hb.of_numbers
  split
  · exact hobserve.congr rfl fun n => (callsOf_note _ _ _).trans (List.append_nil _)
  · exact hobserve

end Registry

end CoEdit
