import CoEdit.Proofs.Plugin.Likeness
import CoEdit.Proofs.Plugin.Nesting
import CoEdit.Proofs.Plugin.Succession

/-!
# A generation of plugins from the first call to the last

A batch that is put into a registry which observes nothing starts its plugins and tells them of nothing (`Registry.Untold`). They are
told of the directory after that, all of them of one thing before any of them of another (`Registry.tells_observe`). When all of them
leave at once, each sees the same things go away and is stopped. `Registry.tenure_loadAll` puts this together: it says of every plugin
what it was called for, whatever the modules do.
-/

namespace CoEdit

open Host

/-! ## The calls of one plugin -/

theorem Callback.cue_eq_stopped {c : Callback} : c.cue = .stopped ↔ c = .stopped := by cases c <;> simp [cue]

/-- What a cue is to one plugin. -/
def cueOf? (n : Nat) (x : Nat × Cue) : Option Cue := if x.1 = n then some x.2 else none

/-- Each plugin sees its own cues of those that go through plugins one after the other. -/
theorem filterMap_cueOf? {ns : List Nat} (hd : ns.Nodup) (n : Nat) (cs : List Cue) :
    (ns.flatMap fun m => cs.map fun c => (m, c)).filterMap (cueOf? n) = if n ∈ ns then cs else [] := by
  have hown : ∀ m, (cs.map fun c => (m, c)).filterMap (cueOf? n) = if m = n then cs else [] := by
    intro m
    rw [List.filterMap_map]
    by_cases hm : m = n <;> simp [hm, Function.comp_def, cueOf?]
  induction ns with
  | nil => rfl
  | cons m ns ih =>
    rw [List.nodup_cons] at hd
    rw [List.flatMap_cons, List.filterMap_append, ih hd.2, hown]
    by_cases hm : m = n
    · subst hm
      simp [hd.1]
    · simp [hm, Ne.symm hm]

namespace Host

/-- The calls of a plugin are for what the cues say. -/
theorem map_cue_calls (os : List Occurrence) (n : Nat) :
    (os.filterMap (Occurrence.callOf? n)).map Callback.cue = (os.filterMap Occurrence.cue?).filterMap (cueOf? n) := by
  rw [List.map_filterMap, List.filterMap_filterMap]
  congr 1
  funext o
  cases o with
  | called m p c =>
    by_cases hm : m = n
    · simp [Occurrence.callOf?, Occurrence.cue?, cueOf?, hm]
    · simp [Occurrence.callOf?, Occurrence.cue?, cueOf?, hm]
  | _ => rfl

/-- A plugin was called for what the cues say that the trace went on with. -/
theorem callsOf_of_cues {h h' : Host} {cs : List (Nat × Cue)} (ht : h.trace <+: h'.trace) (hc : h'.cues = h.cues ++ cs) (n : Nat) :
    ∃ calls, h'.callsOf n = h.callsOf n ++ calls ∧ calls.map Callback.cue = cs.filterMap (cueOf? n) := by
  obtain ⟨os, ho⟩ := ht
  rw [cues, ← ho, List.filterMap_append] at hc
  refine ⟨os.filterMap (Occurrence.callOf? n), ?_, ?_⟩
  · rw [callsOf, ← ho, List.filterMap_append]
    rfl
  · rw [map_cue_calls, List.append_cancel_left hc]

end Host

/-- An attempt that fails leaves the calls of a plugin as they are, unless the plugin failed to start and was stopped for that. -/
theorem ModuleSource.callsOf_load_error {source : ModuleSource} {h h' : Host} {name : String} {raw : ParameterTable}
    {storage : DocumentStore} {e : LoadError} (hl : source.load h name raw storage = (.error e, h')) (n : Nat) :
    h'.callsOf n = h.callsOf n ∨
      ∃ context parameters, h'.callsOf n = h.callsOf n ++ [.started context parameters false, .stopped] := by
  rcases source.load_cases h name raw storage with ⟨e, he⟩ | ⟨e, he⟩ | ⟨i, ps, reaction, -, -, -, -, he⟩ |
    ⟨i, ps, e, reaction, hi, -, hs, he⟩
  all_goals
    rw [he] at hl
    cases hl
  · exact Or.inl rfl
  · exact Or.inl (callsOf_make _ _ _)
  · rw [i.retire_eq, i.callsOf_stop _ hs, callsOf_call, callsOf_make, hi]
    by_cases hn : h.nextPlugin = n
    · rw [if_pos hn, if_pos hn, List.append_assoc]
      exact Or.inr ⟨_, ps, rfl⟩
    · rw [if_neg hn, if_neg hn, List.append_nil, List.append_nil]
      exact Or.inl rfl

namespace Registry

/-! ## Started and told of nothing -/

/-- The registry observes nothing. Since `h₀` each of its plugins was called for its start and for nothing else. Others failed to start
and were stopped for that, or were not called. -/
structure Untold (r : Registry) (h₀ h : Host) : Prop where
  connections : r.connections = []
  sessions : r.sessions = []
  unstopped : ∀ i ∈ r.instances, i.isStopped = false
  handedOut : ∀ i ∈ r.instances, i.number < h.nextPlugin
  started : ∀ i ∈ r.instances, ∃ parameters, h.callsOf i.number = h₀.callsOf i.number ++ [.started i.context parameters true]
  others : ∀ n ∉ r.numbers, h.callsOf n = h₀.callsOf n ∨
    ∃ context parameters, h.callsOf n = h₀.callsOf n ++ [.started context parameters false, .stopped]
  uncalled : ∀ n, h.nextPlugin ≤ n → h.callsOf n = h₀.callsOf n

variable {r : Registry} {h₀ h h' : Host}

/-- A new registry is untold where nobody was called yet. -/
theorem untold_empty (hc : ∀ n, h.callsOf n = h₀.callsOf n) : Untold {} h₀ h :=
  ⟨rfl, rfl, by simp, by simp, by simp, fun n _ => Or.inl (hc n), fun n _ => hc n⟩

theorem Untold.congr (u : r.Untold h₀ h) (hn : h'.nextPlugin = h.nextPlugin) (hc : ∀ n, h'.callsOf n = h.callsOf n) :
    r.Untold h₀ h' := by
  refine ⟨u.connections, u.sessions, u.unstopped, fun i hi => hn ▸ u.handedOut i hi, ?_, ?_, ?_⟩
  · intro i hi
    rw [hc]
    exact u.started i hi
  · intro n hm
    rw [hc]
    exact u.others n hm
  · intro n hm
    rw [hc]
    exact u.uncalled n (hn ▸ hm)

/-- A plugin that was started joins the others. -/
theorem Untold.load (u : r.Untold h₀ h) {source : ModuleSource} {name : String} {raw : ParameterTable} {storage : DocumentStore}
    {i : PluginInstance} (hl : source.load h name raw storage = (.ok i, h')) :
    Untold { r with instances := r.instances ++ [i] } h₀ h' := by
  obtain ⟨hi, hlt⟩ := ModuleSource.number_of_load hl
  obtain ⟨hrun, hcontext, ps, hcalls⟩ := ModuleSource.started_of_load hl
  have hgrows : h.nextPlugin ≤ h'.nextPlugin := Nat.le_of_lt (hi ▸ hlt)
  -- the plugin that was loaded is the only one that was called
  have hsame : ∀ n, n ≠ i.number → h'.callsOf n = h.callsOf n := by
    intro n hn
    have hload := source.callsOf_load h name raw storage (n := n) (Or.inl (hi ▸ hn))
    rwa [hl] at hload
  refine ⟨u.connections, u.sessions, ?_, ?_, ?_, ?_, ?_⟩
  · exact List.forall_mem_append.2 ⟨u.unstopped, List.forall_mem_singleton.2 hrun⟩
  · exact List.forall_mem_append.2
      ⟨fun j hj => Nat.lt_of_lt_of_le (u.handedOut j hj) hgrows, List.forall_mem_singleton.2 hlt⟩
  · refine List.forall_mem_append.2 ⟨?_, List.forall_mem_singleton.2 ⟨ps, ?_⟩⟩
    · intro j hj
      have hlt := u.handedOut j hj
      rw [hsame j.number (by omega)]
      exact u.started j hj
    · rw [hcalls, u.uncalled _ (Nat.le_of_eq hi.symm), hcontext]
  · intro n hn
    rw [numbers, List.map_append, List.mem_append, not_or] at hn
    rw [hsame n fun he => hn.2 (he ▸ List.mem_singleton.2 rfl)]
    exact u.others n hn.1
  · intro n hn
    rw [hsame n (by omega)]
    exact u.uncalled n (Nat.le_trans hgrows hn)

/-- A plugin that was not loaded does not matter to the others. -/
theorem Untold.fail (u : r.Untold h₀ h) {source : ModuleSource} {name : String} {raw : ParameterTable} {storage : DocumentStore}
    {e : LoadError} (hl : source.load h name raw storage = (.error e, h')) : r.Untold h₀ h' := by
  have hgrows : h.nextPlugin ≤ h'.nextPlugin := by
    have hload := (source.attends_load h name raw storage).nextPlugin
    rwa [hl] at hload
  have hsame : ∀ n, n ≠ h.nextPlugin ∨ h'.nextPlugin ≤ n → h'.callsOf n = h.callsOf n := by
    intro n hn
    have hload := source.callsOf_load h name raw storage (n := n) (by rwa [hl])
    rwa [hl] at hload
  refine ⟨u.connections, u.sessions, u.unstopped, fun i hi => Nat.lt_of_lt_of_le (u.handedOut i hi) hgrows, ?_, ?_, ?_⟩
  · intro i hi
    rw [hsame _ (Or.inl (Nat.ne_of_lt (u.handedOut i hi)))]
    exact u.started i hi
  · intro n hn
    by_cases hne : n = h.nextPlugin
    · rw [← u.uncalled n (Nat.le_of_eq hne.symm)]
      exact ModuleSource.callsOf_load_error hl n
    · rw [hsame n (Or.inl hne)]
      exact u.others n hn
  · intro n hn
    rw [hsame n (Or.inr hn)]
    exact u.uncalled n (Nat.le_trans hgrows hn)

theorem Untold.batchStep (source : ModuleSource) (parameters : String → ParameterTable) (storage : DocumentStore) {b : Batch}
    (u : b.registry.Untold h₀ b.host) (name : String) :
    (b.step source parameters storage name).registry.Untold h₀ (b.step source parameters storage name).host := by
  rcases b.step_cases source parameters storage name with ⟨-, e, hr, hh⟩ | ⟨-, ⟨i, h, hl, hr, hh⟩ | ⟨e, h, entry, hl, hr, hh⟩⟩
  · rw [hr, hh]
    exact u.congr rfl fun n => (callsOf_note _ _ _).trans (List.append_nil _)
  · rw [hr, hh, insert_unobserved u.connections u.sessions]
    exact u.load hl
  · rw [hr, hh]
    exact (u.fail hl).congr rfl fun n => (callsOf_note _ _ _).trans (List.append_nil _)

/-! ## Told of a directory -/

/-- The plugins of a registry were told of things that were not observed before, all of them of one thing before any of them of the
next. -/
structure Tells (r : Registry) (h : Host) (us : List Subject) (r' : Registry) (h' : Host) : Prop where
  instances : r'.instances = r.instances
  cues : h'.cues = h.cues ++ us.flatMap fun u => r.numbers.map fun n => (n, .entered u)
  distinct : us.Nodup
  observes : ∀ u, r'.observes u = true ↔ r.observes u = true ∨ u ∈ us

variable {us : List Subject} {r' r'' : Registry} {h'' : Host}

/-- The plugins are told of one thing more. -/
theorem Tells.appear (t : r.Tells h us r' h') {v : Subject} (hv : r'.observes v = false) (hi : r''.instances = r'.instances)
    (ho : ∀ u, r''.observes u = (decide (v = u) || r'.observes u))
    (hc : h''.cues = h'.cues ++ r'.numbers.map fun n => (n, .entered v)) : r.Tells h (us ++ [v]) r'' h'' := by
  have hnumbers : r'.numbers = r.numbers := congrArg (List.map _) t.instances
  have hnew : ∀ u ∈ us, u ≠ v := by
    rintro u hu rfl
    rw [(t.observes u).2 (Or.inr hu)] at hv
    cases hv
  refine ⟨hi.trans t.instances, ?_, ?_, ?_⟩
  · rw [hc, t.cues, hnumbers, List.flatMap_append, List.flatMap_singleton, List.append_assoc]
  · exact List.nodup_append.2 ⟨t.distinct, by simp, fun u hu w hw => List.mem_singleton.1 hw ▸ hnew u hu⟩
  · intro u
    rw [ho, Bool.or_eq_true, decide_eq_true_eq, t.observes, List.mem_append, List.mem_singleton, or_comm, or_assoc, @eq_comm _ u]

/-- The plugins are told of what is in a directory and was not observed before. -/
theorem tells_observe (r : Registry) (h : Host) (d : Directory) : ∃ us, r.Tells h us (r.observe h d).1 (r.observe h d).2 := by
  refine observe_induction (P := fun x => ∃ us, r.Tells h us x.1 x.2) ⟨[], rfl, by simp, List.nodup_nil, by simp⟩ ?_ ?_ d
  · intro r' h' c ⟨us, t⟩
    cases hc : r'.connections.contains c.id with
    | true =>
      unfold connectionAdded
      rw [if_pos hc]
      exact ⟨us, t.instances, (cues_log _ _).trans t.cues, t.distinct, t.observes⟩
    | false =>
      exact ⟨_, t.appear (v := .connection c.id) hc (instances_connectionAdded r' h' c) (r'.observes_connectionAdded h' c)
        (cues_connectionAdded hc)⟩
  · intro r' h' y ⟨us, t⟩
    cases hy : r'.sessions.contains y.id with
    | true =>
      unfold sessionAdded
      rw [if_pos hy]
      exact ⟨us, t.instances, (cues_log _ _).trans t.cues, t.distinct, t.observes⟩
    | false =>
      exact ⟨_, t.appear (v := .session y.id) hy (instances_sessionAdded r' h' y) (r'.observes_sessionAdded h' y)
        (cues_sessionAdded hy)⟩

/-! ## From the first call to the last -/

/-- What the plugins of a registry were called for since `h₀`, if all of them left between `h` and `h'`. -/
structure Tenure (r : Registry) (h₀ h h' : Host) : Prop where
  /-- The last that was loaded leaves first. Each sees all that is observed go away and is stopped before the next one leaves. -/
  leaving : h'.cues = h.cues ++ r.numbers.reverse.flatMap r.farewell
  /-- Each was started, told once of each thing that is observed, told once that it goes away, and stopped. -/
  stays : ∃ us : List Subject, us.Perm r.observed ∧ ∀ i ∈ r.instances, ∃ parameters told,
    h'.callsOf i.number = h₀.callsOf i.number ++ .started i.context parameters true :: (told ++ [.stopped]) ∧
      told.map Callback.cue = us.map Cue.entered ++ r.parting.map Cue.departed
  /-- Any other plugin failed to start and was stopped for that, or was not called. -/
  others : ∀ n ∉ r.numbers, h'.callsOf n = h₀.callsOf n ∨
    ∃ context parameters, h'.callsOf n = h₀.callsOf n ++ [.started context parameters false, .stopped]

/-- A plugin that leaves is called for the departures and its stop. -/
theorem farewell_eq (r : Registry) (n : Nat) :
    r.farewell n = (r.parting.map Cue.departed ++ [Cue.stopped]).map fun c => (n, c) := by
  rw [farewell, List.map_append, List.map_map]
  rfl

/-- Each plugin is told of what the plugins are told of. -/
theorem filterMap_arrivals {ns : List Nat} (hd : ns.Nodup) (n : Nat) (us : List Subject) :
    (us.flatMap fun u => ns.map fun m => (m, Cue.entered u)).filterMap (cueOf? n) = if n ∈ ns then us.map Cue.entered else [] := by
  have hone : ∀ u, (ns.map fun m => (m, Cue.entered u)).filterMap (cueOf? n) = if n ∈ ns then [Cue.entered u] else [] := by
    intro u
    have hmap : (ns.map fun m => (m, Cue.entered u)) = ns.flatMap fun m => [Cue.entered u].map fun c => (m, c) := List.map_eq_flatMap
    rw [hmap, filterMap_cueOf? hd]
  rw [List.filterMap_flatMap]
  simp only [hone]
  split
  · exact List.map_eq_flatMap.symm
  · exact List.flatMap_eq_nil_iff.2 fun _ _ => rfl

/-- Each plugin that leaves is called for its own farewell. -/
theorem filterMap_farewells (r : Registry) {ns : List Nat} (hd : ns.Nodup) (n : Nat) :
    (ns.reverse.flatMap r.farewell).filterMap (cueOf? n) =
      if n ∈ ns then r.parting.map Cue.departed ++ [Cue.stopped] else [] := by
  have hall : ns.reverse.flatMap r.farewell =
      ns.reverse.flatMap fun m => (r.parting.map Cue.departed ++ [Cue.stopped]).map fun c => (m, c) :=
    congrArg (List.flatMap · _) (funext r.farewell_eq)
  rw [hall, filterMap_cueOf? ((List.reverse_perm ns).nodup_iff.2 hd)]
  simp only [List.mem_reverse]

/-- Plugins that were started are told of a directory and told to leave. -/
theorem Untold.tenure (u : r.Untold h₀ h) (hr : r.Sound h) (d : Directory) (hcues : h'.cues = (r.observe h d).2.cues)
    (ha : (r.observe h d).2.Attends h') : (r.observe h d).1.Tenure h₀ h' ((r.observe h d).1.unloadAll h').2 := by
  obtain ⟨us, t⟩ := r.tells_observe h d
  have hi := t.instances
  have hn : (r.observe h d).1.numbers = r.numbers := congrArg (List.map _) hi
  have hk := (hr.observe d).keeps
  have hd : r.numbers.Nodup := hr.keeps.distinct
  have hleaving := cues_unloadAll (h := h') hk fun i hm => u.unstopped i (hi ▸ hm)
  have hnone : ∀ v, r.observes v = false := by
    intro v
    cases v with
    | connection id =>
      rw [observes, u.connections]
      rfl
    | session id =>
      rw [observes, u.sessions]
      rfl
  have hperm : us.Perm (r.observe h d).1.observed := by
    refine (List.perm_ext_iff_of_nodup t.distinct hk.nodup_observed).2 fun v => ?_
    rw [mem_observed, t.observes, hnone, Bool.false_eq_true, false_or]
  -- what a plugin was called for since it was told of nothing
  have hcalls : ∀ n, ∃ calls, ((r.observe h d).1.unloadAll h').2.callsOf n = h.callsOf n ++ calls ∧
      calls.map Callback.cue = if n ∈ r.numbers then
        us.map Cue.entered ++ (r.observe h d).1.parting.map Cue.departed ++ [Cue.stopped] else [] := by
    intro n
    have hall := hleaving
    rw [hcues, t.cues, List.append_assoc, hn] at hall
    have htrace := (((r.attends_observe h d).trans ha).trans ((r.observe h d).1.attends_unloadAll h')).trace
    obtain ⟨calls, hc, hm⟩ := callsOf_of_cues htrace hall n
    refine ⟨calls, hc, ?_⟩
    rw [hm, List.filterMap_append, filterMap_arrivals hd, filterMap_farewells _ hd]
    split
    · rw [List.append_assoc]
    · rfl
  refine ⟨hleaving, ⟨us, hperm, ?_⟩, ?_⟩
  · intro i hm
    rw [hi] at hm
    obtain ⟨parameters, hstart⟩ := u.started i hm
    obtain ⟨calls, hc, hcue⟩ := hcalls i.number
    rw [if_pos (number_mem hm), List.map_eq_append_iff] at hcue
    obtain ⟨told, last, rfl, htold, hlast⟩ := hcue
    obtain ⟨c, rfl, hstop⟩ := List.map_eq_singleton_iff.1 hlast
    refine ⟨parameters, told, ?_, htold⟩
    rw [hc, hstart, Callback.cue_eq_stopped.1 hstop, List.append_assoc]
    rfl
  · intro n hm
    rw [hn] at hm
    obtain ⟨calls, hc, hcue⟩ := hcalls n
    rw [if_neg hm, List.map_eq_nil_iff] at hcue
    rw [hc, hcue, List.append_nil]
    exact u.others n hm

/-- A batch is put into a new registry, where nobody was called since `h₀`, and all that were loaded are unloaded again. -/
theorem tenure_loadAll (hc : ∀ n, h.callsOf n = h₀.callsOf n) (source : ModuleSource) (requested : List String)
    (parameters : String → ParameterTable) (d : Directory) :
    (loadAll {} h source requested parameters d).2.1.Tenure h₀ (loadAll {} h source requested parameters d).2.2
      ((loadAll {} h source requested parameters d).2.1.unloadAll (loadAll {} h source requested parameters d).2.2).2 := by
  have hb := List.foldlRecOn requested (Batch.step source parameters d.storage)
    (motive := fun b => b.registry.Untold h₀ b.host) (b := { registry := {}, host := h }) (untold_empty hc)
    fun b hb name _ => hb.batchStep source parameters d.storage name
  have hr := Batch.sound_foldl source parameters d.storage requested (b := { registry := {}, host := h }) (sound_empty h)
  unfold Registry.loadAll
  dsimp only
  split
  · exact hb.tenure hr d (cues_log _ _) (attends_log _ _)
  · exact hb.tenure hr d rfl (Attends.refl _)

end Registry

end CoEdit
