import CoEdit.Proofs.Plugin.Lifecycle
import CoEdit.Proofs.Plugin.Likeness

/-!
# Outcomes of batches

A batch makes an attempt for each name of its list that is not seen before and not the name of a plugin of the registry, once and
in the order of the list (`Registry.names_attempts`). Its report tells what came of the attempts (`Registry.report_loadAll`), and
the plugins that were loaded follow those there were (`Registry.active_loadAll`). Every plugin that is loaded has the name that was
asked for, and every failure carries it.
-/

namespace CoEdit

/-! ## The name that was asked for -/

namespace ModuleSource

variable {d : Disk} {name : String} {e : LoadError}

theorem plugin_of_openLibrary {opener : LibraryOpener} {directory : Path}
    (h : openLibrary opener d directory name = .error e) : e.plugin = name := by
  rw [openLibrary] at h
  split at h
  · cases h
    rfl
  · split at h
    · cases h
    · cases h
      rfl
    · cases h
      rfl

mutual

/-- A source that has no module says so of the name that was asked for. -/
theorem plugin_of_resolve : ∀ source : ModuleSource, source.resolve d name = .error e → e.plugin = name
  | .builtin modules => by
    intro h
    rw [resolve] at h
    split at h
    · cases h
    · cases h
      rfl
  | .libraries directory opener => fun h => plugin_of_openLibrary (by rwa [resolve] at h)
  | .chained sources => fun h => plugin_of_resolveFirst sources [] (by rwa [resolve] at h)

theorem plugin_of_resolveFirst : ∀ (sources : List ModuleSource) (reasons : List String),
    resolveFirst d name reasons sources = .error e → e.plugin = name
  | [], reasons => by
    intro h
    rw [resolveFirst] at h
    cases h
    rfl
  | source :: rest, reasons => by
    intro h
    rw [resolveFirst] at h
    split at h
    · exact plugin_of_resolveFirst rest _ h
    · exact plugin_of_resolve source h

end

/-- A failure to load a plugin carries the name that was asked for. -/
theorem plugin_of_load {source : ModuleSource} {h : Host} {raw : ParameterTable} {storage : DocumentStore}
    (hl : (source.load h name raw storage).1 = .error e) : e.plugin = name := by
  unfold ModuleSource.load at hl
  split at hl
  · rename_i hr
    cases hl
    exact plugin_of_resolve source hr
  · rename_i m _
    split at hl
    · rename_i hf
      cases hl
      unfold PluginModule.fault? at hf
      split at hf
      · cases hf
        rfl
      · split at hf
        · cases hf
          rfl
        · cases hf
    · rw [PluginDescriptor.start_eq] at hl
      split at hl
      · cases hl
        rfl
      · split at hl
        · cases hl
        · cases hl
          rfl

/-- A plugin that was loaded has the name that was asked for. -/
theorem name_of_load {source : ModuleSource} {h : Host} {raw : ParameterTable} {storage : DocumentStore} {i : PluginInstance}
    (hl : (source.load h name raw storage).1 = .ok i) : i.name = name := by
  rcases source.load_cases h name raw storage with ⟨e, he⟩ | ⟨e, he⟩ | ⟨j, ps, reaction, -, hj, -, -, he⟩ |
    ⟨j, ps, e, reaction, -, -, -, he⟩
  all_goals
    rw [he] at hl
    cases hl
  exact hj

end ModuleSource

/-! ## Attempts -/

namespace LoadAttempt

/-- Why the plugin was not loaded, if it was not. -/
def failure? (a : LoadAttempt) : Option LoadError :=
  match a.result with
  | .ok _ => none
  | .error e => some e

variable {a : LoadAttempt}

theorem failure?_ok {i : PluginInstance} (hr : a.result = .ok i) : a.failure? = none := by rw [failure?, hr]

theorem failure?_error {e : LoadError} (hr : a.result = .error e) : a.failure? = some e := by rw [failure?, hr]

theorem plugin_of_failure? {e : LoadError} (he : a.failure? = some e) : e.plugin = a.name := by
  cases hr : a.result with
  | ok i =>
    rw [failure?_ok hr] at he
    cases he
  | error e' =>
    rw [failure?_error hr] at he
    cases he
    exact ModuleSource.plugin_of_load hr

/-- The plugins that attempts loaded. -/
def instances (as : List LoadAttempt) : List PluginInstance := as.flatMap loaded

/-- Why the other attempts failed. -/
def failures (as : List LoadAttempt) : List LoadError := as.filterMap failure?

/-- The names of the attempts that loaded a plugin. -/
def loadedNames (as : List LoadAttempt) : List String := (as.filter fun a => a.failure?.isNone).map (·.name)

theorem instances_append (as bs : List LoadAttempt) : instances (as ++ bs) = instances as ++ instances bs := List.flatMap_append

theorem failures_append (as bs : List LoadAttempt) : failures (as ++ bs) = failures as ++ failures bs := List.filterMap_append

theorem loadedNames_append (as bs : List LoadAttempt) : loadedNames (as ++ bs) = loadedNames as ++ loadedNames bs := by
  rw [loadedNames, List.filter_append, List.map_append, loadedNames, loadedNames]

/-- What an attempt that loaded a plugin adds. -/
theorem of_ok {i : PluginInstance} (hr : a.result = .ok i) :
    instances [a] = [i] ∧ failures [a] = [] ∧ loadedNames [a] = [a.name] := by
  refine ⟨?_, ?_, ?_⟩
  · rw [instances, List.flatMap_singleton, loaded_ok hr]
  · rw [failures, List.filterMap_cons_none (failure?_ok hr), List.filterMap_nil]
  · simp [loadedNames, failure?_ok hr]

/-- What an attempt that failed adds. -/
theorem of_error {e : LoadError} (hr : a.result = .error e) :
    instances [a] = [] ∧ failures [a] = [e] ∧ loadedNames [a] = [] := by
  refine ⟨?_, ?_, ?_⟩
  · rw [instances, List.flatMap_singleton, loaded_error hr]
  · rw [failures, List.filterMap_cons_some (failure?_error hr), List.filterMap_nil]
  · simp [loadedNames, failure?_error hr]

/-- A plugin that was loaded has the name of the attempt. -/
theorem names_instances (as : List LoadAttempt) : (instances as).map (·.name) = loadedNames as := by
  induction as with
  | nil => rfl
  | cons a as ih =>
    rw [← List.singleton_append, instances_append, loadedNames_append, List.map_append, ih]
    cases hr : a.result with
    | ok i =>
      have hn : i.name = a.name := ModuleSource.name_of_load hr
      rw [(of_ok hr).1, (of_ok hr).2.2, List.map_singleton, hn]
    | error e => rw [(of_error hr).1, (of_error hr).2.2, List.map_nil]

/-- Every attempt loaded a plugin or failed, and is told of by its name. -/
theorem perm_names (as : List LoadAttempt) : (loadedNames as ++ (failures as).map (·.plugin)).Perm (as.map (·.name)) := by
  induction as with
  | nil => exact List.Perm.refl []
  | cons a as ih =>
    rw [← List.singleton_append, loadedNames_append, failures_append, List.map_append, List.map_append, List.map_singleton]
    cases hr : a.result with
    | ok i =>
      rw [(of_ok hr).2.1, (of_ok hr).2.2]
      exact ih.cons a.name
    | error e =>
      have he : e.plugin = a.name := plugin_of_failure? (failure?_error hr)
      rw [(of_error hr).2.1, (of_error hr).2.2, List.map_singleton, he]
      exact List.perm_middle.trans (ih.cons a.name)

/-- A name whose attempt failed is not that of an attempt that loaded a plugin, if the names are distinct. -/
theorem plugin_not_mem_loadedNames {as : List LoadAttempt} (hd : (as.map (·.name)).Nodup) {e : LoadError} (he : e ∈ failures as) :
    e.plugin ∉ loadedNames as := fun hm =>
  (List.nodup_append.1 ((perm_names as).nodup_iff.2 hd)).2.2 _ hm _ (List.mem_map_of_mem he) rfl

/-- No attempt failed if and only if all loaded a plugin. -/
theorem failures_eq_nil_iff {as : List LoadAttempt} (hd : (as.map (·.name)).Nodup) :
    failures as = [] ↔ ∀ name ∈ as.map (·.name), name ∈ loadedNames as := by
  have hperm := perm_names as
  constructor
  · intro hf name hname
    rw [hf, List.map_nil, List.append_nil] at hperm
    exact hperm.mem_iff.2 hname
  · intro hall
    refine List.eq_nil_iff_forall_not_mem.2 fun e he => plugin_not_mem_loadedNames hd he (hall _ ?_)
    exact hperm.mem_iff.1 (List.mem_append_right _ (List.mem_map_of_mem he))

/-- The first failure is that of the first name whose attempt did not load a plugin. -/
theorem find?_names {as : List LoadAttempt} (hd : (as.map (·.name)).Nodup) {e : LoadError} {rest : List LoadError}
    (hf : failures as = e :: rest) : (as.map (·.name)).find? (fun name => name ∉ loadedNames as) = some e.plugin := by
  have hnot := plugin_not_mem_loadedNames hd (hf ▸ List.mem_cons_self)
  obtain ⟨before, a, after, rfl, hbefore, ha, -⟩ := List.filterMap_eq_cons_iff.1 hf
  refine List.find?_eq_some_iff_append.2 ⟨decide_eq_true hnot, before.map (·.name), after.map (·.name), ?_, ?_⟩
  · rw [List.map_append, List.map_cons, plugin_of_failure? ha]
  · intro name hname
    obtain ⟨b, hb, rfl⟩ := List.mem_map.1 hname
    have hloaded : b.name ∈ loadedNames (before ++ a :: after) :=
      List.mem_map_of_mem (List.mem_filter.2 ⟨List.mem_append_left _ hb, by rw [hbefore b hb]; rfl⟩)
    simpa using hloaded

end LoadAttempt

/-! ## Batches -/

/-- The first occurrences of the elements of a list are distinct. -/
theorem nodup_eraseDups {α : Type} [BEq α] [LawfulBEq α] : ∀ l : List α, l.eraseDups.Nodup
  | [] => List.nodup_nil
  | a :: l => by
    rw [List.eraseDups_cons, List.nodup_cons]
    exact ⟨by simp [List.mem_eraseDups], nodup_eraseDups (l.filter fun b => !b == a)⟩
  termination_by l => l.length
  decreasing_by exact Nat.lt_succ_of_le (List.length_filter_le _ l)

/-- The first element that a test holds of is the first of the distinct ones. -/
theorem find?_eraseDups {α : Type} [BEq α] [LawfulBEq α] (p : α → Bool) : ∀ l : List α, l.eraseDups.find? p = l.find? p
  | [] => rfl
  | a :: l => by
    rw [List.eraseDups_cons, List.find?_cons, List.find?_cons]
    cases hp : p a with
    | true => rfl
    | false =>
      dsimp only
      rw [find?_eraseDups p (l.filter fun b => !b == a), List.find?_filter]
      refine congrArg (List.find? · l) (funext fun b => ?_)
      cases hb : b == a with
      | false => simp
      | true =>
        rw [eq_of_beq hb, hp]
        simp
  termination_by l => l.length
  decreasing_by exact Nat.lt_succ_of_le (List.length_filter_le _ l)

theorem Registry.contains_iff (r : Registry) (name : String) : r.contains name = true ↔ name ∈ r.active := by
  rw [contains, named?, List.isSome_find?, List.any_eq_true, active, List.mem_map]
  simp only [decide_eq_true_eq]

namespace Batch

open LoadAttempt

variable (source : ModuleSource) (parameters : String → ParameterTable) (storage : DocumentStore)

/-- Whether a name is neither seen before nor that of a plugin of the registry. -/
def isFresh (b : Batch) (name : String) : Bool := !(b.seen.contains name || b.registry.contains name)

/-- A batch went on by attempts. -/
structure Proceeds (b : Batch) (as : List LoadAttempt) (b' : Batch) : Prop where
  loaded : b'.report.loaded = b.report.loaded ++ loadedNames as
  failures : b'.report.failures = b.report.failures ++ LoadAttempt.failures as
  instances : b'.registry.instances = b.registry.instances ++ LoadAttempt.instances as

variable {b b' b'' : Batch} {as as' : List LoadAttempt}

theorem Proceeds.refl (b : Batch) : b.Proceeds [] b where
  loaded := by simp [loadedNames]
  failures := by simp [LoadAttempt.failures]
  instances := by simp [LoadAttempt.instances]

theorem Proceeds.trans (g : b.Proceeds as b') (g' : b'.Proceeds as' b'') : b.Proceeds (as ++ as') b'' where
  loaded := by rw [g'.loaded, g.loaded, loadedNames_append, List.append_assoc]
  failures := by rw [g'.failures, g.failures, failures_append, List.append_assoc]
  instances := by rw [g'.instances, g.instances, instances_append, List.append_assoc]

theorem Proceeds.active (g : b.Proceeds as b') : b'.registry.active = b.registry.active ++ loadedNames as := by
  rw [Registry.active, g.instances, List.map_append, names_instances, Registry.active]

/-- A batch passes a name that is not fresh. -/
theorem step_of_not_fresh {name : String} (hf : b.isFresh name = false) :
    b.attempt? source parameters storage name = none ∧ (b.step source parameters storage name).report = b.report ∧
      (b.step source parameters storage name).registry = b.registry := by
  rw [isFresh, Bool.not_eq_false'] at hf
  refine ⟨if_pos hf, ?_⟩
  unfold Batch.step
  cases hs : b.seen.contains name with
  | true => exact ⟨rfl, rfl⟩
  | false =>
    have hc : b.registry.contains name = true := by rwa [hs, Bool.false_or] at hf
    simp only [hc, Bool.false_eq_true, if_false, if_true]
    exact ⟨rfl, rfl⟩

/-- A batch attempts to load the plugin of a name that is fresh. -/
theorem step_of_fresh {name : String} (hf : b.isFresh name = true) :
    b.attempt? source parameters storage name = some { source, host := b.host, name, raw := parameters name, storage } ∧
      b.step source parameters storage name = { b with seen := name :: b.seen }.loadOne source parameters storage name := by
  rw [isFresh, Bool.not_eq_true', Bool.or_eq_false_iff] at hf
  rw [attempt?, Batch.step, hf.1, if_neg Bool.false_ne_true]
  dsimp only
  rw [hf.2]
  exact ⟨rfl, rfl⟩

theorem proceeds_loadOne (b : Batch) (name : String) :
    b.Proceeds [{ source, host := b.host, name, raw := parameters name, storage }] (b.loadOne source parameters storage name) := by
  let a : LoadAttempt := { source, host := b.host, name, raw := parameters name, storage }
  show b.Proceeds [a] _
  unfold Batch.loadOne
  cases hr : a.result with
  | ok i =>
    have hl : source.load b.host name (parameters name) storage = (.ok i, a.after) := Prod.ext hr rfl
    obtain ⟨hi, hf, hn⟩ := of_ok hr
    rw [hl]
    exact ⟨by rw [hn], by rw [hf, List.append_nil], by rw [hi]; rfl⟩
  | error e =>
    have hl : source.load b.host name (parameters name) storage = (.error e, a.after) := Prod.ext hr rfl
    obtain ⟨hi, hf, hn⟩ := of_error hr
    rw [hl]
    exact ⟨by rw [hn, List.append_nil], by rw [hf], by rw [hi, List.append_nil]⟩

/-- A batch takes up its next name by an attempt, or passes it. -/
theorem proceeds_step (b : Batch) (name : String) :
    b.Proceeds (b.attempt? source parameters storage name).toList (b.step source parameters storage name) := by
  cases hf : b.isFresh name with
  | true =>
    obtain ⟨ha, hs⟩ := step_of_fresh source parameters storage hf
    rw [ha, hs]
    obtain ⟨hloaded, hfailures, hinstances⟩ :=
      proceeds_loadOne source parameters storage { b with seen := name :: b.seen } name
    exact ⟨hloaded, hfailures, hinstances⟩
  | false =>
    obtain ⟨ha, hreport, hregistry⟩ := step_of_not_fresh source parameters storage hf
    rw [ha]
    exact ⟨by simp [hreport, loadedNames], by simp [hreport, LoadAttempt.failures], by simp [hregistry, LoadAttempt.instances]⟩

/-- A batch takes up its names by its attempts. -/
theorem proceeds_batch (names : List String) (b : Batch) :
    b.Proceeds (b.attempts source parameters storage names) (names.foldl (Batch.step source parameters storage) b) := by
  induction names generalizing b with
  | nil => exact Proceeds.refl b
  | cons name names ih => exact (b.proceeds_step source parameters storage name).trans (ih _)

theorem contains_seen_step (b : Batch) (name other : String) :
    (b.step source parameters storage name).seen.contains other = (other == name || b.seen.contains other) := by
  unfold Batch.step
  split
  · rename_i hs
    cases ho : other == name with
    | false => rfl
    | true =>
      rw [eq_of_beq ho]
      exact hs
  · dsimp only
    split
    · exact List.contains_cons
    · unfold Batch.loadOne
      split <;> exact List.contains_cons

/-- A name that was taken up is not fresh any more, and the others stay what they were. -/
theorem isFresh_step (b : Batch) (name other : String) :
    (b.step source parameters storage name).isFresh other = (b.isFresh other && !other == name) := by
  rw [isFresh, contains_seen_step, isFresh]
  cases ho : other == name with
  | true => simp
  | false =>
    have hc : (b.step source parameters storage name).registry.contains other = b.registry.contains other := by
      have hne : other ≠ name := ne_of_beq_false ho
      rw [Bool.eq_iff_iff, Registry.contains_iff, Registry.contains_iff, (b.proceeds_step source parameters storage name).active,
        List.mem_append]
      refine or_iff_left fun hm => ?_
      obtain ⟨a, ha, rfl⟩ := List.mem_map.1 hm
      have ha := (List.mem_filter.1 ha).1
      unfold attempt? at ha
      split at ha
      · simp at ha
      · exact hne (by rw [List.mem_singleton.1 ha])
    simp [hc]

/-- The attempts of a batch are made for the first occurrences of the names that are fresh. -/
theorem names_attempts (names : List String) (b : Batch) :
    (b.attempts source parameters storage names).map (·.name) = (names.filter b.isFresh).eraseDups := by
  induction names generalizing b with
  | nil => rfl
  | cons name names ih =>
    have hrest : names.filter (b.step source parameters storage name).isFresh =
        (names.filter b.isFresh).filter fun other => !other == name := by
      rw [List.filter_filter]
      exact List.filter_congr fun other _ => by rw [isFresh_step, Bool.and_comm]
    rw [attempts, List.map_append, ih, hrest]
    cases hf : b.isFresh name with
    | true =>
      rw [(step_of_fresh source parameters storage hf).1, List.filter_cons_of_pos hf, List.eraseDups_cons]
      rfl
    | false =>
      rw [(step_of_not_fresh source parameters storage hf).1, List.filter_cons_of_neg (by rw [hf]; exact Bool.false_ne_true),
        List.filter_eq_self.2]
      · rfl
      · intro other ho
        cases hb : other == name with
        | false => rfl
        | true =>
          have := (List.mem_filter.1 ho).2
          rw [eq_of_beq hb, hf] at this
          cases this

end Batch

namespace Registry

variable (r : Registry) (h : Host) (source : ModuleSource) (requested : List String) (parameters : String → ParameterTable)
  (d : Directory)

/-- The names of a list that no plugin has, each where it occurs first. -/
def missing : List String := (requested.filter fun name => name ∉ r.active).eraseDups

theorem nodup_missing : (r.missing requested).Nodup := nodup_eraseDups _

theorem mem_missing (name : String) : name ∈ r.missing requested ↔ name ∈ requested ∧ name ∉ r.active := by
  rw [missing, List.mem_eraseDups, List.mem_filter, decide_eq_true_eq]

/-- The attempts to load the plugins of a list. -/
def attempts : List LoadAttempt := Batch.attempts source parameters d.storage { registry := r, host := h } requested

/-- The attempts are made for the names that no plugin has. -/
theorem names_attempts : (r.attempts h source requested parameters d).map (·.name) = r.missing requested := by
  rw [attempts, Batch.names_attempts, missing]
  congr 1
  refine List.filter_congr fun name _ => ?_
  rw [Batch.isFresh, List.contains_nil, Bool.false_or, Bool.eq_iff_iff, Bool.not_eq_true', decide_eq_true_eq, ← contains_iff,
    Bool.not_eq_true]

/-- The plugins of a list that were loaded follow those there were. -/
theorem instances_loadAll : (r.loadAll h source requested parameters d).2.1.instances =
    r.instances ++ LoadAttempt.instances (r.attempts h source requested parameters d) := by
  have g := Batch.proceeds_batch source parameters d.storage requested { registry := r, host := h }
  unfold loadAll
  exact (instances_observe _ _ d).trans g.instances

/-- The report on a list tells what came of the attempts. -/
theorem report_loadAll : (r.loadAll h source requested parameters d).1 =
    { loaded := LoadAttempt.loadedNames (r.attempts h source requested parameters d)
      failures := LoadAttempt.failures (r.attempts h source requested parameters d) } := by
  have g := Batch.proceeds_batch source parameters d.storage requested { registry := r, host := h }
  unfold loadAll
  exact congr (congrArg LoadReport.mk g.loaded) g.failures

/-- The names of the plugins that were loaded follow those there were. -/
theorem active_loadAll : (r.loadAll h source requested parameters d).2.1.active =
    r.active ++ (r.loadAll h source requested parameters d).1.loaded := by
  rw [active, instances_loadAll, List.map_append, LoadAttempt.names_instances, report_loadAll, active]

/-- Every name that no plugin had is reported as loaded or as failed, and no other name is. -/
theorem reported_loadAll : ((r.loadAll h source requested parameters d).1.loaded ++
    (r.loadAll h source requested parameters d).1.failures.map (·.plugin)).Perm (r.missing requested) := by
  rw [report_loadAll, ← names_attempts r h source requested parameters d]
  exact LoadAttempt.perm_names _

end Registry

end CoEdit
