import CoEdit.Proofs.Plugin.Layers
import CoEdit.Proofs.Plugin.Outcomes

/-!
# How attempts to load a plugin end

An attempt to load a plugin goes through checks, and the first that fails decides why the plugin is not loaded. `LoadAttempt.Ending`
lists the ways in which an attempt ends, each with the checks that were passed, the result, and what was made and called on the way
(`Host.deeds`). An attempt ends in exactly one of them (`LoadAttempt.ending_iff`).

The attempts of a run follow each other (`PluginRun.between_performAll`), so that no two of them make plugins of the same number.
`LoadAttempt.ends_by_checks` puts this together.
-/

namespace CoEdit

/-! ## What was done -/

/-- Whether an occurrence is that something was said. -/
def Occurrence.isSaid : Occurrence → Bool
  | .said _ => true
  | _ => false

namespace Host

/-- What happened but for what was said, the oldest first. -/
def deeds (h : Host) : List Occurrence := h.trace.filter fun o => !o.isSaid

variable (h : Host) (n : Nat) (p : String) (c : Callback)

theorem deeds_make : (h.make p).deeds = h.deeds ++ [.created h.nextPlugin p] := List.filter_append _ _

theorem deeds_call (r : Reaction) : (h.call n p c r).deeds = h.deeds ++ [.called n p c] := by
  have hsaid : (r.said.map Occurrence.said).filter (fun o => !o.isSaid) = [] := by
    simp [List.filter_map, Function.comp_def, Occurrence.isSaid]
  rw [deeds, call, react, note, List.filter_append, hsaid, List.append_nil]
  exact List.filter_append _ _

end Host

theorem PluginInstance.deeds_retire {i : PluginInstance} (hi : i.isStopped = false) (h : Host) :
    (i.retire h).deeds = h.deeds ++ [.called i.number i.name .stopped] := by
  rw [retire_eq, stop, if_neg (by simp [hi])]
  exact Host.deeds_call _ _ _ _ _

/-! ## Checks and endings -/

namespace LoadAttempt

/-- What the plugin is started with. -/
def context (a : LoadAttempt) : PluginContext := { name := a.name, storage := a.storage }

/-- The attempt finds a module. -/
def Finds (a : LoadAttempt) (m : PluginModule) : Prop := a.source.resolve a.host.disk a.name = .ok m

/-- The attempt finds a module that is made for this server and calls itself by the name that is asked for. -/
structure Admits (a : LoadAttempt) (m : PluginModule) : Prop where
  found : a.Finds m
  version : m.descriptor.apiVersion = pluginApiVersion
  name : m.descriptor.name = a.name

/-- The attempt admits a module and reads the parameters as the module declares them. -/
structure Reads (a : LoadAttempt) (m : PluginModule) (ps : PluginParameters) : Prop extends a.Admits m where
  parameters : PluginParameters.parse m.descriptor.parameters a.raw = .ok ps

/-- What comes of starting the plugin of a module. -/
def starting (a : LoadAttempt) (m : PluginModule) (ps : PluginParameters) : Except PluginError RunningPlugin :=
  (m.descriptor.plugin.start a.host.surroundings a.context ps).1

/-- The ways in which an attempt ends, with its result and what is done on the way. -/
inductive Ending (a : LoadAttempt) : Except LoadError PluginInstance → List Occurrence → Prop
  /-- There is no module, or none that can be used. -/
  | unresolved {e : LoadError} (he : a.source.resolve a.host.disk a.name = .error e) : Ending a (.error e) []
  | wrongApi {m : PluginModule} (hm : a.Finds m) (hv : m.descriptor.apiVersion ≠ pluginApiVersion) :
      Ending a (.error (.wrongApi a.name m.descriptor.apiVersion)) []
  | wrongName {m : PluginModule} (hm : a.Finds m) (hv : m.descriptor.apiVersion = pluginApiVersion)
      (hn : m.descriptor.name ≠ a.name) : Ending a (.error (.wrongName a.name m.descriptor.name)) []
  /-- The plugin is made and never called. -/
  | unreadable {m : PluginModule} {e : PluginError} (hm : a.Admits m)
      (he : PluginParameters.parse m.descriptor.parameters a.raw = .error e) :
      Ending a (.error (.parameters a.name e)) [.created a.host.nextPlugin a.name]
  /-- The plugin fails to start and is stopped. -/
  | notStarted {m : PluginModule} {ps : PluginParameters} {e : PluginError} (hm : a.Reads m ps) (he : a.starting m ps = .error e) :
      Ending a (.error (.notStarted a.name e))
        [.created a.host.nextPlugin a.name, .called a.host.nextPlugin a.name (.started a.context ps false),
          .called a.host.nextPlugin a.name .stopped]
  | started {m : PluginModule} {ps : PluginParameters} {running : RunningPlugin} (hm : a.Reads m ps)
      (hr : a.starting m ps = .ok running) :
      Ending a (.ok { number := a.host.nextPlugin, descriptor := m.descriptor, context := a.context, running })
        [.created a.host.nextPlugin a.name, .called a.host.nextPlugin a.name (.started a.context ps true)]

variable {a b : LoadAttempt} {m : PluginModule} {ps : PluginParameters}

/-! ## One ending -/

theorem fault?_wrongApi (hv : m.descriptor.apiVersion ≠ pluginApiVersion) (name : String) :
    m.fault? name = some (.wrongApi name m.descriptor.apiVersion) := by
  rw [PluginModule.fault?, if_pos hv]

theorem fault?_wrongName {name : String} (hv : m.descriptor.apiVersion = pluginApiVersion) (hn : m.descriptor.name ≠ name) :
    m.fault? name = some (.wrongName name m.descriptor.name) := by
  rw [PluginModule.fault?, if_neg (not_not.2 hv), if_pos hn]

/-- A module in which something is wrong ends the attempt before a plugin is made. -/
theorem load_of_fault {e : LoadError} (hm : a.Finds m) (he : m.fault? a.name = some e) :
    a.source.load a.host a.name a.raw a.storage = (.error e, a.host) := by
  rw [ModuleSource.load, hm]
  dsimp only
  rw [he]

/-- A module that is admitted is made a plugin of. -/
theorem load_of_admits (hm : a.Admits m) :
    a.source.load a.host a.name a.raw a.storage = m.descriptor.start a.host a.name a.raw a.storage := by
  have hfault : m.fault? a.name = none := by
    rw [PluginModule.fault?, if_neg (not_not.2 hm.version), if_neg (not_not.2 hm.name)]
  rw [ModuleSource.load, hm.found]
  dsimp only
  rw [hfault]

/-- Where the parameters are read, the plugin is made and started, and stopped if it fails to start. -/
theorem load_of_reads (hm : a.Reads m ps) : ∃ reaction,
    a.source.load a.host a.name a.raw a.storage = match a.starting m ps with
      | .ok running =>
        (.ok { number := a.host.nextPlugin, descriptor := m.descriptor, context := a.context, running },
          (a.host.make a.name).call a.host.nextPlugin a.name (.started a.context ps true) reaction)
      | .error e =>
        (.error (.notStarted a.name e),
          PluginInstance.retire
            { number := a.host.nextPlugin, descriptor := m.descriptor, context := a.context
              running := { stop := m.descriptor.plugin.abandon } }
            ((a.host.make a.name).call a.host.nextPlugin a.name (.started a.context ps false) reaction)) := by
  rw [load_of_admits hm.toAdmits, PluginDescriptor.start_eq, hm.parameters, starting, context]
  dsimp only
  generalize m.descriptor.plugin.start a.host.surroundings { name := a.name, storage := a.storage } ps = outcome
  obtain ⟨started, reaction⟩ := outcome
  refine ⟨reaction, ?_⟩
  cases started <;> rfl

/-- An ending tells what the attempt comes to. -/
theorem Ending.comes {r : Except LoadError PluginInstance} {os : List Occurrence} (h : a.Ending r os) :
    a.result = r ∧ a.after.deeds = a.host.deeds ++ os := by
  cases h with
  | unresolved he => simp [result, after, ModuleSource.load, he]
  | wrongApi hm hv => simp [result, after, load_of_fault hm (fault?_wrongApi hv _)]
  | wrongName hm hv hn => simp [result, after, load_of_fault hm (fault?_wrongName hv hn)]
  | unreadable hm he =>
    rw [result, after, load_of_admits hm, PluginDescriptor.start_eq, he]
    exact ⟨rfl, Host.deeds_make _ _⟩
  | notStarted hm he =>
    obtain ⟨reaction, hl⟩ := load_of_reads hm
    rw [he] at hl
    rw [result, after, hl]
    refine ⟨rfl, ?_⟩
    rw [PluginInstance.deeds_retire rfl, Host.deeds_call, Host.deeds_make, PluginInstance.name, hm.name]
    simp
  | started hm hr =>
    obtain ⟨reaction, hl⟩ := load_of_reads hm
    rw [hr] at hl
    rw [result, after, hl]
    refine ⟨rfl, ?_⟩
    rw [Host.deeds_call, Host.deeds_make]
    simp

/-- There is always an ending: each check is passed or not. -/
theorem exists_ending (a : LoadAttempt) : ∃ r os, a.Ending r os := by
  cases hm : a.source.resolve a.host.disk a.name with
  | error e => exact ⟨_, _, .unresolved hm⟩
  | ok m =>
    by_cases hv : m.descriptor.apiVersion = pluginApiVersion
    · by_cases hn : m.descriptor.name = a.name
      · have hadmits : a.Admits m := ⟨hm, hv, hn⟩
        cases hp : PluginParameters.parse m.descriptor.parameters a.raw with
        | error e => exact ⟨_, _, .unreadable hadmits hp⟩
        | ok ps =>
          cases hs : a.starting m ps with
          | error e => exact ⟨_, _, .notStarted ⟨hadmits, hp⟩ hs⟩
          | ok running => exact ⟨_, _, .started ⟨hadmits, hp⟩ hs⟩
      · exact ⟨_, _, .wrongName hm hv hn⟩
    · exact ⟨_, _, .wrongApi hm hv⟩

/-- An attempt ends in one way, and the ending tells what it comes to. -/
theorem ending_iff (a : LoadAttempt) (r : Except LoadError PluginInstance) (os : List Occurrence) :
    a.Ending r os ↔ a.result = r ∧ a.after.deeds = a.host.deeds ++ os := by
  refine ⟨Ending.comes, ?_⟩
  rintro ⟨rfl, hos⟩
  obtain ⟨r, os', h⟩ := a.exists_ending
  obtain ⟨rfl, hos'⟩ := h.comes
  obtain rfl : os = os' := List.append_cancel_left (hos.symm.trans hos')
  exact h

/-- A plugin is loaded exactly if all checks are passed. -/
theorem result_ok_iff (a : LoadAttempt) :
    (∃ i, a.result = .ok i) ↔ ∃ m ps running, a.Reads m ps ∧ a.starting m ps = .ok running := by
  constructor
  · rintro ⟨i, hi⟩
    obtain ⟨r, os, h⟩ := a.exists_ending
    obtain rfl := hi.symm.trans h.comes.1
    cases h with
    | @started m ps running hm hr => exact ⟨m, ps, running, hm, hr⟩
  · rintro ⟨m, ps, running, hm, hr⟩
    exact ⟨_, (Ending.started hm hr).comes.1⟩

/-- An attempt that loads a plugin has made it. -/
theorem makes_of_ok {i : PluginInstance} (hi : a.result = .ok i) : a.Makes i.number a.name := by
  rcases a.source.load_cases a.host a.name a.raw a.storage with ⟨e, he⟩ | ⟨e, he⟩ | ⟨j, ps, reaction, hj, -, -, -, he⟩ |
    ⟨j, ps, e, reaction, -, -, -, he⟩
  all_goals
    rw [result, he] at hi
    cases hi
  exact ⟨hj.symm, rfl, by rw [after, he, hj]; rfl⟩

end LoadAttempt

/-! ## One attempt after the other -/

/-- Attempts are made one after the other between two hosts. -/
structure LoadAttempt.Between (h : Host) (as : List LoadAttempt) (h' : Host) : Prop where
  onward : h.nextPlugin ≤ h'.nextPlugin
  apart : as.Pairwise fun a b => a.after.nextPlugin ≤ b.host.nextPlugin
  within : ∀ a ∈ as, h.nextPlugin ≤ a.host.nextPlugin ∧ a.after.nextPlugin ≤ h'.nextPlugin

namespace LoadAttempt.Between

variable {h h' h'' : Host} {as bs : List LoadAttempt}

theorem none (hle : h.nextPlugin ≤ h'.nextPlugin) : Between h [] h' := ⟨hle, List.Pairwise.nil, by simp⟩

theorem one (a : LoadAttempt) (hle : a.after.nextPlugin ≤ h.nextPlugin) : Between a.host [a] h := by
  have ha : a.host.nextPlugin ≤ a.after.nextPlugin := (a.source.attends_load a.host a.name a.raw a.storage).nextPlugin
  exact ⟨Nat.le_trans ha hle, List.pairwise_singleton _ _, by simp [hle]⟩

theorem trans (w : Between h as h') (w' : Between h' bs h'') : Between h (as ++ bs) h'' := by
  refine ⟨Nat.le_trans w.onward w'.onward, List.pairwise_append.2 ⟨w.apart, w'.apart, ?_⟩, ?_⟩
  · intro a ha b hb
    exact Nat.le_trans (w.within a ha).2 (w'.within b hb).1
  · intro a ha
    rcases List.mem_append.1 ha with ha | ha
    · exact ⟨(w.within a ha).1, Nat.le_trans (w.within a ha).2 w'.onward⟩
    · exact ⟨Nat.le_trans w.onward (w'.within a ha).1, (w'.within a ha).2⟩

end LoadAttempt.Between

open LoadAttempt

section
variable (source : ModuleSource) (parameters : String → ParameterTable) (storage : DocumentStore)

theorem Batch.between_step (b : Batch) (name : String) :
    Between b.host (b.attempt? source parameters storage name).toList (b.step source parameters storage name).host := by
  rcases b.step_cases source parameters storage name with
    ⟨hs, e, -, hh⟩ | ⟨hs, ⟨i, h, hl, -, hh⟩ | ⟨e, h, entry, hl, -, hh⟩⟩
  · rw [attempt?, if_pos hs]
    exact .none (b.attends_step source parameters storage name).nextPlugin
  · rw [attempt?, hs, if_neg Bool.false_ne_true, hh]
    refine .one { source, host := b.host, name, raw := parameters name, storage } ?_
    rw [LoadAttempt.after, hl]
    exact (b.registry.attends_insert h i).nextPlugin
  · rw [attempt?, hs, if_neg Bool.false_ne_true, hh]
    refine .one { source, host := b.host, name, raw := parameters name, storage } ?_
    rw [LoadAttempt.after, hl]
    exact Nat.le_refl _

/-- The attempts of a batch are made one after the other. -/
theorem Batch.between_attempts (names : List String) (b : Batch) :
    Between b.host (b.attempts source parameters storage names) (names.foldl (Batch.step source parameters storage) b).host := by
  induction names generalizing b with
  | nil => exact .none (Nat.le_refl _)
  | cons name names ih =>
    rw [attempts, List.foldl_cons]
    exact (b.between_step source parameters storage name).trans (ih _)

theorem Registry.between_loadAll (r : Registry) (h : Host) (requested : List String) (d : Directory) :
    Between h (Batch.attempts source parameters d.storage { registry := r, host := h } requested)
      (r.loadAll h source requested parameters d).2.2 := by
  have hb := Batch.between_attempts source parameters d.storage requested { registry := r, host := h }
  rw [← List.append_nil (Batch.attempts _ _ _ _ _)]
  refine hb.trans (.none ?_)
  unfold Registry.loadAll
  dsimp only
  split
  · exact (Registry.attends_observe _ _ d).nextPlugin
  · exact (Registry.attends_observe _ _ d).nextPlugin

end

namespace PluginRun

variable {x : PluginRun}

/-- An action makes its attempts, if any, after those there were. -/
theorem between_perform (b : Bracketed x.registry x.loose x.attempts x.host) (a : PluginAction) :
    ∃ new, (x.perform a).attempts = x.attempts ++ new ∧ Between x.host new (x.perform a).host := by
  have honward := (numbers_perform b a).2.2
  have hnone : (x.perform a).attempts = x.attempts →
      ∃ new, (x.perform a).attempts = x.attempts ++ new ∧ Between x.host new (x.perform a).host := fun hsame =>
    ⟨[], by rw [hsame, List.append_nil], .none honward⟩
  cases a with
  | load source name raw storage => exact ⟨_, rfl, .one { source, host := x.host, name, raw, storage } (Nat.le_refl _)⟩
  | loadAll source requested parameters d => exact ⟨_, rfl, x.registry.between_loadAll source parameters x.host requested d⟩
  | insert number =>
    refine hnone ?_
    unfold perform
    dsimp only
    split <;> rfl
  | discard number =>
    refine hnone ?_
    unfold perform
    dsimp only
    split <;> rfl
  | _ => exact hnone rfl

/-- The attempts of a run are made one after the other. -/
theorem between_performAll (b : Bracketed x.registry x.loose x.attempts x.host) (as : List PluginAction) :
    ∃ new, (x.performAll as).attempts = x.attempts ++ new ∧ Between x.host new (x.performAll as).host := by
  induction as generalizing x with
  | nil => exact ⟨[], (List.append_nil _).symm, .none (Nat.le_refl _)⟩
  | cons a as ih =>
    obtain ⟨new, hnew, hbetween⟩ := between_perform b a
    obtain ⟨more, hmore, hbetween'⟩ := ih (bracketed_perform b a)
    refine ⟨new ++ more, ?_, hbetween.trans hbetween'⟩
    rw [← List.append_assoc, ← hnew]
    exact hmore

end PluginRun

/-! ## The checks decide -/

namespace LoadAttempt

/-- A plugin is loaded exactly if its module is found, made for this server and called by the name that is asked for, its parameters can
be read, and it starts with these in its name and on the storage. Every attempt has one ending of the list, with the result of the first
check that fails, and what is made, started and stopped on the way. A failure carries the name that is asked for, and a plugin has that
name. No two attempts of a run make plugins of the same number. -/
theorem ends_by_checks :
    (∀ a : LoadAttempt,
      ((∃ i, a.result = .ok i) ↔ ∃ m ps running, a.Reads m ps ∧ a.starting m ps = .ok running) ∧
      (∀ r os, a.Ending r os ↔ a.result = r ∧ a.after.deeds = a.host.deeds ++ os) ∧
      (∀ e, a.result = .error e → e.plugin = a.name) ∧
      ∀ i, a.result = .ok i → i.name = a.name ∧ a.Makes i.number a.name) ∧
    ∀ (d : Disk) (as : List PluginAction),
      ((PluginRun.start d).performAll as).attempts.Pairwise fun a b => ∀ n p q, a.Makes n p → ¬b.Makes n q := by
  refine ⟨fun a => ⟨a.result_ok_iff, a.ending_iff, fun e he => ModuleSource.plugin_of_load he, fun i hi =>
    ⟨ModuleSource.name_of_load hi, makes_of_ok hi⟩⟩, ?_⟩
  intro d as
  obtain ⟨new, hnew, hbetween⟩ := PluginRun.between_performAll (x := PluginRun.start d) (Bracketed.empty rfl) as
  rw [hnew]
  refine hbetween.apart.imp ?_
  rintro a b hle n p q ⟨-, -, ha⟩ ⟨hb, -, -⟩
  omega

/-- An attempt to load a plugin that fails to start. -/
def pickyAttempt : LoadAttempt :=
  { source := PluginRun.threeModules, host := { disk := .empty }, name := "picky", raw := [], storage := ⟨⟨"documents"⟩⟩ }

/-- The plugin is started and stopped once, and the two attempts for another one make plugins of different numbers. -/
theorem ends_by_checks_picky :
    pickyAttempt.result = .error (.notStarted "picky" (.runtime "not today")) ∧
    pickyAttempt.Ending (.error (.notStarted "picky" (.runtime "not today")))
      [.created 1 "picky", .called 1 "picky" (.started { name := "picky", storage := ⟨⟨"documents"⟩⟩ } [] false),
        .called 1 "picky" .stopped] ∧
    (LoadError.notStarted "picky" (.runtime "not today")).plugin = pickyAttempt.name ∧
    ∃ a b : LoadAttempt,
      ((PluginRun.start .empty).performAll [.load PluginRun.threeModules "watch" [] ⟨⟨"documents"⟩⟩,
        .load PluginRun.threeModules "watch" [] ⟨⟨"documents"⟩⟩]).attempts = [a, b] ∧
      a.Makes 1 "watch" ∧ b.Makes 2 "watch" ∧ ¬b.Makes 1 "watch" := by
  obtain ⟨hall, hrun⟩ := ends_by_checks
  obtain ⟨-, hending, hplugin, -⟩ := hall pickyAttempt
  have hresult : pickyAttempt.result = .error (.notStarted "picky" (.runtime "not today")) := rfl
  refine ⟨hresult, (hending _ _).2 ⟨hresult, by decide +kernel⟩, hplugin _ hresult, _, _, rfl, ?_, ?_, ?_⟩
  · exact ⟨rfl, rfl, rfl⟩
  · exact ⟨rfl, rfl, rfl⟩
  · have hpair := hrun .empty [.load PluginRun.threeModules "watch" [] ⟨⟨"documents"⟩⟩,
        .load PluginRun.threeModules "watch" [] ⟨⟨"documents"⟩⟩]
    exact (List.pairwise_cons.1 hpair).1 _ List.mem_cons_self 1 "watch" "watch" ⟨rfl, rfl, rfl⟩

end LoadAttempt

end CoEdit
