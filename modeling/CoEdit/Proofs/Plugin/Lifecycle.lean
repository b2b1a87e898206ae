import CoEdit.Proofs.Plugin.Lives
import CoEdit.Proofs.Plugin.Visiting

/-!
# The lifecycle of plugins

A run loads plugins, one by one or in batches, puts them into a registry, reports connections and sessions to it, takes plugins out
again, and in the end lets go of everything. Plugins that were loaded and are not in the registry yet are loose; they may be let go of at
any time. `Bracketed` is what holds all along, and `PluginRun.well_bracketed` what it comes to in the end: every plugin that was made lived
the life of its attempt to the end, and all its visits are over.
-/

namespace CoEdit

open Host Occurrence

/-! ## What holds all along -/

/-- The registry is sound, its plugins were told of what is observed, and they and the loose ones run. -/
structure Bracketed (r : Registry) (loose : List PluginInstance) (attempts : List LoadAttempt) (h : Host) : Prop where
  sound : r.Sound h
  told : r.Told r.instances h
  lives : Lives (r.instances ++ loose) attempts h

/-- A plugin that leaves is told so and stopped. -/
theorem Lives.dismiss {held : List PluginInstance} {attempts : List LoadAttempt} {h : Host} {i : PluginInstance}
    (l : Lives (i :: held) attempts h) (r : Registry) : Lives held attempts (r.dismiss h i).2 := by
  obtain ⟨h₁, hc, he⟩ := r.reports_dismiss h i
  rw [he, i.retire_eq]
  refine (l.report hc ?_).stop
  intro n hn
  rw [List.mem_singleton.1 hn]
  exact List.mem_cons_self

theorem Lives.dismissAll {held leaving : List PluginInstance} {attempts : List LoadAttempt} {h : Host}
    (l : Lives (leaving ++ held) attempts h) (r : Registry) : Lives held attempts (r.dismissAll h leaving).2 := by
  induction leaving generalizing r h with
  | nil => exact l
  | cons i leaving ih => exact ih (l.dismiss r) _

theorem Lives.stopAll {held : List PluginInstance} {attempts : List LoadAttempt} {h : Host} (l : Lives held attempts h) :
    Lives [] attempts (held.foldl (fun h i => i.stop h) h) := by
  induction held generalizing h with
  | nil => exact l
  | cons i held ih => exact ih l.stop

/-- Letting go of a registry makes all its plugins leave, and there are none then that did not. -/
theorem Registry.release_eq (r : Registry) (h : Host) : r.release h = (r.unloadAll h).2 := by
  unfold release
  dsimp only
  rw [instances_unloadAll]
  rfl

/-- Plugins that are stopped see nothing of connections and sessions. -/
theorem PluginInstance.visits_stopAll (is : List PluginInstance) (h : Host) (n : Nat) (u : Subject) :
    (is.foldl (fun h i => i.stop h) h).visits n u = h.visits n u := by
  induction is generalizing h with
  | nil => rfl
  | cons i is ih => exact (ih _).trans (i.visits_stop h n u)

namespace Bracketed

variable {r : Registry} {loose : List PluginInstance} {attempts : List LoadAttempt} {h : Host}

/-- Nothing has happened. -/
theorem empty (ht : h.trace = []) : Bracketed {} [] [] h :=
  ⟨Registry.sound_empty h, Registry.told_empty ht, Lives.empty ht⟩

/-- The plugins of the registry are told of something. -/
theorem report (b : Bracketed r loose attempts h) {r' : Registry} {h' : Host} (hs : r'.Sound h') (ht : r'.Told r.instances h')
    (hi : r'.instances = r.instances) (hc : h.Continues (IsReport r.numbers) h') : Bracketed r' loose attempts h' := by
  refine ⟨hs, hi ▸ ht, ?_⟩
  rw [hi]
  refine b.lives.report hc ?_
  intro n hn
  rw [List.map_append]
  exact List.mem_append_left _ hn

theorem log (b : Bracketed r loose attempts h) (e : LogEntry) : Bracketed r loose attempts (h.log e) :=
  b.report (b.sound.mono (attends_log h e)) (b.told.congr fun _ _ => visits_log _ _ _ _) rfl (continues_note h trivial)

/-! ## Reports -/

theorem connectionAdded (b : Bracketed r loose attempts h) (c : Connection) :
    Bracketed (r.connectionAdded h c).1 loose attempts (r.connectionAdded h c).2 :=
  b.report (b.sound.connectionAdded c) (b.told.connectionAdded b.sound.keeps c) (Registry.instances_connectionAdded r h c)
    ((r.reports_connectionAdded h c).mono fun _ => And.left)

theorem connectionRemoved (b : Bracketed r loose attempts h) (c : Connection) :
    Bracketed (r.connectionRemoved h c).1 loose attempts (r.connectionRemoved h c).2 :=
  b.report (b.sound.connectionRemoved c) (b.told.connectionRemoved c) (Registry.instances_connectionRemoved r h c)
    ((r.reports_connectionRemoved h c).mono fun _ => And.left)

theorem sessionAdded (b : Bracketed r loose attempts h) (y : Session) :
    Bracketed (r.sessionAdded h y).1 loose attempts (r.sessionAdded h y).2 :=
  b.report (b.sound.sessionAdded y) (b.told.sessionAdded b.sound.keeps y) (Registry.instances_sessionAdded r h y)
    ((r.reports_sessionAdded h y).mono fun _ => And.left)

theorem sessionRemoved (b : Bracketed r loose attempts h) (y : Session) :
    Bracketed (r.sessionRemoved h y).1 loose attempts (r.sessionRemoved h y).2 :=
  b.report (b.sound.sessionRemoved y) (b.told.sessionRemoved b.sound.keeps y) (Registry.instances_sessionRemoved r h y)
    ((r.reports_sessionRemoved h y).mono fun _ => And.left)

theorem observe (b : Bracketed r loose attempts h) (d : Directory) :
    Bracketed (r.observe h d).1 loose attempts (r.observe h d).2 := by
  obtain ⟨hi, hc⟩ := r.reports_observe h d
  exact b.report (b.sound.observe d) (hi ▸ b.told.observe b.sound d) hi hc

theorem adjust (b : Bracketed r loose attempts h) (plugin : Nat) (subject : Subject) (f : SideState → SideState) :
    Bracketed (r.adjust h plugin subject f).1 loose attempts (r.adjust h plugin subject f).2 :=
  b.report (b.sound.adjust plugin subject f) (b.told.adjust plugin subject f) (Registry.instances_adjust r h plugin subject f)
    (r.reports_adjust h plugin subject f)

/-! ## Plugins come and go -/

/-- A plugin is loaded, and loose if it runs. -/
theorem load {a : LoadAttempt} (b : Bracketed r loose attempts a.host) :
    Bracketed r (loose ++ a.loaded) (attempts ++ [a]) a.after := by
  refine ⟨b.sound.mono (a.source.attends_load _ _ _ _), b.told.congr fun n u => a.source.visits_load _ _ _ _ n u, ?_⟩
  rw [← List.append_assoc]
  exact b.lives.load

/-- A loose plugin is put into the registry. -/
theorem insert {rest : List PluginInstance} {i : PluginInstance} (b : Bracketed r loose attempts h)
    (hp : loose.Perm (i :: rest)) : Bracketed (r.insert h i).1 rest attempts (r.insert h i).2 := by
  have hl : Lives (r.instances ++ i :: rest) attempts h := b.lives.perm (hp.append_left _)
  have hn : i.number ∉ r.instances.map (·.number) := by
    have hd := hl.distinct
    rw [List.map_append, List.map_cons, List.nodup_append] at hd
    exact fun hm => hd.2.2 _ hm _ List.mem_cons_self rfl
  refine ⟨b.sound.insert hn (hl.handedOut i (by simp)), b.told.insert b.sound.keeps hn, ?_⟩
  have hi : (r.insert h i).1.instances ++ rest = r.instances ++ i :: rest := List.append_assoc _ [i] rest
  rw [hi]
  refine hl.report (r.reports_insert h i) ?_
  intro n hm
  rw [List.mem_singleton.1 hm]
  exact List.mem_map_of_mem (by simp)

/-- A loose plugin is let go of. -/
theorem discard {rest : List PluginInstance} {i : PluginInstance} (b : Bracketed r loose attempts h)
    (hp : loose.Perm (i :: rest)) : Bracketed r rest attempts (i.stop h) := by
  refine ⟨b.sound.mono (i.attends_stop h), b.told.congr fun n u => i.visits_stop h n u, Lives.stop ?_⟩
  exact b.lives.perm ((hp.append_left _).trans List.perm_middle)

theorem unload (b : Bracketed r loose attempts h) (name : String) :
    Bracketed (r.unload h name).2.1 loose attempts (r.unload h name).2.2 := by
  refine ⟨b.sound.unload name, b.told.unload b.sound.keeps name, ?_⟩
  have hl := b.lives
  unfold Registry.unload
  split
  · exact hl
  · rename_i i hi
    exact (hl.perm ((Registry.perm_of_find? hi).append_right _)).dismiss _

theorem unloadAll (b : Bracketed r loose attempts h) : Bracketed (r.unloadAll h).1 loose attempts (r.unloadAll h).2 := by
  refine ⟨b.sound.unloadAll, b.told.unloadAll b.sound.keeps, ?_⟩
  rw [Registry.instances_unloadAll]
  have hl := b.lives
  unfold Registry.unloadAll
  split
  · rename_i hn
    rw [hn] at hl
    exact hl
  · exact (hl.perm ((List.reverse_perm r.instances).symm.append_right _)).dismissAll _

/-- The registry is let go of, and another one takes its place. -/
theorem release (b : Bracketed r loose attempts h) : Bracketed {} loose attempts (r.release h) := by
  have hb := b.unloadAll
  have ht := hb.told
  have hk := hb.sound.keeps
  have hl := hb.lives
  rw [Registry.instances_unloadAll] at ht hk hl
  rw [Registry.release_eq]
  exact ⟨Registry.sound_empty _, Registry.told_of_over rfl rfl (ht.over hk), hl⟩

end Bracketed

/-! ## Batches -/

namespace Batch

variable (source : ModuleSource) (parameters : String → ParameterTable) (storage : DocumentStore)

/-- The attempt that a batch makes for a name, unless it skips it. -/
def attempt? (b : Batch) (name : String) : Option LoadAttempt :=
  if b.seen.contains name || b.registry.contains name then none
  else some { source, host := b.host, name, raw := parameters name, storage }

/-- The attempts of a batch. -/
def attempts (b : Batch) : List String → List LoadAttempt
  | [] => []
  | name :: rest => (b.attempt? source parameters storage name).toList ++ attempts (b.step source parameters storage name) rest

end Batch

section
variable (source : ModuleSource) (parameters : String → ParameterTable) (storage : DocumentStore)
variable {loose : List PluginInstance} {attempts : List LoadAttempt}

theorem Bracketed.batchStep {b : Batch} (hb : Bracketed b.registry loose attempts b.host) (name : String) :
    Bracketed (b.step source parameters storage name).registry loose
      (attempts ++ (b.attempt? source parameters storage name).toList) (b.step source parameters storage name).host := by
  let a : LoadAttempt := { source, host := b.host, name, raw := parameters name, storage }
  rcases b.step_cases source parameters storage name with
    ⟨hs, e, hr, hh⟩ | ⟨hs, ⟨i, h, hl, hr, hh⟩ | ⟨e, h, entry, hl, hr, hh⟩⟩
  · rw [hr, hh, Batch.attempt?, if_pos hs, Option.toList_none, List.append_nil]
    exact hb.log e
  · have ha : Bracketed b.registry (loose ++ a.loaded) (attempts ++ [a]) a.after := Bracketed.load hb
    have hresult : a.result = .ok i := congrArg Prod.fst hl
    have hafter : a.after = h := congrArg Prod.snd hl
    rw [LoadAttempt.loaded_ok hresult, hafter] at ha
    rw [hr, hh, Batch.attempt?, hs, if_neg Bool.false_ne_true, Option.toList_some]
    exact ha.insert (List.perm_append_singleton i loose)
  · have ha : Bracketed b.registry (loose ++ a.loaded) (attempts ++ [a]) a.after := Bracketed.load hb
    have hresult : a.result = .error e := congrArg Prod.fst hl
    have hafter : a.after = h := congrArg Prod.snd hl
    rw [LoadAttempt.loaded_error hresult, hafter, List.append_nil] at ha
    rw [hr, hh, Batch.attempt?, hs, if_neg Bool.false_ne_true, Option.toList_some]
    exact ha.log entry

theorem Bracketed.batch (names : List String) {b : Batch} (hb : Bracketed b.registry loose attempts b.host) :
    Bracketed (names.foldl (Batch.step source parameters storage) b).registry loose
      (attempts ++ b.attempts source parameters storage names) (names.foldl (Batch.step source parameters storage) b).host := by
  induction names generalizing b attempts with
  | nil =>
    rw [Batch.attempts, List.append_nil]
    exact hb
  | cons name names ih =>
    rw [Batch.attempts, ← List.append_assoc]
    exact ih (hb.batchStep source parameters storage name)

/-- A batch is loaded, and the directory observed. -/
theorem Bracketed.loadAll {r : Registry} {h : Host} (b : Bracketed r loose attempts h) (requested : List String) (d : Directory) :
    Bracketed (r.loadAll h source requested parameters d).2.1 loose
      (attempts ++ Batch.attempts source parameters d.storage { registry := r, host := h } requested)
      (r.loadAll h source requested parameters d).2.2 := by
  have hb := (Bracketed.batch source parameters d.storage requested (b := { registry := r, host := h }) b).observe d
  unfold Registry.loadAll
  dsimp only
  split
  · exact hb.log _
  · exact hb

end

/-! ## Runs -/

/-- Plugins in a registry and loose ones, and the attempts to load plugins so far. -/
structure PluginRun where
  registry : Registry := {}
  loose : List PluginInstance := []
  attempts : List LoadAttempt := []
  host : Host

/-- What can be done with plugins. -/
inductive PluginAction where
  | load (source : ModuleSource) (name : String) (raw : ParameterTable) (storage : DocumentStore)
  /-- The loose plugin with a number is put into the registry. -/
  | insert (number : Nat)
  /-- The loose plugin with a number is let go of. -/
  | discard (number : Nat)
  | loadAll (source : ModuleSource) (requested : List String) (parameters : String → ParameterTable) (d : Directory)
  | observe (d : Directory)
  | connectionAdded (c : Connection)
  | connectionRemoved (c : Connection)
  | sessionAdded (y : Session)
  | sessionRemoved (y : Session)
  /-- The state of a plugin for something is changed. -/
  | adjust (plugin : Nat) (subject : Subject) (f : SideState → SideState)
  | unload (name : String)
  | unloadAll
  /-- The registry is let go of, and another one takes its place. -/
  | release
  /-- The disk and the time change. -/
  | surroundings (s : Surroundings)

namespace PluginRun

/-- The loose plugin with a number. -/
def loose? (x : PluginRun) (number : Nat) : Option PluginInstance := x.loose.find? fun i => i.number = number

/-- The loose plugins without the one with a number. -/
def looseBut (x : PluginRun) (number : Nat) : List PluginInstance := x.loose.eraseP fun i => i.number = number

/-- The run after an action. -/
def perform (x : PluginRun) : PluginAction → PluginRun
  | .load source name raw storage =>
    let a : LoadAttempt := { source, host := x.host, name, raw, storage }
    { x with host := a.after, loose := x.loose ++ a.loaded, attempts := x.attempts ++ [a] }
  | .insert number => match x.loose? number with
    | some i =>
      let (registry, host) := x.registry.insert x.host i
      { x with registry, host, loose := x.looseBut number }
    | none => x
  | .discard number => match x.loose? number with
    | some i => { x with host := i.stop x.host, loose := x.looseBut number }
    | none => x
  | .loadAll source requested parameters d =>
    let (_, registry, host) := x.registry.loadAll x.host source requested parameters d
    let b : Batch := { registry := x.registry, host := x.host }
    { x with registry, host, attempts := x.attempts ++ b.attempts source parameters d.storage requested }
  | .observe d => let (registry, host) := x.registry.observe x.host d; { x with registry, host }
  | .connectionAdded c => let (registry, host) := x.registry.connectionAdded x.host c; { x with registry, host }
  | .connectionRemoved c => let (registry, host) := x.registry.connectionRemoved x.host c; { x with registry, host }
  | .sessionAdded y => let (registry, host) := x.registry.sessionAdded x.host y; { x with registry, host }
  | .sessionRemoved y => let (registry, host) := x.registry.sessionRemoved x.host y; { x with registry, host }
  | .adjust plugin subject f =>
    let (registry, host) := x.registry.adjust x.host plugin subject f
    { x with registry, host }
  | .unload name => let (_, registry, host) := x.registry.unload x.host name; { x with registry, host }
  | .unloadAll => let (registry, host) := x.registry.unloadAll x.host; { x with registry, host }
  | .release => { x with registry := {}, host := x.registry.release x.host }
  | .surroundings s => { x with host := { x.host with disk := s.disk, clock := s.clock } }

/-- The run after actions, one after the other. -/
def performAll (x : PluginRun) (as : List PluginAction) : PluginRun := as.foldl perform x

/-- A run in which nothing has happened. -/
def start (d : Disk) : PluginRun := { host := { disk := d } }

/-- The host after the registry and the loose plugins were let go of. -/
def finish (x : PluginRun) : Host := x.loose.foldl (fun h i => i.stop h) (x.registry.release x.host)

/-- All is bracketed through every action. -/
theorem bracketed_perform {x : PluginRun} (b : Bracketed x.registry x.loose x.attempts x.host) (a : PluginAction) :
    Bracketed (x.perform a).registry (x.perform a).loose (x.perform a).attempts (x.perform a).host := by
  cases a with
  | load source name raw storage => exact Bracketed.load (a := { source, host := x.host, name, raw, storage }) b
  | insert number =>
    unfold perform
    dsimp only
    split
    · rename_i i hi
      exact b.insert (Registry.perm_of_find? hi)
    · exact b
  | discard number =>
    unfold perform
    dsimp only
    split
    · rename_i i hi
      exact b.discard (Registry.perm_of_find? hi)
    · exact b
  | loadAll source requested parameters d => exact b.loadAll source parameters requested d
  | observe d => exact b.observe d
  | connectionAdded c => exact b.connectionAdded c
  | connectionRemoved c => exact b.connectionRemoved c
  | sessionAdded y => exact b.sessionAdded y
  | sessionRemoved y => exact b.sessionRemoved y
  | adjust plugin subject f => exact b.adjust plugin subject f
  | unload name => exact b.unload name
  | unloadAll => exact b.unloadAll
  | release => exact b.release
  | surroundings s =>
    exact ⟨⟨b.sound.keeps, b.sound.handedOut⟩, b.told.congr fun _ _ => rfl, b.lives.congr rfl rfl⟩

/-- All is bracketed along a run. -/
theorem bracketed_performAll {x : PluginRun} (b : Bracketed x.registry x.loose x.attempts x.host) (as : List PluginAction) :
    Bracketed (x.performAll as).registry (x.performAll as).loose (x.performAll as).attempts (x.performAll as).host := by
  induction as generalizing x with
  | nil => exact b
  | cons a as ih => exact ih (bracketed_perform b a)

/-- Every attempt to load a plugin made one or left all as it was. Every plugin that was made lived the life of its attempt, and in the
end that life is over. What it saw of connections and sessions is over by then, and was before it was stopped; it is not called after
that. -/
theorem well_bracketed (d : Disk) (as : List PluginAction) :
    (∀ a ∈ ((start d).performAll as).attempts,
      a.MakesNone ∨ .created a.host.nextPlugin a.name ∈ ((start d).performAll as).finish.trace) ∧
    ∀ n p, .created n p ∈ ((start d).performAll as).finish.trace →
      (∃ a ∈ ((start d).performAll as).attempts, a.Makes n p ∧ a.Life true (((start d).performAll as).finish.callsOf n)) ∧
      (∀ u, Visits (((start d).performAll as).finish.visits n u) none) ∧
      ∀ q before after, ((start d).performAll as).finish.trace = before ++ .called n q .stopped :: after →
        { ((start d).performAll as).finish with trace := after }.callsOf n = [] ∧
          ∀ u, Visits ({ ((start d).performAll as).finish with trace := before }.visits n u) none := by
  have b := bracketed_performAll (x := start d) (Bracketed.empty rfl) as
  generalize (start d).performAll as = x at b ⊢
  have hb := b.release
  have hlives : Lives [] x.attempts x.finish := hb.lives.stopAll
  have hover : ∀ n u, Visits (x.finish.visits n u) none := by
    intro n u
    unfold finish
    rw [PluginInstance.visits_stopAll]
    exact hb.told.over hb.sound.keeps n u
  refine ⟨hlives.attempted, ?_⟩
  intro n p hm
  obtain ⟨a, ha, hmakes, -, hlife⟩ := hlives.lives n p hm
  have hlife := hlife List.not_mem_nil
  refine ⟨⟨a, ha, hmakes, hlife⟩, hover n, ?_⟩
  intro q before after hs
  rcases hlife.stopped with hnone | ⟨told, hc, hno⟩
  · have hcall : Callback.stopped ∈ x.finish.callsOf n := by
      rw [callsOf, hs]
      exact List.mem_filterMap.2 ⟨.called n q .stopped, by simp, if_pos rfl⟩
    rw [hnone] at hcall
    exact absurd hcall List.not_mem_nil
  · exact over_of_stopped hc hno (hover n) hs

/-- A plugin that runs, one that fails to start, and one that wants a parameter. -/
def threeModules : ModuleSource := .builtin
  [("watch",
    { name := "watch", description := "", sessionType := some "text"
      plugin := { start := fun around _ _ => (.ok {}, around.silence) } }),
    ("picky",
      { name := "picky", description := ""
        plugin := { start := fun around _ _ => (.error (.runtime "not today"), around.silence) } }),
    ("strict",
      { name := "strict", description := "", parameters := [{ name := "key", kind := .string, required := true }]
        plugin := { start := fun around _ _ => (.ok {}, around.silence) } })]

/-- Plugins are loaded in a batch and one by itself, which joins after the others have left. -/
def mixedActions : List PluginAction :=
  let storage : DocumentStore := ⟨⟨"documents"⟩⟩
  let c : Connection := { id := 1, peer := { ip := .any .ipv4, port := 9 } }
  let y : Session := { id := 5, path := "a", kind := .derived "page" (.root "text") }
  [.connectionAdded c, .loadAll threeModules ["watch", "picky", "strict", "gone"] (fun _ => []) { storage }, .sessionAdded y,
    .connectionAdded c, .adjust 1 (.connection 1) fun _ => .seen, .sessionRemoved { y with id := 7 },
    .load threeModules "watch" [] storage, .unloadAll, .unloadAll, .insert 4, .sessionRemoved y]

/-- The plugin that joined last is told of all that is there, the one that failed to start is stopped, the one that wants a parameter is
never called, and all visits are over. -/
theorem well_bracketed_mixed :
    .created 4 "watch" ∈ ((start .empty).performAll mixedActions).finish.trace ∧
    ((start .empty).performAll mixedActions).finish.callsOf 4 =
      [.started { name := "watch", storage := ⟨⟨"documents"⟩⟩ } [] true, .connectionAdded 1 .unit .unit,
        .sessionAdded 5 (some (.unit, .unit)), .sessionRemoved 5 (some .unit), .connectionRemoved 1 .unit, .stopped] ∧
    ((start .empty).performAll mixedActions).finish.visits 1 (.connection 1) =
      [.entered (some (.unit, .unit)), .changed .seen, .left (some .seen)] ∧
    ((start .empty).performAll mixedActions).finish.callsOf 2 =
      [.started { name := "picky", storage := ⟨⟨"documents"⟩⟩ } [] false, .stopped] ∧
    ((start .empty).performAll mixedActions).finish.callsOf 3 = [] ∧
    ∀ u, Visits (((start .empty).performAll mixedActions).finish.visits 4 u) none := by
  have hmade : .created 4 "watch" ∈ ((start .empty).performAll mixedActions).finish.trace := by decide +kernel
  exact ⟨hmade, by decide +kernel, by decide +kernel, by decide +kernel, by decide +kernel,
    ((well_bracketed .empty mixedActions).2 4 "watch" hmade).2.1⟩

end PluginRun

end CoEdit
