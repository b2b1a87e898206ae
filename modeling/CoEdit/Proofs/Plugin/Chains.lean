import CoEdit.Proofs.Plugin.Outcomes
import CoEdit.Server.Basic

/-!
# Chains of sources

A chain may hold chains. Its answer is that of the first of the sources in it, all chains opened up, that has the module or refuses it,
and if there is none, the reasons of all are joined (`ModuleSource.resolve_eq_firstFound`). That a chain inside has joined its reasons
before makes no difference (`ModuleSource.firstFound_flatten`).

A search looks at the files of libraries until it is over (`ModuleSource.lookedAt`), and its answer depends on no other file
(`ModuleSource.resolve_congr`). A server that is given a directory puts it last, so that what its own modules decide is never looked up
there. `ServerOptions.source_shadows` puts this together.
-/

namespace CoEdit

/-- Texts that are joined and then joined again are joined. -/
theorem intercalate_flatten (s : String) : ∀ (parts : List (List String)), (∀ part ∈ parts, part ≠ []) →
    s.intercalate (parts.map s.intercalate) = s.intercalate parts.flatten
  | [], _ => rfl
  | [part], _ => by simp
  | part :: next :: parts, h => by
    have hpart : part ≠ [] := h part List.mem_cons_self
    have hnext : (next :: parts).flatten ≠ [] := by
      simp [h next (List.mem_cons_of_mem _ List.mem_cons_self)]
    have ih := intercalate_flatten s (next :: parts) fun p hp => h p (List.mem_cons_of_mem _ hp)
    rw [List.map_cons, String.intercalate_cons_of_ne_nil (by simp), ih, ← String.intercalate_append_of_ne_nil hpart hnext]
    rfl

namespace ModuleSource

/-! ## Answers -/

/-- The reason that an answer gives if there is no module to open. -/
def missing? : Except LoadError PluginModule → Option String
  | .error (.unopened _ reason) => some reason
  | _ => none

/-- Whether an answer is a module or the refusal of one. -/
def isDecided (answer : Except LoadError PluginModule) : Bool := (missing? answer).isNone

/-- The first answer that is decided, and if there is none, the reasons of all. -/
def firstFound (name : String) (answers : List (Except LoadError PluginModule)) : Except LoadError PluginModule :=
  (answers.find? isDecided).getD (.error (.unopened name (String.intercalate "; " (answers.filterMap missing?))))

variable {d : Disk} {name : String}

theorem missing?_eq_some {answer : Except LoadError PluginModule} {reason : String} :
    missing? answer = some reason ↔ ∃ n, answer = .error (.unopened n reason) := by
  constructor
  · intro h
    unfold missing? at h
    split at h
    · cases h
      exact ⟨_, rfl⟩
    · cases h
  · rintro ⟨n, rfl⟩
    rfl

theorem isDecided_eq_false {answer : Except LoadError PluginModule} :
    isDecided answer = false ↔ ∃ n reason, answer = .error (.unopened n reason) := by
  rw [isDecided, Option.isNone_eq_false_iff, Option.isSome_iff_exists, exists_comm]
  exact exists_congr fun reason => missing?_eq_some

/-- Where there are answers and none is decided, there are reasons. -/
theorem reasons_ne_nil {answers : List (Except LoadError PluginModule)} (hne : answers ≠ [])
    (h : answers.find? isDecided = none) : answers.filterMap missing? ≠ [] := by
  obtain ⟨answer, hanswer⟩ := List.exists_mem_of_ne_nil _ hne
  obtain ⟨n, reason, rfl⟩ := isDecided_eq_false.1 (Bool.eq_false_iff.2 (List.find?_eq_none.1 h answer hanswer))
  exact List.ne_nil_of_mem (List.mem_filterMap.2 ⟨_, hanswer, rfl⟩)

/-- A chain inside that finds nothing gives its joined reasons as one. -/
theorem missing?_firstFound {answers : List (Except LoadError PluginModule)} (h : answers.find? isDecided = none) :
    missing? (firstFound name answers) = some (String.intercalate "; " (answers.filterMap missing?)) := by
  rw [firstFound, h]
  rfl

theorem find?_firstFound (groups : List (List (Except LoadError PluginModule))) :
    (groups.map (firstFound name)).find? isDecided = groups.flatten.find? isDecided := by
  induction groups with
  | nil => rfl
  | cons group groups ih =>
    rw [List.map_cons, List.flatten_cons, List.find?_append, List.find?_cons, ih]
    cases hg : group.find? isDecided with
    | none =>
      have hf : isDecided (firstFound name group) = false := by
        rw [isDecided, missing?_firstFound hg]
        rfl
      rw [hf]
      rfl
    | some answer =>
      have hf : firstFound name group = answer := by
        rw [firstFound, hg]
        rfl
      rw [hf, List.find?_some hg]
      rfl

/-- Reasons that are joined in groups and then joined are joined. -/
theorem filterMap_firstFound {groups : List (List (Except LoadError PluginModule))}
    (h : groups.flatten.find? isDecided = none) :
    (groups.map (firstFound name)).filterMap missing? =
      (groups.map (List.filterMap missing?)).map (String.intercalate "; ") := by
  induction groups with
  | nil => rfl
  | cons group groups ih =>
    rw [List.flatten_cons, List.find?_append, Option.or_eq_none_iff] at h
    rw [List.map_cons, List.map_cons, List.map_cons, ← ih h.2]
    exact List.filterMap_cons_some (missing?_firstFound h.1)

/-- It makes no difference whether answers are put together in groups first. -/
theorem firstFound_flatten {groups : List (List (Except LoadError PluginModule))} (h : ∀ group ∈ groups, group ≠ []) :
    firstFound name (groups.map (firstFound name)) = firstFound name groups.flatten := by
  rw [firstFound, find?_firstFound]
  cases hf : groups.flatten.find? isDecided with
  | some answer => rw [firstFound, hf, Option.getD_some, Option.getD_some]
  | none =>
    have hreasons : ∀ part ∈ groups.map (List.filterMap missing?), part ≠ [] := by
      intro part hpart
      obtain ⟨group, hgroup, rfl⟩ := List.mem_map.1 hpart
      refine reasons_ne_nil (h group hgroup) (List.find?_eq_none.2 fun answer hanswer => ?_)
      exact List.find?_eq_none.1 hf answer (List.mem_flatten.2 ⟨group, hgroup, hanswer⟩)
    rw [firstFound, hf, Option.getD_none, Option.getD_none, filterMap_firstFound hf, intercalate_flatten _ _ hreasons,
      List.filterMap_flatten]

/-- One answer by itself, if it is about the name. -/
theorem firstFound_singleton {answer : Except LoadError PluginModule} (h : ∀ e, answer = .error e → e.plugin = name) :
    firstFound name [answer] = answer := by
  cases hd : isDecided answer with
  | true => simp [firstFound, hd]
  | false =>
    obtain ⟨n, reason, rfl⟩ := isDecided_eq_false.1 hd
    obtain rfl : n = name := h _ rfl
    simp [firstFound, hd, missing?]

/-! ## One chain -/

theorem resolveFirst_cons_undecided {source : ModuleSource} (rest : List ModuleSource) (reasons : List String) {reason : String}
    (h : missing? (source.resolve d name) = some reason) :
    resolveFirst d name reasons (source :: rest) = resolveFirst d name (reasons ++ [reason]) rest := by
  obtain ⟨n, hr⟩ := missing?_eq_some.1 h
  rw [resolveFirst, hr]

theorem resolveFirst_cons_decided {source : ModuleSource} (rest : List ModuleSource) (reasons : List String)
    (h : missing? (source.resolve d name) = none) :
    resolveFirst d name reasons (source :: rest) = source.resolve d name := by
  rw [resolveFirst]
  split
  · rename_i hr
    rw [missing?_eq_some.2 ⟨_, hr⟩] at h
    cases h
  · rfl

theorem resolveFirst_eq (sources : List ModuleSource) (reasons : List String) :
    resolveFirst d name reasons sources = ((sources.map (resolve d name)).find? isDecided).getD
      (.error (.unopened name (joinedReasons (reasons ++ (sources.map (resolve d name)).filterMap missing?)))) := by
  induction sources generalizing reasons with
  | nil =>
    rw [resolveFirst]
    simp
  | cons source rest ih =>
    cases hm : missing? (source.resolve d name) with
    | some reason =>
      rw [resolveFirst_cons_undecided rest reasons hm, ih]
      simp [isDecided, hm]
    | none =>
      rw [resolveFirst_cons_decided rest reasons hm]
      simp [isDecided, hm]

/-- A chain that is not empty takes the first answer that is decided. -/
theorem resolve_chained {sources : List ModuleSource} (h : sources ≠ []) :
    resolve d name (.chained sources) = firstFound name (sources.map (resolve d name)) := by
  rw [resolve, resolveFirst_eq, firstFound, List.nil_append]
  cases hf : (sources.map (resolve d name)).find? isDecided with
  | some answer => rfl
  | none => rw [joinedReasons, if_neg (reasons_ne_nil (fun hnil => h (List.map_eq_nil_iff.1 hnil)) hf)]

/-! ## Chains in chains -/

/-- What holds of sources that are no chains, and of a chain if it holds of the sources in it, holds of all sources. -/
@[elab_as_elim]
theorem nested_induction {P : ModuleSource → Prop} (builtin : ∀ modules, P (.builtin modules))
    (libraries : ∀ directory opener, P (.libraries directory opener))
    (chained : ∀ sources, (∀ source ∈ sources, P source) → P (.chained sources)) (source : ModuleSource) : P source :=
  @ModuleSource.rec P (fun sources => ∀ source ∈ sources, P source) builtin libraries chained
    (fun _ h => absurd h List.not_mem_nil) (fun _ _ h hs => List.forall_mem_cons.2 ⟨h, hs⟩) source

mutual

/-- The sources that a source consists of, all chains opened up. -/
def leaves : ModuleSource → List ModuleSource
  | .chained sources => leavesAll sources
  | source => [source]

def leavesAll : List ModuleSource → List ModuleSource
  | [] => []
  | source :: rest => leaves source ++ leavesAll rest

end

mutual

/-- Neither the source nor any in it is an empty chain. -/
def Populated : ModuleSource → Prop
  | .chained sources => sources ≠ [] ∧ PopulatedAll sources
  | _ => True

def PopulatedAll : List ModuleSource → Prop
  | [] => True
  | source :: rest => Populated source ∧ PopulatedAll rest

end

theorem leaves_chained (sources : List ModuleSource) : leaves (.chained sources) = (sources.map leaves).flatten := by
  rw [leaves]
  induction sources with
  | nil => rfl
  | cons source rest ih => rw [leavesAll, ih, List.map_cons, List.flatten_cons]

theorem populatedAll_iff (sources : List ModuleSource) : PopulatedAll sources ↔ ∀ source ∈ sources, source.Populated := by
  induction sources with
  | nil => simp [PopulatedAll]
  | cons source rest ih => rw [PopulatedAll, ih, List.forall_mem_cons]

theorem populated_chained (sources : List ModuleSource) :
    Populated (.chained sources) ↔ sources ≠ [] ∧ ∀ source ∈ sources, source.Populated := by
  rw [Populated, populatedAll_iff]

theorem leaves_ne_nil (source : ModuleSource) : source.Populated → source.leaves ≠ [] := by
  induction source using nested_induction with
  | builtin | libraries => simp [leaves]
  | chained sources ih =>
    intro h
    obtain ⟨hne, hall⟩ := (populated_chained sources).1 h
    obtain ⟨source, hsource⟩ := List.exists_mem_of_ne_nil _ hne
    rw [leaves_chained]
    exact fun hnil => ih source hsource (hall source hsource) (List.flatten_eq_nil_iff.1 hnil _ (List.mem_map_of_mem hsource))

/-- A chain answers as the chain of all that is in it, opened up. -/
theorem resolve_eq_firstFound (source : ModuleSource) :
    source.Populated → source.resolve d name = firstFound name (source.leaves.map (resolve d name)) := by
  induction source using nested_induction with
  | builtin modules => exact fun _ => (firstFound_singleton fun _ => plugin_of_resolve (.builtin modules)).symm
  | libraries directory opener => exact fun _ => (firstFound_singleton fun _ => plugin_of_resolve (.libraries directory opener)).symm
  | chained sources ih =>
    intro h
    obtain ⟨hne, hall⟩ := (populated_chained sources).1 h
    have hgroups : ∀ group ∈ (sources.map leaves).map (List.map (resolve d name)), group ≠ [] := by
      simp only [List.map_map, List.mem_map]
      rintro group ⟨source, hsource, rfl⟩
      exact fun hnil => leaves_ne_nil source (hall source hsource) (List.map_eq_nil_iff.1 hnil)
    calc resolve d name (.chained sources)
        = firstFound name (sources.map (resolve d name)) := resolve_chained hne
      _ = firstFound name (((sources.map leaves).map (List.map (resolve d name))).map (firstFound name)) := by
        rw [List.map_map, List.map_map]
        exact congrArg _ (List.map_congr_left fun source hsource => ih source hsource (hall source hsource))
      _ = firstFound name ((leaves (.chained sources)).map (resolve d name)) := by
        rw [firstFound_flatten hgroups, leaves_chained, List.map_flatten]

/-! ## What is looked at -/

mutual

/-- The files of libraries that the search for a name looks at. -/
def lookedAt (d : Disk) (name : String) : ModuleSource → List Path
  | .builtin _ => []
  | .libraries directory _ => [libraryPath directory name]
  | .chained sources => lookedAtFirst d name sources

def lookedAtFirst (d : Disk) (name : String) : List ModuleSource → List Path
  | [] => []
  | source :: rest =>
    lookedAt d name source ++ if isDecided (resolve d name source) then [] else lookedAtFirst d name rest

end

/-- Disks that agree on the files that are looked at make no difference. -/
theorem resolve_congr {d' : Disk} (source : ModuleSource) :
    (∀ file ∈ source.lookedAt d name, d'.isFile file = d.isFile file) → source.resolve d' name = source.resolve d name := by
  induction source using nested_induction with
  | builtin modules => exact fun _ => by rw [resolve, resolve]
  | libraries directory opener =>
    intro h
    rw [lookedAt] at h
    rw [resolve, resolve, openLibrary, openLibrary, h _ List.mem_cons_self]
  | chained sources ih =>
    rw [resolve, resolve, lookedAt]
    -- The reasons of the sources before are the same on both disks.
    generalize ([] : List String) = reasons
    induction sources generalizing reasons with
    | nil => exact fun _ => by rw [resolveFirst, resolveFirst]
    | cons source rest ihrest =>
      intro h
      rw [lookedAtFirst, List.forall_mem_append] at h
      have hsource := ih source List.mem_cons_self h.1
      cases hm : missing? (source.resolve d name) with
      | none =>
        rw [resolveFirst_cons_decided rest reasons hm, resolveFirst_cons_decided rest reasons (hsource ▸ hm), hsource]
      | some reason =>
        rw [resolveFirst_cons_undecided rest reasons hm, resolveFirst_cons_undecided rest reasons (hsource ▸ hm)]
        refine ihrest (fun s hs => ih s (List.mem_cons_of_mem _ hs)) _ ?_
        simpa [isDecided, hm] using h.2

/-! ## The directory comes last -/

section
variable {o : ServerOptions} {path : Path}

/-- What the modules of the server decide is decided. -/
theorem resolve_source_of_decided (hm : missing? (o.modules.resolve d name) = none) :
    (o.source (some path)).resolve d name = (o.source none).resolve d name := by
  rw [ServerOptions.source, ServerOptions.source, resolve, resolveFirst_cons_decided _ _ hm]

/-- What the modules of the server decide is not looked up in the directory. -/
theorem lookedAt_source_of_decided (hm : missing? (o.modules.resolve d name) = none) :
    (o.source (some path)).lookedAt d name = (o.source none).lookedAt d name := by
  rw [ServerOptions.source, ServerOptions.source, lookedAt, lookedAtFirst, isDecided, hm]
  exact List.append_nil _

end

/-- A source answers with the first answer that is decided of the sources it consists of, and if there is none, with the reasons of all in
order. A plugin that the server's own modules have or refuse is loaded with a directory just as without one: no more files are looked at,
and it makes no difference what other files there are. -/
theorem first_decided_wins :
    (∀ (d : Disk) (name : String) (source : ModuleSource), source.Populated →
      source.resolve d name = firstFound name (source.leaves.map (resolve d name))) ∧
    ∀ (o : ServerOptions) (path : Path) (h : Host) (name : String), missing? (o.modules.resolve h.disk name) = none →
      (∀ raw storage, (o.source (some path)).load h name raw storage = (o.source none).load h name raw storage) ∧
      (o.source (some path)).lookedAt h.disk name = (o.source none).lookedAt h.disk name ∧
      ∀ d' : Disk, (∀ file ∈ (o.source none).lookedAt h.disk name, d'.isFile file = h.disk.isFile file) →
        (o.source (some path)).resolve d' name = (o.source none).resolve h.disk name := by
  refine ⟨fun d name source => resolve_eq_firstFound source, fun o path h name hm => ⟨fun raw storage => ?_,
    lookedAt_source_of_decided hm, fun d' hd => ?_⟩⟩
  · rw [load, load, resolve_source_of_decided hm]
  · have hsame : o.modules.resolve d' name = o.modules.resolve h.disk name := resolve_congr o.modules hd
    rw [resolve_source_of_decided (hsame ▸ hm)]
    exact hsame

/-- A chain in which there are a directory and another chain. -/
def chainOfChains : ModuleSource :=
  .chained [.builtin [], .chained [.libraries ⟨"/plugins"⟩ .none, .chained [PluginRun.threeModules]]]

/-- Three sources have no plugin of the name, each for its reason. The plugin that is found is loaded as without the directory, which is
not looked at, and nothing changes when a library appears in it. -/
theorem first_decided_wins_watch :
    chainOfChains.leaves = [.builtin [], .libraries ⟨"/plugins"⟩ .none, PluginRun.threeModules] ∧
    missing? (chainOfChains.resolve .empty "gone") = some ("no built-in module with this name; " ++
      "/plugins/libtandem_plugin_gone.so not found; no built-in module with this name") ∧
    (let o : ServerOptions := { modules := PluginRun.threeModules }
    ((o.source (some ⟨"/plugins"⟩)).load { disk := .empty } "watch" [] ⟨⟨"documents"⟩⟩).1.toBool = true ∧
      (o.source (some ⟨"/plugins"⟩)).lookedAt .empty "watch" = [] ∧
      (o.source (some ⟨"/plugins"⟩)).lookedAt .empty "gone" = [⟨"/plugins/libtandem_plugin_gone.so"⟩] ∧
      ∀ d' : Disk, missing? ((o.source (some ⟨"/plugins"⟩)).resolve d' "watch") = none) := by
  obtain ⟨hflat, hshadow⟩ := first_decided_wins
  have hpopulated : chainOfChains.Populated := by simp [chainOfChains, Populated, PopulatedAll, PluginRun.threeModules]
  have hwatch : missing? (PluginRun.threeModules.resolve .empty "watch") = none := rfl
  obtain ⟨hload, hlooked, hdisk⟩ :=
    hshadow { modules := PluginRun.threeModules } ⟨"/plugins"⟩ { disk := .empty } "watch" hwatch
  refine ⟨rfl, ?_, ?_, ?_, ?_, ?_⟩
  · rw [hflat _ _ _ hpopulated]
    rfl
  · rw [hload]
    rfl
  · rw [hlooked]
    rfl
  · decide +kernel
  · intro d'
    rw [hdisk d' fun file hf => absurd hf List.not_mem_nil]
    rfl

end ModuleSource

end CoEdit
