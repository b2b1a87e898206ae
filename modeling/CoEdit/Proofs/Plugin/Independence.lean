import CoEdit.Proofs.Plugin.Bookkeeping
import CoEdit.Proofs.Plugin.Outcomes

/-!
# Plugins of a batch do not depend on each other

Whether a plugin can be loaded is taken to depend on nothing but its name, its own parameters and the documents
(`LoadAttempt.Follow`). What a batch loads and what it reports as failed is told then from each name alone
(`Registry.LoadsByVerdict`), and the order of the list is the order of the report and nothing more. In a registry whose plugins
all came from batches no two have the same name (`Registry.Managed.distinct`): a plugin runs under the name it was asked for, and
no batch asks for the name of a plugin that runs.
-/

namespace CoEdit

/-- Why the plugin of a name cannot be loaded with parameters and documents, if it cannot. -/
abbrev Verdict := String → ParameterTable → DocumentStore → Option LoadError

/-- All attempts come out as a verdict says, whatever the host of each was like. -/
def LoadAttempt.Follow (verdict : Verdict) (as : List LoadAttempt) : Prop :=
  ∀ a ∈ as, a.failure? = verdict a.name a.raw a.storage

namespace Registry

variable {r : Registry} {h : Host} {source : ModuleSource} {requested : List String} {parameters : String → ParameterTable}
  {d : Directory} {verdict : Verdict}

/-! ## Names are distinct -/

/-- The registries whose plugins all came from batches, whatever else was done to them. -/
inductive Managed : Registry → Prop
  | empty : Managed {}
  | loadAll {r : Registry} (hr : Managed r) (h : Host) (source : ModuleSource) (requested : List String)
      (parameters : String → ParameterTable) (d : Directory) : Managed (r.loadAll h source requested parameters d).2.1
  | perform {r : Registry} (hr : Managed r) (h : Host) (a : RegistryAction) (ha : ∀ i, a ≠ .insert i) : Managed (r.perform h a).1

/-- Nothing but a batch puts a plugin into a registry. -/
theorem active_perform (r : Registry) (h : Host) {a : RegistryAction} (ha : ∀ i, a ≠ .insert i) :
    (r.perform h a).1.active.Sublist r.active := by
  have same {r' : Registry} (hi : r'.instances = r.instances) : r'.active.Sublist r.active := by
    rw [active, hi]
    exact List.Sublist.refl _
  cases a with
  | insert i => exact absurd rfl (ha i)
  | observe d => exact same (r.instances_observe h d)
  | connectionAdded c => exact same (r.instances_connectionAdded h c)
  | connectionRemoved c => exact same (r.instances_connectionRemoved h c)
  | sessionAdded y => exact same (r.instances_sessionAdded h y)
  | sessionRemoved y => exact same (r.instances_sessionRemoved h y)
  | adjust plugin subject f => exact same (r.instances_adjust h plugin subject f)
  | unload name =>
    show (r.unload h name).2.1.active.Sublist r.active
    unfold unload
    split
    · exact List.Sublist.refl _
    · exact List.eraseP_sublist.map _
  | unloadAll =>
    have hnone : (r.unloadAll h).1.active = [] := by rw [active, instances_unloadAll, List.map_nil]
    exact hnone ▸ List.nil_sublist _

/-- A batch adds no plugin of a name that there is. -/
theorem nodup_loadAll (hr : r.active.Nodup) : (r.loadAll h source requested parameters d).2.1.active.Nodup := by
  have hreported := r.reported_loadAll h source requested parameters d
  rw [active_loadAll, List.nodup_append]
  refine ⟨hr, (List.nodup_append.1 (hreported.nodup_iff.2 (r.nodup_missing requested))).1, ?_⟩
  rintro name hname _ hloaded rfl
  exact ((r.mem_missing requested name).1 (hreported.mem_iff.1 (List.mem_append_left _ hloaded))).2 hname

/-- No two plugins that came from batches have the same name. -/
theorem Managed.distinct (hr : r.Managed) : r.active.Nodup := by
  induction hr with
  | empty => exact List.nodup_nil
  | loadAll _ h source requested parameters d ih => exact nodup_loadAll ih
  | perform _ h a ha ih => exact (active_perform _ h ha).nodup ih

/-! ## What a batch does is told from each name alone -/

/-- The attempts of a batch are made with the parameters of their names, and with the same documents. -/
theorem mem_attempts {a : LoadAttempt} (ha : a ∈ r.attempts h source requested parameters d) :
    a.raw = parameters a.name ∧ a.storage = d.storage := by
  unfold attempts at ha
  generalize { registry := r, host := h : Batch } = b at ha
  induction requested generalizing b with
  | nil => exact absurd ha List.not_mem_nil
  | cons name names ih =>
    rw [Batch.attempts, List.mem_append] at ha
    rcases ha with ha | ha
    · unfold Batch.attempt? at ha
      split at ha
      · exact absurd ha List.not_mem_nil
      · rw [List.mem_singleton.1 ha]
        exact ⟨rfl, rfl⟩
    · exact ih _ ha

/-- What a batch with missing names does to a registry, if `fails` tells why the plugin of a name cannot be loaded. -/
structure LoadsByVerdict (r : Registry) (missing : List String) (fails : String → Option LoadError) (d : Directory)
    (report : LoadReport) (r' : Registry) : Prop where
  loaded : report.loaded = missing.filter fun name => (fails name).isNone
  failures : report.failures = missing.filterMap fails
  /-- Every missing name is reported in exactly one way. -/
  reported : ∀ name ∈ missing, Xor (name ∈ report.loaded) (name ∈ report.failures.map (·.plugin))
  /-- No other name is reported, and none is reported twice. -/
  counted : (report.loaded ++ report.failures.map (·.plugin)).Perm missing
  active : r'.active = r.active ++ report.loaded
  distinct : r'.active.Nodup
  connections : ∀ c ∈ d.connections, r'.connections.contains c.id = true
  sessions : ∀ y ∈ d.sessions, r'.sessions.contains y.id = true

/-- The report on a batch is told from its names, if its attempts follow a verdict. -/
theorem report_of_follow (hv : LoadAttempt.Follow verdict (r.attempts h source requested parameters d)) :
    (r.loadAll h source requested parameters d).1 =
      { loaded := (r.missing requested).filter fun name => (verdict name (parameters name) d.storage).isNone
        failures := (r.missing requested).filterMap fun name => verdict name (parameters name) d.storage } := by
  have hfails : ∀ a ∈ r.attempts h source requested parameters d, a.failure? = verdict a.name (parameters a.name) d.storage := by
    intro a ha
    rw [hv a ha, (mem_attempts ha).1, (mem_attempts ha).2]
  rw [report_loadAll, ← names_attempts r h source requested parameters d, LoadAttempt.loadedNames, LoadAttempt.failures,
    List.filter_map, List.filterMap_map, LoadReport.mk.injEq]
  refine ⟨?_, List.filterMap_congr hfails⟩
  congr 1
  exact List.filter_congr fun a ha => by rw [hfails a ha]; rfl

/-- The order of a list does not matter for what is missing. -/
theorem perm_missing (r : Registry) {requested' : List String} (hp : requested'.Perm requested) :
    (r.missing requested').Perm (r.missing requested) := by
  rw [List.perm_ext_iff_of_nodup (r.nodup_missing _) (r.nodup_missing _)]
  intro name
  rw [mem_missing, mem_missing, hp.mem_iff]

/-- A batch loads the missing names whose plugins can be loaded, in the order of the list, and reports why the others cannot, in the
same order. Every missing name is in exactly one of the two, each once. The loaded plugins follow those there were, no two have the
same name, and all of the directory is observed. A list in another order is loaded with the same outcome in another order. -/
theorem Managed.loads_by_verdict (hr : r.Managed) (hv : LoadAttempt.Follow verdict (r.attempts h source requested parameters d)) :
    r.LoadsByVerdict (r.missing requested) (fun name => verdict name (parameters name) d.storage) d
      (r.loadAll h source requested parameters d).1 (r.loadAll h source requested parameters d).2.1 ∧
    ∀ requested' h', requested'.Perm requested →
      LoadAttempt.Follow verdict (r.attempts h' source requested' parameters d) →
      (r.loadAll h' source requested' parameters d).1.loaded.Perm (r.loadAll h source requested parameters d).1.loaded ∧
      (r.loadAll h' source requested' parameters d).1.failures.Perm (r.loadAll h source requested parameters d).1.failures := by
  have hreport := report_of_follow hv
  have hcounted := r.reported_loadAll h source requested parameters d
  have hnodup := hcounted.nodup_iff.2 (r.nodup_missing requested)
  have hobserves := observes_loadAll r h source requested parameters d
  refine ⟨⟨?_, ?_, ?_, hcounted, r.active_loadAll h source requested parameters d, nodup_loadAll hr.distinct, ?_, ?_⟩, ?_⟩
  · rw [hreport]
  · rw [hreport]
  · intro name hname
    rcases List.mem_append.1 (hcounted.mem_iff.2 hname) with hl | hf
    · exact Or.inl ⟨hl, fun hf => (List.nodup_append.1 hnodup).2.2 name hl name hf rfl⟩
    · exact Or.inr ⟨hf, fun hl => (List.nodup_append.1 hnodup).2.2 name hl name hf rfl⟩
  · intro c hc
    have hin : d.connections.contains c.id = true := (Roster.contains_iff _ _).2 (List.mem_map_of_mem hc)
    rw [(hobserves c.id).1, hin, Bool.or_true]
  · intro y hy
    have hin : d.sessions.contains y.id = true := (Roster.contains_iff _ _).2 (List.mem_map_of_mem hy)
    rw [Roster.contains, (hobserves y.id).2, Option.isSome_or, ← Roster.contains, ← Roster.contains, hin, Bool.or_true]
  · intro requested' h' hp hv'
    rw [hreport, report_of_follow hv']
    exact ⟨(r.perm_missing hp).filter _, (r.perm_missing hp).filterMap _⟩

/-- What comes of each of `PluginRun.threeModules`: one always runs, one never, and one if it has its parameter. -/
def threeVerdict : Verdict := fun name raw _ =>
  if name = "watch" then none
  else if name = "picky" then some (.notStarted name (.runtime "not today"))
  else if name = "strict" then
    match PluginParameters.parse [{ name := "key", kind := .string, required := true }] raw with
    | .ok _ => none
    | .error e => some (.parameters name e)
  else some (.unopened name "no built-in module with this name")

/-- A parameter for one of them. -/
def keyForStrict (name : String) : ParameterTable := if name = "strict" then [("key", .string "a")] else []

/-- A directory with a connection. -/
def attended : Directory :=
  { storage := ⟨⟨"documents"⟩⟩, connections := [{ id := 4, peer := { ip := .any .ipv4, port := 9 } }] }

/-- The registry after one of them was loaded, and its host. -/
def watched : Registry × Host := (loadAll {} { disk := .empty } PluginRun.threeModules ["watch"] keyForStrict attended).2

/-- One plugin runs already, one fails to start, one is not there, one has the parameter it needs, and two are listed twice. -/
theorem loads_by_verdict_three :
    let requested := ["picky", "strict", "watch", "picky", "gone", "strict"]
    let loads := fun requested => watched.1.loadAll watched.2 PluginRun.threeModules requested keyForStrict attended
    (loads requested).1.loaded = ["strict"] ∧
    (loads requested).1.failures =
      [.notStarted "picky" (.runtime "not today"), .unopened "gone" "no built-in module with this name"] ∧
    (loads requested).2.1.active = ["watch", "strict"] ∧
    (loads requested.reverse).1.failures.Perm (loads requested).1.failures := by
  intro requested loads
  have hr : watched.1.Managed := Managed.empty.loadAll _ _ _ _ _
  have hv : LoadAttempt.Follow threeVerdict
      (watched.1.attempts watched.2 PluginRun.threeModules requested keyForStrict attended) := by
    unfold LoadAttempt.Follow
    decide +kernel
  have hv' : LoadAttempt.Follow threeVerdict
      (watched.1.attempts watched.2 PluginRun.threeModules requested.reverse keyForStrict attended) := by
    unfold LoadAttempt.Follow
    decide +kernel
  obtain ⟨hloads, hperm⟩ := hr.loads_by_verdict hv
  have hloaded : (loads requested).1.loaded = ["strict"] := hloads.loaded.trans (by decide +kernel)
  have hactive : watched.1.active = ["watch"] := by decide +kernel
  refine ⟨hloaded, hloads.failures.trans (by decide +kernel), ?_, (hperm _ _ (List.reverse_perm requested) hv').2⟩
  rw [hloads.active, hactive, hloaded]
  rfl

end Registry

end CoEdit
