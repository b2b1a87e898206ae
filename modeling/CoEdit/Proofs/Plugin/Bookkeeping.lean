import CoEdit.Proofs.Plugin.Keys

/-!
# Bookkeeping of a registry

Along any run of a registry, in which plugins join and leave and connections and sessions come and go in any order, the tables have
exactly the keys they are meant to have. `Registry.Reached` are the registries of such runs, whatever the plugins do to the host;
`Registry.Reached.keys_exact` is what holds of them, and of each thing that can be done next. What is looked up when a connection goes
away is always there (`Registry.HasWhatGoes`), so the warning about a state that is missing is never logged by the registry.
-/

namespace CoEdit

/-- What can be done with a registry. -/
inductive RegistryAction where
  | insert (i : PluginInstance)
  | observe (d : Directory)
  | connectionAdded (c : Connection)
  | connectionRemoved (c : Connection)
  | sessionAdded (y : Session)
  | sessionRemoved (y : Session)
  /-- The state of a plugin for something is changed by someone who looked it up. -/
  | adjust (plugin : Nat) (subject : Subject) (f : SideState → SideState)
  | unload (name : String)
  | unloadAll

namespace Registry

variable {r : Registry} {h : Host} {i : PluginInstance} {is : List PluginInstance}

/-! ## What is reported again, and what is not there -/

/-- What is reported again and what goes away without being observed is logged, changes nothing, and calls nobody. -/
structure IgnoresRepeats (r : Registry) (h : Host) : Prop where
  connectionAdded : ∀ c, r.connections.contains c.id = true → ∃ e, r.connectionAdded h c = (r, h.log e)
  connectionRemoved : ∀ c, r.connections.contains c.id = false → ∃ e, r.connectionRemoved h c = (r, h.log e)
  sessionAdded : ∀ y, r.sessions.contains y.id = true → ∃ e, r.sessionAdded h y = (r, h.log e)
  sessionRemoved : ∀ y, r.sessions.contains y.id = false → ∃ e, r.sessionRemoved h y = (r, h.log e)
  unload : ∀ name, r.contains name = false → r.unload h name = (false, r, h)

theorem ignoresRepeats (r : Registry) (h : Host) : r.IgnoresRepeats h where
  connectionAdded _ hc := ⟨_, if_pos hc⟩
  connectionRemoved _ hc := ⟨_, if_pos (by simp [hc])⟩
  sessionAdded _ hy := ⟨_, if_pos hy⟩
  sessionRemoved _ hy := ⟨_, if_pos (by simp [hy])⟩
  unload name hn := by
    have hnone : r.named? name = none := Option.isNone_iff_eq_none.1 (Option.isSome_eq_false_iff.1 hn)
    rw [Registry.unload, hnone]

/-- Things that are observed already are not observed again. -/
theorem observe_of_observed {d : Directory} (hc : ∀ id, d.connections.contains id = true → r.connections.contains id = true)
    (hs : ∀ id, d.sessions.contains id = true → r.sessions.contains id = true) (h : Host) : r.observe h d = (r, h) := by
  have hconnections : d.connections.foldl observeConnection (r, h) = (r, h) :=
    List.foldlRecOn d.connections observeConnection (motive := fun x => x = (r, h)) rfl fun x hx c hm => by
      rw [hx, observeConnection, if_pos (hc c.id ((Roster.contains_iff _ _).2 (List.mem_map_of_mem hm)))]
  rw [observe, hconnections]
  exact List.foldlRecOn d.sessions observeSession (motive := fun x => x = (r, h)) rfl fun x hx y hm => by
    rw [hx, observeSession, if_pos (hs y.id ((Roster.contains_iff _ _).2 (List.mem_map_of_mem hm)))]

/-- A directory that was observed is not observed again. -/
theorem observe_observe (r : Registry) (h h' : Host) (d : Directory) :
    (r.observe h d).1.observe h' d = ((r.observe h d).1, h') := by
  refine observe_of_observed ?_ ?_ h'
  · intro id hid
    rw [contains_observe, hid, Bool.or_true]
  · intro id hid
    rw [Roster.contains, get?_observe, Option.isSome_or, ← Roster.contains, ← Roster.contains, hid, Bool.or_true]

/-! ## One plugin leaves -/

/-- A registry is another one without a plugin. The states of the plugin are gone, and all else is as it was. -/
structure IsWithout (r' r : Registry) (n : Nat) : Prop where
  instances : r'.instances = r.instances.filter fun j => j.number ≠ n
  observes : r.ObservesAs r'
  connection : ∀ p id, r'.connectionState? p id = if p = n then none else r.connectionState? p id
  session : ∀ p id, r'.sessionState? p id = if p = n then none else r.sessionState? p id

/-- The states of other plugins stay when connections go away from a plugin. -/
theorem get?_leaveConnections {p : Nat} (hp : i.number ≠ p) (id : Nat) (cs : List Connection) (x : SideTable × Host) :
    (cs.foldl (fun x c => i.leaveConnection c x) x).1.get? p id = x.1.get? p id := by
  refine List.foldlRecOn cs _ (motive := fun y : SideTable × Host => y.1.get? p id = x.1.get? p id) rfl ?_
  intro y hy c _
  rw [← hy]
  unfold PluginInstance.leaveConnection
  dsimp only
  split
  · rw [SideTable.get?_remove, if_neg fun he => hp he.1]
  · rfl

theorem get?_leaveSessions {p : Nat} (hp : i.number ≠ p) (id : Nat) (ys : List Session) (x : SideTable × Host) :
    (ys.foldl (fun x y => i.leaveSession y x) x).1.get? p id = x.1.get? p id := by
  refine List.foldlRecOn ys _ (motive := fun y : SideTable × Host => y.1.get? p id = x.1.get? p id) rfl ?_
  intro y hy z _
  rw [← hy]
  unfold PluginInstance.leaveSession
  dsimp only
  split
  · rw [SideTable.get?_remove, if_neg fun he => hp he.1]
  · rfl

/-- A plugin that is not there has no states. -/
theorem Keeps.no_states (k : r.Keeps r.instances) {n : Nat} (hn : n ∉ r.numbers) (id : Nat) :
    r.connectionState? n id = none ∧ r.sessionState? n id = none := by
  constructor
  · refine Option.not_isSome_iff_eq_none.1 fun hs => ?_
    obtain ⟨⟨j, hj, he⟩, -⟩ := (k.connection n id).1 hs
    exact hn (List.mem_map.2 ⟨j, hj, he⟩)
  · refine Option.not_isSome_iff_eq_none.1 fun hs => ?_
    obtain ⟨-, -, j, hj, he, -⟩ := (k.session n id).1 hs
    exact hn (List.mem_map.2 ⟨j, hj, he⟩)

/-- A plugin that is unloaded leaves the states of the others and all that is observed. -/
theorem unload_leaves {name : String} (hi : r.named? name = some i) (h : Host) :
    (r.unload h name).1 = true ∧ r.ObservesAs (r.unload h name).2.1 ∧
      ∀ p, i.number ≠ p → ∀ id, (r.unload h name).2.1.connectionState? p id = r.connectionState? p id ∧
        (r.unload h name).2.1.sessionState? p id = r.sessionState? p id := by
  unfold unload
  rw [hi]
  exact ⟨rfl, ⟨rfl, rfl⟩, fun p hp id => ⟨get?_leaveConnections hp id _ _, get?_leaveSessions hp id _ _⟩⟩

/-- The first plugin of a name leaves, and no other. -/
theorem isWithout_unload (k : r.Keeps r.instances) {name : String} (hi : r.named? name = some i) (h : Host) :
    (r.unload h name).1 = true ∧ (r.unload h name).2.1.IsWithout r i.number := by
  obtain ⟨htrue, hobserves, hothers⟩ := unload_leaves hi h
  have hn : i.number ∉ (r.unload h name).2.1.numbers := by
    rw [numbers, instances_unload k hi]
    simp
  have hown := (k.unload h name).no_states hn
  refine ⟨htrue, instances_unload k hi h, hobserves, fun p id => ?_, fun p id => ?_⟩
  · by_cases hp : p = i.number
    · rw [if_pos hp, hp, (hown id).1]
    · rw [if_neg hp, (hothers p (Ne.symm hp) id).1]
  · by_cases hp : p = i.number
    · rw [if_pos hp, hp, (hown id).2]
    · rw [if_neg hp, (hothers p (Ne.symm hp) id).2]

/-! ## What is looked up is there -/

/-- A plugin that leaves has a state for every connection that goes away from it, when it does. -/
def HasWhatLeaves (r : Registry) (h : Host) (i : PluginInstance) : Prop :=
  AllAlong (fun x c => i.leaveConnection c x) (fun x c => (x.1.get? i.number c.id).isSome) (r.connectionStates, h)
    r.connections.reverse

theorem Keeps.hasWhatLeaves (k : r.Keeps (i :: is)) (h : Host) : r.HasWhatLeaves h i := by
  refine PluginInstance.allAlong_leaveConnection (fun c => (i, c)) (nodup_map_reverse (nodup_things k.connections i.number)) ?_
  intro c hc
  exact (k.connection i.number c.id).2
    ⟨⟨i, List.mem_cons_self, rfl⟩, (Roster.contains_iff _ _).2 (List.mem_map_of_mem (List.mem_reverse.1 hc))⟩

theorem Keeps.allAlong_dismiss {leaving : List PluginInstance} (k : r.Keeps (leaving ++ is)) (h : Host) :
    AllAlong (fun x i => x.1.dismiss x.2 i) (fun x i => x.1.HasWhatLeaves x.2 i) (r, h) leaving := by
  induction leaving generalizing r h with
  | nil => trivial
  | cons i leaving ih => exact ⟨k.hasWhatLeaves h, ih (k.dismiss h) _⟩

/-! ## Runs -/

/-- The registry and its host after an action. -/
def perform (r : Registry) (h : Host) : RegistryAction → Registry × Host
  | .insert i => r.insert h i
  | .observe d => r.observe h d
  | .connectionAdded c => r.connectionAdded h c
  | .connectionRemoved c => r.connectionRemoved h c
  | .sessionAdded y => r.sessionAdded h y
  | .sessionRemoved y => r.sessionRemoved h y
  | .adjust plugin subject f => r.adjust h plugin subject f
  | .unload name => (r.unload h name).2
  | .unloadAll => r.unloadAll h

/-- Whether a plugin that joins is none of those that are there. -/
def Admits (r : Registry) : RegistryAction → Prop
  | .insert i => i.number ∉ r.numbers
  | _ => True

/-- The registries of the runs that begin with an empty registry. The host may be another one at every action. -/
inductive Reached : Registry → Prop
  | empty : Reached {}
  | step {r : Registry} (hr : Reached r) (h : Host) (a : RegistryAction) (ha : r.Admits a) : Reached (r.perform h a).1

/-- The registry and its host after actions, one after the other. -/
def performAll (r : Registry) (h : Host) (as : List RegistryAction) : Registry × Host :=
  as.foldl (fun x a => x.1.perform x.2 a) (r, h)

/-- Whether each plugin that joins is none of those that are there by then. -/
def AdmitsAll (r : Registry) (h : Host) : List RegistryAction → Prop
  | [] => True
  | a :: as => r.Admits a ∧ AdmitsAll (r.perform h a).1 (r.perform h a).2 as

/-- A run goes on by any number of actions. -/
theorem Reached.performAll (hr : r.Reached) {as : List RegistryAction} (ha : r.AdmitsAll h as) : (r.performAll h as).1.Reached := by
  induction as generalizing r h with
  | nil => exact hr
  | cons a as ih => exact ih (hr.step h a ha.1) ha.2

theorem Reached.tabled (hr : r.Reached) : r.Tabled := by
  induction hr with
  | empty => exact .empty
  | step _ h a ha t =>
    cases a with
    | insert i => exact t.insert ha h
    | observe d => exact t.observe h d
    | connectionAdded c => exact t.connectionAdded h c
    | connectionRemoved c => exact t.connectionRemoved h c
    | sessionAdded y => exact t.sessionAdded h y
    | sessionRemoved y => exact t.sessionRemoved h y
    | adjust plugin subject f => exact t.adjust h plugin subject f
    | unload name => exact t.unload h name
    | unloadAll => exact t.unloadAll h

/-- Whenever an action makes a connection go away from a plugin, the plugin has a state for it. -/
def HasWhatGoes (r : Registry) (h : Host) : RegistryAction → Prop
  | .connectionRemoved c => r.connections.contains c.id = true →
    AllAlong (fun x i => i.leaveConnection c x) (fun x i => (x.1.get? i.number c.id).isSome) (r.connectionStates, h)
      r.instances.reverse
  | .unload name => ∀ i, r.named? name = some i → r.HasWhatLeaves h i
  | .unloadAll =>
    AllAlong (fun x i => x.1.dismiss x.2 i) (fun x i => x.1.HasWhatLeaves x.2 i) ({ r with instances := [] }, h) r.instances.reverse
  | _ => True

theorem Keeps.hasWhatGoes (k : r.Keeps r.instances) (h : Host) (a : RegistryAction) : r.HasWhatGoes h a := by
  cases a with
  | connectionRemoved c =>
    intro hc
    refine PluginInstance.allAlong_leaveConnection (fun i => (i, c)) (nodup_map_reverse (nodup_plugins k.distinct c.id)) ?_
    exact fun i hi => (k.connection i.number c.id).2 ⟨⟨i, List.mem_reverse.1 hi, rfl⟩, hc⟩
  | unload name => exact fun i hi => (k.perm (perm_of_find? hi)).hasWhatLeaves h
  | unloadAll =>
    have hk : Keeps { r with instances := [] } (r.instances.reverse ++ []) := by
      rw [List.append_nil]
      exact k.parting (List.reverse_perm r.instances).symm []
    exact hk.allAlong_dismiss h
  | _ => trivial

/-- A plugin that joins after all others left has a state for each observed connection, and there are no other states for
connections. -/
theorem Tabled.keys_insert_unloadAll (t : r.Tabled) (h h' : Host) (i : PluginInstance) :
    (SideTable.keys ((r.unloadAll h).1.insert h' i).1.connectionStates).Perm (r.connections.numbers.map fun id => (i.number, id)) := by
  have hnone := r.instances_unloadAll h
  have hi : i.number ∉ (r.unloadAll h).1.numbers := by simp [numbers, hnone]
  have hkeys := ((t.unloadAll h).insert hi h').connection_keys
  have hnumbers : ((r.unloadAll h).1.insert h' i).1.numbers = [i.number] := by
    show List.map _ ((r.unloadAll h).1.instances ++ [i]) = _
    rw [hnone]
    rfl
  have hobserved : ((r.unloadAll h).1.insert h' i).1.connections = r.connections := (r.observesAs_unloadAll h).1
  rw [hnumbers, hobserved, List.product_cons, List.nil_product, List.append_nil] at hkeys
  exact hkeys

/-- Along any run of a registry the keys of its tables are exactly the pairs of a plugin and an observed connection, and the pairs of a
plugin and an observed session of a kind that the plugin asks for, each once. What is reported again or goes away unobserved changes
nothing and calls nobody, and a directory that was observed is not observed again. A plugin that is unloaded by name takes its states
with it and leaves the others theirs. Whenever a connection goes away from a plugin the plugin has a state for it, and a plugin that
joins after all were unloaded has a state for each observed connection. -/
theorem Reached.keys_exact (hr : r.Reached) (h : Host) :
    (SideTable.keys r.connectionStates).Perm (r.numbers ×ˢ r.connections.numbers) ∧
    (SideTable.keys r.sessionStates).Perm
      (((r.instances ×ˢ r.sessions).filter fun x => x.1.descriptor.accepts x.2.kind).map fun x => (x.1.number, x.2.id)) ∧
    r.IgnoresRepeats h ∧
    (∀ d h', (r.observe h d).1.observe h' d = ((r.observe h d).1, h')) ∧
    (∀ name i, r.named? name = some i → (r.unload h name).1 = true ∧ (r.unload h name).2.1.IsWithout r i.number) ∧
    (∀ a, r.HasWhatGoes h a) ∧
    ∀ h' i, (SideTable.keys ((r.unloadAll h).1.insert h' i).1.connectionStates).Perm
      (r.connections.numbers.map fun id => (i.number, id)) := by
  have t := hr.tabled
  exact ⟨t.connection_keys, t.session_keys, r.ignoresRepeats h, fun d h' => r.observe_observe h h' d,
    fun name i hi => isWithout_unload t.keeps hi h, t.keeps.hasWhatGoes h, fun h' i => t.keys_insert_unloadAll h h' i⟩

/-- A plugin that runs, under a number and for sessions of a kind. -/
def bystander (number : Nat) (name : String) (sessionType : Option String) : PluginInstance where
  number
  descriptor := { name, description := "", sessionType, plugin := { start := fun around _ _ => (.ok {}, around.silence) } }
  context := { name, storage := ⟨⟨"documents"⟩⟩ }
  running := {}

/-- Three plugins, one of which is for texts, join before, between and after three connections and three sessions; a connection is reported
twice, one goes away, and one plugin is unloaded by name. -/
def crowdedActions : List RegistryAction :=
  let c (id : Nat) : Connection := { id, peer := { ip := .any .ipv4, port := 9 } }
  let text : SessionKind := .root "text"
  [.connectionAdded (c 4), .insert (bystander 1 "all" none), .connectionAdded (c 2), .connectionAdded (c 4),
    .sessionAdded { id := 5, path := "a", kind := .derived "page" text }, .insert (bystander 2 "texts" (some "text")),
    .sessionAdded { id := 6, path := "b", kind := .root "drawing" }, .connectionAdded (c 3), .connectionRemoved (c 2),
    .connectionRemoved (c 2), .insert (bystander 3 "more" none), .unload "all"]

/-- The registry after these, and its host. -/
def crowded : Registry × Host := ({} : Registry).performAll { disk := .empty } crowdedActions

/-- The plugin for texts has no state for the drawing, the one that was unloaded has none at all, and a plugin that joins after the others
were unloaded has one for each of the two connections that are left. -/
theorem keys_exact_crowded : crowded.1.Reached ∧
    (SideTable.keys crowded.1.connectionStates).Perm [(2, 4), (2, 3), (3, 3), (3, 4)] ∧
    (SideTable.keys crowded.1.sessionStates).Perm [(2, 5), (3, 5), (3, 6)] ∧
    (SideTable.keys ((crowded.1.unloadAll crowded.2).1.insert crowded.2 (bystander 1 "all" none)).1.connectionStates).Perm
      [(1, 3), (1, 4)] := by
  have hadmits : ({} : Registry).AdmitsAll { disk := .empty } crowdedActions := by
    refine ⟨trivial, ?_, trivial, trivial, trivial, ?_, trivial, trivial, trivial, trivial, ?_, trivial, trivial⟩
    all_goals
      unfold Admits
      decide +kernel
  have hr : crowded.1.Reached := Reached.empty.performAll hadmits
  have hkeys := hr.keys_exact crowded.2
  refine ⟨hr, hkeys.1.trans ?_, hkeys.2.1.trans ?_, (hkeys.2.2.2.2.2.2 crowded.2 (bystander 1 "all" none)).trans ?_⟩
  all_goals decide +kernel

end Registry
end CoEdit
