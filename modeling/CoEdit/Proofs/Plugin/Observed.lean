import CoEdit.Proofs.Plugin.SideStates

/-!
# What a registry observes

A connection or session that is reported is observed until it is reported to go away. Plugins that join and leave change nothing
about it. Observing a directory adds what is in it and was not observed before.
-/

namespace CoEdit
namespace Registry

variable (r : Registry) (h : Host)

/-- Two registries observe the same. -/
def ObservesAs (r r' : Registry) : Prop := r'.connections = r.connections ∧ r'.sessions = r.sessions

theorem observesAs_refl : r.ObservesAs r := ⟨rfl, rfl⟩

theorem ObservesAs.trans {r r' r'' : Registry} (a : r.ObservesAs r') (a' : r'.ObservesAs r'') : r.ObservesAs r'' :=
  ⟨a'.1.trans a.1, a'.2.trans a.2⟩

/-! ## Plugins -/

theorem observesAs_insert (i : PluginInstance) : r.ObservesAs (r.insert h i).1 := ⟨rfl, rfl⟩

theorem observesAs_dismissAll (leaving : List PluginInstance) : r.ObservesAs (r.dismissAll h leaving).1 := by
  induction leaving generalizing r h with
  | nil => exact r.observesAs_refl
  | cons i leaving ih => exact ObservesAs.trans ⟨rfl, rfl⟩ (ih (r.dismiss h i).1 (r.dismiss h i).2)

theorem observesAs_unloadAll : r.ObservesAs (r.unloadAll h).1 := by
  unfold unloadAll
  split
  · exact r.observesAs_refl
  · have hd := observesAs_dismissAll { r with instances := [] } h r.instances.reverse
    exact ⟨hd.1, hd.2⟩

theorem observesAs_batchStep (source : ModuleSource) (parameters : String → ParameterTable) (storage : DocumentStore)
    (b : Batch) (name : String) : b.registry.ObservesAs (b.step source parameters storage name).registry := by
  rcases b.step_cases source parameters storage name with ⟨-, e, hr, -⟩ | ⟨-, ⟨i, h, -, hr, -⟩ | ⟨e, h, entry, -, hr, -⟩⟩
  · rw [hr]
    exact observesAs_refl _
  · rw [hr]
    exact observesAs_insert _ _ _
  · rw [hr]
    exact observesAs_refl _

theorem observesAs_batch (source : ModuleSource) (parameters : String → ParameterTable) (storage : DocumentStore) (b : Batch)
    (names : List String) : b.registry.ObservesAs (names.foldl (Batch.step source parameters storage) b).registry :=
  List.foldlRecOn names _ (motive := fun b' => b.registry.ObservesAs b'.registry) (observesAs_refl _)
    fun b' hb name _ => hb.trans (observesAs_batchStep source parameters storage b' name)

/-! ## Connections -/

@[simp] theorem sessions_connectionAdded (c : Connection) : (r.connectionAdded h c).1.sessions = r.sessions := by
  unfold connectionAdded
  split <;> rfl

@[simp] theorem sessions_connectionRemoved (c : Connection) : (r.connectionRemoved h c).1.sessions = r.sessions := by
  unfold connectionRemoved
  split <;> rfl

/-- A connection that was reported is observed, next to those that were before. -/
theorem contains_connectionAdded (c : Connection) (id : Nat) :
    (r.connectionAdded h c).1.connections.contains id = (decide (c.id = id) || r.connections.contains id) := by
  unfold connectionAdded
  split
  · rename_i hc
    by_cases hid : c.id = id
    · rw [hid] at hc
      simp [hid, hc]
    · simp [hid]
  · exact Roster.contains_insert c id r.connections

/-- A connection that was reported to go away is not observed. -/
theorem contains_connectionRemoved (c : Connection) (id : Nat) :
    (r.connectionRemoved h c).1.connections.contains id = (!decide (c.id = id) && r.connections.contains id) := by
  unfold connectionRemoved
  split
  · rename_i hc
    by_cases hid : c.id = id
    · rw [hid] at hc
      simp [hid, hc]
    · simp [hid]
  · exact Roster.contains_remove c.id id r.connections

/-! ## Sessions -/

@[simp] theorem connections_sessionAdded (y : Session) : (r.sessionAdded h y).1.connections = r.connections := by
  unfold sessionAdded
  split <;> rfl

@[simp] theorem connections_sessionRemoved (y : Session) : (r.sessionRemoved h y).1.connections = r.connections := by
  unfold sessionRemoved
  split <;> rfl

/-- A session that was reported is observed unless another one with its number was before. -/
theorem get?_sessionAdded (y : Session) (id : Nat) :
    (r.sessionAdded h y).1.sessions.get? id = (r.sessions.get? id).or (if y.id = id then some y else none) := by
  unfold sessionAdded
  split
  · rename_i hy
    by_cases hid : y.id = id
    · obtain ⟨z, hz⟩ := Option.isSome_iff_exists.1 hy
      rw [hid] at hz
      simp [hz]
    · simp [hid]
  · rename_i hy
    show (Roster.insert y r.sessions).get? id = _
    rw [Roster.get?_insert]
    by_cases hid : y.id = id
    · have hn : r.sessions.get? id = none := by
        rw [← hid]
        simpa [Roster.contains] using hy
      simp [hid, hn, number]
    · simp [hid, number]

/-- A session that was reported to go away is not observed. -/
theorem get?_sessionRemoved (y : Session) (id : Nat) :
    (r.sessionRemoved h y).1.sessions.get? id = if y.id = id then none else r.sessions.get? id := by
  unfold sessionRemoved
  split
  · rename_i hy
    split
    · rename_i hid
      rw [hid] at hy
      simpa [Roster.contains] using hy
    · rfl
  · exact Roster.get?_remove y.id id r.sessions

/-! ## Directories -/

theorem contains_observeConnection (x : Registry × Host) (c : Connection) (id : Nat) :
    (observeConnection x c).1.connections.contains id = (x.1.connections.contains id || decide (c.id = id)) := by
  unfold observeConnection
  split
  · rename_i hc
    by_cases hid : c.id = id
    · rw [hid] at hc
      simp [hid, hc]
    · simp [hid]
  · rw [contains_connectionAdded, Bool.or_comm]

theorem sessions_observeConnection (x : Registry × Host) (c : Connection) : (observeConnection x c).1.sessions = x.1.sessions := by
  unfold observeConnection
  split
  · rfl
  · exact sessions_connectionAdded _ _ _

theorem get?_observeSession (x : Registry × Host) (y : Session) (id : Nat) :
    (observeSession x y).1.sessions.get? id = (x.1.sessions.get? id).or (if y.id = id then some y else none) := by
  unfold observeSession
  split
  · rename_i hy
    by_cases hid : y.id = id
    · obtain ⟨z, hz⟩ := Option.isSome_iff_exists.1 hy
      rw [hid] at hz
      simp [hz]
    · simp [hid]
  · exact get?_sessionAdded _ _ _ _

theorem connections_observeSession (x : Registry × Host) (y : Session) :
    (observeSession x y).1.connections = x.1.connections := by
  unfold observeSession
  split
  · rfl
  · exact connections_sessionAdded _ _ _

theorem contains_observeConnections (cs : Roster Connection) (x : Registry × Host) (id : Nat) :
    (cs.foldl observeConnection x).1.connections.contains id = (x.1.connections.contains id || cs.contains id) := by
  induction cs generalizing x with
  | nil => simp [Roster.contains, Roster.get?]
  | cons c cs ih =>
    rw [List.foldl_cons, ih, contains_observeConnection, Bool.or_assoc]
    by_cases hid : c.id = id
    · simp [hid, number, Roster.contains, Roster.get?]
    · simp [hid, number, Roster.contains, Roster.get?]

theorem get?_observeSessions (ys : Roster Session) (x : Registry × Host) (id : Nat) :
    (ys.foldl observeSession x).1.sessions.get? id = (x.1.sessions.get? id).or (ys.get? id) := by
  induction ys generalizing x with
  | nil => simp [Roster.get?]
  | cons y ys ih =>
    rw [List.foldl_cons, ih, get?_observeSession, Option.or_assoc]
    by_cases hid : y.id = id
    · simp [hid, number, Roster.get?]
    · simp [hid, number, Roster.get?]

theorem sessions_observeConnections (cs : List Connection) (x : Registry × Host) :
    (cs.foldl observeConnection x).1.sessions = x.1.sessions :=
  List.foldlRecOn cs observeConnection (motive := fun x' => x'.1.sessions = x.1.sessions) rfl
    fun x' hx c _ => (sessions_observeConnection x' c).trans hx

theorem connections_observeSessions (ys : List Session) (x : Registry × Host) :
    (ys.foldl observeSession x).1.connections = x.1.connections :=
  List.foldlRecOn ys observeSession (motive := fun x' => x'.1.connections = x.1.connections) rfl
    fun x' hx y _ => (connections_observeSession x' y).trans hx

/-- Observing a directory adds its connections. -/
theorem contains_observe (d : Directory) (id : Nat) :
    (r.observe h d).1.connections.contains id = (r.connections.contains id || d.connections.contains id) := by
  unfold observe
  rw [connections_observeSessions, contains_observeConnections]

/-- Observing a directory adds its sessions. -/
theorem get?_observe (d : Directory) (id : Nat) :
    (r.observe h d).1.sessions.get? id = (r.sessions.get? id).or (d.sessions.get? id) := by
  unfold observe
  rw [get?_observeSessions, sessions_observeConnections]

/-- After a batch was loaded, the registry observes what it did before and what is in the directory. -/
theorem observes_loadAll (source : ModuleSource) (requested : List String) (parameters : String → ParameterTable) (d : Directory)
    (id : Nat) :
    (r.loadAll h source requested parameters d).2.1.connections.contains id =
        (r.connections.contains id || d.connections.contains id) ∧
      (r.loadAll h source requested parameters d).2.1.sessions.get? id = (r.sessions.get? id).or (d.sessions.get? id) := by
  have hb := observesAs_batch source parameters d.storage { registry := r, host := h } requested
  unfold loadAll
  refine ⟨(contains_observe _ _ d id).trans ?_, (get?_observe _ _ d id).trans ?_⟩
  · rw [hb.1]
  · rw [hb.2]

end Registry
end CoEdit
