import CoEdit.Proofs.Plugin.Stack

/-!
# Visits nest

`Registry.Stacks` says of two plugins that what they were told of connections and sessions nests so far. Everything that is done to a
registry keeps it as long as the registry has the two in order and the first is not taken out from under the second.
-/

namespace CoEdit

open Host

namespace Registry

variable {r r' : Registry} {h h' : Host} {i : PluginInstance} {m n : Nat} {v : Subject}

/-- What two plugins were told of connections and sessions nests. Those of the two that are there are in for all that is observed, and
for nothing else. -/
def Stacks (r : Registry) (m n : Nat) (h : Host) : Prop :=
  ∀ u, Stacked (h.passages m n u) (r.observes u && decide (m ∈ r.numbers)) (r.observes u && decide (n ∈ r.numbers))

/-! ## What is observed -/

theorem observes_connectionAdded (r : Registry) (h : Host) (c : Connection) (u : Subject) :
    (r.connectionAdded h c).1.observes u = (decide (.connection c.id = u) || r.observes u) := by
  cases u with
  | connection id => simpa [observes] using r.contains_connectionAdded h c id
  | session id => simp [observes]

theorem observes_connectionRemoved (r : Registry) (h : Host) (c : Connection) (u : Subject) :
    (r.connectionRemoved h c).1.observes u = (!decide (.connection c.id = u) && r.observes u) := by
  cases u with
  | connection id => simpa [observes] using r.contains_connectionRemoved h c id
  | session id => simp [observes]

theorem observes_sessionAdded (r : Registry) (h : Host) (y : Session) (u : Subject) :
    (r.sessionAdded h y).1.observes u = (decide (.session y.id = u) || r.observes u) := by
  cases u with
  | connection id => simp [observes]
  | session id =>
    simp only [observes, Roster.contains, get?_sessionAdded, Option.isSome_or, Subject.session.injEq]
    by_cases hid : y.id = id <;> simp [hid]

theorem observes_sessionRemoved (r : Registry) (h : Host) (y : Session) (u : Subject) :
    (r.sessionRemoved h y).1.observes u = (!decide (.session y.id = u) && r.observes u) := by
  cases u with
  | connection id => simp [observes]
  | session id =>
    simp only [observes, Roster.contains, get?_sessionRemoved, Subject.session.injEq]
    by_cases hid : y.id = id <;> simp [hid]

theorem observes_adjust (r : Registry) (h : Host) (plugin : Nat) (subject : Subject) (f : SideState → SideState) (u : Subject) :
    (r.adjust h plugin subject f).1.observes u = r.observes u := by
  unfold adjust
  split
  · split <;> rfl
  · split <;> rfl

/-! ## Single reports -/

theorem Stacks.congr (s : r.Stacks m n h) (hi : r'.numbers = r.numbers) (ho : ∀ u, r'.observes u = r.observes u)
    (hp : ∀ u, h'.passages m n u = h.passages m n u) : r'.Stacks m n h' := by
  intro u
  rw [hi, ho, hp]
  exact s u

/-- What concerns neither plugins nor what is observed does not matter. -/
theorem Stacks.quiet (s : r.Stacks m n h) (hc : h'.cues = h.cues) : r.Stacks m n h' := by
  refine s.congr rfl (fun _ => rfl) ?_
  intro u
  rw [passages, hc]
  rfl

section
variable (hne : m ≠ n) (k : r.Keeps r.instances) (ho : Precedes m n r.numbers)

include hne k ho

/-- Something that was not observed appears, and all plugins are told of it. -/
theorem Stacks.appear (s : r.Stacks m n h) (hv : r.observes v = false) (hi : r'.instances = r.instances)
    (ho' : ∀ u, r'.observes u = (decide (v = u) || r.observes u)) (hc : h'.cues = h.cues ++ r.numbers.map fun j => (j, .entered v)) :
    r'.Stacks m n h' := by
  have hd : r.numbers.Nodup := k.distinct
  have hnumbers : r'.numbers = r.numbers := congrArg (List.map _) hi
  intro u
  have hs := s u
  rw [hnumbers, ho', passages_append hc]
  by_cases hu : v = u
  · subst hu
    rw [hv, Bool.false_and, Bool.false_and] at hs
    have hin := hs.enterAll hne hd ho v
    simpa using hin
  · have hnone : (r.numbers.map fun j => (j, Cue.entered v)).filterMap (passage? m n u) = [] :=
      List.filterMap_eq_nil_iff.2 fun c hm => by
        obtain ⟨j, -, rfl⟩ := List.mem_map.1 hm
        exact passage?_entered_ne hu
    rw [hnone, List.append_nil]
    simpa [hu] using hs

/-- Something that was observed goes away, and all plugins are told of it. -/
theorem Stacks.vanish (s : r.Stacks m n h) (hv : r.observes v = true) (hi : r'.instances = r.instances)
    (ho' : ∀ u, r'.observes u = (!decide (v = u) && r.observes u))
    (hc : h'.cues = h.cues ++ r.numbers.reverse.map fun j => (j, .departed v)) : r'.Stacks m n h' := by
  have hd : r.numbers.Nodup := k.distinct
  have hnumbers : r'.numbers = r.numbers := congrArg (List.map _) hi
  intro u
  have hs := s u
  rw [hnumbers, ho', passages_append hc]
  by_cases hu : v = u
  · subst hu
    rw [hv, Bool.true_and, Bool.true_and] at hs
    have hout := hs.leaveAll hne hd ho v
    simpa using hout
  · have hnone : (r.numbers.reverse.map fun j => (j, Cue.departed v)).filterMap (passage? m n u) = [] :=
      List.filterMap_eq_nil_iff.2 fun c hm => by
        obtain ⟨j, -, rfl⟩ := List.mem_map.1 hm
        exact passage?_departed_ne hu
    rw [hnone, List.append_nil]
    simpa [hu] using hs

theorem Stacks.connectionAdded (s : r.Stacks m n h) (c : Connection) :
    (r.connectionAdded h c).1.Stacks m n (r.connectionAdded h c).2 := by
  cases hc : r.connections.contains c.id with
  | true =>
    unfold Registry.connectionAdded
    rw [if_pos hc]
    exact s.quiet (cues_log _ _)
  | false =>
    exact Stacks.appear (v := .connection c.id) hne k ho s hc (instances_connectionAdded r h c) (r.observes_connectionAdded h c)
      (cues_connectionAdded hc)

theorem Stacks.connectionRemoved (s : r.Stacks m n h) (c : Connection) :
    (r.connectionRemoved h c).1.Stacks m n (r.connectionRemoved h c).2 := by
  cases hc : r.connections.contains c.id with
  | true =>
    exact Stacks.vanish (v := .connection c.id) hne k ho s hc (instances_connectionRemoved r h c) (r.observes_connectionRemoved h c)
      (cues_connectionRemoved k hc)
  | false =>
    unfold Registry.connectionRemoved
    rw [if_pos (by simp [hc])]
    exact s.quiet (cues_log _ _)

theorem Stacks.sessionAdded (s : r.Stacks m n h) (y : Session) :
    (r.sessionAdded h y).1.Stacks m n (r.sessionAdded h y).2 := by
  cases hy : r.sessions.contains y.id with
  | true =>
    unfold Registry.sessionAdded
    rw [if_pos hy]
    exact s.quiet (cues_log _ _)
  | false =>
    exact Stacks.appear (v := .session y.id) hne k ho s hy (instances_sessionAdded r h y) (r.observes_sessionAdded h y) (cues_sessionAdded hy)

theorem Stacks.sessionRemoved (s : r.Stacks m n h) (y : Session) :
    (r.sessionRemoved h y).1.Stacks m n (r.sessionRemoved h y).2 := by
  cases hy : r.sessions.contains y.id with
  | true =>
    exact Stacks.vanish (v := .session y.id) hne k ho s hy (instances_sessionRemoved r h y) (r.observes_sessionRemoved h y)
      (cues_sessionRemoved hy)
  | false =>
    unfold Registry.sessionRemoved
    rw [if_pos (by simp [hy])]
    exact s.quiet (cues_log _ _)

end

/-- A directory is observed. -/
theorem Stacks.observe (hne : m ≠ n) (hr : r.Sound h) (ho : Precedes m n r.numbers) (s : r.Stacks m n h) (d : Directory) :
    (r.observe h d).1.Stacks m n (r.observe h d).2 := by
  refine (observe_induction (P := fun x => x.1.Sound x.2 ∧ x.1.instances = r.instances ∧ x.1.Stacks m n x.2) ⟨hr, rfl, s⟩ ?_ ?_ d).2.2
  · intro r' h' c ⟨hs, hi, hst⟩
    have ho' : Precedes m n r'.numbers := by
      rw [numbers, hi]
      exact ho
    exact ⟨hs.connectionAdded c, (instances_connectionAdded r' h' c).trans hi, hst.connectionAdded hne hs.keeps ho' c⟩
  · intro r' h' y ⟨hs, hi, hst⟩
    have ho' : Precedes m n r'.numbers := by
      rw [numbers, hi]
      exact ho
    exact ⟨hs.sessionAdded y, (instances_sessionAdded r' h' y).trans hi, hst.sessionAdded hne hs.keeps ho' y⟩

/-! ## Plugins come and go -/

/-- A plugin joins on top of the others. -/
theorem Stacks.insert (hne : m ≠ n) (k : r.Keeps r.instances) (hi : i.number ∉ r.numbers)
    (ho : Precedes m n (r.insert h i).1.numbers) (s : r.Stacks m n h) : (r.insert h i).1.Stacks m n (r.insert h i).2 := by
  have hnumbers : (r.insert h i).1.numbers = r.numbers ++ [i.number] := List.map_append
  have hd : (r.numbers ++ [i.number]).Nodup := by
    refine List.nodup_append.2 ⟨k.distinct, by simp, ?_⟩
    intro a ha b hb
    rw [List.mem_singleton.1 hb]
    exact fun he => hi (he ▸ ha)
  intro u
  have hs := s u
  have hobs : (r.insert h i).1.observes u = r.observes u := by cases u <;> rfl
  rw [hnumbers] at ho
  rw [hnumbers, hobs, passages_append (cues_insert r h i), filterMap_passage? k.nodup_observed fun v hv => passage?_entered_ne hv]
  simp only [mem_observed]
  cases hu : r.observes u with
  | true =>
    rw [hu, Bool.true_and, Bool.true_and] at hs
    exact hs.enter hne (ho.above hne hd) u
  | false =>
    rw [hu, Bool.false_and, Bool.false_and] at hs
    simpa using hs

/-- A plugin that leaves is told of each departure once. -/
theorem Keeps.filterMap_farewell {is : List PluginInstance} (k : r.Keeps is) (j : Nat) (u : Subject) :
    (r.farewell j).filterMap (passage? m n u) = if r.observes u then (passage? m n u (j, .departed u)).toList else [] := by
  have hd : r.parting.Nodup := r.parting_perm.nodup_iff.2 k.nodup_observed
  rw [farewell, List.filterMap_append, filterMap_passage? hd fun v hv => passage?_departed_ne hv]
  simp only [r.parting_perm.mem_iff, mem_observed]
  exact List.append_nil _

theorem Keeps.filterMap_farewells {is : List PluginInstance} (k : r.Keeps is) (js : List Nat) (u : Subject) :
    (js.flatMap r.farewell).filterMap (passage? m n u) =
      if r.observes u then (js.map fun j => (j, Cue.departed u)).filterMap (passage? m n u) else [] := by
  induction js with
  | nil => simp
  | cons j js ih =>
    rw [List.flatMap_cons, List.filterMap_append, ih, k.filterMap_farewell, List.map_cons, List.filterMap_cons]
    cases r.observes u <;> cases passage? m n u (j, .departed u) <;> rfl

/-- The other plugins are left when one leaves by name. -/
theorem numbers_unload (k : r.Keeps r.instances) {name : String} (hi : r.named? name = some i) (h : Host) :
    (r.unload h name).2.1.numbers = r.numbers.filter (· ≠ i.number) := by
  rw [numbers, instances_unload k hi, numbers, List.filter_map]
  rfl

/-- Any but the first of the two plugins leaves. -/
theorem Stacks.unload (hne : m ≠ n) (k : r.Keeps r.instances) (hrun : ∀ j ∈ r.instances, j.isStopped = false)
    (ho : Precedes m n r.numbers) {name : String} (hm : ∀ j, r.named? name = some j → j.number ≠ m) (s : r.Stacks m n h) :
    (r.unload h name).2.1.Stacks m n (r.unload h name).2.2 := by
  cases hi : r.named? name with
  | none =>
    unfold Registry.unload
    rw [hi]
    exact s
  | some i =>
    have hmem : i.number ∈ r.numbers := number_mem (List.mem_of_find?_eq_some hi)
    intro u
    have hs := s u
    have hobs : (r.unload h name).2.1.observes u = r.observes u := by
      unfold Registry.unload
      rw [hi]
      cases u <;> rfl
    rw [numbers_unload k hi, hobs, passages_append (cues_unload k hrun hi), k.filterMap_farewell]
    cases hu : r.observes u with
    | true =>
      -- who is in is whoever left, or one of the others
      have hin : ∀ a, a ∈ r.numbers ↔ a = i.number ∨ a ∈ r.numbers.filter (· ≠ i.number) := by
        intro a
        by_cases ha : a = i.number
        · simp [ha, hmem]
        · simp [ha]
      simp only [hu, Bool.true_and, hin] at hs
      exact hs.leave hne (ho.above_filter (hm i hi) hmem) u
    | false =>
      rw [hu, Bool.false_and, Bool.false_and] at hs
      simpa using hs

/-- All plugins leave. -/
theorem Stacks.unloadAll (hne : m ≠ n) (k : r.Keeps r.instances) (hrun : ∀ j ∈ r.instances, j.isStopped = false)
    (ho : Precedes m n r.numbers) (s : r.Stacks m n h) (u : Subject) :
    Stacked ((r.unloadAll h).2.passages m n u) false false := by
  have hs := s u
  rw [passages_append (cues_unloadAll k hrun), k.filterMap_farewells]
  cases hu : r.observes u with
  | true =>
    rw [hu, Bool.true_and, Bool.true_and] at hs
    exact hs.leaveAll hne k.distinct ho u
  | false =>
    rw [hu, Bool.false_and, Bool.false_and] at hs
    simpa using hs

/-- When all plugins leave, one that joined after another is called for the last time before the other is called at all. -/
theorem cues_unloadAll_in_turn (k : r.Keeps r.instances) (hrun : ∀ j ∈ r.instances, j.isStopped = false)
    (hs : [m, n].Sublist r.numbers) : ∃ later earlier, (r.unloadAll h).2.cues = h.cues ++ (later ++ earlier) ∧
      (∀ c ∈ later, c.1 ≠ m) ∧ (∀ c ∈ earlier, c.1 ≠ n) ∧ (n, .stopped) ∈ later ∧ (m, .stopped) ∈ earlier := by
  obtain ⟨before, after, hsplit, hm, hn⟩ := List.cons_sublist_iff.1 hs
  have hn : n ∈ after := List.singleton_sublist.1 hn
  have hd : (before ++ after).Nodup := by
    rw [← hsplit]
    exact k.distinct
  have hapart := (List.nodup_append.1 hd).2.2
  refine ⟨after.reverse.flatMap r.farewell, before.reverse.flatMap r.farewell, ?_, ?_, ?_, ?_, ?_⟩
  · rw [cues_unloadAll k hrun, hsplit, List.reverse_append, List.flatMap_append]
  · intro c hc he
    obtain ⟨j, hj, hcj⟩ := List.mem_flatMap.1 hc
    have hfst := fst_of_mem_farewell hcj
    exact hapart m hm j (List.mem_reverse.1 hj) (he.symm.trans hfst)
  · intro c hc he
    obtain ⟨j, hj, hcj⟩ := List.mem_flatMap.1 hc
    have hfst := fst_of_mem_farewell hcj
    exact hapart j (List.mem_reverse.1 hj) n hn (hfst.symm.trans he)
  · exact List.mem_flatMap.2 ⟨n, List.mem_reverse.2 hn, r.stopped_mem_farewell n⟩
  · exact List.mem_flatMap.2 ⟨m, List.mem_reverse.2 hm, r.stopped_mem_farewell m⟩

/-- A registry without plugins has none that are in. -/
theorem stacks_of_empty (hi : r.instances = []) (hs : ∀ u, Stacked (h.passages m n u) false false) : r.Stacks m n h := by
  intro u
  simpa [numbers, hi] using hs u

end Registry

/-! ## Batches -/

namespace Batch

variable (source : ModuleSource) (parameters : String → ParameterTable) (storage : DocumentStore)

/-- A step of a batch puts plugins with new numbers behind those there are. -/
theorem numbers_step (b : Batch) (name : String) : ∃ new, (∀ k ∈ new, b.host.nextPlugin ≤ k) ∧
    (b.step source parameters storage name).registry.numbers = b.registry.numbers ++ new := by
  rcases b.step_cases source parameters storage name with ⟨-, e, hr, -⟩ | ⟨-, ⟨i, h, hl, hr, -⟩ | ⟨e, h, entry, -, hr, -⟩⟩
  · exact ⟨[], by simp, by rw [hr, List.append_nil]⟩
  · refine ⟨[i.number], ?_, ?_⟩
    · intro k hk
      rw [List.mem_singleton.1 hk]
      exact Nat.le_of_eq (ModuleSource.number_of_load hl).1.symm
    · rw [hr]
      exact List.map_append
  · exact ⟨[], by simp, by rw [hr, List.append_nil]⟩

theorem numbers_foldl (names : List String) (b : Batch) : ∃ new, (∀ k ∈ new, b.host.nextPlugin ≤ k) ∧
    (names.foldl (Batch.step source parameters storage) b).registry.numbers = b.registry.numbers ++ new := by
  induction names generalizing b with
  | nil => exact ⟨[], by simp, (List.append_nil _).symm⟩
  | cons name names ih =>
    obtain ⟨new, hnew, hn⟩ := b.numbers_step source parameters storage name
    obtain ⟨more, hmore, hm⟩ := ih (b.step source parameters storage name)
    refine ⟨new ++ more, ?_, ?_⟩
    · intro k hk
      rcases List.mem_append.1 hk with hk | hk
      · exact hnew k hk
      · exact Nat.le_trans (b.attends_step source parameters storage name).nextPlugin (hmore k hk)
    · rw [List.foldl_cons, hm, hn, List.append_assoc]

theorem sound_foldl (names : List String) {b : Batch} (hb : b.registry.Sound b.host) :
    (names.foldl (Batch.step source parameters storage) b).registry.Sound
      (names.foldl (Batch.step source parameters storage) b).host :=
  List.foldlRecOn names _ (motive := fun b : Batch => b.registry.Sound b.host) hb
    fun _ hb name _ => hb.batchStep source parameters storage name

variable {m n : Nat} (hne : m ≠ n)

include hne

theorem stacks_step {b : Batch} (hb : b.registry.Sound b.host) (s : b.registry.Stacks m n b.host) (name : String)
    (ho : Precedes m n (b.step source parameters storage name).registry.numbers) :
    (b.step source parameters storage name).registry.Stacks m n (b.step source parameters storage name).host := by
  obtain ⟨cs, hcs, hq⟩ := source.cues_load b.host name (parameters name) storage
  have hload : b.registry.Stacks m n (source.load b.host name (parameters name) storage).2 :=
    s.congr rfl (fun _ => rfl) fun u => passages_quiet hcs hq m n u
  rcases b.step_cases source parameters storage name with ⟨-, e, hr, hh⟩ | ⟨-, ⟨i, h, hl, hr, hh⟩ | ⟨e, h, entry, hl, hr, hh⟩⟩
  · rw [hr, hh]
    exact s.quiet (cues_log _ _)
  · rw [hl] at hload
    rw [hr] at ho
    rw [hr, hh]
    refine hload.insert hne hb.keeps ?_ ho
    intro hm
    obtain ⟨j, hj, hji⟩ := List.mem_map.1 hm
    have hold := hb.handedOut j hj
    have hnew := (ModuleSource.number_of_load hl).1
    omega
  · rw [hl] at hload
    rw [hr, hh]
    exact hload.quiet (cues_log _ _)

/-- The order that the plugins have in the end they have after each step, since those that were there stay in front. -/
theorem stacks_foldl (names : List String) {b : Batch} (hb : b.registry.Sound b.host) (s : b.registry.Stacks m n b.host)
    (ho : Precedes m n (names.foldl (Batch.step source parameters storage) b).registry.numbers) :
    (names.foldl (Batch.step source parameters storage) b).registry.Stacks m n
      (names.foldl (Batch.step source parameters storage) b).host := by
  induction names generalizing b with
  | nil => exact s
  | cons name names ih =>
    have hb' := hb.batchStep source parameters storage name
    have hd : ((names.foldl (Batch.step source parameters storage)
        (b.step source parameters storage name)).registry.numbers).Nodup :=
      (sound_foldl source parameters storage names hb').keeps.distinct
    obtain ⟨more, -, hm⟩ := (b.step source parameters storage name).numbers_foldl source parameters storage names
    rw [List.foldl_cons] at ho
    have hstep : Precedes m n (b.step source parameters storage name).registry.numbers := by
      rw [hm] at hd ho
      exact Precedes.of_append hd ho
    exact ih hb' (stacks_step source parameters storage hne hb s name hstep) ho

end Batch

/-- A batch is loaded, and the directory observed. -/
theorem Registry.Stacks.loadAll {r : Registry} {h : Host} {m n : Nat} (hne : m ≠ n) (hr : r.Sound h) (s : r.Stacks m n h)
    (source : ModuleSource) (requested : List String) (parameters : String → ParameterTable) (d : Directory)
    (ho : Precedes m n (r.loadAll h source requested parameters d).2.1.numbers) :
    (r.loadAll h source requested parameters d).2.1.Stacks m n (r.loadAll h source requested parameters d).2.2 := by
  have hb := Batch.sound_foldl source parameters d.storage requested (b := { registry := r, host := h }) hr
  have ho' : Precedes m n (requested.foldl (Batch.step source parameters d.storage) { registry := r, host := h }).registry.numbers := by
    have hi := (Registry.reports_observe (requested.foldl (Batch.step source parameters d.storage)
      { registry := r, host := h }).registry (requested.foldl (Batch.step source parameters d.storage)
      { registry := r, host := h }).host d).1
    rw [numbers, ← hi]
    exact ho
  have hs := (Batch.stacks_foldl source parameters d.storage hne requested hr s ho').observe hne hb ho' d
  unfold Registry.loadAll
  dsimp only
  split
  · exact hs.quiet (cues_log _ _)
  · exact hs

theorem Registry.numbers_loadAll (r : Registry) (h : Host) (source : ModuleSource) (requested : List String)
    (parameters : String → ParameterTable) (d : Directory) : ∃ new, (∀ k ∈ new, h.nextPlugin ≤ k) ∧
      (r.loadAll h source requested parameters d).2.1.numbers = r.numbers ++ new := by
  obtain ⟨new, hnew, hn⟩ := Batch.numbers_foldl source parameters d.storage requested { registry := r, host := h }
  refine ⟨new, hnew, Eq.trans ?_ hn⟩
  exact congrArg (List.map _) (Registry.reports_observe _ _ d).1

end CoEdit
