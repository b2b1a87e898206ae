import CoEdit.Proofs.Plugin.Reports

/-!
# What plugins saw of connections and sessions

`ConnectionsTold` says of a table and a trace that what each plugin saw of a connection ends with the state that the table has for it,
and with its departure if the table has none. For sessions there is not always a state, so `SessionsTold` says in addition which
plugins have been told of which sessions. `Registry.Told` puts both together for a registry, and all that is done to a registry keeps
it.
-/

namespace CoEdit

open Host Occurrence

/-! ## Connections -/

/-- What each plugin saw of a connection ends with the state that is kept for it, if there is one. -/
def ConnectionsTold (x : SideTable × Host) : Prop :=
  ∀ n id, Visits (x.2.visits n (.connection id)) ((x.1.get? n id).map some)

namespace ConnectionsTold

variable {x : SideTable × Host}

/-- What happens to nothing but sessions does not matter. -/
theorem congr (hx : ConnectionsTold x) {h : Host}
    (hh : ∀ n id, h.visits n (.connection id) = x.2.visits n (.connection id)) : ConnectionsTold (x.1, h) := by
  intro n id
  rw [hh]
  exact hx n id

/-- A plugin without a state for a connection is told of it. -/
theorem enter (hx : ConnectionsTold x) {i : PluginInstance} {c : Connection} (hn : x.1.get? i.number c.id = none) :
    ConnectionsTold (i.enterConnection c x) := by
  intro n id
  have hv := hx n id
  unfold PluginInstance.enterConnection PluginInstance.call
  dsimp only
  rw [SideTable.get?_set]
  by_cases hk : i.number = n ∧ c.id = id
  · obtain ⟨rfl, rfl⟩ := hk
    rw [hn] at hv
    rw [visits_call_some _ _ _ _ _ (Callback.visit?_connectionAdded _ _ _), if_pos ⟨rfl, rfl⟩]
    exact hv.entered _
  · rw [visits_call_none, if_neg hk]
    · exact hv
    · exact fun hm => if_neg fun hu => hk ⟨hm, (Subject.connection.inj hu).symm⟩

/-- A plugin is told that a connection goes away if it has a state for it. -/
theorem leave (hx : ConnectionsTold x) (i : PluginInstance) (c : Connection) : ConnectionsTold (i.leaveConnection c x) := by
  unfold PluginInstance.leaveConnection PluginInstance.call
  dsimp only
  split
  · rename_i state hs
    intro n id
    have hv := hx n id
    dsimp only
    rw [SideTable.get?_remove]
    by_cases hk : i.number = n ∧ c.id = id
    · obtain ⟨rfl, rfl⟩ := hk
      rw [hs] at hv
      rw [visits_call_some _ _ _ _ _ (Callback.visit?_connectionRemoved _ _), if_pos ⟨rfl, rfl⟩]
      exact hv.left
    · rw [visits_call_none, if_neg hk]
      · exact hv
      · exact fun hm => if_neg fun hu => hk ⟨hm, (Subject.connection.inj hu).symm⟩
  · exact hx.congr fun n id => visits_log _ _ _ _

/-- Plugins are told of connections that they have no states for, each of each at most once. -/
theorem enterAll {α : Type} (f : α → PluginInstance × Connection) {l : List α} (hx : ConnectionsTold x)
    (hd : (l.map fun a => ((f a).1.number, (f a).2.id)).Nodup) (hn : ∀ a ∈ l, x.1.get? (f a).1.number (f a).2.id = none) :
    ConnectionsTold (l.foldl (fun x a => (f a).1.enterConnection (f a).2 x) x) := by
  induction l generalizing x with
  | nil => exact hx
  | cons a l ih =>
    rw [List.map_cons, List.nodup_cons] at hd
    refine ih (hx.enter (hn a List.mem_cons_self)) hd.2 ?_
    intro b hb
    have hne : ¬((f a).1.number = (f b).1.number ∧ (f a).2.id = (f b).2.id) := fun he =>
      hd.1 (List.mem_map.2 ⟨b, hb, Prod.ext he.1.symm he.2.symm⟩)
    exact (SideTable.get?_set _ _ _ _ _ _).trans ((if_neg hne).trans (hn b (List.mem_cons_of_mem a hb)))

/-- Plugins are told that connections go away. -/
theorem leaveAll {α : Type} (f : α → PluginInstance × Connection) (l : List α) (hx : ConnectionsTold x) :
    ConnectionsTold (l.foldl (fun x a => (f a).1.leaveConnection (f a).2 x) x) :=
  List.foldlRecOn l _ (motive := ConnectionsTold) hx fun _ hx a _ => hx.leave (f a).1 (f a).2

/-- A change of a state for a connection is the last that was seen of it. -/
theorem adjust (hx : ConnectionsTold x) {n id : Nat} {state : SideState}
    (hs : x.1.get? n id = some state) (f : SideState → SideState) :
    ConnectionsTold (x.1.modify n id f, x.2.note (.changed n (.connection id) (f state))) := by
  intro m id'
  have hv := hx m id'
  dsimp only
  rw [SideTable.get?_modify]
  by_cases hk : n = m ∧ id = id'
  · obtain ⟨rfl, rfl⟩ := hk
    rw [hs] at hv
    rw [visits_changed, if_pos ⟨rfl, rfl⟩, hs]
    exact hv.changed (f state)
  · rw [visits_changed_ne _ _ _ _ _ fun he => hk ⟨he.1, Subject.connection.inj he.2⟩, if_neg hk]
    exact hv

end ConnectionsTold

/-! ## Sessions -/

/-- What a plugin saw of a session that it has been told of ends with the state that is kept for it, if any. What it saw of any other
ends with its departure, and no state is kept. -/
structure SessionsTold (told : Nat → Nat → Prop) (x : SideTable × Host) : Prop where
  there : ∀ n id, told n id → Visits (x.2.visits n (.session id)) (some (x.1.get? n id))
  gone : ∀ n id, ¬told n id → Visits (x.2.visits n (.session id)) none ∧ x.1.get? n id = none

namespace SessionsTold

variable {told told' : Nat → Nat → Prop} {x : SideTable × Host}

theorem congr (hx : SessionsTold told x) (ht : ∀ n id, told' n id ↔ told n id) {h : Host}
    (hh : ∀ n id, h.visits n (.session id) = x.2.visits n (.session id)) : SessionsTold told' (x.1, h) := by
  constructor
  · intro n id hm
    rw [hh]
    exact hx.there n id ((ht n id).1 hm)
  · intro n id hm
    rw [hh]
    exact hx.gone n id fun h => hm ((ht n id).2 h)

/-- The departure and the arrival of a session concern one plugin and one session. -/
theorem visit?_session_ne {n id m id' : Nat} {c : Callback} (hk : ¬(m = n ∧ id' = id))
    (hc : (∃ state, c = .sessionAdded id' state) ∨ ∃ given, c = .sessionRemoved id' given) :
    m = n → c.visit? (.session id) = none := by
  intro hm
  have hne : Subject.session id ≠ .session id' := fun hu => hk ⟨hm, (Subject.session.inj hu).symm⟩
  rcases hc with ⟨state, rfl⟩ | ⟨given, rfl⟩
  · exact if_neg hne
  · exact if_neg hne

/-- A plugin is told of a session that it has not been told of. -/
theorem enter (hx : SessionsTold told x) {i : PluginInstance} {y : Session} (hn : ¬told i.number y.id) :
    SessionsTold (fun n id => told n id ∨ (i.number = n ∧ y.id = id)) (i.enterSession y x) := by
  obtain ⟨hv, ht⟩ := hx.gone _ _ hn
  unfold PluginInstance.enterSession PluginInstance.call
  dsimp only
  split
  · constructor
    · intro n id hm
      dsimp only
      rw [SideTable.get?_set]
      by_cases hk : i.number = n ∧ y.id = id
      · obtain ⟨rfl, rfl⟩ := hk
        rw [visits_call_some _ _ _ _ _ (Callback.visit?_sessionAdded _ _), if_pos ⟨rfl, rfl⟩]
        exact hv.entered _
      · rw [visits_call_none _ _ _ _ _ _ (visit?_session_ne hk (Or.inl ⟨_, rfl⟩)), if_neg hk]
        exact hx.there n id (hm.resolve_right hk)
    · intro n id hm
      have hk : ¬(i.number = n ∧ y.id = id) := fun hk => hm (Or.inr hk)
      dsimp only
      rw [SideTable.get?_set, visits_call_none _ _ _ _ _ _ (visit?_session_ne hk (Or.inl ⟨_, rfl⟩)), if_neg hk]
      exact hx.gone n id fun h => hm (Or.inl h)
  · constructor
    · intro n id hm
      dsimp only
      by_cases hk : i.number = n ∧ y.id = id
      · obtain ⟨rfl, rfl⟩ := hk
        rw [visits_call_some _ _ _ _ _ (Callback.visit?_sessionAdded _ _), ht]
        exact hv.entered none
      · rw [visits_call_none _ _ _ _ _ _ (visit?_session_ne hk (Or.inl ⟨_, rfl⟩))]
        exact hx.there n id (hm.resolve_right hk)
    · intro n id hm
      have hk : ¬(i.number = n ∧ y.id = id) := fun hk => hm (Or.inr hk)
      dsimp only
      rw [visits_call_none _ _ _ _ _ _ (visit?_session_ne hk (Or.inl ⟨_, rfl⟩))]
      exact hx.gone n id fun h => hm (Or.inl h)

/-- A plugin is told that a session goes away that it has been told of. -/
theorem leave (hx : SessionsTold told x) {i : PluginInstance} {y : Session} (ht : told i.number y.id) :
    SessionsTold (fun n id => told n id ∧ ¬(i.number = n ∧ y.id = id)) (i.leaveSession y x) := by
  have hv := hx.there _ _ ht
  unfold PluginInstance.leaveSession PluginInstance.call
  dsimp only
  split
  · rename_i state hs
    rw [hs] at hv
    constructor
    · intro n id hm
      dsimp only
      rw [SideTable.get?_remove, visits_call_none _ _ _ _ _ _ (visit?_session_ne hm.2 (Or.inr ⟨_, rfl⟩)), if_neg hm.2]
      exact hx.there n id hm.1
    · intro n id hm
      dsimp only
      rw [SideTable.get?_remove]
      by_cases hk : i.number = n ∧ y.id = id
      · obtain ⟨rfl, rfl⟩ := hk
        rw [visits_call_some _ _ _ _ _ (Callback.visit?_sessionRemoved _ _), if_pos ⟨rfl, rfl⟩]
        exact ⟨hv.left, rfl⟩
      · rw [visits_call_none _ _ _ _ _ _ (visit?_session_ne hk (Or.inr ⟨_, rfl⟩)), if_neg hk]
        exact hx.gone n id fun h => hm ⟨h, hk⟩
  · rename_i hs
    rw [hs] at hv
    constructor
    · intro n id hm
      dsimp only
      rw [visits_call_none _ _ _ _ _ _ (visit?_session_ne hm.2 (Or.inr ⟨_, rfl⟩))]
      exact hx.there n id hm.1
    · intro n id hm
      dsimp only
      by_cases hk : i.number = n ∧ y.id = id
      · obtain ⟨rfl, rfl⟩ := hk
        rw [visits_call_some _ _ _ _ _ (Callback.visit?_sessionRemoved _ _)]
        exact ⟨hv.left, hs⟩
      · rw [visits_call_none _ _ _ _ _ _ (visit?_session_ne hk (Or.inr ⟨_, rfl⟩))]
        exact hx.gone n id fun h => hm ⟨h, hk⟩

/-- Plugins are told of sessions that they have not been told of, each of each at most once. -/
theorem enterAll {α : Type} (f : α → PluginInstance × Session) {l : List α} (hx : SessionsTold told x)
    (hd : (l.map fun a => ((f a).1.number, (f a).2.id)).Nodup) (hn : ∀ a ∈ l, ¬told (f a).1.number (f a).2.id) :
    SessionsTold (fun n id => told n id ∨ ∃ a ∈ l, (f a).1.number = n ∧ (f a).2.id = id)
      (l.foldl (fun x a => (f a).1.enterSession (f a).2 x) x) := by
  induction l generalizing told x with
  | nil => exact hx.congr (by simp) fun _ _ => rfl
  | cons a l ih =>
    rw [List.map_cons, List.nodup_cons] at hd
    have hl := ih (hx.enter (hn a List.mem_cons_self)) hd.2 fun b hb ht => ?_
    · exact hl.congr (fun n id => by simp only [List.mem_cons, exists_eq_or_imp, or_assoc]) fun _ _ => rfl
    · rcases ht with ht | he
      · exact hn b (List.mem_cons_of_mem a hb) ht
      · exact hd.1 (List.mem_map.2 ⟨b, hb, Prod.ext he.1.symm he.2.symm⟩)

/-- Plugins are told that sessions go away that they have been told of, each of each at most once. -/
theorem leaveAll {α : Type} (f : α → PluginInstance × Session) {l : List α} (hx : SessionsTold told x)
    (hd : (l.map fun a => ((f a).1.number, (f a).2.id)).Nodup) (ht : ∀ a ∈ l, told (f a).1.number (f a).2.id) :
    SessionsTold (fun n id => told n id ∧ ∀ a ∈ l, ¬((f a).1.number = n ∧ (f a).2.id = id))
      (l.foldl (fun x a => (f a).1.leaveSession (f a).2 x) x) := by
  induction l generalizing told x with
  | nil => exact hx.congr (by simp) fun _ _ => rfl
  | cons a l ih =>
    rw [List.map_cons, List.nodup_cons] at hd
    have hl := ih (hx.leave (ht a List.mem_cons_self)) hd.2 fun b hb => ⟨ht b (List.mem_cons_of_mem a hb), fun he => ?_⟩
    · exact hl.congr (fun n id => by simp only [List.forall_mem_cons, and_assoc]) fun _ _ => rfl
    · exact hd.1 (List.mem_map.2 ⟨b, hb, Prod.ext he.1.symm he.2.symm⟩)

/-- A change of a state for a session is the last that was seen of it. -/
theorem adjust (hx : SessionsTold told x) {n id : Nat}
    {state : SideState} (hs : x.1.get? n id = some state) (f : SideState → SideState) :
    SessionsTold told (x.1.modify n id f, x.2.note (.changed n (.session id) (f state))) := by
  constructor
  · intro m id' hm
    have hv := hx.there m id' hm
    dsimp only
    rw [SideTable.get?_modify]
    by_cases hk : n = m ∧ id = id'
    · obtain ⟨rfl, rfl⟩ := hk
      rw [hs] at hv
      rw [visits_changed, if_pos ⟨rfl, rfl⟩, hs]
      exact hv.changed (f state)
    · rw [visits_changed_ne _ _ _ _ _ fun he => hk ⟨he.1, Subject.session.inj he.2⟩, if_neg hk]
      exact hv
  · intro m id' hm
    have hg := hx.gone m id' hm
    have hk : ¬(n = m ∧ id = id') := by
      rintro ⟨rfl, rfl⟩
      rw [hs] at hg
      cases hg.2
    dsimp only
    rw [SideTable.get?_modify, visits_changed_ne _ _ _ _ _ fun he => hk ⟨he.1, Subject.session.inj he.2⟩, if_neg hk]
    exact hg

end SessionsTold

/-! ## Stopping -/

/-- A plugin that is stopped sees nothing of connections and sessions. -/
theorem PluginInstance.visits_stop (i : PluginInstance) (h : Host) (n : Nat) (u : Subject) :
    (i.stop h).visits n u = h.visits n u := by
  unfold stop
  split
  · rfl
  · exact visits_call_none _ _ _ _ _ _ fun _ => rfl

theorem PluginInstance.visits_retire (i : PluginInstance) (h : Host) (n : Nat) (u : Subject) :
    (i.retire h).visits n u = h.visits n u :=
  (i.stopped.visits_stop _ n u).trans (i.visits_stop h n u)

/-! ## Registries -/

namespace Registry

/-- What the plugins of a list saw of connections and sessions agrees with what is observed and with the states that are kept, and what
other plugins saw is over. -/
structure Told (r : Registry) (is : List PluginInstance) (h : Host) : Prop where
  connections : ConnectionsTold (r.connectionStates, h)
  sessions : SessionsTold (fun n id => (∃ i ∈ is, i.number = n) ∧ r.sessions.contains id = true) (r.sessionStates, h)

variable {r : Registry} {is : List PluginInstance} {i : PluginInstance} {h h' : Host}

/-- What does not concern connections and sessions does not matter. -/
theorem Told.congr (t : r.Told is h) (hv : ∀ n u, h'.visits n u = h.visits n u) : r.Told is h' :=
  ⟨t.connections.congr fun n _ => hv n _, t.sessions.congr (fun _ _ => Iff.rfl) fun n _ => hv n _⟩

/-- The order of the plugins does not matter. -/
theorem Told.perm {js : List PluginInstance} (t : r.Told is h) (hp : is.Perm js) : r.Told js h :=
  ⟨t.connections, t.sessions.congr (fun n id => by simp only [hp.mem_iff]) fun _ _ => rfl⟩

/-- Plugins with different numbers, and one thing. -/
theorem nodup_plugins {is : List PluginInstance} (hd : (is.map (·.number)).Nodup) (id : Nat) :
    (is.map fun i => (i.number, id)).Nodup :=
  List.pairwise_map.2 ((List.pairwise_map.1 hd).imp fun hne he => hne (Prod.mk.inj he).1)

/-- One plugin, and things with different numbers. -/
theorem nodup_things {α : Type} [Numbered α] {l : Roster α} (hl : l.Ascending) (n : Nat) :
    (l.map fun a => (n, number a)).Nodup :=
  List.pairwise_map.2 (hl.imp fun hlt he => Nat.ne_of_lt hlt (Prod.mk.inj he).2)

theorem nodup_map_reverse {α β : Type} {l : List α} {f : α → β} (hd : (l.map f).Nodup) : (l.reverse.map f).Nodup := by
  rw [List.map_reverse]
  exact List.pairwise_reverse.2 (hd.imp Ne.symm)

/-! ## Connections and sessions come and go -/

theorem Told.connectionAdded (t : r.Told r.instances h) (k : r.Keeps r.instances) (c : Connection) :
    (r.connectionAdded h c).1.Told r.instances (r.connectionAdded h c).2 := by
  have hr := r.reports_connectionAdded h c
  unfold Registry.connectionAdded at hr ⊢
  split
  · exact t.congr fun n u => visits_log _ _ _ _
  · rename_i hc
    rw [if_neg hc] at hr
    have hn : ∀ i ∈ r.instances, r.connectionStates.get? i.number c.id = none := fun i _ =>
      Option.not_isSome_iff_eq_none.1 fun hs => hc ((k.connection i.number c.id).1 hs).2
    refine ⟨t.connections.enterAll (fun i => (i, c)) (nodup_plugins k.distinct c.id) hn, ?_⟩
    exact t.sessions.congr (fun _ _ => Iff.rfl) fun n id => hr.visits fun o ho => ho.2 n id

theorem Told.connectionRemoved (t : r.Told r.instances h) (c : Connection) :
    (r.connectionRemoved h c).1.Told r.instances (r.connectionRemoved h c).2 := by
  have hr := r.reports_connectionRemoved h c
  unfold Registry.connectionRemoved at hr ⊢
  split
  · exact t.congr fun n u => visits_log _ _ _ _
  · rename_i hc
    rw [if_neg hc] at hr
    refine ⟨t.connections.leaveAll (fun i => (i, c)) r.instances.reverse, ?_⟩
    exact t.sessions.congr (fun _ _ => Iff.rfl) fun n id => hr.visits fun o ho => ho.2 n id

theorem Told.sessionAdded (t : r.Told r.instances h) (k : r.Keeps r.instances) (y : Session) :
    (r.sessionAdded h y).1.Told r.instances (r.sessionAdded h y).2 := by
  have hr := r.reports_sessionAdded h y
  unfold Registry.sessionAdded at hr ⊢
  split
  · exact t.congr fun n u => visits_log _ _ _ _
  · rename_i hy
    rw [if_neg hy] at hr
    have hs := t.sessions.enterAll (fun i => (i, y)) (nodup_plugins k.distinct y.id) fun i _ ht => hy ht.2
    refine ⟨t.connections.congr fun n id => hr.visits fun o ho => ho.2 n id, hs.congr ?_ fun _ _ => rfl⟩
    intro n id
    dsimp only
    rw [Roster.contains_insert]
    simp only [Bool.or_eq_true, decide_eq_true_eq]
    constructor
    · rintro ⟨⟨i, hi, hn⟩, hid | hc⟩
      · exact Or.inr ⟨i, hi, hn, hid⟩
      · exact Or.inl ⟨⟨i, hi, hn⟩, hc⟩
    · rintro (⟨hi, hc⟩ | ⟨i, hi, hn, hid⟩)
      · exact ⟨hi, Or.inr hc⟩
      · exact ⟨⟨i, hi, hn⟩, Or.inl hid⟩

theorem Told.sessionRemoved (t : r.Told r.instances h) (k : r.Keeps r.instances) (y : Session) :
    (r.sessionRemoved h y).1.Told r.instances (r.sessionRemoved h y).2 := by
  have hr := r.reports_sessionRemoved h y
  unfold Registry.sessionRemoved at hr ⊢
  split
  · exact t.congr fun n u => visits_log _ _ _ _
  · rename_i hy
    rw [if_neg hy] at hr
    have hs := t.sessions.leaveAll (fun i => (i, y)) (nodup_map_reverse (nodup_plugins k.distinct y.id))
      fun i hi => ⟨⟨i, List.mem_reverse.1 hi, rfl⟩, Decidable.not_not.1 hy⟩
    refine ⟨t.connections.congr fun n id => hr.visits fun o ho => ho.2 n id, hs.congr ?_ fun _ _ => rfl⟩
    intro n id
    dsimp only
    rw [Roster.contains_remove]
    simp only [Bool.and_eq_true, Bool.not_eq_true', decide_eq_false_iff_not]
    constructor
    · rintro ⟨hi, hid, hc⟩
      exact ⟨⟨hi, hc⟩, fun i _ he => hid he.2⟩
    · rintro ⟨⟨⟨i, hi, hn⟩, hc⟩, hno⟩
      exact ⟨⟨i, hi, hn⟩, fun hid => hno i (List.mem_reverse.2 hi) ⟨hn, hid⟩, hc⟩

/-- A state that is changed is the state that is given back. -/
theorem Told.adjust (t : r.Told is h) (plugin : Nat) (subject : Subject) (f : SideState → SideState) :
    (r.adjust h plugin subject f).1.Told is (r.adjust h plugin subject f).2 := by
  have hne : ∀ {u u' : Subject} {n : Nat} {state : SideState}, u' ≠ u →
      (h.note (.changed plugin u' state)).visits n u = h.visits n u := fun hu =>
    visits_changed_ne _ _ _ _ _ fun he => hu he.2
  unfold Registry.adjust
  split
  · split
    · rename_i hs
      exact ⟨t.connections.adjust hs f, t.sessions.congr (fun _ _ => Iff.rfl) fun _ _ => hne (by simp)⟩
    · exact t
  · split
    · rename_i hs
      exact ⟨t.connections.congr fun _ _ => hne (by simp), t.sessions.adjust hs f⟩
    · exact t

/-! ## Plugins join and leave -/

/-- A plugin that joins is told of all that is observed. -/
theorem Told.insert (t : r.Told r.instances h) (k : r.Keeps r.instances) (hn : i.number ∉ r.instances.map (·.number)) :
    (r.insert h i).1.Told (r.instances ++ [i]) (r.insert h i).2 := by
  have hno : ∀ j ∈ r.instances, j.number ≠ i.number := fun j hj he => hn (he ▸ List.mem_map_of_mem hj)
  have hc := r.reports_insertConnections h i
  have hs := r.reports_insertSessions (r.connections.foldl (fun x c => i.enterConnection c x) (r.connectionStates, h)).2 i
  -- nobody had the number before, so there are no states for it yet
  have hnone : ∀ c ∈ r.connections, r.connectionStates.get? i.number c.id = none := fun c _ =>
    Option.not_isSome_iff_eq_none.1 fun h => by
      obtain ⟨⟨j, hj, hji⟩, -⟩ := (k.connection i.number c.id).1 h
      exact hno j hj hji
  have ht := (t.connections.enterAll (fun c => (i, c)) (nodup_things k.connections i.number) hnone).congr fun n id =>
    hs.visits fun o ho => ho.2 n id
  have hst := (t.sessions.congr (fun _ _ => Iff.rfl) fun n id => hc.visits fun o ho => ho.2 n id).enterAll (fun y => (i, y))
    (nodup_things k.sessions i.number) fun y _ htold => by
      obtain ⟨⟨j, hj, hji⟩, -⟩ := htold
      exact hno j hj hji
  refine ⟨ht, hst.congr ?_ fun _ _ => rfl⟩
  intro n id
  have hm : (∃ y ∈ r.sessions, i.number = n ∧ y.id = id) ↔ i.number = n ∧ r.sessions.contains id = true := exists_mem_numbered
  rw [hm]
  simp only [List.mem_append, List.mem_singleton, or_and_right, exists_or, exists_eq_left]
  rfl

/-- A plugin that leaves is told that all goes away that is observed. -/
theorem Told.dismiss (t : r.Told (i :: is) h) (k : r.Keeps (i :: is)) : (r.dismiss h i).1.Told is (r.dismiss h i).2 := by
  have hd := k.distinct
  rw [List.map_cons, List.nodup_cons] at hd
  have hne : ∀ j ∈ is, j.number ≠ i.number := fun j hj he => hd.1 (he ▸ List.mem_map_of_mem hj)
  have hc := r.reports_farewellConnections h i
  have hs := r.reports_farewellSessions
    (r.connections.reverse.foldl (fun x c => i.leaveConnection c x) (r.connectionStates, h)).2 i
  have ht := (t.connections.leaveAll (fun c => (i, c)) r.connections.reverse).congr fun n id =>
    hs.visits fun o ho => ho.2 n id
  have hst := (t.sessions.congr (fun _ _ => Iff.rfl) fun n id => hc.visits fun o ho => ho.2 n id).leaveAll (fun y => (i, y))
    (nodup_map_reverse (nodup_things k.sessions i.number)) fun y hy =>
      ⟨⟨i, List.mem_cons_self, rfl⟩, (Roster.contains_iff y.id r.sessions).2 (List.mem_map_of_mem (List.mem_reverse.1 hy))⟩
  have hr := fun n u => i.visits_retire
    (r.sessions.reverse.foldl (fun x y => i.leaveSession y x) (r.sessionStates,
      (r.connections.reverse.foldl (fun x c => i.leaveConnection c x) (r.connectionStates, h)).2)).2 n u
  refine ⟨ht.congr fun n id => hr n _, hst.congr ?_ fun n id => hr n _⟩
  intro n id
  constructor
  · rintro ⟨⟨j, hj, hjn⟩, hid⟩
    exact ⟨⟨⟨j, List.mem_cons_of_mem i hj, hjn⟩, hid⟩, fun y _ he => hne j hj (hjn.trans he.1.symm)⟩
  · rintro ⟨⟨⟨j, hj, hjn⟩, hid⟩, hno⟩
    rcases List.mem_cons.1 hj with rfl | hj
    · obtain ⟨y, hy, hyid⟩ := List.mem_map.1 ((Roster.contains_iff id r.sessions).1 hid)
      exact absurd ⟨hjn, hyid⟩ (hno y (List.mem_reverse.2 hy))
    · exact ⟨⟨j, hj, hjn⟩, hid⟩

/-- Plugins leave one after the other. -/
theorem Told.dismissAll {leaving : List PluginInstance} (t : r.Told (leaving ++ is) h) (k : r.Keeps (leaving ++ is)) :
    (r.dismissAll h leaving).1.Told is (r.dismissAll h leaving).2 := by
  induction leaving generalizing r h with
  | nil => exact t
  | cons i leaving ih => exact ih (t.dismiss k) (k.dismiss h)

/-- Without plugins and states, all visits have to be over. -/
theorem told_of_over (hc : r.connectionStates = []) (hs : r.sessionStates = []) (hv : ∀ n u, Visits (h.visits n u) none) :
    r.Told [] h := by
  refine ⟨?_, ?_, ?_⟩
  · intro n id
    rw [hc]
    exact hv n _
  · intro n id hm
    obtain ⟨⟨i, hi, -⟩, -⟩ := hm
    exact absurd hi List.not_mem_nil
  · intro n id _
    rw [hs]
    exact ⟨hv n _, rfl⟩

/-- Nobody has seen anything when nothing has happened. -/
theorem told_empty {h : Host} (ht : h.trace = []) : Told {} [] h := by
  refine told_of_over rfl rfl ?_
  intro n u
  rw [visits, ht]
  exact .nil

/-- Once the last plugin has left, all visits are over. -/
theorem Told.over (t : r.Told [] h) (k : r.Keeps []) (n : Nat) (u : Subject) : Visits (h.visits n u) none := by
  cases u with
  | connection id =>
    have hn : r.connectionStates.get? n id = none := Option.not_isSome_iff_eq_none.1 fun hs => by
      obtain ⟨⟨i, hi, -⟩, -⟩ := (k.connection n id).1 hs
      exact absurd hi List.not_mem_nil
    have hv := t.connections n id
    rw [hn] at hv
    exact hv
  | session id =>
    refine (t.sessions.gone n id ?_).1
    rintro ⟨⟨i, hi, -⟩, -⟩
    exact absurd hi List.not_mem_nil

/-- A registry is told the same if a plugin is on the way out. -/
theorem Told.parting (t : r.Told r.instances h) {js : List PluginInstance} (hp : r.instances.Perm js)
    (is : List PluginInstance) : Told { r with instances := is } js h :=
  have hj := t.perm hp
  ⟨hj.connections, hj.sessions⟩

theorem Told.unload (t : r.Told r.instances h) (k : r.Keeps r.instances) (name : String) :
    (r.unload h name).2.1.Told (r.unload h name).2.1.instances (r.unload h name).2.2 := by
  unfold Registry.unload
  split
  · exact t
  · rename_i i hi
    exact (t.parting (perm_of_find? hi) _).dismiss (k.parting (perm_of_find? hi) _)

theorem Told.unloadAll (t : r.Told r.instances h) (k : r.Keeps r.instances) :
    (r.unloadAll h).1.Told (r.unloadAll h).1.instances (r.unloadAll h).2 := by
  rw [instances_unloadAll]
  unfold Registry.unloadAll
  split
  · rename_i hn
    rw [hn] at t
    exact t
  · have hp := (List.reverse_perm r.instances).symm
    have hk : Keeps { r with instances := [] } (r.instances.reverse ++ []) := by
      rw [List.append_nil]
      exact k.parting hp []
    have ht : Told { r with instances := [] } (r.instances.reverse ++ []) h := by
      rw [List.append_nil]
      exact t.parting hp []
    have hover := (ht.dismissAll hk).over (hk.dismissAll h)
    exact told_of_over rfl rfl hover

/-- A directory is observed. -/
theorem Told.observe (t : r.Told r.instances h) (hr : r.Sound h) (d : Directory) :
    (r.observe h d).1.Told (r.observe h d).1.instances (r.observe h d).2 := by
  refine (observe_induction (P := fun x => x.1.Sound x.2 ∧ x.1.Told x.1.instances x.2) ⟨hr, t⟩ ?_ ?_ d).2
  · intro r' h' c ⟨hs, ht⟩
    refine ⟨hs.connectionAdded c, ?_⟩
    rw [instances_connectionAdded]
    exact ht.connectionAdded hs.keeps c
  · intro r' h' y ⟨hs, ht⟩
    refine ⟨hs.sessionAdded y, ?_⟩
    rw [instances_sessionAdded]
    exact ht.sessionAdded hs.keeps y

end Registry

/-- A plugin that is loaded sees nothing of connections and sessions. -/
theorem ModuleSource.visits_load (source : ModuleSource) (h : Host) (name : String) (raw : ParameterTable)
    (storage : DocumentStore) (n : Nat) (u : Subject) : (source.load h name raw storage).2.visits n u = h.visits n u := by
  rcases source.load_cases h name raw storage with ⟨e, he⟩ | ⟨e, he⟩ | ⟨i, ps, reaction, -, -, -, -, he⟩ |
    ⟨i, ps, e, reaction, -, -, -, he⟩
  · rw [he]
  · rw [he]
    exact visits_make _ _ _ _
  · rw [he]
    exact (visits_call_none _ _ _ _ _ _ fun _ => rfl).trans (visits_make _ _ _ _)
  · rw [he]
    exact (i.visits_retire _ n u).trans ((visits_call_none _ _ _ _ _ _ fun _ => rfl).trans (visits_make _ _ _ _))

end CoEdit
