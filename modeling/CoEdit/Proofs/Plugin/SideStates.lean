import CoEdit.Proofs.Plugin.Frame

/-!
# Which states a registry keeps

A registry has a state for each of its plugins and each observed connection, and for each plugin and each observed session of a kind
that the plugin asks for, and no other states. `Registry.Keeps` says this of a list of plugins, so that it can be said while plugins
leave one after the other, and `Registry.Sound` of the plugins of the registry. All that is done to a registry keeps it sound.
-/

namespace CoEdit

/-! ## Many reports -/

/-- A condition holds before every step of a fold. -/
def AllAlong {α β : Type} (f : β → α → β) (P : β → α → Prop) : β → List α → Prop
  | _, [] => True
  | b, a :: l => P b a ∧ AllAlong f P (f b a) l

namespace SideTable

section
variable {α : Type} {step : α → SideTable × Host → SideTable × Host} {E : α → Prop} {p s : Nat}

/-- If each report adds a state under a condition, many reports add it if one of them does. -/
theorem isSome_foldl_or (hstep : ∀ a x, (get? p s (step a x).1).isSome ↔ (get? p s x.1).isSome ∨ E a) (l : List α)
    (x : SideTable × Host) :
    (get? p s (l.foldl (fun x a => step a x) x).1).isSome ↔ (get? p s x.1).isSome ∨ ∃ a ∈ l, E a := by
  induction l generalizing x with
  | nil => simp
  | cons a l ih => simp only [List.foldl_cons, ih, hstep, List.mem_cons, exists_eq_or_imp, or_assoc]

/-- If each report takes a state away under a condition, many reports leave it if none of them takes it away. -/
theorem isSome_foldl_and (hstep : ∀ a x, (get? p s (step a x).1).isSome ↔ (get? p s x.1).isSome ∧ ¬ E a) (l : List α)
    (x : SideTable × Host) :
    (get? p s (l.foldl (fun x a => step a x) x).1).isSome ↔ (get? p s x.1).isSome ∧ ∀ a ∈ l, ¬ E a := by
  induction l generalizing x with
  | nil => simp
  | cons a l ih => simp only [List.foldl_cons, ih, hstep, List.forall_mem_cons, and_assoc]

end

theorem isSome_get?_set (p s q u : Nat) (state : SideState) (t : SideTable) :
    (get? q u (set p s state t)).isSome ↔ (get? q u t).isSome ∨ (p = q ∧ s = u) := by
  rw [get?_set]
  split
  · rename_i h
    simp [h]
  · rename_i h
    simp [h]

theorem isSome_get?_remove (p s q u : Nat) (t : SideTable) :
    (get? q u (remove p s t)).isSome ↔ (get? q u t).isSome ∧ ¬(p = q ∧ s = u) := by
  rw [get?_remove]
  split
  · rename_i h
    simp [h]
  · rename_i h
    simp [h]

theorem isSome_get?_modify (p s q u : Nat) (f : SideState → SideState) (t : SideTable) :
    (get? q u (modify p s f t)).isSome ↔ (get? q u t).isSome := by
  rw [get?_modify]
  split
  · rw [Option.isSome_map]
  · rfl

end SideTable

namespace PluginInstance

variable {p s : Nat}

theorem isSome_enterConnection (i : PluginInstance) (c : Connection) (x : SideTable × Host) :
    (SideTable.get? p s (i.enterConnection c x).1).isSome ↔ (SideTable.get? p s x.1).isSome ∨ (i.number = p ∧ c.id = s) :=
  SideTable.isSome_get?_set _ _ _ _ _ _

theorem isSome_leaveConnection (i : PluginInstance) (c : Connection) (x : SideTable × Host) :
    (SideTable.get? p s (i.leaveConnection c x).1).isSome ↔ (SideTable.get? p s x.1).isSome ∧ ¬(i.number = p ∧ c.id = s) := by
  unfold leaveConnection
  dsimp only
  split
  · exact SideTable.isSome_get?_remove _ _ _ _ _
  · rename_i hn
    refine ⟨fun h => ⟨h, ?_⟩, And.left⟩
    rintro ⟨rfl, rfl⟩
    simp [hn] at h

theorem isSome_enterSession (i : PluginInstance) (y : Session) (x : SideTable × Host) :
    (SideTable.get? p s (i.enterSession y x).1).isSome ↔
      (SideTable.get? p s x.1).isSome ∨ (i.number = p ∧ y.id = s ∧ i.descriptor.accepts y.kind = true) := by
  unfold enterSession
  dsimp only
  split
  · rename_i ha
    simp only [ha, and_true]
    exact SideTable.isSome_get?_set _ _ _ _ _ _
  · rename_i ha
    simp [ha]

theorem isSome_leaveSession (i : PluginInstance) (y : Session) (x : SideTable × Host) :
    (SideTable.get? p s (i.leaveSession y x).1).isSome ↔ (SideTable.get? p s x.1).isSome ∧ ¬(i.number = p ∧ y.id = s) := by
  unfold leaveSession
  dsimp only
  split
  · exact SideTable.isSome_get?_remove _ _ _ _ _
  · rename_i hn
    refine ⟨fun h => ⟨h, ?_⟩, And.left⟩
    rintro ⟨rfl, rfl⟩
    simp [hn] at h

/-- Plugins that have states for connections which go away, each from each at most once, have them until then. -/
theorem allAlong_leaveConnection {α : Type} (f : α → PluginInstance × Connection) {l : List α} {x : SideTable × Host}
    (hd : (l.map fun a => ((f a).1.number, (f a).2.id)).Nodup) (hs : ∀ a ∈ l, (x.1.get? (f a).1.number (f a).2.id).isSome) :
    AllAlong (fun x a => (f a).1.leaveConnection (f a).2 x) (fun x a => (x.1.get? (f a).1.number (f a).2.id).isSome) x l := by
  induction l generalizing x with
  | nil => trivial
  | cons a l ih =>
    rw [List.map_cons, List.nodup_cons] at hd
    refine ⟨hs a List.mem_cons_self, ih hd.2 ?_⟩
    intro b hb
    rw [isSome_leaveConnection]
    refine ⟨hs b (List.mem_cons_of_mem a hb), fun he => ?_⟩
    exact hd.1 (List.mem_map.2 ⟨b, hb, Prod.ext he.1.symm he.2.symm⟩)

end PluginInstance

namespace Registry

/-! ## What a registry keeps -/

/-- The states of a registry are those of the plugins of a list for what is observed. -/
structure Keeps (r : Registry) (is : List PluginInstance) : Prop where
  distinct : (is.map (·.number)).Nodup
  connections : r.connections.Ascending
  sessions : r.sessions.Ascending
  connection : ∀ p id, (r.connectionState? p id).isSome ↔ (∃ i ∈ is, i.number = p) ∧ r.connections.contains id = true
  session : ∀ p id, (r.sessionState? p id).isSome ↔
    ∃ x, r.sessions.get? id = some x ∧ ∃ i ∈ is, i.number = p ∧ i.descriptor.accepts x.kind = true

/-- A registry keeps the states of its own plugins, whose numbers were all handed out. -/
structure Sound (r : Registry) (h : Host) : Prop where
  keeps : r.Keeps r.instances
  handedOut : ∀ i ∈ r.instances, i.number < h.nextPlugin

variable {r : Registry} {h h' : Host} {is : List PluginInstance} {i : PluginInstance}

/-- An empty registry is sound. -/
theorem sound_empty (h : Host) : Sound {} h where
  keeps := ⟨List.nodup_nil, List.Pairwise.nil, List.Pairwise.nil,
    fun p id => by simp [connectionState?, SideTable.get?], fun p id => by simp [sessionState?, SideTable.get?]⟩
  handedOut i hi := absurd hi List.not_mem_nil

/-- A sound registry stays so while the host hands out numbers. -/
theorem Sound.mono (hr : r.Sound h) (hh : h.Attends h') : r.Sound h' :=
  ⟨hr.keeps, fun i hi => Nat.lt_of_lt_of_le (hr.handedOut i hi) hh.nextPlugin⟩

/-- The order of the plugins does not matter. -/
theorem Keeps.perm {js : List PluginInstance} (hk : r.Keeps is) (hp : is.Perm js) : r.Keeps js where
  distinct := (hp.map _).nodup_iff.1 hk.distinct
  connections := hk.connections
  sessions := hk.sessions
  connection p id := by
    rw [hk.connection]
    simp only [hp.mem_iff]
  session p id := by
    rw [hk.session]
    simp only [hp.mem_iff]

/-- Some thing in a roster has a number where the number leads to something. -/
theorem exists_mem_numbered {α : Type} [Numbered α] {l : Roster α} {n : Nat} {P : Prop} :
    (∃ a ∈ l, P ∧ number a = n) ↔ P ∧ l.contains n = true := by
  rw [Roster.contains_iff, Roster.numbers, List.mem_map]
  constructor
  · rintro ⟨a, ha, hp, hn⟩
    exact ⟨hp, a, ha, hn⟩
  · rintro ⟨hp, a, ha, hn⟩
    exact ⟨a, ha, hp, hn⟩

/-- In an ascending roster the thing with a number is the one that the number leads to. -/
theorem exists_mem_ascending {α : Type} [Numbered α] {l : Roster α} (hl : l.Ascending) {n : Nat} {P : Prop} {Q : α → Prop} :
    (∃ a ∈ l, P ∧ number a = n ∧ Q a) ↔ ∃ a, l.get? n = some a ∧ P ∧ Q a := by
  constructor
  · rintro ⟨a, ha, hp, rfl, hq⟩
    exact ⟨a, hl.get?_of_mem ha, hp, hq⟩
  · rintro ⟨a, ha, hp, hq⟩
    obtain ⟨hn, hm⟩ := Roster.get?_eq_some ha
    exact ⟨a, hm, hp, hn, hq⟩

/-! ## Plugins join and leave -/

/-- A plugin with a new number joins. -/
theorem Keeps.insert (hk : r.Keeps r.instances) (hn : i.number ∉ r.instances.map (·.number)) (h : Host) :
    (r.insert h i).1.Keeps (r.instances ++ [i]) := by
  have hc : ∀ p id, ((r.insert h i).1.connectionState? p id).isSome ↔
      (r.connectionState? p id).isSome ∨ ∃ c ∈ r.connections, i.number = p ∧ number c = id := fun p id =>
    SideTable.isSome_foldl_or (fun c x => i.isSome_enterConnection c x) r.connections (r.connectionStates, h)
  have hs : ∀ p id, ((r.insert h i).1.sessionState? p id).isSome ↔
      (r.sessionState? p id).isSome ∨
        ∃ y ∈ r.sessions, i.number = p ∧ number y = id ∧ i.descriptor.accepts y.kind = true := fun p id =>
    SideTable.isSome_foldl_or (fun y x => i.isSome_enterSession y x) r.sessions (r.sessionStates, _)
  refine ⟨?_, hk.connections, hk.sessions, ?_, ?_⟩
  · rw [List.map_append, List.nodup_append]
    refine ⟨hk.distinct, by simp, ?_⟩
    intro x hx y hy
    rw [List.map_singleton, List.mem_singleton] at hy
    rintro rfl
    exact hn (hy ▸ hx)
  · intro p id
    rw [hc, hk.connection, exists_mem_numbered]
    simp only [List.mem_append, List.mem_singleton, or_and_right, exists_or, exists_eq_left]
    rfl
  · intro p id
    rw [hs, hk.session, exists_mem_ascending hk.sessions]
    simp only [List.mem_append, List.mem_singleton, or_and_right, exists_or, exists_eq_left, and_or_left]
    rfl

/-- A plugin that is no longer among the others leaves. -/
theorem Keeps.dismiss (hk : r.Keeps (i :: is)) (h : Host) : (r.dismiss h i).1.Keeps is := by
  have hc : ∀ p id, ((r.dismiss h i).1.connectionState? p id).isSome ↔
      (r.connectionState? p id).isSome ∧ ∀ c ∈ r.connections.reverse, ¬(i.number = p ∧ c.id = id) := fun p id =>
    SideTable.isSome_foldl_and (fun c x => i.isSome_leaveConnection c x) r.connections.reverse (r.connectionStates, h)
  have hs : ∀ p id, ((r.dismiss h i).1.sessionState? p id).isSome ↔
      (r.sessionState? p id).isSome ∧ ∀ y ∈ r.sessions.reverse, ¬(i.number = p ∧ y.id = id) := fun p id =>
    SideTable.isSome_foldl_and (fun y x => i.isSome_leaveSession y x) r.sessions.reverse (r.sessionStates, _)
  have hd := hk.distinct
  rw [List.map_cons, List.nodup_cons] at hd
  have hne : ∀ j ∈ is, j.number ≠ i.number := fun j hj he => hd.1 (he ▸ List.mem_map_of_mem hj)
  refine ⟨hd.2, hk.connections, hk.sessions, ?_, ?_⟩
  · intro p id
    rw [hc, hk.connection]
    constructor
    · rintro ⟨⟨⟨j, hj, hp⟩, hid⟩, hno⟩
      rcases List.mem_cons.1 hj with rfl | hj
      · obtain ⟨c, hm, hcid⟩ := List.mem_map.1 ((Roster.contains_iff id r.connections).1 hid)
        exact absurd ⟨hp, hcid⟩ (hno c (List.mem_reverse.2 hm))
      · exact ⟨⟨j, hj, hp⟩, hid⟩
    · rintro ⟨⟨j, hj, hp⟩, hid⟩
      exact ⟨⟨⟨j, List.mem_cons_of_mem i hj, hp⟩, hid⟩, fun c _ hcp => hne j hj (hp.trans hcp.1.symm)⟩
  · intro p id
    rw [hs, hk.session]
    constructor
    · rintro ⟨⟨y, hy, j, hj, hp, ha⟩, hno⟩
      rcases List.mem_cons.1 hj with rfl | hj
      · obtain ⟨hid, hm⟩ := Roster.get?_eq_some hy
        exact absurd ⟨hp, hid⟩ (hno y (List.mem_reverse.2 hm))
      · exact ⟨y, hy, j, hj, hp, ha⟩
    · rintro ⟨y, hy, j, hj, hp, ha⟩
      exact ⟨⟨y, hy, j, List.mem_cons_of_mem i hj, hp, ha⟩, fun y _ hyp => hne j hj (hp.trans hyp.1.symm)⟩

/-- Plugins leave one after the other. -/
theorem Keeps.dismissAll {leaving : List PluginInstance} (hk : r.Keeps (leaving ++ is)) (h : Host) :
    (r.dismissAll h leaving).1.Keeps is := by
  induction leaving generalizing r h with
  | nil => exact hk
  | cons i leaving ih => exact ih (hk.dismiss h) _

/-! ## Connections and sessions come and go -/

theorem Keeps.connectionAdded (hk : r.Keeps r.instances) (h : Host) (c : Connection) :
    (r.connectionAdded h c).1.Keeps r.instances := by
  have hs : ∀ p id, (SideTable.get? p id
      (r.instances.foldl (fun x j => j.enterConnection c x) (r.connectionStates, h)).1).isSome ↔
        (r.connectionState? p id).isSome ∨ ∃ j ∈ r.instances, j.number = p ∧ c.id = id := fun p id =>
    SideTable.isSome_foldl_or (fun j x => j.isSome_enterConnection c x) r.instances (r.connectionStates, h)
  unfold Registry.connectionAdded
  split
  · exact hk
  · refine ⟨hk.distinct, hk.connections.insert c, hk.sessions, fun p id => (hs p id).trans ?_, hk.session⟩
    rw [hk.connection, Roster.contains_iff, Roster.contains_iff, Roster.mem_numbers_insert]
    constructor
    · rintro (⟨hj, hid⟩ | ⟨j, hj, hp, hid⟩)
      · exact ⟨hj, Or.inr hid⟩
      · exact ⟨⟨j, hj, hp⟩, Or.inl hid.symm⟩
    · rintro ⟨⟨j, hj, hp⟩, hid | hid⟩
      · exact Or.inr ⟨j, hj, hp, hid.symm⟩
      · exact Or.inl ⟨⟨j, hj, hp⟩, hid⟩

theorem Keeps.connectionRemoved (hk : r.Keeps r.instances) (h : Host) (c : Connection) :
    (r.connectionRemoved h c).1.Keeps r.instances := by
  have hs : ∀ p id, (SideTable.get? p id
      (r.instances.reverse.foldl (fun x j => j.leaveConnection c x) (r.connectionStates, h)).1).isSome ↔
        (r.connectionState? p id).isSome ∧ ∀ j ∈ r.instances.reverse, ¬(j.number = p ∧ c.id = id) := fun p id =>
    SideTable.isSome_foldl_and (fun j x => j.isSome_leaveConnection c x) r.instances.reverse (r.connectionStates, h)
  unfold Registry.connectionRemoved
  split
  · exact hk
  · refine ⟨hk.distinct, hk.connections.remove c.id, hk.sessions, fun p id => (hs p id).trans ?_, hk.session⟩
    rw [hk.connection, Roster.contains_iff, Roster.contains_iff, Roster.mem_numbers_remove]
    constructor
    · rintro ⟨⟨⟨j, hj, hp⟩, hid⟩, hno⟩
      exact ⟨⟨j, hj, hp⟩, fun he => hno j (List.mem_reverse.2 hj) ⟨hp, he.symm⟩, hid⟩
    · rintro ⟨hj, hne, hid⟩
      exact ⟨⟨hj, hid⟩, fun j _ he => hne he.2.symm⟩

theorem Keeps.sessionAdded (hk : r.Keeps r.instances) (h : Host) (y : Session) :
    (r.sessionAdded h y).1.Keeps r.instances := by
  have hs : ∀ p id, (SideTable.get? p id
      (r.instances.foldl (fun x j => j.enterSession y x) (r.sessionStates, h)).1).isSome ↔
        (r.sessionState? p id).isSome ∨
          ∃ j ∈ r.instances, j.number = p ∧ y.id = id ∧ j.descriptor.accepts y.kind = true := fun p id =>
    SideTable.isSome_foldl_or (fun j x => j.isSome_enterSession y x) r.instances (r.sessionStates, h)
  unfold Registry.sessionAdded
  split
  · exact hk
  · rename_i hy
    refine ⟨hk.distinct, hk.connections, hk.sessions.insert y, hk.connection, fun p id => (hs p id).trans ?_⟩
    rw [hk.session]
    simp only [Roster.get?_insert]
    by_cases hid : y.id = id
    · have hnone : r.sessions.get? id = none := by
        rw [← hid]
        simpa [Roster.contains] using hy
      simp [hnone, hid, number]
    · simp [hid, number]

theorem Keeps.sessionRemoved (hk : r.Keeps r.instances) (h : Host) (y : Session) :
    (r.sessionRemoved h y).1.Keeps r.instances := by
  have hs : ∀ p id, (SideTable.get? p id
      (r.instances.reverse.foldl (fun x j => j.leaveSession y x) (r.sessionStates, h)).1).isSome ↔
        (r.sessionState? p id).isSome ∧ ∀ j ∈ r.instances.reverse, ¬(j.number = p ∧ y.id = id) := fun p id =>
    SideTable.isSome_foldl_and (fun j x => j.isSome_leaveSession y x) r.instances.reverse (r.sessionStates, h)
  unfold Registry.sessionRemoved
  split
  · exact hk
  · refine ⟨hk.distinct, hk.connections, hk.sessions.remove y.id, hk.connection, fun p id => (hs p id).trans ?_⟩
    rw [hk.session]
    simp only [Roster.get?_remove]
    by_cases hid : y.id = id
    · simp only [hid, if_true]
      constructor
      · rintro ⟨⟨x, -, j, hj, hp, -⟩, hno⟩
        exact absurd ⟨hp, trivial⟩ (hno j (List.mem_reverse.2 hj))
      · rintro ⟨x, hx, -⟩
        cases hx
    · simp [hid]

/-- A state that is changed stays a state. -/
theorem Keeps.adjust (hk : r.Keeps is) (h : Host) (plugin : Nat) (subject : Subject) (f : SideState → SideState) :
    (r.adjust h plugin subject f).1.Keeps is := by
  unfold Registry.adjust
  split
  · split
    · exact ⟨hk.distinct, hk.connections, hk.sessions,
        fun p id => (SideTable.isSome_get?_modify _ _ _ _ f _).trans (hk.connection p id), hk.session⟩
    · exact hk
  · split
    · exact ⟨hk.distinct, hk.connections, hk.sessions, hk.connection,
        fun p id => (SideTable.isSome_get?_modify _ _ _ _ f _).trans (hk.session p id)⟩
    · exact hk

/-! ## Sound registries -/

/-- The plugins are the same after connections and sessions came and went. -/
@[simp] theorem instances_connectionAdded (r : Registry) (h : Host) (c : Connection) :
    (r.connectionAdded h c).1.instances = r.instances := by
  unfold Registry.connectionAdded
  split <;> rfl

@[simp] theorem instances_connectionRemoved (r : Registry) (h : Host) (c : Connection) :
    (r.connectionRemoved h c).1.instances = r.instances := by
  unfold Registry.connectionRemoved
  split <;> rfl

@[simp] theorem instances_sessionAdded (r : Registry) (h : Host) (y : Session) :
    (r.sessionAdded h y).1.instances = r.instances := by
  unfold Registry.sessionAdded
  split <;> rfl

@[simp] theorem instances_sessionRemoved (r : Registry) (h : Host) (y : Session) :
    (r.sessionRemoved h y).1.instances = r.instances := by
  unfold Registry.sessionRemoved
  split <;> rfl

@[simp] theorem instances_adjust (r : Registry) (h : Host) (plugin : Nat) (subject : Subject) (f : SideState → SideState) :
    (r.adjust h plugin subject f).1.instances = r.instances := by
  unfold Registry.adjust
  split <;> split <;> rfl

/-- The other plugins are the same after one left. -/
theorem instances_dismissAll (r : Registry) (h : Host) (leaving : List PluginInstance) :
    (r.dismissAll h leaving).1.instances = r.instances := by
  induction leaving generalizing r h with
  | nil => rfl
  | cons i leaving ih => exact (ih _ _).trans rfl

/-- Something that changes neither the plugins nor what is kept of them leaves a registry sound. -/
theorem Sound.step (hr : r.Sound h) {x : Registry × Host} (hi : x.1.instances = r.instances) (hk : x.1.Keeps r.instances)
    (ha : h.Attends x.2) : x.1.Sound x.2 := by
  constructor
  · rw [hi]
    exact hk
  · rw [hi]
    exact (hr.mono ha).handedOut

theorem Sound.connectionAdded (hr : r.Sound h) (c : Connection) : (r.connectionAdded h c).1.Sound (r.connectionAdded h c).2 :=
  hr.step (instances_connectionAdded r h c) (hr.keeps.connectionAdded h c) (r.attends_connectionAdded h c)

theorem Sound.connectionRemoved (hr : r.Sound h) (c : Connection) :
    (r.connectionRemoved h c).1.Sound (r.connectionRemoved h c).2 :=
  hr.step (instances_connectionRemoved r h c) (hr.keeps.connectionRemoved h c) (r.attends_connectionRemoved h c)

theorem Sound.sessionAdded (hr : r.Sound h) (y : Session) : (r.sessionAdded h y).1.Sound (r.sessionAdded h y).2 :=
  hr.step (instances_sessionAdded r h y) (hr.keeps.sessionAdded h y) (r.attends_sessionAdded h y)

theorem Sound.sessionRemoved (hr : r.Sound h) (y : Session) : (r.sessionRemoved h y).1.Sound (r.sessionRemoved h y).2 :=
  hr.step (instances_sessionRemoved r h y) (hr.keeps.sessionRemoved h y) (r.attends_sessionRemoved h y)

theorem Sound.adjust (hr : r.Sound h) (plugin : Nat) (subject : Subject) (f : SideState → SideState) :
    (r.adjust h plugin subject f).1.Sound (r.adjust h plugin subject f).2 :=
  hr.step (instances_adjust r h plugin subject f) (hr.keeps.adjust h plugin subject f) (r.attends_adjust h plugin subject f)

/-- A directory is observed. -/
theorem Sound.observe (hr : r.Sound h) (d : Directory) : (r.observe h d).1.Sound (r.observe h d).2 := by
  refine observe_induction (P := fun x => x.1.Sound x.2) hr ?_ ?_ d
  · intro r' h' c hs
    exact hs.connectionAdded c
  · intro r' h' y hs
    exact hs.sessionAdded y

/-- A plugin whose number was handed out, and which is none of those there are, joins. -/
theorem Sound.insert (hr : r.Sound h) (hn : i.number ∉ r.instances.map (·.number)) (hi : i.number < h.nextPlugin) :
    (r.insert h i).1.Sound (r.insert h i).2 := by
  have hm := hr.mono (r.attends_insert h i)
  refine ⟨hr.keeps.insert hn h, ?_⟩
  intro j hj
  rcases List.mem_append.1 hj with hj | hj
  · exact hm.handedOut j hj
  · rw [List.mem_singleton.1 hj]
    exact Nat.lt_of_lt_of_le hi (r.attends_insert h i).nextPlugin

/-- The first of a list with a property, next to those that are left without it. -/
theorem perm_of_find? {α : Type} {P : α → Bool} {l : List α} {a : α} (ha : l.find? P = some a) :
    l.Perm (a :: l.eraseP P) := by
  induction l with
  | nil => cases ha
  | cons b l ih =>
    rw [List.find?_cons] at ha
    split at ha
    · rename_i hb
      cases ha
      rw [List.eraseP_cons, hb, cond_true]
    · rename_i hb
      rw [List.eraseP_cons, hb, cond_false]
      exact ((ih ha).cons b).trans (List.Perm.swap _ _ _)

/-- A registry keeps the same if a plugin is on the way out. -/
theorem Keeps.parting (hk : r.Keeps r.instances) {js : List PluginInstance} (hp : r.instances.Perm js) (is : List PluginInstance) :
    Keeps { r with instances := is } js :=
  have hj := hk.perm hp
  ⟨hj.distinct, hj.connections, hj.sessions, hj.connection, hj.session⟩

/-- The plugins without the first of a name are those with another number. -/
theorem instances_unload (hk : r.Keeps r.instances) {name : String} (hi : r.named? name = some i) (h : Host) :
    (r.unload h name).2.1.instances = r.instances.filter fun j => j.number ≠ i.number := by
  have hd := hk.distinct
  unfold unload
  rw [hi]
  show (r.instances.eraseP fun j => decide (j.name = name)) = _
  obtain ⟨hname, before, after, hsplit, hbefore⟩ := List.find?_eq_some_iff_append.1 hi
  have hkeep : ∀ j ∈ before ++ after, j.number ≠ i.number := by
    rw [hsplit, List.map_append, List.map_cons, List.perm_middle.nodup_iff, List.nodup_cons, ← List.map_append] at hd
    exact fun j hj he => hd.1 (he ▸ List.mem_map_of_mem hj)
  have hrest : before ++ after = (before ++ after).filter fun j => j.number ≠ i.number :=
    (List.filter_eq_self.2 fun j hj => by simpa using hkeep j hj).symm
  rw [hsplit, List.eraseP_append_right _ (by simpa using hbefore), List.eraseP_cons, hname, cond_true, hrest]
  simp

theorem Keeps.unload (hk : r.Keeps r.instances) (h : Host) (name : String) :
    (r.unload h name).2.1.Keeps (r.unload h name).2.1.instances := by
  unfold Registry.unload
  split
  · exact hk
  · rename_i i hi
    exact (hk.parting (perm_of_find? hi) _).dismiss h

/-- A plugin leaves. -/
theorem Sound.unload (hr : r.Sound h) (name : String) : (r.unload h name).2.1.Sound (r.unload h name).2.2 := by
  have ha := r.attends_unload h name
  refine ⟨hr.keeps.unload h name, ?_⟩
  unfold Registry.unload at ha ⊢
  split
  · exact hr.handedOut
  · rename_i i hi
    rw [hi] at ha
    exact fun j hj => Nat.lt_of_lt_of_le (hr.handedOut j (List.mem_of_mem_eraseP hj)) ha.nextPlugin

/-- A registry keeps nothing when it has neither plugins nor states. -/
theorem Keeps.cleared (hk : r.Keeps is) (hi : r.instances = []) :
    Keeps { r with connectionStates := [], sessionStates := [] } r.instances := by
  refine ⟨?_, hk.connections, hk.sessions, ?_, ?_⟩
  · simp [hi]
  · intro p id
    simp [hi, connectionState?, SideTable.get?]
  · intro p id
    simp [hi, sessionState?, SideTable.get?]

theorem Keeps.unloadAll (hk : r.Keeps r.instances) (h : Host) : (r.unloadAll h).1.Keeps (r.unloadAll h).1.instances := by
  unfold Registry.unloadAll
  split
  · exact hk
  · have hk : Keeps { r with instances := [] } (r.instances.reverse ++ []) := by
      rw [List.append_nil]
      exact hk.parting (List.reverse_perm r.instances).symm []
    exact (hk.dismissAll h).cleared (instances_dismissAll _ h _)

theorem instances_unloadAll (r : Registry) (h : Host) : (r.unloadAll h).1.instances = [] := by
  unfold Registry.unloadAll
  split
  · assumption
  · exact instances_dismissAll _ h _

/-- All plugins leave. -/
theorem Sound.unloadAll (hr : r.Sound h) : (r.unloadAll h).1.Sound (r.unloadAll h).2 := by
  refine ⟨hr.keeps.unloadAll h, ?_⟩
  rw [instances_unloadAll]
  exact fun i hi => absurd hi List.not_mem_nil

/-! ## Batches -/

/-- A batch goes on with its registry sound. -/
theorem Sound.batchStep (source : ModuleSource) (parameters : String → ParameterTable) (storage : DocumentStore) {b : Batch}
    (hb : b.registry.Sound b.host) (name : String) :
    (b.step source parameters storage name).registry.Sound (b.step source parameters storage name).host := by
  have ha := source.attends_load b.host name (parameters name) storage
  rcases b.step_cases source parameters storage name with ⟨-, e, hr, hh⟩ | ⟨-, ⟨i, h, hl, hr, hh⟩ | ⟨e, h, entry, hl, hr, hh⟩⟩
  · rw [hr, hh]
    exact hb.mono (Host.attends_log _ _)
  · rw [hl] at ha
    rw [hr, hh]
    obtain ⟨hn, hlt⟩ := ModuleSource.number_of_load hl
    refine (hb.mono ha).insert ?_ hlt
    intro hm
    obtain ⟨j, hj, hji⟩ := List.mem_map.1 hm
    have := hb.handedOut j hj
    omega
  · rw [hl] at ha
    rw [hr, hh]
    exact (hb.mono ha).mono (Host.attends_log _ _)

/-- A batch is loaded, and the directory observed. -/
theorem Sound.loadAll (hr : r.Sound h) (source : ModuleSource) (requested : List String) (parameters : String → ParameterTable)
    (d : Directory) :
    (r.loadAll h source requested parameters d).2.1.Sound (r.loadAll h source requested parameters d).2.2 := by
  have hb := List.foldlRecOn requested (Batch.step source parameters d.storage) (motive := fun b => b.registry.Sound b.host)
    (b := { registry := r, host := h }) hr fun b hb name _ => hb.batchStep source parameters d.storage name
  unfold Registry.loadAll
  dsimp only
  split
  · exact (hb.observe d).mono (Host.attends_log _ _)
  · exact hb.observe d

end Registry

end CoEdit
