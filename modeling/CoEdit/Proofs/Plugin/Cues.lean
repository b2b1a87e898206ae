import CoEdit.Proofs.Plugin.Lives
import CoEdit.Proofs.Plugin.Visiting

/-!
# The order of calls

A cue is a call without the states that went with it. `Host.cues` are the cues of all plugins in one sequence, so that it tells who was
called before whom. What is done to a registry adds an exact sequence of cues: things that appear go through the plugins forwards, things
that go away backwards, a plugin that joins goes through what is observed, and `Registry.farewell` are the cues of one that leaves.
-/

namespace CoEdit

open Host

/-- What a plugin is called for. -/
inductive Cue where
  | started
  | entered (u : Subject)
  | departed (u : Subject)
  | stopped
  deriving DecidableEq

/-- What a call was for. -/
def Callback.cue : Callback → Cue
  | .started _ _ _ => .started
  | .connectionAdded id _ _ => .entered (.connection id)
  | .connectionRemoved id _ => .departed (.connection id)
  | .sessionAdded id _ => .entered (.session id)
  | .sessionRemoved id _ => .departed (.session id)
  | .stopped => .stopped

/-- Which plugin was called, and what for. -/
def Occurrence.cue? : Occurrence → Option (Nat × Cue)
  | .called n _ c => some (n, c.cue)
  | _ => none

namespace Host

/-- Which plugins were called, and what for, in order. -/
def cues (h : Host) : List (Nat × Cue) := h.trace.filterMap Occurrence.cue?

variable (h : Host) (n : Nat) (p : String)

theorem cues_note (o : Occurrence) : (h.note o).cues = h.cues ++ o.cue?.toList := by
  rw [cues, note, List.filterMap_append]
  cases ho : o.cue? with
  | none => simp [cues, ho]
  | some _ => simp [cues, ho]

theorem cues_react (r : Reaction) : (h.react r).cues = h.cues := by
  have hs : (r.said.map Occurrence.said).filterMap Occurrence.cue? = [] := by
    simp [List.filterMap_map, Function.comp_def, Occurrence.cue?]
  rw [cues, react, List.filterMap_append, hs, List.append_nil]
  rfl

/-- A call adds its cue. -/
theorem cues_call (c : Callback) (r : Reaction) : (h.call n p c r).cues = h.cues ++ [(n, c.cue)] := by
  rw [call, cues_react, cues_note]
  rfl

@[simp] theorem cues_log (e : LogEntry) : (h.log e).cues = h.cues := by
  rw [log, cues_note]
  exact List.append_nil _

@[simp] theorem cues_make : (h.make p).cues = h.cues :=
  (cues_note { h with nextPlugin := h.nextPlugin + 1 } (.created h.nextPlugin p)).trans (List.append_nil _)

/-- A fold whose steps add one cue each adds them in the order of the list. -/
theorem cues_foldl {α β : Type} (host : β → Host) {f : β → α → β} {g : α → Nat × Cue} {l : List α}
    (hf : ∀ b, ∀ a ∈ l, (host (f b a)).cues = (host b).cues ++ [g a]) (b : β) :
    (host (l.foldl f b)).cues = (host b).cues ++ l.map g := by
  induction l generalizing b with
  | nil => exact (List.append_nil _).symm
  | cons a l ih =>
    rw [List.foldl_cons, ih fun b a' ha => hf b a' (List.mem_cons_of_mem a ha), hf b a List.mem_cons_self, List.append_assoc]
    rfl

/-- A fold whose steps add one cue each where a condition holds, as it does all along, adds them in the order of the list. -/
theorem cues_along {α β : Type} (host : β → Host) {f : β → α → β} {P : β → α → Prop} {g : α → Nat × Cue}
    (hf : ∀ b a, P b a → (host (f b a)).cues = (host b).cues ++ [g a]) {l : List α} {b : β} (ha : AllAlong f P b l) :
    (host (l.foldl f b)).cues = (host b).cues ++ l.map g := by
  induction l generalizing b with
  | nil => exact (List.append_nil _).symm
  | cons a l ih =>
    rw [List.foldl_cons, ih ha.2, hf b a ha.1, List.append_assoc]
    rfl

end Host

/-! ## Single plugins -/

namespace PluginInstance

variable (i : PluginInstance) (x : SideTable × Host)

theorem cues_enterConnection (c : Connection) :
    (i.enterConnection c x).2.cues = x.2.cues ++ [(i.number, .entered (.connection c.id))] :=
  cues_call _ _ _ _ _

theorem cues_leaveConnection {c : Connection} (hs : (x.1.get? i.number c.id).isSome) :
    (i.leaveConnection c x).2.cues = x.2.cues ++ [(i.number, .departed (.connection c.id))] := by
  obtain ⟨state, hs⟩ := Option.isSome_iff_exists.1 hs
  simp only [leaveConnection, hs]
  exact cues_call _ _ _ _ _

theorem cues_enterSession (y : Session) : (i.enterSession y x).2.cues = x.2.cues ++ [(i.number, .entered (.session y.id))] := by
  unfold enterSession
  dsimp only
  split <;> exact cues_call _ _ _ _ _

theorem cues_leaveSession (y : Session) : (i.leaveSession y x).2.cues = x.2.cues ++ [(i.number, .departed (.session y.id))] := by
  unfold leaveSession
  dsimp only
  split <;> exact cues_call _ _ _ _ _

theorem cues_stop (hi : i.isStopped = false) (h : Host) : (i.stop h).cues = h.cues ++ [(i.number, .stopped)] := by
  unfold stop
  rw [if_neg (by simp [hi])]
  exact cues_call _ _ _ _ _

/-- Connections go away from plugins that have states for them, each from each at most once. -/
theorem cues_leaveConnections {α : Type} (f : α → PluginInstance × Connection) {l : List α}
    (hd : (l.map fun a => ((f a).1.number, (f a).2.id)).Nodup)
    (hs : ∀ a ∈ l, (x.1.get? (f a).1.number (f a).2.id).isSome) :
    (l.foldl (fun x a => (f a).1.leaveConnection (f a).2 x) x).2.cues =
      x.2.cues ++ l.map fun a => ((f a).1.number, .departed (.connection (f a).2.id)) :=
  cues_along Prod.snd (P := fun x a => (x.1.get? (f a).1.number (f a).2.id).isSome) (fun x a => cues_leaveConnection (f a).1 x)
    (allAlong_leaveConnection f hd hs)

end PluginInstance

/-! ## Connections and sessions come and go -/

namespace Registry

/-- The connections and sessions that are observed, in the order in which a plugin that joins is told of them. -/
def observed (r : Registry) : List Subject := r.connections.map (.connection ·.id) ++ r.sessions.map (.session ·.id)

/-- Whether a connection or session is observed. -/
def observes (r : Registry) : Subject → Bool
  | .connection id => r.connections.contains id
  | .session id => r.sessions.contains id

variable {r : Registry} {h : Host} {i : PluginInstance} {is : List PluginInstance}

theorem mem_observed (u : Subject) : u ∈ r.observed ↔ r.observes u = true := by
  cases u with
  | connection id =>
    simp only [observed, observes, Roster.contains_iff, List.mem_append, List.mem_map, reduceCtorEq, and_false, exists_false,
      or_false, Subject.connection.injEq]
    exact List.mem_map.symm
  | session id =>
    simp only [observed, observes, Roster.contains_iff, List.mem_append, List.mem_map, reduceCtorEq, and_false, exists_false,
      false_or, Subject.session.injEq]
    exact List.mem_map.symm

/-- Nothing is observed twice. -/
theorem Keeps.nodup_observed (k : r.Keeps is) : r.observed.Nodup := by
  refine List.nodup_append.2 ⟨?_, ?_, by simp⟩
  · exact List.pairwise_map.2 (k.connections.imp fun hlt he => Nat.ne_of_lt hlt (Subject.connection.inj he))
  · exact List.pairwise_map.2 (k.sessions.imp fun hlt he => Nat.ne_of_lt hlt (Subject.session.inj he))

theorem cues_connectionAdded {c : Connection} (hc : r.connections.contains c.id = false) :
    (r.connectionAdded h c).2.cues = h.cues ++ r.numbers.map fun n => (n, .entered (.connection c.id)) := by
  unfold connectionAdded
  rw [if_neg (by simp [hc]), numbers, List.map_map]
  exact cues_foldl Prod.snd (fun x i _ => i.cues_enterConnection x c) (r.connectionStates, h)

theorem cues_connectionRemoved (k : r.Keeps r.instances) {c : Connection} (hc : r.connections.contains c.id = true) :
    (r.connectionRemoved h c).2.cues = h.cues ++ r.numbers.reverse.map fun n => (n, .departed (.connection c.id)) := by
  have hs : ∀ i ∈ r.instances.reverse, (r.connectionStates.get? i.number c.id).isSome := fun i hi =>
    (k.connection i.number c.id).2 ⟨⟨i, List.mem_reverse.1 hi, rfl⟩, hc⟩
  have hd : (r.instances.reverse.map fun i => (i.number, c.id)).Nodup := nodup_map_reverse (nodup_plugins k.distinct c.id)
  unfold connectionRemoved
  rw [if_neg (by simp [hc]), numbers, ← List.map_reverse, List.map_map]
  exact PluginInstance.cues_leaveConnections (r.connectionStates, h) (fun i => (i, c)) hd hs

theorem cues_sessionAdded {y : Session} (hy : r.sessions.contains y.id = false) :
    (r.sessionAdded h y).2.cues = h.cues ++ r.numbers.map fun n => (n, .entered (.session y.id)) := by
  unfold sessionAdded
  rw [if_neg (by simp [hy]), numbers, List.map_map]
  exact cues_foldl Prod.snd (fun x i _ => i.cues_enterSession x y) (r.sessionStates, h)

theorem cues_sessionRemoved {y : Session} (hy : r.sessions.contains y.id = true) :
    (r.sessionRemoved h y).2.cues = h.cues ++ r.numbers.reverse.map fun n => (n, .departed (.session y.id)) := by
  unfold sessionRemoved
  rw [if_neg (by simp [hy]), numbers, ← List.map_reverse, List.map_map]
  exact cues_foldl Prod.snd (fun x i _ => i.cues_leaveSession x y) (r.sessionStates, h)

theorem cues_adjust (r : Registry) (h : Host) (plugin : Nat) (subject : Subject) (f : SideState → SideState) :
    (r.adjust h plugin subject f).2.cues = h.cues := by
  unfold adjust
  split
  · split
    · exact (cues_note _ _).trans (List.append_nil _)
    · rfl
  · split
    · exact (cues_note _ _).trans (List.append_nil _)
    · rfl

/-! ## Plugins come and go -/

/-- A plugin that joins is told of all that is observed. -/
theorem cues_insert (r : Registry) (h : Host) (i : PluginInstance) :
    (r.insert h i).2.cues = h.cues ++ r.observed.map fun u => (i.number, .entered u) := by
  have hc := cues_foldl Prod.snd (l := r.connections) (fun x c _ => i.cues_enterConnection x c) (r.connectionStates, h)
  have hs := cues_foldl Prod.snd (l := r.sessions) (fun x y _ => i.cues_enterSession x y)
    (r.sessionStates, (r.connections.foldl (fun x c => i.enterConnection c x) (r.connectionStates, h)).2)
  rw [observed, List.map_append, List.map_map, List.map_map, ← List.append_assoc]
  exact hs.trans (congrArg (· ++ _) hc)

/-- The connections and sessions that are observed, in the order in which they go away from a plugin that leaves. -/
def parting (r : Registry) : List Subject :=
  (r.connections.map (.connection ·.id)).reverse ++ (r.sessions.map (.session ·.id)).reverse

theorem parting_perm (r : Registry) : r.parting.Perm r.observed := (List.reverse_perm _).append (List.reverse_perm _)

/-- What a plugin that leaves is called for. -/
def farewell (r : Registry) (n : Nat) : List (Nat × Cue) := (r.parting.map fun u => (n, .departed u)) ++ [(n, .stopped)]

theorem fst_of_mem_farewell {n : Nat} {x : Nat × Cue} (hx : x ∈ r.farewell n) : x.1 = n := by
  simp only [farewell, List.mem_append, List.mem_map, List.mem_singleton] at hx
  rcases hx with ⟨u, -, rfl⟩ | rfl <;> rfl

theorem stopped_mem_farewell (r : Registry) (n : Nat) : (n, .stopped) ∈ r.farewell n :=
  List.mem_append_right _ List.mem_cons_self

/-- A plugin that leaves sees all that is observed go away and is stopped. -/
theorem cues_dismiss (k : r.Keeps (i :: is)) (hi : i.isStopped = false) : (r.dismiss h i).2.cues = h.cues ++ r.farewell i.number := by
  have hs : ∀ c ∈ r.connections.reverse, (r.connectionStates.get? i.number c.id).isSome := fun c hc =>
    (k.connection i.number c.id).2
      ⟨⟨i, List.mem_cons_self, rfl⟩, (Roster.contains_iff _ _).2 (List.mem_map_of_mem (List.mem_reverse.1 hc))⟩
  have hd : (r.connections.reverse.map fun c => (i.number, c.id)).Nodup :=
    nodup_map_reverse (nodup_things k.connections i.number)
  have hcs := PluginInstance.cues_leaveConnections (r.connectionStates, h) (fun c => (i, c)) hd hs
  have hys := cues_foldl Prod.snd (l := r.sessions.reverse) (fun x y _ => i.cues_leaveSession x y)
    (r.sessionStates, (r.connections.reverse.foldl (fun x c => i.leaveConnection c x) (r.connectionStates, h)).2)
  have hstop := i.cues_stop hi (r.sessions.reverse.foldl (fun x y => i.leaveSession y x) (r.sessionStates,
    (r.connections.reverse.foldl (fun x c => i.leaveConnection c x) (r.connectionStates, h)).2)).2
  rw [farewell, parting, ← List.map_reverse, ← List.map_reverse, List.map_append, List.map_map, List.map_map, ← List.append_assoc,
    ← List.append_assoc]
  exact hstop.trans (congrArg (· ++ _) (hys.trans (congrArg (· ++ _) hcs)))

theorem cues_dismissAll {leaving : List PluginInstance} (k : r.Keeps (leaving ++ is)) (hl : ∀ i ∈ leaving, i.isStopped = false) :
    (r.dismissAll h leaving).2.cues = h.cues ++ leaving.flatMap fun i => r.farewell i.number := by
  induction leaving generalizing r h with
  | nil => exact (List.append_nil _).symm
  | cons i leaving ih =>
    rw [List.flatMap_cons, ← List.append_assoc, ← cues_dismiss k (hl i List.mem_cons_self)]
    exact ih (k.dismiss h) fun j hj => hl j (List.mem_cons_of_mem i hj)

/-- All plugins leave one after the other, the last first. -/
theorem cues_unloadAll (k : r.Keeps r.instances) (hs : ∀ i ∈ r.instances, i.isStopped = false) :
    (r.unloadAll h).2.cues = h.cues ++ r.numbers.reverse.flatMap r.farewell := by
  rw [numbers, ← List.map_reverse, List.flatMap_map]
  unfold unloadAll
  split
  · rename_i hn
    rw [hn]
    exact (List.append_nil _).symm
  · have hk : Keeps { r with instances := [] } (r.instances.reverse ++ []) := by
      rw [List.append_nil]
      exact k.parting (List.reverse_perm r.instances).symm []
    exact cues_dismissAll hk fun i hi => hs i (List.mem_reverse.1 hi)

theorem cues_unload (k : r.Keeps r.instances) (hs : ∀ i ∈ r.instances, i.isStopped = false) {name : String}
    (hi : r.named? name = some i) : (r.unload h name).2.2.cues = h.cues ++ r.farewell i.number := by
  unfold unload
  rw [hi]
  exact cues_dismiss (k.parting (perm_of_find? hi) _) (hs i (List.mem_of_find?_eq_some hi))

end Registry

/-! ## Loading -/

/-- A plugin that is loaded is called for nothing but its start and, if that fails, its stop. -/
theorem ModuleSource.cues_load (source : ModuleSource) (h : Host) (name : String) (raw : ParameterTable) (storage : DocumentStore) :
    ∃ cs, (source.load h name raw storage).2.cues = h.cues ++ cs ∧ ∀ c ∈ cs, c.2 = .started ∨ c.2 = .stopped := by
  rcases source.load_cases h name raw storage with ⟨e, he⟩ | ⟨e, he⟩ | ⟨i, ps, reaction, -, -, -, -, he⟩ |
    ⟨i, ps, e, reaction, -, -, hs, he⟩
  · exact ⟨[], by rw [he, List.append_nil], by simp⟩
  · exact ⟨[], by rw [he, List.append_nil, cues_make], by simp⟩
  · exact ⟨[_], by rw [he, cues_call, cues_make], by simp [Callback.cue]⟩
  · exact ⟨[_, _], by rw [he, i.retire_eq, i.cues_stop hs, cues_call, cues_make, List.append_assoc]; rfl, by simp [Callback.cue]⟩

end CoEdit
