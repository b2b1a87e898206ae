import CoEdit.Proofs.Plugin.Observed
import CoEdit.Proofs.Plugin.Saving

/-!
# Plugins beside one that saves documents

A plugin is courteous if it spares the documents whatever it is called for (`Autosave.Premises.Courteous`), and the plugin that saves
them is so but for the sessions that go away from it (`Autosave.Premises.Greets`). What other plugins are called for neither touches the
states of this one nor takes documents away: it passes by (`Autosave.Premises.Passes`).
-/

namespace CoEdit
namespace Autosave.Premises

variable (π : Premises)

/-- Whatever a plugin is called for spares the documents, but perhaps that a session goes away that it has a state for. -/
structure Greets (p : RunningPlugin) : Prop where
  connectionAdded : ∀ around c state, π.Spares around.disk (p.connectionAdded around c state).2.disk
  connectionRemoved : ∀ around c state, π.Spares around.disk (p.connectionRemoved around c state).disk
  sessionAdded : ∀ around y state, π.Spares around.disk (p.sessionAdded around y state).2.disk
  otherSessionAdded : ∀ around y, π.Spares around.disk (p.otherSessionAdded around y).disk
  otherSessionRemoved : ∀ around y, π.Spares around.disk (p.otherSessionRemoved around y).disk
  stop : ∀ around, π.Spares around.disk (p.stop around).disk

/-- Whatever a plugin is called for spares the documents. -/
structure Courteous (p : RunningPlugin) : Prop extends π.Greets p where
  sessionRemoved : ∀ around y state, π.Spares around.disk (p.sessionRemoved around y state).disk

/-- The states of the plugin are the same, and the documents were spared. -/
structure Passes (x x' : SideTable × Host) : Prop where
  states : ∀ id, x'.1.get? π.number id = x.1.get? π.number id
  spares : π.Spares x.2.disk x'.2.disk

variable {π} {x x' x'' : SideTable × Host} {i : PluginInstance} {h : Host}

theorem Passes.refl (x : SideTable × Host) : π.Passes x x := ⟨fun _ => rfl, Spares.refl _⟩

theorem Passes.trans (p : π.Passes x x') (p' : π.Passes x' x'') : π.Passes x x'' :=
  ⟨fun id => (p'.states id).trans (p.states id), p.spares.trans p'.spares⟩

/-- Reports that spare the documents, one after the other. -/
theorem spares_foldl {α : Type} {f : SideTable × Host → α → SideTable × Host} {l : List α}
    (hf : ∀ a ∈ l, ∀ x, π.Spares x.2.disk (f x a).2.disk) (x : SideTable × Host) : π.Spares x.2.disk (l.foldl f x).2.disk :=
  List.foldlRecOn l f (motive := fun x' => π.Spares x.2.disk x'.2.disk) (Spares.refl _) fun x' s a ha => s.trans (hf a ha x')

/-- Reports that pass by, one after the other. -/
theorem passes_foldl {α : Type} {f : SideTable × Host → α → SideTable × Host} {l : List α}
    (hf : ∀ a ∈ l, ∀ x, π.Passes x (f x a)) (x : SideTable × Host) : π.Passes x (l.foldl f x) :=
  List.foldlRecOn l f (motive := π.Passes x) (Passes.refl x) fun x' p a ha => p.trans (hf a ha x')

/-- A plugin that saves documents greets. -/
theorem greets_running (settings : AutosaveSettings) : π.Greets (running settings) where
  connectionAdded _ _ _ := Spares.refl _
  connectionRemoved _ _ _ := Spares.refl _
  sessionAdded _ _ _ := Spares.refl _
  otherSessionAdded _ _ := Spares.refl _
  otherSessionRemoved _ _ := Spares.refl _
  stop _ := Spares.refl _

/-! ## One plugin -/

theorem Greets.enterConnection (hi : π.Greets i.running) (c : Connection) (x : SideTable × Host) :
    π.Spares x.2.disk (i.enterConnection c x).2.disk :=
  hi.connectionAdded x.2.surroundings c i.running.connectionState

theorem Greets.leaveConnection (hi : π.Greets i.running) (c : Connection) (x : SideTable × Host) :
    π.Spares x.2.disk (i.leaveConnection c x).2.disk := by
  unfold PluginInstance.leaveConnection
  dsimp only
  split
  · exact hi.connectionRemoved x.2.surroundings c _
  · exact Spares.refl _

theorem Greets.enterSession (hi : π.Greets i.running) (y : Session) (x : SideTable × Host) :
    π.Spares x.2.disk (i.enterSession y x).2.disk := by
  unfold PluginInstance.enterSession
  dsimp only
  split
  · exact hi.sessionAdded x.2.surroundings y i.running.sessionState
  · exact hi.otherSessionAdded x.2.surroundings y

theorem Courteous.leaveSession (hi : π.Courteous i.running) (y : Session) (x : SideTable × Host) :
    π.Spares x.2.disk (i.leaveSession y x).2.disk := by
  unfold PluginInstance.leaveSession
  dsimp only
  split
  · exact hi.sessionRemoved x.2.surroundings y _
  · exact hi.otherSessionRemoved x.2.surroundings y

theorem Greets.retire (hi : π.Greets i.running) (h : Host) : π.Spares h.disk (i.retire h).disk := by
  show π.Spares h.disk (i.stop h).disk
  unfold PluginInstance.stop
  split
  · exact Spares.refl _
  · exact hi.stop h.surroundings

/-- A session that another plugin is told of passes by. -/
theorem Courteous.passes_enterSession (hi : π.Courteous i.running) (hn : i.number ≠ π.number) (y : Session)
    (x : SideTable × Host) : π.Passes x (i.enterSession y x) := by
  refine ⟨fun id => ?_, hi.enterSession y x⟩
  unfold PluginInstance.enterSession
  dsimp only
  split
  · rw [SideTable.get?_set, if_neg fun he => hn he.1]
  · rfl

theorem Courteous.passes_leaveSession (hi : π.Courteous i.running) (hn : i.number ≠ π.number) (y : Session)
    (x : SideTable × Host) : π.Passes x (i.leaveSession y x) := by
  refine ⟨fun id => ?_, hi.leaveSession y x⟩
  unfold PluginInstance.leaveSession
  dsimp only
  split
  · rw [SideTable.get?_remove, if_neg fun he => hn he.1]
  · rfl

/-! ## Registries -/

variable {r : Registry}

/-- The states of a registry for sessions, and the host. -/
def seen (x : Registry × Host) : SideTable × Host := (x.1.sessionStates, x.2)

/-- Connections that come and go pass by where all plugins greet. -/
theorem passes_connectionAdded (hall : ∀ i ∈ r.instances, π.Greets i.running) (h : Host) (c : Connection) :
    π.Passes (seen (r, h)) (seen (r.connectionAdded h c)) := by
  unfold Registry.connectionAdded
  split
  · exact ⟨fun _ => rfl, Spares.refl _⟩
  · exact ⟨fun _ => rfl, spares_foldl (fun i hi x => (hall i hi).enterConnection c x) (r.connectionStates, h)⟩

theorem passes_connectionRemoved (hall : ∀ i ∈ r.instances, π.Greets i.running) (h : Host) (c : Connection) :
    π.Passes (seen (r, h)) (seen (r.connectionRemoved h c)) := by
  unfold Registry.connectionRemoved
  split
  · exact ⟨fun _ => rfl, Spares.refl _⟩
  · exact ⟨fun _ => rfl,
      spares_foldl (fun i hi x => (hall i (List.mem_reverse.1 hi)).leaveConnection c x) (r.connectionStates, h)⟩

/-- The connections that are observed come to a plugin, or go away from it. -/
def greetConnections (r : Registry) (i : PluginInstance) (h : Host) : SideTable × Host :=
  r.connections.foldl (fun x c => i.enterConnection c x) (r.connectionStates, h)

def farewellConnections (r : Registry) (i : PluginInstance) (h : Host) : SideTable × Host :=
  r.connections.reverse.foldl (fun x c => i.leaveConnection c x) (r.connectionStates, h)

theorem Greets.greetConnections (hi : π.Greets i.running) (r : Registry) (h : Host) :
    π.Spares h.disk (greetConnections r i h).2.disk :=
  spares_foldl (fun c _ x => hi.enterConnection c x) (r.connectionStates, h)

theorem Greets.farewellConnections (hi : π.Greets i.running) (r : Registry) (h : Host) :
    π.Spares h.disk (farewellConnections r i h).2.disk :=
  spares_foldl (fun c _ x => hi.leaveConnection c x) (r.connectionStates, h)

/-- Another plugin that joins passes by. -/
theorem passes_insert (hi : π.Courteous i.running) (hn : i.number ≠ π.number) (r : Registry) (h : Host) :
    π.Passes (seen (r, h)) (seen (r.insert h i)) := by
  have hs := passes_foldl (l := r.sessions) (fun y _ x => hi.passes_enterSession hn y x)
    (r.sessionStates, (greetConnections r i h).2)
  exact ⟨hs.states, (hi.greetConnections r h).trans hs.spares⟩

/-- Another plugin that leaves passes by. -/
theorem passes_dismiss (hi : π.Courteous i.running) (hn : i.number ≠ π.number) (r : Registry) (h : Host) :
    π.Passes (seen (r, h)) (seen (r.dismiss h i)) := by
  have hs := passes_foldl (l := r.sessions.reverse) (fun y _ x => hi.passes_leaveSession hn y x)
    (r.sessionStates, (farewellConnections r i h).2)
  exact ⟨hs.states, ((hi.farewellConnections r h).trans hs.spares).trans (hi.retire _)⟩

end Autosave.Premises
end CoEdit
