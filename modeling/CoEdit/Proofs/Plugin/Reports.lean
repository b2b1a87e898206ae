import CoEdit.Proofs.Plugin.SideStates
import CoEdit.Proofs.Plugin.Trace

/-!
# Who is called when

Connections and sessions that come and go are reported to the plugins of a registry and to nobody else; a plugin that joins or leaves
is told, and in the end stopped, alone.
-/

namespace CoEdit

open Host Occurrence

/-- A report that concerns no session. -/
def Occurrence.IsConnectionReport (is : List Nat) (o : Occurrence) : Prop :=
  o.IsReport is ∧ ∀ n id, o.visit? n (.session id) = none

/-- A report that concerns no connection. -/
def Occurrence.IsSessionReport (is : List Nat) (o : Occurrence) : Prop :=
  o.IsReport is ∧ ∀ n id, o.visit? n (.connection id) = none

theorem Occurrence.visit?_called_none {m : Nat} {p : String} {c : Callback} {u : Subject} (hc : c.visit? u = none) (n : Nat) :
    (called m p c).visit? n u = none := by
  rw [visit?, hc, ite_self]

/-! ## Single plugins -/

namespace PluginInstance

variable (i : PluginInstance) {is : List Nat} (hi : i.number ∈ is) (x : SideTable × Host)

include hi

theorem reports_enterConnection (c : Connection) : x.2.Continues (IsConnectionReport is) (i.enterConnection c x).2 :=
  continues_call _ _ (fun _ => ⟨trivial, fun _ _ => rfl⟩) ⟨⟨hi, trivial⟩, fun n _ => visit?_called_none rfl n⟩

theorem reports_leaveConnection (c : Connection) : x.2.Continues (IsConnectionReport is) (i.leaveConnection c x).2 := by
  unfold leaveConnection
  dsimp only
  split
  · exact continues_call _ _ (fun _ => ⟨trivial, fun _ _ => rfl⟩) ⟨⟨hi, trivial⟩, fun n _ => visit?_called_none rfl n⟩
  · exact continues_note _ ⟨trivial, fun _ _ => rfl⟩

theorem reports_enterSession (y : Session) : x.2.Continues (IsSessionReport is) (i.enterSession y x).2 := by
  unfold enterSession
  dsimp only
  split <;> exact continues_call _ _ (fun _ => ⟨trivial, fun _ _ => rfl⟩) ⟨⟨hi, trivial⟩, fun n _ => visit?_called_none rfl n⟩

theorem reports_leaveSession (y : Session) : x.2.Continues (IsSessionReport is) (i.leaveSession y x).2 := by
  unfold leaveSession
  dsimp only
  split <;> exact continues_call _ _ (fun _ => ⟨trivial, fun _ _ => rfl⟩) ⟨⟨hi, trivial⟩, fun n _ => visit?_called_none rfl n⟩

end PluginInstance

/-! ## The registry -/

namespace Registry

/-- The numbers of the plugins, in order. -/
def numbers (r : Registry) : List Nat := r.instances.map (·.number)

variable (r : Registry) (h : Host) {is : List Nat}

theorem number_mem {r : Registry} {i : PluginInstance} (hi : i ∈ r.instances) : i.number ∈ r.numbers :=
  List.mem_map_of_mem hi

theorem reports_connectionAdded (c : Connection) : h.Continues (IsConnectionReport r.numbers) (r.connectionAdded h c).2 := by
  unfold connectionAdded
  split
  · exact continues_note _ ⟨trivial, fun _ _ => rfl⟩
  · exact continues_foldl Prod.snd (fun x i hi => i.reports_enterConnection (number_mem hi) x c) (r.connectionStates, h)

theorem reports_connectionRemoved (c : Connection) :
    h.Continues (IsConnectionReport r.numbers) (r.connectionRemoved h c).2 := by
  unfold connectionRemoved
  split
  · exact continues_note _ ⟨trivial, fun _ _ => rfl⟩
  · exact continues_foldl Prod.snd
      (fun x i hi => i.reports_leaveConnection (number_mem (List.mem_reverse.1 hi)) x c) (r.connectionStates, h)

theorem reports_sessionAdded (y : Session) : h.Continues (IsSessionReport r.numbers) (r.sessionAdded h y).2 := by
  unfold sessionAdded
  split
  · exact continues_note _ ⟨trivial, fun _ _ => rfl⟩
  · exact continues_foldl Prod.snd (fun x i hi => i.reports_enterSession (number_mem hi) x y) (r.sessionStates, h)

theorem reports_sessionRemoved (y : Session) : h.Continues (IsSessionReport r.numbers) (r.sessionRemoved h y).2 := by
  unfold sessionRemoved
  split
  · exact continues_note _ ⟨trivial, fun _ _ => rfl⟩
  · exact continues_foldl Prod.snd
      (fun x i hi => i.reports_leaveSession (number_mem (List.mem_reverse.1 hi)) x y) (r.sessionStates, h)

theorem reports_adjust (plugin : Nat) (subject : Subject) (f : SideState → SideState) :
    h.Continues (IsReport r.numbers) (r.adjust h plugin subject f).2 := by
  unfold adjust
  split
  · split
    · exact continues_note _ trivial
    · exact Continues.refl _ _
  · split
    · exact continues_note _ trivial
    · exact Continues.refl _ _

/-- A directory is observed by the plugins there are. -/
theorem reports_observe (d : Directory) :
    (r.observe h d).1.instances = r.instances ∧ h.Continues (IsReport r.numbers) (r.observe h d).2 := by
  refine observe_induction (P := fun x => x.1.instances = r.instances ∧ h.Continues (IsReport r.numbers) x.2)
    ⟨rfl, Continues.refl _ h⟩ ?_ ?_ d
  · intro r' h' c ⟨hi, hc⟩
    have hn : r'.numbers = r.numbers := congrArg (List.map _) hi
    exact ⟨(instances_connectionAdded r' h' c).trans hi,
      hc.trans (hn ▸ (r'.reports_connectionAdded h' c).mono fun _ => And.left)⟩
  · intro r' h' y ⟨hi, hc⟩
    have hn : r'.numbers = r.numbers := congrArg (List.map _) hi
    exact ⟨(instances_sessionAdded r' h' y).trans hi,
      hc.trans (hn ▸ (r'.reports_sessionAdded h' y).mono fun _ => And.left)⟩

/-! ## Plugins join and leave -/

/-- A plugin that joins is told of the connections first. -/
theorem reports_insertConnections (i : PluginInstance) :
    h.Continues (IsConnectionReport [i.number]) (r.connections.foldl (fun x c => i.enterConnection c x) (r.connectionStates, h)).2 :=
  continues_foldl Prod.snd (fun x c _ => i.reports_enterConnection (List.mem_singleton_self _) x c) (r.connectionStates, h)

theorem reports_insertSessions (i : PluginInstance) :
    h.Continues (IsSessionReport [i.number]) (r.sessions.foldl (fun x y => i.enterSession y x) (r.sessionStates, h)).2 :=
  continues_foldl Prod.snd (fun x y _ => i.reports_enterSession (List.mem_singleton_self _) x y) (r.sessionStates, h)

theorem reports_insert (i : PluginInstance) : h.Continues (IsReport [i.number]) (r.insert h i).2 :=
  ((r.reports_insertConnections h i).mono fun _ => And.left).trans
    ((r.reports_insertSessions _ i).mono fun _ => And.left)

/-- A plugin that leaves is told of the connections first, then of the sessions, and is retired then. -/
theorem reports_farewellConnections (i : PluginInstance) :
    h.Continues (IsConnectionReport [i.number])
      (r.connections.reverse.foldl (fun x c => i.leaveConnection c x) (r.connectionStates, h)).2 :=
  continues_foldl Prod.snd (fun x c _ => i.reports_leaveConnection (List.mem_singleton_self _) x c) (r.connectionStates, h)

theorem reports_farewellSessions (i : PluginInstance) :
    h.Continues (IsSessionReport [i.number]) (r.sessions.reverse.foldl (fun x y => i.leaveSession y x) (r.sessionStates, h)).2 :=
  continues_foldl Prod.snd (fun x y _ => i.reports_leaveSession (List.mem_singleton_self _) x y) (r.sessionStates, h)

theorem reports_dismiss (i : PluginInstance) :
    ∃ h₁, h.Continues (IsReport [i.number]) h₁ ∧ (r.dismiss h i).2 = i.retire h₁ :=
  ⟨_, ((r.reports_farewellConnections h i).mono fun _ => And.left).trans
    ((r.reports_farewellSessions _ i).mono fun _ => And.left), rfl⟩

end Registry
end CoEdit
