import CoEdit.Proofs.Plugin.Cues
import CoEdit.Proofs.Plugin.Observed
import Mathlib.Data.List.Nodup
import Mathlib.Data.List.ProdSigma

/-!
# The keys of the tables of a registry

`Registry.Tabled` says that a registry keeps the states of its own plugins and that no key stands twice in a table. All that is done to a
registry keeps it so. The keys of the table for connections are then exactly the pairs of a plugin and an observed connection, and those
of the table for sessions exactly the pairs of a plugin and an observed session of a kind that the plugin asks for.
-/

namespace CoEdit

/-! ## Each key once -/

namespace SideTable

variable {t : SideTable} {p s : Nat}

theorem nodup_remove (ht : (keys t).Nodup) : (keys (remove p s t)).Nodup := (List.filter_sublist.map _).nodup ht

theorem nodup_set (state : SideState) (ht : (keys t).Nodup) : (keys (set p s state t)).Nodup := by
  have hs : (p, s) ∉ keys (remove p s t) := by
    rw [← get?_isSome_iff, get?_remove]
    simp
  rw [keys, set, List.map_append]
  refine List.nodup_append.2 ⟨nodup_remove ht, by simp, ?_⟩
  intro a ha b hb
  rw [List.map_singleton, List.mem_singleton] at hb
  exact fun he => hs (hb ▸ he ▸ ha)

theorem keys_modify (f : SideState → SideState) : keys (modify p s f t) = keys t := by
  rw [keys, keys, modify, List.map_map]
  refine List.map_congr_left ?_
  intro e _
  simp only [Function.comp_apply]
  split <;> rfl

end SideTable

namespace PluginInstance

variable (i : PluginInstance) {x : SideTable × Host}

theorem nodup_enterConnection (c : Connection) (hx : (SideTable.keys x.1).Nodup) : (SideTable.keys (i.enterConnection c x).1).Nodup :=
  SideTable.nodup_set _ hx

theorem nodup_leaveConnection (c : Connection) (hx : (SideTable.keys x.1).Nodup) :
    (SideTable.keys (i.leaveConnection c x).1).Nodup := by
  unfold leaveConnection
  dsimp only
  split
  · exact SideTable.nodup_remove hx
  · exact hx

theorem nodup_enterSession (y : Session) (hx : (SideTable.keys x.1).Nodup) : (SideTable.keys (i.enterSession y x).1).Nodup := by
  unfold enterSession
  dsimp only
  split
  · exact SideTable.nodup_set _ hx
  · exact hx

theorem nodup_leaveSession (y : Session) (hx : (SideTable.keys x.1).Nodup) : (SideTable.keys (i.leaveSession y x).1).Nodup := by
  unfold leaveSession
  dsimp only
  split
  · exact SideTable.nodup_remove hx
  · exact hx

end PluginInstance

/-- A fold whose steps keep the keys of a table apart keeps them apart. -/
theorem SideTable.nodup_foldl {α : Type} {step : α → SideTable × Host → SideTable × Host}
    (hstep : ∀ a x, (keys x.1).Nodup → (keys (step a x).1).Nodup) (l : List α) {x : SideTable × Host} (hx : (keys x.1).Nodup) :
    (keys (l.foldl (fun x a => step a x) x).1).Nodup :=
  List.foldlRecOn l _ (motive := fun y => (keys y.1).Nodup) hx fun y hy a _ => hstep a y hy

namespace Registry

variable {r : Registry} {h : Host} {i : PluginInstance} {is : List PluginInstance}

/-- A registry keeps the states of its own plugins, and no key stands twice in a table. -/
structure Tabled (r : Registry) : Prop where
  keeps : r.Keeps r.instances
  connection : (SideTable.keys r.connectionStates).Nodup
  session : (SideTable.keys r.sessionStates).Nodup

/-! ## What is done keeps the keys apart -/

namespace Tabled

theorem empty : Tabled {} := ⟨(sound_empty { disk := .empty }).keeps, List.nodup_nil, List.nodup_nil⟩

theorem insert (t : r.Tabled) (hi : i.number ∉ r.numbers) (h : Host) : (r.insert h i).1.Tabled :=
  ⟨t.keeps.insert hi h, SideTable.nodup_foldl (fun c _ => i.nodup_enterConnection c) r.connections t.connection,
    SideTable.nodup_foldl (fun y _ => i.nodup_enterSession y) r.sessions (x := (r.sessionStates, _)) t.session⟩

theorem connectionAdded (t : r.Tabled) (h : Host) (c : Connection) : (r.connectionAdded h c).1.Tabled := by
  refine ⟨instances_connectionAdded r h c ▸ t.keeps.connectionAdded h c, ?_, ?_⟩
  · unfold Registry.connectionAdded
    split
    · exact t.connection
    · exact SideTable.nodup_foldl (fun i _ => i.nodup_enterConnection c) r.instances t.connection
  · unfold Registry.connectionAdded
    split <;> exact t.session

theorem connectionRemoved (t : r.Tabled) (h : Host) (c : Connection) : (r.connectionRemoved h c).1.Tabled := by
  refine ⟨instances_connectionRemoved r h c ▸ t.keeps.connectionRemoved h c, ?_, ?_⟩
  · unfold Registry.connectionRemoved
    split
    · exact t.connection
    · exact SideTable.nodup_foldl (fun i _ => i.nodup_leaveConnection c) r.instances.reverse t.connection
  · unfold Registry.connectionRemoved
    split <;> exact t.session

theorem sessionAdded (t : r.Tabled) (h : Host) (y : Session) : (r.sessionAdded h y).1.Tabled := by
  refine ⟨instances_sessionAdded r h y ▸ t.keeps.sessionAdded h y, ?_, ?_⟩
  · unfold Registry.sessionAdded
    split <;> exact t.connection
  · unfold Registry.sessionAdded
    split
    · exact t.session
    · exact SideTable.nodup_foldl (fun i _ => i.nodup_enterSession y) r.instances t.session

theorem sessionRemoved (t : r.Tabled) (h : Host) (y : Session) : (r.sessionRemoved h y).1.Tabled := by
  refine ⟨instances_sessionRemoved r h y ▸ t.keeps.sessionRemoved h y, ?_, ?_⟩
  · unfold Registry.sessionRemoved
    split <;> exact t.connection
  · unfold Registry.sessionRemoved
    split
    · exact t.session
    · exact SideTable.nodup_foldl (fun i _ => i.nodup_leaveSession y) r.instances.reverse t.session

theorem observe (t : r.Tabled) (h : Host) (d : Directory) : (r.observe h d).1.Tabled :=
  observe_induction (P := fun x => x.1.Tabled) t (fun _ h' c t' => t'.connectionAdded h' c) (fun _ h' y t' => t'.sessionAdded h' y) d

theorem adjust (t : r.Tabled) (h : Host) (plugin : Nat) (subject : Subject) (f : SideState → SideState) :
    (r.adjust h plugin subject f).1.Tabled := by
  refine ⟨instances_adjust r h plugin subject f ▸ t.keeps.adjust h plugin subject f, ?_, ?_⟩
  · unfold Registry.adjust
    split
    · split
      · exact (SideTable.keys_modify f).symm ▸ t.connection
      · exact t.connection
    · split <;> exact t.connection
  · unfold Registry.adjust
    split
    · split <;> exact t.session
    · split
      · exact (SideTable.keys_modify f).symm ▸ t.session
      · exact t.session

theorem unload (t : r.Tabled) (h : Host) (name : String) : (r.unload h name).2.1.Tabled := by
  refine ⟨t.keeps.unload h name, ?_, ?_⟩
  · unfold Registry.unload
    split
    · exact t.connection
    · exact SideTable.nodup_foldl (fun c _ => PluginInstance.nodup_leaveConnection _ c) r.connections.reverse t.connection
  · unfold Registry.unload
    split
    · exact t.session
    · exact SideTable.nodup_foldl (fun y _ => PluginInstance.nodup_leaveSession _ y) r.sessions.reverse
        (x := (r.sessionStates, _)) t.session

theorem unloadAll (t : r.Tabled) (h : Host) : (r.unloadAll h).1.Tabled := by
  refine ⟨t.keeps.unloadAll h, ?_, ?_⟩
  · unfold Registry.unloadAll
    split
    · exact t.connection
    · exact List.nodup_nil
  · unfold Registry.unloadAll
    split
    · exact t.session
    · exact List.nodup_nil

end Tabled

/-! ## The keys -/

/-- The pairs of a plugin and an observed session of a kind that the plugin asks for. -/
def accepted (r : Registry) : List (Nat × Nat) :=
  ((r.instances ×ˢ r.sessions).filter fun x => x.1.descriptor.accepts x.2.kind).map fun x => (x.1.number, x.2.id)

theorem Keeps.nodup_accepted (k : r.Keeps r.instances) : r.accepted.Nodup := by
  have hpairs : (r.instances ×ˢ r.sessions).Nodup := (List.Nodup.of_map _ k.distinct).product (.of_map _ k.sessions.nodup_numbers)
  refine List.Nodup.map_on ?_ (hpairs.filter _)
  rintro ⟨i, y⟩ hx ⟨j, z⟩ hx' he
  obtain ⟨hi, hy⟩ := List.mem_product.1 (List.mem_filter.1 hx).1
  obtain ⟨hj, hz⟩ := List.mem_product.1 (List.mem_filter.1 hx').1
  rw [Prod.mk.injEq] at he
  exact Prod.ext (List.inj_on_of_nodup_map k.distinct hi hj he.1) (List.inj_on_of_nodup_map k.sessions.nodup_numbers hy hz he.2)

theorem mem_accepted {p id : Nat} (k : r.Keeps r.instances) : (p, id) ∈ r.accepted ↔
    ∃ y, r.sessions.get? id = some y ∧ ∃ i ∈ r.instances, i.number = p ∧ i.descriptor.accepts y.kind = true := by
  simp only [accepted, List.mem_map, List.mem_filter, List.mem_product, Prod.exists, Prod.mk.injEq]
  constructor
  · rintro ⟨i, y, ⟨⟨hi, hy⟩, ha⟩, rfl, rfl⟩
    exact ⟨y, k.sessions.get?_of_mem hy, i, hi, rfl, ha⟩
  · rintro ⟨y, hy, i, hi, rfl, ha⟩
    obtain ⟨hid, hm⟩ := Roster.get?_eq_some hy
    exact ⟨i, y, ⟨⟨hi, hm⟩, ha⟩, rfl, hid⟩

/-- The keys of the table for connections are the pairs of a plugin and an observed connection. -/
theorem Tabled.connection_keys (t : r.Tabled) : (SideTable.keys r.connectionStates).Perm (r.numbers ×ˢ r.connections.numbers) := by
  refine (List.perm_ext_iff_of_nodup t.connection (t.keeps.distinct.product t.keeps.connections.nodup_numbers)).2 ?_
  rintro ⟨p, id⟩
  rw [← SideTable.get?_isSome_iff, List.mem_product, ← Roster.contains_iff]
  exact (t.keeps.connection p id).trans (and_congr_left' List.mem_map.symm)

/-- The keys of the table for sessions are the pairs of a plugin and an observed session of a kind that the plugin asks for. -/
theorem Tabled.session_keys (t : r.Tabled) : (SideTable.keys r.sessionStates).Perm r.accepted := by
  refine (List.perm_ext_iff_of_nodup t.session t.keeps.nodup_accepted).2 ?_
  rintro ⟨p, id⟩
  rw [← SideTable.get?_isSome_iff, mem_accepted t.keeps]
  exact t.keeps.session p id

end Registry
end CoEdit
