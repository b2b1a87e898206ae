import CoEdit.Proofs.Plugin.Safekeeping

/-!
# Sessions that a plugin does not save

A plugin that saves documents has nothing to write for a session that is none on a text. The disk after the session came or went is the
one that the other plugins leave (`Autosave.Premises.without`), and the disk after the plugin itself left is the one it leaves if it
observes nothing but the sessions on texts (`Autosave.Premises.tracked`).
-/

namespace CoEdit

/-- Steps that see no more than the disk and the clock may be left out where they change nothing. -/
theorem Host.Akin.foldl_filter {α β : Type} {f : β × Host → α → β × Host} {P : β × Host → Prop} {p : α → Bool} {l : List α}
    (hf : ∀ a x y, Akin x y → Akin (f x a) (f y a)) (hP : ∀ a x, P x → P (f x a))
    (hskip : ∀ a ∈ l, p a = false → ∀ x, P x → Akin x (f x a)) {x y : β × Host} (hx : P x) (hxy : Akin x y) :
    Akin (l.foldl f x) ((l.filter p).foldl f y) := by
  induction l generalizing x y with
  | nil => exact hxy
  | cons a l ih =>
    have hrest := fun b hb => hskip b (List.mem_cons_of_mem a hb)
    cases ha : p a with
    | true =>
      rw [List.filter_cons_of_pos ha]
      exact ih hrest (hP a x hx) (hf a x y hxy)
    | false =>
      have hsame := hskip a List.mem_cons_self ha x hx
      rw [List.filter_cons_of_neg (Bool.eq_false_iff.1 ha)]
      exact ih hrest (hP a x hx) ⟨hxy.1.trans hsame.1.symm, hxy.2.trans hsame.2.symm⟩

theorem Host.Akin.disk {α : Type} {x y : α × Host} (hxy : Akin x y) : x.2.disk = y.2.disk :=
  (congrArg Surroundings.disk hxy.2).symm

/-- What a plugin does about a new session depends on the disk and the clock only. -/
theorem PluginInstance.enterSession_congr (i : PluginInstance) (y : Session) {a b : SideTable × Host} (hab : Host.Akin a b) :
    Host.Akin (i.enterSession y a) (i.enterSession y b) := by
  obtain ⟨t, h⟩ := a
  obtain ⟨t', g⟩ := b
  obtain ⟨rfl, hs⟩ := hab
  dsimp only at hs
  simp only [enterSession, hs]
  split <;> exact ⟨rfl, Host.call_congr hs _ _ _ _⟩

/-- A session that goes away brings no state along. -/
theorem PluginInstance.get?_leaveSession_none {i : PluginInstance} {y : Session} {x : SideTable × Host} {p id : Nat}
    (hn : x.1.get? p id = none) : (i.leaveSession y x).1.get? p id = none := by
  refine Option.not_isSome_iff_eq_none.1 fun hs => ?_
  have := ((i.isSome_leaveSession y x).1 hs).1
  rw [hn] at this
  cases this

namespace Autosave.Premises

variable (π : Premises)

/-- A registry without the plugin that saves documents. -/
def without (r : Registry) : Registry := { r with instances := r.instances.filter fun i => i.number ≠ π.number }

/-- A registry that observes no other sessions than those on texts. -/
def tracked (r : Registry) : Registry := { r with sessions := r.sessions.filter fun z => descriptor.accepts z.kind }

variable {π} {r : Registry} {i : PluginInstance} {is : List PluginInstance} {y : Session}

/-- The plugin writes nothing for a new session that is none on a text. -/
theorem Company.disk_sessionAdded (c : π.Company r.instances) (ha : descriptor.accepts y.kind = false) (h : Host) :
    (r.sessionAdded h y).2.disk = ((π.without r).sessionAdded h y).2.disk := by
  rw [Registry.sessionAdded, Registry.sessionAdded]
  by_cases hc : r.sessions.contains y.id = true
  · rw [if_pos hc, if_pos (show (π.without r).sessions.contains y.id = true from hc)]
  · rw [if_neg hc, if_neg (show ¬(π.without r).sessions.contains y.id = true from hc)]
    have hakin : Host.Akin (r.instances.foldl (fun x i => i.enterSession y x) (r.sessionStates, h))
        ((π.without r).instances.foldl (fun x i => i.enterSession y x) (r.sessionStates, h)) := by
      refine Host.Akin.foldl_filter (P := fun _ => True) ?_ (fun _ _ _ => trivial) ?_ trivial ⟨rfl, rfl⟩
      · exact fun i _ _ hab => i.enterSession_congr y hab
      · exact fun i hi hn x _ => (c.isSaver hi (by simpa using hn)).akin_enterSession ha x
    exact hakin.disk

/-- The plugin writes nothing for a session that goes away if it has no state for it. -/
theorem Company.disk_sessionRemoved (c : π.Company r.instances) (hn : r.sessionState? π.number y.id = none) (h : Host) :
    (r.sessionRemoved h y).2.disk = ((π.without r).sessionRemoved h y).2.disk := by
  rw [Registry.sessionRemoved, Registry.sessionRemoved]
  by_cases hc : ¬r.sessions.contains y.id = true
  · rw [if_pos hc, if_pos (show ¬(π.without r).sessions.contains y.id = true from hc)]
  · rw [if_neg hc, if_neg (show ¬¬(π.without r).sessions.contains y.id = true from hc)]
    have hakin : Host.Akin (r.instances.reverse.foldl (fun x i => i.leaveSession y x) (r.sessionStates, h))
        ((π.without r).instances.reverse.foldl (fun x i => i.leaveSession y x) (r.sessionStates, h)) := by
      rw [without, ← List.filter_reverse]
      refine Host.Akin.foldl_filter (P := fun x => x.1.get? π.number y.id = none) ?_ ?_ ?_ hn ⟨rfl, rfl⟩
      · exact fun i _ _ hab => i.leaveSession_congr y hab
      · exact fun i x hx => PluginInstance.get?_leaveSession_none hx
      · exact fun i hi hn x hx => (c.isSaver (List.mem_reverse.1 hi) (by simpa using hn)).akin_leaveSession hx
    exact hakin.disk

/-- A plugin that leaves has no state for a session of another kind than it asks for. -/
theorem IsSaver.no_state (hi : π.IsSaver i) (k : r.Keeps (i :: is)) {z : Session} (hz : z ∈ r.sessions)
    (ha : CoEdit.Autosave.descriptor.accepts z.kind = false) : r.sessionState? π.number z.id = none := by
  refine Option.not_isSome_iff_eq_none.1 fun hs => ?_
  obtain ⟨z', hz', j, hj, hn, haccepts⟩ := (k.session π.number z.id).1 hs
  obtain rfl : z = z' := Option.some.inj ((k.sessions.get?_of_mem hz).symm.trans hz')
  obtain rfl : j = i := List.inj_on_of_nodup_map k.distinct hj List.mem_cons_self (hn.trans hi.number.symm)
  rw [hi.descriptor, ha] at haccepts
  cases haccepts

/-- The plugin writes no more when it leaves than if there were no other sessions than those on texts. -/
theorem IsSaver.disk_dismiss (hi : π.IsSaver i) (k : r.Keeps (i :: is)) (h : Host) :
    (r.dismiss h i).2.disk = ((tracked r).dismiss h i).2.disk := by
  have hnone := fun z hz => hi.no_state k (z := z) hz
  let P (x : SideTable × Host) : Prop :=
    ∀ z ∈ r.sessions, CoEdit.Autosave.descriptor.accepts z.kind = false → x.1.get? π.number z.id = none
  have hs : Host.Akin (r.sessions.reverse.foldl (fun x y => i.leaveSession y x) (r.sessionStates, (farewellConnections r i h).2))
      ((tracked r).sessions.reverse.foldl (fun x y => i.leaveSession y x) (r.sessionStates, (farewellConnections r i h).2)) := by
    rw [tracked, ← List.filter_reverse]
    refine Host.Akin.foldl_filter (P := P) ?_ ?_ ?_ hnone ⟨rfl, rfl⟩
    · exact fun y _ _ hab => i.leaveSession_congr y hab
    · exact fun y x hx z hz ha => PluginInstance.get?_leaveSession_none (hx z hz ha)
    · exact fun z hz ha x hx => hi.akin_leaveSession (hx z (List.mem_reverse.1 hz) ha)
  exact (congrArg Surroundings.disk (i.retire_congr hs.2)).symm

end Autosave.Premises
end CoEdit
