import CoEdit.Proofs.Plugin.Frame

/-!
# What the trace tells of a plugin

`Host.callsOf` are the calls of a plugin, and `Host.visits` what a plugin saw of a connection or session: that it appeared, that
the state for it was changed, that it went away. `Visits` says of such a list that appearing and going away alternate, and that what
is given back is the state as it was left last.
-/

namespace CoEdit

/-- Something that happened between a plugin and a connection or session. -/
inductive Visit where
  /-- It appeared, with the state that was given to the plugin and the one it left, or without a state. -/
  | entered (state : Option (SideState × SideState))
  | changed (state : SideState)
  /-- It went away, and the state there was, if any, was given back. -/
  | left (given : Option SideState)
  deriving DecidableEq

/-- Appearing and going away alternate, beginning with the former. The second part tells whether it is there at the end, and the state
there is for it then. -/
inductive Visits : List Visit → Option (Option SideState) → Prop
  | nil : Visits [] none
  | entered {vs : List Visit} (h : Visits vs none) (state : Option (SideState × SideState)) :
      Visits (vs ++ [.entered state]) (some (state.map (·.2)))
  | changed {vs : List Visit} {state : SideState} (h : Visits vs (some (some state))) (state' : SideState) :
      Visits (vs ++ [.changed state']) (some (some state'))
  | left {vs : List Visit} {given : Option SideState} (h : Visits vs (some given)) : Visits (vs ++ [.left given]) none

/-- When all is over, nothing was changed since something went away last. -/
theorem Visits.eq_nil_of_changed {vs ws : List Visit} (h : Visits (vs ++ ws) none) (hw : ∀ v ∈ ws, ∃ state, v = .changed state) :
    ws = [] := by
  rcases List.eq_nil_or_concat ws with rfl | ⟨ws', v, rfl⟩
  · rfl
  · obtain ⟨state, rfl⟩ := hw v (by simp)
    generalize hl : vs ++ ws'.concat (.changed state) = l at h
    cases h with
    | nil => simp at hl
    | left h =>
      rw [List.concat_eq_append, ← List.append_assoc] at hl
      cases (List.append_inj' hl rfl).2

/-- Whether a plugin was called for something that appeared or went away. -/
def Callback.IsReport : Callback → Prop
  | .started _ _ _ => False
  | .stopped => False
  | _ => True

/-- What a callback tells of a connection or session. -/
def Callback.visit? (u : Subject) : Callback → Option Visit
  | .connectionAdded id given left => if u = .connection id then some (.entered (some (given, left))) else none
  | .connectionRemoved id given => if u = .connection id then some (.left (some given)) else none
  | .sessionAdded id state => if u = .session id then some (.entered state) else none
  | .sessionRemoved id given => if u = .session id then some (.left given) else none
  | _ => none

namespace Callback

theorem visit?_connectionAdded (id : Nat) (given left : SideState) :
    (connectionAdded id given left).visit? (.connection id) = some (.entered (some (given, left))) := if_pos rfl

theorem visit?_connectionRemoved (id : Nat) (given : SideState) :
    (connectionRemoved id given).visit? (.connection id) = some (.left (some given)) := if_pos rfl

theorem visit?_sessionAdded (id : Nat) (state : Option (SideState × SideState)) :
    (sessionAdded id state).visit? (.session id) = some (.entered state) := if_pos rfl

theorem visit?_sessionRemoved (id : Nat) (given : Option SideState) :
    (sessionRemoved id given).visit? (.session id) = some (.left given) := if_pos rfl

end Callback

namespace Occurrence

/-- The call of a plugin. -/
def callOf? (n : Nat) : Occurrence → Option Callback
  | .called m _ c => if m = n then some c else none
  | _ => none

/-- What an occurrence tells of a plugin and a connection or session. -/
def visit? (n : Nat) (u : Subject) : Occurrence → Option Visit
  | .called m _ c => if m = n then c.visit? u else none
  | .changed m u' state => if m = n ∧ u' = u then some (.changed state) else none
  | _ => none

end Occurrence

namespace Host

/-- The calls of a plugin, in order. -/
def callsOf (h : Host) (n : Nat) : List Callback := h.trace.filterMap (Occurrence.callOf? n)

/-- What a plugin saw of a connection or session, in order. -/
def visits (h : Host) (n : Nat) (u : Subject) : List Visit := h.trace.filterMap (Occurrence.visit? n u)

variable (h : Host) (n m : Nat) (u : Subject) (p q : String)

/-! ## Single occurrences -/

theorem callsOf_note (o : Occurrence) : (h.note o).callsOf n = h.callsOf n ++ (o.callOf? n).toList := by
  rw [callsOf, note, List.filterMap_append]
  cases ho : o.callOf? n with
  | none => simp [callsOf, ho]
  | some _ => simp [callsOf, ho]

theorem visits_note (o : Occurrence) : (h.note o).visits n u = h.visits n u ++ (o.visit? n u).toList := by
  rw [visits, note, List.filterMap_append]
  cases ho : o.visit? n u with
  | none => simp [visits, ho]
  | some _ => simp [visits, ho]

theorem callsOf_react (r : Reaction) : (h.react r).callsOf n = h.callsOf n := by
  have hs : (r.said.map Occurrence.said).filterMap (Occurrence.callOf? n) = [] := by
    simp [List.filterMap_map, Function.comp_def, Occurrence.callOf?]
  rw [callsOf, react, List.filterMap_append, hs, List.append_nil]
  rfl

theorem visits_react (r : Reaction) : (h.react r).visits n u = h.visits n u := by
  have hs : (r.said.map Occurrence.said).filterMap (Occurrence.visit? n u) = [] := by
    simp [List.filterMap_map, Function.comp_def, Occurrence.visit?]
  rw [visits, react, List.filterMap_append, hs, List.append_nil]
  rfl

/-- A call is the last of the calls of its plugin. -/
theorem callsOf_call (c : Callback) (r : Reaction) : (h.call m p c r).callsOf n = h.callsOf n ++ if m = n then [c] else [] := by
  rw [call, callsOf_react, callsOf_note, Occurrence.callOf?]
  split <;> rfl

theorem visits_call (c : Callback) (r : Reaction) :
    (h.call m p c r).visits n u = h.visits n u ++ if m = n then (c.visit? u).toList else [] := by
  rw [call, visits_react, visits_note, Occurrence.visit?]
  split <;> rfl

/-- What a call tells of a subject comes last. -/
theorem visits_call_some {c : Callback} {v : Visit} (r : Reaction) (hc : c.visit? u = some v) :
    (h.call n p c r).visits n u = h.visits n u ++ [v] := by
  rw [visits_call, if_pos rfl, hc]
  rfl

/-- A call of another plugin, or one that tells of something else, changes nothing. -/
theorem visits_call_none {c : Callback} (r : Reaction) (hc : m = n → c.visit? u = none) :
    (h.call m p c r).visits n u = h.visits n u := by
  rw [visits_call]
  split
  · rename_i hm
    rw [hc hm]
    exact List.append_nil _
  · exact List.append_nil _

/-- A change is seen by the plugin whose state it is. -/
theorem visits_changed (state : SideState) : (h.note (.changed n u state)).visits n u = h.visits n u ++ [.changed state] := by
  rw [visits_note, Occurrence.visit?, if_pos ⟨rfl, rfl⟩]
  rfl

theorem visits_changed_ne {u' : Subject} (state : SideState) (hne : ¬(m = n ∧ u' = u)) :
    (h.note (.changed m u' state)).visits n u = h.visits n u := by
  rw [visits_note, Occurrence.visit?, if_neg hne]
  exact List.append_nil _

@[simp] theorem visits_log (e : LogEntry) : (h.log e).visits n u = h.visits n u := by
  rw [log, visits_note]
  exact List.append_nil _

@[simp] theorem callsOf_make : (h.make p).callsOf n = h.callsOf n :=
  (callsOf_note { h with nextPlugin := h.nextPlugin + 1 } n (.created h.nextPlugin p)).trans (List.append_nil _)

@[simp] theorem visits_make : (h.make p).visits n u = h.visits n u :=
  (visits_note { h with nextPlugin := h.nextPlugin + 1 } n u (.created h.nextPlugin p)).trans (List.append_nil _)

theorem mem_make : .created n p ∈ (h.make q).trace ↔ .created n p ∈ h.trace ∨ (n = h.nextPlugin ∧ p = q) := by
  simp [make, note]

theorem mem_call (c : Callback) (r : Reaction) : .created n p ∈ (h.call m q c r).trace ↔ .created n p ∈ h.trace := by
  simp [call, react, note]

/-! ## Stretches of the trace -/

/-- Between two hosts the trace went on with occurrences of a kind, and no number was handed out to a plugin. -/
structure Continues (P : Occurrence → Prop) (h h' : Host) : Prop where
  nextPlugin : h'.nextPlugin = h.nextPlugin
  trace : ∃ os, h'.trace = h.trace ++ os ∧ ∀ o ∈ os, P o

section
variable {P Q : Occurrence → Prop} {h h' h'' : Host}

theorem Continues.refl (P : Occurrence → Prop) (h : Host) : Continues P h h := ⟨rfl, [], by simp⟩

theorem Continues.trans (c : Continues P h h') (c' : Continues P h' h'') : Continues P h h'' := by
  obtain ⟨os, ho, hp⟩ := c.trace
  obtain ⟨os', ho', hp'⟩ := c'.trace
  refine ⟨c'.nextPlugin.trans c.nextPlugin, os ++ os', by rw [ho', ho, List.append_assoc], ?_⟩
  intro o hm
  exact (List.mem_append.1 hm).elim (hp o) (hp' o)

theorem Continues.mono (hpq : ∀ o, P o → Q o) (c : Continues P h h') : Continues Q h h' := by
  obtain ⟨os, ho, hp⟩ := c.trace
  exact ⟨c.nextPlugin, os, ho, fun o hm => hpq o (hp o hm)⟩

theorem continues_note (h : Host) {o : Occurrence} (ho : P o) : Continues P h (h.note o) :=
  ⟨rfl, [o], rfl, fun _ hm => List.mem_singleton.1 hm ▸ ho⟩

theorem continues_call (h : Host) {n : Nat} {p : String} {c : Callback} (r : Reaction) (hs : ∀ u, P (.said u))
    (hc : P (.called n p c)) : Continues P h (h.call n p c r) := by
  refine (continues_note h hc).trans ⟨rfl, r.said.map .said, rfl, ?_⟩
  intro o hm
  obtain ⟨u, -, rfl⟩ := List.mem_map.1 hm
  exact hs u

/-- A fold whose steps go on with occurrences of a kind goes on with them. -/
theorem continues_foldl {α β : Type} (host : β → Host) {f : β → α → β} {l : List α}
    (hf : ∀ b, ∀ a ∈ l, Continues P (host b) (host (f b a))) (b : β) : Continues P (host b) (host (l.foldl f b)) :=
  List.foldlRecOn l f (motive := fun b' => Continues P (host b) (host b')) (Continues.refl P _)
    fun b' ih a ha => ih.trans (hf b' a ha)

/-- What a plugin saw is the same after occurrences that tell nothing of it. -/
theorem Continues.visits {n : Nat} {u : Subject} (c : Continues P h h') (hp : ∀ o, P o → o.visit? n u = none) :
    h'.visits n u = h.visits n u := by
  obtain ⟨os, ho, hos⟩ := c.trace
  have hnil : os.filterMap (Occurrence.visit? n u) = [] := List.filterMap_eq_nil_iff.2 fun o hm => hp o (hos o hm)
  rw [Host.visits, ho, List.filterMap_append, hnil, List.append_nil]
  rfl

end

end Host

/-- Whether plugins of a list were told of something, or something was said or changed. -/
def Occurrence.IsReport (is : List Nat) : Occurrence → Prop
  | .said _ => True
  | .called n _ c => n ∈ is ∧ c.IsReport
  | .changed _ _ _ => True
  | _ => False

namespace Host

variable {h h' : Host} {is : List Nat}

/-- Plugins of a list are told of something, and the others are not called. -/
theorem Continues.callsOf (c : Continues (Occurrence.IsReport is) h h') (n : Nat) :
    ∃ told, h'.callsOf n = h.callsOf n ++ told ∧ (∀ c ∈ told, c.IsReport) ∧ (n ∉ is → told = []) := by
  obtain ⟨os, ho, hos⟩ := c.trace
  refine ⟨os.filterMap (Occurrence.callOf? n), by rw [Host.callsOf, ho, List.filterMap_append]; rfl, ?_, ?_⟩
  · intro c hc
    obtain ⟨o, hm, hoc⟩ := List.mem_filterMap.1 hc
    have hr := hos o hm
    cases o with
    | called m p c' =>
      simp only [Occurrence.callOf?, Option.ite_none_right_eq_some, Option.some.injEq] at hoc
      exact hoc.2 ▸ hr.2
    | _ => cases hoc
  · intro hn
    refine List.filterMap_eq_nil_iff.2 ?_
    intro o hm
    have hr := hos o hm
    cases o with
    | called m p c' => exact if_neg fun he : m = n => hn (he ▸ hr.1)
    | _ => rfl

/-- Telling plugins of something makes no plugin. -/
theorem Continues.mem_created (c : Continues (Occurrence.IsReport is) h h') (n : Nat) (p : String) :
    .created n p ∈ h'.trace ↔ .created n p ∈ h.trace := by
  obtain ⟨os, ho, hos⟩ := c.trace
  rw [ho, List.mem_append]
  exact ⟨fun hm => hm.resolve_right fun hm => hos _ hm, Or.inl⟩

/-! ## The last call -/

/-- If a stop is the last call of a plugin and its only one, and what it saw is over in the end, it was over before the stop. -/
theorem over_of_stopped {h : Host} {n : Nat} {told : List Callback} (hc : h.callsOf n = told ++ [.stopped])
    (ht : .stopped ∉ told) (hv : ∀ u, Visits (h.visits n u) none) {p : String} {before after : List Occurrence}
    (hs : h.trace = before ++ .called n p .stopped :: after) :
    { h with trace := after }.callsOf n = [] ∧ ∀ u, Visits ({ h with trace := before }.visits n u) none := by
  have hcall : (Occurrence.called n p .stopped).callOf? n = some .stopped := if_pos rfl
  have hno : { h with trace := after }.callsOf n = [] := by
    rw [callsOf, hs, List.filterMap_append, List.filterMap_cons_some hcall] at hc
    rcases List.eq_nil_or_concat (after.filterMap (Occurrence.callOf? n)) with hnil | ⟨cs, c, hcs⟩
    · exact hnil
    · rw [hcs, List.concat_eq_append, ← List.cons_append, ← List.append_assoc] at hc
      have htold := (List.append_inj' hc rfl).1
      exact absurd (htold ▸ List.mem_append_right _ List.mem_cons_self) ht
  refine ⟨hno, ?_⟩
  intro u
  have hvisits : h.visits n u = { h with trace := before }.visits n u ++ { h with trace := after }.visits n u := by
    have hvisit : (Occurrence.called n p .stopped).visit? n u = none := if_pos rfl
    rw [visits, hs, List.filterMap_append, List.filterMap_cons_none hvisit]
    rfl
  have hv := hv u
  rw [hvisits] at hv
  -- after the stop there are no calls, so whatever was seen then is a change
  have hnil := hv.eq_nil_of_changed fun v hm => by
    obtain ⟨o, ho, hov⟩ := List.mem_filterMap.1 hm
    have hoc := List.filterMap_eq_nil_iff.1 hno o ho
    cases o with
    | called m q c =>
      by_cases hm : m = n
      · simp [Occurrence.callOf?, hm] at hoc
      · simp [Occurrence.visit?, hm] at hov
    | changed m u' state =>
      simp only [Occurrence.visit?, Option.ite_none_right_eq_some, Option.some.injEq] at hov
      exact ⟨state, hov.2.symm⟩
    | _ => cases hov
  rw [hnil, List.append_nil] at hv
  exact hv

end Host
end CoEdit
