import CoEdit.Proofs.Plugin.Courtesy
import CoEdit.Proofs.Plugin.Likeness
import CoEdit.Proofs.Plugin.Visiting
import Mathlib.Data.List.Nodup

/-!
# What is recorded is in safe hands

While a session is observed, the content that was recorded last waits in the state that the plugin keeps for it, or is held by its
document (`Autosave.Premises.Cares`). The states themselves are in order: each is bound to the document of its session, and nothing waits
in it but what was recorded last (`Autosave.Premises.Orderly`). So when the session goes away from the plugin, its document holds what
was recorded last, unless the attempt to write it failed just then (`Autosave.Premises.Fails`). What goes away besides changes nothing
about it, before or after.
-/

namespace CoEdit

namespace Autosave.Premises

/-- What was recorded last of the sessions, by their numbers. -/
abbrev Recordings := Nat → Option ByteArray

variable (π : Premises)

/-- The plugin that saves documents. -/
structure IsSaver (i : PluginInstance) : Prop where
  number : i.number = π.number
  descriptor : i.descriptor = descriptor
  running : i.running = running π.settings

/-- Sessions that are observed were reported, and have documents with files of their own. -/
structure Admits (l : Roster Session) : Prop where
  reported : ∀ x ∈ l, π.sessions x
  apart : ∀ x ∈ l, ∀ y ∈ l, descriptor.accepts x.kind = true → descriptor.accepts y.kind = true → x.id ≠ y.id → π.Apart x y

/-- The states that the plugin keeps are those of sessions in a roster, bound to their documents, and nothing waits in them but what was
recorded last. -/
structure Orderly (l : Roster Session) (last : Recordings) (x : SideTable × Host) : Prop where
  known : π.known x.2.disk
  bound : ∀ id state, x.1.get? π.number id = some state → ∃ z a, l.get? id = some z ∧ π.Tracks z ∧
    state = .autosave a ∧ a.target = some (π.target z) ∧ ∀ content, a.pending = some content → last id = some content

/-- Content of a session waits in the state for it, or its document holds it. -/
def Cares (z : Session) (content : ByteArray) (x : SideTable × Host) : Prop :=
  (∃ a, x.1.get? π.number z.id = some (.autosave a) ∧ a.pending = some content) ∨ π.Holds x.2.disk z content

/-- Between two hosts the plugin was told that a session went away of which content was waiting, could not write it, and said so. -/
def Fails (h h' : Host) (z : Session) (content : ByteArray) : Prop :=
  ∃ y a e d name before after, y.id = z.id ∧ a.pending = some content ∧
    (π.settings.storage.write d z.path content).1 = .error e ∧
    h'.trace = h.trace ++ before ++ [.called π.number name (.sessionRemoved y.id (some (.autosave a))),
      .said (.log (finalSaveFailed y (.storage e)))] ++ after

/-- Content of a session was delivered to its document, or an attempt to do so failed. -/
def Delivers (h : Host) (z : Session) (content : ByteArray) (h' : Host) : Prop :=
  π.Fails h h' z content ∨ π.Holds h'.disk z content

variable {π} {l : Roster Session} {last : Recordings} {x x' : SideTable × Host} {i : PluginInstance} {h h' h'' : Host}
  {y z : Session} {content : ByteArray}

/-! ## What passes by -/

theorem Orderly.pass (o : π.Orderly l last x) (p : π.Passes x x') : π.Orderly l last x' :=
  ⟨p.spares.known o.known, fun id state hs => o.bound id state ((p.states id).symm.trans hs)⟩

theorem Cares.pass (c : π.Cares z content x) (hk : π.known x.2.disk) (hz : π.Tracks z) (p : π.Passes x x') :
    π.Cares z content x' := by
  rcases c with ⟨a, ha, hp⟩ | hh
  · exact Or.inl ⟨a, (p.states z.id).trans ha, hp⟩
  · exact Or.inr (p.spares.holds hk z content hz hh)

/-- Where nothing changed but the trace, all passes by. -/
theorem passes_of_akin (ha : Host.Akin x x') : π.Passes x x' := by
  refine ⟨fun id => by rw [ha.1], ?_⟩
  rw [show x'.2.disk = x.2.disk from congrArg Surroundings.disk ha.2]
  exact Spares.refl _

theorem Cares.akin (c : π.Cares z content x) (ha : Host.Akin x x') : π.Cares z content x' := by
  rw [Cares, ha.1, show x'.2.disk = x.2.disk from congrArg Surroundings.disk ha.2]
  exact c

/-- A failure that was said stays in the trace. -/
theorem Fails.mono (f : π.Fails h h' z content) (ha : h'.Attends h'') : π.Fails h h'' z content := by
  obtain ⟨y, a, e, d, name, before, after, hid, hp, he, htrace⟩ := f
  obtain ⟨more, hmore⟩ := ha.trace
  refine ⟨y, a, e, d, name, before, after ++ more, hid, hp, he, ?_⟩
  rw [← hmore, htrace, List.append_assoc]

theorem Delivers.mono (d : π.Delivers h z content h') (hk : π.known h'.disk) (hz : π.Tracks z)
    (s : π.Spares h'.disk h''.disk) (ha : h'.Attends h'') : π.Delivers h z content h'' :=
  d.imp (fun f => f.mono ha) fun hh => s.holds hk z content hz hh

/-! ## A session comes to the plugin -/

/-- A session that is none on a text leaves the plugin as it was. -/
theorem IsSaver.akin_enterSession (hi : π.IsSaver i) (ha : CoEdit.Autosave.descriptor.accepts y.kind = false) (x : SideTable × Host) :
    Host.Akin x (i.enterSession y x) := by
  unfold PluginInstance.enterSession
  dsimp only
  rw [hi.descriptor, ha, hi.running]
  exact ⟨rfl, rfl⟩

/-- The state for a session on a text is bound to its document. -/
theorem IsSaver.enterSession_of_accepts (hi : π.IsSaver i) (ha : CoEdit.Autosave.descriptor.accepts y.kind = true) :
    (i.enterSession y x).1 = x.1.set π.number y.id (.autosave (({} : AutosaveSession).bind (π.target y) x.2.clock)) ∧
    (i.enterSession y x).2.disk = x.2.disk := by
  unfold PluginInstance.enterSession
  dsimp only
  rw [hi.descriptor, ha, hi.running, hi.number]
  exact ⟨rfl, rfl⟩

/-- The states stay in order when a session comes to the plugin. -/
theorem Orderly.enterSession (o : π.Orderly l last x) (hi : π.IsSaver i) (hy : l.get? y.id = some y) (hs : π.sessions y) :
    π.Orderly l last (i.enterSession y x) := by
  cases ha : CoEdit.Autosave.descriptor.accepts y.kind with
  | false => exact o.pass (passes_of_akin (hi.akin_enterSession ha x))
  | true =>
    obtain ⟨htable, hdisk⟩ := hi.enterSession_of_accepts (x := x) ha
    refine ⟨hdisk ▸ o.known, fun id state hid => ?_⟩
    rw [htable, SideTable.get?_set] at hid
    split at hid
    · rename_i he
      cases hid
      exact ⟨y, _, he.2 ▸ hy, ⟨hs, ha⟩, rfl, rfl, nofun⟩
    · exact o.bound id state hid

theorem Cares.enterSession_of_ne (c : π.Cares z content x) (hi : π.IsSaver i) (hne : y.id ≠ z.id) :
    π.Cares z content (i.enterSession y x) := by
  cases ha : CoEdit.Autosave.descriptor.accepts y.kind with
  | false => exact c.akin (hi.akin_enterSession ha x)
  | true =>
    obtain ⟨htable, hdisk⟩ := hi.enterSession_of_accepts (x := x) ha
    rw [Cares, htable, hdisk, SideTable.get?_set, if_neg fun he => hne he.2]
    exact c

/-! ## A session goes away from the plugin -/

/-- A session that the plugin has no state for leaves it as it was. -/
theorem IsSaver.akin_leaveSession (hi : π.IsSaver i) (hn : x.1.get? π.number y.id = none) : Host.Akin x (i.leaveSession y x) := by
  unfold PluginInstance.leaveSession
  dsimp only
  rw [hi.number, hn, hi.running]
  exact ⟨rfl, rfl⟩

/-- A session that the plugin has a state for is flushed. -/
theorem IsSaver.leaveSession_of_some {a : AutosaveSession} (hi : π.IsSaver i) (ha : x.1.get? π.number y.id = some (.autosave a)) :
    i.leaveSession y x = (x.1.remove π.number y.id,
      i.call x.2 (.sessionRemoved y.id (some (.autosave a))) (Autosave.flushed x.2.surroundings y (.autosave a))) := by
  unfold PluginInstance.leaveSession
  dsimp only
  rw [hi.number, ha, hi.running]
  rfl

/-- The states stay in order when a session goes away from the plugin. -/
theorem Orderly.leaveSession (o : π.Orderly l last x) (g : π.Granted) (hi : π.IsSaver i) (y : Session) :
    π.Orderly l last (i.leaveSession y x) := by
  cases hs : x.1.get? π.number y.id with
  | none => exact o.pass (passes_of_akin (hi.akin_leaveSession hs))
  | some state =>
    obtain ⟨z, a, hz, htracks, rfl, htarget, -⟩ := o.bound y.id state hs
    rw [hi.leaveSession_of_some hs]
    refine ⟨(g.flush htarget htracks o.known).spares.known o.known, fun id state hid => ?_⟩
    have hid : (x.1.remove π.number y.id).get? π.number id = some state := hid
    rw [SideTable.get?_remove] at hid
    split at hid
    · cases hid
    · exact o.bound id state hid

/-- A session that goes away from the plugin takes nothing away from another one. -/
theorem Orderly.sparesBut_leaveSession (o : π.Orderly l last x) (g : π.Granted) (hi : π.IsSaver i) (hl : π.Admits l)
    (hz : l.get? z.id = some z) (htracks : π.Tracks z) (hne : y.id ≠ z.id) (hh : π.Holds x.2.disk z content) :
    π.Holds (i.leaveSession y x).2.disk z content := by
  cases hs : x.1.get? π.number y.id with
  | none => exact (passes_of_akin (hi.akin_leaveSession hs)).spares.holds o.known z content htracks hh
  | some state =>
    obtain ⟨w, a, hw, hwtracks, rfl, htarget, -⟩ := o.bound y.id state hs
    obtain ⟨hwid, hwm⟩ := Roster.get?_eq_some hw
    have hapart : π.Apart w z := hl.apart w hwm z (Roster.get?_eq_some hz).2 hwtracks.2 htracks.2 fun he => hne (hwid.symm.trans he)
    rw [hi.leaveSession_of_some hs]
    exact (g.flush htarget hwtracks o.known).spares.holds o.known z content htracks hapart hh

theorem Cares.leaveSession_of_ne (c : π.Cares z content x) (o : π.Orderly l last x) (g : π.Granted) (hi : π.IsSaver i)
    (hl : π.Admits l) (hz : l.get? z.id = some z) (htracks : π.Tracks z) (hne : y.id ≠ z.id) :
    π.Cares z content (i.leaveSession y x) := by
  rcases c with ⟨a, ha, hp⟩ | hh
  · refine Or.inl ⟨a, ?_, hp⟩
    unfold PluginInstance.leaveSession
    dsimp only
    split
    · rw [SideTable.get?_remove, if_neg fun he => hne he.2]
      exact ha
    · exact ha
  · exact Or.inr (o.sparesBut_leaveSession g hi hl hz htracks hne hh)

/-- A session that goes away from the plugin is delivered. -/
theorem Cares.deliver (c : π.Cares z content x) (o : π.Orderly l last x) (g : π.Granted) (hi : π.IsSaver i)
    (hz : l.get? z.id = some z) (htracks : π.Tracks z) (hlast : last z.id = some content) (hid : y.id = z.id)
    (htrace : h.Attends x.2) : π.Delivers h z content (i.leaveSession y x).2 := by
  cases hs : x.1.get? π.number y.id with
  | none =>
    rcases c with ⟨a, ha, -⟩ | hh
    · rw [← hid, hs] at ha
      cases ha
    · exact Or.inr ((passes_of_akin (hi.akin_leaveSession hs)).spares.holds o.known z content htracks hh)
  | some state =>
    obtain ⟨w, a, hw, -, rfl, htarget, hpending⟩ := o.bound y.id state hs
    obtain rfl : w = z := Option.some.inj ((hid ▸ hw).symm.trans hz)
    have hk : π.known x.2.surroundings.disk := o.known
    obtain ⟨hquiet, hwrites⟩ := g.flushed htarget htracks hk y
    rw [hi.leaveSession_of_some hs]
    cases hp : a.pending with
    | none =>
      refine Or.inr ?_
      show π.Holds (Autosave.flushed x.2.surroundings y (.autosave a)).disk w content
      rw [hquiet hp]
      rcases c with ⟨b, hb, hbp⟩ | hh
      · rw [← hid, hs] at hb
        cases hb
        rw [hp] at hbp
        cases hbp
      · exact hh
    | some waiting =>
      -- what waits is what was recorded last
      obtain rfl : waiting = content := Option.some.inj ((hpending waiting hp).symm.trans (hid ▸ hlast))
      rcases hwrites waiting hp with hh | ⟨e, he, hsaid⟩
      · exact Or.inr hh
      · obtain ⟨before, hbefore⟩ := htrace.trace
        refine Or.inl ⟨y, a, e, _, i.name, before, [], hid, hp, he, ?_⟩
        rw [hbefore, ← hi.number, List.append_nil]
        show (x.2.trace ++ [_]) ++ (Autosave.flushed x.2.surroundings y (.autosave a)).said.map .said = _
        rw [hsaid, List.append_assoc]
        rfl

/-! ## All plugins -/

/-- Plugins with numbers of their own, one of which saves documents while the others are courteous. -/
structure Company (π : Premises) (is : List PluginInstance) : Prop where
  distinct : (is.map (·.number)).Nodup
  saver : ∃ i ∈ is, π.IsSaver i
  others : ∀ i ∈ is, i.number ≠ π.number → π.Courteous i.running

/-- Content is what was recorded last of a session that the plugin saves. -/
structure Recorded (π : Premises) (l : Roster Session) (last : Recordings) (z : Session) (content : ByteArray) : Prop where
  observed : l.get? z.id = some z
  tracks : π.Tracks z
  last : last z.id = some content

/-- Plugins go on since a host, and content of a session is cared for. -/
structure Carried (π : Premises) (h : Host) (l : Roster Session) (last : Recordings) (z : Session) (content : ByteArray)
    (x : SideTable × Host) : Prop where
  attends : h.Attends x.2
  orderly : π.Orderly l last x
  cares : π.Cares z content x

/-- Plugins went on since a host, and content of a session was delivered meanwhile. -/
structure Delivered (π : Premises) (h : Host) (l : Roster Session) (last : Recordings) (z : Session) (content : ByteArray)
    (x : SideTable × Host) : Prop where
  attends : h.Attends x.2
  orderly : π.Orderly l last x
  delivers : π.Delivers h z content x.2

variable {is : List PluginInstance}

/-- The plugin with the number is the one that saves documents. -/
theorem Company.isSaver (c : π.Company is) (hi : i ∈ is) (hn : i.number = π.number) : π.IsSaver i := by
  obtain ⟨j, hj, hs⟩ := c.saver
  rw [List.inj_on_of_nodup_map c.distinct hi hj (hn.trans hs.number.symm)]
  exact hs

/-- A plugin with another number than that one is courteous. -/
theorem Company.other (c : π.Company is) {j : PluginInstance} (hi : π.IsSaver i) (hj : j ∈ is) (hn : j.number ≠ i.number) :
    π.Courteous j.running ∧ j.number ≠ π.number :=
  have hne : j.number ≠ π.number := fun he => hn (he.trans hi.number.symm)
  ⟨c.others j hj hne, hne⟩

theorem Company.greets (c : π.Company is) (hi : i ∈ is) : π.Greets i.running := by
  by_cases hn : i.number = π.number
  · rw [(c.isSaver hi hn).running]
    exact greets_running π.settings
  · exact (c.others i hi hn).toGreets

theorem Carried.pass (k : π.Carried h l last z content x) (hz : π.Tracks z) (p : π.Passes x x') (ha : x.2.Attends x'.2) :
    π.Carried h l last z content x' :=
  ⟨k.attends.trans ha, k.orderly.pass p, k.cares.pass k.orderly.known hz p⟩

theorem Delivered.pass (d : π.Delivered h l last z content x) (hz : π.Tracks z) (p : π.Passes x x') (ha : x.2.Attends x'.2) :
    π.Delivered h l last z content x' :=
  ⟨d.attends.trans ha, d.orderly.pass p, d.delivers.mono d.orderly.known hz p.spares ha⟩

/-- Another session goes away from the plugin. -/
theorem Carried.leaveSession_of_ne (k : π.Carried h l last z content x) (g : π.Granted) (hl : π.Admits l)
    (hz : π.Recorded l last z content) (hi : π.IsSaver i) (hne : y.id ≠ z.id) :
    π.Carried h l last z content (i.leaveSession y x) :=
  ⟨k.attends.trans (i.attends_leaveSession y x), k.orderly.leaveSession g hi y,
    k.cares.leaveSession_of_ne k.orderly g hi hl hz.observed hz.tracks hne⟩

theorem Delivered.leaveSession_of_ne (d : π.Delivered h l last z content x) (g : π.Granted) (hl : π.Admits l)
    (hz : π.Recorded l last z content) (hi : π.IsSaver i) (hne : y.id ≠ z.id) :
    π.Delivered h l last z content (i.leaveSession y x) :=
  ⟨d.attends.trans (i.attends_leaveSession y x), d.orderly.leaveSession g hi y,
    d.delivers.imp (fun f => f.mono (i.attends_leaveSession y x)) fun hh =>
      d.orderly.sparesBut_leaveSession g hi hl hz.observed hz.tracks hne hh⟩

/-- The session itself goes away from the plugin. -/
theorem Carried.deliver (k : π.Carried h l last z content x) (g : π.Granted) (hz : π.Recorded l last z content)
    (hi : π.IsSaver i) (hid : y.id = z.id) : π.Delivered h l last z content (i.leaveSession y x) :=
  ⟨k.attends.trans (i.attends_leaveSession y x), k.orderly.leaveSession g hi y,
    k.cares.deliver k.orderly g hi hz.observed hz.tracks hz.last hid k.attends⟩

/-! ## All that goes away -/

/-- What holds before the turn of one in a list becomes what holds after it. -/
theorem foldl_of_turn {α β κ : Type} (key : α → κ) {f : β → α → β} {P Q : β → Prop} {l : List α} {a : α} (ha : a ∈ l)
    (hd : (l.map key).Nodup) (hbefore : ∀ b ∈ l, key b ≠ key a → ∀ x, P x → P (f x b)) (hturn : ∀ x, P x → Q (f x a))
    (hafter : ∀ b ∈ l, key b ≠ key a → ∀ x, Q x → Q (f x b)) {x : β} (hx : P x) : Q (l.foldl f x) := by
  obtain ⟨before, after, rfl⟩ := List.append_of_mem ha
  rw [List.map_append, List.map_cons, List.perm_middle.nodup_iff, List.nodup_cons, ← List.map_append] at hd
  have hne : ∀ b ∈ before ++ after, key b ≠ key a := fun b hb he => hd.1 (he ▸ List.mem_map_of_mem hb)
  have hm : ∀ b ∈ before ++ after, b ∈ before ++ a :: after := fun b hb =>
    (List.mem_append.1 hb).elim (List.mem_append_left _) fun hb => List.mem_append_right _ (List.mem_cons_of_mem a hb)
  rw [List.foldl_append, List.foldl_cons]
  refine List.foldlRecOn after f (hturn _ ?_) fun x hx b hb => ?_
  · refine List.foldlRecOn before f hx fun x hx b hb => ?_
    exact hbefore b (hm b (List.mem_append_left after hb)) (hne b (List.mem_append_left after hb)) x hx
  · exact hafter b (hm b (List.mem_append_right before hb)) (hne b (List.mem_append_right before hb)) x hx

/-- A session goes away from plugins of the company. -/
theorem Company.orderly_leave (c : π.Company is) (g : π.Granted) (o : π.Orderly l last x) (y : Session) :
    π.Orderly l last (is.reverse.foldl (fun x i => i.leaveSession y x) x) := by
  refine List.foldlRecOn is.reverse _ o fun x o i hi => ?_
  rw [List.mem_reverse] at hi
  by_cases hn : i.number = π.number
  · exact o.leaveSession g (c.isSaver hi hn) y
  · exact o.pass ((c.others i hi hn).passes_leaveSession hn y x)

/-- What was recorded of other sessions stays cared for when a session goes away. -/
theorem Company.carried_leave (c : π.Company is) (g : π.Granted) (hl : π.Admits l) (hz : π.Recorded l last z content)
    (hne : y.id ≠ z.id) (k : π.Carried h l last z content x) :
    π.Carried h l last z content (is.reverse.foldl (fun x i => i.leaveSession y x) x) := by
  refine List.foldlRecOn is.reverse _ k fun x k i hi => ?_
  rw [List.mem_reverse] at hi
  by_cases hn : i.number = π.number
  · exact k.leaveSession_of_ne g hl hz (c.isSaver hi hn) hne
  · exact k.pass hz.tracks ((c.others i hi hn).passes_leaveSession hn y x) (i.attends_leaveSession y x)

/-- What was recorded of a session is delivered when the session goes away. -/
theorem Company.delivered_leave (c : π.Company is) (g : π.Granted) (hz : π.Recorded l last z content) (hid : y.id = z.id)
    (k : π.Carried h l last z content x) :
    π.Delivered h l last z content (is.reverse.foldl (fun x i => i.leaveSession y x) x) := by
  obtain ⟨i, hi, hs⟩ := c.saver
  have hpass : ∀ j ∈ is.reverse, j.number ≠ i.number → ∀ x, π.Passes x (j.leaveSession y x) := fun j hj hn x =>
    have hother := c.other hs (List.mem_reverse.1 hj) hn
    hother.1.passes_leaveSession hother.2 y x
  refine foldl_of_turn (·.number) (List.mem_reverse.2 hi) (Registry.nodup_map_reverse c.distinct) ?_ ?_ ?_ k
  · exact fun j hj hn x k => k.pass hz.tracks (hpass j hj hn x) (j.attends_leaveSession y x)
  · exact fun x k => k.deliver g hz hs hid
  · exact fun j hj hn x d => d.pass hz.tracks (hpass j hj hn x) (j.attends_leaveSession y x)

/-- What was recorded of a session is delivered when the plugin leaves. -/
theorem Carried.dismiss {r : Registry} {h' : Host} (k : π.Carried h r.sessions last z content (seen (r, h'))) (g : π.Granted)
    (hl : π.Admits r.sessions) (ha : r.sessions.Ascending) (hz : π.Recorded r.sessions last z content) (hi : π.IsSaver i) :
    π.Delivered h r.sessions last z content (seen (r.dismiss h' i)) := by
  have hgreets : π.Greets i.running := hi.running ▸ greets_running π.settings
  have hconnections : π.Carried h r.sessions last z content (r.sessionStates, (farewellConnections r i h').2) :=
    k.pass hz.tracks ⟨fun _ => rfl, hgreets.farewellConnections r h'⟩
      (Host.attends_foldl Prod.snd (fun x c => i.attends_leaveConnection c x) r.connections.reverse (r.connectionStates, h'))
  have hz' : z ∈ r.sessions.reverse := List.mem_reverse.2 (Roster.get?_eq_some hz.observed).2
  have hd : π.Delivered h r.sessions last z content (r.sessions.reverse.foldl (fun x y => i.leaveSession y x)
      (r.sessionStates, (farewellConnections r i h').2)) := by
    refine foldl_of_turn (Numbered.number : Session → Nat) hz' (Registry.nodup_map_reverse ha.nodup_numbers) ?_ ?_ ?_ hconnections
    · exact fun y _ hne x k => k.leaveSession_of_ne g hl hz hi hne
    · exact fun x k => k.deliver g hz hi rfl
    · exact fun y _ hne x d => d.leaveSession_of_ne g hl hz hi hne
  exact hd.pass hz.tracks ⟨fun _ => rfl, hgreets.retire _⟩ (i.attends_retire _)

/-- What was recorded of a session is delivered when all plugins leave. -/
theorem Company.delivered_dismissAll (c : π.Company is) (g : π.Granted) {r : Registry} {h' : Host} (hl : π.Admits r.sessions)
    (ha : r.sessions.Ascending) (hz : π.Recorded r.sessions last z content)
    (k : π.Carried h r.sessions last z content (seen (r, h'))) :
    π.Delivered h r.sessions last z content (seen (r.dismissAll h' is.reverse)) := by
  obtain ⟨i, hi, hs⟩ := c.saver
  have hpass : ∀ j ∈ is.reverse, j.number ≠ i.number → ∀ x : Registry × Host, π.Passes (seen x) (seen (x.1.dismiss x.2 j)) :=
    fun j hj hn x =>
      have hother := c.other hs (List.mem_reverse.1 hj) hn
      passes_dismiss hother.1 hother.2 x.1 x.2
  let before (x : Registry × Host) : Prop := x.1.sessions = r.sessions ∧ π.Carried h r.sessions last z content (seen x)
  let after (x : Registry × Host) : Prop := π.Delivered h r.sessions last z content (seen x)
  refine foldl_of_turn (P := before) (Q := after) (·.number) (List.mem_reverse.2 hi) (Registry.nodup_map_reverse c.distinct)
    ?_ ?_ ?_ ⟨rfl, k⟩
  · exact fun j hj hn x k => ⟨k.1, k.2.pass hz.tracks (hpass j hj hn x) (x.1.attends_dismiss x.2 j)⟩
  · intro x ⟨hsessions, k⟩
    show π.Delivered h r.sessions last z content _
    rw [← hsessions] at hl ha hz k ⊢
    exact k.dismiss g hl ha hz hs
  · exact fun j hj hn x d => d.pass hz.tracks (hpass j hj hn x) (x.1.attends_dismiss x.2 j)

end Autosave.Premises
end CoEdit
