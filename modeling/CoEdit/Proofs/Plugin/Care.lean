import CoEdit.Plugin.Autosave.Lookup
import CoEdit.Proofs.Plugin.Bookkeeping
import CoEdit.Proofs.Plugin.Lifecycle
import CoEdit.Proofs.Plugin.Safekeeping

/-!
# What is recorded is cared for

A plugin that saves documents is loaded, and from then on sessions come and go, content is recorded and flushed, and other plugins join
and leave, in any order and with any luck at writing (`Autosave.Premises.Reached`). Of each session that the plugin saves, the content
that was recorded last is cared for all the time (`Autosave.Premises.Safe`).
-/

namespace CoEdit

/-- A thing that stands in a roster stands there when another one was inserted. -/
theorem Roster.mem_insert_of_ne {α : Type} [Numbered α] {a b : α} {l : Roster α} (hb : b ∈ l)
    (hn : Numbered.number a ≠ Numbered.number b) : b ∈ Roster.insert a l := by
  induction l with
  | nil => cases hb
  | cons c rest ih =>
    rw [insert]
    split
    · rename_i he
      rcases List.mem_cons.1 hb with rfl | hb
      · exact absurd he hn
      · exact List.mem_cons_of_mem a hb
    · split
      · exact List.mem_cons_of_mem a hb
      · rcases List.mem_cons.1 hb with rfl | hb
        · exact List.mem_cons_self
        · exact List.mem_cons_of_mem c (ih hb)

/-- A plugin that was loaded runs as it was started, with the parameters that were read. -/
theorem ModuleSource.running_of_load {source : ModuleSource} {h h' : Host} {name : String} {raw : ParameterTable}
    {storage : DocumentStore} {i : PluginInstance} (hl : source.load h name raw storage = (.ok i, h')) :
    ∃ around ps reaction, PluginParameters.parse i.descriptor.parameters raw = .ok ps ∧
      i.descriptor.plugin.start around { name, storage } ps = (.ok i.running, reaction) := by
  unfold ModuleSource.load PluginDescriptor.start at hl
  split at hl
  · cases hl
  · split at hl
    · cases hl
    · dsimp only at hl
      split at hl
      · cases hl
      · rename_i ps hp
        split at hl
        · rename_i running reaction hs
          cases hl
          exact ⟨_, ps, reaction, hp, hs⟩
        · cases hl

namespace Autosave

/-- A plugin that saves documents starts with an interval of at least a second. -/
theorem running_of_start {around : Surroundings} {context : PluginContext} {ps : PluginParameters} {p : RunningPlugin}
    {reaction : Reaction} (hs : plugin.start around context ps = (.ok p, reaction)) :
    ∃ interval, ps.uint? "interval" = some interval ∧ interval ≠ 0 ∧
      p = running { storage := context.storage, interval, hook := ps.path? "hook" } := by
  unfold plugin at hs
  dsimp only at hs
  split at hs
  · cases hs
  · cases hs
  · rename_i interval hne hi
    cases hs
    exact ⟨interval, hi, fun he => hne (he ▸ rfl), rfl⟩

/-- What can happen to a registry with a plugin that saves documents. -/
inductive SavingAction where
  | registry (a : RegistryAction)
  | recordChange (id : Nat) (content : ByteArray)
  | flush (id : Nat)
  | flushIfDue (id now : Nat)
  /-- The host becomes another one. -/
  | elsewhere (h : Host)

/-- Whether a session is observed whose content is saved. -/
def follows (r : Registry) (id : Nat) : Bool :=
  match r.sessions.get? id with
  | some z => descriptor.accepts z.kind
  | none => false

/-- What was recorded last after an action. What was recorded of a session is forgotten once the session went away. -/
def SavingAction.recordings (r : Registry) (last : Premises.Recordings) : SavingAction → Premises.Recordings
  | .recordChange id content => fun n => if n = id ∧ follows r id = true then some content else last n
  | .registry (.sessionRemoved y) => fun n => if n = y.id then none else last n
  | _ => last

namespace Premises

variable (π : Premises)

/-- The registry and its host after an action. -/
def perform (r : Registry) (h : Host) : SavingAction → Registry × Host
  | .registry a => r.perform h a
  | .recordChange id content => (r.recordChange π.number id content, h)
  | .flush id => match r.flush h π.number id with
    | some (_, x) => x
    | none => (r, h)
  | .flushIfDue id now => match r.flushIfDue h π.number id now with
    | some (_, x) => x
    | none => (r, h)
  | .elsewhere h' => (r, h')

/-- Plugins that join are courteous, the plugin does not leave, nobody else changes its states for sessions, and what happens to the host
spares the documents. -/
def Permits (r : Registry) (h : Host) : SavingAction → Prop
  | .registry (.insert i) => i.number ∉ r.numbers ∧ π.Courteous i.running
  | .registry (.adjust plugin (.session _) _) => plugin ≠ π.number
  | .registry (.unload name) => ∀ i, r.named? name = some i → i.number ≠ π.number
  | .registry .unloadAll => False
  | .elsewhere h' => π.Spares h.disk h'.disk
  | _ => True

/-- An attempt to load a plugin yields the one that saves documents, with the settings and under the number. -/
structure Loads (a : LoadAttempt) (i : PluginInstance) : Prop where
  result : a.result = .ok i
  storage : a.storage = π.settings.storage
  descriptor : i.descriptor = descriptor
  number : i.number = π.number
  parameters : ∃ ps, PluginParameters.parse parameters a.raw = .ok ps ∧ ps.uint? "interval" = some π.settings.interval ∧
    ps.path? "hook" = π.settings.hook

/-- The registries, their hosts and what was recorded last, since a plugin was loaded that saves documents. -/
inductive Reached : Registry → Host → Recordings → Prop
  | start {r : Registry} {a : LoadAttempt} {i : PluginInstance} (hr : r.Sound a.host) (hi : π.Loads a i)
      (hothers : ∀ j ∈ r.instances, π.Courteous j.running) (hsessions : π.Admits r.sessions) (hk : π.known a.after.disk) :
      Reached (r.insert a.after i).1 (r.insert a.after i).2 fun _ => none
  | step {r : Registry} {h : Host} {last : Recordings} (hr : Reached r h last) (a : SavingAction) (ha : π.Permits r h a)
      (hsessions : π.Admits (π.perform r h a).1.sessions) :
      Reached (π.perform r h a).1 (π.perform r h a).2 (a.recordings r last)

/-- The registry, its host and what was recorded last after actions, one after the other. -/
def performAll (r : Registry) (h : Host) (last : Recordings) : List SavingAction → Registry × Host × Recordings
  | [] => (r, h, last)
  | a :: as => performAll (π.perform r h a).1 (π.perform r h a).2 (a.recordings r last) as

/-- Whether actions are permitted when it is their turn, and the sessions admitted that are observed then. -/
def PermitsAll (r : Registry) (h : Host) : List SavingAction → Prop
  | [] => True
  | a :: as => π.Permits r h a ∧ π.Admits (π.perform r h a).1.sessions ∧ PermitsAll (π.perform r h a).1 (π.perform r h a).2 as

/-- A registry has the plugin and courteous ones, admitted sessions, and states in order. Of each session that the plugin saves, what was
recorded last is cared for. -/
structure Safe (r : Registry) (h : Host) (last : Recordings) : Prop where
  keeps : r.Keeps r.instances
  company : π.Company r.instances
  admits : π.Admits r.sessions
  unheard : ∀ id, r.sessions.get? id = none → last id = none
  orderly : π.Orderly r.sessions last (seen (r, h))
  cares : ∀ z content, π.Recorded r.sessions last z content → π.Cares z content (seen (r, h))

variable {π} {r : Registry} {h h' : Host} {last : Recordings} {i : PluginInstance} {is : List PluginInstance} {y z : Session}
  {content : ByteArray} {x : SideTable × Host} {l : Roster Session}

/-! ## Loading -/

/-- A plugin that was loaded is the one that saves documents. -/
theorem Loads.isSaver {a : LoadAttempt} (hi : π.Loads a i) : π.IsSaver i := by
  obtain ⟨around, ps, reaction, hp, hs⟩ := ModuleSource.running_of_load (Prod.ext hi.result rfl)
  obtain ⟨ps', hp', hinterval, hhook⟩ := hi.parameters
  rw [hi.descriptor] at hp hs
  obtain rfl : ps = ps' := Except.ok.inj (hp.symm.trans hp')
  obtain ⟨interval, hi', -, hrunning⟩ := running_of_start hs
  obtain rfl : interval = π.settings.interval := Option.some.inj (hi'.symm.trans hinterval)
  refine ⟨hi.number, hi.descriptor, ?_⟩
  rw [hrunning, hhook]
  dsimp only
  rw [hi.storage]

/-! ## Steps -/

/-- What was recorded last is carried when something is about to go away. -/
theorem Safe.carried (s : π.Safe r h last) (hz : π.Recorded r.sessions last z content) :
    π.Carried h r.sessions last z content (seen (r, h)) :=
  ⟨Host.Attends.refl h, s.orderly, s.cares z content hz⟩

/-- What passes by changes nothing about it. -/
theorem Safe.pass (s : π.Safe r h last) {x : Registry × Host} (hk : x.1.Keeps x.1.instances) (hc : π.Company x.1.instances)
    (hx : x.1.sessions = r.sessions) (p : π.Passes (seen (r, h)) (seen x)) : π.Safe x.1 x.2 last := by
  refine ⟨hk, hc, ?_, ?_, ?_, ?_⟩
  · rw [hx]
    exact s.admits
  · rw [hx]
    exact s.unheard
  · rw [hx]
    exact s.orderly.pass p
  · rw [hx]
    exact fun z content hz => (s.cares z content hz).pass s.orderly.known hz.tracks p

/-- What passes by and leaves the plugins in place changes nothing about it. -/
theorem Safe.pass_along (s : π.Safe r h last) {x : Registry × Host} (hi : x.1.instances = r.instances) (hk : x.1.Keeps r.instances)
    (hx : x.1.sessions = r.sessions) (p : π.Passes (seen (r, h)) (seen x)) : π.Safe x.1 x.2 last := by
  rw [← hi] at hk
  have hc := s.company
  rw [← hi] at hc
  exact s.pass hk hc hx p

theorem Safe.connectionAdded (s : π.Safe r h last) (c : Connection) :
    π.Safe (r.connectionAdded h c).1 (r.connectionAdded h c).2 last :=
  s.pass_along (Registry.instances_connectionAdded r h c) (s.keeps.connectionAdded h c) (Registry.sessions_connectionAdded r h c)
    (passes_connectionAdded (fun _ hm => s.company.greets hm) h c)

theorem Safe.connectionRemoved (s : π.Safe r h last) (c : Connection) :
    π.Safe (r.connectionRemoved h c).1 (r.connectionRemoved h c).2 last :=
  s.pass_along (Registry.instances_connectionRemoved r h c) (s.keeps.connectionRemoved h c)
    (Registry.sessions_connectionRemoved r h c) (passes_connectionRemoved (fun _ hm => s.company.greets hm) h c)

/-- Another plugin joins. -/
theorem Safe.insert (s : π.Safe r h last) (hn : i.number ∉ r.numbers) (hi : π.Courteous i.running) :
    π.Safe (r.insert h i).1 (r.insert h i).2 last := by
  have hk := s.keeps.insert hn h
  obtain ⟨j, hj, hs⟩ := s.company.saver
  have hne : i.number ≠ π.number := fun he => hn (he.trans hs.number.symm ▸ Registry.number_mem hj)
  refine s.pass hk ⟨hk.distinct, ⟨j, List.mem_append_left _ hj, hs⟩, ?_⟩ rfl (passes_insert hi hne r h)
  intro k hm hkn
  rcases List.mem_append.1 hm with hm | hm
  · exact s.company.others k hm hkn
  · rw [List.mem_singleton.1 hm]
    exact hi

/-- A plugin that is unloaded leaves a registry in which it is not listed any more. -/
theorem unload_eq {name : String} (hi : r.named? name = some i) (h : Host) :
    (r.unload h name).2 = { r with instances := r.instances.eraseP fun i => i.name = name }.dismiss h i := by
  rw [Registry.unload, hi]

/-- Another plugin leaves. -/
theorem Safe.unload (s : π.Safe r h last) {name : String} (hn : ∀ i, r.named? name = some i → i.number ≠ π.number) :
    π.Safe (r.unload h name).2.1 (r.unload h name).2.2 last := by
  have hk := s.keeps.unload h name
  cases hi : r.named? name with
  | none =>
    rw [Registry.unload, hi]
    exact s
  | some i =>
    have hne := hn i hi
    have hinstances := Registry.instances_unload s.keeps hi h
    have hcourteous := s.company.others i (List.mem_of_find?_eq_some hi) hne
    have heq := unload_eq hi h
    have hsub : ∀ j, j ∈ (r.unload h name).2.1.instances ↔ j ∈ r.instances ∧ j.number ≠ i.number := by
      rw [hinstances]
      simp
    refine s.pass hk ⟨hk.distinct, ?_, fun j hj => s.company.others j ((hsub j).1 hj).1⟩ (congrArg (fun x => x.1.sessions) heq) ?_
    · obtain ⟨j, hj, hs⟩ := s.company.saver
      exact ⟨j, (hsub j).2 ⟨hj, fun he => hne (he.symm.trans hs.number)⟩, hs⟩
    · rw [heq]
      exact passes_dismiss hcourteous hne _ h

/-- A state is changed that is none of the plugin for a session. -/
theorem Safe.adjust (s : π.Safe r h last) {plugin : Nat} {subject : Subject}
    (hn : ∀ id, subject = .session id → plugin ≠ π.number) (f : SideState → SideState) :
    π.Safe (r.adjust h plugin subject f).1 (r.adjust h plugin subject f).2 last := by
  have hpass : (r.adjust h plugin subject f).1.sessions = r.sessions ∧
      π.Passes (seen (r, h)) (seen (r.adjust h plugin subject f)) := by
    unfold Registry.adjust
    split
    · split <;> exact ⟨rfl, fun _ => rfl, Spares.refl _⟩
    · split
      · refine ⟨rfl, fun id => ?_, Spares.refl _⟩
        exact (SideTable.get?_modify _ _ _ _ _ _).trans (if_neg fun he => hn _ rfl he.1)
      · exact ⟨rfl, fun _ => rfl, Spares.refl _⟩
  exact s.pass_along (Registry.instances_adjust r h plugin subject f) (s.keeps.adjust h plugin subject f) hpass.1 hpass.2

/-- The plugin joins. -/
theorem safe_insert (hk : r.Keeps r.instances) (hn : i.number ∉ r.numbers) (hi : π.IsSaver i)
    (hothers : ∀ j ∈ r.instances, π.Courteous j.running) (hl : π.Admits r.sessions) (hknown : π.known h.disk) :
    π.Safe (r.insert h i).1 (r.insert h i).2 fun _ => none := by
  have hkeeps := hk.insert hn h
  have hgreets : π.Greets i.running := hi.running ▸ greets_running π.settings
  have hfresh : ∀ id, r.sessionState? π.number id = none := fun id => (hk.no_states (hi.number ▸ hn) id).2
  refine ⟨hkeeps, ⟨hkeeps.distinct, ⟨i, List.mem_append_right _ List.mem_cons_self, hi⟩, ?_⟩, hl, fun _ _ => rfl, ?_, ?_⟩
  · intro j hj hne
    rcases List.mem_append.1 hj with hj | hj
    · exact hothers j hj
    · rw [List.mem_singleton.1 hj] at hne
      exact absurd hi.number hne
  · have hstart : π.Orderly r.sessions (fun _ => none) (r.sessionStates, (greetConnections r i h).2) :=
      ⟨(hgreets.greetConnections r h).known hknown, fun id state hs => by
        rw [show r.sessionStates.get? π.number id = none from hfresh id] at hs
        cases hs⟩
    exact List.foldlRecOn r.sessions (fun x y => i.enterSession y x) hstart fun x o y hy =>
      o.enterSession hi (hk.sessions.get?_of_mem hy) (hl.reported y hy)
  · intro z content hz
    cases hz.last

/-- Sessions among others that are admitted are admitted. -/
theorem Admits.mono {l' : Roster Session} (hl : π.Admits l') (hsub : ∀ x ∈ l, x ∈ l') : π.Admits l :=
  ⟨fun x hx => hl.reported x (hsub x hx), fun x hx y hy => hl.apart x (hsub x hx) y (hsub y hy)⟩

/-- A session is told to a plugin of the company. -/
theorem Company.orderly_enter (c : π.Company is) (o : π.Orderly l last x) (hy : l.get? y.id = some y) (hs : π.sessions y) :
    π.Orderly l last (is.foldl (fun x i => i.enterSession y x) x) := by
  refine List.foldlRecOn is _ o fun x o i hi => ?_
  by_cases hn : i.number = π.number
  · exact o.enterSession (c.isSaver hi hn) hy hs
  · exact o.pass ((c.others i hi hn).passes_enterSession hn y x)

theorem Company.cares_enter (c : π.Company is) (o : π.Orderly l last x) (hy : l.get? y.id = some y) (hs : π.sessions y)
    (hz : π.Tracks z) (hne : y.id ≠ z.id) (k : π.Cares z content x) :
    π.Cares z content (is.foldl (fun x i => i.enterSession y x) x) := by
  refine (List.foldlRecOn is _ (motive := fun x => π.Orderly l last x ∧ π.Cares z content x) ⟨o, k⟩ fun x ok i hi => ?_).2
  obtain ⟨o, k⟩ := ok
  by_cases hn : i.number = π.number
  · exact ⟨o.enterSession (c.isSaver hi hn) hy hs, k.enterSession_of_ne (c.isSaver hi hn) hne⟩
  · have p := (c.others i hi hn).passes_enterSession hn y x
    exact ⟨o.pass p, k.pass o.known hz p⟩

/-- A session that is new to the roster has no state yet. -/
theorem Orderly.insert (o : π.Orderly l last x) (hn : l.get? y.id = none) : π.Orderly (l.insert y) last x := by
  refine ⟨o.known, fun id state hid => ?_⟩
  obtain ⟨z, a, hz, hrest⟩ := o.bound id state hid
  refine ⟨z, a, (Roster.get?_insert y id l).trans ((if_neg ?_).trans hz), hrest⟩
  rintro rfl
  exact absurd (hn.symm.trans hz) nofun

/-- A session whose state is gone leaves the roster, and what was recorded of it is forgotten. -/
theorem Orderly.remove (o : π.Orderly l last x) (hn : x.1.get? π.number y.id = none) :
    π.Orderly (l.remove y.id) (fun n => if n = y.id then none else last n) x := by
  refine ⟨o.known, fun id state hid => ?_⟩
  have hne : id ≠ y.id := by
    rintro rfl
    exact absurd (hn.symm.trans hid) nofun
  obtain ⟨z, a, hz, htracks, hstate, htarget, hpending⟩ := o.bound id state hid
  exact ⟨z, a, (Roster.get?_remove y.id id l).trans ((if_neg hne.symm).trans hz), htracks, hstate, htarget,
    fun content hp => (if_neg hne).trans (hpending content hp)⟩

/-- A session appears. -/
theorem Safe.sessionAdded (s : π.Safe r h last) {y : Session} (hl : π.Admits (r.sessionAdded h y).1.sessions) :
    π.Safe (r.sessionAdded h y).1 (r.sessionAdded h y).2 last := by
  have hkeeps := s.keeps.sessionAdded h y
  unfold Registry.sessionAdded at hl hkeeps ⊢
  split
  · exact s.pass_along rfl s.keeps rfl ⟨fun _ => rfl, Spares.refl _⟩
  · rename_i hc
    rw [if_neg hc] at hl hkeeps
    have hnone : r.sessions.get? y.id = none := Option.not_isSome_iff_eq_none.1 hc
    have hy : (r.sessions.insert y).get? y.id = some y := (Roster.get?_insert y y.id r.sessions).trans (if_pos rfl)
    have hs : π.sessions y := hl.reported y (Roster.get?_eq_some hy).2
    have ho : π.Orderly (r.sessions.insert y) last (seen (r, h)) := s.orderly.insert hnone
    refine ⟨hkeeps, s.company, hl, ?_, s.company.orderly_enter ho hy hs, ?_⟩
    · intro id hid
      rw [Roster.get?_insert] at hid
      split at hid
      · cases hid
      · exact s.unheard id hid
    · intro z content hz
      -- nothing was recorded of the new session yet
      have hne : y.id ≠ z.id := by
        intro he
        have hlast := hz.last
        rw [← he, s.unheard y.id hnone] at hlast
        cases hlast
      have hbefore : r.sessions.get? z.id = some z :=
        ((Roster.get?_insert y z.id r.sessions).trans (if_neg hne)).symm.trans hz.observed
      exact s.company.cares_enter ho hy hs hz.tracks hne (s.cares z content ⟨hbefore, hz.tracks, hz.last⟩)

/-- A session goes away, and what was recorded of it is forgotten. -/
theorem Safe.sessionRemoved (s : π.Safe r h last) (g : π.Granted) (y : Session) :
    π.Safe (r.sessionRemoved h y).1 (r.sessionRemoved h y).2 fun n => if n = y.id then none else last n := by
  have hkeeps := s.keeps.sessionRemoved h y
  unfold Registry.sessionRemoved at hkeeps ⊢
  split
  · rename_i hc
    have hnone : r.sessions.get? y.id = none := Option.not_isSome_iff_eq_none.1 hc
    have hlast : (fun n => if n = y.id then none else last n) = last := by
      funext n
      split
      · rename_i he
        rw [he, s.unheard y.id hnone]
      · rfl
    rw [hlast]
    exact s.pass_along rfl s.keeps rfl ⟨fun _ => rfl, Spares.refl _⟩
  · rename_i hc
    rw [if_neg hc] at hkeeps
    have ho := s.company.orderly_leave g s.orderly y
    have hgone : (r.instances.reverse.foldl (fun x i => i.leaveSession y x) (r.sessionStates, h)).1.get? π.number y.id = none := by
      refine Option.not_isSome_iff_eq_none.1 fun hstate => ?_
      obtain ⟨z, hz, -⟩ := (hkeeps.session π.number y.id).1 hstate
      exact absurd (((Roster.get?_remove y.id y.id r.sessions).trans (if_pos rfl)).symm.trans hz) nofun
    refine ⟨hkeeps, s.company, s.admits.mono fun x hx => List.mem_of_mem_filter hx, ?_, ho.remove hgone, ?_⟩
    · intro id hid
      rw [Roster.get?_remove] at hid
      split
      · rfl
      · rename_i hne
        rw [if_neg (Ne.symm hne)] at hid
        exact s.unheard id hid
    · intro z content hz
      have hobserved := hz.observed
      rw [Roster.get?_remove] at hobserved
      split at hobserved
      · cases hobserved
      · rename_i hne
        have hlast := hz.last
        rw [if_neg (Ne.symm hne)] at hlast
        have hz' : π.Recorded r.sessions last z content := ⟨hobserved, hz.tracks, hlast⟩
        exact (s.company.carried_leave g s.admits hz' hne (s.carried hz')).cares

/-- All that is in a directory and was not observed before appears. -/
theorem Safe.observe (s : π.Safe r h last) (d : Directory) (hl : π.Admits (r.observe h d).1.sessions) :
    π.Safe (r.observe h d).1 (r.observe h d).2 last := by
  refine Registry.observe_induction (P := fun x => π.Admits x.1.sessions → π.Safe x.1 x.2 last) (fun _ => s) ?_ ?_ d hl
  · intro r h c ih hl
    rw [Registry.sessions_connectionAdded] at hl
    exact (ih hl).connectionAdded c
  · intro r h y ih hl
    refine (ih (hl.mono fun x hx => ?_)).sessionAdded hl
    unfold Registry.sessionAdded
    split
    · exact hx
    · rename_i hc
      refine Roster.mem_insert_of_ne hx fun he => hc ((Roster.contains_iff _ _).2 ?_)
      exact List.mem_map.2 ⟨x, hx, he.symm⟩

/-! ## Recording and flushing -/

/-- The plugin keeps content for the sessions it follows. -/
theorem Safe.autosave? (s : π.Safe r h last) (id : Nat) :
    (follows r id = false ∧ r.sessionState? π.number id = none ∧ r.autosave? π.number id = none) ∨
    ∃ z a, follows r id = true ∧ r.sessions.get? id = some z ∧ z.id = id ∧ π.Tracks z ∧
      r.sessionState? π.number id = some (.autosave a) ∧ r.autosave? π.number id = some a ∧ a.target = some (π.target z) ∧
      ∀ content, a.pending = some content → last id = some content := by
  cases hs : r.sessionState? π.number id with
  | none =>
    refine Or.inl ⟨?_, rfl, by rw [Registry.autosave?, hs]⟩
    unfold follows
    split
    · rename_i z hz
      obtain ⟨i, hi, hsaver⟩ := s.company.saver
      rw [Bool.eq_false_iff]
      intro ha
      have hsome := (s.keeps.session π.number id).2 ⟨z, hz, i, hi, hsaver.number, hsaver.descriptor ▸ ha⟩
      rw [hs] at hsome
      cases hsome
    · rfl
  | some state =>
    obtain ⟨z, a, hz, htracks, rfl, htarget, hpending⟩ := s.orderly.bound id state hs
    refine Or.inr ⟨z, a, ?_, hz, (Roster.get?_eq_some hz).1, htracks, rfl, by rw [Registry.autosave?, hs], htarget, hpending⟩
    rw [follows, hz]
    exact htracks.2

/-- A plugin keeps other content for a session. -/
theorem Safe.keeps_setAutosave (s : π.Safe r h last) (id : Nat) (a : AutosaveSession) :
    (r.setAutosave π.number id a).Keeps r.instances :=
  ⟨s.keeps.distinct, s.keeps.connections, s.keeps.sessions, s.keeps.connection,
    fun p id' => (SideTable.isSome_get?_modify π.number id p id' (fun _ => .autosave a) r.sessionStates).trans
      (s.keeps.session p id')⟩

/-- What is kept then, and what is kept for other sessions. -/
theorem get?_setAutosave {id : Nat} {state : SideState} (hs : r.sessionState? π.number id = some state) (a : AutosaveSession)
    (id' : Nat) : (r.setAutosave π.number id a).sessionStates.get? π.number id' =
      if id = id' then some (.autosave a) else r.sessionStates.get? π.number id' := by
  refine (SideTable.get?_modify π.number id π.number id' (fun _ => .autosave a) r.sessionStates).trans ?_
  by_cases he : id = id'
  · obtain rfl := he
    rw [if_pos ⟨rfl, rfl⟩, if_pos rfl]
    exact congrArg (Option.map _) hs
  · rw [if_neg fun hand => he hand.2, if_neg he]

/-- Content is recorded. -/
theorem Safe.recordChange (s : π.Safe r h last) (id : Nat) (content : ByteArray) :
    π.Safe (r.recordChange π.number id content) h fun n => if n = id ∧ follows r id = true then some content else last n := by
  rcases s.autosave? id with ⟨hf, -, ha⟩ | ⟨z, a, hf, hz, hid, htracks, hstate, ha, htarget, -⟩
  · have hlast : (fun n => if n = id ∧ follows r id = true then some content else last n) = last := by
      funext n
      rw [if_neg fun hand => Bool.false_ne_true (hf ▸ hand.2)]
    rw [hlast, Registry.recordChange, ha]
    exact s
  · rw [Registry.recordChange, ha]
    simp only [hf, and_true]
    have hget := get?_setAutosave hstate (a.recordChange content)
    refine ⟨s.keeps_setAutosave id _, s.company, s.admits, ?_, ⟨s.orderly.known, ?_⟩, ?_⟩
    · intro n hn
      rw [if_neg]
      · exact s.unheard n hn
      · rintro rfl
        exact absurd (hn.symm.trans hz) nofun
    · intro n state hn
      replace hn := (hget n).symm.trans hn
      split at hn
      · rename_i he
        cases hn
        exact ⟨z, _, he ▸ hz, htracks, rfl, htarget, fun c hc => (if_pos he.symm).trans hc⟩
      · rename_i he
        obtain ⟨w, b, hw, hwtracks, hb, hbtarget, hpending⟩ := s.orderly.bound n state hn
        exact ⟨w, b, hw, hwtracks, hb, hbtarget, fun c hc => (if_neg (Ne.symm he)).trans (hpending c hc)⟩
    · intro w c hw
      have hlast := hw.last
      by_cases he : w.id = id
      · rw [if_pos he] at hlast
        exact Or.inl ⟨_, (hget w.id).trans (if_pos he.symm), hlast⟩
      · rw [if_neg he] at hlast
        rcases s.cares w c ⟨hw.observed, hw.tracks, hlast⟩ with ⟨b, hb, hp⟩ | hh
        · exact Or.inl ⟨b, ((hget w.id).trans (if_neg (Ne.symm he))).trans hb, hp⟩
        · exact Or.inr hh

/-- What a flush of a session left is taken over. -/
theorem Safe.flushed (s : π.Safe r h last) {a : AutosaveSession} {f : AutosaveSession.Flushed} (hz : r.sessions.get? z.id = some z)
    (htracks : π.Tracks z) (hstate : r.sessionState? π.number z.id = some (.autosave a))
    (hpending : ∀ content, a.pending = some content → last z.id = some content) (hf : π.Flushes z a h.disk f)
    (hd : h'.disk = f.disk) : π.Safe (r.setAutosave π.number z.id f.session) h' last := by
  have hget := get?_setAutosave hstate f.session
  have hspares : π.SparesBut z h.disk h'.disk := hd ▸ hf.spares
  refine ⟨s.keeps_setAutosave z.id _, s.company, s.admits, s.unheard, ⟨hspares.known s.orderly.known, ?_⟩, ?_⟩
  · intro n state hn
    replace hn := (hget n).symm.trans hn
    split at hn
    · rename_i he
      cases hn
      refine ⟨z, _, he ▸ hz, htracks, rfl, hf.target, fun c hc => ?_⟩
      rw [← he]
      rcases hf.outcome with ⟨hsame, -⟩ | ⟨c', -, hnone, -⟩
      · exact hpending c (hsame.symm.trans hc)
      · exact absurd (hnone.symm.trans hc) nofun
    · exact s.orderly.bound n state hn
  · intro w c hw
    have hcares := s.cares w c hw
    by_cases he : z.id = w.id
    · obtain rfl : z = w := Option.some.inj ((he ▸ hz).symm.trans hw.observed)
      have hown := (hget z.id).trans (if_pos rfl)
      rcases hf.outcome with ⟨hsame, hall⟩ | ⟨c', hc', -, hh⟩
      · rcases hcares with ⟨b, hb, hp⟩ | hh
        · have hb : r.sessionState? π.number z.id = some (.autosave b) := hb
          obtain rfl : a = b := SideState.autosave.inj (Option.some.inj (hstate.symm.trans hb))
          exact Or.inl ⟨_, hown, hsame.trans hp⟩
        · exact Or.inr ((show π.Spares h.disk h'.disk from hd ▸ hall).holds s.orderly.known z c htracks hh)
      · -- what was written is what was recorded last
        obtain rfl : c' = c := Option.some.inj ((hpending c' hc').symm.trans hw.last)
        exact Or.inr (show π.Holds h'.disk z c' from hd ▸ hh)
    · rcases hcares with ⟨b, hb, hp⟩ | hh
      · exact Or.inl ⟨b, ((hget w.id).trans (if_neg he)).trans hb, hp⟩
      · have hapart := s.admits.apart z (Roster.get?_eq_some hz).2 w (Roster.get?_eq_some hw.observed).2 htracks.2 hw.tracks.2 he
        exact Or.inr (hspares.holds s.orderly.known w c hw.tracks hapart hh)

/-- Logging leaves the disk alone. -/
theorem disk_logAll (h : Host) (log : List LogEntry) : (h.logAll log).disk = h.disk := by
  induction log generalizing h with
  | nil => rfl
  | cons e log ih => exact ih (h.log e)

theorem Safe.flush (s : π.Safe r h last) (g : π.Granted) (id : Nat) :
    π.Safe (π.perform r h (.flush id)).1 (π.perform r h (.flush id)).2 last := by
  rw [perform, Registry.flush]
  rcases s.autosave? id with ⟨-, -, ha⟩ | ⟨z, a, -, hz, rfl, htracks, hstate, ha, htarget, hpending⟩
  · rw [ha]
    exact s
  · rw [ha]
    have hk : π.known h.surroundings.disk := s.orderly.known
    have hf : π.Flushes z a h.disk (a.flush h.surroundings) := g.flush htarget htracks hk
    exact s.flushed hz htracks hstate hpending hf (disk_logAll _ _)

theorem Safe.flushIfDue (s : π.Safe r h last) (g : π.Granted) (id now : Nat) :
    π.Safe (π.perform r h (.flushIfDue id now)).1 (π.perform r h (.flushIfDue id now)).2 last := by
  rw [perform, Registry.flushIfDue]
  rcases s.autosave? id with ⟨-, -, ha⟩ | ⟨z, a, -, hz, rfl, htracks, hstate, ha, htarget, hpending⟩
  · rw [ha]
    exact s
  · rw [ha]
    have hk : π.known h.surroundings.disk := s.orderly.known
    have hf : π.Flushes z a h.disk (a.flushIfDue h.surroundings now) := g.flushIfDue htarget htracks hk now
    exact s.flushed hz htracks hstate hpending hf (disk_logAll _ _)

/-! ## Runs -/

/-- An action that is permitted keeps what was recorded in safe hands. -/
theorem Safe.perform (s : π.Safe r h last) (g : π.Granted) (a : SavingAction) (ha : π.Permits r h a)
    (hl : π.Admits (π.perform r h a).1.sessions) : π.Safe (π.perform r h a).1 (π.perform r h a).2 (a.recordings r last) := by
  cases a with
  | registry a =>
    cases a with
    | insert i => exact s.insert ha.1 ha.2
    | observe d => exact s.observe d hl
    | connectionAdded c => exact s.connectionAdded c
    | connectionRemoved c => exact s.connectionRemoved c
    | sessionAdded y => exact s.sessionAdded hl
    | sessionRemoved y => exact s.sessionRemoved g y
    | adjust plugin subject f =>
      refine s.adjust (fun id he => ?_) f
      rw [he] at ha
      exact ha
    | unload name => exact s.unload ha
    | unloadAll => exact ha.elim
  | recordChange id content => exact s.recordChange id content
  | flush id => exact s.flush g id
  | flushIfDue id now => exact s.flushIfDue g id now
  | elsewhere h' => exact s.pass_along rfl s.keeps rfl ⟨fun _ => rfl, ha⟩

theorem Reached.safe (hr : π.Reached r h last) (g : π.Granted) : π.Safe r h last := by
  induction hr with
  | @start r a i hr hi hothers hsessions hk =>
    have hn : i.number ∉ r.numbers := fun hm => by
      obtain ⟨j, hj, he⟩ := List.mem_map.1 hm
      have hlt := hr.handedOut j hj
      have hnumber := (ModuleSource.number_of_load (Prod.ext hi.result rfl : a.source.load _ _ _ _ = (.ok i, a.after))).1
      omega
    exact safe_insert hr.keeps hn hi.isSaver hothers hsessions hk
  | step _ a ha hl ih => exact ih.perform g a ha hl

/-- A run goes on by any number of actions. -/
theorem Reached.performAll (hr : π.Reached r h last) {as : List SavingAction} (ha : π.PermitsAll r h as) :
    π.Reached (π.performAll r h last as).1 (π.performAll r h last as).2.1 (π.performAll r h last as).2.2 := by
  induction as generalizing r h last with
  | nil => exact hr
  | cons a as ih => exact ih (hr.step a ha.1 ha.2.1) ha.2.2

end Premises
end Autosave
end CoEdit
