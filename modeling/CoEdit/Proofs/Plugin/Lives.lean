import CoEdit.Proofs.Plugin.Reports

/-!
# The lives of plugins

An attempt to load a plugin makes at most one. `LoadAttempt.Life` says which calls the plugin of an attempt got: none if it was never
started, a start that failed and a stop, or a start, then reports only, and in the end a stop. `Lives` says of the plugins that someone
holds that they are running, and of all others that were made that their lives are over.
-/

namespace CoEdit

open Host Occurrence

/-- An attempt to load a plugin. -/
structure LoadAttempt where
  source : ModuleSource
  host : Host
  name : String
  raw : ParameterTable
  storage : DocumentStore

namespace LoadAttempt

/-- What came of the attempt. -/
def result (a : LoadAttempt) : Except LoadError PluginInstance := (a.source.load a.host a.name a.raw a.storage).1

/-- The host after the attempt. -/
def after (a : LoadAttempt) : Host := (a.source.load a.host a.name a.raw a.storage).2

/-- The plugin that was loaded, if one was. -/
def loaded (a : LoadAttempt) : List PluginInstance := a.result.toOption.toList

theorem loaded_ok {a : LoadAttempt} {i : PluginInstance} (hr : a.result = .ok i) : a.loaded = [i] := by
  rw [loaded, hr]
  rfl

theorem loaded_error {a : LoadAttempt} {e : LoadError} (hr : a.result = .error e) : a.loaded = [] := by
  rw [loaded, hr]
  rfl

/-- The attempt made a plugin with a number and a name. -/
def Makes (a : LoadAttempt) (n : Nat) (p : String) : Prop :=
  a.host.nextPlugin = n ∧ a.name = p ∧ a.after.nextPlugin = n + 1

/-- The attempt made no plugin, and left all as it was. -/
def MakesNone (a : LoadAttempt) : Prop := (∃ e, a.result = .error e) ∧ a.after = a.host

/-- The calls of the plugin that an attempt made, and whether there will be no more. -/
inductive Life (a : LoadAttempt) : Bool → List Callback → Prop
  /-- The plugin was not started. -/
  | refused {e : LoadError} (hr : a.result = .error e) (he : ∀ c, e ≠ .notStarted a.name c) : Life a true []
  /-- The plugin failed to start, and was stopped. -/
  | failed {e : PluginError} (hr : a.result = .error (.notStarted a.name e)) (parameters : PluginParameters) :
      Life a true [.started { name := a.name, storage := a.storage } parameters false, .stopped]
  /-- The plugin started, and was told of connections and sessions since. -/
  | running {i : PluginInstance} (hr : a.result = .ok i) (parameters : PluginParameters) {told : List Callback}
      (ht : ∀ c ∈ told, c.IsReport) :
      Life a false (.started { name := a.name, storage := a.storage } parameters true :: told)
  /-- The plugin started, was told of connections and sessions, and was stopped. -/
  | ended {i : PluginInstance} (hr : a.result = .ok i) (parameters : PluginParameters) {told : List Callback}
      (ht : ∀ c ∈ told, c.IsReport) :
      Life a true (.started { name := a.name, storage := a.storage } parameters true :: (told ++ [.stopped]))

/-- A plugin that runs is told of more. -/
theorem Life.report {a : LoadAttempt} {calls told : List Callback} (l : a.Life false calls) (ht : ∀ c ∈ told, c.IsReport) :
    a.Life false (calls ++ told) := by
  cases l with
  | running hr ps ht' => exact .running hr ps fun c hc => (List.mem_append.1 hc).elim (ht' c) (ht c)

/-- A plugin that runs is stopped. -/
theorem Life.stop {a : LoadAttempt} {calls : List Callback} (l : a.Life false calls) : a.Life true (calls ++ [.stopped]) := by
  cases l with
  | running hr ps ht => exact .ended hr ps ht

/-- A life that is over ends with the only stop, or no call was ever made. -/
theorem Life.stopped {a : LoadAttempt} {calls : List Callback} (l : a.Life true calls) :
    calls = [] ∨ ∃ told, calls = told ++ [.stopped] ∧ .stopped ∉ told := by
  cases l with
  | refused hr he => exact Or.inl rfl
  | failed hr ps => exact Or.inr ⟨[_], rfl, by simp⟩
  | ended hr ps ht => exact Or.inr ⟨_ :: _, rfl, fun hm => (List.mem_cons.1 hm).elim (by simp) fun hm => ht _ hm⟩

end LoadAttempt

/-! ## Stopping -/

namespace PluginInstance

variable (i : PluginInstance) (h : Host)

/-- Nothing is left to do when a plugin that was stopped is let go of. -/
theorem retire_eq : i.retire h = i.stop h := rfl

theorem nextPlugin_stop : (i.stop h).nextPlugin = h.nextPlugin := by
  unfold stop
  split <;> rfl

theorem mem_stop (n : Nat) (p : String) : .created n p ∈ (i.stop h).trace ↔ .created n p ∈ h.trace := by
  unfold stop
  split
  · rfl
  · exact mem_call _ _ _ _ _ _ _

/-- A plugin that was not stopped before is stopped once. -/
theorem callsOf_stop (hi : i.isStopped = false) (n : Nat) :
    (i.stop h).callsOf n = h.callsOf n ++ if i.number = n then [.stopped] else [] := by
  unfold stop
  rw [if_neg (by simp [hi])]
  exact callsOf_call _ _ _ _ _ _

end PluginInstance

/-! ## Lives -/

/-- Attempts made plugins or nothing. Of the plugins, those that are held run and were not stopped, and the lives of the others are
over. -/
structure Lives (held : List PluginInstance) (attempts : List LoadAttempt) (h : Host) : Prop where
  distinct : (held.map (·.number)).Nodup
  handedOut : ∀ i ∈ held, i.number < h.nextPlugin
  unstopped : ∀ i ∈ held, i.isStopped = false
  made : ∀ n p, .created n p ∈ h.trace → n < h.nextPlugin
  uncalled : ∀ n, h.nextPlugin ≤ n → h.callsOf n = []
  attempted : ∀ a ∈ attempts, a.MakesNone ∨ .created a.host.nextPlugin a.name ∈ h.trace
  lives : ∀ n p, .created n p ∈ h.trace → ∃ a ∈ attempts, a.Makes n p ∧
    (n ∈ held.map (·.number) → a.Life false (h.callsOf n)) ∧ (n ∉ held.map (·.number) → a.Life true (h.callsOf n))

namespace Lives

variable {held : List PluginInstance} {attempts : List LoadAttempt} {h h' : Host}

theorem empty (ht : h.trace = []) : Lives [] [] h where
  distinct := List.nodup_nil
  handedOut _ hi := absurd hi List.not_mem_nil
  unstopped _ hi := absurd hi List.not_mem_nil
  made n p hm := absurd (ht ▸ hm) List.not_mem_nil
  uncalled n _ := by rw [callsOf, ht]; rfl
  attempted a ha := absurd ha List.not_mem_nil
  lives n p hm := absurd (ht ▸ hm) List.not_mem_nil

theorem perm {held' : List PluginInstance} (l : Lives held attempts h) (hp : held.Perm held') : Lives held' attempts h := by
  have hm : ∀ n, n ∈ held'.map (·.number) ↔ n ∈ held.map (·.number) := fun n => ((hp.map _).mem_iff).symm
  refine ⟨(hp.map _).nodup_iff.1 l.distinct, fun i hi => l.handedOut i (hp.mem_iff.2 hi),
    fun i hi => l.unstopped i (hp.mem_iff.2 hi), l.made, l.uncalled, l.attempted, ?_⟩
  intro n p hc
  simp only [hm]
  exact l.lives n p hc

/-- Plugins that are held are told of connections and sessions. -/
theorem report (l : Lives held attempts h) {is : List Nat} (hc : h.Continues (IsReport is) h')
    (hi : ∀ n ∈ is, n ∈ held.map (·.number)) : Lives held attempts h' := by
  refine ⟨l.distinct, fun i hm => hc.nextPlugin ▸ l.handedOut i hm, l.unstopped, ?_, ?_,
    fun a ha => (l.attempted a ha).imp_right (hc.mem_created _ _).2, ?_⟩
  · intro n p hm
    rw [hc.nextPlugin]
    exact l.made n p ((hc.mem_created n p).1 hm)
  · intro n hn
    obtain ⟨told, ht, -, hno⟩ := hc.callsOf n
    rw [hc.nextPlugin] at hn
    have hni : n ∉ is := fun hm => by
      obtain ⟨i, hi', rfl⟩ := List.mem_map.1 (hi n hm)
      have := l.handedOut i hi'
      omega
    rw [ht, l.uncalled n hn, hno hni]
    rfl
  · intro n p hm
    obtain ⟨a, ha, hmk, hheld, hgone⟩ := l.lives n p ((hc.mem_created n p).1 hm)
    obtain ⟨told, ht, hrep, hno⟩ := hc.callsOf n
    refine ⟨a, ha, hmk, ?_, ?_⟩
    · intro hn
      rw [ht]
      exact (hheld hn).report hrep
    · intro hn
      rw [ht, hno fun hm => hn (hi n hm), List.append_nil]
      exact hgone hn

/-- A plugin that is held is stopped, and held no longer. -/
theorem stop {i : PluginInstance} (l : Lives (i :: held) attempts h) : Lives held attempts (i.stop h) := by
  have hi := l.unstopped i List.mem_cons_self
  have hd := l.distinct
  rw [List.map_cons, List.nodup_cons] at hd
  refine ⟨hd.2, ?_, fun j hj => l.unstopped j (List.mem_cons_of_mem i hj), ?_, ?_,
    fun a ha => (l.attempted a ha).imp_right (i.mem_stop h _ _).2, ?_⟩
  · intro j hj
    rw [i.nextPlugin_stop]
    exact l.handedOut j (List.mem_cons_of_mem i hj)
  · intro n p hm
    rw [i.nextPlugin_stop]
    exact l.made n p ((i.mem_stop h n p).1 hm)
  · intro n hn
    rw [i.nextPlugin_stop] at hn
    have hlt := l.handedOut i List.mem_cons_self
    rw [i.callsOf_stop h hi, if_neg (by omega), l.uncalled n hn]
    rfl
  · intro n p hm
    obtain ⟨a, ha, hmk, hheld, hgone⟩ := l.lives n p ((i.mem_stop h n p).1 hm)
    rw [i.callsOf_stop h hi]
    by_cases hn : i.number = n
    · subst hn
      rw [if_pos rfl]
      exact ⟨a, ha, hmk, fun hn => absurd hn hd.1, fun _ => (hheld List.mem_cons_self).stop⟩
    · rw [if_neg hn, List.append_nil]
      refine ⟨a, ha, hmk, fun hm => hheld (List.mem_cons_of_mem _ hm), fun hm => hgone ?_⟩
      exact fun hm' => (List.mem_cons.1 hm').elim (fun he => hn he.symm) hm

/-- The circumstances do not matter. -/
theorem congr (l : Lives held attempts h) (ht : h'.trace = h.trace) (hn : h'.nextPlugin = h.nextPlugin) :
    Lives held attempts h' := by
  have hc : ∀ n, h'.callsOf n = h.callsOf n := fun n => by rw [callsOf, callsOf, ht]
  refine ⟨l.distinct, ?_, l.unstopped, ?_, ?_, ?_, ?_⟩
  · rw [hn]
    exact l.handedOut
  · rw [ht, hn]
    exact l.made
  · intro n hm
    rw [hc]
    exact l.uncalled n (hn ▸ hm)
  · rw [ht]
    exact l.attempted
  · rw [ht]
    simp only [hc]
    exact l.lives

/-! ## Loading -/

/-- An attempt made a plugin with the next number. It is held if it runs. -/
theorem make {a : LoadAttempt} (l : Lives held attempts a.host) {loaded : List PluginInstance}
    (hnext : a.after.nextPlugin = a.host.nextPlugin + 1)
    (hmade : ∀ n p, .created n p ∈ a.after.trace ↔ .created n p ∈ a.host.trace ∨ (n = a.host.nextPlugin ∧ p = a.name))
    (hcalls : ∀ n, n ≠ a.host.nextPlugin → a.after.callsOf n = a.host.callsOf n)
    (hl : loaded = [] ∧ a.Life true (a.after.callsOf a.host.nextPlugin) ∨
      ∃ i : PluginInstance, loaded = [i] ∧ i.number = a.host.nextPlugin ∧ i.isStopped = false ∧
        a.Life false (a.after.callsOf a.host.nextPlugin)) :
    Lives (held ++ loaded) (attempts ++ [a]) a.after := by
  have hnew : ∀ i ∈ loaded, i.number = a.host.nextPlugin ∧ i.isStopped = false := by
    intro i hi
    rcases hl with ⟨rfl, -⟩ | ⟨j, rfl, hj, hs, -⟩
    · exact absurd hi List.not_mem_nil
    · rw [List.mem_singleton.1 hi]
      exact ⟨hj, hs⟩
  have hold : ∀ n ∈ held.map (·.number), n < a.host.nextPlugin := by
    intro n hn
    obtain ⟨i, hi, rfl⟩ := List.mem_map.1 hn
    exact l.handedOut i hi
  -- the new plugin is the only one whose number is held now and was not before
  have hmem : ∀ n, n ∈ (held ++ loaded).map (·.number) ↔ n ∈ held.map (·.number) ∨ (n = a.host.nextPlugin ∧ loaded ≠ []) := by
    intro n
    rcases hl with ⟨rfl, -⟩ | ⟨j, rfl, hj, -, -⟩
    · simp
    · simp [hj, eq_comm]
  refine ⟨?_, ?_, ?_, ?_, ?_, ?_, ?_⟩
  · rcases hl with ⟨rfl, -⟩ | ⟨j, rfl, hj, -, -⟩
    · rw [List.append_nil]
      exact l.distinct
    · rw [List.map_append, List.nodup_append]
      refine ⟨l.distinct, by simp, ?_⟩
      intro x hx y hy
      rw [List.map_singleton, List.mem_singleton, hj] at hy
      have := hold x hx
      omega
  · intro i hi
    rw [hnext]
    rcases List.mem_append.1 hi with hi | hi
    · exact Nat.lt_succ_of_lt (l.handedOut i hi)
    · rw [(hnew i hi).1]
      exact Nat.lt_succ_self _
  · intro i hi
    exact (List.mem_append.1 hi).elim (l.unstopped i) fun hi => (hnew i hi).2
  · intro n p hm
    rw [hnext]
    rcases (hmade n p).1 hm with hm | ⟨rfl, -⟩
    · exact Nat.lt_succ_of_lt (l.made n p hm)
    · exact Nat.lt_succ_self _
  · intro n hn
    rw [hnext] at hn
    rw [hcalls n (by omega)]
    exact l.uncalled n (by omega)
  · intro b hb
    rcases List.mem_append.1 hb with hb | hb
    · exact (l.attempted b hb).imp_right fun hm => (hmade _ _).2 (Or.inl hm)
    · rw [List.mem_singleton.1 hb]
      exact Or.inr ((hmade _ _).2 (Or.inr ⟨rfl, rfl⟩))
  · intro n p hm
    simp only [hmem]
    rcases (hmade n p).1 hm with hm | ⟨rfl, rfl⟩
    · have hne : n ≠ a.host.nextPlugin := Nat.ne_of_lt (l.made n p hm)
      obtain ⟨b, hb, hmk, hheld, hgone⟩ := l.lives n p hm
      rw [hcalls n hne]
      exact ⟨b, List.mem_append_left _ hb, hmk, fun h => hheld (h.resolve_right fun h => hne h.1),
        fun h => hgone fun h' => h (Or.inl h')⟩
    · refine ⟨a, List.mem_append_right _ List.mem_cons_self, ⟨rfl, rfl, hnext⟩, ?_⟩
      have hno : a.host.nextPlugin ∉ held.map (·.number) := fun h => Nat.lt_irrefl _ (hold _ h)
      rcases hl with ⟨rfl, hlife⟩ | ⟨j, rfl, -, -, hlife⟩
      · exact ⟨fun h => absurd rfl (h.resolve_left hno).2, fun _ => hlife⟩
      · exact ⟨fun _ => hlife, fun h => absurd (Or.inr ⟨rfl, List.cons_ne_nil _ _⟩) h⟩

/-- An attempt to load a plugin begins a life, or ends one at once, or makes no plugin. -/
theorem load {a : LoadAttempt} (l : Lives held attempts a.host) : Lives (held ++ a.loaded) (attempts ++ [a]) a.after := by
  have hnone : a.host.callsOf a.host.nextPlugin = [] := l.uncalled _ (Nat.le_refl _)
  rcases a.source.load_cases a.host a.name a.raw a.storage with ⟨e, he⟩ | ⟨e, he⟩ | ⟨i, ps, reaction, hi, -, -, hs, he⟩ |
    ⟨i, ps, e, reaction, hi, -, hs, he⟩
  · have hafter : a.after = a.host := congrArg Prod.snd he
    have hresult : a.result = .error e := congrArg Prod.fst he
    rw [hafter, LoadAttempt.loaded_error hresult, List.append_nil]
    refine ⟨l.distinct, l.handedOut, l.unstopped, l.made, l.uncalled, ?_, ?_⟩
    · intro b hb
      rcases List.mem_append.1 hb with hb | hb
      · exact l.attempted b hb
      · rw [List.mem_singleton.1 hb]
        exact Or.inl ⟨⟨e, hresult⟩, hafter⟩
    · intro n p hm
      obtain ⟨b, hb, hrest⟩ := l.lives n p hm
      exact ⟨b, List.mem_append_left _ hb, hrest⟩
  · have hafter : a.after = a.host.make a.name := congrArg Prod.snd he
    have hresult : a.result = .error (.parameters a.name e) := congrArg Prod.fst he
    refine l.make (hafter ▸ rfl) ?_ ?_ (Or.inl ⟨LoadAttempt.loaded_error hresult, ?_⟩)
    · intro n p
      rw [hafter]
      exact mem_make _ _ _ _
    · intro n _
      rw [hafter]
      exact callsOf_make _ _ _
    · rw [hafter, callsOf_make, hnone]
      exact .refused hresult (by simp)
  · have hafter : a.after = (a.host.make a.name).call a.host.nextPlugin a.name
        (.started { name := a.name, storage := a.storage } ps true) reaction := congrArg Prod.snd he
    have hresult : a.result = .ok i := congrArg Prod.fst he
    refine l.make (hafter ▸ rfl) ?_ ?_ (Or.inr ⟨i, LoadAttempt.loaded_ok hresult, hi, hs, ?_⟩)
    · intro n p
      rw [hafter, mem_call]
      exact mem_make _ _ _ _
    · intro n hn
      rw [hafter, callsOf_call, if_neg (Ne.symm hn), List.append_nil, callsOf_make]
    · rw [hafter, callsOf_call, if_pos rfl, callsOf_make, hnone]
      exact .running hresult ps (by simp)
  · have hafter : a.after = i.stop ((a.host.make a.name).call a.host.nextPlugin a.name
        (.started { name := a.name, storage := a.storage } ps false) reaction) := congrArg Prod.snd he
    have hresult : a.result = .error (.notStarted a.name e) := congrArg Prod.fst he
    refine l.make ?_ ?_ ?_ (Or.inl ⟨LoadAttempt.loaded_error hresult, ?_⟩)
    · rw [hafter, i.nextPlugin_stop]
      rfl
    · intro n p
      rw [hafter, i.mem_stop, mem_call]
      exact mem_make _ _ _ _
    · intro n hn
      rw [hafter, i.callsOf_stop _ hs, hi, if_neg (Ne.symm hn), List.append_nil, callsOf_call, if_neg (Ne.symm hn),
        List.append_nil, callsOf_make]
    · rw [hafter, i.callsOf_stop _ hs, hi, if_pos rfl, callsOf_call, if_pos rfl, callsOf_make, hnone]
      exact .failed hresult ps

end Lives

end CoEdit
