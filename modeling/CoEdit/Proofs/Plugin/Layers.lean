import CoEdit.Proofs.Plugin.Nesting

/-!
# Plugins come and go in layers

Two plugins that stand in a registry in some order stood in no other before, and do so until one of them leaves: those that join are put
behind the others, and nobody joins twice. So what the two are told nests along every run that does not unload the first of them by name
(`PluginRun.visits_nest`).
-/

namespace CoEdit

open Host

/-! ## Who may join -/

/-- Which plugins of a registry may be left by an action: all, none, or all but the one that it unloads. -/
def PluginAction.Leaves (a : PluginAction) (r : Registry) (kept : List Nat) : Prop :=
  kept = r.numbers ∨ kept = [] ∨ ∃ name i, a = .unload name ∧ r.named? name = some i ∧ kept = r.numbers.filter (· ≠ i.number)

/-- The action does not unload a plugin of a registry by name. -/
def PluginAction.Spares (a : PluginAction) (r : Registry) (m : Nat) : Prop :=
  match a with
  | .unload name => ∀ i ∈ r.named? name, i.number ≠ m
  | _ => True

namespace PluginRun

variable {x : PluginRun} {m n : Nat}

/-- A plugin that may join: it is loose, or yet to be made. -/
def MayJoin (x : PluginRun) (k : Nat) : Prop := k ∈ x.loose.map (·.number) ∨ x.host.nextPlugin ≤ k

/-- An action leaves plugins in the registry, puts others behind them that may join, and lets nobody join later who may not join now. -/
theorem numbers_perform (b : Bracketed x.registry x.loose x.attempts x.host) (a : PluginAction) :
    (∃ kept new, (x.perform a).registry.numbers = kept ++ new ∧ (∀ k ∈ new, x.MayJoin k) ∧ a.Leaves x.registry kept) ∧
    (∀ k ∈ (x.perform a).loose.map (·.number), x.MayJoin k) ∧ x.host.nextPlugin ≤ (x.perform a).host.nextPlugin := by
  have hsame : ∀ r : Registry, r.instances = x.registry.instances →
      ∃ kept new, r.numbers = kept ++ new ∧ (∀ k ∈ new, x.MayJoin k) ∧ a.Leaves x.registry kept := by
    intro r hr
    exact ⟨r.numbers, [], (List.append_nil _).symm, by simp, Or.inl (congrArg (List.map _) hr)⟩
  have hbut : ∀ number, ∀ k ∈ (x.looseBut number).map (·.number), x.MayJoin k := by
    intro number k hk
    obtain ⟨i, hi, rfl⟩ := List.mem_map.1 hk
    exact Or.inl (List.mem_map_of_mem (List.mem_of_mem_eraseP hi))
  cases a with
  | load source name raw storage =>
    have ha := source.attends_load x.host name raw storage
    refine ⟨hsame _ rfl, ?_, ha.nextPlugin⟩
    intro k hk
    rw [perform] at hk
    dsimp only at hk
    rw [List.map_append] at hk
    refine (List.mem_append.1 hk).imp_right ?_
    intro hk
    obtain ⟨i, hi, rfl⟩ := List.mem_map.1 hk
    cases hl : source.load x.host name raw storage with
    | mk result after =>
      rw [LoadAttempt.loaded, LoadAttempt.result, hl] at hi
      cases result with
      | error e => simp [Except.toOption] at hi
      | ok j =>
        rw [List.mem_singleton.1 hi]
        exact Nat.le_of_eq (ModuleSource.number_of_load hl).1.symm
  | insert number =>
    unfold perform
    dsimp only
    split
    · rename_i i hi
      refine ⟨⟨x.registry.numbers, [i.number], List.map_append, ?_, Or.inl rfl⟩, hbut number,
        (x.registry.attends_insert x.host i).nextPlugin⟩
      intro k hk
      rw [List.mem_singleton.1 hk]
      exact Or.inl (List.mem_map_of_mem (List.mem_of_find?_eq_some hi))
    · exact ⟨hsame _ rfl, fun _ => Or.inl, Nat.le_refl _⟩
  | discard number =>
    unfold perform
    dsimp only
    split
    · rename_i i hi
      exact ⟨hsame _ rfl, hbut number, (i.attends_stop x.host).nextPlugin⟩
    · exact ⟨hsame _ rfl, fun _ => Or.inl, Nat.le_refl _⟩
  | loadAll source requested parameters d =>
    obtain ⟨new, hnew, hn⟩ := x.registry.numbers_loadAll x.host source requested parameters d
    exact ⟨⟨x.registry.numbers, new, hn, fun k hk => Or.inr (hnew k hk), Or.inl rfl⟩, fun _ => Or.inl,
      (x.registry.attends_loadAll x.host source requested parameters d).nextPlugin⟩
  | observe d =>
    exact ⟨hsame _ (x.registry.reports_observe x.host d).1, fun _ => Or.inl, (x.registry.attends_observe x.host d).nextPlugin⟩
  | connectionAdded c =>
    exact ⟨hsame _ (x.registry.instances_connectionAdded x.host c), fun _ => Or.inl,
      (x.registry.attends_connectionAdded x.host c).nextPlugin⟩
  | connectionRemoved c =>
    exact ⟨hsame _ (x.registry.instances_connectionRemoved x.host c), fun _ => Or.inl,
      (x.registry.attends_connectionRemoved x.host c).nextPlugin⟩
  | sessionAdded y =>
    exact ⟨hsame _ (x.registry.instances_sessionAdded x.host y), fun _ => Or.inl,
      (x.registry.attends_sessionAdded x.host y).nextPlugin⟩
  | sessionRemoved y =>
    exact ⟨hsame _ (x.registry.instances_sessionRemoved x.host y), fun _ => Or.inl,
      (x.registry.attends_sessionRemoved x.host y).nextPlugin⟩
  | adjust plugin subject f =>
    exact ⟨hsame _ (x.registry.instances_adjust x.host plugin subject f), fun _ => Or.inl,
      (x.registry.attends_adjust x.host plugin subject f).nextPlugin⟩
  | unload name =>
    refine ⟨?_, fun _ => Or.inl, (x.registry.attends_unload x.host name).nextPlugin⟩
    cases hi : x.registry.named? name with
    | none =>
      refine hsame _ ?_
      have hu : (x.registry.unload x.host name).2.1 = x.registry := by
        unfold Registry.unload
        rw [hi]
      exact congrArg Registry.instances hu
    | some i =>
      exact ⟨_, [], (Registry.numbers_unload b.sound.keeps hi x.host).trans (List.append_nil _).symm, by simp,
        Or.inr (Or.inr ⟨name, i, rfl, hi, rfl⟩)⟩
  | unloadAll =>
    exact ⟨⟨[], [], congrArg (List.map _) (x.registry.instances_unloadAll x.host), by simp, Or.inr (Or.inl rfl)⟩, fun _ => Or.inl,
      (x.registry.attends_unloadAll x.host).nextPlugin⟩
  | release =>
    exact ⟨⟨[], [], rfl, by simp, Or.inr (Or.inl rfl)⟩, fun _ => Or.inl, (x.registry.attends_release x.host).nextPlugin⟩
  | surroundings s => exact ⟨hsame _ rfl, fun _ => Or.inl, Nat.le_refl _⟩

/-- Who may not join now may not join later. -/
theorem not_mayJoin_perform (b : Bracketed x.registry x.loose x.attempts x.host) (hn : ¬x.MayJoin n) (a : PluginAction) :
    ¬(x.perform a).MayJoin n := by
  obtain ⟨-, hloose, hnext⟩ := numbers_perform b a
  rintro (hl | hl)
  · exact hn (hloose n hl)
  · exact hn (Or.inr (Nat.le_trans hnext hl))

/-- A plugin of the registry may not join again. -/
theorem not_mayJoin_of_mem (b : Bracketed x.registry x.loose x.attempts x.host) (hn : n ∈ x.registry.numbers) : ¬x.MayJoin n := by
  have hd := b.lives.distinct
  rw [List.map_append, List.nodup_append] at hd
  rintro (hl | hl)
  · exact hd.2.2 n hn n hl rfl
  · obtain ⟨i, hi, rfl⟩ := List.mem_map.1 hn
    have hlt := b.sound.handedOut i hi
    omega

/-- Two plugins that do not stand in the registry in some order never will, once the second may not join any more. -/
theorem never_sublist (b : Bracketed x.registry x.loose x.attempts x.host) (hn : ¬x.MayJoin n)
    (ho : ¬[m, n].Sublist x.registry.numbers) (as : List PluginAction) : ¬[m, n].Sublist (x.performAll as).registry.numbers := by
  induction as generalizing x with
  | nil => exact ho
  | cons a as ih =>
    refine ih (bracketed_perform b a) (not_mayJoin_perform b hn a) ?_
    obtain ⟨⟨kept, new, hnumbers, hnew, hkept⟩, -, -⟩ := numbers_perform b a
    have hsub : kept.Sublist x.registry.numbers := by
      rcases hkept with rfl | rfl | ⟨name, i, -, -, rfl⟩
      · exact List.Sublist.refl _
      · exact List.nil_sublist _
      · exact List.filter_sublist
    have hd : (kept ++ new).Nodup := by
      rw [← hnumbers]
      exact (bracketed_perform b a).sound.keeps.distinct
    intro hs
    rw [hnumbers] at hs
    have hmem : n ∈ kept := (List.mem_append.1 (hs.subset (by simp))).resolve_right fun hm => hn (hnew n hm)
    exact ho ((sublist_of_append hd hmem hs).trans hsub)

/-- Two plugins that stand in order do so until one leaves, if the first is not unloaded by name. -/
theorem precedes_perform (b : Bracketed x.registry x.loose x.attempts x.host) (hn : ¬x.MayJoin n)
    (ho : Precedes m n x.registry.numbers) {a : PluginAction} (hm : a.Spares x.registry m) :
    Precedes m n (x.perform a).registry.numbers := by
  obtain ⟨⟨kept, new, hnumbers, hnew, hkept⟩, -, -⟩ := numbers_perform b a
  intro hmem
  rw [hnumbers] at hmem ⊢
  have hk : n ∈ kept := (List.mem_append.1 hmem).resolve_right fun hm => hn (hnew n hm)
  refine List.Sublist.trans ?_ (List.sublist_append_left kept new)
  rcases hkept with rfl | rfl | ⟨name, i, ha, hi, rfl⟩
  · exact ho hk
  · exact absurd hk List.not_mem_nil
  · obtain ⟨hin, hni⟩ := List.mem_filter.1 hk
    subst ha
    have hmi : i.number ≠ m := hm i hi
    have hs := (ho hin).filter (· ≠ i.number)
    simpa [Ne.symm hmi, of_decide_eq_true hni] using hs

/-- No action of a run unloads a plugin by name. -/
def NeverUnloads (m : Nat) : PluginRun → List PluginAction → Prop
  | _, [] => True
  | x, a :: as => a.Spares x.registry m ∧ NeverUnloads m (x.perform a) as

theorem NeverUnloads.of_append {as bs : List PluginAction} (hm : NeverUnloads m x (as ++ bs)) :
    NeverUnloads m x as ∧ NeverUnloads m (x.performAll as) bs := by
  induction as generalizing x with
  | nil => exact ⟨trivial, hm⟩
  | cons a as ih =>
    obtain ⟨hfirst, hrest⟩ := ih hm.2
    exact ⟨⟨hm.1, hfirst⟩, hrest⟩

theorem precedes_performAll (b : Bracketed x.registry x.loose x.attempts x.host) (hn : ¬x.MayJoin n)
    (ho : Precedes m n x.registry.numbers) (as : List PluginAction) (hm : NeverUnloads m x as) :
    Precedes m n (x.performAll as).registry.numbers := by
  induction as generalizing x with
  | nil => exact ho
  | cons a as ih => exact ih (bracketed_perform b a) (not_mayJoin_perform b hn a) (precedes_perform b hn ho hm.1) hm.2

/-- If two plugins stand in order at some time, the second is never there without the first before it. -/
theorem precedes_of_prefix (b : Bracketed x.registry x.loose x.attempts x.host) {as bs cs : List PluginAction}
    (hbs : bs <+: as) (hcs : cs <+: as) (hboth : [m, n].Sublist (x.performAll bs).registry.numbers) (hm : NeverUnloads m x as) :
    Precedes m n (x.performAll cs).registry.numbers := by
  rcases List.prefix_or_prefix_of_prefix hcs hbs with ⟨ds, rfl⟩ | ⟨ds, rfl⟩
  · -- what is not so before the time in question would not be so then
    intro hn
    have bc := bracketed_performAll b cs
    by_contra hno
    have hlater := never_sublist bc (not_mayJoin_of_mem bc hn) hno ds
    rw [performAll, List.foldl_append] at hboth
    exact hlater hboth
  · have bb := bracketed_performAll b bs
    have hn : ¬(x.performAll bs).MayJoin n := not_mayJoin_of_mem bb (hboth.subset (by simp))
    obtain ⟨es, rfl⟩ := hcs
    have hrest := hm.of_append.1.of_append.2
    rw [performAll, List.foldl_append]
    exact precedes_performAll bb hn (fun _ => hboth) ds hrest

/-- An action keeps the plugins stacked if they are in order before and after it. -/
theorem stacks_perform (hne : m ≠ n) (b : Bracketed x.registry x.loose x.attempts x.host) (s : x.registry.Stacks m n x.host)
    (ho : Precedes m n x.registry.numbers) {a : PluginAction} (ho' : Precedes m n (x.perform a).registry.numbers)
    (hm : a.Spares x.registry m) :
    (x.perform a).registry.Stacks m n (x.perform a).host := by
  have hrun : ∀ i ∈ x.registry.instances, i.isStopped = false := fun i hi => b.lives.unstopped i (List.mem_append_left _ hi)
  have k := b.sound.keeps
  cases a with
  | load source name raw storage =>
    obtain ⟨cs, hcs, hq⟩ := source.cues_load x.host name raw storage
    exact s.congr rfl (fun _ => rfl) fun u => passages_quiet hcs hq m n u
  | insert number =>
    unfold perform at ho' ⊢
    dsimp only at ho' ⊢
    split
    · rename_i i hi
      rw [hi] at ho'
      refine s.insert hne k ?_ ho'
      intro hmem
      exact not_mayJoin_of_mem b hmem (Or.inl (List.mem_map_of_mem (List.mem_of_find?_eq_some hi)))
    · exact s
  | discard number =>
    unfold perform
    dsimp only
    split
    · rename_i i hi
      have hs := b.lives.unstopped i (List.mem_append_right _ (List.mem_of_find?_eq_some hi))
      exact s.congr rfl (fun _ => rfl) fun u => passages_quiet (i.cues_stop hs x.host) (by simp) m n u
    · exact s
  | loadAll source requested parameters d => exact Registry.Stacks.loadAll hne b.sound s source requested parameters d ho'
  | observe d => exact s.observe hne b.sound ho d
  | connectionAdded c => exact s.connectionAdded hne k ho c
  | connectionRemoved c => exact s.connectionRemoved hne k ho c
  | sessionAdded y => exact s.sessionAdded hne k ho y
  | sessionRemoved y => exact s.sessionRemoved hne k ho y
  | adjust plugin subject f =>
    refine s.congr ?_ (x.registry.observes_adjust x.host plugin subject f) ?_
    · exact congrArg (List.map _) (x.registry.instances_adjust x.host plugin subject f)
    · intro u
      exact congrArg (List.filterMap _) (x.registry.cues_adjust x.host plugin subject f)
  | unload name => exact s.unload hne k hrun ho hm
  | unloadAll => exact Registry.stacks_of_empty (x.registry.instances_unloadAll x.host) (s.unloadAll hne k hrun ho)
  | release =>
    refine Registry.stacks_of_empty rfl ?_
    unfold perform
    rw [Registry.release_eq]
    exact s.unloadAll hne k hrun ho
  | surroundings _ => exact s.quiet rfl

theorem stacks_performAll (hne : m ≠ n) (b : Bracketed x.registry x.loose x.attempts x.host) (s : x.registry.Stacks m n x.host)
    (as : List PluginAction) (ho : ∀ bs, bs <+: as → Precedes m n (x.performAll bs).registry.numbers) (hm : NeverUnloads m x as) :
    (x.performAll as).registry.Stacks m n (x.performAll as).host := by
  induction as generalizing x with
  | nil => exact s
  | cons a as ih =>
    have hstep := stacks_perform hne b s (ho [] List.nil_prefix) (ho [a] (by simp)) hm.1
    refine ih (bracketed_perform b a) hstep ?_ hm.2
    intro bs hbs
    exact ho (a :: bs) (List.cons_prefix_cons.2 ⟨rfl, hbs⟩)

/-- A plugin that stops tells nothing of connections and sessions. -/
theorem passages_finish (b : Bracketed x.registry x.loose x.attempts x.host) (u : Subject) :
    x.finish.passages m n u = (x.registry.unloadAll x.host).2.passages m n u := by
  have hquiet : ∀ (is : List PluginInstance) (h : Host), (∀ i ∈ is, i.isStopped = false) →
      (is.foldl (fun h i => i.stop h) h).passages m n u = h.passages m n u := by
    intro is
    induction is with
    | nil => exact fun _ _ => rfl
    | cons i is ih =>
      intro h hs
      refine (ih _ fun j hj => hs j (List.mem_cons_of_mem i hj)).trans ?_
      exact passages_quiet (i.cues_stop (hs i List.mem_cons_self) h) (by simp) m n u
  rw [finish, Registry.release_eq]
  exact hquiet _ _ fun i hi => b.lives.unstopped i (List.mem_append_right _ hi)

/-- Of two plugins of a registry, let the first stand before the second at some time, and let the first never be unloaded by name. Then
at all times what they were told of each connection and session nests, and those of the two that are in the registry are in for exactly
what is observed; in the end both are out. Whenever both are there and the plugins are unloaded or let go of, every call of the second
comes before every call of the first. -/
theorem visits_nest (d : Disk) (as : List PluginAction) {m n : Nat}
    (hboth : ∃ bs, bs <+: as ∧ [m, n].Sublist ((start d).performAll bs).registry.numbers) (hm : NeverUnloads m (start d) as) :
    (∀ bs, bs <+: as → ((start d).performAll bs).registry.Stacks m n ((start d).performAll bs).host) ∧
    (∀ u, Stacked (((start d).performAll as).finish.passages m n u) false false) ∧
    ∀ bs, bs <+: as → [m, n].Sublist ((start d).performAll bs).registry.numbers →
      ∀ h', (h' = (((start d).performAll bs).registry.unloadAll ((start d).performAll bs).host).2 ∨
          h' = ((start d).performAll bs).registry.release ((start d).performAll bs).host) →
        ∃ later earlier, h'.cues = ((start d).performAll bs).host.cues ++ (later ++ earlier) ∧
          (∀ c ∈ later, c.1 ≠ m) ∧ (∀ c ∈ earlier, c.1 ≠ n) ∧ (n, .stopped) ∈ later ∧ (m, .stopped) ∈ earlier := by
  have b₀ : Bracketed (start d).registry (start d).loose (start d).attempts (start d).host := Bracketed.empty rfl
  obtain ⟨bs₀, hbs₀, hboth⟩ := hboth
  have hne : m ≠ n := by
    have hd : ((start d).performAll bs₀).registry.numbers.Nodup := (bracketed_performAll b₀ bs₀).sound.keeps.distinct
    have hpair := hboth.nodup hd
    simpa using hpair
  have horder : ∀ bs, bs <+: as → Precedes m n ((start d).performAll bs).registry.numbers := fun bs hbs =>
    precedes_of_prefix b₀ hbs₀ hbs hboth hm
  have hstacks : ∀ bs, bs <+: as → ((start d).performAll bs).registry.Stacks m n ((start d).performAll bs).host := by
    intro bs hbs
    refine stacks_performAll hne b₀ (Registry.stacks_of_empty rfl fun u => .nil) bs (fun cs hcs => horder cs (hcs.trans hbs)) ?_
    obtain ⟨cs, rfl⟩ := hbs
    exact hm.of_append.1
  refine ⟨hstacks, ?_, ?_⟩
  · intro u
    have b := bracketed_performAll b₀ as
    have hrun : ∀ i ∈ ((start d).performAll as).registry.instances, i.isStopped = false := fun i hi =>
      b.lives.unstopped i (List.mem_append_left _ hi)
    rw [passages_finish b]
    exact (hstacks as List.prefix_rfl).unloadAll hne b.sound.keeps hrun (horder as List.prefix_rfl) u
  · intro bs hbs hs h' hh'
    have b := bracketed_performAll b₀ bs
    have hrun : ∀ i ∈ ((start d).performAll bs).registry.instances, i.isStopped = false := fun i hi =>
      b.lives.unstopped i (List.mem_append_left _ hi)
    have hout : h' = (((start d).performAll bs).registry.unloadAll ((start d).performAll bs).host).2 := by
      rw [Registry.release_eq, or_self] at hh'
      exact hh'
    rw [hout]
    exact Registry.cues_unloadAll_in_turn b.sound.keeps hrun hs

/-- Three plugins that run. -/
def threeWatchers : ModuleSource := .builtin (["first", "second", "third"].map fun name =>
  (name, { name, description := "", plugin := { start := fun around _ _ => (.ok {}, around.silence) } }))

/-- Connections come before the first plugin, between the first and the second, and after the second; another plugin that came between
the two is unloaded by name. -/
def layeredActions : List PluginAction :=
  let storage : DocumentStore := ⟨⟨"documents"⟩⟩
  let c (id : Nat) : Connection := { id, peer := { ip := .any .ipv4, port := 9 } }
  [.connectionAdded (c 1), .loadAll threeWatchers ["first", "third"] (fun _ => []) { storage }, .connectionAdded (c 2),
    .load threeWatchers "second" [] storage, .insert 3, .connectionAdded (c 3), .unload "third", .connectionRemoved (c 2)]

/-- The first plugin is number 1, the second number 3. Each connection goes in through the first and out through it. -/
theorem visits_nest_layered :
    ((start .empty).performAll layeredActions).registry.numbers = [1, 3] ∧ NeverUnloads 1 (start .empty) layeredActions ∧
    (∀ u, Stacked (((start .empty).performAll layeredActions).finish.passages 1 3 u) false false) ∧
    ((start .empty).performAll layeredActions).finish.passages 1 3 (.connection 2) = [.firstIn, .secondIn, .secondOut, .firstOut] := by
  have hnumbers : ((start .empty).performAll layeredActions).registry.numbers = [1, 3] := by decide +kernel
  have hunload : NeverUnloads 1 (start .empty) layeredActions := by
    refine ⟨trivial, trivial, trivial, trivial, trivial, trivial, ?_, trivial, trivial⟩
    intro i hi
    have hi : i ∈ (((start .empty).performAll (layeredActions.take 6)).registry.named? "third") := hi
    have hn : (((start .empty).performAll (layeredActions.take 6)).registry.named? "third").map (·.number) = some 2 := by
      decide +kernel
    have hnumber : i.number = 2 := by
      rw [Option.mem_def.1 hi] at hn
      exact Option.some.inj hn
    omega
  have hnest := visits_nest .empty layeredActions (m := 1) (n := 3)
    ⟨layeredActions, List.prefix_rfl, by simp [hnumbers]⟩ hunload
  exact ⟨hnumbers, hunload, hnest.2.1, by decide +kernel⟩

end PluginRun

end CoEdit
