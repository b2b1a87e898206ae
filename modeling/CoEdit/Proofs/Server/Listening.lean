import CoEdit.Proofs.Server.Run

/-!
# A server and its listeners

Of the listeners made since a run began, those of the endpoints are bound and open, and no other is bound: `Server.Tends` says this,
and `Server.Reached.tends` that it holds along every run.
-/

namespace CoEdit
namespace Server

/-- Since `n₀` the listeners of the endpoints are all that is held, and they are open. -/
structure Tends (n₀ : Network) (s : Server) (h : Host) : Prop where
  holds : n₀.Holds h.network s.pool.listeners
  isOpen : ∀ l ∈ s.pool.listeners, h.network.isOpen l = true

variable {n₀ : Network} {s s' : Server} {h h' : Host}

/-- A server tends its listeners as long as they and the network are the same. -/
theorem Tends.congr (t : s.Tends n₀ h) (hp : s'.pool.listeners = s.pool.listeners)
    (hn : h'.network.listeners = h.network.listeners) : s'.Tends n₀ h' := by
  refine ⟨hp ▸ t.holds.congr hn, ?_⟩
  intro l hl
  have hs : h'.network.state? l.number = h.network.state? l.number := by rw [Network.state?, Network.state?, hn]
  rw [Network.isOpen_congr hs]
  exact t.isOpen l (hp ▸ hl)

/-- What happens to listeners that are made later does not concern those that a server tends. -/
theorem Tends.state?_eq (t : s.Tends n₀ h) {ls : List Listener} (hh : h.network.Holds h'.network ls) {l : Listener}
    (hl : l ∈ s.pool.listeners) : h'.network.state? l.number = h.network.state? l.number :=
  hh.earlier _ (t.holds.lt_length hl)

/-- A server that tends some listener has a port. -/
theorem Tends.exists_port (t : s.Tends n₀ h) (hp : s.pool ≠ []) : ∃ port, s.port? h = some port := by
  obtain ⟨e, he, hlead⟩ := Pool.exists_leading s.pool hp
  obtain ⟨st, hs, hb⟩ := t.holds.bound _ (Pool.mem_listeners s.pool he)
  exact ⟨st.port, by simp [port?, Pool.port?, hlead, Network.port?, hs, hb]⟩

/-- A server tends its listeners once it is ready. -/
theorem tends_establish {c : Config} {dir : Directory} {options : ServerOptions} {report : LoadReport}
    (hs : establish c dir options h = (.ok (report, s), h')) : s.Tends h.network h' := by
  obtain ⟨snapshot, h₁, bound, h₂, storage, opened, h₃, hp, hb, -, ho, ha⟩ := establish_ok hs
  obtain ⟨-, hn⟩ := Snapshot.prepare_calm hp
  obtain ⟨-, hh⟩ := bindListeners_holds hb
  obtain ⟨-, hh', hopen⟩ := openListeners_holds hh ho
  have hnet := network_assemble snapshot opened storage dir options h₃
  have hpool : (assemble snapshot opened storage dir options h₃).2.1.pool.listeners = opened :=
    (Pool.listeners_withContext _ _).trans (Pool.listeners_addListeners _ _ _ _ _ _)
  rw [ha] at hnet hpool
  dsimp only at hnet hpool
  constructor
  · rw [hnet, hpool, ← hn]
    exact hh'
  · intro l hl
    rw [hnet]
    exact hopen l (hpool ▸ hl)

/-- A server tends its listeners from the start. -/
theorem tends_start {c : Config} {dir : Directory} {options : ServerOptions} (hs : startWith c dir options h = (.ok s, h')) :
    s.Tends h.network h' := by
  obtain ⟨report, he⟩ := establish_of_startWith hs
  exact tends_establish he

/-- The listeners after a reload are those that were acquired, those of the sixth version first, or else the ones there were. -/
theorem listeners_commit (s : Server) (h : Host) (a : Acquisition) :
    (s.commit h a).2.1.pool.listeners = (a.listeners.map sixthFirst).getD s.pool.listeners := by
  refine (Pool.listeners_withContext (s.renewPool h a).1 a.snapshot.context).trans ?_
  unfold renewPool
  cases a.listeners with
  | none => exact Pool.listeners_secured _ _ _
  | some ls => exact (Pool.listeners_addListeners _ _ _ _ _ _).trans (List.nil_append _)

/-- Nothing becomes of the listeners that a server has after a reload while it takes over what it acquired. -/
theorem Tends.state?_commit (t : s.Tends n₀ h) {a : Acquisition} (hh : h.network.Holds h'.network (a.listeners.getD []))
    {l : Listener} (hl : l ∈ (s.commit h' a).2.1.pool.listeners) : (s.commit h' a).2.2.network.state? l.number = h'.network.state? l.number := by
  rw [network_commit]
  rw [listeners_commit] at hl
  unfold renewPool
  cases hls : a.listeners with
  | none => rfl
  | some ls =>
    rw [hls, Option.map_some, Option.getD_some, (sixthFirst_perm ls).mem_iff] at hl
    have hall := t.holds.trans hh
    rw [hls, Option.getD_some] at hall
    have hd := hall.distinct
    rw [List.map_append, List.nodup_append] at hd
    have hne : l.number ∉ s.pool.listeners.map (·.number) := fun hm => hd.2.2 _ hm _ (List.mem_map_of_mem hl) rfl
    dsimp only
    rw [Pool.network_addListeners]
    exact Pool.state?_closeAll _ _ hne

/-- A server that takes over what it acquired tends the listeners it has then. -/
theorem Tends.commit (t : s.Tends n₀ h) {a : Acquisition} (hh : h.network.Holds h'.network (a.listeners.getD []))
    (hopen : ∀ l ∈ a.listeners.getD [], h'.network.isOpen l = true) :
    (s.commit h' a).2.1.Tends n₀ (s.commit h' a).2.2 := by
  have hall := t.holds.trans hh
  have hls := listeners_commit s h' a
  constructor
  · rw [hls, network_commit]
    unfold renewPool
    cases hl : a.listeners with
    | none =>
      rw [hl, Option.getD_none, List.append_nil] at hall
      exact hall
    | some ls =>
      rw [hl, Option.getD_some] at hall
      dsimp only
      rw [Pool.network_addListeners]
      exact (Pool.holds_closeAll s.pool hall).perm (sixthFirst_perm ls).symm
  · intro l hm
    rw [Network.isOpen_congr (t.state?_commit hh hm)]
    rw [hls] at hm
    cases hl : a.listeners with
    | none =>
      rw [hl] at hm
      rw [Network.isOpen_congr (t.state?_eq hh hm)]
      exact t.isOpen l hm
    | some ls =>
      rw [hl] at hm hopen
      exact hopen l ((sixthFirst_perm ls).mem_iff.1 hm)

/-- A server that was shut down has no listeners left. -/
theorem Tends.shutdown (t : s.Tends n₀ h) : (s.shutdown h).1.Tends n₀ (s.shutdown h).2 := by
  have hn : (s.registry.unloadAll h).2.network = h.network := (s.registry.attends_unloadAll h).network
  have hh : n₀.Holds (s.registry.unloadAll h).2.network (s.pool.listeners ++ []) := by
    rw [hn, List.append_nil]
    exact t.holds
  exact ⟨Pool.holds_closeAll s.pool hh, by simp [Server.shutdown]⟩

/-- A server tends its listeners through a reload, whether it is refused or not. -/
theorem Tends.reload (t : s.Tends n₀ h) (engine : ReloadEngine) (source : ConfigSource) :
    (engine.reload s h source).2.2.1.Tends n₀ (engine.reload s h source).2.2.2 := by
  rcases reload_cases engine s h source with ⟨a, h₁, ha, he⟩ | ⟨r, h₁, entry, ha, he⟩
  · obtain ⟨-, hh, hopen⟩ := acquire_holds ha
    simp only [Except.map, held_ok] at hh hopen
    rw [he]
    exact t.commit hh hopen
  · obtain ⟨-, hh, -⟩ := acquire_holds ha
    have hall := t.holds.trans hh
    simp only [Except.map, held_error, List.append_nil] at hall
    rw [he]
    refine ⟨hall, ?_⟩
    intro l hl
    rw [Host.network_log, Network.isOpen_congr (t.state?_eq hh hl)]
    exact t.isOpen l hl

/-- A server tends its listeners through every action. -/
theorem Tends.perform (t : s.Tends n₀ h) (a : ServerAction) : (s.perform h a).1.Tends n₀ (s.perform h a).2 := by
  rcases s.perform_cases h a with ⟨engine, source, rfl⟩ | rfl | ⟨-, hp, hn⟩
  · exact t.reload engine source
  · exact t.shutdown
  · exact t.congr (congrArg Pool.listeners hp) hn

theorem Tends.performAll (t : s.Tends n₀ h) (as : List ServerAction) : (s.performAll h as).1.Tends n₀ (s.performAll h as).2 := by
  induction as generalizing s h with
  | nil => exact t
  | cons a as ih => exact ih (t.perform a)

/-- Along a run a server tends its listeners. -/
theorem Reached.tends {admitted : Config → Prop} {allowed : ServerAction → Prop} {h₀ : Host}
    (hr : Reached admitted allowed h₀ s h) : s.Tends h₀.network h := by
  induction hr with
  | start _ hs => exact tends_start hs
  | step _ a _ ih => exact ih.perform a

end Server
end CoEdit
