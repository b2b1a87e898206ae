import CoEdit.Proofs.Server.Decision
import CoEdit.Proofs.Server.Numbering

/-!
# What a reload does to the endpoints

A reload that succeeds either leaves the endpoints where they are, or puts others in their place. It leaves them if the port is kept, and
then it does not touch the network at all (`Server.Stays`). Otherwise all that there were are closed, and for each family of the address
that can be bound and opened there is a new one, with a number that none ever had (`Server.Yields`). There is nothing in between
(`Server.Reached.endpoints_of_reload`).
-/

namespace CoEdit

/-! ## Closed listeners -/

namespace Network

/-- A listener was closed, and is neither bound nor open. -/
def IsClosed (n : Network) (i : Nat) : Prop :=
  ∃ s, n.state? i = some s ∧ s.isClosed = true ∧ s.isBound = false ∧ s.isOpen = false

/-- A listener that is closed stays so when another one, or the same one again, is closed. -/
theorem IsClosed.close {n : Network} {i : Nat} (h : n.IsClosed i) (l : Listener) : (n.close l).IsClosed i := by
  obtain ⟨s, hs, hc⟩ := h
  rw [IsClosed, Network.close, state?_change, hs]
  by_cases hi : l.number = i
  · exact ⟨closedState s, if_pos hi, rfl, rfl, rfl⟩
  · exact ⟨s, if_neg hi, hc⟩

/-- A listener that is there is closed by closing it. -/
theorem isClosed_close {n : Network} {l : Listener} {s : ListenerState} (hs : n.state? l.number = some s) :
    (n.close l).IsClosed l.number := by
  rw [IsClosed, Network.close, state?_change_self, hs]
  exact ⟨closedState s, rfl, rfl, rfl, rfl⟩

/-- Closing the endpoints of a pool closes the listener of each. -/
theorem isClosed_closeAll {p : Pool} {n : Network} (hp : ∀ e ∈ p, ∃ s, n.state? e.listener.number = some s) :
    ∀ e ∈ p, (p.closeAll n).IsClosed e.listener.number := by
  induction p generalizing n with
  | nil => simp
  | cons x p ih =>
    have hkept : ∀ e ∈ p, ∃ s, (n.close x.listener).state? e.listener.number = some s := by
      intro e he
      obtain ⟨s, hs⟩ := hp e (List.mem_cons_of_mem x he)
      rw [Network.close, state?_change, hs]
      split
      · exact ⟨_, rfl⟩
      · exact ⟨s, rfl⟩
    intro e he
    rcases List.mem_cons.1 he with rfl | he
    · obtain ⟨s, hs⟩ := hp e List.mem_cons_self
      exact List.foldlRecOn p (fun (m : Network) (y : Endpoint) => m.close y.listener)
        (motive := fun m => m.IsClosed e.listener.number) (isClosed_close hs) fun m hm y _ => hm.close y.listener
    · exact ih hkept e he

/-- The families that can be had on a port that is asked for are those that can be bound to it and opened on it. -/
theorem openable_of_ne_zero (n : Network) (address : Option IpAddress) {port : UInt16} (hp : port ≠ 0) :
    n.openable address port = ((IpAddress.families address).filter fun family =>
      (n.bindFault? address port family).isNone && !n.openFailures.contains (family, port)).map fun family => (family, port) := by
  have hgranted : ∀ next families, n.grants address port next families =
      (families.filter fun family => (n.bindFault? address port family).isNone).map fun family => (family, port) := by
    intro next families
    have hfamilies := n.families_grants address port next families
    rw [← hfamilies, List.map_map]
    refine (List.map_id _).symm.trans (List.map_congr_left fun x hx => ?_)
    exact Prod.ext rfl (n.grants_of_ne_zero address hp next families x hx)
  rw [openable, granted, hgranted, List.filter_map, List.filter_filter]
  simp only [Function.comp_def, Bool.and_comm]

end Network

namespace Server

variable {s s' : Server} {h h' h₀ : Host} {engine engine' : ReloadEngine} {source : ConfigSource} {summary : ReloadSummary}
  {admitted : Config → Prop} {allowed : ServerAction → Prop}

/-! ## Numbers -/

/-- Only reloads hand out numbers of endpoints and of parameters for TLS. -/
theorem nextNumbers_perform (s : Server) (h : Host) {a : ServerAction} (ha : ∀ engine source, a ≠ .reload engine source) :
    (s.perform h a).2.nextEndpoint = h.nextEndpoint ∧ (s.perform h a).2.nextSerial = h.nextSerial := by
  have hattends : ∀ {h' : Host}, h.Attends h' → h'.nextEndpoint = h.nextEndpoint ∧ h'.nextSerial = h.nextSerial :=
    fun t => ⟨t.nextEndpoint, t.nextSerial⟩
  cases a with
  | reload engine source => exact absurd rfl (ha engine source)
  | shutdown =>
    have hleft := s.registry.attends_unloadAll h
    exact ⟨hleft.nextEndpoint, hleft.nextSerial⟩
  | addConnection c =>
    rw [perform]
    cases hc : s.directory.connections.contains c.id with
    | true => rw [addConnection_refused s h hc]; exact ⟨rfl, rfl⟩
    | false => rw [addConnection_accepted s h hc]; exact hattends (Registry.attends_connectionAdded _ _ _)
  | removeConnection id =>
    rw [perform]
    cases hc : s.directory.connection? id with
    | none => rw [removeConnection_unknown s h hc]; exact ⟨rfl, rfl⟩
    | some c => rw [removeConnection_known s h hc]; exact hattends (Registry.attends_connectionRemoved _ _ _)
  | addSession x =>
    rw [perform]
    cases hx : s.directory.sessions.contains x.id with
    | true => rw [addSession_refused s h hx]; exact ⟨rfl, rfl⟩
    | false => rw [addSession_accepted s h hx]; exact hattends (Registry.attends_sessionAdded _ _ _)
  | removeSession id =>
    rw [perform]
    cases hx : s.directory.session? id with
    | none => rw [removeSession_unknown s h hx]; exact ⟨rfl, rfl⟩
    | some x => rw [removeSession_known s h hx]; exact hattends (Registry.attends_sessionRemoved _ _ _)
  | beginAuthentication id => exact ⟨rfl, rfl⟩
  | completeAuthentication id password => exact ⟨rfl, rfl⟩
  | editDirectory f => exact ⟨rfl, rfl⟩
  | circumstances w => exact ⟨rfl, rfl⟩

/-- Every action leads onward. -/
theorem onward_perform (s : Server) (h : Host) (a : ServerAction) : s.Onward h (s.perform h a).1 (s.perform h a).2 := by
  rcases s.perform_cases h a with ⟨engine, source, rfl⟩ | rfl | ⟨-, hp, -⟩
  · exact (onward_reload engine s h source).1
  · obtain ⟨hn, -⟩ := s.nextNumbers_perform h (a := .shutdown) (by simp)
    exact ⟨Nat.le_of_eq hn.symm, fun n hm => absurd hm List.not_mem_nil⟩
  · by_cases ha : ∃ engine source, a = .reload engine source
    · obtain ⟨engine, source, rfl⟩ := ha
      exact (onward_reload engine s h source).1
    · obtain ⟨hn, -⟩ := s.nextNumbers_perform h (a := a) fun engine source he => ha ⟨engine, source, he⟩
      exact .of_pool_eq hp hn

theorem onward_performAll (s : Server) (h : Host) (as : List ServerAction) :
    s.Onward h (s.performAll h as).1 (s.performAll h as).2 := by
  induction as generalizing s h with
  | nil => exact .of_pool_eq rfl rfl
  | cons a as ih => exact (s.onward_perform h a).trans (ih _ _)

/-- Along a run the numbers of the endpoints were handed out. -/
theorem Reached.numbered (hr : Reached admitted allowed h₀ s h) : s.Numbered h := by
  induction hr with
  | start _ hs => exact numbered_start hs
  | step _ a _ ih => exact (onward_perform _ _ a).numbered ih

/-! ## Acquiring -/

/-- A configuration that is loaded is that of the source. -/
theorem load_of_loadConfig {c : Config} (hl : loadConfig source h = (.ok c, h')) :
    (source.load h.environment h.disk).2 = .ok c := by
  have hfst := congrArg Prod.fst hl
  unfold loadConfig at hfst
  dsimp only at hfst
  generalize (source.load h.environment h.disk).2 = r at hfst ⊢
  cases r <;> cases hfst
  rfl

/-- Listeners are acquired exactly if the port is not kept, and if none are, the network is as it was. -/
theorem acquire_listeners {a : Acquisition} (ha : s.acquire h source = (.ok a, h')) :
    (a.listeners.isSome = true ↔ ¬s.KeepsPort h a.snapshot.config) ∧ (a.listeners = none → h'.network = h.network) := by
  obtain ⟨h₁, current, hn, -, hport, hf⟩ := acquire_network ha
  obtain ⟨-, bound, h₂, hb, -, ho⟩ := acquireFor_ok hf
  rw [← portChanges_iff hport a.snapshot]
  generalize a.listeners = listeners at ho ⊢
  unfold bindCandidate at hb
  split at hb
  · rename_i hchanges
    generalize bindListeners h₁ a.snapshot.listenAddress a.snapshot.port = x at hb
    obtain ⟨_ | bound', h₂'⟩ := x <;> cases hb
    rw [openCandidate] at ho
    generalize openListeners h₂ bound' = y at ho
    obtain ⟨_ | opened, h₃⟩ := y <;> cases ho
    exact ⟨iff_of_true rfl hchanges, fun hnone => absurd hnone (Option.some_ne_none _)⟩
  · rename_i hkept
    cases hb
    cases ho
    exact ⟨iff_of_false Bool.false_ne_true hkept, fun _ => hn⟩

/-! ## Reloads -/

/-- The endpoints are the ones there were, open as before, and the network was not touched. -/
structure Stays (s : Server) (h : Host) (s' : Server) (h' : Host) : Prop where
  network : h'.network = h.network
  endpoints : s'.pool.map (fun e => (e.number, e.listener)) = s.pool.map fun e => (e.number, e.listener)
  ports : s'.ports h' = s.ports h
  isOpen : ∀ e ∈ s'.pool, h'.network.isOpen e.listener = true

/-- The endpoints there were are closed and gone. In their place there is one for each family of the address that the network lets be
bound to the port and opened on it, the sixth version first, with a number that was not handed out before. -/
structure Yields (s : Server) (h : Host) (s' : Server) (h' : Host) : Prop where
  closed : ∀ e ∈ s.pool, h'.network.IsClosed e.listener.number ∧ e.number ∉ s'.pool.numbers
  ports : s'.ports h' = (h.network.openable s'.snapshot.listenAddress s'.snapshot.port).map Network.onPort
  onPort : s'.snapshot.port ≠ 0 → s'.ports h' = ((IpAddress.families s'.snapshot.listenAddress).filter fun family =>
    (h.network.bindFault? s'.snapshot.listenAddress s'.snapshot.port family).isNone &&
      !h.network.openFailures.contains (family, s'.snapshot.port)).map fun family => (family, some s'.snapshot.port)
  families : (s'.pool.map (·.family)).Sublist (IpAddress.families s'.snapshot.listenAddress)
  isOpen : ∀ e ∈ s'.pool, h'.network.isOpen e.listener = true
  fresh : s'.pool.numbers.Nodup ∧ ∀ n ∈ s'.pool.numbers, h.nextEndpoint ≤ n

/-- A server that takes over a configuration without listeners stays where it is. -/
theorem stays_commit (t : s.Tends h₀.network h) {a : Acquisition} (hl : a.listeners = none) (hn : h'.network = h.network) :
    s.Stays h (s.commit h' a).2.1 (s.commit h' a).2.2 := by
  have hnetwork : (s.commit h' a).2.2.network = h.network := by
    rw [network_commit, renewPool, hl]
    exact hn
  have hpool : (s.commit h' a).2.1.pool = (s.pool.secured a.snapshot.policy a.snapshot.credentials).withContext a.snapshot.context := by
    show (s.renewPool h' a).1.withContext _ = _
    rw [renewPool, hl]
  have hendpoints : (s.commit h' a).2.1.pool.map (fun e => (e.number, e.listener)) = s.pool.map fun e => (e.number, e.listener) := by
    rw [hpool, Pool.withContext, Pool.secured, List.map_map, List.map_map]
    rfl
  have hlisteners : (s.commit h' a).2.1.pool.listeners = s.pool.listeners := by
    rw [hpool, Pool.listeners_withContext, Pool.listeners_secured]
  refine ⟨hnetwork, hendpoints, ?_, ?_⟩
  · rw [ports, ports, hnetwork, hlisteners]
  · intro e he
    rw [hnetwork]
    exact t.isOpen _ (hlisteners ▸ Pool.mem_listeners _ he)

/-- A server that takes over a configuration with listeners yields to them. -/
theorem yields_commit (t : s.Tends h₀.network h) (hs : s.Numbered h) {a : Acquisition} {ls : List Listener}
    (ha : s.acquire h source = (.ok a, h')) (hl : a.listeners = some ls) : s.Yields h (s.commit h' a).2.1 (s.commit h' a).2.2 := by
  obtain ⟨hc, hh, hopen⟩ := acquire_holds ha
  simp only [Except.map, held_ok] at hh hopen
  obtain ⟨-, hsome, -⟩ := acquire_ports ha
  obtain ⟨-, hopened⟩ := hsome ls hl
  have hports := ports_commit t hh
  rw [hl] at hports
  dsimp only at hports
  rw [sixthFirst_of_families (Network.families_of_ports hopened), hopened] at hports
  have hnumbers : (s.commit h' a).2.1.pool.numbers = List.range' h.nextEndpoint (sixthFirst ls).length := by
    have hpool := s.numbers_commit h' a
    rw [hl, hc.nextEndpoint] at hpool
    exact hpool
  have hfresh : ∀ n ∈ (s.commit h' a).2.1.pool.numbers, h.nextEndpoint ≤ n := by
    rw [hnumbers]
    exact fun n hm => (List.mem_range'_1.1 hm).1
  have hfamilies := Network.families_of_ports hports
  rw [Pool.listeners, List.map_map] at hfamilies
  refine ⟨?_, hports, ?_, hfamilies, fun e he => (t.commit hh hopen).isOpen _ (Pool.mem_listeners _ he),
    hnumbers ▸ List.nodup_range', hfresh⟩
  · have hnetwork : (s.commit h' a).2.2.network = s.pool.closeAll h'.network := by
      rw [network_commit, renewPool, hl, Pool.network_addListeners]
    have hthere : ∀ e ∈ s.pool, ∃ st, h'.network.state? e.listener.number = some st := by
      intro e he
      have hm := Pool.mem_listeners s.pool he
      obtain ⟨st, hst, -⟩ := t.holds.bound _ hm
      exact ⟨st, (t.state?_eq hh hm).trans hst⟩
    intro e he
    refine ⟨?_, fun hm => ?_⟩
    · rw [hnetwork]
      exact Network.isClosed_closeAll hthere e he
    · exact Nat.not_le_of_lt (hs _ (List.mem_map_of_mem he)) (hfresh _ hm)
  · intro hp
    refine hports.trans ?_
    have hp : a.snapshot.port ≠ 0 := hp
    rw [h.network.openable_of_ne_zero a.snapshot.listenAddress hp, List.map_map]
    rfl

/-- What a reload that succeeds tells of the endpoints, and where it leads. -/
theorem commit_of_reload (he : engine.reload s h source = (.ok summary, engine', s', h')) :
    ∃ a g, s.acquire h source = (.ok a, g) ∧ (s.commit g a).1.listenersReplaced = summary.listenersReplaced ∧
      s' = (s.commit g a).2.1 ∧ h' = (s.commit g a).2.2 := by
  obtain ⟨a, g, ha, hc⟩ := reload_ok he
  refine ⟨a, g, ha, ?_⟩
  rw [hc]
  exact ⟨rfl, rfl, rfl⟩

/-- A reload that succeeds runs on the configuration of its source. If that keeps the port, the endpoints are the ones there were, on
the ports they had, and the network was not asked for anything. If it does not, those endpoints are closed and gone, and there is one
for each family that could be bound and opened, the sixth version first, with a number that no endpoint had at any time before. The
summary tells which of the two it was. -/
theorem Reached.endpoints_of_reload (hr : Reached admitted allowed h₀ s h)
    (he : engine.reload s h source = (.ok summary, engine', s', h')) :
    (source.load h.environment h.disk).2 = .ok s'.snapshot.config ∧
    (s.KeepsPort h s'.snapshot.config → summary.listenersReplaced = false ∧ s.Stays h s' h') ∧
    (¬s.KeepsPort h s'.snapshot.config → summary.listenersReplaced = true ∧ s.Yields h s' h' ∧
      ∀ s₁ h₁ as, Reached admitted allowed h₀ s₁ h₁ → s₁.performAll h₁ as = (s, h) → ∀ n ∈ s'.pool.numbers, n ∉ s₁.pool.numbers) := by
  obtain ⟨a, g, ha, hsummary, rfl, rfl⟩ := commit_of_reload he
  obtain ⟨hreplaced, hquiet⟩ := acquire_listeners ha
  have hloaded : (source.load h.environment h.disk).2 = .ok a.snapshot.config := by
    obtain ⟨c, h₁, h₂, current, hl, hp, -⟩ := acquire_ok ha
    obtain ⟨rfl, -⟩ := Snapshot.prepare_ok hp
    exact load_of_loadConfig hl
  have hreport : summary.listenersReplaced = a.listeners.isSome := hsummary.symm
  refine ⟨hloaded, ?_, ?_⟩
  · intro hk
    have hl : a.listeners = none := Option.not_isSome_iff_eq_none.1 fun hsome => hreplaced.1 hsome hk
    exact ⟨hreport.trans (congrArg Option.isSome hl), stays_commit hr.tends hl (hquiet hl)⟩
  · intro hk
    obtain ⟨ls, hl⟩ := Option.isSome_iff_exists.1 (hreplaced.2 hk)
    have hy := yields_commit hr.tends hr.numbered ha hl
    refine ⟨hreport.trans (congrArg Option.isSome hl), hy, ?_⟩
    intro s₁ h₁ as hr₁ has n hn hm
    have hle := (s₁.onward_performAll h₁ as).nextEndpoint
    rw [has] at hle
    exact absurd (hr₁.numbered n hm) (Nat.not_lt_of_le (Nat.le_trans hle (hy.fresh.2 n hn)))

/-- The plain server is told to use another port, of which it gets the fourth version only. Both endpoints that it had are closed, and
the one that it has then is on that port, under the next number. -/
theorem endpoints_of_reload_alone : ∃ s h s' h', Reached (fun _ => True) (fun _ => True) .blank s h ∧ s.pool.length = 2 ∧
    (∃ summary engine', ReloadEngine.reload {} s h ReloadEngine.elsewhere = (.ok summary, engine', s', h') ∧
      summary.listenersReplaced = true) ∧
    (∀ e ∈ s.pool, h'.network.IsClosed e.listener.number) ∧ s'.ports h' = [(.ipv4, some 7000)] := by
  let half : Circumstances :=
    { disk := .empty, environment := [], clock := 0, bindFailures := [(.ipv6, 7000)], openFailures := [] }
  have hrun : plainStart.1.toOption.map (fun s =>
      let x := ReloadEngine.reload {} s (plainStart.2.under half) ReloadEngine.elsewhere
      ((s.pool.length, x.1.isOk, decide (s.KeepsPort (plainStart.2.under half) x.2.2.1.snapshot.config)),
        x.2.2.1.ports x.2.2.2)) = some ((2, true, false), [(.ipv4, some 7000)]) := by
    decide +kernel
  obtain ⟨s, h, hs⟩ := plainStart_ok
  rw [hs] at hrun
  simp only [Except.toOption, Option.map_some, Option.some.injEq, Prod.mk.injEq] at hrun
  obtain ⟨⟨htwo, hok, hchanges⟩, hports⟩ := hrun
  have hr : Reached (fun _ => True) (fun _ => True) .blank s (h.under half) :=
    .step (.start trivial hs) (.circumstances half) trivial
  cases hl : ReloadEngine.reload {} s (h.under half) ReloadEngine.elsewhere with
  | mk r x =>
    obtain ⟨engine', s', h'⟩ := x
    rw [hl] at hok hchanges hports
    cases r with
    | error e => cases hok
    | ok summary =>
      obtain ⟨-, -, hyields⟩ := Reached.endpoints_of_reload hr hl
      obtain ⟨htold, hy, -⟩ := hyields (of_decide_eq_false hchanges)
      exact ⟨s, h.under half, s', h', hr, htwo, ⟨summary, engine', hl, htold⟩, fun e he => (hy.closed e he).1, hports⟩

end Server
end CoEdit
