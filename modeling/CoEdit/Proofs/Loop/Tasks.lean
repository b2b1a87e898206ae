import CoEdit.Proofs.Loop.Visitors
import Mathlib.Data.List.Nodup

/-!
# Who accepts

Tasks accept connections for the endpoints, and reloads change the endpoints. `ServerLoop.Turn` says what an event does to the pool, the
tasks and the source: most events do nothing to them, a reload that succeeds brings the tasks in line with the pool, and a shutdown cancels
them all. So the tasks follow the pool along every run (`ServerLoop.Follows`), and what becomes of a task is decided by its endpoint alone
(`ServerLoop.Succeeds`). `ServerLoop.tasks_of_start` puts this together for every run of a server that was started.
-/

namespace CoEdit

/-- The numbers of the endpoints are still distinct after a reload. -/
theorem Server.nodup_numbers_reload (engine : ReloadEngine) {s : Server} (hs : s.pool.numbers.Nodup) (h : Host) (source : ConfigSource) :
    (engine.reload s h source).2.2.1.pool.numbers.Nodup := by
  rcases reload_cases engine s h source with ⟨a, h', -, he⟩ | ⟨r, h', entry, -, he⟩
  · rw [he, numbers_commit]
    cases a.listeners with
    | none => exact hs
    | some ls => exact List.nodup_range'
  · rw [he]
    exact hs

/-- The numbers of the endpoints of a server that was started are distinct. -/
theorem Server.nodup_numbers_start {c : Config} {dir : Directory} {options : ServerOptions} {s : Server} {h h' : Host}
    (hs : startWith c dir options h = (.ok s, h')) : s.pool.numbers.Nodup := by
  obtain ⟨snapshot, h₁, bound, h₂, storage, opened, h₃, -, -, -, -, he⟩ := startWith_ok hs
  have hnodup : (assemble snapshot opened storage dir options h₃).2.1.pool.numbers.Nodup := by
    show ((Pool.addListeners [] h₃ snapshot.policy snapshot.credentials snapshot.context opened).1.withContext
        snapshot.context).numbers.Nodup
    rw [Pool.numbers_withContext, Pool.numbers_addListeners]
    exact List.nodup_range'
  rw [he] at hnodup
  exact hnodup

namespace ServerLoop

variable {l l' l'' : ServerLoop} {h h' h'' : Host} {n : Network}

/-! ## Bringing the tasks in line -/

/-- The tasks whose endpoints are in the pool. -/
def kept (l : ServerLoop) : List AcceptTask := l.accepting.filter fun t => l.server.pool.numbers.contains t.endpoint

/-- The tasks whose endpoints have left the pool. -/
def left (l : ServerLoop) : List AcceptTask := l.accepting.filter fun t => !l.server.pool.numbers.contains t.endpoint

/-- The tasks that are started for the endpoints that have none. -/
def fresh (l : ServerLoop) (n : Network) : List AcceptTask :=
  ((l.unserved n l.kept).zipIdx l.nextTask).map fun (e, number) => { number, endpoint := e.number }

theorem syncTasks_eq (l : ServerLoop) (n : Network) : l.syncTasks n =
    { l with accepting := l.kept ++ l.fresh n, cancelled := l.cancelled ++ l.left, nextTask := l.nextTask + (l.fresh n).length } := by
  unfold syncTasks
  dsimp only
  rw [List.partition_eq_filter_filter]
  rfl

theorem endpoints_fresh (l : ServerLoop) (n : Network) : (l.fresh n).map (·.endpoint) = (l.unserved n l.kept).numbers := by
  have hfst : ((l.unserved n l.kept).zipIdx l.nextTask).map Prod.fst = l.unserved n l.kept := List.zipIdx_map_fst _ _
  rw [fresh, List.map_map]
  show ((l.unserved n l.kept).zipIdx l.nextTask).map (Endpoint.number ∘ Prod.fst) = _
  rw [← List.map_map, hfst]
  rfl

theorem numbers_fresh (l : ServerLoop) (n : Network) :
    (l.fresh n).map (·.number) = List.range' l.nextTask (l.fresh n).length := by
  have hsnd : ((l.unserved n l.kept).zipIdx l.nextTask).map Prod.snd = List.range' l.nextTask (l.unserved n l.kept).length :=
    List.zipIdx_map_snd _ _
  rw [fresh, List.map_map, List.length_map, List.length_zipIdx, ← hsnd]
  rfl

theorem mem_kept {t : AcceptTask} : t ∈ l.kept ↔ t ∈ l.accepting ∧ t.endpoint ∈ l.server.pool.numbers := by
  simp [kept]

theorem mem_left {t : AcceptTask} : t ∈ l.left ↔ t ∈ l.accepting ∧ t.endpoint ∉ l.server.pool.numbers := by
  simp [left]

/-- An endpoint gets a task if connections can be taken from it and no task is kept for it. -/
theorem mem_unserved {e : Endpoint} :
    e ∈ l.unserved n l.kept ↔ e ∈ l.server.pool ∧ n.canAccept e.listener = true ∧ e.number ∉ l.kept.map (·.endpoint) := by
  simp [unserved]

theorem pool_of_fresh {t : AcceptTask} (ht : t ∈ l.fresh n) :
    t.endpoint ∈ l.server.pool.numbers ∧ t.endpoint ∉ l.kept.map (·.endpoint) := by
  have hmem : t.endpoint ∈ (l.unserved n l.kept).numbers := endpoints_fresh l n ▸ List.mem_map_of_mem ht
  obtain ⟨e, he, hte⟩ := List.mem_map.1 hmem
  obtain ⟨hpool, -, hkept⟩ := mem_unserved.1 he
  exact hte ▸ ⟨List.mem_map_of_mem hpool, hkept⟩

theorem number_of_fresh {t : AcceptTask} (ht : t ∈ l.fresh n) :
    l.nextTask ≤ t.number ∧ t.number < l.nextTask + (l.fresh n).length := by
  have hmem : t.number ∈ (l.fresh n).map (·.number) := List.mem_map_of_mem ht
  rw [numbers_fresh] at hmem
  exact List.mem_range'_1.1 hmem

/-- The tasks after they were brought in line are those there were and the fresh ones. -/
theorem tasks_perm (l : ServerLoop) (n : Network) :
    ((l.kept ++ l.fresh n) ++ (l.cancelled ++ l.left)).Perm ((l.accepting ++ l.cancelled) ++ l.fresh n) := by
  have hsplit : (l.kept ++ l.left).Perm l.accepting := List.filter_append_perm _ _
  refine List.perm_iff_count.2 fun t => ?_
  have hcount := hsplit.count_eq t
  simp only [List.count_append] at hcount ⊢
  omega

/-- All tasks belong to endpoints of the pool. -/
theorem live_syncTasks (l : ServerLoop) (n : Network) : ∀ t ∈ (l.syncTasks n).accepting, t.endpoint ∈ l.server.pool.numbers := by
  rw [syncTasks_eq]
  intro t ht
  rcases List.mem_append.1 ht with ht | ht
  · exact (mem_kept.1 ht).2
  · exact (pool_of_fresh ht).1

/-- All endpoints that connections can be taken from have a task. -/
def Serves (l : ServerLoop) (n : Network) : Prop :=
  ∀ e ∈ l.server.pool, n.canAccept e.listener = true → ∃ t ∈ l.accepting, t.endpoint = e.number

theorem serves_syncTasks (l : ServerLoop) (n : Network) : (l.syncTasks n).Serves n := by
  rw [syncTasks_eq]
  intro e he hcan
  by_cases hkept : e.number ∈ l.kept.map (·.endpoint)
  · obtain ⟨t, ht, hte⟩ := List.mem_map.1 hkept
    exact ⟨t, List.mem_append_left _ ht, hte⟩
  · have hfresh : e.number ∈ (l.fresh n).map (·.endpoint) := by
      rw [endpoints_fresh]
      exact List.mem_map_of_mem (mem_unserved.2 ⟨he, hcan, hkept⟩)
    obtain ⟨t, ht, hte⟩ := List.mem_map.1 hfresh
    exact ⟨t, List.mem_append_right _ ht, hte⟩

/-- No endpoint has two tasks, and no two tasks, cancelled ones among them, ever had the same number. -/
structure Apart (l : ServerLoop) : Prop where
  single : (l.accepting.map (·.endpoint)).Nodup
  distinct : ((l.accepting ++ l.cancelled).map (·.number)).Nodup
  given : ∀ t ∈ l.accepting ++ l.cancelled, t.number < l.nextTask

theorem Apart.syncTasks (a : l.Apart) (hp : l.server.pool.numbers.Nodup) (n : Network) : (l.syncTasks n).Apart := by
  have hperm := tasks_perm l n
  rw [syncTasks_eq]
  refine ⟨?_, ?_, ?_⟩
  · show ((l.kept ++ l.fresh n).map (·.endpoint)).Nodup
    rw [List.map_append, List.nodup_append]
    refine ⟨a.single.sublist (List.filter_sublist.map _), ?_, ?_⟩
    · rw [endpoints_fresh]
      exact hp.sublist (List.filter_sublist.map _)
    · rintro x hx y hy rfl
      obtain ⟨t, ht, rfl⟩ := List.mem_map.1 hy
      exact (pool_of_fresh ht).2 hx
  · refine ((hperm.map (·.number)).nodup_iff).2 ?_
    rw [List.map_append, List.nodup_append]
    refine ⟨a.distinct, ?_, ?_⟩
    · rw [numbers_fresh]
      exact List.nodup_range'
    · -- Fresh tasks have the numbers that come next.
      rintro x hx y hy rfl
      obtain ⟨t, ht, rfl⟩ := List.mem_map.1 hx
      obtain ⟨u, hu, he⟩ := List.mem_map.1 hy
      exact Nat.lt_irrefl _ (Nat.lt_of_lt_of_le (he ▸ a.given t ht) (number_of_fresh hu).1)
  · intro t ht
    rcases List.mem_append.1 (hperm.mem_iff.1 ht) with ht | ht
    · exact Nat.lt_of_lt_of_le (a.given t ht) (Nat.le_add_right _ _)
    · exact (number_of_fresh ht).2

/-! ## Tasks that follow the pool -/

/-- The tasks follow the pool: each belongs to an endpoint of the pool, and the endpoints of those that were cancelled are gone for
good. -/
structure Follows (l : ServerLoop) (h : Host) : Prop where
  numbered : l.server.Numbered h
  endpoints : l.server.pool.numbers.Nodup
  apart : l.Apart
  live : ∀ t ∈ l.accepting, t.endpoint ∈ l.server.pool.numbers
  gone : ∀ t ∈ l.cancelled, t.endpoint ∉ l.server.pool.numbers ∧ t.endpoint < h.nextEndpoint

/-- What becomes of tasks is decided by their endpoints: those whose endpoints are still there go on, and the others are cancelled. -/
structure Succeeds (l : ServerLoop) (h : Host) (l' : ServerLoop) (h' : Host) : Prop where
  onward : l.server.Onward h l'.server h'
  goesOn : ∀ t ∈ l.accepting, t.endpoint ∈ l'.server.pool.numbers → t ∈ l'.accepting
  ends : ∀ t ∈ l.accepting, t.endpoint ∉ l'.server.pool.numbers → t ∈ l'.cancelled
  stays : ∀ t ∈ l.cancelled, t ∈ l'.cancelled

theorem Follows.succeeds_self (f : l.Follows h) : l.Succeeds h l h :=
  ⟨.of_pool_eq rfl rfl, fun _ ht _ => ht, fun t ht hn => absurd (f.live t ht) hn, fun _ ht => ht⟩

theorem Succeeds.trans (f : l.Follows h) (s : l.Succeeds h l' h') (s' : l'.Succeeds h' l'' h'') : l.Succeeds h l'' h'' := by
  refine ⟨s.onward.trans s'.onward, ?_, ?_, fun t ht => s'.stays t (s.stays t ht)⟩
  · intro t ht hn
    by_cases hn' : t.endpoint ∈ l'.server.pool.numbers
    · exact s'.goesOn t (s.goesOn t ht hn') hn
    · -- An endpoint that is gone never comes back.
      have hlt := Nat.lt_of_lt_of_le (f.numbered _ (f.live t ht)) s.onward.nextEndpoint
      exact absurd hn (s'.onward.not_mem hn' hlt)
  · intro t ht hn
    by_cases hn' : t.endpoint ∈ l'.server.pool.numbers
    · exact s'.ends t (s.goesOn t ht hn') hn
    · exact s'.stays t (s.ends t ht hn')

/-- The tasks that were brought in line with the endpoints of a later server follow them. -/
theorem Follows.syncTasks {s : Server} (f : l.Follows h) (ho : l.server.Onward h s h') (hs : s.pool.numbers.Nodup)
    (engine : ReloadEngine) (source : ConfigSource) (n : Network) :
    ({ l with engine, server := s, source }.syncTasks n).Follows h' ∧
      l.Succeeds h ({ l with engine, server := s, source }.syncTasks n) h' := by
  have hapart : ({ l with engine, server := s, source } : ServerLoop).Apart := ⟨f.apart.single, f.apart.distinct, f.apart.given⟩
  have hsync := hapart.syncTasks hs n
  have hlive := live_syncTasks { l with engine, server := s, source } n
  rw [syncTasks_eq] at hsync hlive ⊢
  refine ⟨⟨ho.numbered f.numbered, hs, hsync, hlive, ?_⟩, ho, ?_, ?_, fun t ht => List.mem_append_left _ ht⟩
  · intro t ht
    rcases List.mem_append.1 ht with ht | ht
    · obtain ⟨hn, hlt⟩ := f.gone t ht
      exact ⟨ho.not_mem hn hlt, Nat.lt_of_lt_of_le hlt ho.nextEndpoint⟩
    · obtain ⟨haccepting, hn⟩ := mem_left.1 ht
      exact ⟨hn, Nat.lt_of_lt_of_le (f.numbered _ (f.live t haccepting)) ho.nextEndpoint⟩
  · exact fun t ht hn => List.mem_append_left _ (mem_kept.2 ⟨ht, hn⟩)
  · exact fun t ht hn => List.mem_append_right _ (mem_left.2 ⟨ht, hn⟩)

/-! ## What single events do -/

/-- The endpoints, the tasks and the source are the same. -/
structure Same (l l' : ServerLoop) : Prop where
  pool : l'.server.pool = l.server.pool
  accepting : l'.accepting = l.accepting
  cancelled : l'.cancelled = l.cancelled
  nextTask : l'.nextTask = l.nextTask
  source : l'.source = l.source

/-- What an event does to the endpoints, the tasks and the source. -/
inductive Turn (l : ServerLoop) (h : Host) : ServerEvent → ServerReply → ServerLoop → Host → Prop
  /-- An event that is no reload, or one that fails, does nothing to them. -/
  | idle {e : ServerEvent} {reply : ServerReply} {l' : ServerLoop} {h' : Host} (hr : ∀ summary, reply ≠ .reloaded (.ok summary))
      (hs : l.Same l') (ho : l.server.Onward h l'.server h') : Turn l h e reply l' h'
  /-- After a reload that succeeds the tasks are brought in line, and the source is the one it read from. -/
  | reloaded {named : Option ConfigSource} {summary : ReloadSummary} {engine : ReloadEngine} {s : Server} {h' : Host}
      (ho : l.server.Onward h s h') (hn : l.server.pool.numbers.Nodup → s.pool.numbers.Nodup) :
      Turn l h (.reload named) (.reloaded (.ok summary))
        ({ l with engine, server := s, source := named.getD l.source }.syncTasks h'.network) h'
  /-- A shutdown leaves no endpoints and cancels all tasks. -/
  | stopped {l' : ServerLoop} {h' : Host} (hn : h'.nextEndpoint = h.nextEndpoint) (hp : l'.server.pool = []) (ha : l'.accepting = [])
      (hc : l'.cancelled = l.cancelled ++ l.accepting) (ht : l'.nextTask = l.nextTask) (hs : l'.source = l.source) :
      Turn l h .shutdown .nothing l' h'

theorem Same.apart (hs : l.Same l') (a : l.Apart) : l'.Apart := by
  refine ⟨?_, ?_, ?_⟩
  · rw [hs.accepting]
    exact a.single
  · rw [hs.accepting, hs.cancelled]
    exact a.distinct
  · rw [hs.accepting, hs.cancelled, hs.nextTask]
    exact a.given

theorem same_accept (l : ServerLoop) (h : Host) (endpoint : Nat) (peer : PeerAddress) : l.Same (l.accept h endpoint peer).1 := by
  cases hn : l.server.pool.get? endpoint with
  | none =>
    rw [accept, hn]
    exact ⟨rfl, rfl, rfl, rfl, rfl⟩
  | some e =>
    cases hc : l.server.directory.connections.contains l.nextConnection with
    | true =>
      obtain ⟨entry, he⟩ := accept_taken hn hc h peer
      rw [he]
      exact ⟨rfl, rfl, rfl, rfl, rfl⟩
    | false =>
      rw [accept_admitted ⟨Option.isSome_of_eq_some hn, hc⟩, Server.addConnection_accepted l.server h hc]
      exact ⟨rfl, rfl, rfl, rfl, rfl⟩

theorem turn_reload (l : ServerLoop) (h : Host) (named : Option ConfigSource) :
    l.Turn h (.reload named) (.reloaded (l.reload h named).1) (l.reload h named).2.1 (l.reload h named).2.2 := by
  have hon := (Server.onward_reload l.engine l.server h (named.getD l.source)).1
  have hnodup := fun hs => Server.nodup_numbers_reload l.engine (s := l.server) hs h (named.getD l.source)
  unfold reload
  cases hx : l.engine.reload l.server h (named.getD l.source) with
  | mk outcome rest =>
    obtain ⟨engine, server, h'⟩ := rest
    rw [hx] at hon hnodup
    cases outcome with
    | ok summary => exact .reloaded hon hnodup
    | error r =>
      obtain ⟨-, -, rfl, -, -⟩ := ReloadEngine.reload_error hx
      exact .idle nofun ⟨rfl, rfl, rfl, rfl, rfl⟩ hon

theorem turn_handle (l : ServerLoop) (h : Host) (e : ServerEvent) :
    l.Turn h e (l.handle h e).1 (l.handle h e).2.1 (l.handle h e).2.2 := by
  cases e with
  | accepted endpoint peer => exact .idle nofun (l.same_accept h endpoint peer) (onward_handle l h _ nofun)
  | closed id => exact .idle nofun ⟨rfl, rfl, rfl, rfl, rfl⟩ (onward_handle l h (.closed id) nofun)
  | reload named => exact l.turn_reload h named
  | status => exact .idle nofun ⟨rfl, rfl, rfl, rfl, rfl⟩ (.of_pool_eq rfl rfl)
  | shutdown => exact .stopped (l.server.registry.attends_unloadAll h).nextEndpoint rfl rfl rfl rfl rfl

/-- The network the tasks were last brought in line on, after one reply more. -/
def lastSynced (n : Network) (reply : ServerReply) (h : Host) : Network :=
  match reply with
  | .reloaded (.ok _) => h.network
  | _ => n

theorem lastSynced_of_ne (n : Network) (h : Host) {reply : ServerReply} (hr : ∀ summary, reply ≠ .reloaded (.ok summary)) :
    lastSynced n reply h = n := by
  unfold lastSynced
  split
  · exact absurd rfl (hr _)
  · rfl

/-- The source that a reload takes over: it succeeds and names one. -/
def adopted (e : ServerEvent) (reply : ServerReply) : List ConfigSource :=
  match e, reply with
  | .reload (some source), .reloaded (.ok _) => [source]
  | _, _ => []

theorem adopted_of_ne (e : ServerEvent) {reply : ServerReply} (hr : ∀ summary, reply ≠ .reloaded (.ok summary)) :
    adopted e reply = [] := by
  unfold adopted
  split
  · exact absurd rfl (hr _)
  · rfl

theorem turn_step (l : ServerLoop) (h : Host) (e : ServerEvent) : l.Turn h e (l.step h e).1 (l.step h e).2.1 (l.step h e).2.2 := by
  unfold step
  split
  · exact l.turn_handle h e
  · -- A loop that has stopped refuses reloads and takes no other event.
    split <;> exact .idle nofun ⟨rfl, rfl, rfl, rfl, rfl⟩ (.of_pool_eq rfl rfl)

/-- The tasks follow the endpoints through every event. -/
theorem Follows.turn {e : ServerEvent} {reply : ServerReply} (f : l.Follows h) (ht : l.Turn h e reply l' h') :
    l'.Follows h' ∧ l.Succeeds h l' h' := by
  cases ht with
  | idle _ hs ho =>
    have hpool : l'.server.pool.numbers = l.server.pool.numbers := congrArg Pool.numbers hs.pool
    refine ⟨⟨ho.numbered f.numbered, hpool ▸ f.endpoints, hs.apart f.apart, ?_, ?_⟩, ho, ?_, ?_, ?_⟩
    · rw [hs.accepting, hpool]
      exact f.live
    · rw [hs.cancelled, hpool]
      exact fun t ht => ⟨(f.gone t ht).1, Nat.lt_of_lt_of_le (f.gone t ht).2 ho.nextEndpoint⟩
    · exact fun t ht _ => hs.accepting ▸ ht
    · exact fun t ht hn => absurd (hpool ▸ f.live t ht) hn
    · exact fun t ht => hs.cancelled ▸ ht
  | reloaded ho hn => exact f.syncTasks ho (hn f.endpoints) _ _ _
  | stopped hn hp ha hc ht _ =>
    have hnone : ∀ k, k ∉ l'.server.pool.numbers := by simp [hp, Pool.numbers]
    refine ⟨⟨?_, ?_, ⟨?_, ?_, ?_⟩, ?_, ?_⟩, ⟨Nat.le_of_eq hn.symm, fun k hk => absurd hk (hnone k)⟩, ?_, ?_, ?_⟩
    · exact fun k hk => absurd hk (hnone k)
    · simp [hp, Pool.numbers]
    · simp [ha]
    · rw [ha, hc, List.nil_append]
      exact (List.perm_append_comm.map _).nodup_iff.1 f.apart.distinct
    · rw [ha, hc, ht, List.nil_append]
      exact fun t hm => f.apart.given t (List.perm_append_comm.mem_iff.1 hm)
    · simp [ha]
    · rw [hc, hn]
      intro t hm
      refine ⟨hnone _, ?_⟩
      rcases List.mem_append.1 hm with hm | hm
      · exact (f.gone t hm).2
      · exact f.numbered _ (f.live t hm)
    · exact fun t _ hk => absurd hk (hnone _)
    · exact fun t hm _ => hc ▸ List.mem_append_right _ hm
    · exact fun t hm => hc ▸ List.mem_append_left _ hm

/-- What endpoints that connections can be taken from have a task, through every event. -/
theorem Serves.turn {e : ServerEvent} {reply : ServerReply} (hs : l.Serves n) (ht : l.Turn h e reply l' h') :
    l'.Serves (lastSynced n reply h') := by
  cases ht with
  | idle hr hsame _ =>
    rw [lastSynced_of_ne n h' hr]
    intro e he hcan
    rw [hsame.accepting]
    exact hs e (hsame.pool ▸ he) hcan
  | reloaded _ _ => exact serves_syncTasks _ _
  | stopped _ hp _ _ _ _ =>
    intro e he
    rw [hp] at he
    exact absurd he List.not_mem_nil

theorem source_of_turn {e : ServerEvent} {reply : ServerReply} (ht : l.Turn h e reply l' h') :
    l'.source = (adopted e reply).getLast?.getD l.source := by
  cases ht with
  | idle hr hsame _ =>
    rw [adopted_of_ne e hr]
    exact hsame.source
  | @reloaded named _ _ _ _ _ _ => cases named <;> rfl
  | stopped _ _ _ _ _ hs => exact hs

/-! ## Runs -/

/-- The network on which the tasks were last brought in line in the course of events: at the last reload that succeeded. -/
def lastSync (l : ServerLoop) (h : Host) (n : Network) : List (Circumstances × ServerEvent) → Network
  | [] => n
  | x :: xs =>
    lastSync (l.stepUnder h x).1 (l.stepUnder h x).2 (lastSynced n (l.step (h.under x.1) x.2).1 (l.stepUnder h x).2) xs

/-- The sources of the reloads that named one and succeeded, in order. -/
def adoptedAll (l : ServerLoop) (h : Host) : List (Circumstances × ServerEvent) → List ConfigSource
  | [] => []
  | x :: xs => adopted x.2 (l.step (h.under x.1) x.2).1 ++ adoptedAll (l.stepUnder h x).1 (l.stepUnder h x).2 xs

theorem Follows.stepUnder (f : l.Follows h) (x : Circumstances × ServerEvent) :
    (l.stepUnder h x).1.Follows (l.stepUnder h x).2 ∧ l.Succeeds h (l.stepUnder h x).1 (l.stepUnder h x).2 := by
  have funder : l.Follows (h.under x.1) := ⟨f.numbered, f.endpoints, f.apart, f.live, f.gone⟩
  obtain ⟨f', s⟩ := funder.turn (l.turn_step (h.under x.1) x.2)
  exact ⟨f', ⟨s.onward.nextEndpoint, s.onward.numbers⟩, s.goesOn, s.ends, s.stays⟩

/-- The tasks follow the endpoints along a run, and what becomes of them is decided by their endpoints. -/
theorem Follows.runAll (f : l.Follows h) (xs : List (Circumstances × ServerEvent)) :
    (l.runAll h xs).1.Follows (l.runAll h xs).2 ∧ l.Succeeds h (l.runAll h xs).1 (l.runAll h xs).2 := by
  induction xs generalizing l h with
  | nil => exact ⟨f, f.succeeds_self⟩
  | cons x xs ih =>
    obtain ⟨f', s⟩ := f.stepUnder x
    obtain ⟨f'', s'⟩ := ih f'
    exact ⟨f'', s.trans f s'⟩

theorem runAll_append (l : ServerLoop) (h : Host) (before after : List (Circumstances × ServerEvent)) :
    l.runAll h (before ++ after) = (l.runAll h before).1.runAll (l.runAll h before).2 after := List.foldl_append

theorem Serves.runAll (hs : l.Serves n) (h : Host) (xs : List (Circumstances × ServerEvent)) :
    (l.runAll h xs).1.Serves (l.lastSync h n xs) := by
  induction xs generalizing l h n with
  | nil => exact hs
  | cons x xs ih => exact ih (hs.turn (l.turn_step (h.under x.1) x.2)) _

/-- The source after a run is that of the last reload that named one and succeeded. -/
theorem source_runAll (l : ServerLoop) (h : Host) (xs : List (Circumstances × ServerEvent)) :
    (l.runAll h xs).1.source = (l.adoptedAll h xs).getLast?.getD l.source := by
  induction xs generalizing l h with
  | nil => rfl
  | cons x xs ih =>
    have hstep := source_of_turn (l.turn_step (h.under x.1) x.2)
    refine (ih (l.stepUnder h x).1 (l.stepUnder h x).2).trans ?_
    rw [adoptedAll, List.getLast?_append]
    cases (adoptedAll (l.stepUnder h x).1 (l.stepUnder h x).2 xs).getLast? with
    | none => exact hstep
    | some source => rfl

theorem follows_run {c : Config} {dir : Directory} {options : ServerOptions} {s : Server} {h₀ : Host}
    (hs : Server.startWith c dir options h₀ = (.ok s, h)) (source : ConfigSource) : (run s source h).Follows h := by
  have hempty : ({ server := s, source } : ServerLoop).Follows h :=
    ⟨Server.numbered_start hs, Server.nodup_numbers_start hs, ⟨.nil, .nil, fun _ ht => absurd ht List.not_mem_nil⟩,
      fun _ ht => absurd ht List.not_mem_nil, fun _ ht => absurd ht List.not_mem_nil⟩
  exact (hempty.syncTasks (.of_pool_eq rfl rfl) hempty.endpoints {} source h.network).1

/-- A reload that names no source reads from the one there is, as if that had been named. -/
theorem step_reload_none (l : ServerLoop) (h : Host) : l.step h (.reload none) = l.step h (.reload (some l.source)) := rfl

/-- A reload that fails does nothing to the endpoints, the tasks and the source. -/
theorem same_of_refused {named : Option ConfigSource} {r : Refusal} (hr : (l.step h (.reload named)).1 = .reloaded (.error r)) :
    l.Same (l.step h (.reload named)).2.1 := by
  have ht := l.turn_step h (.reload named)
  rw [hr] at ht
  generalize (l.step h (.reload named)).2 = x at ht
  cases ht with
  | idle _ hs _ => exact hs

/-- The tasks and the source of a server that was started, along any events and whatever the circumstances. Every task belongs to an
endpoint of the pool. An endpoint has exactly one task if connections could be taken from it when the tasks were last brought in line,
and never more than one; no two tasks ever had the same number. A task that accepted at any time still does if its endpoint is in the
pool, and has been cancelled otherwise. The source is the one that the last successful reload named, if any did; a reload that names none
reads from it; and a reload that fails does nothing to the endpoints, the tasks and the source. -/
theorem tasks_of_start {c : Config} {dir : Directory} {options : ServerOptions} {s : Server} {h₀ h : Host}
    (hs : Server.startWith c dir options h₀ = (.ok s, h)) (source : ConfigSource) (xs : List (Circumstances × ServerEvent)) :
    let l := run s source h
    let now := (l.runAll h xs).1
    (∀ t ∈ now.accepting, t.endpoint ∈ now.server.pool.numbers) ∧
    (∀ e ∈ now.server.pool, (l.lastSync h h.network xs).canAccept e.listener = true →
      ∃! t, t ∈ now.accepting ∧ t.endpoint = e.number) ∧
    (∀ t ∈ now.accepting, ∀ u ∈ now.accepting, t.endpoint = u.endpoint → t = u) ∧
    ((now.accepting ++ now.cancelled).map (·.number)).Nodup ∧
    (∀ before after, xs = before ++ after → ∀ t ∈ (l.runAll h before).1.accepting,
      (t.endpoint ∈ now.server.pool.numbers → t ∈ now.accepting ∧ t ∉ now.cancelled) ∧
      (t.endpoint ∉ now.server.pool.numbers → t ∈ now.cancelled ∧ t ∉ now.accepting)) ∧
    now.source = (l.adoptedAll h xs).getLast?.getD source ∧
    (∀ k, now.step k (.reload none) = now.step k (.reload (some ((l.adoptedAll h xs).getLast?.getD source)))) ∧
    ∀ k named r, (now.step k (.reload named)).1 = .reloaded (.error r) → now.Same (now.step k (.reload named)).2.1 := by
  intro l now
  have f₀ : l.Follows h := follows_run hs source
  have f : now.Follows _ := (f₀.runAll xs).1
  have hsource : now.source = (l.adoptedAll h xs).getLast?.getD source := source_runAll l h xs
  have hserves : now.Serves (l.lastSync h h.network xs) := (serves_syncTasks _ _ : l.Serves h.network).runAll h xs
  have hsingle : ∀ t ∈ now.accepting, ∀ u ∈ now.accepting, t.endpoint = u.endpoint → t = u := fun t ht u hu he =>
    List.inj_on_of_nodup_map f.apart.single ht hu he
  refine ⟨f.live, ?_, hsingle, f.apart.distinct, ?_, hsource, ?_, ?_⟩
  · intro e he hcan
    obtain ⟨t, ht, hte⟩ := hserves e he hcan
    exact ⟨t, ⟨ht, hte⟩, fun u hu => hsingle u hu.1 t ht (hu.2.trans hte.symm)⟩
  · rintro before after hxs t ht
    have hlater := ((f₀.runAll before).1.runAll after).2
    rw [← runAll_append, ← hxs] at hlater
    refine ⟨fun hn => ⟨hlater.goesOn t ht hn, fun hc => (f.gone t hc).1 hn⟩, ?_⟩
    exact fun hn => ⟨hlater.ends t ht hn, fun ha => hn (f.live t ha)⟩
  · intro k
    rw [← hsource]
    exact now.step_reload_none k
  · exact fun k named r hr => same_of_refused hr

/-- A start without plugins or TLS on a machine with sockets. -/
def wiredStart : Except Refusal Server × Host :=
  Server.startWith .plain { storage := ⟨⟨"documents"⟩⟩ } { modules := .builtin [] }
    { disk := .empty, network := { hasSockets := true } }

/-- A reload from nowhere, which fails, one to another port while the first of the new listeners is deaf, and one that names no source. -/
def reloads : List (Circumstances × ServerEvent) :=
  let (calm, failing) := calmly (.reload (some (.layered [])))
  [(calm, failing), ({ calm with deaf := [2] }, .reload (some ReloadEngine.elsewhere)), (calm, .reload none)]

/-- The tasks of the first endpoints have been cancelled, and both of the new ones have a task, although the first of them was deaf at
first. The source is that of the reload that succeeded. -/
theorem tasks_of_start_wired : ∃ (s : Server) (h : Host), wiredStart = (.ok s, h) ∧
    let l := run s (.layered []) h
    let now := (l.runAll h reloads).1
    l.accepting.length = 2 ∧ (∀ t ∈ l.accepting, t ∈ now.cancelled) ∧ now.server.pool.numbers = [3, 4] ∧
    (∀ n ∈ [3, 4], ∃! t, t ∈ now.accepting ∧ t.endpoint = n) ∧ now.source = ReloadEngine.elsewhere := by
  have hrun : wiredStart.1.toOption.map (fun s =>
      let l := run s (.layered []) wiredStart.2
      let now := l.runAll wiredStart.2 reloads
      (l.accepting, now.1.server.pool.numbers, l.adoptedAll wiredStart.2 reloads,
        now.1.server.pool.all fun e => (l.lastSync wiredStart.2 wiredStart.2.network reloads).canAccept e.listener)) =
      some ([⟨1, 1⟩, ⟨2, 2⟩], [3, 4], [ReloadEngine.elsewhere], true) := by
    decide +kernel
  cases hs : wiredStart with
  | mk started h =>
    rw [hs] at hrun
    cases started with
    | error e => cases hrun
    | ok s =>
      simp only [Except.toOption, Option.map_some, Option.some.injEq, Prod.mk.injEq] at hrun
      obtain ⟨htasks, hpool, hadopted, hcan⟩ := hrun
      obtain ⟨-, hone, -, -, hthen, hsource, -⟩ := tasks_of_start hs (.layered []) reloads
      refine ⟨s, h, rfl, by rw [htasks]; rfl, ?_, hpool, ?_, ?_⟩
      · intro t ht
        refine ((hthen [] reloads rfl t ht).2 ?_).1
        rw [hpool]
        rw [htasks] at ht
        revert t
        decide
      · intro n hn
        rw [← hpool] at hn
        obtain ⟨e, he, rfl⟩ := List.mem_map.1 hn
        exact hone e he (List.all_eq_true.1 hcan e he)
      · rw [hsource, hadopted]
        rfl

end ServerLoop
end CoEdit
