import CoEdit.Proofs.Latest
import CoEdit.Proofs.Server.Mirror
import CoEdit.Proofs.Server.Numbering
import CoEdit.Proofs.Server.Refusal
import CoEdit.Server.Loop

/-!
# Who is connected

Clients come in and go away by events of the loop, and reloads and questions come between them in any order. `ServerLoop.Does` says what
each event does to the server, and `ServerLoop.Books` what holds all along: the registry observes who is connected, the loop serves no one
else, and the numbers of the endpoints were handed out. What events change about who is connected is a list (`ServerLoop.changes`), of
which the last change for a number counts. `ServerLoop.visitors_of_start` puts this together for every run of a server that was started.
-/

namespace CoEdit

/-- What an event changes about who is connected. -/
inductive Change where
  | registered (id : Nat)
  | closed (id : Nat)
  deriving DecidableEq, Repr

/-- The number that was registered. -/
def Change.registered? : Change → Option Nat
  | .registered id => some id
  | .closed _ => none

/-- A client that is not there is not missed. -/
theorem Server.removeConnection_absent {s : Server} (h : Host) {id : Nat} (hid : s.directory.connections.contains id = false) :
    (s.removeConnection h id).2 = (s, h) := by
  have hnone : s.directory.connection? id = none := Option.isNone_iff_eq_none.1 (Option.isSome_eq_false_iff.1 hid)
  have hsame : s.directory.connections.remove id = s.directory.connections := by
    refine List.filter_eq_self.2 fun c hc => decide_eq_true fun he => ?_
    exact Bool.eq_false_iff.1 hid ((Roster.contains_iff _ _).2 (List.mem_map.2 ⟨c, hc, he⟩))
  rw [Server.removeConnection_unknown s h hnone, hsame]

namespace ServerLoop

variable {l : ServerLoop} {h : Host}

/-! ## What single events do -/

/-- Whether a client that came in at an endpoint is registered: the endpoint is in the pool, and the next number is free. -/
def Admits (l : ServerLoop) (endpoint : Nat) : Prop :=
  (l.server.pool.get? endpoint).isSome = true ∧ l.server.directory.connections.contains l.nextConnection = false

instance (l : ServerLoop) (endpoint : Nat) : Decidable (l.Admits endpoint) := inferInstanceAs (Decidable (_ ∧ _))

/-- A client as it is registered. -/
def visitor (l : ServerLoop) (peer : PeerAddress) : Connection := { id := l.nextConnection, peer }

/-- A client that comes in at an endpoint that is gone is dropped. -/
theorem accept_gone {n : Nat} (hn : n ∉ l.server.pool.numbers) (h : Host) (peer : PeerAddress) : l.accept h n peer = (l, h) := by
  have hnone : l.server.pool.get? n = none := Option.not_isSome_iff_eq_none.1 (mt (Pool.isSome_get? _ _).1 hn)
  rw [accept, hnone]

/-- A client whose number is taken is dropped, and the number with it. -/
theorem accept_taken {n : Nat} {e : Endpoint} (hn : l.server.pool.get? n = some e)
    (hc : l.server.directory.connections.contains l.nextConnection = true) (h : Host) (peer : PeerAddress) :
    ∃ entry, l.accept h n peer = ({ l with nextConnection := l.nextConnection + 1 }, h.log entry) := by
  have ha := Server.addConnection_refused l.server h (c := l.visitor peer) hc
  rw [visitor] at ha
  rw [accept, hn]
  dsimp only
  rw [ha]
  exact ⟨_, rfl⟩

/-- Any other client is registered. -/
theorem accept_admitted {n : Nat} (ha : l.Admits n) (h : Host) (peer : PeerAddress) :
    l.accept h n peer =
      ({ l with
          server := (l.server.addConnection h (l.visitor peer)).2.1
          nextConnection := l.nextConnection + 1
          serving := l.serving ++ [l.nextConnection] },
        (l.server.addConnection h (l.visitor peer)).2.2) := by
  obtain ⟨e, he⟩ := Option.isSome_iff_exists.1 ha.1
  have hadd := Server.addConnection_accepted l.server h (c := l.visitor peer) ha.2
  rw [visitor] at hadd ⊢
  rw [accept, he]
  dsimp only
  rw [hadd]

/-- What a reload makes of the server and the host is all that it does, but for the source and the tasks. -/
theorem reload_eq (l : ServerLoop) (h : Host) (source : Option ConfigSource) :
    let x := l.engine.reload l.server h (source.getD l.source)
    (l.reload h source).1 = x.1 ∧ (l.reload h source).2.1.server = x.2.2.1 ∧ (l.reload h source).2.2 = x.2.2.2 ∧
      (l.reload h source).2.1.serving = l.serving ∧ (l.reload h source).2.1.nextConnection = l.nextConnection ∧
      (l.reload h source).2.1.isRunning = l.isRunning := by
  unfold reload
  generalize l.engine.reload l.server h (source.getD l.source) = x
  obtain ⟨_ | summary, engine, server, h'⟩ := x <;> exact ⟨rfl, rfl, rfl, rfl, rfl, rfl⟩

/-- What an event does to the server. A client is registered if it is admitted, and dropped otherwise. One that goes away is removed, and
nothing else. A reload keeps who is connected, and a question after the status keeps everything. -/
def Does (l l' : ServerLoop) : ServerEvent → Prop
  | .accepted endpoint peer =>
    (l.Admits endpoint → l'.server.directory = { l.server.directory with
      connections := l.server.directory.connections.insert ((l.visitor peer).install l.server.directory.security) }) ∧
    (¬l.Admits endpoint → l'.server = l.server)
  | .closed id =>
    l'.server.directory = { l.server.directory with connections := l.server.directory.connections.remove id } ∧
    (l.server.directory.connections.contains id = false → l'.server = l.server)
  | .reload _ => l'.server.directory.connections.numbers = l.server.directory.connections.numbers
  | .status => l'.server = l.server
  | .shutdown => True

/-- A client that is not admitted is dropped, and nothing becomes of the server. -/
theorem accept_not_admitted {n : Nat} (ha : ¬l.Admits n) (h : Host) (peer : PeerAddress) :
    (l.accept h n peer).1.server = l.server ∧ (l.accept h n peer).1.serving = l.serving ∧
      (l.accept h n peer).1.isRunning = l.isRunning ∧ h.Attends (l.accept h n peer).2 := by
  cases hn : l.server.pool.get? n with
  | none =>
    rw [accept, hn]
    exact ⟨rfl, rfl, rfl, .refl h⟩
  | some e =>
    have hc : l.server.directory.connections.contains l.nextConnection = true := by
      rw [← Bool.not_eq_false]
      exact fun hc => ha ⟨Option.isSome_of_eq_some hn, hc⟩
    obtain ⟨entry, he⟩ := accept_taken hn hc h peer
    rw [he]
    exact ⟨rfl, rfl, rfl, Host.attends_log h entry⟩

theorem does_handle (l : ServerLoop) (h : Host) (e : ServerEvent) : l.Does (l.handle h e).2.1 e := by
  cases e with
  | accepted endpoint peer =>
    refine ⟨fun ha => ?_, fun ha => (accept_not_admitted ha h peer).1⟩
    rw [handle, accept_admitted ha, Server.addConnection_accepted l.server h ha.2]
  | closed id => exact ⟨rfl, fun hid => congrArg Prod.fst (Server.removeConnection_absent h hid)⟩
  | reload source =>
    obtain ⟨-, hs, -⟩ := l.reload_eq h source
    show (l.reload h source).2.1.server.directory.connections.numbers = _
    rw [hs]
    rcases Server.reload_cases l.engine l.server h (source.getD l.source) with ⟨a, h', -, he⟩ | ⟨r, h', entry, -, he⟩
    · rw [he, Server.connections_commit, Roster.numbers, List.map_map]
      rfl
    · rw [he]
  | status => rfl
  | shutdown => trivial

/-! ## What holds all along -/

/-- The registry observes who is connected, all that the loop serves are connected, and the numbers of the endpoints were handed out. -/
structure Books (l : ServerLoop) (h : Host) : Prop where
  isRunning : l.isRunning = true
  mirrors : l.server.Mirrors h
  serving : ∀ id ∈ l.serving, l.server.directory.connections.contains id = true
  numbered : l.server.Numbered h

/-- A loop that was started is the loop of a server that was. -/
theorem run_of_start {source : ConfigSource} {dir : Directory} {options : ServerOptions} {h₀ : Host}
    (hl : start source dir options h₀ = (.ok l, h)) :
    ∃ c h₁ s, Server.startWith c dir options h₁ = (.ok s, h) ∧ l = run s source h := by
  unfold start Server.start at hl
  split at hl
  rename_i started h' hs
  split at hs
  · cases hs
    cases hl
  · rename_i c h₁ _
    cases started with
    | error e => cases hl
    | ok s =>
      cases hl
      exact ⟨c, h₁, s, hs, rfl⟩

theorem books_run {c : Config} {dir : Directory} {options : ServerOptions} {s : Server} {h₀ : Host}
    (hs : Server.startWith c dir options h₀ = (.ok s, h)) (source : ConfigSource) : (run s source h).Books h :=
  ⟨rfl, Server.mirrors_start hs, fun _ hid => absurd hid List.not_mem_nil, Server.numbered_start hs⟩

theorem Books.under (b : l.Books h) (w : Circumstances) : l.Books (h.under w) :=
  ⟨b.isRunning, b.mirrors.mono (Nat.le_refl _), b.serving, b.numbered⟩

/-- An event leads onward. -/
theorem onward_handle (l : ServerLoop) (h : Host) (e : ServerEvent) (he : e ≠ .shutdown) :
    l.server.Onward h (l.handle h e).2.1.server (l.handle h e).2.2 := by
  cases e with
  | accepted endpoint peer =>
    by_cases ha : l.Admits endpoint
    · rw [handle, accept_admitted ha, Server.addConnection_accepted l.server h ha.2]
      exact .of_pool_eq rfl (Registry.attends_connectionAdded _ _ _).nextEndpoint
    · obtain ⟨hs, -, -, hh⟩ := accept_not_admitted ha h peer
      exact .of_pool_eq (congrArg Server.pool hs) hh.nextEndpoint
  | closed id =>
    refine .of_pool_eq rfl ?_
    show (l.server.removeConnection h id).2.2.nextEndpoint = _
    cases hc : l.server.directory.connection? id with
    | none => rw [Server.removeConnection_unknown _ _ hc]
    | some c =>
      rw [Server.removeConnection_known _ _ hc]
      exact (Registry.attends_connectionRemoved _ _ _).nextEndpoint
  | reload source =>
    obtain ⟨-, hs, hh, -⟩ := l.reload_eq h source
    show l.server.Onward h (l.reload h source).2.1.server (l.reload h source).2.2
    rw [hs, hh]
    exact (Server.onward_reload _ _ _ _).1
  | status => exact .of_pool_eq rfl rfl
  | shutdown => exact absurd rfl he

theorem Books.handle (b : l.Books h) {e : ServerEvent} (he : e ≠ .shutdown) : (l.handle h e).2.1.Books (l.handle h e).2.2 := by
  have hnumbered := (onward_handle l h e he).numbered b.numbered
  cases e with
  | accepted endpoint peer =>
    by_cases ha : l.Admits endpoint
    · rw [ServerLoop.handle, accept_admitted ha] at hnumbered ⊢
      refine ⟨b.isRunning, b.mirrors.addConnection _, ?_, hnumbered⟩
      dsimp only
      rw [Server.addConnection_accepted _ _ ha.2]
      intro id hid
      rw [Roster.contains_insert, Bool.or_eq_true, decide_eq_true_iff]
      rcases List.mem_append.1 hid with hid | hid
      · exact Or.inr (b.serving id hid)
      · exact Or.inl (List.mem_singleton.1 hid).symm
    · obtain ⟨hs, hserving, hrunning, hh⟩ := accept_not_admitted ha h peer
      refine ⟨hrunning.trans b.isRunning, hs ▸ b.mirrors.mono hh.nextPlugin, ?_, hnumbered⟩
      intro id hid
      rw [ServerLoop.handle, hs]
      exact b.serving id (hserving ▸ hid)
  | closed id =>
    refine ⟨b.isRunning, b.mirrors.removeConnection id, ?_, hnumbered⟩
    intro n hn
    obtain ⟨hn, hne⟩ := List.mem_filter.1 hn
    refine (Roster.contains_remove id n l.server.directory.connections).trans ?_
    rw [b.serving n hn, Bool.and_true, Bool.not_eq_true', decide_eq_false_iff_not]
    exact Ne.symm (of_decide_eq_true hne)
  | reload source =>
    obtain ⟨-, hs, hh, hserving, -, hrunning⟩ := l.reload_eq h source
    have hdoes := does_handle l h (.reload source)
    refine ⟨hrunning.trans b.isRunning, ?_, ?_, hnumbered⟩
    · show (l.reload h source).2.1.server.Mirrors (l.reload h source).2.2
      rw [hs, hh]
      exact b.mirrors.reload _ _
    · intro id hid
      refine (Roster.contains_iff _ _).2 ?_
      rw [hdoes, ← Roster.contains_iff]
      exact b.serving id (hserving.subst hid)
  | status => exact b
  | shutdown => exact absurd rfl he

/-! ## Runs -/

/-- The loop and its host after an event, under the circumstances in which it is taken. -/
def stepUnder (l : ServerLoop) (h : Host) (x : Circumstances × ServerEvent) : ServerLoop × Host := (l.step (h.under x.1) x.2).2

/-- The loop and its host after events, one after the other. -/
def runAll (l : ServerLoop) (h : Host) (xs : List (Circumstances × ServerEvent)) : ServerLoop × Host :=
  xs.foldl (fun y x => y.1.stepUnder y.2 x) (l, h)

/-- What an event changes about who is connected. -/
def changesOf (l : ServerLoop) : ServerEvent → List Change
  | .accepted endpoint _ => if l.Admits endpoint then [.registered l.nextConnection] else []
  | .closed id => [.closed id]
  | _ => []

/-- What events change about who is connected, in order. -/
def changes (l : ServerLoop) (h : Host) : List (Circumstances × ServerEvent) → List Change
  | [] => []
  | x :: xs => l.changesOf x.2 ++ changes (l.stepUnder h x).1 (l.stepUnder h x).2 xs

/-- The number that is given to a client, whether it is registered or not. A client of an endpoint that is gone gets none. -/
def givenBy (l : ServerLoop) : ServerEvent → List Nat
  | .accepted endpoint _ => if (l.server.pool.get? endpoint).isSome then [l.nextConnection] else []
  | _ => []

/-- The numbers that are given to clients, in order. -/
def given (l : ServerLoop) (h : Host) : List (Circumstances × ServerEvent) → List Nat
  | [] => []
  | x :: xs => l.givenBy x.2 ++ given (l.stepUnder h x).1 (l.stepUnder h x).2 xs

/-- A number is registered and not closed after that. -/
def Stays (id : Nat) (cs : List Change) : Prop := LastIn cs (· = .registered id) (· = .closed id)

/-- Who is connected after an event. -/
theorem contains_handle (l : ServerLoop) (h : Host) {e : ServerEvent} (he : e ≠ .shutdown) (id : Nat) :
    (l.handle h e).2.1.server.directory.connections.contains id = true ↔
      Stays id (l.changesOf e) ∨
        (l.server.directory.connections.contains id = true ∧ ∀ c ∈ l.changesOf e, ¬c = .closed id) := by
  have hdoes := does_handle l h e
  cases e with
  | accepted endpoint peer =>
    by_cases ha : l.Admits endpoint
    · rw [hdoes.1 ha, changesOf, if_pos ha, Stays, LastIn.singleton_iff, Roster.contains_insert, Bool.or_eq_true,
        decide_eq_true_iff]
      simp [number, visitor]
    · rw [hdoes.2 ha, changesOf, if_neg ha]
      simp [Stays, LastIn.not_nil]
  | closed n =>
    rw [hdoes.1, changesOf, Stays, LastIn.singleton_iff]
    simp [Roster.contains_remove, and_comm]
  | reload source =>
    have hsame : (l.handle h (.reload source)).2.1.server.directory.connections.contains id =
        l.server.directory.connections.contains id := by
      rw [Bool.eq_iff_iff, Roster.contains_iff, Roster.contains_iff, hdoes]
    rw [hsame]
    simp [changesOf, Stays, LastIn.not_nil]
  | status =>
    rw [hdoes]
    simp [changesOf, Stays, LastIn.not_nil]
  | shutdown => exact absurd rfl he

/-- The next number grows by the numbers that are given. -/
theorem nextConnection_handle (l : ServerLoop) (h : Host) (e : ServerEvent) :
    (l.handle h e).2.1.nextConnection = l.nextConnection + (l.givenBy e).length := by
  cases e with
  | accepted endpoint peer =>
    rw [handle, givenBy]
    cases hn : l.server.pool.get? endpoint with
    | none =>
      rw [accept, hn]
      rfl
    | some e =>
      cases hc : l.server.directory.connections.contains l.nextConnection with
      | true =>
        obtain ⟨entry, he⟩ := accept_taken hn hc h peer
        rw [he]
        rfl
      | false =>
        rw [accept_admitted ⟨Option.isSome_of_eq_some hn, hc⟩]
        rfl
  | reload source => exact (l.reload_eq h source).2.2.2.2.1
  | _ => rfl

/-- An event gives the next number, or none. -/
theorem givenBy_cases (l : ServerLoop) (e : ServerEvent) : l.givenBy e = [l.nextConnection] ∨ l.givenBy e = [] := by
  unfold givenBy
  split
  · split
    · exact Or.inl rfl
    · exact Or.inr rfl
  · exact Or.inr rfl

theorem registered_sublist_givenBy (l : ServerLoop) (e : ServerEvent) :
    ((l.changesOf e).filterMap Change.registered?).Sublist (l.givenBy e) := by
  cases e with
  | accepted endpoint peer =>
    rw [changesOf, givenBy]
    by_cases ha : l.Admits endpoint
    · rw [if_pos ha, if_pos ha.1]
      exact List.Sublist.refl _
    · rw [if_neg ha]
      exact List.nil_sublist _
  | _ => exact List.nil_sublist _

section
variable {xs : List (Circumstances × ServerEvent)} {x : Circumstances × ServerEvent}

theorem Books.stepUnder_eq (b : l.Books h) (x : Circumstances × ServerEvent) :
    l.stepUnder h x = (l.handle (h.under x.1) x.2).2 := by
  rw [stepUnder, step.eq_def, if_pos b.isRunning]

theorem Books.stepUnder (b : l.Books h) (hx : x.2 ≠ .shutdown) : (l.stepUnder h x).1.Books (l.stepUnder h x).2 := by
  rw [b.stepUnder_eq]
  exact (b.under x.1).handle hx

theorem Books.runAll (b : l.Books h) (hx : ∀ x ∈ xs, x.2 ≠ .shutdown) : (l.runAll h xs).1.Books (l.runAll h xs).2 := by
  induction xs generalizing l h with
  | nil => exact b
  | cons x xs ih =>
    obtain ⟨hfirst, hrest⟩ := List.forall_mem_cons.1 hx
    exact ih (b.stepUnder hfirst) hrest

/-- A run leads onward. -/
theorem Books.onward_runAll (b : l.Books h) (hx : ∀ x ∈ xs, x.2 ≠ .shutdown) :
    l.server.Onward h (l.runAll h xs).1.server (l.runAll h xs).2 := by
  induction xs generalizing l h with
  | nil => exact .of_pool_eq rfl rfl
  | cons x xs ih =>
    obtain ⟨hfirst, hrest⟩ := List.forall_mem_cons.1 hx
    have hstep := onward_handle l (h.under x.1) x.2 hfirst
    rw [← b.stepUnder_eq] at hstep
    exact Server.Onward.trans ⟨hstep.nextEndpoint, hstep.numbers⟩ (ih (b.stepUnder hfirst) hrest)

/-- Who is connected after a run: those who were registered and not closed after that, and those who were there and not closed. -/
theorem Books.contains_runAll (b : l.Books h) (hx : ∀ x ∈ xs, x.2 ≠ .shutdown) (id : Nat) :
    (l.runAll h xs).1.server.directory.connections.contains id = true ↔
      Stays id (l.changes h xs) ∨
        (l.server.directory.connections.contains id = true ∧ ∀ c ∈ l.changes h xs, ¬c = .closed id) := by
  induction xs generalizing l h with
  | nil => simp [ServerLoop.runAll, changes, Stays, LastIn.not_nil]
  | cons x xs ih =>
    obtain ⟨hfirst, hrest⟩ := List.forall_mem_cons.1 hx
    have hstep := contains_handle l (h.under x.1) hfirst id
    rw [← b.stepUnder_eq] at hstep
    refine (ih (b.stepUnder hfirst) hrest).trans ?_
    rw [hstep, changes, Stays, Stays, Stays, LastIn.append_iff, List.forall_mem_append]
    tauto

/-- All numbers that are given are the next one or come after it. -/
theorem Books.le_of_mem_given (b : l.Books h) (hx : ∀ x ∈ xs, x.2 ≠ .shutdown) : ∀ id ∈ l.given h xs, l.nextConnection ≤ id := by
  induction xs generalizing l h with
  | nil => exact fun _ hid => absurd hid List.not_mem_nil
  | cons x xs ih =>
    obtain ⟨hfirst, hrest⟩ := List.forall_mem_cons.1 hx
    have hnext := nextConnection_handle l (h.under x.1) x.2
    rw [← b.stepUnder_eq] at hnext
    refine List.forall_mem_append.2 ⟨?_, fun id hid => ?_⟩
    · intro id hid
      rcases l.givenBy_cases x.2 with hg | hg <;> rw [hg] at hid
      · exact Nat.le_of_eq (List.mem_singleton.1 hid).symm
      · exact absurd hid List.not_mem_nil
    · exact Nat.le_trans (hnext ▸ Nat.le_add_right _ _) (ih (b.stepUnder hfirst) hrest id hid)

/-- Numbers are given in ascending order, so none is given twice. -/
theorem Books.pairwise_given (b : l.Books h) (hx : ∀ x ∈ xs, x.2 ≠ .shutdown) : (l.given h xs).Pairwise (· < ·) := by
  induction xs generalizing l h with
  | nil => exact .nil
  | cons x xs ih =>
    obtain ⟨hfirst, hrest⟩ := List.forall_mem_cons.1 hx
    have hnext := nextConnection_handle l (h.under x.1) x.2
    rw [← b.stepUnder_eq] at hnext
    have hlater := (b.stepUnder hfirst).le_of_mem_given hrest
    have hih := ih (b.stepUnder hfirst) hrest
    rw [given]
    rcases l.givenBy_cases x.2 with hg | hg <;> rw [hg] at hnext ⊢
    · exact List.pairwise_cons.2 ⟨fun id hid => Nat.le_trans (Nat.le_of_eq hnext.symm) (hlater id hid), hih⟩
    · exact hih

theorem registered_sublist_given (l : ServerLoop) (h : Host) (xs : List (Circumstances × ServerEvent)) :
    ((l.changes h xs).filterMap Change.registered?).Sublist (l.given h xs) := by
  induction xs generalizing l h with
  | nil => exact List.Sublist.refl _
  | cons x xs ih =>
    rw [changes, given, List.filterMap_append]
    exact (l.registered_sublist_givenBy x.2).append (ih _ _)

/-- Clients of an endpoint that is gone are dropped for good. -/
theorem Books.accept_gone (b : l.Books h) {n : Nat} (hn : n ∉ l.server.pool.numbers) (hlt : n < h.nextEndpoint)
    (hx : ∀ x ∈ xs, x.2 ≠ .shutdown) (w : Circumstances) (peer : PeerAddress) :
    (l.runAll h xs).1.stepUnder (l.runAll h xs).2 (w, .accepted n peer) = ((l.runAll h xs).1, (l.runAll h xs).2.under w) := by
  rw [(b.runAll hx).stepUnder_eq]
  exact ServerLoop.accept_gone ((b.onward_runAll hx).not_mem hn hlt) _ peer

/-- A reload that replaces the listeners lets go of all endpoints there were. -/
theorem Books.replaced (b : l.Books h) {w : Circumstances} {source : Option ConfigSource} {summary : ReloadSummary}
    (hr : (l.step (h.under w) (.reload source)).1 = .reloaded (.ok summary)) (hl : summary.listenersReplaced = true) {n : Nat}
    (hn : n ∈ l.server.pool.numbers) :
    n ∉ (l.stepUnder h (w, .reload source)).1.server.pool.numbers ∧ n < (l.stepUnder h (w, .reload source)).2.nextEndpoint := by
  obtain ⟨hreply, hs, hh, -⟩ := l.reload_eq (h.under w) source
  obtain ⟨hon, hnew⟩ := Server.onward_reload l.engine l.server (h.under w) (source.getD l.source)
  have hlt : n < (h.under w).nextEndpoint := b.numbered n hn
  rw [step, if_pos b.isRunning] at hr
  rw [b.stepUnder_eq]
  show n ∉ (l.reload (h.under w) source).2.1.server.pool.numbers ∧ n < (l.reload (h.under w) source).2.2.nextEndpoint
  rw [hs, hh]
  have hok : (l.reload (h.under w) source).1 = .ok summary := ServerReply.reloaded.inj hr
  refine ⟨fun hm => Nat.not_le_of_lt hlt (hnew summary (hreply.symm.trans hok) hl n hm), ?_⟩
  exact Nat.lt_of_lt_of_le hlt hon.nextEndpoint

end

/-- Who is connected to a server that was started, along any events other than a shutdown and whatever the circumstances. Each event does
what it is meant to (`Does`): a client is registered exactly if it is admitted. The numbers that are given to clients ascend, also those
that are given to clients whose number turns out to be taken. Connected are those who were registered and not closed after that, and those
who were there at first and not closed. The registry observes exactly those who are connected, and the loop serves no others. A client of
an endpoint that was replaced by a reload is dropped, however much later its turn comes. -/
theorem visitors_of_start {c : Config} {dir : Directory} {options : ServerOptions} {s : Server} {h₀ h : Host}
    (hs : Server.startWith c dir options h₀ = (.ok s, h)) (source : ConfigSource) {xs : List (Circumstances × ServerEvent)}
    (hx : ∀ x ∈ xs, x.2 ≠ .shutdown) :
    let l := run s source h
    let now := l.runAll h xs
    (∀ x : Circumstances × ServerEvent, now.1.Does (now.1.stepUnder now.2 x).1 x.2) ∧
    (l.given h xs).Pairwise (· < ·) ∧ ((l.changes h xs).filterMap Change.registered?).Sublist (l.given h xs) ∧
    (∀ id, now.1.server.directory.connections.contains id = true ↔
      Stays id (l.changes h xs) ∨ (dir.connections.contains id = true ∧ ∀ c ∈ l.changes h xs, ¬c = .closed id)) ∧
    (∀ id, now.1.server.registry.connections.contains id = now.1.server.directory.connections.contains id) ∧
    (∀ id ∈ now.1.serving, now.1.server.directory.connections.contains id = true) ∧
    ∀ w source summary, (now.1.step (now.2.under w) (.reload source)).1 = .reloaded (.ok summary) →
      summary.listenersReplaced = true → ∀ n ∈ now.1.server.pool.numbers, ∀ ys : List (Circumstances × ServerEvent),
        (∀ y ∈ ys, y.2 ≠ .shutdown) →
          let reloaded := now.1.stepUnder now.2 (w, .reload source)
          let later := reloaded.1.runAll reloaded.2 ys
          ∀ w' peer, later.1.stepUnder later.2 (w', .accepted n peer) = (later.1, later.2.under w') := by
  intro l now
  have b₀ := books_run hs source
  have b : now.1.Books now.2 := b₀.runAll hx
  refine ⟨?_, b₀.pairwise_given hx, l.registered_sublist_given h xs, ?_, b.mirrors.connections, b.serving, ?_⟩
  · intro x
    rw [b.stepUnder_eq]
    exact does_handle _ _ _
  · intro id
    rw [b₀.contains_runAll hx, ← Server.contains_start hs]
    exact Iff.rfl
  · intro w source summary hr hl n hn ys hys reloaded later w' peer
    obtain ⟨hgone, hlt⟩ := b.replaced hr hl hn
    exact Books.accept_gone (b.stepUnder (x := (w, .reload source)) (by simp)) hgone hlt hys w' peer

/-- A start without plugins or TLS, with a client that is there already under the second number. -/
def metStart : Except Refusal Server × Host :=
  Server.startWith .plain
    { storage := ⟨⟨"documents"⟩⟩, connections := [{ id := 2, peer := { ip := .any .ipv4, port := 9 } }] }
    { modules := .builtin [] } .blank

/-- Whether the reload that a reply tells of replaced the listeners. -/
def replaced? : ServerReply → Option Bool
  | .reloaded (.ok summary) => some summary.listenersReplaced
  | _ => none

/-- An empty machine on which everything works. -/
def calmly (e : ServerEvent) : Circumstances × ServerEvent :=
  ({ disk := .empty, environment := [], clock := 0, bindFailures := [], openFailures := [] }, e)

/-- Three clients come in, of whom the second finds its number taken, another one comes in nowhere, and the first goes away. -/
def comings : List (Circumstances × ServerEvent) :=
  let peer : PeerAddress := { ip := .any .ipv4, port := 9 }
  [calmly (.accepted 1 peer), calmly (.accepted 2 peer), calmly (.accepted 1 peer), calmly (.accepted 7 peer), calmly (.closed 1)]

/-- The client that was there and the third are left. When the server has moved to another port, clients of the first endpoint are
dropped. -/
theorem visitors_of_start_met : ∃ (s : Server) (h : Host), metStart = (.ok s, h) ∧
    let l := run s ReloadEngine.elsewhere h
    let now := l.runAll h comings
    l.given h comings = [1, 2, 3] ∧ (l.given h comings).Pairwise (· < ·) ∧
    now.1.server.directory.connections.numbers = [2, 3] ∧
    (∀ id, now.1.server.registry.connections.contains id = true ↔ id ∈ [2, 3]) ∧
    let moved := now.1.stepUnder now.2 (calmly (.reload none))
    ∀ peer, (moved.1.stepUnder moved.2 (calmly (.accepted 1 peer))).1 = moved.1 := by
  have hrun : metStart.1.toOption.map (fun s =>
      let l := run s ReloadEngine.elsewhere metStart.2
      let now := l.runAll metStart.2 comings
      (l.given metStart.2 comings, now.1.server.directory.connections.numbers, now.1.server.pool.numbers,
        replaced? (now.1.step (now.2.under (calmly .status).1) (.reload none)).1)) = some ([1, 2, 3], [2, 3], [1, 2], some true) := by
    decide +kernel
  cases hs : metStart with
  | mk started h =>
    rw [hs] at hrun
    cases started with
    | error e => cases hrun
    | ok s =>
      simp only [Except.toOption, Option.map_some, Option.some.injEq, Prod.mk.injEq] at hrun
      obtain ⟨hgiven, hnumbers, hpool, hreply⟩ := hrun
      have hgoesOn : ∀ x ∈ comings, x.2 ≠ .shutdown := by simp [comings, calmly]
      have hall := visitors_of_start hs ReloadEngine.elsewhere hgoesOn
      refine ⟨s, h, rfl, hgiven, hall.2.1, hnumbers, fun id => ?_, fun peer => ?_⟩
      · rw [hall.2.2.2.2.1, Roster.contains_iff, hnumbers]
      · have hlast := hall.2.2.2.2.2.2 (calmly .status).1 none
        revert hlast hreply
        generalize (ServerLoop.step _ _ (.reload none)).1 = reply
        intro hreply hlast
        unfold replaced? at hreply
        split at hreply
        · next summary =>
          have hone : 1 ∈ ((run s ReloadEngine.elsewhere h).runAll h comings).1.server.pool.numbers := by
            rw [hpool]
            exact List.mem_cons_self
          have hdropped := congrArg Prod.fst (hlast summary rfl (Option.some.inj hreply) 1 hone [] (by simp) (calmly .status).1 peer)
          exact hdropped
        · cases hreply

end ServerLoop
end CoEdit
