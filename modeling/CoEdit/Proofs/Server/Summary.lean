import CoEdit.Proofs.Plugin.Outcomes
import CoEdit.Proofs.Server.Authentication
import CoEdit.Proofs.Server.Coherence
import CoEdit.Proofs.Server.Mirror
import CoEdit.Proofs.Server.Replacement
import Mathlib.Data.Finset.Card
import Mathlib.Data.List.Forall2

/-!
# What a reload tells of itself

A reload that succeeds leaves the clients alone: the connections and sessions are the ones there were, and a connection loses nothing
but a handshake in progress (`Connection.Survives`). The summary of the reload is exact: each of its entries is what can be seen by
comparing the server before with the server after (`ReloadSummary.IsExact`).
-/

namespace CoEdit

/-- A connection is another one after a reload: a handshake in progress was aborted, and any other state was kept. -/
structure Connection.Survives (c c' : Connection) : Prop where
  id : c'.id = c.id
  peer : c'.peer = c.peer
  aborted : c.state = .authenticating → c'.state = .unauthenticated
  kept : c.state ≠ .authenticating → c'.state = c.state

/-- A connection on which a context is installed survives. -/
theorem Connection.survives_install (c : Connection) (context : Option AuthContext) : c.Survives (c.install context) where
  id := rfl
  peer := rfl
  aborted hc := if_pos (decide_eq_true hc)
  kept hc := if_neg fun ha => hc (of_decide_eq_true ha)

/-! ## Plugins -/

/-- A batch that is put into a new registry loads or reports every name of its list, each once. -/
theorem Registry.counts_loadAll (h : Host) (source : ModuleSource) (requested : List String) (parameters : String → ParameterTable)
    (d : Directory) :
    (Registry.loadAll {} h source requested parameters d).1.loaded.length =
        (Registry.loadAll {} h source requested parameters d).2.1.instances.length ∧
      (Registry.loadAll {} h source requested parameters d).1.loaded.length +
        (Registry.loadAll {} h source requested parameters d).1.failures.length = requested.toFinset.card := by
  have hactive := active_loadAll {} h source requested parameters d
  have hreported := (reported_loadAll {} h source requested parameters d).length_eq
  have hmissing : (missing {} requested).toFinset = requested.toFinset := by
    ext name
    rw [List.mem_toFinset, List.mem_toFinset, mem_missing]
    exact and_iff_left List.not_mem_nil
  refine ⟨?_, ?_⟩
  · have hlength := congrArg List.length hactive
    rw [active, List.length_map, List.length_append] at hlength
    exact (hlength.trans (Nat.zero_add _)).symm
  · rw [List.length_append, List.length_map] at hreported
    rw [hreported, ← hmissing, List.toFinset_card_of_nodup (nodup_missing {} requested)]

/-! ## Reloads -/

/-- What a summary tells of a reload from a source is exact, and the reload left the clients alone. -/
structure ReloadSummary.IsExact (x : ReloadSummary) (source : ConfigSource) (s : Server) (h : Host) (s' : Server) : Prop where
  config : (source.load h.environment h.disk).2 = .ok s'.snapshot.config
  connections : List.Forall₂ Connection.Survives s.directory.connections s'.directory.connections
  sessions : s'.directory.sessions = s.directory.sessions
  abortedAuthentications :
    x.abortedAuthentications = (s.directory.connections.filter fun c => c.state = .authenticating).length
  listenersReplaced : x.listenersReplaced = true ↔ ¬s.KeepsPort h s'.snapshot.config
  storageReplaced : x.storageReplaced = true ↔ s'.snapshot.storageRoot.components ≠ s.snapshot.storageRoot.components
  storageKept : x.storageReplaced = false → s'.directory.storage = s.directory.storage ∧ s'.directory.accounts = s.directory.accounts
  pluginsLoaded : x.pluginsLoaded = s'.registry.instances.length
  pluginFailures : x.pluginsLoaded + x.pluginFailures.length = s'.snapshot.config.plugins.load.toFinset.card

namespace Server

variable {s s' : Server} {h h' h₀ : Host} {engine engine' : ReloadEngine} {source : ConfigSource} {summary : ReloadSummary}

/-- Documents are acquired exactly if the root has other components than before. -/
theorem acquire_storage {a : Acquisition} (ha : s.acquire h source = (.ok a, h')) :
    a.storage.isSome = true ↔ a.snapshot.storageRoot.components ≠ s.snapshot.storageRoot.components := by
  obtain ⟨c, h₁, h₂, current, -, -, -, -, hf⟩ := acquire_ok ha
  obtain ⟨-, bound, h₃, -, hs, -⟩ := acquireFor_ok hf
  unfold attachCandidate at hs
  generalize a.storage = storage at hs ⊢
  split at hs
  · rename_i hsame
    cases hs
    exact iff_of_false Bool.false_ne_true fun hne => hne (of_decide_eq_true hsame)
  · rename_i hdiffers
    cases hx : attachStorage h₃.disk a.snapshot.storageRoot with
    | error e =>
      rw [hx] at hs
      cases hs
    | ok x =>
      rw [hx] at hs
      cases hs
      exact iff_of_true rfl fun he => hdiffers (decide_eq_true he)

/-- Taking over installs the new context on every connection, and every connection survives that. -/
theorem survives_commit (s : Server) (h : Host) (a : Acquisition) :
    List.Forall₂ Connection.Survives s.directory.connections (s.commit h a).2.1.directory.connections := by
  rw [connections_commit, List.forall₂_map_right_iff]
  exact List.forall₂_same.2 fun c _ => c.survives_install _

/-- A directory whose documents are not replaced is the one there was, with another context. -/
theorem directory_commit (s : Server) (h : Host) {a : Acquisition} (ha : a.storage = none) :
    (s.commit h a).2.1.directory = s.directory.installContext a.snapshot.context := by
  show (renewStorage s.directory _ a).1.installContext _ = _
  rw [renewStorage, ha]

theorem sessions_commit (s : Server) (h : Host) (a : Acquisition) :
    (s.commit h a).2.1.directory.sessions = s.directory.sessions := by
  show (renewStorage s.directory _ a).1.sessions = _
  unfold renewStorage
  split <;> rfl

/-- A reload that succeeds disturbs no client, and its summary is exact. Along a run that began with a valid configuration, and in which
all that happens to the directory is reported, the directory works on documents below another root exactly if the summary says so. -/
theorem summary_of_reload (he : engine.reload s h source = (.ok summary, engine', s', h')) :
    summary.IsExact source s h s' ∧
      (Reached Config.IsValid ServerAction.IsReported h₀ s h →
        (summary.storageReplaced = true ↔ s'.directory.storageRoot.components ≠ s.directory.storageRoot.components)) := by
  obtain ⟨a, g, ha, hc⟩ := reload_ok he
  obtain rfl : (s.commit g a).1 = summary := congrArg Prod.fst hc
  obtain rfl : (s.commit g a).2.1 = s' := congrArg (fun x => x.2.1) hc
  have hloaded : (source.load h.environment h.disk).2 = .ok a.snapshot.config := by
    obtain ⟨c, h₁, h₂, current, hl, hp, -⟩ := acquire_ok ha
    obtain ⟨rfl, -⟩ := Snapshot.prepare_ok hp
    exact load_of_loadConfig hl
  obtain ⟨hcounted, hrequested⟩ := Registry.counts_loadAll _ _ _ _ _
  refine ⟨⟨hloaded, s.survives_commit g a, s.sessions_commit g a, ?_, (acquire_listeners ha).1, acquire_storage ha, ?_, hcounted,
    hrequested⟩, ?_⟩
  · rw [abortedAuthentications_commit, Directory.authenticating, List.countP_eq_length_filter]
    rfl
  · intro hkept
    rw [s.directory_commit g (Option.not_isSome_iff_eq_none.1 (Bool.eq_false_iff.1 hkept))]
    exact ⟨rfl, rfl⟩
  · intro hr
    have hs : s.Coherent := by
      clear he ha hc hloaded hcounted hrequested
      induction hr with
      | start hv hs => exact coherent_start hv hs
      | step _ a ha ih => exact ih.perform ha
    have hs' : (s.commit g a).2.1.Coherent := hs.commit (acquire_fits ha) g
    have hroot := of_decide_eq_true hs.directory.root
    have hroot' := of_decide_eq_true hs'.directory.root
    rw [hroot, hroot']
    exact acquire_storage ha

/-- A configuration with another port and another root, in which a plugin is listed twice. -/
def movedTwice : ConfigSource := .inline .toml (movedDocument "[\"watch\", \"missing\", \"watch\"]")

/-- The server with a plugin has two connections, and one of them is in the middle of a handshake when it is told to move. The handshake
is aborted, one of the two plugins that are asked for is loaded and one is not, and the directory works below another root. -/
theorem summary_of_reload_moved : ∃ s h summary engine' s' h', Reached Config.IsValid ServerAction.IsReported .blank s h ∧
    ReloadEngine.reload {} s h movedTwice = (.ok summary, engine', s', h') ∧ summary.IsExact movedTwice s h s' ∧
    summary.abortedAuthentications = 1 ∧ summary.pluginsLoaded = 1 ∧ summary.pluginFailures.length = 1 ∧
    s'.snapshot.config.plugins.load.length = 3 ∧ s'.directory.connections.length = 2 ∧
    s'.directory.storageRoot.components ≠ s.directory.storageRoot.components := by
  let actions : List ServerAction :=
    [.addConnection { id := 2, peer := { ip := .any .ipv4, port := 8 } }, .beginAuthentication 1]
  have hrun : watchedStart.1.toOption.map (fun s =>
      let x := s.performAll watchedStart.2 actions
      let y := ReloadEngine.reload {} x.1 x.2 movedTwice
      y.1.toOption.map fun summary => (summary.storageReplaced, [summary.abortedAuthentications, summary.pluginsLoaded,
        summary.pluginFailures.length, y.2.2.1.snapshot.config.plugins.load.length, y.2.2.1.directory.connections.length])) =
      some (some (true, [1, 1, 1, 3, 2])) := by
    decide +kernel
  cases hs : watchedStart with
  | mk started h =>
    rw [hs] at hrun
    cases started with
    | error e => cases hrun
    | ok s =>
      have hr : Reached Config.IsValid ServerAction.IsReported .blank s h := .start (by unfold Config.IsValid; rfl) hs
      have hr' := hr.performAll actions (by simp [actions, ServerAction.IsReported])
      simp only [Except.toOption, Option.map_some, Option.some.injEq] at hrun
      cases hl : ReloadEngine.reload {} (s.performAll h actions).1 (s.performAll h actions).2 movedTwice with
      | mk outcome y =>
        obtain ⟨engine', s', h'⟩ := y
        rw [hl] at hrun
        cases outcome with
        | error e => cases hrun
        | ok summary =>
          simp only [Option.map_some, Option.some.injEq, Prod.mk.injEq, List.cons.injEq, and_true] at hrun
          obtain ⟨hreplaced, haborted, hloaded, hfailed, hlisted, hconnections⟩ := hrun
          obtain ⟨hexact, hroot⟩ := summary_of_reload hl
          exact ⟨_, _, summary, engine', s', h', hr', hl, hexact, haborted, hloaded, hfailed, hlisted, hconnections,
            (hroot hr').1 hreplaced⟩

end Server
end CoEdit
