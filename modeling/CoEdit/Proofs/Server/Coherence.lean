import CoEdit.Proofs.Server.Run

/-!
# Snapshots and their copies

What a snapshot says of policy, credentials, context and root is copied: into the endpoints, into the directory, and from there into
the connections. `Server.Coherent` says that the copies agree with the snapshot. A start and a reload make them agree
(`Server.coherent_start`, `Server.Coherent.commit`), and what else is done to a server keeps them so.
-/

namespace CoEdit

/-! ## Directories -/

/-- The directory and its connections have a context, and the documents and accounts are those below a root. -/
structure Directory.Serves (d : Directory) (context : Option AuthContext) (root : Path) : Prop where
  security : d.security = context
  connections : ∀ c ∈ d.connections, c.context = context
  root : d.storageRoot.same root = true
  accounts : d.accounts.store = some d.storage

namespace Directory

variable {d : Directory} {context : Option AuthContext} {root : Path}

/-- A context is installed on the directory and on every connection. -/
theorem serves_installContext (d : Directory) (hr : d.storageRoot.same root = true)
    (ha : d.accounts.store = some d.storage) (context : Option AuthContext) :
    (d.installContext context).Serves context root := by
  refine ⟨rfl, ?_, hr, ha⟩
  intro c hc
  obtain ⟨c', -, rfl⟩ := List.mem_map.1 hc
  exact Connection.install_context c' context

/-- A connection that is added takes the context of the directory. -/
theorem Serves.insert (hd : d.Serves context root) (c : Connection) :
    Serves { d with connections := d.connections.insert (c.install d.security) } context root := by
  refine ⟨hd.security, ?_, hd.root, hd.accounts⟩
  intro x hx
  rcases Roster.mem_of_mem_insert hx with rfl | hx
  · exact hd.security
  · exact hd.connections x hx

theorem Serves.remove (hd : d.Serves context root) (id : Nat) :
    Serves { d with connections := d.connections.remove id } context root :=
  ⟨hd.security, fun c hc => hd.connections c ((List.mem_filter.1 hc).1), hd.root, hd.accounts⟩

/-- A handshake changes no context. -/
theorem Serves.update (hd : d.Serves context root) (id : Nat) {f : Connection → Connection}
    (hf : ∀ c, (f c).context = c.context) : (d.updateConnection id f).Serves context root := by
  refine ⟨hd.security, ?_, hd.root, hd.accounts⟩
  intro c hc
  obtain ⟨c', hc', rfl⟩ := List.mem_map.1 hc
  split
  · exact (hf c').trans (hd.connections c' hc')
  · exact hd.connections c' hc'

end Directory

/-- Documents that were attached are those of the root, and the accounts are attached to them. -/
theorem attachStorage_ok {d : Disk} {root : Path} {x : AttachedStorage} (h : attachStorage d root = .ok x) :
    x.storage.root = root ∧ x.accounts.store = some x.storage := by
  unfold attachStorage at h
  dsimp only at h
  split at h
  · cases h
  · rename_i accounts ha
    cases h
    unfold AccountBook.attach at ha
    cases hl : AccountBook.load { root } d with
    | error e =>
      rw [hl] at ha
      cases ha
    | ok table =>
      rw [hl] at ha
      cases ha
      exact ⟨rfl, rfl⟩

theorem Path.same_refl (p : Path) : p.same p = true := decide_eq_true rfl

/-- A path that is the same as one that is the same as a third is the same as the third. -/
theorem Path.same_trans {p q r : Path} (h : p.same q = true) (h' : q.same r = true) : p.same r = true :=
  decide_eq_true ((of_decide_eq_true h).trans (of_decide_eq_true h'))

theorem Path.same_symm {p q : Path} (h : p.same q = true) : q.same p = true :=
  decide_eq_true (of_decide_eq_true h).symm

/-! ## Servers -/

/-- A snapshot has the credentials that its policy needs. -/
def Snapshot.IsCovered (s : Snapshot) : Prop := s.policy.usesTls = true → s.credentials.isSome = true

/-- The snapshot of a valid configuration has the credentials that its policy needs. -/
theorem Snapshot.isCovered_of_valid {s : Snapshot} (hv : s.config.IsValid)
    (hc : s.credentials.isSome = s.config.security.hasCertificate) : s.IsCovered :=
  fun ht => hc.trans (hv.hasCertificate ht)

/-- An endpoint that is given what a covered snapshot says is covered. -/
theorem Endpoint.isCovered_of_carries {e : Endpoint} {s : Snapshot} {context : Option AuthContext}
    (he : e.Carries s.policy s.credentials context) (hs : s.IsCovered) : e.isCovered = true := by
  obtain ⟨hp, hc, -⟩ := he
  rw [isCovered, hp, hc]
  cases ht : s.policy.usesTls with
  | false => rfl
  | true => exact hs ht

namespace Server

/-- The endpoints and the directory agree with the snapshot. -/
structure Coherent (s : Server) : Prop where
  endpoints : ∀ e ∈ s.pool, e.Carries s.snapshot.policy s.snapshot.credentials s.snapshot.context
  directory : s.directory.Serves s.snapshot.context s.snapshot.storageRoot
  isCovered : s.snapshot.IsCovered

variable {s : Server} {h h' : Host}

/-- A server that was started with a valid configuration is coherent. -/
theorem coherent_start {c : Config} {dir : Directory} {options : ServerOptions} (hv : c.IsValid)
    (hs : startWith c dir options h = (.ok s, h')) : s.Coherent := by
  obtain ⟨snapshot, h₁, bound, h₂, storage, opened, h₃, hp, -, ha, -, he⟩ := startWith_ok hs
  obtain ⟨rfl, hc⟩ := Snapshot.prepare_ok hp
  obtain ⟨hroot, hacc⟩ := attachStorage_ok ha
  have hsame : storage.storage.root.same snapshot.storageRoot = true := hroot ▸ Path.same_refl _
  have hcoh : (assemble snapshot opened storage dir options h₃).2.1.Coherent :=
    ⟨Pool.carries_withContext _ _ _ _ (Pool.carries_addListeners [] _ _ _ h₃ opened (by simp)),
      Directory.serves_installContext (dir.setStorage _ _) hsame hacc _, Snapshot.isCovered_of_valid hv hc⟩
  rw [he] at hcoh
  exact hcoh

/-- The endpoints after a reload carry what the new snapshot says. -/
theorem carries_renewPool (s : Server) (h : Host) (a : Acquisition) :
    ∀ e ∈ (s.renewPool h a).1.withContext a.snapshot.context,
      e.Carries a.snapshot.policy a.snapshot.credentials a.snapshot.context := by
  unfold renewPool
  split
  · exact Pool.carries_secured_withContext _ _ _ _
  · exact Pool.carries_withContext _ _ _ _ (Pool.carries_addListeners [] _ _ _ _ _ (by simp))

/-- The documents after a reload are those of the new root, whether they were replaced or not. -/
theorem renewStorage_root (hs : s.Coherent) {a : Acquisition} (ha : s.Fits a) (h : Host) :
    (renewStorage s.directory h a).1.storageRoot.same a.snapshot.storageRoot = true ∧
      (renewStorage s.directory h a).1.accounts.store = some (renewStorage s.directory h a).1.storage := by
  have hst := ha.storage
  unfold renewStorage
  cases hx : a.storage with
  | none =>
    rw [hx] at hst
    exact ⟨Path.same_trans hs.directory.root (Path.same_symm hst), hs.directory.accounts⟩
  | some x =>
    rw [hx] at hst
    obtain ⟨d, hd⟩ := hst
    obtain ⟨hroot, hacc⟩ := attachStorage_ok hd
    exact ⟨(congrArg (fun p => Path.same p a.snapshot.storageRoot) hroot).trans (Path.same_refl _), hacc⟩

/-- A server that takes over what fits is coherent again. -/
theorem Coherent.commit (hs : s.Coherent) {a : Acquisition} (ha : s.Fits a) (h : Host) : (s.commit h a).2.1.Coherent := by
  obtain ⟨hroot, hacc⟩ := renewStorage_root hs ha (s.registry.unloadAll (s.renewPool h a).2).2
  exact ⟨carries_renewPool s h a, Directory.serves_installContext _ hroot hacc _,
    Snapshot.isCovered_of_valid ha.valid ha.covered⟩

/-- A server stays coherent through every action that is reported. -/
theorem Coherent.perform (hs : s.Coherent) {a : ServerAction} (ha : a.IsReported) : (s.perform h a).1.Coherent := by
  cases a with
  | reload engine source =>
    rcases reload_cases engine s h source with ⟨a, h₁, hac, he⟩ | ⟨r, h₁, entry, -, he⟩
    · rw [Server.perform, he]
      exact hs.commit (acquire_fits hac) h₁
    · rw [Server.perform, he]
      exact hs
  | addConnection c =>
    rw [Server.perform]
    cases hc : s.directory.connections.contains c.id with
    | true =>
      rw [addConnection_refused s h hc]
      exact hs
    | false =>
      rw [addConnection_accepted s h hc]
      exact ⟨hs.endpoints, hs.directory.insert c, hs.isCovered⟩
  | removeConnection id =>
    rw [Server.perform]
    cases hc : s.directory.connection? id with
    | none =>
      rw [removeConnection_unknown s h hc]
      exact ⟨hs.endpoints, hs.directory.remove id, hs.isCovered⟩
    | some c =>
      rw [removeConnection_known s h hc]
      exact ⟨hs.endpoints, hs.directory.remove id, hs.isCovered⟩
  | addSession x =>
    have hd := hs.directory
    rw [Server.perform]
    cases hx : s.directory.sessions.contains x.id with
    | true =>
      rw [addSession_refused s h hx]
      exact hs
    | false =>
      rw [addSession_accepted s h hx]
      exact ⟨hs.endpoints, ⟨hd.security, hd.connections, hd.root, hd.accounts⟩, hs.isCovered⟩
  | removeSession id =>
    have hd := hs.directory
    rw [Server.perform]
    cases hx : s.directory.session? id with
    | none =>
      rw [removeSession_unknown s h hx]
      exact ⟨hs.endpoints, ⟨hd.security, hd.connections, hd.root, hd.accounts⟩, hs.isCovered⟩
    | some x =>
      rw [removeSession_known s h hx]
      exact ⟨hs.endpoints, ⟨hd.security, hd.connections, hd.root, hd.accounts⟩, hs.isCovered⟩
  | beginAuthentication id => exact ⟨hs.endpoints, hs.directory.update id fun _ => rfl, hs.isCovered⟩
  | completeAuthentication id password => exact ⟨hs.endpoints, hs.directory.update id fun _ => rfl, hs.isCovered⟩
  | editDirectory f => exact ha.elim
  | shutdown => exact ⟨by simp [Server.perform, Server.shutdown], hs.directory, hs.isCovered⟩
  | circumstances w => exact hs

/-- Along a run that began with a valid configuration, and in which all that happens to the directory is reported, the endpoints and
the directory agree with the snapshot. No endpoint has a policy that needs credentials it does not have, neither now nor after the
policy and credentials of a configuration that is taken over were set. -/
theorem Reached.coherent {h₀ : Host} (hr : Reached Config.IsValid ServerAction.IsReported h₀ s h) :
    s.Coherent ∧ (∀ e ∈ s.pool, e.isCovered = true) ∧
      ∀ source a h', s.acquire h source = (.ok a, h') →
        ∀ e ∈ s.pool, (e.secured a.snapshot.policy a.snapshot.credentials).isCovered = true := by
  have hs : s.Coherent := by
    induction hr with
    | start hv hs => exact coherent_start hv hs
    | step _ a ha ih => exact ih.perform ha
  refine ⟨hs, fun e he => Endpoint.isCovered_of_carries (hs.endpoints e he) hs.isCovered, ?_⟩
  intro source a h' ha e _
  have hf := acquire_fits ha
  exact Endpoint.isCovered_of_carries ⟨rfl, rfl, rfl⟩ (Snapshot.isCovered_of_valid hf.valid hf.covered)

/-- A configuration with a password and another port reaches the endpoints and a connection that was there before. -/
theorem coherent_of_password : ∃ s h, Reached Config.IsValid ServerAction.IsReported .blank s h ∧
    s.pool.map (·.context) = [some (.plain "secret"), some (.plain "secret")] ∧
    s.directory.connections.map (·.context) = [some (.plain "secret")] ∧ s.Coherent := by
  let actions : List ServerAction :=
    [.addConnection { id := 1, peer := { ip := .any .ipv4, port := 9 } }, .beginAuthentication 1,
      .reload {} (.inline .json
        "\x7b\"security\":\x7b\"policy\":\"no-tls\",\"password\":\"secret\"\x7d,\"server\":\x7b\"port\":7000\x7d\x7d")]
  have hrun : plainStart.1.toOption.map (fun s =>
      ((s.performAll plainStart.2 actions).1.pool.map (·.context),
        (s.performAll plainStart.2 actions).1.directory.connections.map (·.context))) =
      some ([some (.plain "secret"), some (.plain "secret")], [some (.plain "secret")]) := by
    decide +kernel
  obtain ⟨s, h, hs⟩ := plainStart_ok
  rw [hs] at hrun
  simp only [Except.toOption, Option.map_some, Option.some.injEq, Prod.mk.injEq] at hrun
  have hr : Reached Config.IsValid ServerAction.IsReported .blank s h := .start Config.plain_isValid hs
  have hr' := hr.performAll actions (by simp [actions, ServerAction.IsReported])
  exact ⟨_, _, hr', hrun.1, hrun.2, (Reached.coherent hr').1⟩

end Server
end CoEdit
