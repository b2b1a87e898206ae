import CoEdit.Proofs.Network.Custody
import CoEdit.Server.Reload

/-!
# What acquiring leaves behind

Up to the point where a configuration is taken over, a server only acquires. `Host.Calm` says that between two hosts something
may have been logged and listeners may have come and gone, and nothing else. Each stage is calm, and holds what it answers with:
the listeners of its result if it succeeds, and none if it fails (`acquire_error`, `acquire_holds`).
-/

namespace CoEdit

/-- Between two hosts nothing happened but that entries were logged and the network changed. -/
structure Host.Calm (h h' : Host) : Prop where
  disk : h'.disk = h.disk
  environment : h'.environment = h.environment
  clock : h'.clock = h.clock
  nextPlugin : h'.nextPlugin = h.nextPlugin
  nextEndpoint : h'.nextEndpoint = h.nextEndpoint
  logged : ∃ es : List LogEntry, h'.trace = h.trace ++ es.map fun e => .said (.log e)

namespace Host

variable {h h' h'' : Host}

theorem Calm.refl (h : Host) : Calm h h := ⟨rfl, rfl, rfl, rfl, rfl, [], by simp⟩

theorem Calm.trans (c : Calm h h') (c' : Calm h' h'') : Calm h h'' := by
  obtain ⟨es, hes⟩ := c.logged
  obtain ⟨es', hes'⟩ := c'.logged
  refine ⟨c'.disk.trans c.disk, c'.environment.trans c.environment, c'.clock.trans c.clock,
    c'.nextPlugin.trans c.nextPlugin, c'.nextEndpoint.trans c.nextEndpoint, es ++ es', ?_⟩
  rw [hes', hes, List.map_append, List.append_assoc]

theorem Calm.log (c : Calm h h') (e : LogEntry) : Calm h (h'.log e) :=
  c.trans ⟨rfl, rfl, rfl, rfl, rfl, [e], rfl⟩

/-- A change of the network is calm. -/
theorem Calm.network (c : Calm h h') (n : Network) : Calm h { h' with network := n } :=
  c.trans ⟨rfl, rfl, rfl, rfl, rfl, [], by simp⟩

theorem Calm.logAll (c : Calm h h') (es : List LogEntry) : Calm h (h'.logAll es) := by
  induction es generalizing h' with
  | nil => exact c
  | cons e es ih => exact ih (c.log e)

@[simp] theorem network_log (h : Host) (e : LogEntry) : (h.log e).network = h.network := rfl

@[simp] theorem network_logAll (h : Host) (es : List LogEntry) : (h.logAll es).network = h.network := by
  induction es generalizing h with
  | nil => rfl
  | cons e es ih => exact ih (h.log e)

end Host

/-! ## Binding and opening -/

/-- What was bound so far is all that is held. -/
def Binding.Sound (h : Host) (b : Binding) : Prop := h.Calm b.host ∧ h.network.Holds b.host.network b.bound

theorem Binding.Sound.step {h : Host} {b : Binding} (hb : b.Sound h) (address : Option IpAddress) (port : UInt16)
    (family : AddressFamily) : (b.step address port family).Sound h := by
  unfold Binding.step
  generalize hc : b.host.network.create family address port = c
  obtain ⟨l, m⟩ := c
  dsimp only
  split
  · rename_i m' hm
    exact ⟨hb.1.network m', hb.2.bind_ok hc hm⟩
  · rename_i e m' hm
    exact ⟨(hb.1.network (m'.release l)).log _, hb.2.bind_error hc hm⟩

theorem Binding.Sound.foldl {h : Host} (address : Option IpAddress) (port : UInt16) (families : List AddressFamily) :
    ∀ {b : Binding}, b.Sound h → (families.foldl (Binding.step address port) b).Sound h := by
  induction families with
  | nil => exact id
  | cons f fs ih => exact fun hb => ih (hb.step address port f)

/-- Binding listeners is calm, and what it answers with is all that is held. -/
theorem bindListeners_holds {h h' : Host} {address : Option IpAddress} {port : UInt16} {r : Except Refusal (List Listener)}
    (hb : bindListeners h address port = (r, h')) : h.Calm h' ∧ h.network.Holds h'.network (r.toOption.getD []) := by
  have hs : Binding.Sound h ((IpAddress.families address).foldl (Binding.step address port) { host := h }) :=
    Binding.Sound.foldl address port _ ⟨Host.Calm.refl h, Network.Holds.refl _⟩
  unfold bindListeners at hb
  revert hs hb
  generalize (IpAddress.families address).foldl (Binding.step address port) { host := h } = b
  intro hb hs
  dsimp only at hb
  split at hb
  · rename_i hnil _
    cases hb
    rw [Binding.Sound, hnil] at hs
    exact hs
  · cases hb
    exact hs

/-- What was opened so far and what is still to be opened is all that is held, and what was opened is open. -/
def Opening.Sound (n₀ : Network) (h : Host) (rest : List Listener) (o : Opening) : Prop :=
  h.Calm o.host ∧ n₀.Holds o.host.network (o.opened ++ rest) ∧ ∀ l ∈ o.opened, o.host.network.isOpen l = true

theorem Opening.Sound.step {n₀ : Network} {h : Host} {l : Listener} {rest : List Listener} {o : Opening}
    (ho : o.Sound n₀ h (l :: rest)) : (o.step l).Sound n₀ h rest := by
  obtain ⟨hc, hh, hopen⟩ := ho
  have hl : l ∈ o.opened ++ l :: rest := by simp
  have hne : ∀ x ∈ o.opened, x.number ≠ l.number := by
    have hd := hh.distinct
    rw [List.map_append, List.map_cons, List.perm_middle.nodup_iff, List.nodup_cons, ← List.map_append] at hd
    intro x hx he
    exact hd.1 (he ▸ List.mem_map_of_mem (List.mem_append_left rest hx))
  unfold Opening.step
  split
  · rename_i m hm
    obtain ⟨hh', hd, hol⟩ := hh.openListener_ok hl hm
    refine ⟨hc.network m, by simpa using hh', ?_⟩
    intro x hx
    rcases List.mem_append.1 hx with hx | hx
    · exact (Network.isOpen_congr (hd.2 _ (hne x hx))).trans (hopen x hx)
    · rw [List.mem_singleton.1 hx]
      exact hol
  · rename_i e m hm
    obtain rfl := hh.openListener_error hl hm
    refine ⟨(hc.network (o.host.network.release l)).log _, hh.release, ?_⟩
    intro x hx
    exact (Network.isOpen_congr (Network.state?_release_ne _ (hne x hx))).trans (hopen x hx)

theorem Opening.Sound.foldl {n₀ : Network} {h : Host} (ls : List Listener) :
    ∀ {o : Opening}, o.Sound n₀ h ls → (ls.foldl Opening.step o).Sound n₀ h [] := by
  induction ls with
  | nil => exact id
  | cons l ls ih => exact fun ho => ih ho.step

/-- Opening listeners that are held is calm. What it answers with is all that is still held, and open. -/
theorem openListeners_holds {n₀ : Network} {h h' : Host} {bound : List Listener} {r : Except Refusal (List Listener)}
    (hh : n₀.Holds h.network bound) (ho : openListeners h bound = (r, h')) :
    h.Calm h' ∧ n₀.Holds h'.network (r.toOption.getD []) ∧ ∀ l ∈ r.toOption.getD [], h'.network.isOpen l = true := by
  have hs : Opening.Sound n₀ h [] (bound.foldl Opening.step { host := h }) :=
    Opening.Sound.foldl bound ⟨Host.Calm.refl h, hh, by simp⟩
  unfold openListeners at ho
  revert hs ho
  generalize bound.foldl Opening.step { host := h } = o
  intro ho hs
  rw [Opening.Sound, List.append_nil] at hs
  dsimp only at ho
  split at ho
  · rename_i hnil _
    cases ho
    rw [hnil] at hs
    exact hs
  · cases ho
    exact hs

/-- Listeners that are let go are not held. -/
theorem release_holds {n₀ : Network} {h : Host} {ls : List Listener} (hh : n₀.Holds h.network ls) :
    n₀.Holds (h.release ls).network [] :=
  Network.Holds.releaseAll hh

/-! ## Configurations and snapshots -/

/-- A configuration that validation lets through. -/
def Config.IsValid (c : Config) : Prop := c.validate.2 = .ok ()

/-- A list of findings with a fault in it has no good verdict. -/
theorem Finding.not_mem_of_verdict {fs : List Finding} (h : (verdict fs).2 = .ok ()) (e : ConfigError) : .fault e ∉ fs := by
  induction fs with
  | nil => exact List.not_mem_nil
  | cons f fs ih =>
    cases f with
    | fault e' => cases h
    | warning w =>
      intro hm
      rcases List.mem_cons.1 hm with hm | hm
      · cases hm
      · exact ih h hm

/-- A valid configuration with a policy that needs a certificate has one. -/
theorem Config.IsValid.hasCertificate {c : Config} (h : c.IsValid) (ht : c.security.policy.usesTls = true) :
    c.security.hasCertificate = true := by
  cases hn : c.security.hasCertificate with
  | true => rfl
  | false =>
    refine absurd ?_ (Finding.not_mem_of_verdict h (.policyWithoutCertificate c.security.policy))
    simp [findings, securityFindings, Finding.faultIf, ht, hn]

/-- A loaded configuration is valid. -/
theorem ConfigSource.load_valid {source : ConfigSource} {env : Environment} {d : Disk} {log : List LogEntry} {c : Config}
    (h : source.load env d = (log, .ok c)) : c.IsValid := by
  unfold ConfigSource.load Config.validated at h
  split at h
  · cases h
  · rename_i c' _
    dsimp only at h
    unfold Config.IsValid
    cases hv : c'.validate.2 with
    | error e =>
      rw [hv] at h
      cases h
    | ok u =>
      rw [hv] at h
      cases h
      exact hv

theorem Server.loadConfig_calm {source : ConfigSource} {h h' : Host} {r : Except Refusal Config}
    (hl : Server.loadConfig source h = (r, h')) : h.Calm h' ∧ h'.network = h.network := by
  unfold Server.loadConfig at hl
  cases hl
  exact ⟨(Host.Calm.refl h).logAll _, Host.network_logAll _ _⟩

theorem Server.loadConfig_valid {source : ConfigSource} {h h' : Host} {c : Config}
    (hl : Server.loadConfig source h = (.ok c, h')) : c.IsValid := by
  unfold Server.loadConfig at hl
  generalize hs : source.load h.environment h.disk = x at hl
  obtain ⟨log, r⟩ := x
  cases r with
  | error e => cases hl
  | ok c' =>
    cases hl
    exact ConfigSource.load_valid hs

namespace Snapshot

variable {c : Config} {live : Option DhParameters} {h h' : Host}

/-- There are credentials exactly if a certificate and its key are set. -/
theorem credentialsOf_isSome {d : Disk} {x : Option Credentials} (hx : credentialsOf c d = .ok x) :
    x.isSome = c.security.hasCertificate := by
  unfold credentialsOf at hx
  split at hx
  · rename_i cert key hc hk
    cases hl : Credentials.load d cert key c.security.certificateChain with
    | error e =>
      rw [hl] at hx
      cases hx
    | ok cr =>
      rw [hl] at hx
      cases hx
      simp [SecuritySettings.hasCertificate, hc, hk]
  · rename_i hn
    cases hx
    cases hc : c.security.certificateFile with
    | none => simp [SecuritySettings.hasCertificate, hc]
    | some cert =>
      cases hk : c.security.keyFile with
      | none => simp [SecuritySettings.hasCertificate, hk]
      | some key => exact absurd hk (hn cert key hc)

theorem prepare_calm {r : Except Refusal Snapshot} (hp : prepare c live h = (r, h')) :
    h.Calm h' ∧ h'.network = h.network := by
  have hr : h.Calm { h with nextSerial := h.nextSerial + 1 } := ⟨rfl, rfl, rfl, rfl, rfl, [], by simp⟩
  unfold prepare at hp
  split at hp
  · cases hp
    exact ⟨Host.Calm.refl h, rfl⟩
  · cases hp
    exact ⟨Host.Calm.refl h, rfl⟩
  · split at hp
    · cases hp
      exact ⟨Host.Calm.refl h, rfl⟩
    · cases hp
      exact ⟨hr, rfl⟩

/-- The snapshot of a configuration has credentials exactly if a certificate and its key are set. -/
theorem prepare_ok {s : Snapshot} (hp : prepare c live h = (.ok s, h')) :
    s.config = c ∧ s.credentials.isSome = c.security.hasCertificate := by
  unfold prepare at hp
  split at hp
  · cases hp
  · rename_i hc
    cases hp
    exact ⟨rfl, credentialsOf_isSome hc⟩
  · rename_i cr hc
    split at hp
    · cases hp
    · cases hp
      have := credentialsOf_isSome hc
      exact ⟨rfl, this⟩

end Snapshot

/-! ## The stages together -/

/-- The listeners in the hands of someone who got an answer. -/
def held : Except Refusal (Option (List Listener)) → List Listener
  | .ok (some ls) => ls
  | _ => []

@[simp] theorem held_error (e : Refusal) : held (.error e) = [] := rfl

@[simp] theorem held_ok (ls : Option (List Listener)) : held (.ok ls) = ls.getD [] := by
  cases ls <;> rfl

namespace Server

variable {s : Server} {h h' : Host} {candidate : Snapshot}

theorem bindCandidate_holds {changes : Bool} {r : Except Refusal (Option (List Listener))}
    (hb : bindCandidate h candidate changes = (r, h')) : h.Calm h' ∧ h.network.Holds h'.network (held r) := by
  unfold bindCandidate at hb
  split at hb
  · cases hx : bindListeners h candidate.listenAddress candidate.port with
    | mk bound h₁ =>
      have hs := bindListeners_holds hx
      rw [hx] at hb
      cases hb
      cases bound <;> exact hs
  · cases hb
    exact ⟨Host.Calm.refl h, Network.Holds.refl _⟩

theorem openCandidate_holds {n₀ : Network} {bound : Option (List Listener)} {r : Except Refusal (Option (List Listener))}
    (hh : n₀.Holds h.network (bound.getD [])) (ho : openCandidate h bound = (r, h')) :
    h.Calm h' ∧ n₀.Holds h'.network (held r) ∧ ∀ l ∈ held r, h'.network.isOpen l = true := by
  cases bound with
  | none =>
    cases ho
    exact ⟨Host.Calm.refl h, hh, by simp⟩
  | some ls =>
    cases hx : openListeners h ls with
    | mk opened h₁ =>
      have hs := openListeners_holds hh hx
      simp only [openCandidate, hx] at ho
      cases ho
      cases opened <;> exact hs

/-- What is acquired for a candidate is all that is held, and open. -/
theorem acquireFor_holds {current : UInt16} {r : Except Refusal Acquisition} (ha : s.acquireFor h candidate current = (r, h')) :
    h.Calm h' ∧ h.network.Holds h'.network (held (r.map (·.listeners))) ∧
      ∀ l ∈ held (r.map (·.listeners)), h'.network.isOpen l = true := by
  unfold acquireFor at ha
  split at ha
  · rename_i e h₁ hb
    obtain ⟨hc, hh⟩ := bindCandidate_holds hb
    cases ha
    exact ⟨hc, hh, by simp [Except.map]⟩
  · rename_i bound h₁ hb
    obtain ⟨hc, hh⟩ := bindCandidate_holds hb
    rw [held_ok] at hh
    split at ha
    · cases ha
      exact ⟨hc.network _, release_holds hh, by simp [Except.map]⟩
    · split at ha
      · rename_i e h₂ ho
        obtain ⟨hc', hh', -⟩ := openCandidate_holds hh ho
        cases ha
        exact ⟨hc.trans hc', hh', by simp [Except.map]⟩
      · rename_i listeners h₂ ho
        obtain ⟨hc', hh', hopen⟩ := openCandidate_holds hh ho
        cases ha
        exact ⟨hc.trans hc', hh', hopen⟩

/-- Acquiring is calm. What is acquired is all that is held, and open; if acquiring fails, nothing is held. -/
theorem acquire_holds {source : ConfigSource} {r : Except Refusal Acquisition} (ha : s.acquire h source = (r, h')) :
    h.Calm h' ∧ h.network.Holds h'.network (held (r.map (·.listeners))) ∧
      ∀ l ∈ held (r.map (·.listeners)), h'.network.isOpen l = true := by
  unfold acquire at ha
  split at ha
  · rename_i e h₁ hl
    obtain ⟨hc, hn⟩ := loadConfig_calm hl
    cases ha
    exact ⟨hc, hn ▸ Network.Holds.refl _, by simp [Except.map]⟩
  · rename_i c h₁ hl
    obtain ⟨hc, hn⟩ := loadConfig_calm hl
    split at ha
    · rename_i e h₂ hp
      obtain ⟨hc', hn'⟩ := Snapshot.prepare_calm hp
      cases ha
      exact ⟨hc.trans hc', hn'.trans hn ▸ Network.Holds.refl _, by simp [Except.map]⟩
    · rename_i candidate h₂ hp
      obtain ⟨hc', hn'⟩ := Snapshot.prepare_calm hp
      have hnn := hn'.trans hn
      split at ha
      · cases ha
        exact ⟨hc.trans hc', hnn ▸ Network.Holds.refl _, by simp [Except.map]⟩
      · split at ha
        · cases ha
          exact ⟨hc.trans hc', hnn ▸ Network.Holds.refl _, by simp [Except.map]⟩
        · obtain ⟨hc'', hh, hopen⟩ := acquireFor_holds ha
          exact ⟨(hc.trans hc').trans hc'', hnn ▸ hh, hopen⟩

/-! ## What was acquired -/

/-- What holds of everything a server acquires: the snapshot is that of a valid configuration, and there are other documents exactly
if the root changed. -/
structure Fits (s : Server) (a : Acquisition) : Prop where
  valid : a.snapshot.config.IsValid
  covered : a.snapshot.credentials.isSome = a.snapshot.config.security.hasCertificate
  storage : match a.storage with
    | none => a.snapshot.storageRoot.same s.snapshot.storageRoot = true
    | some storage => ∃ d, attachStorage d a.snapshot.storageRoot = .ok storage

theorem attachCandidate_ok {d : Disk} {storage : Option AttachedStorage}
    (hs : s.attachCandidate d candidate = .ok storage) :
    match storage with
    | none => candidate.storageRoot.same s.snapshot.storageRoot = true
    | some storage => attachStorage d candidate.storageRoot = .ok storage := by
  unfold attachCandidate at hs
  split at hs
  · cases hs
    assumption
  · cases ha : attachStorage d candidate.storageRoot with
    | error e =>
      rw [ha] at hs
      cases hs
    | ok x =>
      rw [ha] at hs
      cases hs
      rfl

/-- What is acquired for a candidate went through all stages. -/
theorem acquireFor_ok {current : UInt16} {a : Acquisition} (ha : s.acquireFor h candidate current = (.ok a, h')) :
    a.snapshot = candidate ∧ ∃ bound h₁, bindCandidate h candidate (s.portChanges current candidate) = (.ok bound, h₁) ∧
      s.attachCandidate h₁.disk candidate = .ok a.storage ∧ openCandidate h₁ bound = (.ok a.listeners, h') := by
  unfold acquireFor at ha
  split at ha
  · cases ha
  · rename_i bound h₁ hb
    split at ha
    · cases ha
    · rename_i storage hs
      split at ha
      · cases ha
      · rename_i listeners h₂ ho
        cases ha
        exact ⟨rfl, bound, h₁, hb, hs, ho⟩

/-- What is acquired is acquired for the snapshot of a configuration with the present address, on the present port. -/
theorem acquire_ok {source : ConfigSource} {a : Acquisition} (ha : s.acquire h source = (.ok a, h')) : ∃ c h₁ h₂ current,
    loadConfig source h = (.ok c, h₁) ∧ Snapshot.prepare c s.snapshot.dhParameters h₁ = (.ok a.snapshot, h₂) ∧
      a.snapshot.listenAddress = s.snapshot.listenAddress ∧ s.port? h₂ = some current ∧
      s.acquireFor h₂ a.snapshot current = (.ok a, h') := by
  unfold acquire at ha
  split at ha
  · cases ha
  · rename_i c h₁ hl
    split at ha
    · cases ha
    · rename_i candidate h₂ hp
      split at ha
      · cases ha
      · rename_i haddress
        split at ha
        · cases ha
        · rename_i current hc
          obtain ⟨rfl, -⟩ := acquireFor_ok ha
          exact ⟨c, h₁, h₂, current, hl, hp, Decidable.not_not.1 haddress, hc, ha⟩

/-- What a server acquires fits. -/
theorem acquire_fits {source : ConfigSource} {a : Acquisition} (ha : s.acquire h source = (.ok a, h')) : s.Fits a := by
  obtain ⟨c, h₁, h₂, current, hl, hp, -, -, hf⟩ := acquire_ok ha
  obtain ⟨-, bound, h₃, -, hs, -⟩ := acquireFor_ok hf
  obtain ⟨hc, hcr⟩ := Snapshot.prepare_ok hp
  refine ⟨hc ▸ loadConfig_valid hl, hc ▸ hcr, ?_⟩
  cases hst : a.storage with
  | none =>
    rw [hst] at hs
    exact attachCandidate_ok hs
  | some storage =>
    rw [hst] at hs
    exact ⟨_, attachCandidate_ok hs⟩

end Server

end CoEdit
