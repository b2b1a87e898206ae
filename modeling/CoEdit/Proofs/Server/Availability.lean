import CoEdit.Proofs.Server.Decision

/-!
# No listener is lost

Every listener that is made from the start of a run on is for the address the run began with, and it is bound only as long as it
belongs to an endpoint: a start that is refused leaves none behind, whatever the reason, and neither does a reload or a shutdown.
From a start to a shutdown there is always an endpoint, so that a reload never finds a server that does not listen
(`Server.listeners_of_run`).
-/

namespace CoEdit
namespace Network

/-! ## Addresses of listeners -/

/-- The addresses that listeners were made for, in the order they were made. -/
def addresses (n : Network) : List (Option IpAddress) := n.listeners.map (·.address)

/-- All listeners made between two networks are for an address. -/
def MadeFor (address : Option IpAddress) (n n' : Network) : Prop := ∃ k, n'.addresses = n.addresses ++ List.replicate k address

/-- A listener was made and is bound. -/
def IsBound (n : Network) (i : Nat) : Prop := ∃ s, n.state? i = some s ∧ s.isBound = true

/-- Of the listeners made since `n₀`, those that are held are the ones that are bound. -/
theorem Holds.isBound_iff {n₀ n : Network} {ls : List Listener} (h : n₀.Holds n ls) {i : Nat} (hi : n₀.listeners.length ≤ i) :
    n.IsBound i ↔ i ∈ ls.map (·.number) := by
  constructor
  · rintro ⟨s, hs, hb⟩
    refine Decidable.byContradiction fun hn => ?_
    rw [(h.idle i hi hn s hs).1] at hb
    cases hb
  · intro hm
    obtain ⟨l, hl, rfl⟩ := List.mem_map.1 hm
    exact h.bound l hl

section
variable {address : Option IpAddress} {n n' n'' : Network}

theorem madeFor_of_eq (h : n'.addresses = n.addresses) : MadeFor address n n' := ⟨0, by simp [h]⟩

theorem MadeFor.refl (address : Option IpAddress) (n : Network) : MadeFor address n n := madeFor_of_eq rfl

theorem MadeFor.trans (a : MadeFor address n n') (b : MadeFor address n' n'') : MadeFor address n n'' := by
  obtain ⟨k, hk⟩ := a
  obtain ⟨m, hm⟩ := b
  exact ⟨k + m, by rw [hm, hk, List.append_assoc, List.replicate_append_replicate]⟩

end

theorem addresses_change (n : Network) (i : Nat) {f : ListenerState → ListenerState} (hf : ∀ s, (f s).address = s.address) :
    (n.change i f).addresses = n.addresses := by
  refine List.ext_getElem? fun j => ?_
  simp only [addresses, change, List.getElem?_map, List.getElem?_modify]
  split
  · cases n.listeners[j]? with
    | none => rfl
    | some s => exact congrArg some (hf s)
  · simp

theorem addresses_close (n : Network) (l : Listener) : (n.close l).addresses = n.addresses :=
  n.addresses_change l.number fun _ => rfl

theorem addresses_release (n : Network) (l : Listener) : (n.release l).addresses = n.addresses := by
  refine n.addresses_change l.number fun s => ?_
  split <;> rfl

theorem addresses_releaseAll (n : Network) (ls : List Listener) : (n.releaseAll ls).addresses = n.addresses :=
  List.foldlRecOn ls release (motive := fun m => m.addresses = n.addresses) rfl fun m hm l _ => (m.addresses_release l).trans hm

theorem addresses_bind (n : Network) (l : Listener) : (n.bind l).2.addresses = n.addresses := by
  unfold bind
  split
  · rfl
  · split
    · rfl
    · split
      · rfl
      · split
        · exact n.addresses_change l.number fun _ => rfl
        · exact n.addresses_change l.number fun _ => rfl

theorem addresses_openListener (n : Network) (l : Listener) : (n.openListener l).2.addresses = n.addresses := by
  unfold openListener
  split
  · rfl
  · split
    · rfl
    · split
      · rfl
      · exact n.addresses_change l.number fun _ => rfl

theorem addresses_closeAll (p : Pool) (n : Network) : (p.closeAll n).addresses = n.addresses :=
  List.foldlRecOn p (fun (m : Network) (e : Endpoint) => m.close e.listener) (motive := fun m => m.addresses = n.addresses) rfl
    fun m hm e _ => (m.addresses_close e.listener).trans hm

theorem madeFor_create (n : Network) (family : AddressFamily) (address : Option IpAddress) (port : UInt16) :
    MadeFor address n (n.create family address port).2 := ⟨1, by simp [addresses, create]⟩

end Network

open Network

/-! ## Acquiring -/

theorem Binding.madeFor_step (address : Option IpAddress) (port : UInt16) (b : Binding) (family : AddressFamily) :
    MadeFor address b.host.network (b.step address port family).host.network := by
  have hc := b.host.network.madeFor_create family address port
  unfold Binding.step
  generalize b.host.network.create family address port = x at hc
  obtain ⟨l, m⟩ := x
  have hb := m.addresses_bind l
  dsimp only at hc ⊢
  generalize m.bind l = y at hb
  obtain ⟨_ | _, m'⟩ := y
  · exact hc.trans (madeFor_of_eq ((m'.addresses_release l).trans hb))
  · exact hc.trans (madeFor_of_eq hb)

theorem bindListeners_madeFor {h h' : Host} {address : Option IpAddress} {port : UInt16} {r : Except Refusal (List Listener)}
    (hb : bindListeners h address port = (r, h')) : MadeFor address h.network h'.network := by
  have hf := List.foldlRecOn (IpAddress.families address) (Binding.step address port)
    (motive := fun b => MadeFor address h.network b.host.network) (b := { host := h }) (MadeFor.refl _ _)
    fun b hm family _ => hm.trans (b.madeFor_step address port family)
  unfold bindListeners at hb
  dsimp only at hb
  split at hb <;> cases hb <;> exact hf

theorem Opening.addresses_step (o : Opening) (l : Listener) : (o.step l).host.network.addresses = o.host.network.addresses := by
  have ho := o.host.network.addresses_openListener l
  unfold Opening.step
  generalize o.host.network.openListener l = x at ho
  obtain ⟨_ | _, m⟩ := x
  · exact (m.addresses_release l).trans ho
  · exact ho

theorem openListeners_addresses {h h' : Host} {bound : List Listener} {r : Except Refusal (List Listener)}
    (ho : openListeners h bound = (r, h')) : h'.network.addresses = h.network.addresses := by
  have hf := List.foldlRecOn bound Opening.step (motive := fun o => o.host.network.addresses = h.network.addresses)
    (b := { host := h }) rfl fun o hm l _ => (o.addresses_step l).trans hm
  unfold openListeners at ho
  dsimp only at ho
  split at ho <;> cases ho <;> exact hf

namespace Server

variable {s : Server} {h h' : Host}

/-- Listeners that a server acquires are for its address, whether it acquires all it needs or not. -/
theorem acquireFor_madeFor {candidate : Snapshot} {current : UInt16} {r : Except Refusal Acquisition}
    (ha : s.acquireFor h candidate current = (r, h')) : MadeFor candidate.listenAddress h.network h'.network := by
  unfold acquireFor bindCandidate at ha
  cases hc : s.portChanges current candidate with
  | false =>
    rw [hc, if_neg Bool.false_ne_true] at ha
    dsimp only at ha
    generalize s.attachCandidate h.disk candidate = x at ha
    cases x <;> cases ha <;> exact MadeFor.refl _ _
  | true =>
    rw [hc, if_pos rfl] at ha
    cases hb : bindListeners h candidate.listenAddress candidate.port with
    | mk bound h₁ =>
      have hm := bindListeners_madeFor hb
      rw [hb] at ha
      cases bound with
      | error e =>
        cases ha
        exact hm
      | ok bound =>
        simp only [Except.map] at ha
        cases hs : s.attachCandidate h₁.disk candidate with
        | error e =>
          rw [hs] at ha
          cases ha
          exact hm.trans (madeFor_of_eq (h₁.network.addresses_releaseAll bound))
        | ok storage =>
          rw [hs] at ha
          cases ho : openListeners h₁ bound with
          | mk opened h₂ =>
            have hm' := hm.trans (madeFor_of_eq (openListeners_addresses ho))
            simp only [openCandidate, ho] at ha
            cases opened <;> cases ha <;> exact hm'

theorem acquire_madeFor {source : ConfigSource} {r : Except Refusal Acquisition} (ha : s.acquire h source = (r, h')) :
    MadeFor s.snapshot.listenAddress h.network h'.network := by
  unfold acquire at ha
  split at ha
  · rename_i e h₁ hl
    cases ha
    exact (loadConfig_calm hl).2 ▸ MadeFor.refl _ _
  · rename_i c h₁ hl
    have hn := (loadConfig_calm hl).2
    split at ha
    · rename_i e h₂ hp
      cases ha
      exact ((Snapshot.prepare_calm hp).2.trans hn) ▸ MadeFor.refl _ _
    · rename_i candidate h₂ hp
      have hn' := (Snapshot.prepare_calm hp).2.trans hn
      split at ha
      · cases ha
        exact hn' ▸ MadeFor.refl _ _
      · rename_i haddress
        split at ha
        · cases ha
          exact hn' ▸ MadeFor.refl _ _
        · rw [← hn', ← Decidable.not_not.1 haddress]
          exact acquireFor_madeFor ha

/-! ## Starting -/

/-- What is made to get a server ready is for the address of its configuration. Where that fails, nothing is held. -/
theorem establish_madeFor {c : Config} {dir : Directory} {options : ServerOptions} {r : Except Refusal (LoadReport × Server)}
    (he : establish c dir options h = (r, h')) :
    MadeFor c.server.listenAddress h.network h'.network ∧ ∀ e, r = .error e → h.network.Holds h'.network [] := by
  unfold establish at he
  split at he
  · rename_i e h₁ hp
    cases he
    have hn := (Snapshot.prepare_calm hp).2
    exact ⟨hn ▸ MadeFor.refl _ _, fun _ _ => hn ▸ Holds.refl _⟩
  · rename_i snapshot h₁ hp
    have hn := (Snapshot.prepare_calm hp).2
    obtain ⟨rfl, -⟩ := Snapshot.prepare_ok hp
    split at he
    · rename_i e h₂ hb
      cases he
      exact ⟨hn ▸ bindListeners_madeFor hb, fun _ _ => hn ▸ (bindListeners_holds hb).2⟩
    · rename_i bound h₂ hb
      have hm := bindListeners_madeFor hb
      obtain ⟨-, hh⟩ := bindListeners_holds hb
      rw [hn] at hm hh
      split at he
      · cases he
        exact ⟨hm.trans (madeFor_of_eq (h₂.network.addresses_releaseAll bound)), fun _ _ => release_holds hh⟩
      · rename_i storage _
        split at he
        · rename_i e h₃ ho
          cases he
          exact ⟨hm.trans (madeFor_of_eq (openListeners_addresses ho)), fun _ _ => (openListeners_holds hh ho).2.1⟩
        · rename_i opened h₃ ho
          have hnet := network_assemble snapshot opened storage dir options h₃
          generalize assemble snapshot opened storage dir options h₃ = x at he hnet
          cases he
          refine ⟨hm.trans (madeFor_of_eq ?_), nofun⟩
          rw [hnet]
          exact openListeners_addresses ho

/-- A start makes listeners for the address of its configuration. Where it is refused, be it because a plugin failed, nothing is
held. -/
theorem startWith_madeFor {c : Config} {dir : Directory} {options : ServerOptions} {r : Except Refusal Server}
    (hs : startWith c dir options h = (r, h')) :
    MadeFor c.server.listenAddress h.network h'.network ∧ ∀ e, r = .error e → h.network.Holds h'.network [] := by
  rw [startWith_eq] at hs
  cases he : establish c dir options h with
  | mk x h₁ =>
    obtain ⟨hm, hh⟩ := establish_madeFor he
    rw [he] at hs
    cases x with
    | error e =>
      cases hs
      exact ⟨hm, fun _ _ => hh e rfl⟩
    | ok x =>
      obtain ⟨report, s⟩ := x
      have ht := tends_establish he
      have hnet : ((s.shutdown h₁).1.release (s.shutdown h₁).2).network = (s.shutdown h₁).2.network :=
        (Registry.attends_release _ _).network
      dsimp only at hs
      split at hs
      · split at hs
        · cases hs
          refine ⟨hm.trans (madeFor_of_eq ?_), fun _ _ => ?_⟩
          · rw [hnet]
            exact (addresses_closeAll s.pool _).trans (congrArg _ (s.registry.attends_unloadAll h₁).network)
          · rw [hnet]
            exact ht.shutdown.holds
        · cases hs
          exact ⟨hm, nofun⟩
      · cases hs
        exact ⟨hm, nofun⟩

/-! ## Actions -/

/-- Endpoints that are replaced are closed, which changes no address. -/
theorem addresses_commit (s : Server) (h : Host) (a : Acquisition) :
    (s.commit h a).2.2.network.addresses = h.network.addresses := by
  rw [network_commit]
  unfold renewPool
  cases a.listeners with
  | none => rfl
  | some ls =>
    dsimp only
    rw [Pool.network_addListeners]
    exact addresses_closeAll s.pool h.network

/-- No action changes the address that a server listens on, and listeners are made for that address only. -/
theorem perform_madeFor (s : Server) (h : Host) (a : ServerAction) :
    (s.perform h a).1.snapshot.listenAddress = s.snapshot.listenAddress ∧
      MadeFor s.snapshot.listenAddress h.network (s.perform h a).2.network := by
  rcases s.perform_cases h a with ⟨engine, source, rfl⟩ | rfl | ⟨hs, -, hn⟩
  · rw [perform]
    rcases reload_cases engine s h source with ⟨a, h₁, ha, he⟩ | ⟨r, h₁, entry, ha, he⟩
    · obtain ⟨-, -, -, -, -, -, haddress, -, -⟩ := acquire_ok ha
      rw [he]
      exact ⟨haddress, (acquire_madeFor ha).trans (madeFor_of_eq (addresses_commit s h₁ a))⟩
    · rw [he]
      exact ⟨rfl, (acquire_madeFor ha).trans (madeFor_of_eq rfl)⟩
  · exact ⟨rfl, madeFor_of_eq ((addresses_closeAll s.pool _).trans (congrArg _ (s.registry.attends_unloadAll h).network))⟩
  · exact ⟨by rw [hs], madeFor_of_eq (by rw [addresses, addresses, hn])⟩

theorem performAll_madeFor (s : Server) (h : Host) (as : List ServerAction) :
    (s.performAll h as).1.snapshot.listenAddress = s.snapshot.listenAddress ∧
      MadeFor s.snapshot.listenAddress h.network (s.performAll h as).2.network := by
  induction as generalizing s h with
  | nil => exact ⟨rfl, MadeFor.refl _ _⟩
  | cons a as ih =>
    obtain ⟨haddress, hm⟩ := s.perform_madeFor h a
    obtain ⟨haddress', hm'⟩ := ih (s.perform h a).1 (s.perform h a).2
    rw [haddress] at haddress' hm'
    exact ⟨haddress', hm.trans hm'⟩

/-- A server has endpoints until it is shut down. -/
theorem Serving.performAll {n₀ : Network} (v : s.Serving h) (t : s.Tends n₀ h) (as : List ServerAction) (ha : .shutdown ∉ as) :
    (s.performAll h as).1.Serving (s.performAll h as).2 := by
  induction as generalizing s h with
  | nil => exact v
  | cons a as ih =>
    have hne : a ≠ .shutdown := fun he => ha (he ▸ List.mem_cons_self)
    exact ih (v.perform t hne) (t.perform a) fun hm => ha (List.mem_cons_of_mem a hm)

/-- A server has no endpoints from a shutdown on. -/
theorem pool_performAll (s : Server) (h : Host) (as : List ServerAction) (ha : s.pool = [] ∨ .shutdown ∈ as) :
    (s.performAll h as).1.pool = [] := by
  induction as generalizing s h with
  | nil => exact ha.resolve_right List.not_mem_nil
  | cons a as ih =>
    refine ih _ _ ?_
    rcases ha with hp | ha
    · exact Or.inl (pool_perform hp a)
    · rcases List.mem_cons.1 ha with rfl | ha
      · exact Or.inl rfl
      · exact Or.inr ha

/-! ## Runs -/

end Server

/-- What a server is started from. -/
inductive Origin where
  | config (c : Config)
  | loaded (source : ConfigSource)

/-- The configuration that a server is started with. -/
def Origin.load (o : Origin) (h : Host) : Except Refusal Config × Host :=
  match o with
  | .config c => (.ok c, h)
  | .loaded source => Server.loadConfig source h

namespace Server

/-- Starts a server. -/
def startFrom (o : Origin) (dir : Directory) (options : ServerOptions) (h : Host) : Except Refusal Server × Host :=
  match o with
  | .config c => startWith c dir options h
  | .loaded source => start source dir options h

/-- A start is refused because there is no configuration, and then nothing happened to the network, or it is a start with the
configuration there is. -/
theorem startFrom_cases (o : Origin) (dir : Directory) (options : ServerOptions) (h : Host) :
    ∃ h₁, h₁.network = h.network ∧
      ((∃ e, o.load h = (.error e, h₁) ∧ startFrom o dir options h = (.error e, h₁)) ∨
        ∃ c, o.load h = (.ok c, h₁) ∧ startFrom o dir options h = startWith c dir options h₁) := by
  cases o with
  | config c => exact ⟨h, rfl, Or.inr ⟨c, rfl, rfl⟩⟩
  | loaded source =>
    unfold startFrom start Origin.load
    dsimp only
    cases hl : loadConfig source h with
    | mk r h₁ =>
      refine ⟨h₁, (loadConfig_calm hl).2, ?_⟩
      cases r with
      | error e => exact Or.inl ⟨e, rfl, rfl⟩
      | ok c => exact Or.inr ⟨c, rfl, rfl⟩

variable {s : Server} {h h' : Host}

/-- Nothing there is to object to a configuration is that the server does not listen. -/
theorem objections_ne_noListener (s : Server) (h : Host) (c : Config) : some .noListener ∉ s.objections h c := by
  have hmap : ∀ {ε α : Type} {f : ε → Refusal} {x : Except ε α}, (∀ e, f e ≠ .noListener) →
      some .noListener ≠ refusal? (x.mapError f) := by
    intro ε α f x hf
    cases x with
    | error e => exact fun he => hf e (Option.some.inj he).symm
    | ok a => exact Option.some_ne_none _
  simp only [objections, List.mem_cons, List.not_mem_nil, or_false, not_or]
  refine ⟨hmap (by simp), ?_, ?_, ?_, ?_, ?_⟩
  · split
    · exact hmap (by simp)
    · exact Option.some_ne_none _
  · split <;> simp
  · split
    · exact Option.some_ne_none _
    · unfold Network.bindObjection?
      split
      · intro he
        obtain ⟨cause, -, hcause⟩ := Option.map_eq_some_iff.1 he.symm
        cases hcause
      · exact Option.some_ne_none _
  · split
    · exact Option.some_ne_none _
    · exact hmap (by simp)
  · split
    · exact Option.some_ne_none _
    · unfold Network.openObjection?
      split
      · intro he
        obtain ⟨x, -, hx⟩ := Option.map_eq_some_iff.1 he.symm
        cases hx
      · exact Option.some_ne_none _

/-- A server that listens is never refused a reload for want of a listener. -/
theorem reload_ne_noListener {current : UInt16} (hport : s.port? h = some current) (engine : ReloadEngine) (source : ConfigSource) :
    (engine.reload s h source).1 ≠ .error .noListener := by
  cases hx : engine.reload s h source with
  | mk answer x =>
    obtain ⟨engine', s', h'⟩ := x
    rintro rfl
    obtain ⟨h₁, ha, -⟩ := ReloadEngine.reload_error hx
    have hfirst := refusal?_acquire hport ha
    unfold objection? at hfirst
    split at hfirst
    · cases hfirst
    · rename_i c _
      obtain ⟨x, hx, hsome⟩ := List.exists_of_findSome?_eq_some hfirst.symm
      exact objections_ne_noListener s h c (hsome ▸ hx)

/-- From the start of a run on, every listener that is made is for the address of the configuration. If the start is refused, none
of them is bound or open. After it, and after any actions, those that are bound are exactly the listeners of the endpoints, which
are open. Until a shutdown there is an endpoint, so that no reload is refused for want of one; there is at most one for each
family of the address, that of the sixth version first. From a shutdown on there is none. -/
theorem listeners_of_run (o : Origin) (dir : Directory) (options : ServerOptions) (h₀ : Host) :
    ∃ address, (∀ c h, o.load h₀ = (.ok c, h) → c.server.listenAddress = address) ∧
      (∀ r h, startFrom o dir options h₀ = (.error r, h) →
        MadeFor address h₀.network h.network ∧ ∀ i, h₀.network.listeners.length ≤ i → h.network.Idle i) ∧
      ∀ s₀ h as, startFrom o dir options h₀ = (.ok s₀, h) → ∀ s h', s₀.performAll h as = (s, h') →
        s.snapshot.listenAddress = address ∧ MadeFor address h₀.network h'.network ∧
        (∀ i, h₀.network.listeners.length ≤ i → (h'.network.IsBound i ↔ ∃ e ∈ s.pool, e.listener.number = i)) ∧
        (∀ e ∈ s.pool, h'.network.isOpen e.listener = true) ∧
        (.shutdown ∈ as → s.pool = []) ∧
        (.shutdown ∉ as → s.pool ≠ [] ∧ (s.pool.map (·.family)).Sublist (IpAddress.families address) ∧
          ∀ engine source, (ReloadEngine.reload engine s h' source).1 ≠ .error .noListener) := by
  obtain ⟨h₁, hn, hcases⟩ := startFrom_cases o dir options h₀
  rcases hcases with ⟨e, hload, hstart⟩ | ⟨c, hload, hstart⟩
  · refine ⟨none, ?_, ?_, ?_⟩
    · intro c h hc
      rw [hload] at hc
      cases hc
    · intro r h hr
      rw [hstart] at hr
      cases hr
      rw [hn]
      exact ⟨MadeFor.refl _ _, fun i hi => (Holds.refl h₀.network).idle i hi List.not_mem_nil⟩
    · intro s₀ h as hs
      rw [hstart] at hs
      cases hs
  · refine ⟨c.server.listenAddress, ?_, ?_, ?_⟩
    · intro c' h hc
      rw [hload] at hc
      cases hc
      rfl
    · intro r h hr
      rw [hstart] at hr
      obtain ⟨hm, hh⟩ := startWith_madeFor hr
      rw [hn] at hm hh
      exact ⟨hm, fun i hi => (hh r rfl).idle i hi List.not_mem_nil⟩
    · intro s₀ h as hs s h' has
      rw [hstart] at hs
      obtain ⟨v, rfl⟩ := serving_start hs
      have t := tends_start hs
      have hm := (startWith_madeFor hs).1
      rw [hn] at t hm
      obtain ⟨haddress, hmade⟩ := s₀.performAll_madeFor h as
      have t' := t.performAll as
      have hdeaf := s₀.pool_performAll h as
      have v' := v.performAll t as
      rw [has] at haddress hmade t' hdeaf v'
      refine ⟨haddress, hm.trans hmade, ?_, fun e he => t'.isOpen _ (Pool.mem_listeners _ he), fun hd => hdeaf (Or.inr hd), ?_⟩
      · intro i hi
        rw [t'.holds.isBound_iff hi, Pool.listeners, List.map_map, List.mem_map]
        rfl
      · intro ha
        have v' := v' ha
        have hpool : s.pool ≠ [] := fun hnil => v'.nonempty ((s.ports_eq_nil h').2 hnil)
        obtain ⟨n, port, hports, -⟩ := v'.made
        obtain ⟨current, hport⟩ := t'.exists_port hpool
        refine ⟨hpool, ?_, reload_ne_noListener hport⟩
        have hf := Network.families_of_ports hports
        rw [haddress] at hf
        rw [Pool.listeners, List.map_map] at hf
        exact hf

/-- The plain server moves to another port and is shut down: the listeners it began with are gone after the first action, those that
came in their place after the second. -/
theorem listeners_of_run_plain : ∃ s h s' h', plainStart = (.ok s, h) ∧
    s.performAll h [.reload {} ReloadEngine.elsewhere] = (s', h') ∧
    ¬h'.network.IsBound 0 ∧ ¬h'.network.IsBound 1 ∧ h'.network.IsBound 2 ∧ h'.network.IsBound 3 ∧
    ((s'.perform h' .shutdown).1.pool = []) := by
  have hrun : plainStart.1.toOption.map (fun s =>
      (s.performAll plainStart.2 [.reload {} ReloadEngine.elsewhere]).1.pool.map (·.listener.number)) = some [2, 3] := by
    decide +kernel
  obtain ⟨s, h, hs⟩ := plainStart_ok
  rw [hs] at hrun
  simp only [Except.toOption, Option.map_some, Option.some.injEq] at hrun
  obtain ⟨address, -, -, hafter⟩ :=
    listeners_of_run (.config .plain) { storage := ⟨⟨"documents"⟩⟩ } { modules := .builtin [] } .blank
  cases hx : s.performAll h [.reload {} ReloadEngine.elsewhere] with
  | mk s' h' =>
    rw [hx] at hrun
    obtain ⟨-, -, hbound, -, -, -⟩ := hafter s h [.reload {} ReloadEngine.elsewhere] hs s' h' hx
    have hnumbers : ∀ i, h'.network.IsBound i ↔ i ∈ [2, 3] := by
      intro i
      rw [hbound i (Nat.zero_le i), ← hrun, List.mem_map]
    exact ⟨s, h, s', h', hs, hx, by simp [hnumbers], by simp [hnumbers], by simp [hnumbers], by simp [hnumbers], rfl⟩

end Server
end CoEdit
