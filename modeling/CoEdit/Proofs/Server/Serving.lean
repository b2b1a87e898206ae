import CoEdit.Proofs.Server.Listening
import CoEdit.Proofs.Server.Ports

/-!
# What a server is open on

The listeners of a server were all made at once, for the address it was started with and for the port configured then, and those
that could be opened are still there. `Server.Serving` says this, and how that port is related to the one that is configured now. It
holds from the start and is kept by every action but a shutdown.
-/

namespace CoEdit

/-- Where the sixth version can only come first, nothing is moved by putting it first. -/
theorem sixthFirst_of_families {address : Option IpAddress} {ls : List Listener}
    (h : (ls.map (·.family)).Sublist (IpAddress.families address)) : sixthFirst ls = ls := by
  have hp : (IpAddress.families address).Pairwise fun _ f => f ≠ .ipv6 := by
    cases address <;> simp [IpAddress.families]
  have hl := List.pairwise_map.1 (hp.sublist h)
  cases ls with
  | nil => rfl
  | cons l ls =>
    obtain ⟨hrest, -⟩ := List.pairwise_cons.1 hl
    have hsix : ls.filter (fun l => l.family = .ipv6) = [] := List.filter_eq_nil_iff.2 (by simpa using hrest)
    have hother : ls.filter (fun l => l.family ≠ .ipv6) = ls := List.filter_eq_self.2 (by simpa using hrest)
    unfold sixthFirst
    by_cases hf : l.family = .ipv6
    · rw [List.filter_cons_of_pos (by simpa using hf), List.filter_cons_of_neg (by simpa using hf), hsix, hother]
      rfl
    · rw [List.filter_cons_of_neg (by simpa using hf), List.filter_cons_of_pos (by simpa using hf), hsix, hother]
      rfl

/-- Listeners on the ports of families of an address are of these families, in their order. -/
theorem Network.families_of_ports {n m : Network} {ls : List Listener} {address : Option IpAddress} {port : UInt16}
    (h : n.ports ls = (m.openable address port).map onPort) : (ls.map (·.family)).Sublist (IpAddress.families address) := by
  have hf := congrArg (List.map Prod.fst) h
  rw [families_ports, List.map_map] at hf
  rw [hf]
  exact m.families_openable address port

/-- The port of a pool, told from the families and ports of its endpoints. -/
def Network.leadingPort? (xs : List (AddressFamily × Option UInt16)) : Option UInt16 :=
  ((xs.find? fun x => x.1 = .ipv6).orElse fun _ => xs.head?).bind Prod.snd

theorem Pool.port?_eq_leadingPort? (p : Pool) (n : Network) : p.port? n = Network.leadingPort? (n.ports p.listeners) := by
  have hfind : (n.ports p.listeners).find? (fun x => x.1 = .ipv6) =
      (p.ofFamily? .ipv6).map fun e => (e.family, n.port? e.listener) := by
    rw [Network.ports, Pool.listeners, List.map_map, List.find?_map]
    rfl
  have hhead : (n.ports p.listeners).head? = p.head?.map fun e => (e.family, n.port? e.listener) := by
    rw [Network.ports, Pool.listeners, List.map_map, List.head?_map]
    rfl
  unfold Network.leadingPort? Pool.port? Pool.leading?
  rw [hfind, hhead]
  cases p.ofFamily? .ipv6 with
  | some e => rfl
  | none => cases p.head? <;> rfl

namespace Server

/-- The families and ports of the endpoints of a server. -/
def ports (s : Server) (h : Host) : List (AddressFamily × Option UInt16) := h.network.ports s.pool.listeners

theorem port?_eq_leadingPort? (s : Server) (h : Host) : s.port? h = Network.leadingPort? (s.ports h) :=
  Pool.port?_eq_leadingPort? s.pool h.network

theorem ports_eq_nil (s : Server) (h : Host) : s.ports h = [] ↔ s.pool = [] := by
  rw [ports, Network.ports, Pool.listeners, List.map_eq_nil_iff, List.map_eq_nil_iff]

/-- The endpoints are on the ports that some network had for the address and a port, and there are some. The port is the one that is
configured, unless that is the port of the pool. -/
structure Serving (s : Server) (h : Host) : Prop where
  nonempty : s.ports h ≠ []
  made : ∃ (n : Network) (port : UInt16),
    s.ports h = (n.openable s.snapshot.listenAddress port).map Network.onPort ∧
      (s.snapshot.port = port ∨ Network.leadingPort? (s.ports h) = some s.snapshot.port)

variable {s s' : Server} {h h' : Host} {n₀ : Network}

/-! ## Acquiring -/

/-- Listeners that are bound and opened one after the other are all that the network has for the address and the port, and that is
something. -/
theorem opened_ports {h₁ h₂ : Host} {address : Option IpAddress} {port : UInt16} {bound opened : List Listener}
    (hb : bindListeners h address port = (.ok bound, h₁)) (ho : openListeners h₁ bound = (.ok opened, h₂)) :
    opened ≠ [] ∧ h₂.network.ports opened = (h.network.openable address port).map Network.onPort := by
  obtain ⟨hr, hok, -⟩ := bindListeners_ports hb
  obtain ⟨hne, hports⟩ := hok bound rfl
  obtain ⟨-, hh⟩ := bindListeners_holds hb
  obtain ⟨-, hok', -⟩ := openListeners_ports hh hports ho
  obtain ⟨hnil, hports'⟩ := hok' opened rfl
  refine ⟨fun he => hne ?_, ?_⟩
  · rw [hnil he] at hports
    exact List.map_eq_nil_iff.1 hports
  · rw [hports', hr.openFailures]
    rfl

/-- The stages up to the listeners leave the network to them. -/
theorem acquire_network {source : ConfigSource} {a : Acquisition} (ha : s.acquire h source = (.ok a, h')) :
    ∃ h₁ current, h₁.network = h.network ∧ a.snapshot.listenAddress = s.snapshot.listenAddress ∧ s.port? h = some current ∧
      s.acquireFor h₁ a.snapshot current = (.ok a, h') := by
  obtain ⟨c, h₁, h₂, current, hl, hp, haddress, hport, hf⟩ := acquire_ok ha
  have hn := (Snapshot.prepare_calm hp).2.trans (loadConfig_calm hl).2
  refine ⟨h₂, current, hn, haddress, ?_, hf⟩
  rw [port?, hn] at hport
  exact hport

/-- Where listeners are acquired they are all that the network has for the address and the port. Where none are, the port is the
present one, or none is asked for now as before. -/
theorem acquire_ports {source : ConfigSource} {a : Acquisition} (ha : s.acquire h source = (.ok a, h')) :
    a.snapshot.listenAddress = s.snapshot.listenAddress ∧
    (∀ ls, a.listeners = some ls → ls ≠ [] ∧
      h'.network.ports ls = (h.network.openable a.snapshot.listenAddress a.snapshot.port).map Network.onPort) ∧
    (a.listeners = none → s.port? h = some a.snapshot.port ∨ a.snapshot.port = 0 ∧ s.snapshot.port = 0) := by
  obtain ⟨h₁, current, hn, haddress, hport, hf⟩ := acquire_network ha
  obtain ⟨-, bound, h₂, hb, -, ho⟩ := acquireFor_ok hf
  refine ⟨haddress, ?_, ?_⟩
  · intro ls hls
    cases bound with
    | none =>
      rw [openCandidate, hls] at ho
      cases ho
    | some bound =>
      have hbind : bindListeners h₁ a.snapshot.listenAddress a.snapshot.port = (.ok bound, h₂) := by
        unfold bindCandidate at hb
        split at hb
        · generalize bindListeners h₁ a.snapshot.listenAddress a.snapshot.port = x at hb
          obtain ⟨_ | bound', h₂'⟩ := x <;> cases hb
          rfl
        · cases hb
      have hopen : openListeners h₂ bound = (.ok ls, h') := by
        rw [hls, openCandidate] at ho
        generalize openListeners h₂ bound = x at ho
        obtain ⟨_ | opened, h₃⟩ := x <;> cases ho
        rfl
      rw [← hn]
      exact opened_ports hbind hopen
  · intro hnone
    cases hc : s.portChanges current a.snapshot with
    | false =>
      rw [hport]
      simp only [portChanges, Bool.and_eq_false_iff, decide_eq_false_iff_not, Decidable.not_not, Bool.not_eq_eq_eq_not,
        Bool.not_false, Bool.and_eq_true, decide_eq_true_eq] at hc
      exact hc.imp (congrArg some ·.symm) id
    | true =>
      rw [hc, bindCandidate, if_pos rfl] at hb
      generalize bindListeners h₁ a.snapshot.listenAddress a.snapshot.port = x at hb
      obtain ⟨_ | bound', h₂'⟩ := x <;> cases hb
      rw [hnone, openCandidate] at ho
      generalize openListeners h₂ bound' = x at ho
      obtain ⟨_ | opened, h₃⟩ := x <;> cases ho

/-! ## Runs -/

/-- A server that is ready has the configuration it was made with, and is open on all that the network has for its address and port,
which is something. -/
theorem establish_ports {c : Config} {dir : Directory} {options : ServerOptions} {report : LoadReport}
    (hs : establish c dir options h = (.ok (report, s), h')) : s.snapshot.config = c ∧ s.ports h' ≠ [] ∧
      s.ports h' = (h.network.openable c.server.listenAddress c.server.port).map Network.onPort := by
  obtain ⟨snapshot, h₁, bound, h₂, storage, opened, h₃, hp, hb, -, ho, ha⟩ := establish_ok hs
  obtain ⟨rfl, -⟩ := Snapshot.prepare_ok hp
  obtain ⟨hne, hopened⟩ := opened_ports hb ho
  have hnet := network_assemble snapshot opened storage dir options h₃
  have hpool : (assemble snapshot opened storage dir options h₃).2.1.pool.listeners = opened :=
    (Pool.listeners_withContext _ _).trans (Pool.listeners_addListeners _ _ _ _ _ _)
  have hsnapshot : (assemble snapshot opened storage dir options h₃).2.1.snapshot = snapshot := rfl
  rw [ha] at hnet hpool hsnapshot
  dsimp only at hnet hpool hsnapshot
  have hports : s.ports h' = h₃.network.ports opened := by rw [ports, hpool, hnet]
  refine ⟨by rw [hsnapshot], ?_, ?_⟩
  · rw [hports]
    exact fun hnil => hne (List.map_eq_nil_iff.1 hnil)
  · rw [hports, ← (Snapshot.prepare_calm hp).2]
    exact hopened

/-- A server that was started serves, with the configuration it was started with. -/
theorem serving_start {c : Config} {dir : Directory} {options : ServerOptions} (hs : startWith c dir options h = (.ok s, h')) :
    s.Serving h' ∧ s.snapshot.config = c := by
  obtain ⟨report, he⟩ := establish_of_startWith hs
  obtain ⟨rfl, hne, hports⟩ := establish_ports he
  exact ⟨⟨hne, h.network, _, hports, Or.inl rfl⟩, rfl⟩

/-- A server serves as long as its endpoints are on the same ports. -/
theorem Serving.congr (v : s.Serving h) (hs : s'.snapshot = s.snapshot) (hp : s'.ports h' = s.ports h) : s'.Serving h' := by
  obtain ⟨n, port, hports, hrel⟩ := v.made
  refine ⟨hp ▸ v.nonempty, n, port, ?_, ?_⟩
  · rw [hp, hs]
    exact hports
  · rw [hp, hs]
    exact hrel

/-- The ports after a reload are those of the listeners that were acquired, or else the same as before. -/
theorem ports_commit (t : s.Tends n₀ h) {a : Acquisition} (hh : h.network.Holds h'.network (a.listeners.getD [])) :
    (s.commit h' a).2.1.ports (s.commit h' a).2.2 =
      match a.listeners with
      | none => s.ports h
      | some ls => h'.network.ports (sixthFirst ls) := by
  refine (Network.ports_congr fun l => t.state?_commit hh).trans ?_
  rw [listeners_commit]
  cases hl : a.listeners with
  | none => exact Network.ports_congr fun l hm => t.state?_eq hh hm
  | some ls => rfl

/-- A server serves after it took over what it acquired. -/
theorem Serving.commit (v : s.Serving h) (t : s.Tends n₀ h) {source : ConfigSource} {a : Acquisition}
    (ha : s.acquire h source = (.ok a, h')) : (s.commit h' a).2.1.Serving (s.commit h' a).2.2 := by
  obtain ⟨-, hh, -⟩ := acquire_holds ha
  simp only [Except.map, held_ok] at hh
  obtain ⟨haddress, hsome, hnone⟩ := acquire_ports ha
  have hports := ports_commit t hh
  have hsnapshot : (s.commit h' a).2.1.snapshot = a.snapshot := rfl
  cases hl : a.listeners with
  | none =>
    rw [hl] at hports
    obtain ⟨n, port, hold, hrel⟩ := v.made
    refine ⟨hports ▸ v.nonempty, n, port, ?_, ?_⟩
    · rw [hports, hsnapshot, haddress]
      exact hold
    · rw [hports, hsnapshot]
      rcases hnone hl with hkept | ⟨hzero, hzero'⟩
      · rw [port?_eq_leadingPort?] at hkept
        exact Or.inr hkept
      · rw [hzero, ← hzero']
        exact hrel
  | some ls =>
    obtain ⟨hne, hopened⟩ := hsome ls hl
    rw [hl] at hports
    dsimp only at hports
    rw [sixthFirst_of_families (Network.families_of_ports hopened)] at hports
    refine ⟨?_, h.network, a.snapshot.port, ?_, Or.inl (by rw [hsnapshot])⟩
    · rw [hports]
      exact fun hnil => hne (List.map_eq_nil_iff.1 hnil)
    · rw [hports, hsnapshot]
      exact hopened

/-- A server serves after a reload, whether it was refused or not. -/
theorem Serving.reload (v : s.Serving h) (t : s.Tends n₀ h) (engine : ReloadEngine) (source : ConfigSource) :
    (engine.reload s h source).2.2.1.Serving (engine.reload s h source).2.2.2 := by
  rcases reload_cases engine s h source with ⟨a, h₁, ha, he⟩ | ⟨r, h₁, entry, ha, he⟩
  · rw [he]
    exact v.commit t ha
  · obtain ⟨-, hh, -⟩ := acquire_holds ha
    rw [he]
    exact v.congr rfl (Network.ports_congr fun l hm => t.state?_eq hh hm)

/-- A server serves through every action but a shutdown. -/
theorem Serving.perform (v : s.Serving h) (t : s.Tends n₀ h) {a : ServerAction} (ha : a ≠ .shutdown) :
    (s.perform h a).1.Serving (s.perform h a).2 := by
  rcases s.perform_cases h a with ⟨engine, source, rfl⟩ | rfl | ⟨hs, hp, hn⟩
  · exact v.reload t engine source
  · exact absurd rfl ha
  · refine v.congr hs ?_
    rw [ports, hp]
    exact Network.ports_congr fun l _ => by rw [Network.state?, Network.state?, hn]

/-- A server without endpoints never gets any. -/
theorem pool_perform (hp : s.pool = []) (a : ServerAction) : (s.perform h a).1.pool = [] := by
  rcases s.perform_cases h a with ⟨engine, source, rfl⟩ | rfl | ⟨-, hkept, -⟩
  · rcases reload_cases engine s h source with ⟨a, h₁, ha, -⟩ | ⟨r, h₁, entry, -, he⟩
    · obtain ⟨-, -, h₂, current, -, -, -, hport, -⟩ := acquire_ok ha
      rw [port?, hp] at hport
      cases hport
    · rw [perform, he]
      exact hp
  · rfl
  · exact hkept.trans hp

/-- Along a run a server serves as long as it has endpoints. -/
theorem Reached.serving {admitted : Config → Prop} {allowed : ServerAction → Prop} {h₀ : Host}
    (hr : Reached admitted allowed h₀ s h) (hp : s.pool ≠ []) : s.Serving h := by
  induction hr with
  | start _ hs => exact (serving_start hs).1
  | @step s h hr a _ ih =>
    by_cases hnil : s.pool = []
    · exact absurd (pool_perform hnil a) hp
    · refine (ih hnil).perform hr.tends ?_
      rintro rfl
      exact hp rfl

end Server
end CoEdit
