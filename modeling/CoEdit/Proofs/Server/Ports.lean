import CoEdit.Proofs.Server.Acquisition
import CoEdit.Proofs.Server.Endpoints

/-!
# Families and their ports

Which families of an address can be bound, and on which ports, can be told before anything is bound (`Network.granted`), and so can
which of them can be opened then (`Network.openable`). The listeners that a server acquires are these
(`bindListeners_ports`, `openListeners_ports`), and where there are none the failure is that of the last family to be bound, or of
the first one to be opened.
-/

namespace CoEdit
namespace Network

/-! ## Rules -/

/-- Two networks in which attempts to bind and to open become of the same. -/
structure SameRules (n n' : Network) : Prop where
  hasSockets : n'.hasSockets = n.hasSockets
  bindFailures : n'.bindFailures = n.bindFailures
  openFailures : n'.openFailures = n.openFailures

theorem SameRules.refl (n : Network) : SameRules n n := ⟨rfl, rfl, rfl⟩

theorem SameRules.trans {n n' n'' : Network} (a : SameRules n n') (b : SameRules n' n'') : SameRules n n'' :=
  ⟨b.hasSockets.trans a.hasSockets, b.bindFailures.trans a.bindFailures, b.openFailures.trans a.openFailures⟩

theorem sameRules_change (n : Network) (i : Nat) (f : ListenerState → ListenerState) : SameRules n (n.change i f) := ⟨rfl, rfl, rfl⟩

theorem sameRules_create {n m : Network} {l : Listener} {family : AddressFamily} {address : Option IpAddress} {port : UInt16}
    (hc : n.create family address port = (l, m)) : SameRules n m := by
  cases hc
  exact ⟨rfl, rfl, rfl⟩

/-- Why a listener of a family cannot be bound. -/
def bindFault? (n : Network) (address : Option IpAddress) (port : UInt16) (family : AddressFamily) : Option NetworkError :=
  let ip := address.getD (.any family)
  if n.hasSockets && !ip.isLocal then some (.unavailable { ip, port })
  else if n.bindFailures.contains (family, port) then some (.portTaken family port)
  else none

theorem SameRules.bindFault? {n n' : Network} (r : SameRules n n') : n'.bindFault? = n.bindFault? := by
  funext address port family
  rw [Network.bindFault?, Network.bindFault?, r.hasSockets, r.bindFailures]

/-- The families of a list that can be bound, and the ports they get. A listener that asks for no port gets the next free one. -/
def grants (n : Network) (address : Option IpAddress) (port : UInt16) : (next : UInt16) → List AddressFamily →
    List (AddressFamily × UInt16)
  | _, [] => []
  | next, family :: rest => match n.bindFault? address port family with
    | some _ => grants n address port next rest
    | none =>
      (family, if port = 0 then next else port) :: grants n address port (if port = 0 then next + 1 else next) rest

/-- The families of an address that can be bound, and the ports they get. -/
def granted (n : Network) (address : Option IpAddress) (port : UInt16) : List (AddressFamily × UInt16) :=
  n.grants address port n.nextPort (IpAddress.families address)

/-- Those of them that can be opened then. -/
def openable (n : Network) (address : Option IpAddress) (port : UInt16) : List (AddressFamily × UInt16) :=
  (n.granted address port).filter fun x => !n.openFailures.contains x

section
variable (n : Network) (address : Option IpAddress) (port : UInt16)

/-- The families that are granted are those without a fault. -/
theorem families_grants (next : UInt16) (families : List AddressFamily) :
    (n.grants address port next families).map Prod.fst = families.filter fun f => (n.bindFault? address port f).isNone := by
  induction families generalizing next with
  | nil => rfl
  | cons f fs ih =>
    rw [grants]
    cases hf : n.bindFault? address port f with
    | some e =>
      rw [List.filter_cons_of_neg (by simp [hf])]
      exact ih next
    | none =>
      rw [List.filter_cons_of_pos (by simp [hf])]
      exact congrArg (f :: ·) (ih _)

/-- Nothing is granted exactly if every family has a fault. -/
theorem granted_eq_nil : n.granted address port = [] ↔
    ∀ family ∈ IpAddress.families address, ∃ e, n.bindFault? address port family = some e := by
  have hf := n.families_grants address port n.nextPort (IpAddress.families address)
  rw [granted, ← List.map_eq_nil_iff, hf, List.filter_eq_nil_iff]
  simp [Option.ne_none_iff_exists']

/-- A port that is asked for is the port that is got. -/
theorem grants_of_ne_zero {port : UInt16} (hp : port ≠ 0) (next : UInt16) (families : List AddressFamily) :
    ∀ x ∈ n.grants address port next families, x.2 = port := by
  induction families generalizing next with
  | nil => simp [grants]
  | cons f fs ih =>
    rw [grants]
    split
    · exact ih next
    · intro x hx
      rcases List.mem_cons.1 hx with rfl | hx
      · exact if_neg hp
      · exact ih _ x hx

/-- At most the families of the address can be opened, in their order. -/
theorem families_openable : ((n.openable address port).map Prod.fst).Sublist (IpAddress.families address) := by
  have hf := n.families_grants address port n.nextPort (IpAddress.families address)
  refine (List.filter_sublist.map Prod.fst).trans ?_
  rw [granted, hf]
  exact List.filter_sublist

end

/-! ## Ports of listeners -/

/-- The families and the ports of listeners, in order. -/
def ports (n : Network) (ls : List Listener) : List (AddressFamily × Option UInt16) := ls.map fun l => (l.family, n.port? l)

/-- A family that has a port. -/
def onPort (x : AddressFamily × UInt16) : AddressFamily × Option UInt16 := (x.1, some x.2)

@[simp] theorem ports_append (n : Network) (ls ls' : List Listener) : n.ports (ls ++ ls') = n.ports ls ++ n.ports ls' :=
  List.map_append

theorem families_ports (n : Network) (ls : List Listener) : (n.ports ls).map Prod.fst = ls.map (·.family) := by
  rw [ports, List.map_map]
  rfl

/-- Listeners whose state is the same have the same ports. -/
theorem ports_congr {n n' : Network} {ls : List Listener} (h : ∀ l ∈ ls, n'.state? l.number = n.state? l.number) :
    n'.ports ls = n.ports ls :=
  List.map_congr_left fun l hl => by rw [port?_congr (h l hl)]

/-- A change of one listener is no change of the ports of others. -/
theorem DiffersAt.ports {n n' : Network} {k : Nat} (hd : DiffersAt n n' k) {ls : List Listener} (hk : ∀ l ∈ ls, l.number ≠ k) :
    n'.ports ls = n.ports ls :=
  ports_congr fun l hl => hd.2 _ (hk l hl)

/-- A listener that has a port is bound to it. -/
theorem port?_eq_some {n : Network} {l : Listener} {p : UInt16} (h : n.port? l = some p) :
    ∃ s, n.state? l.number = some s ∧ s.isBound = true ∧ s.port = p := by
  obtain ⟨s, hs, hp⟩ := Option.bind_eq_some_iff.1 h
  split at hp
  · rename_i hb
    exact ⟨s, hs, hb, Option.some.inj hp⟩
  · cases hp

/-! ## One listener -/

section
variable {n m : Network} {l : Listener} {family : AddressFamily} {address : Option IpAddress} {port : UInt16}

/-- A listener of a family that has a fault cannot be bound. -/
theorem bind_of_fault (hc : n.create family address port = (l, m)) {e : NetworkError}
    (he : n.bindFault? address port family = some e) : m.bind l = (.error e, m) := by
  obtain ⟨hs, -⟩ := create_spec hc
  cases hc
  rw [bind, hs]
  simp only [bindFault?] at he
  dsimp only
  split at he
  · rename_i hsock
    cases he
    exact if_pos hsock
  · rename_i hsock
    split at he
    · rename_i htaken
      cases he
      exact (if_neg hsock).trans (if_pos htaken)
    · cases he

/-- A listener of any other family is bound, and gets the port it asks for or the next free one. -/
theorem bind_of_no_fault (hc : n.create family address port = (l, m)) (he : n.bindFault? address port family = none) :
    ∃ m', m.bind l = (.ok (), m') ∧ SameRules n m' ∧ DiffersAt m m' l.number ∧
      m'.port? l = some (if port = 0 then n.nextPort else port) ∧
      m'.nextPort = if port = 0 then n.nextPort + 1 else n.nextPort := by
  obtain ⟨hs, -⟩ := create_spec hc
  have hr := sameRules_create hc
  have hnext : m.nextPort = n.nextPort := by
    cases hc
    rfl
  have hfault : ¬(m.hasSockets && !l.ip.isLocal) = true ∧ ¬m.bindFailures.contains (l.family, port) = true := by
    cases hc
    simp only [bindFault?] at he
    split at he
    · cases he
    · rename_i hsock
      split at he
      · cases he
      · rename_i htaken
        exact ⟨hsock, htaken⟩
  have hb : m.bind l = if port = 0 then
      (.ok (), { m.change l.number (fun s => { s with port := m.nextPort, isBound := true }) with nextPort := m.nextPort + 1 })
      else (.ok (), m.change l.number (fun s => { s with isBound := true })) := by
    rw [bind, hs]
    dsimp only
    rw [if_neg hfault.1, if_neg hfault.2]
  by_cases hp : port = 0
  · rw [if_pos hp] at hb
    refine ⟨_, hb, ⟨hr.hasSockets, hr.bindFailures, hr.openFailures⟩, differsAt_of_modify rfl, ?_, ?_⟩
    · have hst := state?_change_self m l.number (fun s => { s with port := m.nextPort, isBound := true })
      rw [hs] at hst
      rw [if_pos hp, ← hnext, port?]
      exact congrArg (Option.bind · _) hst
    · rw [if_pos hp, ← hnext]
  · rw [if_neg hp] at hb
    refine ⟨_, hb, hr.trans (sameRules_change m _ _), differsAt_change m _ _, ?_, ?_⟩
    · rw [if_neg hp, port?, state?_change_self, hs]
      rfl
    · rw [if_neg hp, ← hnext]
      rfl

/-- A listener that is bound to a port that is refused cannot be opened. -/
theorem openListener_refused {p : UInt16} (hl : n.port? l = some p) (hf : n.openFailures.contains (l.family, p) = true) :
    n.openListener l = (.error (.refused l.family p), n) := by
  obtain ⟨s, hs, hb, rfl⟩ := port?_eq_some hl
  rw [openListener, hs]
  simp only [hb, not_true_eq_false, if_false, hf, if_true]

/-- A listener that is bound to any other port can be opened, and stays on its port. -/
theorem openListener_accepted {p : UInt16} (hl : n.port? l = some p) (hf : n.openFailures.contains (l.family, p) = false) :
    ∃ m, n.openListener l = (.ok (), m) ∧ SameRules n m ∧ DiffersAt n m l.number ∧ m.port? l = some p := by
  obtain ⟨s, hs, hb, rfl⟩ := port?_eq_some hl
  refine ⟨n.change l.number (fun s => { s with isOpen := true }), ?_, sameRules_change n _ _, differsAt_change n _ _, ?_⟩
  · rw [openListener, hs]
    simp only [hb, not_true_eq_false, if_false, hf, Bool.false_eq_true]
  · rw [port?, state?_change_self, hs]
    simp [hb]

end
end Network

/-! ## Binding -/

section
variable {h h' : Host}

/-- One more family is bound to its port, or is the last one that failed. -/
theorem Binding.Sound.step_ports {b : Binding} (hb : b.Sound h) (hr : h.network.SameRules b.host.network)
    (address : Option IpAddress) (port : UInt16) (family : AddressFamily) :
    h.network.SameRules (b.step address port family).host.network ∧
    ((∃ e, h.network.bindFault? address port family = some e ∧ (b.step address port family).failure = some e ∧
        (b.step address port family).host.network.ports (b.step address port family).bound = b.host.network.ports b.bound ∧
        (b.step address port family).host.network.nextPort = b.host.network.nextPort) ∨
      h.network.bindFault? address port family = none ∧ (b.step address port family).failure = b.failure ∧
        (b.step address port family).host.network.ports (b.step address port family).bound =
          b.host.network.ports b.bound ++ [(family, some (if port = 0 then b.host.network.nextPort else port))] ∧
        (b.step address port family).host.network.nextPort =
          if port = 0 then b.host.network.nextPort + 1 else b.host.network.nextPort) := by
  cases hc : b.host.network.create family address port with
  | mk l m =>
    obtain ⟨hs, hl⟩ := Network.create_spec hc
    have hkept : m.ports b.bound = b.host.network.ports b.bound :=
      Network.ports_congr fun x hx => Network.state?_of_create hc (hb.2.lt_length hx)
    have hne : ∀ x ∈ b.bound, x.number ≠ l.number := fun x hx he => by
      have := hb.2.lt_length hx
      omega
    have hrm := hr.trans (Network.sameRules_create hc)
    rw [← hr.bindFault?]
    cases hf : b.host.network.bindFault? address port family with
    | some e =>
      have hbind := Network.bind_of_fault hc hf
      have hstep : (b.step address port family).bound = b.bound ∧ (b.step address port family).failure = some e ∧
          (b.step address port family).host.network = m.release l := by
        unfold Binding.step
        rw [hc]
        dsimp only
        rw [hbind]
        exact ⟨rfl, rfl, rfl⟩
      have hidle : m.release l = m := Network.release_eq_self fun s hs' => by
        rw [hs] at hs'
        cases hs'
        rfl
      rw [hidle] at hstep
      rw [hstep.1, hstep.2.1, hstep.2.2]
      refine ⟨hrm, Or.inl ⟨e, rfl, rfl, hkept, ?_⟩⟩
      cases hc
      rfl
    | none =>
      obtain ⟨m', hbind, hrm', hd, hport, hnext⟩ := Network.bind_of_no_fault hc hf
      have hstep : (b.step address port family).bound = b.bound ++ [l] ∧ (b.step address port family).failure = b.failure ∧
          (b.step address port family).host.network = m' := by
        unfold Binding.step
        rw [hc]
        dsimp only
        rw [hbind]
        exact ⟨rfl, rfl, rfl⟩
      have hfamily : l.family = family := by
        cases hc
        rfl
      rw [hstep.1, hstep.2.1, hstep.2.2]
      refine ⟨hr.trans hrm', Or.inr ⟨rfl, rfl, ?_, hnext⟩⟩
      rw [Network.ports_append, hd.ports hne, hkept, ← hport, ← hfamily]
      rfl

/-- What is bound one family after the other is what the network grants. -/
theorem Binding.Sound.foldl_ports {b : Binding} (hb : b.Sound h) (hr : h.network.SameRules b.host.network)
    (address : Option IpAddress) (port : UInt16) (families : List AddressFamily) :
    h.network.SameRules (families.foldl (Binding.step address port) b).host.network ∧
    (families.foldl (Binding.step address port) b).host.network.ports (families.foldl (Binding.step address port) b).bound =
      b.host.network.ports b.bound ++
        (h.network.grants address port b.host.network.nextPort families).map Network.onPort ∧
    (families.foldl (Binding.step address port) b).failure =
      (families.reverse.findSome? (h.network.bindFault? address port)).or b.failure := by
  induction families generalizing b with
  | nil => exact ⟨hr, by simp [Network.grants], by simp⟩
  | cons f fs ih =>
    obtain ⟨hr', hstep⟩ := hb.step_ports hr address port f
    obtain ⟨hr'', hports, hfail⟩ := ih (hb.step address port f) hr'
    rw [List.reverse_cons, List.findSome?_append, Option.or_assoc]
    rcases hstep with ⟨e, he, hfe, hp, hn⟩ | ⟨he, hfe, hp, hn⟩
    · refine ⟨hr'', hports.trans ?_, hfail.trans ?_⟩
      · rw [hp, hn, Network.grants, he]
      · rw [hfe, List.findSome?_singleton, he, Option.some_or]
    · refine ⟨hr'', hports.trans ?_, hfail.trans ?_⟩
      · rw [hp, hn, Network.grants, he, List.append_assoc]
        rfl
      · rw [hfe, List.findSome?_singleton, he, Option.none_or]

theorem IpAddress.families_ne_nil (address : Option IpAddress) : families address ≠ [] := by
  cases address <;> exact List.cons_ne_nil _ _

/-- The listeners that are bound are what the network grants, which is something. If nothing is granted, the failure is that of the
last family. -/
theorem bindListeners_ports {address : Option IpAddress} {port : UInt16} {r : Except Refusal (List Listener)}
    (hb : bindListeners h address port = (r, h')) :
    h.network.SameRules h'.network ∧
    (∀ ls, r = .ok ls → ls ≠ [] ∧ h'.network.ports ls = (h.network.granted address port).map Network.onPort) ∧
    ∀ e, r = .error e → h.network.granted address port = [] ∧ ∃ family cause,
      (IpAddress.families address).getLast? = some family ∧ h.network.bindFault? address port family = some cause ∧
        e = .notBound cause := by
  have hs : Binding.Sound h { host := h } := ⟨Host.Calm.refl h, Network.Holds.refl _⟩
  have hf := hs.foldl_ports (Network.SameRules.refl _) address port (IpAddress.families address)
  unfold bindListeners at hb
  revert hf hb
  generalize (IpAddress.families address).foldl (Binding.step address port) { host := h } = b
  rintro hb ⟨hr, hports, hfail⟩
  change b.host.network.ports b.bound = (h.network.granted address port).map Network.onPort at hports
  obtain ⟨front, last, hlast⟩ : ∃ front last, IpAddress.families address = front ++ [last] :=
    ⟨_, _, (List.dropLast_concat_getLast (IpAddress.families_ne_nil address)).symm⟩
  rw [Option.or_none, hlast, List.reverse_append, List.reverse_singleton, List.singleton_append, List.findSome?_cons] at hfail
  -- With nothing bound, nothing is granted: every family has a fault, and that of the last one is kept.
  have hnone : b.bound = [] → h.network.granted address port = [] ∧
      ∃ cause, h.network.bindFault? address port last = some cause ∧ b.failure = some cause := by
    intro hnil
    rw [hnil] at hports
    have hgranted : h.network.granted address port = [] := List.map_eq_nil_iff.1 hports.symm
    obtain ⟨cause, hcause⟩ := (h.network.granted_eq_nil address port).1 hgranted last (by simp [hlast])
    rw [hcause] at hfail
    exact ⟨hgranted, cause, hcause, hfail⟩
  dsimp only at hb
  split at hb
  · rename_i e hnil he
    obtain ⟨hgranted, cause, hcause, hb'⟩ := hnone hnil
    rw [hb'] at he
    cases he
    cases hb
    refine ⟨hr, nofun, ?_⟩
    rintro e ⟨⟩
    exact ⟨hgranted, last, _, by rw [hlast, List.getLast?_concat], hcause, rfl⟩
  · rename_i hsome
    cases hb
    refine ⟨hr, ?_, nofun⟩
    rintro ls ⟨⟩
    refine ⟨fun hnil => ?_, hports⟩
    obtain ⟨-, cause, -, he⟩ := hnone hnil
    exact hsome cause hnil he

end

/-! ## Opening -/

section
variable {n₀ : Network} {h h' : Host}

/-- One more listener is open on its port, or is let go. -/
theorem Opening.Sound.step_ports {l : Listener} {rest : List Listener} {o : Opening} (ho : o.Sound n₀ h (l :: rest))
    (hr : h.network.SameRules o.host.network) {p : UInt16} (hp : o.host.network.port? l = some p) :
    h.network.SameRules (o.step l).host.network ∧
    (o.step l).host.network.ports rest = o.host.network.ports rest ∧
    ((h.network.openFailures.contains (l.family, p) = true ∧
        (o.step l).failure = some (o.failure.getD (.refused l.family p)) ∧
        (o.step l).host.network.ports (o.step l).opened = o.host.network.ports o.opened) ∨
      h.network.openFailures.contains (l.family, p) = false ∧ (o.step l).failure = o.failure ∧
        (o.step l).host.network.ports (o.step l).opened = o.host.network.ports o.opened ++ [(l.family, some p)]) := by
  have hd := ho.2.1.distinct
  rw [List.map_append, List.map_cons, List.perm_middle.nodup_iff, List.nodup_cons, ← List.map_append] at hd
  have hne : ∀ x ∈ o.opened ++ rest, x.number ≠ l.number := fun x hx he => hd.1 (he ▸ List.mem_map_of_mem hx)
  have hopened : ∀ x ∈ o.opened, x.number ≠ l.number := fun x hx => hne x (List.mem_append_left rest hx)
  have hrest : ∀ x ∈ rest, x.number ≠ l.number := fun x hx => hne x (List.mem_append_right o.opened hx)
  rw [← hr.openFailures]
  cases hf : o.host.network.openFailures.contains (l.family, p) with
  | true =>
    have hopen := Network.openListener_refused hp hf
    have hdiff := Network.differsAt_change o.host.network l.number fun s => if s.isBound then Network.closedState s else s
    unfold Opening.step
    rw [hopen]
    exact ⟨hr.trans (Network.sameRules_change _ _ _), hdiff.ports hrest, Or.inl ⟨rfl, rfl, hdiff.ports hopened⟩⟩
  | false =>
    obtain ⟨m, hopen, hrm, hdiff, hpm⟩ := Network.openListener_accepted hp hf
    unfold Opening.step
    rw [hopen]
    refine ⟨hr.trans hrm, hdiff.ports hrest, Or.inr ⟨rfl, rfl, ?_⟩⟩
    dsimp only
    rw [Network.ports_append, hdiff.ports hopened, ← hpm]
    rfl

/-- What is opened one listener after the other is what is not refused. -/
theorem Opening.Sound.foldl_ports {ls : List Listener} {xs : List (AddressFamily × UInt16)} {o : Opening} (ho : o.Sound n₀ h ls)
    (hr : h.network.SameRules o.host.network) (hx : o.host.network.ports ls = xs.map Network.onPort) :
    h.network.SameRules (ls.foldl Opening.step o).host.network ∧
    (ls.foldl Opening.step o).host.network.ports (ls.foldl Opening.step o).opened =
      o.host.network.ports o.opened ++ (xs.filter fun x => !h.network.openFailures.contains x).map Network.onPort ∧
    (ls.foldl Opening.step o).failure =
      o.failure.or ((xs.find? h.network.openFailures.contains).map fun x => .refused x.1 x.2) := by
  induction ls generalizing o xs with
  | nil =>
    obtain rfl : xs = [] := List.map_eq_nil_iff.1 hx.symm
    exact ⟨hr, by simp, by simp⟩
  | cons l ls ih =>
    cases xs with
    | nil => cases hx
    | cons x xs =>
      obtain ⟨hl, hls⟩ := List.cons.inj hx
      obtain ⟨family, p⟩ := x
      obtain ⟨rfl, hp⟩ := Prod.mk.inj hl
      dsimp only at hp
      obtain ⟨hr', hrest, hstep⟩ := ho.step_ports hr hp
      obtain ⟨hr'', hports, hfail⟩ := ih ho.step hr' (hrest.trans hls)
      refine ⟨hr'', hports.trans ?_, hfail.trans ?_⟩
      · rcases hstep with ⟨hf, -, ho'⟩ | ⟨hf, -, ho'⟩
        · rw [ho', List.filter_cons_of_neg (by simpa using hf)]
        · rw [ho', List.filter_cons_of_pos (by simpa using hf), List.append_assoc]
          rfl
      · rcases hstep with ⟨hf, hfe, -⟩ | ⟨hf, hfe, -⟩
        · rw [hfe, List.find?_cons_of_pos hf]
          cases o.failure <;> rfl
        · rw [hfe, List.find?_cons_of_neg (by simpa using hf)]

/-- The listeners that are opened are those that are not refused, and there are some unless there were none to open. If all are
refused, the failure is that of the first one. -/
theorem openListeners_ports {bound : List Listener} {xs : List (AddressFamily × UInt16)} {r : Except Refusal (List Listener)}
    (hh : n₀.Holds h.network bound) (hx : h.network.ports bound = xs.map Network.onPort) (ho : openListeners h bound = (r, h')) :
    h.network.SameRules h'.network ∧
    (∀ ls, r = .ok ls → (ls = [] → xs = []) ∧
      h'.network.ports ls = (xs.filter fun x => !h.network.openFailures.contains x).map Network.onPort) ∧
    ∀ e, r = .error e → (∀ x ∈ xs, x ∈ h.network.openFailures) ∧ ∃ x, xs.head? = some x ∧ e = .notOpened (.refused x.1 x.2) := by
  have hs : Opening.Sound n₀ h bound { host := h } := ⟨Host.Calm.refl h, hh, by simp⟩
  have hf := hs.foldl_ports (Network.SameRules.refl _) hx
  unfold openListeners at ho
  revert hf ho
  generalize bound.foldl Opening.step { host := h } = o
  rintro ho ⟨hr, hports, hfail⟩
  change o.host.network.ports o.opened = (xs.filter fun x => !h.network.openFailures.contains x).map Network.onPort at hports
  rw [Option.none_or] at hfail
  -- With nothing open all are refused, so that the first one to be refused is the first one.
  have hnone : o.opened = [] → (∀ x ∈ xs, x ∈ h.network.openFailures) ∧
      o.failure = xs.head?.map fun x => .refused x.1 x.2 := by
    intro hnil
    rw [hnil] at hports
    have hall : ∀ x ∈ xs, h.network.openFailures.contains x = true := by
      simpa using List.filter_eq_nil_iff.1 (List.map_eq_nil_iff.1 hports.symm)
    refine ⟨by simpa using hall, hfail.trans ?_⟩
    cases xs with
    | nil => rfl
    | cons x xs => rw [List.find?_cons_of_pos (hall x List.mem_cons_self), List.head?_cons]
  dsimp only at ho
  split at ho
  · rename_i e hnil he
    obtain ⟨hall, hfirst⟩ := hnone hnil
    cases ho
    refine ⟨hr, nofun, ?_⟩
    rintro e ⟨⟩
    rw [hfirst] at he
    obtain ⟨x, hx', rfl⟩ := Option.map_eq_some_iff.1 he
    exact ⟨hall, x, hx', rfl⟩
  · rename_i hsome
    cases ho
    refine ⟨hr, ?_, nofun⟩
    rintro ls ⟨⟩
    refine ⟨fun hnil => ?_, hports⟩
    obtain ⟨-, hfirst⟩ := hnone hnil
    cases xs with
    | nil => rfl
    | cons x xs => exact (hsome _ hnil hfirst).elim

end

end CoEdit
