import CoEdit.Proofs.Server.Refusal
import CoEdit.Proofs.Server.Serving

/-!
# The configured port

Where a port is configured it is the port of the pool. The other endpoints are on it as well, with one exception: endpoints that
were made for port zero are on free ports of their own, and a reload that configures the port of the first of them keeps them all
(`Server.Reached.port_served`, `Server.port_half_served`).
-/

namespace CoEdit
namespace Network

/-- Of the families that ask for no port both can be had, on consecutive free ports, or at most one. -/
theorem granted_zero (n : Network) (address : Option IpAddress) :
    (n.granted address 0).length ≤ 1 ∨ n.granted address 0 = [(.ipv6, n.nextPort), (.ipv4, n.nextPort + 1)] := by
  cases address with
  | some a =>
    cases ha : n.bindFault? (some a) 0 a.family <;> simp [granted, IpAddress.families, grants, ha]
  | none =>
    cases h6 : n.bindFault? none 0 .ipv6 <;> cases h4 : n.bindFault? none 0 .ipv4 <;>
      simp [granted, IpAddress.families, grants, h6, h4]

/-- Of the endpoints that ask for no port both are open, on consecutive free ports, or at most one. -/
theorem openable_zero (n : Network) (address : Option IpAddress) :
    (n.openable address 0).length ≤ 1 ∨ n.openable address 0 = [(.ipv6, n.nextPort), (.ipv4, n.nextPort + 1)] := by
  have hsub : (n.openable address 0).Sublist (n.granted address 0) := List.filter_sublist
  rcases n.granted_zero address with hlen | htwo
  · exact Or.inl (Nat.le_trans hsub.length_le hlen)
  · rw [htwo] at hsub
    rcases Nat.lt_or_eq_of_le hsub.length_le with hlt | heq
    · exact Or.inl (Nat.le_of_lt_succ hlt)
    · exact Or.inr (hsub.eq_of_length heq)

/-- Endpoints that were made for a port are all on one port, unless they were made for port zero on two free ports. -/
theorem openable_cases (n : Network) (address : Option IpAddress) (port : UInt16) :
    (∃ q, (port ≠ 0 → q = port) ∧ ∀ x ∈ n.openable address port, x.2 = q) ∨
      port = 0 ∧ ∃ q, n.openable address port = [(.ipv6, q), (.ipv4, q + 1)] := by
  by_cases hp : port = 0
  · subst hp
    rcases n.openable_zero address with hlen | htwo
    · left
      rcases hx : n.openable address 0 with _ | ⟨x, _ | ⟨y, rest⟩⟩
      · exact ⟨0, fun _ => rfl, by simp⟩
      · exact ⟨x.2, fun h => absurd rfl h, by simp⟩
      · simp [hx] at hlen
    · exact Or.inr ⟨rfl, _, htwo⟩
  · exact Or.inl ⟨port, fun _ => rfl, fun x hx => n.grants_of_ne_zero address hp _ _ x (List.mem_filter.1 hx).1⟩

/-- Where all endpoints are on one port, that is the port of the pool. -/
theorem leadingPort?_of_forall {xs : List (AddressFamily × Option UInt16)} {q : UInt16} (hne : xs ≠ [])
    (h : ∀ x ∈ xs, x.2 = some q) : leadingPort? xs = some q := by
  unfold leadingPort?
  cases hf : xs.find? fun x => x.1 = .ipv6 with
  | some x => exact h x (List.mem_of_find?_eq_some hf)
  | none =>
    cases xs with
    | nil => exact absurd rfl hne
    | cons x rest => exact h x List.mem_cons_self

end Network

namespace Server

variable {s : Server} {h h₀ : Host}

/-- Endpoints with a port are on it exactly if the families and ports of the pool say so. -/
theorem forall_port?_iff (s : Server) (h : Host) (p : UInt16) :
    (∀ e ∈ s.pool, h.network.port? e.listener = some p) ↔ ∀ x ∈ s.ports h, x.2 = some p := by
  simp [ports, Network.ports, Pool.listeners]

/-- Where a port is configured it is the port of the pool, along every run. All endpoints are on it unless the pool has two that
were made for port zero and are on free ports, of which the configured one is the first. -/
theorem Reached.port_served {admitted : Config → Prop} {allowed : ServerAction → Prop} (hr : Reached admitted allowed h₀ s h)
    (hp : s.snapshot.port ≠ 0) :
    (s.pool ≠ [] → s.port? h = some s.snapshot.port) ∧
    ((∀ e ∈ s.pool, h.network.port? e.listener = some s.snapshot.port) ↔
      s.ports h ≠ [(.ipv6, some s.snapshot.port), (.ipv4, some (s.snapshot.port + 1))]) := by
  by_cases hpool : s.pool = []
  · have hnil := (s.ports_eq_nil h).2 hpool
    exact ⟨fun hne => absurd hpool hne, by simp [hpool, hnil]⟩
  have v := hr.serving hpool
  obtain ⟨n, port, hmade, hrel⟩ := v.made
  rw [port?_eq_leadingPort?, forall_port?_iff]
  rcases n.openable_cases s.snapshot.listenAddress port with ⟨q, hq, hall⟩ | ⟨rfl, q, htwo⟩
  · have hports : ∀ x ∈ s.ports h, x.2 = some q := by
      rw [hmade]
      intro x hx
      obtain ⟨y, hy, rfl⟩ := List.mem_map.1 hx
      exact congrArg some (hall y hy)
    have hlead := Network.leadingPort?_of_forall v.nonempty hports
    have hqp : q = s.snapshot.port := by
      rcases hrel with hport | hport
      · rw [hport]
        exact hq (hport ▸ hp)
      · exact Option.some.inj (hlead.symm.trans hport)
    subst hqp
    refine ⟨fun _ => hlead, iff_of_true hports ?_⟩
    intro htwo
    have hnext := hports (.ipv4, some (s.snapshot.port + 1)) (by simp [htwo])
    simp at hnext
  · have hports : s.ports h = [(.ipv6, some q), (.ipv4, some (q + 1))] := by
      rw [hmade, htwo]
      rfl
    rcases hrel with hport | hport
    · exact absurd hport hp
    · rw [hports] at hport
      cases hport
      refine ⟨fun _ => by rw [hports]; rfl, iff_of_false ?_ (not_not_intro hports)⟩
      rw [hports]
      simp

/-- The plain server is told to use another port, and both its endpoints are on that port then. -/
theorem port_served_elsewhere : ∃ s h, Reached Config.IsValid ServerAction.IsReported .blank s h ∧ s.snapshot.port = 7000 ∧
    s.port? h = some 7000 ∧ ∀ e ∈ s.pool, h.network.port? e.listener = some 7000 := by
  have hrun : plainStart.1.toOption.map (fun s =>
      let x := s.perform plainStart.2 (.reload {} ReloadEngine.elsewhere)
      (x.1.snapshot.port, x.1.ports x.2)) = some (7000, [(.ipv6, some 7000), (.ipv4, some 7000)]) := by
    decide +kernel
  obtain ⟨s, h, hs⟩ := plainStart_ok
  rw [hs] at hrun
  simp only [Except.toOption, Option.map_some, Option.some.injEq, Prod.mk.injEq] at hrun
  obtain ⟨hport, hports⟩ := hrun
  have hr : Reached Config.IsValid ServerAction.IsReported .blank (s.perform h (.reload {} ReloadEngine.elsewhere)).1
      (s.perform h (.reload {} ReloadEngine.elsewhere)).2 := .step (.start Config.plain_isValid hs) _ trivial
  obtain ⟨hlead, hall⟩ := Reached.port_served hr (by rw [hport]; decide)
  rw [hport] at hlead hall
  refine ⟨_, _, hr, hport, hlead ?_, hall.2 ?_⟩
  · intro hnil
    rw [(ports_eq_nil _ _).2 hnil] at hports
    cases hports
  · rw [hports]
    decide

/-- A configuration without plugins or TLS, on the first of the free ports. -/
def firstFree : ConfigSource :=
  .inline .json "\x7b\"security\":\x7b\"policy\":\"no-tls\"\x7d,\"server\":\x7b\"port\":40000\x7d\x7d"

/-- A server that was started on port zero is told to use the port that its first endpoint happens to have. It keeps both
endpoints, and the second one is not on the configured port. -/
theorem port_half_served : ∃ s h, Reached Config.IsValid (fun a => ∃ engine source, a = .reload engine source) .blank s h ∧
    s.snapshot.port = 40000 ∧ s.ports h = [(.ipv6, some 40000), (.ipv4, some 40001)] ∧
    ¬∀ e ∈ s.pool, h.network.port? e.listener = some s.snapshot.port := by
  let started :=
    startWith { Config.plain with server := { port := 0 } } { storage := ⟨⟨"documents"⟩⟩ } { modules := .builtin [] } .blank
  have hrun : started.1.toOption.map (fun s =>
      let x := s.perform started.2 (.reload {} firstFree)
      (x.1.snapshot.port, x.1.ports x.2)) = some (40000, [(.ipv6, some 40000), (.ipv4, some 40001)]) := by
    decide +kernel
  cases hs : started with
  | mk r h =>
    rw [hs] at hrun
    cases r with
    | error e => cases hrun
    | ok s =>
      simp only [Except.toOption, Option.map_some, Option.some.injEq, Prod.mk.injEq] at hrun
      obtain ⟨hport, hports⟩ := hrun
      have hv : Config.IsValid { Config.plain with server := { port := 0 } } := by
        unfold Config.IsValid
        rfl
      refine ⟨_, _, .step (.start hv hs) (.reload {} firstFree) ⟨_, _, rfl⟩, hport, hports, ?_⟩
      rw [forall_port?_iff, hports, hport]
      simp

end Server
end CoEdit
