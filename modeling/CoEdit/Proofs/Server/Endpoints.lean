import CoEdit.Proofs.Network.Custody
import CoEdit.Server.Resources

/-!
# Endpoints and their listeners

What is done to a pool keeps the listeners of its endpoints, in order, or adds new ones. An endpoint carries a policy, credentials
and a context; `Endpoint.Carries` says which.
-/

namespace CoEdit

/-- The policy, the credentials and the context of an endpoint. -/
def Endpoint.Carries (e : Endpoint) (policy : SecurityPolicy) (credentials : Option Credentials) (context : Option AuthContext) :
    Prop :=
  e.policy = policy ∧ e.credentials = credentials ∧ e.context = context

namespace Pool

/-- The listeners of the endpoints, in order. -/
def listeners (p : Pool) : List Listener := p.map (·.listener)

variable (p : Pool) (policy : SecurityPolicy) (credentials : Option Credentials) (context : Option AuthContext)

@[simp] theorem listeners_nil : listeners [] = [] := rfl

@[simp] theorem listeners_append (q : Pool) : (p ++ q : Pool).listeners = p.listeners ++ q.listeners := by
  simp [listeners]

@[simp] theorem listeners_secured : (p.secured policy credentials).listeners = p.listeners := by
  simp [listeners, secured, Endpoint.secured]

@[simp] theorem listeners_withContext : (p.withContext context).listeners = p.listeners := by
  simp [listeners, withContext, Endpoint.withContext]

theorem mem_listeners {e : Endpoint} (h : e ∈ p) : e.listener ∈ p.listeners := List.mem_map_of_mem h

/-- The endpoint whose port is that of the pool is one of its endpoints, and there is one unless the pool is empty. -/
theorem exists_leading (hp : p ≠ []) : ∃ e ∈ p, p.leading? = some e := by
  unfold leading?
  cases hf : p.ofFamily? .ipv6 with
  | some e => exact ⟨e, List.mem_of_find?_eq_some hf, rfl⟩
  | none =>
    cases p with
    | nil => exact absurd rfl hp
    | cons e p => exact ⟨e, List.mem_cons_self, rfl⟩

/-! ## Adding listeners -/

/-- Listeners that are added come after those there were. -/
theorem listeners_addListeners (h : Host) (ls : List Listener) :
    (addListeners p h policy credentials context ls).1.listeners = p.listeners ++ ls := by
  induction ls generalizing p h with
  | nil => simp [addListeners]
  | cons l ls ih =>
    rw [addListeners, ih, listeners_append, List.append_assoc]
    rfl

/-- Adding listeners does nothing to a host but count the endpoints. -/
theorem host_addListeners (h : Host) (ls : List Listener) :
    (addListeners p h policy credentials context ls).2 = { h with nextEndpoint := h.nextEndpoint + ls.length } := by
  induction ls generalizing p h with
  | nil => rfl
  | cons l ls ih =>
    rw [addListeners, ih]
    simp only [Endpoint.create, List.length_cons, Nat.add_assoc, Nat.add_comm 1]

@[simp] theorem network_addListeners (h : Host) (ls : List Listener) :
    (addListeners p h policy credentials context ls).2.network = h.network := by
  rw [host_addListeners]

/-- Endpoints that are added carry what they are added with. -/
theorem carries_addListeners (h : Host) (ls : List Listener) (hp : ∀ e ∈ p, e.Carries policy credentials context) :
    ∀ e ∈ (addListeners p h policy credentials context ls).1, e.Carries policy credentials context := by
  induction ls generalizing p h with
  | nil => exact hp
  | cons l ls ih =>
    rw [addListeners]
    refine ih _ _ ?_
    intro e he
    rcases List.mem_append.1 he with he | he
    · exact hp e he
    · rw [List.mem_singleton.1 he]
      exact ⟨rfl, rfl, rfl⟩

/-- Endpoints whose policy and credentials were set and then their context carry all three. -/
theorem carries_secured_withContext : ∀ e ∈ (p.secured policy credentials).withContext context,
    e.Carries policy credentials context := by
  intro e he
  obtain ⟨e', he', rfl⟩ := List.mem_map.1 he
  obtain ⟨e'', -, rfl⟩ := List.mem_map.1 he'
  exact ⟨rfl, rfl, rfl⟩

/-- Setting the context that endpoints carry already changes nothing about it. -/
theorem carries_withContext (hp : ∀ e ∈ p, e.Carries policy credentials context) :
    ∀ e ∈ p.withContext context, e.Carries policy credentials context := by
  intro e he
  obtain ⟨e', he', rfl⟩ := List.mem_map.1 he
  obtain ⟨hpo, hcr, -⟩ := hp e' he'
  exact ⟨hpo, hcr, rfl⟩

/-! ## Closing -/

/-- Closing the endpoints of a pool takes their listeners from who held them. -/
theorem holds_closeAll {n₀ n : Network} {ls : List Listener} (h : n₀.Holds n (p.listeners ++ ls)) :
    n₀.Holds (p.closeAll n) ls := by
  induction p generalizing n with
  | nil => exact h
  | cons e p ih =>
    have h' : n₀.Holds n ([] ++ e.listener :: (listeners p ++ ls)) := h
    exact ih h'.close

/-- Closing the endpoints of a pool leaves other listeners alone. -/
theorem state?_closeAll (n : Network) {j : Nat} (hj : j ∉ p.listeners.map (·.number)) :
    (p.closeAll n).state? j = n.state? j := by
  induction p generalizing n with
  | nil => rfl
  | cons e p ih =>
    simp only [listeners, List.map_cons, List.mem_cons, not_or] at hj
    exact (ih _ hj.2).trans (Network.state?_close_ne n hj.1)

end Pool

/-- The order of families does not matter to who holds listeners. -/
theorem sixthFirst_perm (ls : List Listener) : (sixthFirst ls).Perm ls := by
  have h : (fun l : Listener => decide (l.family ≠ .ipv6)) = fun l => !decide (l.family = .ipv6) := by
    funext l
    simp
  rw [sixthFirst, h]
  exact List.filter_append_perm _ ls

end CoEdit
