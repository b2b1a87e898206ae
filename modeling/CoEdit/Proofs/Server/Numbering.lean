import CoEdit.Proofs.Server.Run

/-!
# Numbers of endpoints

An endpoint takes the next number of the host, and no number is handed out twice. `Server.Onward` says of a server and a later one that
each endpoint of the later one was there before or is new since. A reload that replaces the listeners keeps no endpoint, and an endpoint
that is gone never comes back (`Server.Onward.not_mem`).
-/

namespace CoEdit

namespace Pool

variable (p : Pool) (policy : SecurityPolicy) (credentials : Option Credentials) (context : Option AuthContext)

theorem numbers_secured : (p.secured policy credentials).numbers = p.numbers := by
  simp [numbers, secured, Endpoint.secured]

theorem numbers_withContext : (p.withContext context).numbers = p.numbers := by
  simp [numbers, withContext, Endpoint.withContext]

/-- Endpoints that are added have the numbers that come next. -/
theorem numbers_addListeners (h : Host) (ls : List Listener) :
    (addListeners p h policy credentials context ls).1.numbers = p.numbers ++ List.range' h.nextEndpoint ls.length := by
  induction ls generalizing p h with
  | nil => exact (List.append_nil _).symm
  | cons l ls ih =>
    rw [addListeners, ih, List.length_cons, List.range'_succ, numbers, List.map_append, List.append_assoc]
    rfl

/-- A number leads to an endpoint if an endpoint has it. -/
theorem isSome_get? (n : Nat) : (p.get? n).isSome = true ↔ n ∈ p.numbers := by
  simp [get?, numbers]

end Pool

namespace Server

variable {s s' s'' : Server} {h h' h'' : Host}

/-- The numbers of the endpoints were handed out. -/
def Numbered (s : Server) (h : Host) : Prop := ∀ n ∈ s.pool.numbers, n < h.nextEndpoint

/-- Each endpoint was there before, or its number was handed out since. -/
structure Onward (s : Server) (h : Host) (s' : Server) (h' : Host) : Prop where
  nextEndpoint : h.nextEndpoint ≤ h'.nextEndpoint
  numbers : ∀ n ∈ s'.pool.numbers, n ∈ s.pool.numbers ∨ (h.nextEndpoint ≤ n ∧ n < h'.nextEndpoint)

namespace Onward

theorem of_pool_eq (hp : s'.pool = s.pool) (hn : h'.nextEndpoint = h.nextEndpoint) : s.Onward h s' h' :=
  ⟨Nat.le_of_eq hn.symm, fun _ hm => Or.inl (hp ▸ hm)⟩

theorem trans (o : s.Onward h s' h') (o' : s'.Onward h' s'' h'') : s.Onward h s'' h'' := by
  refine ⟨Nat.le_trans o.nextEndpoint o'.nextEndpoint, ?_⟩
  intro n hn
  rcases o'.numbers n hn with hn | ⟨hle, hlt⟩
  · exact (o.numbers n hn).imp_right fun hb => ⟨hb.1, Nat.lt_of_lt_of_le hb.2 o'.nextEndpoint⟩
  · exact Or.inr ⟨Nat.le_trans o.nextEndpoint hle, hlt⟩

theorem numbered (o : s.Onward h s' h') (hs : s.Numbered h) : s'.Numbered h' := by
  intro n hn
  rcases o.numbers n hn with hn | hb
  · exact Nat.lt_of_lt_of_le (hs n hn) o.nextEndpoint
  · exact hb.2

/-- An endpoint that was handed out and is gone never comes back. -/
theorem not_mem (o : s.Onward h s' h') {n : Nat} (hn : n ∉ s.pool.numbers) (hlt : n < h.nextEndpoint) : n ∉ s'.pool.numbers := by
  intro hm
  rcases o.numbers n hm with hm | hb
  · exact hn hm
  · exact Nat.not_le_of_lt hlt hb.1

end Onward

/-- The endpoints of a server that was started have the numbers that came next. -/
theorem numbered_start {c : Config} {dir : Directory} {options : ServerOptions} (hs : startWith c dir options h = (.ok s, h')) :
    s.Numbered h' := by
  obtain ⟨snapshot, h₁, bound, h₂, storage, opened, h₃, -, -, -, -, he⟩ := startWith_ok hs
  have hnumbered : (assemble snapshot opened storage dir options h₃).2.1.Numbered
      (assemble snapshot opened storage dir options h₃).2.2 := by
    intro n hn
    rw [(attends_assemble snapshot opened storage dir options h₃).nextEndpoint, Pool.host_addListeners]
    have hn : n ∈ ((Pool.addListeners [] h₃ snapshot.policy snapshot.credentials snapshot.context opened).1.withContext
        snapshot.context).numbers := hn
    rw [Pool.numbers_withContext, Pool.numbers_addListeners] at hn
    exact (List.mem_range'_1.1 hn).2
  rw [he] at hnumbered
  exact hnumbered

/-- The numbers of the endpoints after a reload are those there were, or those that come next. -/
theorem numbers_commit (s : Server) (h : Host) (a : Acquisition) : (s.commit h a).2.1.pool.numbers = match a.listeners with
    | none => s.pool.numbers
    | some ls => List.range' h.nextEndpoint (sixthFirst ls).length := by
  refine (Pool.numbers_withContext (s.renewPool h a).1 a.snapshot.context).trans ?_
  unfold renewPool
  cases a.listeners with
  | none => exact Pool.numbers_secured _ _ _
  | some ls => exact (Pool.numbers_addListeners _ _ _ _ _ _).trans (List.nil_append _)

theorem nextEndpoint_commit (s : Server) (h : Host) (a : Acquisition) : (s.commit h a).2.2.nextEndpoint = match a.listeners with
    | none => h.nextEndpoint
    | some ls => h.nextEndpoint + (sixthFirst ls).length := by
  rw [(attends_commit s h a).nextEndpoint]
  unfold renewPool
  cases a.listeners with
  | none => rfl
  | some ls => exact congrArg Host.nextEndpoint (Pool.host_addListeners _ _ _ _ _ _)

/-- A reload leads onward. If it replaces the listeners it keeps no endpoint. -/
theorem onward_reload (engine : ReloadEngine) (s : Server) (h : Host) (source : ConfigSource) :
    s.Onward h (engine.reload s h source).2.2.1 (engine.reload s h source).2.2.2 ∧
      ∀ summary, (engine.reload s h source).1 = .ok summary → summary.listenersReplaced = true →
        ∀ n ∈ (engine.reload s h source).2.2.1.pool.numbers, h.nextEndpoint ≤ n := by
  rw [reload_eq]
  cases hx : s.acquire h source with
  | mk r h₁ =>
    have hn := (acquire_holds hx).1.nextEndpoint
    cases r with
    | error e => exact ⟨.of_pool_eq rfl hn, fun _ he => nomatch he⟩
    | ok a =>
      dsimp only
      have hpool := numbers_commit s h₁ a
      have hnext := nextEndpoint_commit s h₁ a
      rw [hn] at hpool hnext
      cases hl : a.listeners with
      | none =>
        rw [hl] at hpool hnext
        refine ⟨⟨Nat.le_of_eq hnext.symm, fun n hm => Or.inl (hpool.subst hm)⟩, ?_⟩
        intro summary he hr
        cases he
        exact absurd (hl ▸ hr : (none : Option (List Listener)).isSome = true) Bool.false_ne_true
      | some ls =>
        rw [hl] at hpool hnext
        have hnew : ∀ n ∈ (s.commit h₁ a).2.1.pool.numbers, h.nextEndpoint ≤ n ∧ n < (s.commit h₁ a).2.2.nextEndpoint := by
          rw [hpool, hnext]
          exact fun n hm => List.mem_range'_1.1 hm
        exact ⟨⟨hnext ▸ Nat.le_add_right _ _, fun n hm => Or.inr (hnew n hm)⟩, fun _ _ _ n hm => (hnew n hm).1⟩

end Server
end CoEdit
