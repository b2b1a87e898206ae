import CoEdit.Network

/-!
# Who holds the listeners

`Network.Holds n₀ n ls` says what became of a network `n₀` when all that was made since is in the hands of someone who holds the
listeners `ls`: nothing became of the listeners that were there before, and of those made since exactly the listeners of `ls` are
bound. Binding, opening, letting go and closing are stated as what they do to this.
-/

namespace CoEdit
namespace Network

/-- A listener is neither bound nor open. -/
def Idle (n : Network) (i : Nat) : Prop := ∀ s, n.state? i = some s → s.isBound = false ∧ s.isOpen = false

/-- Since `n₀`, nothing became of the listeners there were, and of the others exactly those of a list are bound. -/
structure Holds (n₀ n : Network) (ls : List Listener) : Prop where
  earlier : ∀ i, i < n₀.listeners.length → n.state? i = n₀.state? i
  grows : n₀.listeners.length ≤ n.listeners.length
  fresh : ∀ l ∈ ls, n₀.listeners.length ≤ l.number
  distinct : (ls.map (·.number)).Nodup
  bound : ∀ l ∈ ls, ∃ s, n.state? l.number = some s ∧ s.isBound = true
  idle : ∀ i, n₀.listeners.length ≤ i → i ∉ ls.map (·.number) → n.Idle i

/-! ## Changes of one listener -/

@[simp] theorem length_change (n : Network) (i : Nat) (f : ListenerState → ListenerState) :
    (n.change i f).listeners.length = n.listeners.length := by
  simp [change]

theorem state?_change_ne (n : Network) {i j : Nat} (f : ListenerState → ListenerState) (h : j ≠ i) :
    (n.change i f).state? j = n.state? j := by
  rw [state?_change, if_neg (Ne.symm h)]

theorem state?_change_self (n : Network) (i : Nat) (f : ListenerState → ListenerState) :
    (n.change i f).state? i = (n.state? i).map f := by
  rw [state?_change, if_pos rfl]

/-- Only listeners that were made have a state. -/
theorem lt_length_of_state? {n : Network} {i : Nat} {s : ListenerState} (h : n.state? i = some s) :
    i < n.listeners.length :=
  (List.getElem?_eq_some_iff.1 h).1

section
variable {n m : Network} {l : Listener} {family : AddressFamily} {address : Option IpAddress} {port : UInt16}

/-- A listener that is made has the next number, and is neither bound nor open. -/
theorem create_spec (h : n.create family address port = (l, m)) :
    m.state? l.number = some { family, address, port } ∧ l.number = n.listeners.length := by
  have hs := state?_create n family address port
  rw [h] at hs
  exact ⟨hs, (congrArg (·.1.number) h).symm⟩

theorem length_of_create (h : n.create family address port = (l, m)) : m.listeners.length = n.listeners.length + 1 := by
  cases h
  simp

/-- The listeners there were keep their state when one is made. -/
theorem state?_of_create (h : n.create family address port = (l, m)) {i : Nat} (hi : i < n.listeners.length) :
    m.state? i = n.state? i := by
  cases h
  simp [state?, List.getElem?_append_left hi]

end

/-- A listener that was closed is idle. -/
theorem idle_close (n : Network) (l : Listener) : (n.close l).Idle l.number := by
  intro s hs
  rw [close, state?_change_self] at hs
  obtain ⟨s', -, rfl⟩ := Option.map_eq_some_iff.1 hs
  exact ⟨rfl, rfl⟩

/-- A listener that was let go is idle, unless it was open without being bound. -/
theorem idle_release {n : Network} {l : Listener} (h : ∀ s, n.state? l.number = some s → s.isBound = true ∨ s.isOpen = false) :
    (n.release l).Idle l.number := by
  intro s hs
  rw [release, state?_change_self] at hs
  obtain ⟨s', hs', rfl⟩ := Option.map_eq_some_iff.1 hs
  by_cases hb : s'.isBound = true
  · rw [if_pos hb]
    exact ⟨rfl, rfl⟩
  · rw [if_neg hb]
    exact ⟨by simpa using hb, (h s' hs').resolve_left hb⟩

/-- The other listeners do not notice that one is closed or let go. -/
theorem state?_close_ne (n : Network) {l : Listener} {j : Nat} (h : j ≠ l.number) : (n.close l).state? j = n.state? j :=
  state?_change_ne n _ h

theorem state?_release_ne (n : Network) {l : Listener} {j : Nat} (h : j ≠ l.number) : (n.release l).state? j = n.state? j :=
  state?_change_ne n _ h

/-- A listener that was bound is open in a network where its state is the same. -/
theorem isOpen_congr {n n' : Network} {l : Listener} (h : n'.state? l.number = n.state? l.number) :
    n'.isOpen l = n.isOpen l := by
  rw [isOpen, isOpen, h]

theorem port?_congr {n n' : Network} {l : Listener} (h : n'.state? l.number = n.state? l.number) :
    n'.port? l = n.port? l := by
  rw [port?, port?, h]

/-- Letting go of a listener that is not bound changes nothing. -/
theorem release_eq_self {n : Network} {l : Listener} (h : ∀ s, n.state? l.number = some s → s.isBound = false) :
    n.release l = n := by
  have he : n.listeners.modify l.number (fun s => if s.isBound then closedState s else s) = n.listeners := by
    refine List.ext_getElem? ?_
    intro i
    rw [List.getElem?_modify]
    by_cases hi : l.number = i
    · subst hi
      cases hs : n.listeners[l.number]? with
      | none => rfl
      | some s => simp [h s hs]
    · simp [hi]
  rw [release, change, he]

/-! ## Changes in the hands of a holder -/

/-- Two networks that differ in at most one listener. -/
def DiffersAt (n n' : Network) (k : Nat) : Prop :=
  n'.listeners.length = n.listeners.length ∧ ∀ j, j ≠ k → n'.state? j = n.state? j

theorem differsAt_change (n : Network) (k : Nat) (f : ListenerState → ListenerState) : DiffersAt n (n.change k f) k :=
  ⟨length_change n k f, fun _ hj => state?_change_ne n f hj⟩

theorem differsAt_of_modify {n n' : Network} {k : Nat} {f : ListenerState → ListenerState}
    (h : n'.listeners = n.listeners.modify k f) : DiffersAt n n' k := by
  refine ⟨by rw [h, List.length_modify], ?_⟩
  intro j hj
  simp [state?, h, Ne.symm hj]

namespace Holds

variable {n₀ n n' : Network} {ls : List Listener} {l : Listener}

/-- Nothing was made, nothing is held. -/
theorem refl (n : Network) : Holds n n [] where
  earlier _ _ := rfl
  grows := Nat.le_refl _
  fresh := by simp
  distinct := by simp
  bound := by simp
  idle i hi _ s hs := absurd (lt_length_of_state? hs) (by omega)

/-- What is held after two stretches is what the first one left and what the second one added. -/
theorem trans {n₁ n₂ : Network} {as bs : List Listener} (h : Holds n₀ n₁ as) (h' : Holds n₁ n₂ bs) :
    Holds n₀ n₂ (as ++ bs) := by
  have hlt : ∀ a ∈ as, a.number < n₁.listeners.length := by
    intro a ha
    obtain ⟨s, hs, -⟩ := h.bound a ha
    exact lt_length_of_state? hs
  refine ⟨?_, Nat.le_trans h.grows h'.grows, ?_, ?_, ?_, ?_⟩
  · intro i hi
    rw [h'.earlier i (Nat.lt_of_lt_of_le hi h.grows), h.earlier i hi]
  · intro l hl
    rcases List.mem_append.1 hl with hl | hl
    · exact h.fresh l hl
    · exact Nat.le_trans h.grows (h'.fresh l hl)
  · rw [List.map_append]
    refine List.nodup_append.2 ⟨h.distinct, h'.distinct, ?_⟩
    intro x hx y hy
    obtain ⟨a, ha, rfl⟩ := List.mem_map.1 hx
    obtain ⟨b, hb, rfl⟩ := List.mem_map.1 hy
    have h1 := hlt a ha
    have h2 := h'.fresh b hb
    omega
  · intro l hl
    rcases List.mem_append.1 hl with hl | hl
    · rw [h'.earlier _ (hlt l hl)]
      exact h.bound l hl
    · exact h'.bound l hl
  · intro i hi hn
    simp only [List.map_append, List.mem_append, not_or] at hn
    by_cases hlt' : i < n₁.listeners.length
    · intro s hs
      rw [h'.earlier i hlt'] at hs
      exact h.idle i hi hn.1 s hs
    · exact h'.idle i (by omega) hn.2

/-- A listener that was just made is held by nobody, and idle. -/
theorem create {m : Network} {family : AddressFamily} {address : Option IpAddress} {port : UInt16} (h : Holds n₀ n ls)
    (hc : n.create family address port = (l, m)) : Holds n₀ m ls := by
  obtain ⟨hs, hl⟩ := create_spec hc
  have hlen := length_of_create hc
  have hg := h.grows
  refine ⟨?_, by omega, h.fresh, h.distinct, ?_, ?_⟩
  · intro i hi
    rw [state?_of_create hc (by omega), h.earlier i hi]
  · intro x hx
    obtain ⟨s, hs', hb⟩ := h.bound x hx
    exact ⟨s, by rw [state?_of_create hc (lt_length_of_state? hs'), hs'], hb⟩
  · intro i hi hn s hs'
    rcases Nat.lt_or_ge i n.listeners.length with hlt | hge
    · rw [state?_of_create hc hlt] at hs'
      exact h.idle i hi hn s hs'
    · have hi : i = l.number := by
        have := lt_length_of_state? hs'
        omega
      rw [hi, hs] at hs'
      cases hs'
      exact ⟨rfl, rfl⟩

/-- A listener nobody held is bound, and held from then on. -/
theorem gain (h : Holds n₀ n ls) (hd : DiffersAt n n' l.number) (hf : n₀.listeners.length ≤ l.number)
    (hn : l.number ∉ ls.map (·.number)) (hb : ∃ s, n'.state? l.number = some s ∧ s.isBound = true) :
    Holds n₀ n' (ls ++ [l]) := by
  refine ⟨?_, by rw [hd.1]; exact h.grows, ?_, ?_, ?_, ?_⟩
  · intro i hi
    rw [hd.2 i (by omega), h.earlier i hi]
  · intro x hx
    rcases List.mem_append.1 hx with hx | hx
    · exact h.fresh x hx
    · rw [List.mem_singleton.1 hx]
      exact hf
  · rw [List.map_append]
    refine List.nodup_append.2 ⟨h.distinct, by simp, ?_⟩
    intro x hx y hy
    rw [List.map_singleton, List.mem_singleton] at hy
    rintro rfl
    exact hn (hy ▸ hx)
  · intro x hx
    rcases List.mem_append.1 hx with hx | hx
    · rw [hd.2 _ (fun e => hn (e ▸ List.mem_map_of_mem hx))]
      exact h.bound x hx
    · rw [List.mem_singleton.1 hx]
      exact hb
  · intro i hi hni
    simp only [List.map_append, List.map_singleton, List.mem_append, List.mem_singleton, not_or] at hni
    intro s hs
    rw [hd.2 i hni.2] at hs
    exact h.idle i hi hni.1 s hs

/-- A listener that is held changes and stays bound. -/
theorem touch (h : Holds n₀ n ls) (hd : DiffersAt n n' l.number) (hl : l ∈ ls)
    (hb : ∃ s, n'.state? l.number = some s ∧ s.isBound = true) : Holds n₀ n' ls := by
  have hf := h.fresh l hl
  refine ⟨?_, by rw [hd.1]; exact h.grows, h.fresh, h.distinct, ?_, ?_⟩
  · intro i hi
    rw [hd.2 i (by omega), h.earlier i hi]
  · intro x hx
    by_cases he : x.number = l.number
    · rw [he]
      exact hb
    · rw [hd.2 _ he]
      exact h.bound x hx
  · intro i hi hni s hs
    rw [hd.2 i (fun e => hni (e ▸ List.mem_map_of_mem hl))] at hs
    exact h.idle i hi hni s hs

/-- A listener that was held becomes idle, and is held no longer. -/
theorem lose {as bs : List Listener} (h : Holds n₀ n (as ++ l :: bs)) (hd : DiffersAt n n' l.number)
    (hi : n'.Idle l.number) : Holds n₀ n' (as ++ bs) := by
  have hf := h.fresh l (by simp)
  have hsub : (as ++ bs).Sublist (as ++ l :: bs) := List.Sublist.append_left (List.sublist_cons_self l bs) as
  have hne : ∀ x ∈ as ++ bs, x.number ≠ l.number := by
    have hd := h.distinct
    rw [List.map_append, List.map_cons, List.perm_middle.nodup_iff, List.nodup_cons, ← List.map_append] at hd
    intro x hx he
    exact hd.1 (he ▸ List.mem_map_of_mem hx)
  refine ⟨?_, by rw [hd.1]; exact h.grows, fun x hx => h.fresh x (hsub.subset hx),
    h.distinct.sublist (hsub.map _), ?_, ?_⟩
  · intro i hi
    rw [hd.2 i (by omega), h.earlier i hi]
  · intro x hx
    rw [hd.2 _ (hne x hx)]
    exact h.bound x (hsub.subset hx)
  · intro i hi' hni
    by_cases he : i = l.number
    · rw [he]
      exact hi
    · intro s hs
      rw [hd.2 i he] at hs
      refine h.idle i hi' ?_ s hs
      simp only [List.map_append, List.map_cons, List.mem_append, List.mem_cons, not_or] at hni ⊢
      exact ⟨hni.1, he, hni.2⟩

/-- What is held does not depend on the order. -/
theorem perm {ls' : List Listener} (h : Holds n₀ n ls) (p : ls.Perm ls') : Holds n₀ n ls' where
  earlier := h.earlier
  grows := h.grows
  fresh l hl := h.fresh l (p.mem_iff.2 hl)
  distinct := (p.map _).nodup_iff.1 h.distinct
  bound l hl := h.bound l (p.mem_iff.2 hl)
  idle i hi hn := h.idle i hi fun hm => hn ((p.map _).mem_iff.1 hm)

/-- What is held was made. -/
theorem lt_length (h : Holds n₀ n ls) {l : Listener} (hl : l ∈ ls) : l.number < n.listeners.length := by
  obtain ⟨s, hs, -⟩ := h.bound l hl
  exact lt_length_of_state? hs

/-! ## Binding, opening, letting go and closing -/

end Holds

/-- An attempt to bind a listener changes that listener at most: it is bound, or nothing changes. -/
theorem bind_cases {n m : Network} {l : Listener} {s : ListenerState} {r : Except NetworkError Unit}
    (hs : n.state? l.number = some s) (hb : n.bind l = (r, m)) :
    (r = .ok () ∧ DiffersAt n m l.number ∧ ∃ s', m.state? l.number = some s' ∧ s'.isBound = true) ∨
      ∃ e, r = .error e ∧ m = n := by
  simp only [bind, hs] at hb
  split at hb
  · cases hb
    exact Or.inr ⟨_, rfl, rfl⟩
  · split at hb
    · cases hb
      exact Or.inr ⟨_, rfl, rfl⟩
    · split at hb
      · cases hb
        refine Or.inl ⟨rfl, differsAt_of_modify rfl, { s with port := n.nextPort, isBound := true }, ?_, rfl⟩
        exact (state?_change_self n l.number _).trans (by rw [hs]; rfl)
      · cases hb
        refine Or.inl ⟨rfl, differsAt_change n _ _, { s with isBound := true }, ?_, rfl⟩
        rw [state?_change_self, hs]
        rfl

/-- An attempt to open a bound listener changes that listener at most: it is open and still bound, or nothing changes. -/
theorem openListener_cases {n m : Network} {l : Listener} {s : ListenerState} {r : Except NetworkError Unit}
    (hs : n.state? l.number = some s) (hb : s.isBound = true) (ho : n.openListener l = (r, m)) :
    (r = .ok () ∧ DiffersAt n m l.number ∧ ∃ s', m.state? l.number = some s' ∧ s'.isBound = true ∧ s'.isOpen = true) ∨
      ∃ e, r = .error e ∧ m = n := by
  simp only [openListener, hs, hb, not_true_eq_false, if_false] at ho
  split at ho
  · cases ho
    exact Or.inr ⟨_, rfl, rfl⟩
  · cases ho
    refine Or.inl ⟨rfl, differsAt_change n _ _, { s with isOpen := true }, ?_, hb, rfl⟩
    rw [state?_change_self, hs]
    rfl

namespace Holds

variable {n₀ n m m' : Network} {ls as bs : List Listener} {l : Listener}

/-- A listener that was made and bound is held with the others. -/
theorem bind_ok (h : Holds n₀ n ls) {family : AddressFamily} {address : Option IpAddress} {port : UInt16}
    (hc : n.create family address port = (l, m)) (hb : m.bind l = (.ok (), m')) : Holds n₀ m' (ls ++ [l]) := by
  obtain ⟨hs, hn⟩ := create_spec hc
  rcases bind_cases hs hb with ⟨-, hd, hbound⟩ | ⟨e, he, -⟩
  · refine (h.create hc).gain hd (hn ▸ h.grows) ?_ hbound
    intro hm
    obtain ⟨x, hx, hxn⟩ := List.mem_map.1 hm
    have hlt := h.lt_length hx
    omega
  · cases he

/-- A listener that was made, could not be bound and was let go is not held. -/
theorem bind_error (h : Holds n₀ n ls) {family : AddressFamily} {address : Option IpAddress} {port : UInt16} {e : NetworkError}
    (hc : n.create family address port = (l, m)) (hb : m.bind l = (.error e, m')) : Holds n₀ (m'.release l) ls := by
  obtain ⟨hs, -⟩ := create_spec hc
  rcases bind_cases hs hb with ⟨he, -⟩ | ⟨-, -, rfl⟩
  · cases he
  · rw [release_eq_self]
    · exact h.create hc
    · intro s hs'
      rw [hs] at hs'
      cases hs'
      rfl

/-- A listener that is held may be opened, and stays held. -/
theorem openListener_ok (h : Holds n₀ n ls) (hl : l ∈ ls) (ho : n.openListener l = (.ok (), m)) :
    Holds n₀ m ls ∧ DiffersAt n m l.number ∧ m.isOpen l = true := by
  obtain ⟨s, hs, hb⟩ := h.bound l hl
  rcases openListener_cases hs hb ho with ⟨-, hd, s', hs', hb', ho'⟩ | ⟨e, he, -⟩
  · refine ⟨h.touch hd hl ⟨s', hs', hb'⟩, hd, ?_⟩
    rw [isOpen, hs']
    exact ho'
  · cases he

/-- A listener that is held and could not be opened is as it was. -/
theorem openListener_error (h : Holds n₀ n ls) (hl : l ∈ ls) {e : NetworkError} (ho : n.openListener l = (.error e, m)) :
    m = n := by
  obtain ⟨s, hs, hb⟩ := h.bound l hl
  rcases openListener_cases hs hb ho with ⟨he, -⟩ | ⟨-, -, hm⟩
  · cases he
  · exact hm

/-- A listener that is let go is held no longer. -/
theorem release (h : Holds n₀ n (as ++ l :: bs)) : Holds n₀ (n.release l) (as ++ bs) := by
  refine h.lose (differsAt_change n l.number _) (idle_release fun s hs => Or.inl ?_)
  obtain ⟨s', hs', hb⟩ := h.bound l (by simp)
  rw [hs] at hs'
  cases hs'
  exact hb

/-- Listeners that are let go one after the other are held no longer. -/
theorem releaseAll (h : Holds n₀ n (as ++ ls)) : Holds n₀ (n.releaseAll ls) as := by
  induction ls generalizing n with
  | nil =>
    rw [List.append_nil] at h
    exact h
  | cons l ls ih => exact ih h.release

/-- A listener that is closed is held no longer. -/
theorem close (h : Holds n₀ n (as ++ l :: bs)) : Holds n₀ (n.close l) (as ++ bs) :=
  h.lose (differsAt_change n l.number _) (idle_close n l)

end Holds

end Network
end CoEdit
