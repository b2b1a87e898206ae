import CoEdit.Proofs.Plugin.Cues
import CoEdit.Proofs.Plugin.Lifecycle
import CoEdit.Proofs.Plugin.Observed
import Mathlib.Data.List.Induction

/-!
# Plugins are stacked

Of two plugins of a registry the one that joined first is told first of what appears, and last of what goes away. It does not matter
whether a connection or session was there before both, came between them or after them: the passages of the two nest (`Stacked`). A
registry that is left by all its plugins calls the second for the last time before it calls the first at all.

The reason is one for all ways to be told. Whoever is told of an arrival joins those that are in, and whoever is told of a departure leaves
those that are in; `Above` says that the order of the registry puts the one that comes or goes on top of them.
-/

namespace CoEdit

open Host

/-! ## Two plugins and one thing -/

/-- What two plugins are told of one connection or session. -/
inductive Passage where
  | firstIn
  | secondIn
  | secondOut
  | firstOut
  deriving DecidableEq

/-- Of two plugins the first is in before the second, and out after it. The second and third part tell who is in at the end. -/
inductive Stacked : List Passage → Bool → Bool → Prop
  | nil : Stacked [] false false
  | firstIn {ps : List Passage} (h : Stacked ps false false) : Stacked (ps ++ [.firstIn]) true false
  | secondIn {ps : List Passage} (h : Stacked ps true false) : Stacked (ps ++ [.secondIn]) true true
  | secondOut {ps : List Passage} (h : Stacked ps true true) : Stacked (ps ++ [.secondOut]) true false
  | firstOut {ps : List Passage} (h : Stacked ps true false) : Stacked (ps ++ [.firstOut]) false false

/-- What a cue tells of a connection or session, as far as two plugins are concerned. -/
def passage? (m n : Nat) (u : Subject) : Nat × Cue → Option Passage
  | (k, .entered v) => if v = u then (if k = m then some .firstIn else if k = n then some .secondIn else none) else none
  | (k, .departed v) => if v = u then (if k = m then some .firstOut else if k = n then some .secondOut else none) else none
  | _ => none

/-- What two plugins were told of a connection or session, in order. -/
def Host.passages (h : Host) (m n : Nat) (u : Subject) : List Passage := h.cues.filterMap (passage? m n u)

variable {m n k : Nat} {u v : Subject} {ps : List Passage} {ks ls : List Nat}

theorem passage?_entered_ne (hv : v ≠ u) : passage? m n u (k, .entered v) = none := if_neg hv

theorem passage?_departed_ne (hv : v ≠ u) : passage? m n u (k, .departed v) = none := if_neg hv

theorem passage?_other (hm : k ≠ m) (hn : k ≠ n) :
    passage? m n u (k, .entered u) = none ∧ passage? m n u (k, .departed u) = none := by
  simp [passage?, hm, hn]

theorem Host.passages_append {h h' : Host} {cs : List (Nat × Cue)} (hc : h'.cues = h.cues ++ cs) (m n : Nat) (u : Subject) :
    h'.passages m n u = h.passages m n u ++ cs.filterMap (passage? m n u) := by
  rw [passages, hc, List.filterMap_append]
  rfl

/-- Whoever starts or stops tells nothing of connections and sessions. -/
theorem Host.passages_quiet {h h' : Host} {cs : List (Nat × Cue)} (hc : h'.cues = h.cues ++ cs)
    (hq : ∀ c ∈ cs, c.2 = .started ∨ c.2 = .stopped) (m n : Nat) (u : Subject) : h'.passages m n u = h.passages m n u := by
  have hnone : cs.filterMap (passage? m n u) = [] := by
    refine List.filterMap_eq_nil_iff.2 ?_
    rintro ⟨k, c⟩ hm
    rcases hq _ hm with rfl | rfl <;> rfl
  rw [passages_append hc, hnone, List.append_nil]

/-- A plugin that is told of many things is told once of each. -/
theorem filterMap_passage? {us : List Subject} (hd : us.Nodup) {c : Subject → Cue}
    (hc : ∀ v, v ≠ u → passage? m n u (k, c v) = none) :
    (us.map fun v => (k, c v)).filterMap (passage? m n u) = if u ∈ us then (passage? m n u (k, c u)).toList else [] := by
  induction us with
  | nil => rfl
  | cons v us ih =>
    rw [List.nodup_cons] at hd
    rw [List.map_cons, List.filterMap_cons, ih hd.2]
    by_cases hv : v = u
    · subst hv
      rw [if_neg hd.1, if_pos List.mem_cons_self]
      cases passage? m n v (k, c v) <;> rfl
    · have hu : u ∈ v :: us ↔ u ∈ us := by simp [Ne.symm hv]
      simp only [hc v hv, hu]

/-! ## The order of plugins -/

/-- Where the second of two numbers stands, the first stands before it. -/
def Precedes (m n : Nat) (ks : List Nat) : Prop := n ∈ ks → [m, n].Sublist ks

/-- A number may stand on top of others: the first of two if the second is not among them, the second if the first is. -/
structure Above (m n k : Nat) (ks : List Nat) : Prop where
  new : k ∉ ks
  first : k = m → n ∉ ks
  second : k = n → m ∈ ks

/-- Of a list without repetitions that goes on, a part at the beginning has the order that the whole has. -/
theorem sublist_of_append (hd : (ks ++ ls).Nodup) (hn : n ∈ ks) (hs : [m, n].Sublist (ks ++ ls)) : [m, n].Sublist ks := by
  have hno : n ∉ ls := fun hl => (List.nodup_append.1 hd).2.2 n hn n hl rfl
  obtain ⟨xs, ys, hxy, hx, hy⟩ := List.sublist_append_iff.1 hs
  rcases List.eq_nil_or_concat ys with rfl | ⟨ys, y, rfl⟩
  · rw [hxy, List.append_nil]
    exact hx
  · -- the last of the two numbers would stand in the second part
    rw [List.concat_eq_append, ← List.append_assoc] at hxy
    rw [show [m, n] = [m] ++ [n] from rfl] at hxy
    have hy' : n = y := List.singleton_inj.1 (List.append_inj' hxy rfl).2
    exact absurd (hy.subset (by simp [hy'])) hno

theorem Precedes.of_append (hd : (ks ++ ls).Nodup) (ho : Precedes m n (ks ++ ls)) : Precedes m n ks := by
  intro hn
  exact sublist_of_append hd hn (ho (List.mem_append_left ls hn))

/-- The last of a list stands on top of the others. -/
theorem Precedes.above (hne : m ≠ n) (hd : (ks ++ [k]).Nodup) (ho : Precedes m n (ks ++ [k])) : Above m n k ks := by
  have hk : k ∉ ks := fun hk => (List.nodup_append.1 hd).2.2 k hk k List.mem_cons_self rfl
  refine ⟨hk, ?_, ?_⟩
  · rintro rfl hn
    exact hk ((ho.of_append hd hn).subset List.mem_cons_self)
  · rintro rfl
    have hm : m ∈ ks ++ [k] := (ho (by simp)).subset List.mem_cons_self
    simpa [hne] using hm

/-- Any but the first of two stands on top of the others. -/
theorem Precedes.above_filter (hk : k ≠ m) (ho : Precedes m n ks) (hmem : k ∈ ks) : Above m n k (ks.filter (· ≠ k)) := by
  refine ⟨by simp, fun he => absurd he hk, ?_⟩
  rintro rfl
  exact List.mem_filter.2 ⟨(ho hmem).subset List.mem_cons_self, by simpa using hk.symm⟩

/-! ## One after the other -/

/-- A plugin on top of those that are in is told of an arrival. -/
theorem Stacked.enter (hne : m ≠ n) (ha : Above m n k ks) (s : Stacked ps (decide (m ∈ ks)) (decide (n ∈ ks))) (u : Subject) :
    Stacked (ps ++ (passage? m n u (k, .entered u)).toList) (decide (m ∈ ks ++ [k])) (decide (n ∈ ks ++ [k])) := by
  by_cases hm : k = m
  · subst hm
    have hn : n ∉ ks := ha.first rfl
    simp only [ha.new, hn, decide_false] at s
    simpa [passage?, hn, hne.symm] using s.firstIn
  · by_cases hn : k = n
    · subst hn
      have hm' : m ∈ ks := ha.second rfl
      simp only [ha.new, hm', decide_true, decide_false] at s
      simpa [passage?, hm, hm'] using s.secondIn
    · simpa [passage?_other hm hn, Ne.symm hm, Ne.symm hn] using s

/-- A plugin on top of the others that are in is told of a departure. -/
theorem Stacked.leave (hne : m ≠ n) (ha : Above m n k ks) (s : Stacked ps (decide (m = k ∨ m ∈ ks)) (decide (n = k ∨ n ∈ ks)))
    (u : Subject) : Stacked (ps ++ (passage? m n u (k, .departed u)).toList) (decide (m ∈ ks)) (decide (n ∈ ks)) := by
  by_cases hm : k = m
  · subst hm
    have hn : n ∉ ks := ha.first rfl
    simp only [hn, hne.symm, true_or, or_self, decide_true, decide_false] at s
    simpa [passage?, ha.new, hn] using s.firstOut
  · by_cases hn : k = n
    · subst hn
      have hm' : m ∈ ks := ha.second rfl
      simp only [hm', true_or, or_true, decide_true] at s
      simpa [passage?, hm, hm', ha.new] using s.secondOut
    · simpa [passage?_other hm hn, Ne.symm hm, Ne.symm hn] using s

/-- All plugins of a list are told of an arrival, the first one first. -/
theorem Stacked.enterAll (hne : m ≠ n) (hd : ks.Nodup) (ho : Precedes m n ks) (s : Stacked ps false false) (u : Subject) :
    Stacked (ps ++ (ks.map fun k => (k, Cue.entered u)).filterMap (passage? m n u)) (decide (m ∈ ks)) (decide (n ∈ ks)) := by
  induction ks using List.reverseRecOn with
  | nil => simpa using s
  | append_singleton ks k ih =>
    have hks := ih (List.nodup_append.1 hd).1 (ho.of_append hd)
    have hk := hks.enter hne (ho.above hne hd) u
    rw [List.map_append, List.filterMap_append, ← List.append_assoc]
    cases hp : passage? m n u (k, .entered u) <;> simpa [hp] using hk

/-- All plugins of a list are told of a departure, the last one first. -/
theorem Stacked.leaveAll (hne : m ≠ n) (hd : ks.Nodup) (ho : Precedes m n ks)
    (s : Stacked ps (decide (m ∈ ks)) (decide (n ∈ ks))) (u : Subject) :
    Stacked (ps ++ (ks.reverse.map fun k => (k, Cue.departed u)).filterMap (passage? m n u)) false false := by
  induction ks using List.reverseRecOn generalizing ps with
  | nil => simpa using s
  | append_singleton ks k ih =>
    have hk : Stacked ps (decide (m = k ∨ m ∈ ks)) (decide (n = k ∨ n ∈ ks)) := by simpa [or_comm] using s
    have hks := ih (List.nodup_append.1 hd).1 (ho.of_append hd) (hk.leave hne (ho.above hne hd) u)
    rw [List.reverse_append, List.reverse_singleton, List.singleton_append, List.map_cons, List.filterMap_cons]
    rw [List.append_assoc] at hks
    cases hp : passage? m n u (k, .departed u) <;> simpa [hp] using hks

end CoEdit
