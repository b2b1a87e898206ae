import CoEdit.Proofs.Path.Extension

/-!
# Parents of paths

The parent of a path has the components of the path but for the last (`Path.parent?_eq_some`), for what is trimmed from a text changes no
component (`Path.componentsOf_trimmed`). Only an empty path and the root have
no parent.
-/

namespace CoEdit
namespace Path

variable {a cs x : List Char} {p q : Path}

/-! ## What is trimmed -/

/-- A single dot at the end does not matter behind a slash. -/
theorem componentsOf_append_dot (b : List Char) : componentsOf (b ++ ['/'] ++ ['.']) = componentsOf (b ++ ['/']) := by
  rw [componentsOf_end (Or.inr ⟨b, rfl⟩) (by simp)]
  simp [componentOf]

/-- Trimming changes no components. The text is given backwards. -/
theorem componentsOf_trimmed (r : List Char) : componentsOf (trimmedBackwards r).reverse = componentsOf r.reverse := by
  fun_induction trimmedBackwards r with
  | case1 => rfl
  | case2 => rfl
  | case3 rest hne ih => rw [ih, List.reverse_cons, componentsOf_append_slash (by simpa using hne)]
  | case4 rest ih =>
    rw [ih, List.reverse_cons (a := '.'), List.reverse_cons]
    exact (componentsOf_append_dot rest.reverse).symm
  | case5 => rfl
  | case6 => rfl

theorem trimmedBackwards_suffix (r : List Char) : trimmedBackwards r <:+ r := by
  fun_induction trimmedBackwards r with
  | case1 => exact List.suffix_refl _
  | case2 => exact List.suffix_refl _
  | case3 rest _ ih => exact ih.trans (List.suffix_cons _ _)
  | case4 rest ih => exact ih.trans (List.suffix_cons _ _)
  | case5 => exact List.suffix_refl _
  | case6 => exact List.suffix_refl _

theorem trimmedBackwards_trimmed (r : List Char) : trimmedBackwards (trimmedBackwards r) = trimmedBackwards r := by
  fun_induction trimmedBackwards r with
  | case1 => rfl
  | case2 => rfl
  | case3 _ _ ih => exact ih
  | case4 _ ih => exact ih
  | case5 rest hne =>
    rw [trimmedBackwards]
    intro tail htail
    exact hne tail htail
  | case6 c rest hroot hslash hdot => rw [trimmedBackwards] <;> assumption

/-- What is left after trimming is nothing, the root, or ends with something that is not skipped. -/
theorem trimmedBackwards_cases (r : List Char) : trimmedBackwards r = [] ∨ trimmedBackwards r = ['/'] ∨
    ∃ c rest, trimmedBackwards r = c :: rest ∧ c ≠ '/' ∧ (c = '.' → rest.head? ≠ some '/') := by
  fun_induction trimmedBackwards r with
  | case1 => exact Or.inl rfl
  | case2 => exact Or.inr (Or.inl rfl)
  | case3 rest _ ih => exact ih
  | case4 rest ih => exact ih
  | case5 rest hne =>
    refine Or.inr (Or.inr ⟨'.', rest, rfl, by decide, fun _ hhead => ?_⟩)
    obtain ⟨tail, htail⟩ := List.head?_eq_some_iff.1 hhead
    exact hne tail htail
  | case6 c rest _ hslash hdot => exact Or.inr (Or.inr ⟨c, rest, rfl, hslash, fun h => absurd h hdot⟩)

/-- A trimmed text with a component besides the root ends with a piece that is one. -/
theorem exists_last_of_trimmed {r : List Char} {c : PathComponent} (hr : trimmedBackwards r = r)
    (hlast : (componentsOf r.reverse).getLast? = some c) (hc : c ≠ .root) :
    ∃ pre y, r.reverse = pre ++ y ∧ AtBoundary pre ∧ '/' ∉ y ∧ y ≠ [] ∧ componentsOf r.reverse = componentsOf pre ++ [c] := by
  rcases trimmedBackwards_cases r with hnil | hroot | ⟨e, rest, hsplit, he, hdot⟩
  · rw [← hr, hnil] at hlast
    cases hlast
  · rw [← hr, hroot] at hlast
    cases hlast
    exact absurd rfl hc
  · rw [hr] at hsplit
    subst hsplit
    rw [List.reverse_cons] at hlast ⊢
    obtain ⟨pre, y, hpre, hb, hy, hne⟩ := exists_piece he rest.reverse
    refine ⟨pre, y, hpre, hb, hy, hne, ?_⟩
    rw [hpre, componentsOf_end hb hy] at hlast ⊢
    -- the piece is no dot that is skipped
    have hsome : componentOf (decide (pre = [])) y ≠ none := by
      intro hnone
      unfold componentOf at hnone
      rw [if_neg hne] at hnone
      split at hnone
      · rename_i hydot
        split at hnone
        · cases hnone
        · rename_i hfirst
          obtain ⟨b, rfl⟩ := hb.resolve_left (by simpa using hfirst)
          subst hydot
          obtain ⟨hrest, hedot⟩ := List.append_inj' hpre rfl
          refine hdot (List.singleton_inj.1 hedot) ?_
          rw [← List.getLast?_reverse, hrest, List.getLast?_concat]
      · split at hnone <;> cases hnone
    obtain ⟨c', hc'⟩ := Option.ne_none_iff_exists'.1 hsome
    rw [hc', Option.toList_some, List.getLast?_concat] at hlast
    cases hlast
    rw [hc', Option.toList_some]

/-! ## Parents -/

/-- The parent of a path has its components but for the last, which is not the root, and the beginning of its text. -/
theorem parent?_eq_some (h : p.parent? = some q) : (∃ c, c ≠ .root ∧ p.components = q.components ++ [c]) ∧
    q.text.toList <+: p.text.toList ∧ q.text.length < p.text.length := by
  unfold parent? at h
  split at h
  · cases h
  · cases h
  · rename_i c hc hlast
    have hcomponents : componentsOf (trimmedBackwards p.text.toList.reverse).reverse = p.components := by
      rw [componentsOf_trimmed, List.reverse_reverse, ← components_eq]
    have hsuffix := trimmedBackwards_suffix p.text.toList.reverse
    have htrim := trimmedBackwards_trimmed p.text.toList.reverse
    rw [← hcomponents] at hlast ⊢
    generalize trimmedBackwards p.text.toList.reverse = whole at h hlast hsuffix htrim ⊢
    obtain ⟨pre, y, hsplit, hb, hy, hne, hwhole⟩ := exists_last_of_trimmed htrim hlast hc
    have hdrop : whole.dropWhile (· ≠ '/') = pre.reverse := by
      have hwhole : whole = y.reverse ++ pre.reverse := by rw [← List.reverse_append, ← hsplit, List.reverse_reverse]
      rw [hwhole, List.dropWhile_append_of_pos]
      · rcases hb with rfl | ⟨b, rfl⟩ <;> simp
      · intro e he
        simpa using fun hslash : e = '/' => hy (hslash ▸ List.mem_reverse.1 he)
    cases h
    have hpre := trimmedBackwards_suffix pre.reverse
    have hlength := hsuffix.length_le
    have hshorter := hpre.length_le
    have hypos := List.length_pos_iff.2 hne
    have hlen := congrArg List.length hsplit
    simp only [List.length_reverse, List.length_append, String.length_toList] at hshorter hlen hlength
    refine ⟨⟨c, hc, ?_⟩, ?_, ?_⟩
    · rw [components_eq, String.toList_ofList, hdrop, componentsOf_trimmed, List.reverse_reverse, hwhole]
    · rw [String.toList_ofList, hdrop]
      have hbegins : pre <+: p.text.toList := by
        rw [← List.reverse_reverse p.text.toList]
        exact (List.prefix_append pre y).trans (hsplit ▸ List.reverse_prefix.2 hsuffix)
      exact (List.reverse_reverse pre ▸ List.reverse_prefix.2 hpre).trans hbegins
    · rw [hdrop, String.length_ofList, List.length_reverse]
      omega

/-- A path is absolute if its parent is. -/
theorem isAbsolute_of_parent? (h : p.parent? = some q) : q.isAbsolute = p.isAbsolute := by
  obtain ⟨⟨c, hc, hp⟩, -⟩ := parent?_eq_some h
  rw [Bool.eq_iff_iff, isAbsolute_iff, isAbsolute_iff, hp]
  simp [hc.symm]

end Path

end CoEdit
