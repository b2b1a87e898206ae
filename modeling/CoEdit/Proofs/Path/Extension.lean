import CoEdit.Proofs.Path.Components

/-!
# File names and extensions

The last component of a path, if it is a name, stands in its text behind a boundary and in front of nothing but slashes and single dots
(`Path.exists_lastName`). To give a path another extension is to put the stem of that name and the extension in its place, except for a name
of two dots and an extension at the very end, which becomes two dots (`Path.withExtension_cases`).
-/

namespace CoEdit
namespace Path

variable {a b cs x : List Char}

/-! ## Dividing names -/

/-- A name divides at its last dot: there is none in what follows. -/
theorem dividedAtLastDot_append (stem : List Char) {after : List Char} (ha : '.' ∉ after) :
    dividedAtLastDot (stem ++ '.' :: after) = some (stem, after) := by
  have hafter : (((stem ++ '.' :: after).reverse.takeWhile (· ≠ '.')).reverse) = after := by
    rw [List.reverse_append, List.reverse_cons, List.append_assoc, List.takeWhile_append_of_pos]
    · simp
    · intro c hc
      simpa using fun he : c = '.' => ha (he ▸ List.mem_reverse.1 hc)
  have hlength : (stem ++ '.' :: after).length - after.length - 1 = stem.length := by
    simp only [List.length_append, List.length_cons]
    omega
  rw [dividedAtLastDot, if_pos (by simp)]
  simp only [hafter, hlength, List.take_left]

theorem dividedAtLastDot_eq_none (hx : '.' ∉ x) : dividedAtLastDot x = none := by
  rw [dividedAtLastDot, if_neg hx]

theorem exists_last_dot (hx : '.' ∈ x) : ∃ stem after, x = stem ++ '.' :: after ∧ '.' ∉ after := by
  obtain ⟨after, stem, hsplit, hno⟩ := List.eq_append_cons_of_mem (List.mem_reverse.2 hx)
  refine ⟨stem.reverse, after.reverse, ?_, by simpa using hno⟩
  rw [← List.reverse_reverse x, hsplit]
  simp

/-- The stem of a name. -/
def stemOf (name : String) : String := String.ofList (stemAndExtension name.toList).1

/-- A name is all stem, or divides into a stem and an extension without a dot. -/
theorem stemAndExtension_cases (x : List Char) :
    (stemAndExtension x = (x, none)) ∨
      ∃ stem old, stem ≠ [] ∧ '.' ∉ old ∧ x = stem ++ '.' :: old ∧ stemAndExtension x = (stem, some old) := by
  by_cases hx : '.' ∈ x
  · obtain ⟨stem, old, rfl, hold⟩ := exists_last_dot hx
    unfold stemAndExtension
    rw [dividedAtLastDot_append stem hold]
    cases stem with
    | nil => exact Or.inl rfl
    | cons c stem => exact Or.inr ⟨_, _, List.cons_ne_nil c stem, hold, rfl, rfl⟩
  · left
    rw [stemAndExtension, dividedAtLastDot_eq_none hx]

theorem stem_ne_nil (hx : x ≠ []) : (stemAndExtension x).1 ≠ [] := by
  rcases stemAndExtension_cases x with h | ⟨stem, old, hs, -, -, h⟩
  · rw [h]
    exact hx
  · rw [h]
    exact hs

/-- A name that is made of a stem and an extension has these. -/
theorem stemAndExtension_append (hs : x ≠ []) {old : List Char} (ho : '.' ∉ old) :
    stemAndExtension (x ++ '.' :: old) = (x, some old) := by
  unfold stemAndExtension
  rw [dividedAtLastDot_append x ho]
  cases x with
  | nil => exact absurd rfl hs
  | cons c x => rfl

/-! ## The last component -/

/-- Nothing is trimmed from a text that ends with a piece that is kept. -/
theorem trimmedBackwards_eq_self (a : List Char) (hx : '/' ∉ x) (hne : x ≠ []) (hdot : x ≠ ['.']) :
    trimmedBackwards (a ++ x).reverse = (a ++ x).reverse := by
  rcases List.eq_nil_or_concat x with rfl | ⟨y, c, rfl⟩
  · exact absurd rfl hne
  · rw [List.concat_eq_append] at hx hdot ⊢
    have hc : c ≠ '/' := fun he => hx (by simp [he])
    rw [← List.append_assoc, List.reverse_append, List.reverse_singleton, List.singleton_append]
    by_cases hcd : c = '.'
    · subst hcd
      -- what stands before the dot is no slash, for the piece is not a single dot
      rcases List.eq_nil_or_concat y with rfl | ⟨z, e, rfl⟩
      · exact absurd rfl hdot
      · have he : e ≠ '/' := fun he => hx (by simp [he])
        rw [List.concat_eq_append, ← List.append_assoc, List.reverse_append, List.reverse_singleton, List.singleton_append,
          trimmedBackwards]
        intro rest hrest
        exact he (List.cons.inj hrest).1
    · rw [trimmedBackwards.eq_def]
      split <;> simp_all

/-- Every text ends with a piece. -/
theorem exists_boundary (cs : List Char) : ∃ pre x, cs = pre ++ x ∧ AtBoundary pre ∧ '/' ∉ x := by
  by_cases hcs : '/' ∈ cs
  · obtain ⟨x, pre, hsplit, hno⟩ := List.eq_append_cons_of_mem (List.mem_reverse.2 hcs)
    refine ⟨pre.reverse ++ ['/'], x.reverse, ?_, Or.inr ⟨_, rfl⟩, by simpa using hno⟩
    rw [← List.reverse_reverse cs, hsplit]
    simp
  · exact ⟨[], cs, rfl, Or.inl rfl, hcs⟩

/-- A piece at the end that is not skipped is the last component. -/
theorem eq_last_of_end {pre : List Char} (hb : AtBoundary pre) (hx : '/' ∉ x) (hne : x ≠ []) (hdot : pre = [] ∨ x ≠ ['.']) {name : String}
    (h : (componentsOf (pre ++ x)).getLast? = some (.normal name)) :
    x = name.toList ∧ IsName x ∧ componentsOf (pre ++ x) = componentsOf pre ++ [.normal name] := by
  rw [componentsOf_end hb hx] at h ⊢
  cases hc : componentOf (decide (pre = [])) x with
  | none =>
    unfold componentOf at hc
    rw [if_neg hne] at hc
    rcases hdot with rfl | hdot
    · split at hc
      · cases hc
      · split at hc <;> cases hc
    · rw [if_neg hdot] at hc
      split at hc <;> cases hc
  | some c =>
    rw [hc, Option.toList_some, List.getLast?_concat] at h
    cases h
    obtain ⟨hname, hpiece⟩ := isName_of_componentOf hx hc
    exact ⟨hname, hpiece, rfl⟩

/-- A text that does not end with a slash ends with a piece. -/
theorem exists_piece {c : Char} (hc : c ≠ '/') (cs : List Char) :
    ∃ pre x, cs ++ [c] = pre ++ x ∧ AtBoundary pre ∧ '/' ∉ x ∧ x ≠ [] := by
  obtain ⟨pre, x, hsplit, hb, hx⟩ := exists_boundary (cs ++ [c])
  refine ⟨pre, x, hsplit, hb, hx, ?_⟩
  rintro rfl
  rw [List.append_nil] at hsplit
  rcases hb with rfl | ⟨b, rfl⟩
  · simp at hsplit
  · have hlast := (List.append_inj' hsplit rfl).2
    exact hc (List.singleton_inj.1 hlast)

/-- The last component of a text is a name, which stands behind a boundary and before nothing but what is skipped; `kept` is the text
without that, backwards. -/
structure LastName (cs kept : List Char) (name : String) (before skipped : List Char) : Prop where
  split : cs = before ++ name.toList ++ skipped
  kept : kept = (before ++ name.toList).reverse
  boundary : AtBoundary before
  isName : IsName name.toList
  components : componentsOf cs = componentsOf before ++ [.normal name]

/-- What is skipped is skipped. -/
theorem LastName.skip {kept before skipped : List Char} {name : String} (h : LastName cs kept name before skipped) {c : Char}
    (hc : componentsOf (cs ++ [c]) = componentsOf cs) : LastName (cs ++ [c]) kept name before (skipped ++ [c]) := by
  refine ⟨?_, h.kept, h.boundary, h.isName, hc.trans h.components⟩
  rw [h.split, List.append_assoc]

/-- A text that ends with something that is not skipped ends with its last piece. -/
theorem exists_lastName_of_kept {c : Char} (hc : c ≠ '/') (hcs : c ≠ '.' ∨ cs.getLast? ≠ some '/') {name : String}
    (h : (componentsOf (cs ++ [c])).getLast? = some (.normal name)) :
    ∃ before skipped, LastName (cs ++ [c]) (cs ++ [c]).reverse name before skipped := by
  obtain ⟨before, x, hsplit, hb, hx, hne⟩ := exists_piece hc cs
  have hdot : before = [] ∨ x ≠ ['.'] := by
    rcases hb with rfl | ⟨b, rfl⟩
    · exact Or.inl rfl
    · right
      rintro rfl
      obtain ⟨hcs', hdot⟩ := List.append_inj' hsplit rfl
      rcases hcs with hcs | hcs
      · exact hcs (List.singleton_inj.1 hdot)
      · exact hcs (by simp [hcs'])
  rw [hsplit] at h ⊢
  obtain ⟨rfl, hname, hcomponents⟩ := eq_last_of_end hb hx hne hdot h
  exact ⟨before, [], by rw [List.append_nil], rfl, hb, hname, hcomponents⟩

/-- A text whose last component is a name has a last name, which nothing is trimmed from. The text is given backwards, as it is trimmed. -/
theorem exists_lastName_of_reverse (r : List Char) {name : String} (h : (componentsOf r.reverse).getLast? = some (.normal name)) :
    ∃ before skipped, LastName r.reverse (trimmedBackwards r) name before skipped := by
  fun_induction trimmedBackwards r with
  | case1 => simp at h
  | case2 => simp at h
  | case3 rest hne ih =>
    have hrest : rest.reverse ≠ [] := by simpa using hne
    rw [List.reverse_cons, componentsOf_append_slash hrest] at h
    obtain ⟨before, skipped, hlast⟩ := ih h
    rw [List.reverse_cons]
    exact ⟨before, skipped ++ ['/'], hlast.skip (componentsOf_append_slash hrest)⟩
  | case4 rest ih =>
    have hskip : componentsOf (('/' :: rest).reverse ++ ['.']) = componentsOf ('/' :: rest).reverse := by
      have hb : AtBoundary ('/' :: rest).reverse := Or.inr ⟨rest.reverse, List.reverse_cons⟩
      rw [componentsOf_end hb (by simp)]
      simp [componentOf]
    rw [List.reverse_cons, hskip] at h
    obtain ⟨before, skipped, hlast⟩ := ih h
    rw [List.reverse_cons]
    exact ⟨before, skipped ++ ['.'], hlast.skip hskip⟩
  | case5 rest hne =>
    rw [List.reverse_cons] at h
    have hlast : rest.reverse.getLast? ≠ some '/' := by
      rw [List.getLast?_reverse]
      cases rest with
      | nil => simp
      | cons c rest =>
        intro hc
        exact hne rest (by rw [Option.some.inj hc])
    have hend := exists_lastName_of_kept (by decide) (Or.inr hlast) h
    simpa using hend
  | case6 c rest _ hslash hdot =>
    rw [List.reverse_cons] at h
    have hend := exists_lastName_of_kept hslash (Or.inl hdot) h
    simpa using hend

/-- The file name of a path in its text. -/
theorem exists_lastName {p : Path} {name : String} (h : p.fileName? = some name) :
    ∃ before skipped, LastName p.text.toList (trimmedBackwards p.text.toList.reverse) name before skipped := by
  have hlast : (componentsOf p.text.toList.reverse.reverse).getLast? = some (.normal name) := by
    rw [List.reverse_reverse, ← components_eq]
    unfold fileName? at h
    split at h
    · rename_i hl
      cases h
      exact hl
    · cases h
  have hex := exists_lastName_of_reverse _ hlast
  rw [List.reverse_reverse] at hex
  exact hex

theorem fileName?_of_components {p : Path} {cs : List PathComponent} {name : String} (h : p.components = cs ++ [.normal name]) :
    p.fileName? = some name := by
  rw [fileName?, h, List.getLast?_concat]

/-! ## Another extension -/

/-- The text ends with two dots and an extension. -/
def EndsInParent (cs : List Char) : Prop := ∃ before ext, cs = before ++ '.' :: '.' :: ext ∧ AtBoundary before ∧ ext ≠ [] ∧
  '.' ∉ ext ∧ '/' ∉ ext

/-- The last piece of a text is determined. -/
theorem boundary_inj {pre pre' y : List Char} (h : pre ++ x = pre' ++ y) (hb : AtBoundary pre) (hb' : AtBoundary pre') (hx : '/' ∉ x)
    (hy : '/' ∉ y) : pre = pre' ∧ x = y := by
  -- whatever one text has more than the other would end with a slash
  have hshort : ∀ {a c z w : List Char}, AtBoundary (a ++ c) → z = c ++ w → '/' ∉ z → c = [] := by
    intro a c z w hb hz hno
    rcases List.eq_nil_or_concat c with rfl | ⟨c, e, rfl⟩
    · rfl
    · rcases hb with hnil | ⟨b, hb⟩
      · simp at hnil
      · rw [List.concat_eq_append, ← List.append_assoc] at hb
        have he : e = '/' := List.singleton_inj.1 (List.append_inj' hb rfl).2
        exact absurd (by simp [hz, he]) hno
  rcases List.append_eq_append_iff.1 h with ⟨c, hc, hxy⟩ | ⟨c, hc, hxy⟩
  · have hnil : c = [] := hshort (hc ▸ hb') hxy hx
    subst hnil
    simp_all
  · have hnil : c = [] := hshort (hc ▸ hb) hxy hy
    subst hnil
    simp_all

/-- What stands before a boundary is not part of the last piece. -/
theorem endsInParent_append (ha : AtBoundary a) (cs : List Char) : EndsInParent (a ++ cs) ↔ EndsInParent cs := by
  constructor
  · rintro ⟨before, ext, hcs, hbefore, hne, hdot, hslash⟩
    obtain ⟨pre, y, rfl, hpre, hy⟩ := exists_boundary cs
    have hpiece : '/' ∉ '.' :: '.' :: ext := by simpa using hslash
    rw [← List.append_assoc] at hcs
    obtain ⟨-, rfl⟩ := boundary_inj hcs (ha.append hpre) hbefore hy hpiece
    exact ⟨pre, ext, rfl, hpre, hne, hdot, hslash⟩
  · rintro ⟨before, ext, rfl, hbefore, hne, hdot, hslash⟩
    exact ⟨a ++ before, ext, (List.append_assoc _ _ _).symm, ha.append hbefore, hne, hdot, hslash⟩

/-- A text ends with two dots and an extension if its last name is that and nothing was trimmed. -/
theorem LastName.endsInParent_iff {name : String} {before skipped : List Char}
    (hl : LastName cs (trimmedBackwards cs.reverse) name before skipped) :
    EndsInParent cs ↔ (∃ old, stemAndExtension name.toList = (['.'], some old)) ∧ (before ++ name.toList).reverse = cs.reverse := by
  have hx := hl.isName
  constructor
  · rintro ⟨before', ext, hcs, hbefore, hne, hdot, hslash⟩
    have hpiece : '/' ∉ '.' :: '.' :: ext := by simpa using hslash
    have hself : trimmedBackwards cs.reverse = cs.reverse := by
      rw [hcs]
      exact trimmedBackwards_eq_self before' hpiece (List.cons_ne_nil _ _) (by simp)
    have hkept : (before ++ name.toList).reverse = cs.reverse := hl.kept.symm.trans hself
    refine ⟨⟨ext, ?_⟩, hkept⟩
    have heq : before ++ name.toList = before' ++ '.' :: '.' :: ext := (List.reverse_inj.1 hkept).trans hcs
    rw [(boundary_inj heq hl.boundary hbefore hx.slashless hpiece).2]
    exact stemAndExtension_append (x := ['.']) (List.cons_ne_nil _ _) hdot
  · rintro ⟨⟨old, hold⟩, hkept⟩
    rcases stemAndExtension_cases name.toList with h | ⟨stem, old', -, hdot, hxeq, h⟩
    · simp [h] at hold
    · rw [h] at hold
      cases hold
      rw [hxeq] at hx hkept
      refine ⟨before, old, (List.reverse_inj.1 hkept).symm, hl.boundary, ?_, hdot, ?_⟩
      · rintro rfl
        exact hx.ne_dots rfl
      · simpa using hx.slashless

/-- The stem of a name with an extension is a name. -/
theorem IsName.stem (hx : IsName x) {ext : List Char} (hne : ext ≠ []) (hslash : '/' ∉ ext) :
    IsName ((stemAndExtension x).1 ++ '.' :: ext) := by
  have hstem : (stemAndExtension x).1 ≠ [] ∧ '/' ∉ (stemAndExtension x).1 := by
    rcases stemAndExtension_cases x with h | ⟨stem, old, hs, -, hsplit, h⟩
    · rw [h]
      exact ⟨hx.ne_nil, hx.slashless⟩
    · rw [h]
      refine ⟨hs, fun hm => hx.slashless ?_⟩
      rw [hsplit]
      exact List.mem_append_left _ hm
  have hlong : ∀ y : List Char, y.length ≤ 2 → (stemAndExtension x).1 ++ '.' :: ext ≠ y := by
    rintro y hy rfl
    have h₁ := List.length_pos_iff.2 hstem.1
    have h₂ := List.length_pos_iff.2 hne
    simp only [List.length_append, List.length_cons] at hy
    omega
  refine ⟨?_, hlong _ (by simp), hlong _ (by simp), hlong _ (by simp)⟩
  simpa using ⟨hstem.2, hslash⟩

/-- A path that ends with the stem of the last name and another extension. -/
theorem LastName.components_stem {kept before skipped : List Char} {name ext : String} (hl : LastName cs kept name before skipped)
    (hne : ext.toList ≠ []) (hslash : '/' ∉ ext.toList) {q : Path}
    (hq : q.text.toList = before ++ ((stemAndExtension name.toList).1 ++ '.' :: ext.toList)) :
    q.components = componentsOf before ++ [.normal (stemOf name ++ "." ++ ext)] := by
  have hnew := hl.isName.stem hne hslash
  have htext : String.ofList ((stemAndExtension name.toList).1 ++ '.' :: ext.toList) = stemOf name ++ "." ++ ext := by
    apply String.toList_injective
    simp [stemOf]
  rw [components_eq, hq, componentsOf_end hl.boundary hnew.slashless, hnew.componentOf, htext]
  rfl

/-- A path that ends with two dots in place of the last name. -/
theorem LastName.components_dots {kept before skipped : List Char} {name : String} (hl : LastName cs kept name before skipped) {q : Path}
    (hq : q.text.toList = before ++ ['.', '.']) : q.components = componentsOf before ++ [.parent] := by
  rw [components_eq, hq, componentsOf_end hl.boundary (by simp)]
  rfl

/-- The text of a path with another extension: what stands in front of the last name stays, and what is skipped behind it goes. -/
theorem withExtension_text {p : Path} {name : String} (h : p.fileName? = some name) (ext : String) : ∃ before skipped,
    LastName p.text.toList (trimmedBackwards p.text.toList.reverse) name before skipped ∧
      ((¬EndsInParent p.text.toList ∧
          (p.withExtension ext).text.toList = before ++ ((stemAndExtension name.toList).1 ++ '.' :: ext.toList)) ∨
        (EndsInParent p.text.toList ∧ (p.withExtension ext).text.toList = before ++ ['.', '.'])) := by
  obtain ⟨pre, skipped, hl⟩ := exists_lastName h
  have hiff := hl.endsInParent_iff
  have htrimmed := hl.kept
  refine ⟨pre, skipped, hl, ?_⟩
  unfold withExtension
  rw [h]
  dsimp only
  rw [htrimmed]
  rcases stemAndExtension_cases name.toList with hnone | ⟨stem, old, -, -, hsome, hse⟩
  · left
    refine ⟨fun hp => ?_, by simp [hnone]⟩
    obtain ⟨⟨old, hold⟩, -⟩ := hiff.1 hp
    simp [hnone] at hold
  · have hcut : (pre ++ name.toList).reverse.drop (old.length + 1) = (pre ++ stem).reverse := by
      rw [hsome, ← List.append_assoc, List.reverse_append, List.reverse_cons, List.append_assoc]
      rw [List.drop_append]
      simp
    rw [hse] at hiff ⊢
    dsimp only
    rw [hcut]
    split
    · rename_i hdots
      obtain ⟨rfl, hkept⟩ := hdots
      exact Or.inr ⟨hiff.2 ⟨⟨old, rfl⟩, hkept⟩, by simp⟩
    · rename_i hdots
      left
      refine ⟨fun hp => ?_, by simp⟩
      obtain ⟨⟨old', hold⟩, hkept⟩ := hiff.1 hp
      cases hold
      exact hdots ⟨rfl, hkept⟩

/-- A path with another extension: its last name is the stem of the one there was, and the extension. One whose text ends with two dots
and an extension leads to the parent instead. -/
theorem withExtension_cases {p : Path} {name : String} (h : p.fileName? = some name) {ext : String} (hne : ext.toList ≠ [])
    (hslash : '/' ∉ ext.toList) : ∃ before, p.components = before ++ [.normal name] ∧
      ((¬EndsInParent p.text.toList ∧
          (p.withExtension ext).components = before ++ [.normal (stemOf name ++ "." ++ ext)]) ∨
        (EndsInParent p.text.toList ∧ (p.withExtension ext).components = before ++ [.parent])) := by
  obtain ⟨pre, skipped, hl, htext⟩ := withExtension_text h ext
  refine ⟨componentsOf pre, (components_eq p).trans hl.components, ?_⟩
  rcases htext with ⟨hends, htext⟩ | ⟨hends, htext⟩
  · exact Or.inl ⟨hends, hl.components_stem hne hslash htext⟩
  · exact Or.inr ⟨hends, hl.components_dots htext⟩

end Path
end CoEdit
