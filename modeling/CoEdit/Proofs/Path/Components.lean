import CoEdit.Path

/-!
# The components of a text

The pieces of two texts with a slash between them are those of the one and those of the other, and so it is with components
(`Path.componentsOf_append`). A path that is joined to a directory adds its own components (`Path.components_join`). What comes after the
last slash is one component or none (`Path.componentsOf_end`).
-/

namespace CoEdit
namespace Path

variable {a b cs x : List Char}

/-! ## Pieces -/

theorem piecesFrom_of_not_mem (hcs : '/' ∉ cs) (piece : List Char) : piecesFrom piece cs = [piece.reverse ++ cs] := by
  induction cs generalizing piece with
  | nil => simp [piecesFrom]
  | cons c cs ih =>
    rw [List.mem_cons, not_or] at hcs
    rw [piecesFrom, if_neg (Ne.symm hcs.1), ih hcs.2]
    simp

theorem piecesFrom_append (piece a b : List Char) : piecesFrom piece (a ++ '/' :: b) = piecesFrom piece a ++ pieces b := by
  induction a generalizing piece with
  | nil => simp [piecesFrom, pieces]
  | cons c a ih =>
    rw [List.cons_append, piecesFrom, piecesFrom]
    split
    · rw [ih, List.cons_append]
    · exact ih _

/-- A slash is where pieces part. -/
theorem pieces_append (a b : List Char) : pieces (a ++ '/' :: b) = pieces a ++ pieces b := piecesFrom_append [] a b

/-- A text without slashes is one piece. -/
theorem pieces_of_not_mem (hcs : '/' ∉ cs) : pieces cs = [cs] := piecesFrom_of_not_mem hcs []

theorem piecesFrom_ne_nil (piece cs : List Char) : piecesFrom piece cs ≠ [] := by
  induction cs generalizing piece with
  | nil => simp [piecesFrom]
  | cons c cs ih =>
    rw [piecesFrom]
    split
    · exact List.cons_ne_nil _ _
    · exact ih _

theorem exists_pieces_eq (cs : List Char) : ∃ first rest, pieces cs = first :: rest :=
  List.exists_cons_of_ne_nil (piecesFrom_ne_nil [] cs)

theorem piecesFrom_nonempty_iff (piece cs : List Char) :
    (∃ x ∈ piecesFrom piece cs, x ≠ []) ↔ piece ≠ [] ∨ ∃ c ∈ cs, c ≠ '/' := by
  induction cs generalizing piece with
  | nil => simp [piecesFrom]
  | cons c cs ih =>
    rw [piecesFrom]
    split
    · rename_i hc
      simp [ih, hc]
    · rename_i hc
      simp [ih, hc]

/-- A text has a piece that is not empty if it is not all slashes. -/
theorem pieces_nonempty_iff (cs : List Char) : (∃ x ∈ pieces cs, x ≠ []) ↔ ∃ c ∈ cs, c ≠ '/' := by
  rw [pieces, piecesFrom_nonempty_iff]
  simp

/-! ## Components -/

/-- The components of what stands behind a slash. -/
def inner (cs : List Char) : List PathComponent := (pieces cs).filterMap (componentOf false)

@[simp] theorem inner_nil : inner [] = [] := rfl

theorem inner_append (a b : List Char) : inner (a ++ '/' :: b) = inner a ++ inner b := by
  rw [inner, pieces_append, List.filterMap_append]
  rfl

theorem inner_of_not_mem (hcs : '/' ∉ cs) : inner cs = (componentOf false cs).toList := by
  rw [inner, pieces_of_not_mem hcs]
  cases hc : componentOf false cs <;> simp [hc]

/-- The components of a text. -/
def componentsOf (cs : List Char) : List PathComponent := (⟨String.ofList cs⟩ : Path).components

theorem components_eq (p : Path) : p.components = componentsOf p.text.toList := by
  rw [componentsOf, String.ofList_toList]

@[simp] theorem componentsOf_nil : componentsOf [] = [] := rfl

@[simp] theorem componentsOf_slash (cs : List Char) : componentsOf ('/' :: cs) = .root :: inner cs := by
  simp [componentsOf, components, inner]

/-- The first piece of a relative path may be a single dot. -/
theorem componentsOf_relative (hcs : cs.head? ≠ some '/') {first : List Char} {rest : List (List Char)}
    (hp : pieces cs = first :: rest) : componentsOf cs = (componentOf true first).toList ++ rest.filterMap (componentOf false) := by
  unfold componentsOf components
  dsimp only
  rw [String.toList_ofList]
  split
  · exact absurd rfl hcs
  · rw [hp]

/-- The components of a text with a slash are those before the slash and those behind it. -/
theorem componentsOf_append (ha : a ≠ []) (b : List Char) : componentsOf (a ++ '/' :: b) = componentsOf a ++ inner b := by
  cases a with
  | nil => exact absurd rfl ha
  | cons c a =>
    by_cases hc : c = '/'
    · subst hc
      rw [List.cons_append, componentsOf_slash, componentsOf_slash, inner_append, List.cons_append]
    · have hhead : (c :: a).head? ≠ some '/' := by simpa using hc
      have hhead' : (c :: a ++ '/' :: b).head? ≠ some '/' := by simpa using hc
      obtain ⟨first, rest, hp⟩ := exists_pieces_eq (c :: a)
      have hp' : pieces (c :: a ++ '/' :: b) = first :: (rest ++ pieces b) := by
        rw [pieces_append, hp, List.cons_append]
      rw [componentsOf_relative hhead hp, componentsOf_relative hhead' hp', List.filterMap_append, List.append_assoc]
      rfl

/-- Slashes at the end do not matter after anything else. -/
theorem componentsOf_append_slash (ha : a ≠ []) : componentsOf (a ++ ['/']) = componentsOf a := by
  rw [componentsOf_append ha, inner_nil, List.append_nil]

theorem componentsOf_append_slashes {slashes : List Char} (hcs : cs ≠ []) (h : ∀ c ∈ slashes, c = '/') :
    componentsOf (cs ++ slashes) = componentsOf cs := by
  induction slashes generalizing cs with
  | nil => rw [List.append_nil]
  | cons c slashes ih =>
    rw [h c List.mem_cons_self, List.append_cons, ih (by simp) fun c hc => h c (List.mem_cons_of_mem _ hc), componentsOf_append_slash hcs]

/-! ## Absolute and relative paths -/

variable {p : Path}

theorem components_of_absolute (h : p.isAbsolute = true) : p.components = .root :: inner p.text.toList := by
  obtain ⟨rest, hrest⟩ := List.head?_eq_some_iff.1 (of_decide_eq_true h)
  have hinner : inner p.text.toList = inner rest := by
    rw [hrest]
    exact inner_append [] rest
  rw [hinner, components_eq, hrest, componentsOf_slash]

/-- A relative path has the components between its slashes, and may begin with a dot. -/
theorem components_of_relative (h : p.isAbsolute = false) :
    p.components = inner p.text.toList ∨ p.components = .current :: inner p.text.toList := by
  obtain ⟨first, rest, hp⟩ := exists_pieces_eq p.text.toList
  rw [components_eq, componentsOf_relative (of_decide_eq_false h) hp, inner, hp, List.filterMap_cons]
  by_cases hdot : first = ['.']
  · subst hdot
    exact Or.inr rfl
  · left
    have hfirst : componentOf true first = componentOf false first := by simp [componentOf, hdot]
    rw [hfirst]
    cases componentOf false first <;> rfl

theorem root_not_mem_inner (cs : List Char) : .root ∉ inner cs := by
  intro h
  obtain ⟨piece, -, hpiece⟩ := List.mem_filterMap.1 h
  unfold componentOf at hpiece
  split at hpiece
  · cases hpiece
  · split at hpiece
    · cases hpiece
    · split at hpiece <;> cases hpiece

/-- The root is a component of absolute paths, and of these only. -/
theorem isAbsolute_iff (p : Path) : p.isAbsolute = true ↔ .root ∈ p.components := by
  cases h : p.isAbsolute with
  | true => simp [components_of_absolute h]
  | false => rcases components_of_relative h with hp | hp <;> simp [hp, root_not_mem_inner]

/-- The names among the components are those between the slashes. -/
theorem normal_mem_inner_iff {p : Path} {name : String} : .normal name ∈ inner p.text.toList ↔ .normal name ∈ p.components := by
  cases habs : p.isAbsolute with
  | true => simp [components_of_absolute habs]
  | false => rcases components_of_relative habs with hp | hp <;> simp [hp]

/-! ## Last pieces -/

/-- A piece may begin after the text: the text is empty, or ends with a slash. -/
def AtBoundary (a : List Char) : Prop := a = [] ∨ ∃ b, a = b ++ ['/']

theorem AtBoundary.append (ha : AtBoundary a) (hb : AtBoundary b) : AtBoundary (a ++ b) := by
  rcases hb with rfl | ⟨c, rfl⟩
  · rw [List.append_nil]
    exact ha
  · exact Or.inr ⟨a ++ c, (List.append_assoc _ _ _).symm⟩

/-- What comes after the last slash is a component of its own, or none. -/
theorem componentsOf_end (ha : AtBoundary a) (hx : '/' ∉ x) :
    componentsOf (a ++ x) = componentsOf a ++ (componentOf (decide (a = [])) x).toList := by
  rcases ha with rfl | ⟨b, rfl⟩
  · cases x with
    | nil => rfl
    | cons c x =>
      have hhead : (c :: x).head? ≠ some '/' := by
        rw [List.mem_cons, not_or] at hx
        simpa using Ne.symm hx.1
      rw [List.nil_append, componentsOf_relative hhead (pieces_of_not_mem hx)]
      simp
  · rw [List.append_assoc, List.singleton_append]
    cases b with
    | nil =>
      rw [List.nil_append, List.nil_append, componentsOf_slash, componentsOf_slash, inner_of_not_mem hx]
      rfl
    | cons c b =>
      rw [componentsOf_append (List.cons_ne_nil c b), componentsOf_append_slash (List.cons_ne_nil c b), inner_of_not_mem hx]
      simp

/-- A piece that names something: it is neither empty nor dots. -/
structure IsName (x : List Char) : Prop where
  slashless : '/' ∉ x
  ne_nil : x ≠ []
  ne_dot : x ≠ ['.']
  ne_dots : x ≠ ['.', '.']

theorem IsName.componentOf (hx : IsName x) (first : Bool) : componentOf first x = some (.normal (String.ofList x)) := by
  rw [Path.componentOf, if_neg hx.ne_nil, if_neg hx.ne_dot, if_neg hx.ne_dots]

/-- A name is a path of one component. -/
theorem components_name {f : String} (hf : IsName f.toList) : (⟨f⟩ : Path).components = [.normal f] := by
  have hend := componentsOf_end (a := []) (Or.inl rfl) hf.slashless
  rw [hf.componentOf, String.ofList_toList] at hend
  exact (components_eq _).trans hend

/-- Only what names something is a name among the components. -/
theorem isName_of_componentOf {first : Bool} {name : String} (hx : '/' ∉ x) (h : componentOf first x = some (.normal name)) :
    x = name.toList ∧ IsName x := by
  unfold Path.componentOf at h
  split at h
  · cases h
  · split at h
    · split at h <;> cases h
    · split at h
      · cases h
      · cases h
        refine ⟨by simp, hx, ?_, ?_, ?_⟩ <;> assumption

/-- The characters of the pieces are those of the text but for the slashes. -/
theorem mem_pieces_iff {c : Char} (cs : List Char) : (∃ x ∈ pieces cs, c ∈ x) ↔ c ∈ cs ∧ c ≠ '/' := by
  have hfrom : ∀ piece : List Char, '/' ∉ piece → ((∃ x ∈ piecesFrom piece cs, c ∈ x) ↔ (c ∈ piece ∨ c ∈ cs) ∧ c ≠ '/') := by
    induction cs with
    | nil =>
      intro piece hpiece
      have hne : c ∈ piece → c ≠ '/' := fun hc he => hpiece (he ▸ hc)
      simpa [piecesFrom] using hne
    | cons e cs ih =>
      intro piece hpiece
      rw [piecesFrom]
      split
      · rename_i he
        have hne : c ∈ piece → c ≠ '/' := fun hc he => hpiece (he ▸ hc)
        have hrest := ih [] (by simp)
        simp only [List.mem_cons, exists_eq_or_imp, List.mem_reverse, hrest, List.not_mem_nil, false_or]
        constructor
        · rintro (hc | ⟨hc, hslash⟩)
          · exact ⟨Or.inl hc, hne hc⟩
          · exact ⟨Or.inr (Or.inr hc), hslash⟩
        · rintro ⟨hc | hc | hc, hslash⟩
          · exact Or.inl hc
          · exact absurd (hc.trans he) hslash
          · exact Or.inr ⟨hc, hslash⟩
      · rename_i he
        rw [ih (e :: piece) (by simpa [hpiece] using fun h => he h.symm)]
        simp only [List.mem_cons]
        exact and_congr_left fun _ => (or_congr_left or_comm).trans or_assoc
  simpa [pieces] using hfrom [] (by simp)

/-- A name among the components is a piece of the text. -/
theorem exists_piece_of_component {p : Path} {name : String} (h : .normal name ∈ p.components) :
    ∃ x ∈ pieces p.text.toList, x = name.toList ∧ IsName x := by
  obtain ⟨x, hx, hcomponent⟩ := List.mem_filterMap.1 (normal_mem_inner_iff.2 h)
  have hslash : '/' ∉ x := fun hc => ((mem_pieces_iff p.text.toList).1 ⟨x, hx, hc⟩).2 rfl
  exact ⟨x, hx, isName_of_componentOf hslash hcomponent⟩

/-- What stands among the components is a name. -/
theorem isName_of_component {p : Path} {name : String} (h : .normal name ∈ p.components) : IsName name.toList := by
  obtain ⟨_, _, rfl, hname⟩ := exists_piece_of_component h
  exact hname

/-- A character that is neither a slash nor a dot stands in a name among the components. -/
theorem mem_text_iff {c : Char} (hslash : c ≠ '/') (hdot : c ≠ '.') (p : Path) :
    c ∈ p.text.toList ↔ ∃ name, .normal name ∈ p.components ∧ c ∈ name.toList := by
  constructor
  · intro hc
    obtain ⟨x, hx, hcx⟩ := (mem_pieces_iff p.text.toList).2 ⟨hc, hslash⟩
    have hcomponent : componentOf false x = some (.normal (String.ofList x)) := by
      rw [componentOf, if_neg, if_neg, if_neg]
      all_goals
        rintro rfl
        simp [hdot] at hcx
    exact ⟨String.ofList x, normal_mem_inner_iff.1 (List.mem_filterMap.2 ⟨x, hx, hcomponent⟩), by simpa using hcx⟩
  · rintro ⟨name, hname, hc⟩
    obtain ⟨x, hx, rfl, -⟩ := exists_piece_of_component hname
    exact ((mem_pieces_iff p.text.toList).1 ⟨_, hx, hc⟩).1

/-- Only the empty text has no components. -/
theorem componentsOf_ne_nil (hcs : cs ≠ []) : componentsOf cs ≠ [] := by
  have hsingle : ∀ {x : List Char}, x ≠ [] → '/' ∉ x → componentsOf x ≠ [] := by
    intro x hne hx
    have hcomponent : componentOf true x ≠ none := by
      unfold componentOf
      rw [if_neg hne]
      split
      · simp
      · split <;> simp
    obtain ⟨c, hc⟩ := Option.ne_none_iff_exists'.1 hcomponent
    have hend := componentsOf_end (a := []) (Or.inl rfl) hx
    simp [hc] at hend
    simp [hend]
  by_cases hslash : '/' ∈ cs
  · obtain ⟨x, rest, rfl, hx⟩ := List.eq_append_cons_of_mem hslash
    cases x with
    | nil => simp
    | cons c x =>
      rw [componentsOf_append (List.cons_ne_nil c x)]
      exact fun h => hsingle (List.cons_ne_nil c x) hx (List.append_eq_nil_iff.1 h).1
  · exact hsingle hcs hslash

/-! ## Joins -/

/-- The components of a path that leads only to names are what it adds to a directory. -/
theorem components_of_names {q : Path} (hq : q.isAbsolute = false) (hnames : ∀ c ∈ q.components, ∃ name, c = .normal name) :
    q.components = inner q.text.toList := by
  rcases components_of_relative hq with hinner | hdot
  · exact hinner
  · obtain ⟨name, hname⟩ := hnames .current (by simp [hdot])
    cases hname

/-- The text of a directory, as it stands before what is joined to it. -/
theorem text_join {p q : Path} (hq : q.isAbsolute = false) :
    ∃ dir, (p.join q).text.toList = dir ++ q.text.toList ∧ AtBoundary dir ∧
      (dir = p.text.toList ∨ p.text.toList ≠ [] ∧ dir = p.text.toList ++ ['/']) := by
  unfold join
  rw [if_neg (by simp [hq])]
  split
  · rename_i hp
    refine ⟨p.text.toList, String.toList_append, ?_, Or.inl rfl⟩
    rcases hp with hp | hp
    · exact Or.inl (by simp [hp])
    · exact Or.inr (List.getLast?_eq_some_iff.1 hp)
  · rename_i hp
    rw [not_or] at hp
    refine ⟨p.text.toList ++ ['/'], by simp, Or.inr ⟨_, rfl⟩, Or.inr ⟨?_, rfl⟩⟩
    intro hnil
    exact hp.1 (String.toList_eq_nil_iff.1 hnil)

/-- A directory and what is joined to it: the components of the one and those of the other. -/
theorem components_join {p q : Path} (hq : q.isAbsolute = false) (hnames : ∀ c ∈ q.components, ∃ name, c = .normal name) :
    (p.join q).components = p.components ++ q.components := by
  obtain ⟨dir, htext, hboundary, hdir⟩ := text_join (p := p) hq
  have hp : componentsOf dir = p.components := by
    rw [components_eq]
    rcases hdir with rfl | ⟨hne, rfl⟩
    · rfl
    · exact componentsOf_append_slash hne
  rw [components_eq (p.join q), htext]
  rcases hboundary with rfl | ⟨b, rfl⟩
  · rw [← hp, componentsOf_nil, List.nil_append, List.nil_append, components_eq q]
  · rw [← hp, components_of_names hq hnames, List.append_assoc, List.singleton_append]
    cases b with
    | nil => simp
    | cons c b => rw [componentsOf_append (List.cons_ne_nil c b), componentsOf_append_slash (List.cons_ne_nil c b)]

end Path
end CoEdit
