import CoEdit.Config.Environment
import Mathlib.Data.List.TakeWhile

/-!
# Placeholders, one after the other

What a placeholder is, as a text: a dollar sign and, between braces, a name and possibly the sign `:-` and a text without a closing brace
(`TextPiece.text`, `TextPiece.IsPlaceholder`). `Placeholder.Scan` divides a text from the left: where a placeholder begins the division
goes on after it, and any other character stands for itself. Each text has one division (`Placeholder.scan_iff`).

Expanding a text goes through its division once: it is refused for the first placeholder with neither a variable nor a default, and
otherwise each placeholder is replaced and all else is kept. Two texts are expanded each on its own where no placeholder of the two
together begins in the first and ends in the second (`Environment.expand_law`).
-/

namespace CoEdit

namespace TextPiece

/-- A piece as it is written. -/
def text : TextPiece → List Char
  | .literal c => [c]
  | .placeholder name none => '$' :: '\x7b' :: name ++ ['\x7d']
  | .placeholder name (some fallback) => '$' :: '\x7b' :: name ++ ':' :: '-' :: fallback ++ ['\x7d']

/-- A name: a letter or an underscore, and then letters, digits and underscores. -/
def IsName (name : List Char) : Prop :=
  ∃ c rest, name = c :: rest ∧ Placeholder.isNameStart c = true ∧ ∀ d ∈ rest, Placeholder.isNameChar d = true

/-- A placeholder has a name, and its default, if it has one, is without closing braces. -/
def IsPlaceholder : TextPiece → Prop
  | .literal _ => False
  | .placeholder name fallback => IsName name ∧ ∀ text ∈ fallback, '\x7d' ∉ text

end TextPiece

namespace Placeholder

variable {cs rest name : List Char} {p : TextPiece} {ps qs : List TextPiece}

/-- The text of pieces, one after the other. -/
def written (ps : List TextPiece) : List Char := ps.flatMap TextPiece.text

theorem written_append (ps qs : List TextPiece) : written (ps ++ qs) = written ps ++ written qs := List.flatMap_append

/-- The division of a text from the left. -/
inductive Scan : List Char → List TextPiece → Prop
  | nil : Scan [] []
  /-- Where a placeholder begins the division goes on after it. -/
  | placeholder {p : TextPiece} {rest : List Char} {ps : List TextPiece} (hp : p.IsPlaceholder) (hr : Scan rest ps) :
      Scan (p.text ++ rest) (p :: ps)
  /-- A character at which no placeholder begins stands for itself. -/
  | literal {c : Char} {rest : List Char} {ps : List TextPiece}
      (hn : ∀ p : TextPiece, p.IsPlaceholder → ¬p.text <+: c :: rest) (hr : Scan rest ps) : Scan (c :: rest) (.literal c :: ps)

/-! ## Reading one placeholder -/

/-- What may follow a name is no part of it. -/
theorem isNameChar_brace : isNameChar '\x7d' = false := rfl

theorem isNameChar_colon : isNameChar ':' = false := rfl

theorem takeWhile_append_stop {α : Type} {p : α → Bool} {xs : List α} {y : α} (hx : ∀ x ∈ xs, p x = true) (hy : p y = false)
    (ys : List α) : (xs ++ y :: ys).takeWhile p = xs ∧ (xs ++ y :: ys).dropWhile p = y :: ys := by
  rw [List.takeWhile_append_of_pos hx, List.dropWhile_append_of_pos hx, List.takeWhile_cons_of_neg (by simp [hy]),
    List.dropWhile_cons_of_neg (by simp [hy]), List.append_nil]
  exact ⟨rfl, rfl⟩

/-- The end of a placeholder, with or without a default, is read as it is written. -/
theorem ending?_eq_some_iff : ending? name cs = some (p, rest) ↔
    ∃ fallback, p = .placeholder name fallback ∧ (∀ text ∈ fallback, '\x7d' ∉ text) ∧
      '$' :: '\x7b' :: name ++ cs = p.text ++ rest := by
  constructor
  · intro h
    unfold ending? at h
    split at h
    · cases h
      exact ⟨none, rfl, by simp, by simp [TextPiece.text]⟩
    · next after =>
      split at h
      · next x more hd =>
        cases h
        -- What stops the default is a closing brace, the only character that none holds.
        have hx : x = '\x7d' := by
          have hstop := List.head?_dropWhile_not isDefaultChar after
          rw [hd] at hstop
          simpa [isDefaultChar] using hstop
        refine ⟨some (after.takeWhile isDefaultChar), rfl, ?_, ?_⟩
        · rintro text ⟨⟩ hmem
          simpa [isDefaultChar] using List.mem_takeWhile_imp hmem
        · have hsplit := List.takeWhile_append_dropWhile (p := isDefaultChar) (l := after)
          rw [hd, hx] at hsplit
          simp only [TextPiece.text, List.cons_append, List.append_assoc, List.nil_append]
          rw [hsplit]
      · cases h
    · cases h
  · rintro ⟨fallback, rfl, hf, he⟩
    cases fallback with
    | none =>
      have hcs : cs = '\x7d' :: rest := by simpa [TextPiece.text] using he
      rw [hcs, ending?]
    | some fallback =>
      have hcs : cs = ':' :: '-' :: (fallback ++ '\x7d' :: rest) := by simpa [TextPiece.text] using he
      have hin : ∀ c ∈ fallback, isDefaultChar c = true := by
        intro c hc
        exact decide_eq_true fun hb => hf fallback rfl (hb ▸ hc)
      obtain ⟨htake, hdrop⟩ := takeWhile_append_stop hin (rfl : isDefaultChar '\x7d' = false) rest
      simp only [hcs, ending?, htake, hdrop]

/-- A placeholder is read exactly where one is written. -/
theorem read?_eq_some_iff : read? cs = some (p, rest) ↔ p.IsPlaceholder ∧ cs = p.text ++ rest := by
  constructor
  · intro h
    unfold read? at h
    split at h
    · next c after =>
      split at h
      · next hc =>
        obtain ⟨fallback, rfl, hf, he⟩ := ending?_eq_some_iff.1 h
        refine ⟨⟨⟨c, _, rfl, hc, fun d hd => List.mem_takeWhile_imp hd⟩, hf⟩, ?_⟩
        rw [← he]
        simp only [List.cons_append, List.takeWhile_append_dropWhile]
      · cases h
    · cases h
  · rintro ⟨hp, rfl⟩
    cases p with
    | literal c => exact hp.elim
    | placeholder name fallback =>
      obtain ⟨⟨c, more, rfl, hc, hmore⟩, hf⟩ := hp
      -- The name ends where it should, since what follows it is a brace or a colon.
      have hread : ∀ y ys, isNameChar y = false →
          ending? (c :: more) (y :: ys) = some (.placeholder (c :: more) fallback, rest) →
            read? ('$' :: '\x7b' :: (c :: more ++ y :: ys)) = some (.placeholder (c :: more) fallback, rest) := by
        intro y ys hy he
        obtain ⟨htake, hdrop⟩ := takeWhile_append_stop hmore hy ys
        simp only [List.cons_append, read?, hc, if_true, htake, hdrop, he]
      cases fallback with
      | none =>
        have h := hread '\x7d' rest isNameChar_brace (ending?_eq_some_iff.2 ⟨none, rfl, hf, by simp [TextPiece.text]⟩)
        simpa [TextPiece.text] using h
      | some fallback =>
        have h := hread ':' ('-' :: (fallback ++ '\x7d' :: rest)) isNameChar_colon
          (ending?_eq_some_iff.2 ⟨some fallback, rfl, hf, by simp [TextPiece.text]⟩)
        simpa [TextPiece.text] using h

theorem read?_eq_none_iff : read? cs = none ↔ ∀ p : TextPiece, p.IsPlaceholder → ¬p.text <+: cs := by
  rw [Option.eq_none_iff_forall_not_mem]
  constructor
  · rintro h p hp ⟨rest, rfl⟩
    exact h (p, rest) (read?_eq_some_iff.2 ⟨hp, rfl⟩)
  · rintro h ⟨p, rest⟩ hr
    obtain ⟨hp, rfl⟩ := read?_eq_some_iff.1 hr
    exact h p hp ⟨rest, rfl⟩

/-! ## The division of a text -/

theorem pieces_placeholder (hp : p.IsPlaceholder) (rest : List Char) : pieces (p.text ++ rest) = p :: pieces rest := by
  have hr : read? (p.text ++ rest) = some (p, rest) := read?_eq_some_iff.2 ⟨hp, rfl⟩
  have hne : ∃ c more, p.text ++ rest = c :: more := by
    cases p with
    | literal c => exact ⟨c, rest, rfl⟩
    | placeholder name fallback => cases fallback <;> exact ⟨'$', _, rfl⟩
  obtain ⟨c, more, he⟩ := hne
  rw [he] at hr ⊢
  rw [pieces]
  split
  · next q after hq =>
    rw [hr] at hq
    cases hq
    rfl
  · next hq =>
    rw [hr] at hq
    cases hq

theorem pieces_literal {c : Char} (hn : ∀ p : TextPiece, p.IsPlaceholder → ¬p.text <+: c :: rest) :
    pieces (c :: rest) = .literal c :: pieces rest := by
  have hr := read?_eq_none_iff.2 hn
  rw [pieces]
  split
  · next q after hq =>
    rw [hr] at hq
    cases hq
  · rfl

/-- The pieces of a text are its division from the left. -/
theorem scan_pieces (cs : List Char) : Scan cs (pieces cs) := by
  induction cs using pieces.induct with
  | case1 =>
    rw [pieces]
    exact .nil
  | case2 c rest p after hr ih =>
    obtain ⟨hp, he⟩ := read?_eq_some_iff.1 hr
    rw [he, pieces_placeholder hp]
    exact .placeholder hp ih
  | case3 c rest hr ih =>
    have hn := read?_eq_none_iff.1 hr
    rw [pieces_literal hn]
    exact .literal hn ih

/-- A text has one division from the left, which is its pieces. -/
theorem scan_iff : Scan cs ps ↔ ps = pieces cs := by
  constructor
  · intro h
    induction h with
    | nil => rw [pieces]
    | placeholder hp _ ih => rw [pieces_placeholder hp, ih]
    | literal hn _ ih => rw [pieces_literal hn, ih]
  · rintro rfl
    exact scan_pieces cs

/-- Nothing of a text is lost in its pieces. -/
theorem Scan.written_eq (h : Scan cs ps) : written ps = cs := by
  induction h with
  | nil => rfl
  | placeholder _ _ ih => rw [written, List.flatMap_cons, ← written, ih]
  | literal _ _ ih =>
    rw [written, List.flatMap_cons, ← written, ih]
    rfl

/-- The first pieces of a text are the pieces of what they write, and so are the others. -/
theorem Scan.of_append (h : Scan cs (ps ++ qs)) : Scan (written ps) ps ∧ Scan (written qs) qs := by
  induction ps generalizing cs with
  | nil => exact ⟨.nil, h.written_eq.symm ▸ h⟩
  | cons p ps ih =>
    cases h with
    | placeholder hp hr =>
      obtain ⟨hps, hqs⟩ := ih hr
      exact ⟨.placeholder hp hps, hqs⟩
    | @literal c rest _ hn hr =>
      obtain ⟨hps, hqs⟩ := ih hr
      have hrest : written ps ++ written qs = rest := (written_append ps qs).symm.trans hr.written_eq
      -- A placeholder that begins in the first part would begin in the whole text.
      have hwhole : c :: written ps <+: c :: rest := List.cons_prefix_cons.2 ⟨rfl, written qs, hrest⟩
      exact ⟨.literal (fun q hq hpre => hn q hq (hpre.trans hwhole)) hps, hqs⟩

/-- A placeholder of a text begins in its first part and ends in its second. -/
def Straddles (a b : List Char) : Prop :=
  ∃ before p after, Scan (a ++ b) (before ++ p :: after) ∧ (written before).length < a.length ∧
    a.length < (written (before ++ [p])).length

/-- Where no piece straddles a place the pieces can be parted there. -/
theorem exists_parted {n : Nat} (hn : n ≤ (written ps).length)
    (h : ∀ before p after, ps = before ++ p :: after →
      ¬((written before).length < n ∧ n < (written (before ++ [p])).length)) :
    ∃ before after, ps = before ++ after ∧ (written before).length = n := by
  induction ps generalizing n with
  | nil => exact ⟨[], [], rfl, (Nat.le_zero.1 hn).symm⟩
  | cons p ps ih =>
    have hcons : ∀ qs, (written (p :: qs)).length = p.text.length + (written qs).length := by
      simp [written]
    by_cases hzero : n = 0
    · exact ⟨[], p :: ps, rfl, hzero.symm⟩
    · have hle : p.text.length ≤ n := by
        have hfirst := h [] p ps rfl
        rw [List.nil_append, hcons] at hfirst
        simp only [written, List.flatMap_nil, List.length_nil] at hfirst
        omega
      rw [hcons] at hn
      obtain ⟨before, after, rfl, hb⟩ := ih (n := n - p.text.length) (by omega) (by
        intro before q after he hlt
        refine h (p :: before) q after (by rw [he, List.cons_append]) ?_
        rw [List.cons_append, hcons, hcons]
        omega)
      exact ⟨p :: before, after, rfl, by rw [hcons]; omega⟩

/-- Where no placeholder straddles the joint of two texts, their pieces are the pieces of both. -/
theorem pieces_append {a b : List Char} (h : ¬Straddles a b) : pieces (a ++ b) = pieces a ++ pieces b := by
  have hscan := scan_pieces (a ++ b)
  have hlen : a.length ≤ (written (pieces (a ++ b))).length := by
    rw [hscan.written_eq, List.length_append]
    exact Nat.le_add_right _ _
  obtain ⟨before, after, he, hb⟩ := exists_parted hlen fun before p after he hlt =>
    h ⟨before, p, after, he ▸ hscan, hlt⟩
  rw [he] at hscan
  obtain ⟨hbefore, hafter⟩ := hscan.of_append
  have hwritten : written before ++ written after = a ++ b := by
    rw [← hscan.written_eq, written_append]
  obtain ⟨ha, hb'⟩ := List.append_inj hwritten hb
  rw [ha] at hbefore
  rw [hb'] at hafter
  rw [he, scan_iff.1 hbefore, scan_iff.1 hafter]

/-- No placeholder straddles the joint of two texts exactly if their pieces are the pieces of both. -/
theorem not_straddles_iff {a b : List Char} : ¬Straddles a b ↔ pieces (a ++ b) = pieces a ++ pieces b := by
  refine ⟨pieces_append, ?_⟩
  rintro h ⟨before, p, after, hs, hbefore, hafter⟩
  have hsplit : before ++ p :: after = pieces a ++ pieces b := (scan_iff.1 hs).trans h
  have ha : written (pieces a) = a := (scan_pieces a).written_eq
  rcases List.append_eq_append_iff.1 hsplit with ⟨more, hmore, hrest⟩ | ⟨more, hmore, -⟩
  · cases more with
    | nil => rw [← ha, hmore, List.append_nil] at hbefore; exact Nat.lt_irrefl _ hbefore
    | cons q more =>
      cases hrest
      rw [← ha, hmore, List.append_cons, written_append, List.length_append] at hafter
      omega
  · rw [hmore, written_append, ha, List.length_append] at hbefore
    omega

end Placeholder

namespace Environment

open Placeholder

variable {env : Environment} {ps qs : List TextPiece} {e : ConfigError}

/-! ## Expanding pieces -/

/-- A piece has a text to be replaced by: it is no placeholder, or it has a default or a variable that is set. -/
def Resolves (env : Environment) : TextPiece → Prop
  | .literal _ => True
  | .placeholder name fallback => fallback.isSome ∨ (Table.get? (String.ofList name) env).isSome

/-- The text a piece is replaced by: the value of the variable if it is set, otherwise the default. -/
def replacement (env : Environment) : TextPiece → List Char
  | .literal c => [c]
  | .placeholder name fallback => ((Table.get? (String.ofList name) env).map String.toList).getD (fallback.getD [])

theorem expandPiece_of_resolves {p : TextPiece} (h : env.Resolves p) : expandPiece env p = .ok (env.replacement p) := by
  cases p with
  | literal c => rfl
  | placeholder name fallback =>
    cases hv : Table.get? (String.ofList name) env with
    | some value => simp only [expandPiece, replacement, hv, Option.map_some, Option.getD_some]
    | none =>
      cases fallback with
      | some text => simp only [expandPiece, replacement, hv, Option.map_none, Option.getD_none, Option.getD_some]
      | none => simp [Resolves, hv] at h

theorem not_resolves_iff {p : TextPiece} :
    ¬env.Resolves p ↔ ∃ name, p = .placeholder name none ∧ Table.get? (String.ofList name) env = none := by
  cases p with
  | literal c => simp [Resolves]
  | placeholder name fallback => cases fallback <;> simp [Resolves]

/-- Pieces that all resolve are replaced one by one. -/
theorem mapM_expandPiece (h : ∀ p ∈ ps, env.Resolves p) : ps.mapM (expandPiece env) = .ok (ps.map env.replacement) := by
  induction ps with
  | nil => rfl
  | cons p ps ih =>
    obtain ⟨hp, hps⟩ := List.forall_mem_cons.1 h
    rw [List.mapM_cons, expandPiece_of_resolves hp, ih hps]
    rfl

/-- The first piece that does not resolve is the fault. -/
theorem mapM_expandPiece_error {name : List Char} (h : ∀ p ∈ ps, env.Resolves p)
    (hn : Table.get? (String.ofList name) env = none) :
    (ps ++ .placeholder name none :: qs).mapM (expandPiece env) = .error (.unsetVariable (String.ofList name)) := by
  have hfirst : expandPiece env (.placeholder name none) = .error (.unsetVariable (String.ofList name)) := by
    simp only [expandPiece, hn]
  rw [List.mapM_append, mapM_expandPiece h, List.mapM_cons, hfirst]
  rfl

/-- Either all pieces resolve, or there is a first one that does not. -/
theorem resolves_cases (env : Environment) (ps : List TextPiece) : (∀ p ∈ ps, env.Resolves p) ∨
    ∃ before name after, ps = before ++ .placeholder name none :: after ∧ Table.get? (String.ofList name) env = none ∧
      ∀ p ∈ before, env.Resolves p := by
  induction ps with
  | nil => exact Or.inl fun _ hp => absurd hp List.not_mem_nil
  | cons p ps ih =>
    by_cases hp : env.Resolves p
    · rcases ih with hall | ⟨before, name, after, rfl, hn, hb⟩
      · exact Or.inl (List.forall_mem_cons.2 ⟨hp, hall⟩)
      · exact Or.inr ⟨p :: before, name, after, rfl, hn, List.forall_mem_cons.2 ⟨hp, hb⟩⟩
    · obtain ⟨name, rfl, hn⟩ := not_resolves_iff.1 hp
      exact Or.inr ⟨[], name, ps, rfl, hn, fun _ hp => absurd hp List.not_mem_nil⟩

/-- Why a text is not expanded: its first placeholder that does not resolve. -/
def Unset (env : Environment) (ps : List TextPiece) (e : ConfigError) : Prop :=
  ∃ before name after, ps = before ++ .placeholder name none :: after ∧ Table.get? (String.ofList name) env = none ∧
    (∀ p ∈ before, env.Resolves p) ∧ e = .unsetVariable (String.ofList name)

theorem expand_of_resolves {text : String} (h : ∀ p ∈ pieces text.toList, env.Resolves p) :
    env.expand text = .ok (String.ofList ((pieces text.toList).flatMap env.replacement)) := by
  rw [expand, mapM_expandPiece h, List.flatMap_def]
  rfl

theorem expand_of_unset {text : String} (h : env.Unset (pieces text.toList) e) : env.expand text = .error e := by
  obtain ⟨before, name, after, he, hn, hb, rfl⟩ := h
  rw [expand, he, mapM_expandPiece_error hb hn]
  rfl

/-- A text is not expanded exactly if some placeholder of it does not resolve. -/
theorem expand_eq_error_iff {text : String} : env.expand text = .error e ↔ env.Unset (pieces text.toList) e := by
  refine ⟨fun h => ?_, expand_of_unset⟩
  rcases env.resolves_cases (pieces text.toList) with hall | ⟨before, name, after, he, hn, hb⟩
  · rw [expand_of_resolves hall] at h
    cases h
  · have hunset : env.Unset (pieces text.toList) (.unsetVariable (String.ofList name)) :=
      ⟨before, name, after, he, hn, hb, rfl⟩
    rw [expand_of_unset hunset] at h
    cases h
    exact hunset

/-- Texts without a placeholder across their joint are expanded one after the other. -/
theorem expand_append {a b : String} (h : ¬Straddles a.toList b.toList) :
    env.expand (a ++ b) = (env.expand a).bind fun x => (env.expand b).map fun y => x ++ y := by
  rw [expand, expand, expand, String.toList_append, pieces_append h, List.mapM_append]
  cases (pieces a.toList).mapM (expandPiece env) with
  | error e => rfl
  | ok xs =>
    cases (pieces b.toList).mapM (expandPiece env) with
    | error e => rfl
    | ok ys =>
      refine congrArg Except.ok ?_
      show String.ofList (xs ++ ys).flatten = String.ofList xs.flatten ++ String.ofList ys.flatten
      rw [List.flatten_append, String.ofList_append]

/-- What expanding a text makes of it. The text has one division from the left, in which nothing of it is lost. It is refused exactly if
some placeholder of it has no default and its variable is not set, and the first of these is named. Otherwise every placeholder is replaced
by the value of its variable, or by its default if the variable is not set; everything else stays as it is, and what was put in is not
looked at again. A text and another one after it are expanded each on its own if no placeholder of both together begins in the one and
ends in the other. -/
theorem expand_law (env : Environment) (text : String) :
    ∃ ps, (∀ qs, Scan text.toList qs ↔ qs = ps) ∧ written ps = text.toList ∧
      (∀ e, env.expand text = .error e ↔ env.Unset ps e) ∧
      ((∀ p ∈ ps, env.Resolves p) → env.expand text = .ok (String.ofList (ps.flatMap env.replacement))) ∧
      ∀ more : String, ¬Straddles text.toList more.toList →
        env.expand (text ++ more) = (env.expand text).bind fun x => (env.expand more).map fun y => x ++ y :=
  ⟨pieces text.toList, fun _ => scan_iff, (scan_pieces _).written_eq, fun _ => expand_eq_error_iff, expand_of_resolves,
    fun _ => expand_append⟩

/-- A variable whose value is written like a placeholder. -/
def reflecting : Environment := [("A", "$\x7bB\x7d")]

/-- A dollar sign before a placeholder, and a default that is cut short by the brace of a placeholder inside of it. -/
theorem expand_law_reflecting :
    (∀ p ∈ pieces "$$\x7bA\x7d".toList, reflecting.Resolves p) ∧
    reflecting.expand "$$\x7bA\x7d" = .ok "$$\x7bB\x7d" ∧
    ¬Straddles "$$\x7bA\x7d".toList "$\x7bB:-$\x7bA\x7d\x7d".toList ∧
    reflecting.expand ("$$\x7bA\x7d" ++ "$\x7bB:-$\x7bA\x7d\x7d") = .ok "$$\x7bB\x7d$\x7bA\x7d" := by
  have hfirst : pieces "$$\x7bA\x7d".toList = [.literal '$', .placeholder ['A'] none] := by decide +kernel
  have hmore : pieces "$\x7bB:-$\x7bA\x7d\x7d".toList = [.placeholder ['B'] (some ['$', '\x7b', 'A']), .literal '\x7d'] := by
    decide +kernel
  have hresolves : ∀ p ∈ pieces "$$\x7bA\x7d".toList, reflecting.Resolves p := by
    rw [hfirst]
    simp [Resolves, reflecting, Table.get?]
  have hapart : ¬Straddles "$$\x7bA\x7d".toList "$\x7bB:-$\x7bA\x7d\x7d".toList := by
    rw [not_straddles_iff]
    decide +kernel
  obtain ⟨ps, hscan, -, -, hok, happend⟩ := expand_law reflecting "$$\x7bA\x7d"
  obtain rfl : pieces _ = ps := (hscan _).1 (scan_pieces _)
  have hvalue : (pieces "$$\x7bA\x7d".toList).flatMap reflecting.replacement = "$$\x7bB\x7d".toList := by
    rw [hfirst]
    rfl
  have hexpand : reflecting.expand "$$\x7bA\x7d" = .ok "$$\x7bB\x7d" := by
    rw [hok hresolves, hvalue, String.ofList_toList]
  refine ⟨hresolves, hexpand, hapart, ?_⟩
  rw [happend _ hapart, hexpand, expand, hmore]
  rfl

end Environment
end CoEdit
