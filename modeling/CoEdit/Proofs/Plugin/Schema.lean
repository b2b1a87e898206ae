import CoEdit.Plugin.Autosave
import CoEdit.Proofs.Plugin.Overriding

/-!
# Tables against declarations

A table is accepted if every key names a parameter, every tree converts to the kind of the first declaration its key names, no parameter
is given twice and every required one is given (`PluginParameters.Conforms`). Then each parameter has the value of the key that names it,
which the getter of its kind returns and no other (`PluginParameters.Holds`). Otherwise the table is refused for the first of its keys
that something is wrong with, and only if there is none for the first declaration that is missing (`PluginParameters.Refusal`).
-/

namespace CoEdit

/-- A new key makes a table longer by one. -/
theorem Table.length_insert {κ ν : Type} [DecidableEq κ] [LT κ] [DecidableLT κ] {k : κ} {t : Table κ ν} (h : Table.contains k t = false)
    (v : ν) : (Table.insert k v t).length = t.length + 1 := by
  induction t with
  | nil => rfl
  | cons e rest ih =>
    rw [contains, get?] at h
    split at h
    · cases h
    · rename_i hne
      rw [insert, if_neg (Ne.symm hne)]
      split
      · rfl
      · rw [List.length_cons, List.length_cons, ih h]

/-! ## Kinds of values -/

/-- The kind of a value. -/
def ParameterValue.kind : ParameterValue → ParameterKind
  | .boolean _ => .boolean
  | .int _ => .int
  | .uint _ => .uint
  | .double _ => .double
  | .string _ => .string
  | .stringList _ => .stringList
  | .path _ => .path

/-- What a tree converts to is of the kind that was asked for. -/
theorem ParameterKind.kind_of_convert? {kind : ParameterKind} {t : Tree} {v : ParameterValue} (h : kind.convert? t = some v) :
    v.kind = kind := by
  unfold convert? at h
  split at h <;> first
    | (cases h; rfl)
    | cases h
    | (obtain ⟨x, -, rfl⟩ := Option.map_eq_some_iff.1 h; rfl)
    | (split at h <;> cases h; rfl)

namespace PluginParameters

variable {specs : List ParameterSpec} {raw : ParameterTable} {ps qs : PluginParameters} {e x : String × Tree} {s : ParameterSpec}
  {name : String} {err : PluginError}

/-- What the getter of a kind returns. -/
def typed? (ps : PluginParameters) (name : String) : ParameterKind → Option ParameterValue
  | .boolean => (ps.boolean? name).map .boolean
  | .int => (ps.int? name).map .int
  | .uint => (ps.uint? name).map .uint
  | .double => (ps.double? name).map .double
  | .string => (ps.string? name).map .string
  | .stringList => (ps.stringList? name).map .stringList
  | .path => (ps.path? name).map .path

/-- The getter of a kind returns the values of that kind. -/
theorem typed?_eq (ps : PluginParameters) (name : String) (kind : ParameterKind) :
    typed? ps name kind = (ps.get? name).filter fun v => v.kind = kind := by
  cases hv : ps.get? name with
  | none => cases kind <;> simp [typed?, boolean?, int?, uint?, double?, string?, stringList?, path?, hv]
  | some v =>
    cases kind <;> cases v <;>
      simp [typed?, boolean?, int?, uint?, double?, string?, stringList?, path?, hv, ParameterValue.kind, Option.filter]

/-! ## What is asked of a table -/

/-- The table and the declarations fit. -/
structure Conforms (specs : List ParameterSpec) (raw : ParameterTable) : Prop where
  known : ∀ e ∈ raw, ∃ s ∈ specs, canonicalName s.name = canonicalName e.1
  converts : ∀ e ∈ raw, ∀ s, spec? specs e.1 = some s → (s.kind.convert? e.2).isSome = true
  once : ∀ x ∈ raw, ∀ y ∈ raw, canonicalName x.1 = canonicalName y.1 → x.1 = y.1
  complete : ∀ s ∈ specs, s.required = true → ∃ e ∈ raw, canonicalName e.1 = canonicalName s.name

/-- The parameters are what the table gives. -/
structure Holds (specs : List ParameterSpec) (raw : ParameterTable) (ps : PluginParameters) : Prop where
  size : ps.length = raw.length
  /-- Under any spelling, a parameter has the value that the key naming it converts to. The getter of its kind returns it, and no other. -/
  given : ∀ e ∈ raw, ∀ name, canonicalName e.1 = canonicalName name → ∃ s v, spec? specs e.1 = some s ∧ s.kind.convert? e.2 = some v ∧
    ps.get? name = some v ∧ ∀ kind, typed? ps name kind = if kind = s.kind then some v else none
  absent : ∀ name, (∀ e ∈ raw, canonicalName e.1 ≠ canonicalName name) → ps.get? name = none

/-- What is wrong with an entry: its key names no parameter, its tree does not convert, or a smaller key names the parameter already. -/
inductive Offence (specs : List ParameterSpec) (raw : ParameterTable) (e : String × Tree) : PluginError → Prop
  | unknown (h : ∀ s ∈ specs, canonicalName s.name ≠ canonicalName e.1) : Offence specs raw e (.parameter e.1 .unknown)
  | wrongKind {s : ParameterSpec} (hs : spec? specs e.1 = some s) (h : s.kind.convert? e.2 = none) :
      Offence specs raw e (.parameter s.name (.wrongKind s.kind))
  | repeated (hv : (value? specs e).isSome = true) {x : String × Tree} (hx : x ∈ raw) (hlt : x.1 < e.1)
      (hspelled : canonicalName x.1 = canonicalName e.1) : Offence specs raw e (.parameter e.1 .repeated)

/-- Why a table is refused: for the first key with an offence, or if there is none for the first required declaration no key names. -/
inductive Refusal (specs : List ParameterSpec) (raw : ParameterTable) : PluginError → Prop
  | offence {e : String × Tree} {err : PluginError} (he : e ∈ raw) (h : Offence specs raw e err)
      (first : ∀ x ∈ raw, x.1 < e.1 → ∀ err', ¬Offence specs raw x err') : Refusal specs raw err
  | missing (sound : ∀ x ∈ raw, ∀ err', ¬Offence specs raw x err') {before after : List ParameterSpec} {s : ParameterSpec}
      (hspecs : specs = before ++ s :: after) (required : s.required = true)
      (absent : ∀ e ∈ raw, canonicalName e.1 ≠ canonicalName s.name)
      (first : ∀ s' ∈ before, s'.required = true → ∃ e ∈ raw, canonicalName e.1 = canonicalName s'.name) :
      Refusal specs raw (.parameter s.name .missing)

/-! ## Accepted tables -/

theorem spec?_eq_none : spec? specs name = none ↔ ∀ s ∈ specs, canonicalName s.name ≠ canonicalName name := by
  simp [spec?]

theorem value?_eq_some {v : ParameterValue} : value? specs e = some v ↔ ∃ s, spec? specs e.1 = some s ∧ s.kind.convert? e.2 = some v :=
  Option.bind_eq_some_iff

/-- Keys that are read one after the other are counted. -/
theorem length_readAll (h : raw.foldlM (readEntry specs) ps = .ok qs) : qs.length = ps.length + raw.length := by
  induction raw generalizing ps with
  | nil =>
    cases h
    rfl
  | cons e rest ih =>
    rw [List.foldlM_cons] at h
    cases he : readEntry specs ps e with
    | error x =>
      rw [he] at h
      cases h
    | ok ps' =>
      rw [he] at h
      obtain ⟨v, -, hnew, rfl⟩ := readEntry_eq_ok.1 he
      rw [ih h, Table.length_insert hnew, List.length_cons]
      omega

/-- In a table with a value for each entry, the keys are known and the trees convert, and the other way round. -/
theorem values_iff : (∀ e ∈ raw, (value? specs e).isSome = true) ↔
    (∀ e ∈ raw, ∃ s ∈ specs, canonicalName s.name = canonicalName e.1) ∧
      ∀ e ∈ raw, ∀ s, spec? specs e.1 = some s → (s.kind.convert? e.2).isSome = true := by
  rw [← forall₂_and]
  refine forall₂_congr fun e _ => ?_
  unfold value?
  cases hs : spec? specs e.1 with
  | none =>
    rw [spec?_eq_none] at hs
    simpa using hs
  | some s =>
    have hknown : ∃ s ∈ specs, canonicalName s.name = canonicalName e.1 :=
      ⟨s, List.mem_of_find?_eq_some hs, by simpa using List.find?_some hs⟩
    simp [hknown]

/-- The keys of a table differ, so the entries that name one parameter do if their keys do. -/
theorem once_iff (hraw : raw.Ascending) : (raw.Pairwise fun a b => canonicalName a.1 ≠ canonicalName b.1) ↔
    ∀ x ∈ raw, ∀ y ∈ raw, canonicalName x.1 = canonicalName y.1 → x.1 = y.1 := by
  constructor
  · intro h x hx y hy hspelled
    have hsymm : Std.Symm fun a b : String × Tree => canonicalName a.1 ≠ canonicalName b.1 := ⟨fun _ _ h => h.symm⟩
    by_contra hne
    exact h.forall hx hy (fun hxy => hne (congrArg Prod.fst hxy)) hspelled
  · intro h
    refine hraw.imp_of_mem fun {x y} hx hy hlt hspelled => ?_
    rw [h x hx y hy hspelled] at hlt
    exact String.lt_irrefl _ hlt

theorem readable_iff (hraw : raw.Ascending) : Conforms specs raw ↔
    Readable specs raw ∧ ∀ s ∈ specs, s.required = true → ∃ e ∈ raw, canonicalName e.1 = canonicalName s.name := by
  constructor
  · rintro ⟨hknown, hconverts, honce, hcomplete⟩
    exact ⟨⟨values_iff.2 ⟨hknown, hconverts⟩, (once_iff hraw).2 honce⟩, hcomplete⟩
  · rintro ⟨⟨hvalues, honce⟩, hcomplete⟩
    obtain ⟨hknown, hconverts⟩ := values_iff.1 hvalues
    exact ⟨hknown, hconverts, (once_iff hraw).1 honce, hcomplete⟩

/-- A table that can be read gives a parameter if one of its keys names it. -/
theorem Readable.given?_isSome (hr : Readable specs raw) :
    (given? specs raw name).isSome = true ↔ ∃ e ∈ raw, canonicalName e.1 = canonicalName name := by
  constructor
  · intro h
    obtain ⟨v, hv⟩ := Option.isSome_iff_exists.1 h
    obtain ⟨e, he, hspelled, -⟩ := hr.given?_eq_some.1 hv
    exact ⟨e, he, hspelled⟩
  · rintro ⟨e, he, hspelled⟩
    obtain ⟨v, hv⟩ := Option.isSome_iff_exists.1 (hr.values e he)
    rw [hr.given?_eq_some.2 ⟨e, he, hspelled, hv⟩]
    rfl

theorem conforms_of_parse (hraw : raw.Ascending) (h : parse specs raw = .ok ps) : Conforms specs raw := by
  obtain ⟨hr, hrequired, hget⟩ := parse_eq_ok h
  refine (readable_iff hraw).2 ⟨hr, fun s hs hreq => hr.given?_isSome.1 ?_⟩
  rw [← hget]
  exact hrequired s hs hreq

theorem parse_of_conforms (hraw : raw.Ascending) (h : Conforms specs raw) : ∃ ps, parse specs raw = .ok ps := by
  obtain ⟨hr, hcomplete⟩ := (readable_iff hraw).1 h
  exact parse_of_readable hr fun s hs hreq => hr.given?_isSome.2 (hcomplete s hs hreq)

theorem holds_of_parse (h : parse specs raw = .ok ps) : Holds specs raw ps := by
  obtain ⟨hr, -, hget⟩ := parse_eq_ok h
  refine ⟨?_, ?_, ?_⟩
  · unfold parse at h
    split at h
    · cases h
    · rename_i qs hread
      split at h
      · cases h
      · cases h
        rw [length_readAll hread, List.length_nil, Nat.zero_add]
  · intro e he name hspelled
    obtain ⟨v, hv⟩ := Option.isSome_iff_exists.1 (hr.values e he)
    have hgot : ps.get? name = some v := (hget name).trans (hr.given?_eq_some.2 ⟨e, he, hspelled, hv⟩)
    obtain ⟨s, hs, hconvert⟩ := value?_eq_some.1 hv
    refine ⟨s, v, hs, hconvert, hgot, fun kind => ?_⟩
    rw [typed?_eq, hgot, Option.filter, ParameterKind.kind_of_convert? hconvert]
    simp [eq_comm]
  · intro name hno
    rw [hget, ← Option.not_isSome_iff_eq_none, hr.given?_isSome]
    rintro ⟨e, he, hspelled⟩
    exact hno e he hspelled

/-! ## Refused tables -/

/-- Reading stops at the first entry that is not taken. -/
theorem readAll_eq_error (h : raw.foldlM (readEntry specs) ps = .error err) : ∃ before e after qs, raw = before ++ e :: after ∧
    before.foldlM (readEntry specs) ps = .ok qs ∧ readEntry specs qs e = .error err := by
  induction raw generalizing ps with
  | nil => cases h
  | cons e rest ih =>
    rw [List.foldlM_cons] at h
    cases he : readEntry specs ps e with
    | error x =>
      rw [he] at h
      cases h
      exact ⟨[], e, rest, ps, rfl, rfl, he⟩
    | ok ps' =>
      rw [he] at h
      obtain ⟨before, x, after, qs, rfl, hbefore, hx⟩ := ih h
      refine ⟨e :: before, x, after, qs, rfl, ?_, hx⟩
      rw [List.foldlM_cons, he]
      exact hbefore

/-- An entry with a value that no smaller key names already is sound. -/
theorem not_offence (hv : (value? specs e).isSome = true)
    (hnew : ∀ x ∈ raw, x.1 < e.1 → canonicalName x.1 ≠ canonicalName e.1) : ¬Offence specs raw e err := by
  obtain ⟨v, hv⟩ := Option.isSome_iff_exists.1 hv
  obtain ⟨s, hs, hconvert⟩ := value?_eq_some.1 hv
  intro h
  cases h with
  | unknown h =>
    rw [spec?_eq_none.2 h] at hs
    cases hs
  | wrongKind hs' h =>
    rw [hs] at hs'
    cases hs'
    rw [hconvert] at h
    cases h
  | repeated _ hx hlt hspelled => exact hnew _ hx hlt hspelled

/-- In a table that is read to its end, no entry has an offence. -/
theorem Readable.sound (hr : Readable specs raw) (he : e ∈ raw) : ¬Offence specs raw e err := by
  refine not_offence (hr.values e he) fun x hx hlt hspelled => ?_
  rw [hr.eq_of_spelled hx he hspelled] at hlt
  exact String.lt_irrefl _ hlt

/-- An entry that is not taken has an offence. -/
theorem offence_of_readEntry (hsmaller : qs.contains e.1 = true → ∃ x ∈ raw, x.1 < e.1 ∧ canonicalName x.1 = canonicalName e.1)
    (h : readEntry specs qs e = .error err) : Offence specs raw e err := by
  cases hs : spec? specs e.1 with
  | none =>
    unfold readEntry at h
    rw [hs] at h
    cases h
    exact .unknown (spec?_eq_none.1 hs)
  | some s =>
    cases hconvert : s.kind.convert? e.2 with
    | none =>
      unfold readEntry at h
      rw [hs] at h
      dsimp only at h
      rw [hconvert] at h
      cases h
      exact .wrongKind hs hconvert
    | some v =>
      have hv : value? specs e = some v := value?_eq_some.2 ⟨s, hs, hconvert⟩
      rw [readEntry_of_value hv] at h
      split at h
      · rename_i hc
        cases h
        obtain ⟨x, hx, hlt, hspelled⟩ := hsmaller hc
        exact .repeated (by rw [hv]; rfl) hx hlt hspelled
      · cases h

/-- What has a smaller key than an entry stands before it. -/
theorem mem_before {before after : ParameterTable} (hraw : Table.Ascending (before ++ e :: after)) (hx : x ∈ before ++ e :: after)
    (hlt : x.1 < e.1) : x ∈ before := by
  rcases List.mem_append.1 hx with hx | hx
  · exact hx
  · rcases List.mem_cons.1 hx with rfl | hx
    · exact absurd hlt (String.lt_irrefl _)
    · have hafter := (List.pairwise_cons.1 (List.pairwise_append.1 hraw).2.1).1 x hx
      exact absurd (String.lt_trans hlt hafter) (String.lt_irrefl _)

/-- Where reading stops, there is the first offence. -/
theorem refusal_of_readAll (hraw : raw.Ascending) (h : raw.foldlM (readEntry specs) [] = .error err) : Refusal specs raw err := by
  obtain ⟨before, e, after, qs, rfl, hbefore, he⟩ := readAll_eq_error h
  obtain ⟨hr, -, hget⟩ := readAll_eq_ok hbefore
  refine .offence (e := e) (by simp) (offence_of_readEntry ?_ he) ?_
  · intro hc
    rw [contains, hget, PluginParameters.get?, Table.get?_nil, Option.or_none, hr.given?_isSome] at hc
    obtain ⟨x, hx, hspelled⟩ := hc
    exact ⟨x, List.mem_append_left _ hx, (List.pairwise_append.1 hraw).2.2 x hx e List.mem_cons_self, hspelled⟩
  · intro x hx hlt err'
    have hx' := mem_before hraw hx hlt
    refine not_offence (hr.values x hx') fun y hy hyx hspelled => ?_
    rw [hr.eq_of_spelled (mem_before hraw hy (String.lt_trans hyx hlt)) hx' hspelled] at hyx
    exact String.lt_irrefl _ hyx

theorem refusal_of_parse (hraw : raw.Ascending) (h : parse specs raw = .error err) : Refusal specs raw err := by
  unfold parse at h
  split at h
  · rename_i hread
    cases h
    exact refusal_of_readAll hraw hread
  · rename_i qs hread
    obtain ⟨hr, -, hget⟩ := readAll_eq_ok hread
    have hgives : ∀ s : ParameterSpec, qs.contains s.name = true ↔ ∃ e ∈ raw, canonicalName e.1 = canonicalName s.name := by
      intro s
      rw [contains, hget, PluginParameters.get?, Table.get?_nil, Option.or_none, hr.given?_isSome]
    split at h
    · rename_i s hmissing
      cases h
      obtain ⟨hs, before, after, hspecs, hbefore⟩ := List.find?_eq_some_iff_append.1 hmissing
      rw [Bool.and_eq_true, Bool.not_eq_true', ← Bool.not_eq_true, hgives] at hs
      refine .missing (fun x hx err' => hr.sound hx) hspecs hs.1 (fun e he hspelled => hs.2 ⟨e, he, hspelled⟩) fun s' hs' hreq => ?_
      have hthere := hbefore s' hs'
      rw [hreq, Bool.true_and, Bool.not_not] at hthere
      exact (hgives s').1 hthere
    · cases h

/-- A table is accepted if it conforms to the declarations, and then holds what it gives. Otherwise it is refused for its first offence, or
if it has none for the first required declaration that is missing. -/
theorem parse_by_declarations (specs : List ParameterSpec) (hraw : raw.Ascending) :
    ((∃ ps, parse specs raw = .ok ps) ↔ Conforms specs raw) ∧ (∀ ps, parse specs raw = .ok ps → Holds specs raw ps) ∧
      ∀ err, parse specs raw = .error err → Refusal specs raw err :=
  ⟨⟨fun ⟨_, h⟩ => conforms_of_parse hraw h, parse_of_conforms hraw⟩, fun _ h => holds_of_parse h, fun _ h => refusal_of_parse hraw h⟩

/-- A table that is accepted, with a number as text, and one with something wrong with every key but the smallest. -/
theorem parse_by_declarations_autosave :
    (Conforms Autosave.parameters [("hook", .string "/bin/true"), ("interval", .string " 30 ")] ∧
      ∃ ps, Holds Autosave.parameters [("hook", .string "/bin/true"), ("interval", .string " 30 ")] ps ∧
        typed? ps "interval" .uint = some (.uint 30)) ∧
    Refusal Autosave.parameters [("interval", .number (.integer 5)), ("interval_", .null), ("pause", .null)]
      (.parameter "interval_" .unknown) := by
  have haccepted : Table.Ascending [("hook", Tree.string "/bin/true"), ("interval", .string " 30 ")] := by
    unfold Table.Ascending
    decide
  have hrefused : Table.Ascending [("interval", Tree.number (.integer 5)), ("interval_", .null), ("pause", .null)] := by
    unfold Table.Ascending
    decide
  obtain ⟨hconforms, hholds, -⟩ := parse_by_declarations Autosave.parameters haccepted
  exact ⟨⟨hconforms.1 ⟨_, rfl⟩, _, hholds _ rfl, rfl⟩, (parse_by_declarations Autosave.parameters hrefused).2.2 _ rfl⟩

end PluginParameters
end CoEdit
