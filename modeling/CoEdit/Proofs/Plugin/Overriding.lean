import CoEdit.Plugin.Logging
import CoEdit.Plugin.Parameter
import CoEdit.Proofs.Tree.Layers
import Mathlib.Data.List.Pairwise

/-!
# Parameters in layers

A name of a parameter has several spellings. Where parameters are read the spellings stand for each other, but where layers are merged
they are different keys. So a later layer overrides a parameter if it spells it as the earlier one did. If it does not, the merged table
has the parameter under both spellings, and is refused for giving it more than once (`PluginParameters.parse_merge`).
-/

namespace CoEdit

namespace Tree

variable {base overlay : ParameterTable}

/-- Where a table has no objects, its entries stand in the merged table as they are, with those of the base under other keys. -/
theorem mem_mergeEntries (hb : base.Ascending) (ho : overlay.Ascending) (hleaf : ∀ e ∈ overlay, e.2.isObject = false)
    {e : String × Tree} : e ∈ mergeEntries base overlay ↔ e ∈ overlay ∨ (e ∈ base ∧ e.1 ∉ Table.keys overlay) := by
  rw [(ascending_mergeEntries hb overlay).mem_iff, get?_mergeEntries ho, hb.mem_iff, ho.mem_iff, ← Table.get?_isSome_iff]
  cases hv : Table.get? e.1 overlay with
  | none => simp
  | some v =>
    dsimp only
    rw [overlaid_of_not_object _ (hleaf _ (Table.mem_of_get? hv))]
    simp

end Tree

/-! ## Reading tables -/

/-- No kind of parameter takes an object. -/
theorem ParameterKind.isObject_of_convert? {kind : ParameterKind} {t : Tree} (h : (kind.convert? t).isSome = true) :
    t.isObject = false := by
  cases t with
  | object es => cases kind <;> cases h
  | _ => rfl

namespace PluginParameters

variable {specs : List ParameterSpec} {raw : ParameterTable} {ps qs : PluginParameters} {entry : String × Tree} {name : String}

/-- The value of an entry, if its key names a parameter and its tree converts to the kind of that. -/
def value? (specs : List ParameterSpec) (entry : String × Tree) : Option ParameterValue :=
  (spec? specs entry.1).bind fun s => s.kind.convert? entry.2

/-- The value that a table gives to a parameter, under whichever spelling. -/
def given? (specs : List ParameterSpec) (raw : ParameterTable) (name : String) : Option ParameterValue :=
  (raw.find? fun e => canonicalName e.1 = canonicalName name).bind (value? specs)

/-- Every entry of a table has a value, and no parameter is given twice. -/
structure Readable (specs : List ParameterSpec) (raw : ParameterTable) : Prop where
  values : ∀ e ∈ raw, (value? specs e).isSome = true
  once : raw.Pairwise fun a b => canonicalName a.1 ≠ canonicalName b.1

/-- An entry with a value is taken unless its parameter was given before. -/
theorem readEntry_of_value {v : ParameterValue} (hv : value? specs entry = some v) (ps : PluginParameters) :
    readEntry specs ps entry =
      if Table.contains (canonicalName entry.1) ps then .error (.parameter entry.1 .repeated)
      else .ok (Table.insert (canonicalName entry.1) v ps) := by
  obtain ⟨s, hs, hv⟩ := Option.bind_eq_some_iff.1 hv
  unfold readEntry
  rw [hs]
  dsimp only
  rw [hv]

/-- An entry that is taken has a value, and its parameter was not given before. -/
theorem readEntry_eq_ok : readEntry specs ps entry = .ok qs ↔
    ∃ v, value? specs entry = some v ∧ Table.contains (canonicalName entry.1) ps = false ∧
      Table.insert (canonicalName entry.1) v ps = qs := by
  cases hv : value? specs entry with
  | some v =>
    rw [readEntry_of_value hv]
    cases Table.contains (canonicalName entry.1) ps <;> simp
  | none =>
    refine iff_of_false ?_ (by simp)
    unfold readEntry
    unfold value? at hv
    cases hs : spec? specs entry.1 with
    | none => exact nofun
    | some s =>
      rw [hs, Option.bind_some] at hv
      dsimp only
      rw [hv]
      exact nofun

theorem contains_insert (k j : String) (v : ParameterValue) (ps : PluginParameters) :
    Table.contains j (Table.insert k v ps) = (decide (k = j) || Table.contains j ps) := by
  rw [Table.contains, Table.get?_insert]
  by_cases h : k = j
  · simp [h]
  · simp [h, Table.contains]

theorem given?_cons (e : String × Tree) (raw : ParameterTable) (name : String) : given? specs (e :: raw) name =
    if canonicalName e.1 = canonicalName name then value? specs e else given? specs raw name := by
  rw [given?, List.find?_cons]
  by_cases h : canonicalName e.1 = canonicalName name
  · simp [h]
  · simp [h, given?]

/-- Where the entries of a table are taken one after the other, the table can be read, gives none of the parameters there were, and
each parameter has the value it is given, or else the one it had. -/
theorem readAll_eq_ok (h : raw.foldlM (readEntry specs) ps = .ok qs) : Readable specs raw ∧
    (∀ e ∈ raw, Table.contains (canonicalName e.1) ps = false) ∧ ∀ name, qs.get? name = (given? specs raw name).or (ps.get? name) := by
  induction raw generalizing ps with
  | nil =>
    cases h
    exact ⟨⟨nofun, List.Pairwise.nil⟩, nofun, fun name => rfl⟩
  | cons e rest ih =>
    rw [List.foldlM_cons] at h
    cases he : readEntry specs ps e with
    | error x =>
      rw [he] at h
      cases h
    | ok ps' =>
      rw [he] at h
      obtain ⟨v, hv, hnew, rfl⟩ := readEntry_eq_ok.1 he
      obtain ⟨⟨hvalues, honce⟩, hrest, hget⟩ := ih h
      have hothers : ∀ x ∈ rest, canonicalName e.1 ≠ canonicalName x.1 ∧ Table.contains (canonicalName x.1) ps = false := by
        intro x hx
        have hx := hrest x hx
        rw [contains_insert, Bool.or_eq_false_iff] at hx
        exact ⟨of_decide_eq_false hx.1, hx.2⟩
      refine ⟨⟨List.forall_mem_cons.2 ⟨by rw [hv]; rfl, hvalues⟩, List.pairwise_cons.2 ⟨fun x hx => (hothers x hx).1, honce⟩⟩,
        List.forall_mem_cons.2 ⟨hnew, fun x hx => (hothers x hx).2⟩, ?_⟩
      intro name
      rw [hget, given?_cons, PluginParameters.get?, Table.get?_insert]
      by_cases hk : canonicalName e.1 = canonicalName name
      · have hnone : given? specs rest name = none := by
          rw [given?, Option.bind_eq_none_iff]
          intro x hx
          have hspelled := of_decide_eq_true (List.find?_some (p := fun x : String × Tree =>
            decide (canonicalName x.1 = canonicalName name)) hx)
          exact absurd (hk.trans hspelled.symm) (hothers x (List.mem_of_find?_eq_some hx)).1
        rw [hnone, if_pos hk, if_pos hk, hv]
        rfl
      · rw [if_neg hk, if_neg hk]
        rfl

/-- A table whose entries have values is read to its end, or up to the first entry whose parameter was given before. -/
theorem readAll_cases (hvalues : ∀ e ∈ raw, (value? specs e).isSome = true) (ps : PluginParameters) :
    (∃ qs, raw.foldlM (readEntry specs) ps = .ok qs) ∨
    ∃ before e after, raw = before ++ e :: after ∧ raw.foldlM (readEntry specs) ps = .error (.parameter e.1 .repeated) ∧
      (Table.contains (canonicalName e.1) ps = true ∨ ∃ x ∈ before, canonicalName x.1 = canonicalName e.1) := by
  induction raw generalizing ps with
  | nil => exact Or.inl ⟨ps, rfl⟩
  | cons e rest ih =>
    obtain ⟨v, hv⟩ := Option.isSome_iff_exists.1 (hvalues e List.mem_cons_self)
    rw [List.foldlM_cons, readEntry_of_value hv]
    cases hc : Table.contains (canonicalName e.1) ps with
    | true => exact Or.inr ⟨[], e, rest, rfl, rfl, Or.inl hc⟩
    | false =>
      rw [if_neg Bool.false_ne_true]
      rcases ih (fun x hx => hvalues x (List.mem_cons_of_mem e hx)) (Table.insert (canonicalName e.1) v ps)
        with ⟨qs, hqs⟩ | ⟨before, x, after, rfl, herror, hx⟩
      · exact Or.inl ⟨qs, hqs⟩
      · refine Or.inr ⟨e :: before, x, after, rfl, herror, ?_⟩
        rw [contains_insert, Bool.or_eq_true] at hx
        rcases hx with (hx | hx) | ⟨y, hy, hxy⟩
        · exact Or.inr ⟨e, List.mem_cons_self, of_decide_eq_true hx⟩
        · exact Or.inl hx
        · exact Or.inr ⟨y, List.mem_cons_of_mem e hy, hxy⟩

/-- A table that is accepted can be read and gives every parameter that is required. Each parameter has the value it is given. -/
theorem parse_eq_ok (h : parse specs raw = .ok ps) : Readable specs raw ∧
    (∀ s ∈ specs, s.required = true → ps.contains s.name = true) ∧ ∀ name, ps.get? name = given? specs raw name := by
  unfold parse at h
  split at h
  · cases h
  · rename_i qs hread
    split at h
    · cases h
    · rename_i hmissing
      cases h
      obtain ⟨hreadable, -, hget⟩ := readAll_eq_ok hread
      refine ⟨hreadable, ?_, fun name => (hget name).trans (Option.or_none)⟩
      intro s hs hr
      have hthere := List.find?_eq_none.1 hmissing s hs
      rw [hr, Bool.true_and] at hthere
      simpa using hthere

/-- A table that can be read and gives every parameter that is required is accepted. -/
theorem parse_of_readable (hr : Readable specs raw)
    (hrequired : ∀ s ∈ specs, s.required = true → (given? specs raw s.name).isSome = true) : ∃ ps, parse specs raw = .ok ps := by
  rcases readAll_cases hr.values [] with ⟨qs, hread⟩ | ⟨before, e, after, rfl, -, hclash⟩
  · obtain ⟨-, -, hget⟩ := readAll_eq_ok hread
    have hmissing : specs.find? (fun s => s.required && !qs.contains s.name) = none := by
      rw [List.find?_eq_none]
      intro s hs hm
      obtain ⟨hreq, habsent⟩ := Bool.and_eq_true_iff.1 hm
      have hgiven := hrequired s hs hreq
      rw [contains, hget] at habsent
      simp [hgiven, PluginParameters.get?] at habsent
    refine ⟨qs, ?_⟩
    rw [parse, hread]
    dsimp only
    rw [hmissing]
  · rcases hclash with hc | ⟨x, hx, hspelled⟩
    · cases hc
    · exact absurd hspelled ((List.pairwise_append.1 hr.once).2.2 x hx e List.mem_cons_self)

/-- What a table that can be read gives to a parameter is the value of an entry under some spelling of its name. -/
theorem Readable.given?_eq_some (hr : Readable specs raw) {v : ParameterValue} : given? specs raw name = some v ↔
    ∃ e ∈ raw, canonicalName e.1 = canonicalName name ∧ value? specs e = some v := by
  constructor
  · intro h
    obtain ⟨e, he, hv⟩ := Option.bind_eq_some_iff.1 h
    exact ⟨e, List.mem_of_find?_eq_some he,
      of_decide_eq_true (List.find?_some (p := fun x : String × Tree => decide (canonicalName x.1 = canonicalName name)) he), hv⟩
  · obtain ⟨-, honce⟩ := hr
    intro h
    induction raw with
    | nil => exact absurd h (by simp)
    | cons e rest ih =>
      obtain ⟨hfirst, hrest⟩ := List.pairwise_cons.1 honce
      rw [given?_cons]
      obtain ⟨x, hx, hspelled, hv⟩ := h
      rcases List.mem_cons.1 hx with rfl | hx
      · rw [if_pos hspelled, hv]
      · rw [if_neg fun he => hfirst x hx (he.trans hspelled.symm)]
        exact ih hrest ⟨x, hx, hspelled, hv⟩

/-! ## One layer over another -/

/-- Two tables give a parameter under different spellings. -/
def Respells (base overlay : ParameterTable) : Prop :=
  ∃ a ∈ base, ∃ b ∈ overlay, a.1 ≠ b.1 ∧ canonicalName a.1 = canonicalName b.1

variable {base overlay : ParameterTable}

/-- The entries of tables that can be read have values in the merged table as well. -/
theorem mem_merged (hb : base.Ascending) (ho : overlay.Ascending) (hr : Readable specs overlay) {e : String × Tree} :
    e ∈ Tree.mergeEntries base overlay ↔ e ∈ overlay ∨ (e ∈ base ∧ e.1 ∉ Table.keys overlay) :=
  Tree.mem_mergeEntries hb ho fun x hx => by
    obtain ⟨v, hv⟩ := Option.isSome_iff_exists.1 (hr.values x hx)
    obtain ⟨s, -, hv⟩ := Option.bind_eq_some_iff.1 hv
    exact ParameterKind.isObject_of_convert? (by rw [hv]; rfl)

theorem values_merged (hb : base.Ascending) (ho : overlay.Ascending) (hbase : Readable specs base) (hover : Readable specs overlay) :
    ∀ e ∈ Tree.mergeEntries base overlay, (value? specs e).isSome = true := by
  intro e he
  rcases (mem_merged hb ho hover).1 he with he | ⟨he, -⟩
  · exact hover.values e he
  · exact hbase.values e he

/-- Two entries of a table that can be read give different parameters. -/
theorem Readable.eq_of_spelled (hr : Readable specs raw) {x y : String × Tree} (hx : x ∈ raw) (hy : y ∈ raw)
    (hspelled : canonicalName x.1 = canonicalName y.1) : x = y := by
  have hsymm : Std.Symm fun a b : String × Tree => canonicalName a.1 ≠ canonicalName b.1 := ⟨fun _ _ h => h.symm⟩
  by_contra hne
  exact hr.once.forall hx hy hne hspelled

/-- Two entries of the merged table that give the same parameter stand in different layers. -/
theorem respells_of_clash (hb : base.Ascending) (ho : overlay.Ascending) (hbase : Readable specs base) (hover : Readable specs overlay)
    {x y : String × Tree} (hx : x ∈ Tree.mergeEntries base overlay) (hy : y ∈ Tree.mergeEntries base overlay) (hne : x.1 ≠ y.1)
    (hspelled : canonicalName x.1 = canonicalName y.1) : x ∈ base ∧ y ∈ overlay ∨ x ∈ overlay ∧ y ∈ base := by
  rcases (mem_merged hb ho hover).1 hx with hx | ⟨hx, -⟩ <;> rcases (mem_merged hb ho hover).1 hy with hy | ⟨hy, -⟩
  · exact absurd (congrArg Prod.fst (hover.eq_of_spelled hx hy hspelled)) hne
  · exact Or.inr ⟨hx, hy⟩
  · exact Or.inl ⟨hx, hy⟩
  · exact absurd (congrArg Prod.fst (hbase.eq_of_spelled hx hy hspelled)) hne

/-- Where no parameter is spelled differently, the merged table can be read, and gives each parameter the value that the overlay gives
it, or else the one that the base does. -/
theorem readable_merged (hb : base.Ascending) (ho : overlay.Ascending) (hbase : Readable specs base) (hover : Readable specs overlay)
    (hsame : ¬Respells base overlay) : Readable specs (Tree.mergeEntries base overlay) ∧
      ∀ name, given? specs (Tree.mergeEntries base overlay) name = (given? specs overlay name).or (given? specs base name) := by
  have hread : Readable specs (Tree.mergeEntries base overlay) := by
    refine ⟨values_merged hb ho hbase hover, (Tree.ascending_mergeEntries hb overlay).imp_of_mem ?_⟩
    intro x y hx hy hlt hspelled
    have hne : x.1 ≠ y.1 := fun he => String.lt_irrefl x.1 (by simpa only [← he] using hlt)
    rcases respells_of_clash hb ho hbase hover hx hy hne hspelled with ⟨hx, hy⟩ | ⟨hx, hy⟩
    · exact hsame ⟨x, hx, y, hy, hne, hspelled⟩
    · exact hsame ⟨y, hy, x, hx, hne.symm, hspelled.symm⟩
  refine ⟨hread, fun name => Option.ext fun v => ?_⟩
  rw [hread.given?_eq_some, Option.or_eq_some_iff, hover.given?_eq_some, hbase.given?_eq_some]
  constructor
  · rintro ⟨e, he, hspelled, hv⟩
    rcases (mem_merged hb ho hover).1 he with he | ⟨he, hkey⟩
    · exact Or.inl ⟨e, he, hspelled, hv⟩
    · refine Or.inr ⟨?_, e, he, hspelled, hv⟩
      -- If the overlay gave the parameter, it would spell it as the base does, and the entry of the base would be gone.
      rw [Option.eq_none_iff_forall_ne_some]
      intro w hw
      obtain ⟨x, hx, hspelled', -⟩ := hover.given?_eq_some.1 hw
      by_cases hne : e.1 = x.1
      · exact hkey (List.mem_map.2 ⟨x, hx, hne.symm⟩)
      · exact hsame ⟨e, he, x, hx, hne, hspelled.trans hspelled'.symm⟩
  · rintro (⟨e, he, hspelled, hv⟩ | ⟨hnone, e, he, hspelled, hv⟩)
    · exact ⟨e, (mem_merged hb ho hover).2 (Or.inl he), hspelled, hv⟩
    · refine ⟨e, (mem_merged hb ho hover).2 (Or.inr ⟨he, ?_⟩), hspelled, hv⟩
      intro hkey
      obtain ⟨x, hx, hxe⟩ := List.mem_map.1 hkey
      obtain ⟨w, hw⟩ := Option.isSome_iff_exists.1 (hover.values x hx)
      have hgiven := hover.given?_eq_some.2 ⟨x, hx, (congrArg canonicalName hxe).trans hspelled, hw⟩
      rw [hnone] at hgiven
      cases hgiven

/-- A table that is accepted, and one over it that can be read, are merged key by key. If no parameter is spelled differently in the two,
the merged table is accepted, and gives each parameter the value that the second gives it, or else the first. Otherwise it is refused,
for an entry of one of them whose parameter the other gives under another spelling. -/
theorem parse_merge (hb : base.Ascending) (ho : overlay.Ascending) (hp : parse specs base = .ok ps) (hr : Readable specs overlay) :
    ∃ merged, Tree.merge (.object base) (.object overlay) = .object merged ∧
      (¬Respells base overlay → ∃ qs, parse specs merged = .ok qs ∧
        ∀ name, qs.get? name = (given? specs overlay name).or (ps.get? name)) ∧
      (Respells base overlay → ∃ x y, parse specs merged = .error (.parameter y.1 .repeated) ∧ x.1 ≠ y.1 ∧
        canonicalName x.1 = canonicalName y.1 ∧ (x ∈ base ∧ y ∈ overlay ∨ x ∈ overlay ∧ y ∈ base)) := by
  obtain ⟨hbase, hrequired, hgets⟩ := parse_eq_ok hp
  refine ⟨Tree.mergeEntries base overlay, by rw [Tree.merge], ?_, ?_⟩
  · intro hsame
    obtain ⟨hread, hgiven⟩ := readable_merged hb ho hbase hr hsame
    obtain ⟨qs, hqs⟩ := parse_of_readable hread fun s hs hreq => by
      have hthere := hrequired s hs hreq
      rw [contains, hgets] at hthere
      rw [hgiven, Option.isSome_or, hthere, Bool.or_true]
    obtain ⟨-, -, hget⟩ := parse_eq_ok hqs
    exact ⟨qs, hqs, fun name => by rw [hget, hgiven, hgets]⟩
  · rintro ⟨a, ha, b, hb', hne, hspelled⟩
    have hclash : ¬Readable specs (Tree.mergeEntries base overlay) := by
      intro hread
      have ha' : a ∈ Tree.mergeEntries base overlay := by
        refine (mem_merged hb ho hr).2 (Or.inr ⟨ha, fun hkey => ?_⟩)
        obtain ⟨x, hx, hxa⟩ := List.mem_map.1 hkey
        have hxb := hr.eq_of_spelled hx hb' ((congrArg canonicalName hxa).trans hspelled)
        exact hne (hxa.symm.trans (congrArg Prod.fst hxb))
      have hab := hread.eq_of_spelled ha' ((mem_merged hb ho hr).2 (Or.inl hb')) hspelled
      exact hne (congrArg Prod.fst hab)
    rcases readAll_cases (values_merged hb ho hbase hr) [] with ⟨qs, hqs⟩ | ⟨before, y, after, hsplit, herror, hy⟩
    · exact absurd (readAll_eq_ok hqs).1 hclash
    · rcases hy with hy | ⟨x, hx, hxy⟩
      · cases hy
      · have hasc := Tree.ascending_mergeEntries hb overlay
        have hmx : x ∈ Tree.mergeEntries base overlay := by
          rw [hsplit]
          exact List.mem_append_left _ hx
        have hmy : y ∈ Tree.mergeEntries base overlay := by
          rw [hsplit]
          exact List.mem_append_right _ List.mem_cons_self
        have hlt : x.1 < y.1 := by
          rw [hsplit] at hasc
          exact (List.pairwise_append.1 hasc).2.2 x hx y List.mem_cons_self
        have hne' : x.1 ≠ y.1 := fun he => String.lt_irrefl x.1 (by simpa only [← he] using hlt)
        refine ⟨x, y, ?_, hne', hxy, respells_of_clash hb ho hbase hr hmx hmy hne' hxy⟩
        rw [parse, herror]

/-- Connections are logged or not, under one spelling of the parameter or the other. -/
def hyphenated (on : Bool) : ParameterTable := [("log-connections", .bool on)]

def underscored (on : Bool) : ParameterTable := [("log_connections", .bool on)]

theorem readable_singleton {e : String × Tree} (h : (value? specs e).isSome = true) : Readable specs [e] :=
  ⟨List.forall_mem_singleton.2 h, List.pairwise_singleton _ _⟩

/-- Connections are to be logged, and then not, in the same spelling. Under any spelling it is found that they are not. -/
theorem parse_merge_alike : ∃ merged qs, Tree.merge (.object (hyphenated true)) (.object (hyphenated false)) = .object merged ∧
    parse Logging.parameters merged = .ok qs ∧ qs.get? "log_connections" = some (.boolean false) := by
  have hsame : ¬Respells (hyphenated true) (hyphenated false) := by
    rintro ⟨a, ha, b, hb, hne, -⟩
    rw [hyphenated, List.mem_singleton] at ha hb
    exact hne (by rw [ha, hb])
  obtain ⟨ps, hp⟩ : ∃ ps, parse Logging.parameters (hyphenated true) = .ok ps := ⟨_, rfl⟩
  obtain ⟨merged, hmerged, haccepted, -⟩ := parse_merge (List.pairwise_singleton _ _) (List.pairwise_singleton _ _) hp
    (readable_singleton (e := ("log-connections", .bool false)) rfl)
  obtain ⟨qs, hqs, hget⟩ := haccepted hsame
  exact ⟨merged, qs, hmerged, hqs, (hget _).trans rfl⟩

/-- Connections are to be logged, and then not, in another spelling. Both tables can be read, and the merged one is refused. -/
theorem parse_merge_respelled : ∃ ps merged, parse Logging.parameters (hyphenated true) = .ok ps ∧
    Readable Logging.parameters (underscored false) ∧
    Tree.merge (.object (hyphenated true)) (.object (underscored false)) = .object merged ∧
    parse Logging.parameters merged = .error (.parameter "log_connections" .repeated) :=
  ⟨_, _, rfl, readable_singleton rfl, rfl, rfl⟩

end PluginParameters
end CoEdit
