import CoEdit.Proofs.Latest
import CoEdit.Proofs.Tree.Settled
import Mathlib.Data.List.Induction

/-!
# Layers of configuration

What stands at a path of a tree that was put together from layers. A layer overrides a path if it has anything at it, or something other
than an object above it; it replaces what stands there if it has something other than an object at the path or above it. One layer more
leaves the paths alone that it does not override (`Tree.at?_merge_of_not_overrides`), decides alone on those it replaces
(`Tree.at?_merge_of_replaces`) and is merged with what stood there otherwise (`Tree.at?_merge_of_some`).

By induction on the layers, from the last one, the last layer that has something at a path decides (`Tree.layered_law`). The layers are
settled, as the trees of all documents are, so the law holds of every configuration that is read from several files
(`Config.ofFiles_eq_ok`).
-/

namespace CoEdit

namespace Table

variable {κ ν : Type} [DecidableEq κ] [LT κ]

/-- An entry of a table is what is found under its key. -/
theorem Ascending.mem_iff [Std.Irrefl fun a b : κ => a < b] {t : Table κ ν} (h : t.Ascending) {e : κ × ν} :
    e ∈ t ↔ get? e.1 t = some e.2 := by
  refine ⟨?_, mem_of_get?⟩
  intro he
  induction t with
  | nil => cases he
  | cons f rest ih =>
    obtain ⟨hfirst, hrest⟩ := List.pairwise_cons.1 h
    rw [get?]
    rcases List.mem_cons.1 he with rfl | he
    · exact if_pos rfl
    · rw [if_neg fun hk => Std.Irrefl.irrefl e.1 (by simpa only [hk] using hfirst e he)]
      exact ih hrest he

/-- A key that comes before those of all entries is not found. -/
theorem get?_eq_none_of_lt [Std.Irrefl fun a b : κ => a < b] {t : Table κ ν} {k : κ} (h : ∀ e ∈ t, k < e.1) : get? k t = none := by
  rw [← Option.not_isSome_iff_eq_none, get?_isSome_iff]
  intro hk
  obtain ⟨e, he, rfl⟩ := List.mem_map.1 hk
  exact Std.Irrefl.irrefl e.1 (h e he)

/-- Tables with the same values under the same keys are the same. -/
theorem Ascending.ext [Std.Asymm fun a b : κ => a < b] {t u : Table κ ν} (ht : t.Ascending) (hu : u.Ascending)
    (h : ∀ k, get? k t = get? k u) : t = u := by
  have hnodup : ∀ {t : Table κ ν}, t.Ascending → t.Nodup := by
    intro t ht
    refine ht.imp ?_
    rintro a b hlt rfl
    exact Std.Asymm.asymm _ _ hlt hlt
  have hperm : t.Perm u := (List.perm_ext_iff_of_nodup (hnodup ht) (hnodup hu)).2 fun e => by rw [ht.mem_iff, hu.mem_iff, h]
  exact hperm.eq_of_pairwise (fun a b _ _ hab hba => absurd hba (Std.Asymm.asymm _ _ hab)) ht hu

end Table

namespace Tree

variable {b o c : Tree} {k : String} {p : List String}

/-! ## Paths that a layer decides on -/

/-- A layer has something other than an object at a path or above it. -/
def Replaces (t : Tree) (p : List String) : Prop := ∃ q, q <+: p ∧ ∃ v, t.at? q = some v ∧ v.isObject = false

/-- A layer has anything at a path, or something other than an object above it. -/
def Overrides (t : Tree) (p : List String) : Prop :=
  (t.at? p).isSome ∨ ∃ q, q <+: p ∧ q ≠ p ∧ ∃ v, t.at? q = some v ∧ v.isObject = false

/-- Only objects have anything below them. -/
theorem isObject_of_child? (h : o.child? k = some c) : o.isObject = true := by
  cases o with
  | object => rfl
  | _ => cases h

theorem at?_cons (t : Tree) (k : String) (rest : List String) : t.at? (k :: rest) = (t.child? k).bind fun c => c.at? rest := rfl

/-- A layer that overrides a path has an object there, or replaces what stands there. -/
theorem Overrides.cases (h : o.Overrides p) : (∃ v, o.at? p = some v ∧ v.isObject = true) ∨ o.Replaces p := by
  rcases h with h | ⟨q, hq, -, hv⟩
  · obtain ⟨v, hv⟩ := Option.isSome_iff_exists.1 h
    cases ho : v.isObject with
    | true => exact Or.inl ⟨v, hv, ho⟩
    | false => exact Or.inr ⟨p, List.prefix_refl p, v, hv, ho⟩
  · exact Or.inr ⟨q, hq, hv⟩

theorem replaces_nil : o.Replaces [] ↔ o.isObject = false := by
  constructor
  · rintro ⟨q, hq, v, hv, ho⟩
    cases List.prefix_nil.1 hq
    cases hv
    exact ho
  · exact fun ho => ⟨[], List.prefix_refl _, o, rfl, ho⟩

theorem replaces_cons {rest : List String} :
    o.Replaces (k :: rest) ↔ o.isObject = false ∨ ∃ c, o.child? k = some c ∧ c.Replaces rest := by
  constructor
  · rintro ⟨q, hq, v, hv, ho⟩
    cases q with
    | nil =>
      cases hv
      exact Or.inl ho
    | cons l q =>
      obtain ⟨rfl, hrest⟩ := List.cons_prefix_cons.1 hq
      obtain ⟨c, hc, hv⟩ := Option.bind_eq_some_iff.1 hv
      exact Or.inr ⟨c, hc, q, hrest, v, hv, ho⟩
  · rintro (ho | ⟨c, hc, q, hq, v, hv, ho⟩)
    · exact ⟨[], List.nil_prefix, o, rfl, ho⟩
    · exact ⟨k :: q, List.cons_prefix_cons.2 ⟨rfl, hq⟩, v, by rw [at?_cons, hc, Option.bind_some, hv], ho⟩

/-- What a layer does not override below a key, it does not override below what stands under the key. -/
theorem not_overrides_cons {rest : List String} (h : ¬o.Overrides (k :: rest)) :
    o.isObject = true ∧ ∀ c, o.child? k = some c → ¬c.Overrides rest := by
  refine ⟨?_, ?_⟩
  · rw [← Bool.not_eq_false]
    exact fun ho => h (Or.inr ⟨[], List.nil_prefix, (List.cons_ne_nil _ _).symm, o, rfl, ho⟩)
  · rintro c hc (hv | ⟨q, hq, hne, v, hv, ho⟩)
    · exact h (Or.inl (by rwa [at?_cons, hc, Option.bind_some]))
    · refine h (Or.inr ⟨k :: q, List.cons_prefix_cons.2 ⟨rfl, hq⟩, fun he => hne (List.cons.inj he).2, v, ?_, ho⟩)
      rw [at?_cons, hc, Option.bind_some, hv]

/-! ## One layer more -/

/-- A tree over what stood in its place, if anything did. -/
def overlaid (old : Option Tree) (t : Tree) : Tree :=
  match old with
  | some old => merge old t
  | none => t

theorem overlaid_of_not_object (old : Option Tree) (h : o.isObject = false) : overlaid old o = o := by
  cases old with
  | none => rfl
  | some old => exact merge_of_not_object (Or.inr h)

theorem isObject_overlaid (old : Option Tree) (h : o.isObject = true) : (overlaid old o).isObject = true := by
  cases old with
  | none => exact h
  | some old => cases old <;> cases o <;> first | rfl | cases h

theorem get?_mergeEntries {overlay : Table String Tree} (ho : overlay.Ascending) (base : Table String Tree) (k : String) :
    Table.get? k (mergeEntries base overlay) =
      match Table.get? k overlay with
      | some v => some (overlaid (Table.get? k base) v)
      | none => Table.get? k base := by
  induction overlay generalizing base with
  | nil => rw [mergeEntries, Table.get?_nil]
  | cons e rest ih =>
    obtain ⟨hfirst, hrest⟩ := List.pairwise_cons.1 ho
    rw [mergeEntries, ih hrest, Table.get?_insert, Table.get?]
    by_cases he : e.1 = k
    · -- No later entry has the key, so what was merged under it stays.
      have hnone : Table.get? k rest = none := Table.get?_eq_none_of_lt fun x hx => he ▸ hfirst x hx
      rw [hnone, if_pos he, if_pos he, he]
      rfl
    · rw [if_neg he, if_neg he]

theorem ascending_mergeEntries {base : Table String Tree} (hb : base.Ascending) (overlay : Table String Tree) :
    Table.Ascending (mergeEntries base overlay) := by
  induction overlay generalizing base with
  | nil => exact hb
  | cons e rest ih => exact ih (hb.insert _ _)

/-- A settled tree is all there is over an empty object. -/
theorem merge_empty (h : o.IsSettled) : merge (.object []) o = o := by
  cases h with
  | @object es hes _ =>
    refine congrArg object (Table.Ascending.ext (ascending_mergeEntries .nil es) hes fun k => ?_)
    rw [get?_mergeEntries hes]
    cases hk : Table.get? k es <;> rfl
  | _ => rfl

/-- Below a layer that is an object stands what it has there, over what stood there before. -/
theorem child?_merge (hs : o.IsSettled) (ho : o.isObject = true) (b : Tree) (k : String) :
    (merge b o).child? k =
      match o.child? k with
      | some v => some (overlaid (b.child? k) v)
      | none => b.child? k := by
  cases hs with
  | object ht _ =>
    cases b with
    | object base => exact get?_mergeEntries ht base k
    | _ =>
      rw [merge_of_not_object (Or.inl rfl)]
      cases hc : child? (.object _) k <;> rfl
  | _ => cases ho

/-- A layer leaves alone what it does not override. -/
theorem at?_merge_of_not_overrides (hs : o.IsSettled) (h : ¬o.Overrides p) (b : Tree) : (merge b o).at? p = b.at? p := by
  induction p generalizing b o with
  | nil => exact absurd (Or.inl rfl) h
  | cons k rest ih =>
    obtain ⟨ho, hbelow⟩ := not_overrides_cons h
    rw [at?_cons, at?_cons, child?_merge hs ho]
    cases hc : o.child? k with
    | none => rfl
    | some c =>
      cases hb : b.child? k with
      | none =>
        have hnone : c.at? rest = none := by
          rw [← Option.not_isSome_iff_eq_none]
          exact fun hv => hbelow c hc (Or.inl hv)
        exact hnone
      | some old => exact ih (hs.child? hc) (hbelow c hc) old

/-- A layer decides alone on what it replaces. -/
theorem at?_merge_of_replaces (hs : o.IsSettled) (h : o.Replaces p) (b : Tree) : (merge b o).at? p = o.at? p := by
  induction p generalizing b o with
  | nil => rw [merge_of_not_object (Or.inr (replaces_nil.1 h))]
  | cons k rest ih =>
    rcases replaces_cons.1 h with ho | ⟨c, hc, hr⟩
    · rw [merge_of_not_object (Or.inr ho)]
    · rw [at?_cons, at?_cons, child?_merge hs (isObject_of_child? hc), hc]
      cases b.child? k with
      | none => rfl
      | some old => exact ih (hs.child? hc) hr old

/-- What a layer has at a path is put over what stood there. -/
theorem at?_merge_of_some {v : Tree} (hs : o.IsSettled) (h : o.at? p = some v) (b : Tree) :
    (merge b o).at? p = some (overlaid (b.at? p) v) := by
  induction p generalizing b o with
  | nil =>
    cases h
    rfl
  | cons k rest ih =>
    obtain ⟨c, hc, hv⟩ := Option.bind_eq_some_iff.1 h
    rw [at?_cons, at?_cons, child?_merge hs (isObject_of_child? hc), hc]
    cases b.child? k with
    | none => exact hv
    | some old => exact ih (hs.child? hc) hv old

/-- After one layer more, something other than an object stands at a path if the layer has it there, or if it stood there before and the
layer does not override the path. -/
theorem at?_merge_eq_some {v : Tree} (hs : o.IsSettled) (hv : v.isObject = false) (b : Tree) (p : List String) :
    (merge b o).at? p = some v ↔ o.at? p = some v ∨ (b.at? p = some v ∧ ¬o.Overrides p) := by
  by_cases h : o.Overrides p
  · rcases h.cases with ⟨w, hw, hobj⟩ | hr
    · -- The layer has an object there, which stays one whatever it is put over.
      rw [at?_merge_of_some hs hw, hw, Option.some.injEq, Option.some.injEq]
      constructor
      · intro he
        exact absurd (he ▸ isObject_overlaid (b.at? p) hobj) (by simp [hv])
      · rintro (rfl | ⟨-, hn⟩)
        · exact absurd hobj (by simp [hv])
        · exact absurd h hn
    · rw [at?_merge_of_replaces hs hr]
      exact ⟨Or.inl, fun h' => h'.resolve_right fun hn => hn.2 h⟩
  · rw [at?_merge_of_not_overrides hs h]
    exact ⟨fun hb => Or.inr ⟨hb, h⟩, fun h' => (h'.resolve_left fun ho => h (Or.inl (ho ▸ rfl))).1⟩

/-- A tree has an object at a path. -/
def HasObject (t : Tree) (p : List String) : Prop := ∃ v, t.at? p = some v ∧ v.isObject = true

/-- After one layer more, an object stands at a path if the layer has one there, or if one stood there before and the layer does not
replace it. -/
theorem hasObject_merge (hs : o.IsSettled) (b : Tree) (p : List String) :
    (merge b o).HasObject p ↔ o.HasObject p ∨ (b.HasObject p ∧ ¬o.Replaces p) := by
  by_cases hr : o.Replaces p
  · rw [HasObject, at?_merge_of_replaces hs hr]
    exact ⟨Or.inl, fun h => h.resolve_right fun hn => hn.2 hr⟩
  · by_cases h : o.Overrides p
    · obtain ⟨w, hw, hobj⟩ := h.cases.resolve_right hr
      exact ⟨fun _ => Or.inl ⟨w, hw, hobj⟩, fun _ => ⟨_, at?_merge_of_some hs hw b, isObject_overlaid _ hobj⟩⟩
    · rw [HasObject, at?_merge_of_not_overrides hs h]
      exact ⟨fun hb => Or.inr ⟨hb, hr⟩, fun h' => (h'.resolve_left fun ⟨w, hw, _⟩ => h (Or.inl (hw ▸ rfl))).1⟩

/-! ## Any number of layers -/

theorem layered_concat (layers : List Tree) (u : Tree) : layered (layers ++ [u]) = merge (layered layers) u := by
  rw [layered, List.foldl_append]
  rfl

/-- Something other than an object stands at a path of the layered tree if the last layer that overrides the path has it there. -/
theorem layered_at?_eq_some {layers : List Tree} (hs : ∀ t ∈ layers, t.IsSettled) {v : Tree} (hv : v.isObject = false)
    (p : List String) : (layered layers).at? p = some v ↔ LastIn layers (fun t => t.at? p = some v) fun t => t.Overrides p := by
  induction layers using List.reverseRecOn with
  | nil =>
    refine iff_of_false ?_ (LastIn.not_nil _ _)
    intro h
    cases p with
    | nil =>
      cases h
      cases hv
    | cons k rest => cases h
  | append_singleton layers u ih =>
    rw [layered_concat, at?_merge_eq_some (hs u (by simp)) hv, LastIn.append_iff, LastIn.singleton_iff, List.forall_mem_singleton,
      ih fun t ht => hs t (List.mem_append_left _ ht)]

theorem hasObject_empty : HasObject (.object []) p ↔ p = [] := by
  cases p with
  | nil => exact iff_of_true ⟨_, rfl, rfl⟩ rfl
  | cons k rest => exact iff_of_false (fun ⟨_, h, _⟩ => nomatch h) (List.cons_ne_nil _ _)

/-- An object stands at a path of the layered tree if some layer has one there, or the empty object does, and no later one replaces it. -/
theorem hasObject_foldl {layers : List Tree} (hs : ∀ t ∈ layers, t.IsSettled) (p : List String) :
    (layered layers).HasObject p ↔ LastIn (.object [] :: layers) (fun t => t.HasObject p) fun t => t.Replaces p := by
  induction layers using List.reverseRecOn with
  | nil =>
    rw [LastIn.singleton_iff]
    rfl
  | append_singleton layers u ih =>
    rw [layered_concat, hasObject_merge (hs u (by simp)), ← List.cons_append, LastIn.append_iff, LastIn.singleton_iff,
      List.forall_mem_singleton, ih fun t ht => hs t (List.mem_append_left _ ht)]

/-- An object stands at a path of the layered tree if some layer has one there and no later one replaces it. -/
theorem hasObject_layered {layers : List Tree} (hl : layers ≠ []) (hs : ∀ t ∈ layers, t.IsSettled) (p : List String) :
    (layered layers).HasObject p ↔ LastIn layers (fun t => t.HasObject p) fun t => t.Replaces p := by
  rw [hasObject_foldl hs, LastIn.cons_iff, or_iff_left_of_imp]
  -- Where only the empty object is left the path is empty and no layer is anything but an object, so the first one will do.
  rintro ⟨hp, hlayers⟩
  obtain ⟨t, rest, rfl⟩ := List.exists_cons_of_ne_nil hl
  obtain rfl := hasObject_empty.1 hp
  refine (LastIn.cons_iff _ _ _ _).2 (Or.inr ⟨⟨t, rfl, ?_⟩, fun u hu => hlayers u (List.mem_cons_of_mem _ hu)⟩)
  rw [← Bool.not_eq_false, ← replaces_nil]
  exact hlayers t List.mem_cons_self

/-- The law of layers. Something other than an object stands at a path if some layer has it there and no later layer has anything at the
path, or something other than an object above it. An object stands at a path if some layer has one there and no later layer has something
other than an object at the path or above it. The last layer leaves all paths alone that it does not override, and what it has that is not
an object, such as an array, stands as it is. -/
theorem layered_law {layers : List Tree} (hl : layers ≠ []) (hs : ∀ t ∈ layers, t.IsSettled) (p : List String) :
    (∀ v, v.isObject = false →
      ((layered layers).at? p = some v ↔ LastIn layers (fun t => t.at? p = some v) fun t => t.Overrides p)) ∧
    ((layered layers).HasObject p ↔ LastIn layers (fun t => t.HasObject p) fun t => t.Replaces p) ∧
    ∀ earlier last, layers = earlier ++ [last] →
      (¬last.Overrides p → (layered layers).at? p = (layered earlier).at? p) ∧
      ∀ v, last.at? p = some v → v.isObject = false → (layered layers).at? p = some v := by
  refine ⟨fun v hv => layered_at?_eq_some hs hv p, hasObject_layered hl hs p, ?_⟩
  rintro earlier last rfl
  have hlast := hs last (by simp)
  rw [layered_concat]
  refine ⟨fun h => at?_merge_of_not_overrides hlast h _, ?_⟩
  intro v hv ho
  rw [at?_merge_of_some hlast hv, overlaid_of_not_object _ ho]

/-- Layers that disagree on what is a table: the second has a text in place of the server of the first, the third a table again. -/
def disagreeing : List Tree :=
  [ofEntries [("load", .array [.string "logging", .string "autosave"]), ("server", ofEntries [("port", ofNat 1)])],
    ofEntries [("server", .string "none")],
    ofEntries [("load", .array [.string "logging"]), ("server", ofEntries [("host", .string "here")])]]

/-- The text of the second layer is gone, and so is what the first had in the table; the list of the third stands as a whole. -/
theorem layered_law_disagreeing :
    disagreeing ≠ [] ∧ (∀ t ∈ disagreeing, t.IsSettled) ∧ (layered disagreeing).HasObject ["server"] ∧
      (layered disagreeing).at? ["server", "port"] = none ∧
      (layered disagreeing).at? ["server", "host"] = some (.string "here") ∧
      (layered disagreeing).at? ["load"] = some (.array [.string "logging"]) := by
  have hl : disagreeing ≠ [] := List.cons_ne_nil _ _
  have hs : ∀ t ∈ disagreeing, t.IsSettled := by
    have hsettled : disagreeing = settledItems disagreeing := rfl
    rw [hsettled]
    exact isSettled_settledItems disagreeing
  have hlast := (List.dropLast_concat_getLast hl).symm
  refine ⟨hl, hs, ?_, rfl, ?_, ?_⟩
  · refine (layered_law hl hs ["server"]).2.1.2 ⟨_, _, [], hlast, ⟨ofEntries [("host", .string "here")], rfl, rfl⟩, ?_⟩
    exact fun _ hu => absurd hu List.not_mem_nil
  · exact ((layered_law hl hs ["server", "host"]).2.2 _ _ hlast).2 (.string "here") rfl rfl
  · exact ((layered_law hl hs ["load"]).2.2 _ _ hlast).2 (.array [.string "logging"]) rfl rfl

end Tree

/-! ## Configurations of several files -/

namespace Config

theorem isSettled_mapM {env : Environment} {d : Disk} {files : List Path} {layers : List Tree}
    (h : files.mapM (treeOfFile env d) = .ok layers) : layers.length = files.length ∧ ∀ t ∈ layers, t.IsSettled := by
  induction files generalizing layers with
  | nil =>
    cases h
    exact ⟨rfl, fun _ ht => absurd ht List.not_mem_nil⟩
  | cons file files ih =>
    rw [List.mapM_cons] at h
    cases ht : treeOfFile env d file with
    | error e =>
      rw [ht] at h
      cases h
    | ok t =>
      cases hrest : files.mapM (treeOfFile env d) with
      | error e =>
        rw [ht, hrest] at h
        cases h
      | ok rest =>
        rw [ht, hrest] at h
        cases h
        obtain ⟨hlen, hall⟩ := ih hrest
        exact ⟨congrArg Nat.succ hlen, List.forall_mem_cons.2 ⟨isSettled_treeOfFile ht, hall⟩⟩

/-- The configuration of several files is the one of their trees as layers, to which the law of layers applies. -/
theorem ofFiles_eq_ok {env : Environment} {d : Disk} {files : List Path} {c : Config} (h : ofFiles env d files = .ok c) :
    ∃ layers, files.mapM (treeOfFile env d) = .ok layers ∧ layers ≠ [] ∧ (∀ t ∈ layers, t.IsSettled) ∧
      decode (Tree.layered layers) = .ok c := by
  unfold ofFiles at h
  split at h
  · cases h
  · next hfiles =>
    cases hm : files.mapM (treeOfFile env d) with
    | error e =>
      rw [hm] at h
      cases h
    | ok layers =>
      rw [hm] at h
      obtain ⟨hlen, hall⟩ := isSettled_mapM hm
      refine ⟨layers, rfl, ?_, hall, h⟩
      rw [← List.length_pos_iff, hlen, List.length_pos_iff]
      exact hfiles

end Config

end CoEdit
