import CoEdit.Config.Source

/-!
# Trees of documents

In the tree of a document the entries of every object are a table, so each key stands once. `Tree.IsSettled` says so, and
`DocumentFormat.isSettled_parse` that it holds of documents of every format: JSON documents are settled after they are read, tables of
the other formats are put together entry by entry. What a reader takes is followed through its parts by `Takes`.
-/

namespace CoEdit

namespace Tree

/-- The entries of every object in a tree are a table. -/
inductive IsSettled : Tree → Prop
  | null : IsSettled .null
  | bool (b : Bool) : IsSettled (.bool b)
  | number (n : Number) : IsSettled (.number n)
  | string (s : String) : IsSettled (.string s)
  | array {items : List Tree} (h : ∀ t ∈ items, t.IsSettled) : IsSettled (.array items)
  | object {es : Table String Tree} (ht : es.Ascending) (h : ∀ e ∈ es, e.2.IsSettled) : IsSettled (.object es)

theorem IsSettled.child? {t c : Tree} {k : String} (hs : t.IsSettled) (hc : t.child? k = some c) : c.IsSettled := by
  cases hs with
  | object _ h => exact h (k, c) (Table.mem_of_get? hc)
  | _ => cases hc

theorem isSettled_empty : IsSettled (.object []) := .object List.Pairwise.nil fun _ he => absurd he List.not_mem_nil

theorem IsSettled.insert {es : Table String Tree} (hs : IsSettled (.object es)) (k : String) {t : Tree} (ht : t.IsSettled) :
    IsSettled (.object (Table.insert k t es)) := by
  cases hs with
  | object ho h =>
    refine .object (ho.insert k t) ?_
    intro e he
    rcases Table.mem_insert he with rfl | he
    · exact ht
    · exact h e he

theorem isSettled_ofEntries {es : List (String × Tree)} (h : ∀ e ∈ es, e.2.IsSettled) : (ofEntries es).IsSettled :=
  List.foldlRecOn es _ (motive := fun t => IsSettled (.object t)) isSettled_empty fun _ ht e he => ht.insert e.1 (h e he)

theorem isSettled_ofDouble (d : Double) : (ofDouble d).IsSettled := by
  unfold ofDouble
  split
  · exact .number _
  · exact .null

/-! ## Settled trees -/

mutual

theorem isSettled_settled (t : Tree) : t.settled.IsSettled :=
  match t with
  | .null => .null
  | .bool b => .bool b
  | .number n => .number n
  | .string s => .string s
  | .array items => .array (isSettled_settledItems items)
  | .object es => isSettled_settledEntries isSettled_empty es

theorem isSettled_settledItems (items : List Tree) : ∀ t ∈ settledItems items, t.IsSettled :=
  match items with
  | [] => fun _ ht => absurd ht List.not_mem_nil
  | t :: rest => List.forall_mem_cons.2 ⟨isSettled_settled t, isSettled_settledItems rest⟩

theorem isSettled_settledEntries {built : Table String Tree} (hb : IsSettled (.object built)) (es : List (String × Tree)) :
    IsSettled (.object (settledEntries built es)) :=
  match es with
  | [] => hb
  | (k, t) :: rest => isSettled_settledEntries (hb.insert k (isSettled_settled t)) rest

end

end Tree

/-! ## What readers take -/

/-- What a reader takes satisfies a condition. -/
def Takes {σ α : Type} (r : StateT σ Option α) (P : α → Prop) : Prop := ∀ s a s', r s = some (a, s') → P a

section Takes

variable {σ α β : Type} {P : α → Prop} {Q : β → Prop}

theorem Takes.pure {a : α} (h : P a) : Takes (Pure.pure a : StateT σ Option α) P := by
  intro s b s' hb
  cases hb
  exact h

theorem Takes.fail {r : StateT σ Option α} (hr : ∀ s, r s = none) : Takes r P := fun s _ _ h => by
  rw [hr] at h
  cases h

/-- A condition that follows from what is taken before, and from it only. -/
theorem Takes.bind {r : StateT σ Option α} {f : α → StateT σ Option β} (hr : Takes r P) (hf : ∀ a, P a → Takes (f a) Q) :
    Takes (r >>= f) Q := by
  intro s b s' hb
  obtain ⟨⟨a, s₁⟩, ha, hb⟩ := Option.bind_eq_some_iff.1 hb
  exact hf a (hr s a s₁ ha) s₁ b s' hb

/-- A condition that holds whatever is taken before. -/
theorem Takes.after (r : StateT σ Option α) {f : α → StateT σ Option β} (hf : ∀ a, Takes (f a) Q) : Takes (r >>= f) Q :=
  Takes.bind (P := fun _ => True) (fun _ _ _ _ => trivial) fun a _ => hf a

theorem Takes.lift {o : Option α} (h : ∀ a, o = some a → P a) : Takes (liftM o : StateT σ Option α) P := by
  intro s a s' ha
  obtain ⟨b, hb, he⟩ := Option.bind_eq_some_iff.1 ha
  cases he
  exact h a hb

theorem Takes.mapM {l : List β} {f : β → StateT σ Option α} (h : ∀ b ∈ l, Takes (f b) P) : Takes (l.mapM f) fun as => ∀ a ∈ as, P a := by
  induction l with
  | nil => exact .pure fun _ ha => absurd ha List.not_mem_nil
  | cons b l ih =>
    rw [List.mapM_cons]
    refine (h b List.mem_cons_self).bind fun a ha => ?_
    refine (ih fun c hc => h c (List.mem_cons_of_mem _ hc)).bind fun as has => ?_
    exact .pure (List.forall_mem_cons.2 ⟨ha, has⟩)

end Takes

/-! ## TOML -/

namespace Toml

/-- Every value in an item is settled. -/
inductive Item.IsSettled : Item → Prop
  | value {t : Tree} (h : t.IsSettled) : IsSettled (.value t)
  | table {origin : TableOrigin} {es : Entries} (h : ∀ e ∈ es, e.2.IsSettled) : IsSettled (.table origin es)
  | tables {elements : List Entries} (h : ∀ es ∈ elements, ∀ e ∈ es, e.2.IsSettled) : IsSettled (.tables elements)

/-- Every value in the entries of a table is settled. -/
def Entries.AreSettled (es : Entries) : Prop := ∀ e ∈ es, e.2.IsSettled

theorem entriesToTrees_eq (es : Entries) : entriesToTrees es = es.map fun e => (e.1, e.2.toTree) := by
  induction es with
  | nil => rfl
  | cons e rest ih => rw [entriesToTrees, ih, List.map_cons]

theorem elementsToTrees_eq (elements : List Entries) :
    elementsToTrees elements = elements.map fun es => .ofEntries (entriesToTrees es) := by
  induction elements with
  | nil => rfl
  | cons es rest ih => rw [elementsToTrees, ih, List.map_cons]

theorem isSettled_entriesToTrees {es : Entries} (h : ∀ e ∈ es, e.2.toTree.IsSettled) : (Tree.ofEntries (entriesToTrees es)).IsSettled := by
  refine Tree.isSettled_ofEntries ?_
  rw [entriesToTrees_eq]
  exact List.forall_mem_map.2 h

theorem Item.IsSettled.toTree {i : Item} (h : i.IsSettled) : i.toTree.IsSettled := by
  induction h with
  | value h => exact h
  | table _ ih => exact isSettled_entriesToTrees ih
  | tables _ ih =>
    refine .array ?_
    rw [elementsToTrees_eq]
    intro t ht
    obtain ⟨es, hes, rfl⟩ := List.mem_map.1 (List.mem_reverse.1 ht)
    exact isSettled_entriesToTrees (ih es hes)

theorem Entries.AreSettled.toTree {es : Entries} (h : es.AreSettled) : (Tree.ofEntries (entriesToTrees es)).IsSettled :=
  isSettled_entriesToTrees fun e he => (h e he).toTree

namespace Entries

variable {es es' : Entries} {k : String} {i : Item} {f : TableOrigin → Entries → Option Entries}

theorem areSettled_nil : AreSettled [] := fun _ he => absurd he List.not_mem_nil

theorem AreSettled.lookup (h : es.AreSettled) (hi : es.lookup k = some i) : i.IsSettled := by
  obtain ⟨before, after, rfl, -⟩ := List.lookup_eq_some_iff.1 hi
  exact h (k, i) (by simp)

theorem AreSettled.put (h : es.AreSettled) (hi : i.IsSettled) : (es.put k i).AreSettled := by
  induction es with
  | nil => exact List.forall_mem_singleton.2 hi
  | cons e rest ih =>
    obtain ⟨he, hrest⟩ := List.forall_mem_cons.1 h
    unfold Entries.put
    split
    · exact List.forall_mem_cons.2 ⟨hi, hrest⟩
    · exact List.forall_mem_cons.2 ⟨he, ih hrest⟩

/-- A change to a table keeps its values settled. -/
def Keeps (f : TableOrigin → Entries → Option Entries) : Prop :=
  ∀ origin es es', es.AreSettled → f origin es = some es' → es'.AreSettled

theorem Keeps.within (hf : Keeps f) (made : TableOrigin) (path : List String) : Keeps (within made f path) := by
  induction path with
  | nil => exact hf
  | cons k rest ih =>
    intro origin es es' hes h
    unfold Entries.within at h
    split at h
    · obtain ⟨inner, hinner, rfl⟩ := Option.map_eq_some_iff.1 h
      exact hes.put (.table (ih _ _ _ areSettled_nil hinner))
    · cases h
    · next origin' inner hi =>
      split at h
      · cases h
      · obtain ⟨inner', hinner, rfl⟩ := Option.map_eq_some_iff.1 h
        cases hes.lookup hi with
        | table hold => exact hes.put (.table (ih _ _ _ hold hinner))
    · cases h
    · next last before hi =>
      obtain ⟨last', hlast, rfl⟩ := Option.map_eq_some_iff.1 h
      cases hes.lookup hi with
      | tables hold =>
        obtain ⟨hl, hbefore⟩ := List.forall_mem_cons.1 hold
        exact hes.put (.tables (List.forall_mem_cons.2 ⟨ih _ _ _ hl hlast, hbefore⟩))

theorem keeps_assign {t : Tree} (ht : t.IsSettled) (path : List String) (k : String) :
    Keeps fun origin es => es.assign path k t origin := by
  refine Keeps.within ?_ .dotted path
  intro origin es es' hes h
  unfold define at h
  split at h
  · cases h
  · split at h
    · cases h
    · cases h
      exact hes.put (.value ht)

theorem keeps_declare (k : String) : Keeps (declare k) := by
  intro origin es es' hes h
  unfold declare at h
  split at h
  · cases h
    exact hes.put (.table areSettled_nil)
  · next inner hi =>
    cases h
    cases hes.lookup hi with
    | table hold => exact hes.put (.table hold)
  · cases h

theorem keeps_declareNext (k : String) : Keeps (declareNext k) := by
  intro origin es es' hes h
  unfold declareNext at h
  split at h
  · cases h
    exact hes.put (.tables (List.forall_mem_singleton.2 areSettled_nil))
  · next elements hi =>
    cases h
    cases hes.lookup hi with
    | tables hold => exact hes.put (.tables (List.forall_mem_cons.2 ⟨areSettled_nil, hold⟩))
  · cases h

end Entries

open Reader

theorem Takes.refuse {α : Type} {P : α → Prop} : Takes (refuse : Reader α) P := .fail fun _ => rfl

theorem Takes.either {α : Type} {P : α → Prop} {r r' : Reader α} (h : Takes r P) (h' : Takes r' P) : Takes (either r r') P := by
  intro cs a rest ha
  unfold Reader.either at ha
  split at ha
  · next hr =>
    cases ha
    exact h _ _ _ hr
  · exact h' _ _ _ ha

theorem takes_integerTree (z : Int) : Takes (integerTree z) Tree.IsSettled := by
  unfold integerTree
  split
  · exact .pure (.number _)
  · exact Takes.refuse

theorem takes_basedInteger (base : Nat) : Takes (basedInteger base) Tree.IsSettled := by
  refine .after _ fun ds => ?_
  split
  · exact takes_integerTree _
  · exact Takes.refuse

theorem takes_integer : Takes integer Tree.IsSettled := by
  refine .after _ fun hex => ?_
  split
  · exact takes_basedInteger 16
  refine .after _ fun octal => ?_
  split
  · exact takes_basedInteger 8
  refine .after _ fun binary => ?_
  split
  · exact takes_basedInteger 2
  refine .after _ fun ds => ?_
  split
  · exact takes_integerTree _
  · exact Takes.refuse

theorem takes_double : Takes double Tree.IsSettled := by
  refine .after _ fun whole => .after _ fun rest => ?_
  split
  · split
    · exact Takes.refuse
    · exact .pure (Tree.isSettled_ofDouble _)
  · exact Takes.refuse

theorem takes_specialDouble : Takes specialDouble Tree.IsSettled := .after _ fun _ => .after _ fun _ => .pure .null

theorem takes_dateTree : Takes dateTree Tree.IsSettled :=
  .after _ fun _ => .pure (Tree.isSettled_empty.insert dateKey (.string _))

theorem takes_number : Takes number Tree.IsSettled :=
  Takes.either takes_dateTree (Takes.either (Takes.either takes_double takes_specialDouble) takes_integer)

section
variable {fuel : Nat}

theorem takes_value_succ (hitems : ∀ depth, Takes (items fuel depth) fun ts => ∀ t ∈ ts, t.IsSettled)
    (hentries : ∀ depth, Takes (inlineEntries fuel depth true []) Entries.AreSettled) (depth : Nat) :
    Takes (value (fuel + 1) depth) Tree.IsSettled := by
  unfold value
  refine .after _ fun next => ?_
  split
  · exact Takes.refuse
  split
  · exact .after _ fun s => .pure (.string s)
  split
  · split
    · exact Takes.refuse
    · refine .after _ fun _ => ?_
      split
      · exact (hitems _).bind fun ts hts => .pure (.array hts)
      · exact (hentries _).bind fun es hes => .pure hes.toTree
  split
  · exact .after _ fun _ => .pure (.bool true)
  split
  · exact .after _ fun _ => .pure (.bool false)
  split
  · exact takes_specialDouble
  · exact takes_number

theorem takes_items_succ (hvalue : ∀ depth, Takes (value fuel depth) Tree.IsSettled)
    (hitems : ∀ depth, Takes (items fuel depth) fun ts => ∀ t ∈ ts, t.IsSettled) (depth : Nat) :
    Takes (items (fuel + 1) depth) fun ts => ∀ t ∈ ts, t.IsSettled := by
  unfold items
  refine .after _ fun _ => .after _ fun closed => ?_
  split
  · exact .pure fun _ ht => absurd ht List.not_mem_nil
  · refine (hvalue depth).bind fun t ht => .after _ fun _ => .after _ fun more => ?_
    split
    · exact (hitems depth).bind fun ts hts => .pure (List.forall_mem_cons.2 ⟨ht, hts⟩)
    · exact .after _ fun _ => .pure (List.forall_mem_singleton.2 ht)

theorem takes_inlineEntries_succ (hvalue : ∀ depth, Takes (value fuel depth) Tree.IsSettled)
    (hentries : ∀ depth first es, es.AreSettled → Takes (inlineEntries fuel depth first es) Entries.AreSettled) (depth : Nat)
    (first : Bool) {es : Entries} (hes : es.AreSettled) : Takes (inlineEntries (fuel + 1) depth first es) Entries.AreSettled := by
  unfold inlineEntries
  refine .after _ fun _ => .after _ fun closed => ?_
  split
  · exact .pure hes
  · refine .after _ fun key => .after _ fun _ => .after _ fun _ => (hvalue depth).bind fun t ht => .after _ fun _ => ?_
    split
    · exact Takes.refuse
    · next hassign =>
      have hes' := Entries.keeps_assign ht _ _ _ _ _ hes hassign
      refine .after _ fun more => ?_
      split
      · exact hentries depth false _ hes'
      · exact .after _ fun _ => .pure hes'

end

/-- Values, the items of lists and the entries of tables in braces are settled, by induction on how much is left to be read. -/
theorem takes_value (fuel : Nat) :
    (∀ depth, Takes (value fuel depth) Tree.IsSettled) ∧
    (∀ depth, Takes (items fuel depth) fun ts => ∀ t ∈ ts, t.IsSettled) ∧
    ∀ depth first es, es.AreSettled → Takes (inlineEntries fuel depth first es) Entries.AreSettled := by
  induction fuel with
  | zero => exact ⟨fun _ => .fail fun _ => rfl, fun _ => .fail fun _ => rfl, fun _ _ _ _ => .fail fun _ => rfl⟩
  | succ fuel ih =>
    obtain ⟨hvalue, hitems, hentries⟩ := ih
    refine ⟨takes_value_succ hitems fun depth => hentries depth true [] Entries.areSettled_nil, takes_items_succ hvalue hitems, ?_⟩
    exact fun depth first es hes => takes_inlineEntries_succ hvalue hentries depth first hes

theorem takes_header {s : DocumentState} (hs : s.entries.AreSettled) : Takes (header s) fun s => s.entries.AreSettled := by
  unfold header
  refine .after _ fun next => ?_
  -- Only a single header takes its opening bracket after it was seen that there are not two.
  cases next with
  | true =>
    refine .after _ fun key => .after _ fun _ => .after _ fun _ => ?_
    split
    · next h => exact .pure ((Entries.keeps_declareNext _).within .implied _ _ _ _ hs h)
    · exact Takes.refuse
  | false =>
    refine .after _ fun _ => .after _ fun key => .after _ fun _ => .after _ fun _ => ?_
    split
    · next h => exact .pure ((Entries.keeps_declare _).within .implied _ _ _ _ hs h)
    · exact Takes.refuse

theorem takes_entry {s : DocumentState} (hs : s.entries.AreSettled) : Takes (entry s) fun s => s.entries.AreSettled := by
  refine .after _ fun key => .after _ fun _ => .after _ fun _ => .after _ fun n => ((takes_value _).1 _).bind fun t ht =>
    .after _ fun _ => ?_
  split
  · next h => exact .pure ((Entries.keeps_assign ht _ _).within .implied _ _ _ _ hs h)
  · exact Takes.refuse

theorem takes_lines (fuel : Nat) {s : DocumentState} (hs : s.entries.AreSettled) :
    Takes (lines fuel s) fun s => s.entries.AreSettled := by
  induction fuel generalizing s with
  | zero => exact .fail fun _ => rfl
  | succ fuel ih =>
    unfold lines
    refine .after _ fun _ => .after _ fun next => ?_
    split
    · exact .pure hs
    split
    · exact .after _ fun _ => .after _ fun _ => ih hs
    split
    · exact .after _ fun _ => ih hs
    split
    · exact (takes_header hs).bind fun s hs => ih hs
    · exact (takes_entry hs).bind fun s hs => ih hs

theorem takes_document : Takes document fun s => s.entries.AreSettled :=
  .after _ fun _ => .after _ fun _ => takes_lines _ Entries.areSettled_nil

end Toml

/-! ## YAML -/

namespace Yaml

theorem isSettled_integerTree? {z : Int} {t : Tree} (h : integerTree? z = some t) : t.IsSettled := by
  unfold integerTree? at h
  split at h
  · cases h
    exact .number _
  · cases h

theorem isSettled_plainTree? {text : String} {t : Tree} (h : plainTree? text = some t) : t.IsSettled := by
  unfold plainTree? at h
  dsimp only at h
  split at h
  · cases h
    exact .null
  split at h
  · cases h
    exact .bool _
  split at h
  · exact isSettled_integerTree? h
  split at h
  · cases h
    exact Tree.isSettled_ofDouble _
  · cases h
    exact .string _

theorem isSettled_scalarTree? {tag : Option String} {style : ScalarStyle} {text : String} {t : Tree}
    (h : scalarTree? tag style text = some t) : t.IsSettled := by
  unfold scalarTree? at h
  split at h
  · split at h
    · exact isSettled_plainTree? h
    · cases h
      exact .string _
  split at h
  · obtain ⟨b, -, rfl⟩ := Option.map_eq_some_iff.1 h
    exact .bool b
  · obtain ⟨z, -, h⟩ := Option.bind_eq_some_iff.1 h
    exact isSettled_integerTree? h
  · obtain ⟨d, -, rfl⟩ := Option.map_eq_some_iff.1 h
    exact Tree.isSettled_ofDouble d
  · split at h
    · cases h
      exact .null
    · cases h
  · split at h
    · cases h
    · cases h
      exact .string _

/-- By induction on how deep lists and tables may still be nested. -/
theorem takes_tree (d : Document) (depth : Nat) (n : Node) : Takes (d.tree depth n) Tree.IsSettled := by
  induction depth generalizing n with
  | zero =>
    refine .after _ fun n => ?_
    split
    · exact .lift fun _ => isSettled_scalarTree?
    · exact .fail fun _ => rfl
  | succ depth ih =>
    refine .after _ fun n => ?_
    split
    · exact .lift fun _ => isSettled_scalarTree?
    · split
      · exact .fail fun _ => rfl
      · exact (Takes.mapM fun n _ => ih n).bind fun items h => .pure (.array h)
    · split
      · exact .fail fun _ => rfl
      · refine Takes.bind (P := fun es : List (String × Tree) => ∀ e ∈ es, e.2.IsSettled) ?_ fun es h =>
          .pure (Tree.isSettled_ofEntries h)
        exact Takes.mapM fun e _ => .after _ fun k => (ih e.2).bind fun t ht => .pure ht
    · exact .fail fun _ => rfl

end Yaml

/-! ## Documents -/

namespace DocumentFormat

theorem isSettled_tree? {format : DocumentFormat} {text : String} {t : Tree} (h : format.tree? text = some t) : t.IsSettled := by
  cases format with
  | json =>
    obtain ⟨document, -, rfl⟩ := Option.map_eq_some_iff.1 h
    exact Tree.isSettled_settled document
  | toml =>
    obtain ⟨⟨s, rest⟩, hs, rfl⟩ := Option.map_eq_some_iff.1 h
    exact (Toml.takes_document _ _ _ hs).toTree
  | yaml =>
    obtain ⟨d, -, hd⟩ := Option.bind_eq_some_iff.1 h
    obtain ⟨⟨t, jumps⟩, ht, rfl⟩ := Option.map_eq_some_iff.1 hd
    exact Yaml.takes_tree d _ _ _ _ _ ht

/-- The tree of a document is settled, whatever its format. -/
theorem isSettled_parse {format : DocumentFormat} {env : Environment} {text : String} {t : Tree}
    (h : format.parse env text = .ok t) : t.IsSettled := by
  unfold parse at h
  split at h
  · cases h
  split at h
  · cases h
  · cases h
    exact Tree.isSettled_empty
  · next ht =>
    cases h
    exact isSettled_tree? ht

end DocumentFormat

/-- The tree of a file is settled. -/
theorem Config.isSettled_treeOfFile {env : Environment} {d : Disk} {file : Path} {t : Tree} (h : treeOfFile env d file = .ok t) :
    t.IsSettled := by
  unfold treeOfFile at h
  split at h
  · cases h
  · cases hf : DocumentFormat.ofPath file with
    | error e =>
      rw [hf] at h
      cases h
    | ok format =>
      rw [hf] at h
      exact DocumentFormat.isSettled_parse h

end CoEdit
