import CoEdit.Proofs.Disk.Passage
import CoEdit.Proofs.Json.RoundTrip
import CoEdit.Storage.Accounts

/-!
# The file of the accounts

The file of the accounts stands in the root itself, and the way to it is the way to the root (`AccountBook.locate_file`). What is written
there is read back (`AccountBook.accounts?_content`), and the accounts of a book are by their identifiers what their list is
(`AccountBook.byId_values`). An account may have other entries, which are not looked at (`Account.ofValue?_other`).
-/

namespace CoEdit

open CoEdit.Path

deriving instance DecidableEq for AccountBook

/-! ## Tables of lists -/

namespace Table

variable {ν : Type} {t : Table String ν}

theorem insert_concat {k : String} (h : ∀ e ∈ t, e.1 < k) (v : ν) : insert k v t = t ++ [(k, v)] := by
  induction t with
  | nil => rfl
  | cons e rest ih =>
    have he := h e List.mem_cons_self
    have hne : k ≠ e.1 := by
      rintro rfl
      exact String.lt_irrefl _ he
    rw [insert, if_neg hne, if_neg (String.lt_asymm he), ih fun x hx => h x (List.mem_cons_of_mem _ hx), List.cons_append]

/-- A table is the table of its entries. -/
theorem ofEntries_of_ascending (h : t.Ascending) : ofEntries t = t := by
  have hfrom : ∀ built : Table String ν, Ascending (built ++ t) → t.foldl (fun t e => insert e.1 e.2 t) built = built ++ t := by
    clear h
    induction t with
    | nil => simp
    | cons e rest ih =>
      intro built hbuilt
      have hlast : ∀ x ∈ built, x.1 < e.1 := fun x hx => (List.pairwise_append.1 hbuilt).2.2 x hx e List.mem_cons_self
      have hnext : Ascending (built ++ [(e.1, e.2)] ++ rest) := by simpa using hbuilt
      rw [List.foldl_cons, insert_concat hlast, ih _ hnext]
      simp
  exact hfrom [] h

theorem ascending_ofEntries (es : List (String × ν)) : Ascending (ofEntries es) :=
  List.foldlRecOn es _ (motive := Ascending) List.Pairwise.nil fun _ ht e _ => ht.insert e.1 e.2

/-- An entry of the table of a list stands in the list. -/
theorem mem_of_mem_ofEntries {es : List (String × ν)} {e : String × ν} (h : e ∈ ofEntries es) : e ∈ es := by
  have hall : ∀ e ∈ ofEntries es, e ∈ es := by
    refine List.foldlRecOn es _ (motive := fun t => ∀ e ∈ t, e ∈ es) (fun _ he => absurd he List.not_mem_nil) ?_
    intro t ht e he x hx
    rcases mem_insert hx with rfl | hx
    · exact he
    · exact ht x hx
  exact hall e h

end Table

namespace Account

/-! ## Accounts in a document -/

/-- A described account is read back. -/
theorem ofValue?_ofTree (a : Account) : ofValue? (.ofTree a.toTree) = some a := by
  simp [toTree, ofValue?, only?, Json.Value.ofTree, Json.Value.ofEntries]

/-- An entry with another key is not looked at. -/
theorem only?_of_ne {j k : String} (h : j ≠ k) (es es' : List (Option String × Json.Value)) (v : Json.Value) :
    only? k (es ++ (some j, v) :: es') = only? k (es ++ es') := by
  simp [only?, List.filter_append, h]

/-- Whatever stands under another key, the account is the same. -/
theorem ofValue?_other {k : String} (hid : k ≠ "id") (hname : k ≠ "name") (es es' : List (Option String × Json.Value))
    (v : Json.Value) : ofValue? (.object (es ++ (some k, v) :: es')) = ofValue? (.object (es ++ es')) := by
  have hkeys : (es ++ (some k, v) :: es').all (·.1.isSome) = (es ++ es').all (·.1.isSome) := by simp
  rw [ofValue?, ofValue?, only?_of_ne hid, only?_of_ne hname, hkeys]

end Account

namespace AccountBook

variable {s : DocumentStore} {d : Disk} {at_ : Place} {t : Table String Account}

/-! ## Accounts by their identifiers -/

/-- The key of each account is its identifier. -/
def IsKeyed (t : Table String Account) : Prop := ∀ e ∈ t, e.1 = e.2.id

theorem IsKeyed.insert (h : IsKeyed t) (a : Account) : IsKeyed (Table.insert a.id a t) := by
  intro e he
  rcases Table.mem_insert he with rfl | he
  · rfl
  · exact h e he

theorem isKeyed_byId (accounts : List Account) : IsKeyed (byId accounts) := by
  intro e he
  obtain ⟨a, -, rfl⟩ := List.mem_map.1 (Table.mem_of_mem_ofEntries he)
  rfl

/-- The accounts of a table, by their identifiers, are the table. -/
theorem byId_values (hascending : t.Ascending) (hkeyed : IsKeyed t) : byId (Table.values t) = t := by
  have hentries : (Table.values t).map (fun a => (a.id, a)) = t := by
    rw [Table.values, List.map_map]
    refine (List.map_congr_left fun e he => ?_).trans (List.map_id t)
    exact Prod.ext (hkeyed e he).symm rfl
  rw [byId, hentries, Table.ofEntries_of_ascending hascending]

/-! ## Its content -/

theorem fromUTF8?_toUTF8 (text : String) : String.fromUTF8? text.toUTF8 = some text := by
  unfold String.fromUTF8?
  split
  · rfl
  · exact absurd text.isValidUTF8 (by assumption)

theorem numbers_accounts (accounts : List Account) : Json.numbersOfItems (accounts.map Account.toTree) = [] := by
  induction accounts with
  | nil => rfl
  | cons a accounts ih =>
    rw [List.map_cons, Json.numbersOfItems, ih]
    rfl

theorem mapM_ofItems (accounts : List Account) :
    (Json.Value.ofItems (accounts.map Account.toTree)).mapM Account.ofValue? = some accounts := by
  induction accounts with
  | nil => rfl
  | cons a accounts ih =>
    rw [List.map_cons, Json.Value.ofItems, List.mapM_cons, Account.ofValue?_ofTree, ih]
    rfl

/-- Accounts that are written are read back, whatever their identifiers and names are. -/
theorem accounts?_content (accounts : List Account) : accounts? (content accounts) = some accounts := by
  have hread := Json.value?_toSpreadJson (.array (accounts.map Account.toTree))
    fun n hn => absurd hn (by rw [Json.numbersOf, numbers_accounts]; exact List.not_mem_nil)
  rw [accounts?, content, hread]
  exact mapM_ofItems accounts

/-- The accounts of a book and one more, as they are written. -/
def contentWith (b : AccountBook) (a : Account) : ByteArray := (content (Table.values (Table.insert a.id a b.accounts))).toUTF8

/-! ## The file of the accounts -/

/-- The name of the file of the accounts. -/
def fileName : String := "accounts.json"

theorem isName_fileName : IsName fileName.toList := ⟨by decide, by decide, by decide, by decide⟩

theorem file_components (s : DocumentStore) : (file s).components = s.root.components ++ [.normal fileName] := by
  have hname := components_name isName_fileName
  rw [file, components_join rfl (by rw [← fileName, hname]; simp), ← fileName, hname]

theorem file_place (s : DocumentStore) (here : Place) : (file s).place here = s.root.place here ++ [fileName] :=
  have hnames : (file s).components = s.root.components ++ [fileName].map .normal := file_components s
  place_names hnames here

/-- The path of the file is found where the way to the root can be passed. -/
theorem locate_file (hfault : Disk.pathFault (file s) = none) :
    d.locate (file s) = .ok at_ ↔ at_ = s.root.place d.workingDirectory ++ [fileName] ∧ d.Passable s.root := by
  obtain ⟨dir, htext, hboundary, hdir⟩ := text_join (p := s.root) (q := ⟨fileName⟩) rfl
  have hbefore : (Disk.before dir).components = s.root.components := by
    rw [components_eq, components_eq s.root, String.toList_ofList]
    rcases hdir with rfl | ⟨hne, rfl⟩
    · rfl
    · exact componentsOf_append_slash hne
  rw [Disk.locate_end_iff (p := file s) htext hboundary isName_fileName hfault, file_place]
  refine and_congr_right fun _ => ⟨fun h => h.1.congr hbefore.symm, fun h => ⟨h.congr hbefore, by decide⟩⟩

theorem pathFault_file_ne (s : DocumentStore) : Disk.pathFault (file s) ≠ some .notFound := by
  have hne : (file s).text ≠ "" := by
    intro hempty
    have hcomponents := file_components s
    rw [components_eq, hempty] at hcomponents
    simp at hcomponents
  rw [Disk.pathFault, if_neg hne]
  split
  · simp
  · split <;> simp

/-- In a root that is there, the file is found at its place unless its path has a fault. -/
theorem locate_file_of_isDirectory (h : d.isDirectory s.root = true) : d.locate (file s) =
    match Disk.pathFault (file s) with
    | some e => .error e
    | none => .ok (s.root.place d.workingDirectory ++ [fileName]) := by
  cases hfault : Disk.pathFault (file s) with
  | some e =>
    unfold Disk.locate
    rw [hfault]
  | none => exact (locate_file hfault).2 ⟨rfl, Disk.passable_of_isDirectory h⟩

/-! ## Roots that are there -/

theorem checkRoot_of_isDirectory (h : d.isDirectory s.root = true) : s.checkRoot d = .ok true := by
  obtain ⟨hl, he⟩ := Disk.isDirectory_iff.1 h
  unfold DocumentStore.checkRoot Disk.find
  rw [hl]
  dsimp only
  rw [he]

theorem ensureRoot_of_isDirectory (h : d.isDirectory s.root = true) : s.ensureRoot d = (.ok (), d) := by
  rw [DocumentStore.ensureRoot, checkRoot_of_isDirectory h]

end AccountBook
end CoEdit
