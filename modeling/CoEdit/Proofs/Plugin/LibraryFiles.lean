import CoEdit.Plugin.Module
import CoEdit.Proofs.Config.Sources
import CoEdit.Proofs.Path.Components

/-!
# Files of libraries

The name of a plugin becomes part of the name of a file, with underscores for dashes. The validation of configurations lets no name
through that leads anywhere else: the file lies in the directory itself (`ModuleSource.components_libraryPath`), and two plugins have the
same file only if their names are the same but for dashes and underscores. `ModuleSource.library_files_confined` puts this together.
-/

namespace CoEdit

/-- There is no slash in the name of a plugin. -/
theorem Config.IsPluginWord.slashless {name : String} (h : IsPluginWord name) : '/' ∉ name.toList := by
  intro hslash
  have hchar := h.2 '/' hslash
  revert hchar
  decide

namespace ModuleSource

/-- A name with underscores for dashes. -/
def underscored (name : String) : String := String.ofList (name.toList.map fun c => if c = '-' then '_' else c)

variable {n m : String} {directory : Path}

/-! ## Names of files -/

theorem libraryName_eq (name : String) : libraryName name = "lib" ++ "tandem_plugin_" ++ underscored name ++ ".so" := rfl

theorem libraryName_inj : libraryName n = libraryName m ↔ underscored n = underscored m := by
  rw [libraryName_eq, libraryName_eq, String.append_left_inj, String.append_right_inj]

/-- Underscores for dashes bring no slash in. -/
theorem slash_not_mem_underscored (h : '/' ∉ n.toList) : '/' ∉ (underscored n).toList := by
  rw [underscored, String.toList_ofList, List.mem_map]
  rintro ⟨c, hc, hslash⟩
  split at hslash
  · simp at hslash
  · exact h (hslash ▸ hc)

theorem isName_libraryName (h : '/' ∉ n.toList) : Path.IsName (libraryName n).toList := by
  have htext : (libraryName n).toList = "libtandem_plugin_".toList ++ ((underscored n).toList ++ ".so".toList) := by
    rw [libraryName_eq, String.toList_append, String.toList_append, List.append_assoc]
    rfl
  constructor
  · rw [htext, List.mem_append, List.mem_append]
    simp [slash_not_mem_underscored h]
  all_goals
    rw [htext]
    simp

/-! ## Files -/

/-- The file of a library lies in the directory itself. -/
theorem components_libraryPath (h : '/' ∉ n.toList) :
    (libraryPath directory n).components = directory.components ++ [.normal (libraryName n)] := by
  have hfile : (⟨libraryName n⟩ : Path).components = [.normal (libraryName n)] := Path.components_name (isName_libraryName h)
  have hrelative : (⟨libraryName n⟩ : Path).isAbsolute = false := by
    rw [Bool.eq_false_iff, Ne, Path.isAbsolute_iff, hfile]
    simp
  rw [libraryPath, Path.components_join hrelative (by simp [hfile]), hfile]

/-- Two libraries have the same file only if their names are the same but for dashes and underscores. -/
theorem underscored_eq_of_same (hn : '/' ∉ n.toList) (hm : '/' ∉ m.toList)
    (h : (libraryPath directory n).same (libraryPath directory m) = true) : underscored n = underscored m := by
  have hcomponents := of_decide_eq_true h
  rw [components_libraryPath hn, components_libraryPath hm, List.append_cancel_left_eq, List.singleton_inj,
    PathComponent.normal.injEq] at hcomponents
  exact libraryName_inj.1 hcomponents

/-- The file of a plugin that a configuration may name is one name in the directory, made of the name of the plugin. Two such plugins have
the same file exactly if their names are the same but for dashes and underscores, whether files are compared as texts or by what they
mean. -/
theorem library_files_confined (directory : Path) {c c' : Config} (hc : c.IsValid) (hc' : c'.IsValid) {n m : String}
    (hn : n ∈ c.plugins.load) (hm : m ∈ c'.plugins.load) :
    (libraryPath directory n).components =
      directory.components ++ [.normal ("lib" ++ "tandem_plugin_" ++ underscored n ++ ".so")] ∧
    ((libraryPath directory n).same (libraryPath directory m) = true ↔ underscored n = underscored m) ∧
    (libraryPath directory n = libraryPath directory m ↔ underscored n = underscored m) := by
  have hslash := ((Config.isValid_iff.1 hc).plugins n hn).slashless
  have hslash' := ((Config.isValid_iff.1 hc').plugins m hm).slashless
  have hsame : underscored n = underscored m → libraryPath directory n = libraryPath directory m := fun h => by
    rw [libraryPath, libraryPath, libraryName_inj.2 h]
  refine ⟨components_libraryPath hslash, ⟨underscored_eq_of_same hslash hslash', fun h => ?_⟩, fun h => ?_, hsame⟩
  · rw [hsame h]
    exact decide_eq_true rfl
  · have hd : (libraryPath directory n).same (libraryPath directory m) = true := by
      rw [h]
      exact decide_eq_true rfl
    exact underscored_eq_of_same hslash hslash' hd

/-- A configuration of two plugins that are told apart by a dash only, and a third one. -/
def alikeConfig : Config :=
  { security := { policy := .noTls }, plugins := { load := ["auto-save", "auto_save", "autosave"] } }

theorem library_files_confined_alike :
    alikeConfig.IsValid ∧
    (libraryPath ⟨"/usr/lib/../lib/plugins/"⟩ "auto-save").components =
      (⟨"/usr/lib/../lib/plugins/"⟩ : Path).components ++ [.normal "libtandem_plugin_auto_save.so"] ∧
    libraryPath ⟨"/usr/lib/../lib/plugins/"⟩ "auto-save" = libraryPath ⟨"/usr/lib/../lib/plugins/"⟩ "auto_save" ∧
    (libraryPath ⟨"/usr/lib/../lib/plugins/"⟩ "auto-save").same (libraryPath ⟨"/usr/lib/../lib/plugins/"⟩ "autosave") = false := by
  have hvalid : alikeConfig.IsValid := by
    unfold Config.IsValid
    rfl
  obtain ⟨hcomponents, -, hequal⟩ := library_files_confined ⟨"/usr/lib/../lib/plugins/"⟩ hvalid hvalid
    (n := "auto-save") (m := "auto_save") (by decide) (by decide)
  obtain ⟨-, hsame, -⟩ := library_files_confined ⟨"/usr/lib/../lib/plugins/"⟩ hvalid hvalid
    (n := "auto-save") (m := "autosave") (by decide) (by decide)
  refine ⟨hvalid, hcomponents, hequal.2 (by decide), ?_⟩
  rw [Bool.eq_false_iff, Ne, hsame]
  decide

end ModuleSource
end CoEdit
