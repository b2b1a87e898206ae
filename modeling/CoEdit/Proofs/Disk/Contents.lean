import CoEdit.Proofs.Disk.Passage

/-!
# What stands in a directory

On a sound disk everything stands in a directory, each place is taken once, and all names are names of files (`Disk.Sound`). Disks that
operations make from an empty one are sound. What is listed of a directory on a sound disk is what stands there, each name once
(`Disk.mem_childrenOf`, `Disk.nodup_childrenOf`).
-/

namespace CoEdit
namespace Disk

open CoEdit.Path

variable {d d' : Disk} {at_ v : Place} {p : Path} {name : String} {e : DiskEntry}

/-! ## Sound disks -/

/-- Places where names are names of files. -/
def IsNamed (v : Place) : Prop := ∀ name ∈ v, IsName name.toList

/-- A disk whose places are each in a directory, taken once and named by names. -/
structure Sound (d : Disk) : Prop where
  tree : d.IsTree
  distinct : (d.entries.map (·.1)).Nodup
  named : ∀ v, d.entry? v ≠ none → IsNamed v
  here : IsNamed d.workingDirectory

theorem sound_empty : empty.Sound := by
  have hwork : IsNamed ["work"] := by
    intro name hname
    obtain rfl := List.mem_singleton.1 hname
    exact ⟨by decide, by decide, by decide, by decide⟩
  refine ⟨isTree_empty, by simp [empty], fun v hv => ?_, hwork⟩
  by_cases hnil : v = []
  · subst hnil
    exact fun _ h => absurd h List.not_mem_nil
  · by_cases hv' : v = ["work"]
    · exact hv' ▸ hwork
    · simp [ entry?, empty, hnil, List.lookup_cons, beq_eq_false_iff_ne.2 hv'] at hv

theorem isNamed_foldl_follow {cs : List PathComponent} (hcs : ∀ name, .normal name ∈ cs → IsName name.toList) {here : Place}
    (h : IsNamed here) : IsNamed (cs.foldl follow here) := by
  induction cs generalizing here with
  | nil => exact h
  | cons c cs ih =>
    refine ih (fun name hname => hcs name (List.mem_cons_of_mem _ hname)) ?_
    cases c with
    | root => exact fun _ hname => absurd hname List.not_mem_nil
    | current => exact h
    | parent => exact fun name hname => h name (List.dropLast_subset _ hname)
    | normal n =>
      intro name hname
      rcases List.mem_append.1 hname with hname | hname
      · exact h name hname
      · exact List.mem_singleton.1 hname ▸ hcs n List.mem_cons_self

/-- Paths lead to places that are named by names. -/
theorem isNamed_place (p : Path) {here : Place} (h : IsNamed here) : IsNamed (p.place here) :=
  isNamed_foldl_follow (fun _ hname => isName_of_component hname) h

/-- Something is put where a path leads. -/
theorem Sound.set (h : d.Sound) (hl : d.locate p = .ok at_) (htree : (d.set at_ e).IsTree) : (d.set at_ e).Sound := by
  obtain ⟨rfl, -⟩ := locate_ok hl
  refine ⟨htree, ?_, fun v hv => ?_, h.here⟩
  · refine List.nodup_cons.2 ⟨?_, h.distinct.sublist ((List.filter_sublist).map _)⟩
    simp
  · by_cases hsame : v = p.place d.workingDirectory
    · exact hsame ▸ isNamed_place p h.here
    · rw [entry?_set_of_ne hsame] at hv
      exact h.named v hv

theorem Sound.makeDirectory (h : d.Sound) (hd : d.makeDirectory p = .ok d') : d'.Sound := by
  have htree := h.tree.makeDirectory hd
  obtain ⟨at_, hl, -, rfl⟩ := makeDirectory_ok hd
  exact h.set hl htree

theorem Sound.makeDirectories (h : d.Sound) (p : Path) : (d.makeDirectories p).2.Sound :=
  makeDirectoriesUpTo_induct (R := fun d d' => d.Sound → d'.Sound) (fun _ => id) (fun hab hbc ha => hbc (hab ha))
    (fun hd h => h.makeDirectory hd) _ d p h

theorem Sound.write (h : d.Sound) {content : ByteArray} (hw : d.write p content = .ok d') : d'.Sound := by
  have htree := h.tree.write hw
  obtain ⟨x, hl, -, rfl⟩ := write_ok hw
  exact h.set hl htree

/-! ## Children -/

theorem mem_iff_lookup {entries : List (Place × DiskEntry)} (h : (entries.map (·.1)).Nodup) :
    (v, e) ∈ entries ↔ entries.lookup v = some e := by
  induction entries with
  | nil => simp
  | cons x entries ih =>
    obtain ⟨w, f⟩ := x
    rw [List.map_cons, List.nodup_cons] at h
    rw [List.mem_cons, ih h.2, List.lookup_cons]
    by_cases hv : v = w
    · subst hv
      have hnone : entries.lookup v ≠ some e := by
        intro he
        exact h.1 (List.mem_map.2 ⟨(v, e), (ih h.2).2 he, rfl⟩)
      simp [hnone, eq_comm]
    · simp [hv, beq_eq_false_iff_ne.2 hv]

/-- What stands directly at a name of a directory. -/
theorem child_eq_some {c : String × DiskEntry} : (match v.getLast? with
    | some name => if v.dropLast = at_ then some (name, e) else none
    | none => none) = some c ↔ v = at_ ++ [c.1] ∧ e = c.2 := by
  rcases List.eq_nil_or_concat v with rfl | ⟨above, last, rfl⟩
  · simp
  · simp only [List.concat_eq_append, List.getLast?_concat, List.dropLast_concat]
    constructor
    · intro h
      split at h
      · rename_i habove
        cases h
        exact ⟨habove ▸ rfl, rfl⟩
      · cases h
    · rintro ⟨hv, rfl⟩
      obtain ⟨rfl, hlast⟩ := List.append_inj' hv rfl
      rw [if_pos rfl, List.singleton_inj.1 hlast]

/-- What stands in a directory, by its name. -/
theorem mem_childrenOf (h : d.Sound) : (name, e) ∈ d.childrenOf at_ ↔ d.entry? (at_ ++ [name]) = some e := by
  have hne : at_ ++ [name] ≠ [] := by simp
  rw [ entry?, if_neg hne, ← mem_iff_lookup h.distinct, childrenOf, List.mem_filterMap]
  constructor
  · rintro ⟨⟨v, f⟩, hmem, hchild⟩
    obtain ⟨rfl, rfl⟩ := child_eq_some.1 hchild
    exact hmem
  · intro hmem
    exact ⟨_, hmem, child_eq_some.2 ⟨rfl, rfl⟩⟩

/-- Each name stands in a directory once. -/
theorem nodup_childrenOf (h : d.Sound) (at_ : Place) : ((d.childrenOf at_).map (·.1)).Nodup := by
  have hdistinct : d.entries.Pairwise fun x y => x.1 ≠ y.1 := List.pairwise_map.1 h.distinct
  refine List.pairwise_map.2 (List.pairwise_filterMap.2 (hdistinct.imp ?_))
  rintro ⟨v, f⟩ ⟨w, g⟩ hne b hb c hc hsame
  obtain ⟨rfl, -⟩ := child_eq_some.1 hb
  obtain ⟨rfl, -⟩ := child_eq_some.1 hc
  exact hne (by rw [hsame])

end Disk
end CoEdit
