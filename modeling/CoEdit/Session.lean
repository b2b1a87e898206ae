import CoEdit.Roster

/-!
# Sessions

An editing session on a document. Kinds of sessions form a hierarchy: a kind carries the names of all kinds it was derived
from, nearest first, and is of any of these kinds as well as of its own.
-/

namespace CoEdit

/-- A kind of session. -/
structure SessionKind where
  name : String
  ancestors : List String := []
  deriving DecidableEq, Repr

namespace SessionKind

/-- A kind that derives from no other. -/
def root (name : String) : SessionKind := { name }

/-- A kind derived from another. -/
def derived (name : String) (parent : SessionKind) : SessionKind := { name, ancestors := parent.name :: parent.ancestors }

/-- The kind at the end of a chain of names, each derived from the one before. -/
def chain (name : String) (rest : List String) : SessionKind := rest.foldl (fun k n => derived n k) (root name)

/-- Whether the kind has the name or derives from one that has it. -/
def isA (k : SessionKind) (name : String) : Bool := k.name = name || k.ancestors.contains name

/-- A derived kind is of its own name and of all its parent is of. -/
theorem isA_derived (n name : String) (parent : SessionKind) :
    (derived n parent).isA name = (decide (n = name) || parent.isA name) := by
  have h : (name == parent.name) = decide (parent.name = name) := by
    by_cases hn : parent.name = name
    · simp [hn]
    · simp [hn, Ne.symm hn]
  simp only [isA, derived, List.contains_cons, h]
  rfl

/-- A kind was derived from another in any number of steps. -/
inductive DerivesFrom : SessionKind → SessionKind → Prop
  | refl (k : SessionKind) : DerivesFrom k k
  | step (n : String) {parent k : SessionKind} (h : DerivesFrom parent k) : DerivesFrom (derived n parent) k

/-- A kind is of exactly the names of the kinds it was derived from, itself among them. -/
theorem isA_iff (k : SessionKind) (name : String) : k.isA name = true ↔ ∃ k', k.DerivesFrom k' ∧ k'.name = name := by
  constructor
  · obtain ⟨n, ancestors⟩ := k
    induction ancestors generalizing n with
    | nil =>
      intro h
      exact ⟨_, .refl _, by simpa [isA] using h⟩
    | cons a rest ih =>
      intro h
      have h' := isA_derived n name { name := a, ancestors := rest }
      rw [show derived n { name := a, ancestors := rest } = { name := n, ancestors := a :: rest } from rfl, h,
        eq_comm, Bool.or_eq_true, decide_eq_true_eq] at h'
      rcases h' with hn | hp
      · exact ⟨_, .refl _, hn⟩
      · obtain ⟨k', hk', hname⟩ := ih a hp
        exact ⟨k', .step n hk', hname⟩
  · rintro ⟨k', hk', hname⟩
    induction hk' with
    | refl k => simp [isA, hname]
    | step n _ ih => rw [isA_derived, ih hname, Bool.or_true]

end SessionKind

/-- An editing session. -/
structure Session where
  id : Nat
  path : String
  kind : SessionKind
  deriving DecidableEq, Repr

namespace Session

instance : Numbered Session := ⟨Session.id⟩

/-- A number of a session in messages. -/
def label (id : Nat) : String := "session-" ++ toString id

end Session

end CoEdit
