import CoEdit.Connection
import Mathlib.Data.List.Induction

/-!
# Handshakes

What becomes of a connection along a history of handshakes that begin, handshakes that end with a password, and contexts that are
installed. The first two are attempts. The last attempt decides, and what was installed when it was made: `Connection.state_after` says
of every history in which state it leaves a connection that was not authenticated before.
-/

namespace CoEdit

/-- A step in the authentication of a connection. -/
inductive AuthStep where
  | began
  | completed (password : String)
  | installed (context : Option AuthContext)
  deriving DecidableEq, Repr

namespace AuthStep

/-- Whether a step is the begin or the end of a handshake. -/
def isAttempt : AuthStep → Bool
  | .installed _ => false
  | _ => true

/-- The context that is in force after steps that follow another context. -/
def inForce (start : Option AuthContext) (steps : List AuthStep) : Option AuthContext :=
  steps.foldl (fun context x => match x with
    | .installed context => context
    | _ => context) start

/-- An attempt is the last one among steps, after some and before others. -/
structure LastAttempt (steps before : List AuthStep) (a : AuthStep) (after : List AuthStep) : Prop where
  eq : steps = before ++ a :: after
  isAttempt : a.isAttempt = true
  last : ∀ x ∈ after, x.isAttempt = false

/-- The last attempt was a password that was accepted: no context was in force then, or the one that was has that password. -/
def Accepted (start : Option AuthContext) (steps : List AuthStep) : Prop :=
  ∃ before password after, LastAttempt steps before (.completed password) after ∧
    ∀ context, inForce start before = some context → context.password = password

/-- The last attempt was a begin, and no context was installed since. -/
def Pending (steps : List AuthStep) : Prop :=
  ∃ before after, LastAttempt steps before .began after ∧ ∀ x ∈ after, x.isAttempt = true

variable {start : Option AuthContext} {steps before after : List AuthStep} {a b : AuthStep}

/-! ## One step more -/

theorem inForce_concat (start : Option AuthContext) (steps : List AuthStep) (a : AuthStep) :
    inForce start (steps ++ [a]) = match a with
      | .installed context => context
      | _ => inForce start steps := by
  rw [inForce, List.foldl_append]
  rfl

/-- The last attempt is the step that was added, if that is one, and otherwise what it was before. -/
theorem lastAttempt_concat : LastAttempt (steps ++ [b]) before a after ↔
    (b.isAttempt = true ∧ before = steps ∧ a = b ∧ after = []) ∨
      (b.isAttempt = false ∧ ∃ earlier, after = earlier ++ [b] ∧ LastAttempt steps before a earlier) := by
  constructor
  · rintro ⟨he, ha, hlast⟩
    rcases List.eq_nil_or_concat after with rfl | ⟨after, x, rfl⟩
    · obtain ⟨rfl, hab⟩ := List.append_inj' he rfl
      obtain rfl := List.singleton_inj.1 hab
      exact Or.inl ⟨ha, rfl, rfl, rfl⟩
    · rw [List.concat_eq_append] at he hlast ⊢
      rw [← List.cons_append, ← List.append_assoc] at he
      obtain ⟨rfl, hbx⟩ := List.append_inj' he rfl
      obtain rfl := List.singleton_inj.1 hbx
      obtain ⟨hafter, hb⟩ := List.forall_mem_append.1 hlast
      exact Or.inr ⟨hb b List.mem_cons_self, after, rfl, rfl, ha, hafter⟩
  · rintro (⟨hb, rfl, rfl, rfl⟩ | ⟨hb, earlier, rfl, rfl, ha, hlast⟩)
    · exact ⟨rfl, hb, fun _ hx => absurd hx List.not_mem_nil⟩
    · exact ⟨by simp, ha, List.forall_mem_append.2 ⟨hlast, List.forall_mem_singleton.2 hb⟩⟩

/-- An attempt that is made now is the last one. -/
theorem lastAttempt_concat_attempt (hb : b.isAttempt = true) :
    LastAttempt (steps ++ [b]) before a after ↔ before = steps ∧ a = b ∧ after = [] := by
  simp [lastAttempt_concat, hb]

/-- A context that is installed leaves the last attempt what it was. -/
theorem lastAttempt_concat_installed {context : Option AuthContext} :
    LastAttempt (steps ++ [.installed context]) before a after ↔
      ∃ earlier, after = earlier ++ [.installed context] ∧ LastAttempt steps before a earlier := by
  simp [lastAttempt_concat, isAttempt]

theorem accepted_concat_began : ¬Accepted start (steps ++ [.began]) := by
  rintro ⟨before, password, after, h, -⟩
  cases ((lastAttempt_concat_attempt rfl).1 h).2.1

theorem accepted_concat_completed {password : String} : Accepted start (steps ++ [.completed password]) ↔
    ∀ context, inForce start steps = some context → context.password = password := by
  constructor
  · rintro ⟨before, p, after, h, hp⟩
    obtain ⟨rfl, he, -⟩ := (lastAttempt_concat_attempt rfl).1 h
    cases he
    exact hp
  · exact fun hp => ⟨steps, password, [], (lastAttempt_concat_attempt rfl).2 ⟨rfl, rfl, rfl⟩, hp⟩

theorem accepted_concat_installed {context : Option AuthContext} :
    Accepted start (steps ++ [.installed context]) ↔ Accepted start steps := by
  constructor
  · rintro ⟨before, password, after, h, hp⟩
    obtain ⟨earlier, -, h⟩ := lastAttempt_concat_installed.1 h
    exact ⟨before, password, earlier, h, hp⟩
  · rintro ⟨before, password, after, h, hp⟩
    exact ⟨before, password, _, lastAttempt_concat_installed.2 ⟨after, rfl, h⟩, hp⟩

theorem pending_concat_began : Pending (steps ++ [.began]) :=
  ⟨steps, [], (lastAttempt_concat_attempt rfl).2 ⟨rfl, rfl, rfl⟩, fun _ hx => absurd hx List.not_mem_nil⟩

theorem pending_concat_completed {password : String} : ¬Pending (steps ++ [.completed password]) := by
  rintro ⟨before, after, h, -⟩
  cases ((lastAttempt_concat_attempt rfl).1 h).2.1

theorem pending_concat_installed {context : Option AuthContext} : ¬Pending (steps ++ [.installed context]) := by
  rintro ⟨before, after, h, hafter⟩
  obtain ⟨earlier, rfl, -⟩ := lastAttempt_concat_installed.1 h
  exact absurd (hafter (.installed context) (by simp)) Bool.false_ne_true

end AuthStep

/-! ## Connections -/

namespace Connection

open AuthStep

/-- The connection after a step. -/
def take (c : Connection) : AuthStep → Connection
  | .began => c.beginAuthentication
  | .completed password => c.completeAuthentication password
  | .installed context => c.install context

/-- The connection after steps, one after the other. -/
def takeAll (c : Connection) (steps : List AuthStep) : Connection := steps.foldl take c

@[simp] theorem take_id (c : Connection) (x : AuthStep) : (c.take x).id = c.id := by cases x <;> rfl

theorem takeAll_concat (c : Connection) (steps : List AuthStep) (x : AuthStep) :
    c.takeAll (steps ++ [x]) = (c.takeAll steps).take x := by
  rw [takeAll, List.foldl_append]
  rfl

theorem takeAll_append (c : Connection) (steps steps' : List AuthStep) :
    c.takeAll (steps ++ steps') = (c.takeAll steps).takeAll steps' := List.foldl_append

theorem context_takeAll (c : Connection) (steps : List AuthStep) : (c.takeAll steps).context = inForce c.context steps := by
  induction steps using List.reverseRecOn with
  | nil => rfl
  | append_singleton steps x ih =>
    rw [takeAll_concat, inForce_concat, ← ih]
    cases x <;> rfl

/-- A password is accepted if no context is installed, or one with that password. -/
theorem accepts_iff (c : Connection) (password : String) :
    c.accepts password = true ↔ ∀ context, c.context = some context → context.password = password := by
  unfold accepts AuthContext.verify
  cases c.context <;> simp

/-- A context that is installed authenticates nobody and takes nobody's authentication away. -/
theorem install_authenticated (c : Connection) (context : Option AuthContext) :
    (c.install context).state = .authenticated ↔ c.state = .authenticated := by
  rw [install]
  cases hs : c.state <;> simp [isAuthenticating, hs]

/-- A connection that was not authenticated is authenticated after a history if the last attempt was a password that was accepted, in a
handshake if the last attempt was a begin and no context was installed since, and not authenticated otherwise. -/
theorem state_after (c : Connection) (hc : c.state = .unauthenticated) (steps : List AuthStep) :
    ((c.takeAll steps).state = .authenticated ↔ Accepted c.context steps) ∧
    ((c.takeAll steps).state = .authenticating ↔ Pending steps) := by
  induction steps using List.reverseRecOn with
  | nil =>
    have hnone : ∀ {before after a}, ¬LastAttempt [] before a after := fun h => by simpa using h.eq
    refine ⟨iff_of_false (by simp [takeAll, hc]) ?_, iff_of_false (by simp [takeAll, hc]) ?_⟩
    · exact fun ⟨_, _, _, h, _⟩ => hnone h
    · exact fun ⟨_, _, h, _⟩ => hnone h
  | append_singleton steps x ih =>
    rw [takeAll_concat]
    cases x with
    | began => exact ⟨iff_of_false (by simp [take, beginAuthentication]) accepted_concat_began, iff_of_true rfl pending_concat_began⟩
    | completed password =>
      rw [accepted_concat_completed, ← context_takeAll, ← accepts_iff]
      refine ⟨?_, iff_of_false ?_ pending_concat_completed⟩
      all_goals
        rw [take, completeAuthentication]
        cases (c.takeAll steps).accepts password <;> simp
    | installed context =>
      rw [accepted_concat_installed, ← ih.1]
      exact ⟨install_authenticated _ _, iff_of_false (install_not_authenticating _ _) pending_concat_installed⟩

end Connection
end CoEdit
