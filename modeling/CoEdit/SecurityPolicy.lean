/-!
# Security policies

What a listening endpoint demands of its clients before anything else is said.
-/

namespace CoEdit

/-- Transport security demanded of clients. -/
inductive SecurityPolicy where
  /-- Plain connections only. -/
  | noTls
  /-- Clients may change to TLS. -/
  | allowTls
  /-- Clients must change to TLS first. -/
  | requireTls
  deriving DecidableEq, Repr

namespace SecurityPolicy

/-- Whether the policy needs a certificate. -/
def usesTls : SecurityPolicy → Bool
  | .noTls => false
  | .allowTls => true
  | .requireTls => true

/-- Name of the policy in configuration. -/
def keyword : SecurityPolicy → String
  | .noTls => "no-tls"
  | .allowTls => "allow-tls"
  | .requireTls => "require-tls"

/-- All policies, the most open first. -/
def all : List SecurityPolicy := [.noTls, .allowTls, .requireTls]

/-- The policy of a name; names are spelled in lower case. -/
def ofKeyword? (text : String) : Option SecurityPolicy := all.find? (fun p => p.keyword = text)

/-- A policy is found under its own name and no other. -/
theorem ofKeyword?_eq_some_iff {text : String} {p : SecurityPolicy} : ofKeyword? text = some p ↔ text = p.keyword := by
  constructor
  · intro h
    have := List.find?_some h
    simpa using Eq.symm (by simpa using this)
  · rintro rfl
    cases p <;> decide

end SecurityPolicy

end CoEdit
