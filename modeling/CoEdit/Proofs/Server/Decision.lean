import CoEdit.Proofs.Server.Refusal
import CoEdit.Proofs.Server.Serving

/-!
# What decides about a reload

Whether a reload is refused, and why, is told by six conditions on the server and its host before the reload, of which the first one
that fails decides. `Server.objections` lists what each of them has to object to a configuration, and
`Server.Reached.reload_decided` says that there is no other reason for a refusal.
-/

namespace CoEdit

/-- The refusal that an answer is, if it is one. -/
def refusal? {α : Type} : Except Refusal α → Option Refusal
  | .error r => some r
  | .ok _ => none

section
variable {α β : Type}

@[simp] theorem refusal?_error (r : Refusal) : refusal? (.error r : Except Refusal α) = some r := rfl

@[simp] theorem refusal?_ok (a : α) : refusal? (.ok a : Except Refusal α) = none := rfl

@[simp] theorem refusal?_map (f : α → β) (x : Except Refusal α) : refusal? (x.map f) = refusal? x := by
  cases x <;> rfl

theorem refusal?_eq_some {x : Except Refusal α} {r : Refusal} : refusal? x = some r ↔ x = .error r := by
  cases x <;> simp

theorem refusal?_eq_none {x : Except Refusal α} : refusal? x = none ↔ ∃ a, x = .ok a := by
  cases x <;> simp

end

/-! ## Listeners -/

namespace Network

/-- What there is to object to binding listeners: that no family can be bound, for which the last one has to answer. -/
def bindObjection? (n : Network) (address : Option IpAddress) (port : UInt16) : Option Refusal :=
  if n.granted address port = [] then
    ((IpAddress.families address).getLast?.bind (n.bindFault? address port)).map .notBound
  else none

/-- What there is to object to opening them: that none of those that were bound can be opened, for which the first one has to
answer. -/
def openObjection? (n : Network) (address : Option IpAddress) (port : UInt16) : Option Refusal :=
  if n.openable address port = [] then (n.granted address port).head?.map fun x => .notOpened (.refused x.1 x.2) else none

end Network

section
variable {h h₁ h₂ : Host} {address : Option IpAddress} {port : UInt16} {r : Except Refusal (List Listener)}

theorem refusal?_bindListeners (hb : bindListeners h address port = (r, h₁)) :
    refusal? r = h.network.bindObjection? address port := by
  obtain ⟨-, hok, herror⟩ := bindListeners_ports hb
  unfold Network.bindObjection?
  cases r with
  | error e =>
    obtain ⟨hnil, family, cause, hlast, hcause, rfl⟩ := herror e rfl
    rw [if_pos hnil, hlast, Option.bind_some, hcause]
    rfl
  | ok ls =>
    obtain ⟨hne, hports⟩ := hok ls rfl
    have hgranted : h.network.granted address port ≠ [] := by
      intro hnil
      rw [hnil] at hports
      exact hne (List.map_eq_nil_iff.1 hports)
    rw [if_neg hgranted]
    rfl

theorem refusal?_openListeners {bound : List Listener} (hb : bindListeners h address port = (.ok bound, h₁))
    (ho : openListeners h₁ bound = (r, h₂)) : refusal? r = h.network.openObjection? address port := by
  obtain ⟨hrules, hok, -⟩ := bindListeners_ports hb
  obtain ⟨-, hports⟩ := hok bound rfl
  obtain ⟨-, hh⟩ := bindListeners_holds hb
  obtain ⟨-, -, herror⟩ := openListeners_ports hh hports ho
  unfold Network.openObjection?
  cases r with
  | error e =>
    obtain ⟨hall, x, hx, rfl⟩ := herror e rfl
    have hnil : h.network.openable address port = [] := by
      rw [Network.openable, ← hrules.openFailures]
      simpa [List.filter_eq_nil_iff] using hall
    rw [if_pos hnil, hx]
    rfl
  | ok ls =>
    obtain ⟨hne, hopened⟩ := Server.opened_ports hb ho
    have hopenable : h.network.openable address port ≠ [] := by
      intro hnil
      rw [hnil] at hopened
      exact hne (List.map_eq_nil_iff.1 hopened)
    rw [if_neg hopenable]
    rfl

end

namespace Network

variable (n : Network) (address : Option IpAddress) (port : UInt16)

end Network

/-! ## Documents -/

/-- A root can be attached if there is nothing there or a directory, and if the accounts there are missing or can be read and are
well-formed. -/
def Disk.CanAttach (d : Disk) (root : Path) : Prop :=
  (d.find root = .error .notFound ∨ ∃ at_, d.find root = .ok (at_, .directory)) ∧
    (d.readText (AccountBook.file ⟨root⟩) = .error .notFound ∨
      ∃ text, d.readText (AccountBook.file ⟨root⟩) = .ok text ∧ (AccountBook.accounts? text).isSome = true)

/-- The root is missing or a directory exactly if it passes its check. -/
theorem DocumentStore.checkRoot_ok (store : DocumentStore) (d : Disk) : (∃ x, store.checkRoot d = .ok x) ↔
    d.find store.root = .error .notFound ∨ ∃ at_, d.find store.root = .ok (at_, .directory) := by
  unfold DocumentStore.checkRoot
  split
  · rename_i at_ hf
    simp [hf]
  · rename_i hf
    simp [hf]
  · rename_i hf
    simp [hf]
  · rename_i e hne hf
    simpa [hf] using hne

/-- The accounts of a root are loaded exactly if it can be attached. -/
theorem AccountBook.load_cases (d : Disk) (root : Path) :
    (d.CanAttach root ∧ ∃ t, AccountBook.load ⟨root⟩ d = .ok t) ∨
      ¬d.CanAttach root ∧ ∃ e, AccountBook.load ⟨root⟩ d = .error e := by
  have hroot := DocumentStore.checkRoot_ok ⟨root⟩ d
  unfold AccountBook.load Disk.CanAttach
  rw [← hroot]
  cases hc : DocumentStore.checkRoot ⟨root⟩ d with
  | error e => exact Or.inr ⟨by simp, e, rfl⟩
  | ok x =>
    dsimp only
    split
    · rename_i ht
      exact Or.inl ⟨⟨⟨x, rfl⟩, Or.inl ht⟩, _, rfl⟩
    · rename_i e hne ht
      exact Or.inr ⟨by simpa [ht] using hne, _, rfl⟩
    · rename_i text ht
      split
      · rename_i hm
        exact Or.inr ⟨by simp [ht, hm], _, rfl⟩
      · rename_i accounts hm
        exact Or.inl ⟨⟨⟨x, rfl⟩, Or.inr ⟨text, ht, by simp [hm]⟩⟩, _, rfl⟩

theorem refusal?_attachStorage (d : Disk) (root : Path) :
    refusal? (attachStorage d root) = refusal? ((AccountBook.attach ⟨root⟩ d).mapError .notAttached) := by
  unfold attachStorage
  dsimp only
  cases AccountBook.attach ⟨root⟩ d <;> rfl

namespace Server

variable {s : Server} {h h' h₀ : Host}

/-- The port of a configuration is the one that the server listens on, or free ports are asked for as they were before. -/
def KeepsPort (s : Server) (h : Host) (c : Config) : Prop :=
  s.port? h = some c.server.port ∨ c.server.port = 0 ∧ s.snapshot.port = 0

instance (s : Server) (h : Host) (c : Config) : Decidable (s.KeepsPort h c) :=
  inferInstanceAs (Decidable (_ ∨ _))

/-- The documents of a configuration are where they are. -/
def KeepsRoot (s : Server) (c : Config) : Prop := c.storage.rootDirectory.same s.snapshot.storageRoot = true

instance (s : Server) (c : Config) : Decidable (s.KeepsRoot c) := inferInstanceAs (Decidable (_ = _))

/-- What there is to object to a configuration, one condition after the other: the credentials load, the group is known if there
are any, the address is the same, the port is kept or some family can be bound, the root is kept or can be attached, and the port
is kept or some listener can be opened. -/
def objections (s : Server) (h : Host) (c : Config) : List (Option Refusal) :=
  [(refusal? ((Snapshot.credentialsOf c h.disk).mapError fun e => .notLoaded (.security e))),
    if c.security.hasCertificate then refusal? ((DhGroup.ofName c.security.dhGroup).mapError .badSecurity) else none,
    if c.server.listenAddress = s.snapshot.listenAddress then none
      else some (.addressChanged s.snapshot.listenAddress c.server.listenAddress),
    if s.KeepsPort h c then none else h.network.bindObjection? c.server.listenAddress c.server.port,
    if s.KeepsRoot c then none else refusal? ((AccountBook.attach ⟨c.storage.rootDirectory⟩ h.disk).mapError .notAttached),
    if s.KeepsPort h c then none else h.network.openObjection? c.server.listenAddress c.server.port]

/-- The first thing to object to the configuration of a source, which is that it does not load where it does not. -/
def objection? (s : Server) (h : Host) (source : ConfigSource) : Option Refusal :=
  match (source.load h.environment h.disk).2 with
  | .error e => some (.notLoaded (.configuration e))
  | .ok c => (s.objections h c).findSome? id

/-- The first objection is the first of a list, or else the first of the others. -/
theorem first_cons (a : Option Refusal) (l : List (Option Refusal)) : (a :: l).findSome? id = a.or (l.findSome? id) := by
  cases a <;> rfl

/-! ## The stages -/

/-- A snapshot is refused for its credentials or for its group. -/
theorem refusal?_prepare {c : Config} {live : Option DhParameters} {r : Except Refusal Snapshot}
    (hp : Snapshot.prepare c live h = (r, h')) :
    refusal? r = (refusal? ((Snapshot.credentialsOf c h.disk).mapError fun e => Refusal.notLoaded (.security e))).or
      (if c.security.hasCertificate then refusal? ((DhGroup.ofName c.security.dhGroup).mapError .badSecurity) else none) := by
  unfold Snapshot.prepare at hp
  cases hc : Snapshot.credentialsOf c h.disk with
  | error e =>
    rw [hc] at hp
    cases hp
    rfl
  | ok x =>
    have hx := Snapshot.credentialsOf_isSome hc
    rw [hc] at hp
    cases x with
    | none =>
      cases hp
      rw [if_neg (by simp [← hx])]
      rfl
    | some credentials =>
      have ht : c.security.hasCertificate = true := hx.symm
      rw [if_pos ht]
      unfold DhParameters.ensure at hp
      cases hg : DhGroup.ofName c.security.dhGroup with
      | error e =>
        rw [hg] at hp
        cases hp
        rfl
      | ok g =>
        rw [hg] at hp
        cases hp
        rfl

/-- Acquiring for a candidate is refused for the listeners that cannot be bound, for the documents, or for the listeners that
cannot be opened. -/
theorem refusal?_acquireFor {candidate : Snapshot} {current : UInt16} {r : Except Refusal Acquisition}
    (ha : s.acquireFor h candidate current = (r, h')) :
    refusal? r =
      (if s.portChanges current candidate then h.network.bindObjection? candidate.listenAddress candidate.port else none).or
        ((if candidate.storageRoot.same s.snapshot.storageRoot then none
            else refusal? ((AccountBook.attach ⟨candidate.storageRoot⟩ h.disk).mapError .notAttached)).or
          (if s.portChanges current candidate then h.network.openObjection? candidate.listenAddress candidate.port else none)) := by
  have hattach : ∀ d, refusal? (s.attachCandidate d candidate) =
      if candidate.storageRoot.same s.snapshot.storageRoot then none
        else refusal? ((AccountBook.attach ⟨candidate.storageRoot⟩ d).mapError .notAttached) := by
    intro d
    unfold attachCandidate
    split
    · rfl
    · exact (refusal?_map _ _).trans (refusal?_attachStorage _ _)
  rw [← hattach]
  unfold acquireFor bindCandidate at ha
  cases hc : s.portChanges current candidate with
  | false =>
    rw [hc, if_neg Bool.false_ne_true] at ha
    dsimp only at ha
    rw [if_neg Bool.false_ne_true, if_neg Bool.false_ne_true, Option.none_or, Option.or_none]
    generalize s.attachCandidate h.disk candidate = x at ha
    cases x <;> cases ha <;> rfl
  | true =>
    rw [hc, if_pos rfl] at ha
    rw [if_pos rfl, if_pos rfl]
    cases hb : bindListeners h candidate.listenAddress candidate.port with
    | mk bound h₁ =>
      rw [hb] at ha
      rw [← refusal?_bindListeners hb]
      cases bound with
      | error e =>
        cases ha
        rfl
      | ok bound =>
        have hd := (bindListeners_holds hb).1.disk
        simp only [Except.map, hd] at ha
        rw [refusal?_ok, Option.none_or]
        cases hs : s.attachCandidate h.disk candidate with
        | error e =>
          rw [hs] at ha
          cases ha
          rfl
        | ok storage =>
          rw [hs] at ha
          rw [refusal?_ok, Option.none_or]
          cases ho : openListeners h₁ bound with
          | mk opened h₂ =>
            rw [← refusal?_openListeners hb ho]
            simp only [openCandidate, ho] at ha
            cases opened <;> cases ha <;> rfl

/-- The listeners are replaced exactly if the port is not kept. -/
theorem portChanges_iff {current : UInt16} (hport : s.port? h = some current) (candidate : Snapshot) :
    s.portChanges current candidate = true ↔ ¬s.KeepsPort h candidate.config := by
  have hkeeps : s.KeepsPort h candidate.config ↔ candidate.port = current ∨ candidate.port = 0 ∧ s.snapshot.port = 0 := by
    rw [KeepsPort, hport, Option.some_inj, eq_comm]
    rfl
  rw [hkeeps]
  simp [portChanges, Decidable.imp_iff_not_or]

/-- What a server that listens objects to a configuration is what acquiring is refused for. -/
theorem refusal?_acquire {current : UInt16} (hport : s.port? h = some current) {source : ConfigSource}
    {r : Except Refusal Acquisition} (ha : s.acquire h source = (r, h')) : refusal? r = s.objection? h source := by
  unfold acquire at ha
  unfold objection?
  cases hl : loadConfig source h with
  | mk loaded h₁ =>
    obtain ⟨hc₁, hn₁⟩ := loadConfig_calm hl
    have hloaded : loaded = (source.load h.environment h.disk).2.mapError fun e => .notLoaded (.configuration e) :=
      (congrArg Prod.fst hl).symm
    rw [hl] at ha
    cases hs : (source.load h.environment h.disk).2 with
    | error e =>
      rw [hs] at hloaded
      subst hloaded
      cases ha
      rfl
    | ok c =>
      rw [hs] at hloaded
      obtain rfl : loaded = .ok c := hloaded
      cases hp : Snapshot.prepare c s.snapshot.dhParameters h₁ with
      | mk prepared h₂ =>
        obtain ⟨hc₂, hn₂⟩ := Snapshot.prepare_calm hp
        have hprepare := refusal?_prepare hp
        have hdisk := hc₂.disk.trans hc₁.disk
        have hnet := hn₂.trans hn₁
        dsimp only at ha
        rw [hp] at ha
        rw [hc₁.disk] at hprepare
        dsimp only
        simp only [objections, first_cons, List.findSome?_nil, Option.or_none]
        rw [← Option.or_assoc, ← hprepare]
        cases prepared with
        | error e =>
          cases ha
          rfl
        | ok candidate =>
          obtain ⟨rfl, -⟩ := Snapshot.prepare_ok hp
          rw [refusal?_ok, Option.none_or]
          dsimp only at ha
          by_cases haddress : candidate.listenAddress = s.snapshot.listenAddress
          · have hsame : candidate.config.server.listenAddress = s.snapshot.listenAddress := haddress
            have hport₂ : s.port? h₂ = some current := by
              rw [port?, hnet]
              exact hport
            rw [if_neg (not_not_intro haddress), hport₂] at ha
            rw [if_pos hsame, Option.none_or, refusal?_acquireFor ha, hdisk, hnet]
            have hchanges := portChanges_iff hport candidate
            by_cases hk : s.KeepsPort h candidate.config
            · have hf : ¬s.portChanges current candidate = true := fun ht => hchanges.1 ht hk
              rw [if_neg hf, if_neg hf, if_pos hk, if_pos hk, Option.or_none, Option.or_none]
              rfl
            · have ht := hchanges.2 hk
              rw [if_pos ht, if_pos ht, if_neg hk, if_neg hk]
              rfl
          · have hother : ¬candidate.config.server.listenAddress = s.snapshot.listenAddress := haddress
            rw [if_pos haddress] at ha
            cases ha
            rw [if_neg hother]
            rfl

/-! ## The decision -/

end Server
end CoEdit
