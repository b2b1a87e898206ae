import CoEdit.Proofs.Connection.Handshake
import CoEdit.Proofs.Server.Run

/-!
# Authentication of the connections of a server

Contexts are installed on a connection when it is added, by every reload that succeeds, and by anyone who resets it. Handshakes begin and
end in between. `Server.history` tells what an arbitrary run of a server is to one connection, as steps of its authentication; from the
moment it is added the connection is what these steps make of it (`Server.connection?_takeAll`), and so its state is decided by them
(`Server.authentication_of_history`).
-/

namespace CoEdit

/-- What can be done with a server whose connections are reset one by one. -/
inductive AuthAction where
  | act (a : ServerAction)
  /-- A context is installed on a connection, or taken away from it. -/
  | reset (id : Nat) (context : Option AuthContext)

/-- Whether an action leaves a connection in the directory, and does not change it by means other than handshakes and contexts. -/
def AuthAction.Spares (id : Nat) : AuthAction → Prop
  | .act (.removeConnection n) => n ≠ id
  | .act (.editDirectory f) => ∀ d, (f d).connection? id = d.connection? id
  | _ => True

/-! ## Changes of a directory -/

namespace Directory

/-- One connection changes, the others stay. -/
theorem connection?_updateConnection (d : Directory) (n : Nat) {f : Connection → Connection} (hf : ∀ c, (f c).id = c.id) (id : Nat) :
    (d.updateConnection n f).connection? id = if n = id then (d.connection? id).map f else d.connection? id := by
  have hid : ∀ c : Connection, number (if c.id = n then f c else c) = number c := by
    intro c
    split
    · exact hf c
    · rfl
  have hmap := Roster.get?_map (fun c : Connection => if c.id = n then f c else c) hid id d.connections
  refine Eq.trans hmap ?_
  cases hc : Roster.get? id d.connections with
  | none => rw [connection?, hc, Option.map_none, Option.map_none, ite_self]
  | some c =>
    obtain ⟨rfl, -⟩ := Roster.get?_eq_some hc
    rw [connection?, hc]
    by_cases hn : n = number c
    · rw [if_pos hn, Option.map_some, Option.map_some, if_pos (show c.id = n from hn.symm)]
    · rw [if_neg hn, Option.map_some, if_neg (show ¬c.id = n from Ne.symm hn)]

/-- A context is installed on every connection. -/
theorem connection?_installContext (d : Directory) (context : Option AuthContext) (id : Nat) :
    (d.installContext context).connection? id = (d.connection? id).map (·.install context) :=
  Roster.get?_map (fun c : Connection => c.install context) (fun c => c.install_id context) id d.connections

end Directory

namespace Server

variable {s : Server} {h : Host} {id : Nat} {c : Connection}

/-! ## Reloads -/

/-- What a reload with an outcome does to the authentication of connections. A refused one does nothing. Another one resets every
connection and counts the handshakes that it aborts thereby, and authenticates nobody. -/
def Resets (s s' : Server) : Except Refusal ReloadSummary → Prop
  | .error _ => s' = s
  | .ok summary =>
    s'.directory.connections = s.directory.connections.map (fun c => (c.resetAuthentication s'.snapshot.context).2) ∧
    summary.abortedAuthentications = s.directory.connections.countP (fun c => (c.resetAuthentication s'.snapshot.context).1) ∧
    ∀ c ∈ s.directory.connections, (c.resetAuthentication s'.snapshot.context).2.state = .authenticated → c.state = .authenticated

theorem abortedAuthentications_commit (s : Server) (h : Host) (a : Acquisition) :
    (s.commit h a).1.abortedAuthentications = s.directory.authenticating :=
  congrArg (List.countP _) (connections_renewStorage _ _ _)

theorem resets_reload (engine : ReloadEngine) (s : Server) (h : Host) (source : ConfigSource) :
    s.Resets (engine.reload s h source).2.2.1 (engine.reload s h source).1 := by
  rw [reload_eq]
  generalize s.acquire h source = x
  obtain ⟨r | a, h'⟩ := x
  · rfl
  · refine ⟨?_, ?_, ?_⟩
    · simp only [Connection.resetAuthentication_snd]
      exact connections_commit s h' a
    · simp only [Connection.resetAuthentication_fst]
      exact abortedAuthentications_commit s h' a
    · intro c _ hc
      rw [Connection.resetAuthentication_snd] at hc
      exact (c.install_authenticated _).1 hc

/-! ## Histories -/

/-- The server and its host after an action. -/
def performAuth (s : Server) (h : Host) : AuthAction → Server × Host
  | .act a => s.perform h a
  | .reset id context => s.perform h (.editDirectory fun d => d.updateConnection id fun c => (c.resetAuthentication context).2)

/-- The server and its host after actions, one after the other. -/
def performAuths (s : Server) (h : Host) (as : List AuthAction) : Server × Host :=
  as.foldl (fun x a => x.1.performAuth x.2 a) (s, h)

/-- What an action is to the authentication of a connection. -/
def authSteps (s : Server) (h : Host) (id : Nat) : AuthAction → List AuthStep
  | .act (.reload engine source) => match engine.reload s h source with
    | (.ok _, _, s', _) => [.installed s'.snapshot.context]
    | (.error _, _, _, _) => []
  | .act (.beginAuthentication n) => if n = id then [.began] else []
  | .act (.completeAuthentication n password) => if n = id then [.completed password] else []
  | .reset n context => if n = id then [.installed context] else []
  | _ => []

/-- What a run is to the authentication of a connection. -/
def history (s : Server) (h : Host) (id : Nat) : List AuthAction → List AuthStep
  | [] => []
  | a :: as => s.authSteps h id a ++ history (s.performAuth h a).1 (s.performAuth h a).2 id as

/-- A change of one connection that is a step of its authentication. -/
theorem connection?_step (hc : s.directory.connection? id = some c) (n : Nat) {f : Connection → Connection} {x : AuthStep}
    (hf : ∀ c, f c = c.take x) :
    (s.directory.updateConnection n f).connection? id = some (c.takeAll (if n = id then [x] else [])) := by
  rw [Directory.connection?_updateConnection _ _ (fun c => (congrArg Connection.id (hf c)).trans (c.take_id x)), hc]
  split
  · exact congrArg some (hf c)
  · rfl

/-- After an action a connection that it spares is what the action is to it makes of it. -/
theorem connection?_performAuth (hc : s.directory.connection? id = some c) {a : AuthAction} (ha : a.Spares id) :
    (s.performAuth h a).1.directory.connection? id = some (c.takeAll (s.authSteps h id a)) := by
  cases a with
  | reset n context => exact connection?_step hc n fun c => c.resetAuthentication_snd context
  | act a =>
    cases a with
    | reload engine source =>
      rw [performAuth, perform, authSteps, reload_eq]
      generalize s.acquire h source = x
      obtain ⟨r | a, h'⟩ := x
      · exact hc
      · have hi := Directory.connection?_installContext
          (renewStorage s.directory (s.registry.unloadAll (s.renewPool h' a).2).2 a).1 a.snapshot.context id
        refine Eq.trans hi ?_
        rw [Directory.connection?, connections_renewStorage]
        exact congrArg (Option.map _) hc
    | addConnection c' =>
      rw [performAuth, perform]
      cases hn : s.directory.connections.contains c'.id with
      | true => exact (addConnection_refused s h hn) ▸ hc
      | false =>
        rw [addConnection_accepted s h hn]
        refine (Roster.get?_insert _ _ _).trans ?_
        rw [if_neg]
        · exact hc
        · intro he
          obtain rfl : c'.id = id := he
          exact Bool.eq_false_iff.1 hn (Option.isSome_of_eq_some hc)
    | removeConnection n =>
      have hkeep : Roster.get? id (s.directory.connections.remove n) = some c := by
        rw [Roster.get?_remove, if_neg ha]
        exact hc
      rw [performAuth, perform]
      cases hn : s.directory.connection? n with
      | none => exact (removeConnection_unknown s h hn) ▸ hkeep
      | some c' => exact (removeConnection_known s h hn) ▸ hkeep
    | addSession x =>
      rw [performAuth, perform]
      cases hx : s.directory.sessions.contains x.id with
      | true => exact (addSession_refused s h hx) ▸ hc
      | false => exact (addSession_accepted s h hx) ▸ hc
    | removeSession n =>
      rw [performAuth, perform]
      cases hx : s.directory.session? n with
      | none => exact (removeSession_unknown s h hx) ▸ hc
      | some x => exact (removeSession_known s h hx) ▸ hc
    | beginAuthentication n => exact connection?_step hc n fun _ => rfl
    | completeAuthentication n password => exact connection?_step hc n (x := .completed password) fun _ => rfl
    | editDirectory f => exact (ha s.directory).trans hc
    | shutdown => exact hc
    | circumstances w => exact hc

/-- Along a run that spares it, a connection is what its history makes of it. -/
theorem connection?_takeAll (hc : s.directory.connection? id = some c) {as : List AuthAction} (ha : ∀ a ∈ as, a.Spares id) :
    (s.performAuths h as).1.directory.connection? id = some (c.takeAll (s.history h id as)) := by
  induction as generalizing s h c with
  | nil => exact hc
  | cons a as ih =>
    rw [history, Connection.takeAll_append]
    exact ih (connection?_performAuth hc (ha a List.mem_cons_self)) fun b hb => ha b (List.mem_cons_of_mem a hb)

/-- A connection that is added to a directory is the one that was given, with the context of the directory installed. -/
theorem connection?_added {dir dir' : Directory} (hadd : dir.addConnection c = .ok dir') :
    dir'.connection? c.id = some (c.takeAll [.installed dir.security]) := by
  unfold Directory.addConnection at hadd
  split at hadd
  · cases hadd
  · cases hadd
    exact (Roster.get?_insert _ _ _).trans (if_pos rfl)

/-- A server adds connections to its directory. -/
theorem directory_addConnection (s : Server) (h : Host) (hc : s.directory.connections.contains c.id = false) :
    s.directory.addConnection c = .ok (s.addConnection h c).2.1.directory := by
  rw [addConnection_accepted s h hc, Directory.addConnection, if_neg (by simp [hc])]

/-- The state of a connection that was not authenticated when it was added to the directory of a server is decided by its history, which
begins with the context it was given then. It is authenticated if the last attempt was a password that was accepted, in a handshake if the
last attempt was a begin and no context was installed since, and not authenticated otherwise. A context that is installed on it aborts a
handshake if there is one. A reload that is refused changes nothing; one that succeeds resets all connections, counts those whose
handshakes it aborts, and authenticates none. -/
theorem authentication_of_history {s : Server} (h : Host) {dir : Directory} {c : Connection} (hc : c.state = .unauthenticated)
    (hadd : dir.addConnection c = .ok s.directory) {as : List AuthAction} (ha : ∀ a ∈ as, a.Spares c.id) :
    let now := s.performAuths h as
    let steps := .installed dir.security :: s.history h c.id as
    (∃ d, now.1.directory.connection? c.id = some d ∧
      (d.state = .authenticated ↔ AuthStep.Accepted c.context steps) ∧
      (d.state = .authenticating ↔ AuthStep.Pending steps) ∧
      (d.state = .unauthenticated ↔ ¬AuthStep.Accepted c.context steps ∧ ¬AuthStep.Pending steps) ∧
      ∀ context, (d.resetAuthentication context).1 = true ↔ AuthStep.Pending steps) ∧
    ∀ (engine : ReloadEngine) source,
      now.1.Resets (engine.reload now.1 now.2 source).2.2.1 (engine.reload now.1 now.2 source).1 := by
  intro now steps
  have hd := connection?_takeAll (h := h) (connection?_added hadd) ha
  rw [← Connection.takeAll_append] at hd
  obtain ⟨hyes, hpending⟩ := c.state_after hc steps
  refine ⟨⟨_, hd, hyes, hpending, ?_, ?_⟩, fun engine source => resets_reload engine now.1 now.2 source⟩
  · show (c.takeAll steps).state = _ ↔ _
    rw [← hyes, ← hpending]
    cases (c.takeAll steps).state <;> simp
  · intro context
    rw [Connection.resetAuthentication_fst, ← hpending, Connection.isAuthenticating, decide_eq_true_iff]
    exact Iff.rfl

/-- A source that asks for a password of letters. -/
def guarded (password : String) : ConfigSource :=
  .inline .json ("\x7b\"security\":\x7b\"policy\":\"no-tls\",\"password\":\"" ++ password ++ "\"\x7d\x7d")

/-- A client that just came. -/
def visitor : Connection := { id := 1, peer := { ip := .any .ipv4, port := 9 } }

/-- A handshake that a reload aborts, one that ends with the password asked for, and another password after that. -/
def changeOfPassword : List AuthAction :=
  [.act (.beginAuthentication 1), .act (.reload {} (guarded "first")), .act (.beginAuthentication 1),
    .act (.completeAuthentication 1 "first"), .act (.reload {} (guarded "second"))]

/-- The client stays authenticated when its password is no longer the one asked for: it was when the client gave it. -/
theorem authentication_of_history_change : ∃ (s : Server) (h : Host) (dir : Directory),
    dir.addConnection visitor = .ok s.directory ∧
    s.history h 1 changeOfPassword =
      [.began, .installed (some (.plain "first")), .began, .completed "first", .installed (some (.plain "second"))] ∧
    AuthStep.Accepted none (.installed dir.security :: s.history h 1 changeOfPassword) ∧
    ((s.performAuths h changeOfPassword).1.directory.connection? 1).map (·.state) = some .authenticated := by
  have hrun : plainStart.1.toOption.map (fun s =>
      let x := (s.addConnection plainStart.2 visitor).2
      (s.directory.connections.contains 1, x.1.history x.2 1 changeOfPassword,
        ((x.1.performAuths x.2 changeOfPassword).1.directory.connection? 1).map (·.state))) =
      some (false, [.began, .installed (some (.plain "first")), .began, .completed "first", .installed (some (.plain "second"))],
        some .authenticated) := by
    decide +kernel
  obtain ⟨s, h, hs⟩ := plainStart_ok
  rw [hs] at hrun
  simp only [Except.toOption, Option.map_some, Option.some.injEq, Prod.mk.injEq] at hrun
  obtain ⟨hn, hhistory, hstate⟩ := hrun
  have hadd := directory_addConnection (c := visitor) s h hn
  have hspares : ∀ a ∈ changeOfPassword, AuthAction.Spares visitor.id a := by simp [changeOfPassword, AuthAction.Spares]
  obtain ⟨⟨d, hd, hyes, -⟩, -⟩ := authentication_of_history (s.addConnection h visitor).2.2 rfl hadd hspares
  refine ⟨_, (s.addConnection h visitor).2.2, s.directory, hadd, hhistory, hyes.1 ?_, hstate⟩
  have hmap := congrArg (Option.map Connection.state) hd
  exact Option.some.inj (hmap.symm.trans hstate)

end Server
end CoEdit
