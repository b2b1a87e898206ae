import CoEdit.Config.Source
import CoEdit.Proofs.Address
import CoEdit.Proofs.Config.Completion
import CoEdit.Proofs.Duration

/-!
# Configurations that are written are read back

Every value of a setting is read back from what is written for it, addresses and durations from their texts, and so is every section. What
is not set reads as if its default were: the tree of the defaults, section by section, is one of defaults in the sense of
`Decoder.Defaults`. `Config.ofTree_law` puts the two together.
-/

namespace CoEdit

open Decoder

/-! ## Values -/

namespace Decoder

theorem optional_textOrNull {α : Type} {d : Decoder α} {text : α → String} (h : ∀ a, d (.string (text a)) = .ok a) (a : Option α) :
    optional d (Config.textOrNull (a.map text)) = .ok a := by
  cases a with
  | none => rfl
  | some a => exact congrArg (Except.map some) (h a)

theorem address_text (a : IpAddress) : address (.string a.text) = .ok a := by
  rw [address, IpAddress.ofText?_text]

theorem duration_text (d : Duration) : duration (.string d.text) = .ok d := by
  rw [duration, Duration.ofText?_text]

theorem policy_keyword (p : SecurityPolicy) : policy (.string p.keyword) = .ok p := by
  rw [policy, policyNamed, SecurityPolicy.ofKeyword?_eq_some_iff.2 rfl]

theorem path_text (p : Path) : path (.string p.text) = .ok p := rfl

theorem optional_path (p : Option Path) : optional path (Config.pathOrNull p) = .ok p := optional_textOrNull path_text p

theorem optional_string (s : Option String) : optional string (Config.textOrNull s) = .ok s := by
  have hread : ∀ s, string (.string (id s)) = .ok s := fun _ => rfl
  have h := optional_textOrNull hread s
  rwa [Option.map_id] at h

theorem port_toNat (p : UInt16) : port (.ofNat p.toNat) = .ok p := by
  have hp := p.toNat_lt
  have hnumber : Tree.ofNat p.toNat = .number (.integer p.toNat) := by
    have hfits : Number.lowerBound ≤ (p.toNat : Int) ∧ (p.toNat : Int) < Number.upperBound := by
      unfold Number.lowerBound Number.upperBound
      omega
    rw [Tree.ofNat, Tree.ofInt, Number.ofInt, if_pos hfits]
  rw [hnumber, port, if_pos (by omega), Int.toNat_natCast, UInt16.ofNat_toNat]

theorem mapM_ok {α β γ : Type} {f : β → Except γ α} {g : α → β} (h : ∀ a, f (g a) = .ok a) (as : List α) :
    (as.map g).mapM f = .ok as := by
  induction as with
  | nil => rfl
  | cons a as ih =>
    rw [List.map_cons, List.mapM_cons, h, ih]
    rfl

theorem list_string (l : List String) : list string (.array (l.map .string)) = .ok l :=
  mapM_ok (fun s => (rfl : string (.string s) = .ok s)) l

theorem table_parameterTable (t : Table String ParameterTable) :
    table parameterTable (.object (t.map fun e => (e.1, .object e.2))) = .ok t := by
  let write (e : String × ParameterTable) : String × Tree := (e.1, .object e.2)
  let read (e : String × Tree) : Except DecodeError (String × ParameterTable) := (parameterTable e.2).map fun a => (e.1, a)
  have hentry : ∀ e, read (write e) = .ok e := fun _ => rfl
  exact mapM_ok hentry t

end Decoder

/-! ## Sections -/

/-- What is written for where to listen. -/
def ServerSettings.entries (s : ServerSettings) : Table String Tree :=
  [("listen-address", Config.textOrNull (s.listenAddress.map IpAddress.text)), ("port", .ofNat s.port.toNat),
    ("watch-config", .bool s.watchConfig), ("watch-debounce", .string s.watchDebounce.text)]

/-- What is written for where documents are kept. -/
def StorageSettings.entries (s : StorageSettings) : Table String Tree := [("root-directory", .string s.rootDirectory.text)]

/-- What is written for how connections are protected. -/
def SecuritySettings.entries (s : SecuritySettings) : Table String Tree :=
  [("certificate-chain", Config.pathOrNull s.certificateChain), ("certificate-file", Config.pathOrNull s.certificateFile),
    ("dh-group", .string s.dhGroup), ("key-file", Config.pathOrNull s.keyFile), ("password", Config.textOrNull s.password),
    ("policy", .string s.policy.keyword)]

/-- What is written for which plugins to load. -/
def PluginSettings.entries (s : PluginSettings) : Table String Tree :=
  [("load", .array (s.load.map .string)), ("parameters", .object (s.parameters.map fun e => (e.1, .object e.2))),
    ("path", Config.pathOrNull s.path)]

/-- What is written for what to log. -/
def LoggingSettings.entries (s : LoggingSettings) : Table String Tree := [("format", .string s.format), ("level", .string s.level)]

/-- What is written for a configuration. -/
def Config.entries (c : Config) : Table String Tree :=
  [("observability", .object [("logging", .object c.logging.entries)]), ("plugins", .object c.plugins.entries),
    ("security", .object c.security.entries), ("server", .object c.server.entries), ("storage", .object c.storage.entries)]

theorem Config.toTree_eq (c : Config) : c.toTree = .object c.entries := rfl

namespace Decoder

theorem serverSettings_entries (s : ServerSettings) : serverSettings (.object s.entries) = .ok s := by
  simp [serverSettings, record, ServerSettings.entries, readEntry, field, optional_textOrNull address_text, port_toNat, duration_text]
  rfl

theorem storageSettings_entries (s : StorageSettings) : storageSettings (.object s.entries) = .ok s := rfl

theorem securitySettings_entries (s : SecuritySettings) : securitySettings (.object s.entries) = .ok s := by
  simp [securitySettings, record, SecuritySettings.entries, readEntry, field, optional_path, optional_string, policy_keyword]
  rfl

theorem pluginSettings_entries (s : PluginSettings) : pluginSettings (.object s.entries) = .ok s := by
  simp [pluginSettings, record, PluginSettings.entries, readEntry, field, list_string, table_parameterTable, optional_path]
  rfl

theorem observability_entries (s : LoggingSettings) : observability (.object [("logging", .object s.entries)]) = .ok s := rfl

end Decoder

/-- A configuration is read back from its tree. -/
theorem Config.ofTree_toTree (c : Config) : ofTree c.toTree = .ok c := by
  rw [toTree_eq]
  simp [ofTree, record, Config.entries, readEntry, field, observability_entries, pluginSettings_entries, securitySettings_entries,
    serverSettings_entries, storageSettings_entries]
  rfl

/-! ## Defaults

The goals of each proof are the parts of `Decoder.Defaults`, in their order: the fields have places of their own, the keys ascend, each
default reads as itself, and below the values of other trees it makes no difference. -/

namespace Decoder

variable {t : Tree}

theorem serverSettings_merge (ht : t.IsSettled) :
    serverSettings (Tree.merge (.object (ServerSettings.entries {})) t) = serverSettings t := by
  unfold serverSettings
  refine Defaults.record_merge ⟨?_, ?_, ?_, refined_of_plain ?_ _⟩ _ ht
  · simp only [List.pairwise_cons, List.forall_mem_cons, List.not_mem_nil, false_imp_iff, implies_true, and_true, List.Pairwise.nil]
    and_intros <;> exact independent_field fun _ _ _ => rfl
  · unfold ServerSettings.entries Table.Ascending
    decide
  · simp only [ServerSettings.entries, List.forall_mem_cons, List.not_mem_nil, false_imp_iff, implies_true, and_true]
    exact ⟨readEntry_of_put_eq rfl (optional_textOrNull address_text none) rfl, readEntry_of_put_eq rfl (port_toNat 6523) rfl,
      readEntry_of_put_eq rfl rfl rfl, readEntry_of_put_eq rfl (duration_text _) rfl⟩
  · simp only [ServerSettings.entries, List.forall_mem_cons, List.not_mem_nil, false_imp_iff, implies_true, and_true]
    exact ⟨rfl, rfl, rfl, rfl⟩

theorem storageSettings_merge (ht : t.IsSettled) :
    storageSettings (Tree.merge (.object (StorageSettings.entries {})) t) = storageSettings t := by
  unfold storageSettings
  refine Defaults.record_merge ⟨List.pairwise_singleton _ _, List.pairwise_singleton _ _, ?_, refined_of_plain ?_ _⟩ _ ht
  · exact List.forall_mem_singleton.2 rfl
  · exact List.forall_mem_singleton.2 rfl

theorem securitySettings_merge (ht : t.IsSettled) :
    securitySettings (Tree.merge (.object (SecuritySettings.entries {})) t) = securitySettings t := by
  unfold securitySettings
  refine Defaults.record_merge ⟨?_, ?_, ?_, refined_of_plain ?_ _⟩ _ ht
  · simp only [List.pairwise_cons, List.forall_mem_cons, List.not_mem_nil, false_imp_iff, implies_true, and_true, List.Pairwise.nil]
    and_intros <;> exact independent_field fun _ _ _ => rfl
  · unfold SecuritySettings.entries Table.Ascending
    decide
  · simp only [SecuritySettings.entries, List.forall_mem_cons, List.not_mem_nil, false_imp_iff, implies_true, and_true]
    exact ⟨rfl, rfl, rfl, rfl, rfl, readEntry_of_put_eq rfl (policy_keyword _) rfl⟩
  · simp only [SecuritySettings.entries, List.forall_mem_cons, List.not_mem_nil, false_imp_iff, implies_true, and_true]
    exact ⟨rfl, rfl, rfl, rfl, rfl, rfl⟩

/-- Without plugins there are no parameters, so those of a table are all there are. -/
theorem pluginSettings_merge (ht : t.IsSettled) :
    pluginSettings (Tree.merge (.object (PluginSettings.entries {})) t) = pluginSettings t := by
  unfold pluginSettings
  refine Defaults.record_merge ⟨?_, ?_, ?_, ?_⟩ _ ht
  · simp only [List.pairwise_cons, List.forall_mem_cons, List.not_mem_nil, false_imp_iff, implies_true, and_true, List.Pairwise.nil]
    and_intros <;> exact independent_field fun _ _ _ => rfl
  · unfold PluginSettings.entries Table.Ascending
    decide
  · simp only [PluginSettings.entries, List.forall_mem_cons, List.not_mem_nil, false_imp_iff, implies_true, and_true]
    exact ⟨rfl, rfl, rfl⟩
  · simp only [PluginSettings.entries, List.forall_mem_cons, List.not_mem_nil, false_imp_iff, implies_true, and_true]
    refine ⟨fun t _ => readEntry_congr rfl ?_, fun t ht => readEntry_congr rfl ?_, fun t _ => readEntry_congr rfl ?_⟩
    · rw [Tree.merge_of_not_object (.inl rfl)]
    · exact congrArg _ (Tree.merge_empty ht)
    · rw [Tree.merge_of_not_object (.inl rfl)]

theorem loggingSettings_merge (ht : t.IsSettled) :
    loggingSettings (Tree.merge (.object (LoggingSettings.entries {})) t) = loggingSettings t := by
  unfold loggingSettings
  refine Defaults.record_merge ⟨?_, ?_, ?_, refined_of_plain ?_ _⟩ _ ht
  · exact List.pairwise_pair.2 (independent_field fun _ _ _ => rfl)
  · unfold LoggingSettings.entries Table.Ascending
    decide
  · simp only [LoggingSettings.entries, List.forall_mem_cons, List.not_mem_nil, false_imp_iff, implies_true, and_true]
    exact ⟨rfl, rfl⟩
  · simp only [LoggingSettings.entries, List.forall_mem_cons, List.not_mem_nil, false_imp_iff, implies_true, and_true]
    exact ⟨rfl, rfl⟩

theorem observability_merge (ht : t.IsSettled) :
    observability (Tree.merge (.object [("logging", .object (LoggingSettings.entries {}))]) t) = observability t := by
  unfold observability
  refine Defaults.record_merge ⟨List.pairwise_singleton _ _, List.pairwise_singleton _ _, ?_, ?_⟩ _ ht
  · exact List.forall_mem_singleton.2 rfl
  · exact List.forall_mem_singleton.2 fun t ht => readEntry_congr rfl (loggingSettings_merge ht)

end Decoder

/-- What a tree says nothing about, at any level, reads as its default. -/
theorem Config.ofTree_merge {t : Tree} (ht : t.IsSettled) : ofTree (Tree.merge (toTree {}) t) = ofTree t := by
  rw [toTree_eq]
  unfold ofTree
  refine Defaults.record_merge ⟨?_, ?_, ?_, ?_⟩ _ ht
  · simp only [List.pairwise_cons, List.forall_mem_cons, List.not_mem_nil, false_imp_iff, implies_true, and_true, List.Pairwise.nil]
    and_intros <;> exact independent_field fun _ _ _ => rfl
  · unfold Config.entries Table.Ascending
    decide
  · simp only [Config.entries, List.forall_mem_cons, List.not_mem_nil, false_imp_iff, implies_true, and_true]
    exact ⟨readEntry_of_put_eq rfl (observability_entries _) rfl, readEntry_of_put_eq rfl (pluginSettings_entries _) rfl,
      readEntry_of_put_eq rfl (securitySettings_entries _) rfl, readEntry_of_put_eq rfl (serverSettings_entries _) rfl,
      readEntry_of_put_eq rfl (storageSettings_entries _) rfl⟩
  · simp only [Config.entries, List.forall_mem_cons, List.not_mem_nil, false_imp_iff, implies_true, and_true]
    exact ⟨fun t ht => readEntry_congr rfl (observability_merge ht), fun t ht => readEntry_congr rfl (pluginSettings_merge ht),
      fun t ht => readEntry_congr rfl (securitySettings_merge ht), fun t ht => readEntry_congr rfl (serverSettings_merge ht),
      fun t ht => readEntry_congr rfl (storageSettings_merge ht)⟩

/-- Configurations and trees. Every configuration is read back from its tree. A settled tree over the tree of the defaults has what the
tree has, and the defaults wherever the tree has nothing, and it reads as the tree itself. -/
theorem Config.ofTree_law :
    (∀ c : Config, ofTree c.toTree = .ok c) ∧
    ∀ t : Tree, t.IsSettled →
      (∀ p v, v.isObject = false → ((Tree.merge (toTree {}) t).at? p = some v ↔
        t.at? p = some v ∨ ((toTree {}).at? p = some v ∧ ¬t.Overrides p))) ∧
      ofTree (Tree.merge (toTree {}) t) = ofTree t :=
  ⟨ofTree_toTree, fun _ ht => ⟨fun p _ hv => Tree.at?_merge_eq_some ht hv _ p, ofTree_merge ht⟩⟩

/-- A tree that sets two things and nothing else. -/
def Config.sparse : Tree :=
  Tree.ofEntries [("observability", Tree.ofEntries [("logging", Tree.ofEntries [("level", .string "warn")])]),
    ("server", Tree.ofEntries [("watch-config", .bool true)])]

/-- Completed with the defaults it has a port as well, and reads the same. -/
theorem Config.ofTree_law_sparse :
    sparse.IsSettled ∧ (Tree.merge (toTree {}) sparse).at? ["server", "port"] = some (.ofNat 6523) ∧
      ofTree (Tree.merge (toTree {}) sparse) = .ok { server := { watchConfig := true }, logging := { level := "warn" } } := by
  have hs : sparse.IsSettled := by
    have hsettled : sparse = sparse.settled := rfl
    rw [hsettled]
    exact Tree.isSettled_settled sparse
  refine ⟨hs, rfl, ?_⟩
  rw [(ofTree_law.2 sparse hs).2]
  rfl

end CoEdit
