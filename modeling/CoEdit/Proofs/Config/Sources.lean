import CoEdit.Proofs.Server.Acquisition
import CoEdit.Proofs.Tree.Layers

/-!
# What sources give

A configuration can be had from a file, from several files or from a text. A file is read alike alone and as the only layer
(`ConfigSource.read_layered`), and its text gives the same under the format that its name tells (`ConfigSource.read_inline`). Whatever the
source, a configuration that is given passes the validation, which is spelled out as `Config.Acceptable`: the validation lets exactly those
configurations through (`Config.isValid_iff`).
-/

namespace CoEdit

/-! ## What the validation lets through -/

namespace Finding

variable {fs gs : List Finding} {b : Bool} {e : ConfigError}

/-- The verdict is good exactly if there is no fault. -/
theorem verdict_eq_ok_iff : (verdict fs).2 = .ok () ↔ ∀ e, .fault e ∉ fs := by
  refine ⟨fun h => not_mem_of_verdict h, fun h => ?_⟩
  induction fs with
  | nil => rfl
  | cons f fs ih =>
    cases f with
    | fault e => exact absurd List.mem_cons_self (h e)
    | warning w => exact ih fun e he => h e (List.mem_cons_of_mem _ he)

/-- A list of findings without faults. -/
def Faultless (fs : List Finding) : Prop := ∀ e, .fault e ∉ fs

theorem faultless_nil : Faultless [] := fun _ => List.not_mem_nil

theorem faultless_append : Faultless (fs ++ gs) ↔ Faultless fs ∧ Faultless gs := by
  simp only [Faultless, List.mem_append, not_or, forall_and]

theorem faultless_faultIf : Faultless (faultIf b e) ↔ b = false := by
  cases b with
  | false => exact iff_of_true faultless_nil rfl
  | true => exact iff_of_false (fun h => h e List.mem_cons_self) (fun h => nomatch h)

theorem faultless_warnIf (b : Bool) (message : String) (fields : List (String × String)) : Faultless (warnIf b message fields) := by
  cases b with
  | false => exact faultless_nil
  | true => exact fun _ h => nomatch List.mem_singleton.1 h

theorem faultless_map_warn {α : Type} (l : List α) (message : String) (fields : α → List (String × String)) :
    Faultless (l.map fun a => warn message (fields a)) := by
  intro e he
  obtain ⟨a, -, ha⟩ := List.mem_map.1 he
  cases ha

end Finding

namespace Config

open Finding

variable {c : Config}

/-- A word over the letters a to z, the digits, the hyphen and the underscore. -/
def IsPluginWord (name : String) : Prop :=
  name ≠ "" ∧ ∀ c ∈ name.toList, ('a' ≤ c ∧ c ≤ 'z') ∨ ('0' ≤ c ∧ c ≤ '9') ∨ c = '-' ∨ c = '_'

/-- What a configuration has to satisfy. -/
structure Acceptable (c : Config) : Prop where
  root : c.storage.rootDirectory.text ≠ ""
  /-- A certificate and its key are set both or neither. -/
  key : c.security.certificateFile.isSome = c.security.keyFile.isSome
  chain : c.security.certificateChain.isSome = true → c.security.certificateFile.isSome = true
  material : c.security.policy.usesTls = true → c.security.certificateFile.isSome = true ∧ c.security.keyFile.isSome = true
  group : c.security.dhGroup ≠ ""
  password : c.security.password ≠ some ""
  plugins : ∀ name ∈ c.plugins.load, IsPluginWord name
  format : c.logging.format = "text" ∨ c.logging.format = "json"
  /-- Any letters of the level may be capitals. -/
  level : c.logging.level.toLower ∈ ["trace", "debug", "info", "warn", "error"]

theorem isPluginName_iff {name : String} : isPluginName name = true ↔ IsPluginWord name := by
  simp [isPluginName, IsPluginWord, isPluginNameChar, or_assoc]

theorem faultless_loadFindings (seen names : List String) :
    Faultless (loadFindings seen names) ↔ ∀ name ∈ names, IsPluginWord name := by
  induction names generalizing seen with
  | nil => exact iff_of_true faultless_nil fun _ h => absurd h List.not_mem_nil
  | cons name rest ih =>
    rw [loadFindings, faultless_append, faultless_append, faultless_faultIf, ih, List.forall_mem_cons, Bool.not_eq_false',
      isPluginName_iff, and_iff_left (faultless_warnIf _ _ _)]

theorem faultless_securityFindings (s : SecuritySettings) : Faultless (securityFindings s) ↔
    s.certificateFile.isSome = s.keyFile.isSome ∧
    (s.certificateChain.isSome = true → s.certificateFile.isSome = true) ∧
    (s.policy.usesTls = true → s.certificateFile.isSome = true ∧ s.keyFile.isSome = true) ∧
    s.dhGroup ≠ "" ∧ s.password ≠ some "" := by
  simp only [securityFindings, faultless_append, faultless_faultIf, faultless_warnIf, SecuritySettings.hasCertificate]
  cases s.certificateFile <;> cases s.keyFile <;> cases s.certificateChain <;> cases s.policy.usesTls <;> simp

theorem faultless_loggingFindings (s : LoggingSettings) : Faultless (loggingFindings s) ↔
    (s.format = "text" ∨ s.format = "json") ∧ s.level.toLower ∈ ["trace", "debug", "info", "warn", "error"] := by
  have hlower : s.level.toLower = s.level.map Char.toLower := rfl
  have hlowered : lowered s.level = s.level.toLower := by
    rw [lowered, Decimal.lowered, hlower, ← String.toList_map, String.ofList_toList]
  rw [loggingFindings, faultless_append, faultless_faultIf, faultless_faultIf, hlowered]
  simp [logFormats, logLevels, or_iff_not_imp_left]

/-- The validation lets exactly the acceptable configurations through. -/
theorem isValid_iff : c.IsValid ↔ c.Acceptable := by
  have hstorage : Faultless (storageFindings c.storage) ↔ c.storage.rootDirectory.text ≠ "" := by
    rw [storageFindings, faultless_faultIf, decide_eq_false_iff_not]
  have hplugins : Faultless (pluginFindings c.plugins) ↔ ∀ name ∈ c.plugins.load, IsPluginWord name := by
    rw [pluginFindings, faultless_append, faultless_loadFindings, and_iff_left (faultless_map_warn _ _ _)]
  rw [IsValid, validate, verdict_eq_ok_iff, ← Faultless, findings, faultless_append, faultless_append, faultless_append, hstorage,
    faultless_securityFindings, hplugins, faultless_loggingFindings]
  constructor
  · rintro ⟨⟨⟨hroot, hkey, hchain, hmaterial, hgroup, hpassword⟩, hplugins⟩, hformat, hlevel⟩
    exact ⟨hroot, hkey, hchain, hmaterial, hgroup, hpassword, hplugins, hformat, hlevel⟩
  · rintro ⟨hroot, hkey, hchain, hmaterial, hgroup, hpassword, hplugins, hformat, hlevel⟩
    exact ⟨⟨⟨hroot, hkey, hchain, hmaterial, hgroup, hpassword⟩, hplugins⟩, hformat, hlevel⟩

/-! ## One text, three sources -/

variable {env : Environment} {d : Disk} {file : Path}

/-- A file that is the only layer is read like a file alone. -/
theorem ofFiles_singleton (env : Environment) (d : Disk) (file : Path) : ofFiles env d [file] = ofFile env d file := by
  rw [ofFiles, if_neg (List.cons_ne_nil _ _), List.mapM_cons, List.mapM_nil, ofFile]
  cases ht : treeOfFile env d file with
  | error e => rfl
  | ok t =>
    have hlayer : Tree.layered [t] = t := Tree.merge_empty (isSettled_treeOfFile ht)
    show decode (Tree.layered [t]) = decode t
    rw [hlayer]

/-- A file is read like its text under the format that its name tells. -/
theorem ofFile_of_readText {text : String} {format : DocumentFormat} (ht : d.readText file = .ok text)
    (hf : DocumentFormat.ofPath file = .ok format) : ofFile env d file = ofText format env text := by
  rw [ofFile, treeOfFile, ht, ofText]
  dsimp only
  rw [hf]
  rfl

/-- What is given is what was read, if it is acceptable. -/
theorem validated_eq_ok_iff {r : Except ConfigError Config} : (validated r).2 = .ok c ↔ r = .ok c ∧ c.Acceptable := by
  rw [← isValid_iff, IsValid]
  cases r with
  | error e => simp [validated]
  | ok c' =>
    rw [validated, Except.ok.injEq]
    cases hv : c'.validate.2 with
    | error e =>
      refine iff_of_false (by simp [hv, Except.map]) ?_
      rintro ⟨rfl, h⟩
      rw [hv] at h
      cases h
    | ok u =>
      simp only [hv, Except.map, Except.ok.injEq]
      refine ⟨?_, And.left⟩
      rintro rfl
      exact ⟨rfl, hv⟩

end Config

namespace ConfigSource

/-- What a source gives does not depend on its kind, and is acceptable. A file gives the same alone and as the only layer, be it a
configuration with the warnings about it or a fault. If it holds a text and its name tells a format, the text gives the same under that
format. A source of any kind gives the configuration that is read from it exactly if that is acceptable. -/
theorem load_law (env : Environment) (d : Disk) :
    (∀ path, (file path).load env d = (layered [path]).load env d) ∧
    (∀ path text format, d.readText path = .ok text → DocumentFormat.ofPath path = .ok format →
      (file path).load env d = (inline format text).load env d ∧ (layered [path]).load env d = (inline format text).load env d) ∧
    ∀ (s : ConfigSource) (c : Config), (s.load env d).2 = .ok c ↔ s.read env d = .ok c ∧ c.Acceptable := by
  have hlayer : ∀ path, (file path).load env d = (layered [path]).load env d := by
    intro path
    rw [load, load, read, read, Config.ofFiles_singleton]
  refine ⟨hlayer, ?_, fun s c => Config.validated_eq_ok_iff⟩
  intro path text format ht hf
  have htext : (file path).load env d = (inline format text).load env d := by
    rw [load, load, read, read, Config.ofFile_of_readText ht hf]
  exact ⟨htext, (hlayer path).symm.trans htext⟩

/-- A document with a placeholder in it. -/
def guarded : String := "security: \x7bpolicy: $\x7bPOLICY:-no-tls\x7d\x7d"

/-- A machine with that document in its working directory. -/
def keepingDisk : Disk := { Disk.empty with entries := [(["work"], .directory), (["work", "tandem.yml"], .file guarded.toUTF8 false)] }

/-- The document gives an acceptable configuration, as a file, as a layer and as a text. -/
theorem load_law_guarded :
    keepingDisk.readText ⟨"tandem.yml"⟩ = .ok guarded ∧ DocumentFormat.ofPath ⟨"tandem.yml"⟩ = .ok .yaml ∧
    (layered [⟨"tandem.yml"⟩]).load [] keepingDisk = (inline .yaml guarded).load [] keepingDisk ∧
    ∃ c, ((layered [⟨"tandem.yml"⟩]).load [] keepingDisk).2 = .ok c ∧ c.Acceptable := by
  have htext : keepingDisk.readText ⟨"tandem.yml"⟩ = .ok guarded := by
    have h : (keepingDisk.readText ⟨"tandem.yml"⟩).toOption = some guarded := by decide +kernel
    cases hr : keepingDisk.readText ⟨"tandem.yml"⟩ with
    | error e =>
      rw [hr] at h
      cases h
    | ok text =>
      rw [hr] at h
      cases h
      rfl
  have hformat : DocumentFormat.ofPath ⟨"tandem.yml"⟩ = .ok .yaml := rfl
  obtain ⟨-, hsame, hgiven⟩ := load_law [] keepingDisk
  refine ⟨htext, hformat, (hsame _ _ _ htext hformat).2, ?_⟩
  have hok : ((layered [⟨"tandem.yml"⟩]).load [] keepingDisk).2.toOption.isSome = true := by decide +kernel
  cases hl : ((layered [⟨"tandem.yml"⟩]).load [] keepingDisk).2 with
  | error e =>
    rw [hl] at hok
    cases hok
  | ok c => exact ⟨c, rfl, ((hgiven _ _).1 hl).2⟩

end ConfigSource
end CoEdit
