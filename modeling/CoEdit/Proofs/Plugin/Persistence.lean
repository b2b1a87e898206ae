import CoEdit.Proofs.Plugin.Care
import CoEdit.Proofs.Plugin.Outside

/-!
# Nothing that was recorded is lost

Whatever happened since a plugin that saves documents was loaded, the content that was recorded last of a session is delivered to its
document whichever way the session goes away from the plugin: on its own, or because the plugin is unloaded, or all plugins are, or the
registry is let go of (`Autosave.Premises.Persists`). Sessions that are none on a text make the plugin write nothing
(`Autosave.Premises.Ignores`).
-/

namespace CoEdit
namespace Autosave.Premises

variable (π : Premises)

/-- What was recorded last of a session is delivered when it goes away from the plugin. -/
structure Persists (r : Registry) (h : Host) (last : Recordings) : Prop where
  removed : ∀ y z content, y.id = z.id → π.Recorded r.sessions last z content → π.Delivers h z content (r.sessionRemoved h y).2
  unloaded : ∀ name i, r.named? name = some i → i.number = π.number → ∀ z content, π.Recorded r.sessions last z content →
    π.Delivers h z content (r.unload h name).2.2
  allUnloaded : ∀ z content, π.Recorded r.sessions last z content → π.Delivers h z content (r.unloadAll h).2
  released : ∀ z content, π.Recorded r.sessions last z content → π.Delivers h z content (r.release h)

/-- For sessions that are none on a text the plugin writes nothing. When one comes or goes, the disk is the one that the other plugins
leave. Nothing can be recorded or flushed for it. When the plugin leaves, it writes what it would if there were no such sessions. -/
structure Ignores (r : Registry) (h : Host) : Prop where
  added : ∀ y, descriptor.accepts y.kind = false → (r.sessionAdded h y).2.disk = ((π.without r).sessionAdded h y).2.disk
  removed : ∀ y, follows r y.id = false → (r.sessionRemoved h y).2.disk = ((π.without r).sessionRemoved h y).2.disk
  recordChange : ∀ id content, follows r id = false → r.recordChange π.number id content = r
  flush : ∀ id, follows r id = false → r.flush h π.number id = none
  flushIfDue : ∀ id now, follows r id = false → r.flushIfDue h π.number id now = none
  unloaded : ∀ name i, r.named? name = some i → i.number = π.number →
    (r.unload h name).2.2.disk = ((tracked r).unload h name).2.2.disk
  allUnloaded : AllAlong (fun x i => x.1.dismiss x.2 i)
    (fun x i => i.number = π.number → (x.1.dismiss x.2 i).2.disk = ((tracked x.1).dismiss x.2 i).2.disk)
    ({ r with instances := [] }, h) r.instances.reverse

variable {π} {r : Registry} {h h' : Host} {last : Recordings} {i : PluginInstance} {is leaving : List PluginInstance}

/-- Without plugins in its list, a registry keeps the states of those that are about to leave. -/
theorem Safe.keeps_leaving (s : π.Safe r h last) : Registry.Keeps { r with instances := [] } (r.instances.reverse ++ []) := by
  rw [List.append_nil]
  exact s.keeps.parting (List.reverse_perm r.instances).symm []

theorem Safe.persists (s : π.Safe r h last) (g : π.Granted) : π.Persists r h last := by
  have hall : ∀ z content, π.Recorded r.sessions last z content → π.Delivers h z content (r.unloadAll h).2 := by
    intro z content hz
    rw [Registry.unloadAll, if_neg]
    · exact (s.company.delivered_dismissAll g (r := { r with instances := [] }) s.admits s.keeps.sessions hz (s.carried hz)).delivers
    · obtain ⟨i, hi, -⟩ := s.company.saver
      exact List.ne_nil_of_mem hi
  refine ⟨?_, ?_, hall, fun z content hz => r.release_eq h ▸ hall z content hz⟩
  · intro y z content hid hz
    rw [Registry.sessionRemoved, if_neg]
    · exact (s.company.delivered_leave g hz hid (s.carried hz)).delivers
    · rw [not_not, Roster.contains, hid, hz.observed]
      rfl
  · intro name i hi hn z content hz
    have hsaver := s.company.isSaver (List.mem_of_find?_eq_some hi) hn
    rw [unload_eq hi]
    exact (Carried.dismiss (r := { r with instances := _ }) (s.carried hz) g s.admits s.keeps.sessions hz hsaver).delivers

/-- Plugins leave one after the other, and the one that saves documents writes nothing for other sessions than those on texts. -/
theorem allAlong_dismiss (k : r.Keeps (leaving ++ is)) (hs : ∀ i ∈ leaving, i.number = π.number → π.IsSaver i) (h : Host) :
    AllAlong (fun x i => x.1.dismiss x.2 i)
      (fun x i => i.number = π.number → (x.1.dismiss x.2 i).2.disk = ((tracked x.1).dismiss x.2 i).2.disk) (r, h) leaving := by
  induction leaving generalizing r h with
  | nil => trivial
  | cons i leaving ih =>
    refine ⟨fun hn => (hs i List.mem_cons_self hn).disk_dismiss k h, ?_⟩
    exact ih (k.dismiss h) (fun j hj => hs j (List.mem_cons_of_mem i hj)) _

theorem Safe.ignores (s : π.Safe r h last) : π.Ignores r h := by
  have hnone : ∀ {id}, follows r id = false → r.sessionState? π.number id = none ∧ r.autosave? π.number id = none := by
    intro id hf
    rcases s.autosave? id with ⟨-, hstate, ha⟩ | ⟨z, a, hf', -⟩
    · exact ⟨hstate, ha⟩
    · rw [hf] at hf'
      cases hf'
  refine ⟨fun y ha => s.company.disk_sessionAdded ha h, fun y hf => s.company.disk_sessionRemoved (hnone hf).1 h, ?_, ?_, ?_, ?_, ?_⟩
  · intro id content hf
    rw [Registry.recordChange, (hnone hf).2]
  · intro id hf
    rw [Registry.flush, (hnone hf).2]
    rfl
  · intro id now hf
    rw [Registry.flushIfDue, (hnone hf).2]
    rfl
  · intro name i hi hn
    have hsaver := s.company.isSaver (List.mem_of_find?_eq_some hi) hn
    rw [unload_eq hi, unload_eq (r := tracked r) hi]
    exact hsaver.disk_dismiss (s.keeps.parting (Registry.perm_of_find? hi) _) h
  · exact allAlong_dismiss s.keeps_leaving (fun i hi => s.company.isSaver (List.mem_reverse.1 hi)) h

/-- Whatever happened since a plugin that saves documents was loaded, and whichever way a session goes away from it, the document of the
session holds what was recorded last, or the attempt to write that failed just then and this was said. For sessions that are none on a
text it writes nothing. -/
theorem Reached.nothing_lost (hr : π.Reached r h last) (g : π.Granted) : π.Persists r h last ∧ π.Ignores r h :=
  ⟨(hr.safe g).persists g, (hr.safe g).ignores⟩

/-! ## Two texts and a drawing -/

/-- Two sessions on texts and one on a drawing. -/
def minutes : Session := { id := 1, path := "minutes", kind := .root "text" }
def plan : Session := { id := 2, path := "plan", kind := .derived "page" (.root "text") }
def sketch : Session := { id := 3, path := "sketch", kind := .root "drawing" }

/-- The plugin saves the documents of these when the last save is five seconds ago. The working directory stays where it is. -/
def desk : Premises where
  number := 1
  settings := { storage := ⟨⟨"documents"⟩⟩, interval := 5, hook := none }
  sessions := fun x => x ∈ [minutes, plan, sketch]
  known := fun d => d.workingDirectory = ["work"]

/-- The plugin is loaded while a file stands where the documents should be. -/
def deskAttempt : LoadAttempt where
  source := .builtin [("autosave", descriptor)]
  host := { disk := { Disk.empty with entries := (["work", "documents"], .file ByteArray.empty false) :: Disk.empty.entries } }
  name := "autosave"
  raw := [("interval", .string "5")]
  storage := desk.settings.storage

/-- The plugin that is loaded. -/
def deskSaver : PluginInstance where
  number := 1
  descriptor := descriptor
  context := { name := "autosave", storage := desk.settings.storage }
  running := running desk.settings

/-- The minutes are recorded and cannot be written until the file is gone. Then they are written and recorded again, and so is the plan,
which is written once it is due. What is recorded of the sketch does not count. -/
def deskActions : List SavingAction :=
  [.registry (.sessionAdded minutes), .recordChange 1 "first".toUTF8, .flush 1, .elsewhere { disk := .empty },
    .registry (.sessionAdded sketch), .flush 1, .registry (.sessionAdded plan), .recordChange 1 "second".toUTF8,
    .recordChange 3 "lines".toUTF8, .recordChange 2 "steps".toUTF8, .flushIfDue 2 9]

/-- The registry after these, its host, and what was recorded last. -/
def deskRun : Registry × Host × Recordings :=
  let x := ({} : Registry).insert deskAttempt.after deskSaver
  desk.performAll x.1 x.2 (fun _ => none) deskActions

theorem loads_desk : desk.Loads deskAttempt deskSaver :=
  ⟨rfl, rfl, rfl, rfl, [("interval", .uint 5)], by decide +kernel, by decide +kernel, by decide +kernel⟩

theorem granted_desk : desk.Granted where
  write d x content hk _ := (DocumentStore.workingDirectory_write desk.settings.storage d x.path content).trans hk
  hook _ _ _ := Spares.refl _

/-- The documents of the three sessions have files of their own. -/
theorem apart_desk : ∀ x ∈ [minutes, plan, sketch], ∀ y ∈ [minutes, plan, sketch], x.id ≠ y.id → desk.Apart x y := by
  have hplaces : ∀ x ∈ [minutes, plan, sketch], ∀ y ∈ [minutes, plan, sketch], x.id ≠ y.id →
      ((desk.settings.storage.documentPath x.path).toOption.map fun p => p.place ["work"]) ≠
        (desk.settings.storage.documentPath y.path).toOption.map fun p => p.place ["work"] := by
    decide +kernel
  intro x hx y hy hne d hd p q hp hq he
  have hdiff := hplaces x hx y hy hne
  have hd : d.workingDirectory = ["work"] := hd
  rw [hp, hq, ← hd] at hdiff
  exact hdiff (congrArg some he)

theorem admits_desk {l : Roster Session} (hl : l ⊆ [minutes, plan, sketch]) : desk.Admits l :=
  ⟨fun _ hx => hl hx, fun x hx y hy _ _ hne => apart_desk x (hl hx) y (hl hy) hne⟩

/-- A disk without the documents is spared by any other one with the same working directory. -/
theorem spares_desk {d d' : Disk} (hd : d'.workingDirectory = ["work"])
    (hnone : ∀ x ∈ [minutes, plan, sketch], ((desk.settings.storage.documentPath x.path).toOption.bind fun p =>
      d.entry? (p.place d.workingDirectory)).isNone = true) : desk.Spares d d' := by
  refine ⟨fun _ => hd, fun _ x content hx hh => ?_⟩
  obtain ⟨p, e, hp, he⟩ := hh
  have := hnone x hx.1
  rw [show desk.settings.storage.documentPath x.path = .ok p from hp] at this
  change (d.entry? (p.place d.workingDirectory)).isNone = true at this
  rw [he] at this
  cases this

theorem reached_desk : desk.Reached deskRun.1 deskRun.2.1 deskRun.2.2 := by
  have hstart := Reached.start (Registry.sound_empty deskAttempt.host) loads_desk (fun j hj => absurd hj List.not_mem_nil)
    (admits_desk (List.nil_subset _)) rfl
  refine hstart.performAll ⟨trivial, admits_desk ?_, trivial, admits_desk ?_, trivial, admits_desk ?_, spares_desk rfl ?_,
    admits_desk ?_, trivial, admits_desk ?_, trivial, admits_desk ?_, trivial, admits_desk ?_, trivial, admits_desk ?_,
    trivial, admits_desk ?_, trivial, admits_desk ?_, trivial, admits_desk ?_, trivial⟩
  all_goals decide +kernel

/-- Whether it is said that the content of a session that went away could not be written. -/
def tellsFailure (o : Occurrence) : Bool :=
  match o with
  | .said (.log e) => e.message = "Final save failed"
  | _ => false

/-- What is delivered without a failure that was said is read from the document. -/
theorem Delivers.read_desk {h h' : Host} {z : Session} {content : ByteArray} (hd : desk.Delivers h z content h')
    (hquiet : h'.trace.any tellsFailure = false)
    (hl : ((desk.settings.storage.documentPath z.path).bind fun p => (h'.disk.locate p).mapError (.disk p)).isOk = true) :
    desk.settings.storage.read h'.disk z.path = .ok content := by
  rcases hd with ⟨y, a, e, d, name, before, after, -, -, -, htrace⟩ | hh
  · rw [htrace, List.any_append, List.any_append] at hquiet
    simp [tellsFailure, finalSaveFailed, LogEntry.warning] at hquiet
  · cases hp : desk.settings.storage.documentPath z.path with
    | error e =>
      rw [hp] at hl
      cases hl
    | ok p =>
      rw [hp] at hl
      cases hv : h'.disk.locate p with
      | error e =>
        change ((h'.disk.locate p).mapError _).isOk = true at hl
        rw [hv] at hl
        cases hl
      | ok v => exact hh.read hp hv

/-- The minutes and the plan are read from their documents as they were recorded last, once the minutes went away or everything did. -/
theorem nothing_lost_desk : desk.Granted ∧ desk.Reached deskRun.1 deskRun.2.1 deskRun.2.2 ∧
    deskRun.2.2 1 = some "second".toUTF8 ∧ deskRun.2.2 2 = some "steps".toUTF8 ∧
    desk.settings.storage.read (deskRun.1.sessionRemoved deskRun.2.1 minutes).2.disk "minutes" = .ok "second".toUTF8 ∧
    desk.settings.storage.read (deskRun.1.release deskRun.2.1).disk "minutes" = .ok "second".toUTF8 ∧
    desk.settings.storage.read (deskRun.1.release deskRun.2.1).disk "plan" = .ok "steps".toUTF8 := by
  obtain ⟨hpersists, -⟩ := reached_desk.nothing_lost granted_desk
  have hminutes : desk.Recorded deskRun.1.sessions deskRun.2.2 minutes "second".toUTF8 :=
    ⟨by decide +kernel, ⟨List.mem_cons_self, by decide +kernel⟩, by decide +kernel⟩
  have hplan : desk.Recorded deskRun.1.sessions deskRun.2.2 plan "steps".toUTF8 :=
    ⟨by decide +kernel, ⟨List.mem_cons_of_mem _ List.mem_cons_self, by decide +kernel⟩, by decide +kernel⟩
  refine ⟨granted_desk, reached_desk, hminutes.last, hplan.last, ?_, ?_, ?_⟩
  · exact (hpersists.removed minutes minutes _ rfl hminutes).read_desk (by decide +kernel) (by decide +kernel)
  · exact (hpersists.released minutes _ hminutes).read_desk (by decide +kernel) (by decide +kernel)
  · exact (hpersists.released plan _ hplan).read_desk (by decide +kernel) (by decide +kernel)

end Autosave.Premises
end CoEdit
