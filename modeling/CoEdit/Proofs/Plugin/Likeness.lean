import CoEdit.Proofs.Plugin.Observed

/-!
# Plugins on hosts that are alike

Of a host, plugins see the disk and the clock. So the plugins of a registry that leave do the same to hosts with the same disk and
the same time (`Registry.unloadAll_congr`).

To load a batch in the same way two hosts need less: it is enough that their disks are alike to the modules, which
`ModuleSource.Steady` says of a relation between disks. The same plugins are loaded then, for the same contexts, and the others
fail for the same reasons (`Registry.loadAll_alike`). Only the numbers of the plugins may differ.
-/

namespace CoEdit

/-! ## Leaving -/

/-- The same was made of two hosts with the same disk and the same time. -/
def Host.Akin {α : Type} (x y : α × Host) : Prop := y.1 = x.1 ∧ y.2.surroundings = x.2.surroundings

/-- A fold whose steps see no more than the disk and the clock does not either. -/
theorem Host.Akin.foldl {α β : Type} {f : β × Host → α → β × Host} (hf : ∀ a x y, Akin x y → Akin (f x a) (f y a)) (l : List α) :
    ∀ {x y : β × Host}, Akin x y → Akin (l.foldl f x) (l.foldl f y) := by
  induction l with
  | nil => exact id
  | cons a l ih => exact fun hxy => ih (hf a _ _ hxy)

/-- A call leaves the same surroundings behind where it found the same. -/
theorem Host.call_congr {h g : Host} (hs : g.surroundings = h.surroundings) (number : Nat) (plugin : String) (c : Callback)
    (r : Reaction) : (g.call number plugin c r).surroundings = (h.call number plugin c r).surroundings :=
  congrArg (fun s : Surroundings => { s with disk := r.disk }) hs

namespace PluginInstance

variable {h g : Host} (i : PluginInstance)

theorem leaveConnection_congr (c : Connection) {x y : SideTable × Host} (hxy : Host.Akin x y) :
    Host.Akin (i.leaveConnection c x) (i.leaveConnection c y) := by
  obtain ⟨t, h⟩ := x
  obtain ⟨t', g⟩ := y
  obtain ⟨rfl, hs⟩ := hxy
  dsimp only at hs
  simp only [leaveConnection, hs]
  cases SideTable.get? i.number c.id t' with
  | none => exact ⟨rfl, hs⟩
  | some state => exact ⟨rfl, Host.call_congr hs _ _ _ _⟩

theorem leaveSession_congr (y : Session) {a b : SideTable × Host} (hab : Host.Akin a b) :
    Host.Akin (i.leaveSession y a) (i.leaveSession y b) := by
  obtain ⟨t, h⟩ := a
  obtain ⟨t', g⟩ := b
  obtain ⟨rfl, hs⟩ := hab
  dsimp only at hs
  simp only [leaveSession, hs]
  cases SideTable.get? i.number y.id t' <;> exact ⟨rfl, Host.call_congr hs _ _ _ _⟩

theorem stop_congr (hs : g.surroundings = h.surroundings) : (i.stop g).surroundings = (i.stop h).surroundings := by
  unfold stop
  split
  · exact hs
  · rw [hs]
    exact Host.call_congr hs _ _ _ _

theorem retire_congr (hs : g.surroundings = h.surroundings) : (i.retire g).surroundings = (i.retire h).surroundings :=
  i.stopped.stop_congr (i.stop_congr hs)

end PluginInstance

namespace Registry

theorem dismiss_congr (i : PluginInstance) (x y : Registry × Host) (hxy : Host.Akin x y) :
    Host.Akin (x.1.dismiss x.2 i) (y.1.dismiss y.2 i) := by
  obtain ⟨r, h⟩ := x
  obtain ⟨r', g⟩ := y
  obtain ⟨rfl, hs⟩ := hxy
  have hc : Host.Akin (r'.connections.reverse.foldl (fun x c => i.leaveConnection c x) (r'.connectionStates, h))
      (r'.connections.reverse.foldl (fun x c => i.leaveConnection c x) (r'.connectionStates, g)) :=
    Host.Akin.foldl (fun c _ _ => i.leaveConnection_congr c) _ ⟨rfl, hs⟩
  unfold dismiss
  dsimp only
  revert hc
  generalize r'.connections.reverse.foldl (fun x c => i.leaveConnection c x) (r'.connectionStates, h) = a
  generalize r'.connections.reverse.foldl (fun x c => i.leaveConnection c x) (r'.connectionStates, g) = b
  rintro ⟨hct, hch⟩
  obtain ⟨hst, hsh⟩ := Host.Akin.foldl (fun s _ _ => i.leaveSession_congr s) r'.sessions.reverse
    (x := (r'.sessionStates, a.2)) (y := (r'.sessionStates, b.2)) ⟨rfl, hch⟩
  exact ⟨by rw [hct, hst], i.retire_congr hsh⟩

/-- What plugins do to a host when they leave depends on its disk and its clock only. -/
theorem unloadAll_congr (r : Registry) {h g : Host} (hs : g.surroundings = h.surroundings) :
    Host.Akin (r.unloadAll h) (r.unloadAll g) := by
  unfold unloadAll
  split
  · exact ⟨rfl, hs⟩
  · obtain ⟨hr, hh⟩ := Host.Akin.foldl dismiss_congr r.instances.reverse
      (x := ({ r with instances := [] }, h)) (y := ({ r with instances := [] }, g)) ⟨rfl, hs⟩
    refine ⟨?_, hh⟩
    simp only [dismissAll, hr]

/-- There is nothing to do to let go of a registry whose plugins left. -/
theorem release_unloadAll (r : Registry) (h g : Host) : (r.unloadAll h).1.release g = g := by
  have hi := r.instances_unloadAll h
  rw [release, unloadAll, if_pos hi]
  dsimp only
  rw [hi]
  rfl

end Registry

/-! ## Loading -/

/-- A plugin starts or fails to start in the same way on disks that are alike, and leaves disks behind that are alike. -/
structure Plugin.Steady (p : Plugin) (time : Nat) (R : Disk → Disk → Prop) : Prop where
  start : ∀ {d e : Disk}, R d e → ∀ context parameters,
    (p.start ⟨e, time⟩ context parameters).1.map (fun _ => ()) = (p.start ⟨d, time⟩ context parameters).1.map fun _ => ()
  started : ∀ {d e : Disk}, R d e → ∀ context parameters,
    R (p.start ⟨d, time⟩ context parameters).2.disk (p.start ⟨e, time⟩ context parameters).2.disk
  abandoned : ∀ {d e : Disk}, R d e → R (p.abandon ⟨d, time⟩).disk (p.abandon ⟨e, time⟩).disk

/-- The same modules are found on disks that are alike, and the plugins in them are steady. -/
structure ModuleSource.Steady (source : ModuleSource) (time : Nat) (R : Disk → Disk → Prop) : Prop where
  resolve : ∀ {d e : Disk}, R d e → ∀ name, source.resolve e name = source.resolve d name
  plugin : ∀ {d : Disk} {name : String} {m : PluginModule}, source.resolve d name = .ok m → m.descriptor.plugin.Steady time R

theorem Plugin.steady_eq (p : Plugin) (time : Nat) : p.Steady time Eq where
  start hd _ _ := by rw [hd]
  started hd _ _ := by rw [hd]
  abandoned hd := by rw [hd]

/-- Any source is steady where disks are alike only if they are the same. -/
theorem ModuleSource.steady_eq (source : ModuleSource) (time : Nat) : source.Steady time Eq where
  resolve hd _ := by rw [hd]
  plugin _ := Plugin.steady_eq _ time

/-- Built-in modules are the same whatever is on the disk. -/
theorem ModuleSource.steady_builtin {modules : Table String PluginDescriptor} {time : Nat} {R : Disk → Disk → Prop}
    (hp : ∀ name d, Table.get? name modules = some d → d.plugin.Steady time R) : (builtin modules).Steady time R where
  resolve _ _ := rfl
  plugin {d name m} hm := by
    rw [ModuleSource.resolve] at hm
    split at hm
    · rename_i descriptor hd
      cases hm
      exact hp name descriptor hd
    · cases hm

/-- Two hosts at a time, with disks that are alike. -/
structure Host.Alike (time : Nat) (R : Disk → Disk → Prop) (h g : Host) : Prop where
  disk : R h.disk g.disk
  clock : h.clock = time
  clock' : g.clock = time

/-- What a plugin is and what it was started with, which is all of a plugin that is loaded but its number. -/
def PluginInstance.origin (i : PluginInstance) : PluginDescriptor × PluginContext := (i.descriptor, i.context)

section
variable {source : ModuleSource} {time : Nat} {R : Disk → Disk → Prop} {h g : Host}

/-- The plugin is started in the surroundings there were before it was made. -/
theorem PluginDescriptor.start_eq (d : PluginDescriptor) (h : Host) (name : String) (raw : ParameterTable)
    (storage : DocumentStore) :
    d.start h name raw storage = match PluginParameters.parse d.parameters raw with
      | .error e => (.error (.parameters name e), h.make name)
      | .ok parameters => match d.plugin.start h.surroundings { name, storage } parameters with
        | (.ok running, reaction) =>
          (.ok { number := h.nextPlugin, descriptor := d, context := { name, storage }, running },
            (h.make name).call h.nextPlugin name (.started { name, storage } parameters true) reaction)
        | (.error e, reaction) =>
          (.error (.notStarted name e),
            PluginInstance.retire
              { number := h.nextPlugin, descriptor := d, context := { name, storage }, running := { stop := d.plugin.abandon } }
              ((h.make name).call h.nextPlugin name (.started { name, storage } parameters false) reaction)) := by
  rfl

/-- A steady plugin is started, or why it is not is told, in the same way on two hosts that are alike. -/
theorem PluginDescriptor.start_alike {d : PluginDescriptor} (hd : d.plugin.Steady time R) (ha : Host.Alike time R h g)
    (name : String) (raw : ParameterTable) (storage : DocumentStore) :
    (d.start g name raw storage).1.map PluginInstance.origin = (d.start h name raw storage).1.map PluginInstance.origin ∧
      Host.Alike time R (d.start h name raw storage).2 (d.start g name raw storage).2 := by
  obtain ⟨hdisk, hh, hg⟩ := ha
  rw [start_eq, start_eq, Host.surroundings, Host.surroundings, hh, hg]
  cases PluginParameters.parse d.parameters raw with
  | error e => exact ⟨rfl, hdisk, hh, hg⟩
  | ok parameters =>
    dsimp only
    have hsame := hd.start hdisk { name, storage } parameters
    have hleft := hd.started hdisk { name, storage } parameters
    revert hsame hleft
    generalize d.plugin.start ⟨h.disk, time⟩ { name, storage } parameters = x
    generalize d.plugin.start ⟨g.disk, time⟩ { name, storage } parameters = y
    obtain ⟨a, left⟩ := x
    obtain ⟨b, left'⟩ := y
    intro hsame hleft
    cases a with
    | ok running =>
      cases b with
      | error e => cases hsame
      | ok running' => exact ⟨rfl, hleft, hh, hg⟩
    | error e =>
      cases b with
      | ok running' => cases hsame
      | error e' =>
        cases hsame
        refine ⟨rfl, ?_, hh, hg⟩
        -- The plugin that failed is stopped once, on the disk that its attempt left.
        change R (d.plugin.abandon ⟨left.disk, h.clock⟩).disk (d.plugin.abandon ⟨left'.disk, g.clock⟩).disk
        rw [hh, hg]
        exact hd.abandoned hleft

/-- A plugin is loaded, or why it is not is told, in the same way on two hosts that are alike. -/
theorem ModuleSource.Steady.load (hs : source.Steady time R) (ha : Host.Alike time R h g) (name : String) (raw : ParameterTable)
    (storage : DocumentStore) :
    (source.load g name raw storage).1.map PluginInstance.origin = (source.load h name raw storage).1.map PluginInstance.origin ∧
      Host.Alike time R (source.load h name raw storage).2 (source.load g name raw storage).2 := by
  unfold ModuleSource.load
  rw [hs.resolve ha.disk]
  cases hm : source.resolve h.disk name with
  | error e => exact ⟨rfl, ha⟩
  | ok m =>
    dsimp only
    cases m.fault? name with
    | some e => exact ⟨rfl, ha⟩
    | none => exact PluginDescriptor.start_alike (hs.plugin hm) ha name raw storage

/-- A plugin that joins where nothing is observed is told of nothing. -/
theorem Registry.insert_unobserved {r : Registry} (hc : r.connections = []) (hx : r.sessions = []) (h : Host)
    (i : PluginInstance) : r.insert h i = ({ r with instances := r.instances ++ [i] }, h) := by
  rw [insert, hc, hx]
  rfl

/-- Two batches that went the same way on hosts that are alike, with nothing observed. -/
structure Batch.Alike (time : Nat) (R : Disk → Disk → Prop) (a b : Batch) : Prop where
  host : Host.Alike time R a.host b.host
  origins : b.registry.instances.map PluginInstance.origin = a.registry.instances.map PluginInstance.origin
  observed : Registry.ObservesAs {} a.registry
  observed' : Registry.ObservesAs {} b.registry
  seen : b.seen = a.seen
  report : b.report = a.report

/-- The names of plugins are told from what they are. -/
theorem Registry.contains_of_origins {r r' : Registry}
    (ho : r'.instances.map PluginInstance.origin = r.instances.map PluginInstance.origin) (name : String) :
    r'.contains name = r.contains name := by
  have hall : ∀ r : Registry, r.contains name = (r.instances.map PluginInstance.origin).any fun o => o.1.name = name := by
    intro r
    rw [contains, named?, List.any_map, List.isSome_find?]
    rfl
  rw [hall, hall, ho]

section
variable {a b : Batch} (parameters : String → ParameterTable) (storage : DocumentStore) (name : String)

theorem Batch.Alike.log (hab : Batch.Alike time R a b) (e e' : LogEntry) : Batch.Alike time R (a.log e) (b.log e') :=
  ⟨⟨hab.host.disk, hab.host.clock, hab.host.clock'⟩, hab.origins, hab.observed, hab.observed', hab.seen, hab.report⟩

theorem Batch.Alike.loadOne (hs : source.Steady time R) (hab : Batch.Alike time R a b) :
    Batch.Alike time R (a.loadOne source parameters storage name) (b.loadOne source parameters storage name) := by
  obtain ⟨hh, ho, hobs, hobs', hseen, hreport⟩ := hab
  obtain ⟨hsame, hleft⟩ := hs.load hh name (parameters name) storage
  unfold Batch.loadOne
  revert hsame hleft
  generalize source.load a.host name (parameters name) storage = x
  generalize source.load b.host name (parameters name) storage = y
  obtain ⟨l, h⟩ := x
  obtain ⟨l', g⟩ := y
  intro hsame hleft
  cases l with
  | ok i =>
    cases l' with
    | error e => cases hsame
    | ok j =>
      have hij : j.origin = i.origin := Except.ok.inj hsame
      dsimp only
      rw [Registry.insert_unobserved hobs.1 hobs.2, Registry.insert_unobserved hobs'.1 hobs'.2]
      refine ⟨hleft, ?_, hobs, hobs', hseen, by rw [hreport]⟩
      rw [List.map_append, List.map_append, ho, List.map_singleton, List.map_singleton, hij]
  | error e =>
    cases l' with
    | ok j => cases hsame
    | error e' =>
      cases hsame
      exact ⟨⟨hleft.disk, hleft.clock, hleft.clock'⟩, ho, hobs, hobs', hseen, by rw [hreport]⟩

/-- The next name is taken up in the same way by two batches that went the same way. -/
theorem Batch.Alike.step (hs : source.Steady time R) (hab : Batch.Alike time R a b) :
    Batch.Alike time R (a.step source parameters storage name) (b.step source parameters storage name) := by
  unfold Batch.step
  rw [hab.seen]
  cases a.seen.contains name with
  | true => exact hab.log _ _
  | false =>
    have hmarked : Batch.Alike time R { a with seen := name :: a.seen } { b with seen := name :: a.seen } :=
      ⟨hab.host, hab.origins, hab.observed, hab.observed', rfl, hab.report⟩
    simp only [Bool.false_eq_true, if_false, Registry.contains_of_origins hab.origins name]
    split
    · exact hmarked.log _ _
    · exact hmarked.loadOne parameters storage name hs

/-- A list of names is taken up in the same way. -/
theorem Batch.Alike.foldl (hs : source.Steady time R) (names : List String) : ∀ {a b : Batch}, Batch.Alike time R a b →
    Batch.Alike time R (names.foldl (Batch.step source parameters storage) a)
      (names.foldl (Batch.step source parameters storage) b) := by
  induction names with
  | nil => exact id
  | cons name names ih => exact fun hab => ih (hab.step parameters storage name hs)

end

/-- The plugins stay the same while a directory is observed. -/
theorem Registry.instances_observe (r : Registry) (h : Host) (d : Directory) : (r.observe h d).1.instances = r.instances := by
  refine observe_induction (P := fun x => x.1.instances = r.instances) rfl ?_ ?_ d
  · intro r' h' c hi
    exact (instances_connectionAdded r' h' c).trans hi
  · intro r' h' y hi
    exact (instances_sessionAdded r' h' y).trans hi

/-- A batch is loaded in the same way on two hosts that are alike, for directories with the same documents: the report is the
same, and so are the plugins and what they were started with. -/
theorem Registry.loadAll_alike (hs : source.Steady time R) (ha : Host.Alike time R h g) (requested : List String)
    (parameters : String → ParameterTable) {d d' : Directory} (hd : d'.storage = d.storage) :
    (({} : Registry).loadAll g source requested parameters d').1 = (({} : Registry).loadAll h source requested parameters d).1 ∧
      (({} : Registry).loadAll g source requested parameters d').2.1.instances.map PluginInstance.origin =
        (({} : Registry).loadAll h source requested parameters d).2.1.instances.map PluginInstance.origin := by
  have hb : Batch.Alike time R { registry := {}, host := h } { registry := {}, host := g } :=
    ⟨ha, rfl, ⟨rfl, rfl⟩, ⟨rfl, rfl⟩, rfl, rfl⟩
  have hf := hb.foldl parameters d.storage hs requested
  unfold loadAll
  rw [hd]
  refine ⟨hf.report, ?_⟩
  dsimp only
  rw [instances_observe, instances_observe]
  exact hf.origins

end

/-! ## Profiles -/

/-- What a registry tells of a plugin without its number: what the plugin is, what it was started with, and for which connections
and sessions it has a state. -/
structure PluginProfile where
  descriptor : PluginDescriptor
  context : PluginContext
  connections : Nat → Bool
  sessions : Nat → Bool

namespace Registry

/-- What a registry tells of its plugins, in the order they were loaded. -/
def profile (r : Registry) : List PluginProfile :=
  r.instances.map fun i =>
    { descriptor := i.descriptor
      context := i.context
      connections := fun id => (r.connectionState? i.number id).isSome
      sessions := fun id => (r.sessionState? i.number id).isSome }

/-- The names of the plugins are part of what a registry tells of them. -/
theorem active_eq_profile (r : Registry) : r.active = r.profile.map (·.descriptor.name) := by
  rw [active, profile, List.map_map]
  rfl

/-- Plugins of a registry with the same number are the same. -/
theorem Keeps.eq_of_number {r : Registry} {is : List PluginInstance} (hk : r.Keeps is) {i j : PluginInstance} (hi : i ∈ is)
    (hj : j ∈ is) (hn : j.number = i.number) : j = i := by
  obtain ⟨m, hm, rfl⟩ := List.getElem_of_mem hi
  obtain ⟨n, hn', rfl⟩ := List.getElem_of_mem hj
  have hinj := @List.getElem_inj _ n m (is.map (·.number)) (by simpa using hn') (by simpa using hm) hk.distinct
  obtain rfl := hinj.1 (by simpa using hn)
  rfl

/-- The profile of a sound registry is told from what its plugins are and from what it observes. -/
theorem Keeps.profile {r : Registry} (hk : r.Keeps r.instances) : r.profile =
    (r.instances.map PluginInstance.origin).map fun o =>
      { descriptor := o.1
        context := o.2
        connections := fun id => r.connections.contains id
        sessions := fun id => (r.sessions.get? id).any fun x => o.1.accepts x.kind } := by
  rw [Registry.profile, List.map_map]
  refine List.map_congr_left fun i hi => ?_
  have hc : ∀ id, (r.connectionState? i.number id).isSome = r.connections.contains id := by
    intro id
    rw [Bool.eq_iff_iff, hk.connection]
    exact and_iff_right ⟨i, hi, rfl⟩
  have hx : ∀ id, (r.sessionState? i.number id).isSome = (r.sessions.get? id).any fun x => i.descriptor.accepts x.kind := by
    intro id
    rw [Bool.eq_iff_iff, hk.session, Option.any_eq_true]
    refine exists_congr fun x => and_congr_right fun _ => ⟨?_, fun ha => ⟨i, hi, rfl, ha⟩⟩
    rintro ⟨j, hj, hn, ha⟩
    exact hk.eq_of_number hi hj hn ▸ ha
  simp only [hc, hx, Function.comp_apply, PluginInstance.origin]

end Registry

end CoEdit
