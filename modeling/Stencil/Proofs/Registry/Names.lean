import Mathlib.Data.List.Nodup
import Stencil.Context

namespace Stencil

namespace Registry

variable {η : Type}

/-- Whether the plugin of a name is running. -/
def isBusy (registry : Registry η) (name : Text) : Bool :=
  (registry.lookup name).any Handle.isBusy

/-- Whether the hook of the plugin of a name has been started. -/
def isStarted (registry : Registry η) (name : Text) : Bool :=
  (registry.lookup name).any Handle.initialized

/-- The names whose plugins are running. -/
def busyNames (registry : Registry η) : List Text :=
  (registry.handles.filter Handle.isBusy).map Handle.name

/-- The plugin that is in the place of a name. -/
def resting (registry : Registry η) (name : Text) : Option η :=
  (registry.lookup name).bind Handle.plugin

/-- The handles leave no choice for the index. -/
theorem eq_of_handles_eq {registry registry' : Registry η}
    (hhandles : registry.handles = registry'.handles) : registry = registry' := by
  obtain ⟨handles, index, hagrees⟩ := registry
  obtain ⟨handles', index', hagrees'⟩ := registry'
  cases hhandles
  have hindex : index = index' := by
    funext name
    exact Option.ext fun place => (hagrees name place).trans (hagrees' name place).symm
  cases hindex
  rfl

theorem index_eq_some_iff {registry : Registry η} {n : Text} {place : Nat} :
    registry.index n = some place ↔
      ∃ handle, registry.handles[place]? = some handle ∧ handle.name = n := by
  rw [registry.agrees, Option.map_eq_some_iff]

theorem index_eq_some_iff_names {registry : Registry η} {n : Text} {place : Nat} :
    registry.index n = some place ↔ registry.names[place]? = some n := by
  rw [registry.agrees, names, List.getElem?_map]

/-- Under a name its handle is found, and no other. -/
theorem lookup_eq_some_iff {registry : Registry η} {n : Text} {handle : Handle η} :
    registry.lookup n = some handle ↔ handle ∈ registry.handles ∧ handle.name = n := by
  rw [lookup, Option.bind_eq_some_iff, List.mem_iff_getElem?]
  constructor
  · rintro ⟨place, hindex, hplace⟩
    obtain ⟨found, hfound, hname⟩ := index_eq_some_iff.mp hindex
    obtain rfl : found = handle := Option.some.inj (hfound.symm.trans hplace)
    exact ⟨⟨place, hplace⟩, hname⟩
  · rintro ⟨⟨place, hplace⟩, hname⟩
    exact ⟨place, index_eq_some_iff.mpr ⟨handle, hplace, hname⟩, hplace⟩

theorem name_of_lookup {registry : Registry η} {n : Text} {handle : Handle η}
    (hlookup : registry.lookup n = some handle) : handle.name = n :=
  (lookup_eq_some_iff.mp hlookup).2

theorem mem_of_lookup {registry : Registry η} {n : Text} {handle : Handle η}
    (hlookup : registry.lookup n = some handle) : handle ∈ registry.handles :=
  (lookup_eq_some_iff.mp hlookup).1

theorem lookup_of_mem {registry : Registry η} {handle : Handle η}
    (hmem : handle ∈ registry.handles) : registry.lookup handle.name = some handle :=
  lookup_eq_some_iff.mpr ⟨hmem, rfl⟩

/-- What the index leads to is there. -/
theorem isSome_lookup (registry : Registry η) (n : Text) :
    (registry.lookup n).isSome = registry.contains n := by
  rw [lookup, contains]
  cases hindex : registry.index n with
  | none => rfl
  | some place =>
    obtain ⟨handle, hplace, -⟩ := index_eq_some_iff.mp hindex
    rw [Option.bind_some, hplace]
    rfl

theorem contains_of_lookup {registry : Registry η} {n : Text} {handle : Handle η}
    (hlookup : registry.lookup n = some handle) : registry.contains n := by
  rw [← isSome_lookup, hlookup]
  rfl

theorem exists_lookup {registry : Registry η} {n : Text} (hcontains : registry.contains n) :
    ∃ handle, registry.lookup n = some handle := by
  rw [← isSome_lookup] at hcontains
  exact Option.isSome_iff_exists.mp hcontains

theorem lookup_eq_none_iff {registry : Registry η} {n : Text} :
    registry.lookup n = none ↔ registry.contains n = false := by
  rw [← isSome_lookup, Option.isSome_eq_false_iff, Option.isNone_iff_eq_none]

theorem contains_iff_mem_names (registry : Registry η) (n : Text) :
    registry.contains n ↔ n ∈ registry.names := by
  rw [← isSome_lookup, Option.isSome_iff_exists, names, List.mem_map]
  exact exists_congr fun handle => lookup_eq_some_iff

/-- No name is registered twice, since the index leads to one place only. -/
theorem nodup_names (registry : Registry η) : registry.names.Nodup := by
  refine List.nodup_iff_getElem?_ne_getElem?.mpr fun first second hlt hbound heq => ?_
  have hsecond := List.getElem?_eq_getElem hbound
  have hplaces := (index_eq_some_iff_names.mpr (heq.trans hsecond)).symm.trans
    (index_eq_some_iff_names.mpr hsecond)
  exact Nat.ne_of_lt hlt (Option.some.inj hplaces)

theorem contains_of_isBusy {registry : Registry η} {n : Text} (hbusy : registry.isBusy n) :
    registry.contains n := by
  rw [isBusy] at hbusy
  cases hlookup : registry.lookup n with
  | none => simp [hlookup] at hbusy
  | some handle => exact contains_of_lookup hlookup

theorem contains_of_isStarted {registry : Registry η} {n : Text}
    (hstarted : registry.isStarted n) : registry.contains n := by
  rw [isStarted] at hstarted
  cases hlookup : registry.lookup n with
  | none => simp [hlookup] at hstarted
  | some handle => exact contains_of_lookup hlookup

section Modify

variable {name : Text} {change : Handle η → Handle η}
  (hchange : ∀ handle, (change handle).name = handle.name)

/-- The handle that is changed is the only one of its name. -/
theorem handles_modify (registry : Registry η) :
    (registry.modify name change hchange).handles =
      registry.handles.map fun handle => if handle.name = name then change handle else handle := by
  dsimp only [modify]
  refine List.ext_getElem? fun place => ?_
  rw [List.getElem?_map]
  cases hplace : registry.handles[place]? with
  | none =>
    have hfar := List.getElem?_eq_none_iff.mp hplace
    cases registry.index name with
    | none => exact hplace
    | some changed => simp [List.getElem?_modify, hplace]
  | some handle =>
    have hindex : registry.index name = some place ↔ handle.name = name := by
      rw [registry.agrees, hplace, Option.map_some, Option.some_inj]
    cases hname : registry.index name with
    | none =>
      have hne : handle.name ≠ name := by simpa [hname] using hindex
      simp [hplace, hne]
    | some changed =>
      rw [hname, Option.some_inj] at hindex
      simp [List.getElem?_modify, hplace, hindex]

/-- A change takes place between the handles in front of the changed one and those behind it. -/
theorem exists_split_of_lookup {registry : Registry η} {handle : Handle η}
    (hlookup : registry.lookup name = some handle) :
    ∃ before behind, registry.handles = before ++ handle :: behind ∧
      (registry.modify name change hchange).handles = before ++ change handle :: behind := by
  obtain ⟨hmem, rfl⟩ := lookup_eq_some_iff.mp hlookup
  obtain ⟨before, behind, hsplit⟩ := List.append_of_mem hmem
  refine ⟨before, behind, hsplit, ?_⟩
  have hnodup := registry.nodup_names
  rw [names, hsplit, List.map_append, List.map_cons, List.nodup_middle, List.nodup_cons,
    ← List.map_append, List.mem_map] at hnodup
  have hothers : ∀ others : List (Handle η), (∀ other ∈ others, other ∈ before ++ behind) →
      others.map (fun other => if other.name = handle.name then change other else other) =
        others := by
    intro others hothers
    refine (List.map_congr_left fun other hother => ?_).trans (List.map_id _)
    exact if_neg fun hname => hnodup.1 ⟨other, hothers other hother, hname⟩
  rw [handles_modify, hsplit, List.map_append, List.map_cons, if_pos rfl,
    hothers before fun _ => List.mem_append_left _, hothers behind fun _ => List.mem_append_right _]

theorem names_modify (registry : Registry η) :
    (registry.modify name change hchange).names = registry.names := by
  rw [names, handles_modify, List.map_map, names]
  refine List.map_congr_left fun handle _ => ?_
  rw [Function.comp_apply]
  split
  · exact hchange handle
  · rfl

/-- A change of one handle is seen under its name only. -/
theorem lookup_modify (registry : Registry η) (n : Text) :
    (registry.modify name change hchange).lookup n =
      if n = name then (registry.lookup n).map change else registry.lookup n := by
  cases hlookup : registry.lookup n with
  | none =>
    have hindex : registry.index n = none := by
      rw [lookup_eq_none_iff, contains] at hlookup
      simpa using hlookup
    have hnone : (registry.modify name change hchange).lookup n = none := by
      rw [lookup, modify, hindex]
      rfl
    rw [hnone, Option.map_none, ite_self]
  | some handle =>
    obtain ⟨hmem, rfl⟩ := lookup_eq_some_iff.mp hlookup
    have hchanged : (if handle.name = name then change handle else handle).name = handle.name := by
      split
      · exact hchange handle
      · rfl
    have hfound : (registry.modify name change hchange).lookup handle.name =
        some (if handle.name = name then change handle else handle) := by
      refine lookup_eq_some_iff.mpr ⟨?_, hchanged⟩
      rw [handles_modify]
      exact List.mem_map.mpr ⟨handle, hmem, rfl⟩
    rw [hfound]
    split <;> rfl

theorem contains_modify (registry : Registry η) (n : Text) :
    (registry.modify name change hchange).contains n = registry.contains n :=
  rfl

include hchange

/-- A change that leaves the mark of the hook alone is not seen in it. -/
theorem isStarted_modify (hkept : ∀ handle, (change handle).initialized = handle.initialized)
    (registry : Registry η) (n : Text) :
    (registry.modify name change hchange).isStarted n = registry.isStarted n := by
  rw [isStarted, lookup_modify, isStarted]
  split
  · cases registry.lookup n with
    | none => rfl
    | some handle => exact hkept handle
  · rfl

/-- Taking a plugin out of its place makes it busy, and no other. -/
theorem isBusy_modify (hempty : ∀ handle, (change handle).plugin = none) {registry : Registry η}
    (hcontains : registry.contains name) (n : Text) :
    (registry.modify name change hchange).isBusy n ↔ n = name ∨ registry.isBusy n := by
  obtain ⟨handle, hlookup⟩ := exists_lookup hcontains
  rw [isBusy, lookup_modify, isBusy]
  by_cases hn : n = name
  · simp [hn, hlookup, Handle.isBusy, hempty]
  · simp [hn]

/-- What is put in the place of a name is found there, and all other places are as before. -/
theorem resting_modify {plugin? : Option η} (hplugin : ∀ handle, (change handle).plugin = plugin?)
    {registry : Registry η} (hcontains : registry.contains name) (n : Text) :
    (registry.modify name change hchange).resting n =
      if n = name then plugin? else registry.resting n := by
  obtain ⟨handle, hlookup⟩ := exists_lookup hcontains
  rw [resting, lookup_modify, resting]
  by_cases hn : n = name
  · simp [hn, hlookup, hplugin]
  · simp [hn]

end Modify

/-- A plugin that can be taken out is registered and not running. -/
theorem lend?_eq_some_iff {registry registry' : Registry η} {name : Text} {plugin : η} :
    registry.lend? name = some (plugin, registry') ↔
      ∃ handle, registry.lookup name = some handle ∧ handle.plugin = some plugin ∧
        registry' =
          registry.modify name (fun handle => { handle with plugin := none }) fun _ => rfl := by
  rw [lend?, Option.map_eq_some_iff]
  constructor
  · rintro ⟨plugin', hplugin, heq⟩
    obtain ⟨handle, hlookup, hhandle⟩ := Option.bind_eq_some_iff.mp hplugin
    cases heq
    exact ⟨handle, hlookup, hhandle, rfl⟩
  · rintro ⟨handle, hlookup, hhandle, rfl⟩
    exact ⟨plugin, by rw [hlookup, Option.bind_some, hhandle], rfl⟩

/-- Only a plugin that is running, or none, cannot be taken out. -/
theorem lend?_eq_none_of_isBusy {registry : Registry η} {name : Text}
    (hbusy : registry.isBusy name) : registry.lend? name = none := by
  rw [isBusy] at hbusy
  rw [lend?]
  cases hlookup : registry.lookup name with
  | none => rfl
  | some handle =>
    have hplugin : handle.plugin = none := by
      simpa [hlookup, Handle.isBusy] using hbusy
    rw [Option.bind_some, hplugin]
    rfl

section Lend

variable {registry registry' : Registry η} {name : Text} {plugin : η}

theorem contains_of_lend? (hlend : registry.lend? name = some (plugin, registry')) :
    registry.contains name := by
  obtain ⟨handle, hlookup, -⟩ := lend?_eq_some_iff.mp hlend
  exact contains_of_lookup hlookup

theorem not_isBusy_of_lend? (hlend : registry.lend? name = some (plugin, registry')) :
    registry.isBusy name = false := by
  obtain ⟨handle, hlookup, hplugin, -⟩ := lend?_eq_some_iff.mp hlend
  simp [isBusy, hlookup, Handle.isBusy, hplugin]

theorem resting_of_lend? (hlend : registry.lend? name = some (plugin, registry')) :
    registry.resting name = some plugin := by
  obtain ⟨handle, hlookup, hplugin, -⟩ := lend?_eq_some_iff.mp hlend
  rw [resting, hlookup, Option.bind_some, hplugin]

theorem resting_lend (hlend : registry.lend? name = some (plugin, registry')) (n : Text) :
    registry'.resting n = if n = name then none else registry.resting n := by
  have hcontains := contains_of_lend? hlend
  obtain ⟨handle, -, -, rfl⟩ := lend?_eq_some_iff.mp hlend
  apply resting_modify _ _ hcontains
  exact fun _ => rfl

theorem names_lend (hlend : registry.lend? name = some (plugin, registry')) :
    registry'.names = registry.names := by
  obtain ⟨handle, -, -, rfl⟩ := lend?_eq_some_iff.mp hlend
  exact names_modify _ registry

theorem contains_lend (hlend : registry.lend? name = some (plugin, registry')) (n : Text) :
    registry'.contains n = registry.contains n := by
  obtain ⟨handle, -, -, rfl⟩ := lend?_eq_some_iff.mp hlend
  exact contains_modify _ registry n

theorem isBusy_lend (hlend : registry.lend? name = some (plugin, registry')) (n : Text) :
    registry'.isBusy n ↔ n = name ∨ registry.isBusy n := by
  have hcontains := contains_of_lend? hlend
  obtain ⟨handle, -, -, rfl⟩ := lend?_eq_some_iff.mp hlend
  exact isBusy_modify _ (fun _ => rfl) hcontains n

theorem isStarted_lend (hlend : registry.lend? name = some (plugin, registry')) (n : Text) :
    registry'.isStarted n = registry.isStarted n := by
  obtain ⟨handle, -, -, rfl⟩ := lend?_eq_some_iff.mp hlend
  apply isStarted_modify
  exact fun _ => rfl

end Lend

section Restore

variable (registry : Registry η) (name : Text) (plugin : η)

theorem names_restore : (registry.restore name plugin).names = registry.names :=
  names_modify _ registry

theorem contains_restore (n : Text) :
    (registry.restore name plugin).contains n = registry.contains n :=
  contains_modify _ registry n

theorem isBusy_restore (n : Text) :
    (registry.restore name plugin).isBusy n ↔ n ≠ name ∧ registry.isBusy n := by
  rw [isBusy, restore, lookup_modify, isBusy]
  by_cases hn : n = name
  · cases registry.lookup n <;> simp [hn, Handle.isBusy]
  · simp [hn]

variable {registry name} in
theorem resting_restore (hcontains : registry.contains name) (n : Text) :
    (registry.restore name plugin).resting n =
      if n = name then some plugin else registry.resting n := by
  apply resting_modify _ _ hcontains
  exact fun _ => rfl

theorem isStarted_restore (n : Text) :
    (registry.restore name plugin).isStarted n = registry.isStarted n := by
  apply isStarted_modify
  exact fun _ => rfl

end Restore

/-- Putting back what was taken out undoes the taking. -/
theorem restore_lend {registry registry' : Registry η} {name : Text} {plugin : η}
    (hlend : registry.lend? name = some (plugin, registry')) :
    registry'.restore name plugin = registry := by
  obtain ⟨found, hlookup, hplugin, rfl⟩ := lend?_eq_some_iff.mp hlend
  refine eq_of_handles_eq ?_
  rw [restore, handles_modify, handles_modify, List.map_map]
  refine (List.map_congr_left fun handle hmem => ?_).trans (List.map_id _)
  rw [Function.comp_apply, id_eq]
  by_cases hname : handle.name = name
  · have hsame : handle = found := by
      rw [← hname, lookup_of_mem hmem] at hlookup
      exact Option.some.inj hlookup
    simp only [if_pos hname]
    rw [hsame, ← hplugin]
  · simp only [if_neg hname]

section BeginHook

variable {registry : Registry η} {name : Text}

theorem names_beginHook : (registry.beginHook name).names = registry.names :=
  names_modify _ registry

theorem contains_beginHook (n : Text) :
    (registry.beginHook name).contains n = registry.contains n :=
  contains_modify _ registry n

theorem isBusy_beginHook (hcontains : registry.contains name) (n : Text) :
    (registry.beginHook name).isBusy n ↔ n = name ∨ registry.isBusy n :=
  isBusy_modify _ (fun _ => rfl) hcontains n

theorem resting_beginHook (hcontains : registry.contains name) (n : Text) :
    (registry.beginHook name).resting n = if n = name then none else registry.resting n := by
  apply resting_modify _ _ hcontains
  exact fun _ => rfl

theorem isStarted_beginHook (hcontains : registry.contains name) (n : Text) :
    (registry.beginHook name).isStarted n ↔ n = name ∨ registry.isStarted n := by
  obtain ⟨handle, hregistered⟩ := exists_lookup hcontains
  rw [isStarted, beginHook, lookup_modify, isStarted]
  by_cases hn : n = name
  · simp [hn, hregistered]
  · simp [hn]

end BeginHook

/-- Under the name of the handle that is found first, the index leads to this handle. -/
theorem nextUninitialized?_eq (registry : Registry η) :
    registry.nextUninitialized? =
      (registry.handles.find? fun handle => !handle.initialized && handle.plugin.isSome).bind
        fun handle => handle.plugin.map (handle.name, ·) := by
  rw [nextUninitialized?]
  refine Option.bind_congr fun handle hfound => ?_
  rw [lookup_of_mem (List.mem_of_find?_eq_some hfound), Option.bind_some]

theorem mem_of_nextUninitialized? {registry : Registry η} {name : Text} {plugin : η}
    (hnext : registry.nextUninitialized? = some (name, plugin)) :
    ⟨name, some plugin, false⟩ ∈ registry.handles := by
  rw [nextUninitialized?_eq, Option.bind_eq_some_iff] at hnext
  obtain ⟨⟨name', plugin', initialized⟩, hfound, hplugin⟩ := hnext
  obtain ⟨plugin'', rfl, heq⟩ := Option.map_eq_some_iff.mp hplugin
  cases heq
  have hwaits := List.find?_some hfound
  obtain rfl : initialized = false := by simpa using hwaits
  exact List.mem_of_find?_eq_some hfound

theorem resting_of_nextUninitialized? {registry : Registry η} {name : Text} {plugin : η}
    (hnext : registry.nextUninitialized? = some (name, plugin)) :
    registry.resting name = some plugin := by
  rw [resting, lookup_of_mem (mem_of_nextUninitialized? hnext)]
  rfl

/-- The plugin whose hook is next has not been started and is not running. -/
theorem of_nextUninitialized? {registry : Registry η} {name : Text} {plugin : η}
    (hnext : registry.nextUninitialized? = some (name, plugin)) :
    registry.contains name ∧ registry.isBusy name = false ∧ registry.isStarted name = false := by
  have hlookup := lookup_of_mem (mem_of_nextUninitialized? hnext)
  exact ⟨contains_of_lookup hlookup, by simp [isBusy, hlookup, Handle.isBusy],
    by simp [isStarted, hlookup]⟩

theorem nextUninitialized?_eq_none_iff {registry : Registry η} :
    registry.nextUninitialized? = none ↔
      ∀ handle ∈ registry.handles, handle.initialized ∨ handle.isBusy := by
  rw [nextUninitialized?_eq, Option.bind_eq_none_iff]
  constructor
  · intro hnext handle hmem
    cases hfound : registry.handles.find? fun h => !h.initialized && h.plugin.isSome with
    | none =>
      have hnot := List.find?_eq_none.mp hfound handle hmem
      simpa [Handle.isBusy, or_iff_not_imp_left] using hnot
    | some waiting =>
      have hwaits := List.find?_some hfound
      have hplugin := Option.map_eq_none_iff.mp (hnext waiting hfound)
      simp [hplugin] at hwaits
  · intro hall handle hfound
    have hwaits := List.find?_some hfound
    rcases hall handle (List.mem_of_find?_eq_some hfound) with hstarted | hbusy
    · simp [hstarted] at hwaits
    · exact Option.map_eq_none_iff.mpr (Option.isNone_iff_eq_none.mp hbusy)

/-- When no hook is next, every plugin that is not running has had its hook started. -/
theorem of_nextUninitialized?_eq_none {registry : Registry η}
    (hnext : registry.nextUninitialized? = none) {n : Text} (hcontains : registry.contains n) :
    registry.isStarted n ∨ registry.isBusy n := by
  obtain ⟨handle, hlookup⟩ := exists_lookup hcontains
  rw [isStarted, isBusy, hlookup]
  exact nextUninitialized?_eq_none_iff.mp hnext handle (mem_of_lookup hlookup)

section Register

variable {registry registry' : Registry η} {name : Text} {plugin : η}

theorem register?_eq_some_iff :
    registry.register? name plugin = some registry' ↔
      registry.contains name = false ∧
        registry'.handles = registry.handles ++ [⟨name, some plugin, false⟩] := by
  rw [register?]
  split
  · next htaken => simp [htaken]
  · next hfree =>
    rw [Option.some_inj]
    constructor
    · rintro rfl
      exact ⟨by simpa using hfree, rfl⟩
    · rintro ⟨-, hhandles⟩
      exact eq_of_handles_eq hhandles.symm

theorem register?_eq_none_iff :
    registry.register? name plugin = none ↔ registry.contains name := by
  rw [register?]
  split <;> simp_all

theorem names_register? (hregister : registry.register? name plugin = some registry') :
    registry'.names = registry.names ++ [name] := by
  obtain ⟨-, hhandles⟩ := register?_eq_some_iff.mp hregister
  simp [names, hhandles]

theorem lookup_register? (hregister : registry.register? name plugin = some registry') (n : Text) :
    registry'.lookup n =
      if n = name then some ⟨name, some plugin, false⟩ else registry.lookup n := by
  obtain ⟨hfree, hhandles⟩ := register?_eq_some_iff.mp hregister
  by_cases hn : n = name
  · have hadded : (⟨name, some plugin, false⟩ : Handle η) ∈ registry'.handles := by
      rw [hhandles]
      exact List.mem_append_right _ List.mem_cons_self
    rw [if_pos hn, hn]
    exact lookup_of_mem hadded
  · rw [if_neg hn]
    refine Option.ext fun handle => ?_
    rw [lookup_eq_some_iff, lookup_eq_some_iff, hhandles, List.mem_append, List.mem_singleton,
      and_congr_left_iff]
    rintro rfl
    constructor
    · rintro (hmem | rfl)
      · exact hmem
      · exact absurd rfl hn
    · exact .inl

theorem resting_register? (hregister : registry.register? name plugin = some registry') (n : Text) :
    registry'.resting n = if n = name then some plugin else registry.resting n := by
  rw [resting, lookup_register? hregister, resting]
  split <;> rfl

end Register

end Registry

end Stencil
