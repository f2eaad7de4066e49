import Stencil.Plugin.Handler

namespace Stencil

/-- The place of a registered plugin. The plugin leaves it while it runs and comes back by name; the
handle stays, so that nothing else can take the name. -/
structure Handle (η : Type) where
  name : Text
  plugin : Option η
  /-- whether the plugin's hook has been started -/
  initialized : Bool

namespace Handle

variable {η : Type}

/-- Whether the plugin is running. -/
def isBusy (handle : Handle η) : Bool :=
  handle.plugin.isNone

/-- What other plugins may see of it. -/
def view [Offers η] (handle : Handle η) : HandleView where
  name := handle.name
  initialized := handle.initialized
  offer := handle.plugin.map Offers.offer

end Handle

/-- Whether an index of names leads from each name to the place of the one handle that has it. -/
def IndexAgrees {η : Type} (handles : List (Handle η)) (index : Text → Option Nat) : Prop :=
  ∀ name place, index name = some place ↔ (handles[place]?).map Handle.name = some name

namespace IndexAgrees

variable {η : Type} {handles : List (Handle η)} {index : Text → Option Nat}

/-- A handle whose name is free may be added behind the others. -/
theorem append_singleton (hagrees : IndexAgrees handles index) {handle : Handle η}
    (hfree : index handle.name = none) :
    IndexAgrees (handles ++ [handle])
      fun name => if name = handle.name then some handles.length else index name := by
  intro name place
  change (if name = handle.name then some handles.length else index name) = some place ↔ _
  have hfar : ∀ far, handles.length ≤ far → index name ≠ some far := by
    intro far hle
    rw [ne_eq, hagrees, List.getElem?_eq_none hle]
    simp
  rcases Nat.lt_trichotomy place handles.length with hlt | rfl | hgt
  · rw [List.getElem?_append_left hlt, ← hagrees]
    split
    · next hname => simp [hname, hfree, Nat.ne_of_gt hlt]
    · exact Iff.rfl
  · rw [List.getElem?_concat_length]
    split
    · next hname => simp [hname]
    · next hname => simp [hfar _ (Nat.le_refl _), Ne.symm hname]
  · have hnone : (handles ++ [handle])[place]? = none :=
      List.getElem?_eq_none (by rw [List.length_append]; exact hgt)
    rw [hnone]
    split
    · simp [Nat.ne_of_lt hgt]
    · simp [hfar _ (Nat.le_of_lt hgt)]

/-- A handle may be changed in all but its name. -/
theorem modify (hagrees : IndexAgrees handles index) (place : Nat) {change : Handle η → Handle η}
    (hchange : ∀ handle, (change handle).name = handle.name) :
    IndexAgrees (handles.modify place change) index := by
  intro name other
  have hname : (handles.modify place change)[other]?.map Handle.name =
      handles[other]?.map Handle.name := by
    rw [List.getElem?_modify]
    cases handles[other]? with
    | none => rfl
    | some handle => by_cases hplace : place = other <;> simp [hplace, hchange]
  rw [hname]
  exact hagrees name other

end IndexAgrees

/-- The registered plugins: their handles in the order of registration, and where the handle of each
name stands. -/
structure Registry (η : Type) where
  handles : List (Handle η)
  index : Text → Option Nat
  agrees : IndexAgrees handles index

namespace Registry

variable {η : Type}

/-- A registry with nothing in it. -/
def empty : Registry η where
  handles := []
  index := fun _ => none
  agrees := by simp [IndexAgrees]

/-- The registered names. -/
def names (registry : Registry η) : List Text :=
  registry.handles.map Handle.name

/-- The handle of a name. -/
def lookup (registry : Registry η) (name : Text) : Option (Handle η) :=
  (registry.index name).bind fun place => registry.handles[place]?

/-- Whether a name is registered. -/
def contains (registry : Registry η) (name : Text) : Bool :=
  (registry.index name).isSome

/-- Adds a handle whose name is free behind the others. -/
def add (registry : Registry η) (handle : Handle η)
    (hfree : registry.index handle.name = none) : Registry η where
  handles := registry.handles ++ [handle]
  index := fun name =>
    if name = handle.name then some registry.handles.length else registry.index name
  agrees := registry.agrees.append_singleton hfree

/-- Registers a plugin under a name that is free; `none` if it is taken. -/
def register? (registry : Registry η) (name : Text) (plugin : η) : Option (Registry η) :=
  if htaken : registry.contains name then none
  else some (registry.add ⟨name, some plugin, false⟩ (by simpa [contains] using htaken))

/-- Registers a plugin, or drops it if its name is taken. -/
def register (registry : Registry η) (name : Text) (plugin : η) : Registry η :=
  (registry.register? name plugin).getD registry

/-- Changes the handle of a name, if there is one, but not the name. -/
def modify (registry : Registry η) (name : Text) (change : Handle η → Handle η)
    (hchange : ∀ handle, (change handle).name = handle.name) : Registry η where
  handles :=
    match registry.index name with
    | none => registry.handles
    | some place => registry.handles.modify place change
  index := registry.index
  agrees := by
    split
    · exact registry.agrees
    · exact registry.agrees.modify _ hchange

/-- Takes a plugin out to run it; `none` if it is not there. -/
def lend? (registry : Registry η) (name : Text) : Option (η × Registry η) :=
  ((registry.lookup name).bind Handle.plugin).map fun plugin =>
    (plugin, registry.modify name (fun handle => { handle with plugin := none }) fun _ => rfl)

/-- Puts a plugin back. -/
def restore (registry : Registry η) (name : Text) (plugin : η) : Registry η :=
  registry.modify name (fun handle => { handle with plugin := some plugin }) fun _ => rfl

/-- The name of the first handle whose hook has not been started and whose plugin is there, with
the plugin that is found under it. -/
def nextUninitialized? (registry : Registry η) : Option (Text × η) :=
  (registry.handles.find? fun handle => !handle.initialized && handle.plugin.isSome).bind
    fun handle => ((registry.lookup handle.name).bind Handle.plugin).map (handle.name, ·)

/-- Takes a plugin out to run its hook, which is from now on the one time that it was started. -/
def beginHook (registry : Registry η) (name : Text) : Registry η :=
  registry.modify name (fun handle => { handle with plugin := none, initialized := true })
    fun _ => rfl

end Registry

end Stencil
