import CommandStream.Proofs.Session
/-!
# Resources by family

Buffers, textures, samplers and pipelines are treated alike: a description is checked, a native
object is created, and a resource is stored in the table of its family, from which it is taken out
when it is disposed of. `make_eq` and `dispose_eq` say so for all families at once, and
`resources_make` and `native_make` what a creation can do to the resources and to the native device.
-/

namespace CommandStream

/-! ## Tables by family -/

/-- What the table of a family stores. -/
abbrev ResourceFamily.Stored : ResourceFamily → Type
  | .buffer => Buffer
  | .texture => Texture
  | .sampler => Sampler
  | .pipeline => Pipeline

namespace Resources

/-- The table of a family. -/
def table (resources : Resources) : (family : ResourceFamily) → SlotTable family family.Stored
  | .buffer => resources.buffers
  | .texture => resources.textures
  | .sampler => resources.samplers
  | .pipeline => resources.pipelines

/-- Changes the table of a family. -/
def setTable (resources : Resources) :
    (family : ResourceFamily) → SlotTable family family.Stored → Resources
  | .buffer, table => { resources with buffers := table }
  | .texture, table => { resources with textures := table }
  | .sampler, table => { resources with samplers := table }
  | .pipeline, table => { resources with pipelines := table }

@[simp] theorem table_setTable (resources : Resources) (family : ResourceFamily)
    (table : SlotTable family family.Stored) :
    (resources.setTable family table).table family = table := by
  cases family <;> rfl

@[simp] theorem setTable_table (resources : Resources) (family : ResourceFamily) :
    resources.setTable family (resources.table family) = resources := by
  cases family <;> rfl

theorem table_setTable_of_ne (resources : Resources) {family other : ResourceFamily}
    (table : SlotTable family family.Stored) (apart : other ≠ family) :
    (resources.setTable family table).table other = resources.table other := by
  cases family
  all_goals
    cases other
    all_goals first
      | rfl
      | exact absurd rfl apart

@[simp] theorem heap_setTable (resources : Resources) (family : ResourceFamily)
    (table : SlotTable family family.Stored) (heapType : HeapType) :
    (resources.setTable family table).heap heapType = resources.heap heapType := by
  cases family
  all_goals cases heapType <;> rfl

theorem heap_setHeap (resources : Resources) (heapType other : HeapType) (heap : DescriptorHeap) :
    (resources.setHeap heapType heap).heap other =
      if other = heapType then heap else resources.heap other := by
  cases heapType
  all_goals cases other <;> rfl

@[simp] theorem table_setHeap (resources : Resources) (heapType : HeapType) (heap : DescriptorHeap)
    (family : ResourceFamily) :
    (resources.setHeap heapType heap).table family = resources.table family := by
  cases heapType
  all_goals cases family <;> rfl

end Resources

/-! ## Creation and disposal -/

/-- What a resource of some family is created from. -/
inductive ResourceDescription
  | buffer (description : BufferDescription)
  | texture (description : TextureDescription)
  | sampler (description : SamplerDescription)
  | pipeline (description : PipelineDescription)

namespace ResourceDescription

/-- The family of the resource. -/
def family : ResourceDescription → ResourceFamily
  | .buffer _ => .buffer
  | .texture _ => .texture
  | .sampler _ => .sampler
  | .pipeline _ => .pipeline

/-- The resource that is stored over its native object. -/
def resource (object : ObjectId) : (description : ResourceDescription) → description.family.Stored
  | .buffer description => ⟨object, description.size, description⟩
  | .texture description => ⟨object, description, description⟩
  | .sampler description => ⟨object, description⟩
  | .pipeline description => ⟨object, description.bindPoint, description⟩

/-- What is wrong with the description, looked for before anything is created. -/
def fault? : ResourceDescription → Option DescriptionFault
  | .buffer description => if description.size = 0 then some .emptyBuffer else none
  | .texture description =>
    if description.width = 0 ∨ description.height = 0 ∨ description.depthOrLayers = 0 then
      some .emptyTexture
    else if description.levels = 0 ∨ description.samples = 0 then some .noLevelOrSample
    else none
  | .sampler _ => none
  | .pipeline description =>
    if PipelineDescription.rootCostMax < description.rootCost then
      some (.rootCostTooLarge description.rootCost)
    else none

end ResourceDescription

/-- What an action creates, if it is to create a resource. -/
def Action.description? : Action → Option ResourceDescription
  | .createBuffer description => some (.buffer description)
  | .createTexture description => some (.texture description)
  | .createSampler description => some (.sampler description)
  | .createPipeline description => some (.pipeline description)
  | _ => none

namespace Device

/-- Creates the resource of a description. -/
def make (device : Device) : ResourceDescription → Except CreationError Handle × Device
  | .buffer description => device.createBuffer description
  | .texture description => device.createTexture description
  | .sampler description => device.createSampler description
  | .pipeline description => device.createPipeline description

/-- Resources of all families are created in the same way. -/
theorem make_eq (device : Device) (description : ResourceDescription) :
    device.make description =
      match description.fault? with
      | some fault => (.error (.invalidDescription fault), device)
      | none =>
        device.createResource fun object =>
          let (handle, table) := (device.resources.table description.family).allocate
            (description.resource object)
          (handle, device.resources.setTable description.family table) := by
  cases description with
  | buffer description =>
    rw [make, createBuffer, ResourceDescription.fault?]
    split <;> rfl
  | texture description =>
    rw [make, createTexture, ResourceDescription.fault?]
    split
    · rfl
    · split <;> rfl
  | sampler description => rfl
  | pipeline description =>
    rw [make, createPipeline, ResourceDescription.fault?]
    split <;> rfl

/-- Creating a resource stores it, or leaves the resources. -/
theorem resources_createResource (device : Device)
    (store : ObjectId → Except TableError Handle × Resources) :
    (device.createResource store).2.resources = device.resources ∨
      ∃ object, (device.createResource store).2.resources = (store object).2 := by
  unfold createResource
  split
  · exact .inl rfl
  · rename_i object native created
    refine .inr ⟨object, ?_⟩
    split
    · rename_i stored
      rw [stored]
    · rename_i stored
      rw [stored]

/-- Whether or not the resource is stored, its native object is created. -/
theorem native_createResource (device : Device)
    (store : ObjectId → Except TableError Handle × Resources) :
    (device.createResource store).2.native = device.native.createObject.2 := by
  unfold createResource
  split
  · rename_i created
    rw [created]
  · rename_i created
    rw [created]
    split <;> rfl

/-- A creation stores the resource in the table of its family, or leaves the resources. -/
theorem resources_make (device : Device) (description : ResourceDescription) :
    (device.make description).2.resources = device.resources ∨
      ∃ object, (device.make description).2.resources =
        device.resources.setTable description.family
          ((device.resources.table description.family).allocate
            (description.resource object)).2 := by
  rw [make_eq]
  split
  · exact .inl rfl
  · exact device.resources_createResource _

/-- A creation creates a native object, or leaves the native device. -/
theorem native_make (device : Device) (description : ResourceDescription) :
    (device.make description).2.native = device.native ∨
      (device.make description).2.native = device.native.createObject.2 := by
  rw [make_eq]
  split
  · exact .inl rfl
  · exact .inr (device.native_createResource _)

/-- Resources of all families are disposed of in the same way. -/
theorem dispose_eq (device : Device) (family : ResourceFamily) (handle : Handle) :
    device.dispose handle family =
      let (freed, table) := (device.resources.table family).free handle
      (freed.map fun _ => (),
        { device with resources := device.resources.setTable family table }) := by
  cases family <;> rfl

end Device

end CommandStream
