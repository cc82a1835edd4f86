import CommandStream.Descriptor.Allocator
import CommandStream.Native.Device
import CommandStream.SlotTable
/-!
# Devices and their resources

A device keeps a table for each family of resources and a heap for each kind of descriptors over
a native device. Tables and heaps together are its `Resources`, and replay sees nothing else of
it. Every operation answers with the device it leaves behind, also when it fails.
-/

namespace CommandStream

/-- The configuration of a device: how many slots its tables grow by and how many descriptors
its heaps hold. -/
structure DeviceDescription where
  tableChunk : Nat
  cbvSrvUavCapacity : Nat
  samplerCapacity : Nat
  deriving DecidableEq, Repr

namespace DeviceDescription

/-- The configuration used unless told otherwise. -/
def standard : DeviceDescription := ⟨SlotTable.defaultChunk, 65536, 2048⟩

/-- The number of descriptors of a heap. -/
def heapCapacity (description : DeviceDescription) : HeapType → Nat
  | .cbvSrvUav => description.cbvSrvUavCapacity
  | .sampler => description.samplerCapacity

end DeviceDescription

/-- What makes a description unacceptable. -/
inductive DescriptionFault
  | emptyChunk
  | heapTooLarge (heap : HeapType) (capacity : Nat)
  | emptyBuffer
  | emptyTexture
  | noLevelOrSample
  | rootCostTooLarge (cost : Nat)
  deriving DecidableEq, Repr

namespace DescriptionFault

/-- What the description is of. -/
def subject : DescriptionFault → String
  | .emptyChunk | .heapTooLarge _ _ => "device"
  | .emptyBuffer => "buffer"
  | .emptyTexture | .noLevelOrSample => "texture"
  | .rootCostTooLarge _ => "pipeline"

/-- What is wrong with it. -/
def describe : DescriptionFault → String
  | .emptyChunk => "table chunk size must be positive"
  | .heapTooLarge heap capacity =>
    let label := Enumeration.name heap
    s!"{label} heap capacity {capacity} exceeds {DescriptorAllocator.capacityMax}"
  | .emptyBuffer => "size is zero"
  | .emptyTexture => "zero extent"
  | .noLevelOrSample => "level and sample counts must be positive"
  | .rootCostTooLarge cost =>
    s!"root layout costs {cost} words, limit is {PipelineDescription.rootCostMax}"

end DescriptionFault

/-- Why a device or a resource cannot be created. -/
inductive CreationError
  | device (cause : DeviceError)
  | invalidDescription (fault : DescriptionFault)
  /-- The table of the resource cannot grow. -/
  | table (cause : TableError)
  deriving DecidableEq

/-- The text of the error. -/
def CreationError.message : CreationError → String
  | .device cause => cause.message
  | .invalidDescription fault => s!"invalid {fault.subject} description: {fault.describe}"
  | .table cause => cause.message

/-- Why a descriptor slot cannot be filled. -/
inductive WriteDescriptorError
  /-- The handle to view resolves to no resource. -/
  | handle (cause : HandleError)
  /-- The range is not one of the device. -/
  | descriptor (cause : DescriptorError)
  /-- The range has no descriptor of that number. -/
  | slotOutOfRange (index length : Nat)
  /-- The heap holds views of another kind. -/
  | wrongHeap (heap : HeapType)
  deriving DecidableEq, Repr

/-- The text of the error. -/
def WriteDescriptorError.message : WriteDescriptorError → String
  | .handle cause => cause.message
  | .descriptor cause => cause.message
  | .slotOutOfRange index length =>
    s!"slot {index} is outside a range of {length} descriptors"
  | .wrongHeap heap =>
    let label := Enumeration.name heap
    s!"{label} heaps cannot hold this kind of descriptor"

/-- A buffer: its native object, which knows its size, and its description. -/
structure Buffer where
  object : ObjectId
  objectSize : UInt64
  description : BufferDescription
  deriving DecidableEq

/-- A texture: its native object with the description it was created from, and its own. -/
structure Texture where
  object : ObjectId
  objectDescription : TextureDescription
  description : TextureDescription
  deriving DecidableEq

/-- A sampler: its native object and its description. -/
structure Sampler where
  object : ObjectId
  description : SamplerDescription
  deriving DecidableEq

/-- A pipeline: its native object, which knows where it binds, and its description. -/
structure Pipeline where
  object : ObjectId
  objectBindPoint : BindPoint
  description : PipelineDescription
  deriving DecidableEq

/-- A descriptor heap: its native object, the address of its first slot, the allocator that
carves it up, and the view last written into each slot. -/
structure DescriptorHeap where
  object : ObjectId
  heapType : HeapType
  start : DescriptorAddress
  allocator : DescriptorAllocator
  written : Nat → Option (DescriptorView ObjectId)

/-- The distance between the descriptors of a heap. -/
def HeapType.stride : HeapType → UInt64
  | .cbvSrvUav => 32
  | .sampler => 16

namespace DescriptorHeap

/-- The heap over a native object. Its slots start at an address made from the identity of the
object, so that heaps lie far apart. -/
def ofObject (object : ObjectId) (allocator : DescriptorAllocator) : DescriptorHeap where
  object := object
  heapType := allocator.heapType
  start := ⟨UInt64.ofNat object <<< 32, allocator.heapType.stride⟩
  allocator := allocator
  written _ := none

/-- Refuses a range that does not lie inside the heap. -/
def check (heap : DescriptorHeap) (range : DescriptorRange) : Except DescriptorError Unit :=
  if heap.allocator.capacity < range.stop then
    .error (.outOfRange range.offset range.stop heap.allocator.capacity)
  else .ok ()

/-- Where a range of this heap starts on the device. -/
def resolve (heap : DescriptorHeap) (range : DescriptorRange) :
    Except DescriptorError DescriptorAddress := do
  heap.check range
  return heap.start.advance range.offset

/-- The heap after a view is written into a slot. -/
def write (heap : DescriptorHeap) (slot : Nat) (view : DescriptorView ObjectId) :
    DescriptorHeap :=
  { heap with written := fun other => if other = slot then some view else heap.written other }

end DescriptorHeap

/-- The tables and heaps in which the handles and ranges of a command buffer are looked up. -/
structure Resources where
  buffers : SlotTable .buffer Buffer
  textures : SlotTable .texture Texture
  samplers : SlotTable .sampler Sampler
  pipelines : SlotTable .pipeline Pipeline
  cbvSrvUavHeap : DescriptorHeap
  samplerHeap : DescriptorHeap

namespace Resources

/-- The heap of a type. -/
def heap (resources : Resources) : HeapType → DescriptorHeap
  | .cbvSrvUav => resources.cbvSrvUavHeap
  | .sampler => resources.samplerHeap

/-- The heaps by increasing subtype. -/
def heaps (resources : Resources) : List DescriptorHeap :=
  [resources.cbvSrvUavHeap, resources.samplerHeap]

/-- Changes the heap of a type. -/
def setHeap (resources : Resources) (heapType : HeapType) (heap : DescriptorHeap) : Resources :=
  match heapType with
  | .cbvSrvUav => { resources with cbvSrvUavHeap := heap }
  | .sampler => { resources with samplerHeap := heap }

/-- The type of the heap that a range names. -/
def rangeHeap (range : DescriptorRange) : Except DescriptorError HeapType :=
  match range.heapType? with
  | some heapType => .ok heapType
  | none => .error (.unknownHeap range.subtype)

/-- Where a range starts on the device, in the heap that it names. -/
def resolveRange (resources : Resources) (range : DescriptorRange) :
    Except DescriptorError DescriptorAddress := do
  let heapType ← rangeHeap range
  (resources.heap heapType).resolve range

/-- The view of native objects that a source becomes in a heap. A view that does not belong
there is refused before its resource is looked at. -/
def resolveView (resources : Resources) :
    HeapType → DescriptorView Handle → Except WriteDescriptorError (DescriptorView ObjectId)
  | .cbvSrvUav, .constantBuffer buffer offset size => do
    let found ← (resources.buffers.get buffer).mapError .handle
    return .constantBuffer found.object offset size
  | .cbvSrvUav, .bufferShaderResource buffer => do
    let found ← (resources.buffers.get buffer).mapError .handle
    return .bufferShaderResource found.object
  | .cbvSrvUav, .bufferUnorderedAccess buffer => do
    let found ← (resources.buffers.get buffer).mapError .handle
    return .bufferUnorderedAccess found.object
  | .cbvSrvUav, .textureShaderResource texture => do
    let found ← (resources.textures.get texture).mapError .handle
    return .textureShaderResource found.object
  | .cbvSrvUav, .textureUnorderedAccess texture => do
    let found ← (resources.textures.get texture).mapError .handle
    return .textureUnorderedAccess found.object
  | .sampler, .sampler sampler => do
    let found ← (resources.samplers.get sampler).mapError .handle
    return .sampler found.object
  | heapType, _ => .error (.wrongHeap heapType)

end Resources

/-- A native device with its configuration, resource tables and descriptor heaps. -/
structure Device where
  native : NativeDevice
  description : DeviceDescription
  resources : Resources

namespace Device

/-- The allocator of a heap, or the fault of a capacity that no allocator manages. -/
def heapAllocator (description : DeviceDescription) (heapType : HeapType) :
    Except CreationError DescriptorAllocator :=
  match DescriptorAllocator.ofCapacity? heapType (description.heapCapacity heapType) with
  | .ok allocator => .ok allocator
  | .error error => .error (.invalidDescription (.heapTooLarge heapType error.capacity))

/-- Wraps a native device. The description is checked as a whole before any heap is created. -/
def create (native : NativeDevice) (description : DeviceDescription) :
    Except CreationError Device :=
  if chunk_pos : 0 < description.tableChunk then do
    let cbvSrvUav ← heapAllocator description .cbvSrvUav
    let sampler ← heapAllocator description .sampler
    let (first, native) := native.createObject
    let first ← first.mapError .device
    let (second, native) := native.createObject
    let second ← second.mapError .device
    return {
      native := native
      description := description
      resources := {
        buffers := .empty description.tableChunk chunk_pos
        textures := .empty description.tableChunk chunk_pos
        samplers := .empty description.tableChunk chunk_pos
        pipelines := .empty description.tableChunk chunk_pos
        cbvSrvUavHeap := .ofObject first cbvSrvUav
        samplerHeap := .ofObject second sampler } }
  else .error (.invalidDescription .emptyChunk)

/-- Creates the native object of a resource and stores the resource in its table. `store`
makes the resource of the object and answers with the table it is in. -/
def createResource (device : Device)
    (store : ObjectId → Except TableError Handle × Resources) :
    Except CreationError Handle × Device :=
  match device.native.createObject with
  | (.error cause, native) => (.error (.device cause), { device with native := native })
  | (.ok object, native) =>
    match store object with
    | (.error cause, resources) =>
      (.error (.table cause), { device with native := native, resources := resources })
    | (.ok handle, resources) =>
      (.ok handle, { device with native := native, resources := resources })

/-- Creates a buffer of at least one byte. -/
def createBuffer (device : Device) (description : BufferDescription) :
    Except CreationError Handle × Device :=
  if description.size = 0 then (.error (.invalidDescription .emptyBuffer), device)
  else
    device.createResource fun object =>
      let (handle, buffers) :=
        device.resources.buffers.allocate ⟨object, description.size, description⟩
      (handle, { device.resources with buffers := buffers })

/-- Creates a texture with an extent, a level and a sample. -/
def createTexture (device : Device) (description : TextureDescription) :
    Except CreationError Handle × Device :=
  if description.width = 0 ∨ description.height = 0 ∨ description.depthOrLayers = 0 then
    (.error (.invalidDescription .emptyTexture), device)
  else if description.levels = 0 ∨ description.samples = 0 then
    (.error (.invalidDescription .noLevelOrSample), device)
  else
    device.createResource fun object =>
      let (handle, textures) :=
        device.resources.textures.allocate ⟨object, description, description⟩
      (handle, { device.resources with textures := textures })

/-- Creates a sampler. -/
def createSampler (device : Device) (description : SamplerDescription) :
    Except CreationError Handle × Device :=
  device.createResource fun object =>
    let (handle, samplers) := device.resources.samplers.allocate ⟨object, description⟩
    (handle, { device.resources with samplers := samplers })

/-- Creates a pipeline whose root layout fits the root space. -/
def createPipeline (device : Device) (description : PipelineDescription) :
    Except CreationError Handle × Device :=
  if PipelineDescription.rootCostMax < description.rootCost then
    (.error (.invalidDescription (.rootCostTooLarge description.rootCost)), device)
  else
    device.createResource fun object =>
      let (handle, pipelines) :=
        device.resources.pipelines.allocate ⟨object, description.bindPoint, description⟩
      (handle, { device.resources with pipelines := pipelines })

/-- Disposes of a buffer. -/
def disposeBuffer (device : Device) (handle : Handle) : Except HandleError Unit × Device :=
  let (freed, buffers) := device.resources.buffers.free handle
  (freed.map fun _ => (),
    { device with resources := { device.resources with buffers := buffers } })

/-- Disposes of a texture. -/
def disposeTexture (device : Device) (handle : Handle) : Except HandleError Unit × Device :=
  let (freed, textures) := device.resources.textures.free handle
  (freed.map fun _ => (),
    { device with resources := { device.resources with textures := textures } })

/-- Disposes of a sampler. -/
def disposeSampler (device : Device) (handle : Handle) : Except HandleError Unit × Device :=
  let (freed, samplers) := device.resources.samplers.free handle
  (freed.map fun _ => (),
    { device with resources := { device.resources with samplers := samplers } })

/-- Disposes of a pipeline. -/
def disposePipeline (device : Device) (handle : Handle) : Except HandleError Unit × Device :=
  let (freed, pipelines) := device.resources.pipelines.free handle
  (freed.map fun _ => (),
    { device with resources := { device.resources with pipelines := pipelines } })

/-- Changes the heap of a type. -/
def setHeap (device : Device) (heapType : HeapType) (heap : DescriptorHeap) : Device :=
  { device with resources := device.resources.setHeap heapType heap }

/-- Reserves descriptors in a row of the heap of a type. -/
def allocateDescriptors (device : Device) (heapType : HeapType) (count : Nat) :
    Except DescriptorError DescriptorRange × Device :=
  let heap := device.resources.heap heapType
  let (range, allocator) := heap.allocator.allocate count
  (range, device.setHeap heapType { heap with allocator := allocator })

/-- Frees the descriptors of a range, which must name a heap and lie inside it. -/
def freeDescriptors (device : Device) (range : DescriptorRange) :
    Except DescriptorError Unit × Device :=
  match Resources.rangeHeap range with
  | .error error => (.error error, device)
  | .ok heapType =>
    let heap := device.resources.heap heapType
    match heap.check range with
    | .error error => (.error error, device)
    | .ok () =>
      (.ok (), device.setHeap heapType { heap with allocator := heap.allocator.free range })

/-- Writes a view into the descriptor `index` of a range. -/
def writeDescriptor (device : Device) (range : DescriptorRange) (index : Nat)
    (source : DescriptorView Handle) : Except WriteDescriptorError Unit × Device :=
  if range.length ≤ index then (.error (.slotOutOfRange index range.length), device)
  else
    match Resources.rangeHeap range with
    | .error error => (.error (.descriptor error), device)
    | .ok heapType =>
      let heap := device.resources.heap heapType
      match heap.check range with
      | .error error => (.error (.descriptor error), device)
      | .ok () =>
        match device.resources.resolveView heapType source with
        | .error error => (.error error, device)
        | .ok view => (.ok (), device.setHeap heapType (heap.write (range.offset + index) view))

end Device

end CommandStream
