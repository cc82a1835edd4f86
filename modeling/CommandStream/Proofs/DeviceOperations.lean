import CommandStream.Proofs.DescriptorPlacement
import CommandStream.Proofs.FirstFit
import CommandStream.Proofs.IssuedHandles
import CommandStream.Proofs.NativeLife
/-!
# All or nothing

An operation that creates or disposes of a resource, or that hands out, takes back or writes
descriptors, leaves the device exactly as it was when it fails, and otherwise changes one entry of
one table, the free blocks of one heap or one slot of one heap (`Device.Atomic`). For most
operations that is a matter of the order in which they check and change. Two need to know how the
device came about: a slot that receives a resource is empty because tables are `Sound`, and a range
that is taken off a free block can be packed because the blocks lie in their heap
(`Resources.Carved`), even where descriptors were given back that nobody held.
-/

namespace CommandStream

/-! ## Free blocks -/

/-- What is left of a block ends where the block does. -/
theorem Block.stop_of_mem_shortened {block rest : Block} {count : Nat}
    (member : rest ∈ block.shortened count) : rest.stop = block.stop := by
  rw [shortened] at member
  split at member
  · cases member
  · cases List.mem_singleton.mp member
    rfl

namespace DescriptorAllocator

variable {allocator : DescriptorAllocator}

/-- A heap is one that an allocator manages, and its free blocks have slots and lie in it. They may
overlap. -/
structure Contained (allocator : DescriptorAllocator) : Prop where
  managed : allocator.capacity ≤ capacityMax
  filled : ∀ block ∈ allocator.blocks, block.start < block.stop
  inside : ∀ block ∈ allocator.blocks, block.stop ≤ allocator.capacity

theorem contained_of_ofCapacity? {heapType : HeapType} {capacity : Nat}
    (created : ofCapacity? heapType capacity = .ok allocator) : allocator.Contained := by
  have divided := HeapUse.divided_start created
  exact ⟨divided.managed, divided.filled, divided.partitions.blocksInside⟩

namespace Contained

variable (contained : allocator.Contained)
include contained

/-- What is handed out is the one of first fit. -/
theorem settles (count : Nat) : allocator.Settles count (allocator.allocate count) := by
  refine DescriptorAllocator.settles (fun block member => ?_) count
  have filled := contained.filled block member
  have inside := contained.inside block member
  have managed := contained.managed
  omega

/-- What is left of a block lies where the block was. -/
theorem allocate (count : Nat) : (allocator.allocate count).2.Contained := by
  have settles := contained.settles count
  generalize allocator.allocate count = answer at settles
  cases settles with
  | nothing | tooLarge | insufficient => exact contained
  | taken _ _ isBlocks _ long =>
    obtain ⟨managed, filled, inside⟩ := contained
    refine ⟨managed, Block.filled_shortened long (isBlocks ▸ filled), ?_⟩
    simp only [isBlocks, List.forall_mem_append, List.forall_mem_cons] at inside ⊢
    obtain ⟨front, whole, back⟩ := inside
    exact ⟨front, fun rest member => Block.stop_of_mem_shortened member ▸ whole, back⟩

/-- A range that lies in the heap is a block that does. -/
theorem free {range : DescriptorRange} (inside : range.stop ≤ allocator.capacity) :
    (allocator.free range).Contained := by
  rw [DescriptorAllocator.free]
  split
  · exact contained
  · rename_i filled
    refine ⟨contained.managed, ?_, ?_⟩
    · exact List.forall_mem_append.mpr ⟨contained.filled,
        List.forall_mem_singleton.mpr (DescriptorRange.lt_stop (Bool.eq_false_iff.mpr filled))⟩
    · exact List.forall_mem_append.mpr ⟨contained.inside, List.forall_mem_singleton.mpr inside⟩

end Contained

end DescriptorAllocator

/-- The allocators of the heaps are those of their types, and their free blocks lie in them. -/
structure Resources.Carved (resources : Resources) : Prop where
  typed : ∀ heapType, (resources.heap heapType).allocator.heapType = heapType
  contained : ∀ heapType, (resources.heap heapType).allocator.Contained

namespace Resources.Carved

variable {resources after : Resources}

theorem of_allocators (carved : resources.Carved)
    (same : ∀ heapType, (after.heap heapType).allocator = (resources.heap heapType).allocator) :
    after.Carved := by
  constructor
  case typed => exact fun heapType => same heapType ▸ carved.typed heapType
  case contained => exact fun heapType => same heapType ▸ carved.contained heapType

theorem setHeap (carved : resources.Carved) {heapType : HeapType} {heap : DescriptorHeap}
    (typed : heap.allocator.heapType = heapType) (contained : heap.allocator.Contained) :
    (resources.setHeap heapType heap).Carved := by
  constructor
  all_goals
    intro other
    rw [heap_setHeap]
    split
  · rename_i same
    exact same ▸ typed
  · exact carved.typed other
  · exact contained
  · exact carved.contained other

end Resources.Carved

/-- The heaps of a new device are all free. -/
theorem Device.carved_of_create {native : NativeDevice} {description : DeviceDescription}
    {device : Device} (created : create native description = .ok device) :
    device.resources.Carved := by
  constructor
  all_goals
    intro heapType
    obtain ⟨allocator, isAllocator, isHeap⟩ := heap_of_create created heapType
    rw [isHeap]
  · exact DescriptorAllocator.heapType_of_ofCapacity? isAllocator
  · exact DescriptorAllocator.contained_of_ofCapacity? isAllocator

namespace Session

/-- Whatever is asked of the heaps of a session, or given back to them, their free blocks lie in
them. -/
theorem carved_perform {session : Session} (carved : session.device.resources.Carved)
    (action : Action) : (session.perform action).device.resources.Carved := by
  cases action with
  | allocateDescriptors heapType count =>
    have contained := carved.contained heapType
    have unchanged := ((session.device.resources.heap heapType).allocator.allocates count).unchanged
    exact carved.setHeap (unchanged.1.trans (carved.typed heapType)) (contained.allocate count)
  | freeDescriptors range =>
    rw [perform, Device.freeDescriptors]
    split
    · exact carved
    · rename_i heapType _
      dsimp only
      split
      · exact carved
      · rename_i checked
        have contained := (carved.contained heapType).free (DescriptorHeap.check_eq_ok.mp checked)
        have sameType := (session.device.resources.heap heapType).allocator.heapType_free range
        exact carved.setHeap (sameType.trans (carved.typed heapType)) contained
  | _ => exact carved.of_allocators (session.allocator_perform rfl)

theorem carved_after {session : Session} (carved : session.device.resources.Carved)
    (actions : List Action) : (session.after actions).device.resources.Carved := by
  induction actions generalizing session with
  | nil => exact carved
  | cons action later inductionHypothesis =>
    exact inductionHypothesis (carved_perform carved action)

end Session

/-! ## Operations -/

namespace Device

variable {device : Device}

/-- An operation is all or nothing: after an error the device is as it was, and otherwise the
answer and the device after it are as `change` has them. -/
def AllOrNothing {ε α : Type} (device : Device) (change : α → Device → Prop) :
    Except ε α × Device → Prop
  | (.error _, after) => after = device
  | (.ok answer, after) => change answer after

/-- A resource comes into the table of its family, over the object that the native device numbers
next. -/
def Gains (device : Device) (description : ResourceDescription) (handle : Handle)
    (after : Device) : Prop :=
  ∃ table, (device.resources.table description.family).Receives table handle
      (description.resource device.native.nextId) ∧
    after = { device with
      native := device.native.numbered
      resources := device.resources.setTable description.family table }

/-- A resource goes from the table of its family. -/
def Loses (device : Device) (family : ResourceFamily) (handle : Handle) (after : Device) : Prop :=
  ∃ table, (device.resources.table family).Releases table handle ∧
    after = { device with resources := device.resources.setTable family table }

/-- Other descriptors of a heap are free. -/
def Recarves (device : Device) (heapType : HeapType) (after : Device) : Prop :=
  ∃ blocks, after = device.setHeap heapType { device.resources.heap heapType with
    allocator := { (device.resources.heap heapType).allocator with blocks := blocks } }

/-- Whatever is asked of a device, it is done entirely, and to one entry of one table, the free
blocks of one heap or one slot of one heap, or it is not done at all. Where a table runs out of
indices the program stops instead of answering; `creates` is about the answers, and `stops` says
when there is none. -/
structure Atomic (device : Device) : Prop where
  creates : ∀ description, (∀ cause, (device.make description).1 ≠ .error (.table cause)) →
    device.AllOrNothing (device.Gains description) (device.make description)
  stops : ∀ description cause, (device.make description).1 = .error (.table cause) →
    (device.resources.table description.family).vacant = [] ∧
      SlotTable.slotLimit ≤ (device.resources.table description.family).slots.length +
        (device.resources.table description.family).chunk ∧
      (device.make description).2 = { device with native := device.native.numbered }
  disposes : ∀ family handle,
    device.AllOrNothing (fun _ => device.Loses family handle) (device.dispose handle family)
  reserves : ∀ heapType count, device.AllOrNothing
    (fun range after => range.heapType? = some heapType ∧ device.Recarves heapType after)
    (device.allocateDescriptors heapType count)
  recovers : ∀ range, device.AllOrNothing
    (fun _ after => ∃ heapType, range.heapType? = some heapType ∧ device.Recarves heapType after)
    (device.freeDescriptors range)
  writes : ∀ range index source, device.AllOrNothing
    (fun _ after => ∃ heapType view, range.heapType? = some heapType ∧ index < range.length ∧
      device.resources.resolveView heapType source = .ok view ∧
      device.WritesSlot after heapType (range.offset + index) view)
    (device.writeDescriptor range index source)

theorem allOrNothing_make (sound : device.resources.Sound) (description : ResourceDescription)
    (answers : ∀ cause, (device.make description).1 ≠ .error (.table cause)) :
    device.AllOrNothing (device.Gains description) (device.make description) := by
  have makes := Device.makes sound description
  generalize device.make description = answer at answers makes
  cases makes with
  | invalid => rfl
  | lost => rfl
  | exhausted => exact absurd rfl (answers _)
  | created _ _ receives => exact ⟨_, receives, rfl⟩

theorem stops_of_make (sound : device.resources.Sound) {description : ResourceDescription}
    {cause : TableError} (stopped : (device.make description).1 = .error (.table cause)) :
    (device.resources.table description.family).vacant = [] ∧
      SlotTable.slotLimit ≤ (device.resources.table description.family).slots.length +
        (device.resources.table description.family).chunk ∧
      (device.make description).2 = { device with native := device.native.numbered } := by
  have makes := Device.makes sound description
  generalize device.make description = answer at stopped makes
  cases makes with
  | invalid => cases stopped
  | lost => cases stopped
  | exhausted _ _ noneReady full => exact ⟨noneReady, full, rfl⟩
  | created => cases stopped

theorem allOrNothing_dispose (sound : device.resources.Sound) (family : ResourceFamily)
    (handle : Handle) :
    device.AllOrNothing (fun _ => device.Loses family handle) (device.dispose handle family) := by
  rw [dispose_eq]
  rcases answer : (device.resources.table family).free handle with ⟨error | value, table⟩
  · have same : table = device.resources.table family := by
      unfold SlotTable.free at answer
      split at answer
      · exact (Prod.mk.inj answer).2.symm
      · cases answer
    rw [same]
    dsimp only
    rw [Resources.setTable_table]
    rfl
  · have releases := (sound.table family).releases_free (congrArg Prod.fst answer)
    rw [answer] at releases
    exact ⟨table, releases, rfl⟩

theorem setHeap_heap (device : Device) (heapType : HeapType) :
    device.setHeap heapType (device.resources.heap heapType) = device := by
  cases heapType <;> rfl

theorem allOrNothing_allocateDescriptors (carved : device.resources.Carved) (heapType : HeapType)
    (count : Nat) :
    device.AllOrNothing
      (fun range after => range.heapType? = some heapType ∧ device.Recarves heapType after)
      (device.allocateDescriptors heapType count) := by
  have settles := (carved.contained heapType).settles count
  have typed := carved.typed heapType
  rw [allocateDescriptors]
  dsimp only
  generalize (device.resources.heap heapType).allocator.allocate count = answer at settles
  have named {range : DescriptorRange} (isSubtype : range.subtype =
      (device.resources.heap heapType).allocator.heapType.subtype) :
      range.heapType? = some heapType := by
    rw [typed] at isSubtype
    exact HeapType.ofSubtype?_eq_some_iff.mpr isSubtype.symm
  cases settles with
  | nothing _ _ isSubtype => exact ⟨named isSubtype, _, rfl⟩
  | taken _ _ _ _ _ _ _ isSubtype => exact ⟨named isSubtype, _, rfl⟩
  | tooLarge => exact device.setHeap_heap heapType
  | insufficient => exact device.setHeap_heap heapType

theorem allOrNothing_freeDescriptors (device : Device) (range : DescriptorRange) :
    device.AllOrNothing
      (fun _ after => ∃ heapType, range.heapType? = some heapType ∧
        device.Recarves heapType after)
      (device.freeDescriptors range) := by
  unfold freeDescriptors
  split
  · rfl
  · rename_i heapType isHeap
    dsimp only
    split
    · rfl
    · refine ⟨heapType, Resources.rangeHeap_eq_ok.mp isHeap, ?_⟩
      rw [DescriptorAllocator.free]
      split
      · exact ⟨_, rfl⟩
      · exact ⟨_, rfl⟩

theorem allOrNothing_writeDescriptor (device : Device) (range : DescriptorRange) (index : Nat)
    (source : DescriptorView Handle) :
    device.AllOrNothing
      (fun _ after => ∃ heapType view, range.heapType? = some heapType ∧ index < range.length ∧
        device.resources.resolveView heapType source = .ok view ∧
        device.WritesSlot after heapType (range.offset + index) view)
      (device.writeDescriptor range index source) := by
  unfold writeDescriptor
  split
  · rfl
  · rename_i isOf
    split
    · rfl
    · rename_i heapType isHeap
      dsimp only
      split
      · rfl
      · split
        · rfl
        · rename_i view resolved
          exact ⟨heapType, view, Resources.rangeHeap_eq_ok.mp isHeap, Nat.lt_of_not_le isOf,
            resolved, device.writesSlot_setHeap heapType _ view⟩

theorem atomic (sound : device.resources.Sound) (carved : device.resources.Carved) :
    device.Atomic where
  creates := allOrNothing_make sound
  stops _ _ := stops_of_make sound
  disposes := allOrNothing_dispose sound
  reserves := allOrNothing_allocateDescriptors carved
  recovers := device.allOrNothing_freeDescriptors
  writes := device.allOrNothing_writeDescriptor

/-- A resource that was just created is new: its handle is none of those that were issued, and its
object, which the native device created for it, is none of those in any life of the native device
up to then. -/
structure Introduces (device after : Device) (issued : List (ResourceFamily × Handle))
    (family : ResourceFamily) (handle : Handle) : Prop where
  unissued : (family, handle) ∉ issued
  object : ∃ object, after.resources.Names handle object family ∧
    device.native.Operates (some object) after.native ∧
    ∀ origin objects, NativeDevice.Lives origin objects device.native → object ∉ objects

theorem Makes.names {description : ResourceDescription} {handle : Handle} {after : Device}
    (makes : device.Makes description (.ok handle, after)) :
    after.resources.Names handle device.native.nextId description.family := by
  have found := makes.get.1
  cases description <;> exact ⟨_, found, rfl⟩

theorem Makes.operates {description : ResourceDescription} {handle : Handle} {after : Device}
    (makes : device.Makes description (.ok handle, after)) :
    device.native.Operates (some device.native.nextId) after.native := by
  cases makes with
  | created _ present => exact .object (NativeDevice.createObject_of_present present)

end Device

/-- Device operations are atomic and confined. Whatever was done in a session, an operation that
fails leaves the device exactly as it was, and one that succeeds changes one entry of one table, the
free blocks of one heap or one slot of one heap. Every handle but one that is disposed of finds what
it found. And a resource that is created has a handle that was not issued before, over an object
other than every object in the life of the native device, which the session is a part of. -/
theorem device_operations_atomic {native : NativeDevice} {description : DeviceDescription}
    {device : Device} (created : Device.create native description = .ok device)
    (actions : List Action) :
    let session := (Session.start device).after actions
    session.device.Atomic ∧
      (∀ action family handle, action ≠ .dispose family handle →
        session.device.resources.Keeps (session.perform action).device.resources handle family) ∧
      (∀ resource handle after, session.device.make resource = (.ok handle, after) →
        session.device.Introduces after ((Session.start device).issued actions) resource.family
          handle) ∧
      native.Reaches session.device.native := by
  intro session
  have soundFirst : (Session.start device).device.resources.Sound := Device.sound_of_create created
  have sound : session.device.resources.Sound :=
    ((Session.start device).evolves_after actions).resources.sound soundFirst
  have carvedFirst : (Session.start device).device.resources.Carved :=
    Device.carved_of_create created
  refine ⟨Device.atomic sound (Session.carved_after carvedFirst actions), ?_, ?_, ?_⟩
  · intro action family handle apart
    have spares : session.device.resources.Spares (session.perform action).device.resources
        [(family, handle)] :=
      Session.spares_perform sound (List.forall_mem_singleton.mpr apart)
    exact spares.kept _ List.mem_cons_self
  · intro resource handle after isMade
    have makes := Device.makes sound resource
    rw [isMade] at makes
    exact ⟨makes.notMem_issued soundFirst, _, makes.names, makes.operates,
      fun _ _ lives => lives.nextId_notMem⟩
  · exact (Device.reaches_of_create created).trans ((Session.start device).reaches_after actions)

/-- A buffer is disposed of, and its slot is used again under another handle and for another object.
The old handle cannot be disposed of a second time, which changes nothing. -/
theorem device_operations_atomic_small :
    let description : ResourceDescription := .buffer ⟨16, .empty⟩
    let actions : List Action := [.createBuffer ⟨16, .empty⟩, .dispose .buffer ⟨0, 0⟩]
    let device := ((Session.start .small).after actions).device
    let after := (device.make description).2
    Device.create .fresh ⟨1, 4, 4⟩ = .ok .small ∧
      (Session.start .small).issued actions = [(.buffer, ⟨0, 0⟩)] ∧
      device.make description = (.ok ⟨0, 1⟩, after) ∧
      device.Introduces after [(.buffer, ⟨0, 0⟩)] .buffer ⟨0, 1⟩ ∧
      device.Gains description ⟨0, 1⟩ after ∧
      device.dispose ⟨0, 0⟩ .buffer = (.error (.stale .buffer 0 0 1), device) := by
  intro description actions device after
  have created : Device.create .fresh ⟨1, 4, 4⟩ = .ok .small := rfl
  have issued : (Session.start .small).issued actions = [(.buffer, ⟨0, 0⟩)] := by decide +kernel
  have answer : (device.make description).1 = .ok ⟨0, 1⟩ := by decide +kernel
  have made : device.make description = (.ok ⟨0, 1⟩, after) := by rw [← answer]
  have refused : (device.dispose ⟨0, 0⟩ .buffer).1 = .error (.stale .buffer 0 0 1) := by
    decide +kernel
  obtain ⟨atomic, _, introduces, _⟩ := device_operations_atomic created actions
  have gains := atomic.creates description
  have unchanged := atomic.disposes .buffer ⟨0, 0⟩
  have isNew := introduces description _ _ made
  rw [issued] at isNew
  rw [made] at gains
  rw [← Prod.eta (device.dispose ⟨0, 0⟩ .buffer), refused] at unchanged ⊢
  exact ⟨created, issued, made, isNew, gains nofun, congrArg (Prod.mk _) unchanged⟩

end CommandStream
