import CommandStream.Proofs.HeapPartition
import CommandStream.Proofs.SessionHistory
/-!
# What traffic on a device leaves alone

A value that is stored in a table stays under its handle until that handle is freed: a table that
grows keeps its slots in place, only empty slots are used again, and no other handle frees the slot
(`Sound.get_allocate`, `get_free`). Heaps keep their objects, their addresses and their capacities.
`Spares` says both of two states of the resources and some handles, and `spares_after` carries it
through whatever is done in a session, as long as none of the handles is disposed of.
-/

namespace CommandStream

/-! ## Tables -/

namespace SlotTable

variable {family : ResourceFamily} {α : Type} {table : SlotTable family α} {handle : Handle}
  {value : α}

/-- Only empty slots are used again. -/
theorem Sound.get_occupy (sound : table.Sound) {index : Nat} {vacant : List Nat}
    (next : table.vacant = index :: vacant) (new : α) (found : table.get handle = .ok value) :
    (table.occupy index vacant new).2.get handle = .ok value := by
  have stored := get_eq_ok_iff.mp found
  obtain ⟨generation, empty⟩ := sound.empty index (next ▸ List.mem_cons_self)
  have apart : index ≠ handle.index.toNat := by
    rintro rfl
    cases stored.symm.trans empty
  exact get_eq_ok_iff.mpr ((List.getElem?_set_ne apart).trans stored)

/-- A table that grows keeps its slots in place. -/
theorem get_grown (found : table.get handle = .ok value) : table.grown.get handle = .ok value := by
  have stored := get_eq_ok_iff.mp found
  have inside := (List.getElem?_eq_some_iff.mp stored).1
  exact get_eq_ok_iff.mpr ((List.getElem?_append_left inside).trans stored)

/-- What is stored under a handle stays there when another value is stored, or cannot be. -/
theorem Sound.get_allocate (sound : table.Sound) (new : α) (found : table.get handle = .ok value) :
    (table.allocate new).2.get handle = .ok value := by
  rcases table.allocate_cases new with ⟨index, vacant, next, answer⟩ |
    ⟨_, fits, index, vacant, next, answer⟩ | ⟨_, _, answer⟩
  · rw [answer]
    exact sound.get_occupy next new found
  · rw [answer]
    exact ((evolves_grown fits).sound sound).get_occupy next new (get_grown found)
  · rw [answer]
    exact found

/-- No other handle frees the slot of a handle: of the handles with its index only one is that of
the value stored. -/
theorem get_free {other : Handle} (apart : other ≠ handle) (found : table.get handle = .ok value) :
    (table.free other).2.get handle = .ok value := by
  have stored := get_eq_ok_iff.mp found
  unfold free
  split
  · exact found
  · rename_i freed isFreed
    have occupied := get_eq_ok_iff.mp isFreed
    have elsewhere : other.index.toNat ≠ handle.index.toNat := by
      intro same
      rw [same, stored] at occupied
      obtain ⟨sameGeneration, _⟩ := Slot.mk.inj (Option.some.inj occupied)
      exact apart (Handle.mk.injEq _ _ _ _ ▸ ⟨UInt32.toNat_inj.mp same, sameGeneration.symm⟩)
    refine get_eq_ok_iff.mpr ?_
    rw [vacate_eq occupied]
    exact (List.getElem?_set_ne elsewhere).trans stored

end SlotTable

/-! ## Heaps -/

/-- A range that is given back leaves the capacity of its heap. -/
theorem DescriptorAllocator.capacity_free (allocator : DescriptorAllocator)
    (range : DescriptorRange) : (allocator.free range).capacity = allocator.capacity := by
  unfold free
  split <;> rfl

/-- A range that is given back leaves the type of its heap. -/
theorem DescriptorAllocator.heapType_free (allocator : DescriptorAllocator)
    (range : DescriptorRange) : (allocator.free range).heapType = allocator.heapType := by
  unfold free
  split <;> rfl

/-- A heap is the same native object with the same slots, whatever they hold and whichever of them
are free. -/
structure DescriptorHeap.SamePlace (before after : DescriptorHeap) : Prop where
  object : after.object = before.object
  start : after.start = before.start
  capacity : after.allocator.capacity = before.allocator.capacity

theorem DescriptorHeap.SamePlace.refl (heap : DescriptorHeap) : heap.SamePlace heap :=
  ⟨rfl, rfl, rfl⟩

namespace Resources

/-! ## Resources -/

/-- What a handle finds in the table of its family, it finds there afterwards. -/
def Keeps (before after : Resources) (handle : Handle) : ResourceFamily → Prop
  | .buffer => ∀ buffer, before.buffers.get handle = .ok buffer →
    after.buffers.get handle = .ok buffer
  | .texture => ∀ texture, before.textures.get handle = .ok texture →
    after.textures.get handle = .ok texture
  | .sampler => ∀ sampler, before.samplers.get handle = .ok sampler →
    after.samplers.get handle = .ok sampler
  | .pipeline => ∀ pipeline, before.pipelines.get handle = .ok pipeline →
    after.pipelines.get handle = .ok pipeline

theorem keeps_iff {before after : Resources} {handle : Handle} {family : ResourceFamily} :
    before.Keeps after handle family ↔ ∀ value, (before.table family).get handle = .ok value →
      (after.table family).get handle = .ok value := by
  cases family <;> exact Iff.rfl

/-- Some handles, each with its family, find what they found, and the heaps are in place. -/
structure Spares (before after : Resources) (entries : List (ResourceFamily × Handle)) :
    Prop where
  kept : ∀ entry ∈ entries, before.Keeps after entry.2 entry.1
  heaps : ∀ heapType, (before.heap heapType).SamePlace (after.heap heapType)

variable {entries : List (ResourceFamily × Handle)}

/-- Where only the heaps are touched, and stay in place, every handle finds what it found. -/
theorem Spares.of_heaps {before after : Resources}
    (tables : ∀ family, after.table family = before.table family)
    (heaps : ∀ heapType, (before.heap heapType).SamePlace (after.heap heapType)) :
    before.Spares after entries := by
  refine ⟨fun entry _ => keeps_iff.mpr fun value found => ?_, heaps⟩
  rw [tables]
  exact found

theorem Spares.refl (resources : Resources) (entries : List (ResourceFamily × Handle)) :
    resources.Spares resources entries :=
  .of_heaps (fun _ => rfl) fun _ => .refl _

theorem Spares.trans {first second third : Resources} (front : first.Spares second entries)
    (back : second.Spares third entries) : first.Spares third entries := by
  refine ⟨fun entry member => ?_, fun heapType => ?_⟩
  · obtain ⟨family, handle⟩ := entry
    have keptFront := front.kept _ member
    have keptBack := back.kept _ member
    cases family
    all_goals exact fun value found => keptBack value (keptFront value found)
  · obtain ⟨frontObject, frontStart, frontCapacity⟩ := front.heaps heapType
    obtain ⟨backObject, backStart, backCapacity⟩ := back.heaps heapType
    exact ⟨backObject.trans frontObject, backStart.trans frontStart,
      backCapacity.trans frontCapacity⟩

/-- What is done to a table is seen by the handles of its family only. -/
theorem spares_setTable {resources : Resources} {family : ResourceFamily}
    {table : SlotTable family family.Stored}
    (kept : ∀ handle, (family, handle) ∈ entries → ∀ value,
      (resources.table family).get handle = .ok value → table.get handle = .ok value) :
    resources.Spares (resources.setTable family table) entries := by
  refine ⟨fun entry member => keeps_iff.mpr ?_, fun heapType => ?_⟩
  · obtain ⟨other, handle⟩ := entry
    by_cases same : other = family
    · subst same
      rw [table_setTable]
      exact kept handle member
    · rw [table_setTable_of_ne _ _ same]
      exact fun _ => id
  · rw [heap_setTable]
    exact .refl _

/-- What is done within a heap that stays in place is seen by no handle. -/
theorem spares_setHeap (resources : Resources) {heapType : HeapType} {heap : DescriptorHeap}
    (samePlace : (resources.heap heapType).SamePlace heap) :
    resources.Spares (resources.setHeap heapType heap) entries := by
  refine .of_heaps (resources.table_setHeap heapType heap) fun other => ?_
  rw [heap_setHeap]
  split
  · rename_i same
    exact same ▸ samePlace
  · exact .refl _

end Resources

/-! ## Devices -/

namespace Device

variable {device : Device} {entries : List (ResourceFamily × Handle)}

/-- A new resource displaces nothing. -/
theorem spares_make (sound : device.resources.Sound) (description : ResourceDescription) :
    device.resources.Spares (device.make description).2.resources entries := by
  rcases device.resources_make description with same | ⟨object, same⟩
  all_goals rw [same]
  · exact .refl _ _
  · exact Resources.spares_setTable fun _ _ _ => (sound.table _).get_allocate _

/-- Disposing of a resource is seen by its own handle only. -/
theorem spares_dispose (device : Device) {handle : Handle} {family : ResourceFamily}
    (other : (family, handle) ∉ entries) :
    device.resources.Spares (device.dispose handle family).2.resources entries := by
  rw [dispose_eq]
  refine Resources.spares_setTable fun kept member _ => SlotTable.get_free ?_
  rintro rfl
  exact other member

theorem spares_freeDescriptors (device : Device) (range : DescriptorRange) :
    device.resources.Spares (device.freeDescriptors range).2.resources entries := by
  rcases device.freeDescriptors_cases range with same | ⟨heapType, same⟩
  all_goals rw [same]
  · exact .refl _ _
  · exact Resources.spares_setHeap _ ⟨rfl, rfl, DescriptorAllocator.capacity_free _ _⟩

theorem spares_writeDescriptor (device : Device) (range : DescriptorRange) (index : Nat)
    (source : DescriptorView Handle) :
    device.resources.Spares (device.writeDescriptor range index source).2.resources entries := by
  rcases device.writeDescriptor_cases range index source with same | ⟨heapType, view, same⟩
  all_goals rw [same]
  · exact .refl _ _
  · exact Resources.spares_setHeap _ ⟨rfl, rfl, rfl⟩

end Device

/-! ## Sessions -/

namespace Session

variable {entries : List (ResourceFamily × Handle)}

/-- Making a queue leaves the resources. -/
theorem resources_createQueue (session : Session) (native type : QueueType) :
    (session.createQueue native type).device.resources = session.device.resources := by
  rw [createQueue]
  dsimp only
  rw [Device.createQueue]
  dsimp only
  cases (session.device.native.createQueue native).2.createFence 0 with
  | mk answer final => cases answer <;> rfl

/-- An action spares all handles but the one that it disposes of. -/
theorem spares_perform {session : Session} (sound : session.device.resources.Sound)
    {action : Action} (spared : ∀ entry ∈ entries, action ≠ .dispose entry.1 entry.2) :
    session.device.resources.Spares (session.perform action).device.resources entries := by
  cases action with
  | createBuffer description => exact Device.spares_make sound (.buffer description)
  | createTexture description => exact Device.spares_make sound (.texture description)
  | createSampler description => exact Device.spares_make sound (.sampler description)
  | createPipeline description => exact Device.spares_make sound (.pipeline description)
  | dispose family handle =>
    exact session.device.spares_dispose fun member => spared _ member rfl
  | allocateDescriptors heapType count =>
    have unchanged := ((session.device.resources.heap heapType).allocator.allocates count).unchanged
    exact Resources.spares_setHeap _ ⟨rfl, rfl, unchanged.2⟩
  | freeDescriptors range => exact session.device.spares_freeDescriptors range
  | writeDescriptor range index source =>
    exact session.device.spares_writeDescriptor range index source
  | createQueue native type =>
    rw [perform, session.resources_createQueue native type]
    exact .refl _ _
  | submit index buffers dependencies =>
    rw [perform, submit]
    split
    · exact .refl _ _
    · rename_i queue _
      have same := (queue.submits session.device buffers dependencies).resources_eq
      dsimp only
      rw [same]
      exact .refl _ _
  | _ => exact .refl _ _

/-- Actions in a row spare the handles that none of them disposes of. -/
theorem spares_after {session : Session} (sound : session.device.resources.Sound)
    {actions : List Action}
    (spared : ∀ entry ∈ entries, Action.dispose entry.1 entry.2 ∉ actions) :
    session.device.resources.Spares (session.after actions).device.resources entries := by
  induction actions generalizing session with
  | nil => exact .refl _ _
  | cons action later inductionHypothesis =>
    have first : session.device.resources.Spares (session.perform action).device.resources
        entries := by
      refine spares_perform sound fun entry member same => spared entry member ?_
      exact same ▸ List.mem_cons_self
    have stillSound : (session.perform action).device.resources.Sound :=
      (session.evolves_perform action).resources.sound sound
    refine first.trans (inductionHypothesis stillSound fun entry member inLater => ?_)
    exact spared entry member (List.mem_cons_of_mem _ inLater)

end Session

end CommandStream
