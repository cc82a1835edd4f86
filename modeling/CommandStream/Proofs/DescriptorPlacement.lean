import CommandStream.Proofs.Disposal
import CommandStream.Proofs.LiveRanges
import CommandStream.Proofs.Translation
/-!
# Where descriptors are

Two paths lead to a descriptor. A view is written into the slot of its heap that the range and an
index say; a table is bound by way of a record, to the address of the first slot of the range, from
which the device goes on by the stride of the heap. Both come to the same slots (`Device.Serves`):
a heap begins at a multiple of 2 ^ 32 that its native object decides, and its slots take less than
that, so no address wraps and no two heaps share one (`Resources.Spread`). Live ranges have no slot
in common, hence neither views nor addresses (`Device.Separates`).
-/

namespace CommandStream

/-! ## Addresses -/

/-- The address of a slot of a heap. -/
def DescriptorHeap.address (heap : DescriptorHeap) (slot : Nat) : Nat :=
  heap.start.pointer.toNat + heap.start.stride.toNat * slot

/-- Addresses grow with the slots. -/
theorem DescriptorHeap.address_le (heap : DescriptorHeap) {slot place : Nat}
    (before : slot ≤ place) : heap.address slot ≤ heap.address place :=
  Nat.add_le_add_left (Nat.mul_le_mul_left _ before) _

/-- Advancing twice is advancing once by the sum. -/
theorem DescriptorAddress.advance_advance (address : DescriptorAddress) (first second : Nat) :
    (address.advance first).advance second = address.advance (first + second) := by
  simp only [advance, UInt64.ofNat_add, UInt64.mul_add, UInt64.add_assoc]

/-- The distance between the descriptors of a heap is a few bytes. -/
theorem HeapType.toNat_stride_le (heapType : HeapType) : heapType.stride.toNat ≤ 32 := by
  cases heapType
  all_goals decide

/-- The heaps of a device are of two types, numbered one after the other. -/
theorem HeapType.subtype_add_subtype {first second : HeapType} (different : first ≠ second) :
    first.subtype + second.subtype = 1 := by
  cases first with
  | cbvSrvUav =>
    cases second with
    | cbvSrvUav => exact absurd rfl different
    | sampler => rfl
  | sampler =>
    cases second with
    | cbvSrvUav => rfl
    | sampler => exact absurd rfl different

/-- Heaps have the stride of their type, begin at different multiples of 2 ^ 32, and are no larger
than an allocator manages. -/
structure Resources.Spread (resources : Resources) : Prop where
  stride : ∀ heapType, (resources.heap heapType).start.stride = heapType.stride
  aligned : ∀ heapType, 4294967296 ∣ (resources.heap heapType).start.pointer.toNat
  apart : ∀ first second, first ≠ second → (resources.heap first).start.pointer.toNat ≠
    (resources.heap second).start.pointer.toNat
  managed : ∀ heapType,
    (resources.heap heapType).allocator.capacity ≤ DescriptorAllocator.capacityMax

/-- The start of a heap is the identity of its object, but for the bits that do not fit. -/
theorem DescriptorHeap.toNat_start_ofObject (object : ObjectId) (allocator : DescriptorAllocator) :
    (ofObject object allocator).start.pointer.toNat = object % 4294967296 * 4294967296 := by
  have shifted : (UInt64.ofNat object <<< 32).toNat =
      object % 2 ^ 64 * 2 ^ 32 % 2 ^ 64 := by
    rw [UInt64.toNat_shiftLeft, UInt64.toNat_ofNat', Nat.shiftLeft_eq]
    rfl
  rw [ofObject, shifted]
  omega

/-- The heaps of a new device are spread. -/
theorem Device.spread_of_create {native : NativeDevice} {description : DeviceDescription}
    {device : Device} (created : create native description = .ok device) :
    device.resources.Spread := by
  constructor
  case stride =>
    intro heapType
    obtain ⟨allocator, isAllocator, isHeap⟩ := heap_of_create created heapType
    rw [isHeap, DescriptorHeap.ofObject, DescriptorAllocator.heapType_of_ofCapacity? isAllocator]
  case aligned =>
    intro heapType
    obtain ⟨allocator, _, isHeap⟩ := heap_of_create created heapType
    rw [isHeap, DescriptorHeap.toNat_start_ofObject]
    exact Nat.dvd_mul_left _ _
  case apart =>
    intro first second different
    obtain ⟨firstAllocator, _, isFirst⟩ := heap_of_create created first
    obtain ⟨secondAllocator, _, isSecond⟩ := heap_of_create created second
    rw [isFirst, isSecond, DescriptorHeap.toNat_start_ofObject,
      DescriptorHeap.toNat_start_ofObject]
    -- Identities in a row differ in the bits that are kept.
    have neighbours := HeapType.subtype_add_subtype different
    omega
  case managed =>
    intro heapType
    obtain ⟨allocator, isAllocator, isHeap⟩ := heap_of_create created heapType
    have divided := HeapUse.divided_start isAllocator
    rw [isHeap]
    exact divided.managed

/-- Heaps that stay in place stay spread. -/
theorem Resources.Spread.of_samePlace {before after : Resources} (spread : before.Spread)
    (samePlace : ∀ heapType, (before.heap heapType).SamePlace (after.heap heapType)) :
    after.Spread := by
  constructor
  case stride => exact fun heapType => (samePlace heapType).start ▸ spread.stride heapType
  case aligned => exact fun heapType => (samePlace heapType).start ▸ spread.aligned heapType
  case apart =>
    intro first second
    rw [(samePlace first).start, (samePlace second).start]
    exact spread.apart first second
  case managed => exact fun heapType => (samePlace heapType).capacity ▸ spread.managed heapType

namespace Resources.Spread

variable {resources : Resources} (spread : resources.Spread) {heapType : HeapType} {slot : Nat}
include spread

/-- A heap takes less than 2 ^ 32 bytes. -/
theorem distance_lt (inside : slot ≤ (resources.heap heapType).allocator.capacity) :
    (resources.heap heapType).start.stride.toNat * slot < 4294967296 := by
  have stride : (resources.heap heapType).start.stride.toNat ≤ 32 :=
    spread.stride heapType ▸ heapType.toNat_stride_le
  have managed : slot ≤ 16777216 := Nat.le_trans inside (spread.managed heapType)
  have few : (resources.heap heapType).start.stride.toNat * slot ≤ 32 * 16777216 :=
    Nat.mul_le_mul stride managed
  omega

/-- The address of a slot is found without wrapping around. -/
theorem toNat_advance (inside : slot ≤ (resources.heap heapType).allocator.capacity) :
    ((resources.heap heapType).start.advance slot).pointer.toNat =
      (resources.heap heapType).address slot := by
  have managed : slot ≤ 16777216 := Nat.le_trans inside (spread.managed heapType)
  have distance := spread.distance_lt inside
  have aligned := spread.aligned heapType
  have below := (resources.heap heapType).start.pointer.toNat_lt
  have isSlot : slot % 2 ^ 64 = slot := Nat.mod_eq_of_lt (by omega)
  rw [DescriptorAddress.advance, DescriptorHeap.address, UInt64.toNat_add, UInt64.toNat_mul,
    UInt64.toNat_ofNat', isSlot]
  omega

/-- From the address of a slot the heap goes on by its stride. -/
theorem toNat_advance_add {count : Nat}
    (inside : slot ≤ (resources.heap heapType).allocator.capacity) :
    ((resources.heap heapType).start.advance slot).pointer.toNat +
        ((resources.heap heapType).start.advance slot).stride.toNat * count =
      (resources.heap heapType).address (slot + count) := by
  rw [spread.toNat_advance inside, DescriptorHeap.address, DescriptorHeap.address, Nat.mul_add,
    Nat.add_assoc]
  rfl

/-- Slots of different heaps lie apart, since neither heap reaches the start of the other. -/
theorem address_apart {other : HeapType} (different : heapType ≠ other) {place : Nat}
    (inside : slot ≤ (resources.heap heapType).allocator.capacity)
    (otherInside : place ≤ (resources.heap other).allocator.capacity) :
    (resources.heap heapType).address slot ≤ (resources.heap other).start.pointer.toNat ∨
      (resources.heap other).address place ≤ (resources.heap heapType).start.pointer.toNat := by
  have distance := spread.distance_lt inside
  have otherDistance := spread.distance_lt otherInside
  have aligned := spread.aligned heapType
  have otherAligned := spread.aligned other
  have apart := spread.apart heapType other different
  simp only [DescriptorHeap.address]
  omega

end Resources.Spread

/-! ## Binding -/

/-- A range is bound at an address. Where records are replayed that leave a pipeline bound, and the
root layout of the pipeline has a table of the type of the range at a slot, the record that binds
the range to the slot is executed behind them, and its call is for the address. -/
def Resources.Binds (resources : Resources) (range : DescriptorRange) (heapType : HeapType)
    (base : DescriptorAddress) : Prop :=
  ∀ (front : List EncodeCall) (slot : UInt32) (calls : List Call) (bound : Interpreter)
    (pipeline : Pipeline),
    (∀ call ∈ front, call.command.Countable) →
    (CommandBuffer.ofCalls front).replay resources = ⟨calls, bound, none⟩ →
    bound.Accepts slot pipeline (.table heapType) →
    (CommandBuffer.ofCalls (front ++ [.setDescriptorTable slot range])).replay resources =
      ⟨calls ++ [.setRootDescriptorTable pipeline.description.bindPoint slot base.pointer],
        bound.countCommand, none⟩

/-- The record that binds a range that resolves is executed where its slot takes it. -/
theorem Interpreter.execute_setDescriptorTable {resources : Resources} {interpreter : Interpreter}
    {offset : Nat} {binding : TableBinding} {heapType : HeapType} {base : DescriptorAddress}
    {pipeline : Pipeline} (named : binding.range.heapType? = some heapType)
    (resolves : resources.resolveRange binding.range = .ok base)
    (accepts : interpreter.Accepts binding.slot pipeline (.table heapType)) :
    execute resources interpreter offset ⟨.setDescriptorTable, binding⟩ =
      ⟨[.setRootDescriptorTable pipeline.description.bindPoint binding.slot base.pointer],
        .ok interpreter⟩ := by
  have parameter : interpreter.rootParameter binding.slot .setDescriptorTable =
      .ok (pipeline, .table heapType) := rootParameter_eq_ok.mpr accepts
  simp only [execute, single_eq_ok, bind_eq_ok]
  refine ⟨_, ⟨(pipeline, .table heapType), parameter, ?_⟩, rfl⟩
  simp only [named, if_true, bind_eq_ok, mapError_eq_ok, pure_eq_ok]
  exact ⟨base, resolves, rfl⟩

/-- A range is bound at the address that it resolves to. -/
theorem Resources.binds_of_resolves {resources : Resources} {range : DescriptorRange}
    {heapType : HeapType} {base : DescriptorAddress} (named : range.heapType? = some heapType)
    (resolves : resources.resolveRange range = .ok base) :
    resources.Binds range heapType base := by
  intro front slot calls bound pipeline countable replayed accepts
  have commands : ∀ command ∈ front.map EncodeCall.command, command.Countable :=
    List.forall_mem_map.mpr countable
  have all : ∀ command ∈ front.map EncodeCall.command ++ [⟨.setDescriptorTable, ⟨range, slot⟩⟩],
      command.Countable :=
    List.forall_mem_append.mpr ⟨commands, List.forall_mem_singleton.mpr (List.forall_mem_nil _)⟩
  rw [CommandBuffer.replay, CommandBuffer.ofCalls_eq, CommandBuffer.walk_ofCommands commands]
    at replayed
  have executed (offset : Nat) : Interpreter.execute resources bound offset
      (Command.counted ⟨.setDescriptorTable, ⟨range, slot⟩⟩) =
      ⟨[.setRootDescriptorTable pipeline.description.bindPoint slot base.pointer], .ok bound⟩ :=
    Interpreter.execute_setDescriptorTable named resolves accepts
  rw [CommandBuffer.replay, CommandBuffer.ofCalls_eq, List.map_append, List.map_singleton,
    EncodeCall.command, CommandBuffer.walk_ofCommands all, Command.placed_append,
    Interpreter.run_append replayed, Command.placed, Interpreter.run, executed]
  rfl

/-! ## Writing -/

/-- A view comes into one slot of a heap, and nothing else of the device changes. -/
structure Device.WritesSlot (before after : Device) (heapType : HeapType) (slot : Nat)
    (view : DescriptorView ObjectId) : Prop where
  written : (after.resources.heap heapType).written slot = some view
  others : ∀ other place, other ≠ heapType ∨ place ≠ slot →
    (after.resources.heap other).written place = (before.resources.heap other).written place
  unchanged : ∃ written, after =
    before.setHeap heapType { before.resources.heap heapType with written := written }

theorem Device.writesSlot_setHeap (device : Device) (heapType : HeapType) (slot : Nat)
    (view : DescriptorView ObjectId) :
    device.WritesSlot
      (device.setHeap heapType ((device.resources.heap heapType).write slot view))
      heapType slot view := by
  constructor
  case written =>
    rw [setHeap, Resources.heap_setHeap, if_pos rfl, DescriptorHeap.write]
    exact if_pos rfl
  case others =>
    intro other place elsewhere
    rw [setHeap, Resources.heap_setHeap]
    split
    · rename_i same
      rw [same, DescriptorHeap.write]
      exact if_neg (elsewhere.resolve_left (not_not_intro same))
    · rfl
  case unchanged => exact ⟨_, rfl⟩

/-! ## Both paths -/

/-- What a range is good for that names a heap of a device: its descriptors are slots of the heap,
written by index and reached from the address at which the range is bound. -/
structure Device.Serves (device : Device) (range : DescriptorRange) (heapType : HeapType)
    (base : DescriptorAddress) : Prop where
  named : range.heapType? = some heapType
  inside : range.stop ≤ (device.resources.heap heapType).allocator.capacity
  writes : ∀ index source after, device.writeDescriptor range index source = (.ok (), after) →
    index < range.length ∧ ∃ view, device.resources.resolveView heapType source = .ok view ∧
      device.WritesSlot after heapType (range.offset + index) view
  writable : ∀ index source view, index < range.length →
    device.resources.resolveView heapType source = .ok view →
    ∃ after, device.writeDescriptor range index source = (.ok (), after)
  resolves : device.resources.resolveRange range = .ok base
  binds : device.resources.Binds range heapType base
  /-- The device goes on from the base by strides, and so does an index, without wrapping. -/
  reaches : ∀ index < range.length,
    (base.advance index).pointer.toNat =
        (device.resources.heap heapType).address (range.offset + index) ∧
      base.pointer.toNat + base.stride.toNat * index =
        (device.resources.heap heapType).address (range.offset + index)

/-- A range that lies in the heap that it names is good for what a range is good for. -/
theorem Device.serves_of_inside {device : Device} (spread : device.resources.Spread)
    {range : DescriptorRange} {heapType : HeapType} (named : range.heapType? = some heapType)
    (inside : range.stop ≤ (device.resources.heap heapType).allocator.capacity) :
    device.Serves range heapType
      ((device.resources.heap heapType).start.advance range.offset) := by
  have resolves := (Interpreter.resolveRange_eq_ok named).mpr ⟨inside, rfl⟩
  constructor
  case named => exact named
  case inside => exact inside
  case writes =>
    intro index source after isWritten
    obtain ⟨isOf, view, resolved, rfl⟩ := (writeDescriptor_eq_ok named inside).mp isWritten
    exact ⟨isOf, view, resolved, device.writesSlot_setHeap heapType _ view⟩
  case writable =>
    intro index source view isOf resolved
    exact ⟨_, (writeDescriptor_eq_ok named inside).mpr ⟨isOf, view, resolved, rfl⟩⟩
  case resolves => exact resolves
  case binds => exact Resources.binds_of_resolves named resolves
  case reaches =>
    intro index isOf
    rw [DescriptorRange.stop] at inside
    refine ⟨?_, spread.toNat_advance_add (by omega)⟩
    rw [DescriptorAddress.advance_advance]
    exact spread.toNat_advance (by omega)

/-- Two ranges of a device are separate: the bytes of their descriptors do not overlap, and what is
written by way of the first is in no slot of the second. -/
structure Device.Separates (device : Device) (first second : DescriptorRange) : Prop where
  addresses : ∀ firstBase secondBase, device.resources.resolveRange first = .ok firstBase →
    device.resources.resolveRange second = .ok secondBase →
    firstBase.pointer.toNat + firstBase.stride.toNat * first.length ≤ secondBase.pointer.toNat ∨
      secondBase.pointer.toNat + secondBase.stride.toNat * second.length ≤
        firstBase.pointer.toNat
  views : ∀ index source after, device.writeDescriptor first index source = (.ok (), after) →
    ∀ heapType, second.heapType? = some heapType → ∀ slot ∈ second.slots,
      (after.resources.heap heapType).written slot = (device.resources.heap heapType).written slot

/-- Ranges that are not empty are separate if they are of different heaps or have no slot in
common. -/
theorem Device.Serves.separates {device : Device} (spread : device.resources.Spread)
    {first second : DescriptorRange} {firstHeap secondHeap : HeapType}
    {firstBase secondBase : DescriptorAddress} (serves : device.Serves first firstHeap firstBase)
    (otherServes : device.Serves second secondHeap secondBase) (filled : first.isEmpty = false)
    (otherFilled : second.isEmpty = false)
    (disjoint : firstHeap = secondHeap → first.slots.Disjoint second.slots) :
    device.Separates first second := by
  constructor
  case addresses =>
    intro isFirst isSecond resolves otherResolves
    obtain ⟨inside, rfl⟩ := (Interpreter.resolveRange_eq_ok serves.named).mp resolves
    obtain ⟨otherInside, rfl⟩ :=
      (Interpreter.resolveRange_eq_ok otherServes.named).mp otherResolves
    have startInside := Nat.le_trans (Nat.le_add_right first.offset first.length) inside
    have otherStartInside := Nat.le_trans (Nat.le_add_right second.offset second.length) otherInside
    rw [spread.toNat_advance_add startInside, spread.toNat_advance_add otherStartInside,
      spread.toNat_advance startInside, spread.toNat_advance otherStartInside]
    by_cases same : firstHeap = secondHeap
    · subst same
      have slotsApart : first.stop ≤ second.offset ∨ second.stop ≤ first.offset :=
        HeapUse.apart_of_disjoint (DescriptorRange.lt_stop filled)
          (DescriptorRange.lt_stop otherFilled) fun slot isFirst isSecond =>
            disjoint rfl (DescriptorRange.mem_slots.mpr isFirst)
              (DescriptorRange.mem_slots.mpr isSecond)
      exact slotsApart.imp (DescriptorHeap.address_le _) (DescriptorHeap.address_le _)
    · have reach := spread.address_apart same inside otherInside
      exact reach.imp (fun ends => Nat.le_trans ends (Nat.le_add_right _ _))
        (fun ends => Nat.le_trans ends (Nat.le_add_right _ _))
  case views =>
    intro index source after isWritten heapType named slot member
    cases otherServes.named.symm.trans named
    obtain ⟨isOf, view, _, writesSlot⟩ := serves.writes index source after isWritten
    refine writesSlot.others secondHeap slot ?_
    by_cases same : firstHeap = secondHeap
    · right
      rintro rfl
      have isFirst : first.offset + index ∈ first.slots :=
        DescriptorRange.mem_slots.mpr ⟨Nat.le_add_right _ _, Nat.add_lt_add_left isOf _⟩
      exact disjoint same isFirst member
    · exact .inl (Ne.symm same)

/-- The heaps of a session stay where the device was created with them. -/
theorem SessionUse.spread_after {native : NativeDevice} {description : DeviceDescription}
    {device : Device} (created : Device.create native description = .ok device)
    (actions : List Action) :
    ((start device).after actions).session.device.resources.Spread := by
  have sound : (Session.start device).device.resources.Sound := Device.sound_of_create created
  have spares : (Session.start device).device.resources.Spares
      ((Session.start device).after actions).device.resources [] :=
    Session.spares_after sound (List.forall_mem_nil _)
  rw [session_after]
  exact (Device.spread_of_create created).of_samePlace spares.heaps

/-- Writing and binding agree. Whatever is done in a session in which only live ranges are given
back, every live range names a heap and serves it: a view that is written through it comes into one
slot, and the range is bound at an address from which the strides lead to just these slots. Two
live ranges that are not empty, in one heap or in two, overlap neither in slots nor in addresses. -/
theorem descriptor_paths_agree {native : NativeDevice} {description : DeviceDescription}
    {device : Device} (created : Device.create native description = .ok device)
    {actions : List Action} (returned : (SessionUse.start device).ReturnsAll actions) :
    let use := (SessionUse.start device).after actions
    (∀ range ∈ use.live, ∃ heapType base, use.session.device.Serves range heapType base) ∧
      use.live.Pairwise fun first second => first.isEmpty = false → second.isEmpty = false →
        use.session.device.Separates first second ∧ use.session.device.Separates second first := by
  intro use
  have tracked : use.Tracked := (SessionUse.tracked_start created).after returned
  have spread : use.session.device.resources.Spread := SessionUse.spread_after created actions
  have serves : ∀ range ∈ use.live, ∃ heapType base,
      use.session.device.Serves range heapType base := by
    intro range isLive
    obtain ⟨heapType, named, inside⟩ := tracked.inside range isLive
    exact ⟨heapType, _, Device.serves_of_inside spread named inside⟩
  refine ⟨serves, tracked.apart.imp_of_mem ?_⟩
  intro first second isLive otherLive disjoint filled otherFilled
  obtain ⟨heapType, base, firstServes⟩ := serves first isLive
  obtain ⟨otherType, otherBase, secondServes⟩ := serves second otherLive
  have apart : heapType = otherType → first.slots.Disjoint second.slots := fun same =>
    disjoint heapType firstServes.named (same ▸ secondServes.named)
  exact ⟨firstServes.separates spread secondServes filled otherFilled apart,
    secondServes.separates spread firstServes otherFilled filled fun same _ isSecond isFirst =>
      apart same.symm isFirst isSecond⟩

/-- A pipeline with a table, three ranges, one of them with slots that were given back before: the
range of one slot is bound two strides behind the start of its heap, and is apart from the one in
front of it. -/
theorem descriptor_paths_agree_small :
    let actions : List Action :=
      [.createPipeline ⟨none, .compute, [.constants 1, .table .cbvSrvUav]⟩,
        .allocateDescriptors .cbvSrvUav 2, .allocateDescriptors .cbvSrvUav 1,
        .allocateDescriptors .sampler 2, .freeDescriptors ⟨⟨0, 2⟩⟩,
        .allocateDescriptors .cbvSrvUav 2]
    let use := (SessionUse.start .small).after actions
    let device := use.session.device
    let bind := CommandBuffer.ofCalls [.setPipeline ⟨0, 0⟩, .setDescriptorTable 1 ⟨⟨2, 1⟩⟩]
    Device.create .fresh ⟨1, 4, 4⟩ = .ok .small ∧
      (SessionUse.start .small).ReturnsAll actions ∧
      use.live = [⟨⟨0, 2⟩⟩, ⟨⟨0x1000000, 2⟩⟩, ⟨⟨2, 1⟩⟩] ∧
      device.Serves ⟨⟨2, 1⟩⟩ .cbvSrvUav ⟨0x100000040, 32⟩ ∧
      (bind.replay device.resources).calls =
        [.setPipeline 3 .compute, .setRootDescriptorTable .compute 1 0x100000040] ∧
      device.Separates ⟨⟨0, 2⟩⟩ ⟨⟨2, 1⟩⟩ := by
  intro actions use device bind
  have created : Device.create .fresh ⟨1, 4, 4⟩ = .ok .small := rfl
  have isLive : ⟨⟨0, 2⟩⟩ ∈ ((SessionUse.start .small).after (actions.take 4)).live := by
    decide +kernel
  have returned : (SessionUse.start .small).ReturnsAll actions :=
    ⟨trivial, trivial, trivial, trivial, isLive, trivial, trivial⟩
  have live : use.live = [⟨⟨0, 2⟩⟩, ⟨⟨0x1000000, 2⟩⟩, ⟨⟨2, 1⟩⟩] := by decide +kernel
  obtain ⟨serves, separates⟩ := descriptor_paths_agree created returned
  rw [live] at separates
  obtain ⟨heapType, base, single⟩ := serves ⟨⟨2, 1⟩⟩ (by rw [live]; decide)
  cases single.named
  have resolves : device.resources.resolveRange ⟨⟨2, 1⟩⟩ = .ok ⟨0x100000040, 32⟩ := rfl
  cases resolves.symm.trans single.resolves
  let front : List EncodeCall := [.setPipeline ⟨0, 0⟩]
  let bound := ((CommandBuffer.ofCalls front).replay device.resources).interpreter
  have countable : ∀ call ∈ front, call.command.Countable :=
    List.forall_mem_singleton.mpr (List.forall_mem_nil _)
  have calls : ((CommandBuffer.ofCalls front).replay device.resources).calls =
      [.setPipeline 3 .compute] := by decide +kernel
  have completed : ((CommandBuffer.ofCalls front).replay device.resources).failure = none := by
    decide +kernel
  have replayed : (CommandBuffer.ofCalls front).replay device.resources =
      ⟨[.setPipeline 3 .compute], bound, none⟩ := by rw [← calls, ← completed]
  have accepts : bound.Accepts 1
      ⟨3, .compute, ⟨none, .compute, [.constants 1, .table .cbvSrvUav]⟩⟩ (.table .cbvSrvUav) :=
    ⟨by decide +kernel, rfl⟩
  have isBound := single.binds front 1 _ bound _ countable replayed accepts
  have apart : device.Separates ⟨⟨0, 2⟩⟩ ⟨⟨2, 1⟩⟩ :=
    ((List.pairwise_cons.mp separates).1 ⟨⟨2, 1⟩⟩ (by decide) rfl rfl).1
  exact ⟨created, returned, live, single, congrArg Interpreter.Run.calls isBound, apart⟩

end CommandStream
