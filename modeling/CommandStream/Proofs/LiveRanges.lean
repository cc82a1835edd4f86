import CommandStream.Proofs.ResourceFrame
/-!
# Live ranges of a session

A range of descriptors is live in a session from when it is handed out until it is given back.
`SessionUse` keeps the live ranges beside a session. As long as nothing is given back but live
ranges, the slots of the live ranges of a heap are just those that its allocator handed out, so
each heap is divided between them and its free blocks (`Tracked.after`): live ranges are inside
their heap and apart from each other, whatever else is done in the session.
-/

namespace CommandStream

/-! ## One heap -/

namespace HeapUse

/-- A heap of which live ranges hold all that is held. -/
def ofLive (allocator : DescriptorAllocator) (live : List DescriptorRange) : HeapUse :=
  ⟨allocator, live.flatMap DescriptorRange.slots, live⟩

variable {allocator after : DescriptorAllocator} {live : List DescriptorRange}

/-- A range that is handed out is live from then on. -/
theorem Divided.ofLive_allocate {range : DescriptorRange} {count : Nat}
    (divided : (ofLive allocator live).Divided)
    (allocated : allocator.allocate count = (.ok range, after)) :
    (ofLive after (range :: live)).Divided := by
  have divides := divided.allocate count
  rw [HeapUse.perform, show (ofLive allocator live).allocator.allocate count = _ from allocated]
    at divides
  exact divides

/-- Where no range is handed out, the live ranges stay what they are. -/
theorem Divided.ofLive_refuse {error : DescriptorError} {count : Nat}
    (divided : (ofLive allocator live).Divided)
    (refused : allocator.allocate count = (.error error, after)) :
    (ofLive after live).Divided := by
  have divides := divided.allocate count
  rw [HeapUse.perform, show (ofLive allocator live).allocator.allocate count = _ from refused]
    at divides
  exact divides

/-- A live range that is given back is the only one that is live no more. -/
theorem Divided.ofLive_free {range : DescriptorRange} (divided : (ofLive allocator live).Divided)
    (isLive : range ∈ live) : (ofLive (allocator.free range) (live.erase range)).Divided := by
  have moved : (range.slots ++ (live.erase range).flatMap DescriptorRange.slots).Perm
      (live.flatMap DescriptorRange.slots) := by
    rw [← List.flatMap_cons]
    exact ((List.perm_cons_erase isLive).flatMap_right _).symm
  refine divided.take_back moved (fun other member slot inside => ?_) List.erase_sublist
  exact List.mem_flatMap.mpr ⟨other, member, inside⟩

end HeapUse

namespace DescriptorAllocator

variable {allocator : DescriptorAllocator} {count : Nat}

/-- A range that is handed out names the heap that it is of. -/
theorem Allocates.named {range : DescriptorRange} {after : DescriptorAllocator}
    (allocates : allocator.Allocates count (.ok range, after)) :
    range.heapType? = some allocator.heapType := by
  generalize isAnswer : (Except.ok (ε := DescriptorError) range, after) = answer at allocates
  cases allocates with
  | nothing | taken => exact (fields_of_packed (Prod.mk.inj isAnswer).1.symm).2.2
  | tooLarge | insufficient => cases isAnswer

/-- A range of no slot that is handed out is at the front of its heap. -/
theorem Allocates.offset_of_empty {range : DescriptorRange} {after : DescriptorAllocator}
    (allocates : allocator.Allocates count (.ok range, after)) (empty : range.isEmpty = true) :
    range.offset = 0 := by
  generalize isAnswer : (Except.ok (ε := DescriptorError) range, after) = answer at allocates
  cases allocates with
  | nothing => exact (fields_of_packed (Prod.mk.inj isAnswer).1.symm).1
  | taken someSlot =>
    have isLength := (fields_of_packed (Prod.mk.inj isAnswer).1.symm).2.1
    exact absurd (isLength.symm.trans (beq_iff_eq.mp empty)) someSlot
  | tooLarge | insufficient => cases isAnswer

/-- A new allocator is of the type that it is made for. -/
theorem heapType_of_ofCapacity? {heapType : HeapType} {capacity : Nat}
    (created : ofCapacity? heapType capacity = .ok allocator) : allocator.heapType = heapType := by
  unfold ofCapacity? at created
  split at created
  · cases created
  · cases created
    rfl

end DescriptorAllocator

/-! ## One operation -/

namespace Resources

theorem rangeHeap_eq_ok {range : DescriptorRange} {heapType : HeapType} :
    rangeHeap range = .ok heapType ↔ range.heapType? = some heapType := by
  unfold rangeHeap
  cases range.heapType? with
  | none => exact ⟨nofun, nofun⟩
  | some named => simp

end Resources

theorem DescriptorHeap.check_eq_ok {heap : DescriptorHeap} {range : DescriptorRange} :
    heap.check range = .ok () ↔ range.stop ≤ heap.allocator.capacity := by
  rw [check]
  split
  · rename_i outside
    simp [outside]
  · rename_i inside
    simp [Nat.le_of_not_lt inside]

namespace Device

variable {device : Device} {range : DescriptorRange} {heapType : HeapType}

/-- A range that names a heap and lies in it is taken back by the allocator of the heap. -/
theorem freeDescriptors_of_inside (named : range.heapType? = some heapType)
    (inside : range.stop ≤ (device.resources.heap heapType).allocator.capacity) :
    device.freeDescriptors range =
      (.ok (), device.setHeap heapType { device.resources.heap heapType with
        allocator := (device.resources.heap heapType).allocator.free range }) := by
  rw [freeDescriptors, Resources.rangeHeap_eq_ok.mpr named]
  dsimp only
  rw [DescriptorHeap.check_eq_ok.mpr inside]

/-- A range that names a heap and lies in it is written into wherever it has a descriptor, if the
view belongs there. -/
theorem writeDescriptor_eq_ok {index : Nat} {source : DescriptorView Handle} {after : Device}
    (named : range.heapType? = some heapType)
    (inside : range.stop ≤ (device.resources.heap heapType).allocator.capacity) :
    device.writeDescriptor range index source = (.ok (), after) ↔
      index < range.length ∧ ∃ view, device.resources.resolveView heapType source = .ok view ∧
        after = device.setHeap heapType
          ((device.resources.heap heapType).write (range.offset + index) view) := by
  rw [writeDescriptor]
  split
  · rename_i beyond
    exact ⟨nofun, fun found => absurd found.1 (Nat.not_lt_of_le beyond)⟩
  · rename_i isOf
    rw [Resources.rangeHeap_eq_ok.mpr named]
    dsimp only
    rw [DescriptorHeap.check_eq_ok.mpr inside]
    cases device.resources.resolveView heapType source with
    | error error => simp
    | ok view => simp [Nat.lt_of_not_le isOf, eq_comm]

/-- Whatever is written, allocators stay as they are. -/
theorem allocator_writeDescriptor (device : Device) (range : DescriptorRange) (index : Nat)
    (source : DescriptorView Handle) (heapType : HeapType) :
    ((device.writeDescriptor range index source).2.resources.heap heapType).allocator =
      (device.resources.heap heapType).allocator := by
  rcases device.writeDescriptor_cases range index source with unwritten | ⟨written, view, isWritten⟩
  · rw [unwritten]
  · rw [isWritten, setHeap, Resources.heap_setHeap]
    split
    · rename_i same
      rw [same, DescriptorHeap.write]
    · rfl

end Device

/-! ## What leaves the allocators alone -/

/-- Creating a resource leaves the heaps. -/
theorem Device.heap_make (device : Device) (description : ResourceDescription)
    (heapType : HeapType) :
    (device.make description).2.resources.heap heapType = device.resources.heap heapType := by
  rcases device.resources_make description with same | ⟨object, same⟩
  all_goals rw [same]
  rw [Resources.heap_setTable]

/-- Whether an action hands out descriptors or takes them back. -/
def Action.carves : Action → Bool
  | .allocateDescriptors _ _ | .freeDescriptors _ => true
  | _ => false

/-- Only an action that hands out descriptors or takes them back changes an allocator. -/
theorem Session.allocator_perform (session : Session) {action : Action}
    (whole : action.carves = false) (heapType : HeapType) :
    ((session.perform action).device.resources.heap heapType).allocator =
      (session.device.resources.heap heapType).allocator := by
  have made (description : ResourceDescription) :=
    congrArg DescriptorHeap.allocator (session.device.heap_make description heapType)
  cases action with
  | createBuffer description => exact made (.buffer description)
  | createTexture description => exact made (.texture description)
  | createSampler description => exact made (.sampler description)
  | createPipeline description => exact made (.pipeline description)
  | dispose family handle =>
    rw [perform, Device.dispose_eq]
    dsimp only
    rw [Resources.heap_setTable]
  | allocateDescriptors heapType count => cases whole
  | freeDescriptors range => cases whole
  | writeDescriptor range index source =>
    exact session.device.allocator_writeDescriptor range index source heapType
  | createQueue native type => rw [perform, session.resources_createQueue native type]
  | submit index buffers dependencies =>
    rw [perform, submit]
    split
    · rfl
    · rename_i queue _
      dsimp only
      rw [(queue.submits session.device buffers dependencies).resources_eq]
  | _ => rfl

/-! ## New devices -/

theorem NativeDevice.createObject_eq_ok {device : NativeDevice} {object : ObjectId}
    (created : device.createObject.1 = .ok object) :
    object = device.nextId ∧ device.createObject.2.nextId = device.nextId + 1 := by
  unfold createObject at created ⊢
  split at created
  · cases created
  · rename_i present
    cases created
    rw [if_neg present]
    exact ⟨rfl, rfl⟩

theorem Device.ofCapacity?_of_heapAllocator {description : DeviceDescription} {heapType : HeapType}
    {allocator : DescriptorAllocator}
    (managed : heapAllocator description heapType = .ok allocator) :
    DescriptorAllocator.ofCapacity? heapType (description.heapCapacity heapType) =
      .ok allocator := by
  unfold heapAllocator at managed
  split at managed
  · rename_i created
    cases managed
    exact created
  · cases managed

/-- The heaps of a new device are over the next two native objects, by increasing subtype. -/
theorem Device.heap_of_create {native : NativeDevice} {description : DeviceDescription}
    {device : Device} (created : create native description = .ok device) (heapType : HeapType) :
    ∃ allocator, DescriptorAllocator.ofCapacity? heapType (description.heapCapacity heapType) =
        .ok allocator ∧
      device.resources.heap heapType =
        .ofObject (native.nextId + heapType.subtype) allocator := by
  unfold create at created
  split at created
  · simp only [bind_eq_ok, mapError_eq_ok, pure_eq_ok] at created
    obtain ⟨views, isViews, samplers, isSamplers, first, isFirst, second, isSecond, rfl⟩ := created
    obtain ⟨rfl, next⟩ := NativeDevice.createObject_eq_ok isFirst
    obtain ⟨rfl, _⟩ := NativeDevice.createObject_eq_ok isSecond
    cases heapType with
    | cbvSrvUav => exact ⟨views, ofCapacity?_of_heapAllocator isViews, rfl⟩
    | sampler =>
      refine ⟨samplers, ofCapacity?_of_heapAllocator isSamplers, ?_⟩
      exact congrArg (fun object => DescriptorHeap.ofObject object samplers) next
  · cases created

/-! ## Sessions with their live ranges -/

/-- A session with the ranges of descriptors that are live in it. -/
structure SessionUse where
  session : Session
  live : List DescriptorRange

namespace SessionUse

/-- The session with a device of which no descriptor is handed out. -/
def start (device : Device) : SessionUse := ⟨.start device, []⟩

/-- The live ranges after an action: one that is handed out comes to them, and one that is taken
back goes. -/
def liveAfter (use : SessionUse) : Action → List DescriptorRange
  | .allocateDescriptors heapType count =>
    match (use.session.device.allocateDescriptors heapType count).1 with
    | .ok range => range :: use.live
    | .error _ => use.live
  | .freeDescriptors range =>
    match (use.session.device.freeDescriptors range).1 with
    | .ok () => use.live.erase range
    | .error _ => use.live
  | _ => use.live

/-- The session and its live ranges after an action, whether or not the action fails. -/
def perform (use : SessionUse) (action : Action) : SessionUse :=
  ⟨use.session.perform action, use.liveAfter action⟩

/-- The session and its live ranges after actions in a row. -/
def after (use : SessionUse) (actions : List Action) : SessionUse := actions.foldl perform use

/-- Only a range that is live is given back. -/
def Returns (use : SessionUse) : Action → Prop
  | .freeDescriptors range => range ∈ use.live
  | _ => True

/-- In each of several actions in a row only a range that is then live is given back. -/
def ReturnsAll (use : SessionUse) : List Action → Prop
  | [] => True
  | action :: later => use.Returns action ∧ (use.perform action).ReturnsAll later

variable {use : SessionUse}

/-- Keeping the live ranges changes nothing about the session. -/
theorem session_after (use : SessionUse) (actions : List Action) :
    (use.after actions).session = use.session.after actions := by
  induction actions generalizing use with
  | nil => rfl
  | cons action later inductionHypothesis => exact inductionHypothesis (use.perform action)

/-- The allocator of a heap. -/
def allocator (use : SessionUse) (heapType : HeapType) : DescriptorAllocator :=
  (use.session.device.resources.heap heapType).allocator

/-- The live ranges of a heap. -/
def liveIn (use : SessionUse) (heapType : HeapType) : List DescriptorRange :=
  use.live.filter fun range => range.heapType? = some heapType

/-- Each heap is divided between its free blocks and its live ranges, and every live range lies in
the heap that it names. -/
structure Tracked (use : SessionUse) : Prop where
  typed : ∀ heapType, (use.allocator heapType).heapType = heapType
  divided : ∀ heapType, (HeapUse.ofLive (use.allocator heapType) (use.liveIn heapType)).Divided
  inside : ∀ range ∈ use.live, ∃ heapType, range.heapType? = some heapType ∧
    range.stop ≤ (use.allocator heapType).capacity

/-- A live range names one heap. -/
theorem mem_liveIn {range : DescriptorRange} {heapType : HeapType} :
    range ∈ use.liveIn heapType ↔ range ∈ use.live ∧ range.heapType? = some heapType := by
  rw [liveIn, List.mem_filter, decide_eq_true_iff]

/-- Live ranges of one heap have no slot in common. -/
theorem Tracked.apart (tracked : use.Tracked) :
    use.live.Pairwise fun first second => ∀ heapType, first.heapType? = some heapType →
      second.heapType? = some heapType → first.slots.Disjoint second.slots := by
  refine List.pairwise_iff_forall_sublist.mpr fun {first second} both heapType => ?_
  have liveApart := List.pairwise_filter.mp (tracked.divided heapType).liveApart
  simp only [decide_eq_true_iff] at liveApart
  exact List.pairwise_iff_forall_sublist.mp liveApart both

/-- What leaves the allocators and the live ranges leaves them in order. -/
theorem Tracked.of_allocators {after : SessionUse} (tracked : use.Tracked)
    (same : ∀ heapType, after.allocator heapType = use.allocator heapType)
    (sameLive : after.live = use.live) : after.Tracked := by
  have sameIn (heapType : HeapType) : after.liveIn heapType = use.liveIn heapType := by
    rw [liveIn, liveIn, sameLive]
  constructor
  case typed => exact fun heapType => same heapType ▸ tracked.typed heapType
  case divided => exact fun heapType => by rw [same, sameIn]; exact tracked.divided heapType
  case inside =>
    intro range member
    simp only [same]
    exact tracked.inside range (sameLive ▸ member)

/-- What leaves one heap divided, and the others as they are, leaves all in order. -/
theorem Tracked.replace {after : SessionUse} (tracked : use.Tracked) {heapType : HeapType}
    {allocator : DescriptorAllocator}
    (replaced : ∀ other, after.allocator other =
      if other = heapType then allocator else use.allocator other)
    (typed : allocator.heapType = heapType)
    (capacity : allocator.capacity = (use.allocator heapType).capacity)
    (divided : (HeapUse.ofLive allocator (after.liveIn heapType)).Divided)
    (others : ∀ other, other ≠ heapType → after.liveIn other = use.liveIn other)
    (live : ∀ range ∈ after.live, range ∈ use.live ∨
      range.heapType? = some heapType ∧ range.stop ≤ allocator.capacity) : after.Tracked := by
  have capacities (other : HeapType) :
      (after.allocator other).capacity = (use.allocator other).capacity := by
    rw [replaced]
    split
    · rename_i same
      rw [capacity, same]
    · rfl
  constructor
  case typed =>
    intro other
    rw [replaced]
    split
    · rename_i same
      rw [typed, same]
    · exact tracked.typed other
  case divided =>
    intro other
    rw [replaced]
    split
    · rename_i same
      exact same ▸ divided
    · rename_i apart
      rw [others other apart]
      exact tracked.divided other
  case inside =>
    intro range member
    simp only [capacities]
    rcases live range member with old | ⟨named, inside⟩
    · exact tracked.inside range old
    · exact ⟨heapType, named, capacity ▸ inside⟩

/-- A range that is handed out is the first live one of its heap; the other heaps see nothing. -/
theorem liveIn_cons {after : SessionUse} {range : DescriptorRange} {heapType : HeapType}
    (named : range.heapType? = some heapType) (isLive : after.live = range :: use.live) :
    after.liveIn heapType = range :: use.liveIn heapType ∧
      ∀ other, other ≠ heapType → after.liveIn other = use.liveIn other := by
  simp only [liveIn, isLive]
  refine ⟨List.filter_cons_of_pos (decide_eq_true named), fun other apart => ?_⟩
  exact List.filter_cons_of_neg fun isOther =>
    apart (Option.some.inj ((of_decide_eq_true isOther).symm.trans named))

/-- An allocation is made by the allocator of its heap. -/
theorem allocator_allocate (use : SessionUse) (heapType other : HeapType) (count : Nat) :
    (use.perform (.allocateDescriptors heapType count)).allocator other =
      if other = heapType then ((use.allocator heapType).allocate count).2
      else use.allocator other := by
  change ((use.session.device.resources.setHeap heapType _).heap other).allocator = _
  rw [Resources.heap_setHeap]
  split
  · rfl
  · rfl

/-- Descriptors that are handed out were free before. -/
theorem Tracked.allocate (tracked : use.Tracked) (heapType : HeapType) (count : Nat) :
    (use.perform (.allocateDescriptors heapType count)).Tracked := by
  have replaced (other : HeapType) := use.allocator_allocate heapType other count
  have allocates := (use.allocator heapType).allocates count
  obtain ⟨sameType, capacity⟩ := allocates.unchanged
  have typed := sameType.trans (tracked.typed heapType)
  have live : (use.perform (.allocateDescriptors heapType count)).live =
    match ((use.allocator heapType).allocate count).1 with
    | .ok range => range :: use.live
    | .error _ => use.live := rfl
  rcases answer : (use.allocator heapType).allocate count with ⟨error | range, allocator⟩
  all_goals rw [answer] at allocates capacity typed replaced live
  · have sameIn (other : HeapType) :
        (use.perform (.allocateDescriptors heapType count)).liveIn other = use.liveIn other := by
      rw [liveIn, liveIn, live]
    refine tracked.replace replaced typed capacity ?_ (fun other _ => sameIn other) ?_
    · rw [sameIn]
      exact (tracked.divided heapType).ofLive_refuse answer
    · intro range member
      rw [live] at member
      exact .inl member
  · have named := allocates.named
    rw [tracked.typed] at named
    obtain ⟨isFirst, others⟩ := liveIn_cons named live
    have divided := (tracked.divided heapType).ofLive_allocate answer
    refine tracked.replace replaced typed capacity (isFirst ▸ divided) others ?_
    intro other member
    rcases List.mem_cons.mp (live ▸ member) with rfl | old
    · refine .inr ⟨named, ?_⟩
      by_cases empty : other.isEmpty = true
      · rw [DescriptorRange.stop, allocates.offset_of_empty empty, beq_iff_eq.mp empty]
        exact Nat.zero_le _
      · exact divided.partitions.liveInside other List.mem_cons_self (Bool.eq_false_iff.mpr empty)
    · exact .inl old

/-- Descriptors that are given back are free again. A live range is never refused. -/
theorem Tracked.free (tracked : use.Tracked) {range : DescriptorRange} (isLive : range ∈ use.live) :
    (use.perform (.freeDescriptors range)).Tracked := by
  obtain ⟨heapType, named, inside⟩ := tracked.inside range isLive
  have freed : use.session.device.freeDescriptors range = _ :=
    Device.freeDescriptors_of_inside named inside
  have replaced (other : HeapType) : (use.perform (.freeDescriptors range)).allocator other =
      if other = heapType then (use.allocator heapType).free range else use.allocator other := by
    change (((use.session.device.freeDescriptors range).2.resources).heap other).allocator = _
    rw [freed, Device.setHeap, Resources.heap_setHeap]
    split
    · rfl
    · rfl
  have live : (use.perform (.freeDescriptors range)).live = use.live.erase range := by
    rw [perform, liveAfter, freed]
  have liveIn (other : HeapType) : (use.perform (.freeDescriptors range)).liveIn other =
      (use.liveIn other).erase range := by
    rw [SessionUse.liveIn, SessionUse.liveIn, live, List.erase_filter]
  refine tracked.replace replaced ?_ ((use.allocator heapType).capacity_free range) ?_ ?_ ?_
  · exact ((use.allocator heapType).heapType_free range).trans (tracked.typed heapType)
  · rw [liveIn]
    exact (tracked.divided heapType).ofLive_free (mem_liveIn.mpr ⟨isLive, named⟩)
  · intro other apart
    rw [liveIn]
    refine List.erase_of_not_mem fun member => apart ?_
    exact Option.some.inj ((mem_liveIn.mp member).2.symm.trans named)
  · exact fun other member => .inl (List.mem_of_mem_erase (live ▸ member))

/-- Nothing is handed out of a new device. -/
theorem tracked_start {native : NativeDevice} {description : DeviceDescription} {device : Device}
    (created : Device.create native description = .ok device) : (start device).Tracked := by
  constructor
  case typed =>
    intro heapType
    obtain ⟨allocator, isAllocator, isHeap⟩ := Device.heap_of_create created heapType
    have typed := DescriptorAllocator.heapType_of_ofCapacity? isAllocator
    exact (congrArg (fun heap => heap.allocator.heapType) isHeap).trans typed
  case divided =>
    intro heapType
    obtain ⟨allocator, isAllocator, isHeap⟩ := Device.heap_of_create created heapType
    have same : (start device).allocator heapType = allocator :=
      congrArg DescriptorHeap.allocator isHeap
    rw [same]
    exact HeapUse.divided_start isAllocator
  case inside => exact nofun

/-- All is in order after an action if it gives back only what is live. -/
theorem Tracked.perform (tracked : use.Tracked) {action : Action}
    (returned : use.Returns action) : (use.perform action).Tracked := by
  cases action with
  | allocateDescriptors heapType count => exact tracked.allocate heapType count
  | freeDescriptors range => exact tracked.free returned
  | _ => exact tracked.of_allocators (use.session.allocator_perform rfl) rfl

/-- So it is after actions in a row. -/
theorem Tracked.after (tracked : use.Tracked) {actions : List Action}
    (returned : use.ReturnsAll actions) : (use.after actions).Tracked := by
  induction actions generalizing use with
  | nil => exact tracked
  | cons action later inductionHypothesis =>
    exact inductionHypothesis (tracked.perform returned.1) returned.2

end SessionUse

end CommandStream
