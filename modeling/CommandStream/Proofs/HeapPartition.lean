import CommandStream.Descriptor.Allocator
import Mathlib.Data.List.Nodup
import Mathlib.Data.List.Perm.Subperm
/-!
# The slots of a descriptor heap

Free blocks and ranges that were handed out divide a heap between them: as long as nothing is given
back but what was handed out, every slot is in one free block or is held once. `HeapUse` keeps the
held slots beside an allocator; that free and held slots together are a permutation of the slots of
the heap is the invariant, and first fit keeps it because it only moves slots from one side to the
other. That is also why the ranges it takes can always be packed.
-/

namespace CommandStream

/-! ## Slots -/

/-- The slots of a free block. -/
def Block.slots (block : Block) : List Nat := List.range' block.start block.length

/-- The slots of a range. -/
def DescriptorRange.slots (range : DescriptorRange) : List Nat :=
  List.range' range.offset range.length

/-- A slot lies in a block. -/
def Block.Contains (block : Block) (slot : Nat) : Prop := block.start ≤ slot ∧ slot < block.stop

instance (block : Block) (slot : Nat) : Decidable (block.Contains slot) :=
  inferInstanceAs (Decidable (_ ∧ _))

theorem Block.mem_slots {block : Block} {slot : Nat} :
    slot ∈ block.slots ↔ block.Contains slot := by
  rw [slots, List.mem_range'_1, Contains, length]
  omega

theorem DescriptorRange.mem_slots {range : DescriptorRange} {slot : Nat} :
    slot ∈ range.slots ↔ range.offset ≤ slot ∧ slot < range.stop :=
  List.mem_range'_1

/-- A range that has a slot ends behind where it begins. -/
theorem DescriptorRange.lt_stop {range : DescriptorRange} (filled : range.isEmpty = false) :
    range.offset < range.stop :=
  Nat.lt_add_of_pos_right (Nat.pos_of_ne_zero (beq_eq_false_iff_ne.mp filled))

/-- How often a slot is listed by blocks is in how many of them it lies. -/
theorem Block.count_slots (blocks : List Block) (slot : Nat) :
    (blocks.flatMap slots).count slot = blocks.countP fun block => block.Contains slot := by
  induction blocks with
  | nil => rfl
  | cons block later inductionHypothesis =>
    rw [List.flatMap_cons, List.count_append, inductionHypothesis, List.countP_cons,
      Nat.add_comm]
    congr 1
    have once : block.slots.Nodup := List.nodup_range'
    by_cases inside : block.Contains slot
    · rw [List.count_eq_one_of_mem once (mem_slots.mpr inside), if_pos (decide_eq_true inside)]
    · rw [List.count_eq_zero.mpr (mt mem_slots.mp inside),
        if_neg (by simpa using inside)]

/-- The number of free slots is the number that is counted. -/
theorem DescriptorAllocator.length_slots (allocator : DescriptorAllocator) :
    (allocator.blocks.flatMap Block.slots).length = allocator.freeCount := by
  rw [List.flatMap, ← total_map_length, List.map_map, freeCount]
  congr 2
  exact funext fun block => List.length_range'

/-! ## First fit -/

/-- What is left of a block of which `count` slots are taken: nothing, if it is used up. -/
def Block.shortened (block : Block) (count : Nat) : List Block :=
  if block.start + count = block.stop then [] else [⟨block.start + count, block.stop⟩]

/-- The block that is taken from is the first that is long enough, and all others stay as and
where they are. -/
theorem Block.exists_of_takeFirstFit {count offset : Nat} {blocks remaining : List Block}
    (taken : takeFirstFit count blocks = some (offset, remaining)) :
    ∃ front block back, blocks = front ++ block :: back ∧
      (∀ other ∈ front, other.length < count) ∧ count ≤ block.length ∧
      offset = block.start ∧ remaining = front ++ (block.shortened count ++ back) := by
  induction blocks generalizing remaining with
  | nil => cases taken
  | cons block later inductionHypothesis =>
    rw [takeFirstFit] at taken
    split at taken
    · rename_i fits
      cases taken
      refine ⟨[], block, later, rfl, nofun, fits, rfl, ?_⟩
      rw [shortened]
      split <;> rfl
    · rename_i short
      obtain ⟨⟨found, behind⟩, takenLater, same⟩ := Option.map_eq_some_iff.mp taken
      cases same
      obtain ⟨front, chosen, back, rfl, tooShort, fits, isStart, rfl⟩ :=
        inductionHypothesis takenLater
      exact ⟨block :: front, chosen, back, rfl,
        List.forall_mem_cons.mpr ⟨Nat.lt_of_not_le short, tooShort⟩, fits, isStart, rfl⟩

/-- First fit finds no block exactly when every block is too short. -/
theorem Block.takeFirstFit_eq_none_iff {count : Nat} {blocks : List Block} :
    takeFirstFit count blocks = none ↔ ∀ block ∈ blocks, block.length < count := by
  induction blocks with
  | nil => simp [takeFirstFit]
  | cons block later inductionHypothesis =>
    rw [takeFirstFit, List.forall_mem_cons, ← inductionHypothesis]
    split
    · rename_i fits
      simp [Nat.not_lt_of_le fits]
    · rename_i short
      simp [Nat.lt_of_not_le short]

/-- What asking for a number of descriptors comes to: the answer and the allocator behind it. -/
inductive DescriptorAllocator.Allocates (allocator : DescriptorAllocator) :
    Nat → Except DescriptorError DescriptorRange × DescriptorAllocator → Prop
  | nothing : Allocates allocator 0 (allocator.packed 0 0, allocator)
  | tooLarge {count : Nat} (tooMany : DescriptorRange.fieldMax < count) :
      Allocates allocator count (.error (.rangeTooLarge count), allocator)
  | insufficient {count : Nat} (someSlot : count ≠ 0) (fits : count ≤ DescriptorRange.fieldMax)
      (short : ∀ block ∈ allocator.blocks, block.length < count) :
      Allocates allocator count
        (.error (.insufficientSpace count allocator.largestFree), allocator)
  | taken {count : Nat} {front back : List Block} {block : Block} (someSlot : count ≠ 0)
      (fits : count ≤ DescriptorRange.fieldMax)
      (isBlocks : allocator.blocks = front ++ block :: back)
      (short : ∀ other ∈ front, other.length < count) (long : count ≤ block.length) :
      Allocates allocator count (allocator.packed block.start count,
        { allocator with blocks := front ++ (block.shortened count ++ back) })

/-- An allocation is of one of the four kinds. -/
theorem DescriptorAllocator.allocates (allocator : DescriptorAllocator) (count : Nat) :
    allocator.Allocates count (allocator.allocate count) := by
  by_cases noSlot : count = 0
  · subst noSlot
    exact .nothing
  by_cases tooMany : DescriptorRange.fieldMax < count
  · rw [allocate, if_neg noSlot, if_pos tooMany]
    exact .tooLarge tooMany
  rw [allocate, if_neg noSlot, if_neg tooMany]
  have fits := Nat.le_of_not_lt tooMany
  cases found : Block.takeFirstFit count allocator.blocks with
  | none => exact .insufficient noSlot fits (Block.takeFirstFit_eq_none_iff.mp found)
  | some taken =>
    obtain ⟨offset, remaining⟩ := taken
    obtain ⟨front, block, back, isBlocks, short, long, rfl, rfl⟩ :=
      Block.exists_of_takeFirstFit found
    exact .taken noSlot fits isBlocks short long

/-- A block is what is taken off its front and what is left of it. -/
theorem Block.slots_eq_append {block : Block} {count : Nat} (fits : count ≤ block.length) :
    block.slots = List.range' block.start count ++ (block.shortened count).flatMap slots := by
  rw [length] at fits
  rw [shortened]
  split
  · rename_i usedUp
    have whole : block.length = count := by rw [length]; omega
    rw [slots, whole, List.flatMap_nil, List.append_nil]
  · have rest : block.stop - block.start = count + (block.stop - (block.start + count)) := by omega
    rw [List.flatMap_cons, List.flatMap_nil, List.append_nil, slots, slots, length, length, rest,
      ← List.range'_append_1]

/-- No block that is left is empty. -/
theorem Block.lt_of_mem_shortened {block rest : Block} {count : Nat}
    (fits : count ≤ block.length) (filled : block.start < block.stop)
    (member : rest ∈ block.shortened count) : rest.start < rest.stop := by
  rw [length] at fits
  rw [shortened] at member
  split at member
  · cases member
  · cases List.mem_singleton.mp member
    dsimp only
    omega

/-- The slots that are taken and those that remain are the slots before. -/
theorem Block.perm_shortened {block : Block} {count : Nat} (long : count ≤ block.length)
    (front back : List Block) :
    (List.range' block.start count ++
        (front ++ (block.shortened count ++ back)).flatMap slots).Perm
      ((front ++ block :: back).flatMap slots) := by
  simp only [List.flatMap_append, List.flatMap_cons, slots_eq_append long, List.append_assoc]
  exact List.perm_append_comm_assoc _ _ _

/-- No block that remains is empty if none was before. -/
theorem Block.filled_shortened {block : Block} {count : Nat} (long : count ≤ block.length)
    {front back : List Block}
    (filled : ∀ other ∈ front ++ block :: back, other.start < other.stop) :
    ∀ other ∈ front ++ (block.shortened count ++ back), other.start < other.stop := by
  simp only [List.forall_mem_append, List.forall_mem_cons] at filled ⊢
  exact ⟨filled.1, fun rest => lt_of_mem_shortened long filled.2.1, filled.2.2⟩

/-- An allocation changes nothing of an allocator but its blocks. -/
theorem DescriptorAllocator.Allocates.unchanged {allocator : DescriptorAllocator} {count : Nat}
    {answer : Except DescriptorError DescriptorRange × DescriptorAllocator}
    (allocates : allocator.Allocates count answer) :
    answer.2.heapType = allocator.heapType ∧ answer.2.capacity = allocator.capacity := by
  cases allocates
  all_goals exact ⟨rfl, rfl⟩

/-! ## Packing -/

/-- A range that an allocator packs says where its slots are. -/
theorem DescriptorAllocator.fields_of_packed {allocator : DescriptorAllocator} {offset count : Nat}
    {range : DescriptorRange} (isPacked : allocator.packed offset count = .ok range) :
    range.offset = offset ∧ range.length = count ∧
      range.heapType? = some allocator.heapType := by
  have word : allocator.heapType.subtype < 65536 := by cases allocator.heapType <;> decide
  unfold packed at isPacked
  split at isPacked
  · cases isPacked
  · rename_i found packs
    cases isPacked
    obtain ⟨isOffset, isLength, isSubtype⟩ := DescriptorRange.fields_of_pack packs word
    exact ⟨isOffset, isLength, HeapType.ofSubtype?_eq_some_iff.mpr isSubtype.symm⟩

/-- The slots of a heap that an allocator manages can be packed, and the range that comes of it
says where they are. -/
theorem DescriptorAllocator.exists_packed (allocator : DescriptorAllocator) {offset count : Nat}
    (inside : offset < capacityMax) (fits : count ≤ DescriptorRange.fieldMax) :
    ∃ range, allocator.packed offset count = .ok range ∧ range.offset = offset ∧
      range.length = count ∧ range.heapType? = some allocator.heapType := by
  obtain ⟨range, packs⟩ : ∃ range,
      DescriptorRange.pack offset count allocator.heapType.subtype = .ok range :=
    DescriptorRange.pack_isOk_iff.mpr ⟨Nat.le_of_lt_succ inside, fits⟩
  have isPacked : allocator.packed offset count = .ok range := by rw [packed, packs]
  exact ⟨range, isPacked, fields_of_packed isPacked⟩

/-! ## Heaps in use -/

/-- What is done with an allocator. -/
inductive HeapAction
  | allocate (count : Nat)
  | free (range : DescriptorRange)
  deriving DecidableEq

/-- An allocator with what is known about its heap from outside: the slots that are handed out,
each as often as it was handed out and not given back, and the live ranges. A range is live from
when it is handed out until one of its slots is given back. -/
structure HeapUse where
  allocator : DescriptorAllocator
  held : List Nat
  live : List DescriptorRange
  deriving DecidableEq

namespace HeapUse

/-- A heap of which nothing is handed out. -/
def start (allocator : DescriptorAllocator) : HeapUse := ⟨allocator, [], []⟩

/-- The heap after an action, whether or not the action fails. -/
def perform (use : HeapUse) : HeapAction → HeapUse
  | .allocate count =>
    match use.allocator.allocate count with
    | (.ok range, allocator) => ⟨allocator, range.slots ++ use.held, range :: use.live⟩
    | (.error _, allocator) => { use with allocator := allocator }
  | .free range =>
    ⟨use.allocator.free range, use.held.diff range.slots,
      use.live.filter fun other => !range.slots.any fun slot => other.slots.contains slot⟩

/-- The heap after actions in a row. -/
def after (use : HeapUse) (actions : List HeapAction) : HeapUse := actions.foldl perform use

/-- Only slots that are handed out are given back. -/
def Admits (use : HeapUse) : HeapAction → Prop
  | .allocate _ => True
  | .free range => range.slots ⊆ use.held

/-- In each of several actions in a row only slots that are then handed out are given back. -/
def AdmitsAll (use : HeapUse) : List HeapAction → Prop
  | [] => True
  | action :: later => use.Admits action ∧ (use.perform action).AdmitsAll later

instance (use : HeapUse) : (action : HeapAction) → Decidable (use.Admits action)
  | .allocate _ => inferInstanceAs (Decidable True)
  | .free range => inferInstanceAs (Decidable (range.slots ⊆ use.held))

/-- Whether actions in a row are admitted is found by performing them. -/
def decideAdmitsAll (use : HeapUse) :
    (actions : List HeapAction) → Decidable (use.AdmitsAll actions)
  | [] => isTrue trivial
  | action :: later =>
    have := decideAdmitsAll (use.perform action) later
    inferInstanceAs (Decidable (_ ∧ _))

instance (use : HeapUse) (actions : List HeapAction) : Decidable (use.AdmitsAll actions) :=
  use.decideAdmitsAll actions

/-- Free blocks and held slots divide the heap. -/
structure Divided (use : HeapUse) : Prop where
  managed : use.allocator.capacity ≤ DescriptorAllocator.capacityMax
  filled : ∀ block ∈ use.allocator.blocks, block.start < block.stop
  slots : (use.allocator.blocks.flatMap Block.slots ++ use.held).Perm
    (List.range use.allocator.capacity)
  liveHeld : ∀ range ∈ use.live, range.slots ⊆ use.held
  liveApart : use.live.Pairwise fun first second => first.slots.Disjoint second.slots

/-- The one block of a new allocator is the heap. -/
theorem divided_start {heapType : HeapType} {capacity : Nat} {allocator : DescriptorAllocator}
    (created : DescriptorAllocator.ofCapacity? heapType capacity = .ok allocator) :
    (start allocator).Divided := by
  unfold DescriptorAllocator.ofCapacity? at created
  split at created
  · cases created
  · rename_i managed
    cases created
    refine ⟨Nat.le_of_not_lt managed, ?_, ?_, nofun, .nil⟩
    · intro block member
      dsimp only [start] at member
      split at member
      · cases member
      · cases List.mem_singleton.mp member
        exact Nat.pos_of_ne_zero ‹_›
    · dsimp only [start]
      rw [List.append_nil, List.range_eq_range']
      split
      · rename_i empty
        rw [empty]
        exact .refl _
      · rw [List.flatMap_singleton]
        exact .refl _

/-- Nothing is held twice, and what is held is not free. -/
theorem Divided.nodup {use : HeapUse} (divided : use.Divided) :
    (use.allocator.blocks.flatMap Block.slots ++ use.held).Nodup :=
  divided.slots.nodup_iff.mpr List.nodup_range

/-- Only slots of the heap are free or held. -/
theorem Divided.lt_capacity {use : HeapUse} (divided : use.Divided) {slot : Nat}
    (member : slot ∈ use.allocator.blocks.flatMap Block.slots ++ use.held) :
    slot < use.allocator.capacity :=
  List.mem_range.mp (divided.slots.mem_iff.mp member)

/-- Slots that move from the free blocks to the held ones, as those of a new live range, leave the
heap divided. -/
theorem Divided.hand_out {use : HeapUse} (divided : use.Divided) {blocks : List Block}
    {range : DescriptorRange} (filled : ∀ block ∈ blocks, block.start < block.stop)
    (moved : (range.slots ++ blocks.flatMap Block.slots).Perm
      (use.allocator.blocks.flatMap Block.slots)) :
    Divided ⟨{ use.allocator with blocks := blocks }, range.slots ++ use.held,
      range :: use.live⟩ := by
  have wereFree : ∀ slot ∈ range.slots, slot ∈ use.allocator.blocks.flatMap Block.slots :=
    fun slot member => moved.mem_iff.mp (List.mem_append_left _ member)
  have apart := (List.nodup_append'.mp divided.nodup).2.2
  refine ⟨divided.managed, filled, ?_, ?_, ?_⟩
  · refine List.Perm.trans ?_ ((moved.append_right use.held).trans divided.slots)
    rw [← List.append_assoc]
    exact List.perm_append_comm.append_right use.held
  · intro other member
    rcases List.mem_cons.mp member with rfl | old
    · exact List.subset_append_left _ _
    · exact fun slot inside => List.mem_append_right _ (divided.liveHeld other old inside)
  · refine List.pairwise_cons.mpr ⟨fun other member slot inRange inOther => ?_, divided.liveApart⟩
    exact apart (wereFree slot inRange) (divided.liveHeld other member inOther)

/-- A new range of no slot leaves the heap divided. -/
theorem Divided.hand_out_nothing {use : HeapUse} (divided : use.Divided) {range : DescriptorRange}
    (empty : range.length = 0) :
    Divided ⟨use.allocator, range.slots ++ use.held, range :: use.live⟩ := by
  have noSlots : range.slots = [] := by rw [DescriptorRange.slots, empty, List.range'_zero]
  refine divided.hand_out divided.filled ?_
  rw [noSlots]
  exact .refl _

/-- Allocating leaves the heap divided: a failure changes nothing, and otherwise the slots that
are taken off a block are those of the range. -/
theorem Divided.allocate {use : HeapUse} (divided : use.Divided) (count : Nat) :
    (use.perform (.allocate count)).Divided := by
  rw [perform]
  have allocates := use.allocator.allocates count
  generalize use.allocator.allocate count = answer at allocates
  cases allocates with
  | nothing =>
    obtain ⟨range, isPacked, _, empty, _⟩ :=
      use.allocator.exists_packed (by decide : 0 < DescriptorAllocator.capacityMax) (Nat.zero_le _)
    rw [isPacked]
    exact divided.hand_out_nothing empty
  | tooLarge | insufficient => exact divided
  | @taken _ front back block someSlot fits isBlocks _ long =>
    have filled : block.start < block.stop :=
      divided.filled block (isBlocks ▸ List.mem_append_right front List.mem_cons_self)
    have isFree : block.start ∈ use.allocator.blocks.flatMap Block.slots := by
      rw [isBlocks]
      exact List.mem_flatMap.mpr ⟨block, List.mem_append_right front List.mem_cons_self,
        Block.mem_slots.mpr ⟨Nat.le_refl _, filled⟩⟩
    have inside : block.start < DescriptorAllocator.capacityMax :=
      Nat.lt_of_lt_of_le (divided.lt_capacity (List.mem_append_left _ isFree)) divided.managed
    obtain ⟨range, isPacked, isOffset, isLength, _⟩ := use.allocator.exists_packed inside fits
    rw [isPacked]
    refine divided.hand_out (Block.filled_shortened long (isBlocks ▸ divided.filled)) ?_
    rw [DescriptorRange.slots, isOffset, isLength, isBlocks]
    exact Block.perm_shortened long front back

/-- Slots that move from the held ones to the free blocks, as those of a range that is given back,
leave the heap divided. What is still live is what the slots that remain held are slots of. -/
theorem Divided.take_back {use : HeapUse} (divided : use.Divided) {range : DescriptorRange}
    {held : List Nat} {live : List DescriptorRange} (moved : (range.slots ++ held).Perm use.held)
    (liveHeld : ∀ other ∈ live, other.slots ⊆ held) (fewer : live.Sublist use.live) :
    Divided ⟨use.allocator.free range, held, live⟩ := by
  have liveApart := divided.liveApart.sublist fewer
  rw [DescriptorAllocator.free]
  split
  · rename_i empty
    have noSlots : range.slots = [] := by
      rw [DescriptorRange.slots, beq_iff_eq.mp empty, List.range'_zero]
    rw [noSlots, List.nil_append] at moved
    exact ⟨divided.managed, divided.filled, (moved.append_left _).trans divided.slots, liveHeld,
      liveApart⟩
  · rename_i filled
    refine ⟨divided.managed, ?_, ?_, liveHeld, liveApart⟩
    · intro block member
      rcases List.mem_append.mp member with old | new
      · exact divided.filled block old
      · cases List.mem_singleton.mp new
        exact DescriptorRange.lt_stop (Bool.eq_false_iff.mpr filled)
    · have sameSlots : Block.slots ⟨range.offset, range.stop⟩ = range.slots := by
        rw [Block.slots, DescriptorRange.slots, Block.length, DescriptorRange.stop,
          Nat.add_sub_cancel_left]
      simp only [List.flatMap_append, List.flatMap_cons, List.flatMap_nil, List.append_nil,
        sameSlots, List.append_assoc]
      exact (moved.append_left _).trans divided.slots

/-- Giving back slots that are held leaves the heap divided: the new last block has the slots of
the range. A range of which a slot is given back is live no more. -/
theorem Divided.free {use : HeapUse} (divided : use.Divided) {range : DescriptorRange}
    (held : range.slots ⊆ use.held) : (use.perform (.free range)).Divided := by
  have once : use.held.Nodup := (List.nodup_append'.mp divided.nodup).2.1
  have distinct : range.slots.Nodup := List.nodup_range'
  have moved : (range.slots ++ use.held.diff range.slots).Perm use.held :=
    List.subperm_append_diff_self_of_count_le
      (List.subperm_ext_iff.mp (List.subperm_of_subset distinct held))
  refine divided.take_back moved (fun other member slot inside => ?_) List.filter_sublist
  obtain ⟨old, untouched⟩ := List.mem_filter.mp member
  refine once.mem_sdiff_iff.mpr ⟨divided.liveHeld other old inside, fun back => ?_⟩
  have touched : (range.slots.any fun slot => other.slots.contains slot) = true :=
    List.any_eq_true.mpr ⟨slot, back, List.contains_iff_mem.mpr inside⟩
  rw [touched] at untouched
  cases untouched

/-- An action leaves the heap divided if it gives back only what is handed out. -/
theorem Divided.perform {use : HeapUse} (divided : use.Divided) {action : HeapAction}
    (admitted : use.Admits action) : (use.perform action).Divided := by
  cases action with
  | allocate count => exact divided.allocate count
  | free range => exact divided.free admitted

/-- So do actions in a row. -/
theorem Divided.after {use : HeapUse} (divided : use.Divided) {actions : List HeapAction}
    (admitted : use.AdmitsAll actions) : (use.after actions).Divided := by
  induction actions generalizing use with
  | nil => exact divided
  | cons action later inductionHypothesis =>
    exact inductionHypothesis (divided.perform admitted.1) admitted.2

/-- No action changes how large the heap is. -/
theorem capacity_perform (use : HeapUse) (action : HeapAction) :
    (use.perform action).allocator.capacity = use.allocator.capacity := by
  cases action with
  | allocate count =>
    have unchanged := (use.allocator.allocates count).unchanged
    rw [perform]
    generalize use.allocator.allocate count = answer at unchanged
    rcases answer with ⟨error | range, allocator⟩
    · exact unchanged.2
    · exact unchanged.2
  | free range =>
    rw [perform, DescriptorAllocator.free]
    split <;> rfl

theorem capacity_after (use : HeapUse) (actions : List HeapAction) :
    (use.after actions).allocator.capacity = use.allocator.capacity := by
  induction actions generalizing use with
  | nil => rfl
  | cons action later inductionHypothesis =>
    exact (inductionHypothesis (use.perform action)).trans (use.capacity_perform action)

/-! ## Partitions -/

/-- Free blocks and held slots partition a heap of `capacity` slots. -/
structure Partitions (use : HeapUse) (capacity : Nat) : Prop where
  /-- A slot of the heap is in one free block or is held once, and never both. -/
  once : ∀ slot < capacity,
    (use.allocator.blocks.countP fun block => block.Contains slot) + use.held.count slot = 1
  heldInside : ∀ slot ∈ use.held, slot < capacity
  blocksFilled : ∀ block ∈ use.allocator.blocks, block.start < block.stop
  blocksInside : ∀ block ∈ use.allocator.blocks, block.stop ≤ capacity
  blocksApart : use.allocator.blocks.Pairwise fun first second =>
    first.stop ≤ second.start ∨ second.stop ≤ first.start
  liveInside : ∀ range ∈ use.live, range.isEmpty = false → range.stop ≤ capacity
  liveApart : use.live.Pairwise fun first second =>
    first.isEmpty = false → second.isEmpty = false →
      first.stop ≤ second.offset ∨ second.stop ≤ first.offset
  /-- A range that is live may be given back. -/
  liveAdmitted : ∀ range ∈ use.live, use.Admits (.free range)
  counted : use.allocator.freeCount + use.held.length = capacity

/-- One of two stretches that are not empty and have no slot in common ends before the other
begins. -/
theorem apart_of_disjoint {start stop otherStart otherStop : Nat} (filled : start < stop)
    (otherFilled : otherStart < otherStop)
    (disjoint : ∀ slot, start ≤ slot ∧ slot < stop → ¬(otherStart ≤ slot ∧ slot < otherStop)) :
    stop ≤ otherStart ∨ otherStop ≤ start := by
  have first := disjoint start
  have second := disjoint otherStart
  omega

/-- What is divided is partitioned: the slots of the heap are each there once. -/
theorem Divided.partitions {use : HeapUse} (divided : use.Divided) :
    use.Partitions use.allocator.capacity := by
  obtain ⟨freeOnce, heldOnce, freeApart⟩ := List.nodup_append'.mp divided.nodup
  constructor
  case once =>
    intro slot inside
    rw [← Block.count_slots, ← List.count_append, divided.slots.count_eq]
    exact List.count_eq_one_of_mem List.nodup_range (List.mem_range.mpr inside)
  case heldInside =>
    exact fun slot member => divided.lt_capacity (List.mem_append_right _ member)
  case blocksFilled => exact divided.filled
  case blocksInside =>
    intro block member
    have filled := divided.filled block member
    have last : block.stop - 1 ∈ block.slots :=
      Block.mem_slots.mpr ⟨Nat.le_sub_one_of_lt filled, by omega⟩
    have inside := divided.lt_capacity (List.mem_append_left _
      (List.mem_flatMap.mpr ⟨block, member, last⟩))
    omega
  case blocksApart =>
    refine (List.nodup_flatMap.mp freeOnce).2.imp_of_mem fun {first second} isFirst isSecond
      disjoint => apart_of_disjoint (divided.filled _ isFirst) (divided.filled _ isSecond) ?_
    exact fun slot inFirst inSecond =>
      disjoint (Block.mem_slots.mpr inFirst) (Block.mem_slots.mpr inSecond)
  case liveInside =>
    intro range member filled
    have before := DescriptorRange.lt_stop filled
    have last : range.stop - 1 ∈ range.slots :=
      DescriptorRange.mem_slots.mpr ⟨Nat.le_sub_one_of_lt before, by omega⟩
    have inside := divided.lt_capacity (List.mem_append_right _
      (divided.liveHeld range member last))
    omega
  case liveApart =>
    refine divided.liveApart.imp fun {first second} disjoint filled otherFilled =>
      apart_of_disjoint (DescriptorRange.lt_stop filled) (DescriptorRange.lt_stop otherFilled) ?_
    exact fun slot inFirst inSecond => disjoint (DescriptorRange.mem_slots.mpr inFirst)
      (DescriptorRange.mem_slots.mpr inSecond)
  case liveAdmitted => exact divided.liveHeld
  case counted =>
    rw [← DescriptorAllocator.length_slots, ← List.length_append, divided.slots.length_eq,
      List.length_range]

end HeapUse

/-- An allocator partitions its heap. Whatever is allocated from a new one and given back to it,
as long as only slots that are handed out are given back, every slot of the heap is in one free
block or is held once; free blocks and live ranges are inside the heap and apart from each other.
A range may be given back in parts, and it is live until the first of them is. -/
theorem heap_partitioned (heapType : HeapType) {capacity : Nat}
    (managed : capacity ≤ DescriptorAllocator.capacityMax) :
    ∃ allocator, DescriptorAllocator.ofCapacity? heapType capacity = .ok allocator ∧
      ∀ actions, (HeapUse.start allocator).AdmitsAll actions →
        ((HeapUse.start allocator).after actions).Partitions capacity := by
  obtain ⟨allocator, created⟩ :
      ∃ allocator, DescriptorAllocator.ofCapacity? heapType capacity = .ok allocator := by
    rw [DescriptorAllocator.ofCapacity?, if_neg (Nat.not_lt_of_le managed)]
    exact ⟨_, rfl⟩
  have isCapacity : allocator.capacity = capacity := by
    rw [DescriptorAllocator.ofCapacity?, if_neg (Nat.not_lt_of_le managed)] at created
    cases created
    rfl
  refine ⟨allocator, created, fun actions admitted => ?_⟩
  have divided := (HeapUse.divided_start created).after admitted
  have same := (HeapUse.start allocator).capacity_after actions
  rw [← isCapacity]
  exact same ▸ divided.partitions

/-- A heap of eight slots: of the first of two ranges the front is given back, the third is taken
behind the second. -/
theorem heap_partitioned_eight :
    let actions : List HeapAction :=
      [.allocate 3, .allocate 2, .free ⟨⟨0x1000000, 2⟩⟩, .allocate 2]
    let allocator : DescriptorAllocator := ⟨.sampler, 8, [⟨0, 8⟩]⟩
    let use : HeapUse := ⟨⟨.sampler, 8, [⟨7, 8⟩, ⟨0, 2⟩]⟩, [5, 6, 3, 4, 2],
      [⟨⟨0x1000005, 2⟩⟩, ⟨⟨0x1000003, 2⟩⟩]⟩
    8 ≤ DescriptorAllocator.capacityMax ∧
      DescriptorAllocator.ofCapacity? .sampler 8 = .ok allocator ∧
      (HeapUse.start allocator).AdmitsAll actions ∧
      (HeapUse.start allocator).after actions = use ∧ use.Partitions 8 := by
  intro actions allocator use
  have managed : 8 ≤ DescriptorAllocator.capacityMax := by decide
  have created : DescriptorAllocator.ofCapacity? .sampler 8 = .ok allocator := rfl
  have admitted : (HeapUse.start allocator).AdmitsAll actions := by decide +kernel
  have reached : (HeapUse.start allocator).after actions = use := by decide +kernel
  obtain ⟨other, same, partitions⟩ := heap_partitioned .sampler managed
  cases created.symm.trans same
  exact ⟨managed, created, admitted, reached, reached ▸ partitions actions admitted⟩

end CommandStream
