import CommandStream.Proofs.HeapPartition
/-!
# First fit, exactly

`Allocates` lists what asking for descriptors can come to, for any allocator at all. Of an
allocator in use more is known: its blocks lie inside a heap whose every slot is an offset that a
range carries. So the range that is taken can always be packed, and which of the cases it is
depends on the free blocks alone.
-/

namespace CommandStream

/-- A length that no block exceeds and some block has, zero where there is no block. -/
structure Block.Longest (blocks : List Block) (longest : Nat) : Prop where
  bound : ∀ block ∈ blocks, block.length ≤ longest
  reached : blocks = [] ∧ longest = 0 ∨ ∃ block ∈ blocks, block.length = longest

/-- Going through numbers for the largest one ends with one of them or with the one it began
with, and with none smaller than any of them. -/
theorem foldl_max_cases (numbers : List Nat) (first : Nat) :
    first ≤ numbers.foldl max first ∧ (∀ number ∈ numbers, number ≤ numbers.foldl max first) ∧
      (numbers.foldl max first = first ∨ numbers.foldl max first ∈ numbers) := by
  induction numbers generalizing first with
  | nil => exact ⟨Nat.le_refl _, nofun, .inl rfl⟩
  | cons number later inductionHypothesis =>
    obtain ⟨atLeast, bound, reached⟩ := inductionHypothesis (max first number)
    rw [List.foldl_cons]
    refine ⟨by omega, List.forall_mem_cons.mpr ⟨by omega, bound⟩, ?_⟩
    rcases reached with same | behind
    · rcases Nat.le_total first number with smaller | larger
      · rw [same, Nat.max_eq_right smaller]
        exact .inr List.mem_cons_self
      · rw [same, Nat.max_eq_left larger]
        exact .inl rfl
    · exact .inr (List.mem_cons_of_mem _ behind)

namespace DescriptorAllocator

/-- What is reported as the largest free block is the largest one. -/
theorem longest_largestFree (allocator : DescriptorAllocator) :
    Block.Longest allocator.blocks allocator.largestFree := by
  obtain ⟨_, bound, reached⟩ := foldl_max_cases (allocator.blocks.map Block.length) 0
  have bounded : ∀ block ∈ allocator.blocks, block.length ≤ allocator.largestFree :=
    fun block member => bound _ (List.mem_map_of_mem member)
  refine ⟨bounded, ?_⟩
  rcases reached with zero | member
  · cases blocks : allocator.blocks with
    | nil => exact .inl ⟨rfl, zero⟩
    | cons block later =>
      have none := bounded block (blocks ▸ List.mem_cons_self)
      rw [largestFree, zero] at none
      exact .inr ⟨block, List.mem_cons_self, (Nat.le_zero.mp none).trans zero.symm⟩
  · obtain ⟨block, inBlocks, isLength⟩ := List.mem_map.mp member
    exact .inr ⟨block, inBlocks, isLength⟩

/-- The number of the heap in a range that an allocator packs. -/
theorem subtype_of_packed {allocator : DescriptorAllocator} {offset count : Nat}
    {range : DescriptorRange} (isPacked : allocator.packed offset count = .ok range) :
    range.subtype = allocator.heapType.subtype :=
  (HeapType.ofSubtype?_eq_some_iff.mp (fields_of_packed isPacked).2.2).symm

/-- What asking for descriptors comes to where every range that is taken can be packed. -/
inductive Settles (allocator : DescriptorAllocator) (count : Nat) :
    Except DescriptorError DescriptorRange × DescriptorAllocator → Prop
  | nothing {range : DescriptorRange} (noSlot : count = 0) (isEmpty : range.length = 0)
      (isSubtype : range.subtype = allocator.heapType.subtype) :
      Settles allocator count (.ok range, allocator)
  | taken {range : DescriptorRange} {front back : List Block} {block : Block}
      (someSlot : count ≠ 0) (fits : count ≤ DescriptorRange.fieldMax)
      (isBlocks : allocator.blocks = front ++ block :: back)
      (short : ∀ other ∈ front, other.length < count) (long : count ≤ block.length)
      (isOffset : range.offset = block.start) (isLength : range.length = count)
      (isSubtype : range.subtype = allocator.heapType.subtype) :
      Settles allocator count
        (.ok range, { allocator with blocks := front ++ (block.shortened count ++ back) })
  | tooLarge (tooMany : DescriptorRange.fieldMax < count) :
      Settles allocator count (.error (.rangeTooLarge count), allocator)
  | insufficient {longest : Nat} (someSlot : count ≠ 0) (fits : count ≤ DescriptorRange.fieldMax)
      (short : ∀ block ∈ allocator.blocks, block.length < count)
      (isLongest : Block.Longest allocator.blocks longest) :
      Settles allocator count (.error (.insufficientSpace count longest), allocator)

/-- Every range that is taken can be packed where every block begins at a slot that can be. -/
theorem settles {allocator : DescriptorAllocator}
    (packable : ∀ block ∈ allocator.blocks, block.start < capacityMax) (count : Nat) :
    allocator.Settles count (allocator.allocate count) := by
  have allocates := allocator.allocates count
  generalize allocator.allocate count = answer at allocates
  cases allocates with
  | nothing =>
    obtain ⟨range, isPacked, _, isEmpty, _⟩ :=
      allocator.exists_packed (by decide : 0 < capacityMax) (Nat.zero_le _)
    rw [isPacked]
    exact .nothing rfl isEmpty (subtype_of_packed isPacked)
  | tooLarge tooMany => exact .tooLarge tooMany
  | insufficient someSlot fits short =>
    exact .insufficient someSlot fits short allocator.longest_largestFree
  | @taken _ front back block someSlot fits isBlocks short long =>
    have inside := packable block (isBlocks ▸ List.mem_append_right front List.mem_cons_self)
    obtain ⟨range, isPacked, isOffset, isLength, _⟩ := allocator.exists_packed inside fits
    rw [isPacked]
    exact .taken someSlot fits isBlocks short long isOffset isLength (subtype_of_packed isPacked)

/-- An answer to asking an allocator for `count` descriptors that is the one of first fit. -/
structure FitsFirst (allocator : DescriptorAllocator) (count : Nat)
    (answer : Except DescriptorError DescriptorRange × DescriptorAllocator) : Prop where
  /-- There is a range exactly if nothing is asked for, or no more than a range can have and some
  block has. -/
  succeeds : (∃ range, answer.1 = .ok range) ↔
    count = 0 ∨
      count ≤ DescriptorRange.fieldMax ∧ ∃ block ∈ allocator.blocks, count ≤ block.length
  /-- Nothing is taken off no block. -/
  nothing : count = 0 → ∃ range, answer = (.ok range, allocator) ∧ range.length = 0 ∧
    range.subtype = allocator.heapType.subtype
  /-- A range is the front of the first block that is long enough. That block is shortened where it
  is or, if it is used up, removed. -/
  taken : ∀ range, count ≠ 0 → answer.1 = .ok range →
    ∃ front block back, allocator.blocks = front ++ block :: back ∧
      (∀ other ∈ front, other.length < count) ∧ count ≤ block.length ∧
      range.offset = block.start ∧ range.length = count ∧
      range.subtype = allocator.heapType.subtype ∧
      answer.2 = { allocator with blocks := front ++ (block.shortened count ++ back) }
  /-- A failure changes nothing, and its reason is the number that is asked for or the lengths of
  the blocks. -/
  failed : ∀ error, answer.1 = .error error → answer.2 = allocator ∧
    (DescriptorRange.fieldMax < count ∧ error = .rangeTooLarge count ∨
      count ≤ DescriptorRange.fieldMax ∧
        ∃ longest, Block.Longest allocator.blocks longest ∧
          error = .insufficientSpace count longest)
  /-- What is taken can be packed. -/
  packs : ∀ cause, answer.1 ≠ .error (.unpackable cause)

theorem Settles.fitsFirst {allocator : DescriptorAllocator} {count : Nat}
    {answer : Except DescriptorError DescriptorRange × DescriptorAllocator}
    (settles : allocator.Settles count answer) : allocator.FitsFirst count answer := by
  constructor
  case succeeds =>
    cases settles with
    | nothing noSlot => exact iff_of_true ⟨_, rfl⟩ (.inl noSlot)
    | @taken _ front _ block _ fits isBlocks _ long =>
      have member : block ∈ allocator.blocks :=
        isBlocks ▸ List.mem_append_right front List.mem_cons_self
      exact iff_of_true ⟨_, rfl⟩ (.inr ⟨fits, block, member, long⟩)
    | tooLarge tooMany =>
      refine iff_of_false nofun ?_
      rintro (rfl | ⟨fits, _⟩)
      · exact Nat.not_lt_zero _ tooMany
      · exact Nat.not_lt_of_le fits tooMany
    | insufficient someSlot fits short =>
      refine iff_of_false nofun ?_
      rintro (noSlot | ⟨_, block, member, long⟩)
      · exact someSlot noSlot
      · exact Nat.not_lt_of_le long (short block member)
  case nothing =>
    intro noSlot
    cases settles with
    | nothing _ isEmpty isSubtype => exact ⟨_, rfl, isEmpty, isSubtype⟩
    | taken someSlot => exact absurd noSlot someSlot
    | tooLarge tooMany => exact absurd tooMany (noSlot ▸ Nat.not_lt_zero _)
    | insufficient someSlot => exact absurd noSlot someSlot
  case taken =>
    intro range someSlot isRange
    cases settles with
    | nothing noSlot => exact absurd noSlot someSlot
    | taken _ _ isBlocks short long isOffset isLength isSubtype =>
      cases isRange
      exact ⟨_, _, _, isBlocks, short, long, isOffset, isLength, isSubtype, rfl⟩
    | tooLarge => cases isRange
    | insufficient => cases isRange
  case failed =>
    intro error isError
    cases settles with
    | nothing => cases isError
    | taken => cases isError
    | tooLarge tooMany =>
      cases isError
      exact ⟨rfl, .inl ⟨tooMany, rfl⟩⟩
    | insufficient _ fits _ isLongest =>
      cases isError
      exact ⟨rfl, .inr ⟨fits, _, isLongest, rfl⟩⟩
  case packs =>
    cases settles <;> exact nofun

end DescriptorAllocator

/-- A block of a divided heap begins at one of its slots. -/
theorem HeapUse.Divided.start_lt {use : HeapUse} (divided : use.Divided) {block : Block}
    (member : block ∈ use.allocator.blocks) :
    block.start < DescriptorAllocator.capacityMax := by
  have filled := divided.filled block member
  have inside := divided.partitions.blocksInside block member
  have managed := divided.managed
  omega

/-- First fit, exactly. Whatever was allocated from a new allocator and given back to it, as long
as only slots that were handed out were given back, the answer to asking for any number of
descriptors is the one of first fit; nothing that is taken fails to be packed, even from a heap as
large as a heap can be. -/
theorem allocates_first_fit {heapType : HeapType} {capacity : Nat}
    {allocator : DescriptorAllocator}
    (created : DescriptorAllocator.ofCapacity? heapType capacity = .ok allocator)
    {actions : List HeapAction} (admitted : (HeapUse.start allocator).AdmitsAll actions)
    (count : Nat) :
    let reached := ((HeapUse.start allocator).after actions).allocator
    reached.FitsFirst count (reached.allocate count) := by
  have divided := (HeapUse.divided_start created).after admitted
  exact (DescriptorAllocator.settles (fun _ => divided.start_lt) count).fitsFirst

/-- The last slot of the largest heap, after all others were handed out as one range. -/
theorem allocates_first_fit_largest :
    let allocator : DescriptorAllocator := ⟨.sampler, 16777216, [⟨0, 16777216⟩]⟩
    let actions : List HeapAction := [.allocate 16777215]
    let reached : DescriptorAllocator := ⟨.sampler, 16777216, [⟨16777215, 16777216⟩]⟩
    DescriptorAllocator.ofCapacity? .sampler 16777216 = .ok allocator ∧
      (HeapUse.start allocator).AdmitsAll actions ∧
      ((HeapUse.start allocator).after actions).allocator = reached ∧
      reached.allocate 1 = (.ok ⟨⟨0x1FFFFFF, 1⟩⟩, ⟨.sampler, 16777216, []⟩) ∧
      reached.FitsFirst 1 (reached.allocate 1) ∧
      reached.FitsFirst 16777216 (reached.allocate 16777216) := by
  intro allocator actions reached
  have created : DescriptorAllocator.ofCapacity? .sampler 16777216 = .ok allocator := by decide
  have admitted : (HeapUse.start allocator).AdmitsAll actions := ⟨trivial, trivial⟩
  have isReached : ((HeapUse.start allocator).after actions).allocator = reached := by
    decide +kernel
  have fitting := allocates_first_fit created admitted
  rw [isReached] at fitting
  exact ⟨created, admitted, isReached, by decide +kernel, fitting 1, fitting 16777216⟩

end CommandStream
