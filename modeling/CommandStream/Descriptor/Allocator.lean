import CommandStream.Descriptor.Range
import CommandStream.Total
/-!
# First-fit allocation of descriptor ranges

An allocator carves a heap into ranges. It scans its free blocks in order and takes the front of
the first that is long enough. A freed range becomes a new block behind all others. Neighbours
stay apart, so a long range can be refused although enough descriptors are free in a row.
-/

namespace CommandStream

/-- Why a descriptor range cannot be handed out, resolved or given back. -/
inductive DescriptorError
  /-- Every free block is too short. -/
  | insufficientSpace (requested largestFree : Nat)
  /-- More descriptors are asked for than a packed length can say. -/
  | rangeTooLarge (count : Nat)
  /-- The range ends beyond its heap. -/
  | outOfRange (offset stop capacity : Nat)
  /-- The range names a heap that does not exist. -/
  | unknownHeap (subtype : Nat)
  /-- The descriptors taken from a block cannot be packed. -/
  | unpackable (cause : PackError)
  deriving DecidableEq, Repr

/-- The text of the error. -/
def DescriptorError.message : DescriptorError → String
  | .insufficientSpace requested largestFree =>
    s!"insufficient descriptor space: requested {requested}, " ++
      s!"largest free block is {largestFree}"
  | .rangeTooLarge count => s!"descriptor range of {count} slots does not fit a range handle"
  | .outOfRange offset stop capacity =>
    s!"descriptor range {offset}..{stop} lies outside a heap of {capacity} slots"
  | .unknownHeap subtype => s!"unknown descriptor heap subtype {subtype}"
  | .unpackable cause => cause.message

/-- A run of free descriptors, from `start` up to but not including `stop`. -/
structure Block where
  start : Nat
  stop : Nat
  deriving DecidableEq, Repr

/-- The number of descriptors of the block. -/
def Block.length (block : Block) : Nat := block.stop - block.start

/-- Takes `count` descriptors off the first block that has as many, lowest ones first. Answers
with the first descriptor taken and the blocks that remain, each in its place; a block that is
used up is removed. -/
def Block.takeFirstFit (count : Nat) : List Block → Option (Nat × List Block)
  | [] => none
  | block :: later =>
    if count ≤ block.length then
      let start := block.start + count
      some (block.start, if start = block.stop then later else ⟨start, block.stop⟩ :: later)
    else
      (takeFirstFit count later).map fun (offset, remaining) => (offset, block :: remaining)

/-- The free blocks of one heap, in scan order. -/
structure DescriptorAllocator where
  heapType : HeapType
  capacity : Nat
  blocks : List Block
  deriving DecidableEq, Repr

/-- A capacity beyond what an allocator manages. -/
structure CapacityError where
  capacity : Nat
  deriving DecidableEq, Repr

namespace DescriptorAllocator

/-- The capacity of the largest heap: each of its slots is an offset that a range carries. -/
def capacityMax : Nat := DescriptorRange.fieldMax + 1

/-- The allocator of a heap without live ranges: one block, unless the heap has no slot. -/
def ofCapacity? (heapType : HeapType) (capacity : Nat) :
    Except CapacityError DescriptorAllocator :=
  if capacityMax < capacity then .error ⟨capacity⟩
  else .ok ⟨heapType, capacity, if capacity = 0 then [] else [⟨0, capacity⟩]⟩

/-- The number of free descriptors over all blocks. -/
def freeCount (allocator : DescriptorAllocator) : Nat :=
  total (allocator.blocks.map Block.length)

/-- The length of the longest free block, zero when there is none. -/
def largestFree (allocator : DescriptorAllocator) : Nat :=
  (allocator.blocks.map Block.length).foldl max 0

/-- The range handle of descriptors of this heap. -/
def packed (allocator : DescriptorAllocator) (offset count : Nat) :
    Except DescriptorError DescriptorRange :=
  match DescriptorRange.pack offset count allocator.heapType.subtype with
  | .error cause => .error (.unpackable cause)
  | .ok range => .ok range

/-- Hands out `count` descriptors in a row, from the first free block that has as many. No
descriptor at all is always available and changes nothing. -/
def allocate (allocator : DescriptorAllocator) (count : Nat) :
    Except DescriptorError DescriptorRange × DescriptorAllocator :=
  if count = 0 then (allocator.packed 0 0, allocator)
  else if DescriptorRange.fieldMax < count then (.error (.rangeTooLarge count), allocator)
  else
    match Block.takeFirstFit count allocator.blocks with
    | none => (.error (.insufficientSpace count allocator.largestFree), allocator)
    | some (offset, remaining) =>
      (allocator.packed offset count, { allocator with blocks := remaining })

/-- Gives a range back as a new last block. That its descriptors are in use is the caller's
promise and is not checked; a range without descriptors changes nothing. -/
def free (allocator : DescriptorAllocator) (range : DescriptorRange) : DescriptorAllocator :=
  if range.isEmpty then allocator
  else { allocator with blocks := allocator.blocks ++ [⟨range.offset, range.stop⟩] }

end DescriptorAllocator

/-- The text of the error. -/
def CapacityError.message (error : CapacityError) : String :=
  s!"descriptor heap capacity {error.capacity} exceeds {DescriptorAllocator.capacityMax}"

end CommandStream
