import CommandStream.Proofs.HeapPartition
import Mathlib.Data.List.MinMax
import Mathlib.Order.Nat
/-!
# Fragmentation

An allocator splits free blocks and never joins them. Free blocks and live ranges together are the
stretches into which a heap is cut. Handing out a range cuts a block in two or makes a range of
it, and giving a range back makes a block of it, so the longest stretch never gets longer
(`longest_perform`). What is too long for all of them once is too long for ever, however many
descriptors are free.
-/

namespace CommandStream

/-- No block that is left is longer than the block that it is left of. -/
theorem Block.length_le_of_mem_shortened {block rest : Block} {count : Nat}
    (member : rest ∈ block.shortened count) : rest.length ≤ block.length := by
  rw [shortened] at member
  split at member
  · cases member
  · cases List.mem_singleton.mp member
    simp only [length]
    omega

namespace DescriptorAllocator

variable {allocator : DescriptorAllocator} {count : Nat}

/-- Where every block is too short, nothing is handed out and nothing changes. -/
theorem allocate_of_short (someSlot : count ≠ 0) (fits : count ≤ DescriptorRange.fieldMax)
    (short : ∀ block ∈ allocator.blocks, block.length < count) :
    allocator.allocate count =
      (.error (.insufficientSpace count allocator.largestFree), allocator) := by
  rw [allocate, if_neg someSlot, if_neg (Nat.not_lt_of_le fits),
    Block.takeFirstFit_eq_none_iff.mpr short]

/-- A length for which there is no space is one that a range can have. -/
theorem fits_of_insufficientSpace {largest : Nat}
    (refused : (allocator.allocate count).1 = .error (.insufficientSpace count largest)) :
    count ≠ 0 ∧ count ≤ DescriptorRange.fieldMax ∧
      ∀ block ∈ allocator.blocks, block.length < count := by
  have packs (offset : Nat) :
      allocator.packed offset count ≠ .error (.insufficientSpace count largest) := by
    unfold packed
    split <;> simp
  have allocates := allocator.allocates count
  generalize allocator.allocate count = answer at allocates refused
  cases allocates with
  | nothing => exact absurd refused (packs 0)
  | tooLarge tooMany => cases refused
  | insufficient someSlot fits short => exact ⟨someSlot, fits, short⟩
  | taken => exact absurd refused (packs _)

/-- Neither the blocks that an allocation leaves nor the range that it hands out are longer than
the blocks from before. -/
theorem Allocates.bounded {answer : Except DescriptorError DescriptorRange × DescriptorAllocator}
    (allocates : allocator.Allocates count answer) {bound : Nat}
    (bounded : ∀ block ∈ allocator.blocks, block.length ≤ bound) :
    (∀ block ∈ answer.2.blocks, block.length ≤ bound) ∧
      ∀ range, answer.1 = .ok range → range.length ≤ bound := by
  cases allocates with
  | nothing =>
    refine ⟨bounded, fun range (isPacked : allocator.packed 0 0 = .ok range) => ?_⟩
    rw [(fields_of_packed isPacked).2.1]
    exact Nat.zero_le bound
  | tooLarge | insufficient => exact ⟨bounded, nofun⟩
  | taken someSlot fits isBlocks short long =>
    simp only [isBlocks, List.forall_mem_append, List.forall_mem_cons] at bounded ⊢
    obtain ⟨front, whole, back⟩ := bounded
    refine ⟨⟨front, fun rest member => ?_, back⟩, fun range isPacked => ?_⟩
    · exact (Block.length_le_of_mem_shortened member).trans whole
    · rw [(fields_of_packed isPacked).2.1]
      exact long.trans whole

end DescriptorAllocator

namespace HeapUse

/-- The lengths of the free blocks and of the live ranges. -/
def stretches (use : HeapUse) : List Nat :=
  use.allocator.blocks.map Block.length ++ use.live.map DescriptorRange.length

/-- The length of the longest free block or live range, zero when there is none. -/
def longest (use : HeapUse) : Nat := use.stretches.foldr max 0

/-- Only a range that is live is given back, and all of it. -/
def Returns (use : HeapUse) : HeapAction → Prop
  | .allocate _ => True
  | .free range => range ∈ use.live

/-- In each of several actions in a row only a range that is then live is given back. -/
def ReturnsAll (use : HeapUse) : List HeapAction → Prop
  | [] => True
  | action :: later => use.Returns action ∧ (use.perform action).ReturnsAll later

instance (use : HeapUse) : (action : HeapAction) → Decidable (use.Returns action)
  | .allocate _ => inferInstanceAs (Decidable True)
  | .free range => inferInstanceAs (Decidable (range ∈ use.live))

variable {use : HeapUse}

/-- The longest stretch bounds the blocks and the live ranges, and nothing less does. -/
theorem longest_le_iff {bound : Nat} :
    use.longest ≤ bound ↔ (∀ block ∈ use.allocator.blocks, block.length ≤ bound) ∧
      ∀ range ∈ use.live, range.length ≤ bound := by
  have bounds : use.longest ≤ bound ↔ ∀ length ∈ use.stretches, length ≤ bound :=
    ⟨fun bounded _ member => (List.le_max_of_le' 0 member (Nat.le_refl _)).trans bounded,
      List.max_le_of_forall_le use.stretches bound⟩
  rw [bounds, stretches, List.forall_mem_append, List.forall_mem_map, List.forall_mem_map]

/-- No action makes the longest stretch longer. -/
theorem longest_perform {action : HeapAction} (returned : use.Returns action) :
    (use.perform action).longest ≤ use.longest := by
  obtain ⟨blocks, live⟩ := longest_le_iff.mp (Nat.le_refl use.longest)
  apply longest_le_iff.mpr
  cases action with
  | allocate count =>
    obtain ⟨blocksLeft, handedOut⟩ := (use.allocator.allocates count).bounded blocks
    rw [perform]
    rcases answer : use.allocator.allocate count with ⟨error | range, allocator⟩
    all_goals rw [answer] at blocksLeft handedOut
    · exact ⟨blocksLeft, live⟩
    · exact ⟨blocksLeft, List.forall_mem_cons.mpr ⟨handedOut range rfl, live⟩⟩
  | free range =>
    have liveLeft : ∀ other ∈ (use.perform (.free range)).live, other.length ≤ use.longest :=
      fun other member => live other (List.mem_of_mem_filter member)
    refine ⟨?_, liveLeft⟩
    rw [perform, DescriptorAllocator.free]
    split
    · exact blocks
    · rw [List.forall_mem_append, List.forall_mem_singleton, Block.length, DescriptorRange.stop,
        Nat.add_sub_cancel_left]
      exact ⟨blocks, live range returned⟩

/-- Nor do actions in a row. -/
theorem longest_after {actions : List HeapAction} (returned : use.ReturnsAll actions) :
    (use.after actions).longest ≤ use.longest := by
  induction actions generalizing use with
  | nil => exact Nat.le_refl use.longest
  | cons action later inductionHypothesis =>
    exact (inductionHypothesis returned.2).trans (longest_perform returned.1)

end HeapUse

/-- Fragmentation is irreversible. Whatever is allocated from a heap in use and given back to it,
as long as only live ranges are given back, the longest free block or live range gets no longer. A
length for which there is no space, and which no live range has, is refused from then on, even
where all descriptors are free again. -/
theorem fragmentation_irreversible {use : HeapUse} {actions : List HeapAction}
    (returned : use.ReturnsAll actions) :
    (use.after actions).longest ≤ use.longest ∧
      ∀ count largest,
        (use.allocator.allocate count).1 = .error (.insufficientSpace count largest) →
        (∀ range ∈ use.live, range.length < count) →
        let allocator := (use.after actions).allocator
        allocator.allocate count =
          (.error (.insufficientSpace count allocator.largestFree), allocator) := by
  refine ⟨HeapUse.longest_after returned, fun count largest refused shortLive => ?_⟩
  obtain ⟨someSlot, fits, short⟩ := DescriptorAllocator.fits_of_insufficientSpace refused
  have before : use.longest ≤ count - 1 :=
    HeapUse.longest_le_iff.mpr ⟨fun block member => Nat.le_sub_one_of_lt (short block member),
      fun range member => Nat.le_sub_one_of_lt (shortLive range member)⟩
  have after := (HeapUse.longest_after returned).trans before
  refine DescriptorAllocator.allocate_of_short someSlot fits fun block member => ?_
  have bounded := (HeapUse.longest_le_iff.mp after).1 block member
  omega

/-- Eight descriptors of which four were handed out first: five in a row are not to be had then,
nor when all eight are free again, in three blocks. -/
theorem fragmentation_irreversible_eight :
    let allocator : DescriptorAllocator := ⟨.cbvSrvUav, 8, [⟨0, 8⟩]⟩
    let use := (HeapUse.start allocator).after [.allocate 4]
    let actions : List HeapAction := [.allocate 2, .allocate 5, .free ⟨⟨4, 2⟩⟩, .free ⟨⟨0, 4⟩⟩]
    let final : DescriptorAllocator := ⟨.cbvSrvUav, 8, [⟨6, 8⟩, ⟨4, 6⟩, ⟨0, 4⟩]⟩
    DescriptorAllocator.ofCapacity? .cbvSrvUav 8 = .ok allocator ∧
      use.ReturnsAll actions ∧
      (use.allocator.allocate 5).1 = .error (.insufficientSpace 5 4) ∧
      (∀ range ∈ use.live, range.length < 5) ∧
      (use.after actions).allocator = final ∧ final.freeCount = 8 ∧
      (use.after actions).longest ≤ use.longest ∧
      final.allocate 5 = (.error (.insufficientSpace 5 4), final) := by
  intro allocator use actions final
  have returned : use.ReturnsAll actions :=
    ⟨trivial, trivial, by decide +kernel, by decide +kernel, trivial⟩
  have refused : (use.allocator.allocate 5).1 = .error (.insufficientSpace 5 4) := by
    decide +kernel
  have shortLive : ∀ range ∈ use.live, range.length < 5 := by decide +kernel
  have reached : (use.after actions).allocator = final := by decide +kernel
  obtain ⟨noLonger, stillRefused⟩ := fragmentation_irreversible returned
  refine ⟨rfl, returned, refused, shortLive, reached, by decide +kernel, noLonger, ?_⟩
  have again := stillRefused 5 4 refused shortLive
  rw [reached] at again
  exact again

end CommandStream
