import CommandStream.Handle
/-!
# Descriptor ranges and addresses

No table is asked what a descriptor range is, because the two words of its handle say it. The low
24 bits of the index word are the offset and the low 24 bits of the generation word are the
length; the two high bytes together name the heap, low byte first.
-/

namespace CommandStream

/-- The kinds of shader-visible descriptor heaps. -/
inductive HeapType
  /-- The heap of the views of buffers and textures. -/
  | cbvSrvUav
  | sampler
  deriving DecidableEq, Repr

instance : Enumeration HeapType where
  all := [.cbvSrvUav, .sampler]
  name
    | .cbvSrvUav => "CbvSrvUav"
    | .sampler => "Sampler"
  mem_all value := by cases value <;> decide

/-- The number that names a heap in a range handle. -/
def HeapType.subtype : HeapType → Nat
  | .cbvSrvUav => 0
  | .sampler => 1

/-- The heap a number names, if any. -/
def HeapType.ofSubtype? : Nat → Option HeapType
  | 0 => some .cbvSrvUav
  | 1 => some .sampler
  | _ => none

theorem HeapType.ofSubtype?_eq_some_iff {subtype : Nat} {heap : HeapType} :
    ofSubtype? subtype = some heap ↔ heap.subtype = subtype := by
  match subtype with
  | 0 => cases heap <;> decide
  | 1 => cases heap <;> decide
  | rest + 2 => cases heap <;> simp [ofSubtype?, HeapType.subtype]

/-- Why a range does not fit a handle. -/
inductive PackError
  | offsetTooLarge (offset : Nat)
  | lengthTooLarge (length : Nat)
  deriving DecidableEq, Repr

/-- The text of the error. -/
def PackError.message : PackError → String
  | .offsetTooLarge offset => s!"descriptor offset {offset} too large"
  | .lengthTooLarge length => s!"descriptor length {length} too large"

/-- A contiguous run of descriptors of one heap, in the packed form of a handle. -/
structure DescriptorRange where
  packed : Handle
  deriving DecidableEq, Repr

namespace DescriptorRange

/-- The number of values of a 24-bit field. -/
def fieldSize : Nat := 0x1000000

/-- The largest offset or length that a range handle carries. -/
def fieldMax : Nat := fieldSize - 1

/-- Packs a range. The offset is checked before the length; the subtype has 16 bits. -/
def pack (offset length subtype : Nat) : Except PackError DescriptorRange :=
  if fieldMax < offset then .error (.offsetTooLarge offset)
  else if fieldMax < length then .error (.lengthTooLarge length)
  else .ok ⟨UInt32.ofNat (offset + fieldSize * (subtype % 256)),
    UInt32.ofNat (length + fieldSize * (subtype / 256))⟩

variable (range : DescriptorRange)

/-- Where the range begins in its heap. -/
def offset : Nat := range.packed.index.toNat % fieldSize

/-- The number of descriptors. -/
def length : Nat := range.packed.generation.toNat % fieldSize

/-- One past the last descriptor. -/
def stop : Nat := range.offset + range.length

/-- The number of the heap. -/
def subtype : Nat :=
  range.packed.index.toNat / fieldSize + 256 * (range.packed.generation.toNat / fieldSize)

/-- Whether the range has no descriptor. -/
def isEmpty : Bool := range.length == 0

/-- The heap that the number of the range names, if it names one. -/
def heapType? : Option HeapType := HeapType.ofSubtype? range.subtype

/-- Packing succeeds exactly for offsets and lengths of 24 bits. -/
theorem pack_isOk_iff {offset length subtype : Nat} :
    (∃ range, pack offset length subtype = .ok range) ↔ offset ≤ fieldMax ∧ length ≤ fieldMax := by
  unfold pack
  constructor
  · rintro ⟨range, packed⟩
    split at packed
    · cases packed
    · split at packed
      · cases packed
      · omega
  · rintro ⟨offsetFits, lengthFits⟩
    rw [if_neg (by omega), if_neg (by omega)]
    exact ⟨_, rfl⟩

/-- A packed range gives back its three fields. -/
theorem fields_of_pack {offset length subtype : Nat} {range : DescriptorRange}
    (packed : pack offset length subtype = .ok range) (word : subtype < 65536) :
    range.offset = offset ∧ range.length = length ∧ range.subtype = subtype := by
  obtain ⟨offsetFits, lengthFits⟩ := pack_isOk_iff.mp ⟨range, packed⟩
  simp only [fieldMax, fieldSize] at offsetFits lengthFits
  rw [pack, if_neg (by simp only [fieldMax, fieldSize]; omega),
    if_neg (by simp only [fieldMax, fieldSize]; omega)] at packed
  cases packed
  simp only [DescriptorRange.offset, DescriptorRange.length, DescriptorRange.subtype, fieldSize,
    UInt32.toNat_ofNat']
  omega

end DescriptorRange

/-- The address of a descriptor on the device, with the distance to the next one. -/
structure DescriptorAddress where
  pointer : UInt64
  stride : UInt64
  deriving DecidableEq, Repr

/-- The address `index` descriptors later, modulo the size of the address space. -/
def DescriptorAddress.advance (address : DescriptorAddress) (index : Nat) : DescriptorAddress :=
  { address with pointer := address.pointer + address.stride * UInt64.ofNat index }

end CommandStream
