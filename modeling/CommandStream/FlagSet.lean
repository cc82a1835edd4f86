/-!
# Sets of flags in a word

A flag set is a 32-bit word in which only the bits of a fixed mask are set. The mask is part of
the type, so a word with an unknown bit is refused once, where it is read.
-/

namespace CommandStream

/-- A word without bits outside the mask. -/
structure FlagSet (mask : UInt32) where
  bits : UInt32
  known : bits &&& ~~~mask = 0
  deriving DecidableEq, Repr

namespace FlagSet

variable {mask : UInt32}

/-- The set of a word's flags, or nothing when a bit of the word is unknown. -/
def ofBits? (bits : UInt32) : Option (FlagSet mask) :=
  if known : bits &&& ~~~mask = 0 then some ⟨bits, known⟩ else none

/-- The set without flags. -/
def empty : FlagSet mask := ⟨0, by simp⟩

/-- The set of all flags. -/
def all : FlagSet mask := ⟨mask, by simp⟩

/-- Whether no flag is set. -/
def isEmpty (flags : FlagSet mask) : Bool := flags.bits == 0

/-- Whether every flag of the second set is in the first. -/
def contains (flags others : FlagSet mask) : Bool := flags.bits &&& others.bits == others.bits

/-- Whether the sets have a flag in common. -/
def intersects (flags others : FlagSet mask) : Bool := flags.bits &&& others.bits != 0

/-- Two words without unknown bits have no unknown bit together. -/
private theorem union_known {left right : UInt32} (leftKnown : left &&& ~~~mask = 0)
    (rightKnown : right &&& ~~~mask = 0) : (left ||| right) &&& ~~~mask = 0 := by
  have leftBits := congrArg UInt32.toBitVec leftKnown
  have rightBits := congrArg UInt32.toBitVec rightKnown
  apply UInt32.eq_of_toBitVec_eq
  simp only [UInt32.toBitVec_and, UInt32.toBitVec_or] at leftBits rightBits ⊢
  rw [BitVec.and_comm, BitVec.and_or_distrib_left, BitVec.and_comm, leftBits, BitVec.and_comm,
    rightBits]
  rfl

/-- The flags of either set. -/
def union (flags others : FlagSet mask) : FlagSet mask :=
  ⟨flags.bits ||| others.bits, union_known flags.known others.known⟩

/-- A word is read as a set exactly when it is the word of that set. -/
theorem ofBits?_eq_some_iff {bits : UInt32} {flags : FlagSet mask} :
    ofBits? bits = some flags ↔ flags.bits = bits := by
  unfold ofBits?
  constructor
  · intro read
    split at read
    · cases read
      rfl
    · cases read
  · rintro rfl
    rw [dif_pos flags.known]

end FlagSet

end CommandStream
