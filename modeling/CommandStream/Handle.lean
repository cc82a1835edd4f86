import CommandStream.Enumeration
/-!
# Generational handles

A handle names a slot of a table together with a generation of that slot. Handles are copied,
stored and compared as two words; what one of them stands for, and whether it still stands for
anything, is a question for the table.
-/

namespace CommandStream

/-- The families of resources; each family has a table of its own. -/
inductive ResourceFamily
  | buffer
  | texture
  | sampler
  | pipeline
  deriving DecidableEq, Repr

instance : Enumeration ResourceFamily where
  all := [.buffer, .texture, .sampler, .pipeline]
  name
    | .buffer => "buffer"
    | .texture => "texture"
    | .sampler => "sampler"
    | .pipeline => "pipeline"
  mem_all value := by cases value <;> decide

/-- The index of a slot, and the generation that the slot had when the handle was made. -/
structure Handle where
  index : UInt32
  generation : UInt32
  deriving DecidableEq, Repr

namespace Handle

/-- The handle that names no resource; no table ever issues it. -/
def null : Handle := ⟨0xFFFFFFFF, 0xFFFFFFFF⟩

/-- Whether the handle is the null handle. -/
def isNull (handle : Handle) : Bool := handle == null

/-- The text of a handle of the given family, as index and generation or as `null`. -/
def describe (family : ResourceFamily) (handle : Handle) : String :=
  let label := Enumeration.name family
  let index := toString handle.index.toNat
  let generation := toString handle.generation.toNat
  if handle.isNull then s!"{label}(null)" else s!"{label}({index}v{generation})"

end Handle

end CommandStream
