import CommandStream.Handle
/-!
# Generational slot tables

A table hands out handles to the values it stores. It grows by whole chunks of slots and never
shrinks. Freeing a slot advances its generation, which is why a handle to a freed value stays
unusable whatever the slot holds afterwards; the last generation has no successor, so a slot
freed in it is not used again. Every operation answers with the table it leaves behind, also
when it fails.
-/

namespace CommandStream

/-- Why a handle does not resolve. -/
inductive HandleError
  /-- The slot has another generation than the handle. -/
  | stale (family : ResourceFamily) (index generation current : UInt32)
  /-- There is no such slot, or nothing was stored in it in that generation. -/
  | outOfRange (family : ResourceFamily) (index : UInt32) (slots : Nat)
  deriving DecidableEq, Repr

/-- The text of the error. -/
def HandleError.message : HandleError → String
  | .stale family index generation current =>
    let label := Enumeration.name family
    s!"stale {label} handle {index.toNat}v{generation.toNat}, " ++
      s!"slot is at generation {current.toNat}"
  | .outOfRange family index slots =>
    let label := Enumeration.name family
    s!"{label} handle index {index.toNat} is out of range (table has {slots} slots)"

/-- Why a table cannot be made or cannot grow. -/
inductive TableError
  | emptyChunk
  | indexSpaceExhausted (family : ResourceFamily)
  deriving DecidableEq, Repr

/-- The text of the error. -/
def TableError.message : TableError → String
  | .emptyChunk => "table chunk size must be positive"
  | .indexSpaceExhausted family =>
    let label := Enumeration.name family
    s!"{label} table exhausted the index space"

/-- One slot: the generation of its next or present value, and that value. -/
structure Slot (α : Type) where
  generation : UInt32
  value : Option α
  deriving DecidableEq, Repr

/-- A slot as growth creates it. -/
def Slot.fresh {α : Type} : Slot α := ⟨0, none⟩

/-- The slot after its value is taken out, or unchanged in generation when none is left. -/
def Slot.vacated {α : Type} (slot : Slot α) : Slot α :=
  if slot.generation = 0xFFFFFFFF then ⟨slot.generation, none⟩ else ⟨slot.generation + 1, none⟩

/-- A table of the values of one resource family. `vacant` is the stack of slots ready for
reuse, the next one first, and `occupied` counts the stored values. -/
structure SlotTable (family : ResourceFamily) (α : Type) where
  slots : List (Slot α)
  vacant : List Nat
  chunk : Nat
  occupied : Nat
  chunk_pos : 0 < chunk

namespace SlotTable

variable {family : ResourceFamily} {α : Type}

/-- The chunk of a table for which none is chosen. -/
def defaultChunk : Nat := 32

/-- The number of slots no table reaches: the index of the null handle stays free. -/
def slotLimit : Nat := 0xFFFFFFFF

/-- The table without slots that grows by `chunk`. -/
def empty (chunk : Nat) (chunk_pos : 0 < chunk) : SlotTable family α :=
  ⟨[], [], chunk, 0, chunk_pos⟩

/-- The table without slots that grows by `chunk`, which must be positive. -/
def ofChunk? (chunk : Nat) : Except TableError (SlotTable family α) :=
  if chunk_pos : 0 < chunk then .ok (empty chunk chunk_pos) else .error .emptyChunk

/-- The number of slots, vacant ones included. -/
def capacity (table : SlotTable family α) : Nat := table.slots.length

/-- Whether no slot is occupied. -/
def isEmpty (table : SlotTable family α) : Bool := table.occupied == 0

/-- Stores a value in a vacant slot and leaves `vacant` as the slots ready for reuse. -/
def occupy (table : SlotTable family α) (index : Nat) (vacant : List Nat) (value : α) :
    Handle × SlotTable family α :=
  let generation := (table.slots[index]?.map Slot.generation).getD 0
  (⟨UInt32.ofNat index, generation⟩,
    { table with
      slots := table.slots.set index ⟨generation, some value⟩
      vacant := vacant
      occupied := table.occupied + 1 })

/-- Stores a value in the slot vacated last. A table without vacant slots grows by a chunk
first and starts with the lowest new slot. -/
def allocate (table : SlotTable family α) (value : α) :
    Except TableError Handle × SlotTable family α :=
  match table.vacant with
  | index :: vacant =>
    let (handle, stored) := table.occupy index vacant value
    (.ok handle, stored)
  | [] =>
    let start := table.slots.length
    if start + table.chunk < slotLimit then
      let grown := { table with slots := table.slots ++ List.replicate table.chunk Slot.fresh }
      let (handle, stored) := grown.occupy start (List.range' (start + 1) (table.chunk - 1)) value
      (.ok handle, stored)
    else
      (.error (.indexSpaceExhausted family), table)

/-- The value a handle names. A slot that matches the handle and holds nothing was created by
growth and never issued, so it counts as out of range. -/
def get (table : SlotTable family α) (handle : Handle) : Except HandleError α :=
  match table.slots[handle.index.toNat]? with
  | none => .error (.outOfRange family handle.index table.slots.length)
  | some slot =>
    if slot.generation = handle.generation then
      match slot.value with
      | some value => .ok value
      | none => .error (.outOfRange family handle.index table.slots.length)
    else
      .error (.stale family handle.index handle.generation slot.generation)

/-- Whether a handle names a stored value. -/
def contains (table : SlotTable family α) (handle : Handle) : Bool :=
  (table.get handle).toBool

/-- Stores another value under a handle and answers with the value it displaces. -/
def replace (table : SlotTable family α) (handle : Handle) (value : α) :
    Except HandleError α × SlotTable family α :=
  match table.get handle with
  | .error error => (.error error, table)
  | .ok displaced =>
    (.ok displaced,
      { table with
        slots := table.slots.set handle.index.toNat ⟨handle.generation, some value⟩ })

/-- Takes the value out of a slot. The slot goes on the stack of vacant slots unless its
generation is the last one. -/
def vacate (table : SlotTable family α) (index : Nat) : SlotTable family α :=
  match table.slots[index]? with
  | none => table
  | some slot =>
    { table with
      slots := table.slots.set index slot.vacated
      vacant := if slot.generation = 0xFFFFFFFF then table.vacant else index :: table.vacant }

/-- Frees the slot a handle names and answers with the value it held. -/
def free (table : SlotTable family α) (handle : Handle) :
    Except HandleError α × SlotTable family α :=
  match table.get handle with
  | .error error => (.error error, table)
  | .ok value =>
    (.ok value, { table.vacate handle.index.toNat with occupied := table.occupied - 1 })

/-- The stored values with their handles, by increasing index. -/
def entries (table : SlotTable family α) : List (Handle × α) :=
  table.slots.zipIdx.filterMap fun (slot, index) =>
    slot.value.map fun value => (⟨UInt32.ofNat index, slot.generation⟩, value)

/-- The indices of the occupied slots, in increasing order. -/
def occupiedIndices (table : SlotTable family α) : List Nat :=
  table.slots.zipIdx.filterMap fun (slot, index) => slot.value.map fun _ => index

/-- Frees every occupied slot by increasing index and answers with the values. -/
def drain (table : SlotTable family α) : List α × SlotTable family α :=
  (table.entries.map Prod.snd,
    { table.occupiedIndices.foldl vacate table with occupied := 0 })

/-- The text of a table: its family, its number of values and its number of slots. -/
def describe (table : SlotTable family α) : String :=
  let label := Enumeration.name family
  s!"Table \x7b kind: \"{label}\", len: {table.occupied}, capacity: {table.capacity} \x7d"

end SlotTable

end CommandStream
