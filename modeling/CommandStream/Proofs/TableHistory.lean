import CommandStream.SlotTable
/-!
# Handles along the history of a table

A handle that was freed never resolves again, whatever is stored, replaced or freed after it. That
is not because its slot stays empty, but because the slot has a later generation from then on, or
because it is never used again: `Dead` says either, and every operation keeps it. To be dead after
it is freed a handle needs that the slots ready for reuse are empty, which is the invariant `Sound`.
-/

namespace CommandStream

/-- Every generation but the last has the next number behind it. -/
theorem toNat_add_one_of_ne_last {generation : UInt32} (notLast : generation ≠ 0xFFFFFFFF) :
    (generation + 1).toNat = generation.toNat + 1 := by
  have bounded := generation.toNat_lt
  have last : (0xFFFFFFFF : UInt32).toNat = 4294967295 := by decide
  have below : generation.toNat ≠ 4294967295 := by
    intro same
    exact notLast (UInt32.toNat_inj.mp (same.trans last.symm))
  have one : (1 : UInt32).toNat = 1 := by decide
  rw [UInt32.toNat_add]
  omega

/-- There is a generation behind every one but the last. -/
theorem lt_add_one_of_ne_last {generation : UInt32} (notLast : generation ≠ 0xFFFFFFFF) :
    generation < generation + 1 := by
  rw [UInt32.lt_iff_toNat_lt, toNat_add_one_of_ne_last notLast]
  exact Nat.lt_succ_self _

@[simp] theorem Slot.value_vacated {α : Type} (slot : Slot α) : slot.vacated.value = none := by
  unfold vacated
  split <;> rfl

theorem Slot.generation_le_vacated {α : Type} (slot : Slot α) :
    slot.generation ≤ slot.vacated.generation := by
  unfold vacated
  split
  · exact UInt32.le_refl _
  · rename_i notLast
    exact UInt32.le_of_lt (lt_add_one_of_ne_last notLast)

namespace SlotTable

variable {family : ResourceFamily} {α : Type}

/-- The slots ready for reuse are there, empty, and listed once, and the index of the null handle
is not the index of a slot. -/
structure Sound (table : SlotTable family α) : Prop where
  distinct : table.vacant.Nodup
  empty : ∀ index ∈ table.vacant, ∃ generation, table.slots[index]? = some ⟨generation, none⟩
  bounded : table.slots.length < slotLimit

/-- The slot of a handle has a later generation than the handle, or it is empty and not ready for
reuse. -/
def Dead (table : SlotTable family α) (handle : Handle) : Prop :=
  ∃ slot, table.slots[handle.index.toNat]? = some slot ∧
    (handle.generation < slot.generation ∨
      slot.value = none ∧ handle.index.toNat ∉ table.vacant)

/-! ## Lookups -/

/-- A handle resolves to what its slot holds in its generation. -/
theorem get_eq_ok_iff {table : SlotTable family α} {handle : Handle} {value : α} :
    table.get handle = .ok value ↔
      table.slots[handle.index.toNat]? = some ⟨handle.generation, some value⟩ := by
  unfold get
  constructor
  · intro found
    split at found
    · cases found
    · rename_i slot stored
      split at found
      · rename_i same
        split at found
        · rename_i held holds
          cases found
          rw [stored, ← same, ← holds]
        · cases found
      · cases found
  · intro stored
    simp [stored]

/-- A dead handle does not resolve. -/
theorem Dead.get_ne_ok {table : SlotTable family α} {handle : Handle} (dead : table.Dead handle)
    (value : α) : table.get handle ≠ .ok value := by
  intro found
  obtain ⟨slot, stored, later | ⟨empty, _⟩⟩ := dead
  · cases stored.symm.trans (get_eq_ok_iff.mp found)
    exact absurd later (UInt32.lt_irrefl _)
  · cases stored.symm.trans (get_eq_ok_iff.mp found)
    cases empty

/-- The null handle does not resolve. -/
theorem Sound.get_null_ne_ok {table : SlotTable family α} (sound : table.Sound) (value : α) :
    table.get Handle.null ≠ .ok value := by
  intro found
  have inside := (List.getElem?_eq_some_iff.mp (get_eq_ok_iff.mp found)).1
  have bounded := sound.bounded
  simp only [Handle.null, slotLimit] at inside bounded
  have index : (0xFFFFFFFF : UInt32).toNat = 4294967295 := by decide
  omega

/-! ## Histories -/

/-- What an operation keeps: the invariant, and that dead handles stay dead. -/
structure Evolves (before after : SlotTable family α) : Prop where
  sound : before.Sound → after.Sound
  dead : ∀ handle, before.Dead handle → after.Dead handle

theorem Evolves.refl (table : SlotTable family α) : Evolves table table := ⟨id, fun _ => id⟩

theorem Evolves.trans {first second third : SlotTable family α} (front : Evolves first second)
    (back : Evolves second third) : Evolves first third :=
  ⟨fun sound => back.sound (front.sound sound),
    fun handle dead => back.dead handle (front.dead handle dead)⟩

/-- The table without slots has none ready for reuse. -/
theorem sound_empty (chunk : Nat) (chunk_pos : 0 < chunk) :
    (empty chunk chunk_pos : SlotTable family α).Sound :=
  ⟨List.nodup_nil, nofun, (by decide : 0 < slotLimit)⟩

/-- Storing a value in the next slot ready for reuse. -/
theorem evolves_occupy {table : SlotTable family α} {index : Nat} {vacant : List Nat}
    (next : table.vacant = index :: vacant) (value : α) :
    Evolves table (table.occupy index vacant value).2 := by
  constructor
  · intro sound
    obtain ⟨distinct, empty, bounded⟩ := sound
    rw [next] at distinct empty
    obtain ⟨notBehind, stillDistinct⟩ := List.nodup_cons.mp distinct
    refine ⟨stillDistinct, fun other member => ?_, ?_⟩
    · have apart : index ≠ other := fun same => notBehind (same ▸ member)
      obtain ⟨generation, stored⟩ := empty other (List.mem_cons_of_mem _ member)
      refine ⟨generation, ?_⟩
      rw [occupy, List.getElem?_set_ne apart, stored]
    · rw [occupy, List.length_set]
      exact bounded
  · rintro handle ⟨slot, stored, dead⟩
    by_cases same : index = handle.index.toNat
    · subst same
      have later : handle.generation < slot.generation := by
        rcases dead with later | ⟨_, notReady⟩
        · exact later
        · exact absurd (next ▸ List.mem_cons_self) notReady
      refine ⟨⟨slot.generation, some value⟩, ?_, .inl later⟩
      have inside := (List.getElem?_eq_some_iff.mp stored).1
      rw [occupy, List.getElem?_set_self inside, stored]
      rfl
    · refine ⟨slot, ?_, dead.imp_right fun ⟨empty, notReady⟩ => ⟨empty, fun ready => ?_⟩⟩
      · rw [occupy, List.getElem?_set_ne same, stored]
      · exact notReady (next ▸ List.mem_cons_of_mem _ ready)

/-- The table with one more chunk of slots, all of them ready for use. -/
def grown (table : SlotTable family α) : SlotTable family α :=
  { table with
    slots := table.slots ++ List.replicate table.chunk Slot.fresh
    vacant := List.range' table.slots.length table.chunk }

/-- Growing a table, of which only the new slots are then ready for use. -/
theorem evolves_grown {table : SlotTable family α}
    (fits : table.slots.length + table.chunk < slotLimit) : Evolves table table.grown := by
  constructor
  · intro sound
    refine ⟨List.nodup_range', fun index member => ?_, ?_⟩
    · obtain ⟨from_, below⟩ := List.mem_range'_1.mp member
      refine ⟨0, ?_⟩
      rw [grown, List.getElem?_append_right from_, List.getElem?_replicate_of_lt (by omega)]
      rfl
    · rw [grown, List.length_append, List.length_replicate]
      exact fits
  · rintro handle ⟨slot, stored, dead⟩
    have inside := (List.getElem?_eq_some_iff.mp stored).1
    refine ⟨slot, ?_, dead.imp_right fun ⟨empty, _⟩ => ⟨empty, fun ready => ?_⟩⟩
    · rw [grown, List.getElem?_append_left inside, stored]
    · have outside := (List.mem_range'_1.mp ready).1
      omega

/-- An allocation uses a slot that is ready, one of a new chunk if there is no other, or fails for
want of indices. -/
theorem allocate_cases (table : SlotTable family α) (value : α) :
    (∃ index vacant, table.vacant = index :: vacant ∧
      table.allocate value =
        (.ok (table.occupy index vacant value).1, (table.occupy index vacant value).2)) ∨
    (table.vacant = [] ∧ table.slots.length + table.chunk < slotLimit ∧
      ∃ index vacant, table.grown.vacant = index :: vacant ∧
        table.allocate value =
          (.ok (table.grown.occupy index vacant value).1,
            (table.grown.occupy index vacant value).2)) ∨
    (table.vacant = [] ∧ slotLimit ≤ table.slots.length + table.chunk ∧
      table.allocate value = (.error (.indexSpaceExhausted family), table)) := by
  unfold allocate
  cases next : table.vacant with
  | cons index vacant => exact .inl ⟨index, vacant, rfl, rfl⟩
  | nil =>
    refine .inr ?_
    by_cases fits : table.slots.length + table.chunk < slotLimit
    · refine .inl ⟨rfl, fits, table.slots.length,
        List.range' (table.slots.length + 1) (table.chunk - 1), ?_, ?_⟩
      · show List.range' table.slots.length table.chunk = _
        rw [← Nat.succ_pred_eq_of_pos table.chunk_pos]
        rfl
      · simp only [if_pos fits]
        rfl
    · exact .inr ⟨rfl, Nat.le_of_not_lt fits, if_neg fits⟩

/-- Storing a value, in a table that grows for it if it has to. -/
theorem evolves_allocate (table : SlotTable family α) (value : α) :
    Evolves table (table.allocate value).2 := by
  rcases table.allocate_cases value with ⟨index, vacant, next, answer⟩ |
    ⟨_, fits, index, vacant, next, answer⟩ | ⟨_, _, answer⟩
  · rw [answer]
    exact evolves_occupy next value
  · rw [answer]
    exact (evolves_grown fits).trans (evolves_occupy next value)
  · rw [answer]
    exact .refl table

/-- Vacating an occupied slot empties it, and makes it ready for reuse unless its generation is
the last one. -/
theorem vacate_eq {table : SlotTable family α} {index : Nat} {slot : Slot α}
    (stored : table.slots[index]? = some slot) :
    table.vacate index =
      { table with
        slots := table.slots.set index slot.vacated
        vacant :=
          if slot.generation = 0xFFFFFFFF then table.vacant else index :: table.vacant } := by
  simp only [vacate, stored]

/-- Taking the value out of an occupied slot. -/
theorem evolves_vacate {table : SlotTable family α} {index : Nat} {generation : UInt32}
    {value : α} (occupied : table.slots[index]? = some ⟨generation, some value⟩) :
    Evolves table (table.vacate index) := by
  have inside := (List.getElem?_eq_some_iff.mp occupied).1
  have ready : ∀ other, other ∈ (table.vacate index).vacant →
      other ∈ table.vacant ∨ other = index ∧ generation ≠ 0xFFFFFFFF := by
    intro other member
    rw [vacate_eq occupied] at member
    dsimp only at member
    split at member
    · exact .inl member
    · rename_i notLast
      exact (List.mem_cons.mp member).symm.imp_right fun same => ⟨same, notLast⟩
  constructor
  · rintro ⟨distinct, empty, bounded⟩
    have notReady : index ∉ table.vacant := by
      intro member
      obtain ⟨_, stored⟩ := empty index member
      cases occupied.symm.trans stored
    refine ⟨?_, fun other member => ?_, ?_⟩
    · rw [vacate_eq occupied]
      dsimp only
      split
      · exact distinct
      · exact List.nodup_cons.mpr ⟨notReady, distinct⟩
    · rw [vacate_eq occupied]
      rcases ready other member with before | ⟨rfl, notLast⟩
      · have apart : index ≠ other := fun same => notReady (same ▸ before)
        obtain ⟨lastGeneration, stored⟩ := empty other before
        exact ⟨lastGeneration, (List.getElem?_set_ne apart).trans stored⟩
      · refine ⟨generation + 1, (List.getElem?_set_self inside).trans ?_⟩
        rw [Slot.vacated, if_neg notLast]
    · rw [vacate_eq occupied, List.length_set]
      exact bounded
  · rintro handle ⟨slot, stored, dead⟩
    by_cases same : index = handle.index.toNat
    · subst same
      cases occupied.symm.trans stored
      have later : handle.generation < generation := by
        rcases dead with later | ⟨empty, _⟩
        · exact later
        · cases empty
      have grows := Slot.generation_le_vacated (⟨generation, some value⟩ : Slot α)
      refine ⟨Slot.vacated ⟨generation, some value⟩, ?_,
        .inl (UInt32.lt_of_lt_of_le later grows)⟩
      rw [vacate_eq occupied]
      exact List.getElem?_set_self inside
    · refine ⟨slot, ?_, dead.imp_right fun ⟨empty, notReady⟩ => ⟨empty, fun member => ?_⟩⟩
      · rw [vacate_eq occupied]
        exact (List.getElem?_set_ne same).trans stored
      · rcases ready _ member with before | ⟨sameIndex, _⟩
        · exact notReady before
        · exact same sameIndex.symm

/-- Freeing a handle, or failing to. -/
theorem evolves_free (table : SlotTable family α) (handle : Handle) :
    Evolves table (table.free handle).2 := by
  unfold free
  split
  · exact .refl table
  · rename_i value found
    have evolves := evolves_vacate (get_eq_ok_iff.mp found)
    exact ⟨fun sound => ⟨(evolves.sound sound).distinct, (evolves.sound sound).empty,
      (evolves.sound sound).bounded⟩, evolves.dead⟩

/-- Only a handle that resolves is freed. -/
theorem get_of_free {table : SlotTable family α} {handle : Handle} {value : α}
    (freed : (table.free handle).1 = .ok value) : table.get handle = .ok value := by
  unfold free at freed
  split at freed
  · cases freed
  · rename_i found
    cases freed
    exact found

/-- A handle that was freed is dead. Where its slot has no later generation the slot is not ready
for reuse, because it was occupied. -/
theorem Sound.dead_of_free {table : SlotTable family α} (sound : table.Sound) {handle : Handle}
    {value : α} (freed : (table.free handle).1 = .ok value) :
    (table.free handle).2.Dead handle := by
  unfold free at freed ⊢
  split at freed
  · cases freed
  · rename_i held found
    have occupied := get_eq_ok_iff.mp found
    have inside := (List.getElem?_eq_some_iff.mp occupied).1
    refine ⟨Slot.vacated ⟨handle.generation, some held⟩, ?_, ?_⟩
    · rw [vacate_eq occupied]
      exact List.getElem?_set_self inside
    · rw [vacate_eq occupied]
      by_cases last : handle.generation = 0xFFFFFFFF
      · refine .inr ⟨Slot.value_vacated _, fun member => ?_⟩
        rw [if_pos last] at member
        obtain ⟨_, stored⟩ := sound.empty _ member
        cases occupied.symm.trans stored
      · left
        rw [Slot.vacated, if_neg last]
        exact lt_add_one_of_ne_last last

end SlotTable

end CommandStream
