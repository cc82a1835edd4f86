import CommandStream.Proofs.TableLedger
/-!
# Tables as maps with keys that are never used again

Every answer of a table that follows its ledger is one that the ledger gives. A new table follows
the ledger without handles, and an operation keeps what it does with the table and what it does with
the ledger together, so a table that was only used through its operations is, seen from outside, a
map with keys that are never used again.

Reading a table leaves it unchanged, which is why only the operations that store, replace or free
values are steps.
-/

namespace CommandStream

namespace SlotTable

variable {family : ResourceFamily} {α : Type} {table : SlotTable family α} {ledger : Ledger α}

/-! ## Answers -/

/-- Whatever is done with a handle fails with the error and leaves the table unchanged. -/
structure Refuses (table : SlotTable family α) (handle : Handle) (error : HandleError) : Prop where
  get : table.get handle = .error error
  contains : table.contains handle = false
  replace : ∀ value, table.replace handle value = (.error error, table)
  free : table.free handle = (.error error, table)

/-- It is enough that the handle does not resolve. -/
theorem refuses_of_get {table : SlotTable family α} {handle : Handle} {error : HandleError}
    (unresolved : table.get handle = .error error) : table.Refuses handle error := by
  refine ⟨unresolved, ?_, fun value => ?_, ?_⟩
  · rw [SlotTable.contains, unresolved]
    rfl
  · rw [SlotTable.replace, unresolved]
  · rw [SlotTable.free, unresolved]

/-- What a table answers is what its ledger says. -/
structure Refines (table : SlotTable family α) (ledger : Ledger α) : Prop where
  /-- The ledger is a map. -/
  distinct : ledger.handles.Nodup
  /-- A handle that was issued is live, or it was freed. -/
  settled : ∀ handle, handle ∈ ledger.issued ↔ handle ∈ ledger.handles ∨ handle ∈ ledger.freed
  /-- A value is stored under a handle that is new, unless every slot is in use and there is no
  room for another chunk. -/
  allocates : ∀ value,
    (∃ handle, (table.allocate value).1 = .ok handle ∧ handle ≠ .null ∧
      handle ∉ ledger.issued) ∨
    ((∀ slot ∈ table.slots, slot.value ≠ none) ∧ slotLimit ≤ table.capacity + table.chunk ∧
      table.allocate value = (.error (.indexSpaceExhausted family), table))
  /-- Under a live handle the table has the value that the ledger has. -/
  live : ∀ handle value, (handle, value) ∈ ledger.live →
    table.get handle = .ok value ∧ table.contains handle = true ∧
      (∀ other, (table.replace handle other).1 = .ok value) ∧ (table.free handle).1 = .ok value
  /-- A handle that was freed is stale, and its slot has a later generation. -/
  freed : ∀ handle ∈ ledger.freed, ∃ current, handle.generation < current ∧
    table.Refuses handle (.stale family handle.index handle.generation current)
  /-- A handle that was never issued is out of range if there is no such slot, or if its generation
  is that of the slot. -/
  outOfRange : ∀ handle, handle ∉ ledger.issued →
    (∀ slot, table.slots[handle.index.toNat]? = some slot →
      slot.generation = handle.generation) →
    table.Refuses handle (.outOfRange family handle.index table.capacity)
  /-- In any other generation it is stale. -/
  stale : ∀ handle, handle ∉ ledger.issued →
    ∀ slot, table.slots[handle.index.toNat]? = some slot →
      slot.generation ≠ handle.generation →
      table.Refuses handle (.stale family handle.index handle.generation slot.generation)
  counted : table.occupied = ledger.live.length
  /-- The entries are those of the ledger, by increasing index. -/
  listed : table.entries.Perm ledger.live
  ordered : table.entries.Pairwise fun first second => first.1.index < second.1.index
  /-- Draining answers with the values of the entries. -/
  drained : table.drain.1 = table.entries.map Prod.snd

theorem Tracks.get_eq_ok_iff (tracks : table.Tracks ledger) {handle : Handle} {value : α} :
    table.get handle = .ok value ↔ (handle, value) ∈ ledger.live :=
  SlotTable.get_eq_ok_iff.trans tracks.mem_live_iff.symm

theorem Tracks.notMem_handles (tracks : table.Tracks ledger) {handle : Handle}
    {error : HandleError} (unresolved : table.get handle = .error error) :
    handle ∉ ledger.handles := by
  intro live
  obtain ⟨value, live⟩ := Ledger.mem_handles.mp live
  cases unresolved.symm.trans (tracks.get_eq_ok_iff.mpr live)

/-- In another generation than that of its slot a handle is stale. -/
theorem get_of_ne_generation {table : SlotTable family α} {handle : Handle} {slot : Slot α}
    (stored : table.slots[handle.index.toNat]? = some slot)
    (other : slot.generation ≠ handle.generation) : table.get handle =
      .error (.stale family handle.index handle.generation slot.generation) := by
  simp only [get, stored, if_neg other]

/-- A table that follows a ledger, with as many values, refines it. -/
theorem Tracks.refines (tracks : table.Tracks ledger)
    (counted : table.occupied = ledger.live.length) : table.Refines ledger := by
  constructor
  case distinct => exact tracks.distinct
  case settled => exact tracks.settled
  case allocates =>
    intro value
    rcases table.allocate_cases value with ⟨index, vacant, next, answer⟩ |
      ⟨none, fits, index, vacant, next, answer⟩ | ⟨none, full, answer⟩
    · obtain ⟨handle, isHandle, notNull, new, _⟩ := tracks.occupy next value
      exact .inl ⟨handle, by rw [answer, isHandle], notNull, new⟩
    · obtain ⟨handle, isHandle, notNull, new, _⟩ := (tracks.grown none fits).occupy next value
      exact .inl ⟨handle, by rw [answer, isHandle], notNull, new⟩
    · refine .inr ⟨fun slot member empty => ?_, full, answer⟩
      obtain ⟨index, below, rfl⟩ := List.mem_iff_getElem.mp member
      have stored : table.slots[index]? = some ⟨table.slots[index].generation, .none⟩ := by
        rw [List.getElem?_eq_getElem below, ← empty]
      have ready := tracks.ready _ _ stored
      rw [none] at ready
      cases ready
  case live =>
    intro handle value live
    have found := tracks.get_eq_ok_iff.mpr live
    refine ⟨found, ?_, fun other => ?_, ?_⟩
    · rw [contains, found]
      rfl
    · rw [SlotTable.replace, found]
    · rw [SlotTable.free, found]
  case freed =>
    intro handle freed
    obtain ⟨slot, stored, older⟩ := tracks.lt_of_mem_freed freed
    refine ⟨slot.generation, older, refuses_of_get (get_of_ne_generation stored fun same => ?_)⟩
    exact UInt32.lt_irrefl _ (same ▸ older)
  case outOfRange =>
    intro handle notIssued sameGeneration
    refine refuses_of_get ?_
    cases stored : table.slots[handle.index.toNat]? with
    | none => simp only [get, stored, capacity]
    | some slot =>
      cases holds : slot.value with
      | none => simp only [get, stored, if_pos (sameGeneration slot stored), holds, capacity]
      | some value =>
        have isSlot : slot = ⟨handle.generation, some value⟩ := by
          rw [← sameGeneration slot stored, ← holds]
        have live := tracks.mem_live_iff.mpr (isSlot ▸ stored)
        exact absurd ((tracks.settled handle).mpr (.inl (Ledger.mem_handles.mpr ⟨value, live⟩)))
          notIssued
  case stale =>
    intro handle _ slot stored other
    exact refuses_of_get (get_of_ne_generation stored other)
  case counted => exact counted
  case listed => exact tracks.entries_perm
  case ordered => exact pairwise_entries tracks.sound
  case drained => rfl

end SlotTable

/-! ## Tables in use -/

/-- An operation that stores, replaces or frees values. -/
inductive TableAction (α : Type)
  | allocate (value : α)
  | replace (handle : Handle) (value : α)
  | free (handle : Handle)
  | drain
  deriving DecidableEq, Repr

/-- A table with its ledger. -/
structure Recorded (family : ResourceFamily) (α : Type) where
  table : SlotTable family α
  ledger : Ledger α

namespace Recorded

variable {family : ResourceFamily} {α : Type}

/-- A new table. -/
def start (chunk : Nat) (chunk_pos : 0 < chunk) : Recorded family α :=
  ⟨.empty chunk chunk_pos, .start⟩

/-- The table after an operation, whether or not it fails. All that the ledger takes from the table
is which handle is issued. -/
def perform (recorded : Recorded family α) : TableAction α → Recorded family α
  | .allocate value =>
    match recorded.table.allocate value with
    | (.ok handle, table) => ⟨table, recorded.ledger.issue handle value⟩
    | (.error _, table) => ⟨table, recorded.ledger⟩
  | .replace handle value =>
    ⟨(recorded.table.replace handle value).2, recorded.ledger.write handle value⟩
  | .free handle => ⟨(recorded.table.free handle).2, recorded.ledger.revoke handle⟩
  | .drain => ⟨recorded.table.drain.2, recorded.ledger.revokeAll⟩

/-- The table after operations in a row. -/
def after (recorded : Recorded family α) (actions : List (TableAction α)) : Recorded family α :=
  actions.foldl perform recorded

/-- The table follows its ledger and counts its values. -/
structure Kept (recorded : Recorded family α) : Prop where
  tracks : recorded.table.Tracks recorded.ledger
  counted : recorded.table.occupied = recorded.ledger.live.length

/-- Freed handles are never forgotten. -/
theorem freed_suffix_perform (recorded : Recorded family α) (action : TableAction α) :
    recorded.ledger.freed <:+ (recorded.perform action).ledger.freed := by
  cases action with
  | allocate value =>
    rw [perform]
    split <;> exact List.suffix_refl _
  | replace handle value => exact List.suffix_refl _
  | free handle =>
    rw [perform, Ledger.revoke]
    split
    · exact List.suffix_cons _ _
    · exact List.suffix_refl _
  | drain => exact List.suffix_append _ _

theorem freed_suffix_after (recorded : Recorded family α) (actions : List (TableAction α)) :
    recorded.ledger.freed <:+ (recorded.after actions).ledger.freed := by
  induction actions generalizing recorded with
  | nil => exact List.suffix_refl _
  | cons action later inductionHypothesis =>
    exact (recorded.freed_suffix_perform action).trans (inductionHypothesis _)

/-- Storing a value under a new handle. -/
theorem Kept.allocate {recorded : Recorded family α} (kept : recorded.Kept) (value : α) :
    (recorded.perform (.allocate value)).Kept := by
  obtain ⟨tracks, counted⟩ := kept
  rw [perform]
  rcases recorded.table.allocate_cases value with ⟨index, vacant, next, answer⟩ |
    ⟨none, fits, index, vacant, next, answer⟩ | ⟨_, _, answer⟩
  · obtain ⟨handle, rfl, _, _, issues⟩ := tracks.occupy next value
    rw [answer]
    exact ⟨issues, congrArg (· + 1) counted⟩
  · obtain ⟨handle, rfl, _, _, issues⟩ := (tracks.grown none fits).occupy next value
    rw [answer]
    exact ⟨issues, congrArg (· + 1) counted⟩
  · rw [answer]
    exact ⟨tracks, counted⟩

/-- Replacing a value. -/
theorem Kept.replace {recorded : Recorded family α} (kept : recorded.Kept) (handle : Handle)
    (value : α) : (recorded.perform (.replace handle value)).Kept := by
  obtain ⟨tracks, counted⟩ := kept
  have length : (recorded.ledger.write handle value).live.length =
      recorded.ledger.live.length := List.length_map _
  cases found : recorded.table.get handle with
  | ok displaced =>
    refine ⟨tracks.replace (tracks.get_eq_ok_iff.mp found) value, ?_⟩
    rw [perform, SlotTable.replace, found, length]
    exact counted
  | error error =>
    rw [perform, (SlotTable.refuses_of_get found).replace value,
      recorded.ledger.write_of_notMem (tracks.notMem_handles found) value]
    exact ⟨tracks, counted⟩

/-- Freeing a handle. -/
theorem Kept.free {recorded : Recorded family α} (kept : recorded.Kept) (handle : Handle)
    (reusable : (recorded.ledger.revoke handle).Reusable) :
    (recorded.perform (.free handle)).Kept := by
  obtain ⟨tracks, counted⟩ := kept
  cases found : recorded.table.get handle with
  | ok value =>
    have live := tracks.get_eq_ok_iff.mp found
    rw [perform, SlotTable.free, found]
    refine ⟨(tracks.vacate live reusable).of_slots rfl rfl, ?_⟩
    rw [recorded.ledger.length_revoke tracks.distinct live, counted]
  | error error =>
    have unchanged : recorded.ledger.revoke handle = recorded.ledger :=
      if_neg (tracks.notMem_handles found)
    rw [perform, (SlotTable.refuses_of_get found).free, unchanged]
    exact ⟨tracks, counted⟩

/-- Freeing all handles. -/
theorem Kept.drain {recorded : Recorded family α} (kept : recorded.Kept)
    (reusable : recorded.ledger.revokeAll.Reusable) : (recorded.perform .drain).Kept := by
  have vacated := kept.tracks.vacateAll kept.tracks.entries_perm reusable
  rw [SlotTable.map_index_entries kept.tracks.sound] at vacated
  exact ⟨vacated.of_slots rfl rfl, rfl⟩

/-- An operation keeps a table that follows its ledger, unless it frees a slot once too often. -/
theorem Kept.perform {recorded : Recorded family α} (kept : recorded.Kept)
    {action : TableAction α} (reusable : (recorded.perform action).ledger.Reusable) :
    (recorded.perform action).Kept := by
  cases action with
  | allocate value => exact kept.allocate value
  | replace handle value => exact kept.replace handle value
  | free handle => exact kept.free handle reusable
  | drain => exact kept.drain reusable

/-- So do operations in a row. -/
theorem Kept.after {recorded : Recorded family α} (kept : recorded.Kept)
    {actions : List (TableAction α)} (reusable : (recorded.after actions).ledger.Reusable) :
    (recorded.after actions).Kept := by
  induction actions generalizing recorded with
  | nil => exact kept
  | cons action later inductionHypothesis =>
    have stillReusable : (recorded.perform action).ledger.Reusable :=
      reusable.of_subperm ((recorded.perform action).freed_suffix_after later).sublist.subperm
    exact inductionHypothesis (kept.perform stillReusable) reusable

end Recorded

/-- A table is a map with keys that are never used again. Whatever is stored, replaced and freed in
a new one, as long as no slot is freed as often as there are generations, it answers as its ledger
says: live handles resolve to their present values, handles that were freed are stale from then on,
no handle resolves that was not issued, no handle is issued twice, and what fails changes
nothing. -/
theorem table_refines_ledger {family : ResourceFamily} {α : Type} (chunk : Nat)
    (chunk_pos : 0 < chunk) (actions : List (TableAction α)) :
    let recorded := (Recorded.start chunk chunk_pos : Recorded family α).after actions
    recorded.ledger.Reusable → recorded.table.Refines recorded.ledger := by
  intro recorded reusable
  have kept : recorded.Kept :=
    Recorded.Kept.after ⟨SlotTable.tracks_empty chunk chunk_pos, rfl⟩ reusable
  exact kept.tracks.refines kept.counted

/-- A slot is used three times: its value is freed, and then the table is drained. -/
theorem table_refines_ledger_reused :
    let recorded := (Recorded.start 1 (by decide) : Recorded .buffer Nat).after
      [.allocate 7, .free ⟨0, 0⟩, .free ⟨0, 0⟩, .allocate 8, .allocate 9, .replace ⟨1, 0⟩ 3, .drain,
        .allocate 5]
    recorded.ledger =
        ⟨[(⟨1, 1⟩, 5)], [⟨1, 1⟩, ⟨1, 0⟩, ⟨0, 1⟩, ⟨0, 0⟩], [⟨1, 0⟩, ⟨0, 1⟩, ⟨0, 0⟩]⟩ ∧
      recorded.ledger.Reusable ∧ recorded.table.Refines recorded.ledger := by
  intro recorded
  have reached : recorded.ledger =
      ⟨[(⟨1, 1⟩, 5)], [⟨1, 1⟩, ⟨1, 0⟩, ⟨0, 1⟩, ⟨0, 0⟩], [⟨1, 0⟩, ⟨0, 1⟩, ⟨0, 0⟩]⟩ := by
    decide +kernel
  have reusable : recorded.ledger.Reusable := by
    intro index
    rw [reached]
    exact Nat.lt_of_le_of_lt List.countP_le_length (by decide)
  exact ⟨reached, reusable, table_refines_ledger 1 (by decide) _ reusable⟩

end CommandStream
