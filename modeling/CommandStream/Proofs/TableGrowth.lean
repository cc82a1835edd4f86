import CommandStream.Proofs.TableRefinement
import Mathlib.Algebra.Order.Floor.Div
/-!
# How far a table grows

A slot of a table that follows its ledger is either occupied or ready for reuse
(`SlotTable.Tracks.partition`), so a table without slots that are ready is full, and only then does
it grow. The number of slots is therefore decided by the largest number of values that were held at
once, rounded up to whole chunks (`SlotTable.Sized`): what is freed is used again before anything
new is created.
-/

namespace CommandStream

namespace SlotTable

variable {family : ResourceFamily} {α : Type} {table : SlotTable family α} {ledger : Ledger α}

/-! ## Occupied and vacant slots -/

theorem mem_occupiedIndices {table : SlotTable family α} {index : Nat} :
    index ∈ table.occupiedIndices ↔
      ∃ slot, table.slots[index]? = some slot ∧ slot.value ≠ none := by
  rw [occupiedIndices, List.mem_filterMap]
  constructor
  · rintro ⟨⟨slot, place⟩, member, listed⟩
    obtain ⟨value, holds, rfl⟩ := Option.map_eq_some_iff.mp listed
    exact ⟨slot, List.mem_zipIdx_iff_getElem?.mp member, holds ▸ Option.some_ne_none value⟩
  · rintro ⟨slot, stored, holds⟩
    obtain ⟨value, isValue⟩ := Option.ne_none_iff_exists'.mp holds
    exact ⟨(slot, index), List.mem_zipIdx_iff_getElem?.mpr stored,
      congrArg (Option.map fun _ => index) isValue⟩

/-- As many indices are listed as there are slots with values. -/
theorem length_occupiedIndices (table : SlotTable family α) :
    table.occupiedIndices.length = table.slots.countP fun slot => slot.value.isSome := by
  have first : table.slots.zipIdx.map Prod.fst = table.slots := List.zipIdx_map_fst 0 _
  rw [occupiedIndices, List.length_filterMap_eq_countP]
  conv_rhs => rw [← first, List.countP_map]
  exact List.countP_congr fun entry _ => by simp

theorem nodup_occupiedIndices (sound : table.Sound) : table.occupiedIndices.Nodup := by
  rw [← map_index_entries sound]
  refine List.pairwise_map.mpr ((pairwise_entries sound).imp fun before => ?_)
  exact Nat.ne_of_lt (UInt32.lt_iff_toNat_lt.mp before)

/-- The slots that are ready for reuse are those that hold nothing. -/
theorem Tracks.mem_vacant_iff (tracks : table.Tracks ledger) {index : Nat} :
    index ∈ table.vacant ↔ ∃ slot, table.slots[index]? = some slot ∧ slot.value = none := by
  constructor
  · intro member
    obtain ⟨generation, stored⟩ := tracks.sound.empty index member
    exact ⟨_, stored, rfl⟩
  · rintro ⟨⟨generation, value⟩, stored, rfl⟩
    exact tracks.ready index generation stored

/-- Every slot is occupied or ready for reuse, and none is both or listed twice. -/
theorem Tracks.partition (tracks : table.Tracks ledger) :
    (table.occupiedIndices ++ table.vacant).Perm (List.range table.capacity) := by
  have apart : ∀ occupied ∈ table.occupiedIndices, ∀ vacant ∈ table.vacant,
      occupied ≠ vacant := by
    rintro index isOccupied _ isVacant rfl
    obtain ⟨slot, stored, holds⟩ := mem_occupiedIndices.mp isOccupied
    obtain ⟨other, alsoStored, empty⟩ := tracks.mem_vacant_iff.mp isVacant
    cases stored.symm.trans alsoStored
    exact holds empty
  have once : (table.occupiedIndices ++ table.vacant).Nodup :=
    List.nodup_append.mpr ⟨nodup_occupiedIndices tracks.sound, tracks.sound.distinct, apart⟩
  refine (List.perm_ext_iff_of_nodup once List.nodup_range).mpr fun index => ?_
  rw [List.mem_append, mem_occupiedIndices, tracks.mem_vacant_iff, List.mem_range, capacity]
  constructor
  · rintro (⟨slot, stored, -⟩ | ⟨slot, stored, -⟩)
    all_goals exact (List.getElem?_eq_some_iff.mp stored).1
  · intro below
    have stored := List.getElem?_eq_getElem below
    by_cases empty : table.slots[index].value = none
    · exact .inr ⟨_, stored, empty⟩
    · exact .inl ⟨_, stored, empty⟩

/-- As many slots are occupied as there are live handles. -/
theorem Tracks.length_occupiedIndices (tracks : table.Tracks ledger) :
    table.occupiedIndices.length = ledger.live.length := by
  rw [← map_index_entries tracks.sound, List.length_map]
  exact tracks.entries_perm.length_eq

theorem Tracks.length_add_length (tracks : table.Tracks ledger) :
    ledger.live.length + table.vacant.length = table.capacity := by
  have whole := tracks.partition.length_eq
  rw [List.length_append, tracks.length_occupiedIndices, List.length_range] at whole
  exact whole

/-- A table without slots that are ready is full. -/
theorem Tracks.full (tracks : table.Tracks ledger) (nothingReady : table.vacant = []) :
    ∀ slot ∈ table.slots, slot.value ≠ none := by
  intro slot member empty
  obtain ⟨index, stored⟩ := List.mem_iff_getElem?.mp member
  have ready := tracks.mem_vacant_iff.mpr ⟨slot, stored, empty⟩
  rw [nothingReady] at ready
  cases ready

/-! ## The number of slots -/

/-- Two tables have as many slots and grow by as many. -/
structure SameSize (before after : SlotTable family α) : Prop where
  capacity : after.capacity = before.capacity
  chunk : after.chunk = before.chunk

theorem SameSize.refl (table : SlotTable family α) : SameSize table table := ⟨rfl, rfl⟩

theorem SameSize.trans {first second third : SlotTable family α} (front : SameSize first second)
    (back : SameSize second third) : SameSize first third :=
  ⟨back.capacity.trans front.capacity, back.chunk.trans front.chunk⟩

theorem capacity_grown (table : SlotTable family α) :
    table.grown.capacity = table.capacity + table.chunk := by
  rw [capacity, grown, List.length_append, List.length_replicate]
  rfl

theorem sameSize_occupy (table : SlotTable family α) (index : Nat) (vacant : List Nat)
    (value : α) : SameSize table (table.occupy index vacant value).2 :=
  ⟨List.length_set, rfl⟩

theorem sameSize_vacate (table : SlotTable family α) (index : Nat) :
    SameSize table (table.vacate index) := by
  unfold vacate
  split
  · exact .refl table
  · exact ⟨List.length_set, rfl⟩

theorem sameSize_replace (table : SlotTable family α) (handle : Handle) (value : α) :
    SameSize table (table.replace handle value).2 := by
  unfold replace
  split
  · exact .refl table
  · exact ⟨List.length_set, rfl⟩

theorem sameSize_free (table : SlotTable family α) (handle : Handle) :
    SameSize table (table.free handle).2 := by
  unfold free
  split
  · exact .refl table
  · exact ⟨(table.sameSize_vacate _).capacity, (table.sameSize_vacate _).chunk⟩

theorem sameSize_foldl_vacate (table : SlotTable family α) (indices : List Nat) :
    SameSize table (indices.foldl vacate table) := by
  induction indices generalizing table with
  | nil => exact .refl table
  | cons index later inductionHypothesis =>
    exact (table.sameSize_vacate index).trans (inductionHypothesis _)

theorem sameSize_drain (table : SlotTable family α) : SameSize table table.drain.2 :=
  ⟨(table.sameSize_foldl_vacate _).capacity, (table.sameSize_foldl_vacate _).chunk⟩

/-- A table has as many slots as whole chunks are needed for a number of values. -/
structure Sized (table : SlotTable family α) (peak : Nat) : Prop where
  whole : table.chunk ∣ table.capacity
  enough : peak ≤ table.capacity
  needed : table.capacity < peak + table.chunk

/-- The number of slots is rounded up to whole chunks. -/
theorem Sized.capacity_eq {peak : Nat} (sized : table.Sized peak) :
    table.capacity = table.chunk * (peak ⌈/⌉ table.chunk) := by
  obtain ⟨chunks, isCapacity⟩ := sized.whole
  have enough := sized.enough
  have needed := sized.needed
  rw [isCapacity] at enough needed
  have rounded : peak ⌈/⌉ table.chunk = chunks := by
    refine Nat.le_antisymm ((ceilDiv_le_iff_le_mul table.chunk_pos).mpr enough) ?_
    -- One chunk less would have no room for the peak.
    have room := (ceilDiv_le_iff_le_mul table.chunk_pos).mp
      (Nat.le_refl (peak ⌈/⌉ table.chunk))
    refine Nat.le_of_lt_succ (Nat.lt_of_mul_lt_mul_left (a := table.chunk) ?_)
    rw [Nat.mul_succ]
    omega
  rw [rounded]
  exact isCapacity

/-- It may then hold more values than that, as long as there are slots for them. -/
theorem Sized.of_sameSize {after : SlotTable family α} {peak higher : Nat}
    (sized : table.Sized peak) (size : table.SameSize after) (more : peak ≤ higher)
    (enough : higher ≤ table.capacity) : after.Sized higher := by
  have needed := sized.needed
  refine ⟨?_, ?_, ?_⟩
  · rw [size.chunk, size.capacity]
    exact sized.whole
  · rw [size.capacity]
    exact enough
  · rw [size.chunk, size.capacity]
    omega

/-- A full table needs another chunk for one more value. -/
theorem Sized.grown {peak : Nat} (sized : table.Sized peak) :
    table.grown.Sized (table.capacity + 1) := by
  have larger := table.capacity_grown
  have chunk : table.grown.chunk = table.chunk := rfl
  have positive := table.chunk_pos
  refine ⟨?_, ?_, ?_⟩
  · rw [larger, chunk]
    exact Nat.dvd_add sized.whole (Nat.dvd_refl _)
  · omega
  · omega

end SlotTable

namespace Ledger

variable {α : Type}

/-- Freeing a handle leaves no more values than there were. -/
theorem length_revoke_le (ledger : Ledger α) (handle : Handle) :
    (ledger.revoke handle).live.length ≤ ledger.live.length := by
  unfold revoke
  split
  · exact List.length_filter_le _ _
  · exact Nat.le_refl _

end Ledger

namespace Recorded

variable {family : ResourceFamily} {α : Type} {recorded : Recorded family α}

/-- What an operation does to the number of slots: it holds no more values than before and leaves
it, it stores a value in a slot that is ready and leaves it, or it stores a value where none is
ready and adds a chunk. -/
inductive Resizes (recorded : Recorded family α) (action : TableAction α) : Prop
  | kept (size : recorded.table.SameSize (recorded.perform action).table)
      (live : (recorded.perform action).ledger.live.length ≤ recorded.ledger.live.length)
  | reused (ready : recorded.table.vacant ≠ [])
      (size : recorded.table.SameSize (recorded.perform action).table)
      (live : (recorded.perform action).ledger.live.length = recorded.ledger.live.length + 1)
  | grown (value : α) (stores : action = .allocate value) (full : recorded.table.vacant = [])
      (size : recorded.table.grown.SameSize (recorded.perform action).table)
      (live : (recorded.perform action).ledger.live.length = recorded.ledger.live.length + 1)

theorem resizes (recorded : Recorded family α) (action : TableAction α) :
    recorded.Resizes action := by
  cases action with
  | allocate value =>
    rcases recorded.table.allocate_cases value with ⟨index, vacant, next, answer⟩ |
      ⟨nothingReady, _, index, vacant, _, answer⟩ | ⟨_, _, answer⟩
    · refine .reused (next ▸ List.cons_ne_nil _ _) ?_ ?_
      · simp only [perform, answer]
        exact recorded.table.sameSize_occupy _ _ _
      · simp only [perform, answer]
        rfl
    · refine .grown value rfl nothingReady ?_ ?_
      · simp only [perform, answer]
        exact recorded.table.grown.sameSize_occupy _ _ _
      · simp only [perform, answer]
        rfl
    · refine .kept ?_ ?_
      · simp only [perform, answer]
        exact .refl _
      · simp only [perform, answer]
        exact Nat.le_refl _
  | replace handle value =>
    exact .kept (recorded.table.sameSize_replace handle value) (Nat.le_of_eq (List.length_map _))
  | free handle =>
    exact .kept (recorded.table.sameSize_free handle) (recorded.ledger.length_revoke_le handle)
  | drain => exact .kept recorded.table.sameSize_drain (Nat.zero_le _)

/-- The largest number of values that are held at once while operations are done, before the first
and behind the last included. -/
structure Peak (recorded : Recorded family α) (actions : List (TableAction α)) (peak : Nat) :
    Prop where
  bounds : ∀ front, front <+: actions → (recorded.after front).ledger.live.length ≤ peak
  attained : ∃ front, front <+: actions ∧ (recorded.after front).ledger.live.length = peak

theorem peak_nil (recorded : Recorded family α) :
    recorded.Peak [] recorded.ledger.live.length := by
  refine ⟨fun front isPrefix => ?_, [], List.prefix_refl _, rfl⟩
  rw [List.prefix_nil.mp isPrefix]
  exact Nat.le_refl _

theorem after_append_singleton (recorded : Recorded family α) (actions : List (TableAction α))
    (action : TableAction α) :
    recorded.after (actions ++ [action]) = (recorded.after actions).perform action :=
  List.foldl_append

/-- One operation more holds a new peak or does not. -/
theorem Peak.append_singleton {actions : List (TableAction α)} {peak : Nat}
    (isPeak : recorded.Peak actions peak) (action : TableAction α) :
    recorded.Peak (actions ++ [action])
      (max peak ((recorded.after actions).perform action).ledger.live.length) := by
  have last := recorded.after_append_singleton actions action
  refine ⟨fun front isPrefix => ?_, ?_⟩
  · obtain rfl | before := List.prefix_concat_iff.mp isPrefix
    · rw [last]
      exact Nat.le_max_right _ _
    · exact Nat.le_trans (isPeak.bounds front before) (Nat.le_max_left _ _)
  · obtain ⟨front, before, attained⟩ := isPeak.attained
    rcases Nat.le_total ((recorded.after actions).perform action).ledger.live.length peak with
      lower | higher
    · exact ⟨front, before.trans (List.prefix_append _ _),
        attained.trans (Nat.max_eq_left lower).symm⟩
    · exact ⟨_, List.prefix_refl _, (congrArg (·.ledger.live.length) last).trans
        (Nat.max_eq_right higher).symm⟩

theorem Resizes.chunk {action : TableAction α} (resizes : recorded.Resizes action) :
    (recorded.perform action).table.chunk = recorded.table.chunk := by
  cases resizes with
  | kept size | reused _ size | grown _ _ _ size => exact size.chunk

/-- A table that grows was full, and grows by one chunk for a value that is to be stored. -/
theorem Resizes.grows {action : TableAction α} (resizes : recorded.Resizes action)
    (kept : recorded.Kept) :
    (recorded.perform action).table.capacity = recorded.table.capacity ∨
      (∃ value, action = .allocate value) ∧
      (∀ slot ∈ recorded.table.slots, slot.value ≠ none) ∧
      (recorded.perform action).table.capacity =
        recorded.table.capacity + recorded.table.chunk := by
  cases resizes with
  | kept size | reused _ size => exact .inl size.capacity
  | grown value stores full size =>
    exact .inr ⟨⟨value, stores⟩, kept.tracks.full full,
      size.capacity.trans recorded.table.capacity_grown⟩

/-- An operation on a table that follows its ledger keeps it sized by the most values that it
held. -/
theorem Resizes.sized {action : TableAction α} (resizes : recorded.Resizes action)
    (kept : recorded.Kept) {peak : Nat} (held : recorded.ledger.live.length ≤ peak)
    (sized : recorded.table.Sized peak) :
    (recorded.perform action).table.Sized
      (max peak (recorded.perform action).ledger.live.length) := by
  have all := kept.tracks.length_add_length
  have enough := sized.enough
  cases resizes with
  | kept size live =>
    rw [Nat.max_eq_left (Nat.le_trans live held)]
    exact sized.of_sameSize size (Nat.le_refl _) enough
  | reused ready size live =>
    have left := List.length_pos_iff.mpr ready
    exact sized.of_sameSize size (Nat.le_max_left _ _) (by omega)
  | grown _ _ full size live =>
    -- All slots are occupied, so the peak is the number of slots, and one value comes on top.
    have higher : max peak (recorded.perform action).ledger.live.length =
        recorded.table.capacity + 1 := by
      rw [full, List.length_nil] at all
      omega
    rw [higher]
    refine sized.grown.of_sameSize size (Nat.le_refl _) ?_
    rw [SlotTable.capacity_grown]
    exact Nat.add_le_add_left recorded.table.chunk_pos _

/-! ## Operations in a row -/

theorem chunk_after (recorded : Recorded family α) (actions : List (TableAction α)) :
    (recorded.after actions).table.chunk = recorded.table.chunk := by
  induction actions generalizing recorded with
  | nil => rfl
  | cons action later inductionHypothesis =>
    exact (inductionHypothesis _).trans (recorded.resizes action).chunk

/-- What was not freed too often in the end was not before. -/
theorem reusable_front {front back : List (TableAction α)}
    (reusable : (recorded.after (front ++ back)).ledger.Reusable) :
    (recorded.after front).ledger.Reusable := by
  rw [after, List.foldl_append] at reusable
  exact reusable.of_subperm ((recorded.after front).freed_suffix_after back).sublist.subperm

/-- A table that is sized by the values that it holds is sized by its peak whatever is done. -/
theorem Kept.exists_peak (kept : recorded.Kept)
    (sized : recorded.table.Sized recorded.ledger.live.length) {actions : List (TableAction α)}
    (reusable : (recorded.after actions).ledger.Reusable) :
    ∃ peak, recorded.Peak actions peak ∧ (recorded.after actions).table.Sized peak := by
  -- The induction is on the last operation, since a peak is of all that was done up to then.
  induction actions using List.reverseRecOn with
  | nil => exact ⟨_, recorded.peak_nil, sized⟩
  | append_singleton front action inductionHypothesis =>
    have stillReusable := reusable_front reusable
    obtain ⟨peak, isPeak, sized⟩ := inductionHypothesis stillReusable
    have held := isPeak.bounds front (List.prefix_refl front)
    refine ⟨_, isPeak.append_singleton action, ?_⟩
    rw [after_append_singleton]
    exact ((recorded.after front).resizes action).sized (kept.after stillReusable) held sized

theorem kept_start (chunk : Nat) (chunk_pos : 0 < chunk) :
    (start chunk chunk_pos : Recorded family α).Kept :=
  ⟨SlotTable.tracks_empty chunk chunk_pos, rfl⟩

end Recorded

/-- Whatever is stored, replaced and freed in a new table, as long as no slot is freed as often as
there are generations: the slots that are ready for reuse are those that hold nothing, each listed
once, and the others are counted. There are as many slots as the largest number of values that were
held at once, rounded up to whole chunks. An operation leaves the number of slots as it is unless it
stores a value while all slots are occupied, which adds one chunk. -/
theorem table_grows_to_peak {family : ResourceFamily} {α : Type} (chunk : Nat)
    (chunk_pos : 0 < chunk) (actions : List (TableAction α)) :
    let start : Recorded family α := .start chunk chunk_pos
    let recorded := start.after actions
    recorded.ledger.Reusable →
      recorded.table.vacant.Nodup ∧
      (∀ index, index ∈ recorded.table.vacant ↔
        ∃ slot, recorded.table.slots[index]? = some slot ∧ slot.value = none) ∧
      recorded.table.occupied = recorded.table.slots.countP (fun slot => slot.value.isSome) ∧
      (recorded.table.occupiedIndices ++ recorded.table.vacant).Perm
        (List.range recorded.table.capacity) ∧
      (∃ peak, start.Peak actions peak ∧ recorded.table.capacity = chunk * (peak ⌈/⌉ chunk)) ∧
      ∀ front action back, actions = front ++ action :: back →
        let before := start.after front
        let next := before.perform action
        next.table.capacity = before.table.capacity ∨
          (∃ value, action = .allocate value) ∧
          (∀ slot ∈ before.table.slots, slot.value ≠ none) ∧
          next.table.capacity = before.table.capacity + chunk := by
  intro start recorded reusable
  have new : start.Kept := Recorded.kept_start chunk chunk_pos
  have kept : recorded.Kept := new.after reusable
  have unused : start.table.Sized start.ledger.live.length :=
    ⟨Nat.dvd_zero chunk, Nat.le_refl 0, chunk_pos.trans_eq (Nat.zero_add chunk).symm⟩
  refine ⟨kept.tracks.sound.distinct, fun _ => kept.tracks.mem_vacant_iff, ?_,
    kept.tracks.partition, ?_, ?_⟩
  · rw [← SlotTable.length_occupiedIndices, kept.tracks.length_occupiedIndices]
    exact kept.counted
  · obtain ⟨peak, isPeak, sized⟩ := new.exists_peak unused reusable
    have capacity := sized.capacity_eq
    rw [Recorded.chunk_after] at capacity
    exact ⟨peak, isPeak, capacity⟩
  · rintro front action back rfl
    have keptBefore : (start.after front).Kept := new.after (Recorded.reusable_front reusable)
    have grows := ((start.after front).resizes action).grows keptBefore
    rw [Recorded.chunk_after] at grows
    exact grows

/-- Four values need two chunks of three slots. The table keeps them when it is drained, and uses
them again from the highest. -/
theorem table_grows_to_peak_drained :
    let start : Recorded .buffer Nat := .start 3 (by decide)
    let actions : List (TableAction Nat) := [.allocate 1, .allocate 2, .allocate 3, .allocate 4,
      .free ⟨2, 0⟩, .free ⟨2, 0⟩, .drain, .allocate 5, .allocate 6]
    let recorded := start.after actions
    recorded.table.vacant = [0, 2, 4, 5] ∧ recorded.table.occupiedIndices = [1, 3] ∧
      recorded.table.occupied = 2 ∧ recorded.ledger.Reusable ∧
      ∃ peak, start.Peak actions peak ∧ 6 = 3 * (peak ⌈/⌉ (3 : Nat)) := by
  intro start actions recorded
  have reusable : recorded.ledger.Reusable := by
    have freed : recorded.ledger.freed = [⟨3, 0⟩, ⟨1, 0⟩, ⟨0, 0⟩, ⟨2, 0⟩] := by decide +kernel
    intro index
    rw [Ledger.frees, freed]
    exact Nat.lt_of_le_of_lt List.countP_le_length (by decide)
  obtain ⟨_, _, _, _, sized, _⟩ := table_grows_to_peak 3 (by decide) actions reusable
  have capacity : recorded.table.capacity = 6 := by decide +kernel
  refine ⟨by decide +kernel, by decide +kernel, by decide +kernel, reusable, ?_⟩
  rw [← capacity]
  exact sized

end CommandStream
