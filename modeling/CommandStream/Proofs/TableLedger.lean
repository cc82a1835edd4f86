import CommandStream.Proofs.TableHistory
import Mathlib.Data.List.Nodup
import Mathlib.Data.List.Perm.Subperm
/-!
# Tables and their ledgers

A ledger is what a table looks like from outside: a finite map from live handles to their values,
with every handle that was ever issued or freed. It says nothing of slots, generations or reuse. A
table that follows its ledger has the value of every live handle in the slot of the handle, and the
generation of a slot counts how often it was freed, which is why no slot may be freed as often as
there are generations.
-/

namespace CommandStream

/-! ## Ledgers -/

/-- The values that are stored, by handle, and the handles that were issued and freed so far. -/
structure Ledger (α : Type) where
  live : List (Handle × α)
  issued : List Handle
  freed : List Handle
  deriving DecidableEq, Repr

namespace Ledger

variable {α : Type}

/-- The ledger of a table in which nothing was stored yet. -/
def start : Ledger α := ⟨[], [], []⟩

/-- The handles under which values are stored. -/
def handles (ledger : Ledger α) : List Handle := ledger.live.map Prod.fst

/-- A value is stored under a handle. -/
def issue (ledger : Ledger α) (handle : Handle) (value : α) : Ledger α :=
  { ledger with live := (handle, value) :: ledger.live, issued := handle :: ledger.issued }

/-- The value of a live handle is replaced; that of any other handle is not there. -/
def write (ledger : Ledger α) (handle : Handle) (value : α) : Ledger α :=
  { ledger with
    live := ledger.live.map fun entry => if entry.1 = handle then (handle, value) else entry }

/-- A live handle is freed; freeing any other changes nothing. -/
def revoke (ledger : Ledger α) (handle : Handle) : Ledger α :=
  if handle ∈ ledger.handles then
    { ledger with
      live := ledger.live.filter fun entry => entry.1 ≠ handle
      freed := handle :: ledger.freed }
  else ledger

/-- All live handles are freed. -/
def revokeAll (ledger : Ledger α) : Ledger α :=
  { ledger with live := [], freed := ledger.handles ++ ledger.freed }

/-- How often a value was freed in the slot of an index. -/
def frees (ledger : Ledger α) (index : UInt32) : Nat :=
  ledger.freed.countP fun handle => handle.index = index

/-- No slot was freed as often as there are generations. -/
def Reusable (ledger : Ledger α) : Prop := ∀ index, ledger.frees index < 0x100000000

/-- A ledger of which less was freed is reusable as well. -/
theorem Reusable.of_subperm {first second : Ledger α} (reusable : second.Reusable)
    (part : first.freed.Subperm second.freed) : first.Reusable :=
  fun index => Nat.lt_of_le_of_lt (part.countP_le _) (reusable index)

/-- Two ledgers say the same of the slot of an index. -/
structure Agrees (first second : Ledger α) (index : UInt32) : Prop where
  live : ∀ generation value,
    (⟨index, generation⟩, value) ∈ second.live ↔ (⟨index, generation⟩, value) ∈ first.live
  freed : ∀ generation, ⟨index, generation⟩ ∈ second.freed ↔ ⟨index, generation⟩ ∈ first.freed
  frees : second.frees index = first.frees index

theorem mem_handles {ledger : Ledger α} {handle : Handle} :
    handle ∈ ledger.handles ↔ ∃ value, (handle, value) ∈ ledger.live := by
  simp [handles]

theorem revoke_of_mem {ledger : Ledger α} {handle : Handle} (live : handle ∈ ledger.handles) :
    ledger.revoke handle = { ledger with
      live := ledger.live.filter fun entry => entry.1 ≠ handle
      freed := handle :: ledger.freed } :=
  if_pos live

theorem frees_revoke {ledger : Ledger α} {handle : Handle} (live : handle ∈ ledger.handles) :
    (ledger.revoke handle).frees handle.index = ledger.frees handle.index + 1 := by
  rw [revoke_of_mem live]
  exact List.countP_cons_of_pos (decide_eq_true rfl)

/-- Storing a value concerns the slot of its handle only. -/
theorem agrees_issue (ledger : Ledger α) {handle : Handle} (value : α) {index : UInt32}
    (other : index ≠ handle.index) : ledger.Agrees (ledger.issue handle value) index := by
  refine ⟨fun generation held => ?_, fun generation => .rfl, rfl⟩
  have apart : (⟨index, generation⟩ : Handle) ≠ handle := fun same => other (same ▸ rfl)
  simp [issue, apart]

/-- So does replacing one. -/
theorem agrees_write (ledger : Ledger α) {handle : Handle} (value : α) {index : UInt32}
    (other : index ≠ handle.index) : ledger.Agrees (ledger.write handle value) index := by
  refine ⟨fun generation held => ?_, fun generation => .rfl, rfl⟩
  have apart : (⟨index, generation⟩ : Handle) ≠ handle := fun same => other (same ▸ rfl)
  constructor
  · intro member
    obtain ⟨entry, old, changed⟩ := List.mem_map.mp member
    split at changed
    · exact absurd (congrArg Prod.fst changed).symm apart
    · exact changed ▸ old
  · intro old
    exact List.mem_map.mpr ⟨_, old, if_neg apart⟩

/-- So does freeing one. -/
theorem agrees_revoke (ledger : Ledger α) {handle : Handle} {index : UInt32}
    (other : index ≠ handle.index) : ledger.Agrees (ledger.revoke handle) index := by
  have apart : ∀ generation, (⟨index, generation⟩ : Handle) ≠ handle :=
    fun generation same => other (same ▸ rfl)
  rw [revoke]
  split
  · refine ⟨fun generation held => ?_, fun generation => ?_, ?_⟩
    · simp [apart]
    · simp [apart]
    · rw [frees, List.countP_cons_of_neg (by simpa using other.symm)]
      rfl
  · exact ⟨fun _ _ => .rfl, fun _ => .rfl, rfl⟩

/-- Only the value of a live handle is replaced. -/
theorem write_of_notMem (ledger : Ledger α) {handle : Handle} (notLive : handle ∉ ledger.handles)
    (value : α) : ledger.write handle value = ledger := by
  have same : (ledger.live.map fun entry => if entry.1 = handle then (handle, value) else entry) =
      ledger.live := by
    refine (List.map_congr_left fun entry member => ?_).trans (List.map_id _)
    have other : entry.1 ≠ handle := fun same => notLive (same ▸ List.mem_map_of_mem member)
    exact if_neg other
  rw [write, same]

/-- Freeing a live handle leaves the other values. -/
theorem perm_revoke (ledger : Ledger α) (distinct : ledger.handles.Nodup) {handle : Handle}
    {value : α} {others : List (Handle × α)} (all : ((handle, value) :: others).Perm ledger.live) :
    others.Perm (ledger.revoke handle).live := by
  have live : handle ∈ ledger.handles :=
    mem_handles.mpr ⟨value, all.mem_iff.mp List.mem_cons_self⟩
  have notOther : handle ∉ others.map Prod.fst :=
    (List.nodup_cons.mp ((all.map Prod.fst).nodup_iff.mpr distinct)).1
  rw [revoke_of_mem live]
  refine List.Perm.trans (.of_eq ?_) (all.filter _)
  rw [List.filter_cons_of_neg (by simp), List.filter_eq_self.mpr]
  intro other member
  exact decide_eq_true fun same => notOther (same ▸ List.mem_map_of_mem member)

/-- Freeing a live handle leaves one value less. -/
theorem length_revoke (ledger : Ledger α) (distinct : ledger.handles.Nodup) {handle : Handle}
    {value : α} (live : (handle, value) ∈ ledger.live) :
    (ledger.revoke handle).live.length = ledger.live.length - 1 := by
  obtain ⟨front, back, isLive⟩ := List.append_of_mem live
  have all : ((handle, value) :: (front ++ back)).Perm ledger.live := by
    rw [isLive]
    exact List.perm_middle.symm
  rw [← (ledger.perm_revoke distinct all).length_eq, ← all.length_eq]
  rfl

end Ledger

namespace SlotTable

variable {family : ResourceFamily} {α : Type}

/-! ## Following a ledger -/

/-- The slot of an index is as the ledger says: it holds the value of the live handle with its
generation, if there is one, and its generation counts how often it was freed. -/
structure Follows (ledger : Ledger α) (index : UInt32) (slot : Slot α) : Prop where
  live : ∀ generation value,
    (⟨index, generation⟩, value) ∈ ledger.live ↔ slot = ⟨generation, some value⟩
  freed : ∀ generation, ⟨index, generation⟩ ∈ ledger.freed → generation < slot.generation
  generation : slot.generation.toNat = ledger.frees index

theorem Follows.congr {first second : Ledger α} {index : UInt32} {slot : Slot α}
    (follows : Follows first index slot) (agrees : first.Agrees second index) :
    Follows second index slot :=
  ⟨fun generation value => (agrees.live generation value).trans (follows.live generation value),
    fun generation freed => follows.freed generation ((agrees.freed generation).mp freed),
    follows.generation.trans agrees.frees.symm⟩

/-- A slot of which the ledger has no handle is as growth creates it. -/
theorem Follows.fresh {ledger : Ledger α} {index : UInt32}
    (notLive : ∀ generation, ⟨index, generation⟩ ∉ ledger.handles)
    (notFreed : ∀ generation, ⟨index, generation⟩ ∉ ledger.freed) :
    Follows ledger index Slot.fresh := by
  refine ⟨fun generation value => ?_, fun generation freed => ?_, ?_⟩
  · refine iff_of_false (fun live => notLive generation ?_) (by rintro ⟨⟩)
    exact Ledger.mem_handles.mpr ⟨value, live⟩
  · exact absurd freed (notFreed generation)
  · refine (List.countP_eq_zero.mpr fun handle freed => ?_).symm
    simp only [decide_eq_true_eq]
    rintro rfl
    exact notFreed handle.generation freed

/-- A value is stored in an empty slot. -/
theorem Follows.issue {ledger : Ledger α} {handle : Handle}
    (follows : Follows ledger handle.index ⟨handle.generation, none⟩) (value : α) :
    Follows (ledger.issue handle value) handle.index ⟨handle.generation, some value⟩ := by
  refine ⟨fun generation held => ?_, follows.freed, follows.generation⟩
  have old : (⟨handle.index, generation⟩, held) ∉ ledger.live := by
    intro live
    cases (follows.live generation held).mp live
  constructor
  · intro live
    rcases List.mem_cons.mp live with same | live
    · obtain ⟨isHandle, rfl⟩ := Prod.mk.inj same
      rw [← isHandle]
    · exact absurd live old
  · intro same
    cases same
    exact List.mem_cons_self

/-- The value in a slot is replaced. -/
theorem Follows.write {ledger : Ledger α} {handle : Handle} {displaced : α}
    (follows : Follows ledger handle.index ⟨handle.generation, some displaced⟩) (value : α) :
    Follows (ledger.write handle value) handle.index ⟨handle.generation, some value⟩ := by
  refine ⟨fun generation held => ?_, follows.freed, follows.generation⟩
  constructor
  · intro member
    obtain ⟨entry, old, changed⟩ := List.mem_map.mp member
    split at changed
    · obtain ⟨isHandle, rfl⟩ := Prod.mk.inj changed
      rw [isHandle]
    · rename_i apart
      subst changed
      cases (follows.live generation held).mp old
      exact absurd rfl apart
  · intro same
    cases same
    have live : (handle, displaced) ∈ ledger.live := (follows.live _ _).mpr rfl
    exact List.mem_map.mpr ⟨_, live, if_pos rfl⟩

/-- A slot that may be freed once more is not in the last generation. -/
theorem Follows.ne_last {ledger : Ledger α} {handle : Handle} {value : α}
    (follows : Follows ledger handle.index ⟨handle.generation, some value⟩)
    (reusable : (ledger.revoke handle).Reusable) : handle.generation ≠ 0xFFFFFFFF := by
  intro last
  have live : handle ∈ ledger.handles :=
    Ledger.mem_handles.mpr ⟨value, (follows.live _ _).mpr rfl⟩
  have few : (0xFFFFFFFF : UInt32).toNat + 1 < 0x100000000 := by
    have counted := reusable handle.index
    rw [Ledger.frees_revoke live, ← follows.generation, last] at counted
    exact counted
  exact absurd few (by decide)

/-- The value is taken out of a slot, which has a later generation then. -/
theorem Follows.revoke {ledger : Ledger α} {handle : Handle} {value : α}
    (follows : Follows ledger handle.index ⟨handle.generation, some value⟩)
    (notLast : handle.generation ≠ 0xFFFFFFFF) :
    Follows (ledger.revoke handle) handle.index ⟨handle.generation + 1, none⟩ := by
  have live : handle ∈ ledger.handles :=
    Ledger.mem_handles.mpr ⟨value, (follows.live _ _).mpr rfl⟩
  have grows := lt_add_one_of_ne_last notLast
  refine ⟨fun generation held => ?_, fun generation freed => ?_, ?_⟩
  · refine iff_of_false (fun member => ?_) nofun
    rw [Ledger.revoke_of_mem live] at member
    obtain ⟨old, other⟩ := List.mem_filter.mp member
    cases (follows.live generation held).mp old
    simp at other
  · rw [Ledger.revoke_of_mem live] at freed
    rcases List.mem_cons.mp freed with same | old
    · exact (congrArg Handle.generation same) ▸ grows
    · exact UInt32.lt_trans (follows.freed generation old) grows
  · rw [Ledger.frees_revoke live, ← follows.generation]
    exact toNat_add_one_of_ne_last notLast

/-- Every slot of a table is as the ledger says, and every handle of the ledger has a slot. Slots
that hold nothing are ready for reuse. -/
structure Tracks (table : SlotTable family α) (ledger : Ledger α) : Prop where
  sound : table.Sound
  ready : ∀ index generation, table.slots[index]? = some ⟨generation, none⟩ →
    index ∈ table.vacant
  follows : ∀ (index : UInt32) slot, table.slots[index.toNat]? = some slot →
    Follows ledger index slot
  distinct : ledger.handles.Nodup
  settled : ∀ handle, handle ∈ ledger.issued ↔ handle ∈ ledger.handles ∨ handle ∈ ledger.freed
  inside : ∀ handle ∈ ledger.issued, handle.index.toNat < table.slots.length

variable {table : SlotTable family α} {ledger : Ledger α}

/-- A handle is live with a value exactly if its slot holds the value in its generation. -/
theorem Tracks.mem_live_iff (tracks : table.Tracks ledger) {handle : Handle} {value : α} :
    (handle, value) ∈ ledger.live ↔
      table.slots[handle.index.toNat]? = some ⟨handle.generation, some value⟩ := by
  constructor
  · intro live
    have issued := (tracks.settled handle).mpr (.inl (Ledger.mem_handles.mpr ⟨value, live⟩))
    have stored := List.getElem?_eq_getElem (tracks.inside handle issued)
    rw [stored, ((tracks.follows _ _ stored).live _ _).mp live]
  · intro stored
    exact ((tracks.follows _ _ stored).live _ _).mpr rfl

/-- A freed handle has an older generation than its slot. -/
theorem Tracks.lt_of_mem_freed (tracks : table.Tracks ledger) {handle : Handle}
    (freed : handle ∈ ledger.freed) :
    ∃ slot, table.slots[handle.index.toNat]? = some slot ∧
      handle.generation < slot.generation := by
  have stored := List.getElem?_eq_getElem
    (tracks.inside handle ((tracks.settled handle).mpr (.inr freed)))
  exact ⟨_, stored, (tracks.follows _ _ stored).freed _ freed⟩

/-- A handle with the generation of an empty slot was never issued. -/
theorem Tracks.notMem_issued (tracks : table.Tracks ledger) {handle : Handle}
    (empty : table.slots[handle.index.toNat]? = some ⟨handle.generation, none⟩) :
    handle ∉ ledger.issued := by
  intro issued
  rcases (tracks.settled handle).mp issued with live | freed
  · obtain ⟨value, live⟩ := Ledger.mem_handles.mp live
    cases empty.symm.trans (tracks.mem_live_iff.mp live)
  · obtain ⟨slot, stored, older⟩ := tracks.lt_of_mem_freed freed
    cases empty.symm.trans stored
    exact UInt32.lt_irrefl _ older

/-- Only the slots and which of them are ready matter. -/
theorem Tracks.of_slots {other : SlotTable family α} (tracks : table.Tracks ledger)
    (slots : other.slots = table.slots) (vacant : other.vacant = table.vacant) :
    other.Tracks ledger := by
  obtain ⟨⟨noneTwice, empty, bounded⟩, ready, follows, distinct, settled, inside⟩ := tracks
  rw [← slots] at empty bounded ready follows inside
  rw [← vacant] at noneTwice empty ready
  exact ⟨⟨noneTwice, empty, bounded⟩, ready, follows, distinct, settled, inside⟩

/-- In which order handles were freed is of no account. -/
theorem Tracks.of_perm (tracks : table.Tracks ledger) {after : Ledger α}
    (live : after.live = ledger.live) (issued : after.issued = ledger.issued)
    (freed : after.freed.Perm ledger.freed) : table.Tracks after := by
  have handles : after.handles = ledger.handles := congrArg (List.map Prod.fst) live
  refine ⟨tracks.sound, tracks.ready, fun index slot stored => ?_, handles ▸ tracks.distinct,
    fun handle => ?_, issued ▸ tracks.inside⟩
  · refine (tracks.follows index slot stored).congr ⟨fun _ _ => ?_, fun _ => freed.mem_iff,
      freed.countP_eq _⟩
    rw [live]
  · rw [issued, handles, freed.mem_iff]
    exact tracks.settled handle

/-- What is in the ledger of other slots than a changed one is in it as before. -/
theorem Tracks.follows_set (tracks : table.Tracks ledger) {index : UInt32} {changed : Slot α}
    {after : Ledger α} (here : Follows after index changed)
    (elsewhere : ∀ other, other ≠ index → ledger.Agrees after other) (other : UInt32)
    (slot : Slot α) (stored : (table.slots.set index.toNat changed)[other.toNat]? = some slot) :
    Follows after other slot := by
  by_cases same : other = index
  · subst same
    have inside := (List.getElem?_eq_some_iff.mp stored).1
    rw [List.length_set] at inside
    rw [List.getElem?_set_self inside] at stored
    exact Option.some.inj stored ▸ here
  · have apart : index.toNat ≠ other.toNat := fun equal => same (UInt32.toNat_inj.mp equal).symm
    rw [List.getElem?_set_ne apart] at stored
    exact (tracks.follows other slot stored).congr (elsewhere other same)

/-- The table without slots follows the ledger without handles. -/
theorem tracks_empty (chunk : Nat) (chunk_pos : 0 < chunk) :
    (empty chunk chunk_pos : SlotTable family α).Tracks .start :=
  ⟨sound_empty chunk chunk_pos, nofun, nofun, List.nodup_nil, by simp [Ledger.start,
    Ledger.handles], nofun⟩

/-- New slots are empty, in the first generation, and of no handle. -/
theorem Tracks.grown (tracks : table.Tracks ledger) (none : table.vacant = [])
    (fits : table.slots.length + table.chunk < slotLimit) : table.grown.Tracks ledger := by
  have sound := (evolves_grown fits).sound tracks.sound
  have larger : table.grown.slots.length = table.slots.length + table.chunk := by
    rw [SlotTable.grown, List.length_append, List.length_replicate]
  refine ⟨sound, fun index generation stored => ?_, fun index slot stored => ?_,
    tracks.distinct, tracks.settled, fun handle issued => ?_⟩
  · have below := (List.getElem?_eq_some_iff.mp stored).1
    rw [larger] at below
    refine List.mem_range'_1.mpr ⟨Nat.le_of_not_lt fun old => ?_, below⟩
    rw [SlotTable.grown, List.getElem?_append_left old] at stored
    have ready := tracks.ready index generation stored
    rw [none] at ready
    cases ready
  · by_cases old : index.toNat < table.slots.length
    · rw [SlotTable.grown, List.getElem?_append_left old] at stored
      exact tracks.follows index slot stored
    · have outside : ∀ generation, ⟨index, generation⟩ ∉ ledger.issued :=
        fun generation issued => old (tracks.inside _ issued)
      have isFresh : slot = Slot.fresh := by
        rw [SlotTable.grown, List.getElem?_append_right (Nat.le_of_not_lt old)] at stored
        exact List.eq_of_mem_replicate (List.mem_of_getElem? stored)
      rw [isFresh]
      exact .fresh (fun generation live => outside generation ((tracks.settled _).mpr (.inl live)))
        fun generation freed => outside generation ((tracks.settled _).mpr (.inr freed))
  · rw [larger]
    exact Nat.lt_of_lt_of_le (tracks.inside handle issued) (Nat.le_add_right _ _)

/-- A value that is stored in the next slot ready for reuse is issued a handle that is new. -/
theorem Tracks.occupy (tracks : table.Tracks ledger) {index : Nat} {vacant : List Nat}
    (next : table.vacant = index :: vacant) (value : α) :
    ∃ handle, (table.occupy index vacant value).1 = handle ∧ handle ≠ .null ∧
      handle ∉ ledger.issued ∧
      (table.occupy index vacant value).2.Tracks (ledger.issue handle value) := by
  obtain ⟨generation, empty⟩ := tracks.sound.empty index (next ▸ List.mem_cons_self)
  have below := (List.getElem?_eq_some_iff.mp empty).1
  have bounded := tracks.sound.bounded
  obtain ⟨handle, rfl, rfl⟩ : ∃ handle : Handle,
      handle.index.toNat = index ∧ handle.generation = generation := by
    refine ⟨⟨UInt32.ofNat index, generation⟩, UInt32.toNat_ofNat_of_lt ?_, rfl⟩
    simp only [slotLimit] at bounded
    simp only [UInt32.size]
    omega
  have issues : (table.occupy handle.index.toNat vacant value).1 = handle := by
    simp [SlotTable.occupy, empty]
  have slots : (table.occupy handle.index.toNat vacant value).2.slots =
      table.slots.set handle.index.toNat ⟨handle.generation, some value⟩ := by
    simp [SlotTable.occupy, empty]
  have notIssued := tracks.notMem_issued empty
  have notLive : handle ∉ ledger.handles :=
    fun live => notIssued ((tracks.settled handle).mpr (.inl live))
  refine ⟨handle, issues, ?_, notIssued, (evolves_occupy next value).sound tracks.sound, ?_, ?_,
    List.nodup_cons.mpr ⟨notLive, tracks.distinct⟩, fun other => ?_, fun other issued => ?_⟩
  · rintro rfl
    exact Nat.lt_irrefl _ (Nat.lt_trans below bounded)
  · intro other generation stored
    rw [slots] at stored
    by_cases same : handle.index.toNat = other
    · subst same
      rw [List.getElem?_set_self below] at stored
      cases stored
    · rw [List.getElem?_set_ne same] at stored
      have ready := tracks.ready other generation stored
      rw [next] at ready
      exact (List.mem_cons.mp ready).resolve_left (Ne.symm same)
  · intro other slot stored
    rw [slots] at stored
    exact tracks.follows_set ((tracks.follows _ _ empty).issue value)
      (fun other => ledger.agrees_issue value) other slot stored
  · refine List.mem_cons.trans ((or_congr_right (tracks.settled other)).trans ?_)
    rw [← or_assoc]
    exact or_congr_left List.mem_cons.symm
  · rw [slots, List.length_set]
    rcases List.mem_cons.mp issued with rfl | old
    · exact below
    · exact tracks.inside other old

/-- Replacing the value of a live handle. -/
theorem Tracks.replace (tracks : table.Tracks ledger) {handle : Handle} {displaced : α}
    (live : (handle, displaced) ∈ ledger.live) (value : α) :
    (table.replace handle value).2.Tracks (ledger.write handle value) := by
  have occupied := tracks.mem_live_iff.mp live
  have below := (List.getElem?_eq_some_iff.mp occupied).1
  have replaced : (table.replace handle value).2 = { table with
      slots := table.slots.set handle.index.toNat ⟨handle.generation, some value⟩ } := by
    rw [SlotTable.replace, get_eq_ok_iff.mpr occupied]
  have sameHandles : (ledger.write handle value).handles = ledger.handles := by
    rw [Ledger.handles, Ledger.write, List.map_map]
    refine List.map_congr_left fun entry _ => ?_
    dsimp only [Function.comp]
    split <;> simp_all
  rw [replaced]
  refine ⟨⟨tracks.sound.distinct, fun index member => ?_, ?_⟩, fun index generation stored => ?_,
    tracks.follows_set ((tracks.follows _ _ occupied).write value)
      fun other => ledger.agrees_write value,
    sameHandles ▸ tracks.distinct, sameHandles ▸ tracks.settled, fun other issued => ?_⟩
  · obtain ⟨generation, empty⟩ := tracks.sound.empty index member
    have apart : handle.index.toNat ≠ index := by
      rintro rfl
      cases occupied.symm.trans empty
    exact ⟨generation, (List.getElem?_set_ne apart).trans empty⟩
  · rw [List.length_set]
    exact tracks.sound.bounded
  · have apart : handle.index.toNat ≠ index := by
      rintro rfl
      rw [List.getElem?_set_self below] at stored
      cases stored
    exact tracks.ready index generation ((List.getElem?_set_ne apart).symm.trans stored)
  · rw [List.length_set]
    exact tracks.inside other issued

/-- Taking the value out of the slot of a live handle, unless the generation is the last one. -/
theorem Tracks.vacate (tracks : table.Tracks ledger) {handle : Handle} {value : α}
    (live : (handle, value) ∈ ledger.live) (reusable : (ledger.revoke handle).Reusable) :
    (table.vacate handle.index.toNat).Tracks (ledger.revoke handle) := by
  have occupied := tracks.mem_live_iff.mp live
  have isLive : handle ∈ ledger.handles := Ledger.mem_handles.mpr ⟨value, live⟩
  have notLast := (tracks.follows _ _ occupied).ne_last reusable
  have isTable : table.vacate handle.index.toNat = { table with
      slots := table.slots.set handle.index.toNat ⟨handle.generation + 1, none⟩
      vacant := handle.index.toNat :: table.vacant } := by
    rw [vacate_eq occupied, if_neg notLast, Slot.vacated, if_neg notLast]
  have sound := (evolves_vacate occupied).sound tracks.sound
  have follows := tracks.follows_set ((tracks.follows _ _ occupied).revoke notLast)
    fun other => ledger.agrees_revoke
  rw [isTable] at sound ⊢
  rw [Ledger.revoke_of_mem isLive] at follows ⊢
  refine ⟨sound, fun index generation stored => ?_, follows, ?_, fun other => ?_,
    fun other issued => ?_⟩
  · by_cases same : handle.index.toNat = index
    · exact same ▸ List.mem_cons_self
    · exact List.mem_cons_of_mem _ (tracks.ready index generation
        ((List.getElem?_set_ne same).symm.trans stored))
  · exact tracks.distinct.sublist (List.filter_sublist.map Prod.fst)
  · show other ∈ ledger.issued ↔
      other ∈ (ledger.live.filter fun entry => entry.1 ≠ handle).map Prod.fst ∨
        other ∈ handle :: ledger.freed
    rw [tracks.settled other]
    by_cases same : other = handle
    · subst same
      exact iff_of_true (.inl isLive) (.inr List.mem_cons_self)
    · simp [Ledger.handles, same]
  · rw [List.length_set]
    exact tracks.inside other issued

/-! ## What a table lists -/

/-- A value is listed under a handle exactly if the slot of the handle holds it. -/
theorem mem_entries {table : SlotTable family α} (sound : table.Sound) {handle : Handle}
    {value : α} : (handle, value) ∈ table.entries ↔
      table.slots[handle.index.toNat]? = some ⟨handle.generation, some value⟩ := by
  have bounded := sound.bounded
  simp only [slotLimit] at bounded
  rw [entries, List.mem_filterMap]
  constructor
  · rintro ⟨⟨slot, index⟩, member, listed⟩
    obtain ⟨held, holds, same⟩ := Option.map_eq_some_iff.mp listed
    cases same
    have stored := List.mem_zipIdx_iff_getElem?.mp member
    have below := (List.getElem?_eq_some_iff.mp stored).1
    have isIndex : (UInt32.ofNat index).toNat = index :=
      UInt32.toNat_ofNat_of_lt (Nat.lt_trans below (Nat.lt_succ_of_lt bounded))
    dsimp only at stored ⊢
    rw [isIndex, stored, ← holds]
  · intro stored
    exact ⟨⟨_, handle.index.toNat⟩, List.mem_zipIdx_iff_getElem?.mpr stored, by
      simp only [Option.map_some, UInt32.ofNat_toNat]⟩

/-- The entries are those of the occupied slots. -/
theorem map_index_entries {table : SlotTable family α} (sound : table.Sound) :
    table.entries.map (fun entry => entry.1.index.toNat) = table.occupiedIndices := by
  have bounded := sound.bounded
  simp only [slotLimit] at bounded
  rw [entries, occupiedIndices, List.map_filterMap]
  refine List.filterMap_congr fun entry member => ?_
  obtain ⟨slot, index⟩ := entry
  have below := (List.getElem?_eq_some_iff.mp (List.mem_zipIdx_iff_getElem?.mp member)).1
  have isIndex : (UInt32.ofNat index).toNat = index :=
    UInt32.toNat_ofNat_of_lt (Nat.lt_trans below (Nat.lt_succ_of_lt bounded))
  dsimp only
  rw [Option.map_map]
  exact congrArg (fun place => slot.value.map fun _ => place) isIndex

/-- The indices of the entries increase. -/
theorem pairwise_entries {table : SlotTable family α} (sound : table.Sound) :
    table.entries.Pairwise fun first second => first.1.index < second.1.index := by
  have increasing : table.slots.zipIdx.Pairwise fun first second => first.2 < second.2 := by
    refine List.pairwise_map.mp ?_
    rw [List.zipIdx_map_snd]
    exact List.pairwise_lt_range'
  have occupied : table.occupiedIndices.Pairwise fun first second => first < second := by
    refine List.pairwise_filterMap.mpr
      (increasing.imp fun before first isFirst second isSecond => ?_)
    obtain ⟨_, _, rfl⟩ := Option.map_eq_some_iff.mp isFirst
    obtain ⟨_, _, rfl⟩ := Option.map_eq_some_iff.mp isSecond
    exact before
  rw [← map_index_entries sound, List.pairwise_map] at occupied
  exact occupied.imp UInt32.lt_iff_toNat_lt.mpr

/-- The entries are the live handles with their values. -/
theorem Tracks.entries_perm (tracks : table.Tracks ledger) : table.entries.Perm ledger.live := by
  have once : table.entries.Nodup := by
    refine (pairwise_entries tracks.sound).imp fun {first second} before same => ?_
    exact UInt32.lt_irrefl _ (same ▸ before)
  refine (List.perm_ext_iff_of_nodup once (tracks.distinct.of_map _)).mpr fun entry => ?_
  exact (mem_entries tracks.sound).trans tracks.mem_live_iff.symm

/-- Vacating the slots of all live handles, one after the other. -/
theorem Tracks.vacateAll (tracks : table.Tracks ledger) {entries : List (Handle × α)}
    (all : entries.Perm ledger.live) (reusable : ledger.revokeAll.Reusable) :
    ((entries.map fun entry => entry.1.index.toNat).foldl SlotTable.vacate table).Tracks
      ledger.revokeAll := by
  induction entries generalizing table ledger with
  | nil =>
    have none : ledger.live = [] := List.nil_perm.mp all
    have same : ledger.revokeAll = ledger := by
      obtain ⟨live, issued, freed⟩ := ledger
      cases none
      rfl
    exact same ▸ tracks
  | cons entry later inductionHypothesis =>
    obtain ⟨handle, value⟩ := entry
    have live : (handle, value) ∈ ledger.live := all.mem_iff.mp List.mem_cons_self
    have revoked := Ledger.revoke_of_mem (Ledger.mem_handles.mpr ⟨value, live⟩)
    have allHandles : (handle :: later.map Prod.fst).Perm ledger.handles := all.map Prod.fst
    have left := ledger.perm_revoke tracks.distinct all
    have sameFreed : (ledger.revoke handle).revokeAll.freed.Perm ledger.revokeAll.freed := by
      have rest : (ledger.revoke handle).handles.Perm (later.map Prod.fst) :=
        (left.map Prod.fst).symm
      have freed : (ledger.revoke handle).freed = handle :: ledger.freed := by rw [revoked]
      show ((ledger.revoke handle).handles ++ (ledger.revoke handle).freed).Perm
        (ledger.handles ++ ledger.freed)
      rw [freed]
      exact (rest.append_right _).trans (List.perm_middle.trans (allHandles.append_right _))
    have stillReusable : (ledger.revoke handle).revokeAll.Reusable :=
      reusable.of_subperm sameFreed.subperm
    have vacated : (table.vacate handle.index.toNat).Tracks (ledger.revoke handle) :=
      tracks.vacate live (stillReusable.of_subperm (List.sublist_append_right _ _).subperm)
    have sameIssued : (ledger.revoke handle).issued = ledger.issued := by rw [revoked]
    exact (inductionHypothesis vacated left stillReusable).of_perm rfl sameIssued.symm
      sameFreed.symm

end SlotTable

end CommandStream
