import CommandStream.Proofs.ResourceFrame
/-!
# The handles that a session has issued

`Makes` lists what an attempt to create a resource comes to, of whichever family it is. A handle
that was issued stays known to its table for the rest of the session: it finds its resource, or it
is dead (`Knows`). A value is only stored under a handle that the table does not know, so no handle
is issued twice (`Makes.notMem_issued`).
-/

namespace CommandStream

/-! ## One table -/

namespace SlotTable

variable {family : ResourceFamily} {α : Type} {table after : SlotTable family α} {handle : Handle}
  {value : α}

/-- A value is stored under a handle. Its slot was ready for use, or came to a table that had none
ready, as one of a number of empty slots; all other handles find what they found. -/
structure Receives (table after : SlotTable family α) (handle : Handle) (value : α) : Prop where
  effect : ∃ growth vacant,
    (table.slots ++ List.replicate growth Slot.fresh)[handle.index.toNat]? =
        some ⟨handle.generation, none⟩ ∧
      after = { table with
        slots := (table.slots ++ List.replicate growth Slot.fresh).set handle.index.toNat
          ⟨handle.generation, some value⟩
        vacant := vacant
        occupied := table.occupied + 1 }
  ready : table.vacant = handle.index.toNat :: after.vacant ∨
    table.vacant = [] ∧
      ∀ index ∈ handle.index.toNat :: after.vacant, table.slots.length ≤ index
  stored : after.get handle = .ok value
  others : ∀ other, other ≠ handle →
    ∀ held, after.get other = .ok held ↔ table.get other = .ok held

/-- The value under a handle is taken out, and the handle is dead; all other handles find what they
found. -/
structure Releases (table after : SlotTable family α) (handle : Handle) : Prop where
  effect : ∃ value vacant, table.get handle = .ok value ∧
    after = { table with
      slots := table.slots.set handle.index.toNat (Slot.vacated ⟨handle.generation, some value⟩)
      vacant := vacant
      occupied := table.occupied - 1 }
  ready : after.vacant = table.vacant ∨ after.vacant = handle.index.toNat :: table.vacant
  dead : after.Dead handle
  others : ∀ other, other ≠ handle →
    ∀ held, after.get other = .ok held ↔ table.get other = .ok held

/-- A slot that changes without leaving its generation, or is emptied, is seen by the handle of
that generation only. -/
theorem get_set_iff {old new : Slot α}
    (stored : table.slots[handle.index.toNat]? = some old)
    (isGeneration : old.generation = handle.generation)
    (isSet : after.slots = table.slots.set handle.index.toNat new)
    (hidden : new.generation = handle.generation ∨ new.value = none) {other : Handle}
    (apart : other ≠ handle) (held : α) :
    after.get other = .ok held ↔ table.get other = .ok held := by
  rw [get_eq_ok_iff, get_eq_ok_iff, isSet]
  by_cases same : other.index = handle.index
  · have inside := (List.getElem?_eq_some_iff.mp stored).1
    have otherGeneration : handle.generation ≠ other.generation := fun sameGeneration =>
      apart (Handle.mk.injEq _ _ _ _ ▸ ⟨same, sameGeneration.symm⟩)
    rw [same, List.getElem?_set_self inside, stored]
    refine iff_of_false ?_ ?_
    · rintro ⟨⟩
      rcases hidden with sameGeneration | empty
      · exact otherGeneration sameGeneration.symm
      · cases empty
    · rintro ⟨⟩
      exact otherGeneration isGeneration.symm
  · rw [List.getElem?_set_ne fun sameIndex => same (UInt32.toNat_inj.mp sameIndex.symm)]

/-- Nothing is stored in the slots that come to a table. -/
theorem get_append_fresh_iff {growth : Nat}
    (isSlots : after.slots = table.slots ++ List.replicate growth Slot.fresh) (held : α) :
    after.get handle = .ok held ↔ table.get handle = .ok held := by
  rw [get_eq_ok_iff, get_eq_ok_iff, isSlots, List.getElem?_append]
  split
  · exact Iff.rfl
  · rename_i outside
    rw [List.getElem?_eq_none (Nat.le_of_not_lt outside), List.getElem?_replicate]
    split
    · simp [Slot.fresh]
    · exact Iff.rfl

/-- A slot that is ready for use is used under the handle of its index and generation. -/
theorem Sound.occupy_eq (sound : table.Sound) {index : Nat} {vacant : List Nat}
    (next : table.vacant = index :: vacant) :
    ∃ handle : Handle, handle.index.toNat = index ∧
      table.slots[index]? = some ⟨handle.generation, none⟩ ∧
      ∀ value, table.occupy index vacant value =
        (handle, { table with
          slots := table.slots.set index ⟨handle.generation, some value⟩
          vacant := vacant
          occupied := table.occupied + 1 }) := by
  obtain ⟨generation, empty⟩ := sound.empty index (next ▸ List.mem_cons_self)
  have inside := (List.getElem?_eq_some_iff.mp empty).1
  have isWord : index < 2 ^ 32 :=
    Nat.lt_trans (Nat.lt_trans inside sound.bounded) (by decide : slotLimit < 2 ^ 32)
  refine ⟨⟨UInt32.ofNat index, generation⟩, UInt32.toNat_ofNat_of_lt isWord, empty,
    fun value => ?_⟩
  rw [occupy, empty]
  rfl

/-- Whether or not the table grows first, the first slot that is then ready receives the value. -/
theorem receives_occupy {grown : SlotTable family α} (growth : Nat) {index : Nat}
    {vacant : List Nat}
    (isGrown : grown = { table with
      slots := table.slots ++ List.replicate growth Slot.fresh
      vacant := index :: vacant })
    (sound : grown.Sound)
    (ready : table.vacant = index :: vacant ∨
      table.vacant = [] ∧ ∀ place ∈ index :: vacant, table.slots.length ≤ place)
    (value : α) :
    table.Receives (grown.occupy index vacant value).2 (grown.occupy index vacant value).1
      value := by
  obtain ⟨handle, rfl, empty, answer⟩ := sound.occupy_eq (congrArg SlotTable.vacant isGrown)
  have inside := (List.getElem?_eq_some_iff.mp empty).1
  have isSlots : grown.slots = table.slots ++ List.replicate growth Slot.fresh :=
    congrArg SlotTable.slots isGrown
  rw [answer]
  constructor
  case effect =>
    subst isGrown
    exact ⟨growth, vacant, empty, rfl⟩
  case ready => exact ready
  case stored => exact get_eq_ok_iff.mpr (List.getElem?_set_self inside)
  case others =>
    intro other apart held
    rw [get_set_iff empty rfl rfl (.inl rfl) apart held, get_append_fresh_iff isSlots held]

/-- A table stores a value, or it has no index left for one. -/
theorem Sound.receives_allocate (sound : table.Sound) (value : α) :
    (∃ handle after, table.allocate value = (.ok handle, after) ∧
      table.Receives after handle value) ∨
    table.vacant = [] ∧ slotLimit ≤ table.slots.length + table.chunk ∧
      table.allocate value = (.error (.indexSpaceExhausted family), table) := by
  rcases table.allocate_cases value with ⟨index, vacant, next, answer⟩ |
    ⟨noneReady, fits, index, vacant, next, answer⟩ | exhausted
  · refine .inl ⟨_, _, answer, receives_occupy 0 ?_ sound (.inl next) value⟩
    rw [← next, List.replicate_zero, List.append_nil]
  · refine .inl ⟨_, _, answer, receives_occupy table.chunk ?_ ((evolves_grown fits).sound sound)
      (.inr ⟨noneReady, fun place member => ?_⟩) value⟩
    · rw [← next]
      rfl
    · rw [← next] at member
      exact (List.mem_range'_1.mp member).1
  · exact .inr exhausted

/-- A handle that is freed is released. -/
theorem Sound.releases_free (sound : table.Sound) (freed : (table.free handle).1 = .ok value) :
    table.Releases (table.free handle).2 handle := by
  have found := get_of_free freed
  have stored := get_eq_ok_iff.mp found
  have dead := sound.dead_of_free freed
  have isFree : (table.free handle).2 =
      { table.vacate handle.index.toNat with occupied := table.occupied - 1 } := by
    rw [free, found]
  rw [vacate_eq stored] at isFree
  rw [isFree] at dead ⊢
  constructor
  case effect => exact ⟨value, _, found, rfl⟩
  case ready =>
    dsimp only
    split
    · exact .inl rfl
    · exact .inr rfl
  case dead => exact dead
  case others =>
    exact fun other apart held =>
      get_set_iff stored rfl rfl (.inr (Slot.value_vacated _)) apart held

/-- A handle is known to a table when it finds a value, or never will again. -/
def Knows (table : SlotTable family α) (handle : Handle) : Prop :=
  (∃ value, table.get handle = .ok value) ∨ table.Dead handle

/-- A value is stored under a handle that the table does not know. -/
theorem Receives.not_knows (receives : table.Receives after handle value) :
    ¬table.Knows handle := by
  obtain ⟨growth, _, empty, _⟩ := receives.effect
  have unoccupied {slot : Slot α} (stored : table.slots[handle.index.toNat]? = some slot) :
      slot = ⟨handle.generation, none⟩ := by
    have inside := (List.getElem?_eq_some_iff.mp stored).1
    rw [List.getElem?_append_left inside, stored] at empty
    exact Option.some.inj empty
  rintro (⟨held, found⟩ | ⟨slot, stored, later | ⟨_, notReady⟩⟩)
  · cases unoccupied (get_eq_ok_iff.mp found)
  · rw [unoccupied stored] at later
    exact UInt32.lt_irrefl _ later
  · rcases receives.ready with next | ⟨_, outside⟩
    · exact notReady (next ▸ List.mem_cons_self)
    · have inside := (List.getElem?_eq_some_iff.mp stored).1
      exact Nat.not_lt_of_le (outside _ List.mem_cons_self) inside

end SlotTable

/-! ## Creation -/

namespace NativeDevice

/-- The native device after an object was created on it that it keeps no record of. -/
def numbered (device : NativeDevice) : NativeDevice := { device with nextId := device.nextId + 1 }

theorem createObject_of_lost {device : NativeDevice} (gone : device.lost = true) :
    device.createObject = (.error .deviceLost, device) :=
  if_pos gone

theorem createObject_of_present {device : NativeDevice} (present : device.lost = false) :
    device.createObject = (.ok device.nextId, device.numbered) :=
  if_neg (Bool.eq_false_iff.mp present)

end NativeDevice

namespace Device

variable {device : Device} {description : ResourceDescription}

/-- What an attempt to create a resource comes to. In the `exhausted` case the error is no answer
to a caller: the program stops where a table would outgrow the indices. -/
inductive Makes (device : Device) (description : ResourceDescription) :
    Except CreationError Handle × Device → Prop
  | invalid {fault : DescriptionFault} (faulty : description.fault? = some fault) :
      Makes device description (.error (.invalidDescription fault), device)
  | lost (valid : description.fault? = none) (gone : device.native.lost = true) :
      Makes device description (.error (.device .deviceLost), device)
  | exhausted (valid : description.fault? = none) (present : device.native.lost = false)
      (noneReady : (device.resources.table description.family).vacant = [])
      (full : SlotTable.slotLimit ≤ (device.resources.table description.family).slots.length +
        (device.resources.table description.family).chunk) :
      Makes device description
        (.error (.table (.indexSpaceExhausted description.family)),
          { device with native := device.native.numbered })
  | created {handle : Handle}
      {table : SlotTable description.family description.family.Stored}
      (valid : description.fault? = none) (present : device.native.lost = false)
      (receives : (device.resources.table description.family).Receives table handle
        (description.resource device.native.nextId)) :
      Makes device description
        (.ok handle,
          { device with
            native := device.native.numbered
            resources := device.resources.setTable description.family table })

/-- Every attempt to create a resource follows one of the rules. -/
theorem makes (sound : device.resources.Sound) (description : ResourceDescription) :
    device.Makes description (device.make description) := by
  rw [make_eq]
  cases faulty : description.fault? with
  | some fault => exact .invalid faulty
  | none =>
    cases lost : device.native.lost with
    | true =>
      dsimp only
      rw [createResource, NativeDevice.createObject_of_lost lost]
      exact .lost faulty lost
    | false =>
      dsimp only
      rw [createResource, NativeDevice.createObject_of_present lost]
      dsimp only
      rcases (sound.table description.family).receives_allocate
          (description.resource device.native.nextId) with
        ⟨handle, table, answer, receives⟩ | ⟨noneReady, full, answer⟩
      all_goals rw [answer]
      · exact .created faulty lost receives
      · dsimp only
        rw [Resources.setTable_table]
        exact .exhausted faulty lost noneReady full

/-- A handle that is issued finds the resource of its description, which no handle found before. -/
theorem Makes.get {handle : Handle} {after : Device}
    (makes : device.Makes description (.ok handle, after)) :
    (after.resources.table description.family).get handle =
        .ok (description.resource device.native.nextId) ∧
      ¬(device.resources.table description.family).Knows handle := by
  cases makes with
  | created _ _ receives =>
    dsimp only
    rw [Resources.table_setTable]
    exact ⟨receives.stored, receives.not_knows⟩

/-- A resource that a handle finds can be disposed of. -/
theorem dispose_of_get {family : ResourceFamily} {handle : Handle} {value : family.Stored}
    (found : (device.resources.table family).get handle = .ok value) :
    (device.dispose handle family).1 = .ok () := by
  rw [dispose_eq, SlotTable.free, found]
  rfl

end Device

/-! ## Histories -/

namespace Session

variable {session : Session} {family : ResourceFamily} {handle : Handle}

/-- The handle that an action issues, with the family of its resource. -/
def issue? (session : Session) (action : Action) : Option (ResourceFamily × Handle) :=
  action.description?.bind fun description =>
    (session.device.make description).1.toOption.map fun handle => (description.family, handle)

/-- The handles that actions in a row issue, the oldest first. -/
def issued (session : Session) : List Action → List (ResourceFamily × Handle)
  | [] => []
  | action :: later => (session.issue? action).toList ++ (session.perform action).issued later

/-- To perform a creation is to make the resource. -/
theorem device_perform {action : Action} {description : ResourceDescription}
    (creates : action.description? = some description) :
    (session.perform action).device = (session.device.make description).2 := by
  cases action with
  | createBuffer | createTexture | createSampler | createPipeline =>
    cases creates
    rfl
  | _ => cases creates

/-- What an action issues is known from then on. -/
theorem knows_issue (sound : session.device.resources.Sound) {action : Action}
    (issues : session.issue? action = some (family, handle)) :
    ((session.perform action).device.resources.table family).Knows handle := by
  obtain ⟨description, creates, isHandle⟩ := Option.bind_eq_some_iff.mp issues
  obtain ⟨made, isMade, ⟨⟩⟩ := Option.map_eq_some_iff.mp isHandle
  have makes := Device.makes sound description
  rw [device_perform creates]
  rcases answer : session.device.make description with ⟨error | handle, after⟩
  all_goals rw [answer] at isMade makes
  · cases isMade
  · cases isMade
    exact .inl ⟨_, makes.get.1⟩

/-- A handle that is known stays known: as long as it is not disposed of it finds its resource, and
from then on it is dead. -/
theorem knows_perform (sound : session.device.resources.Sound) (action : Action)
    (knows : (session.device.resources.table family).Knows handle) :
    ((session.perform action).device.resources.table family).Knows handle := by
  rcases knows with ⟨value, found⟩ | dead
  · by_cases disposes : action = .dispose family handle
    · rw [disposes]
      exact .inr (Resources.dead_iff.mp
        (Device.dead_of_dispose sound (Device.dispose_of_get found)))
    · have spares : session.device.resources.Spares (session.perform action).device.resources
          [(family, handle)] :=
        spares_perform sound (List.forall_mem_singleton.mpr disposes)
      have keeps := spares.kept _ List.mem_cons_self
      exact .inl ⟨value, Resources.keeps_iff.mp keeps value found⟩
  · have evolves := (session.evolves_perform action).resources
    exact .inr (Resources.dead_iff.mp (evolves.dead (Resources.dead_iff.mpr dead)))

theorem knows_after (sound : session.device.resources.Sound) (actions : List Action)
    (knows : (session.device.resources.table family).Knows handle) :
    ((session.after actions).device.resources.table family).Knows handle := by
  induction actions generalizing session with
  | nil => exact knows
  | cons action later inductionHypothesis =>
    exact inductionHypothesis ((session.evolves_perform action).resources.sound sound)
      (knows_perform sound action knows)

/-- Whatever was issued by actions in a row is known after them. -/
theorem knows_of_mem_issued (sound : session.device.resources.Sound) {actions : List Action}
    (member : (family, handle) ∈ session.issued actions) :
    ((session.after actions).device.resources.table family).Knows handle := by
  induction actions generalizing session with
  | nil => cases member
  | cons action later inductionHypothesis =>
    have soundNext := (session.evolves_perform action).resources.sound sound
    rcases List.mem_append.mp member with first | behind
    · have issues := Option.mem_toList.mp first
      exact knows_after soundNext later (knows_issue sound issues)
    · exact inductionHypothesis soundNext behind

end Session

/-- A handle that is issued was not issued before. -/
theorem Device.Makes.notMem_issued {session : Session} {actions : List Action}
    (sound : session.device.resources.Sound) {description : ResourceDescription} {handle : Handle}
    {after : Device}
    (makes : (session.after actions).device.Makes description (.ok handle, after)) :
    (description.family, handle) ∉ session.issued actions :=
  fun member => makes.get.2 (Session.knows_of_mem_issued sound member)

end CommandStream
