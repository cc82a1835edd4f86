import CommandStream.Proofs.Resolution
import CommandStream.Proofs.ResourceFamilies
import CommandStream.Proofs.TableHistory
import CommandStream.Proofs.Timeline
/-!
# Histories of sessions

Whatever is done in a session, its tables have a history in the sense of `SlotTable.Evolves`, and
its native device advances. `Device.Evolves` says both of one state of the device and a later one;
there is one lemma for each action, and from them it holds of actions in a row.
-/

namespace CommandStream

/-! ## Tables -/

namespace Resources

/-- The four tables keep the invariant of tables. -/
structure Sound (resources : Resources) : Prop where
  buffers : resources.buffers.Sound
  textures : resources.textures.Sound
  samplers : resources.samplers.Sound
  pipelines : resources.pipelines.Sound

theorem Sound.table {resources : Resources} (sound : resources.Sound) (family : ResourceFamily) :
    (resources.table family).Sound := by
  cases family with
  | buffer => exact sound.buffers
  | texture => exact sound.textures
  | sampler => exact sound.samplers
  | pipeline => exact sound.pipelines

/-- A handle is dead in the table of its family. -/
def Dead (resources : Resources) (handle : Handle) : ResourceFamily → Prop
  | .buffer => resources.buffers.Dead handle
  | .texture => resources.textures.Dead handle
  | .sampler => resources.samplers.Dead handle
  | .pipeline => resources.pipelines.Dead handle

theorem dead_iff {resources : Resources} {handle : Handle} {family : ResourceFamily} :
    resources.Dead handle family ↔ (resources.table family).Dead handle := by
  cases family <;> exact Iff.rfl

/-- A dead handle names no object. -/
theorem Dead.not_names {resources : Resources} {handle : Handle} {family : ResourceFamily}
    (dead : resources.Dead handle family) (object : ObjectId) :
    ¬resources.Names handle object family := by
  intro names
  cases family
  all_goals
    obtain ⟨value, found, _⟩ := names
    exact SlotTable.Dead.get_ne_ok dead value found

/-- The null handle names no object. -/
theorem Sound.not_names_null {resources : Resources} (sound : resources.Sound)
    {family : ResourceFamily} (object : ObjectId) :
    ¬resources.Names Handle.null object family := by
  intro names
  cases family with
  | buffer =>
    obtain ⟨value, found, _⟩ := names
    exact sound.buffers.get_null_ne_ok value found
  | texture =>
    obtain ⟨value, found, _⟩ := names
    exact sound.textures.get_null_ne_ok value found
  | sampler =>
    obtain ⟨value, found, _⟩ := names
    exact sound.samplers.get_null_ne_ok value found
  | pipeline =>
    obtain ⟨value, found, _⟩ := names
    exact sound.pipelines.get_null_ne_ok value found

/-- Each of the four tables has a history from one state to the other. -/
structure Evolves (before after : Resources) : Prop where
  buffers : before.buffers.Evolves after.buffers
  textures : before.textures.Evolves after.textures
  samplers : before.samplers.Evolves after.samplers
  pipelines : before.pipelines.Evolves after.pipelines

theorem Evolves.refl (resources : Resources) : Evolves resources resources :=
  ⟨.refl _, .refl _, .refl _, .refl _⟩

theorem Evolves.trans {first second third : Resources} (front : Evolves first second)
    (back : Evolves second third) : Evolves first third :=
  ⟨front.buffers.trans back.buffers, front.textures.trans back.textures,
    front.samplers.trans back.samplers, front.pipelines.trans back.pipelines⟩

theorem Evolves.sound {before after : Resources} (evolves : Evolves before after)
    (sound : before.Sound) : after.Sound :=
  ⟨evolves.buffers.sound sound.buffers, evolves.textures.sound sound.textures,
    evolves.samplers.sound sound.samplers, evolves.pipelines.sound sound.pipelines⟩

theorem Evolves.dead {before after : Resources} (evolves : Evolves before after)
    {handle : Handle} {family : ResourceFamily} (dead : before.Dead handle family) :
    after.Dead handle family := by
  cases family with
  | buffer => exact evolves.buffers.dead handle dead
  | texture => exact evolves.textures.dead handle dead
  | sampler => exact evolves.samplers.dead handle dead
  | pipeline => exact evolves.pipelines.dead handle dead

/-- What is done to one table adds to its history, and to no other one. -/
theorem evolves_setTable {resources : Resources} {family : ResourceFamily}
    {table : SlotTable family family.Stored}
    (evolves : (resources.table family).Evolves table) :
    Evolves resources (resources.setTable family table) := by
  cases family with
  | buffer => exact ⟨evolves, .refl _, .refl _, .refl _⟩
  | texture => exact ⟨.refl _, evolves, .refl _, .refl _⟩
  | sampler => exact ⟨.refl _, .refl _, evolves, .refl _⟩
  | pipeline => exact ⟨.refl _, .refl _, .refl _, evolves⟩

/-- Heaps have no part in the histories of tables. -/
theorem evolves_setHeap (resources : Resources) (heapType : HeapType) (heap : DescriptorHeap) :
    Evolves resources (resources.setHeap heapType heap) := by
  cases heapType
  all_goals exact ⟨.refl _, .refl _, .refl _, .refl _⟩

end Resources

/-! ## Devices -/

namespace Device

/-- From one state of a device to a later one, the tables have a history and the native device
advances. -/
structure Evolves (before after : Device) : Prop where
  resources : before.resources.Evolves after.resources
  native : before.native.Advances after.native

theorem Evolves.refl (device : Device) : Evolves device device := ⟨.refl _, .refl _⟩

theorem Evolves.trans {first second third : Device} (front : Evolves first second)
    (back : Evolves second third) : Evolves first third :=
  ⟨front.resources.trans back.resources, front.native.trans back.native⟩

/-- Storing a resource adds to the history of its table. -/
theorem evolves_make (device : Device) (description : ResourceDescription) :
    device.Evolves (device.make description).2 := by
  constructor
  case resources =>
    rcases device.resources_make description with same | ⟨object, same⟩
    all_goals rw [same]
    · exact .refl _
    · exact Resources.evolves_setTable (SlotTable.evolves_allocate _ _)
  case native =>
    rcases device.native_make description with same | same
    all_goals rw [same]
    · exact .refl _
    · exact device.native.advances_createObject

theorem evolves_dispose (device : Device) (handle : Handle) (family : ResourceFamily) :
    device.Evolves (device.dispose handle family).2 := by
  rw [dispose_eq]
  exact ⟨Resources.evolves_setTable (SlotTable.evolves_free _ _), .refl _⟩

/-- A handle whose resource was disposed of is dead. -/
theorem dead_of_dispose {device : Device} (sound : device.resources.Sound) {handle : Handle}
    {family : ResourceFamily} (disposed : (device.dispose handle family).1 = .ok ()) :
    (device.dispose handle family).2.resources.Dead handle family := by
  rw [dispose_eq] at disposed ⊢
  obtain ⟨value, freed, _⟩ := map_eq_ok.mp disposed
  rw [Resources.dead_iff]
  dsimp only
  rw [Resources.table_setTable]
  exact (sound.table family).dead_of_free freed

/-- Only a handle that names an object is disposed of. -/
theorem names_of_dispose {device : Device} {handle : Handle} {family : ResourceFamily}
    (disposed : (device.dispose handle family).1 = .ok ()) :
    ∃ object, device.resources.Names handle object family := by
  cases family
  all_goals
    obtain ⟨value, freed, _⟩ := map_eq_ok.mp disposed
    exact ⟨_, value, SlotTable.get_of_free freed, rfl⟩

/-- Giving a range back does nothing, or adds it to the free blocks of one heap. -/
theorem freeDescriptors_cases (device : Device) (range : DescriptorRange) :
    (device.freeDescriptors range).2 = device ∨ ∃ heapType,
      (device.freeDescriptors range).2 = device.setHeap heapType
        { device.resources.heap heapType with
          allocator := (device.resources.heap heapType).allocator.free range } := by
  unfold freeDescriptors
  split
  · exact .inl rfl
  · rename_i heapType _
    dsimp only
    split
    · exact .inl rfl
    · exact .inr ⟨heapType, rfl⟩

/-- Writing does nothing, or fills one slot of one heap. -/
theorem writeDescriptor_cases (device : Device) (range : DescriptorRange) (index : Nat)
    (source : DescriptorView Handle) :
    (device.writeDescriptor range index source).2 = device ∨ ∃ heapType view,
      (device.writeDescriptor range index source).2 = device.setHeap heapType
        ((device.resources.heap heapType).write (range.offset + index) view) := by
  unfold writeDescriptor
  split
  · exact .inl rfl
  · split
    · exact .inl rfl
    · rename_i heapType _
      dsimp only
      split
      · exact .inl rfl
      · split
        · exact .inl rfl
        · exact .inr ⟨heapType, _, rfl⟩

theorem evolves_freeDescriptors (device : Device) (range : DescriptorRange) :
    device.Evolves (device.freeDescriptors range).2 := by
  rcases device.freeDescriptors_cases range with same | ⟨heapType, same⟩
  all_goals rw [same]
  · exact .refl _
  · exact ⟨Resources.evolves_setHeap _ _ _, .refl _⟩

theorem evolves_writeDescriptor (device : Device) (range : DescriptorRange) (index : Nat)
    (source : DescriptorView Handle) :
    device.Evolves (device.writeDescriptor range index source).2 := by
  rcases device.writeDescriptor_cases range index source with same | ⟨heapType, view, same⟩
  all_goals rw [same]
  · exact .refl _
  · exact ⟨Resources.evolves_setHeap _ _ _, .refl _⟩

/-- A device that changes in its native part only evolves as that part advances. -/
theorem evolves_of_advances {device : Device} {native : NativeDevice}
    (advances : device.native.Advances native) :
    device.Evolves { device with native := native } :=
  ⟨.refl _, advances⟩

/-- A new device keeps the invariant of tables. -/
theorem sound_of_create {native : NativeDevice} {description : DeviceDescription}
    {device : Device} (created : create native description = .ok device) :
    device.resources.Sound := by
  unfold create at created
  split at created
  · rename_i chunk_pos
    simp only [bind_eq_ok, pure_eq_ok] at created
    obtain ⟨_, _, _, _, _, _, _, _, rfl⟩ := created
    exact ⟨SlotTable.sound_empty _ chunk_pos, SlotTable.sound_empty _ chunk_pos,
      SlotTable.sound_empty _ chunk_pos, SlotTable.sound_empty _ chunk_pos⟩
  · cases created

end Device

/-- A submission reads the tables and advances the native device. -/
theorem Queue.Submits.evolves {queue after : Queue} {device final : Device}
    {buffers : List CommandBuffer} {dependencies : List Token}
    {answer : Except SubmitError Token}
    (submits : queue.Submits device buffers dependencies answer after final) :
    device.Evolves final := by
  refine ⟨?_, submits.advances⟩
  rw [submits.resources_eq]
  exact .refl _

/-! ## Sessions -/

namespace Session

/-- A queue that is made takes two identities, one of them for its fence. -/
theorem evolves_createQueue (session : Session) (native type : QueueType) :
    session.device.Evolves (session.createQueue native type).device := by
  have made : session.device.native.Advances (session.device.native.createQueue native).2 :=
    NativeDevice.advances_of_fences rfl (Nat.le_succ _)
  have fenced := (session.device.native.createQueue native).2.advances_createFence 0
  rw [createQueue]
  dsimp only
  rw [Device.createQueue]
  dsimp only
  cases created : (session.device.native.createQueue native).2.createFence 0 with
  | mk answer final =>
    rw [created] at fenced
    cases answer with
    | error cause => exact Device.evolves_of_advances (made.trans fenced)
    | ok fence => exact Device.evolves_of_advances (made.trans fenced)

/-- The device of a session evolves with every action. -/
theorem evolves_perform (session : Session) (action : Action) :
    session.device.Evolves (session.perform action).device := by
  cases action with
  | createBuffer description => exact session.device.evolves_make (.buffer description)
  | createTexture description => exact session.device.evolves_make (.texture description)
  | createSampler description => exact session.device.evolves_make (.sampler description)
  | createPipeline description => exact session.device.evolves_make (.pipeline description)
  | dispose family handle => exact session.device.evolves_dispose handle family
  | allocateDescriptors heapType count => exact ⟨Resources.evolves_setHeap _ _ _, .refl _⟩
  | freeDescriptors range => exact session.device.evolves_freeDescriptors range
  | writeDescriptor range index source =>
    exact session.device.evolves_writeDescriptor range index source
  | createQueue native type => exact session.evolves_createQueue native type
  | submit index buffers dependencies =>
    rw [perform, submit]
    split
    · exact .refl _
    · rename_i queue _
      exact (queue.submits session.device buffers dependencies).evolves
  | completeAll => exact Device.evolves_of_advances session.device.native.advances_completeAll
  | _ =>
    exact Device.evolves_of_advances (NativeDevice.advances_of_fences rfl (Nat.le_refl _))

/-- The device of a session evolves with actions in a row. -/
theorem evolves_after (session : Session) (actions : List Action) :
    session.device.Evolves (session.after actions).device := by
  induction actions generalizing session with
  | nil => exact .refl _
  | cons action later inductionHypothesis =>
    exact (session.evolves_perform action).trans (inductionHypothesis (session.perform action))

end Session

end CommandStream
