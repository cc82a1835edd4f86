import CommandStream.Proofs.Submission
/-!
# What only grows on a native device

No identity is given twice and no fence goes back: whatever is done to a device, the identity of
its next object and the value completed on each fence are at least what they were. `Advances` says
so for each operation and for a submission with all that it does.
-/

namespace CommandStream

namespace NativeDevice

/-- From one state of a device to a later one, identities are not given again and completed values
stay completed. -/
structure Advances (before after : NativeDevice) : Prop where
  nextId : before.nextId ≤ after.nextId
  completed : ∀ fence, before.completedValue fence ≤ after.completedValue fence

theorem Advances.refl (device : NativeDevice) : Advances device device :=
  ⟨Nat.le_refl _, fun _ => Nat.le_refl _⟩

theorem Advances.trans {first second third : NativeDevice} (front : Advances first second)
    (back : Advances second third) : Advances first third :=
  ⟨Nat.le_trans front.nextId back.nextId,
    fun fence => Nat.le_trans (front.completed fence) (back.completed fence)⟩

/-- What leaves the fences alone advances the device if it gives identities in order. -/
theorem advances_of_fences {before after : NativeDevice} (fences : after.fences = before.fences)
    (nextId : before.nextId ≤ after.nextId) : Advances before after := by
  refine ⟨nextId, fun fence => Nat.le_of_eq ?_⟩
  rw [completedValue, completedValue, fence?, fence?, fences]

/-- Fences that are changed in place, without going back, keep what they completed. -/
theorem completedValue_le_map (device : NativeDevice) {change : Fence → Fence}
    (sameId : ∀ fence, (change fence).id = fence.id)
    (grows : ∀ fence, fence.completed ≤ (change fence).completed) (id : ObjectId) :
    device.completedValue id ≤
      { device with fences := device.fences.map change }.completedValue id := by
  have found : { device with fences := device.fences.map change }.fence? id =
      (device.fence? id).map change := by
    simp only [fence?, List.find?_map, Function.comp_def, sameId]
  rw [completedValue, completedValue, found]
  cases device.fence? id with
  | none => exact Nat.le_refl _
  | some fence => exact grows fence

theorem advances_updateFence (device : NativeDevice) (id : ObjectId) {change : Fence → Fence}
    (sameId : ∀ fence, (change fence).id = fence.id)
    (grows : ∀ fence, fence.completed ≤ (change fence).completed) :
    Advances device (device.updateFence id change) := by
  refine ⟨Nat.le_refl _, completedValue_le_map device ?_ ?_⟩
  · intro fence
    split
    · exact sameId fence
    · rfl
  · intro fence
    split
    · exact grows fence
    · exact Nat.le_refl _

theorem advances_completeAll (device : NativeDevice) : Advances device device.completeAll :=
  ⟨Nat.le_refl _, completedValue_le_map device (fun _ => rfl) fun _ => Nat.le_max_left _ _⟩

theorem advances_createObject (device : NativeDevice) :
    Advances device device.createObject.2 := by
  unfold createObject
  split
  · exact .refl device
  · exact advances_of_fences rfl (Nat.le_succ _)

/-- A new fence comes behind those that are there. -/
theorem advances_createFence (device : NativeDevice) (initial : Nat) :
    Advances device (device.createFence initial).2 := by
  unfold createFence
  split
  · exact .refl device
  · refine ⟨Nat.le_succ _, fun id => ?_⟩
    rw [completedValue, completedValue, fence?, fence?, List.find?_append]
    cases device.fences.find? fun fence => fence.id == id with
    | none => exact Nat.zero_le _
    | some fence => exact Nat.le_refl _

theorem advances_logged (device : NativeDevice) (events : List QueueEvent) :
    Advances device (device.logged events) :=
  advances_of_fences rfl (Nat.le_refl _)

theorem advances_grown (device : NativeDevice) (lists : Nat) :
    Advances device (device.grown lists) :=
  advances_of_fences rfl (Nat.le_add_right _ _)

theorem advances_signaled (device : NativeDevice) (fence : ObjectId) (value : Nat) :
    Advances device (device.signaled fence value) := by
  have changed : Advances device (device.updateFence fence fun state => state.signal value) :=
    advances_updateFence device fence (fun _ => rfl) fun _ => Nat.le_refl _
  unfold signaled
  dsimp only
  split
  · have completed : Advances (device.updateFence fence fun state => state.signal value)
        ((device.updateFence fence fun state => state.signal value).updateFence fence
          fun state => state.complete value) :=
      advances_updateFence _ fence (fun _ => rfl) fun _ => Nat.le_max_left _ _
    exact changed.trans (completed.trans (advances_of_fences rfl (Nat.le_refl _)))
  · exact changed.trans (advances_of_fences rfl (Nat.le_refl _))

end NativeDevice

namespace Queue

theorem Acquires.advances {queue acquired : Queue} {device state : NativeDevice}
    {allocator : CommandAllocator} (acquires : queue.Acquires device allocator acquired state) :
    device.Advances state := by
  cases acquires with
  | recycled => exact NativeDevice.advances_of_fences rfl (Nat.le_refl _)
  | created => exact NativeDevice.advances_of_fences rfl (Nat.le_succ _)

theorem Signals.advances {queue after : Queue} {device final : NativeDevice}
    {used : Option CommandAllocator} {answer : Except SubmitError Token}
    (signals : queue.Signals device used answer after final) : device.Advances final := by
  cases signals with
  | signaled => exact device.advances_signaled _ _
  | failed => exact NativeDevice.advances_of_fences rfl (Nat.le_refl _)

theorem Delivers.advances {queue after : Queue} {device final : NativeDevice}
    {resources : Resources} {work : List CommandBuffer}
    {answer : Except SubmitError CommandAllocator}
    (delivers : queue.Delivers device resources work answer after final) :
    device.Advances final := by
  cases delivers with
  | unrecorded acquires => exact acquires.advances.trans (NativeDevice.advances_grown _ _)
  | refused acquires => exact acquires.advances.trans (NativeDevice.advances_grown _ _)
  | executed acquires =>
    exact acquires.advances.trans
      ((NativeDevice.advances_grown _ _).trans (NativeDevice.advances_logged _ _))

/-- A submission gives identities in order and takes back nothing that was complete. -/
theorem Submits.advances {queue after : Queue} {device final : Device}
    {buffers : List CommandBuffer} {dependencies : List Token}
    {answer : Except SubmitError Token}
    (submits : queue.Submits device buffers dependencies answer after final) :
    device.native.Advances final.native := by
  cases submits with
  | idle => exact .refl _
  | closed => exact .refl _
  | works usable pending works =>
    cases works with
    | lost => exact .refl _
    | waited present noWork signals =>
      exact (NativeDevice.advances_logged _ _).trans signals.advances
    | failed present someWork delivers =>
      exact (NativeDevice.advances_logged _ _).trans delivers.advances
    | delivered present someWork delivers signals =>
      exact (NativeDevice.advances_logged _ _).trans (delivers.advances.trans signals.advances)

end Queue

end CommandStream
