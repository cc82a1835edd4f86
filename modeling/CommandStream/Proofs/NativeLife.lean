import CommandStream.Proofs.Chronicle
/-!
# The objects in the life of a native device

A native device numbers the objects that are created on it. Its life is a list of operations, some
of which create an object (`Operates`), and `Lives` collects the objects. Numbers are given in
order, so the number that comes next is that of no object in any life up to then
(`Lives.nextId_notMem`). What is done in a session is a life of the native device
(`Session.lives_after`): resources and heaps are created in it, queues and their fences, and with
submissions the allocators and lists that they need.
-/

namespace CommandStream

namespace NativeDevice

/-- An operation on a native device, with the object that it creates, if it creates one. -/
inductive Operates (device : NativeDevice) : Option ObjectId → NativeDevice → Prop
  | object {object : ObjectId} {after : NativeDevice}
      (made : device.createObject = (.ok object, after)) : Operates device (some object) after
  | queue (type : QueueType) :
      Operates device (some (device.createQueue type).1.id) (device.createQueue type).2
  | fence {initial : Nat} {object : ObjectId} {after : NativeDevice}
      (made : device.createFence initial = (.ok object, after)) :
      Operates device (some object) after
  | allocator {type : QueueType} {allocator : CommandAllocator} {after : NativeDevice}
      (made : device.createAllocator type = (.ok allocator, after)) :
      Operates device (some allocator.id) after
  | list {type : QueueType} {allocator : CommandAllocator} {list : CommandList}
      {after : NativeDevice} (made : device.createList type allocator = (.ok list, after)) :
      Operates device (some list.id) after
  | reset (allocator : CommandAllocator) :
      Operates device none (device.resetAllocator allocator).2
  | wait (fence : ObjectId) (value : Nat) : Operates device none (device.wait fence value).2
  | execute (queue : NativeQueue) (lists : List CommandList) :
      Operates device none (device.execute queue lists).2
  | signal (fence : ObjectId) (value : Nat) : Operates device none (device.signal fence value).2
  | drop (fence : ObjectId) : Operates device none (device.dropFence fence)
  | setAutoComplete (on : Bool) : Operates device none (device.setAutoComplete on)
  | completeAll : Operates device none device.completeAll
  | lose : Operates device none device.lose
  | armSignalFailure : Operates device none device.armSignalFailure
  | clearLog : Operates device none device.clearLog

/-- The life of a device from one state to a later one, with the objects created in it, the oldest
first. -/
inductive Lives : NativeDevice → List ObjectId → NativeDevice → Prop
  | here (device : NativeDevice) : Lives device [] device
  | operates {device middle final : NativeDevice} {created : Option ObjectId}
      {objects : List ObjectId} (operates : device.Operates created middle)
      (lives : Lives middle objects final) : Lives device (created.toList ++ objects) final

variable {device middle after final : NativeDevice}

/-- Objects are numbered in order, and nothing else changes the number that comes next. -/
theorem nextId_of_operates {created : Option ObjectId}
    (operates : device.Operates created after) :
    (created = none ∧ after.nextId = device.nextId) ∨
      created = some device.nextId ∧ after.nextId = device.nextId + 1 := by
  cases operates with
  | object made =>
    unfold createObject at made
    split at made
    all_goals cases made
    exact .inr ⟨rfl, rfl⟩
  | queue => exact .inr ⟨rfl, rfl⟩
  | fence made =>
    unfold createFence at made
    split at made
    all_goals cases made
    exact .inr ⟨rfl, rfl⟩
  | allocator made =>
    unfold createAllocator at made
    split at made
    all_goals cases made
    exact .inr ⟨rfl, rfl⟩
  | list made =>
    unfold createList at made
    split at made
    · cases made
    · split at made
      all_goals cases made
      exact .inr ⟨rfl, rfl⟩
  | reset =>
    unfold resetAllocator
    split <;> exact .inl ⟨rfl, rfl⟩
  | wait =>
    unfold wait
    split <;> exact .inl ⟨rfl, rfl⟩
  | execute =>
    unfold execute
    split
    · exact .inl ⟨rfl, rfl⟩
    · split <;> exact .inl ⟨rfl, rfl⟩
  | signal =>
    unfold signal
    split
    · exact .inl ⟨rfl, rfl⟩
    · split
      · exact .inl ⟨rfl, rfl⟩
      · dsimp only
        split <;> exact .inl ⟨rfl, rfl⟩
  | _ => exact .inl ⟨rfl, rfl⟩

namespace Lives

variable {objects : List ObjectId}

/-- The objects of a life are numbered in a row, up to the number that comes next. -/
theorem objects_eq (lives : device.Lives objects final) :
    objects = List.range' device.nextId objects.length ∧
      final.nextId = device.nextId + objects.length := by
  induction lives with
  | here device => exact ⟨rfl, rfl⟩
  | operates operates _ inductionHypothesis =>
    obtain ⟨behind, last⟩ := inductionHypothesis
    rcases nextId_of_operates operates with ⟨rfl, same⟩ | ⟨rfl, next⟩
    · rw [same] at behind last
      exact ⟨behind, last⟩
    · rw [next] at behind last
      rw [Option.toList_some, List.singleton_append, List.length_cons]
      refine ⟨?_, ?_⟩
      · rw [List.range'_succ, ← behind]
      · rw [last, Nat.add_assoc, Nat.add_comm 1]

/-- The number that comes next is that of no object so far. -/
theorem nextId_notMem (lives : device.Lives objects final) : final.nextId ∉ objects := by
  obtain ⟨isRow, last⟩ := lives.objects_eq
  rw [isRow, last]
  intro member
  exact Nat.lt_irrefl _ (List.mem_range'_1.mp member).2

theorem trans {later : List ObjectId} (front : device.Lives objects middle)
    (back : middle.Lives later final) : device.Lives (objects ++ later) final := by
  induction front with
  | here => exact back
  | operates operates _ inductionHypothesis =>
    rw [List.append_assoc]
    exact .operates operates (inductionHypothesis back)

end Lives

/-- A state that the life of a device comes to. -/
def Reaches (device final : NativeDevice) : Prop := ∃ objects, device.Lives objects final

namespace Reaches

theorem refl (device : NativeDevice) : device.Reaches device := ⟨[], .here device⟩

theorem trans (front : device.Reaches middle) (back : middle.Reaches final) :
    device.Reaches final := by
  obtain ⟨objects, front⟩ := front
  obtain ⟨later, back⟩ := back
  exact ⟨objects ++ later, front.trans back⟩

theorem of_operates {created : Option ObjectId} (operates : device.Operates created after) :
    device.Reaches after :=
  ⟨_, .operates operates (.here after)⟩

end Reaches

/-! ## Operations in a row -/

theorem reaches_createObject (device : NativeDevice) :
    device.Reaches device.createObject.2 := by
  rcases made : device.createObject with ⟨error | object, after⟩
  · unfold createObject at made
    split at made
    · cases made
      exact .refl device
    · cases made
  · exact .of_operates (.object made)

theorem reaches_grown (present : device.lost = false) (lists : Nat) :
    device.Reaches (device.grown lists) := by
  induction lists generalizing device with
  | zero => exact .refl device
  | succ lists inductionHypothesis =>
    have made : device.createList .copy ⟨0, .copy, 0⟩ =
        (.ok ⟨device.nextId, .copy, false, []⟩, device.grown 1) := by
      rw [createList, if_neg (Bool.eq_false_iff.mp present), if_neg (not_not_intro rfl)]
      rfl
    have behind : (device.grown 1).Reaches ((device.grown 1).grown lists) :=
      inductionHypothesis present
    rw [grown_grown, Nat.add_comm] at behind
    exact .trans (.of_operates (.list made)) behind

theorem reaches_waits (present : device.lost = false) (tokens : List Token) :
    device.Reaches (device.logged (tokens.map Token.waiting)) := by
  induction tokens generalizing device with
  | nil =>
    rw [List.map_nil, logged_nil]
    exact .refl device
  | cons token later inductionHypothesis =>
    have waited : (device.wait token.fence token.value).2 = device.logged [token.waiting] := by
      rw [wait, if_neg (Bool.eq_false_iff.mp present)]
      rfl
    have behind : (device.logged [token.waiting]).Reaches
        ((device.logged [token.waiting]).logged (later.map Token.waiting)) :=
      inductionHypothesis present
    rw [← waited] at behind
    have first : device.Reaches (device.wait token.fence token.value).2 :=
      .of_operates (.wait token.fence token.value)
    have all : (device.wait token.fence token.value).2.logged (later.map Token.waiting) =
        device.logged ((token :: later).map Token.waiting) := by
      rw [waited]
      simp [logged]
    rw [all] at behind
    exact first.trans behind

end NativeDevice

namespace Queue

open NativeDevice

variable {queue acquired after : Queue} {device state final : NativeDevice}

theorem Acquires.reaches {allocator : CommandAllocator} (present : device.lost = false)
    (acquires : queue.Acquires device allocator acquired state) : device.Reaches state := by
  cases acquires with
  | @recycled front later pooled complete =>
    have recycled : (device.resetAllocator front.allocator).2 = device.recycled := by
      rw [resetAllocator, if_neg (Bool.eq_false_iff.mp present)]
      rfl
    exact recycled ▸ .of_operates (.reset front.allocator)
  | created busy =>
    have created : device.createAllocator queue.type =
        (.ok ⟨device.nextId, queue.type, 0⟩, device.extended) :=
      if_neg (Bool.eq_false_iff.mp present)
    exact .of_operates (.allocator created)

theorem Signals.reaches {used : Option CommandAllocator} {answer : Except SubmitError Token}
    (present : device.lost = false) (signals : queue.Signals device used answer after final) :
    device.Reaches final := by
  have notLost := Bool.eq_false_iff.mp present
  have signal : device.Reaches (device.signal queue.fence (queue.lastSubmitted + 1)).2 :=
    .of_operates (.signal _ _)
  cases signals with
  | signaled unarmed =>
    rw [NativeDevice.signal, if_neg notLost, if_neg (Bool.eq_false_iff.mp unarmed)] at signal
    exact signal
  | failed armed =>
    rw [NativeDevice.signal, if_neg notLost, if_pos armed] at signal
    exact signal

/-- Lists that were executed are executed on a queue of their type. -/
theorem reaches_execute (present : device.lost = false) (recorded : List (List Call)) :
    device.Reaches (device.logged [.execute recorded]) := by
  let lists : List CommandList := recorded.map fun calls => ⟨0, .copy, false, calls⟩
  have closed : ¬(lists.any fun list => list.recording || list.type != .copy) = true := by
    simp [lists]
  have calls : lists.map CommandList.calls = recorded := by simp [lists, Function.comp_def]
  have executed : (device.execute ⟨0, .copy⟩ lists).2 = device.logged [.execute recorded] := by
    rw [NativeDevice.execute, if_neg (Bool.eq_false_iff.mp present), if_neg closed, calls]
    rfl
  exact executed ▸ .of_operates (.execute ⟨0, .copy⟩ lists)

theorem Delivers.reaches {resources : Resources} {work : List CommandBuffer}
    {answer : Except SubmitError CommandAllocator} (present : device.lost = false)
    (delivers : queue.Delivers device resources work answer after final) :
    device.Reaches final := by
  cases delivers with
  | unrecorded acquires =>
    exact (acquires.reaches present).trans (reaches_grown (acquires.lost_eq.trans present) _)
  | refused acquires =>
    exact (acquires.reaches present).trans (reaches_grown (acquires.lost_eq.trans present) _)
  | @executed _ _ state _ created recorded acquires =>
    have stillPresent : state.lost = false := acquires.lost_eq.trans present
    have grownPresent : (state.grown created).lost = false := stillPresent
    exact (acquires.reaches present).trans ((reaches_grown stillPresent created).trans
      (reaches_execute grownPresent recorded))

/-- A submission is a part of the life of the device. -/
theorem Submits.reaches {device final : Device} {buffers : List CommandBuffer}
    {dependencies : List Token} {answer : Except SubmitError Token}
    (submits : queue.Submits device buffers dependencies answer after final) :
    device.native.Reaches final.native := by
  cases submits with
  | idle => exact .refl _
  | closed => exact .refl _
  | works usable pending works =>
    cases works with
    | lost => exact .refl _
    | waited present noWork signals =>
      exact (reaches_waits present _).trans (signals.reaches present)
    | failed present someWork delivers =>
      exact (reaches_waits present _).trans (delivers.reaches present)
    | delivered present someWork delivers signals =>
      have loggedPresent (events : List QueueEvent) :
          (device.native.logged events).lost = false := present
      exact (reaches_waits present _).trans ((delivers.reaches (loggedPresent _)).trans
        (signals.reaches (delivers.present (loggedPresent _))))

end Queue

/-! ## Sessions -/

/-- A new device comes with its heaps. -/
theorem Device.reaches_of_create {native : NativeDevice} {description : DeviceDescription}
    {device : Device} (created : create native description = .ok device) :
    native.Reaches device.native := by
  unfold create at created
  split at created
  · simp only [bind_eq_ok, pure_eq_ok] at created
    obtain ⟨_, _, _, _, _, _, _, _, rfl⟩ := created
    exact native.reaches_createObject.trans native.createObject.2.reaches_createObject
  · cases created

namespace Session

open NativeDevice

/-- Only a working device makes a queue, but a native queue is created before that is known. -/
theorem reaches_createQueue (session : Session) (native type : QueueType) :
    session.device.native.Reaches (session.createQueue native type).device.native := by
  have queue : session.device.native.Reaches (session.device.native.createQueue native).2 :=
    .of_operates (.queue native)
  rw [createQueue]
  dsimp only
  rw [Device.createQueue]
  dsimp only
  rcases made : (session.device.native.createQueue native).2.createFence 0 with
    ⟨error | fence, after⟩
  · unfold createFence at made
    split at made
    · cases made
      exact queue
    · cases made
  · exact queue.trans (.of_operates (.fence made))

/-- Every action is a part of the life of the native device. -/
theorem reaches_perform (session : Session) (action : Action) :
    session.device.native.Reaches (session.perform action).device.native := by
  have made (description : ResourceDescription) :
      session.device.native.Reaches (session.device.make description).2.native := by
    rcases session.device.native_make description with same | same
    all_goals rw [same]
    · exact .refl _
    · exact session.device.native.reaches_createObject
  cases action with
  | createBuffer description => exact made (.buffer description)
  | createTexture description => exact made (.texture description)
  | createSampler description => exact made (.sampler description)
  | createPipeline description => exact made (.pipeline description)
  | dispose family handle =>
    rw [perform, session.device.native_dispose]
    exact .refl _
  | allocateDescriptors heapType count => exact .refl _
  | freeDescriptors range =>
    rw [perform, session.device.native_freeDescriptors]
    exact .refl _
  | writeDescriptor range index source =>
    rw [perform, session.device.native_writeDescriptor]
    exact .refl _
  | createQueue native type => exact session.reaches_createQueue native type
  | submit index buffers dependencies =>
    rw [perform, submit]
    split
    · exact .refl _
    · rename_i queue _
      exact (queue.submits session.device buffers dependencies).reaches
  | setAutoComplete on => exact .of_operates (.setAutoComplete on)
  | completeAll => exact .of_operates .completeAll
  | lose => exact .of_operates .lose
  | armSignalFailure => exact .of_operates .armSignalFailure
  | clearLog => exact .of_operates .clearLog

/-- So are actions in a row. -/
theorem reaches_after (session : Session) (actions : List Action) :
    session.device.native.Reaches (session.after actions).device.native := by
  induction actions generalizing session with
  | nil => exact .refl _
  | cons action later inductionHypothesis =>
    exact (session.reaches_perform action).trans (inductionHypothesis (session.perform action))

end Session

end CommandStream
