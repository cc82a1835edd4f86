import CommandStream.Proofs.Translation
import CommandStream.Submission.Queue
/-!
# What a submission does

`Submits` lists everything that a submission can come to, with the queue and the device after it:
that nothing is to be done, that the device or the queue is lost, that only waits were asked for,
that a buffer is not recorded, that the lists are refused, or that they are executed. A property of
queues along their runs is a case analysis of these rules; the code of a submission is opened here
and, for the lists and allocators that it leaves in the pools, in one other place.
-/

namespace CommandStream

/-! ## Native devices -/

namespace NativeDevice

/-- The device after events reached its queues. -/
def logged (device : NativeDevice) (events : List QueueEvent) : NativeDevice :=
  { device with log := device.log ++ events }

/-- The device after command lists were created. -/
def grown (device : NativeDevice) (lists : Nat) : NativeDevice :=
  { device with nextId := device.nextId + lists, listsCreated := device.listsCreated + lists }

/-- The device after an allocator was recycled. -/
def recycled (device : NativeDevice) : NativeDevice :=
  { device with allocatorResets := device.allocatorResets + 1 }

/-- The device after an allocator was created. -/
def extended (device : NativeDevice) : NativeDevice :=
  { device with
    nextId := device.nextId + 1
    allocatorsCreated := device.allocatorsCreated + 1 }

@[simp] theorem grown_grown (device : NativeDevice) (first second : Nat) :
    (device.grown first).grown second = device.grown (first + second) := by
  simp [grown, Nat.add_assoc]

@[simp] theorem logged_nil (device : NativeDevice) : device.logged [] = device := by
  simp [logged]

end NativeDevice

/-- The queue with other pooled lists. -/
def Queue.withLists (queue : Queue) (lists : List CommandList) : Queue :=
  { queue with lists := lists }

@[simp] theorem Queue.withLists_withLists (queue : Queue) (first second : List CommandList) :
    (queue.withLists first).withLists second = queue.withLists second := rfl

theorem Queue.poolLists_withLists (queue : Queue) (lists closed : List CommandList) :
    (queue.withLists lists).poolLists closed = queue.withLists (closed.reverse ++ lists) := rfl

theorem Queue.poolLists_poolAllocator (queue : Queue) (value : Nat) (allocator : CommandAllocator)
    (closed : List CommandList) :
    (queue.poolAllocator value allocator).poolLists closed =
      (queue.poolLists closed).poolAllocator value allocator := rfl

/-- The event that makes a queue wait for a token. -/
def Token.waiting (token : Token) : QueueEvent := .wait token.fence token.value

/-- A call that breaks the rules is not a loss of the device. -/
@[simp] theorem Queue.observe_invalidCall (queue : Queue) :
    queue.observe .invalidCall = queue := rfl

/-! ## Waits -/

/-- A working device takes all waits. -/
theorem Queue.issueWaits_of_present {device : NativeDevice} (present : device.lost = false)
    (waits : List Token) :
    issueWaits device waits = (.ok (), device.logged (waits.map Token.waiting)) := by
  induction waits generalizing device with
  | nil => rw [issueWaits, List.map_nil, NativeDevice.logged_nil]
  | cons token later inductionHypothesis =>
    have waited : device.wait token.fence token.value =
        (.ok (), device.logged [token.waiting]) := by
      rw [NativeDevice.wait, if_neg (Bool.eq_false_iff.mp present)]
      rfl
    rw [issueWaits, waited]
    dsimp only
    have stillPresent : (device.logged [token.waiting]).lost = false := present
    rw [inductionHypothesis stillPresent]
    simp [NativeDevice.logged]

/-- A lost device takes no wait. -/
theorem Queue.issueWaits_of_lost {device : NativeDevice} (gone : device.lost = true)
    {waits : List Token} (someWaits : waits ≠ []) :
    issueWaits device waits = (.error .deviceLost, device) := by
  cases waits with
  | nil => exact absurd rfl someWaits
  | cons token later => rw [issueWaits, NativeDevice.wait, if_pos gone]

/-! ## Allocators -/

/-- Where the allocator of a submission comes from: the front of the pool, when the value it was
put there with is complete, and otherwise it is new. -/
inductive Queue.Acquires (queue : Queue) (device : NativeDevice) :
    CommandAllocator → Queue → NativeDevice → Prop
  | recycled {front : PooledAllocator} {later : List PooledAllocator}
      (pooled : queue.allocators = front :: later)
      (complete : front.value ≤ device.completedValue queue.fence) :
      Acquires queue device { front.allocator with resets := front.allocator.resets + 1 }
        { queue with allocators := later } device.recycled
  | created (busy : ∀ front ∈ queue.allocators.head?,
        device.completedValue queue.fence < front.value) :
      Acquires queue device ⟨device.nextId, queue.type, 0⟩ queue device.extended

/-- On a working device every submission gets an allocator. -/
theorem Queue.acquireAllocator_of_present (queue : Queue) {device : NativeDevice}
    (present : device.lost = false) :
    ∃ allocator acquired state,
      queue.acquireAllocator device = (.ok allocator, acquired, state) ∧
        queue.Acquires device allocator acquired state := by
  have notLost := Bool.eq_false_iff.mp present
  have create : queue.createAllocator device =
      (.ok ⟨device.nextId, queue.type, 0⟩, queue, device.extended) := by
    rw [createAllocator, NativeDevice.createAllocator, if_neg notLost]
    rfl
  unfold acquireAllocator
  split
  · rename_i empty
    refine ⟨_, _, _, create, .created ?_⟩
    rw [empty]
    exact nofun
  · rename_i front later pooled
    by_cases complete : front.value ≤ device.completedValue queue.fence
    · rw [if_pos complete, NativeDevice.resetAllocator, if_neg notLost]
      exact ⟨_, _, _, rfl, .recycled pooled complete⟩
    · rw [if_neg complete]
      refine ⟨_, _, _, create, .created ?_⟩
      rw [pooled]
      rintro _ ⟨⟩
      exact Nat.lt_of_not_le complete

/-- What a lost device leaves of the pool: an allocator that was to be recycled is given up. -/
inductive Queue.Forfeits (queue : Queue) (device : NativeDevice) : List PooledAllocator → Prop
  | nothing : Forfeits queue device queue.allocators
  | front {front : PooledAllocator} {later : List PooledAllocator}
      (pooled : queue.allocators = front :: later)
      (complete : front.value ≤ device.completedValue queue.fence) :
      Forfeits queue device later

/-- A lost device leaves the pool or all behind its front. -/
theorem Queue.Forfeits.suffix {queue : Queue} {device : NativeDevice} {pool : List PooledAllocator}
    (forfeits : queue.Forfeits device pool) : pool <:+ queue.allocators := by
  cases forfeits with
  | nothing => exact List.suffix_rfl
  | front pooled complete => exact pooled ▸ List.suffix_cons _ _

/-- A lost device gives no allocator. -/
theorem Queue.acquireAllocator_of_lost (queue : Queue) {device : NativeDevice}
    (gone : device.lost = true) :
    ∃ pool, queue.Forfeits device pool ∧
      queue.acquireAllocator device =
        (.error .deviceLost, { queue with allocators := pool, lost := true }, device) := by
  have create : queue.createAllocator device =
      (.error .deviceLost, { queue with lost := true }, device) := by
    rw [createAllocator, NativeDevice.createAllocator, if_pos gone]
    rfl
  unfold acquireAllocator
  split
  · exact ⟨queue.allocators, .nothing, create⟩
  · rename_i front later pooled
    by_cases complete : front.value ≤ device.completedValue queue.fence
    · rw [if_pos complete, NativeDevice.resetAllocator, if_pos gone]
      exact ⟨later, .front pooled complete, rfl⟩
    · rw [if_neg complete]
      exact ⟨queue.allocators, .nothing, create⟩

/-! ## Recording -/

/-- Only calls that break the rules keep a working device from giving a list. -/
theorem Queue.acquireList_of_present (queue : Queue) {device : NativeDevice}
    (present : device.lost = false) (allocator : CommandAllocator) :
    ∃ lists created,
      queue.acquireList device allocator =
          (.error .invalidCall, queue.withLists lists, device.grown created) ∨
        ∃ list, queue.acquireList device allocator =
          (.ok list, queue.withLists lists, device.grown created) := by
  unfold acquireList
  split
  · rename_i list later _
    exact ⟨later, 0, .inr ⟨list, rfl⟩⟩
  · rw [NativeDevice.createList, if_neg (Bool.eq_false_iff.mp present)]
    by_cases foreign : allocator.type ≠ queue.type
    · rw [if_pos foreign]
      exact ⟨queue.lists, 0, .inl rfl⟩
    · rw [if_neg foreign]
      exact ⟨queue.lists, 1, .inr ⟨_, rfl⟩⟩

theorem CommandList.error_of_reset {list : CommandList} {allocator : CommandAllocator}
    {pipeline : Option ObjectId} {cause : DeviceError}
    (failed : list.reset allocator pipeline = .error cause) : cause = .invalidCall := by
  unfold reset at failed
  split at failed
  · cases failed
    rfl
  · cases failed

theorem CommandList.calls_of_reset {list opened : CommandList} {allocator : CommandAllocator}
    {pipeline : Option ObjectId} (done : list.reset allocator pipeline = .ok opened) :
    opened.calls = [.reset allocator.id pipeline] := by
  unfold reset at done
  split at done
  · cases done
  · cases done
    rfl

theorem CommandList.error_of_close {list : CommandList} {cause : DeviceError}
    (failed : list.close = .error cause) : cause = .invalidCall := by
  unfold close at failed
  split at failed
  · cases failed
  · cases failed
    rfl

theorem CommandList.calls_of_close {list closed : CommandList} (done : list.close = .ok closed) :
    closed.calls = list.calls := by
  unfold close at done
  split at done
  · cases done
    rfl
  · cases done

/-- A record takes nothing from the buffers before: only the calls on the list depend on it. -/
theorem Interpreter.record_eq (interpreter : Interpreter) (resources : Resources)
    (list : CommandList) (buffer : CommandBuffer) :
    interpreter.record resources list buffer =
      (verdict (buffer.replay resources) buffer.walk, (buffer.replay resources).interpreter,
        list.push (.setDescriptorHeaps (resources.heaps.map DescriptorHeap.object) ::
          (buffer.replay resources).calls)) := rfl

namespace Queue.Recording

/-- What recording changes of the queue and of the device: the pooled lists and the lists
created. -/
structure Frame (before after : Recording) : Prop where
  lists : ∃ lists, after.queue = before.queue.withLists lists
  device : ∃ created, after.device = before.device.grown created

theorem Frame.refl (recording : Recording) : Frame recording recording := ⟨⟨_, rfl⟩, ⟨0, rfl⟩⟩

theorem Frame.trans {first second third : Recording} (front : Frame first second)
    (back : Frame second third) : Frame first third := by
  obtain ⟨⟨_, firstQueue⟩, ⟨created, firstDevice⟩⟩ := front
  obtain ⟨⟨lists, secondQueue⟩, ⟨more, secondDevice⟩⟩ := back
  refine ⟨⟨lists, ?_⟩, ⟨created + more, ?_⟩⟩
  · rw [secondQueue, firstQueue, withLists_withLists]
  · rw [secondDevice, firstDevice, NativeDevice.grown_grown]

theorem Frame.lost_eq {before after : Recording} (frame : Frame before after) :
    after.device.lost = before.device.lost := by
  obtain ⟨created, isDevice⟩ := frame.device
  rw [isDevice]
  rfl

/-- The calls of a buffer that was recorded: the list is opened with the pipeline that the buffer
binds first, the heaps are set, and the calls of the replay follow. -/
inductive Records (resources : Resources) (allocator : ObjectId) (buffer : CommandBuffer) :
    List Call → Prop
  | intro {initial : Option ObjectId} {statistics : ReplayStatistics}
      (isInitial : initialPipeline resources buffer = .ok initial)
      (verdict :
        Interpreter.verdict (buffer.replay resources) buffer.walk = .ok statistics) :
      Records resources allocator buffer
        (.reset allocator initial ::
          .setDescriptorHeaps (resources.heaps.map DescriptorHeap.object) ::
            (buffer.replay resources).calls)

/-- Recording a buffer on a working device changes lists only, and when it succeeds there is one
more list, with the calls of the buffer. -/
theorem add_of_present {recording : Recording} (present : recording.device.lost = false)
    (resources : Resources) (allocator : CommandAllocator) (buffer : CommandBuffer) :
    Frame recording (recording.add resources allocator buffer).2 ∧
      ((recording.add resources allocator buffer).1 = .ok () →
        ∃ closed, (recording.add resources allocator buffer).2.recorded =
            recording.recorded ++ [closed] ∧
          Records resources allocator.id buffer closed.calls) := by
  unfold add
  split
  · exact ⟨.refl recording, nofun⟩
  · rename_i initial isInitial
    obtain ⟨lists, created, acquired | ⟨list, acquired⟩⟩ :=
      recording.queue.acquireList_of_present present allocator
    · rw [acquired]
      exact ⟨⟨⟨lists, rfl⟩, ⟨created, rfl⟩⟩, nofun⟩
    · rw [acquired]
      dsimp only
      split
      · rename_i cause failed
        rw [CommandList.error_of_reset failed]
        exact ⟨⟨⟨_, rfl⟩, ⟨created, rfl⟩⟩, nofun⟩
      · rename_i opened isOpened
        rw [Interpreter.record_eq]
        split
        · exact ⟨⟨⟨lists, rfl⟩, ⟨created, rfl⟩⟩, nofun⟩
        · rename_i statistics interpreter filled recorded
          cases verdict : Interpreter.verdict (buffer.replay resources) buffer.walk with
          | error error => rw [verdict] at recorded; cases recorded
          | ok found =>
            rw [verdict] at recorded
            cases recorded
            split
            · rename_i cause failed
              rw [CommandList.error_of_close failed]
              exact ⟨⟨⟨lists, rfl⟩, ⟨created, rfl⟩⟩, nofun⟩
            · rename_i closed isClosed
              refine ⟨⟨⟨lists, rfl⟩, ⟨created, rfl⟩⟩, fun _ => ⟨closed, rfl, ?_⟩⟩
              rw [CommandList.calls_of_close isClosed, CommandList.push,
                CommandList.calls_of_reset isOpened]
              exact .intro isInitial verdict

/-- Recording buffers in a row, up to the first that fails, changes lists only, and when none
fails there is a new list for each of them. -/
theorem addAll_of_present (recording : Recording) (present : recording.device.lost = false)
    (resources : Resources) (allocator : CommandAllocator) (buffers : List CommandBuffer) :
    Frame recording (recording.addAll resources allocator buffers).2 ∧
      ((recording.addAll resources allocator buffers).1 = .ok () →
        ∃ closed, (recording.addAll resources allocator buffers).2.recorded =
            recording.recorded ++ closed ∧
          List.Forall₂ (Records resources allocator.id) buffers
            (closed.map CommandList.calls)) := by
  induction buffers generalizing recording with
  | nil => exact ⟨.refl recording, fun _ => ⟨[], (List.append_nil _).symm, .nil⟩⟩
  | cons buffer later inductionHypothesis =>
    obtain ⟨frame, records⟩ := add_of_present present resources allocator buffer
    rw [addAll]
    split
    · rename_i failed
      rw [failed] at frame
      exact ⟨frame, nofun⟩
    · rename_i middle added
      rw [added] at frame records
      obtain ⟨laterFrame, laterRecords⟩ :=
        inductionHypothesis middle (frame.lost_eq.trans present)
      refine ⟨frame.trans laterFrame, fun succeeded => ?_⟩
      obtain ⟨first, firstRecorded, firstRecords⟩ := records rfl
      obtain ⟨rest, restRecorded, restRecords⟩ := laterRecords succeeded
      refine ⟨first :: rest, ?_, .cons firstRecords restRecords⟩
      rw [restRecorded, show middle.recorded = _ from firstRecorded, List.append_assoc,
        List.singleton_append]

end Queue.Recording

/-! ## Signals -/

/-- The device after a signal: the value is signaled on the fence, and complete at once if the
device completes by itself. -/
def NativeDevice.signaled (device : NativeDevice) (fence : ObjectId) (value : Nat) :
    NativeDevice :=
  let changed := device.updateFence fence fun state => state.signal value
  let completed :=
    if device.autoComplete then changed.updateFence fence fun state => state.complete value
    else changed
  { completed with log := device.log ++ [.signal fence value] }

namespace Queue

/-- The queue after its next value was given to a submission, and with it to the allocator that
the submission used. -/
def advanced (queue : Queue) (used : Option CommandAllocator) : Queue :=
  let pooled :=
    match used with
    | some allocator => queue.poolAllocator (queue.lastSubmitted + 1) allocator
    | none => queue
  { pooled with lastSubmitted := queue.lastSubmitted + 1 }

/-- What signaling the next value comes to on a working device. The value is used up whether or
not the signal fails. -/
inductive Signals (queue : Queue) (device : NativeDevice) (used : Option CommandAllocator) :
    Except SubmitError Token → Queue → NativeDevice → Prop
  | signaled (unarmed : device.failNextSignal = false) :
      Signals queue device used (.ok ⟨queue.fence, queue.lastSubmitted + 1⟩)
        (queue.advanced used) (device.signaled queue.fence (queue.lastSubmitted + 1))
  | failed (armed : device.failNextSignal = true) :
      Signals queue device used (.error (.device .invalidCall)) (queue.advanced used)
        { device with failNextSignal := false }

theorem signals_of_signalNext {queue : Queue} {device : NativeDevice}
    (present : device.lost = false) (used : Option CommandAllocator) :
    queue.Signals device used (queue.signalNext device used).1
      (queue.signalNext device used).2.1 (queue.signalNext device used).2.2 := by
  have notLost := Bool.eq_false_iff.mp present
  cases armed : device.failNextSignal with
  | true =>
    have failed : queue.signalNext device used =
        (.error (.device .invalidCall), queue.advanced used,
          { device with failNextSignal := false }) := by
      simp only [signalNext, NativeDevice.signal, if_neg notLost, if_pos armed]
      rfl
    rw [failed]
    exact .failed armed
  | false =>
    have signaled : queue.signalNext device used =
        (.ok ⟨queue.fence, queue.lastSubmitted + 1⟩, queue.advanced used,
          device.signaled queue.fence (queue.lastSubmitted + 1)) := by
      simp only [signalNext, NativeDevice.signal, if_neg notLost,
        if_neg (Bool.eq_false_iff.mp armed)]
      cases used <;> rfl
    rw [signaled]
    exact .signaled armed

/-! ## Submissions -/

/-- What recording buffers and executing their lists comes to on a working device. -/
inductive Delivers (queue : Queue) (device : NativeDevice) (resources : Resources)
    (work : List CommandBuffer) :
    Except SubmitError CommandAllocator → Queue → NativeDevice → Prop
  /-- A buffer is not recorded, and the allocator is free for the next submission. -/
  | unrecorded {allocator : CommandAllocator} {acquired : Queue} {state : NativeDevice}
      {error : SubmitError} {lists : List CommandList} {created : Nat}
      (acquires : queue.Acquires device allocator acquired state)
      (failed : (Recording.addAll ⟨acquired, state, .fresh, []⟩ resources allocator work).1 =
        .error error) :
      Delivers queue device resources work (.error error)
        ((acquired.withLists lists).poolAllocator queue.lastSubmitted allocator)
        (state.grown created)
  /-- Every buffer is recorded, and the device refuses the lists. -/
  | refused {allocator : CommandAllocator} {acquired : Queue} {state : NativeDevice}
      {lists : List CommandList} {created : Nat} {recorded : List (List Call)}
      (acquires : queue.Acquires device allocator acquired state)
      (records : List.Forall₂ (Recording.Records resources allocator.id) work recorded) :
      Delivers queue device resources work (.error (.device .invalidCall))
        ((acquired.withLists lists).poolAllocator queue.lastSubmitted allocator)
        (state.grown created)
  /-- Every buffer is recorded, and the lists are executed. -/
  | executed {allocator : CommandAllocator} {acquired : Queue} {state : NativeDevice}
      {lists : List CommandList} {created : Nat} {recorded : List (List Call)}
      (acquires : queue.Acquires device allocator acquired state)
      (records : List.Forall₂ (Recording.Records resources allocator.id) work recorded) :
      Delivers queue device resources work (.ok allocator) (acquired.withLists lists)
        ((state.grown created).logged [.execute recorded])

namespace Acquires

variable {queue acquired : Queue} {device state : NativeDevice} {allocator : CommandAllocator}

theorem lost_eq (acquires : queue.Acquires device allocator acquired state) :
    state.lost = device.lost := by
  cases acquires <;> rfl

theorem log_eq (acquires : queue.Acquires device allocator acquired state) :
    state.log = device.log := by
  cases acquires <;> rfl

theorem fence_eq (acquires : queue.Acquires device allocator acquired state) :
    acquired.fence = queue.fence := by
  cases acquires <;> rfl

theorem lastSubmitted_eq (acquires : queue.Acquires device allocator acquired state) :
    acquired.lastSubmitted = queue.lastSubmitted := by
  cases acquires <;> rfl

end Acquires

/-- A working device refuses only lists that break the rules. -/
theorem execute_of_present {device : NativeDevice} (present : device.lost = false)
    (native : NativeQueue) (lists : List CommandList) :
    device.execute native lists = (.error .invalidCall, device) ∨
      device.execute native lists =
        (.ok (), device.logged [.execute (lists.map CommandList.calls)]) := by
  rw [NativeDevice.execute, if_neg (Bool.eq_false_iff.mp present)]
  split
  · exact .inl rfl
  · exact .inr rfl

theorem delivers_of_executeBuffers (queue : Queue) {device : NativeDevice}
    (present : device.lost = false) (resources : Resources) (work : List CommandBuffer) :
    queue.Delivers device resources work (queue.executeBuffers device resources work).1
      (queue.executeBuffers device resources work).2.1
      (queue.executeBuffers device resources work).2.2 := by
  obtain ⟨allocator, acquired, state, isAcquired, acquires⟩ :=
    queue.acquireAllocator_of_present present
  have statePresent : state.lost = false := acquires.lost_eq.trans present
  obtain ⟨⟨⟨lists, isQueue⟩, ⟨created, isDevice⟩⟩, records⟩ :=
    Recording.addAll_of_present ⟨acquired, state, .fresh, []⟩ statePresent resources allocator
      work
  rw [executeBuffers, isAcquired]
  dsimp only
  cases added : Recording.addAll ⟨acquired, state, .fresh, []⟩ resources allocator work with
  | mk answer recording =>
    rw [added] at isQueue isDevice records
    dsimp only at isQueue isDevice
    cases answer with
    | error error =>
      have last : (acquired.withLists lists).lastSubmitted = queue.lastSubmitted :=
        acquires.lastSubmitted_eq
      dsimp only
      rw [isQueue, isDevice, last, poolLists_poolAllocator, poolLists_withLists]
      exact .unrecorded acquires (congrArg Prod.fst added)
    | ok nothing =>
      obtain ⟨closed, isRecorded, eachRecords⟩ := records rfl
      have recorded : recording.recorded = closed := isRecorded
      have grownPresent : (state.grown created).lost = false := statePresent
      dsimp only
      rw [isQueue, isDevice, recorded, poolLists_withLists]
      rcases execute_of_present grownPresent
        (acquired.withLists (closed.reverse ++ lists)).native closed with refused | executed
      · have last : (acquired.withLists (closed.reverse ++ lists)).lastSubmitted =
            queue.lastSubmitted :=
        acquires.lastSubmitted_eq
        rw [refused]
        dsimp only
        rw [observe_invalidCall, last]
        exact .refused acquires eachRecords
      · rw [executed]
        exact .executed acquires eachRecords

/-- What submitting some work or some waits comes to on a queue that saw no loss. -/
inductive Works (queue : Queue) (device : NativeDevice) (resources : Resources)
    (work : List CommandBuffer) (waits : List Token) :
    Except SubmitError Token → Queue → NativeDevice → Prop
  /-- The device is lost, which the queue notices; an allocator may be given up. -/
  | lost {pool : List PooledAllocator} (gone : device.lost = true)
      (forfeits : queue.Forfeits device pool) :
      Works queue device resources work waits (.error (.device .deviceLost))
        { queue with allocators := pool, lost := true } device
  /-- Only waits were asked for. -/
  | waited {answer : Except SubmitError Token} {after : Queue} {final : NativeDevice}
      (present : device.lost = false) (noWork : work = [])
      (signals :
        queue.Signals (device.logged (waits.map Token.waiting)) none answer after final) :
      Works queue device resources work waits answer after final
  /-- Nothing but the waits reaches the device. -/
  | failed {error : SubmitError} {after : Queue} {final : NativeDevice}
      (present : device.lost = false) (someWork : work ≠ [])
      (delivers : queue.Delivers (device.logged (waits.map Token.waiting)) resources work
        (.error error) after final) :
      Works queue device resources work waits (.error error) after final
  /-- The lists are executed behind the waits, and the next value is signaled or not. -/
  | delivered {allocator : CommandAllocator} {between after : Queue} {state final : NativeDevice}
      {answer : Except SubmitError Token} (present : device.lost = false) (someWork : work ≠ [])
      (delivers : queue.Delivers (device.logged (waits.map Token.waiting)) resources work
        (.ok allocator) between state)
      (signals : between.Signals state (some allocator) answer after final) :
      Works queue device resources work waits answer after final

/-- Buffers that reach the device leave it as it works. -/
theorem Delivers.present {queue after : Queue} {device final : NativeDevice}
    {resources : Resources} {work : List CommandBuffer}
    {answer : Except SubmitError CommandAllocator} (present : device.lost = false)
    (delivers : queue.Delivers device resources work answer after final) :
    final.lost = false := by
  cases delivers with
  | unrecorded acquires failed => exact acquires.lost_eq.trans present
  | refused acquires records => exact acquires.lost_eq.trans present
  | executed acquires records => exact acquires.lost_eq.trans present

/-- Delivering leaves the numbers of a queue to the signal. -/
theorem Delivers.numbers {queue after : Queue} {device final : NativeDevice}
    {resources : Resources} {work : List CommandBuffer}
    {answer : Except SubmitError CommandAllocator}
    (delivers : queue.Delivers device resources work answer after final) :
    after.fence = queue.fence ∧ after.lastSubmitted = queue.lastSubmitted := by
  cases delivers with
  | unrecorded acquires => exact ⟨acquires.fence_eq, acquires.lastSubmitted_eq⟩
  | refused acquires => exact ⟨acquires.fence_eq, acquires.lastSubmitted_eq⟩
  | executed acquires => exact ⟨acquires.fence_eq, acquires.lastSubmitted_eq⟩

section Working

variable {queue after : Queue} {device final : NativeDevice} {resources : Resources}
  {work : List CommandBuffer} {waits : List Token}

/-- Without buffers a submission goes from its waits to its signal. -/
theorem submitWork_of_noWork (present : device.lost = false) (noWork : work = []) :
    queue.submitWork device resources work waits =
      queue.signalNext (device.logged (waits.map Token.waiting)) none := by
  simp only [submitWork, issueWaits_of_present present, if_pos (List.isEmpty_iff.mpr noWork)]

/-- Buffers that are not executed end a submission. -/
theorem submitWork_of_error (present : device.lost = false) (someWork : work ≠ [])
    {error : SubmitError}
    (failed : queue.executeBuffers (device.logged (waits.map Token.waiting)) resources work =
      (.error error, after, final)) :
    queue.submitWork device resources work waits = (.error error, after, final) := by
  simp only [submitWork, issueWaits_of_present present,
    if_neg (mt List.isEmpty_iff.mp someWork), failed]

/-- Behind buffers that are executed comes the signal. -/
theorem submitWork_of_ok (present : device.lost = false) (someWork : work ≠ [])
    {allocator : CommandAllocator}
    (executed : queue.executeBuffers (device.logged (waits.map Token.waiting)) resources work =
      (.ok allocator, after, final)) :
    queue.submitWork device resources work waits = after.signalNext final (some allocator) := by
  simp only [submitWork, issueWaits_of_present present,
    if_neg (mt List.isEmpty_iff.mp someWork), executed]

end Working

theorem works_of_submitWork {queue : Queue} {device : NativeDevice} (resources : Resources)
    {work : List CommandBuffer} {waits : List Token} (pending : work ≠ [] ∨ waits ≠ []) :
    queue.Works device resources work waits (queue.submitWork device resources work waits).1
      (queue.submitWork device resources work waits).2.1
      (queue.submitWork device resources work waits).2.2 := by
  cases gone : device.lost with
  | true =>
    by_cases noWaits : waits = []
    · have someWork : work ≠ [] := pending.resolve_right (fun someWaits => someWaits noWaits)
      obtain ⟨pool, forfeits, failed⟩ := queue.acquireAllocator_of_lost gone
      rw [noWaits, submitWork, issueWaits]
      dsimp only
      rw [if_neg (mt List.isEmpty_iff.mp someWork), executeBuffers, failed]
      exact .lost gone forfeits
    · rw [submitWork, issueWaits_of_lost gone noWaits]
      exact .lost gone .nothing
  | false =>
    have present : (device.logged (waits.map Token.waiting)).lost = false := gone
    by_cases noWork : work = []
    · rw [submitWork_of_noWork gone noWork]
      exact .waited gone noWork (signals_of_signalNext present none)
    · have delivers := queue.delivers_of_executeBuffers present resources work
      rcases executed : queue.executeBuffers (device.logged (waits.map Token.waiting)) resources
        work with ⟨answer, after, final⟩
      rw [executed] at delivers
      cases answer with
      | error error =>
        rw [submitWork_of_error gone noWork executed]
        exact .failed gone noWork delivers
      | ok allocator =>
        rw [submitWork_of_ok gone noWork executed]
        exact .delivered gone noWork delivers
          (signals_of_signalNext (delivers.present present) (some allocator))

/-- The buffers of a submission that hold a record. -/
def work (buffers : List CommandBuffer) : List CommandBuffer :=
  buffers.filter fun buffer => !buffer.isEmpty

/-- The dependencies of a submission that have to be waited for. -/
def waits (queue : Queue) (device : NativeDevice) (dependencies : List Token) : List Token :=
  dependencies.filter (queue.awaits device)

/-- What a submission comes to: its answer, and the queue and the device after it. -/
inductive Submits (queue : Queue) (device : Device) (buffers : List CommandBuffer)
    (dependencies : List Token) : Except SubmitError Token → Queue → Device → Prop
  /-- There is nothing to do. -/
  | idle (noWork : work buffers = []) (noWaits : queue.waits device.native dependencies = []) :
      Submits queue device buffers dependencies (.ok ⟨queue.fence, 0⟩) queue device
  /-- The queue saw the device lost before. -/
  | closed (lost : queue.lost = true)
      (pending : work buffers ≠ [] ∨ queue.waits device.native dependencies ≠ []) :
      Submits queue device buffers dependencies (.error (.device .deviceLost)) queue device
  | works {answer : Except SubmitError Token} {after : Queue} {native : NativeDevice}
      (usable : queue.lost = false)
      (pending : work buffers ≠ [] ∨ queue.waits device.native dependencies ≠ [])
      (works : queue.Works device.native device.resources (work buffers)
        (queue.waits device.native dependencies) answer after native) :
      Submits queue device buffers dependencies answer after { device with native := native }

/-- A submission with something to do on a queue that saw no loss. -/
theorem submit_of_pending {queue : Queue} (usable : queue.lost = false) {device : Device}
    {buffers : List CommandBuffer} {dependencies : List Token}
    (pending : work buffers ≠ [] ∨ queue.waits device.native dependencies ≠ []) :
    queue.submit device buffers dependencies =
      let result := queue.submitWork device.native device.resources (work buffers)
        (queue.waits device.native dependencies)
      (result.1, result.2.1, { device with native := result.2.2 }) := by
  have notBoth : ¬((work buffers).isEmpty && (queue.waits device.native dependencies).isEmpty) =
      true := by
    rw [Bool.and_eq_true, List.isEmpty_iff, List.isEmpty_iff]
    exact Decidable.not_and_iff_or_not.mpr pending
  unfold submit
  rw [show buffers.filter (fun buffer => !buffer.isEmpty) = work buffers from rfl,
    show dependencies.filter (queue.awaits device.native) =
      queue.waits device.native dependencies from rfl,
    if_neg notBoth, if_neg (Bool.eq_false_iff.mp usable)]

/-- Every submission follows one of the rules. -/
theorem submits (queue : Queue) (device : Device) (buffers : List CommandBuffer)
    (dependencies : List Token) :
    queue.Submits device buffers dependencies (queue.submit device buffers dependencies).1
      (queue.submit device buffers dependencies).2.1
      (queue.submit device buffers dependencies).2.2 := by
  have split : ((work buffers).isEmpty && (queue.waits device.native dependencies).isEmpty) = true ↔
      work buffers = [] ∧ queue.waits device.native dependencies = [] := by
    rw [Bool.and_eq_true, List.isEmpty_iff, List.isEmpty_iff]
  by_cases nothing : work buffers = [] ∧ queue.waits device.native dependencies = []
  · have idle : queue.submit device buffers dependencies = (.ok ⟨queue.fence, 0⟩, queue, device) :=
      if_pos (split.mpr nothing)
    rw [idle]
    exact .idle nothing.1 nothing.2
  · have pending := Decidable.not_and_iff_or_not.mp nothing
    cases lost : queue.lost with
    | true =>
      have closed : queue.submit device buffers dependencies =
          (.error (.device .deviceLost), queue, device) :=
        (if_neg (mt split.mp nothing)).trans (if_pos lost)
      rw [closed]
      exact .closed lost pending
    | false =>
      rw [submit_of_pending lost pending]
      exact .works lost pending (works_of_submitWork device.resources pending)

theorem submits_of_submit {queue after : Queue} {device final : Device}
    {buffers : List CommandBuffer} {dependencies : List Token}
    {answer : Except SubmitError Token}
    (submitted : queue.submit device buffers dependencies = (answer, after, final)) :
    queue.Submits device buffers dependencies answer after final := by
  have outcome := queue.submits device buffers dependencies
  rw [submitted] at outcome
  exact outcome

/-- A submission of a buffer that cannot be recorded fails, and nothing but waits reaches the
device. -/
theorem Submits.fails_of_unrecorded {queue after : Queue} {device final : Device}
    {buffers : List CommandBuffer} {dependencies : List Token}
    {answer : Except SubmitError Token}
    (submits : queue.Submits device buffers dependencies answer after final)
    {buffer : CommandBuffer} (member : buffer ∈ buffers) (some : buffer.isEmpty = false)
    (unrecorded : ∀ allocator calls,
      ¬Recording.Records device.resources allocator buffer calls) :
    (∃ error, answer = .error error) ∧
      ∃ waited : List Token, final.native.log = device.native.log ++ waited.map Token.waiting := by
  have inWork : buffer ∈ work buffers := List.mem_filter.mpr ⟨member, by rw [some]; rfl⟩
  have someWork : work buffers ≠ [] := List.ne_nil_of_mem inWork
  cases submits with
  | idle noWork => exact absurd noWork someWork
  | closed => exact ⟨⟨_, rfl⟩, [], (List.append_nil _).symm⟩
  | works usable pending works =>
    cases works with
    | lost => exact ⟨⟨_, rfl⟩, [], (List.append_nil _).symm⟩
    | waited present noWork => exact absurd noWork someWork
    | failed present _ delivers =>
      refine ⟨⟨_, rfl⟩, queue.waits device.native dependencies, ?_⟩
      cases delivers with
      | unrecorded acquires => exact acquires.log_eq
      | refused acquires => exact acquires.log_eq
    | delivered present _ delivers =>
      cases delivers with
      | executed acquires records =>
        obtain ⟨calls, _, isRecorded⟩ := exists_of_mem_forall₂ records inWork
        exact absurd isRecorded (unrecorded _ calls)

/-- A submission only reads the tables and the heaps. -/
theorem Submits.resources_eq {queue after : Queue} {device final : Device}
    {buffers : List CommandBuffer} {dependencies : List Token}
    {answer : Except SubmitError Token}
    (submits : queue.Submits device buffers dependencies answer after final) :
    final.resources = device.resources := by
  cases submits <;> rfl

/-- Of the rest of the device it changes the native one only. -/
theorem Submits.device_eq {queue after : Queue} {device final : Device}
    {buffers : List CommandBuffer} {dependencies : List Token} {answer : Except SubmitError Token}
    (submits : queue.Submits device buffers dependencies answer after final) :
    final = { device with native := final.native } := by
  cases submits <;> rfl

end Queue

end CommandStream
