import CommandStream.Proofs.Session
import CommandStream.Proofs.Submission
/-!
# What the pools of a queue hold

A pooled list is closed and of the type of its queue, and a pooled allocator is of that type too.
Submissions keep it so however they end, which is why a list can always be opened on the allocator
of a submission: on a device that works, recording fails only because of what is recorded, and lists
are refused only by a native queue of another type.
-/

namespace CommandStream

/-- A list is closed and of a type. -/
structure CommandList.Ready (list : CommandList) (type : QueueType) : Prop where
  closed : list.recording = false
  sameType : list.type = type

/-- A list that is ready is opened on any allocator of its type. -/
theorem CommandList.Ready.reset {list : CommandList} {allocator : CommandAllocator}
    (ready : list.Ready allocator.type) (pipeline : Option ObjectId) :
    list.reset allocator pipeline =
      .ok { list with recording := true, calls := [.reset allocator.id pipeline] } := by
  have refused : ¬(list.recording = true ∨ allocator.type ≠ list.type) := by
    rintro (isOpen | foreign)
    · exact Bool.eq_false_iff.mp ready.closed isOpen
    · exact foreign ready.sameType.symm
  rw [CommandList.reset, if_neg refused]

namespace Queue

/-- The pools of a queue hold lists that are ready, and allocators of its type. -/
structure Stocked (queue : Queue) : Prop where
  lists : ∀ list ∈ queue.lists, list.Ready queue.type
  allocators : ∀ pooled ∈ queue.allocators, pooled.allocator.type = queue.type

/-- A buffer can be recorded: the pipeline that it binds first is there, and its replay
succeeds. -/
def Recordable (resources : Resources) (buffer : CommandBuffer) : Prop :=
  (∃ initial, Recording.initialPipeline resources buffer = .ok initial) ∧
    ∃ statistics, Interpreter.verdict (buffer.replay resources) buffer.walk = .ok statistics

/-! ## Recording -/

/-- A queue with stocked pools has a list for every buffer. -/
theorem Stocked.acquireList {queue : Queue} (stocked : queue.Stocked) {device : NativeDevice}
    (present : device.lost = false) {allocator : CommandAllocator}
    (sameType : allocator.type = queue.type) :
    ∃ list lists created,
      queue.acquireList device allocator =
        (.ok list, queue.withLists lists, device.grown created) ∧
      queue.lists.length + created = lists.length + 1 ∧ list.Ready queue.type ∧
      (queue.withLists lists).Stocked := by
  cases pool : queue.lists with
  | cons list later =>
    have ready := stocked.lists
    rw [pool] at ready
    refine ⟨list, later, 0, ?_, rfl, ready list List.mem_cons_self, ?_, stocked.allocators⟩
    · simp only [Queue.acquireList, pool]
      rfl
    · exact fun other member => ready other (List.mem_cons_of_mem _ member)
  | nil =>
    have created : device.createList queue.type allocator =
        (.ok ⟨device.nextId, queue.type, false, []⟩, device.grown 1) := by
      rw [NativeDevice.createList, if_neg (Bool.eq_false_iff.mp present),
        if_neg (not_not_intro sameType)]
      rfl
    have same : queue.withLists [] = queue := by rw [← pool]; rfl
    refine ⟨⟨device.nextId, queue.type, false, []⟩, [], 1, ?_, rfl, ⟨rfl, rfl⟩,
      List.forall_mem_nil _, stocked.allocators⟩
    simp only [Queue.acquireList, pool, created, same]

namespace Recording

/-- A recording on a queue with stocked pools, with an allocator of its type: the lists recorded so
far are ready. -/
structure Stocked (recording : Recording) (allocator : CommandAllocator) : Prop where
  queue : recording.queue.Stocked
  sameType : allocator.type = recording.queue.type
  recorded : ∀ list ∈ recording.recorded, list.Ready recording.queue.type

/-- What recording a buffer comes to: the pipeline that it binds first is gone, or its replay fails
and the list taken for it is given up, or the list is closed with the calls of the buffer. The list
is the first of the pool, or a new one. -/
inductive Adds (recording : Recording) (resources : Resources) (allocator : CommandAllocator)
    (buffer : CommandBuffer) : Except SubmitError Unit → Recording → Prop
  | unbound {cause : HandleError}
      (missing : initialPipeline resources buffer = .error (.handle cause)) :
      Adds recording resources allocator buffer (.error (.handle cause)) recording
  | abandoned {initial : Option ObjectId} {cause : ReplayError} {interpreter : Interpreter}
      {lists : List CommandList} {created : Nat}
      (isInitial : initialPipeline resources buffer = .ok initial)
      (failed : Interpreter.verdict (buffer.replay resources) buffer.walk = .error cause)
      (taken : recording.queue.lists.length + created = lists.length + 1)
      (stocked : (recording.queue.withLists lists).Stocked) :
      Adds recording resources allocator buffer (.error (.replay cause))
        ⟨recording.queue.withLists lists, recording.device.grown created, interpreter,
          recording.recorded⟩
  | recorded {interpreter : Interpreter} {lists : List CommandList} {created : Nat}
      {closed : CommandList} (records : Records resources allocator.id buffer closed.calls)
      (ready : closed.Ready recording.queue.type)
      (taken : recording.queue.lists.length + created = lists.length + 1)
      (stocked : (recording.queue.withLists lists).Stocked) :
      Adds recording resources allocator buffer (.ok ())
        ⟨recording.queue.withLists lists, recording.device.grown created, interpreter,
          recording.recorded ++ [closed]⟩

/-- Only a handle without a pipeline keeps a list from being opened. -/
theorem error_of_initialPipeline {resources : Resources} {buffer : CommandBuffer}
    {error : SubmitError} (failed : initialPipeline resources buffer = .error error) :
    ∃ cause, error = .handle cause := by
  unfold initialPipeline at failed
  split at failed
  · cases failed
  · split at failed
    · cases failed
      exact ⟨_, rfl⟩
    · cases failed

/-- With stocked pools the recording of a buffer comes to one of the three. -/
theorem Stocked.adds {recording : Recording} {allocator : CommandAllocator}
    (stocked : recording.Stocked allocator) (present : recording.device.lost = false)
    (resources : Resources) (buffer : CommandBuffer) :
    recording.Adds resources allocator buffer (recording.add resources allocator buffer).1
      (recording.add resources allocator buffer).2 := by
  obtain ⟨list, lists, created, acquired, taken, ready, stillStocked⟩ :=
    stocked.queue.acquireList present stocked.sameType
  rw [← stocked.sameType] at ready
  unfold Recording.add
  cases isInitial : initialPipeline resources buffer with
  | error error =>
    obtain ⟨cause, rfl⟩ := error_of_initialPipeline isInitial
    exact .unbound isInitial
  | ok initial =>
    dsimp only
    rw [acquired]
    dsimp only
    rw [ready.reset initial]
    dsimp only
    rw [Interpreter.record_eq]
    cases verdict : Interpreter.verdict (buffer.replay resources) buffer.walk with
    | error cause => exact .abandoned isInitial verdict taken stillStocked
    | ok statistics =>
      exact .recorded (.intro isInitial verdict) ⟨rfl, ready.sameType.trans stocked.sameType⟩
        taken stillStocked

/-- A buffer whose calls are recorded can be. -/
theorem Records.recordable {resources : Resources} {allocator : ObjectId} {buffer : CommandBuffer}
    {calls : List Call} (records : Records resources allocator buffer calls) :
    Recordable resources buffer := by
  cases records with
  | intro isInitial verdict => exact ⟨⟨_, isInitial⟩, _, verdict⟩

/-- A buffer is recorded exactly if it can be. In either case the pools stay stocked. -/
theorem Stocked.add {recording : Recording} {allocator : CommandAllocator}
    (stocked : recording.Stocked allocator) (present : recording.device.lost = false)
    (resources : Resources) (buffer : CommandBuffer) :
    (recording.add resources allocator buffer).2.Stocked allocator ∧
      ((recording.add resources allocator buffer).1 = .ok () ↔ Recordable resources buffer) := by
  have adds := stocked.adds present resources buffer
  generalize recording.add resources allocator buffer = outcome at adds ⊢
  obtain ⟨answer, after⟩ := outcome
  cases adds with
  | unbound missing =>
    refine ⟨stocked, iff_of_false nofun ?_⟩
    rintro ⟨⟨initial, found⟩, _⟩
    cases missing.symm.trans found
  | abandoned isInitial failed _ stillStocked =>
    refine ⟨⟨stillStocked, stocked.sameType, stocked.recorded⟩, iff_of_false nofun ?_⟩
    rintro ⟨_, statistics, succeeded⟩
    cases failed.symm.trans succeeded
  | recorded records ready _ stillStocked =>
    refine ⟨⟨stillStocked, stocked.sameType, ?_⟩, iff_of_true rfl records.recordable⟩
    intro other member
    rcases List.mem_append.mp member with old | new
    · exact stocked.recorded other old
    · cases List.mem_singleton.mp new
      exact ready

/-- Buffers are recorded exactly if all of them can be. -/
theorem Stocked.addAll {recording : Recording} {allocator : CommandAllocator}
    (stocked : recording.Stocked allocator) (present : recording.device.lost = false)
    (resources : Resources) (buffers : List CommandBuffer) :
    (recording.addAll resources allocator buffers).2.Stocked allocator ∧
      ((recording.addAll resources allocator buffers).1 = .ok () ↔
        ∀ buffer ∈ buffers, Recordable resources buffer) := by
  induction buffers generalizing recording with
  | nil => exact ⟨stocked, iff_of_true rfl (List.forall_mem_nil _)⟩
  | cons buffer later inductionHypothesis =>
    obtain ⟨stillStocked, answer⟩ := stocked.add present resources buffer
    have frame := (add_of_present present resources allocator buffer).1
    rw [Recording.addAll, List.forall_mem_cons, ← answer]
    cases added : recording.add resources allocator buffer with
    | mk first middle =>
      rw [added] at stillStocked frame
      cases first with
      | error error =>
        refine ⟨stillStocked, iff_of_false (by rintro ⟨⟩) ?_⟩
        rintro ⟨⟨⟩, _⟩
      | ok nothing =>
        obtain ⟨finallyStocked, rest⟩ :=
          inductionHypothesis stillStocked (frame.lost_eq.trans present)
        exact ⟨finallyStocked, rest.trans (and_iff_right rfl).symm⟩

end Recording

/-! ## Submitting -/

/-- An allocator that is acquired is of the type of its queue. -/
theorem Stocked.acquire {queue acquired : Queue} {device state : NativeDevice}
    {allocator : CommandAllocator} (stocked : queue.Stocked)
    (acquires : queue.Acquires device allocator acquired state) :
    acquired.Stocked ∧ allocator.type = queue.type ∧ acquired.type = queue.type ∧
      acquired.native = queue.native := by
  cases acquires with
  | @recycled front later pooled complete =>
    have types := stocked.allocators
    rw [pooled] at types
    exact ⟨⟨stocked.lists, fun other member => types other (List.mem_cons_of_mem _ member)⟩,
      types front List.mem_cons_self, rfl, rfl⟩
  | created busy => exact ⟨stocked, rfl, rfl, rfl⟩

/-- A recording can begin with an allocator that is acquired. -/
theorem Stocked.recording {queue acquired : Queue} {device state : NativeDevice}
    {allocator : CommandAllocator} (stocked : queue.Stocked)
    (acquires : queue.Acquires device allocator acquired state) :
    Recording.Stocked ⟨acquired, state, .fresh, []⟩ allocator := by
  obtain ⟨acquiredStocked, isType, sameType, _⟩ := stocked.acquire acquires
  exact ⟨acquiredStocked, isType.trans sameType.symm, List.forall_mem_nil _⟩

/-- An allocator of the type of the queue may be put into its pool. -/
theorem Stocked.poolAllocator {queue : Queue} (stocked : queue.Stocked) (value : Nat)
    {allocator : CommandAllocator} (sameType : allocator.type = queue.type) :
    (queue.poolAllocator value allocator).Stocked := by
  refine ⟨stocked.lists, fun pooled member => ?_⟩
  rcases List.mem_append.mp member with old | new
  · exact stocked.allocators pooled old
  · cases List.mem_singleton.mp new
    exact sameType

/-- Lists that are ready may be put into the pool. -/
theorem Stocked.poolLists {queue : Queue} (stocked : queue.Stocked) {lists : List CommandList}
    (ready : ∀ list ∈ lists, list.Ready queue.type) : (queue.poolLists lists).Stocked := by
  refine ⟨fun list member => ?_, stocked.allocators⟩
  rcases List.mem_append.mp member with new | old
  · exact ready list (List.mem_reverse.mp new)
  · exact stocked.lists list old

/-- A working device executes lists that are ready exactly if its queue is of their type. -/
theorem execute_of_ready {device : NativeDevice} (present : device.lost = false)
    (native : NativeQueue) {type : QueueType} {lists : List CommandList}
    (ready : ∀ list ∈ lists, list.Ready type) :
    device.execute native lists =
      if lists = [] ∨ native.type = type then
        (.ok (), device.logged [.execute (lists.map CommandList.calls)])
      else (.error .invalidCall, device) := by
  have refused : (lists.any fun list => list.recording || list.type != native.type) = true ↔
      ¬(lists = [] ∨ native.type = type) := by
    cases lists with
    | nil => exact iff_of_false nofun fun none => none (.inl rfl)
    | cons first later =>
      rw [List.any_eq_true]
      constructor
      · rintro ⟨list, member, faulty⟩ (none | sameType)
        · cases none
        · obtain ⟨closed, isType⟩ := ready list member
          simp [closed, isType, sameType] at faulty
      · intro foreign
        obtain ⟨closed, isType⟩ := ready first List.mem_cons_self
        refine ⟨first, List.mem_cons_self, ?_⟩
        have apart : type ≠ native.type := fun same => foreign (.inr same.symm)
        simp [closed, isType, apart]
  rw [NativeDevice.execute, if_neg (Bool.eq_false_iff.mp present)]
  by_cases accepted : lists = [] ∨ native.type = type
  · rw [if_neg (fun faulty => refused.mp faulty accepted), if_pos accepted]
    rfl
  · rw [if_pos (refused.mpr accepted), if_neg accepted]

/-- What decides whether buffers are executed on a working device: whether they can be recorded, and
whether the native queue takes lists of the type of the queue. -/
inductive Settles (queue : Queue) (resources : Resources) (work : List CommandBuffer) :
    Except SubmitError CommandAllocator → Prop
  | unrecorded {error : SubmitError} {buffer : CommandBuffer} (member : buffer ∈ work)
      (broken : ¬Recordable resources buffer) : Settles queue resources work (.error error)
  | refused (recordable : ∀ buffer ∈ work, Recordable resources buffer) (someWork : work ≠ [])
      (foreign : queue.native.type ≠ queue.type) :
      Settles queue resources work (.error (.device .invalidCall))
  | executed {allocator : CommandAllocator}
      (recordable : ∀ buffer ∈ work, Recordable resources buffer)
      (accepted : work = [] ∨ queue.native.type = queue.type)
      (sameType : allocator.type = queue.type) : Settles queue resources work (.ok allocator)

/-- Executing buffers on a queue with stocked pools. -/
theorem Stocked.executeBuffers {queue : Queue} (stocked : queue.Stocked) {device : NativeDevice}
    (present : device.lost = false) (resources : Resources) (work : List CommandBuffer) :
    (queue.executeBuffers device resources work).2.1.Stocked ∧
      (queue.executeBuffers device resources work).2.1.type = queue.type ∧
      queue.Settles resources work (queue.executeBuffers device resources work).1 := by
  obtain ⟨allocator, acquired, state, isAcquired, acquires⟩ :=
    queue.acquireAllocator_of_present present
  obtain ⟨_, isType, sameType, sameNative⟩ := stocked.acquire acquires
  have statePresent : state.lost = false := acquires.lost_eq.trans present
  have recordingStocked := stocked.recording acquires
  obtain ⟨⟨⟨lists, isQueue⟩, ⟨created, isDevice⟩⟩, records⟩ :=
    Recording.addAll_of_present ⟨acquired, state, .fresh, []⟩ statePresent resources allocator
      work
  obtain ⟨stillStocked, recorded⟩ := recordingStocked.addAll statePresent resources work
  rw [Queue.executeBuffers, isAcquired]
  dsimp only
  cases added : Recording.addAll ⟨acquired, state, .fresh, []⟩ resources allocator work with
  | mk answer recording =>
    rw [added] at isQueue isDevice records stillStocked recorded
    dsimp only at isQueue isDevice
    have queueType : recording.queue.type = queue.type := by
      rw [isQueue]
      exact sameType
    have queueNative : recording.queue.native = queue.native := by
      rw [isQueue]
      exact sameNative
    cases answer with
    | error error =>
      dsimp only
      refine ⟨(stillStocked.queue.poolAllocator _ stillStocked.sameType).poolLists
        stillStocked.recorded, queueType, ?_⟩
      have someBroken : ¬∀ buffer ∈ work, Recordable resources buffer := by
        intro all
        cases recorded.mpr all
      simp only [not_forall] at someBroken
      obtain ⟨buffer, member, broken⟩ := someBroken
      exact .unrecorded member broken
    | ok nothing =>
      have all := recorded.mp rfl
      obtain ⟨closed, isRecorded, eachRecords⟩ := records rfl
      have isClosed : recording.recorded = closed := isRecorded
      have someWork : recording.recorded = [] ↔ work = [] := by
        rw [isClosed, ← List.length_eq_zero_iff, ← List.length_eq_zero_iff, eachRecords.length_eq,
          List.length_map]
      have grownPresent : recording.device.lost = false := by
        rw [isDevice]
        exact statePresent
      have pooled := stillStocked.queue.poolLists stillStocked.recorded
      have native : (recording.queue.poolLists recording.recorded).native.type =
          recording.queue.type ↔ queue.native.type = queue.type := by
        rw [queueType, ← queueNative]
        rfl
      dsimp only
      rw [execute_of_ready grownPresent _ stillStocked.recorded]
      by_cases accepted : work = [] ∨ queue.native.type = queue.type
      · rw [if_pos (accepted.imp someWork.mpr native.mpr)]
        exact ⟨pooled, queueType, .executed all accepted isType⟩
      · rw [if_neg fun either => accepted (either.imp someWork.mp native.mp)]
        obtain ⟨notNone, foreign⟩ := not_or.mp accepted
        exact ⟨pooled.poolAllocator _ stillStocked.sameType, queueType,
          .refused all notNone foreign⟩

/-- Signaling leaves the pools stocked. -/
theorem Stocked.signals {queue after : Queue} {device final : NativeDevice}
    {used : Option CommandAllocator} {answer : Except SubmitError Token} (stocked : queue.Stocked)
    (sameType : ∀ allocator ∈ used, allocator.type = queue.type)
    (signals : queue.Signals device used answer after final) : after.Stocked := by
  have advanced : (queue.advanced used).Stocked := by
    cases used with
    | none => exact ⟨stocked.lists, stocked.allocators⟩
    | some allocator =>
      have pooled := stocked.poolAllocator (queue.lastSubmitted + 1) (sameType allocator rfl)
      exact ⟨pooled.lists, pooled.allocators⟩
  cases signals <;> exact advanced

/-- Work that is submitted leaves the pools stocked, however it ends. -/
theorem Stocked.submitWork {queue : Queue} (stocked : queue.Stocked) (device : NativeDevice)
    (resources : Resources) {work : List CommandBuffer} {waits : List Token}
    (pending : work ≠ [] ∨ waits ≠ []) :
    (queue.submitWork device resources work waits).2.1.Stocked := by
  cases gone : device.lost with
  | true =>
    have works : queue.Works device resources work waits
        (queue.submitWork device resources work waits).1
        (queue.submitWork device resources work waits).2.1
        (queue.submitWork device resources work waits).2.2 := works_of_submitWork resources pending
    generalize queue.submitWork device resources work waits = result at works ⊢
    obtain ⟨answer, after, final⟩ := result
    cases works with
    | lost _ forfeits =>
      exact ⟨stocked.lists, fun pooled member =>
        stocked.allocators pooled (forfeits.suffix.subset member)⟩
    | waited present => cases gone.symm.trans present
    | failed present => cases gone.symm.trans present
    | delivered present => cases gone.symm.trans present
  | false =>
    have present : (device.logged (waits.map Token.waiting)).lost = false := gone
    by_cases noWork : work = []
    · rw [submitWork_of_noWork gone noWork]
      exact stocked.signals (by rintro _ ⟨⟩) (signals_of_signalNext present none)
    · obtain ⟨stillStocked, sameType, settles⟩ := stocked.executeBuffers present resources work
      have delivers := queue.delivers_of_executeBuffers present resources work
      rcases executed : queue.executeBuffers (device.logged (waits.map Token.waiting)) resources
        work with ⟨answer, between, state⟩
      rw [executed] at stillStocked sameType settles delivers
      cases settles with
      | unrecorded =>
        rw [submitWork_of_error gone noWork executed]
        exact stillStocked
      | refused =>
        rw [submitWork_of_error gone noWork executed]
        exact stillStocked
      | executed _ _ isType =>
        rw [submitWork_of_ok gone noWork executed]
        refine stillStocked.signals ?_ (signals_of_signalNext (delivers.present present) _)
        rintro _ ⟨⟩
        exact isType.trans sameType.symm

/-- A submission leaves the pools stocked, however it ends. -/
theorem Stocked.submit {queue : Queue} (stocked : queue.Stocked) (device : Device)
    (buffers : List CommandBuffer) (dependencies : List Token) :
    (queue.submit device buffers dependencies).2.1.Stocked := by
  rcases result : queue.submit device buffers dependencies with ⟨answer, after, final⟩
  cases submits_of_submit result with
  | idle => exact stocked
  | closed => exact stocked
  | works usable pending =>
    rw [submit_of_pending usable pending] at result
    cases result
    exact stocked.submitWork device.native device.resources pending

end Queue

namespace Session

/-- A property that a new queue has, and that submissions keep, is one of every queue after an
action. -/
theorem forall_queues_perform {property : Queue → Prop}
    (new : ∀ type native fence, property ⟨type, native, fence, 0, [], [], false⟩)
    (kept : ∀ queue : Queue, property queue → ∀ device buffers dependencies,
      property (queue.submit device buffers dependencies).2.1)
    {session : Session} (before : ∀ queue ∈ session.queues, property queue) (action : Action) :
    ∀ queue ∈ (session.perform action).queues, property queue := by
  cases action with
  | submit index buffers dependencies =>
    rw [perform, submit]
    cases found : session.queues[index]? with
    | none => exact before
    | some submitting =>
      intro queue member
      rcases List.mem_or_eq_of_mem_set member with old | rfl
      · exact before queue old
      · exact kept submitting (before _ (List.mem_of_getElem? found)) _ _ _
  | createQueue native type =>
    rw [perform, createQueue]
    dsimp only
    rw [Device.createQueue]
    dsimp only
    cases (session.device.native.createQueue native).2.createFence 0 with
    | mk answer final =>
      cases answer with
      | error cause => exact before
      | ok fence =>
        intro queue member
        rcases List.mem_append.mp member with old | made
        · exact before queue old
        · cases List.mem_singleton.mp made
          exact new _ _ _
  | _ => exact before

/-- So it is one of every queue of a session, whatever happened in it. -/
theorem forall_queues_after {property : Queue → Prop}
    (new : ∀ type native fence, property ⟨type, native, fence, 0, [], [], false⟩)
    (kept : ∀ queue : Queue, property queue → ∀ device buffers dependencies,
      property (queue.submit device buffers dependencies).2.1)
    {session : Session} (before : ∀ queue ∈ session.queues, property queue)
    (actions : List Action) : ∀ queue ∈ (session.after actions).queues, property queue := by
  induction actions generalizing session with
  | nil => exact before
  | cons action later inductionHypothesis =>
    exact inductionHypothesis (forall_queues_perform new kept before action)

/-- The queues of a session have stocked pools. -/
theorem stocked_after (device : Device) (actions : List Action) :
    ∀ queue ∈ ((start device).after actions).queues, queue.Stocked :=
  forall_queues_after (fun _ _ _ => ⟨nofun, nofun⟩) (fun _ stocked => stocked.submit) nofun actions

end Session

end CommandStream
