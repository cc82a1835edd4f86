import CommandStream.Proofs.Chronicle
import CommandStream.Proofs.WaitOrder
/-!
# Loss of the device

A lost device refuses the first native call of a submission, so a submission to it leaves nothing
behind but the knowledge of the loss. On a working device nothing that a submission does is a loss
(`Submits.lost_of_error`). A loss is forgotten neither by the device nor by a queue.

Between two native calls of a submission the device can be lost as well, and then any of its calls
may be the first that fails. So each native call is looked at alone (`NativeDevice.HonoursLoss`),
then the parts that make it and have its answer observed (`Queue.NotesLoss`), and from these every
step of a submission (`Stage.HonoursLoss`), wherever it is taken.
-/

namespace CommandStream

/-! ## Native calls -/

/-- What a native call makes of a loss: on a lost device it fails with the loss and leaves the
device as it is, and on a working one it may fail, but not with a loss. -/
structure NativeDevice.HonoursLoss {α : Type} (device : NativeDevice)
    (outcome : Except DeviceError α × NativeDevice) : Prop where
  lost : device.lost = true → outcome = (.error .deviceLost, device)
  present : device.lost = false → outcome.1 ≠ .error .deviceLost

namespace NativeDevice

variable (device : NativeDevice)

/-- A call honours a loss if it asks for it first and makes up none. -/
theorem honoursLoss_of_guard {α : Type} {otherwise : Except DeviceError α × NativeDevice}
    (noLoss : otherwise.1 ≠ .error .deviceLost) :
    device.HonoursLoss (if device.lost then (.error .deviceLost, device) else otherwise) where
  lost gone := if_pos gone
  present present := by
    rw [if_neg (Bool.eq_false_iff.mp present)]
    exact noLoss

theorem honoursLoss_wait (fence : ObjectId) (value : Nat) :
    device.HonoursLoss (device.wait fence value) :=
  device.honoursLoss_of_guard nofun

theorem honoursLoss_resetAllocator (allocator : CommandAllocator) :
    device.HonoursLoss (device.resetAllocator allocator) :=
  device.honoursLoss_of_guard nofun

theorem honoursLoss_createAllocator (type : QueueType) :
    device.HonoursLoss (device.createAllocator type) :=
  device.honoursLoss_of_guard nofun

theorem honoursLoss_createList (type : QueueType) (allocator : CommandAllocator) :
    device.HonoursLoss (device.createList type allocator) :=
  device.honoursLoss_of_guard (by split <;> nofun)

theorem honoursLoss_execute (queue : NativeQueue) (lists : List CommandList) :
    device.HonoursLoss (device.execute queue lists) :=
  device.honoursLoss_of_guard (by split <;> nofun)

theorem honoursLoss_signal (fence : ObjectId) (value : Nat) :
    device.HonoursLoss (device.signal fence value) :=
  device.honoursLoss_of_guard (by split <;> nofun)

end NativeDevice

/-! ## Parts of a submission -/

/-- Whether a part of a submission ends with a loss. -/
def DeviceError.tellsLoss {α : Type} : Except DeviceError α → Bool
  | .error cause => cause.isDeviceLost
  | .ok _ => false

/-- The same of a part that can also fail for what is recorded. -/
def SubmitError.tellsLoss {α : Type} : Except SubmitError α → Bool
  | .error error => error.isDeviceLost
  | .ok _ => false

namespace Queue

@[simp] theorem lost_observe (queue : Queue) (cause : DeviceError) :
    (queue.observe cause).lost = (queue.lost || cause.isDeviceLost) := by
  unfold observe
  split <;> simp_all

@[simp] theorem lastSubmitted_observe (queue : Queue) (cause : DeviceError) :
    (queue.observe cause).lastSubmitted = queue.lastSubmitted := by
  unfold observe
  split <;> rfl

/-- What a part of a submission in front of its signal makes of a loss, where `tells` is whether it
ends with one. Then the queue remembers it; no loss is made up or forgotten, and nothing is done to
a lost device, whether or not the part notices. -/
structure NotesLoss (before : Queue) (device : NativeDevice) (tells : Bool) (after : Queue)
    (final : NativeDevice) : Prop where
  remembered : tells = true → after.lost = true
  real : tells = true → device.lost = true
  silent : device.lost = true → final = device
  sticky : before.lost = true → after.lost = true
  last : after.lastSubmitted = before.lastSubmitted

/-- A part that does nothing. -/
theorem NotesLoss.refl (queue : Queue) (device : NativeDevice) :
    queue.NotesLoss device false queue device :=
  ⟨nofun, nofun, fun _ => rfl, id, rfl⟩

/-- What becomes of the pools of the queue has no part in it. -/
theorem NotesLoss.repool {before after first last : Queue} {device final : NativeDevice}
    {tells : Bool} (notes : before.NotesLoss device tells after final)
    (knew : first.lost = before.lost) (knows : last.lost = after.lost)
    (count : first.lastSubmitted = before.lastSubmitted)
    (counts : last.lastSubmitted = after.lastSubmitted) :
    first.NotesLoss device tells last final where
  remembered isLoss := knows.trans (notes.remembered isLoss)
  real := notes.real
  silent := notes.silent
  sticky lost := knows.trans (notes.sticky (knew.symm.trans lost))
  last := counts.trans (notes.last.trans count.symm)

section Observed

variable {device final : NativeDevice} {α : Type}

/-- A native call that failed, with its failure observed. -/
theorem notesLoss_observe {cause : DeviceError}
    (honours : device.HonoursLoss ((.error cause : Except DeviceError α), final)) (queue : Queue) :
    queue.NotesLoss device cause.isDeviceLost (queue.observe cause) final where
  remembered isLoss := by rw [lost_observe, isLoss, Bool.or_true]
  real isLoss := by
    by_contra working
    exact honours.present (Bool.eq_false_iff.mpr working) (congrArg _ (eq_of_beq isLoss))
  silent gone := congrArg Prod.snd (honours.lost gone)
  sticky lost := by rw [lost_observe, lost, Bool.true_or]
  last := lastSubmitted_observe queue cause

/-- A native call that succeeded. -/
theorem notesLoss_of_ok {value : α} (honours : device.HonoursLoss (.ok value, final))
    (queue : Queue) : queue.NotesLoss device false queue final where
  remembered := nofun
  real := nofun
  silent gone := by cases honours.lost gone
  sticky := id
  last := rfl

end Observed

variable (queue : Queue) (device : NativeDevice)

theorem notesLoss_createAllocator :
    queue.NotesLoss device (DeviceError.tellsLoss (queue.createAllocator device).1)
      (queue.createAllocator device).2.1 (queue.createAllocator device).2.2 := by
  have honours := device.honoursLoss_createAllocator queue.type
  unfold createAllocator
  split
  · rename_i failed
    rw [failed] at honours
    exact notesLoss_observe honours queue
  · rename_i made
    rw [made] at honours
    exact notesLoss_of_ok honours queue

theorem notesLoss_acquireAllocator :
    queue.NotesLoss device (DeviceError.tellsLoss (queue.acquireAllocator device).1)
      (queue.acquireAllocator device).2.1 (queue.acquireAllocator device).2.2 := by
  unfold acquireAllocator
  split
  · exact queue.notesLoss_createAllocator device
  · rename_i front later pooled
    have honours := device.honoursLoss_resetAllocator front.allocator
    split
    · dsimp only
      split
      · rename_i failed
        rw [failed] at honours
        exact (notesLoss_observe honours { queue with allocators := later }).repool rfl rfl rfl rfl
      · rename_i reset
        rw [reset] at honours
        exact (notesLoss_of_ok honours { queue with allocators := later }).repool rfl rfl rfl rfl
    · exact queue.notesLoss_createAllocator device

theorem notesLoss_acquireList (allocator : CommandAllocator) :
    queue.NotesLoss device (DeviceError.tellsLoss (queue.acquireList device allocator).1)
      (queue.acquireList device allocator).2.1 (queue.acquireList device allocator).2.2 := by
  unfold acquireList
  split
  · exact ⟨nofun, nofun, fun _ => rfl, id, rfl⟩
  · have honours := device.honoursLoss_createList queue.type allocator
    split
    · rename_i failed
      rw [failed] at honours
      exact notesLoss_observe honours queue
    · rename_i made
      rw [made] at honours
      exact notesLoss_of_ok honours queue

end Queue

/-- Of recording a buffer, only the list that it asks for can end with a loss. -/
theorem Queue.Recording.notesLoss_add (recording : Queue.Recording) (resources : Resources)
    (allocator : CommandAllocator) (buffer : CommandBuffer) :
    recording.queue.NotesLoss recording.device
      (SubmitError.tellsLoss (recording.add resources allocator buffer).1)
      (recording.add resources allocator buffer).2.queue
      (recording.add resources allocator buffer).2.device := by
  have notes := recording.queue.notesLoss_acquireList recording.device allocator
  unfold Queue.Recording.add
  split
  · rename_i isInitial
    obtain ⟨cause, rfl⟩ := error_of_initialPipeline isInitial
    exact .refl _ _
  · split
    · rename_i acquired
      rw [acquired] at notes
      exact notes
    · rename_i acquired
      rw [acquired] at notes
      dsimp only
      split
      · rename_i reset
        cases CommandList.error_of_reset reset
        exact notes.repool rfl rfl rfl rfl
      · split
        · exact notes.repool rfl rfl rfl rfl
        · split
          · rename_i close
            cases CommandList.error_of_close close
            exact notes.repool rfl rfl rfl rfl
          · exact notes.repool rfl rfl rfl rfl

/-- The signal, which uses its value up whether or not it fails. -/
theorem Queue.notesLoss_signalNext (queue : Queue) (device : NativeDevice)
    (used : Option CommandAllocator) :
    (queue.advanced used).NotesLoss device
      (SubmitError.tellsLoss (queue.signalNext device used).1)
      (queue.signalNext device used).2.1 (queue.signalNext device used).2.2 := by
  have honours := device.honoursLoss_signal queue.fence (queue.lastSubmitted + 1)
  unfold signalNext
  dsimp only
  generalize device.signal queue.fence (queue.lastSubmitted + 1) = outcome at honours
  obtain ⟨cause | _, final⟩ := outcome
  · exact notesLoss_observe honours (queue.advanced used)
  · exact notesLoss_of_ok honours (queue.advanced used)

/-! ## Steps of a submission -/

/-- Whether the submission ends with a loss. -/
def Progress.tellsLoss : Progress → Bool
  | .reached _ => false
  | .answered answer => SubmitError.tellsLoss answer

namespace Stage

/-- The next step of a submission calls the device: to make it wait, for an allocator, for a list
where the pool has none, to execute lists or to signal. Opening and closing a list are calls of the
list, which fail for no loss. -/
inductive CallsDevice (queue : Queue) (resources : Resources) (work : List CommandBuffer) :
    Stage → Prop
  | wait {token : Token} {later : List Token} :
      CallsDevice queue resources work (.waiting (token :: later))
  | allocator (someWork : work ≠ []) : CallsDevice queue resources work (.waiting [])
  | list {allocator : CommandAllocator} {interpreter : Interpreter} {recorded : List CommandList}
      {buffer : CommandBuffer} {later : List CommandBuffer} {initial : Option ObjectId}
      (noList : queue.lists = [])
      (isInitial : Queue.Recording.initialPipeline resources buffer = .ok initial) :
      CallsDevice queue resources work (.replaying allocator interpreter recorded (buffer :: later))
  | execution {allocator : CommandAllocator} {interpreter : Interpreter}
      {recorded : List CommandList} :
      CallsDevice queue resources work (.replaying allocator interpreter recorded [])
  | signal {used : Option CommandAllocator} : CallsDevice queue resources work (.signaling used)

/-- What a step of a submission makes of a loss, whenever it came. -/
structure HonoursLoss (stage : Stage) (queue : Queue) (device : NativeDevice)
    (resources : Resources) (work : List CommandBuffer) (progress : Progress) (after : Queue)
    (final : NativeDevice) : Prop where
  /-- A submission that ends with a loss leaves the queue lost and the device as it was, and there
  was a loss to tell of. -/
  told : ∀ error, progress = .answered (.error error) → error.isDeviceLost = true →
    after.lost = true ∧ final = device ∧ (queue.lost = true ∨ device.lost = true)
  /-- A call of a lost device ends the submission with the loss. -/
  noticed : device.lost = true → stage.CallsDevice queue resources work →
    progress = .answered (.error (.device .deviceLost))
  /-- Nothing is done to a lost device. -/
  silent : device.lost = true → final = device
  sticky : queue.lost = true → after.lost = true
  /-- No value is used up in front of the signal. -/
  last : (∀ used, stage ≠ .signaling used) → after.lastSubmitted = queue.lastSubmitted

variable {queue after : Queue} {device final : NativeDevice} {resources : Resources}
  {work : List CommandBuffer} {stage : Stage} {progress : Progress}

/-- Whatever a submission calls a lost device for, it gets the loss for an answer. -/
theorem advance_of_lost (gone : device.lost = true)
    (calls : stage.CallsDevice queue resources work) :
    (stage.advance queue device resources work).1 =
      .answered (.error (.device .deviceLost)) := by
  cases calls with
  | @wait token later =>
    rw [advance, (device.honoursLoss_wait token.fence token.value).lost gone]
  | allocator someWork =>
    obtain ⟨pool, _, failed⟩ := queue.acquireAllocator_of_lost gone
    rw [advance, if_neg (mt List.isEmpty_iff.mp someWork), failed]
  | @list allocator interpreter recorded buffer later initial noList isInitial =>
    have refused := (device.honoursLoss_createList queue.type allocator).lost gone
    simp only [advance, Queue.Recording.add, isInitial, Queue.acquireList, noList, refused]
  | @execution allocator interpreter recorded =>
    have honours := device.honoursLoss_execute (queue.poolLists recorded).native recorded
    simp only [advance, honours.lost gone]
  | signal =>
    have refused := (device.honoursLoss_signal queue.fence (queue.lastSubmitted + 1)).lost gone
    simp only [advance, Queue.signalNext, refused]

/-- A step that notes a loss honours it. -/
theorem honoursLoss_of_notesLoss (before : Queue)
    (notes : before.NotesLoss device (stage.advance queue device resources work).1.tellsLoss
      (stage.advance queue device resources work).2.1
      (stage.advance queue device resources work).2.2)
    (same : before.lost = queue.lost)
    (last : (∀ used, stage ≠ .signaling used) → before.lastSubmitted = queue.lastSubmitted) :
    stage.HonoursLoss queue device resources work
      (stage.advance queue device resources work).1
      (stage.advance queue device resources work).2.1
      (stage.advance queue device resources work).2.2 where
  told error answered isLoss := by
    have tells : (stage.advance queue device resources work).1.tellsLoss = true := by
      rw [answered]
      exact isLoss
    have gone := notes.real tells
    exact ⟨notes.remembered tells, notes.silent gone, .inr gone⟩
  noticed := advance_of_lost
  silent := notes.silent
  sticky lost := notes.sticky (same.trans lost)
  last notSignal := notes.last.trans (last notSignal)

theorem honoursLoss_advance (stage : Stage) (queue : Queue) (device : NativeDevice)
    (resources : Resources) (work : List CommandBuffer) :
    stage.HonoursLoss queue device resources work
      (stage.advance queue device resources work).1
      (stage.advance queue device resources work).2.1
      (stage.advance queue device resources work).2.2 := by
  cases stage with
  | entering waits =>
    cases lost : queue.lost with
    | true =>
      rw [advance, if_pos lost]
      exact ⟨fun _ _ _ => ⟨lost, rfl, .inl lost⟩, fun _ _ => rfl, fun _ => rfl, id, fun _ => rfl⟩
    | false =>
      refine honoursLoss_of_notesLoss queue ?_ rfl fun _ => rfl
      rw [advance, if_neg (Bool.eq_false_iff.mp lost)]
      exact .refl queue device
  | waiting waits =>
    cases waits with
    | nil =>
      refine honoursLoss_of_notesLoss queue ?_ rfl fun _ => rfl
      have notes := queue.notesLoss_acquireAllocator device
      rw [advance]
      split
      · exact .refl queue device
      · split
        · rename_i refused
          rw [refused] at notes
          exact notes
        · rename_i acquired
          rw [acquired] at notes
          exact notes
    | cons token later =>
      refine honoursLoss_of_notesLoss queue ?_ rfl fun _ => rfl
      have honours := device.honoursLoss_wait token.fence token.value
      rw [advance]
      split
      · rename_i failed
        rw [failed] at honours
        exact Queue.notesLoss_observe honours queue
      · rename_i waited
        rw [waited] at honours
        exact Queue.notesLoss_of_ok honours queue
  | replaying allocator interpreter recorded later =>
    refine honoursLoss_of_notesLoss queue ?_ rfl fun _ => rfl
    cases later with
    | nil =>
      have honours := device.honoursLoss_execute (queue.poolLists recorded).native recorded
      rw [advance]
      split
      · rename_i failed
        rw [failed] at honours
        exact (Queue.notesLoss_observe honours (queue.poolLists recorded)).repool rfl rfl rfl rfl
      · rename_i executed
        rw [executed] at honours
        exact (Queue.notesLoss_of_ok honours (queue.poolLists recorded)).repool rfl rfl rfl rfl
    | cons buffer later =>
      have notes := Queue.Recording.notesLoss_add ⟨queue, device, interpreter, recorded⟩ resources
        allocator buffer
      rw [advance]
      split
      · rename_i failed
        rw [failed] at notes
        exact notes.repool rfl rfl rfl rfl
      · rename_i added
        rw [added] at notes
        exact notes
  | signaling used =>
    refine honoursLoss_of_notesLoss (queue.advanced used) ?_ ?_ ?_
    · exact queue.notesLoss_signalNext device used
    · cases used <;> rfl
    · exact fun notSignal => absurd rfl (notSignal used)

end Stage

/-! ## Submissions in one piece -/

namespace Queue

variable {queue after : Queue} {resources : Resources}

namespace Recording

/-- On a working device no buffer fails for a loss. -/
theorem isDeviceLost_of_add {recording : Recording} (present : recording.device.lost = false)
    {allocator : CommandAllocator} {buffer : CommandBuffer} {error : SubmitError}
    (failed : (recording.add resources allocator buffer).1 = .error error) :
    error.isDeviceLost = false := by
  have notes := recording.notesLoss_add resources allocator buffer
  rw [failed] at notes
  refine Bool.eq_false_iff.mpr fun isLoss => ?_
  cases present.symm.trans (notes.real isLoss)

/-- Nor do buffers in a row. -/
theorem isDeviceLost_of_addAll {recording : Recording} (present : recording.device.lost = false)
    {allocator : CommandAllocator} {buffers : List CommandBuffer} {error : SubmitError}
    (failed : (recording.addAll resources allocator buffers).1 = .error error) :
    error.isDeviceLost = false := by
  induction buffers generalizing recording with
  | nil => cases failed
  | cons buffer later inductionHypothesis =>
    have frame := (recording.add_of_present present resources allocator buffer).1
    have notLost : ∀ {cause}, (recording.add resources allocator buffer).1 = .error cause →
        cause.isDeviceLost = false := isDeviceLost_of_add present
    rw [addAll] at failed
    rcases added : recording.add resources allocator buffer with ⟨cause | _, middle⟩
    · rw [added] at failed notLost
      cases failed
      exact notLost rfl
    · rw [added] at failed frame
      exact inductionHypothesis (frame.lost_eq.trans present) failed

end Recording

/-- On a working device no execution fails for a loss. -/
theorem Delivers.isDeviceLost {device final : NativeDevice} {work : List CommandBuffer}
    {error : SubmitError} (present : device.lost = false)
    (delivers : queue.Delivers device resources work (.error error) after final) :
    error.isDeviceLost = false := by
  cases delivers with
  | unrecorded acquires failed =>
    exact Recording.isDeviceLost_of_addAll (acquires.lost_eq.trans present) failed
  | refused => rfl

/-- A signal that is made to fail is not a loss. -/
theorem Signals.isDeviceLost {device final : NativeDevice} {used : Option CommandAllocator}
    {error : SubmitError} (signals : queue.Signals device used (.error error) after final) :
    error.isDeviceLost = false := by
  cases signals
  rfl

section Submits

variable {device final : Device} {buffers : List CommandBuffer} {dependencies : List Token}
  {answer : Except SubmitError Token}

/-- A submission that fails for a loss remembers the loss, and does nothing else to the device or
to the count of the queue. -/
theorem Submits.lost_of_error {error : SubmitError}
    (submits : queue.Submits device buffers dependencies (.error error) after final)
    (isLoss : error.isDeviceLost = true) :
    after.lost = true ∧ final = device ∧ after.lastSubmitted = queue.lastSubmitted := by
  have noLoss : error.isDeviceLost = false →
      after.lost = true ∧ final = device ∧ after.lastSubmitted = queue.lastSubmitted :=
    fun other => by cases other.symm.trans isLoss
  cases submits with
  | closed lost => exact ⟨lost, rfl, rfl⟩
  | works usable pending works =>
    cases works with
    | lost => exact ⟨rfl, rfl, rfl⟩
    | waited _ _ signals => exact noLoss signals.isDeviceLost
    | failed present _ delivers =>
      have waited : (device.native.logged
        ((queue.waits device.native dependencies).map Token.waiting)).lost = false := present
      exact noLoss (delivers.isDeviceLost waited)
    | delivered _ _ _ signals => exact noLoss signals.isDeviceLost

/-- A queue remembers a loss. -/
theorem Submits.lost_of_lost
    (submits : queue.Submits device buffers dependencies answer after final)
    (lost : queue.lost = true) : after.lost = true := by
  cases submits with
  | idle => exact lost
  | closed => exact lost
  | works usable => cases usable.symm.trans lost

/-- A submission does not bring back a lost device. -/
theorem Submits.native_lost
    (submits : queue.Submits device buffers dependencies answer after final)
    (gone : device.native.lost = true) : final.native.lost = true := by
  cases submits with
  | idle => exact gone
  | closed => exact gone
  | works usable pending works =>
    cases works with
    | lost => exact gone
    | waited present => cases present.symm.trans gone
    | failed present => cases present.symm.trans gone
    | delivered present => cases present.symm.trans gone

end Submits

end Queue

namespace Submission

/-- There is something for a submission to do: a buffer that holds a record, or a token of another
queue that is not reached. -/
def IsPending (submission : Submission) : Prop :=
  (∃ buffer ∈ submission.buffers, buffer.isEmpty = false) ∨
    ∃ token ∈ submission.dependencies, token.fence ≠ submission.queue.fence ∧
      token.isReached submission.device.native = false

/-- What a submission makes of a loss. -/
structure HonoursLoss (submission : Submission) : Prop where
  /-- Where the device is lost, nothing but the loss decides about a submission. -/
  answer : submission.device.native.lost = true → submission.IsPending →
    submission.answer = .error (.device .deviceLost)
  /-- A submission that tells of a loss leaves the queue lost, its count as it was, and the device
  with its log, its counters, its fences and all else. -/
  silent : ∀ error, submission.answer = .error error → error.isDeviceLost = true →
    submission.after.lost = true ∧ submission.final = submission.device ∧
      submission.after.lastSubmitted = submission.queue.lastSubmitted

variable {submission : Submission}

theorem IsPending.works (pending : submission.IsPending) :
    Queue.work submission.buffers ≠ [] ∨ submission.waits ≠ [] := by
  obtain ⟨buffer, member, holds⟩ | ⟨token, member, other, pending⟩ := pending
  · refine .inl (List.ne_nil_of_mem (List.mem_filter.mpr ⟨member, ?_⟩))
    rw [holds]
    rfl
  · refine .inr (List.ne_nil_of_mem (List.mem_filter.mpr ⟨member, ?_⟩))
    rw [Queue.awaits, pending, bne_iff_ne.mpr other]
    rfl

theorem honoursLoss (submission : Submission) : submission.HonoursLoss where
  answer gone pending := (Queue.ends_of_lost pending.works (.inr gone)).answer
  silent error failed isLoss := by
    have submits := submission.submits
    rw [failed] at submits
    exact submits.lost_of_error isLoss

end Submission

/-! ## Sessions -/

/-- From one session to a later one no loss is forgotten: the device stays lost, and each queue
stays in its place and keeps its knowledge. -/
structure Session.RemembersLoss (session later : Session) : Prop where
  device : session.device.native.lost = true → later.device.native.lost = true
  queues : ∀ (index : Nat) (queue : Queue), session.queues[index]? = some queue →
    ∃ after, later.queues[index]? = some after ∧ (queue.lost = true → after.lost = true)

namespace Session.RemembersLoss

theorem refl (session : Session) : session.RemembersLoss session :=
  ⟨id, fun _ queue found => ⟨queue, found, id⟩⟩

theorem trans {first middle last : Session} (front : first.RemembersLoss middle)
    (back : middle.RemembersLoss last) : first.RemembersLoss last where
  device gone := back.device (front.device gone)
  queues index queue found := by
    obtain ⟨between, isBetween, kept⟩ := front.queues index queue found
    obtain ⟨after, isAfter, keptBehind⟩ := back.queues index between isBetween
    exact ⟨after, isAfter, fun lost => keptBehind (kept lost)⟩

end Session.RemembersLoss

namespace Session

/-- Nothing brings back a lost device, and what is submitted to it finds it lost. -/
theorem Changes.native_lost {session next : Session} {submission? : Option Submission}
    (changes : session.Changes submission? next) (gone : session.device.native.lost = true) :
    next.device.native.lost = true ∧
      ∀ submission ∈ submission?.toList, submission.device.native.lost = true := by
  cases changes with
  | quiet native => exact ⟨native.lost gone, List.forall_mem_nil _⟩
  | completed => exact ⟨gone, List.forall_mem_nil _⟩
  | created => exact ⟨gone, List.forall_mem_nil _⟩
  | submitted device =>
    rw [← device] at gone
    exact ⟨Submission.submits.native_lost gone, List.forall_mem_singleton.mpr gone⟩

/-- So a device that works after a change worked before it. -/
theorem Changes.present {session next : Session} {submission? : Option Submission}
    (changes : session.Changes submission? next) (present : next.device.native.lost = false) :
    session.device.native.lost = false := by
  by_contra gone
  rw [(changes.native_lost (Bool.not_eq_false _ ▸ gone)).1] at present
  cases present

theorem native_lost_after {session : Session} (gone : session.device.native.lost = true)
    (actions : List Action) :
    (session.after actions).device.native.lost = true ∧
      ∀ submission ∈ session.submissions actions, submission.device.native.lost = true := by
  induction actions generalizing session with
  | nil => exact ⟨gone, List.forall_mem_nil _⟩
  | cons action actions inductionHypothesis =>
    obtain ⟨stillGone, first⟩ := (session.changes_perform action).native_lost gone
    obtain ⟨lastGone, behind⟩ := inductionHypothesis stillGone
    exact ⟨lastGone, List.forall_mem_append.mpr ⟨first, behind⟩⟩

/-- Whatever is done, a queue stays in its place and keeps its knowledge of a loss. -/
theorem Changes.queue_lost {session next : Session} {submission? : Option Submission}
    (changes : session.Changes submission? next) {index : Nat} {queue : Queue}
    (found : session.queues[index]? = some queue) :
    ∃ later, next.queues[index]? = some later ∧ (queue.lost = true → later.lost = true) := by
  cases changes with
  | quiet => exact ⟨queue, found, id⟩
  | completed => exact ⟨queue, found, id⟩
  | created =>
    obtain ⟨inRange, _⟩ := List.getElem?_eq_some_iff.mp found
    exact ⟨queue, (List.getElem?_append_left inRange).trans found, id⟩
  | @submitted submission front back device queues =>
    rw [queues] at found
    obtain before | rfl | behind := Nat.lt_trichotomy index front.length
    · rw [List.getElem?_append_left before] at found
      exact ⟨queue, (List.getElem?_append_left before).trans found, id⟩
    · rw [List.getElem?_append_right (Nat.le_refl _), Nat.sub_self] at found
      cases found
      refine ⟨submission.after, ?_, submission.submits.lost_of_lost⟩
      rw [List.getElem?_append_right (Nat.le_refl _), Nat.sub_self]
      rfl
    · refine ⟨queue, ?_, id⟩
      obtain ⟨distance, rfl⟩ := Nat.exists_eq_add_of_lt behind
      rw [← found, List.getElem?_append_right (by omega), List.getElem?_append_right (by omega)]
      have isBehind : front.length + distance + 1 - front.length = distance + 1 := by omega
      rw [isBehind]
      rfl

theorem Changes.remembersLoss {session next : Session} {submission? : Option Submission}
    (changes : session.Changes submission? next) : session.RemembersLoss next :=
  ⟨fun gone => (changes.native_lost gone).1, fun _ _ found => changes.queue_lost found⟩

theorem remembersLoss_after (session : Session) (actions : List Action) :
    session.RemembersLoss (session.after actions) := by
  induction actions generalizing session with
  | nil => exact .refl session
  | cons action actions inductionHypothesis =>
    have first := (session.changes_perform action).remembersLoss
    exact first.trans (inductionHypothesis _)

end Session

/-! ## Submissions side by side -/

namespace Traffic

/-- Whatever happens next, no loss is forgotten. -/
theorem Step.remembersLoss {traffic next : Traffic} (step : traffic.Step next) :
    traffic.session.RemembersLoss next.session := by
  cases step with
  | @acts action other =>
    exact (traffic.session.changes_perform action).remembersLoss
  | idles => exact .refl _
  | begins => exact .refl _
  | @advances front back flight queue after progress native added isFlight found free advanced =>
    have honours := flight.stage.honoursLoss_advance queue traffic.session.device.native
      traffic.session.device.resources flight.work
    rw [advanced] at honours
    constructor
    case device =>
      intro gone
      have unchanged : native = traffic.session.device.native := honours.silent gone
      change native.lost = true
      rw [unchanged]
      exact gone
    case queues =>
      intro index other isOther
      obtain ⟨inRange, _⟩ := List.getElem?_eq_some_iff.mp isOther
      by_cases same : flight.index = index
      · subst same
        cases found.symm.trans isOther
        exact ⟨after, List.getElem?_set_self inRange, honours.sticky⟩
      · exact ⟨other, (List.getElem?_set_ne same).trans isOther, id⟩

/-- So none is forgotten by whatever happens in a row. -/
theorem Steps.remembersLoss {first last : Traffic} (steps : first.Steps last) :
    first.session.RemembersLoss last.session := by
  induction steps with
  | refl => exact .refl _
  | step _ next inductionHypothesis => exact inductionHypothesis.trans next.remembersLoss

end Traffic

/-- The loss of a device is sticky and silent. Behind it, whatever is done, the device is lost for
every submission, and a queue that knows of the loss does not forget it. Each submission that has
something to do answers with the loss, whatever its buffers are, and such an answer leaves all as it
was, but that the queue knows of the loss. Nor does it matter where the loss is seen first:
whichever native call of a submission fails for it, the submission ends there, the queue knows of
the loss and the device stays as it was. And no loss is forgotten when submissions go on side by
side. -/
theorem device_loss_sticky_silent (session : Session) (actions : List Action) :
    (∀ submission ∈ session.submissions actions, submission.HonoursLoss) ∧
      (session.device.native.lost = true →
        (session.after actions).device.native.lost = true ∧
          ∀ submission ∈ session.submissions actions, submission.device.native.lost = true) ∧
      (∀ (index : Nat) (queue : Queue), session.queues[index]? = some queue →
        ∃ later, (session.after actions).queues[index]? = some later ∧
          (queue.lost = true → later.lost = true)) ∧
      (∀ (stage : Stage) (queue : Queue) (device : NativeDevice) (resources : Resources)
          (work : List CommandBuffer),
        let step := stage.advance queue device resources work
        stage.HonoursLoss queue device resources work step.1 step.2.1 step.2.2) ∧
      ∀ traffic later : Traffic, traffic.Steps later →
        traffic.session.RemembersLoss later.session :=
  ⟨fun submission _ => submission.honoursLoss, fun gone => Session.native_lost_after gone actions,
    (session.remembersLoss_after actions).queues, Stage.honoursLoss_advance,
    fun _ _ => Traffic.Steps.remembersLoss⟩

/-- A buffer that cannot be read is submitted twice to a queue whose device is lost. The queue knows
of the loss from the first time on, and nothing else changes. Had the device been lost later, when a
list was asked for or when the lists were to be executed, the queue would know of it as well. -/
theorem device_loss_sticky_silent_unreadable :
    let unreadable : CommandBuffer := ⟨[255], 1, none⟩
    let session := (Session.start .small).after [.createQueue .graphics .graphics, .lose]
    let actions : List Action := [.submit 0 [unreadable] [], .submit 0 [unreadable] []]
    let lost := session.device.native
    let allocator : CommandAllocator := ⟨5, .graphics, 0⟩
    unreadable.walk.failure.isSome = true ∧ session.queues.map Queue.lost = [false] ∧
      lost.lost = true ∧
      (session.submissions actions).map Submission.buffers = [[unreadable], [unreadable]] ∧
      (∀ submission ∈ session.submissions actions,
        submission.answer = .error (.device .deviceLost) ∧ submission.after.lost = true ∧
          submission.final = submission.device) ∧
      ∀ later ∈ [[unreadable], []],
        let stage : Stage := .replaying allocator .fresh [] later
        let step := stage.advance .sample lost session.device.resources [unreadable]
        step.1 = .answered (.error (.device .deviceLost)) ∧ step.2.1.lost = true ∧
          step.2.2 = lost := by
  intro unreadable session actions lost allocator
  have broken : unreadable.walk.failure.isSome = true := by decide +kernel
  have unaware : session.queues.map Queue.lost = [false] := by decide +kernel
  have gone : lost.lost = true := by decide +kernel
  have buffers : (session.submissions actions).map Submission.buffers =
      [[unreadable], [unreadable]] := by decide +kernel
  obtain ⟨honours, remains, _, steps, _⟩ := device_loss_sticky_silent session actions
  refine ⟨broken, unaware, gone, buffers, fun submission member => ?_, fun later among => ?_⟩
  · have isBuffers : submission.buffers ∈ [[unreadable], [unreadable]] :=
      buffers ▸ List.mem_map_of_mem member
    have holds : unreadable ∈ submission.buffers := by
      obtain first | second := List.mem_cons.mp isBuffers
      · exact first ▸ List.mem_singleton_self unreadable
      · exact List.mem_singleton.mp second ▸ List.mem_singleton_self unreadable
    have answer := (honours submission member).answer ((remains gone).2 submission member)
      (.inl ⟨unreadable, holds, rfl⟩)
    obtain ⟨remembered, silent, _⟩ := (honours submission member).silent _ answer rfl
    exact ⟨answer, remembered, silent⟩
  · intro stage step
    have step := steps stage .sample lost session.device.resources [unreadable]
    have calls : stage.CallsDevice .sample session.device.resources [unreadable] := by
      obtain rfl | none := List.mem_cons.mp among
      · exact .list rfl rfl
      · obtain rfl := List.mem_singleton.mp none
        exact .execution
    have answered := step.noticed gone calls
    obtain ⟨remembered, unchanged, _⟩ := step.told _ answered rfl
    exact ⟨answered, remembered, unchanged⟩

end CommandStream
