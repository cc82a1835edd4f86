import CommandStream.Proofs.Submission
/-!
# Submissions step by step

`Queue.submit` goes through a submission in one piece. Where queues are used at the same time, a
submission does not come through undisturbed: between two of its native calls the others go on, work
is completed or the device is lost. `Stage.advance` takes a submission from one native call to the
next, with the queue and the device as it finds them. Taken in a row, the steps come to what the
submission comes to (`completes_submit`), and each of them appends to the log what `Stage.Emits`
says.
-/

namespace CommandStream

/-- How far a submission has come. -/
inductive Stage
  /-- It is known what to wait for, and the queue is not entered yet. -/
  | entering (waits : List Token)
  /-- Some of the waits are made, and others are still to be made. -/
  | waiting (waits : List Token)
  /-- Some of the buffers are recorded, and others are still to be recorded. -/
  | replaying (allocator : CommandAllocator) (interpreter : Interpreter)
      (recorded : List CommandList) (later : List CommandBuffer)
  /-- Only the signal is missing. -/
  | signaling (used : Option CommandAllocator)

/-- What a step of a submission leads to. -/
inductive Progress
  | reached (stage : Stage)
  | answered (answer : Except SubmitError Token)

namespace Stage

/-- Whether the submission has the queue to itself. -/
def entered : Stage → Bool
  | .entering _ => false
  | _ => true

/-- The tokens that are still to be waited for. -/
def waits : Stage → List Token
  | .entering waits => waits
  | .waiting waits => waits
  | _ => []

/-- The next step of a submission, with at most one native call. -/
def advance (queue : Queue) (device : NativeDevice) (resources : Resources)
    (work : List CommandBuffer) : Stage → Progress × Queue × NativeDevice
  | .entering waits =>
    if queue.lost then (.answered (.error (.device .deviceLost)), queue, device)
    else (.reached (.waiting waits), queue, device)
  | .waiting (token :: later) =>
    match device.wait token.fence token.value with
    | (.error cause, device) => (.answered (.error (.device cause)), queue.observe cause, device)
    | (.ok (), device) => (.reached (.waiting later), queue, device)
  | .waiting [] =>
    if work.isEmpty then (.reached (.signaling none), queue, device)
    else
      match queue.acquireAllocator device with
      | (.error cause, queue, device) => (.answered (.error (.device cause)), queue, device)
      | (.ok allocator, queue, device) =>
        (.reached (.replaying allocator .fresh [] work), queue, device)
  | .replaying allocator interpreter recorded (buffer :: later) =>
    match Queue.Recording.add ⟨queue, device, interpreter, recorded⟩ resources allocator buffer with
    | (.error error, recording) =>
      (.answered (.error error),
        (recording.queue.poolAllocator recording.queue.lastSubmitted allocator).poolLists
          recording.recorded,
        recording.device)
    | (.ok (), recording) =>
      (.reached (.replaying allocator recording.interpreter recording.recorded later),
        recording.queue, recording.device)
  | .replaying allocator _ recorded [] =>
    let queue := queue.poolLists recorded
    match device.execute queue.native recorded with
    | (.error cause, device) =>
      (.answered (.error (.device cause)),
        (queue.observe cause).poolAllocator queue.lastSubmitted allocator, device)
    | (.ok (), device) => (.reached (.signaling (some allocator)), queue, device)
  | .signaling used =>
    let (answer, queue, device) := queue.signalNext device used
    (.answered answer, queue, device)

/-! ## Steps in a row -/

/-- What the steps of a submission come to that nothing disturbs: its answer, and the queue and the
device after it. -/
inductive Completes (resources : Resources) (work : List CommandBuffer) :
    Stage → Queue → NativeDevice → Except SubmitError Token → Queue → NativeDevice → Prop
  | last {stage : Stage} {queue after : Queue} {device final : NativeDevice}
      {answer : Except SubmitError Token}
      (answered : stage.advance queue device resources work = (.answered answer, after, final)) :
      Completes resources work stage queue device answer after final
  | step {stage next : Stage} {queue between after : Queue} {device state final : NativeDevice}
      {answer : Except SubmitError Token}
      (reached : stage.advance queue device resources work = (.reached next, between, state))
      (rest : Completes resources work next between state answer after final) :
      Completes resources work stage queue device answer after final

section Completing

variable {resources : Resources} {work : List CommandBuffer} {queue after : Queue}
  {device final : NativeDevice} {answer : Except SubmitError Token}

/-- The signal is the last step. -/
theorem completes_signaling (used : Option CommandAllocator)
    (signaled : queue.signalNext device used = (answer, after, final)) :
    Completes resources work (.signaling used) queue device answer after final :=
  .last (by rw [advance, signaled])

/-- Waits that are all made are steps in a row. -/
theorem completes_waiting {waits : List Token} {state : NativeDevice}
    (waited : Queue.issueWaits device waits = (.ok (), state))
    (rest : Completes resources work (.waiting []) queue state answer after final) :
    Completes resources work (.waiting waits) queue device answer after final := by
  induction waits generalizing device with
  | nil =>
    cases waited
    exact rest
  | cons token later inductionHypothesis =>
    rw [Queue.issueWaits] at waited
    split at waited
    · cases waited
    · rename_i between made
      exact .step (by rw [advance, made]) (inductionHypothesis waited)

/-- A wait that fails is the last step. -/
theorem completes_of_wait_error {waits : List Token} {cause : DeviceError}
    (refused : Queue.issueWaits device waits = (.error cause, final)) :
    Completes resources work (.waiting waits) queue device (.error (.device cause))
      (queue.observe cause) final := by
  induction waits generalizing device with
  | nil => cases refused
  | cons token later inductionHypothesis =>
    rw [Queue.issueWaits] at refused
    split at refused
    · rename_i between failed
      cases refused
      exact .last (by rw [advance, failed])
    · rename_i between made
      exact .step (by rw [advance, made]) (inductionHypothesis refused)

variable {allocator : CommandAllocator} {recording recorded : Queue.Recording}
  {later : List CommandBuffer}

/-- Buffers that are all recorded are steps in a row. -/
theorem completes_recording
    (added : recording.addAll resources allocator later = (.ok (), recorded))
    (rest : Completes resources work
      (.replaying allocator recorded.interpreter recorded.recorded []) recorded.queue
      recorded.device answer after final) :
    Completes resources work (.replaying allocator recording.interpreter recording.recorded later)
      recording.queue recording.device answer after final := by
  induction later generalizing recording with
  | nil =>
    cases added
    exact rest
  | cons buffer later inductionHypothesis =>
    rw [Queue.Recording.addAll] at added
    split at added
    · cases added
    · rename_i between first
      exact .step (by rw [advance, first]) (inductionHypothesis added)

/-- A buffer that is not recorded is the last step. -/
theorem completes_of_add_error {error : SubmitError}
    (failed : recording.addAll resources allocator later = (.error error, recorded)) :
    Completes resources work (.replaying allocator recording.interpreter recording.recorded later)
      recording.queue recording.device (.error error)
      ((recorded.queue.poolAllocator recorded.queue.lastSubmitted allocator).poolLists
        recorded.recorded) recorded.device := by
  induction later generalizing recording with
  | nil => cases failed
  | cons buffer later inductionHypothesis =>
    rw [Queue.Recording.addAll] at failed
    split at failed
    · rename_i between first
      cases failed
      exact .last (by rw [advance, first])
    · rename_i between first
      exact .step (by rw [advance, first]) (inductionHypothesis failed)

variable {error : SubmitError} {between : Queue} {state : NativeDevice}

/-- Buffers that are not executed end a submission whose waits are made. -/
theorem completes_of_execute_error (someWork : work ≠ [])
    (failed : queue.executeBuffers device resources work = (.error error, after, final)) :
    Completes resources work (.waiting []) queue device (.error error) after final := by
  have notEmpty : ¬work.isEmpty = true := mt List.isEmpty_iff.mp someWork
  rw [Queue.executeBuffers] at failed
  split at failed
  · rename_i refused
    cases failed
    exact .last (by rw [advance, if_neg notEmpty, refused])
  · rename_i acquired
    refine .step (by rw [advance, if_neg notEmpty, acquired]) ?_
    split at failed
    · rename_i added
      cases failed
      exact completes_of_add_error added
    · rename_i added
      refine completes_recording added ?_
      dsimp only at failed
      split at failed
      · rename_i refused
        cases failed
        exact .last (by rw [advance, refused])
      · cases failed

/-- Buffers that are executed are followed by the signal. -/
theorem completes_executeBuffers (someWork : work ≠ [])
    (executed : queue.executeBuffers device resources work = (.ok allocator, between, state))
    (signaled : between.signalNext state (some allocator) = (answer, after, final)) :
    Completes resources work (.waiting []) queue device answer after final := by
  have notEmpty : ¬work.isEmpty = true := mt List.isEmpty_iff.mp someWork
  rw [Queue.executeBuffers] at executed
  split at executed
  · cases executed
  · rename_i acquired
    refine .step (by rw [advance, if_neg notEmpty, acquired]) ?_
    split at executed
    · cases executed
    · rename_i added
      refine completes_recording added ?_
      dsimp only at executed
      split at executed
      · cases executed
      · rename_i accepted
        cases executed
        exact .step (by rw [advance, accepted]) (completes_signaling _ signaled)

/-- Taken in a row, the steps of a submission come to what submitting its work comes to. -/
theorem completes_submitWork {waits : List Token}
    (submitted : queue.submitWork device resources work waits = (answer, after, final)) :
    Completes resources work (.waiting waits) queue device answer after final := by
  rw [Queue.submitWork] at submitted
  split at submitted
  · rename_i refused
    cases submitted
    exact completes_of_wait_error refused
  · rename_i waited
    refine completes_waiting waited ?_
    by_cases noWork : work.isEmpty = true
    · rw [if_pos noWork] at submitted
      exact .step (by rw [advance, if_pos noWork]) (completes_signaling _ submitted)
    · rw [if_neg noWork] at submitted
      have someWork : work ≠ [] := mt List.isEmpty_iff.mpr noWork
      split at submitted
      · rename_i failed
        cases submitted
        exact completes_of_execute_error someWork failed
      · rename_i executed
        exact completes_executeBuffers someWork executed submitted

end Completing

/-- The steps of a submission with something to do come to what the submission comes to. -/
theorem completes_submit {queue after : Queue} {device final : Device}
    {buffers : List CommandBuffer} {dependencies : List Token} {answer : Except SubmitError Token}
    (pending : Queue.work buffers ≠ [] ∨ queue.waits device.native dependencies ≠ [])
    (submitted : queue.submit device buffers dependencies = (answer, after, final)) :
    Completes device.resources (Queue.work buffers)
      (.entering (queue.waits device.native dependencies)) queue device.native answer after
      final.native := by
  cases lost : queue.lost with
  | true =>
    cases Queue.submits_of_submit submitted with
    | idle noWork noWaits =>
      exact absurd pending (not_or.mpr ⟨not_not_intro noWork, not_not_intro noWaits⟩)
    | closed => exact .last (by rw [advance, if_pos lost])
    | works usable => cases lost.symm.trans usable
  | false =>
    rw [Queue.submit_of_pending lost pending] at submitted
    cases submitted
    exact .step (by rw [advance, if_neg (Bool.eq_false_iff.mp lost)]) (completes_submitWork rfl)

end Stage

/-! ## What a step appends -/

/-- The token that a submission is answered with in a step, if it is answered and succeeded. -/
def Progress.token? : Progress → Option Token
  | .reached _ => none
  | .answered answer => answer.toOption

/-- The tokens that are still to be waited for behind a step. -/
def Progress.waits : Progress → List Token
  | .reached stage => stage.waits
  | .answered _ => []

/-- What a step of a submission to a queue appends to the log: nothing, a wait that was due, the
execution of its lists, or the signal that its token promises. -/
inductive Stage.Emits (queue : Queue) : Stage → Progress → List QueueEvent → Prop
  | nothing {stage : Stage} {progress : Progress} (waits : progress.waits ⊆ stage.waits)
      (noToken : progress.token? = none) : Emits queue stage progress []
  | wait {token : Token} {later : List Token} :
      Emits queue (.waiting (token :: later)) (.reached (.waiting later)) [token.waiting]
  | execution {stage : Stage} {lists : List (List Call)} {used : Option CommandAllocator} :
      Emits queue stage (.reached (.signaling used)) [.execute lists]
  | signal {stage : Stage} :
      Emits queue stage (.answered (.ok ⟨queue.fence, queue.lastSubmitted + 1⟩))
        [.signal queue.fence (queue.lastSubmitted + 1)]

namespace Queue

/-- Only waits, executions and signals are logged: not what becomes of allocators, -/
theorem log_acquireAllocator (queue : Queue) (device : NativeDevice) :
    (queue.acquireAllocator device).2.2.log = device.log := by
  cases gone : device.lost with
  | true =>
    obtain ⟨pool, _, refused⟩ := queue.acquireAllocator_of_lost gone
    rw [refused]
  | false =>
    obtain ⟨allocator, acquired, state, isAcquired, acquires⟩ :=
      queue.acquireAllocator_of_present gone
    rw [isAcquired, acquires.log_eq]

/-- nor of lists, -/
theorem log_acquireList (queue : Queue) (device : NativeDevice) (allocator : CommandAllocator) :
    (queue.acquireList device allocator).2.2.log = device.log := by
  unfold acquireList NativeDevice.createList
  split
  · rfl
  · split
    · rename_i refused
      split at refused
      · cases refused
        rfl
      · split at refused
        · cases refused
          rfl
        · cases refused
    · rename_i made
      split at made
      · cases made
      · split at made
        · cases made
        · cases made
          rfl

/-- nor what is recorded. -/
theorem Recording.log_add (recording : Recording) (resources : Resources)
    (allocator : CommandAllocator) (buffer : CommandBuffer) :
    (recording.add resources allocator buffer).2.device.log = recording.device.log := by
  have log := recording.queue.log_acquireList recording.device allocator
  unfold add
  split
  · rfl
  · split
    · rename_i acquired
      rw [acquired] at log
      exact log
    · rename_i acquired
      rw [acquired] at log
      dsimp only
      split
      · exact log
      · split
        · exact log
        · split <;> exact log

end Queue

/-- Every step appends what is said. -/
theorem Stage.emits_of_advance {queue after : Queue} {device final : NativeDevice}
    {resources : Resources} {work : List CommandBuffer} {stage : Stage} {progress : Progress}
    (advanced : stage.advance queue device resources work = (progress, after, final)) :
    ∃ added, final.log = device.log ++ added ∧ stage.Emits queue progress added := by
  have silent : final.log = device.log → progress.waits ⊆ stage.waits →
      progress.token? = none →
      ∃ added, final.log = device.log ++ added ∧ stage.Emits queue progress added :=
    fun log waits noToken => ⟨[], by rw [log, List.append_nil], .nothing waits noToken⟩
  cases stage with
  | entering waits =>
    rw [advance] at advanced
    split at advanced
    · cases advanced
      exact silent rfl (List.nil_subset _) rfl
    · cases advanced
      exact silent rfl (List.Subset.refl _) rfl
  | waiting waits =>
    cases waits with
    | nil =>
      have log := queue.log_acquireAllocator device
      rw [advance] at advanced
      split at advanced
      · cases advanced
        exact silent rfl (List.nil_subset _) rfl
      · split at advanced
        · rename_i refused
          rw [refused] at log
          cases advanced
          exact silent log (List.nil_subset _) rfl
        · rename_i acquired
          rw [acquired] at log
          cases advanced
          exact silent log (List.nil_subset _) rfl
    | cons token later =>
      rw [advance, NativeDevice.wait] at advanced
      cases gone : device.lost with
      | true =>
        rw [if_pos gone] at advanced
        cases advanced
        exact silent rfl (List.nil_subset _) rfl
      | false =>
        rw [if_neg (Bool.eq_false_iff.mp gone)] at advanced
        cases advanced
        exact ⟨_, rfl, .wait⟩
  | replaying allocator interpreter recorded later =>
    cases later with
    | nil =>
      rw [advance] at advanced
      cases gone : device.lost with
      | true =>
        rw [NativeDevice.execute, if_pos gone] at advanced
        cases advanced
        exact silent rfl (List.nil_subset _) rfl
      | false =>
        rcases Queue.execute_of_present gone (queue.poolLists recorded).native recorded with
          refused | executed
        · rw [refused] at advanced
          cases advanced
          exact silent rfl (List.nil_subset _) rfl
        · rw [executed] at advanced
          cases advanced
          exact ⟨_, rfl, .execution⟩
    | cons buffer later =>
      have log := Queue.Recording.log_add ⟨queue, device, interpreter, recorded⟩ resources
        allocator buffer
      rw [advance] at advanced
      split at advanced
      · rename_i failed
        rw [failed] at log
        cases advanced
        exact silent log (List.nil_subset _) rfl
      · rename_i added
        rw [added] at log
        cases advanced
        exact silent log (List.nil_subset _) rfl
  | signaling used =>
    rw [advance] at advanced
    cases gone : device.lost with
    | true =>
      have refused : queue.signalNext device used =
          (.error (.device .deviceLost), (queue.advanced used).observe .deviceLost, device) := by
        simp only [Queue.signalNext, NativeDevice.signal, if_pos gone]
        cases used <;> rfl
      rw [refused] at advanced
      cases advanced
      exact silent rfl (List.nil_subset _) rfl
    | false =>
      have signals : queue.Signals device used (queue.signalNext device used).1
          (queue.signalNext device used).2.1 (queue.signalNext device used).2.2 :=
        Queue.signals_of_signalNext gone used
      rcases signaled : queue.signalNext device used with ⟨answer, next, state⟩
      rw [signaled] at advanced signals
      cases advanced
      cases signals with
      | signaled => exact ⟨_, rfl, .signal⟩
      | failed => exact silent rfl (List.nil_subset _) rfl

end CommandStream
