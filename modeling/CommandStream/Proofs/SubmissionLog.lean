import CommandStream.Proofs.Pools
/-!
# What a submission leaves in the log

A submission appends to the log in three parts: the waits, the execution of its lists, and the
signal of its value. Where it ends early it leaves the parts before, and its value is used up only
if it comes to the signal. Which of the ways a submission goes is decided before it begins, by the
queue, the device and the buffers: `AllOrNothing` has one field for each of them, and says what the
submission answers, what it appends and what its last value is.
-/

namespace CommandStream

/-- The event of lists that are executed; without lists there is none. -/
def QueueEvent.executing (lists : List (List Call)) : List QueueEvent :=
  if lists.isEmpty then [] else [.execute lists]

namespace Queue

/-- A submission comes to an answer, appends events to the log and leaves a last value. -/
structure Ends (queue : Queue) (device : Device) (buffers : List CommandBuffer)
    (dependencies : List Token) (answer : Except SubmitError Token) (events : List QueueEvent)
    (last : Nat) : Prop where
  answer : (queue.submit device buffers dependencies).1 = answer
  log : (queue.submit device buffers dependencies).2.2.native.log = device.native.log ++ events
  last : (queue.submit device buffers dependencies).2.1.lastSubmitted = last

/-- There is something for a submission to do, and neither the queue nor the device is lost. -/
structure Proceeds (queue : Queue) (device : Device) (buffers : List CommandBuffer)
    (dependencies : List Token) : Prop where
  usable : queue.lost = false
  present : device.native.lost = false
  pending : work buffers ≠ [] ∨ queue.waits device.native dependencies ≠ []

/-- Every buffer of a submission can be recorded, and the native queue takes the lists, if there
are any. -/
structure Executable (queue : Queue) (resources : Resources) (work : List CommandBuffer) :
    Prop where
  recordable : ∀ buffer ∈ work, Recordable resources buffer
  accepted : work = [] ∨ queue.native.type = queue.type

/-- How a submission ends, and what it leaves in the log: all that it does, or what comes before
that which fails. -/
structure AllOrNothing (queue : Queue) (device : Device) (buffers : List CommandBuffer)
    (dependencies : List Token) : Prop where
  /-- Where there is nothing to do, nothing changes at all. -/
  idle : work buffers = [] → queue.waits device.native dependencies = [] →
    queue.submit device buffers dependencies = (.ok ⟨queue.fence, 0⟩, queue, device)
  /-- Where the queue or the device is lost, nothing is appended. -/
  lost : work buffers ≠ [] ∨ queue.waits device.native dependencies ≠ [] →
    queue.lost = true ∨ device.native.lost = true →
    queue.Ends device buffers dependencies (.error (.device .deviceLost)) [] queue.lastSubmitted
  /-- Where a buffer cannot be recorded, the waits are appended. -/
  unrecorded : queue.Proceeds device buffers dependencies →
    (∃ buffer ∈ work buffers, ¬Recordable device.resources buffer) →
    ∃ error, queue.Ends device buffers dependencies (.error error)
      ((queue.waits device.native dependencies).map Token.waiting) queue.lastSubmitted
  /-- So they are where the native queue refuses the lists. -/
  refused : queue.Proceeds device buffers dependencies →
    (∀ buffer ∈ work buffers, Recordable device.resources buffer) → work buffers ≠ [] →
    queue.native.type ≠ queue.type →
    queue.Ends device buffers dependencies (.error (.device .invalidCall))
      ((queue.waits device.native dependencies).map Token.waiting) queue.lastSubmitted
  /-- Where the signal is made to fail, the waits and the execution are appended. -/
  unsignaled : queue.Proceeds device buffers dependencies →
    queue.Executable device.resources (work buffers) → device.native.failNextSignal = true →
    ∃ allocator lists,
      List.Forall₂ (Recording.Records device.resources allocator) (work buffers) lists ∧
      queue.Ends device buffers dependencies (.error (.device .invalidCall))
        ((queue.waits device.native dependencies).map Token.waiting ++ QueueEvent.executing lists)
        (queue.lastSubmitted + 1)
  /-- Otherwise the submission succeeds, and all three parts are appended. -/
  signaled : queue.Proceeds device buffers dependencies →
    queue.Executable device.resources (work buffers) → device.native.failNextSignal = false →
    ∃ allocator lists,
      List.Forall₂ (Recording.Records device.resources allocator) (work buffers) lists ∧
      queue.Ends device buffers dependencies (.ok ⟨queue.fence, queue.lastSubmitted + 1⟩)
        ((queue.waits device.native dependencies).map Token.waiting ++
          (QueueEvent.executing lists ++ [.signal queue.fence (queue.lastSubmitted + 1)]))
        (queue.lastSubmitted + 1)
  /-- No other submission succeeds. -/
  succeeded : ∀ token, (queue.submit device buffers dependencies).1 = .ok token →
    (work buffers = [] ∧ queue.waits device.native dependencies = []) ∨
      (queue.Proceeds device buffers dependencies ∧
        queue.Executable device.resources (work buffers) ∧ device.native.failNextSignal = false)

/-! ## Early ends -/

section Ending

variable {queue : Queue} {device : Device} {buffers : List CommandBuffer}
  {dependencies : List Token}

/-- What submitting the work comes to is what the submission comes to. -/
theorem Proceeds.ends (proceeds : queue.Proceeds device buffers dependencies)
    {answer : Except SubmitError Token} {after : Queue} {final : NativeDevice}
    {events : List QueueEvent}
    (result : queue.submitWork device.native device.resources (work buffers)
      (queue.waits device.native dependencies) = (answer, after, final))
    (log : final.log = device.native.log ++ events) :
    queue.Ends device buffers dependencies answer events after.lastSubmitted := by
  have submitted := submit_of_pending proceeds.usable proceeds.pending
  rw [result] at submitted
  constructor
  · rw [submitted]
  · rw [submitted]
    exact log
  · rw [submitted]

/-- A lost queue or device ends a submission before anything is appended. -/
theorem ends_of_lost (pending : work buffers ≠ [] ∨ queue.waits device.native dependencies ≠ [])
    (lost : queue.lost = true ∨ device.native.lost = true) :
    queue.Ends device buffers dependencies (.error (.device .deviceLost)) []
      queue.lastSubmitted := by
  rcases result : queue.submit device buffers dependencies with ⟨answer, after, final⟩
  have same : device.native.log = device.native.log ++ [] := (List.append_nil _).symm
  cases submits_of_submit result with
  | idle noWork noWaits =>
    exact absurd pending (not_or.mpr ⟨not_not_intro noWork, not_not_intro noWaits⟩)
  | closed => constructor <;> simp only [result, List.append_nil]
  | works usable _ works =>
    have gone : device.native.lost = true :=
      lost.resolve_left (Bool.eq_false_iff.mp usable)
    cases works with
    | lost => constructor <;> simp only [result, List.append_nil]
    | waited present => cases gone.symm.trans present
    | failed present => cases gone.symm.trans present
    | delivered present => cases gone.symm.trans present

/-- Buffers that are not executed leave the log and the numbers of the queue. -/
theorem Delivers.log_of_error {after : Queue} {state final : NativeDevice} {resources : Resources}
    {work : List CommandBuffer} {error : SubmitError}
    (delivers : queue.Delivers state resources work (.error error) after final) :
    final.log = state.log := by
  cases delivers with
  | unrecorded acquires => exact acquires.log_eq
  | refused acquires => exact acquires.log_eq

/-- Buffers that are not executed end a submission behind its waits. -/
theorem Proceeds.ends_of_error (proceeds : queue.Proceeds device buffers dependencies)
    (someWork : work buffers ≠ []) {error : SubmitError}
    (failed : (queue.executeBuffers
      (device.native.logged ((queue.waits device.native dependencies).map Token.waiting))
      device.resources (work buffers)).1 = .error error) :
    queue.Ends device buffers dependencies (.error error)
      ((queue.waits device.native dependencies).map Token.waiting) queue.lastSubmitted := by
  have present : (device.native.logged
      ((queue.waits device.native dependencies).map Token.waiting)).lost = false :=
    proceeds.present
  have delivers := queue.delivers_of_executeBuffers present device.resources (work buffers)
  rcases result : queue.executeBuffers
    (device.native.logged ((queue.waits device.native dependencies).map Token.waiting))
    device.resources (work buffers) with ⟨answer, after, final⟩
  rw [result] at failed delivers
  cases failed
  have ended := proceeds.ends (submitWork_of_error proceeds.present someWork result)
    delivers.log_of_error
  exact delivers.numbers.2 ▸ ended

/-! ## Signals -/

/-- Acquiring an allocator leaves the switches of the device. -/
theorem Acquires.failNextSignal_eq {acquired : Queue} {start state : NativeDevice}
    {allocator : CommandAllocator} (acquires : queue.Acquires start allocator acquired state) :
    state.failNextSignal = start.failNextSignal := by
  cases acquires <;> rfl

/-- A signal uses its value up, whether or not it fails. -/
theorem Signals.last_eq {after : Queue} {start final : NativeDevice}
    {used : Option CommandAllocator} {answer : Except SubmitError Token}
    (signals : queue.Signals start used answer after final) :
    after.lastSubmitted = queue.lastSubmitted + 1 := by
  cases signals <;> rfl

/-- A signal that fails leaves the log as it is. -/
theorem Signals.of_armed {after : Queue} {start final : NativeDevice}
    {used : Option CommandAllocator} {answer : Except SubmitError Token}
    (signals : queue.Signals start used answer after final)
    (armed : start.failNextSignal = true) :
    answer = .error (.device .invalidCall) ∧ final.log = start.log := by
  cases signals with
  | signaled unarmed => cases unarmed.symm.trans armed
  | failed => exact ⟨rfl, rfl⟩

/-- A signal that is made is appended to the log. -/
theorem Signals.of_unarmed {after : Queue} {start final : NativeDevice}
    {used : Option CommandAllocator} {answer : Except SubmitError Token}
    (signals : queue.Signals start used answer after final)
    (unarmed : start.failNextSignal = false) :
    answer = .ok ⟨queue.fence, queue.lastSubmitted + 1⟩ ∧
      final.log = start.log ++ [.signal queue.fence (queue.lastSubmitted + 1)] := by
  cases signals with
  | failed armed => cases armed.symm.trans unarmed
  | signaled => exact ⟨rfl, rfl⟩

/-- A submission that gets as far as its signal: the waits and the execution are in the log. -/
structure Reaches (queue : Queue) (device : Device) (buffers : List CommandBuffer)
    (dependencies : List Token) (lists : List (List Call)) (between : Queue)
    (state : NativeDevice) (used : Option CommandAllocator) : Prop where
  result : queue.submitWork device.native device.resources (work buffers)
    (queue.waits device.native dependencies) = between.signalNext state used
  log : state.log = device.native.log ++
    ((queue.waits device.native dependencies).map Token.waiting ++ QueueEvent.executing lists)
  present : state.lost = false
  switch : state.failNextSignal = device.native.failNextSignal
  numbers : between.fence = queue.fence ∧ between.lastSubmitted = queue.lastSubmitted

/-- Buffers that can be recorded and are taken by the native queue are executed. -/
theorem Proceeds.reaches (proceeds : queue.Proceeds device buffers dependencies)
    (stocked : queue.Stocked) (executable : queue.Executable device.resources (work buffers)) :
    ∃ allocator lists between state used,
      List.Forall₂ (Recording.Records device.resources allocator) (work buffers) lists ∧
      queue.Reaches device buffers dependencies lists between state used := by
  have present : (device.native.logged
      ((queue.waits device.native dependencies).map Token.waiting)).lost = false :=
    proceeds.present
  by_cases noWork : work buffers = []
  · refine ⟨0, [], queue, _, none, noWork ▸ .nil, submitWork_of_noWork proceeds.present noWork, ?_,
      present, rfl, rfl, rfl⟩
    exact congrArg (device.native.log ++ ·) (List.append_nil _).symm
  · obtain ⟨_, _, settles⟩ := stocked.executeBuffers present device.resources (work buffers)
    have delivers := queue.delivers_of_executeBuffers present device.resources (work buffers)
    rcases result : queue.executeBuffers
      (device.native.logged ((queue.waits device.native dependencies).map Token.waiting))
      device.resources (work buffers) with ⟨answer, between, state⟩
    rw [result] at settles delivers
    cases settles with
    | unrecorded member broken => exact absurd (executable.recordable _ member) broken
    | refused _ _ foreign => exact absurd (executable.accepted.resolve_left noWork) foreign
    | @executed allocator =>
      cases delivers with
      | @executed _ acquired state lists created recorded acquires records =>
        have someLists : recorded ≠ [] := by
          rintro rfl
          exact noWork (List.forall₂_nil_right_iff.mp records)
        refine ⟨_, recorded, _, _, _, records,
          submitWork_of_ok proceeds.present noWork result, ?_, acquires.lost_eq.trans present,
          acquires.failNextSignal_eq, acquires.fence_eq, acquires.lastSubmitted_eq⟩
        rw [QueueEvent.executing, if_neg (mt List.isEmpty_iff.mp someLists)]
        show state.log ++ [.execute recorded] = _
        rw [acquires.log_eq, ← List.append_assoc]
        rfl

/-- A submission whose signal fails. -/
theorem Reaches.ends_of_armed {lists : List (List Call)} {between : Queue} {state : NativeDevice}
    {used : Option CommandAllocator}
    (reaches : queue.Reaches device buffers dependencies lists between state used)
    (proceeds : queue.Proceeds device buffers dependencies)
    (armed : device.native.failNextSignal = true) :
    queue.Ends device buffers dependencies (.error (.device .invalidCall))
      ((queue.waits device.native dependencies).map Token.waiting ++ QueueEvent.executing lists)
      (queue.lastSubmitted + 1) := by
  obtain ⟨result, log, present, switch, _, last⟩ := reaches
  have signals : between.Signals state used (between.signalNext state used).1
      (between.signalNext state used).2.1 (between.signalNext state used).2.2 :=
    signals_of_signalNext present used
  generalize between.signalNext state used = outcome at result signals
  obtain ⟨answer, after, final⟩ := outcome
  obtain ⟨rfl, sameLog⟩ := signals.of_armed (switch.trans armed)
  rw [← last, ← signals.last_eq]
  exact proceeds.ends result (sameLog.trans log)

/-- A submission whose signal is made. -/
theorem Reaches.ends_of_unarmed {lists : List (List Call)} {between : Queue}
    {state : NativeDevice} {used : Option CommandAllocator}
    (reaches : queue.Reaches device buffers dependencies lists between state used)
    (proceeds : queue.Proceeds device buffers dependencies)
    (unarmed : device.native.failNextSignal = false) :
    queue.Ends device buffers dependencies (.ok ⟨queue.fence, queue.lastSubmitted + 1⟩)
      ((queue.waits device.native dependencies).map Token.waiting ++
        (QueueEvent.executing lists ++ [.signal queue.fence (queue.lastSubmitted + 1)]))
      (queue.lastSubmitted + 1) := by
  obtain ⟨result, log, present, switch, fence, last⟩ := reaches
  have signals : between.Signals state used (between.signalNext state used).1
      (between.signalNext state used).2.1 (between.signalNext state used).2.2 :=
    signals_of_signalNext present used
  generalize between.signalNext state used = outcome at result signals
  obtain ⟨answer, after, final⟩ := outcome
  obtain ⟨isAnswer, grownLog⟩ := signals.of_unarmed (switch.trans unarmed)
  have isLast : after.lastSubmitted = queue.lastSubmitted + 1 := by rw [signals.last_eq, last]
  rw [fence, last] at isAnswer
  rw [fence, last, log, List.append_assoc, List.append_assoc] at grownLog
  have ended := proceeds.ends result grownLog
  rw [isLast] at ended
  exact isAnswer ▸ ended

end Ending

/-! ## All or nothing -/

section Stocked

variable {queue : Queue} {device : Device} {buffers : List CommandBuffer}
  {dependencies : List Token}

/-- A buffer that cannot be recorded ends a submission behind its waits. -/
theorem Stocked.ends_of_unrecorded (stocked : queue.Stocked)
    (proceeds : queue.Proceeds device buffers dependencies)
    (broken : ∃ buffer ∈ work buffers, ¬Recordable device.resources buffer) :
    ∃ error, queue.Ends device buffers dependencies (.error error)
      ((queue.waits device.native dependencies).map Token.waiting) queue.lastSubmitted := by
  obtain ⟨buffer, member, broken⟩ := broken
  have present : (device.native.logged
      ((queue.waits device.native dependencies).map Token.waiting)).lost = false :=
    proceeds.present
  have settles := (stocked.executeBuffers present device.resources (work buffers)).2.2
  generalize answered : (queue.executeBuffers _ device.resources (work buffers)).1 = answer
    at settles
  cases settles with
  | unrecorded => exact ⟨_, proceeds.ends_of_error (List.ne_nil_of_mem member) answered⟩
  | refused recordable => exact absurd (recordable buffer member) broken
  | executed recordable => exact absurd (recordable buffer member) broken

/-- So do lists that the native queue refuses. -/
theorem Stocked.ends_of_refused (stocked : queue.Stocked)
    (proceeds : queue.Proceeds device buffers dependencies)
    (recordable : ∀ buffer ∈ work buffers, Recordable device.resources buffer)
    (someWork : work buffers ≠ []) (foreign : queue.native.type ≠ queue.type) :
    queue.Ends device buffers dependencies (.error (.device .invalidCall))
      ((queue.waits device.native dependencies).map Token.waiting) queue.lastSubmitted := by
  have present : (device.native.logged
      ((queue.waits device.native dependencies).map Token.waiting)).lost = false :=
    proceeds.present
  have settles := (stocked.executeBuffers present device.resources (work buffers)).2.2
  generalize answered : (queue.executeBuffers _ device.resources (work buffers)).1 = answer
    at settles
  cases settles with
  | unrecorded member broken => exact absurd (recordable _ member) broken
  | refused => exact proceeds.ends_of_error someWork answered
  | executed _ accepted => exact absurd (accepted.resolve_left someWork) foreign

/-- A submission that succeeds had nothing to do, or nothing in its way. -/
theorem Stocked.proceeds_of_ok (stocked : queue.Stocked) {token : Token}
    (succeeded : (queue.submit device buffers dependencies).1 = .ok token)
    (pending : work buffers ≠ [] ∨ queue.waits device.native dependencies ≠ []) :
    queue.Proceeds device buffers dependencies ∧
      queue.Executable device.resources (work buffers) ∧
        device.native.failNextSignal = false := by
  have notLost : ¬(queue.lost = true ∨ device.native.lost = true) := by
    intro lost
    cases succeeded.symm.trans (ends_of_lost pending lost).answer
  obtain ⟨usable, present⟩ := not_or.mp notLost
  have proceeds : queue.Proceeds device buffers dependencies :=
    ⟨Bool.eq_false_iff.mpr usable, Bool.eq_false_iff.mpr present, pending⟩
  have recordable : ∀ buffer ∈ work buffers, Recordable device.resources buffer := by
    intro buffer member
    by_contra broken
    obtain ⟨error, ends⟩ := stocked.ends_of_unrecorded proceeds ⟨buffer, member, broken⟩
    cases succeeded.symm.trans ends.answer
  have accepted : work buffers = [] ∨ queue.native.type = queue.type := by
    by_contra foreign
    obtain ⟨someWork, foreign⟩ := not_or.mp foreign
    cases succeeded.symm.trans
      (stocked.ends_of_refused proceeds recordable someWork foreign).answer
  refine ⟨proceeds, ⟨recordable, accepted⟩, Bool.eq_false_iff.mpr fun armed => ?_⟩
  obtain ⟨_, _, _, _, _, _, reaches⟩ := proceeds.reaches stocked ⟨recordable, accepted⟩
  cases succeeded.symm.trans (reaches.ends_of_armed proceeds armed).answer

end Stocked

/-- A submission to a queue with stocked pools is all or nothing. -/
theorem Stocked.allOrNothing {queue : Queue} (stocked : queue.Stocked) (device : Device)
    (buffers : List CommandBuffer) (dependencies : List Token) :
    queue.AllOrNothing device buffers dependencies := by
  constructor
  case idle =>
    intro noWork noWaits
    rcases result : queue.submit device buffers dependencies with ⟨answer, after, final⟩
    cases submits_of_submit result with
    | idle => rfl
    | closed _ pending =>
      exact absurd pending (not_or.mpr ⟨not_not_intro noWork, not_not_intro noWaits⟩)
    | works _ pending =>
      exact absurd pending (not_or.mpr ⟨not_not_intro noWork, not_not_intro noWaits⟩)
  case lost => exact ends_of_lost
  case unrecorded => exact stocked.ends_of_unrecorded
  case refused => exact stocked.ends_of_refused
  case unsignaled =>
    intro proceeds executable armed
    obtain ⟨allocator, lists, between, state, used, records, reaches⟩ :=
      proceeds.reaches stocked executable
    exact ⟨allocator, lists, records, reaches.ends_of_armed proceeds armed⟩
  case signaled =>
    intro proceeds executable unarmed
    obtain ⟨allocator, lists, between, state, used, records, reaches⟩ :=
      proceeds.reaches stocked executable
    exact ⟨allocator, lists, records, reaches.ends_of_unarmed proceeds unarmed⟩
  case succeeded =>
    intro token succeeded
    by_cases nothing : work buffers = [] ∧ queue.waits device.native dependencies = []
    · exact .inl nothing
    · exact .inr (stocked.proceeds_of_ok succeeded (Decidable.not_and_iff_or_not.mp nothing))

end Queue

/-- A submission is all or nothing in the log. After anything that happened in a session, a
submission of any buffers to one of its queues appends its waits, the execution of its lists and its
signal, or what comes before that which fails, and nothing if the queue or the device is lost. -/
theorem submission_all_or_nothing (device : Device) (actions : List Action) {index : Nat}
    {queue : Queue}
    (reachable : ((Session.start device).after actions).queues[index]? = some queue)
    (buffers : List CommandBuffer) (dependencies : List Token) :
    queue.AllOrNothing ((Session.start device).after actions).device buffers dependencies :=
  (Session.stocked_after device actions queue (List.mem_of_getElem? reachable)).allOrNothing _
    buffers dependencies

/-- A submission with one buffer that holds a record. It depends on a pending submission of another
queue and on tokens that need no wait. -/
theorem submission_all_or_nothing_waiting :
    let buffer := CommandBuffer.ofCalls [.resourceBarriers [] [.global]]
    let session := (Session.start .small).after
      [.createQueue .graphics .graphics, .createQueue .compute .compute, .setAutoComplete false,
        .submit 1 [buffer] []]
    let queue : Queue := ⟨.graphics, ⟨3, .graphics⟩, 4, 0, [], [], false⟩
    session.queues[0]? = some queue ∧
      queue.waits session.device.native [⟨4, 7⟩, ⟨6, 0⟩, ⟨6, 1⟩] = [⟨6, 1⟩] ∧
      queue.Proceeds session.device [.empty, buffer] [⟨4, 7⟩, ⟨6, 0⟩, ⟨6, 1⟩] ∧
      queue.AllOrNothing session.device [.empty, buffer] [⟨4, 7⟩, ⟨6, 0⟩, ⟨6, 1⟩] := by
  intro buffer session queue
  have reachable : session.queues[0]? = some queue := by decide +kernel
  have waits : queue.waits session.device.native [⟨4, 7⟩, ⟨6, 0⟩, ⟨6, 1⟩] = [⟨6, 1⟩] := by
    decide +kernel
  have present : session.device.native.lost = false := by decide +kernel
  refine ⟨reachable, waits, ⟨rfl, present, .inr ?_⟩,
    submission_all_or_nothing .small _ reachable _ _⟩
  rw [waits]
  exact List.cons_ne_nil _ _

end CommandStream
