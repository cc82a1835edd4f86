import CommandStream.Proofs.CommandMemory
import CommandStream.Proofs.SubmissionLog
/-!
# Chronicles of sessions

The log of a device can be cleared, and it does not say which submission an event belongs to. The
chronicle of a session is the list of its submissions, each of them with the queue and the device
that it started from; what a submission answered and which events it appended follow from these.
`Submission.outcome` says what a submission leaves of events and fences, and `changes_perform` what
an action can do to a session. A property of chronicles is a case analysis of the two.
-/

namespace CommandStream

/-! ## Submissions -/

/-- A list with one more element is divided at that element, or where the list was. -/
theorem divided_append_singleton {α : Type} {list front back : List α} {last middle : α}
    (divided : list ++ [last] = front ++ middle :: back) :
    (list = front ∧ last = middle) ∨ ∃ between, list = front ++ middle :: between := by
  rcases List.eq_nil_or_concat back with rfl | ⟨between, final, rfl⟩
  · obtain ⟨same, isLast⟩ := List.append_inj' divided rfl
    exact .inl ⟨same, List.singleton_inj.mp isLast⟩
  · rw [List.concat_eq_append, ← List.cons_append, ← List.append_assoc] at divided
    exact .inr ⟨between, (List.append_inj' divided rfl).1⟩

/-- A wait executes nothing. -/
theorem Token.execute_notMem_waiting (tokens : List Token) (lists : List (List Call)) :
    .execute lists ∉ tokens.map Token.waiting := by
  intro waiting
  obtain ⟨token, _, same⟩ := List.mem_map.mp waiting
  cases same

/-- A submission as it was made: the queue and the device before it, and what was asked for. -/
structure Submission where
  queue : Queue
  device : Device
  buffers : List CommandBuffer
  dependencies : List Token

namespace Submission

variable (submission : Submission)

/-- What the submission answered. -/
def answer : Except SubmitError Token :=
  (submission.queue.submit submission.device submission.buffers submission.dependencies).1

/-- The queue after the submission. -/
def after : Queue :=
  (submission.queue.submit submission.device submission.buffers submission.dependencies).2.1

/-- The device after the submission. -/
def final : Device :=
  (submission.queue.submit submission.device submission.buffers submission.dependencies).2.2

/-- The events that the submission appended to the log. -/
def events : List QueueEvent :=
  submission.final.native.log.drop submission.device.native.log.length

/-- The tokens that the submission had to wait for. -/
def waits : List Token :=
  submission.queue.waits submission.device.native submission.dependencies

/-- The token that the submission was answered with, if it succeeded. -/
def token? : Option Token := submission.answer.toOption

/-- The value that the submission used up, if it came to its signal. -/
def value? : Option Nat :=
  if submission.after.lastSubmitted = submission.queue.lastSubmitted then none
  else some submission.after.lastSubmitted

/-- Lists with the calls of the buffers of the submission, one for each that holds a record. -/
def Records (lists : List (List Call)) : Prop :=
  ∃ allocator,
    List.Forall₂ (Queue.Recording.Records submission.device.resources allocator)
      (Queue.work submission.buffers) lists

/-- How far a submission comes. Its answer, its last value, the log and the fences after it are
those of one of four ends. -/
inductive Outcome : Prop
  /-- There is nothing to do. -/
  | idle (answer : submission.answer = .ok ⟨submission.queue.fence, 0⟩)
      (last : submission.after.lastSubmitted = submission.queue.lastSubmitted)
      (log : submission.final.native.log = submission.device.native.log)
      (fences : submission.final.native.fences = submission.device.native.fences)
  /-- It fails before anything is executed, with all its waits in the log or none. -/
  | stopped {error : SubmitError} {waited : List Token}
      (answer : submission.answer = .error error)
      (last : submission.after.lastSubmitted = submission.queue.lastSubmitted)
      (allOrNone : waited = submission.waits ∨ waited = [])
      (log : submission.final.native.log =
        submission.device.native.log ++ waited.map Token.waiting)
      (fences : submission.final.native.fences = submission.device.native.fences)
  /-- Its lists are executed, and its signal fails. -/
  | unsignaled {error : SubmitError} {lists : List (List Call)}
      (answer : submission.answer = .error error)
      (last : submission.after.lastSubmitted = submission.queue.lastSubmitted + 1)
      (records : submission.Records lists)
      (log : submission.final.native.log = submission.device.native.log ++
        (submission.waits.map Token.waiting ++ QueueEvent.executing lists))
      (fences : submission.final.native.fences = submission.device.native.fences)
  /-- Its lists are executed, and its value is signaled. -/
  | signaled {lists : List (List Call)}
      (answer : submission.answer =
        .ok ⟨submission.queue.fence, submission.queue.lastSubmitted + 1⟩)
      (last : submission.after.lastSubmitted = submission.queue.lastSubmitted + 1)
      (records : submission.Records lists)
      (log : submission.final.native.log = submission.device.native.log ++
        (submission.waits.map Token.waiting ++ (QueueEvent.executing lists ++
          [.signal submission.queue.fence (submission.queue.lastSubmitted + 1)])))
      (fences : submission.final.native.fences =
        (submission.device.native.signaled submission.queue.fence
          (submission.queue.lastSubmitted + 1)).fences)

variable {submission}

theorem submits : submission.queue.Submits submission.device submission.buffers
    submission.dependencies submission.answer submission.after submission.final :=
  submission.queue.submits submission.device submission.buffers submission.dependencies

/-- The events are what the log grew by. -/
theorem events_eq {events : List QueueEvent}
    (log : submission.final.native.log = submission.device.native.log ++ events) :
    submission.events = events := by
  rw [Submission.events, log, List.drop_left]

end Submission

/-- A signal of a queue that executed lists, or had none to execute. -/
theorem Queue.Signals.outcome {submission : Submission} {between : Queue}
    {state : NativeDevice} {used : Option CommandAllocator} {lists : List (List Call)}
    (signals : between.Signals state used submission.answer submission.after
      submission.final.native)
    (fence : between.fence = submission.queue.fence)
    (last : between.lastSubmitted = submission.queue.lastSubmitted)
    (records : submission.Records lists)
    (log : state.log = submission.device.native.log ++
      (submission.waits.map Token.waiting ++ QueueEvent.executing lists))
    (fences : state.fences = submission.device.native.fences)
    (switch : state.autoComplete = submission.device.native.autoComplete) :
    submission.Outcome := by
  have isLast := signals.last_eq
  rw [last] at isLast
  generalize isAnswer : submission.answer = answer at signals
  generalize isAfter : submission.after = after at signals
  generalize isFinal : submission.final.native = final at signals
  cases signals with
  | signaled unarmed =>
    rw [fence, last] at isAnswer isFinal
    refine .signaled isAnswer isLast records ?_ ?_
    · rw [isFinal]
      change state.log ++ [_] = _
      rw [log, List.append_assoc, List.append_assoc]
    · rw [isFinal]
      simp only [NativeDevice.signaled, NativeDevice.updateFence, switch]
      split <;> rw [fences]
  | failed armed =>
    refine .unsignaled isAnswer isLast records ?_ ?_
    · rw [isFinal, ← log]
    · rw [isFinal, ← fences]

/-- Every submission comes to one of the four ends. -/
theorem Submission.outcome (submission : Submission) : submission.Outcome := by
  have submits := submission.submits
  have isWaits : submission.queue.waits submission.device.native submission.dependencies =
    submission.waits := rfl
  generalize isAnswer : submission.answer = answer at submits
  generalize isAfter : submission.after = after at submits
  generalize isFinal : submission.final = final at submits
  cases submits with
  | idle =>
    exact .idle isAnswer (by rw [isAfter]) (by rw [isFinal]) (by rw [isFinal])
  | closed =>
    refine .stopped isAnswer (by rw [isAfter]) (.inr rfl) ?_ (by rw [isFinal])
    rw [isFinal]
    exact (List.append_nil _).symm
  | @works _ _ native usable pending works =>
    have isNative : submission.final.native = native := by rw [isFinal]
    rw [isWaits] at works
    cases works with
    | lost =>
      refine .stopped isAnswer (by rw [isAfter]) (.inr rfl) ?_ (by rw [isFinal])
      rw [isNative]
      exact (List.append_nil _).symm
    | waited present noWork signals =>
      rw [← isAnswer, ← isAfter, ← isNative] at signals
      have noLists : submission.Records [] := by
        refine ⟨0, ?_⟩
        rw [noWork]
        exact .nil
      refine signals.outcome rfl rfl noLists ?_ rfl rfl
      exact congrArg (submission.device.native.log ++ ·) (List.append_nil _).symm
    | failed present someWork delivers =>
      refine .stopped isAnswer ?_ (.inl rfl) ?_ ?_
      · rw [isAfter]
        exact delivers.numbers.2
      · rw [isNative, delivers.log_of_error]
        rfl
      · rw [isNative]
        cases delivers with
        | unrecorded acquires => cases acquires <;> rfl
        | refused acquires => cases acquires <;> rfl
    | @delivered _ between _ state _ _ present someWork delivers signals =>
      rw [← isAnswer, ← isAfter, ← isNative] at signals
      obtain ⟨fence, last⟩ := delivers.numbers
      cases delivers with
      | @executed _ acquired before lists created recorded acquires records =>
        refine signals.outcome fence last ⟨_, records⟩ ?_ ?_ ?_
        · have someLists : recorded ≠ [] := by
            rintro rfl
            exact someWork (List.forall₂_nil_right_iff.mp records)
          rw [QueueEvent.executing, if_neg (mt List.isEmpty_iff.mp someLists)]
          change before.log ++ [_] = _
          rw [acquires.log_eq, ← List.append_assoc]
          rfl
        · cases acquires <;> rfl
        · cases acquires <;> rfl

namespace Submission

/-- The log grows by the events. -/
theorem log_eq (submission : Submission) :
    submission.final.native.log = submission.device.native.log ++ submission.events := by
  cases submission.outcome with
  | idle _ _ log => rw [events_eq (log.trans (List.append_nil _).symm), List.append_nil, log]
  | stopped _ _ _ log => rw [events_eq log, log]
  | unsignaled _ _ _ log => rw [events_eq log, log]
  | signaled _ _ _ log => rw [events_eq log, log]

/-- The lists that a submission executes are those of its buffers. -/
theorem records_of_execute {submission : Submission} {lists : List (List Call)}
    (member : .execute lists ∈ submission.events) : submission.Records lists := by
  have isExecuted : ∀ {found}, .execute lists ∈ QueueEvent.executing found → lists = found := by
    intro found executing
    unfold QueueEvent.executing at executing
    split at executing
    · cases executing
    · exact QueueEvent.execute.inj (List.mem_singleton.mp executing)
  cases submission.outcome with
  | idle _ _ log =>
    rw [events_eq (log.trans (List.append_nil _).symm)] at member
    cases member
  | stopped _ _ _ log =>
    rw [events_eq log] at member
    exact absurd member (Token.execute_notMem_waiting _ _)
  | unsignaled _ _ records log =>
    rw [events_eq log] at member
    have executing := (List.mem_append.mp member).resolve_left (Token.execute_notMem_waiting _ _)
    rw [isExecuted executing]
    exact records
  | signaled _ _ records log =>
    rw [events_eq log] at member
    have rest := (List.mem_append.mp member).resolve_left (Token.execute_notMem_waiting _ _)
    obtain executing | signal := List.mem_append.mp rest
    · rw [isExecuted executing]
      exact records
    · cases List.mem_singleton.mp signal

/-- A queue keeps its fence. -/
theorem fence_after (submission : Submission) :
    submission.after.fence = submission.queue.fence :=
  submission.submits.numbers.1

end Submission

/-! ## Actions -/

namespace NativeDevice

/-- What most operations leave alone: the fences. They append nothing to the log, give identities
in order and do not bring back a lost device. -/
structure Quiet (before after : NativeDevice) : Prop where
  fences : after.fences = before.fences
  log : after.log <:+ before.log
  nextId : before.nextId ≤ after.nextId
  lost : before.lost = true → after.lost = true

theorem Quiet.refl (device : NativeDevice) : Quiet device device :=
  ⟨rfl, List.suffix_rfl, Nat.le_refl _, id⟩

theorem quiet_createObject (device : NativeDevice) : Quiet device device.createObject.2 := by
  unfold createObject
  split
  · exact .refl device
  · exact ⟨rfl, List.suffix_rfl, Nat.le_succ _, id⟩

/-- The device after a native queue was created on it, and a fence for it. -/
def furnished (device : NativeDevice) : NativeDevice :=
  { device with
    nextId := device.nextId + 2
    fences := device.fences ++ [⟨device.nextId + 1, 0, 0⟩] }

end NativeDevice

namespace Device

theorem quiet_make (device : Device) (description : ResourceDescription) :
    device.native.Quiet (device.make description).2.native := by
  rcases device.native_make description with same | same
  all_goals rw [same]
  · exact .refl _
  · exact device.native.quiet_createObject

theorem native_dispose (device : Device) (handle : Handle) (family : ResourceFamily) :
    (device.dispose handle family).2.native = device.native := by
  cases family <;> rfl

theorem native_freeDescriptors (device : Device) (range : DescriptorRange) :
    (device.freeDescriptors range).2.native = device.native := by
  rcases device.freeDescriptors_cases range with same | ⟨heapType, same⟩
  all_goals rw [same]
  rfl

theorem native_writeDescriptor (device : Device) (range : DescriptorRange) (index : Nat)
    (source : DescriptorView Handle) :
    (device.writeDescriptor range index source).2.native = device.native := by
  rcases device.writeDescriptor_cases range index source with same | ⟨heapType, view, same⟩
  all_goals rw [same]
  rfl

end Device

namespace Session

/-- The submission that an action makes, if it is one to a queue of the session. -/
def submission? (session : Session) : Action → Option Submission
  | .submit index buffers dependencies =>
    session.queues[index]?.map fun queue => ⟨queue, session.device, buffers, dependencies⟩
  | _ => none

/-- The chronicle of actions in a row: their submissions, the oldest first. -/
def submissions (session : Session) : List Action → List Submission
  | [] => []
  | action :: later =>
    (session.submission? action).toList ++ (session.perform action).submissions later

/-- What an action can do to a session, with the submission that it makes, if any. -/
inductive Changes (session : Session) : Option Submission → Session → Prop
  /-- Queues, fences and log are left alone, or the log is cleared. -/
  | quiet {device : Device} (native : session.device.native.Quiet device.native) :
      Changes session none ⟨device, session.queues⟩
  /-- The fences catch up. -/
  | completed : Changes session none (session.withNative session.device.native.completeAll)
  /-- A queue is made, with a fence of its own. -/
  | created {native : NativeQueue} {type : QueueType} :
      Changes session none
        ⟨{ session.device with native := session.device.native.furnished },
          session.queues ++
            [⟨type, native, session.device.native.nextId + 1, 0, [], [], false⟩]⟩
  /-- Something is submitted to one of the queues. -/
  | submitted {submission : Submission} {front back : List Queue}
      (device : submission.device = session.device)
      (queues : session.queues = front ++ submission.queue :: back) :
      Changes session (some submission) ⟨submission.final, front ++ submission.after :: back⟩

/-- A queue is made on a working device only. -/
theorem changes_createQueue (session : Session) (native type : QueueType) :
    session.Changes none (session.createQueue native type) := by
  cases lost : session.device.native.lost with
  | true =>
    have failed : session.createQueue native type =
        session.withNative (session.device.native.createQueue native).2 := by
      simp only [createQueue, Device.createQueue, NativeDevice.createFence,
        NativeDevice.createQueue, lost, if_true, withNative]
    rw [failed]
    exact .quiet ⟨rfl, List.suffix_rfl, Nat.le_succ _, id⟩
  | false =>
    have made : session.createQueue native type =
        ⟨{ session.device with native := session.device.native.furnished },
          session.queues ++ [⟨type, ⟨session.device.native.nextId, native⟩,
            session.device.native.nextId + 1, 0, [], [], false⟩]⟩ := by
      simp only [createQueue, Device.createQueue, NativeDevice.createFence,
        NativeDevice.createQueue, NativeDevice.furnished, lost, Bool.false_eq_true, if_false]
    rw [made]
    exact .created

/-- Every action changes a session in one of the four ways. -/
theorem changes_perform (session : Session) (action : Action) :
    session.Changes (session.submission? action) (session.perform action) := by
  cases action with
  | createBuffer description => exact .quiet (session.device.quiet_make (.buffer description))
  | createTexture description => exact .quiet (session.device.quiet_make (.texture description))
  | createSampler description => exact .quiet (session.device.quiet_make (.sampler description))
  | createPipeline description => exact .quiet (session.device.quiet_make (.pipeline description))
  | dispose family handle =>
    refine .quiet ?_
    rw [session.device.native_dispose handle family]
    exact .refl _
  | freeDescriptors range =>
    refine .quiet ?_
    rw [session.device.native_freeDescriptors range]
    exact .refl _
  | writeDescriptor range index source =>
    refine .quiet ?_
    rw [session.device.native_writeDescriptor range index source]
    exact .refl _
  | createQueue native type => exact session.changes_createQueue native type
  | submit index buffers dependencies =>
    cases found : session.queues[index]? with
    | none =>
      have idle : session.submit index buffers dependencies = session := by
        rw [submit, found]
      rw [perform, idle, submission?, found]
      exact .quiet (.refl _)
    | some queue =>
      obtain ⟨inRange, isQueue⟩ := List.getElem?_eq_some_iff.mp found
      let submission : Submission := ⟨queue, session.device, buffers, dependencies⟩
      have performed : session.submit index buffers dependencies =
          ⟨submission.final, session.queues.set index submission.after⟩ := by
        rw [submit, found]
        rfl
      obtain ⟨front, back, before, _, replaced⟩ : ∃ front back,
          session.queues = front ++ session.queues[index] :: back ∧ front.length = index ∧
            session.queues.set index submission.after = front ++ submission.after :: back :=
        List.exists_of_set inRange
      rw [isQueue] at before
      have changed : session.Changes (some submission)
          ⟨submission.final, front ++ submission.after :: back⟩ := .submitted rfl before
      rw [perform, performed, replaced, submission?, found]
      exact changed
  | completeAll => exact .completed
  | lose => exact .quiet ⟨rfl, List.suffix_rfl, Nat.le_refl _, fun _ => rfl⟩
  | clearLog => exact .quiet ⟨rfl, List.nil_suffix, Nat.le_refl _, id⟩
  | allocateDescriptors heapType count => exact .quiet (.refl _)
  | setAutoComplete on => exact .quiet ⟨rfl, List.suffix_rfl, Nat.le_refl _, id⟩
  | armSignalFailure => exact .quiet ⟨rfl, List.suffix_rfl, Nat.le_refl _, id⟩

/-- A property of a device, its queues and their chronicle, if every way in which an action can
change a session keeps it, holds after actions in a row. -/
theorem holds_after {property : Session → List Submission → Prop}
    (kept : ∀ session history submission? next, property session history →
      session.Changes submission? next → property next (history ++ submission?.toList))
    {session : Session} {history : List Submission} (before : property session history)
    (actions : List Action) :
    property (session.after actions) (history ++ session.submissions actions) := by
  induction actions generalizing session history with
  | nil =>
    rw [submissions, List.append_nil]
    exact before
  | cons action later inductionHypothesis =>
    rw [submissions, ← List.append_assoc]
    exact inductionHypothesis (kept _ _ _ _ before (session.changes_perform action))

/-- A change of a session appends to the log what its submission appends. -/
theorem Changes.log {session next : Session} {submission? : Option Submission}
    (changes : session.Changes submission? next) :
    next.device.native.log <:+
      session.device.native.log ++ submission?.toList.flatMap Submission.events := by
  cases changes with
  | quiet native => exact native.log.trans ⟨[], (List.append_nil _).symm⟩
  | completed => exact ⟨[], (List.append_nil _).symm⟩
  | created => exact ⟨[], (List.append_nil _).symm⟩
  | @submitted submission _ _ device queues =>
    rw [← device]
    exact ⟨[], submission.log_eq.trans (congrArg _ (List.append_nil _).symm)⟩

end Session

end CommandStream
