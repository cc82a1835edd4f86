import CommandStream.Proofs.Chronicle
/-!
# The buffers of one submission

The buffers of a submission share an allocator, a pool of lists and one interpreter, and yet none of
them sees the others. Whether a buffer can be recorded, and the error if it cannot, depend on the
resources and on the buffer (`admission`), and the calls depend on them and on the allocator
(`Records`). A submission of several buffers therefore comes to what the submissions of each of them
alone come to, in whatever state of whichever queue these are made: `buffers_independent`.
-/

namespace CommandStream

/-- Calls that reset their list with an allocator in place of another. -/
def Call.onAllocator (allocator : ObjectId) : List Call → List Call
  | .reset _ initial :: later => .reset allocator initial :: later
  | calls => calls

/-- The lists that an event has executed. -/
def QueueEvent.executed : QueueEvent → List (List Call)
  | .execute lists => lists
  | _ => []

theorem QueueEvent.flatMap_executing (lists : List (List Call)) :
    (executing lists).flatMap executed = lists := by
  cases lists with
  | nil => rfl
  | cons first later => exact List.append_nil _

/-- Elements that are related to those of one list are related to those of another that is related
to it. -/
theorem forall₂_of_common {α β γ : Type} {first : α → β → Prop} {second : α → γ → Prop}
    {both : β → γ → Prop} {common : List α} {lefts : List β} {rights : List γ}
    (toLefts : List.Forall₂ first common lefts) (toRights : List.Forall₂ second common rights)
    (related : ∀ element ∈ common, ∀ left right, first element left → second element right →
      both left right) : List.Forall₂ both lefts rights := by
  induction toLefts generalizing rights with
  | nil =>
    cases toRights
    exact .nil
  | cons isLeft _ inductionHypothesis =>
    cases toRights with
    | cons isRight laterRights =>
      obtain ⟨relatedFirst, relatedLater⟩ := List.forall_mem_cons.mp related
      exact .cons (relatedFirst _ _ isLeft isRight) (inductionHypothesis laterRights relatedLater)

/-- Of elements that do not all have a property one is the first without it. -/
theorem exists_first_not {α : Type} {property : α → Prop} {elements : List α}
    (broken : ¬∀ element ∈ elements, property element) :
    ∃ front first back, elements = front ++ first :: back ∧
      (∀ element ∈ front, property element) ∧ ¬property first := by
  induction elements with
  | nil => exact absurd (List.forall_mem_nil _) broken
  | cons first later inductionHypothesis =>
    by_cases holds : property first
    · obtain ⟨front, next, back, rfl, before, breaks⟩ :=
        inductionHypothesis fun all => broken (List.forall_mem_cons.mpr ⟨holds, all⟩)
      exact ⟨first :: front, next, back, rfl, List.forall_mem_cons.mpr ⟨holds, before⟩, breaks⟩
    · exact ⟨[], first, later, rfl, List.forall_mem_nil _, holds⟩

/-! ## One buffer -/

namespace Queue

/-- What recording a buffer answers. -/
def admission (resources : Resources) (buffer : CommandBuffer) : Except SubmitError Unit :=
  match Recording.initialPipeline resources buffer with
  | .error error => .error error
  | .ok _ =>
    match Interpreter.verdict (buffer.replay resources) buffer.walk with
    | .error cause => .error (.replay cause)
    | .ok _ => .ok ()

theorem Recordable.admission_eq {resources : Resources} {buffer : CommandBuffer}
    (recordable : Recordable resources buffer) : admission resources buffer = .ok () := by
  obtain ⟨⟨initial, isInitial⟩, statistics, verdict⟩ := recordable
  simp only [admission, isInitial, verdict]

theorem recordable_of_admission {resources : Resources} {buffer : CommandBuffer}
    (admitted : admission resources buffer = .ok ()) : Recordable resources buffer := by
  unfold admission at admitted
  split at admitted
  · cases admitted
  · rename_i initial isInitial
    split at admitted
    · cases admitted
    · rename_i statistics verdict
      exact ⟨⟨initial, isInitial⟩, statistics, verdict⟩

namespace Recording

variable {resources : Resources} {allocator : CommandAllocator}

/-- The answer is the same whatever was recorded before. -/
theorem Adds.answer_eq {recording after : Recording} {buffer : CommandBuffer}
    {answer : Except SubmitError Unit}
    (adds : recording.Adds resources allocator buffer answer after) :
    answer = admission resources buffer := by
  cases adds with
  | unbound missing => simp only [admission, missing]
  | abandoned isInitial failed => simp only [admission, isInitial, failed]
  | recorded records => exact records.recordable.admission_eq.symm

/-- Of buffers in a row the first that cannot be recorded decides the answer. -/
theorem Stocked.addAll_of_first {recording : Recording} (stocked : recording.Stocked allocator)
    (present : recording.device.lost = false) {front back : List CommandBuffer}
    {buffer : CommandBuffer} {error : SubmitError}
    (recordable : ∀ earlier ∈ front, Recordable resources earlier)
    (fails : admission resources buffer = .error error) :
    (recording.addAll resources allocator (front ++ buffer :: back)).1 = .error error := by
  induction front generalizing recording with
  | nil =>
    have answer := (stocked.adds present resources buffer).answer_eq.trans fails
    rw [List.nil_append, Recording.addAll]
    split
    · rename_i failed
      rw [failed] at answer
      exact answer
    · rename_i added
      rw [added] at answer
      cases answer
  | cons first later inductionHypothesis =>
    obtain ⟨recordableFirst, recordableLater⟩ := List.forall_mem_cons.mp recordable
    obtain ⟨stillStocked, answer⟩ := stocked.add present resources first
    have frame := (add_of_present present resources allocator first).1
    have succeeds := answer.mpr recordableFirst
    rw [List.cons_append, Recording.addAll]
    split
    · rename_i failed
      rw [failed] at succeeds
      cases succeeds
    · rename_i middle added
      rw [added] at stillStocked frame
      exact inductionHypothesis stillStocked (frame.lost_eq.trans present) recordableLater

/-- The calls of a buffer are the same on two allocators, but for the allocator. -/
theorem Records.onAllocator {buffer : CommandBuffer} {first second : ObjectId}
    {calls others : List Call} (records : Records resources first buffer calls)
    (recordsOther : Records resources second buffer others) :
    calls = Call.onAllocator first others := by
  cases records with
  | intro isInitial verdict =>
    cases recordsOther with
    | intro isOther otherVerdict =>
      -- Both begin with the pipeline that the buffer binds first, and there is only one.
      cases isInitial.symm.trans isOther
      rfl

end Recording

end Queue

/-! ## One submission -/

namespace Submission

/-- What a submission records: a list for each buffer that holds a record, or the error of the first
that cannot be recorded. -/
def recording (submission : Submission) : Except SubmitError (List CommandList) :=
  match submission.queue.acquireAllocator
    (Queue.issueWaits submission.device.native submission.waits).2 with
  | (.error cause, _, _) => .error (.device cause)
  | (.ok allocator, queue, native) =>
    let (answer, recording) := Queue.Recording.addAll ⟨queue, native, .fresh, []⟩
      submission.device.resources allocator (Queue.work submission.buffers)
    answer.map fun _ => recording.recorded

/-- The lists that reach the device in a submission. -/
def executed (submission : Submission) : List (List Call) :=
  submission.events.flatMap QueueEvent.executed

/-- A submission to a queue of a session, neither the queue nor the device being lost. -/
structure Usable (submission : Submission) : Prop where
  reachable : ∃ device actions,
    submission.queue ∈ ((Session.start device).after actions).queues ∧
      submission.device = ((Session.start device).after actions).device
  usable : submission.queue.lost = false
  present : submission.device.native.lost = false

/-- The allocator that a submission acquires, with the queue and the device after it, and that its
recording begins with these. -/
structure Begins (submission : Submission) (allocator : CommandAllocator) (next : Queue)
    (state : NativeDevice) : Prop where
  acquired : submission.queue.acquireAllocator
    (submission.device.native.logged (submission.waits.map Token.waiting)) =
      (.ok allocator, next, state)
  acquires : submission.queue.Acquires
    (submission.device.native.logged (submission.waits.map Token.waiting)) allocator next state
  present : state.lost = false
  stocked : Queue.Recording.Stocked ⟨next, state, .fresh, []⟩ allocator
  recording : submission.recording =
    (Queue.Recording.addAll ⟨next, state, .fresh, []⟩ submission.device.resources allocator
      (Queue.work submission.buffers)).1.map fun _ =>
        (Queue.Recording.addAll ⟨next, state, .fresh, []⟩ submission.device.resources allocator
          (Queue.work submission.buffers)).2.recorded

/-- Submitting nothing but one buffer of a submission, where the resources are the same. The queue,
its pools and the dependencies may be others. -/
structure Isolates (together : Submission) (buffer : CommandBuffer) (single : Submission) :
    Prop where
  usable : single.Usable
  buffers : single.buffers = [buffer]
  resources : single.device.resources = together.device.resources

variable {submission : Submission}

/-- Waits execute nothing. -/
theorem executed_of_log {events : List QueueEvent}
    (log : submission.final.native.log =
      submission.device.native.log ++ (submission.waits.map Token.waiting ++ events)) :
    submission.executed = events.flatMap QueueEvent.executed := by
  have waits : (submission.waits.map Token.waiting).flatMap QueueEvent.executed = [] := by
    simp [List.flatMap_eq_nil_iff, Token.waiting, QueueEvent.executed]
  rw [executed, events_eq log, List.flatMap_append, waits, List.nil_append]

/-- A submission without buffers executes nothing. -/
theorem executed_of_noWork (noWork : Queue.work submission.buffers = []) :
    submission.executed = [] := by
  refine List.flatMap_eq_nil_iff.mpr fun event member => ?_
  cases event with
  | execute lists =>
    obtain ⟨allocator, records⟩ := records_of_execute member
    rw [noWork] at records
    exact List.forall₂_nil_left_iff.mp records
  | _ => rfl

namespace Usable

theorem stocked (usable : submission.Usable) : submission.queue.Stocked := by
  obtain ⟨device, actions, isQueue, _⟩ := usable.reachable
  exact Session.stocked_after device actions _ isQueue

/-- On a working device a recording begins. -/
theorem begins (usable : submission.Usable) :
    ∃ allocator acquired state, submission.Begins allocator acquired state := by
  have present : (submission.device.native.logged
    (submission.waits.map Token.waiting)).lost = false := usable.present
  obtain ⟨allocator, acquired, state, isAcquired, acquires⟩ :=
    submission.queue.acquireAllocator_of_present present
  refine ⟨allocator, acquired, state, isAcquired, acquires, acquires.lost_eq.trans present,
    usable.stocked.recording acquires, ?_⟩
  simp only [recording, Queue.issueWaits_of_present usable.present, isAcquired]

/-- A submission records its lists exactly if each of its buffers can be recorded. -/
theorem recorded_iff (usable : submission.Usable) :
    (∃ lists, submission.recording = .ok lists) ↔
      ∀ buffer ∈ Queue.work submission.buffers,
        Queue.Recordable submission.device.resources buffer := by
  obtain ⟨allocator, acquired, state, begins⟩ := usable.begins
  rw [begins.recording, ← (begins.stocked.addAll begins.present submission.device.resources _).2]
  constructor
  · rintro ⟨lists, recorded⟩
    exact (map_eq_ok.mp recorded).choose_spec.1
  · intro succeeded
    exact ⟨_, map_eq_ok.mpr ⟨(), succeeded, rfl⟩⟩

/-- The lists that a submission records hold the calls of its buffers. -/
theorem records (usable : submission.Usable) {lists : List CommandList}
    (recorded : submission.recording = .ok lists) :
    ∃ allocator,
      List.Forall₂ (Queue.Recording.Records submission.device.resources allocator)
        (Queue.work submission.buffers) (lists.map CommandList.calls) := by
  obtain ⟨allocator, acquired, state, begins⟩ := usable.begins
  rw [begins.recording] at recorded
  obtain ⟨_, succeeded, rfl⟩ := map_eq_ok.mp recorded
  obtain ⟨closed, isRecorded, records⟩ := (Queue.Recording.addAll_of_present _ begins.present
    submission.device.resources allocator (Queue.work submission.buffers)).2 succeeded
  refine ⟨allocator.id, ?_⟩
  rw [isRecorded]
  exact records

/-- The first buffer that cannot be recorded decides what a submission records. -/
theorem recording_of_first (usable : submission.Usable) {front back : List CommandBuffer}
    {buffer : CommandBuffer} {error : SubmitError}
    (work : Queue.work submission.buffers = front ++ buffer :: back)
    (recordable : ∀ earlier ∈ front, Queue.Recordable submission.device.resources earlier)
    (fails : Queue.admission submission.device.resources buffer = .error error) :
    submission.recording = .error error := by
  obtain ⟨allocator, acquired, state, begins⟩ := usable.begins
  rw [begins.recording, work, begins.stocked.addAll_of_first begins.present recordable fails]
  rfl

theorem proceeds (usable : submission.Usable) (someWork : Queue.work submission.buffers ≠ []) :
    submission.queue.Proceeds submission.device submission.buffers submission.dependencies :=
  ⟨usable.usable, usable.present, .inl someWork⟩

/-- A submission that cannot record a buffer answers with the error of the recording. -/
theorem answer_of_recording (usable : submission.Usable)
    (someWork : Queue.work submission.buffers ≠ []) {error : SubmitError}
    (failed : submission.recording = .error error) : submission.answer = .error error := by
  obtain ⟨allocator, acquired, state, begins⟩ := usable.begins
  rw [begins.recording] at failed
  refine ((usable.proceeds someWork).ends_of_error someWork ?_).answer
  change (submission.queue.executeBuffers (submission.device.native.logged
    (submission.waits.map Token.waiting)) _ _).1 = _
  rw [Queue.executeBuffers, begins.acquired]
  dsimp only
  split
  · rename_i cause after added
    rw [added] at failed
    cases failed
    rfl
  · rename_i after added
    rw [added] at failed
    cases failed

/-- What a submission recorded is executed as it is, if its native queue takes lists of the type of
the queue. -/
theorem delivered (usable : submission.Usable)
    (accepted : submission.queue.native.type = submission.queue.type) {lists : List CommandList}
    (recorded : submission.recording = .ok lists) :
    ∃ allocator acquired state pool created, submission.Begins allocator acquired state ∧
      submission.queue.executeBuffers
          (submission.device.native.logged (submission.waits.map Token.waiting))
          submission.device.resources (Queue.work submission.buffers) =
        (.ok allocator, (acquired.withLists pool).poolLists lists,
          (state.grown created).logged [.execute (lists.map CommandList.calls)]) := by
  obtain ⟨allocator, acquired, state, begins⟩ := usable.begins
  obtain ⟨_, _, isType, isNative⟩ := usable.stocked.acquire begins.acquires
  have frame := (Queue.Recording.addAll_of_present ⟨acquired, state, .fresh, []⟩ begins.present
    submission.device.resources allocator (Queue.work submission.buffers)).1
  have stocked := (begins.stocked.addAll begins.present submission.device.resources
    (Queue.work submission.buffers)).1
  have made := begins.recording.symm.trans recorded
  rcases added : Queue.Recording.addAll ⟨acquired, state, .fresh, []⟩ submission.device.resources
    allocator (Queue.work submission.buffers) with ⟨answer, recording⟩
  rw [added] at made frame stocked
  obtain ⟨_, rfl, rfl⟩ := map_eq_ok.mp made
  have present : recording.device.lost = false := frame.lost_eq.trans begins.present
  obtain ⟨⟨pool, isQueue⟩, created, isDevice⟩ := frame
  have native : (recording.queue.poolLists recording.recorded).native = acquired.native := by
    rw [isQueue]
    rfl
  have sameType : acquired.native.type = recording.queue.type := by
    rw [isNative, accepted, isQueue]
    exact isType.symm
  refine ⟨allocator, acquired, state, pool, created, begins, ?_⟩
  rw [Queue.executeBuffers, begins.acquired]
  dsimp only
  rw [added]
  dsimp only
  rw [native, Queue.execute_of_ready present _ stocked.recorded, if_pos (.inr sameType), isQueue,
    isDevice]

/-- A submission that records all its buffers comes to its signal with them, if its native queue
takes lists of their type. -/
theorem reaches (usable : submission.Usable) (someWork : Queue.work submission.buffers ≠ [])
    (accepted : submission.queue.native.type = submission.queue.type) {lists : List CommandList}
    (recorded : submission.recording = .ok lists) :
    ∃ between state used,
      submission.queue.Reaches submission.device submission.buffers submission.dependencies
        (lists.map CommandList.calls) between state used := by
  obtain ⟨allocator, acquired, state, pool, created, begins, delivered⟩ :=
    usable.delivered accepted recorded
  have acquires := begins.acquires
  obtain ⟨_, records⟩ := usable.records recorded
  have someLists : lists.map CommandList.calls ≠ [] := by
    intro none
    rw [none] at records
    exact someWork (List.forall₂_nil_right_iff.mp records)
  refine ⟨_, _, some allocator, Queue.submitWork_of_ok usable.present someWork delivered, ?_,
    begins.present, acquires.failNextSignal_eq, acquires.fence_eq, acquires.lastSubmitted_eq⟩
  rw [QueueEvent.executing, if_neg (mt List.isEmpty_iff.mp someLists)]
  change state.log ++ [_] = _
  rw [acquires.log_eq, ← List.append_assoc]
  rfl

/-- Lists of the type of the native queue reach the device as they were recorded, and others do not
reach it. -/
theorem executed_eq (usable : submission.Usable) {lists : List CommandList}
    (recorded : submission.recording = .ok lists) :
    submission.executed =
      if submission.queue.native.type = submission.queue.type then lists.map CommandList.calls
      else [] := by
  obtain ⟨allocator, records⟩ := usable.records recorded
  by_cases noWork : Queue.work submission.buffers = []
  · rw [noWork, List.forall₂_nil_left_iff] at records
    rw [records, ite_self]
    exact executed_of_noWork noWork
  · have proceeds := usable.proceeds noWork
    by_cases accepted : submission.queue.native.type = submission.queue.type
    · rw [if_pos accepted]
      obtain ⟨between, state, used, reaches⟩ := usable.reaches noWork accepted recorded
      cases armed : submission.device.native.failNextSignal with
      | true =>
        have ends := reaches.ends_of_armed proceeds armed
        rw [executed_of_log ends.log, QueueEvent.flatMap_executing]
      | false =>
        have ends := reaches.ends_of_unarmed proceeds armed
        rw [executed_of_log ends.log, List.flatMap_append, QueueEvent.flatMap_executing]
        exact List.append_nil _
    · rw [if_neg accepted]
      have recordable := usable.recorded_iff.mp ⟨lists, recorded⟩
      have ends := usable.stocked.ends_of_refused proceeds recordable noWork accepted
      rw [executed_of_log (ends.log.trans (congrArg _ (List.append_nil _).symm))]
      rfl

end Usable

/-! ## Several buffers -/

/-- What a submission of several buffers has to do with the submissions of each of them alone. -/
structure Combines (together : Submission) (alone : List Submission) : Prop where
  /-- All buffers are recorded exactly if each is recorded alone. -/
  recorded : (∃ lists, together.recording = .ok lists) ↔
    ∀ single ∈ alone, ∃ own, single.recording = .ok [own]
  /-- Each list that is recorded is the one recorded alone, but for the allocator. -/
  lists : ∀ lists, together.recording = .ok lists →
    ∃ allocator, List.Forall₂ (fun single list => ∃ own, single.recording = .ok [own] ∧
      list.calls = Call.onAllocator allocator own.calls) alone lists
  /-- The lists recorded are executed if the native queue takes lists of the type of its queue. -/
  executed : ∀ submission ∈ together :: alone, ∀ lists, submission.recording = .ok lists →
    submission.executed =
      if submission.queue.native.type = submission.queue.type then lists.map CommandList.calls
      else []
  /-- Otherwise the first buffer that is not recorded alone gives the answer that it gives alone. -/
  first : ∀ error, together.recording = .error error →
    together.answer = .error error ∧
      ∃ front single back, alone = front ++ single :: back ∧
        (∀ earlier ∈ front, ∃ own, earlier.recording = .ok [own]) ∧
        single.recording = .error error ∧ single.answer = .error error

section Isolated

variable {together single : Submission} {buffer : CommandBuffer}

theorem Isolates.work (isolates : together.Isolates buffer single)
    (some : buffer.isEmpty = false) : Queue.work single.buffers = [buffer] := by
  rw [isolates.buffers, Queue.work, List.filter_cons_of_pos (by rw [some]; rfl), List.filter_nil]

/-- A buffer is recorded alone exactly if it can be. -/
theorem Isolates.recorded_iff (isolates : together.Isolates buffer single)
    (some : buffer.isEmpty = false) :
    (∃ own, single.recording = .ok [own]) ↔
      Queue.Recordable together.device.resources buffer := by
  have recorded := isolates.usable.recorded_iff
  rw [isolates.work some, List.forall_mem_singleton, isolates.resources] at recorded
  rw [← recorded]
  constructor
  · rintro ⟨own, isOwn⟩
    exact ⟨[own], isOwn⟩
  · rintro ⟨lists, isLists⟩
    obtain ⟨allocator, records⟩ := isolates.usable.records isLists
    rw [isolates.work some] at records
    obtain ⟨own, rfl⟩ : ∃ own, lists = [own] :=
      List.length_eq_one_iff.mp (by rw [← lists.length_map, ← records.length_eq]; rfl)
    exact ⟨own, isLists⟩

/-- The list of a buffer recorded alone holds its calls. -/
theorem Isolates.records (isolates : together.Isolates buffer single)
    (some : buffer.isEmpty = false) {own : CommandList}
    (recorded : single.recording = .ok [own]) :
    ∃ allocator,
      Queue.Recording.Records together.device.resources allocator buffer own.calls := by
  obtain ⟨allocator, records⟩ := isolates.usable.records recorded
  rw [isolates.work some, isolates.resources] at records
  cases records with
  | cons records _ => exact ⟨allocator, records⟩

/-- A buffer that cannot be recorded gives its error alone. -/
theorem Isolates.recording_eq (isolates : together.Isolates buffer single)
    (some : buffer.isEmpty = false) {error : SubmitError}
    (fails : Queue.admission together.device.resources buffer = .error error) :
    single.recording = .error error := by
  have work : Queue.work single.buffers = [] ++ buffer :: [] := isolates.work some
  exact isolates.usable.recording_of_first work (List.forall_mem_nil _)
    (isolates.resources ▸ fails)

/-- A submission of buffers that all hold a record, beside the submissions of each of them alone. -/
theorem Usable.combines {alone : List Submission} (usable : together.Usable)
    (someRecord : ∀ buffer ∈ together.buffers, buffer.isEmpty = false)
    (isolated : List.Forall₂ together.Isolates together.buffers alone) :
    together.Combines alone := by
  have work : Queue.work together.buffers = together.buffers :=
    List.filter_eq_self.mpr fun buffer member => by rw [someRecord buffer member]; rfl
  have recordedAlone : (∃ lists, together.recording = .ok lists) ↔
      ∀ single ∈ alone, ∃ own, single.recording = .ok [own] := by
    rw [usable.recorded_iff, work]
    constructor
    · intro recordable single member
      obtain ⟨buffer, inBuffers, isolates⟩ := exists_of_mem_forall₂ isolated.flip member
      exact (isolates.recorded_iff (someRecord buffer inBuffers)).mpr (recordable buffer inBuffers)
    · intro recorded buffer member
      obtain ⟨single, inAlone, isolates⟩ := exists_of_mem_forall₂ isolated member
      exact (isolates.recorded_iff (someRecord buffer member)).mp (recorded single inAlone)
  constructor
  case recorded => exact recordedAlone
  case lists =>
    intro lists recorded
    obtain ⟨allocator, records⟩ := usable.records recorded
    rw [work, List.forall₂_map_right_iff] at records
    refine ⟨allocator, forall₂_of_common isolated records fun buffer member single list isolates
      records => ?_⟩
    have some := someRecord buffer member
    obtain ⟨own, isOwn⟩ := (isolates.recorded_iff some).mpr records.recordable
    obtain ⟨other, recordsOwn⟩ := isolates.records some isOwn
    exact ⟨own, isOwn, records.onAllocator recordsOwn⟩
  case executed =>
    intro submission member lists recorded
    rcases List.mem_cons.mp member with rfl | inAlone
    · exact usable.executed_eq recorded
    · obtain ⟨buffer, _, isolates⟩ := exists_of_mem_forall₂ isolated.flip inAlone
      exact isolates.usable.executed_eq recorded
  case first =>
    intro error failed
    have notAll : ¬∀ single ∈ alone, ∃ own, single.recording = .ok [own] := by
      intro all
      obtain ⟨lists, recorded⟩ := recordedAlone.mpr all
      cases failed.symm.trans recorded
    obtain ⟨front, single, back, rfl, recorded, unrecorded⟩ := exists_first_not notAll
    -- The buffers are split where the submissions alone are.
    have isolatedFront := List.forall₂_take_append _ _ _ isolated
    obtain ⟨buffer, rest, isolates, _, behind⟩ :=
      List.forall₂_cons_right_iff.mp (List.forall₂_drop_append _ _ _ isolated)
    have buffers : together.buffers = together.buffers.take front.length ++ buffer :: rest := by
      rw [← behind, List.take_append_drop]
    have some : buffer.isEmpty = false := someRecord buffer (buffers ▸ List.mem_append_right _
      List.mem_cons_self)
    have recordable : ∀ earlier ∈ together.buffers.take front.length,
        Queue.Recordable together.device.resources earlier := by
      intro earlier member
      obtain ⟨its, inFront, isolatesIts⟩ := exists_of_mem_forall₂ isolatedFront member
      exact (isolatesIts.recorded_iff (someRecord earlier (List.mem_of_mem_take member))).mp
        (recorded its inFront)
    have someWork : Queue.work together.buffers ≠ [] := by
      rw [work, buffers]
      exact List.append_ne_nil_of_right_ne_nil _ (List.cons_ne_nil _ _)
    have someWorkAlone : Queue.work single.buffers ≠ [] := by
      rw [isolates.work some]
      exact List.cons_ne_nil _ _
    cases admitted : Queue.admission together.device.resources buffer with
    | ok nothing =>
      have admissible := Queue.recordable_of_admission admitted
      exact absurd ((isolates.recorded_iff some).mpr admissible) unrecorded
    | error cause =>
      have failedHere := usable.recording_of_first (work.trans buffers) recordable admitted
      obtain rfl : cause = error := by
        cases failedHere.symm.trans failed
        rfl
      have failedAlone := isolates.recording_eq some admitted
      exact ⟨usable.answer_of_recording someWork failed, front, single, back, rfl, recorded,
        failedAlone, isolates.usable.answer_of_recording someWorkAlone failedAlone⟩

end Isolated

end Submission

/-- Buffers of one submission are independent. Whatever an interpreter replayed before, and however
that ended, it replays a buffer as a fresh one does. And a submission of buffers that all hold a
record comes to what the submissions of each of them alone come to, which may be made on any queues
and at any times, as long as the resources are the same. -/
theorem buffers_independent :
    (∀ (interpreter : Interpreter) (resources : Resources) (list : CommandList)
        (buffer : CommandBuffer),
      interpreter.record resources list buffer =
        Interpreter.fresh.record resources list buffer) ∧
      ∀ (together : Submission) (alone : List Submission), together.Usable →
        (∀ buffer ∈ together.buffers, buffer.isEmpty = false) →
        List.Forall₂ together.Isolates together.buffers alone → together.Combines alone := by
  constructor
  · intro interpreter resources list buffer
    rw [Interpreter.record_eq, Interpreter.record_eq]
  · intro together alone usable someRecord isolated
    exact usable.combines someRecord isolated

/-- Two copies are submitted together to one queue, and then each of them to another one. -/
theorem buffers_independent_copies :
    let made : List Action :=
      [.createBuffer ⟨16, .empty⟩, .createBuffer ⟨16, .empty⟩, .createQueue .copy .copy,
        .createQueue .compute .compute]
    let session := (Session.start .small).after made
    let there := CommandBuffer.ofCalls [.copyBuffer ⟨0, 0⟩ 0 ⟨1, 0⟩ 0 16]
    let back := CommandBuffer.ofCalls [.copyBuffer ⟨1, 0⟩ 0 ⟨0, 0⟩ 0 16]
    let together : Submission :=
      ⟨⟨.copy, ⟨5, .copy⟩, 6, 0, [], [], false⟩, session.device, [there, back], []⟩
    let other : Queue := ⟨.compute, ⟨7, .compute⟩, 8, 0, [], [], false⟩
    let alone : List Submission :=
      [⟨other, together.final, [there], []⟩, ⟨other, together.final, [back], [⟨6, 1⟩]⟩]
    together.executed =
        [[.reset 9 none, .setDescriptorHeaps [1, 2], .copyBuffer 3 0 4 0 16],
          [.reset 9 none, .setDescriptorHeaps [1, 2], .copyBuffer 4 0 3 0 16]] ∧
      alone.map Submission.executed =
        [[[.reset 12 none, .setDescriptorHeaps [1, 2], .copyBuffer 3 0 4 0 16]],
          [[.reset 12 none, .setDescriptorHeaps [1, 2], .copyBuffer 4 0 3 0 16]]] ∧
      together.Combines alone := by
  intro made session there back together other alone
  have executed : together.executed =
      [[.reset 9 none, .setDescriptorHeaps [1, 2], .copyBuffer 3 0 4 0 16],
        [.reset 9 none, .setDescriptorHeaps [1, 2], .copyBuffer 4 0 3 0 16]] := by decide +kernel
  have executedAlone : alone.map Submission.executed =
      [[[.reset 12 none, .setDescriptorHeaps [1, 2], .copyBuffer 3 0 4 0 16]],
        [[.reset 12 none, .setDescriptorHeaps [1, 2], .copyBuffer 4 0 3 0 16]]] := by
    decide +kernel
  have queues : session.queues = [together.queue, other] := by decide +kernel
  have submitted : (Session.start .small).after (made ++ [.submit 0 [there, back] []]) =
      ⟨together.final, [together.after, other]⟩ := by
    rw [Session.after, List.foldl_append]
    change session.submit 0 [there, back] [] = _
    rw [Session.submit, queues]
    rfl
  have usable : together.Usable :=
    ⟨⟨.small, made, queues ▸ List.mem_cons_self, rfl⟩, rfl, by decide +kernel⟩
  have present : together.final.native.lost = false := by decide +kernel
  have usableAfter : ∀ buffer dependencies,
      (⟨other, together.final, [buffer], dependencies⟩ : Submission).Usable := by
    intro buffer dependencies
    refine ⟨⟨.small, made ++ [.submit 0 [there, back] []], ?_⟩, rfl, present⟩
    rw [submitted]
    exact ⟨List.mem_cons_of_mem _ List.mem_cons_self, rfl⟩
  have sameResources : together.final.resources = together.device.resources :=
    together.submits.resources_eq
  have isolated : List.Forall₂ together.Isolates together.buffers alone :=
    .cons ⟨usableAfter _ _, rfl, sameResources⟩
      (.cons ⟨usableAfter _ _, rfl, sameResources⟩ .nil)
  have someRecord : ∀ buffer ∈ together.buffers, buffer.isEmpty = false := by decide +kernel
  exact ⟨executed, executedAlone, buffers_independent.2 together alone usable someRecord isolated⟩

end CommandStream
