import CommandStream.Proofs.Chronicle
import CommandStream.Proofs.RootArguments
/-!
# The pipeline that a list is opened with

A buffer notes the first pipeline that is bound while it is filled, and a submission opens the list
of the buffer with it before a record is read. The records tell which pipeline that is, too:
`CommandBuffer.Filled.firstPipeline_eq` says that a walk finds the same one, and
`Interpreter.Replays.firstPipeline` that the first call that binds a pipeline binds its object. So
what is noted decides nothing that the replay would not decide.
-/

namespace CommandStream

/-! ## Filling a buffer -/

/-- What a program does to a command buffer: it appends a record, through an encoding call or as a
command, or drops all of them. -/
inductive BufferAction
  | encode (call : EncodeCall)
  | append (command : Command)
  | clear

/-- The edit that an action comes to. -/
def BufferAction.edit : BufferAction → BufferEdit
  | .encode call => .append call.command
  | .append command => .append command
  | .clear => .clear

/-- The commands whose records a new buffer holds after actions. -/
def BufferAction.commands (actions : List BufferAction) : List Command :=
  BufferEdit.remaining [] (actions.map edit)

/-- The buffer after an action. -/
def CommandBuffer.perform (buffer : CommandBuffer) : BufferAction → CommandBuffer
  | .encode call => buffer.encode call
  | .append command => buffer.append command
  | .clear => .empty

/-- Whichever way its records were appended, a buffer is that of its commands. -/
theorem CommandBuffer.foldl_perform (actions : List BufferAction) :
    actions.foldl perform empty = ofCommands (BufferAction.commands actions) := by
  have performed : perform = fun buffer action => buffer.edit action.edit := by
    funext buffer action
    cases action with
    | encode call => exact EncodeCall.encode_eq_append buffer call
    | append command => rfl
    | clear => rfl
  rw [performed, BufferAction.commands, ← foldl_edit_ofCommands, List.foldl_map]
  rfl

/-- The commands in front of the first that binds a pipeline. -/
def Command.beforePipeline (commands : List Command) : List Command :=
  commands.takeWhile fun command => command.pipeline?.isNone

/-- A buffer that a program filled. Arrays of 2 ^ 32 elements and more are excluded in front of the
first pipeline only: `CommandBuffer.walk_disguised` shows the elements of such an array read as
records, which can bind any pipeline. -/
def CommandBuffer.Filled (buffer : CommandBuffer) : Prop :=
  ∃ actions : List BufferAction, buffer = actions.foldl perform empty ∧
    ∀ command ∈ Command.beforePipeline (BufferAction.commands actions), command.Countable

namespace Command

/-- Commands are those in front of the first that binds a pipeline, that one and all behind it, or
none of them binds any. -/
theorem eq_beforePipeline (commands : List Command) :
    (commands = beforePipeline commands ∧ commands.findSome? pipeline? = none) ∨
      ∃ handle back, commands = beforePipeline commands ++ ⟨.setPipeline, handle⟩ :: back ∧
        commands.findSome? pipeline? = some handle := by
  induction commands with
  | nil => exact .inl ⟨rfl, rfl⟩
  | cons command later inductionHypothesis =>
    cases binds : command.pipeline? with
    | none =>
      have front : beforePipeline (command :: later) = command :: beforePipeline later :=
        List.takeWhile_cons_of_pos (by rw [binds]; rfl)
      rw [front, List.findSome?_cons, binds]
      obtain ⟨same, none⟩ | ⟨handle, back, same, found⟩ := inductionHypothesis
      · exact .inl ⟨congrArg _ same, none⟩
      · exact .inr ⟨handle, back, congrArg _ same, found⟩
    | some handle =>
      have front : beforePipeline (command :: later) = [] :=
        List.takeWhile_cons_of_neg (by rw [binds]; exact Bool.false_ne_true)
      have isPipeline : command = ⟨.setPipeline, handle⟩ := by
        obtain ⟨tag, arguments⟩ := command
        cases tag <;> cases binds
        rfl
      rw [front, List.findSome?_cons, binds, isPipeline]
      exact .inr ⟨handle, later, rfl, rfl⟩

/-- Placing commands leaves the pipelines that they bind. -/
theorem findSome?_placed (offset : Nat) (commands : List Command) :
    ((placed offset commands).map Prod.snd).findSome? pipeline? =
      commands.findSome? pipeline? := by
  rw [map_snd_placed, List.findSome?_map]
  exact congrArg (fun pipeline? => commands.findSome? pipeline?) (funext pipeline?_counted)

end Command

/-- What a buffer notes is the first pipeline that a walk of its records finds. -/
theorem CommandBuffer.Filled.firstPipeline_eq {buffer : CommandBuffer} (filled : buffer.Filled) :
    buffer.firstPipeline = (buffer.walk.records.map Prod.snd).findSome? Command.pipeline? := by
  obtain ⟨actions, rfl, countable⟩ := filled
  rw [foldl_perform]
  generalize BufferAction.commands actions = commands at countable
  obtain ⟨all, none⟩ | ⟨handle, back, split, found⟩ := Command.eq_beforePipeline commands
  · rw [← all] at countable
    rw [walk_ofCommands countable, Command.findSome?_placed, ofCommands_eq]
  · -- Whatever is behind the first pipeline, the walk comes as far as that.
    let front := Command.beforePipeline commands ++ [Command.mk .setPipeline handle]
    have readable : ∀ command ∈ front, command.Countable :=
      List.forall_mem_append.mpr
        ⟨countable, List.forall_mem_singleton.mpr (List.forall_mem_nil _)⟩
    have whole : commands = front ++ back := by
      rw [List.append_assoc, List.singleton_append]
      exact split
    have bytes : (ofCommands commands).bytes =
        front.flatMap Command.record ++ back.flatMap Command.record := by
      rw [ofCommands_eq, ← List.flatMap_append, ← whole]
    have bound : front.findSome? Command.pipeline? = some handle := by
      rw [split, List.findSome?_append] at found
      rw [List.findSome?_append]
      exact found
    rw [walk, Walk.ofBytes, bytes, Walk.start_records readable, List.map_append,
      List.findSome?_append, Command.findSome?_placed, bound, ofCommands_eq, found, Option.some_or]

/-! ## The first pipeline of a replay -/

namespace Interpreter

variable {resources : Resources}

/-- A pipeline that is bound in the records, and what is bound for it in the calls. -/
def Binds (resources : Resources) (handle : Handle) (bound : ObjectId × BindPoint) : Prop :=
  ∃ pipeline, resources.pipelines.get handle = .ok pipeline ∧
    bound = (pipeline.object, pipeline.description.bindPoint)

/-- The first pipeline in the calls of a record is that of the record, if it binds one. -/
theorem Executes.firstPipeline {interpreter next : Interpreter} {command : Command}
    {calls : List Call} (executes : interpreter.Executes resources command calls next) :
    Option.Rel (Binds resources) command.pipeline? (calls.findSome? Call.pipeline?) := by
  have blind : ∀ batches : List (List BarrierCall),
      (batches.map Call.resourceBarriers).findSome? Call.pipeline? = none := by
    intro batches
    rw [List.findSome?_map]
    exact List.findSome?_eq_none_iff.mpr fun _ _ => rfl
  cases executes with
  | setPipeline found => exact .some ⟨_, found, rfl⟩
  | resourceBarriers =>
    rw [blind]
    exact .none
  | aliasingBarriers =>
    rw [blind]
    exact .none
  | _ => exact .none

/-- The first pipeline in the calls of records in a row is the first that the records bind. -/
theorem Replays.firstPipeline {interpreter final : Interpreter} {commands : List Command}
    {calls : List Call} (replays : interpreter.Replays resources commands calls final) :
    Option.Rel (Binds resources) (commands.findSome? Command.pipeline?)
      (calls.findSome? Call.pipeline?) := by
  induction replays with
  | nil => exact .none
  | @cons _ _ _ command _ calls _ first later inductionHypothesis =>
    have bound := first.firstPipeline
    rw [List.findSome?_cons, List.findSome?_append]
    generalize command.pipeline? = handle? at bound ⊢
    generalize calls.findSome? Call.pipeline? = bound? at bound ⊢
    cases bound with
    | some binds => exact .some binds
    | none => exact inductionHypothesis

/-- A pipeline that is found is the only one under its handle. -/
theorem Binds.object_eq {handle : Handle} {bound : ObjectId × BindPoint} {object : ObjectId}
    (binds : Binds resources handle bound) (names : resources.Names handle object .pipeline) :
    bound.1 = object := by
  obtain ⟨pipeline, found, rfl⟩ := binds
  obtain ⟨named, sameFound, rfl⟩ := names
  cases found.symm.trans sameFound
  rfl

end Interpreter

/-! ## Submissions -/

namespace Queue

/-- Only a pipeline that is gone makes recording fail with the error of a handle. -/
theorem Recording.missing_of_add {recording : Recording} {resources : Resources}
    {allocator : CommandAllocator} {buffer : CommandBuffer} {cause : HandleError}
    (failed : (recording.add resources allocator buffer).1 = .error (.handle cause)) :
    initialPipeline resources buffer = .error (.handle cause) := by
  unfold add at failed
  split at failed
  · rename_i missing
    cases failed
    exact missing
  · split at failed
    · cases failed
    · dsimp only at failed
      split at failed
      · cases failed
      · split at failed
        · cases failed
        · split at failed
          · cases failed
          · cases failed

/-- Of buffers in a row it is the pipeline of one of them. -/
theorem Recording.missing_of_addAll {recording : Recording} {resources : Resources}
    {allocator : CommandAllocator} {buffers : List CommandBuffer} {cause : HandleError}
    (failed : (recording.addAll resources allocator buffers).1 = .error (.handle cause)) :
    ∃ buffer ∈ buffers, initialPipeline resources buffer = .error (.handle cause) := by
  induction buffers generalizing recording with
  | nil => cases failed
  | cons buffer later inductionHypothesis =>
    rw [addAll] at failed
    split at failed
    · rename_i error between first
      cases failed
      exact ⟨buffer, List.mem_cons_self, missing_of_add (congrArg Prod.fst first)⟩
    · obtain ⟨other, inLater, missing⟩ := inductionHypothesis failed
      exact ⟨other, List.mem_cons_of_mem _ inLater, missing⟩

/-- A submission fails with the error of a handle only if a buffer of it notes a pipeline that is
gone. -/
theorem Submits.missing {queue after : Queue} {device final : Device}
    {buffers : List CommandBuffer} {dependencies : List Token} {answer : Except SubmitError Token}
    {cause : HandleError} (submits : queue.Submits device buffers dependencies answer after final)
    (failed : answer = .error (.handle cause)) :
    ∃ buffer ∈ work buffers,
      Recording.initialPipeline device.resources buffer = .error (.handle cause) := by
  cases submits with
  | idle => cases failed
  | closed => cases failed
  | works _ _ works =>
    cases works with
    | lost => cases failed
    | waited _ _ signals => cases signals <;> cases failed
    | failed _ _ delivers =>
      cases delivers with
      | unrecorded _ unrecorded =>
        cases failed
        exact Recording.missing_of_addAll unrecorded
      | refused => cases failed
    | delivered _ _ _ signals => cases signals <;> cases failed

/-- The pipeline that a buffer notes is gone if it cannot be looked up. -/
theorem Recording.exists_of_missing {resources : Resources} {buffer : CommandBuffer}
    {cause : HandleError} (missing : initialPipeline resources buffer = .error (.handle cause)) :
    ∃ handle, buffer.firstPipeline = some handle ∧
      resources.pipelines.get handle = .error cause := by
  unfold initialPipeline at missing
  split at missing
  · cases missing
  · rename_i handle isFirst
    split at missing
    · rename_i found
      cases missing
      exact ⟨handle, isFirst, found⟩
    · cases missing

end Queue

/-- A list is opened with the first pipeline that is bound on it, or with none if none is bound. -/
def Call.OpensWithFirst (list : List Call) : Prop :=
  ∃ allocator calls,
    list = .reset allocator ((calls.findSome? Call.pipeline?).map Prod.fst) :: calls

namespace CommandBuffer.Filled

variable {buffer : CommandBuffer} {resources : Resources}

/-- Without the pipeline that it notes a buffer is not replayed. -/
theorem record_error (filled : buffer.Filled) {handle : Handle} {cause : HandleError}
    (noted : buffer.firstPipeline = some handle)
    (missing : resources.pipelines.get handle = .error cause) (interpreter : Interpreter)
    (list : CommandList) :
    ∃ error, (interpreter.record resources list buffer).1 = .error error := by
  rw [Interpreter.record_eq]
  cases verdict : Interpreter.verdict (buffer.replay resources) buffer.walk with
  | error error => exact ⟨error, rfl⟩
  | ok statistics =>
    have replays := Interpreter.replays_of_run (Interpreter.completed_of_verdict verdict).1
    have bound := replays.firstPipeline
    rw [← filled.firstPipeline_eq, noted] at bound
    generalize List.findSome? Call.pipeline? _ = bound? at bound
    obtain ⟨pipeline, found, _⟩ | _ := bound
    cases found.symm.trans missing

/-- A buffer that is recorded opens its list with the first pipeline that it binds there. -/
theorem opensWithFirst (filled : buffer.Filled) {allocator : ObjectId} {list : List Call}
    (records : Queue.Recording.Records resources allocator buffer list) :
    Call.OpensWithFirst list := by
  obtain ⟨isInitial, verdict⟩ := records
  rename_i initial statistics
  have replays := Interpreter.replays_of_run (Interpreter.completed_of_verdict verdict).1
  have bound := replays.firstPipeline
  have named := Queue.Recording.names_of_initialPipeline isInitial
  rw [← filled.firstPipeline_eq] at bound
  refine ⟨allocator, _, congrArg (Call.reset allocator · :: _) ?_⟩
  change initial = (((buffer.replay resources).calls).findSome? Call.pipeline?).map Prod.fst
  change Option.Rel _ _ ((buffer.replay resources).calls.findSome? Call.pipeline?) at bound
  generalize buffer.firstPipeline = noted at bound named
  generalize (buffer.replay resources).calls.findSome? Call.pipeline? = bound? at bound ⊢
  cases bound with
  | none =>
    cases named
    rfl
  | some binds =>
    cases named with
    | some names => exact congrArg some (binds.object_eq names).symm

end CommandBuffer.Filled

/-- The pipeline that a buffer notes never changes a verdict. A submission that fails because such a
pipeline is gone has a buffer whose replay fails without it, whatever the interpreter and the list;
and every list that is executed for a buffer is opened with the first pipeline that is bound on it,
or without one if none is. Two kinds of buffers are not `Filled`, and left out. Those that were not
filled by encoding calls and commands: the note of raw records need not be that of any command. And
those with an array of 2 ^ 32 elements or more in front of the first pipeline: its elements are read
as records that nobody noted (`not_opensWithFirst`). -/
theorem first_pipeline_decides_nothing (submission : Submission) :
    (∀ cause, submission.answer = .error (.handle cause) →
      ∃ buffer ∈ Queue.work submission.buffers, ∃ handle,
        buffer.firstPipeline = some handle ∧
        submission.device.resources.pipelines.get handle = .error cause ∧
        (buffer.Filled → ∀ interpreter list, ∃ error,
          (Interpreter.record interpreter submission.device.resources list buffer).1 =
            .error error)) ∧
      ∀ lists, .execute lists ∈ submission.events →
        List.Forall₂ (fun buffer list => buffer.Filled → Call.OpensWithFirst list)
          (Queue.work submission.buffers) lists := by
  constructor
  · intro cause failed
    obtain ⟨buffer, inWork, missing⟩ := submission.submits.missing failed
    obtain ⟨handle, noted, gone⟩ := Queue.Recording.exists_of_missing missing
    exact ⟨buffer, inWork, handle, noted, gone, fun filled => filled.record_error noted gone⟩
  · intro lists executed
    obtain ⟨allocator, records⟩ := Submission.records_of_execute executed
    exact records.imp fun buffer list recorded filled => filled.opensWithFirst recorded

/-- What a program does to a buffer that binds a pipeline in vain: it drops the record, sets a
topology and binds another pipeline. -/
def BufferAction.sample : List BufferAction :=
  [.encode (.setPipeline ⟨0, 1⟩), .clear, .append ⟨.setTopology, 3⟩,
    .encode (.setPipeline ⟨0, 0⟩)]

/-- On the sample device the first action alone makes a submission fail, and a replay with it. After
all of them the list is opened with the pipeline that is there. -/
theorem first_pipeline_decides_nothing_sample :
    let fill : List BufferAction → CommandBuffer := fun actions =>
      actions.foldl CommandBuffer.perform .empty
    let stale := fill (BufferAction.sample.take 1)
    let bound := fill BufferAction.sample
    let list : List Call :=
      [.reset 6 (some 3), .setDescriptorHeaps [1, 2], .setPrimitiveTopology .triangleList,
        .setPipeline 3 .graphics]
    stale.Filled ∧ bound.Filled ∧
      Submission.answer ⟨.sample, .sample, [stale], []⟩ =
        .error (.handle (.stale .pipeline 0 1 0)) ∧
      (∃ error, (Interpreter.record .fresh Device.sample.resources ⟨7, .graphics, true, []⟩
        stale).1 = .error error) ∧
      .execute [list] ∈ Submission.events ⟨.sample, .sample, [bound], []⟩ ∧
      Call.OpensWithFirst list := by
  intro fill stale bound list
  have filledStale : stale.Filled := by
    refine ⟨_, rfl, ?_⟩
    simp [BufferAction.sample, BufferAction.commands, BufferAction.edit, BufferEdit.remaining,
      Command.beforePipeline, EncodeCall.command, Command.pipeline?]
  have filledBound : bound.Filled := by
    refine ⟨_, rfl, ?_⟩
    simp [BufferAction.sample, BufferAction.commands, BufferAction.edit, BufferEdit.remaining,
      Command.beforePipeline, EncodeCall.command, Command.pipeline?, Command.Countable,
      Command.arrayLengths]
  have fails : Submission.answer ⟨.sample, .sample, [stale], []⟩ =
      .error (.handle (.stale .pipeline 0 1 0)) := by decide +kernel
  have executed : .execute [list] ∈ Submission.events ⟨.sample, .sample, [bound], []⟩ := by
    decide +kernel
  refine ⟨filledStale, filledBound, fails, ?_, executed, ?_⟩
  · obtain ⟨buffer, inWork, _, _, _, refused⟩ :=
      (first_pipeline_decides_nothing ⟨.sample, .sample, [stale], []⟩).1 _ fails
    obtain rfl := List.mem_singleton.mp (List.mem_filter.mp inWork).1
    exact refused filledStale _ _
  · have opens := (first_pipeline_decides_nothing ⟨.sample, .sample, [bound], []⟩).2 _ executed
    have isWork : Queue.work [bound] = [bound] := by decide +kernel
    rw [isWork] at opens
    exact (List.forall₂_cons.mp opens).1 filledBound

/-- A list on which a pipeline is bound, but which was opened without one. -/
theorem Call.not_opensWithFirst_of_mem {allocator object : ObjectId} {bindPoint : BindPoint}
    {calls : List Call} (binds : .setPipeline object bindPoint ∈ calls) :
    ¬OpensWithFirst (.reset allocator none :: calls) := by
  rintro ⟨_, _, same⟩
  obtain ⟨opens, rfl⟩ := List.cons.inj same
  obtain ⟨_, unbound⟩ := Call.reset.inj opens
  have none := List.findSome?_eq_none_iff.mp (Option.map_eq_none_iff.mp unbound.symm)
  cases none _ binds

/-- What is executed for any number of barriers that wraps around, on the sample queue. -/
theorem opens_disguised {count : Nat} (wraps : UInt32.ofNat count = 0) (some : count ≠ 0) :
    let actions : List BufferAction := [.encode (.disguised count)]
    let submission : Submission :=
      ⟨.sample, .sample, [actions.foldl CommandBuffer.perform .empty], []⟩
    submission.answer = .ok ⟨5, 1⟩ ∧
      ∃ list, .execute [list] ∈ submission.events ∧ .setPipeline 3 .graphics ∈ list ∧
        ¬Call.OpensWithFirst list := by
  intro actions submission
  have stocked : Queue.sample.Stocked := ⟨nofun, nofun⟩
  have found : Device.sample.resources.pipelines.get ⟨0, 0⟩ =
      .ok ⟨3, .graphics, ⟨none, .graphics, [.constants 4]⟩⟩ := rfl
  obtain ⟨allocator, ends⟩ := stocked.executes_disguised rfl rfl rfl rfl found wraps
  let list : List Call :=
    .reset allocator none :: .setDescriptorHeaps [1, 2] ::
      List.replicate count (.setPipeline 3 .graphics)
  have events : submission.events = [.execute [list], .signal 5 1] := Submission.events_eq ends.log
  have executed : .execute [list] ∈ submission.events := by
    rw [events]
    exact List.mem_cons_self
  have binds : .setPipeline 3 .graphics ∈
      .setDescriptorHeaps [1, 2] :: List.replicate count (Call.setPipeline 3 .graphics) :=
    List.mem_cons_of_mem _ (List.mem_replicate.mpr ⟨some, rfl⟩)
  exact ⟨ends.answer, list, executed, List.mem_cons_of_mem _ binds,
    Call.not_opensWithFirst_of_mem binds⟩

/-- The bound on arrays is needed. A list is executed for a call of 2 ^ 32 barriers that was opened
without a pipeline and binds one. -/
theorem not_opensWithFirst :
    let actions : List BufferAction := [.encode (.disguised 4294967296)]
    let submission : Submission :=
      ⟨.sample, .sample, [actions.foldl CommandBuffer.perform .empty], []⟩
    submission.answer = .ok ⟨5, 1⟩ ∧
      ∃ list, .execute [list] ∈ submission.events ∧ .setPipeline 3 .graphics ∈ list ∧
        ¬Call.OpensWithFirst list :=
  opens_disguised (by decide) (by decide)

end CommandStream
