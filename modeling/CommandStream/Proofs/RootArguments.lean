import CommandStream.Proofs.FaithfulReplay
/-!
# Root arguments and the bound pipeline

A root argument means nothing but what the root layout of a pipeline makes of its slot. The
interpreter follows the pipeline that is bound: `Replays.binding` says that it is the one of the
last record that binds a pipeline, and of the last call that does. Each call of a replay belongs to
a record with the calls of the records before it in front (`meets_of_run`), so a root argument
always meets the layout of the last pipeline in front of it, whatever was bound for earlier buffers.
-/

namespace CommandStream

/-- The pipeline and the bind point that a call binds, if it binds a pipeline. -/
def Call.pipeline? : Call → Option (ObjectId × BindPoint)
  | .setPipeline pipeline bindPoint => some (pipeline, bindPoint)
  | _ => none

/-- Whether a call sets a root argument. -/
def Call.isRootArgument : Call → Bool
  | .setRootConstants .. | .setRootDescriptor .. | .setRootDescriptorTable .. => true
  | _ => false

/-- Whether a record is about a root argument. -/
def CommandTag.isRootArgument : CommandTag → Bool
  | .setRootConstants | .setRootBuffer | .setDescriptorTable => true
  | _ => false

/-- A root argument that a pipeline takes: it is for the bind point of the pipeline, and the root
layout has a parameter of its kind at its slot. Constants lie inside their parameter, and a table
starts where a range does that lies inside the heap of its parameter. -/
inductive Call.Fits (resources : Resources) (pipeline : Pipeline) : Call → Prop
  | constants {slot first : UInt32} {values : List UInt32} {count : Nat}
      (atSlot : pipeline.description.rootLayout[slot.toNat]? = some (.constants count))
      (inside : first.toNat + values.length ≤ count) :
      Fits resources pipeline
        (.setRootConstants pipeline.description.bindPoint slot first values)
  | descriptor {slot : UInt32} {kind : RootDescriptorKind} {buffer : ObjectId} {offset : UInt64}
      (atSlot : pipeline.description.rootLayout[slot.toNat]? = some (.descriptor kind)) :
      Fits resources pipeline
        (.setRootDescriptor pipeline.description.bindPoint slot kind buffer offset)
  | table {slot : UInt32} {heapType : HeapType} {range : DescriptorRange}
      (atSlot : pipeline.description.rootLayout[slot.toNat]? = some (.table heapType))
      (inside : range.offset + range.length ≤ (resources.heap heapType).allocator.capacity) :
      Fits resources pipeline
        (.setRootDescriptorTable pipeline.description.bindPoint slot
          (resources.tableBase heapType range))

namespace Interpreter

variable {resources : Resources}

/-! ## The bound pipeline -/

/-- The pipeline that is bound after records and their calls: that of the last record and of the
last call that bind one, or the one from before if none does. -/
inductive Binding (resources : Resources) (before : Option Pipeline) (commands : List Command)
    (calls : List Call) : Option Pipeline → Prop
  | kept (noRecord : commands.filterMap Command.pipeline? = [])
      (noCall : calls.filterMap Call.pipeline? = []) :
      Binding resources before commands calls before
  | last {handle : Handle} {pipeline : Pipeline}
      (record : (commands.filterMap Command.pipeline?).getLast? = some handle)
      (found : resources.pipelines.get handle = .ok pipeline)
      (call : (calls.filterMap Call.pipeline?).getLast? =
        some (pipeline.object, pipeline.description.bindPoint)) :
      Binding resources before commands calls (some pipeline)

/-- A record binds a pipeline with the call that it makes, or leaves the bound one. -/
theorem Executes.binding {interpreter next : Interpreter} {command : Command} {calls : List Call}
    (executes : interpreter.Executes resources command calls next) :
    Binding resources interpreter.pipeline [command] calls next.pipeline := by
  cases executes with
  | setPipeline found => exact .last rfl found rfl
  | resourceBarriers => exact .kept rfl (filterMap_batches (fun _ => rfl) _)
  | aliasingBarriers => exact .kept rfl (filterMap_batches (fun _ => rfl) _)
  | _ => exact .kept rfl rfl

/-- Of two stretches of records the second decides, if it binds a pipeline at all. -/
theorem Binding.append {before middle after : Option Pipeline} {commands later : List Command}
    {calls rest : List Call} (front : Binding resources before commands calls middle)
    (back : Binding resources middle later rest after) :
    Binding resources before (commands ++ later) (calls ++ rest) after := by
  cases back with
  | last record found call =>
    refine .last ?_ found ?_
    · rw [List.filterMap_append, List.getLast?_append, record, Option.some_or]
    · rw [List.filterMap_append, List.getLast?_append, call, Option.some_or]
  | kept noRecord noCall =>
    cases front with
    | kept noRecordBefore noCallBefore =>
      refine .kept ?_ ?_
      · rw [List.filterMap_append, noRecordBefore, noRecord, List.append_nil]
      · rw [List.filterMap_append, noCallBefore, noCall, List.append_nil]
    | last record found call =>
      refine .last ?_ found ?_
      · rw [List.filterMap_append, noRecord, List.append_nil, record]
      · rw [List.filterMap_append, noCall, List.append_nil, call]

/-- The interpreter follows the bound pipeline along the records. -/
theorem Replays.binding {interpreter final : Interpreter} {commands : List Command}
    {calls : List Call} (replays : interpreter.Replays resources commands calls final) :
    Binding resources interpreter.pipeline commands calls final.pipeline := by
  induction replays with
  | nil => exact .kept rfl rfl
  | cons first later inductionHypothesis => exact first.binding.append inductionHypothesis

/-! ## Root arguments -/

/-- A list of one call has nothing in front of it. -/
theorem eq_of_singleton {only call : Call} {front back : List Call}
    (made : [only] = front ++ call :: back) : front = [] ∧ call = only := by
  cases front with
  | nil => exact ⟨rfl, (List.cons.inj made).1.symm⟩
  | cons first rest =>
    have none := (List.cons.inj made).2
    exact absurd none.symm (List.append_ne_nil_of_right_ne_nil rest (List.cons_ne_nil call back))

/-- A record that is executed sets a root argument only if the bound pipeline takes it. -/
theorem Executes.fits {interpreter next : Interpreter} {command : Command} {calls : List Call}
    (executes : interpreter.Executes resources command calls next) {front back : List Call}
    {call : Call} (made : calls = front ++ call :: back) (isArgument : call.isRootArgument = true) :
    front = [] ∧ command.tag.isRootArgument = true ∧
      ∃ pipeline, interpreter.pipeline = some pipeline ∧ call.Fits resources pipeline := by
  have inCalls : call ∈ calls := by
    rw [made]
    exact List.mem_append_right _ List.mem_cons_self
  cases executes with
  | setRootConstants accepts inside =>
    obtain ⟨rfl, rfl⟩ := eq_of_singleton made
    exact ⟨rfl, rfl, _, accepts.bound, .constants accepts.atSlot inside⟩
  | setRootBuffer accepts names =>
    obtain ⟨rfl, rfl⟩ := eq_of_singleton made
    exact ⟨rfl, rfl, _, accepts.bound, .descriptor accepts.atSlot⟩
  | setDescriptorTable named accepts inside =>
    obtain ⟨rfl, rfl⟩ := eq_of_singleton made
    exact ⟨rfl, rfl, _, accepts.bound, .table accepts.atSlot inside⟩
  | resourceBarriers =>
    obtain ⟨batch, _, rfl⟩ := List.mem_map.mp inCalls
    cases isArgument
  | aliasingBarriers =>
    obtain ⟨batch, _, rfl⟩ := List.mem_map.mp inCalls
    cases isArgument
  | _ =>
    obtain ⟨_, rfl⟩ := eq_of_singleton made
    cases isArgument

/-- A record about a root argument is executed only while a pipeline is bound. -/
theorem Executes.bound {interpreter next : Interpreter} {command : Command} {calls : List Call}
    (executes : interpreter.Executes resources command calls next)
    (isArgument : command.tag.isRootArgument = true) :
    ∃ pipeline, interpreter.pipeline = some pipeline := by
  cases executes with
  | setRootConstants accepts => exact ⟨_, accepts.bound⟩
  | setRootBuffer accepts => exact ⟨_, accepts.bound⟩
  | setDescriptorTable _ accepts => exact ⟨_, accepts.bound⟩
  | _ => cases isArgument

/-- A root argument among records, with the calls in front of it: the records before its own, and
these calls, have bound a pipeline that takes it. -/
inductive Meets (resources : Resources) (before : Option Pipeline) (call : Call) :
    List (Nat × Command) → List Call → Prop
  | intro {earlier later : List (Nat × Command)} {offset : Nat} {command : Command}
      {front : List Call} {pipeline : Pipeline} (isArgument : command.tag.isRootArgument = true)
      (binding : Binding resources before (earlier.map Prod.snd) front (some pipeline))
      (fits : call.Fits resources pipeline) :
      Meets resources before call (earlier ++ (offset, command) :: later) front

/-- A record that is executed first comes to the front with its calls. -/
theorem Meets.behind {interpreter next : Interpreter} {call : Call}
    {records : List (Nat × Command)} {front calls : List Call} {command : Command} (offset : Nat)
    (meets : Meets resources next.pipeline call records front)
    (executes : interpreter.Executes resources command calls next) :
    Meets resources interpreter.pipeline call ((offset, command) :: records) (calls ++ front) := by
  cases meets with
  | @intro earlier later _ _ _ pipeline isArgument binding fits =>
    have front : Binding resources interpreter.pipeline
        (((offset, command) :: earlier).map Prod.snd) (calls ++ front) (some pipeline) :=
      executes.binding.append binding
    exact .intro isArgument front fits

/-- Whether or not records in a row are all executed, a root argument among their calls meets the
pipeline that is bound where it is set. -/
theorem meets_of_run {interpreter : Interpreter} {records : List (Nat × Command)}
    {front back : List Call} {call : Call}
    (made : (run resources interpreter records).calls = front ++ call :: back)
    (isArgument : call.isRootArgument = true) :
    Meets resources interpreter.pipeline call records front := by
  induction records generalizing interpreter front with
  | nil =>
    have none : [] = front ++ call :: back := made
    exact absurd none.symm (List.append_ne_nil_of_right_ne_nil front (List.cons_ne_nil call back))
  | cons record later inductionHypothesis =>
    obtain ⟨offset, command⟩ := record
    rw [run] at made
    split at made
    · rename_i failed
      have inCalls : call ∈ front ++ call :: back :=
        List.mem_append_right _ List.mem_cons_self
      obtain ⟨batch, rfl, _⟩ := calls_of_failed failed (made ▸ inCalls)
      cases isArgument
    · rename_i calls next executed
      have executes := executes_of_execute executed
      have behind : ∀ rest, front = calls ++ rest →
          (run resources next.countCommand later).calls = rest ++ call :: back →
          Meets resources interpreter.pipeline call ((offset, command) :: later) front := by
        rintro rest rfl inRest
        have counted : Meets resources next.countCommand.pipeline call later rest :=
          inductionHypothesis inRest
        have meets : Meets resources next.pipeline call later rest := counted
        exact meets.behind offset executes
      -- The call is one of this record, or behind all of its calls.
      obtain ⟨rest, isFront, inRest⟩ | ⟨rest, isCalls, isRest⟩ :=
        List.append_eq_append_iff.mp made
      · exact behind rest isFront inRest
      · cases rest with
        | nil =>
          refine behind [] ?_ isRest.symm
          rw [List.append_nil, isCalls, List.append_nil]
        | cons first rest =>
          obtain ⟨rfl, _⟩ := List.cons.inj isRest
          obtain ⟨rfl, isRecord, pipeline, bound, fits⟩ := executes.fits isCalls isArgument
          have unbound : Binding resources interpreter.pipeline
              (([] : List (Nat × Command)).map Prod.snd) [] (some pipeline) :=
            bound ▸ .kept rfl rfl
          have meets : Meets resources interpreter.pipeline call
              ([] ++ (offset, command) :: later) [] := .intro isRecord unbound fits
          exact meets

/-- Records in a row that are all executed are so up to each of them. -/
theorem Replays.upTo {interpreter final : Interpreter} {earlier later : List Command}
    {command : Command} {calls : List Call}
    (replays : interpreter.Replays resources (earlier ++ command :: later) calls final) :
    ∃ issued middle made next, interpreter.Replays resources earlier issued middle ∧
      middle.Executes resources command made next := by
  induction earlier generalizing interpreter calls with
  | nil =>
    cases replays with
    | cons first _ => exact ⟨[], _, _, _, .nil, first⟩
  | cons first earlier inductionHypothesis =>
    cases replays with
    | cons executes behind =>
      obtain ⟨_, _, _, _, before, here⟩ := inductionHypothesis behind
      exact ⟨_, _, _, _, .cons executes before, here⟩

/-- A record about a root argument that no record before it has bound a pipeline for ends the
replay, or one before it does. -/
theorem failure_of_unbound {interpreter : Interpreter} (unbound : interpreter.pipeline = none)
    {earlier later : List (Nat × Command)} {offset : Nat} {command : Command}
    (isArgument : command.tag.isRootArgument = true)
    (noPipeline : ∀ record ∈ earlier, record.2.pipeline? = none) :
    (run resources interpreter (earlier ++ (offset, command) :: later)).failure ≠ none := by
  intro completed
  have replays := replays_of_run completed
  rw [List.map_append, List.map_cons] at replays
  obtain ⟨issued, middle, made, next, before, executes⟩ := replays.upTo
  obtain ⟨pipeline, bound⟩ := executes.bound isArgument
  have binding := before.binding
  rw [unbound, bound] at binding
  cases binding with
  | last record =>
    have none : (earlier.map Prod.snd).filterMap Command.pipeline? = [] := by
      rw [List.filterMap_map]
      exact List.filterMap_eq_nil_iff.mpr noPipeline
    rw [none] at record
    cases record

end Interpreter

/-- A root argument of a replay, with the calls of the replay in front of it, matches the layout
of the bound pipeline. The last call in front that binds a pipeline is for the pipeline of the last
record that names one before its own; and that pipeline takes the argument. -/
def Call.MatchesLayout (call : Call) (resources : Resources) (records : List (Nat × Command))
    (front : List Call) : Prop :=
  ∃ earlier offset command later handle pipeline,
    records = earlier ++ (offset, command) :: later ∧ command.tag.isRootArgument = true ∧
      ((earlier.map Prod.snd).filterMap Command.pipeline?).getLast? = some handle ∧
      resources.pipelines.get handle = .ok pipeline ∧
      (front.filterMap Call.pipeline?).getLast? =
        some (pipeline.object, pipeline.description.bindPoint) ∧
      call.Fits resources pipeline

/-- With no pipeline bound at first, the pipeline that an argument meets was bound by a call. -/
theorem Interpreter.Meets.matchesLayout {resources : Resources} {call : Call}
    {records : List (Nat × Command)} {front : List Call}
    (meets : Meets resources none call records front) :
    call.MatchesLayout resources records front := by
  cases meets with
  | intro isArgument binding fits =>
    cases binding with
    | last record found last =>
      exact ⟨_, _, _, _, _, _, rfl, isArgument, record, found, last, fits⟩

/-- Root arguments always match the bound layout. In the calls that a replay of any buffer appends
to a list, whether or not it succeeds, each root argument matches the layout of the last pipeline
bound in front of it. Whatever pipeline earlier buffers have bound, and whatever pipeline the list
was opened with, a record about a root argument fails if no record of its own buffer before it
binds one. -/
theorem root_arguments_match_layout (interpreter : Interpreter) (resources : Resources)
    (list : CommandList) (buffer : CommandBuffer) :
    ∃ appended,
      (interpreter.record resources list buffer).2.2.calls = list.calls ++ appended ∧
        (∀ front call back, appended = front ++ call :: back → call.isRootArgument = true →
          call.MatchesLayout resources buffer.walk.records front) ∧
        ∀ earlier offset command later,
          buffer.walk.records = earlier ++ (offset, command) :: later →
            command.tag.isRootArgument = true →
              (∀ record ∈ earlier, record.2.pipeline? = none) →
                ∃ error, (interpreter.record resources list buffer).1 = .error error := by
  refine ⟨_, rfl, ?_, ?_⟩
  · intro front call back made isArgument
    cases front with
    | nil =>
      obtain ⟨rfl, _⟩ := List.cons.inj made
      cases isArgument
    | cons heaps front =>
      have behind := (List.cons.inj made).2
      cases (List.cons.inj made).1
      exact (Interpreter.meets_of_run behind isArgument).matchesLayout
  · intro earlier offset command later records isArgument noPipeline
    cases verdict : (interpreter.record resources list buffer).1 with
    | error error => exact ⟨error, rfl⟩
    | ok statistics =>
      have completed := (Interpreter.completed_of_verdict verdict).1
      rw [records] at completed
      exact absurd completed (Interpreter.failure_of_unbound rfl isArgument noPipeline)

/-- An interpreter has the sample pipeline bound from an earlier buffer, and the list was opened
with it. The constants of the sample calls match its layout as they bind it themselves; alone they
fail. -/
theorem root_arguments_match_layout_sample :
    let resources := Device.sample.resources
    let interpreter : Interpreter :=
      ⟨some ⟨3, .graphics, ⟨none, .graphics, [.constants 4]⟩⟩, none, false, .zero⟩
    let list : CommandList := ⟨7, .graphics, true, [.reset 6 (some 3)]⟩
    let alone := CommandBuffer.ofCalls [.setRootConstants 0 1 [8, 9]]
    (interpreter.record resources list (.ofCalls EncodeCall.sample)).2.2.calls =
        .reset 6 (some 3) :: .setDescriptorHeaps [1, 2] :: Call.sample ∧
      Call.MatchesLayout (.setRootConstants .graphics 0 1 [8, 9]) resources
        (CommandBuffer.ofCalls EncodeCall.sample).walk.records
        [.setDescriptorHeaps [1, 2], .setPipeline 3 .graphics] ∧
      alone.walk.records.map Prod.snd = [⟨.setRootConstants, (⟨0, 1, 2⟩, [8, 9])⟩] ∧
      ∃ error, (interpreter.record resources list alone).1 = .error error := by
  intro resources interpreter list alone
  have calls : (interpreter.record resources list (.ofCalls EncodeCall.sample)).2.2.calls =
      .reset 6 (some 3) :: .setDescriptorHeaps [1, 2] :: Call.sample := by decide +kernel
  have countable : ∀ call ∈ [EncodeCall.setRootConstants 0 1 [8, 9]], call.command.Countable := by
    simp [EncodeCall.command, Command.Countable, Command.arrayLengths]
  have commands : alone.walk.records.map Prod.snd =
      [⟨.setRootConstants, (⟨0, 1, 2⟩, [8, 9])⟩] := (CommandBuffer.walk_ofCalls countable).1
  refine ⟨calls, ?_, commands, ?_⟩
  · obtain ⟨appended, grown, matching, _⟩ :=
      root_arguments_match_layout interpreter resources list (.ofCalls EncodeCall.sample)
    have isAppended : appended = .setDescriptorHeaps [1, 2] :: Call.sample :=
      (List.cons.inj (calls.symm.trans grown)).2.symm
    exact matching _ _ _ isAppended rfl
  · obtain ⟨_, _, _, failing⟩ := root_arguments_match_layout interpreter resources list alone
    obtain ⟨⟨offset, command⟩, records, rfl⟩ := List.map_eq_singleton_iff.mp commands
    exact failing [] offset _ [] records rfl (List.forall_mem_nil _)

end CommandStream
