import CommandStream.Proofs.SubmissionLog
/-!
# Faithful replay

From the calls that fill a buffer to the calls that a queue executes: `submit_translatesAll` puts
together that the buffer holds the records of the encoding calls, that the walk finds them again,
that replay executes them one after another, and that a submission executes the list on which
they were replayed.
-/

namespace CommandStream

/-- The pipeline that a list is opened with is the one that the buffer binds first. -/
theorem Queue.Recording.names_of_initialPipeline {resources : Resources} {buffer : CommandBuffer}
    {initial : Option ObjectId} (isInitial : initialPipeline resources buffer = .ok initial) :
    Option.Rel (fun handle object => resources.Names handle object .pipeline)
      buffer.firstPipeline initial := by
  unfold initialPipeline at isInitial
  split at isInitial
  · rename_i noPipeline
    cases isInitial
    rw [noPipeline]
    exact .none
  · rename_i handle isFirst
    split at isInitial
    · cases isInitial
    · rename_i pipeline found
      cases isInitial
      rw [isFirst]
      exact .some ⟨pipeline, found, rfl⟩

/-- Encoding calls reach the device as what they stand for. A submission of a buffer that holds
any of them, if it succeeds, waits for its dependencies, executes one list and signals its value.
The list is opened on the allocator of the submission with the pipeline that is bound first, sets
both heaps, and then makes the native calls that the encoding calls stand for, in their order and
no others. Arrays of 2 ^ 32 elements and more, which no record can announce, are the exception:
`submit_not_translatesAll` executes their elements as records. -/
theorem submit_translatesAll {queue after : Queue} {device final : Device}
    {calls : List EncodeCall} {dependencies : List Token} {token : Token}
    (encoded : calls ≠ []) (countable : ∀ call ∈ calls, call.command.Countable)
    (submitted : queue.submit device [CommandBuffer.ofCalls calls] dependencies =
      (.ok token, after, final)) :
    ∃ (allocator : CommandAllocator) (hint : Option ObjectId) (issued : List Call),
      final.native.log = device.native.log ++
          (queue.waits device.native dependencies).map Token.waiting ++
          [.execute [.reset allocator.id hint ::
            .setDescriptorHeaps
              [(device.resources.heap .cbvSrvUav).object,
                (device.resources.heap .sampler).object] :: issued],
            .signal queue.fence (queue.lastSubmitted + 1)] ∧
        EncodeCall.TranslatesAll device.resources none calls issued ∧
        (∀ others, EncodeCall.TranslatesAll device.resources none calls others →
          others = issued) ∧
        Option.Rel (fun handle object => device.resources.Names handle object .pipeline)
          (calls.findSome? EncodeCall.pipeline?) hint ∧
        after.allocators.getLast? = some ⟨queue.lastSubmitted + 1, allocator⟩ ∧
        token = ⟨queue.fence, queue.lastSubmitted + 1⟩ := by
  have isWork : Queue.work [CommandBuffer.ofCalls calls] = [CommandBuffer.ofCalls calls] := by
    simp [Queue.work, CommandBuffer.isEmpty_ofCalls encoded]
  cases Queue.submits_of_submit submitted with
  | idle noWork =>
    rw [isWork] at noWork
    cases noWork
  | works usable pending works =>
    rw [isWork] at works
    cases works with
    | waited present noWork signals => cases noWork
    | @delivered allocator _ _ _ _ _ present someWork delivers signals =>
      cases delivers with
      | @executed _ acquired state lists created recorded acquires records =>
        obtain _ | ⟨record, none⟩ := records
        cases none
        obtain ⟨isInitial, verdict⟩ := record
        have translated := EncodeCall.translatesAll_of_verdict countable verdict
        have named := Queue.Recording.names_of_initialPipeline isInitial
        rw [CommandBuffer.firstPipeline_ofCalls] at named
        have sameFence : (acquired.withLists lists).fence = queue.fence := acquires.fence_eq
        have sameLast : (acquired.withLists lists).lastSubmitted = queue.lastSubmitted :=
          acquires.lastSubmitted_eq
        cases signals with
        | signaled unarmed =>
          refine ⟨allocator, _, _, ?_, translated, fun others => (·.unique translated), named,
            ?_, ?_⟩
          · rw [sameFence, sameLast]
            show state.log ++ [_] ++ [_] = _
            rw [acquires.log_eq, List.append_assoc]
            rfl
          · have pooled : ((acquired.withLists lists).advanced (some allocator)).allocators =
                acquired.allocators ++
                  [⟨(acquired.withLists lists).lastSubmitted + 1, allocator⟩] := rfl
            rw [pooled, List.getLast?_concat, sameLast]
          · rw [sameFence, sameLast]

/-- A working device with one pipeline, which takes four root constants. -/
def Device.sample : Device where
  native := { NativeDevice.fresh with nextId := 6, fences := [⟨5, 0, 0⟩] }
  description := ⟨1, 4, 4⟩
  resources := {
    buffers := .empty 1 Nat.one_pos
    textures := .empty 1 Nat.one_pos
    samplers := .empty 1 Nat.one_pos
    pipelines :=
      ⟨[⟨0, some ⟨3, .graphics, ⟨none, .graphics, [.constants 4]⟩⟩⟩], [], 1, 1, by decide⟩
    cbvSrvUavHeap := .ofObject 1 ⟨.cbvSrvUav, 4, [⟨0, 4⟩]⟩
    samplerHeap := .ofObject 2 ⟨.sampler, 4, [⟨0, 4⟩]⟩ }

/-- A queue of the sample device that nothing was submitted to. -/
def Queue.sample : Queue := ⟨.graphics, ⟨4, .graphics⟩, 5, 0, [], [], false⟩

/-- Encoding calls with a reversed span and a barrier on every resource. -/
def EncodeCall.sample : List EncodeCall :=
  [.setPipeline ⟨0, 0⟩, .setRootConstants 0 1 [8, 9], .draw ⟨7, 3⟩ ⟨0, 2⟩,
    .resourceBarriers [] [.global]]

/-- The native calls that the sample calls stand for on the sample device. -/
def Call.sample : List Call :=
  [.setPipeline 3 .graphics, .setRootConstants .graphics 0 1 [8, 9], .draw ⟨7, 7⟩ ⟨0, 2⟩,
    .resourceBarriers [.unorderedAccess none]]

/-- The sample calls are executed behind the two calls that open the list. -/
theorem submit_translatesAll_sample :
    EncodeCall.sample ≠ [] ∧
      (∀ call ∈ EncodeCall.sample, call.command.Countable) ∧
      (Queue.sample.submit .sample [CommandBuffer.ofCalls EncodeCall.sample] []).1 =
        .ok ⟨5, 1⟩ ∧
      (Queue.sample.submit .sample
          [CommandBuffer.ofCalls EncodeCall.sample] []).2.2.native.log =
        [.execute [.reset 6 (some 3) :: .setDescriptorHeaps [1, 2] :: Call.sample],
          .signal 5 1] ∧
      EncodeCall.TranslatesAll Device.sample.resources none EncodeCall.sample Call.sample := by
  have encoded : EncodeCall.sample ≠ [] := by decide
  have countable : ∀ call ∈ EncodeCall.sample, call.command.Countable := by
    simp [EncodeCall.sample, EncodeCall.command, Command.Countable, Command.arrayLengths]
  have succeeds : (Queue.sample.submit .sample
      [CommandBuffer.ofCalls EncodeCall.sample] []).1 = .ok ⟨5, 1⟩ := by decide +kernel
  have logged : (Queue.sample.submit .sample
      [CommandBuffer.ofCalls EncodeCall.sample] []).2.2.native.log =
      [.execute [.reset 6 (some 3) :: .setDescriptorHeaps [1, 2] :: Call.sample],
        .signal 5 1] := by decide +kernel
  refine ⟨encoded, countable, succeeds, logged, ?_⟩
  obtain ⟨allocator, hint, issued, log, translated, _⟩ :=
    submit_translatesAll encoded countable (Prod.ext succeeds rfl)
  obtain ⟨executed, -⟩ := List.cons.inj (logged.symm.trans log)
  obtain ⟨list, -⟩ := List.cons.inj (QueueEvent.execute.inj executed)
  rw [(List.cons.inj (List.cons.inj list).2).2]
  exact translated

/-- On a queue that nothing stands in the way of, barriers whose number wraps around are executed as
records that bind a pipeline, if it is there, on a list that was opened without one. -/
theorem Queue.Stocked.executes_disguised {queue : Queue} (stocked : queue.Stocked)
    (usable : queue.lost = false) (accepted : queue.native.type = queue.type) {device : Device}
    (present : device.native.lost = false) (unarmed : device.native.failNextSignal = false)
    {pipeline : Pipeline} (found : device.resources.pipelines.get ⟨0, 0⟩ = .ok pipeline)
    {count : Nat} (wraps : UInt32.ofNat count = 0) :
    ∃ allocator, queue.Ends device [CommandBuffer.ofCalls [.disguised count]] []
      (.ok ⟨queue.fence, queue.lastSubmitted + 1⟩)
      [.execute [.reset allocator none ::
        .setDescriptorHeaps (device.resources.heaps.map DescriptorHeap.object) ::
          List.replicate count
            (.setPipeline pipeline.object pipeline.description.bindPoint)],
        .signal queue.fence (queue.lastSubmitted + 1)]
      (queue.lastSubmitted + 1) := by
  have isWork : work [CommandBuffer.ofCalls [.disguised count]] =
      [CommandBuffer.ofCalls [.disguised count]] := by
    simp [work, CommandBuffer.isEmpty_ofCalls]
  have noPipeline : (CommandBuffer.ofCalls [.disguised count]).firstPipeline = none := by
    rw [CommandBuffer.firstPipeline_ofCalls]
    rfl
  have isInitial : Recording.initialPipeline device.resources
      (CommandBuffer.ofCalls [.disguised count]) = .ok none := by
    rw [Recording.initialPipeline, noPipeline]
  obtain ⟨replayed, statistics, verdict⟩ := CommandBuffer.replay_disguised found wraps
  have someWork : work [CommandBuffer.ofCalls [.disguised count]] ≠ [] := by
    rw [isWork]
    exact List.cons_ne_nil _ _
  have executable : queue.Executable device.resources
      (work [CommandBuffer.ofCalls [.disguised count]]) := by
    rw [isWork]
    exact ⟨List.forall_mem_singleton.mpr ⟨⟨none, isInitial⟩, statistics, verdict⟩,
      .inr accepted⟩
  obtain ⟨allocator, lists, records, ends⟩ :=
    (stocked.allOrNothing device [CommandBuffer.ofCalls [.disguised count]] []).signaled
      ⟨usable, present, .inl someWork⟩ executable unarmed
  rw [isWork] at records
  obtain _ | ⟨record, none⟩ := records
  cases none
  obtain ⟨sameInitial, _⟩ := record
  cases sameInitial.symm.trans isInitial
  rw [replayed] at ends
  exact ⟨allocator, ends⟩

/-- What is executed for any number of barriers that wraps around, on the sample queue. -/
theorem submit_disguised {count : Nat} (wraps : UInt32.ofNat count = 0) (some : count ≠ 0) :
    let calls : List EncodeCall := [.disguised count]
    let issued : List Call := List.replicate count (.setPipeline 3 .graphics)
    let result := Queue.sample.submit .sample [CommandBuffer.ofCalls calls] []
    Queue.sample.lost = false ∧ calls ≠ [] ∧ result.1 = .ok ⟨5, 1⟩ ∧
      (∃ allocator, result.2.2.native.log =
        [.execute [.reset allocator none :: .setDescriptorHeaps [1, 2] :: issued],
          .signal 5 1]) ∧
      ¬EncodeCall.TranslatesAll Device.sample.resources none calls issued := by
  intro calls issued result
  have stocked : Queue.sample.Stocked := ⟨nofun, nofun⟩
  have found : Device.sample.resources.pipelines.get ⟨0, 0⟩ =
      .ok ⟨3, .graphics, ⟨none, .graphics, [.constants 4]⟩⟩ := rfl
  obtain ⟨allocator, ends⟩ := stocked.executes_disguised rfl rfl rfl rfl found wraps
  refine ⟨rfl, List.cons_ne_nil _ _, ends.answer, ⟨allocator, ends.log⟩, ?_⟩
  have binds : .setPipeline 3 .graphics ∈ issued := List.mem_replicate.mpr ⟨some, rfl⟩
  exact EncodeCall.not_translatesAll_disguised binds

/-- The bound on arrays is needed. A call of 2 ^ 32 barriers on one buffer is submitted, and
succeeds, and none of the native calls is a barrier: all of them bind a pipeline. -/
theorem submit_not_translatesAll :
    let calls : List EncodeCall := [.disguised 4294967296]
    let issued : List Call := List.replicate 4294967296 (.setPipeline 3 .graphics)
    let result := Queue.sample.submit .sample [CommandBuffer.ofCalls calls] []
    Queue.sample.lost = false ∧ calls ≠ [] ∧ result.1 = .ok ⟨5, 1⟩ ∧
      (∃ allocator, result.2.2.native.log =
        [.execute [.reset allocator none :: .setDescriptorHeaps [1, 2] :: issued],
          .signal 5 1]) ∧
      ¬EncodeCall.TranslatesAll Device.sample.resources none calls issued :=
  -- The number is not looked into: it is only known to wrap around.
  submit_disguised (by decide) (by decide)

end CommandStream
