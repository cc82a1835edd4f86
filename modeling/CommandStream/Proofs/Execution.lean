import CommandStream.Proofs.Barriers
/-!
# What executing a record does

`Executes` lists, one rule for each kind of record, what a record that is executed has looked up,
which calls it makes and what the interpreter is afterwards. `executes_of_execute` is the only
place where the interpreter is opened for that; a property of all calls is a case analysis of the
rules, and `Replays` carries it along the records of a buffer. Of a record that fails only batches
of barriers are left, which `calls_of_failed` says.
-/

namespace CommandStream

namespace Interpreter

/-- What the root layout of the bound pipeline has at a slot. -/
structure Accepts (interpreter : Interpreter) (slot : UInt32) (pipeline : Pipeline)
    (parameter : RootParameter) : Prop where
  bound : interpreter.pipeline = some pipeline
  atSlot : pipeline.description.rootLayout[slot.toNat]? = some parameter

theorem rootParameter_eq_ok {interpreter : Interpreter} {slot : UInt32} {command : CommandTag}
    {found : Pipeline × RootParameter} :
    interpreter.rootParameter slot command = .ok found ↔
      interpreter.Accepts slot found.1 found.2 := by
  unfold rootParameter
  constructor
  · intro looked
    split at looked
    · cases looked
    · rename_i pipeline bound
      split at looked
      · cases looked
      · rename_i parameter atSlot
        cases looked
        exact ⟨bound, atSlot⟩
  · rintro ⟨bound, atSlot⟩
    rw [bound]
    simp only [atSlot]

/-- The records that are executed, with what they look up, the calls that they make, and the
interpreter after them. -/
inductive Executes (resources : Resources) (interpreter : Interpreter) :
    Command → List Call → Interpreter → Prop
  | setPipeline {handle : Handle} {pipeline : Pipeline}
      (found : resources.pipelines.get handle = .ok pipeline) :
      Executes resources interpreter ⟨.setPipeline, handle⟩
        [.setPipeline pipeline.object pipeline.description.bindPoint]
        { interpreter with pipeline := some pipeline }
  | setTopology {word : UInt32} {topology : PrimitiveTopology}
      (known : WireEnumeration.code topology = word) :
      Executes resources interpreter ⟨.setTopology, word⟩ [.setPrimitiveTopology topology]
        { interpreter with topology := some topology }
  | setViewports {run : SlotRun} {viewports : List Viewport} :
      Executes resources interpreter ⟨.setViewports, (run, viewports)⟩
        [.setViewports run.first viewports] interpreter
  | setScissors {run : SlotRun} {rectangles : List Rectangle} :
      Executes resources interpreter ⟨.setScissors, (run, rectangles)⟩
        [.setScissors run.first rectangles] interpreter
  | setVertexBuffers {run : SlotRun} {views : List VertexBufferView}
      {bindings : List (ObjectId × UInt64)}
      (fits : run.first.toNat + views.length ≤ BindingKind.vertexBuffers.limit)
      (found : List.Forall₂ (fun view binding =>
        resources.Names view.buffer binding.1 .buffer ∧ binding.2 = view.offset) views bindings) :
      Executes resources interpreter ⟨.setVertexBuffers, (run, views)⟩
        [.setVertexBuffers run.first bindings] interpreter
  | setIndexBuffer {view : IndexBufferView} {format : IndexFormat} {buffer : ObjectId}
      (known : WireEnumeration.code format = view.format)
      (names : resources.Names view.buffer buffer .buffer) :
      Executes resources interpreter ⟨.setIndexBuffer, view⟩
        [.setIndexBuffer buffer view.offset view.size format] interpreter
  | setRootConstants {run : RootConstantRun} {values : List UInt32} {pipeline : Pipeline}
      {count : Nat} (accepts : interpreter.Accepts run.slot pipeline (.constants count))
      (fits : run.first.toNat + values.length ≤ count) :
      Executes resources interpreter ⟨.setRootConstants, (run, values)⟩
        [.setRootConstants pipeline.description.bindPoint run.slot run.first values] interpreter
  | setRootBuffer {binding : RootBufferBinding} {pipeline : Pipeline}
      {kind : RootDescriptorKind} {buffer : ObjectId}
      (accepts : interpreter.Accepts binding.slot pipeline (.descriptor kind))
      (names : resources.Names binding.buffer buffer .buffer) :
      Executes resources interpreter ⟨.setRootBuffer, binding⟩
        [.setRootDescriptor pipeline.description.bindPoint binding.slot kind buffer
          binding.offset] interpreter
  | setDescriptorTable {binding : TableBinding} {pipeline : Pipeline} {heapType : HeapType}
      (named : binding.range.heapType? = some heapType)
      (accepts : interpreter.Accepts binding.slot pipeline (.table heapType))
      (fits : binding.range.stop ≤ (resources.heap heapType).allocator.capacity) :
      Executes resources interpreter ⟨.setDescriptorTable, binding⟩
        [.setRootDescriptorTable pipeline.description.bindPoint binding.slot
          ((resources.heap heapType).start.advance binding.range.offset).pointer] interpreter
  | beginRenderPass {header : RenderPassHeader} {attachments : List ColorAttachment}
      {colors : List ObjectId} {depth : Option ObjectId}
      (closed : interpreter.insideRenderPass = false)
      (fits : attachments.length ≤ BindingKind.colorAttachments.limit)
      (namesColors : List.Forall₂ (fun attachment color =>
        resources.Names attachment.texture color .texture) attachments colors)
      (namesDepth : resources.NamesUnlessNull (some .texture) header.depth depth) :
      Executes resources interpreter ⟨.beginRenderPass, (header, attachments)⟩
        [.beginRenderPass colors depth] { interpreter with insideRenderPass := true }
  | endRenderPass (opened : interpreter.insideRenderPass = true) :
      Executes resources interpreter ⟨.endRenderPass, ()⟩ [.endRenderPass]
        { interpreter with insideRenderPass := false }
  | draw {arguments : DrawArguments} {vertices instances : Span}
      (isVertices : Span.ofCount? arguments.firstVertex arguments.vertexCount = some vertices)
      (isInstances :
        Span.ofCount? arguments.firstInstance arguments.instanceCount = some instances) :
      Executes resources interpreter ⟨.draw, arguments⟩ [.draw vertices instances]
        interpreter.countDraw
  | drawIndexed {arguments : IndexedDrawArguments} {indices instances : Span}
      (isIndices : Span.ofCount? arguments.firstIndex arguments.indexCount = some indices)
      (isInstances :
        Span.ofCount? arguments.firstInstance arguments.instanceCount = some instances) :
      Executes resources interpreter ⟨.drawIndexed, arguments⟩
        [.drawIndexed indices arguments.baseVertex instances] interpreter.countDraw
  | dispatch {groups : GroupCount} :
      Executes resources interpreter ⟨.dispatch, groups⟩ [.dispatch groups]
        interpreter.countDispatch
  | copyBuffer {copy : BufferCopy} {source destination : ObjectId}
      (namesSource : resources.Names copy.source source .buffer)
      (namesDestination : resources.Names copy.destination destination .buffer) :
      Executes resources interpreter ⟨.copyBuffer, copy⟩
        [.copyBuffer source copy.sourceOffset destination copy.destinationOffset copy.size]
        interpreter
  | resourceBarriers {counts : BarrierCounts} {transitions : List TransitionBarrier}
      {unorderedAccess : List UnorderedAccessBarrier} {changes orders : List BarrierCall}
      {batches : List (List BarrierCall)}
      (isChanges : List.Forall₂ resources.Transitions transitions changes)
      (isOrders : List.Forall₂ resources.OrdersAccess unorderedAccess orders)
      (divides : BarrierBatches.Divides (changes ++ orders) batches) :
      Executes resources interpreter
        ⟨.resourceBarriers, ((counts, transitions), unorderedAccess)⟩
        (batches.map .resourceBarriers) (interpreter.countBarrierCalls batches.length)
  | aliasingBarriers {count : UInt32} {barriers : List AliasingBarrier}
      {switches : List BarrierCall} {batches : List (List BarrierCall)}
      (isSwitches : List.Forall₂ resources.Aliases barriers switches)
      (divides : BarrierBatches.Divides switches batches) :
      Executes resources interpreter ⟨.aliasingBarriers, (count, barriers)⟩
        (batches.map .resourceBarriers) (interpreter.countBarrierCalls batches.length)

/-! ## Opening the interpreter -/

theorem single_eq_ok {attempt : Except ReplayError (Call × Interpreter)} {calls : List Call}
    {next : Interpreter} :
    Step.single attempt = ⟨calls, .ok next⟩ ↔
      ∃ call, attempt = .ok (call, next) ∧ calls = [call] := by
  constructor
  · intro made
    cases attempt with
    | error error => cases made
    | ok found =>
      cases made
      exact ⟨_, rfl, rfl⟩
  · rintro ⟨call, rfl, rfl⟩
    rfl

theorem resolveRange_eq_ok {resources : Resources} {range : DescriptorRange}
    {heapType : HeapType} {base : DescriptorAddress}
    (named : range.heapType? = some heapType) :
    resources.resolveRange range = .ok base ↔
      range.stop ≤ (resources.heap heapType).allocator.capacity ∧
        base = (resources.heap heapType).start.advance range.offset := by
  simp only [Resources.resolveRange, Resources.rangeHeap, named, DescriptorHeap.resolve,
    DescriptorHeap.check, bind_eq_ok, pure_eq_ok]
  constructor
  · rintro ⟨_, ⟨⟩, _, checked, rfl⟩
    split at checked
    · cases checked
    · rename_i fits
      exact ⟨Nat.le_of_not_lt fits, rfl⟩
  · rintro ⟨fits, rfl⟩
    exact ⟨_, rfl, (), if_neg (Nat.not_lt_of_le fits), rfl⟩

/-- A record that is executed follows the rule of its kind. -/
theorem executes_of_execute {resources : Resources} {interpreter next : Interpreter}
    {offset : Nat} {command : Command} {calls : List Call}
    (executed : execute resources interpreter offset command = ⟨calls, .ok next⟩) :
    Executes resources interpreter command calls next := by
  obtain ⟨tag, arguments⟩ := command
  cases tag with
  | setPipeline =>
    simp only [execute, single_eq_ok, bind_eq_ok, mapError_eq_ok, pure_eq_ok] at executed
    obtain ⟨_, ⟨pipeline, found, ⟨⟩⟩, rfl⟩ := executed
    exact .setPipeline found
  | setTopology =>
    simp only [execute, single_eq_ok, bind_eq_ok, Resources.admitted_eq_ok, pure_eq_ok] at executed
    obtain ⟨_, ⟨topology, found, ⟨⟩⟩, rfl⟩ := executed
    exact .setTopology (WireEnumeration.ofCode?_eq_some_iff.mp found)
  | setViewports =>
    obtain ⟨run, viewports⟩ := arguments
    cases executed
    exact .setViewports
  | setScissors =>
    obtain ⟨run, rectangles⟩ := arguments
    cases executed
    exact .setScissors
  | setVertexBuffers =>
    obtain ⟨run, views⟩ := arguments
    simp only [execute] at executed
    split at executed
    · obtain ⟨_, ⟨⟩, _⟩ := single_eq_ok.mp executed
    · rename_i fits
      simp only [single_eq_ok, bind_eq_ok, mapM_eq_ok_iff, Resources.vertexBinding_eq_ok,
        pure_eq_ok] at executed
      obtain ⟨_, ⟨bindings, found, ⟨⟩⟩, rfl⟩ := executed
      exact .setVertexBuffers (Nat.le_of_not_lt fits) found
  | setIndexBuffer =>
    simp only [execute, single_eq_ok, bind_eq_ok, Resources.admitted_eq_ok,
      Resources.bufferObject_eq_ok, pure_eq_ok] at executed
    obtain ⟨_, ⟨format, found, buffer, names, ⟨⟩⟩, rfl⟩ := executed
    exact .setIndexBuffer (WireEnumeration.ofCode?_eq_some_iff.mp found) names
  | setRootConstants =>
    obtain ⟨run, values⟩ := arguments
    simp only [execute, single_eq_ok, bind_eq_ok, rootParameter_eq_ok] at executed
    obtain ⟨_, ⟨⟨pipeline, parameter⟩, accepts, made⟩, rfl⟩ := executed
    cases parameter with
    | constants count =>
      dsimp only at made
      split at made
      · rename_i fits
        cases made
        exact .setRootConstants accepts fits
      · cases made
    | descriptor kind => cases made
    | table heapType => cases made
  | setRootBuffer =>
    simp only [execute, single_eq_ok, bind_eq_ok, rootParameter_eq_ok] at executed
    obtain ⟨_, ⟨⟨pipeline, parameter⟩, accepts, made⟩, rfl⟩ := executed
    cases parameter with
    | descriptor kind =>
      simp only [bind_eq_ok, Resources.bufferObject_eq_ok, pure_eq_ok] at made
      obtain ⟨buffer, names, ⟨⟩⟩ := made
      exact .setRootBuffer accepts names
    | constants count => cases made
    | table heapType => cases made
  | setDescriptorTable =>
    simp only [execute, single_eq_ok, bind_eq_ok, rootParameter_eq_ok] at executed
    obtain ⟨_, ⟨⟨pipeline, parameter⟩, accepts, made⟩, rfl⟩ := executed
    split at made
    · cases made
    · rename_i heapType named
      split at made
      · rename_i isTable
        cases isTable
        simp only [bind_eq_ok, mapError_eq_ok, resolveRange_eq_ok named, pure_eq_ok] at made
        obtain ⟨_, ⟨fits, rfl⟩, ⟨⟩⟩ := made
        exact .setDescriptorTable named accepts fits
      · cases made
  | beginRenderPass =>
    obtain ⟨header, attachments⟩ := arguments
    simp only [execute] at executed
    split at executed
    · obtain ⟨_, ⟨⟩, _⟩ := single_eq_ok.mp executed
    · rename_i closed
      split at executed
      · obtain ⟨_, ⟨⟩, _⟩ := single_eq_ok.mp executed
      · rename_i fits
        simp only [single_eq_ok, bind_eq_ok, mapM_eq_ok_iff, pure_eq_ok] at executed
        obtain ⟨_, ⟨colors, foundColors, depth, foundDepth, ⟨⟩⟩, rfl⟩ := executed
        exact .beginRenderPass (Bool.eq_false_iff.mpr closed) (Nat.le_of_not_lt fits)
          (foundColors.imp fun _ _ => Resources.namesTexture_of_colorObject)
          (Resources.namesUnlessNull_of_depthObject foundDepth)
  | endRenderPass =>
    simp only [execute] at executed
    split at executed
    · rename_i opened
      obtain ⟨_, ⟨⟩, rfl⟩ := single_eq_ok.mp executed
      exact .endRenderPass opened
    · obtain ⟨_, ⟨⟩, _⟩ := single_eq_ok.mp executed
  | draw =>
    simp only [execute, single_eq_ok, bind_eq_ok, Resources.admitted_eq_ok, pure_eq_ok] at executed
    obtain ⟨_, ⟨vertices, isVertices, instances, isInstances, ⟨⟩⟩, rfl⟩ := executed
    exact .draw isVertices isInstances
  | drawIndexed =>
    simp only [execute, single_eq_ok, bind_eq_ok, Resources.admitted_eq_ok, pure_eq_ok] at executed
    obtain ⟨_, ⟨indices, isIndices, instances, isInstances, ⟨⟩⟩, rfl⟩ := executed
    exact .drawIndexed isIndices isInstances
  | dispatch =>
    cases executed
    exact .dispatch
  | copyBuffer =>
    simp only [execute, single_eq_ok, bind_eq_ok, Resources.bufferObject_eq_ok, pure_eq_ok]
      at executed
    obtain ⟨_, ⟨source, namesSource, destination, namesDestination, ⟨⟩⟩, rfl⟩ := executed
    exact .copyBuffer namesSource namesDestination
  | resourceBarriers =>
    obtain ⟨⟨counts, transitions⟩, unorderedAccess⟩ := arguments
    obtain ⟨resolved, batches, all, divides, rfl, rfl⟩ := Step.resolved_of_barriers executed
    obtain ⟨changes, orders, rfl, isChanges, isOrders⟩ := List.map_eq_append_iff.mp all.symm
    have eachChange := map_eq_map_ok_iff.mp isChanges.symm
    have eachOrder := map_eq_map_ok_iff.mp isOrders.symm
    exact .resourceBarriers
      (eachChange.imp fun _ _ => Resources.transitionCall_eq_ok.mp)
      (eachOrder.imp fun _ _ => Resources.unorderedAccessCall_eq_ok.mp) divides
  | aliasingBarriers =>
    obtain ⟨count, barriers⟩ := arguments
    obtain ⟨resolved, batches, all, divides, rfl, rfl⟩ := Step.resolved_of_barriers executed
    have eachSwitch := map_eq_map_ok_iff.mp all
    exact .aliasingBarriers (eachSwitch.imp fun _ _ => Resources.aliasingCall_eq_ok.mp) divides

/-! ## Barriers of a record -/

/-- The barriers that the barriers of a record become. -/
inductive Yields (resources : Resources) : Command → BarrierCall → Prop
  | transition {counts : BarrierCounts} {transitions : List TransitionBarrier}
      {unorderedAccess : List UnorderedAccessBarrier} {barrier : TransitionBarrier}
      {call : BarrierCall} (member : barrier ∈ transitions)
      (becomes : resources.Transitions barrier call) :
      Yields resources ⟨.resourceBarriers, ((counts, transitions), unorderedAccess)⟩ call
  | order {counts : BarrierCounts} {transitions : List TransitionBarrier}
      {unorderedAccess : List UnorderedAccessBarrier} {barrier : UnorderedAccessBarrier}
      {call : BarrierCall} (member : barrier ∈ unorderedAccess)
      (becomes : resources.OrdersAccess barrier call) :
      Yields resources ⟨.resourceBarriers, ((counts, transitions), unorderedAccess)⟩ call
  | switch {count : UInt32} {barriers : List AliasingBarrier} {barrier : AliasingBarrier}
      {call : BarrierCall} (member : barrier ∈ barriers)
      (becomes : resources.Aliases barrier call) :
      Yields resources ⟨.aliasingBarriers, (count, barriers)⟩ call

theorem Yields.resolves {resources : Resources} {command : Command} {call : BarrierCall}
    (yields : Yields resources command call) : resources.Resolves call := by
  cases yields with
  | transition _ becomes => exact .transition becomes
  | order _ becomes => exact .order becomes
  | switch _ becomes => exact .switch becomes

/-- A barrier call of a record that is executed takes some of the barriers that the record becomes,
at least one and no more than a call may take. -/
theorem Executes.batch {resources : Resources} {interpreter next : Interpreter} {command : Command}
    {calls : List Call} (executes : Executes resources interpreter command calls next)
    {batch : List BarrierCall} (member : .resourceBarriers batch ∈ calls) :
    batch ≠ [] ∧ batch.length ≤ BarrierBatches.batchLimit ∧
      ∀ barrier ∈ batch, Yields resources command barrier := by
  cases executes with
  | resourceBarriers isChanges isOrders divides =>
    obtain ⟨_, inBatches, ⟨⟩⟩ := List.mem_map.mp member
    refine ⟨divides.notEmpty batch inBatches, divides.bounded batch inBatches,
      fun barrier inBatch => ?_⟩
    have inAll := List.mem_flatten_of_mem inBatches inBatch
    rw [divides.complete] at inAll
    rcases List.mem_append.mp inAll with isChange | isOrder
    · obtain ⟨_, inRecord, becomes⟩ := exists_of_mem_forall₂ isChanges.flip isChange
      exact .transition inRecord becomes
    · obtain ⟨_, inRecord, becomes⟩ := exists_of_mem_forall₂ isOrders.flip isOrder
      exact .order inRecord becomes
  | aliasingBarriers isSwitches divides =>
    obtain ⟨_, inBatches, ⟨⟩⟩ := List.mem_map.mp member
    refine ⟨divides.notEmpty batch inBatches, divides.bounded batch inBatches,
      fun barrier inBatch => ?_⟩
    have inAll := List.mem_flatten_of_mem inBatches inBatch
    rw [divides.complete] at inAll
    obtain ⟨_, inRecord, becomes⟩ := exists_of_mem_forall₂ isSwitches.flip inAll
    exact .switch inRecord becomes
  | _ => cases List.mem_singleton.mp member

/-! ## Records that fail -/

/-- What is never found in a barrier call is not found in batches of them. -/
theorem filterMap_batches {found : Type} {select : Call → Option found}
    (blind : ∀ batch, select (.resourceBarriers batch) = none) (batches : List (List BarrierCall)) :
    (batches.map Call.resourceBarriers).filterMap select = [] := by
  rw [List.filterMap_map]
  exact List.filterMap_eq_nil_iff.mpr fun batch _ => blind batch

/-- Records other than those of barriers make one call or none. -/
theorem execute_eq_single (resources : Resources) (interpreter : Interpreter) (offset : Nat)
    {tag : CommandTag} (arguments : tag.Arguments) (notBarriers : tag ≠ .resourceBarriers)
    (notAliasing : tag ≠ .aliasingBarriers) :
    ∃ attempt, execute resources interpreter offset ⟨tag, arguments⟩ = .single attempt := by
  cases tag with
  | setVertexBuffers =>
    simp only [execute]
    split <;> exact ⟨_, rfl⟩
  | beginRenderPass =>
    simp only [execute]
    split
    · exact ⟨_, rfl⟩
    · split <;> exact ⟨_, rfl⟩
  | endRenderPass =>
    simp only [execute]
    split <;> exact ⟨_, rfl⟩
  | setViewports => exact ⟨.ok (.setViewports arguments.1.first arguments.2, interpreter), rfl⟩
  | setScissors => exact ⟨.ok (.setScissors arguments.1.first arguments.2, interpreter), rfl⟩
  | dispatch => exact ⟨.ok (.dispatch arguments, interpreter.countDispatch), rfl⟩
  | resourceBarriers => exact absurd rfl notBarriers
  | aliasingBarriers => exact absurd rfl notAliasing
  | _ => exact ⟨_, rfl⟩

/-- A record makes one call or none, or it hands over barriers that its own become. -/
theorem single_or_barriers (resources : Resources) (interpreter : Interpreter) (offset : Nat)
    (command : Command) :
    (∃ attempt, execute resources interpreter offset command = .single attempt) ∨
      ∃ attempts, execute resources interpreter offset command =
          .barriers interpreter attempts ∧
        ∀ barrier, .ok barrier ∈ attempts → Yields resources command barrier := by
  obtain ⟨tag, arguments⟩ := command
  by_cases isBarriers : tag = .resourceBarriers
  · subst isBarriers
    obtain ⟨⟨counts, transitions⟩, unorderedAccess⟩ := arguments
    refine .inr ⟨_, rfl, fun barrier member => ?_⟩
    rcases List.mem_append.mp member with changed | ordered
    · obtain ⟨transition, inRecord, found⟩ := List.mem_map.mp changed
      exact .transition inRecord (Resources.transitionCall_eq_ok.mp found)
    · obtain ⟨order, inRecord, found⟩ := List.mem_map.mp ordered
      exact .order inRecord (Resources.unorderedAccessCall_eq_ok.mp found)
  by_cases isAliasing : tag = .aliasingBarriers
  · subst isAliasing
    obtain ⟨count, barriers⟩ := arguments
    refine .inr ⟨_, rfl, fun barrier member => ?_⟩
    obtain ⟨switch, inRecord, found⟩ := List.mem_map.mp member
    exact .switch inRecord (Resources.aliasingCall_eq_ok.mp found)
  exact .inl (execute_eq_single resources interpreter offset arguments isBarriers isAliasing)

/-- A record that fails leaves nothing but full batches of barriers that were resolved before a
later one was not. -/
theorem batch_of_failed {resources : Resources} {interpreter : Interpreter} {offset : Nat}
    {command : Command} {calls : List Call} {error : ReplayError}
    (failed : execute resources interpreter offset command = ⟨calls, .error error⟩) {call : Call}
    (member : call ∈ calls) :
    ∃ batch, call = .resourceBarriers batch ∧ batch.length = BarrierBatches.batchLimit ∧
      ∀ barrier ∈ batch, Yields resources command barrier := by
  obtain ⟨attempt, made⟩ | ⟨attempts, made, yields⟩ :=
    single_or_barriers resources interpreter offset command
  · rw [made] at failed
    cases attempt with
    | error =>
      cases failed
      cases member
    | ok => cases failed
  · rw [made] at failed
    obtain ⟨batch, rfl, full, resolved⟩ := Step.full_of_failed failed member
    exact ⟨batch, rfl, full, fun barrier inBatch => yields barrier (resolved barrier inBatch)⟩

/-- The barriers in these batches resolve. -/
theorem calls_of_failed {resources : Resources} {interpreter : Interpreter} {offset : Nat}
    {command : Command} {calls : List Call} {error : ReplayError}
    (failed : execute resources interpreter offset command = ⟨calls, .error error⟩) {call : Call}
    (member : call ∈ calls) :
    ∃ batch, call = .resourceBarriers batch ∧ ∀ barrier ∈ batch, resources.Resolves barrier := by
  obtain ⟨batch, rfl, _, yields⟩ := batch_of_failed failed member
  exact ⟨batch, rfl, fun barrier inBatch => (yields barrier inBatch).resolves⟩

/-- A call that a record makes belongs to a record that is executed, or it hands over barriers
that were resolved before a later one of the record was not. -/
theorem mem_calls_execute {resources : Resources} {interpreter : Interpreter} {offset : Nat}
    {command : Command} {call : Call}
    (member : call ∈ (execute resources interpreter offset command).calls) :
    (∃ calls next, Executes resources interpreter command calls next ∧ call ∈ calls) ∨
      ∃ batch, call = .resourceBarriers batch ∧ ∀ barrier ∈ batch, resources.Resolves barrier := by
  rcases executed : execute resources interpreter offset command with ⟨calls, error | next⟩
  · rw [executed] at member
    exact .inr (calls_of_failed executed member)
  · rw [executed] at member
    exact .inl ⟨_, _, executes_of_execute executed, member⟩

/-! ## Records in a row -/

/-- Records in a row that are all executed, with their calls and the interpreter after them. -/
inductive Replays (resources : Resources) :
    Interpreter → List Command → List Call → Interpreter → Prop
  | nil {interpreter : Interpreter} : Replays resources interpreter [] [] interpreter
  | cons {interpreter next final : Interpreter} {command : Command} {commands : List Command}
      {calls rest : List Call} (first : Executes resources interpreter command calls next)
      (later : Replays resources next.countCommand commands rest final) :
      Replays resources interpreter (command :: commands) (calls ++ rest) final

/-- Where no record fails, every record is executed. -/
theorem replays_of_run {resources : Resources} {interpreter : Interpreter}
    {records : List (Nat × Command)}
    (completed : (run resources interpreter records).failure = none) :
    Replays resources interpreter (records.map Prod.snd) (run resources interpreter records).calls
      (run resources interpreter records).interpreter := by
  induction records generalizing interpreter with
  | nil => exact .nil
  | cons record later inductionHypothesis =>
    obtain ⟨offset, command⟩ := record
    rw [run] at completed ⊢
    split
    · rename_i failed
      rw [failed] at completed
      cases completed
    · rename_i calls next executed
      rw [executed] at completed
      exact .cons (executes_of_execute executed) (inductionHypothesis completed)

/-- Behind records that are all executed a run goes on as from the interpreter that they leave. -/
theorem run_append {resources : Resources} {interpreter final : Interpreter}
    {front : List (Nat × Command)} {calls : List Call}
    (completed : run resources interpreter front = ⟨calls, final, none⟩)
    (back : List (Nat × Command)) :
    run resources interpreter (front ++ back) =
      { run resources final back with calls := calls ++ (run resources final back).calls } := by
  induction front generalizing interpreter calls with
  | nil =>
    cases completed
    rfl
  | cons record later inductionHypothesis =>
    obtain ⟨offset, command⟩ := record
    rw [run] at completed
    rw [List.cons_append, run]
    rcases executed : execute resources interpreter offset command with ⟨made, error | next⟩
    all_goals rw [executed] at completed
    · cases completed
    · dsimp only at completed ⊢
      rcases behind : run resources next.countCommand later with ⟨rest, reached, failure⟩
      rw [behind] at completed
      cases completed
      rw [inductionHypothesis behind]
      simp only [List.append_assoc]

/-- Whether or not a record fails, the calls are those of the first records, one after another. -/
theorem exists_calls_of_run (resources : Resources) (interpreter : Interpreter)
    (records : List (Nat × Command)) :
    ∃ made : List (List Call), (run resources interpreter records).calls = made.flatten ∧
      List.Forall₂ (fun record calls =>
          ∃ before, (execute resources before record.1 record.2).calls = calls)
        (records.take made.length) made := by
  induction records generalizing interpreter with
  | nil => exact ⟨[], rfl, .nil⟩
  | cons record later inductionHypothesis =>
    obtain ⟨offset, command⟩ := record
    rcases executed : execute resources interpreter offset command with ⟨calls, error | next⟩
    · refine ⟨[calls], ?_, .cons ⟨interpreter, by rw [executed]⟩ .nil⟩
      rw [run, executed, List.flatten_singleton]
    · obtain ⟨made, behind, eachRecord⟩ := inductionHypothesis next.countCommand
      refine ⟨calls :: made, ?_, .cons ⟨interpreter, by rw [executed]⟩ eachRecord⟩
      rw [run, executed, List.flatten_cons, ← behind]

/-- So each call belongs to a record that is executed or hands over barriers that were resolved. -/
theorem mem_calls_run {resources : Resources} {interpreter : Interpreter}
    {records : List (Nat × Command)} {call : Call}
    (member : call ∈ (run resources interpreter records).calls) :
    (∃ before command calls next,
        Executes resources before command calls next ∧ call ∈ calls) ∨
      ∃ batch, call = .resourceBarriers batch ∧ ∀ barrier ∈ batch, resources.Resolves barrier := by
  obtain ⟨made, flatten, eachRecord⟩ := exists_calls_of_run resources interpreter records
  rw [flatten] at member
  obtain ⟨_, inMade, inCalls⟩ := List.mem_flatten.mp member
  obtain ⟨record, _, before, rfl⟩ := exists_of_mem_forall₂ eachRecord.flip inMade
  rcases mem_calls_execute inCalls with ⟨calls, next, executes, inExecuted⟩ | handedOver
  · exact .inl ⟨before, record.2, calls, next, executes, inExecuted⟩
  · exact .inr handedOver

end Interpreter

end CommandStream
