import CommandStream.Proofs.Execution
import CommandStream.Proofs.RoundTrip
/-!
# What encoding calls become

`Translates` says, for each encoding call, which native calls it stands for: one of its own kind
with the same arguments, objects in the place of handles, or batches for barriers. It knows of the
pipeline that is bound and of nothing else that replay keeps. Neither bytes nor the interpreter
appear in it; that replaying the buffer of some encoding calls makes exactly these native calls is
`translatesAll_of_verdict`.
-/

namespace CommandStream

/-! ## Spans -/

/-- The span from the same start, which ends there if the span is reversed. -/
def Span.forward (span : Span) : Span := ⟨span.start, max span.start span.stop⟩

/-- The start and the count of a span are read back as the span, whatever its bounds. -/
theorem Span.ofCount?_count (span : Span) :
    ofCount? span.start span.count = some span.forward := by
  have startWord := span.start.toNat_lt
  have stopWord := span.stop.toNat_lt
  have count : span.count.toNat = span.stop.toNat - span.start.toNat := by
    rw [Span.count, UInt32.toNat_ofNat']
    omega
  have fits : span.start.toNat + span.count.toNat < 4294967296 := by
    omega
  rw [ofCount?, if_pos fits, Span.forward, Option.some_inj, Span.mk.injEq]
  refine ⟨rfl, UInt32.toNat_inj.mp ?_⟩
  rw [UInt32.toNat_add, count]
  show _ = (if span.start ≤ span.stop then span.stop else span.start).toNat
  split
  · rename_i ordered
    have orderedNumbers := UInt32.le_iff_toNat_le.mp ordered
    omega
  · rename_i reversed
    have reversedNumbers := mt UInt32.le_iff_toNat_le.mpr reversed
    omega

/-! ## The translation -/

/-- The texture of the depth attachment, null without one. -/
def DepthAttachment.handle : Option DepthAttachment → Handle
  | some depth => depth.texture
  | none => Handle.null

/-- Where a range begins: the start of its heap and one stride for each descriptor before it. -/
def Resources.tableBase (resources : Resources) (heapType : HeapType) (range : DescriptorRange) :
    UInt64 :=
  let start := (resources.heap heapType).start
  start.pointer + start.stride * UInt64.ofNat range.offset

namespace EncodeCall

/-- The native calls that an encoding call stands for while a pipeline is bound or none is, and
the pipeline that is bound afterwards. -/
inductive Translates (resources : Resources) (bound : Option Pipeline) :
    EncodeCall → List Call → Option Pipeline → Prop
  | setPipeline {handle : Handle} {pipeline : Pipeline}
      (found : resources.pipelines.get handle = .ok pipeline) :
      Translates resources bound (.setPipeline handle)
        [.setPipeline pipeline.object pipeline.description.bindPoint] (some pipeline)
  | setTopology {topology : PrimitiveTopology} :
      Translates resources bound (.setTopology topology) [.setPrimitiveTopology topology] bound
  | setViewports {first : UInt32} {viewports : List Viewport} :
      Translates resources bound (.setViewports first viewports) [.setViewports first viewports]
        bound
  | setScissors {first : UInt32} {rectangles : List Rectangle} :
      Translates resources bound (.setScissors first rectangles) [.setScissors first rectangles]
        bound
  | setVertexBuffers {firstSlot : UInt32} {views : List VertexBufferView}
      {bindings : List (ObjectId × UInt64)}
      (found : List.Forall₂ (fun view binding =>
        resources.Names view.buffer binding.1 .buffer ∧ binding.2 = view.offset) views bindings) :
      Translates resources bound (.setVertexBuffers firstSlot views)
        [.setVertexBuffers firstSlot bindings] bound
  | setIndexBuffer {handle : Handle} {offset : UInt64} {size : UInt32} {format : IndexFormat}
      {buffer : ObjectId} (names : resources.Names handle buffer .buffer) :
      Translates resources bound (.setIndexBuffer handle offset size format)
        [.setIndexBuffer buffer offset size format] bound
  | setRootConstants {slot first : UInt32} {values : List UInt32} {pipeline : Pipeline}
      (isBound : bound = some pipeline) :
      Translates resources bound (.setRootConstants slot first values)
        [.setRootConstants pipeline.description.bindPoint slot first values] bound
  | setRootBuffer {slot : UInt32} {handle : Handle} {offset : UInt64} {pipeline : Pipeline}
      {kind : RootDescriptorKind} {buffer : ObjectId} (isBound : bound = some pipeline)
      (atSlot : pipeline.description.rootLayout[slot.toNat]? = some (.descriptor kind))
      (names : resources.Names handle buffer .buffer) :
      Translates resources bound (.setRootBuffer slot handle offset)
        [.setRootDescriptor pipeline.description.bindPoint slot kind buffer offset] bound
  | setDescriptorTable {slot : UInt32} {range : DescriptorRange} {pipeline : Pipeline}
      {heapType : HeapType} (isBound : bound = some pipeline)
      (named : range.heapType? = some heapType) :
      Translates resources bound (.setDescriptorTable slot range)
        [.setRootDescriptorTable pipeline.description.bindPoint slot
          (resources.tableBase heapType range)] bound
  | beginRenderPass {attachments : List ColorAttachment} {depth : Option DepthAttachment}
      {colors : List ObjectId} {depthObject : Option ObjectId}
      (namesColors : List.Forall₂ (fun attachment color =>
        resources.Names attachment.texture color .texture) attachments colors)
      (namesDepth :
        resources.NamesUnlessNull (some .texture) (DepthAttachment.handle depth) depthObject) :
      Translates resources bound (.beginRenderPass attachments depth)
        [.beginRenderPass colors depthObject] bound
  | endRenderPass : Translates resources bound .endRenderPass [.endRenderPass] bound
  | draw {vertices instances : Span} :
      Translates resources bound (.draw vertices instances)
        [.draw vertices.forward instances.forward] bound
  | drawIndexed {indices : Span} {baseVertex : Int32} {instances : Span} :
      Translates resources bound (.drawIndexed indices baseVertex instances)
        [.drawIndexed indices.forward baseVertex instances.forward] bound
  | dispatch {groups : GroupCount} :
      Translates resources bound (.dispatch groups) [.dispatch groups] bound
  | copyBuffer {sourceHandle destinationHandle : Handle}
      {sourceOffset destinationOffset size : UInt64} {source destination : ObjectId}
      (namesSource : resources.Names sourceHandle source .buffer)
      (namesDestination : resources.Names destinationHandle destination .buffer) :
      Translates resources bound
        (.copyBuffer sourceHandle sourceOffset destinationHandle destinationOffset size)
        [.copyBuffer source sourceOffset destination destinationOffset size] bound
  | resourceBarriers {transitions : List TransitionBarrier}
      {unorderedAccess : List UnorderedAccessBarrier} {changes orders : List BarrierCall}
      {batches : List (List BarrierCall)}
      (isChanges : List.Forall₂ resources.Transitions transitions changes)
      (isOrders : List.Forall₂ resources.OrdersAccess unorderedAccess orders)
      (divides : BarrierBatches.Divides (changes ++ orders) batches) :
      Translates resources bound (.resourceBarriers transitions unorderedAccess)
        (batches.map .resourceBarriers) bound
  | aliasingBarriers {barriers : List AliasingBarrier} {switches : List BarrierCall}
      {batches : List (List BarrierCall)}
      (isSwitches : List.Forall₂ resources.Aliases barriers switches)
      (divides : BarrierBatches.Divides switches batches) :
      Translates resources bound (.aliasingBarriers barriers) (batches.map .resourceBarriers)
        bound

/-- Encoding calls in a row, each with the native calls it stands for in the place where it is. -/
inductive TranslatesAll (resources : Resources) :
    Option Pipeline → List EncodeCall → List Call → Prop
  | nil {bound : Option Pipeline} : TranslatesAll resources bound [] []
  | cons {bound next : Option Pipeline} {call : EncodeCall} {calls : List EncodeCall}
      {issued rest : List Call} (first : call.Translates resources bound issued next)
      (later : TranslatesAll resources next calls rest) :
      TranslatesAll resources bound (call :: calls) (issued ++ rest)

/-- An encoding call stands for no more than one sequence of native calls. -/
theorem Translates.unique {resources : Resources} {bound left right : Option Pipeline}
    {call : EncodeCall} {issued others : List Call}
    (toLeft : call.Translates resources bound issued left)
    (toRight : call.Translates resources bound others right) :
    issued = others ∧ left = right := by
  cases toLeft with
  | setPipeline found =>
    cases toRight with
    | setPipeline other =>
      cases found.symm.trans other
      exact ⟨rfl, rfl⟩
  | setVertexBuffers found =>
    cases toRight with
    | setVertexBuffers other =>
      have same := List.right_unique_forall₂' (fun _ _ _ first second =>
        Prod.ext (first.1.unique second.1) (first.2.trans second.2.symm)) found other
      exact ⟨by rw [same], rfl⟩
  | setIndexBuffer names =>
    cases toRight with
    | setIndexBuffer other => exact ⟨by rw [names.unique other], rfl⟩
  | setRootConstants isBound =>
    cases toRight with
    | setRootConstants other =>
      cases isBound.symm.trans other
      exact ⟨rfl, rfl⟩
  | setRootBuffer isBound atSlot names =>
    cases toRight with
    | setRootBuffer otherBound otherSlot other =>
      cases isBound.symm.trans otherBound
      cases atSlot.symm.trans otherSlot
      exact ⟨by rw [names.unique other], rfl⟩
  | setDescriptorTable isBound named =>
    cases toRight with
    | setDescriptorTable otherBound other =>
      cases isBound.symm.trans otherBound
      cases named.symm.trans other
      exact ⟨rfl, rfl⟩
  | beginRenderPass namesColors namesDepth =>
    cases toRight with
    | beginRenderPass otherColors otherDepth =>
      have unique : Relator.RightUnique fun (attachment : ColorAttachment) color =>
          resources.Names attachment.texture color .texture := fun _ _ _ => Resources.Names.unique
      have same := unique.forall₂ namesColors otherColors
      exact ⟨by rw [same, namesDepth.unique otherDepth], rfl⟩
  | copyBuffer namesSource namesDestination =>
    cases toRight with
    | copyBuffer otherSource otherDestination =>
      rw [namesSource.unique otherSource, namesDestination.unique otherDestination]
      exact ⟨rfl, rfl⟩
  | resourceBarriers isChanges isOrders divides =>
    cases toRight with
    | resourceBarriers otherChanges otherOrders otherDivides =>
      cases Resources.Transitions.unique.forall₂ isChanges otherChanges
      cases Resources.OrdersAccess.unique.forall₂ isOrders otherOrders
      exact ⟨by rw [divides.unique otherDivides], rfl⟩
  | aliasingBarriers isSwitches divides =>
    cases toRight with
    | aliasingBarriers otherSwitches otherDivides =>
      cases Resources.Aliases.unique.forall₂ isSwitches otherSwitches
      exact ⟨by rw [divides.unique otherDivides], rfl⟩
  | _ =>
    cases toRight
    exact ⟨rfl, rfl⟩

/-- Nor do encoding calls in a row. -/
theorem TranslatesAll.unique {resources : Resources} {bound : Option Pipeline}
    {calls : List EncodeCall} {issued others : List Call}
    (toLeft : TranslatesAll resources bound calls issued)
    (toRight : TranslatesAll resources bound calls others) : issued = others := by
  induction toLeft generalizing others with
  | nil =>
    cases toRight
    rfl
  | cons first later inductionHypothesis =>
    cases toRight with
    | cons otherFirst otherLater =>
      obtain ⟨same, sameBound⟩ := first.unique otherFirst
      subst sameBound
      rw [same, inductionHypothesis otherLater]

/-- The record of an encoding call, where it is executed, makes the native calls that the encoding
call stands for. -/
theorem translates_of_executes {resources : Resources} {interpreter next : Interpreter}
    {call : EncodeCall} {issued : List Call}
    (executes : interpreter.Executes resources call.command issued next) :
    call.Translates resources interpreter.pipeline issued next.pipeline := by
  cases call with
  | setPipeline handle =>
    cases executes with
    | setPipeline found => exact .setPipeline found
  | setTopology topology =>
    cases executes with
    | setTopology known =>
      cases WireEnumeration.code_injective known
      exact .setTopology
  | setViewports first viewports =>
    cases executes
    exact .setViewports
  | setScissors first rectangles =>
    cases executes
    exact .setScissors
  | setVertexBuffers firstSlot views =>
    cases executes with
    | setVertexBuffers fits found => exact .setVertexBuffers found
  | setIndexBuffer handle offset size format =>
    cases executes with
    | setIndexBuffer known names =>
      cases WireEnumeration.code_injective known
      exact .setIndexBuffer names
  | setRootConstants slot first values =>
    cases executes with
    | setRootConstants accepts fits => exact .setRootConstants accepts.bound
  | setRootBuffer slot handle offset =>
    cases executes with
    | setRootBuffer accepts names => exact .setRootBuffer accepts.bound accepts.atSlot names
  | setDescriptorTable slot range =>
    cases executes with
    | setDescriptorTable named accepts fits => exact .setDescriptorTable accepts.bound named
  | beginRenderPass attachments depth =>
    cases executes with
    | beginRenderPass closed fits namesColors namesDepth =>
      refine .beginRenderPass namesColors ?_
      cases depth with
      | none => exact namesDepth
      | some depth => exact namesDepth
  | endRenderPass =>
    cases executes
    exact .endRenderPass
  | draw vertices instances =>
    cases executes with
    | draw isVertices isInstances =>
      cases vertices.ofCount?_count.symm.trans isVertices
      cases instances.ofCount?_count.symm.trans isInstances
      exact .draw
  | drawIndexed indices baseVertex instances =>
    cases executes with
    | drawIndexed isIndices isInstances =>
      cases indices.ofCount?_count.symm.trans isIndices
      cases instances.ofCount?_count.symm.trans isInstances
      exact .drawIndexed
  | dispatch groups =>
    cases executes
    exact .dispatch
  | copyBuffer source sourceOffset destination destinationOffset size =>
    cases executes with
    | copyBuffer namesSource namesDestination => exact .copyBuffer namesSource namesDestination
  | resourceBarriers transitions unorderedAccess =>
    cases executes with
    | resourceBarriers isChanges isOrders divides =>
      exact .resourceBarriers isChanges isOrders divides
  | aliasingBarriers barriers =>
    cases executes with
    | aliasingBarriers isSwitches divides => exact .aliasingBarriers isSwitches divides

/-- Records of encoding calls that are all executed make the native calls that the encoding calls
stand for, one after another. -/
theorem translatesAll_of_replays {resources : Resources} {interpreter final : Interpreter}
    {calls : List EncodeCall} {issued : List Call}
    (replays : interpreter.Replays resources (calls.map command) issued final) :
    TranslatesAll resources interpreter.pipeline calls issued := by
  induction calls generalizing interpreter issued with
  | nil =>
    cases replays
    exact .nil
  | cons call later inductionHypothesis =>
    cases replays with
    | cons first behind =>
      have rest := inductionHypothesis behind
      exact .cons (translates_of_executes first) rest

end EncodeCall

/-! ## Buffers of encoding calls -/

/-- The pipeline that an encoding call binds, if it binds one. -/
def EncodeCall.pipeline? : EncodeCall → Option Handle
  | .setPipeline pipeline => some pipeline
  | _ => none

theorem EncodeCall.pipeline?_command (call : EncodeCall) :
    call.command.pipeline? = call.pipeline? := by
  cases call <;> rfl

/-- A call of barriers on one buffer, each of which is stored like a record of `setPipeline`. -/
def EncodeCall.disguised (count : Nat) : EncodeCall :=
  .resourceBarriers []
    (List.replicate count (.ofBuffer ⟨WireEnumeration.code CommandTag.setPipeline, 0⟩))

/-- The buffer that encoding calls make. -/
def CommandBuffer.ofCalls (calls : List EncodeCall) : CommandBuffer :=
  calls.foldl CommandBuffer.encode .empty

namespace CommandBuffer

/-- Encoding calls make the buffer of their commands. -/
theorem ofCalls_eq (calls : List EncodeCall) :
    ofCalls calls = ofCommands (calls.map EncodeCall.command) := by
  rw [ofCalls, ofCommands, List.foldl_map]
  exact congrArg (fun step => calls.foldl step empty)
    (funext fun buffer => funext fun call => EncodeCall.encode_eq_append buffer call)

/-- A buffer of some encoding calls is not empty, since each of them appends a record. -/
theorem isEmpty_ofCalls {calls : List EncodeCall} (encoded : calls ≠ []) :
    (ofCalls calls).isEmpty = false := by
  cases calls with
  | nil => exact absurd rfl encoded
  | cons call later =>
    have record := Command.length_record call.command
    have some := Command.encodedLength_pos call.command
    have bytes : (ofCalls (call :: later)).bytes ≠ [] := by
      rw [ofCalls_eq, ofCommands_eq]
      intro none
      rw [List.map_cons, List.flatMap_cons, List.append_eq_nil_iff] at none
      rw [none.1, List.length_nil] at record
      omega
    exact Bool.eq_false_iff.mpr fun isEmpty => bytes (List.isEmpty_iff.mp isEmpty)

/-- The pipeline noted with a buffer of encoding calls is the first that they bind. -/
theorem firstPipeline_ofCalls (calls : List EncodeCall) :
    (ofCalls calls).firstPipeline = calls.findSome? EncodeCall.pipeline? := by
  rw [ofCalls_eq, ofCommands_eq, List.findSome?_map]
  exact congrArg (fun pipeline? => calls.findSome? pipeline?)
    (funext fun call => call.pipeline?_command)

/-- The walk of a buffer of encoding calls finds their commands, and no failure. -/
theorem walk_ofCalls {calls : List EncodeCall}
    (countable : ∀ call ∈ calls, call.command.Countable) :
    (ofCalls calls).walk.records.map Prod.snd = calls.map EncodeCall.command ∧
      (ofCalls calls).walk.failure = none := by
  have commands : ∀ command ∈ calls.map EncodeCall.command, command.Countable := by
    intro command member
    obtain ⟨call, inCalls, rfl⟩ := List.mem_map.mp member
    exact countable call inCalls
  rw [ofCalls_eq, walk_ofCommands commands]
  refine ⟨?_, rfl⟩
  rw [Command.map_snd_placed, List.map_map]
  exact List.map_congr_left fun call _ => call.counted_command

/-- Why the arrays of a buffer have to be countable: an array whose length is a multiple of
2 ^ 32 is announced as empty, and its elements are read as the records behind it. -/
theorem walk_disguised {count : Nat} (wraps : UInt32.ofNat count = 0) :
    (ofCalls [.disguised count]).walk.records.map Prod.snd =
        ⟨.resourceBarriers, ((⟨0, 0⟩, []), [])⟩ ::
          List.replicate count ⟨.setPipeline, ⟨0, 0⟩⟩ ∧
      (ofCalls [.disguised count]).walk.failure = none := by
  let commands := Command.mk .resourceBarriers ((⟨0, 0⟩, []), []) ::
    List.replicate count (Command.mk .setPipeline ⟨0, 0⟩)
  have front : Command.record (EncodeCall.command (.disguised count)) =
      Command.record ⟨.resourceBarriers, ((⟨0, 0⟩, []), [])⟩ ++
        (List.replicate count (Command.mk .setPipeline ⟨0, 0⟩)).flatMap Command.record := by
    have elements : UnorderedAccessBarrier.layout.writeAll
        (List.replicate count (.ofBuffer ⟨WireEnumeration.code CommandTag.setPipeline, 0⟩)) =
          (List.replicate count (Command.mk .setPipeline ⟨0, 0⟩)).flatMap Command.record := by
      rw [FixedLayout.writeAll, List.flatMap_replicate, List.flatMap_replicate]
      rfl
    rw [← elements]
    simp [Command.record, Command.stored, EncodeCall.command, EncodeCall.disguised,
      Command.counted, wraps, CommandTag.layout, BarrierCounts.record, TransitionBarrier.record,
      RecordLayout.array, RecordLayout.plain, RecordLayout.write, FixedLayout.writeAll]
  have countable : ∀ command ∈ commands, command.Countable := by
    intro command member
    rcases List.mem_cons.mp member with rfl | later
    · simp [Command.Countable, Command.arrayLengths]
    · rw [List.eq_of_mem_replicate later]
      exact List.forall_mem_nil _
  have same : (ofCalls [.disguised count]).bytes = (ofCommands commands).bytes := by
    rw [ofCalls_eq, ofCommands_eq, ofCommands_eq, List.flatMap_cons, ← front]
    simp
  have walked := walk_ofCommands countable
  rw [walk, ← same] at walked
  rw [walk, walked, Command.map_snd_placed, List.map_cons, List.map_replicate]
  exact ⟨rfl, rfl⟩

/-- What replaying a buffer from the start comes to. -/
def replay (resources : Resources) (buffer : CommandBuffer) : Interpreter.Run :=
  Interpreter.run resources .fresh buffer.walk.records

end CommandBuffer

/-- Nothing fails in a replay that has statistics to report. -/
theorem Interpreter.completed_of_verdict {run : Run} {walk : Walk}
    {statistics : ReplayStatistics} (verdict : Interpreter.verdict run walk = .ok statistics) :
    run.failure = none ∧ walk.failure = none := by
  unfold Interpreter.verdict at verdict
  split at verdict
  · cases verdict
  · cases verdict
  · rename_i noFailure readable
    exact ⟨noFailure, readable⟩

/-- A buffer of encoding calls that is replayed without a failure makes the native calls that they
stand for, with no pipeline bound at first. -/
theorem EncodeCall.translatesAll_of_verdict {resources : Resources} {calls : List EncodeCall}
    (countable : ∀ call ∈ calls, call.command.Countable) {statistics : ReplayStatistics}
    (verdict : Interpreter.verdict ((CommandBuffer.ofCalls calls).replay resources)
      (CommandBuffer.ofCalls calls).walk = .ok statistics) :
    TranslatesAll resources none calls
      ((CommandBuffer.ofCalls calls).replay resources).calls := by
  have replays := Interpreter.replays_of_run (Interpreter.completed_of_verdict verdict).1
  rw [(CommandBuffer.walk_ofCalls countable).1] at replays
  exact translatesAll_of_replays replays

/-! ## Arrays that are announced as empty -/

/-- Records that bind one pipeline each make the calls that bind it, and leave a render pass as
it is. -/
theorem Interpreter.run_setPipeline {resources : Resources} {handle : Handle}
    {pipeline : Pipeline} (found : resources.pipelines.get handle = .ok pipeline) {count : Nat}
    {records : List (Nat × Command)} (interpreter : Interpreter)
    (all : records.map Prod.snd = List.replicate count ⟨.setPipeline, handle⟩) :
    ∃ final, run resources interpreter records =
        ⟨List.replicate count (.setPipeline pipeline.object pipeline.description.bindPoint),
          final, none⟩ ∧
      final.insideRenderPass = interpreter.insideRenderPass := by
  induction count generalizing records interpreter with
  | zero =>
    obtain rfl := List.map_eq_nil_iff.mp all
    exact ⟨interpreter, rfl, rfl⟩
  | succ count inductionHypothesis =>
    obtain ⟨⟨offset, command⟩, later, rfl, first, behind⟩ := List.map_eq_cons_iff.mp all
    obtain rfl : command = ⟨.setPipeline, handle⟩ := first
    let next : Interpreter := { interpreter with pipeline := some pipeline }
    have executed : execute resources interpreter offset ⟨.setPipeline, handle⟩ =
        ⟨[.setPipeline pipeline.object pipeline.description.bindPoint], .ok next⟩ := by
      rw [execute, found]
      rfl
    obtain ⟨final, isRun, sameEnd⟩ := inductionHypothesis next.countCommand behind
    refine ⟨final, ?_, sameEnd⟩
    rw [run, executed]
    dsimp only
    rw [isRun]
    rfl

/-- A replay of barriers that are read as other records makes the calls of these. -/
theorem CommandBuffer.replay_disguised {resources : Resources} {pipeline : Pipeline}
    (found : resources.pipelines.get ⟨0, 0⟩ = .ok pipeline) {count : Nat}
    (wraps : UInt32.ofNat count = 0) :
    ((ofCalls [.disguised count]).replay resources).calls =
        List.replicate count
          (.setPipeline pipeline.object pipeline.description.bindPoint) ∧
      ∃ statistics, Interpreter.verdict ((ofCalls [.disguised count]).replay resources)
        (ofCalls [.disguised count]).walk = .ok statistics := by
  obtain ⟨commands, readable⟩ := walk_disguised wraps
  obtain ⟨⟨offset, command⟩, later, isRecords, first, behind⟩ := List.map_eq_cons_iff.mp commands
  obtain rfl : command = ⟨.resourceBarriers, ((⟨0, 0⟩, []), [])⟩ := first
  obtain ⟨final, isRun, outside⟩ := Interpreter.run_setPipeline found
    (Interpreter.countCommand (Interpreter.countBarrierCalls .fresh 0)) behind
  have replayed : (ofCalls [.disguised count]).replay resources =
      ⟨List.replicate count (.setPipeline pipeline.object pipeline.description.bindPoint),
        final, none⟩ := by
    rw [replay, isRecords, Interpreter.run]
    exact isRun
  refine ⟨congrArg Interpreter.Run.calls replayed, final.statistics, ?_⟩
  have closed : ¬final.insideRenderPass = true := by
    rw [outside]
    exact Bool.false_ne_true
  simp only [Interpreter.verdict, replayed, readable, if_neg closed]

/-- Barriers stand for no call that binds a pipeline. -/
theorem EncodeCall.not_translatesAll_disguised {resources : Resources} {bound : Option Pipeline}
    {count : Nat} {issued : List Call} {pipeline : ObjectId} {bindPoint : BindPoint}
    (binds : .setPipeline pipeline bindPoint ∈ issued) :
    ¬TranslatesAll resources bound [.disguised count] issued := by
  intro translated
  cases translated with
  | cons first later =>
    cases later
    rw [List.append_nil, disguised] at *
    cases first with
    | resourceBarriers =>
      obtain ⟨batch, _, same⟩ := List.mem_map.mp binds
      cases same

end CommandStream
