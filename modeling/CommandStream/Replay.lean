import CommandStream.Command.Walk
import CommandStream.Device
/-!
# Replay of command buffers

A replay walks the records of a buffer and makes the calls they stand for on an open command
list. A handle counts for what the tables hold during the replay, whatever they held when the
record was written, and a root argument for what the last bound pipeline makes of its slot. A
record that fails ends the replay: the calls of the records before it stay on the list, and of
the failing record itself only full batches of barriers do.
-/

namespace CommandStream

/-- The bindings whose number the native layer limits. -/
inductive BindingKind
  | vertexBuffers
  | colorAttachments
  deriving DecidableEq, Repr

/-- The text of the kind. -/
def BindingKind.describe : BindingKind → String
  | .vertexBuffers => "vertex buffers"
  | .colorAttachments => "color attachments"

/-- The number of slots of the kind. -/
def BindingKind.limit : BindingKind → Nat
  | .vertexBuffers => 16
  | .colorAttachments => 8

/-- Why a replay failed. -/
inductive ReplayError
  | stream (cause : StreamError)
  | handle (cause : HandleError)
  | descriptor (cause : DescriptorError)
  /-- A root argument comes before any pipeline. -/
  | noPipeline (command : CommandTag)
  /-- The root slot accepts something else, or the layout does not reach that far. -/
  | rootMismatch (slot : UInt32) (command : CommandTag)
  | nestedRenderPass
  | unexpectedEndRenderPass
  | unterminatedRenderPass
  /-- More slots are used than the native layer has. -/
  | tooManyBindings (kind : BindingKind) (count : Nat)
  deriving DecidableEq, Repr

/-- The text of the error. -/
def ReplayError.message : ReplayError → String
  | .stream cause => cause.message
  | .handle cause => cause.message
  | .descriptor cause => cause.message
  | .noPipeline command =>
    let label := Enumeration.name command
    s!"{label} needs a bound pipeline"
  | .rootMismatch slot command =>
    let label := Enumeration.name command
    s!"root slot {slot.toNat} of the bound pipeline does not accept {label}"
  | .nestedRenderPass => "render pass begun inside another render pass"
  | .unexpectedEndRenderPass => "render pass ended without being begun"
  | .unterminatedRenderPass => "command buffer ended inside a render pass"
  | .tooManyBindings kind count =>
    s!"{kind.describe} uses {count} slots, limit is {kind.limit}"

/-- What a replay did: records executed, draws, dispatches and native barrier calls. -/
structure ReplayStatistics where
  commands : Nat
  draws : Nat
  dispatches : Nat
  barrierCalls : Nat
  deriving DecidableEq, Repr

/-- The statistics of a replay that did nothing. -/
def ReplayStatistics.zero : ReplayStatistics := ⟨0, 0, 0, 0⟩

/-- The bookkeeping for one command list. It is used for one buffer after another, and nothing
of it outlives a buffer. -/
structure Interpreter where
  pipeline : Option Pipeline
  topology : Option PrimitiveTopology
  insideRenderPass : Bool
  statistics : ReplayStatistics
  deriving DecidableEq

/-- Barriers on their way to the native layer: the batches handed over, and the barriers held
back for the next one. -/
structure BarrierBatches where
  issued : List (List BarrierCall)
  pending : List BarrierCall
  deriving DecidableEq

namespace BarrierBatches

/-- How many barriers one call takes at most. -/
def batchLimit : Nat := 32

/-- No barrier so far. -/
def empty : BarrierBatches := ⟨[], []⟩

/-- Hands over the barriers that are held back, if any. -/
def flush (batches : BarrierBatches) : BarrierBatches :=
  if batches.pending.isEmpty then batches
  else ⟨batches.issued ++ [batches.pending], []⟩

/-- Adds a barrier; a full batch is handed over first. -/
def push (batches : BarrierBatches) (barrier : BarrierCall) : BarrierBatches :=
  let ready := if batches.pending.length = batchLimit then batches.flush else batches
  { ready with pending := ready.pending ++ [barrier] }

/-- Adds barriers up to the first one that does not resolve. -/
def pushAll (batches : BarrierBatches) :
    List (Except ReplayError BarrierCall) → BarrierBatches × Except ReplayError Unit
  | [] => (batches, .ok ())
  | .ok barrier :: later => (batches.push barrier).pushAll later
  | .error error :: _ => (batches, .error error)

/-- The calls that hand the issued batches over. -/
def calls (batches : BarrierBatches) : List Call := batches.issued.map Call.resourceBarriers

end BarrierBatches

namespace Resources

/-- The native object of a buffer. -/
def bufferObject (resources : Resources) (handle : Handle) : Except ReplayError ObjectId := do
  let buffer ← (resources.buffers.get handle).mapError .handle
  return buffer.object

/-- The native object and the start of a vertex buffer view. -/
def vertexBinding (resources : Resources) (view : VertexBufferView) :
    Except ReplayError (ObjectId × UInt64) := do
  let buffer ← resources.bufferObject view.buffer
  return (buffer, view.offset)

/-- The native object of a texture. -/
def textureObject (resources : Resources) (handle : Handle) : Except ReplayError ObjectId := do
  let texture ← (resources.textures.get handle).mapError .handle
  return texture.object

/-- The value a word of a record stands for, or the complaint about the word. -/
def admitted {α : Type} (value : Option α) (field : RecordField) (word : UInt32)
    (offset : Nat) : Except ReplayError α :=
  match value with
  | some value => .ok value
  | none => .error (.stream (.invalidValue field word offset))

/-- The native object that a barrier names by its handle and the kind of its table. -/
def barrierObject (resources : Resources) (offset : Nat) (handle : Handle) (kind : UInt32) :
    Except ReplayError ObjectId := do
  match ← admitted (WireEnumeration.ofCode? kind) .resourceKind kind offset with
  | BarrierResource.buffer => resources.bufferObject handle
  | BarrierResource.texture => resources.textureObject handle

/-- The native object that a barrier names, or none for the null handle, whatever its kind. -/
def optionalBarrierObject (resources : Resources) (offset : Nat) (handle : Handle)
    (kind : UInt32) : Except ReplayError (Option ObjectId) :=
  if handle.isNull then .ok none else (resources.barrierObject offset handle kind).map some

/-- The call of a transition. -/
def transitionCall (resources : Resources) (offset : Nat) (barrier : TransitionBarrier) :
    Except ReplayError BarrierCall := do
  let object ← resources.barrierObject offset barrier.resource barrier.kind
  let before ← admitted (FlagSet.ofBits? barrier.before) .resourceState barrier.before offset
  let after ← admitted (FlagSet.ofBits? barrier.after) .resourceState barrier.after offset
  return .transition object barrier.subresource before after

/-- The call of an unordered access barrier. -/
def unorderedAccessCall (resources : Resources) (offset : Nat)
    (barrier : UnorderedAccessBarrier) : Except ReplayError BarrierCall := do
  return .unorderedAccess
    (← resources.optionalBarrierObject offset barrier.resource barrier.kind)

/-- The call of an aliasing barrier. -/
def aliasingCall (resources : Resources) (offset : Nat) (barrier : AliasingBarrier) :
    Except ReplayError BarrierCall := do
  let before ← resources.optionalBarrierObject offset barrier.before barrier.beforeKind
  let after ← resources.optionalBarrierObject offset barrier.after barrier.afterKind
  return .aliasing before after

/-- The native object of a color attachment whose operations are known ones. -/
def colorObject (resources : Resources) (offset : Nat) (attachment : ColorAttachment) :
    Except ReplayError ObjectId := do
  let object ← resources.textureObject attachment.texture
  let _ : LoadOperation ←
    admitted (WireEnumeration.ofCode? attachment.load) .loadOperation attachment.load offset
  let _ : StoreOperation ←
    admitted (WireEnumeration.ofCode? attachment.store) .storeOperation attachment.store offset
  return object

/-- The native object of the depth attachment, if the render pass has one. -/
def depthObject (resources : Resources) (offset : Nat) (header : RenderPassHeader) :
    Except ReplayError (Option ObjectId) :=
  if header.depth.isNull then .ok none
  else do
    let object ← resources.textureObject header.depth
    let _ : LoadOperation ←
      admitted (WireEnumeration.ofCode? header.depthLoad) .loadOperation header.depthLoad offset
    let _ : StoreOperation ←
      admitted (WireEnumeration.ofCode? header.depthStore) .storeOperation header.depthStore
        offset
    return some object

end Resources

/-- The span of `count` numbers from `start`, whose end must be a word too. -/
def Span.ofCount? (start count : UInt32) : Option Span :=
  if start.toNat + count.toNat < 4294967296 then some ⟨start, start + count⟩ else none

namespace Interpreter

/-- The interpreter before its first buffer. -/
def fresh : Interpreter := ⟨none, none, false, .zero⟩

/-- Forgets everything about the previous buffer. -/
def reset (interpreter : Interpreter) : Interpreter :=
  { interpreter with
    pipeline := none
    topology := none
    insideRenderPass := false
    statistics := .zero }

/-- The bound pipeline and its parameter at a root slot. -/
def rootParameter (interpreter : Interpreter) (slot : UInt32) (command : CommandTag) :
    Except ReplayError (Pipeline × RootParameter) :=
  match interpreter.pipeline with
  | none => .error (.noPipeline command)
  | some pipeline =>
    match pipeline.description.rootLayout[slot.toNat]? with
    | none => .error (.rootMismatch slot command)
    | some parameter => .ok (pipeline, parameter)

/-- The interpreter after one more draw. -/
def countDraw (interpreter : Interpreter) : Interpreter :=
  { interpreter with
    statistics := { interpreter.statistics with draws := interpreter.statistics.draws + 1 } }

/-- The interpreter after one more dispatch. -/
def countDispatch (interpreter : Interpreter) : Interpreter :=
  { interpreter with
    statistics :=
      { interpreter.statistics with dispatches := interpreter.statistics.dispatches + 1 } }

/-- The interpreter after more native barrier calls. -/
def countBarrierCalls (interpreter : Interpreter) (calls : Nat) : Interpreter :=
  { interpreter with
    statistics :=
      { interpreter.statistics with
        barrierCalls := interpreter.statistics.barrierCalls + calls } }

/-- The interpreter after one more record. -/
def countCommand (interpreter : Interpreter) : Interpreter :=
  { interpreter with
    statistics :=
      { interpreter.statistics with commands := interpreter.statistics.commands + 1 } }

/-- What executing a record comes to: the calls it makes, also when it fails, and the
interpreter after it. -/
structure Step where
  calls : List Call
  outcome : Except ReplayError Interpreter

/-- A record that makes one call, or fails and makes none. -/
def Step.single : Except ReplayError (Call × Interpreter) → Step
  | .ok (call, interpreter) => ⟨[call], .ok interpreter⟩
  | .error error => ⟨[], .error error⟩

/-- A record that hands barriers over in batches. Where one does not resolve, the batches
handed over before it stay, and the barriers held back are lost. -/
def Step.barriers (interpreter : Interpreter)
    (barriers : List (Except ReplayError BarrierCall)) : Step :=
  match BarrierBatches.empty.pushAll barriers with
  | (batches, .error error) => ⟨batches.calls, .error error⟩
  | (batches, .ok ()) =>
    let issued := batches.flush
    ⟨issued.calls, .ok (interpreter.countBarrierCalls issued.issued.length)⟩

/-- Executes the record at an offset. -/
def execute (resources : Resources) (interpreter : Interpreter) (offset : Nat) :
    Command → Step
  | ⟨.setPipeline, handle⟩ => .single do
    let pipeline ← (resources.pipelines.get handle).mapError .handle
    return (.setPipeline pipeline.object pipeline.description.bindPoint,
      { interpreter with pipeline := some pipeline })
  | ⟨.setTopology, word⟩ => .single do
    let topology ← Resources.admitted (WireEnumeration.ofCode? word) .topology word offset
    return (.setPrimitiveTopology topology, { interpreter with topology := some topology })
  | ⟨.setViewports, (run, viewports)⟩ =>
    .single (.ok (.setViewports run.first viewports, interpreter))
  | ⟨.setScissors, (run, rectangles)⟩ =>
    .single (.ok (.setScissors run.first rectangles, interpreter))
  | ⟨.setVertexBuffers, (run, views)⟩ =>
    let count := run.first.toNat + views.length
    if BindingKind.vertexBuffers.limit < count then
      .single (.error (.tooManyBindings .vertexBuffers count))
    else .single do
      let bindings ← views.mapM resources.vertexBinding
      return (.setVertexBuffers run.first bindings, interpreter)
  | ⟨.setIndexBuffer, view⟩ => .single do
    let format ←
      Resources.admitted (WireEnumeration.ofCode? view.format) .indexFormat view.format offset
    let buffer ← resources.bufferObject view.buffer
    return (.setIndexBuffer buffer view.offset view.size format, interpreter)
  | ⟨.setRootConstants, (run, values)⟩ => .single do
    match ← interpreter.rootParameter run.slot .setRootConstants with
    | (pipeline, .constants count) =>
      if run.first.toNat + values.length ≤ count then
        return (.setRootConstants pipeline.description.bindPoint run.slot run.first values,
          interpreter)
      else throw (.rootMismatch run.slot .setRootConstants)
    | _ => throw (.rootMismatch run.slot .setRootConstants)
  | ⟨.setRootBuffer, binding⟩ => .single do
    match ← interpreter.rootParameter binding.slot .setRootBuffer with
    | (pipeline, .descriptor kind) =>
      let buffer ← resources.bufferObject binding.buffer
      return (.setRootDescriptor pipeline.description.bindPoint binding.slot kind buffer
        binding.offset, interpreter)
    | _ => throw (.rootMismatch binding.slot .setRootBuffer)
  | ⟨.setDescriptorTable, binding⟩ => .single do
    let (pipeline, parameter) ← interpreter.rootParameter binding.slot .setDescriptorTable
    match binding.range.heapType? with
    | none => throw (.descriptor (.unknownHeap binding.range.subtype))
    | some heapType =>
      if parameter = .table heapType then
        let base ← (resources.resolveRange binding.range).mapError .descriptor
        return (.setRootDescriptorTable pipeline.description.bindPoint binding.slot
          base.pointer, interpreter)
      else throw (.rootMismatch binding.slot .setDescriptorTable)
  | ⟨.beginRenderPass, (header, attachments)⟩ =>
    if interpreter.insideRenderPass then .single (.error .nestedRenderPass)
    else if BindingKind.colorAttachments.limit < attachments.length then
      .single (.error (.tooManyBindings .colorAttachments attachments.length))
    else .single do
      let colors ← attachments.mapM (resources.colorObject offset)
      let depth ← resources.depthObject offset header
      return (.beginRenderPass colors depth, { interpreter with insideRenderPass := true })
  | ⟨.endRenderPass, _⟩ =>
    if interpreter.insideRenderPass then
      .single (.ok (.endRenderPass, { interpreter with insideRenderPass := false }))
    else .single (.error .unexpectedEndRenderPass)
  | ⟨.draw, draw⟩ => .single do
    let vertices ← Resources.admitted (Span.ofCount? draw.firstVertex draw.vertexCount)
      .vertexRange draw.vertexCount offset
    let instances ← Resources.admitted (Span.ofCount? draw.firstInstance draw.instanceCount)
      .instanceRange draw.instanceCount offset
    return (.draw vertices instances, interpreter.countDraw)
  | ⟨.drawIndexed, draw⟩ => .single do
    let indices ← Resources.admitted (Span.ofCount? draw.firstIndex draw.indexCount)
      .indexRange draw.indexCount offset
    let instances ← Resources.admitted (Span.ofCount? draw.firstInstance draw.instanceCount)
      .instanceRange draw.instanceCount offset
    return (.drawIndexed indices draw.baseVertex instances, interpreter.countDraw)
  | ⟨.dispatch, groups⟩ => .single (.ok (.dispatch groups, interpreter.countDispatch))
  | ⟨.copyBuffer, copy⟩ => .single do
    let source ← resources.bufferObject copy.source
    let destination ← resources.bufferObject copy.destination
    return (.copyBuffer source copy.sourceOffset destination copy.destinationOffset copy.size,
      interpreter)
  | ⟨.resourceBarriers, ((_, transitions), unorderedAccess)⟩ =>
    .barriers interpreter
      (transitions.map (resources.transitionCall offset) ++
        unorderedAccess.map (resources.unorderedAccessCall offset))
  | ⟨.aliasingBarriers, (_, barriers)⟩ =>
    .barriers interpreter (barriers.map (resources.aliasingCall offset))

/-- What executing records in a row comes to: the calls made, the interpreter after the last
record that was executed, and the failure of the record behind it, if any. -/
structure Run where
  calls : List Call
  interpreter : Interpreter
  failure : Option ReplayError

/-- Executes records in a row, up to the first that fails. -/
def run (resources : Resources) (interpreter : Interpreter) : List (Nat × Command) → Run
  | [] => ⟨[], interpreter, none⟩
  | (offset, command) :: later =>
    match execute resources interpreter offset command with
    | ⟨calls, .error error⟩ => ⟨calls, interpreter, some error⟩
    | ⟨calls, .ok next⟩ =>
      let rest := run resources next.countCommand later
      { rest with calls := calls ++ rest.calls }

/-- What decides a replay after its records: the failure of a record, an unreadable record, or a
render pass that is still open. -/
def verdict (run : Run) (walk : Walk) : Except ReplayError ReplayStatistics :=
  match run.failure, walk.failure with
  | some error, _ => .error error
  | none, some error => .error (.stream error)
  | none, none =>
    if run.interpreter.insideRenderPass then .error .unterminatedRenderPass
    else .ok run.interpreter.statistics

/-- Replays a buffer onto an open list: the heaps are set first, then the records follow. -/
def record (interpreter : Interpreter) (resources : Resources) (list : CommandList)
    (buffer : CommandBuffer) :
    Except ReplayError ReplayStatistics × Interpreter × CommandList :=
  let walk := buffer.walk
  let run := run resources interpreter.reset walk.records
  let heaps := Call.setDescriptorHeaps (resources.heaps.map DescriptorHeap.object)
  (verdict run walk, run.interpreter, list.push (heaps :: run.calls))

end Interpreter

end CommandStream
