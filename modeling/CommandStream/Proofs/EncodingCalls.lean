import CommandStream.Proofs.Records
/-!
# What an encoding call records

A buffer can be filled by encoding calls or by commands, and each kind of record is spelled out for
either of them. `Announces` says field by field what the record of a call has to tell a reader, with
no word about how it is made. There is one command for each call that tells it; appending that
command does what the call does, and it is what is read where the call began to write.
-/

namespace CommandStream

/-- A count is that of the numbers from the start of a span to its end, of which there are none if
the end comes first. -/
def Span.HasCount (span : Span) (count : UInt32) : Prop :=
  (count.toNat : Int) = max ((span.stop.toNat : Int) - span.start.toNat) 0

theorem Span.hasCount_count (span : Span) : span.HasCount span.count := by
  have fits : span.stop.toNat - span.start.toNat < UInt32.size :=
    Nat.lt_of_le_of_lt (Nat.sub_le _ _) span.stop.toNat_lt
  rw [HasCount, count, UInt32.toNat_ofNat_of_lt' fits]
  omega

/-- A span has one count. -/
theorem Span.HasCount.unique {span : Span} {first second : UInt32}
    (isFirst : span.HasCount first) (isSecond : span.HasCount second) : first = second :=
  UInt32.toNat_inj.mp (Int.ofNat.inj (isFirst.trans isSecond.symm))

/-- A value of an enumeration has one word. -/
theorem WireEnumeration.word_unique {α : Type} [WireEnumeration α] {value : α}
    {first second : UInt32} (isFirst : ofCode? first = some value)
    (isSecond : ofCode? second = some value) : first = second :=
  (ofCode?_eq_some_iff.mp isFirst).symm.trans (ofCode?_eq_some_iff.mp isSecond)

/-- What the header of a render pass says if there is no depth attachment. -/
def DepthAttachment.absent : DepthAttachment where
  texture := Handle.null
  load := .dontCare
  store := .dontCare
  clearDepth := .one
  clearStencil := 0

/-- The header of a render pass says all there is to say of a depth attachment. -/
structure RenderPassHeader.Describes (header : RenderPassHeader) (depth : DepthAttachment) :
    Prop where
  texture : header.depth = depth.texture
  load : WireEnumeration.ofCode? header.depthLoad = some depth.load
  store : WireEnumeration.ofCode? header.depthStore = some depth.store
  clearDepth : header.depthClear = depth.clearDepth
  clearStencil : header.stencilClear = depth.clearStencil

/-- The header made for attachments describes that of depths, be it there or not. -/
theorem RenderPassHeader.describes_ofAttachments (colors : List ColorAttachment)
    (depth : Option DepthAttachment) :
    (ofAttachments colors depth).Describes (depth.getD .absent) := by
  cases depth with
  | none => exact ⟨rfl, WireEnumeration.ofCode?_code _, WireEnumeration.ofCode?_code _, rfl, rfl⟩
  | some depth =>
    exact ⟨rfl, WireEnumeration.ofCode?_code _, WireEnumeration.ofCode?_code _, rfl, rfl⟩

/-- Two headers that describe one attachment differ in their counts at most. -/
theorem RenderPassHeader.Describes.unique {first second : RenderPassHeader}
    {depth : DepthAttachment} (isFirst : first.Describes depth) (isSecond : second.Describes depth)
    (count : first.colorCount = second.colorCount) : first = second := by
  cases first
  cases second
  cases isFirst.texture.trans isSecond.texture.symm
  cases WireEnumeration.word_unique isFirst.load isSecond.load
  cases WireEnumeration.word_unique isFirst.store isSecond.store
  cases isFirst.clearDepth.trans isSecond.clearDepth.symm
  cases isFirst.clearStencil.trans isSecond.clearStencil.symm
  cases count
  rfl

namespace EncodeCall

/-- A command tells all that an encoding call was asked for. -/
inductive Announces : EncodeCall → Command → Prop
  | setPipeline {pipeline : Handle} : Announces (.setPipeline pipeline) ⟨.setPipeline, pipeline⟩
  | setTopology {topology : PrimitiveTopology} {word : UInt32}
      (isTopology : WireEnumeration.ofCode? word = some topology) :
      Announces (.setTopology topology) ⟨.setTopology, word⟩
  | setViewports {first count : UInt32} {viewports : List Viewport}
      (isCount : count.toNat = viewports.length) :
      Announces (.setViewports first viewports)
        ⟨.setViewports, ({ first := first, count := count }, viewports)⟩
  | setScissors {first count : UInt32} {rectangles : List Rectangle}
      (isCount : count.toNat = rectangles.length) :
      Announces (.setScissors first rectangles)
        ⟨.setScissors, ({ first := first, count := count }, rectangles)⟩
  | setVertexBuffers {firstSlot count : UInt32} {views : List VertexBufferView}
      (isCount : count.toNat = views.length) :
      Announces (.setVertexBuffers firstSlot views)
        ⟨.setVertexBuffers, ({ first := firstSlot, count := count }, views)⟩
  | setIndexBuffer {buffer : Handle} {offset : UInt64} {size word : UInt32} {format : IndexFormat}
      (isFormat : WireEnumeration.ofCode? word = some format) :
      Announces (.setIndexBuffer buffer offset size format)
        ⟨.setIndexBuffer, { buffer := buffer, offset := offset, size := size, format := word }⟩
  | setRootConstants {slot first count : UInt32} {values : List UInt32}
      (isCount : count.toNat = values.length) :
      Announces (.setRootConstants slot first values)
        ⟨.setRootConstants, ({ slot := slot, first := first, count := count }, values)⟩
  | setRootBuffer {slot : UInt32} {buffer : Handle} {offset : UInt64} :
      Announces (.setRootBuffer slot buffer offset)
        ⟨.setRootBuffer, { buffer := buffer, offset := offset, slot := slot, reserved := 0 }⟩
  | setDescriptorTable {slot : UInt32} {range : DescriptorRange} :
      Announces (.setDescriptorTable slot range)
        ⟨.setDescriptorTable, { range := range, slot := slot }⟩
  | beginRenderPass {colors : List ColorAttachment} {depth : Option DepthAttachment}
      {header : RenderPassHeader} (isDepth : header.Describes (depth.getD .absent))
      (isCount : header.colorCount.toNat = colors.length) :
      Announces (.beginRenderPass colors depth) ⟨.beginRenderPass, (header, colors)⟩
  | endRenderPass : Announces .endRenderPass ⟨.endRenderPass, ()⟩
  | draw {vertices instances : Span} {vertexCount instanceCount : UInt32}
      (isVertices : vertices.HasCount vertexCount)
      (isInstances : instances.HasCount instanceCount) :
      Announces (.draw vertices instances)
        ⟨.draw,
          { firstVertex := vertices.start, vertexCount := vertexCount
            firstInstance := instances.start, instanceCount := instanceCount }⟩
  | drawIndexed {indices instances : Span} {baseVertex : Int32} {indexCount instanceCount : UInt32}
      (isIndices : indices.HasCount indexCount)
      (isInstances : instances.HasCount instanceCount) :
      Announces (.drawIndexed indices baseVertex instances)
        ⟨.drawIndexed,
          { firstIndex := indices.start, indexCount := indexCount, baseVertex := baseVertex
            firstInstance := instances.start, instanceCount := instanceCount }⟩
  | dispatch {groups : GroupCount} : Announces (.dispatch groups) ⟨.dispatch, groups⟩
  | copyBuffer {source destination : Handle} {sourceOffset destinationOffset size : UInt64} :
      Announces (.copyBuffer source sourceOffset destination destinationOffset size)
        ⟨.copyBuffer,
          { source := source, sourceOffset := sourceOffset, destination := destination
            destinationOffset := destinationOffset, size := size }⟩
  | resourceBarriers {transitions : List TransitionBarrier}
      {unorderedAccess : List UnorderedAccessBarrier} {counts : BarrierCounts}
      (isTransitionCount : counts.transitionCount.toNat = transitions.length)
      (isUnorderedAccessCount : counts.unorderedAccessCount.toNat = unorderedAccess.length) :
      Announces (.resourceBarriers transitions unorderedAccess)
        ⟨.resourceBarriers, ((counts, transitions), unorderedAccess)⟩
  | aliasingBarriers {barriers : List AliasingBarrier} {count : UInt32}
      (isCount : count.toNat = barriers.length) :
      Announces (.aliasingBarriers barriers) ⟨.aliasingBarriers, (count, barriers)⟩

/-- The command of a call tells what the call was asked for, if its arrays can be counted. -/
theorem announces_command (call : EncodeCall) (countable : call.command.Countable) :
    call.Announces call.command := by
  have counts : ∀ length ∈ call.command.arrayLengths, (UInt32.ofNat length).toNat = length :=
    fun length member => UInt32.toNat_ofNat_of_lt' (countable length member)
  cases call with
  | setPipeline pipeline => exact .setPipeline
  | setTopology topology => exact .setTopology (WireEnumeration.ofCode?_code _)
  | setViewports first viewports => exact .setViewports (counts _ List.mem_cons_self)
  | setScissors first rectangles => exact .setScissors (counts _ List.mem_cons_self)
  | setVertexBuffers firstSlot views => exact .setVertexBuffers (counts _ List.mem_cons_self)
  | setIndexBuffer buffer offset size format =>
    exact .setIndexBuffer (WireEnumeration.ofCode?_code _)
  | setRootConstants slot first values => exact .setRootConstants (counts _ List.mem_cons_self)
  | setRootBuffer slot buffer offset => exact .setRootBuffer
  | setDescriptorTable slot range => exact .setDescriptorTable
  | beginRenderPass colors depth =>
    refine .beginRenderPass (RenderPassHeader.describes_ofAttachments colors depth) ?_
    cases depth <;> exact counts _ List.mem_cons_self
  | endRenderPass => exact .endRenderPass
  | draw vertices instances => exact .draw vertices.hasCount_count instances.hasCount_count
  | drawIndexed indices baseVertex instances =>
    exact .drawIndexed indices.hasCount_count instances.hasCount_count
  | dispatch groups => exact .dispatch
  | copyBuffer => exact .copyBuffer
  | resourceBarriers transitions unorderedAccess =>
    exact .resourceBarriers (counts _ List.mem_cons_self)
      (counts _ (List.mem_cons_of_mem _ List.mem_cons_self))
  | aliasingBarriers barriers => exact .aliasingBarriers (counts _ List.mem_cons_self)

/-- No two commands tell the same. -/
theorem Announces.unique {call : EncodeCall} {first second : Command}
    (isFirst : call.Announces first) (isSecond : call.Announces second) : first = second := by
  have sameCount : ∀ {left right : UInt32} {length : Nat}, left.toNat = length →
      right.toNat = length → left = right :=
    fun isLeft isRight => UInt32.toNat_inj.mp (isLeft.trans isRight.symm)
  cases isFirst with
  | setTopology isTopology =>
    cases isSecond with
    | setTopology other => rw [WireEnumeration.word_unique isTopology other]
  | setViewports isCount =>
    cases isSecond with
    | setViewports other => rw [sameCount isCount other]
  | setScissors isCount =>
    cases isSecond with
    | setScissors other => rw [sameCount isCount other]
  | setVertexBuffers isCount =>
    cases isSecond with
    | setVertexBuffers other => rw [sameCount isCount other]
  | setIndexBuffer isFormat =>
    cases isSecond with
    | setIndexBuffer other => rw [WireEnumeration.word_unique isFormat other]
  | setRootConstants isCount =>
    cases isSecond with
    | setRootConstants other => rw [sameCount isCount other]
  | beginRenderPass isDepth isCount =>
    cases isSecond with
    | beginRenderPass otherDepth other =>
      rw [isDepth.unique otherDepth (sameCount isCount other)]
  | draw isVertices isInstances =>
    cases isSecond with
    | draw otherVertices otherInstances =>
      rw [isVertices.unique otherVertices, isInstances.unique otherInstances]
  | drawIndexed isIndices isInstances =>
    cases isSecond with
    | drawIndexed otherIndices otherInstances =>
      rw [isIndices.unique otherIndices, isInstances.unique otherInstances]
  | @resourceBarriers _ _ counts isTransitions isUnorderedAccess =>
    cases isSecond with
    | @resourceBarriers _ _ others otherTransitions otherUnorderedAccess =>
      cases counts
      cases others
      cases sameCount isTransitions otherTransitions
      cases sameCount isUnorderedAccess otherUnorderedAccess
      rfl
  | aliasingBarriers isCount =>
    cases isSecond with
    | aliasingBarriers other => rw [sameCount isCount other]
  | _ =>
    cases isSecond
    rfl

end EncodeCall

/-- Encoding calls and commands are one encoder. Whatever a buffer holds, a call appends to it what
the one command does that tells all the call was asked for, and so does any command that differs
from it in its counts only. What is read where the call began to write is this command, and the
buffer ends behind it. -/
theorem encoding_call_appends_command (buffer : CommandBuffer) {call : EncodeCall}
    (countable : call.command.Countable) :
    ∃ command, call.Announces command ∧ (∀ other, call.Announces other → other = command) ∧
      buffer.encode call = buffer.append command ∧
      (∀ other : Command, other.counted = command → buffer.encode call = buffer.append other) ∧
      Command.decode (buffer.encode call).bytes buffer.bytes.length =
        .ok (command, (buffer.encode call).bytes.length) := by
  have announces := call.announces_command countable
  have encoded := call.encode_eq_append buffer
  refine ⟨call.command, announces, fun other tells => tells.unique announces, encoded, ?_, ?_⟩
  · intro other same
    rw [encoded, ← same, CommandBuffer.append_counted]
  · have recorded := Command.read_record countable buffer.bytes.length []
    rw [List.append_nil, call.counted_command] at recorded
    rw [encoded, CommandBuffer.append_eq, Command.decode, List.drop_left, recorded,
      List.length_append, Command.length_record]

/-- Two barriers are recorded behind a draw, and read back. -/
theorem encoding_call_appends_command_barriers :
    let buffer := CommandBuffer.empty.encode (.draw ⟨3, 1⟩ ⟨0, 2⟩)
    let transition : TransitionBarrier := ⟨⟨0, 1⟩, 0, allSubresources, 0, 1⟩
    let call : EncodeCall := .resourceBarriers [transition] [.global]
    let command : Command := ⟨.resourceBarriers, ((⟨1, 1⟩, [transition]), [⟨Handle.null, 0⟩])⟩
    call.command.Countable ∧ call.Announces command ∧
      buffer.encode call = buffer.append command ∧
      Command.decode (buffer.encode call).bytes 20 = .ok (command, 68) := by
  intro buffer transition call command
  have countable : call.command.Countable := by
    simp [call, EncodeCall.command, Command.Countable, Command.arrayLengths]
  have announces : call.Announces command := .resourceBarriers rfl rfl
  obtain ⟨found, _, unique, same, _, decoded⟩ := encoding_call_appends_command buffer countable
  have start : buffer.bytes.length = 20 := by decide +kernel
  have stop : (buffer.encode call).bytes.length = 68 := by decide +kernel
  rw [← unique command announces] at same decoded
  rw [start, stop] at decoded
  exact ⟨countable, announces, same, decoded⟩

end CommandStream
