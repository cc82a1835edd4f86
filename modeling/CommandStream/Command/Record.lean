import CommandStream.Command.Arguments
import CommandStream.Total
import CommandStream.Wire.RecordLayout
/-!
# Command records

A command is a tag together with the arguments of that tag. Its record is the tag, a header whose
size the tag fixes, and the arrays that the header counts, padded to whole words. No record
states its own length, since tag and counts give it away. Counts in the value of a command need
not agree with its arrays; they are settled when it is stored.
-/

namespace CommandStream

/-- What the record of each kind carries: the header, then the arrays. -/
abbrev CommandTag.Arguments : CommandTag → Type
  | .setPipeline => Handle
  | .setTopology => UInt32
  | .setViewports => SlotRun × List Viewport
  | .setScissors => SlotRun × List Rectangle
  | .setVertexBuffers => SlotRun × List VertexBufferView
  | .setIndexBuffer => IndexBufferView
  | .setRootConstants => RootConstantRun × List UInt32
  | .setRootBuffer => RootBufferBinding
  | .setDescriptorTable => TableBinding
  | .beginRenderPass => RenderPassHeader × List ColorAttachment
  | .endRenderPass => Unit
  | .draw => DrawArguments
  | .drawIndexed => IndexedDrawArguments
  | .dispatch => GroupCount
  | .copyBuffer => BufferCopy
  | .resourceBarriers =>
    (BarrierCounts × List TransitionBarrier) × List UnorderedAccessBarrier
  | .aliasingBarriers => UInt32 × List AliasingBarrier

/-- A command as its record holds it. -/
structure Command where
  tag : CommandTag
  arguments : tag.Arguments

/-- The elements of an array behind a run of slots, counted by the run. -/
def SlotRun.record {α : Type} (element : FixedLayout α) (wholeWords : 4 ∣ element.size) :
    RecordLayout (SlotRun × List α) :=
  (RecordLayout.plain SlotRun.layout (by decide)).array
    ⟨SlotRun.count, fun run count => { run with count := count }, fun _ _ => rfl, fun _ => rfl,
      fun _ _ _ => trivial, fun _ _ => rfl, fun _ _ => rfl⟩
    element wholeWords

/-- Inline constants, counted by the run of root words they fill. -/
def RootConstantRun.record : RecordLayout (RootConstantRun × List UInt32) :=
  (RecordLayout.plain RootConstantRun.layout (by decide)).array
    ⟨RootConstantRun.count, fun run count => { run with count := count }, fun _ _ => rfl,
      fun _ => rfl, fun _ _ _ => trivial, fun _ _ => rfl, fun _ _ => rfl⟩
    .word (by decide)

/-- A render pass, with its color attachments counted by the header. -/
def RenderPassHeader.record : RecordLayout (RenderPassHeader × List ColorAttachment) :=
  (RecordLayout.plain RenderPassHeader.layout (by decide)).array
    ⟨RenderPassHeader.colorCount, fun header count => { header with colorCount := count },
      fun _ _ => rfl, fun _ => rfl, fun _ _ _ => trivial, fun _ _ => rfl, fun _ _ => rfl⟩
    ColorAttachment.layout (by decide)

/-- Transitions counted by the header. -/
def TransitionBarrier.record : RecordLayout (BarrierCounts × List TransitionBarrier) :=
  (RecordLayout.plain BarrierCounts.layout (by decide)).array
    ⟨BarrierCounts.transitionCount,
      fun counts count => { counts with transitionCount := count },
      fun _ _ => rfl, fun _ => rfl, fun _ _ _ => trivial, fun _ _ => rfl, fun _ _ => rfl⟩
    TransitionBarrier.layout (by decide)

/-- Transitions and then unordered access barriers, both counted by the header. -/
def BarrierCounts.record :
    RecordLayout ((BarrierCounts × List TransitionBarrier) × List UnorderedAccessBarrier) :=
  TransitionBarrier.record.array
    ⟨fun body => body.1.unorderedAccessCount,
      fun body count => ({ body.1 with unorderedAccessCount := count }, body.2),
      fun _ _ => rfl, fun _ => rfl, fun _ _ settled => settled, fun _ _ => rfl, fun _ _ => rfl⟩
    UnorderedAccessBarrier.layout (by decide)

/-- Aliasing barriers behind their number. -/
def AliasingBarrier.record : RecordLayout (UInt32 × List AliasingBarrier) :=
  (RecordLayout.plain .word (by decide)).array
    ⟨id, fun _ count => count, fun _ _ => rfl, fun _ => rfl, fun _ _ _ => trivial,
      fun _ _ => rfl, fun _ _ => rfl⟩
    AliasingBarrier.layout (by decide)

/-- How the arguments of each kind are stored. -/
def CommandTag.layout : (tag : CommandTag) → RecordLayout tag.Arguments
  | .setPipeline => .plain Handle.layout (by decide)
  | .setTopology => .plain .word (by decide)
  | .setViewports => SlotRun.record Viewport.layout (by decide)
  | .setScissors => SlotRun.record Rectangle.layout (by decide)
  | .setVertexBuffers => SlotRun.record VertexBufferView.layout (by decide)
  | .setIndexBuffer => .plain IndexBufferView.layout (by decide)
  | .setRootConstants => RootConstantRun.record
  | .setRootBuffer => .plain RootBufferBinding.layout (by decide)
  | .setDescriptorTable => .plain TableBinding.layout (by decide)
  | .beginRenderPass => RenderPassHeader.record
  | .endRenderPass => .plain .unit (by decide)
  | .draw => .plain DrawArguments.layout (by decide)
  | .drawIndexed => .plain IndexedDrawArguments.layout (by decide)
  | .dispatch => .plain GroupCount.layout (by decide)
  | .copyBuffer => .plain BufferCopy.layout (by decide)
  | .resourceBarriers => BarrierCounts.record
  | .aliasingBarriers => AliasingBarrier.record

/-- The alignment of every record, and the size of its tag. -/
def wordSize : Nat := 4

/-- The least multiple of the word size that is not below the number. -/
def alignToWord (size : Nat) : Nat := (size + (wordSize - 1)) / wordSize * wordSize

/-- The bytes that tag, header, arrays and padding take together. -/
def recordLength (fixed : Nat) (arrays : List Nat) : Nat :=
  alignToWord (wordSize + fixed + total arrays)

namespace Command

/-- The command with every count replaced by the length of its array. -/
def settle (command : Command) : Command :=
  ⟨command.tag, command.tag.layout.settle command.arguments⟩

/-- The length of the command's record. -/
def encodedLength (command : Command) : Nat :=
  recordLength (command.tag.layout.header command.arguments).length
    ((command.tag.layout.arrays command.arguments).map List.length)

end Command

end CommandStream
