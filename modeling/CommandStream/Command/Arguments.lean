import CommandStream.Command.Vocabulary
import CommandStream.Descriptor.Range
import CommandStream.Resource
import CommandStream.Wire.FixedLayout
/-!
# Arguments of command records

The headers and array elements that command records are made of, each with its layout. Fields
follow one another in the order of declaration, without gaps. Enumerations and flags appear as
the words they travel as, so that every stored word has a value here.
-/

namespace CommandStream

/-- A floating point number is stored as the word of its bits. -/
def FloatBits.layout : FixedLayout FloatBits :=
  FixedLayout.word.convert FloatBits.mk FloatBits.bits (fun _ => rfl) (fun _ => rfl)

/-- A handle is stored as its index and its generation. -/
def Handle.layout : FixedLayout Handle :=
  (FixedLayout.word.pair .word).convert
    (fun (index, generation) => ⟨index, generation⟩)
    (fun handle => (handle.index, handle.generation))
    (fun _ => rfl) (fun _ => rfl)

/-- A range is stored as its packed handle. -/
def DescriptorRange.layout : FixedLayout DescriptorRange :=
  Handle.layout.convert DescriptorRange.mk DescriptorRange.packed (fun _ => rfl) (fun _ => rfl)

/-- The header of a record that fills consecutive slots from the array behind it. -/
structure SlotRun where
  first : UInt32
  count : UInt32
  deriving DecidableEq, Repr

def SlotRun.layout : FixedLayout SlotRun :=
  (FixedLayout.word.pair .word).convert
    (fun (first, count) => ⟨first, count⟩) (fun run => (run.first, run.count))
    (fun _ => rfl) (fun _ => rfl)

/-- A viewport rectangle with its range of depths. -/
structure Viewport where
  x : FloatBits
  y : FloatBits
  width : FloatBits
  height : FloatBits
  minDepth : FloatBits
  maxDepth : FloatBits
  deriving DecidableEq, Repr

def Viewport.layout : FixedLayout Viewport :=
  let number := FloatBits.layout
  (number.pair (.pair number (.pair number (.pair number (.pair number number))))).convert
    (fun (x, y, width, height, minDepth, maxDepth) => ⟨x, y, width, height, minDepth, maxDepth⟩)
    (fun viewport => (viewport.x, viewport.y, viewport.width, viewport.height, viewport.minDepth,
      viewport.maxDepth))
    (fun _ => rfl) (fun _ => rfl)

/-- A rectangle of pixels. -/
structure Rectangle where
  x : Int32
  y : Int32
  width : UInt32
  height : UInt32
  deriving DecidableEq

def Rectangle.layout : FixedLayout Rectangle :=
  (FixedLayout.signedWord.pair (.pair .signedWord (.pair .word .word))).convert
    (fun (x, y, width, height) => ⟨x, y, width, height⟩)
    (fun rectangle => (rectangle.x, rectangle.y, rectangle.width, rectangle.height))
    (fun _ => rfl) (fun _ => rfl)

/-- A part of a buffer bound as a source of vertices. -/
structure VertexBufferView where
  buffer : Handle
  offset : UInt64
  size : UInt32
  stride : UInt32
  deriving DecidableEq, Repr

def VertexBufferView.layout : FixedLayout VertexBufferView :=
  (Handle.layout.pair (.pair .doubleWord (.pair .word .word))).convert
    (fun (buffer, offset, size, stride) => ⟨buffer, offset, size, stride⟩)
    (fun view => (view.buffer, view.offset, view.size, view.stride))
    (fun _ => rfl) (fun _ => rfl)

/-- A part of a buffer bound as the indices. -/
structure IndexBufferView where
  buffer : Handle
  offset : UInt64
  size : UInt32
  format : UInt32
  deriving DecidableEq, Repr

def IndexBufferView.layout : FixedLayout IndexBufferView :=
  (Handle.layout.pair (.pair .doubleWord (.pair .word .word))).convert
    (fun (buffer, offset, size, format) => ⟨buffer, offset, size, format⟩)
    (fun view => (view.buffer, view.offset, view.size, view.format))
    (fun _ => rfl) (fun _ => rfl)

/-- Where inline constants go: a root slot and the first word in it. -/
structure RootConstantRun where
  slot : UInt32
  first : UInt32
  count : UInt32
  deriving DecidableEq, Repr

def RootConstantRun.layout : FixedLayout RootConstantRun :=
  (FixedLayout.word.pair (.pair .word .word)).convert
    (fun (slot, first, count) => ⟨slot, first, count⟩)
    (fun run => (run.slot, run.first, run.count))
    (fun _ => rfl) (fun _ => rfl)

/-- A position in a buffer for a root slot. The record does not say whether the shader sees
constants, a read-only or a writable buffer there: replay takes that from the root layout. -/
structure RootBufferBinding where
  buffer : Handle
  offset : UInt64
  slot : UInt32
  reserved : UInt32
  deriving DecidableEq, Repr

def RootBufferBinding.layout : FixedLayout RootBufferBinding :=
  (Handle.layout.pair (.pair .doubleWord (.pair .word .word))).convert
    (fun (buffer, offset, slot, reserved) => ⟨buffer, offset, slot, reserved⟩)
    (fun binding => (binding.buffer, binding.offset, binding.slot, binding.reserved))
    (fun _ => rfl) (fun _ => rfl)

/-- A range of descriptors bound to a root slot. -/
structure TableBinding where
  range : DescriptorRange
  slot : UInt32
  deriving DecidableEq, Repr

def TableBinding.layout : FixedLayout TableBinding :=
  (DescriptorRange.layout.pair .word).convert
    (fun (range, slot) => ⟨range, slot⟩) (fun binding => (binding.range, binding.slot))
    (fun _ => rfl) (fun _ => rfl)

/-- The header of a render pass. A null handle stands for no depth attachment. -/
structure RenderPassHeader where
  depth : Handle
  depthLoad : UInt32
  depthStore : UInt32
  depthClear : FloatBits
  stencilClear : UInt32
  colorCount : UInt32
  deriving DecidableEq, Repr

def RenderPassHeader.layout : FixedLayout RenderPassHeader :=
  (Handle.layout.pair
      (.pair .word (.pair .word (.pair FloatBits.layout (.pair .word .word))))).convert
    (fun (depth, depthLoad, depthStore, depthClear, stencilClear, colorCount) =>
      ⟨depth, depthLoad, depthStore, depthClear, stencilClear, colorCount⟩)
    (fun header => (header.depth, header.depthLoad, header.depthStore, header.depthClear,
      header.stencilClear, header.colorCount))
    (fun _ => rfl) (fun _ => rfl)

/-- Four components of a color. -/
structure ColorValue where
  red : FloatBits
  green : FloatBits
  blue : FloatBits
  alpha : FloatBits
  deriving DecidableEq, Repr

def ColorValue.layout : FixedLayout ColorValue :=
  let number := FloatBits.layout
  (number.pair (.pair number (.pair number number))).convert
    (fun (red, green, blue, alpha) => ⟨red, green, blue, alpha⟩)
    (fun color => (color.red, color.green, color.blue, color.alpha))
    (fun _ => rfl) (fun _ => rfl)

/-- A texture that a render pass draws colors into, with the words of its load and store. -/
structure ColorAttachment where
  texture : Handle
  load : UInt32
  store : UInt32
  clear : ColorValue
  deriving DecidableEq, Repr

def ColorAttachment.layout : FixedLayout ColorAttachment :=
  (Handle.layout.pair (.pair .word (.pair .word ColorValue.layout))).convert
    (fun (texture, load, store, clear) => ⟨texture, load, store, clear⟩)
    (fun attachment => (attachment.texture, attachment.load, attachment.store, attachment.clear))
    (fun _ => rfl) (fun _ => rfl)

/-- The numbers from `start` up to but not including `stop`. -/
structure Span where
  start : UInt32
  stop : UInt32
  deriving DecidableEq, Repr

/-- How many numbers the span holds; a reversed span holds none. -/
def Span.count (span : Span) : UInt32 := UInt32.ofNat (span.stop.toNat - span.start.toNat)

/-- A draw of consecutive vertices. -/
structure DrawArguments where
  vertexCount : UInt32
  instanceCount : UInt32
  firstVertex : UInt32
  firstInstance : UInt32
  deriving DecidableEq, Repr

def DrawArguments.layout : FixedLayout DrawArguments :=
  (FixedLayout.word.pair (.pair .word (.pair .word .word))).convert
    (fun (vertexCount, instanceCount, firstVertex, firstInstance) =>
      ⟨vertexCount, instanceCount, firstVertex, firstInstance⟩)
    (fun draw => (draw.vertexCount, draw.instanceCount, draw.firstVertex, draw.firstInstance))
    (fun _ => rfl) (fun _ => rfl)

/-- A draw of the vertices that consecutive indices select. -/
structure IndexedDrawArguments where
  indexCount : UInt32
  instanceCount : UInt32
  firstIndex : UInt32
  baseVertex : Int32
  firstInstance : UInt32
  deriving DecidableEq

def IndexedDrawArguments.layout : FixedLayout IndexedDrawArguments :=
  (FixedLayout.word.pair (.pair .word (.pair .word (.pair .signedWord .word)))).convert
    (fun (indexCount, instanceCount, firstIndex, baseVertex, firstInstance) =>
      ⟨indexCount, instanceCount, firstIndex, baseVertex, firstInstance⟩)
    (fun draw => (draw.indexCount, draw.instanceCount, draw.firstIndex, draw.baseVertex,
      draw.firstInstance))
    (fun _ => rfl) (fun _ => rfl)

/-- The number of work groups of a dispatch along each axis. -/
structure GroupCount where
  x : UInt32
  y : UInt32
  z : UInt32
  deriving DecidableEq, Repr

def GroupCount.layout : FixedLayout GroupCount :=
  (FixedLayout.word.pair (.pair .word .word)).convert
    (fun (x, y, z) => ⟨x, y, z⟩) (fun groups => (groups.x, groups.y, groups.z))
    (fun _ => rfl) (fun _ => rfl)

/-- A copy of bytes from one buffer to another. -/
structure BufferCopy where
  source : Handle
  destination : Handle
  sourceOffset : UInt64
  destinationOffset : UInt64
  size : UInt64
  deriving DecidableEq, Repr

def BufferCopy.layout : FixedLayout BufferCopy :=
  (Handle.layout.pair
      (.pair Handle.layout (.pair .doubleWord (.pair .doubleWord .doubleWord)))).convert
    (fun (source, destination, sourceOffset, destinationOffset, size) =>
      ⟨source, destination, sourceOffset, destinationOffset, size⟩)
    (fun copy => (copy.source, copy.destination, copy.sourceOffset, copy.destinationOffset,
      copy.size))
    (fun _ => rfl) (fun _ => rfl)

/-- The lengths of the two arrays of a barrier record. -/
structure BarrierCounts where
  transitionCount : UInt32
  unorderedAccessCount : UInt32
  deriving DecidableEq, Repr

def BarrierCounts.layout : FixedLayout BarrierCounts :=
  (FixedLayout.word.pair .word).convert
    (fun (transitionCount, unorderedAccessCount) => ⟨transitionCount, unorderedAccessCount⟩)
    (fun counts => (counts.transitionCount, counts.unorderedAccessCount))
    (fun _ => rfl) (fun _ => rfl)

/-- The subresource that stands for every level and layer. -/
def allSubresources : UInt32 := 0xFFFFFFFF

/-- A change of the state of a buffer or of a subresource of a texture. -/
structure TransitionBarrier where
  resource : Handle
  kind : UInt32
  subresource : UInt32
  before : UInt32
  after : UInt32
  deriving DecidableEq, Repr

def TransitionBarrier.layout : FixedLayout TransitionBarrier :=
  (Handle.layout.pair (.pair .word (.pair .word (.pair .word .word)))).convert
    (fun (resource, kind, subresource, before, after) =>
      ⟨resource, kind, subresource, before, after⟩)
    (fun barrier => (barrier.resource, barrier.kind, barrier.subresource, barrier.before,
      barrier.after))
    (fun _ => rfl) (fun _ => rfl)

/-- An order between the unordered accesses to a resource; a null handle orders all of them. -/
structure UnorderedAccessBarrier where
  resource : Handle
  kind : UInt32
  deriving DecidableEq, Repr

def UnorderedAccessBarrier.layout : FixedLayout UnorderedAccessBarrier :=
  (Handle.layout.pair .word).convert
    (fun (resource, kind) => ⟨resource, kind⟩) (fun barrier => (barrier.resource, barrier.kind))
    (fun _ => rfl) (fun _ => rfl)

/-- The hand-over of shared memory from one resource to the next; on either side a null handle
leaves open which resource that is. -/
structure AliasingBarrier where
  before : Handle
  beforeKind : UInt32
  after : Handle
  afterKind : UInt32
  deriving DecidableEq, Repr

def AliasingBarrier.layout : FixedLayout AliasingBarrier :=
  (Handle.layout.pair (.pair .word (.pair Handle.layout .word))).convert
    (fun (before, beforeKind, after, afterKind) => ⟨before, beforeKind, after, afterKind⟩)
    (fun barrier => (barrier.before, barrier.beforeKind, barrier.after, barrier.afterKind))
    (fun _ => rfl) (fun _ => rfl)

end CommandStream
