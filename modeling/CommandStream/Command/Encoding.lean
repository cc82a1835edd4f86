import CommandStream.Command.Buffer
/-!
# Encoding calls

The calls through which a caller fills a command buffer, one for each kind of record. Arguments
that are enumerations here are words in the record, a span of numbers becomes its start and its
count, and an array is announced with its length. A call appends bytes and checks nothing.
-/

namespace CommandStream

/-- A color attachment whose contents are loaded first and stored last. -/
def ColorAttachment.loading (texture : Handle) : ColorAttachment where
  texture := texture
  load := WireEnumeration.code LoadOperation.load
  store := WireEnumeration.code StoreOperation.store
  clear := ⟨.zero, .zero, .zero, .zero⟩

/-- An attachment that is cleared to a color and stored. -/
def ColorAttachment.clearing (texture : Handle) (color : ColorValue) : ColorAttachment :=
  { loading texture with load := WireEnumeration.code LoadOperation.clear, clear := color }

/-- A texture that holds the depths of a render pass, with what to do to it at either end. -/
structure DepthAttachment where
  texture : Handle
  load : LoadOperation
  store : StoreOperation
  clearDepth : FloatBits
  clearStencil : UInt32
  deriving DecidableEq, Repr

/-- The header of a render pass. Without a depth attachment the texture is null and the other
fields hold what leaves any attachment undefined. -/
def RenderPassHeader.ofAttachments (colors : List ColorAttachment) :
    Option DepthAttachment → RenderPassHeader
  | some depth =>
    ⟨depth.texture, WireEnumeration.code depth.load, WireEnumeration.code depth.store,
      depth.clearDepth, depth.clearStencil, UInt32.ofNat colors.length⟩
  | none =>
    ⟨Handle.null, WireEnumeration.code LoadOperation.dontCare,
      WireEnumeration.code StoreOperation.dontCare, .one, 0, UInt32.ofNat colors.length⟩

/-- A transition of a whole buffer. -/
def TransitionBarrier.ofBuffer (buffer : Handle) (before after : ResourceState) :
    TransitionBarrier :=
  ⟨buffer, WireEnumeration.code BarrierResource.buffer, allSubresources, before.bits, after.bits⟩

/-- A transition of a texture, as a whole for `allSubresources`. -/
def TransitionBarrier.ofTexture (texture : Handle) (subresource : UInt32)
    (before after : ResourceState) : TransitionBarrier :=
  ⟨texture, WireEnumeration.code BarrierResource.texture, subresource, before.bits, after.bits⟩

/-- A barrier on one buffer. -/
def UnorderedAccessBarrier.ofBuffer (buffer : Handle) : UnorderedAccessBarrier :=
  ⟨buffer, WireEnumeration.code BarrierResource.buffer⟩

/-- A barrier on one texture. -/
def UnorderedAccessBarrier.ofTexture (texture : Handle) : UnorderedAccessBarrier :=
  ⟨texture, WireEnumeration.code BarrierResource.texture⟩

/-- A barrier on every resource. -/
def UnorderedAccessBarrier.global : UnorderedAccessBarrier := ofBuffer Handle.null

/-- A switch between two buffers. -/
def AliasingBarrier.ofBuffers (before after : Handle) : AliasingBarrier :=
  ⟨before, WireEnumeration.code BarrierResource.buffer, after,
    WireEnumeration.code BarrierResource.buffer⟩

/-- A switch between two textures. -/
def AliasingBarrier.ofTextures (before after : Handle) : AliasingBarrier :=
  ⟨before, WireEnumeration.code BarrierResource.texture, after,
    WireEnumeration.code BarrierResource.texture⟩

/-- A call that appends one record. -/
inductive EncodeCall
  | setPipeline (pipeline : Handle)
  | setTopology (topology : PrimitiveTopology)
  | setViewports (first : UInt32) (viewports : List Viewport)
  | setScissors (first : UInt32) (rectangles : List Rectangle)
  | setVertexBuffers (firstSlot : UInt32) (views : List VertexBufferView)
  | setIndexBuffer (buffer : Handle) (offset : UInt64) (size : UInt32) (format : IndexFormat)
  | setRootConstants (slot first : UInt32) (values : List UInt32)
  | setRootBuffer (slot : UInt32) (buffer : Handle) (offset : UInt64)
  | setDescriptorTable (slot : UInt32) (range : DescriptorRange)
  | beginRenderPass (colors : List ColorAttachment) (depth : Option DepthAttachment)
  | endRenderPass
  | draw (vertices instances : Span)
  | drawIndexed (indices : Span) (baseVertex : Int32) (instances : Span)
  | dispatch (count : GroupCount)
  | copyBuffer (source : Handle) (sourceOffset : UInt64) (destination : Handle)
      (destinationOffset size : UInt64)
  | resourceBarriers (transitions : List TransitionBarrier)
      (unorderedAccess : List UnorderedAccessBarrier)
  | aliasingBarriers (barriers : List AliasingBarrier)

/-- Appends the record of an encoding call. -/
def CommandBuffer.encode (buffer : CommandBuffer) : EncodeCall → CommandBuffer
  | .setPipeline pipeline => buffer.write .setPipeline (Handle.layout.write pipeline) []
  | .setTopology topology =>
    buffer.write .setTopology (FixedLayout.word.write (WireEnumeration.code topology)) []
  | .setViewports first viewports =>
    buffer.write .setViewports
      (SlotRun.layout.write ⟨first, UInt32.ofNat viewports.length⟩)
      [Viewport.layout.writeAll viewports]
  | .setScissors first rectangles =>
    buffer.write .setScissors
      (SlotRun.layout.write ⟨first, UInt32.ofNat rectangles.length⟩)
      [Rectangle.layout.writeAll rectangles]
  | .setVertexBuffers firstSlot views =>
    buffer.write .setVertexBuffers
      (SlotRun.layout.write ⟨firstSlot, UInt32.ofNat views.length⟩)
      [VertexBufferView.layout.writeAll views]
  | .setIndexBuffer source offset size format =>
    buffer.write .setIndexBuffer
      (IndexBufferView.layout.write ⟨source, offset, size, WireEnumeration.code format⟩) []
  | .setRootConstants slot first values =>
    buffer.write .setRootConstants
      (RootConstantRun.layout.write ⟨slot, first, UInt32.ofNat values.length⟩)
      [FixedLayout.word.writeAll values]
  | .setRootBuffer slot source offset =>
    buffer.write .setRootBuffer (RootBufferBinding.layout.write ⟨source, offset, slot, 0⟩) []
  | .setDescriptorTable slot range =>
    buffer.write .setDescriptorTable (TableBinding.layout.write ⟨range, slot⟩) []
  | .beginRenderPass colors depth =>
    buffer.write .beginRenderPass
      (RenderPassHeader.layout.write (RenderPassHeader.ofAttachments colors depth))
      [ColorAttachment.layout.writeAll colors]
  | .endRenderPass => buffer.write .endRenderPass [] []
  | .draw vertices instances =>
    buffer.write .draw
      (DrawArguments.layout.write
        ⟨vertices.count, instances.count, vertices.start, instances.start⟩) []
  | .drawIndexed indices baseVertex instances =>
    buffer.write .drawIndexed
      (IndexedDrawArguments.layout.write
        ⟨indices.count, instances.count, indices.start, baseVertex, instances.start⟩) []
  | .dispatch count => buffer.write .dispatch (GroupCount.layout.write count) []
  | .copyBuffer source sourceOffset destination destinationOffset size =>
    buffer.write .copyBuffer
      (BufferCopy.layout.write ⟨source, destination, sourceOffset, destinationOffset, size⟩) []
  | .resourceBarriers transitions unorderedAccess =>
    buffer.write .resourceBarriers
      (BarrierCounts.layout.write
        ⟨UInt32.ofNat transitions.length, UInt32.ofNat unorderedAccess.length⟩)
      [TransitionBarrier.layout.writeAll transitions,
        UnorderedAccessBarrier.layout.writeAll unorderedAccess]
  | .aliasingBarriers barriers =>
    buffer.write .aliasingBarriers (FixedLayout.word.write (UInt32.ofNat barriers.length))
      [AliasingBarrier.layout.writeAll barriers]

end CommandStream
