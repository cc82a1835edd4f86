import CommandStream.Command.Arguments
import CommandStream.Pipeline
/-!
# Calls to the native layer

The entries of a command list and the events of a queue, as values. Objects of the native layer
appear by identity only.
-/

namespace CommandStream

/-- The identity of a native object. Objects of one device never share an identity, whatever
their kinds. -/
abbrev ObjectId := Nat

/-- The kinds of work that a queue accepts. -/
inductive QueueType
  | graphics
  | compute
  | copy
  deriving DecidableEq, Repr

instance : Enumeration QueueType where
  all := [.graphics, .compute, .copy]
  name
    | .graphics => "Graphics"
    | .compute => "Compute"
    | .copy => "Copy"
  mem_all value := by cases value <;> decide

/-- A barrier as it is handed to a command list. Where an identity is absent the barrier is
about every resource. -/
inductive BarrierCall
  | transition (resource : ObjectId) (subresource : UInt32) (before after : ResourceState)
  | unorderedAccess (resource : Option ObjectId)
  | aliasing (before after : Option ObjectId)
  deriving DecidableEq, Repr

/-- A call made on a command list, as far as the list keeps its arguments. -/
inductive Call
  | reset (allocator : ObjectId) (pipeline : Option ObjectId)
  | setDescriptorHeaps (heaps : List ObjectId)
  | setPipeline (pipeline : ObjectId) (bindPoint : BindPoint)
  | setPrimitiveTopology (topology : PrimitiveTopology)
  | setViewports (first : UInt32) (viewports : List Viewport)
  | setScissors (first : UInt32) (rectangles : List Rectangle)
  | setVertexBuffers (firstSlot : UInt32) (buffers : List (ObjectId × UInt64))
  | setIndexBuffer (buffer : ObjectId) (offset : UInt64) (size : UInt32) (format : IndexFormat)
  | setRootConstants (bindPoint : BindPoint) (slot first : UInt32) (values : List UInt32)
  | setRootDescriptor (bindPoint : BindPoint) (slot : UInt32) (kind : RootDescriptorKind)
      (buffer : ObjectId) (offset : UInt64)
  | setRootDescriptorTable (bindPoint : BindPoint) (slot : UInt32) (base : UInt64)
  | beginRenderPass (colors : List ObjectId) (depth : Option ObjectId)
  | endRenderPass
  | draw (vertices instances : Span)
  | drawIndexed (indices : Span) (baseVertex : Int32) (instances : Span)
  | dispatch (count : GroupCount)
  | copyBuffer (source : ObjectId) (sourceOffset : UInt64) (destination : ObjectId)
      (destinationOffset size : UInt64)
  | resourceBarriers (barriers : List BarrierCall)
  deriving DecidableEq

/-- What reached a queue: a wait for a fence, the calls of the lists that were executed, or a
signal of a fence. -/
inductive QueueEvent
  | wait (fence : ObjectId) (value : Nat)
  | execute (lists : List (List Call))
  | signal (fence : ObjectId) (value : Nat)
  deriving DecidableEq

end CommandStream
