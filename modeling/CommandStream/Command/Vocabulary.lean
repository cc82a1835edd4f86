import CommandStream.Enumeration
/-!
# Enumerations that travel in command records

Each of them is stored as a word, and a record may hold any word there: whether the word is the
code of a value is decided when the record is replayed.
-/

namespace CommandStream

/-- The primitives that consecutive vertices form. -/
inductive PrimitiveTopology
  | pointList
  | lineList
  | lineStrip
  | triangleList
  | triangleStrip
  deriving DecidableEq, Repr

instance : WireEnumeration PrimitiveTopology where
  all := [.pointList, .lineList, .lineStrip, .triangleList, .triangleStrip]
  name
    | .pointList => "PointList"
    | .lineList => "LineList"
    | .lineStrip => "LineStrip"
    | .triangleList => "TriangleList"
    | .triangleStrip => "TriangleStrip"
  mem_all value := by cases value <;> decide
  code
    | .pointList => 0
    | .lineList => 1
    | .lineStrip => 2
    | .triangleList => 3
    | .triangleStrip => 4
  codes_nodup := by decide

/-- The width of the indices of an index buffer. -/
inductive IndexFormat
  | uint16
  | uint32
  deriving DecidableEq, Repr

instance : WireEnumeration IndexFormat where
  all := [.uint16, .uint32]
  name
    | .uint16 => "Uint16"
    | .uint32 => "Uint32"
  mem_all value := by cases value <;> decide
  code
    | .uint16 => 0
    | .uint32 => 1
  codes_nodup := by decide

/-- The bytes from one index to the next. -/
def IndexFormat.stride : IndexFormat → Nat
  | .uint16 => 2
  | .uint32 => 4

/-- How an attachment enters a render pass. -/
inductive LoadOperation
  | load
  | clear
  | dontCare
  deriving DecidableEq, Repr

instance : WireEnumeration LoadOperation where
  all := [.load, .clear, .dontCare]
  name
    | .load => "Load"
    | .clear => "Clear"
    | .dontCare => "DontCare"
  mem_all value := by cases value <;> decide
  code
    | .load => 0
    | .clear => 1
    | .dontCare => 2
  codes_nodup := by decide

/-- How an attachment leaves a render pass. -/
inductive StoreOperation
  | store
  | dontCare
  deriving DecidableEq, Repr

instance : WireEnumeration StoreOperation where
  all := [.store, .dontCare]
  name
    | .store => "Store"
    | .dontCare => "DontCare"
  mem_all value := by cases value <;> decide
  code
    | .store => 0
    | .dontCare => 1
  codes_nodup := by decide

/-- The table against which the handle of a barrier is resolved. -/
inductive BarrierResource
  | buffer
  | texture
  deriving DecidableEq, Repr

instance : WireEnumeration BarrierResource where
  all := [.buffer, .texture]
  name
    | .buffer => "Buffer"
    | .texture => "Texture"
  mem_all value := by cases value <;> decide
  code
    | .buffer => 0
    | .texture => 1
  codes_nodup := by decide

/-- The kind of a command record; its code is the tag that the record begins with. Zero is the
tag of no record. -/
inductive CommandTag
  | setPipeline
  | setTopology
  | setViewports
  | setScissors
  | setVertexBuffers
  | setIndexBuffer
  | setRootConstants
  | setRootBuffer
  | setDescriptorTable
  | beginRenderPass
  | endRenderPass
  | draw
  | drawIndexed
  | dispatch
  | copyBuffer
  | resourceBarriers
  | aliasingBarriers
  deriving DecidableEq, Repr

instance : WireEnumeration CommandTag where
  all := [.setPipeline, .setTopology, .setViewports, .setScissors, .setVertexBuffers,
    .setIndexBuffer, .setRootConstants, .setRootBuffer, .setDescriptorTable, .beginRenderPass,
    .endRenderPass, .draw, .drawIndexed, .dispatch, .copyBuffer, .resourceBarriers,
    .aliasingBarriers]
  name
    | .setPipeline => "SetPipeline"
    | .setTopology => "SetTopology"
    | .setViewports => "SetViewports"
    | .setScissors => "SetScissors"
    | .setVertexBuffers => "SetVertexBuffers"
    | .setIndexBuffer => "SetIndexBuffer"
    | .setRootConstants => "SetRootConstants"
    | .setRootBuffer => "SetRootBuffer"
    | .setDescriptorTable => "SetDescriptorTable"
    | .beginRenderPass => "BeginRenderPass"
    | .endRenderPass => "EndRenderPass"
    | .draw => "Draw"
    | .drawIndexed => "DrawIndexed"
    | .dispatch => "Dispatch"
    | .copyBuffer => "CopyBuffer"
    | .resourceBarriers => "ResourceBarriers"
    | .aliasingBarriers => "AliasingBarriers"
  mem_all value := by cases value <;> decide
  code
    | .setPipeline => 1
    | .setTopology => 2
    | .setViewports => 3
    | .setScissors => 4
    | .setVertexBuffers => 5
    | .setIndexBuffer => 6
    | .setRootConstants => 7
    | .setRootBuffer => 8
    | .setDescriptorTable => 9
    | .beginRenderPass => 10
    | .endRenderPass => 11
    | .draw => 12
    | .drawIndexed => 13
    | .dispatch => 14
    | .copyBuffer => 15
    | .resourceBarriers => 16
    | .aliasingBarriers => 17
  codes_nodup := by decide

end CommandStream
