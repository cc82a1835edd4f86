import CommandStream.Command.Encoding
import CommandStream.Command.Walk
/-!
# Records of commands

What the stored form of a command looks like, said without layouts: how large the header of each
kind is, which counts a command announces, and that its record has no padding. A record whose
arrays can be counted is read back wherever it stands, and every encoding call appends the record
of a command.
-/

namespace CommandStream

/-! ## Lengths -/

/-- A record ends where a word ends. -/
theorem dvd_recordLength (fixed : Nat) (arrays : List Nat) : 4 ∣ recordLength fixed arrays :=
  ⟨_, Nat.mul_comm _ _⟩

/-- The bytes of the header of each kind of record. -/
def CommandTag.headerSize : CommandTag → Nat
  | .setPipeline => 8
  | .setTopology => 4
  | .setViewports => 8
  | .setScissors => 8
  | .setVertexBuffers => 8
  | .setIndexBuffer => 24
  | .setRootConstants => 12
  | .setRootBuffer => 24
  | .setDescriptorTable => 12
  | .beginRenderPass => 28
  | .endRenderPass => 0
  | .draw => 16
  | .drawIndexed => 20
  | .dispatch => 12
  | .copyBuffer => 40
  | .resourceBarriers => 8
  | .aliasingBarriers => 4

/-- The tag alone fixes the size of the header. -/
theorem CommandTag.length_header (tag : CommandTag) (arguments : tag.Arguments) :
    (tag.layout.header arguments).length = tag.headerSize := by
  cases tag <;>
    simp only [layout, RecordLayout.plain, RecordLayout.array, SlotRun.record,
      RootConstantRun.record, RenderPassHeader.record, TransitionBarrier.record,
      BarrierCounts.record, AliasingBarrier.record, FixedLayout.length_write] <;>
    rfl

/-! ## Counts -/

namespace Command

/-- The numbers of elements of the arrays of a command. -/
def arrayLengths : Command → List Nat
  | ⟨.setViewports, (_, viewports)⟩ => [viewports.length]
  | ⟨.setScissors, (_, rectangles)⟩ => [rectangles.length]
  | ⟨.setVertexBuffers, (_, views)⟩ => [views.length]
  | ⟨.setRootConstants, (_, values)⟩ => [values.length]
  | ⟨.beginRenderPass, (_, colors)⟩ => [colors.length]
  | ⟨.resourceBarriers, ((_, transitions), unorderedAccess)⟩ =>
    [transitions.length, unorderedAccess.length]
  | ⟨.aliasingBarriers, (_, barriers)⟩ => [barriers.length]
  | _ => []

/-- A count is a word of the header, so an array can be announced only if a word can say how
many elements it has. -/
def Countable (command : Command) : Prop :=
  ∀ length ∈ command.arrayLengths, length < 4294967296

/-- The command with each count field replaced by the length of its array, and nothing else
changed. -/
def counted : Command → Command
  | ⟨.setViewports, (run, viewports)⟩ =>
    ⟨.setViewports, ({ run with count := UInt32.ofNat viewports.length }, viewports)⟩
  | ⟨.setScissors, (run, rectangles)⟩ =>
    ⟨.setScissors, ({ run with count := UInt32.ofNat rectangles.length }, rectangles)⟩
  | ⟨.setVertexBuffers, (run, views)⟩ =>
    ⟨.setVertexBuffers, ({ run with count := UInt32.ofNat views.length }, views)⟩
  | ⟨.setRootConstants, (run, values)⟩ =>
    ⟨.setRootConstants, ({ run with count := UInt32.ofNat values.length }, values)⟩
  | ⟨.beginRenderPass, (header, colors)⟩ =>
    ⟨.beginRenderPass, ({ header with colorCount := UInt32.ofNat colors.length }, colors)⟩
  | ⟨.resourceBarriers, ((_, transitions), unorderedAccess)⟩ =>
    ⟨.resourceBarriers,
      ((⟨UInt32.ofNat transitions.length, UInt32.ofNat unorderedAccess.length⟩, transitions),
        unorderedAccess)⟩
  | ⟨.aliasingBarriers, (_, barriers)⟩ =>
    ⟨.aliasingBarriers, (UInt32.ofNat barriers.length, barriers)⟩
  | command => command

/-- What the layouts call settled is the command with its true counts. -/
theorem settle_eq_counted (command : Command) : command.settle = command.counted := by
  obtain ⟨tag, arguments⟩ := command
  cases tag <;> rfl

/-- A command is countable exactly when its layout can announce its arrays. -/
theorem countable_iff (command : Command) :
    command.Countable ↔ command.tag.layout.Countable command.arguments := by
  obtain ⟨tag, arguments⟩ := command
  cases tag <;>
    simp [Countable, arrayLengths, CommandTag.layout, RecordLayout.plain, RecordLayout.array,
      SlotRun.record, RootConstantRun.record, RenderPassHeader.record, TransitionBarrier.record,
      BarrierCounts.record, AliasingBarrier.record]

/-- The true counts of a countable command agree with its arrays. -/
theorem settled_counted {command : Command} (countable : command.Countable) :
    command.counted.tag.layout.Settled command.counted.arguments := by
  rw [← settle_eq_counted]
  exact command.tag.layout.settled_settle (command.countable_iff.mp countable)

/-- Counting again changes nothing. -/
theorem counted_counted (command : Command) : command.counted.counted = command.counted := by
  obtain ⟨tag, arguments⟩ := command
  cases tag <;> rfl

/-- The length of a record does not depend on what the counts say. -/
theorem encodedLength_counted (command : Command) :
    command.counted.encodedLength = command.encodedLength := by
  rw [← settle_eq_counted]
  simp only [encodedLength, settle, CommandTag.length_header,
    command.tag.layout.arrays_settle command.arguments]

/-- The length of a record is a multiple of the word size. -/
theorem dvd_encodedLength (command : Command) : 4 ∣ command.encodedLength :=
  dvd_recordLength _ _

/-! ## The stored form -/

/-- Tag, header and arrays of a command one behind the other, with the counts that it has. -/
def stored (command : Command) : List UInt8 :=
  FixedLayout.word.write (WireEnumeration.code command.tag) ++
    command.tag.layout.write command.arguments

/-- The record of a command, which announces the arrays that are there. -/
def record (command : Command) : List UInt8 := command.counted.stored

/-- A stored command is as long as it says. -/
theorem length_stored (command : Command) : command.stored.length = command.encodedLength := by
  have body := command.tag.layout.wholeWords command.arguments
  have tagLength := FixedLayout.word.length_write (WireEnumeration.code command.tag)
  have wordBytes : FixedLayout.word.size = 4 := rfl
  simp only [stored, encodedLength, recordLength, alignToWord, wordSize, total_map_length,
    RecordLayout.write, List.length_append]
  omega

/-- Tag, header and arrays of a command fill whole words, so it is stored without padding. -/
theorem recordBytes_eq_stored (command : Command) :
    recordBytes command.tag (command.tag.layout.header command.arguments)
      (command.tag.layout.arrays command.arguments) = command.stored := by
  have length := command.length_stored
  rw [stored, RecordLayout.write, ← List.append_assoc, encodedLength] at length
  simp only [recordBytes, stored, RecordLayout.write, ← List.append_assoc, ← length,
    Nat.sub_self, List.replicate_zero, List.append_nil]

/-- A record is as long as its command says. -/
theorem length_record (command : Command) : command.record.length = command.encodedLength := by
  rw [record, length_stored, encodedLength_counted]

/-- A record has at least its tag. -/
theorem encodedLength_pos (command : Command) : 0 < command.encodedLength := by
  rw [← length_stored, stored, List.length_append, FixedLayout.length_write]
  exact Nat.lt_of_lt_of_le (by decide : 0 < FixedLayout.word.size) (Nat.le_add_right _ _)

/-- The record of a countable command is read back in front of any rest, wherever it begins. -/
theorem read_record {command : Command} (countable : command.Countable) (offset : Nat)
    (rest : List UInt8) :
    read offset (command.record ++ rest) = .ok (command.counted, rest) := by
  have body : command.counted.tag.layout.read
      (command.counted.tag.layout.write command.counted.arguments ++ rest) =
        some (command.counted.arguments, rest) :=
    command.counted.tag.layout.read_eq_some_iff.mpr ⟨settled_counted countable, rfl⟩
  rw [record, stored, List.append_assoc, read, FixedLayout.read_write]
  simp only [WireEnumeration.ofCode?_code, body]

/-- The pipeline that a command binds, if it binds one. -/
def pipeline? : Command → Option Handle
  | ⟨.setPipeline, handle⟩ => some handle
  | _ => none

@[simp] theorem pipeline?_counted (command : Command) :
    command.counted.pipeline? = command.pipeline? := by
  obtain ⟨tag, arguments⟩ := command
  cases tag <;> rfl

end Command

namespace CommandBuffer

/-- Of all commands, those that bind a pipeline give it away by their tag and header. -/
theorem pipelineOf_header (command : Command) :
    pipelineOf command.tag (command.tag.layout.header command.arguments) =
      command.pipeline? := by
  obtain ⟨tag, arguments⟩ := command
  cases tag
  case setPipeline =>
    have read := Handle.layout.read_write arguments []
    rw [List.append_nil] at read
    show (if _ then (Handle.layout.read (Handle.layout.write arguments)).map Prod.fst else none) =
      some arguments
    rw [if_pos ⟨rfl, Handle.layout.length_write arguments⟩, read]
    rfl
  all_goals exact if_neg (fun both => nomatch both.1)

/-- Appending a command appends its record and counts it; the pipeline that it binds is noted
unless one was before. -/
theorem append_eq (buffer : CommandBuffer) (command : Command) :
    buffer.append command =
      ⟨buffer.bytes ++ command.record, buffer.count + 1,
        buffer.firstPipeline.or command.pipeline?⟩ := by
  rw [← Command.pipeline?_counted, Command.record, ← Command.settle_eq_counted,
    ← Command.recordBytes_eq_stored, ← pipelineOf_header]
  rfl

/-- Only the true counts of a command reach a buffer. -/
theorem append_counted (buffer : CommandBuffer) (command : Command) :
    buffer.append command.counted = buffer.append command := by
  rw [append_eq, append_eq, Command.record, Command.record, Command.counted_counted,
    Command.pipeline?_counted]

end CommandBuffer

/-! ## Encoding calls -/

/-- The command whose record an encoding call appends. -/
def EncodeCall.command : EncodeCall → Command
  | .setPipeline pipeline => ⟨.setPipeline, pipeline⟩
  | .setTopology topology => ⟨.setTopology, WireEnumeration.code topology⟩
  | .setViewports first viewports =>
    ⟨.setViewports, (⟨first, UInt32.ofNat viewports.length⟩, viewports)⟩
  | .setScissors first rectangles =>
    ⟨.setScissors, (⟨first, UInt32.ofNat rectangles.length⟩, rectangles)⟩
  | .setVertexBuffers firstSlot views =>
    ⟨.setVertexBuffers, (⟨firstSlot, UInt32.ofNat views.length⟩, views)⟩
  | .setIndexBuffer buffer offset size format =>
    ⟨.setIndexBuffer, ⟨buffer, offset, size, WireEnumeration.code format⟩⟩
  | .setRootConstants slot first values =>
    ⟨.setRootConstants, (⟨slot, first, UInt32.ofNat values.length⟩, values)⟩
  | .setRootBuffer slot buffer offset => ⟨.setRootBuffer, ⟨buffer, offset, slot, 0⟩⟩
  | .setDescriptorTable slot range => ⟨.setDescriptorTable, ⟨range, slot⟩⟩
  | .beginRenderPass colors depth =>
    ⟨.beginRenderPass, (RenderPassHeader.ofAttachments colors depth, colors)⟩
  | .endRenderPass => ⟨.endRenderPass, ()⟩
  | .draw vertices instances =>
    ⟨.draw, ⟨vertices.count, instances.count, vertices.start, instances.start⟩⟩
  | .drawIndexed indices baseVertex instances =>
    ⟨.drawIndexed,
      ⟨indices.count, instances.count, indices.start, baseVertex, instances.start⟩⟩
  | .dispatch count => ⟨.dispatch, count⟩
  | .copyBuffer source sourceOffset destination destinationOffset size =>
    ⟨.copyBuffer, ⟨source, destination, sourceOffset, destinationOffset, size⟩⟩
  | .resourceBarriers transitions unorderedAccess =>
    ⟨.resourceBarriers,
      ((⟨UInt32.ofNat transitions.length, UInt32.ofNat unorderedAccess.length⟩, transitions),
        unorderedAccess)⟩
  | .aliasingBarriers barriers =>
    ⟨.aliasingBarriers, (UInt32.ofNat barriers.length, barriers)⟩

namespace EncodeCall

/-- An encoding call announces its arrays itself. -/
@[simp] theorem counted_command (call : EncodeCall) : call.command.counted = call.command := by
  cases call with
  | beginRenderPass colors depth => cases depth <;> rfl
  | _ => rfl

/-- An encoding call appends the record of its command. -/
theorem encode_eq_append (buffer : CommandBuffer) (call : EncodeCall) :
    buffer.encode call = buffer.append call.command := by
  cases call with
  | beginRenderPass colors depth => cases depth <;> rfl
  | _ => rfl

end EncodeCall

end CommandStream
