import CommandStream.Proofs.FaithfulReplay
/-!
# Limits of the native layer

A buffer may hold any bytes, and the native layer takes what it is handed on trust. So replay stands
between them: `WithinLimits` says of a call, and of the record that it is made for, that counts,
ranges and words are within what the native layer takes. Every call that a replay appends is, also
those made before a record that fails (`calls_within_limits`).
-/

namespace CommandStream

/-- A word is the code of a value of an enumeration. -/
def WireEnumeration.Known (α : Type) [WireEnumeration α] (word : UInt32) : Prop :=
  ∃ value : α, code value = word

/-- A span is that of `count` numbers from `first`, and it ends at a word. -/
structure Span.Counts (span : Span) (first count : UInt32) : Prop where
  start : span.start = first
  ordered : span.start ≤ span.stop
  length : span.stop.toNat - span.start.toNat = count.toNat
  inside : first.toNat + count.toNat ≤ 4294967295

/-- Both states of a transition have known bits only. -/
def BarrierCall.StatesKnown : BarrierCall → Prop
  | .transition _ _ before after =>
    before.bits &&& ~~~0xEFF = 0 ∧ after.bits &&& ~~~0xEFF = 0
  | _ => True

/-- Whether the native layer limits what a call takes from its record. -/
def Call.isLimited : Call → Bool
  | .setPrimitiveTopology .. | .setVertexBuffers .. | .setIndexBuffer .. | .beginRenderPass .. |
    .draw .. | .drawIndexed .. | .resourceBarriers .. => true
  | _ => false

/-- A call that a record makes is within the limits of the native layer. The operations of an
attachment reach the native layer with the call, which does not keep them. -/
inductive Call.WithinLimits (resources : Resources) : Command → Call → Prop
  | setPrimitiveTopology {word : UInt32} {topology : PrimitiveTopology}
      (known : WireEnumeration.code topology = word) :
      WithinLimits resources ⟨.setTopology, word⟩ (.setPrimitiveTopology topology)
  | setVertexBuffers {run : SlotRun} {views : List VertexBufferView}
      {bindings : List (ObjectId × UInt64)} (fits : run.first.toNat + bindings.length ≤ 16) :
      WithinLimits resources ⟨.setVertexBuffers, (run, views)⟩
        (.setVertexBuffers run.first bindings)
  | setIndexBuffer {view : IndexBufferView} {format : IndexFormat} {buffer : ObjectId}
      (known : WireEnumeration.code format = view.format) :
      WithinLimits resources ⟨.setIndexBuffer, view⟩
        (.setIndexBuffer buffer view.offset view.size format)
  | beginRenderPass {header : RenderPassHeader} {attachments : List ColorAttachment}
      {colors : List ObjectId} {depth : Option ObjectId} (fits : colors.length ≤ 8)
      (colorOperations : ∀ attachment ∈ attachments,
        WireEnumeration.Known LoadOperation attachment.load ∧
          WireEnumeration.Known StoreOperation attachment.store)
      (depthOperations : depth ≠ none →
        WireEnumeration.Known LoadOperation header.depthLoad ∧
          WireEnumeration.Known StoreOperation header.depthStore) :
      WithinLimits resources ⟨.beginRenderPass, (header, attachments)⟩
        (.beginRenderPass colors depth)
  | draw {arguments : DrawArguments} {vertices instances : Span}
      (isVertices : vertices.Counts arguments.firstVertex arguments.vertexCount)
      (isInstances : instances.Counts arguments.firstInstance arguments.instanceCount) :
      WithinLimits resources ⟨.draw, arguments⟩ (.draw vertices instances)
  | drawIndexed {arguments : IndexedDrawArguments} {indices instances : Span}
      (isIndices : indices.Counts arguments.firstIndex arguments.indexCount)
      (isInstances : instances.Counts arguments.firstInstance arguments.instanceCount) :
      WithinLimits resources ⟨.drawIndexed, arguments⟩
        (.drawIndexed indices arguments.baseVertex instances)
  | resourceBarriers {command : Command} {batch : List BarrierCall}
      (some : 1 ≤ batch.length) (bounded : batch.length ≤ 32)
      (yields : ∀ barrier ∈ batch, Interpreter.Yields resources command barrier)
      (states : ∀ barrier ∈ batch, barrier.StatesKnown) :
      WithinLimits resources command (.resourceBarriers batch)
  | unlimited {command : Command} {call : Call} (free : call.isLimited = false) :
      WithinLimits resources command call

/-- A span that is made of a start and a count counts what they say. -/
theorem Span.counts_of_ofCount? {first count : UInt32} {span : Span}
    (found : ofCount? first count = some span) : span.Counts first count := by
  unfold ofCount? at found
  split at found
  · rename_i fits
    cases found
    have stop : (first + count).toNat = first.toNat + count.toNat := by
      rw [UInt32.toNat_add]
      omega
    refine ⟨rfl, UInt32.le_iff_toNat_le.mpr ?_, ?_, Nat.le_of_lt_succ fits⟩
    · rw [stop]
      exact Nat.le_add_right _ _
    · rw [stop, Nat.add_sub_cancel_left]
  · cases found

/-- A transition has no state with an unknown bit. -/
theorem BarrierCall.statesKnown (barrier : BarrierCall) : barrier.StatesKnown := by
  cases barrier with
  | transition resource subresource before after => exact ⟨before.known, after.known⟩
  | unorderedAccess | aliasing => exact trivial

namespace Resources

variable {resources : Resources} {offset : Nat}

/-- A color attachment is found only with operations that are known. -/
theorem known_of_colorObject {attachment : ColorAttachment} {object : ObjectId}
    (found : resources.colorObject offset attachment = .ok object) :
    WireEnumeration.Known LoadOperation attachment.load ∧
      WireEnumeration.Known StoreOperation attachment.store := by
  simp only [colorObject, bind_eq_ok, admitted_eq_ok, WireEnumeration.ofCode?_eq_some_iff] at found
  obtain ⟨_, _, loading, isLoad, storing, isStore, _⟩ := found
  exact ⟨⟨loading, isLoad⟩, ⟨storing, isStore⟩⟩

/-- So is a depth attachment, if there is one. -/
theorem known_of_depthObject {header : RenderPassHeader} {object : Option ObjectId}
    (found : resources.depthObject offset header = .ok object) (present : object ≠ none) :
    WireEnumeration.Known LoadOperation header.depthLoad ∧
      WireEnumeration.Known StoreOperation header.depthStore := by
  unfold depthObject at found
  split at found
  · cases found
    exact absurd rfl present
  · simp only [bind_eq_ok, admitted_eq_ok, WireEnumeration.ofCode?_eq_some_iff] at found
    obtain ⟨_, _, loading, isLoad, storing, isStore, _⟩ := found
    exact ⟨⟨loading, isLoad⟩, ⟨storing, isStore⟩⟩

end Resources

namespace Interpreter

variable {resources : Resources} {interpreter next : Interpreter} {offset : Nat}

/-- A render pass begins only with operations that are known. -/
theorem known_of_beginRenderPass {header : RenderPassHeader} {attachments : List ColorAttachment}
    {colors : List ObjectId} {depth : Option ObjectId}
    (executed : execute resources interpreter offset ⟨.beginRenderPass, (header, attachments)⟩ =
      ⟨[.beginRenderPass colors depth], .ok next⟩) :
    (∀ attachment ∈ attachments,
      WireEnumeration.Known LoadOperation attachment.load ∧
        WireEnumeration.Known StoreOperation attachment.store) ∧
      (depth ≠ none →
        WireEnumeration.Known LoadOperation header.depthLoad ∧
          WireEnumeration.Known StoreOperation header.depthStore) := by
  simp only [execute] at executed
  split at executed
  · obtain ⟨_, ⟨⟩, _⟩ := single_eq_ok.mp executed
  · split at executed
    · obtain ⟨_, ⟨⟩, _⟩ := single_eq_ok.mp executed
    · simp only [single_eq_ok, bind_eq_ok, mapM_eq_ok_iff, pure_eq_ok] at executed
      obtain ⟨_, ⟨_, foundColors, _, foundDepth, ⟨⟩⟩, ⟨⟩⟩ := executed
      refine ⟨fun attachment member => ?_, Resources.known_of_depthObject foundDepth⟩
      obtain ⟨_, _, found⟩ := exists_of_mem_forall₂ foundColors member
      exact Resources.known_of_colorObject found

/-- The calls of a record that is executed are within the limits. -/
theorem withinLimits_of_executed {command : Command} {calls : List Call}
    (executed : execute resources interpreter offset command = ⟨calls, .ok next⟩) {call : Call}
    (member : call ∈ calls) : call.WithinLimits resources command := by
  have executes := executes_of_execute executed
  have batches : ∀ batch, call = .resourceBarriers batch →
      call.WithinLimits resources command := by
    rintro batch rfl
    obtain ⟨some, bounded, yields⟩ := executes.batch member
    exact .resourceBarriers (List.length_pos_of_ne_nil some) bounded yields
      fun barrier _ => barrier.statesKnown
  cases executes with
  | resourceBarriers | aliasingBarriers =>
    obtain ⟨batch, _, isCall⟩ := List.mem_map.mp member
    exact batches batch isCall.symm
  | setTopology known =>
    cases List.mem_singleton.mp member
    exact .setPrimitiveTopology known
  | setVertexBuffers fits found =>
    cases List.mem_singleton.mp member
    exact .setVertexBuffers (found.length_eq ▸ fits)
  | setIndexBuffer known =>
    cases List.mem_singleton.mp member
    exact .setIndexBuffer known
  | beginRenderPass closed fits namesColors =>
    cases List.mem_singleton.mp member
    obtain ⟨colorOperations, depthOperations⟩ := known_of_beginRenderPass executed
    exact .beginRenderPass (namesColors.length_eq ▸ fits) colorOperations depthOperations
  | draw isVertices isInstances =>
    cases List.mem_singleton.mp member
    exact .draw (Span.counts_of_ofCount? isVertices) (Span.counts_of_ofCount? isInstances)
  | drawIndexed isIndices isInstances =>
    cases List.mem_singleton.mp member
    exact .drawIndexed (Span.counts_of_ofCount? isIndices) (Span.counts_of_ofCount? isInstances)
  | _ =>
    cases List.mem_singleton.mp member
    exact .unlimited rfl

/-- So are the calls of a record that fails: they are full batches of barriers. -/
theorem withinLimits_of_mem_execute {command : Command} {call : Call}
    (member : call ∈ (execute resources interpreter offset command).calls) :
    call.WithinLimits resources command := by
  rcases executed : execute resources interpreter offset command with ⟨calls, error | next⟩
  all_goals rw [executed] at member
  · obtain ⟨batch, rfl, full, yields⟩ := batch_of_failed executed member
    have limit : batch.length = 32 := full
    exact .resourceBarriers (by omega) (by omega) yields fun barrier _ => barrier.statesKnown
  · exact withinLimits_of_executed executed member

end Interpreter

/-- Replay keeps to the limits of the native layer. Whatever bytes a buffer holds, and whether or
not its replay succeeds, the calls that it appends behind the one that sets the heaps are those of
the first records, one after another, and all calls of a record are within the limits for it. -/
theorem calls_within_limits (interpreter : Interpreter) (resources : Resources)
    (list : CommandList) (buffer : CommandBuffer) :
    ∃ made : List (List Call),
      (interpreter.record resources list buffer).2.2.calls =
          list.calls ++
            .setDescriptorHeaps (resources.heaps.map DescriptorHeap.object) :: made.flatten ∧
        List.Forall₂ (fun record calls => ∀ call ∈ calls, call.WithinLimits resources record.2)
          (buffer.walk.records.take made.length) made := by
  obtain ⟨made, flatten, eachRecord⟩ :=
    Interpreter.exists_calls_of_run resources .fresh buffer.walk.records
  refine ⟨made, ?_, eachRecord.imp ?_⟩
  · rw [← flatten]
    rfl
  · rintro record _ ⟨before, rfl⟩ call member
    exact Interpreter.withinLimits_of_mem_execute member

/-- The last vertex of a draw may be the last there is. One vertex more is refused, and the draw
before stays on the list. -/
example :
    let draws : List Command :=
      [⟨.draw, ⟨3, 1, 4294967292, 0⟩⟩, ⟨.draw, ⟨4, 1, 4294967292, 0⟩⟩]
    let (verdict, _, list) := Interpreter.fresh.record Device.sample.resources
      ⟨7, .graphics, true, []⟩ (.ofCommands draws)
    verdict = .error (.stream (.invalidValue .vertexRange 4 20)) ∧
      list.calls = [.setDescriptorHeaps [1, 2], .draw ⟨4294967292, 4294967295⟩ ⟨0, 1⟩] := by
  decide +kernel

end CommandStream
