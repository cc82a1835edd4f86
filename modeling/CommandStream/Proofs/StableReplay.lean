import CommandStream.Proofs.Disposal
import CommandStream.Proofs.ResourceFrame
/-!
# Replay under traffic

A replay depends on the device through the handles that its records look up and through the places
of the heaps. `Command.lookups` lists these handles, record by record; where each of them finds what
it found, a record that was executed is executed again with the same outcome
(`execute_of_spares`), and so is a whole buffer. What else is created, disposed of or written on the
device in between makes no difference.
-/

namespace CommandStream

/-! ## Lookups -/

/-- The lookup of a barrier: in the table that its kind names, if it names one. -/
def barrierLookup (handle : Handle) (kind : UInt32) : List (ResourceFamily × Handle) :=
  (barrierFamily? kind).toList.map fun family => (family, handle)

/-- The lookup of a barrier that is about every resource if its handle is null. -/
def optionalBarrierLookup (handle : Handle) (kind : UInt32) : List (ResourceFamily × Handle) :=
  if handle.isNull then [] else barrierLookup handle kind

/-- The handles that a record has looked up when it is executed, each with the table in which it
is looked up. -/
def Command.lookups : Command → List (ResourceFamily × Handle)
  | ⟨.setPipeline, handle⟩ => [(.pipeline, handle)]
  | ⟨.setVertexBuffers, (_, views)⟩ => views.map fun view => (.buffer, view.buffer)
  | ⟨.setIndexBuffer, view⟩ => [(.buffer, view.buffer)]
  | ⟨.setRootBuffer, binding⟩ => [(.buffer, binding.buffer)]
  | ⟨.beginRenderPass, (header, attachments)⟩ =>
    attachments.map (fun attachment => (.texture, attachment.texture)) ++
      if header.depth.isNull then [] else [(.texture, header.depth)]
  | ⟨.copyBuffer, copy⟩ => [(.buffer, copy.source), (.buffer, copy.destination)]
  | ⟨.resourceBarriers, ((_, transitions), unorderedAccess)⟩ =>
    transitions.flatMap (fun barrier => barrierLookup barrier.resource barrier.kind) ++
      unorderedAccess.flatMap fun barrier =>
        optionalBarrierLookup barrier.resource barrier.kind
  | ⟨.aliasingBarriers, (_, barriers)⟩ =>
    barriers.flatMap fun barrier =>
      optionalBarrierLookup barrier.before barrier.beforeKind ++
        optionalBarrierLookup barrier.after barrier.afterKind
  | _ => []

/-- The handles that the records of a buffer look up. -/
def CommandBuffer.lookups (buffer : CommandBuffer) : List (ResourceFamily × Handle) :=
  buffer.walk.records.flatMap fun record => record.2.lookups

namespace Resources

variable {before after : Resources} {entries : List (ResourceFamily × Handle)} {offset : Nat}

theorem Spares.of_subset {some : List (ResourceFamily × Handle)}
    (spares : before.Spares after entries) (subset : some ⊆ entries) :
    before.Spares after some :=
  ⟨fun entry member => spares.kept entry (subset member), spares.heaps⟩

/-- Where the lookups of all elements find what they found, so do those of each. -/
theorem Spares.of_mem {α : Type} {elements : List α}
    {lookups : α → List (ResourceFamily × Handle)}
    (spares : before.Spares after (elements.flatMap lookups)) {element : α}
    (member : element ∈ elements) : before.Spares after (lookups element) :=
  spares.of_subset fun _ inLookups => List.mem_flatMap.mpr ⟨element, member, inLookups⟩

/-- An object that a handle names is named by it afterwards. -/
theorem Spares.names (spares : before.Spares after entries) {family : ResourceFamily}
    {handle : Handle} (member : (family, handle) ∈ entries) {object : ObjectId}
    (names : before.Names handle object family) : after.Names handle object family := by
  have kept := spares.kept _ member
  cases family
  all_goals
    obtain ⟨value, found, isObject⟩ := names
    exact ⟨value, kept value found, isObject⟩

theorem Spares.bufferObject (spares : before.Spares after entries) {handle : Handle}
    (member : (.buffer, handle) ∈ entries) {object : ObjectId}
    (found : before.bufferObject handle = .ok object) :
    after.bufferObject handle = .ok object :=
  bufferObject_eq_ok.mpr (spares.names member (bufferObject_eq_ok.mp found))

theorem Spares.textureObject (spares : before.Spares after entries) {handle : Handle}
    (member : (.texture, handle) ∈ entries) {object : ObjectId}
    (found : before.textureObject handle = .ok object) :
    after.textureObject handle = .ok object :=
  textureObject_eq_ok.mpr (spares.names member (textureObject_eq_ok.mp found))

theorem Spares.vertexBinding (spares : before.Spares after entries) {view : VertexBufferView}
    (member : (.buffer, view.buffer) ∈ entries) {binding : ObjectId × UInt64}
    (found : before.vertexBinding view = .ok binding) : after.vertexBinding view = .ok binding := by
  obtain ⟨names, isOffset⟩ := vertexBinding_eq_ok.mp found
  exact vertexBinding_eq_ok.mpr ⟨spares.names member names, isOffset⟩

theorem Spares.colorObject (spares : before.Spares after entries) {attachment : ColorAttachment}
    (member : (.texture, attachment.texture) ∈ entries) {object : ObjectId}
    (found : before.colorObject offset attachment = .ok object) :
    after.colorObject offset attachment = .ok object := by
  simp only [Resources.colorObject, bind_eq_ok] at found ⊢
  obtain ⟨texture, named, known⟩ := found
  exact ⟨texture, spares.textureObject member named, known⟩

theorem Spares.depthObject {header : RenderPassHeader}
    (spares : before.Spares after
      (if header.depth.isNull then [] else [(.texture, header.depth)]))
    {object : Option ObjectId} (found : before.depthObject offset header = .ok object) :
    after.depthObject offset header = .ok object := by
  unfold Resources.depthObject at found ⊢
  split at found
  · rename_i null
    rw [if_pos null]
    exact found
  · rename_i notNull
    rw [if_neg notNull] at spares ⊢
    simp only [bind_eq_ok] at found ⊢
    obtain ⟨texture, named, known⟩ := found
    exact ⟨texture, spares.textureObject List.mem_cons_self named, known⟩

theorem Spares.barrierObject {handle : Handle} {kind : UInt32}
    (spares : before.Spares after (barrierLookup handle kind)) {object : ObjectId}
    (found : before.barrierObject offset handle kind = .ok object) :
    after.barrierObject offset handle kind = .ok object := by
  obtain ⟨family, known, names⟩ := barrierObject_eq_ok.mp found
  refine barrierObject_eq_ok.mpr ⟨family, known, spares.names ?_ names⟩
  rw [barrierLookup, known]
  exact List.mem_singleton_self _

theorem Spares.optionalBarrierObject {handle : Handle} {kind : UInt32}
    (spares : before.Spares after (optionalBarrierLookup handle kind)) {object : Option ObjectId}
    (found : before.optionalBarrierObject offset handle kind = .ok object) :
    after.optionalBarrierObject offset handle kind = .ok object := by
  unfold Resources.optionalBarrierObject at found ⊢
  unfold optionalBarrierLookup at spares
  split at found
  · rename_i null
    rw [if_pos null]
    exact found
  · rename_i notNull
    rw [if_neg notNull] at spares ⊢
    obtain ⟨named, isNamed, isObject⟩ := map_eq_ok.mp found
    exact map_eq_ok.mpr ⟨named, spares.barrierObject isNamed, isObject⟩

theorem Spares.transitionCall {barrier : TransitionBarrier}
    (spares : before.Spares after (barrierLookup barrier.resource barrier.kind))
    {call : BarrierCall} (found : before.transitionCall offset barrier = .ok call) :
    after.transitionCall offset barrier = .ok call := by
  simp only [Resources.transitionCall, bind_eq_ok] at found ⊢
  obtain ⟨object, named, known⟩ := found
  exact ⟨object, spares.barrierObject named, known⟩

theorem Spares.unorderedAccessCall {barrier : UnorderedAccessBarrier}
    (spares : before.Spares after (optionalBarrierLookup barrier.resource barrier.kind))
    {call : BarrierCall} (found : before.unorderedAccessCall offset barrier = .ok call) :
    after.unorderedAccessCall offset barrier = .ok call := by
  simp only [Resources.unorderedAccessCall, bind_eq_ok] at found ⊢
  obtain ⟨object, named, known⟩ := found
  exact ⟨object, spares.optionalBarrierObject named, known⟩

theorem Spares.aliasingCall {barrier : AliasingBarrier}
    (spares : before.Spares after
      (optionalBarrierLookup barrier.before barrier.beforeKind ++
        optionalBarrierLookup barrier.after barrier.afterKind))
    {call : BarrierCall} (found : before.aliasingCall offset barrier = .ok call) :
    after.aliasingCall offset barrier = .ok call := by
  have sparesBefore := spares.of_subset (List.subset_append_left _ _)
  have sparesAfter := spares.of_subset (List.subset_append_right _ _)
  simp only [Resources.aliasingCall, bind_eq_ok] at found ⊢
  obtain ⟨first, namedFirst, second, namedSecond, known⟩ := found
  exact ⟨first, sparesBefore.optionalBarrierObject namedFirst, second,
    sparesAfter.optionalBarrierObject namedSecond, known⟩

/-- A range that lies in its heap resolves to the same address in a heap at the same place. -/
theorem Spares.resolveRange (spares : before.Spares after entries) {range : DescriptorRange}
    {base : DescriptorAddress} (found : before.resolveRange range = .ok base) :
    after.resolveRange range = .ok base := by
  cases named : range.heapType? with
  | none =>
    simp only [Resources.resolveRange, rangeHeap, named, bind_eq_ok] at found
    obtain ⟨_, ⟨⟩, _⟩ := found
  | some heapType =>
    obtain ⟨_, start, capacity⟩ := spares.heaps heapType
    obtain ⟨fits, isBase⟩ := (Interpreter.resolveRange_eq_ok named).mp found
    refine (Interpreter.resolveRange_eq_ok named).mpr ?_
    rw [start, capacity]
    exact ⟨fits, isBase⟩

end Resources

/-! ## Replay -/

section Attempts

variable {ε α β : Type} {first second : α → Except ε β} {elements : List α} {results : List β}

/-- Attempts that succeed are made again, element by element. -/
theorem mapM_eq_ok_of_forall
    (again : ∀ element ∈ elements, ∀ result, first element = .ok result →
      second element = .ok result)
    (made : elements.mapM first = .ok results) : elements.mapM second = .ok results := by
  have both := (List.forall₂_and_left _ _).mpr ⟨again, mapM_eq_ok_iff.mp made⟩
  exact mapM_eq_ok_iff.mpr (both.imp fun _ _ ⟨kept, found⟩ => kept _ found)

theorem map_eq_map_ok_of_forall
    (again : ∀ element ∈ elements, ∀ result, first element = .ok result →
      second element = .ok result)
    (made : elements.map first = results.map .ok) : elements.map second = elements.map first := by
  have both := (List.forall₂_and_left _ _).mpr ⟨again, map_eq_map_ok_iff.mp made⟩
  exact (map_eq_map_ok_iff.mpr (both.imp fun _ _ ⟨kept, found⟩ => kept _ found)).trans made.symm

end Attempts

namespace Interpreter

variable {before after : Resources}

/-- A record that was executed is executed again, with the same calls and to the same effect, where
its lookups find what they found. -/
theorem execute_of_spares {command : Command} (spares : before.Spares after command.lookups)
    {interpreter next : Interpreter} {offset : Nat} {calls : List Call}
    (executed : execute before interpreter offset command = ⟨calls, .ok next⟩) :
    execute after interpreter offset command = ⟨calls, .ok next⟩ := by
  obtain ⟨tag, arguments⟩ := command
  cases tag with
  | setPipeline =>
    simp only [execute, single_eq_ok, bind_eq_ok, mapError_eq_ok] at executed ⊢
    obtain ⟨call, ⟨pipeline, found, made⟩, isCall⟩ := executed
    exact ⟨call, ⟨pipeline, spares.kept _ List.mem_cons_self _ found, made⟩, isCall⟩
  | setVertexBuffers =>
    obtain ⟨run, views⟩ := arguments
    simp only [execute] at executed ⊢
    split at executed
    · obtain ⟨_, ⟨⟩, _⟩ := single_eq_ok.mp executed
    · rename_i fits
      rw [if_neg fits]
      simp only [single_eq_ok, bind_eq_ok] at executed ⊢
      obtain ⟨call, ⟨bindings, found, made⟩, isCall⟩ := executed
      refine ⟨call, ⟨bindings, mapM_eq_ok_of_forall (fun view member _ => ?_) found, made⟩, isCall⟩
      exact spares.vertexBinding (List.mem_map_of_mem member)
  | setIndexBuffer =>
    simp only [execute, single_eq_ok, bind_eq_ok] at executed ⊢
    obtain ⟨call, ⟨format, known, buffer, found, made⟩, isCall⟩ := executed
    exact ⟨call, ⟨format, known, buffer, spares.bufferObject List.mem_cons_self found, made⟩,
      isCall⟩
  | setRootBuffer =>
    simp only [execute, single_eq_ok, bind_eq_ok] at executed ⊢
    obtain ⟨call, ⟨⟨pipeline, parameter⟩, accepts, made⟩, isCall⟩ := executed
    refine ⟨call, ⟨⟨pipeline, parameter⟩, accepts, ?_⟩, isCall⟩
    cases parameter with
    | descriptor kind =>
      simp only [bind_eq_ok] at made ⊢
      obtain ⟨buffer, found, isMade⟩ := made
      exact ⟨buffer, spares.bufferObject List.mem_cons_self found, isMade⟩
    | constants count => exact made
    | table heapType => exact made
  | setDescriptorTable =>
    simp only [execute, single_eq_ok, bind_eq_ok] at executed ⊢
    obtain ⟨call, ⟨⟨pipeline, parameter⟩, accepts, made⟩, isCall⟩ := executed
    refine ⟨call, ⟨⟨pipeline, parameter⟩, accepts, ?_⟩, isCall⟩
    split at made
    · exact made
    · split at made
      · rename_i isTable
        rw [if_pos isTable]
        simp only [bind_eq_ok, mapError_eq_ok] at made ⊢
        obtain ⟨base, found, isMade⟩ := made
        exact ⟨base, spares.resolveRange found, isMade⟩
      · rename_i noTable
        rw [if_neg noTable]
        exact made
  | beginRenderPass =>
    obtain ⟨header, attachments⟩ := arguments
    simp only [execute] at executed ⊢
    split at executed
    · obtain ⟨_, ⟨⟩, _⟩ := single_eq_ok.mp executed
    · rename_i closed
      rw [if_neg closed]
      split at executed
      · obtain ⟨_, ⟨⟩, _⟩ := single_eq_ok.mp executed
      · rename_i fits
        rw [if_neg fits]
        have sparesColors := spares.of_subset (List.subset_append_left _ _)
        have sparesDepth := spares.of_subset (List.subset_append_right _ _)
        simp only [single_eq_ok, bind_eq_ok] at executed ⊢
        obtain ⟨call, ⟨colors, foundColors, depth, foundDepth, made⟩, isCall⟩ := executed
        refine ⟨call, ⟨colors, mapM_eq_ok_of_forall (fun attachment member _ => ?_) foundColors,
          depth, sparesDepth.depthObject foundDepth, made⟩, isCall⟩
        exact sparesColors.colorObject (List.mem_map_of_mem member)
  | copyBuffer =>
    simp only [execute, single_eq_ok, bind_eq_ok] at executed ⊢
    obtain ⟨call, ⟨source, foundSource, destination, foundDestination, made⟩, isCall⟩ := executed
    have second : (.buffer, arguments.destination) ∈ Command.lookups ⟨.copyBuffer, arguments⟩ :=
      List.mem_cons_of_mem _ List.mem_cons_self
    exact ⟨call, ⟨source, spares.bufferObject List.mem_cons_self foundSource, destination,
      spares.bufferObject second foundDestination, made⟩, isCall⟩
  | resourceBarriers =>
    obtain ⟨⟨counts, transitions⟩, unorderedAccess⟩ := arguments
    obtain ⟨resolved, _, all, _⟩ := Step.resolved_of_barriers executed
    obtain ⟨changes, orders, _, isChanges, isOrders⟩ := List.map_eq_append_iff.mp all.symm
    have sparesChanges := spares.of_subset (List.subset_append_left _ _)
    have sparesOrders := spares.of_subset (List.subset_append_right _ _)
    have sameChanges : transitions.map (after.transitionCall offset) =
        transitions.map (before.transitionCall offset) := by
      refine map_eq_map_ok_of_forall (fun barrier member _ => ?_) isChanges.symm
      exact (sparesChanges.of_mem member).transitionCall
    have sameOrders : unorderedAccess.map (after.unorderedAccessCall offset) =
        unorderedAccess.map (before.unorderedAccessCall offset) := by
      refine map_eq_map_ok_of_forall (fun barrier member _ => ?_) isOrders.symm
      exact (sparesOrders.of_mem member).unorderedAccessCall
    rw [← executed]
    simp only [execute, sameChanges, sameOrders]
  | aliasingBarriers =>
    obtain ⟨count, barriers⟩ := arguments
    obtain ⟨resolved, _, all, _⟩ := Step.resolved_of_barriers executed
    have same : barriers.map (after.aliasingCall offset) =
        barriers.map (before.aliasingCall offset) := by
      refine map_eq_map_ok_of_forall (fun barrier member _ => ?_) all
      exact (spares.of_mem member).aliasingCall
    rw [← executed]
    simp only [execute, same]
  | _ => exact executed

/-- Records that are all executed are executed again. -/
theorem run_of_spares {records : List (Nat × Command)}
    (spares : before.Spares after (records.flatMap fun record => record.2.lookups))
    {interpreter : Interpreter} (completed : (run before interpreter records).failure = none) :
    run after interpreter records = run before interpreter records := by
  induction records generalizing interpreter with
  | nil => rfl
  | cons record later inductionHypothesis =>
    obtain ⟨offset, command⟩ := record
    have sparesFirst := spares.of_subset (List.subset_append_left _ _)
    have sparesLater := spares.of_subset (List.subset_append_right _ _)
    rw [run] at completed ⊢
    rw [run]
    rcases executed : execute before interpreter offset command with ⟨calls, error | next⟩
    · rw [executed] at completed
      cases completed
    · rw [executed] at completed
      rw [execute_of_spares sparesFirst executed]
      dsimp only at completed ⊢
      rw [inductionHypothesis sparesLater completed]

/-- A buffer that was replayed is replayed again to the same effect. -/
theorem record_of_spares {buffer : CommandBuffer} (spares : before.Spares after buffer.lookups)
    {interpreter : Interpreter} {list : CommandList} {statistics : ReplayStatistics}
    (replayed : (interpreter.record before list buffer).1 = .ok statistics) :
    interpreter.record after list buffer = interpreter.record before list buffer := by
  have objects : after.heaps.map DescriptorHeap.object =
      before.heaps.map DescriptorHeap.object := by
    have first := (spares.heaps .cbvSrvUav).object
    have second := (spares.heaps .sampler).object
    simp only [Resources.heap] at first second
    simp only [Resources.heaps, List.map_cons, List.map_nil, first, second]
  have completed := (completed_of_verdict replayed).1
  simp only [record, run_of_spares spares completed, objects]

end Interpreter

/-- Replay does not change under traffic. A buffer that was replayed in a session is replayed again
after whatever was done in between, unless a resource that one of its records looks up was disposed
of: with the same statistics and the same calls, whichever interpreter replays it onto whichever
list. -/
theorem replay_unchanged_by_traffic {native : NativeDevice} {description : DeviceDescription}
    {device : Device} (created : Device.create native description = .ok device)
    (before later : List Action) {buffer : CommandBuffer} {interpreter : Interpreter}
    {list : CommandList} {statistics : ReplayStatistics}
    (replayed : (interpreter.record ((Session.start device).after before).device.resources list
      buffer).1 = .ok statistics)
    (spared : ∀ entry ∈ buffer.lookups, Action.dispose entry.1 entry.2 ∉ later) :
    let session := (Session.start device).after before
    ∃ calls, (interpreter.record session.device.resources list buffer).2.2 = list.push calls ∧
      ∀ (again : Interpreter) (other : CommandList),
        (again.record (session.after later).device.resources other buffer).1 = .ok statistics ∧
          (again.record (session.after later).device.resources other buffer).2.2 =
            other.push calls := by
  intro session
  have sound : session.device.resources.Sound :=
    ((Session.start device).evolves_after before).resources.sound (Device.sound_of_create created)
  have spares := Session.spares_after sound spared
  refine ⟨_, rfl, fun again other => ?_⟩
  -- The interpreter and the list of a replay are not read by it.
  have replayedAgain : (again.record session.device.resources other buffer).1 = .ok statistics :=
    replayed
  rw [Interpreter.record_of_spares spares replayedAgain]
  exact ⟨replayedAgain, rfl⟩

/-- A copy between two buffers is replayed after the table of buffers grew, the slot behind theirs
was used again, and descriptors were allocated, written and freed. -/
theorem replay_unchanged_by_traffic_small :
    let session := (Session.start .small).after (List.replicate 3 (.createBuffer ⟨16, .empty⟩))
    let traffic : List Action :=
      [.dispose .buffer ⟨2, 0⟩, .createBuffer ⟨32, .empty⟩, .createBuffer ⟨64, .empty⟩,
        .dispose .texture ⟨0, 0⟩, .createSampler ⟨.linear, .tile, .tile, .clamp, ⟨0⟩⟩,
        .allocateDescriptors .sampler 2, .writeDescriptor ⟨⟨0x1000000, 2⟩⟩ 1 (.sampler ⟨0, 0⟩),
        .freeDescriptors ⟨⟨0x1000000, 2⟩⟩]
    let copy := CommandBuffer.ofCalls [.copyBuffer ⟨0, 0⟩ 0 ⟨1, 0⟩ 0 16]
    let list : CommandList := ⟨0, .copy, true, []⟩
    (session.after traffic).device.resources.buffers.slots.length = 4 ∧
      (Interpreter.fresh.record session.device.resources list copy).2.2 =
        list.push [.setDescriptorHeaps [1, 2], .copyBuffer 3 0 4 0 16] ∧
      ∀ again other,
        (Interpreter.record again (session.after traffic).device.resources other copy).2.2 =
          other.push [.setDescriptorHeaps [1, 2], .copyBuffer 3 0 4 0 16] := by
  intro session traffic copy list
  have created : Device.create .fresh ⟨1, 4, 4⟩ = .ok .small := rfl
  have replayed :
      (Interpreter.fresh.record session.device.resources list copy).1 = .ok ⟨1, 0, 0, 0⟩ := by
    decide +kernel
  have made : (Interpreter.fresh.record session.device.resources list copy).2.2 =
      list.push [.setDescriptorHeaps [1, 2], .copyBuffer 3 0 4 0 16] := by decide +kernel
  have lookups : copy.lookups = [(.buffer, ⟨0, 0⟩), (.buffer, ⟨1, 0⟩)] := by decide +kernel
  have spared : ∀ entry ∈ copy.lookups, Action.dispose entry.1 entry.2 ∉ traffic := by
    simp [lookups, traffic]
  obtain ⟨calls, isCalls, again⟩ := replay_unchanged_by_traffic created _ traffic replayed spared
  have same : list.push calls = list.push [.setDescriptorHeaps [1, 2], .copyBuffer 3 0 4 0 16] :=
    isCalls.symm.trans made
  simp only [CommandList.push, CommandList.mk.injEq, List.append_cancel_left_eq, true_and] at same
  refine ⟨by decide +kernel, made, fun interpreter other => ?_⟩
  rw [(again interpreter other).2, same]

end CommandStream
