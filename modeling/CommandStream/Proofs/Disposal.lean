import CommandStream.Proofs.FaithfulReplay
import CommandStream.Proofs.SessionHistory
/-!
# No use after disposal

A handle of a resource that was disposed of is dead in its table for the rest of the session, and
a buffer that names a dead handle is never executed: every encoding call has its handles resolved
before anything reaches the device, as long as its arrays are short enough to be announced. And
whatever a buffer holds, the objects in the calls of its replay are objects of resources that are in
the tables at that moment.
-/

namespace CommandStream

/-! ## Handles of encoding calls -/

/-- The handles in the arguments of an encoding call, each with the table it is looked up in. A
barrier whose kind is no kind is looked up nowhere. -/
def EncodeCall.handles : EncodeCall → List (ResourceFamily × Handle)
  | .setPipeline pipeline => [(.pipeline, pipeline)]
  | .setVertexBuffers _ views => views.map fun view => (.buffer, view.buffer)
  | .setIndexBuffer buffer _ _ _ => [(.buffer, buffer)]
  | .setRootBuffer _ buffer _ => [(.buffer, buffer)]
  | .beginRenderPass colors depth =>
    colors.map (fun color => (.texture, color.texture)) ++
      depth.toList.map fun depth => (.texture, depth.texture)
  | .copyBuffer source _ destination _ _ => [(.buffer, source), (.buffer, destination)]
  | .resourceBarriers transitions unorderedAccess =>
    transitions.filterMap (fun barrier =>
        (barrierFamily? barrier.kind).map fun family => (family, barrier.resource)) ++
      unorderedAccess.filterMap fun barrier =>
        (barrierFamily? barrier.kind).map fun family => (family, barrier.resource)
  | .aliasingBarriers barriers =>
    barriers.filterMap (fun barrier =>
        (barrierFamily? barrier.beforeKind).map fun family => (family, barrier.before)) ++
      barriers.filterMap fun barrier =>
        (barrierFamily? barrier.afterKind).map fun family => (family, barrier.after)
  | _ => []

namespace EncodeCall

variable {resources : Resources}

/-- Of a handle that may be null, the object is there unless it is null. -/
theorem names_of_namesUnlessNull {known : Option ResourceFamily} {family : ResourceFamily}
    {handle : Handle} {object : Option ObjectId} (isFamily : known = some family)
    (notNull : handle ≠ Handle.null) (names : resources.NamesUnlessNull known handle object) :
    ∃ object, resources.Names handle object family := by
  cases names with
  | null => exact absurd rfl notNull
  | present _ isKnown names =>
    cases isFamily.symm.trans isKnown
    exact ⟨_, names⟩

/-- What an encoding call stands for is there only if each of its handles names an object, the
null handle excepted. -/
theorem Translates.names {bound next : Option Pipeline} {call : EncodeCall} {issued : List Call}
    (translates : call.Translates resources bound issued next) {family : ResourceFamily}
    {handle : Handle} (member : (family, handle) ∈ call.handles)
    (notNull : handle ≠ Handle.null) : ∃ object, resources.Names handle object family := by
  cases translates with
  | setPipeline found =>
    cases List.mem_singleton.mp member
    exact ⟨_, _, found, rfl⟩
  | setVertexBuffers found =>
    obtain ⟨view, inViews, ⟨⟩⟩ := List.mem_map.mp member
    obtain ⟨binding, _, names, _⟩ := exists_of_mem_forall₂ found inViews
    exact ⟨_, names⟩
  | setIndexBuffer names =>
    cases List.mem_singleton.mp member
    exact ⟨_, names⟩
  | setRootBuffer isBound atSlot names =>
    cases List.mem_singleton.mp member
    exact ⟨_, names⟩
  | @beginRenderPass attachments depth _ _ namesColors namesDepth =>
    rcases List.mem_append.mp member with isColor | isDepth
    · obtain ⟨color, inColors, ⟨⟩⟩ := List.mem_map.mp isColor
      obtain ⟨object, _, names⟩ := exists_of_mem_forall₂ namesColors inColors
      exact ⟨object, names⟩
    · obtain ⟨texture, inDepth, ⟨⟩⟩ := List.mem_map.mp isDepth
      rw [Option.mem_toList] at inDepth
      cases inDepth
      exact names_of_namesUnlessNull rfl notNull namesDepth
  | copyBuffer namesSource namesDestination =>
    rcases List.mem_cons.mp member with front | behind
    · cases front
      exact ⟨_, namesSource⟩
    · cases List.mem_singleton.mp behind
      exact ⟨_, namesDestination⟩
  | resourceBarriers isChanges isOrders divides =>
    rcases List.mem_append.mp member with inChanges | inOrders
    · obtain ⟨barrier, inTransitions, isHandle⟩ := List.mem_filterMap.mp inChanges
      obtain ⟨known, isKnown, ⟨⟩⟩ := Option.map_eq_some_iff.mp isHandle
      obtain ⟨_, _, ⟨isFamily, names, _, _⟩⟩ := exists_of_mem_forall₂ isChanges inTransitions
      cases isKnown.symm.trans isFamily
      exact ⟨_, names⟩
    · obtain ⟨barrier, inAccess, isHandle⟩ := List.mem_filterMap.mp inOrders
      obtain ⟨known, isKnown, ⟨⟩⟩ := Option.map_eq_some_iff.mp isHandle
      obtain ⟨_, _, ⟨names⟩⟩ := exists_of_mem_forall₂ isOrders inAccess
      exact names_of_namesUnlessNull isKnown notNull names
  | aliasingBarriers isSwitches divides =>
    rcases List.mem_append.mp member with inBefore | inAfter
    · obtain ⟨barrier, inBarriers, isHandle⟩ := List.mem_filterMap.mp inBefore
      obtain ⟨known, isKnown, ⟨⟩⟩ := Option.map_eq_some_iff.mp isHandle
      obtain ⟨_, _, ⟨namesBefore, _⟩⟩ := exists_of_mem_forall₂ isSwitches inBarriers
      exact names_of_namesUnlessNull isKnown notNull namesBefore
    · obtain ⟨barrier, inBarriers, isHandle⟩ := List.mem_filterMap.mp inAfter
      obtain ⟨known, isKnown, ⟨⟩⟩ := Option.map_eq_some_iff.mp isHandle
      obtain ⟨_, _, ⟨_, namesAfter⟩⟩ := exists_of_mem_forall₂ isSwitches inBarriers
      exact names_of_namesUnlessNull isKnown notNull namesAfter
  | _ => cases member

/-- The same of encoding calls in a row. -/
theorem TranslatesAll.names {bound : Option Pipeline} {calls : List EncodeCall}
    {issued : List Call} (translates : TranslatesAll resources bound calls issued)
    {call : EncodeCall} (inCalls : call ∈ calls) {family : ResourceFamily} {handle : Handle}
    (member : (family, handle) ∈ call.handles) (notNull : handle ≠ Handle.null) :
    ∃ object, resources.Names handle object family := by
  induction translates with
  | nil => cases inCalls
  | cons first _ inductionHypothesis =>
    rcases List.mem_cons.mp inCalls with rfl | behind
    · exact first.names member notNull
    · exact inductionHypothesis behind

end EncodeCall

/-! ## Objects in calls -/

/-- What a call uses an object as. A barrier does not say whether its object is a buffer or a
texture. -/
inductive ObjectRole
  | allocator
  | heap
  | pipeline
  | buffer
  | texture
  | barrier
  deriving DecidableEq

/-- The objects in a barrier, absent ones left out. -/
def BarrierCall.objects : BarrierCall → List ObjectId
  | .transition resource _ _ _ => [resource]
  | .unorderedAccess resource => resource.toList
  | .aliasing before after => before.toList ++ after.toList

/-- The objects in a call, each with what the call uses it as. -/
def Call.objects : Call → List (ObjectRole × ObjectId)
  | .reset allocator pipeline =>
    (.allocator, allocator) :: pipeline.toList.map fun object => (.pipeline, object)
  | .setDescriptorHeaps heaps => heaps.map fun object => (.heap, object)
  | .setPipeline pipeline _ => [(.pipeline, pipeline)]
  | .setVertexBuffers _ buffers => buffers.map fun binding => (.buffer, binding.1)
  | .setIndexBuffer buffer _ _ _ => [(.buffer, buffer)]
  | .setRootDescriptor _ _ _ buffer _ => [(.buffer, buffer)]
  | .beginRenderPass colors depth =>
    (colors ++ depth.toList).map fun object => (.texture, object)
  | .copyBuffer source _ destination _ _ => [(.buffer, source), (.buffer, destination)]
  | .resourceBarriers barriers =>
    (barriers.flatMap BarrierCall.objects).map fun object => (.barrier, object)
  | _ => []

namespace Resources

/-- An object is live in a role: some handle names it in the table that the role asks for, or it
is one of the heaps. No resource is an allocator. -/
def Holds (resources : Resources) (object : ObjectId) : ObjectRole → Prop
  | .allocator => False
  | .heap => object ∈ resources.heaps.map DescriptorHeap.object
  | .pipeline => ∃ handle, resources.Names handle object .pipeline
  | .buffer => ∃ handle, resources.Names handle object .buffer
  | .texture => ∃ handle, resources.Names handle object .texture
  | .barrier =>
    ∃ handle, resources.Names handle object .buffer ∨ resources.Names handle object .texture

variable {resources : Resources}

/-- A barrier is looked up among the buffers or among the textures. -/
theorem holds_of_barrierFamily {word : UInt32} {family : ResourceFamily} {handle : Handle}
    {object : ObjectId} (isFamily : barrierFamily? word = some family)
    (names : resources.Names handle object family) : resources.Holds object .barrier := by
  obtain ⟨kind, _, rfl⟩ := Option.map_eq_some_iff.mp isFamily
  cases kind with
  | buffer => exact ⟨handle, .inl names⟩
  | texture => exact ⟨handle, .inr names⟩

theorem holds_of_namesUnlessNull {word : UInt32} {handle : Handle} {object : ObjectId}
    {found : Option ObjectId} (names : resources.NamesUnlessNull (barrierFamily? word) handle found)
    (member : object ∈ found) : resources.Holds object .barrier := by
  obtain ⟨family, isFamily, namesObject⟩ := names.names member
  exact holds_of_barrierFamily isFamily namesObject

/-- The objects of a barrier that was resolved are live. -/
theorem Resolves.holds {barrier : BarrierCall} (resolves : resources.Resolves barrier)
    {object : ObjectId} (member : object ∈ barrier.objects) :
    resources.Holds object .barrier := by
  cases resolves with
  | transition becomes =>
    obtain ⟨isFamily, names, _, _⟩ := becomes
    cases List.mem_singleton.mp member
    exact holds_of_barrierFamily isFamily names
  | order becomes =>
    obtain ⟨names⟩ := becomes
    exact holds_of_namesUnlessNull names (Option.mem_toList.mp member)
  | switch becomes =>
    obtain ⟨namesBefore, namesAfter⟩ := becomes
    rcases List.mem_append.mp member with isBefore | isAfter
    · exact holds_of_namesUnlessNull namesBefore (Option.mem_toList.mp isBefore)
    · exact holds_of_namesUnlessNull namesAfter (Option.mem_toList.mp isAfter)

end Resources

/-- Every object in a call is live. -/
def Call.Live (resources : Resources) (call : Call) : Prop :=
  ∀ entry ∈ call.objects, resources.Holds entry.2 entry.1

/-- Barriers that were resolved are live in the call that hands them over. -/
theorem Call.live_resourceBarriers {resources : Resources} {batch : List BarrierCall}
    (resolved : ∀ barrier ∈ batch, resources.Resolves barrier) :
    (Call.resourceBarriers batch).Live resources := by
  intro entry member
  obtain ⟨object, inBatch, rfl⟩ := List.mem_map.mp member
  obtain ⟨barrier, isBarrier, inBarrier⟩ := List.mem_flatMap.mp inBatch
  exact (resolved barrier isBarrier).holds inBarrier

/-- The calls of a record that is executed are live. -/
theorem Interpreter.Executes.live {resources : Resources} {interpreter next : Interpreter}
    {command : Command} {calls : List Call}
    (executes : interpreter.Executes resources command calls next) {call : Call}
    (member : call ∈ calls) : call.Live resources := by
  have handedOver (batch : List BarrierCall) (inCalls : .resourceBarriers batch ∈ calls) :
      (Call.resourceBarriers batch).Live resources :=
    Call.live_resourceBarriers fun barrier inBatch =>
      ((executes.batch inCalls).2.2 barrier inBatch).resolves
  cases executes with
  | setPipeline found =>
    cases List.mem_singleton.mp member
    intro entry inCall
    cases List.mem_singleton.mp inCall
    exact ⟨_, _, found, rfl⟩
  | setVertexBuffers fits found =>
    cases List.mem_singleton.mp member
    intro entry inCall
    obtain ⟨binding, inBindings, rfl⟩ := List.mem_map.mp inCall
    obtain ⟨view, _, names, _⟩ := exists_of_mem_forall₂ found.flip inBindings
    exact ⟨_, names⟩
  | setIndexBuffer known names =>
    cases List.mem_singleton.mp member
    intro entry inCall
    cases List.mem_singleton.mp inCall
    exact ⟨_, names⟩
  | setRootBuffer accepts names =>
    cases List.mem_singleton.mp member
    intro entry inCall
    cases List.mem_singleton.mp inCall
    exact ⟨_, names⟩
  | beginRenderPass closed fits namesColors namesDepth =>
    cases List.mem_singleton.mp member
    intro entry inCall
    obtain ⟨object, inAttachments, rfl⟩ := List.mem_map.mp inCall
    rcases List.mem_append.mp inAttachments with isColor | isDepth
    · obtain ⟨attachment, _, names⟩ := exists_of_mem_forall₂ namesColors.flip isColor
      exact ⟨_, names⟩
    · obtain ⟨_, ⟨⟩, names⟩ := namesDepth.names (Option.mem_toList.mp isDepth)
      exact ⟨_, names⟩
  | copyBuffer namesSource namesDestination =>
    cases List.mem_singleton.mp member
    intro entry inCall
    rcases List.mem_cons.mp inCall with rfl | behind
    · exact ⟨_, namesSource⟩
    · cases List.mem_singleton.mp behind
      exact ⟨_, namesDestination⟩
  | resourceBarriers | aliasingBarriers =>
    obtain ⟨batch, _, rfl⟩ := List.mem_map.mp member
    exact handedOver batch member
  | _ =>
    cases List.mem_singleton.mp member
    exact nofun

/-- The calls of a replay are live, whatever the buffer holds and whether or not it is replayed to
its end. -/
theorem CommandBuffer.live_of_replay {resources : Resources} {buffer : CommandBuffer} {call : Call}
    (member : call ∈ (buffer.replay resources).calls) : call.Live resources := by
  rcases Interpreter.mem_calls_run member with
    ⟨_, _, calls, _, executes, inCalls⟩ | ⟨batch, rfl, resolved⟩
  · exact executes.live inCalls
  · exact Call.live_resourceBarriers resolved

/-! ## No use after disposal -/

/-- A buffer of encoding calls that name a dead handle is not recorded. -/
theorem not_records_of_dead {resources : Resources} {calls : List EncodeCall}
    (countable : ∀ call ∈ calls, call.command.Countable)
    {call : EncodeCall} (inCalls : call ∈ calls) {family : ResourceFamily} {handle : Handle}
    (inCall : (family, handle) ∈ call.handles) (notNull : handle ≠ Handle.null)
    (dead : resources.Dead handle family) (allocator : ObjectId) (recorded : List Call) :
    ¬Queue.Recording.Records resources allocator (CommandBuffer.ofCalls calls) recorded := by
  rintro ⟨_, verdict⟩
  have translated := EncodeCall.translatesAll_of_verdict countable verdict
  obtain ⟨object, names⟩ := translated.names inCalls inCall notNull
  exact dead.not_names object names

/-- Nothing that was disposed of is used by the device again. After a resource was disposed of in
a session, and whatever happened before and after it, every submission of buffers one of which is
made of encoding calls that name the handle fails and lets only waits reach the device; arrays
that no record can announce are left out, since their elements are not read as they were meant
(`executed_after_disposal`). And in any state, whatever a buffer holds, the objects in the
calls that its replay adds to a list are those of resources in the tables, or the heaps. -/
theorem no_use_after_disposal :
    (∀ (native : NativeDevice) (description : DeviceDescription) (device : Device)
        (before later : List Action) (family : ResourceFamily) (handle : Handle),
      Device.create native description = .ok device →
      let session := (Session.start device).after before
      (session.device.dispose handle family).1 = .ok () →
      let session := (session.perform (.dispose family handle)).after later
      ∀ (queue : Queue) (buffers : List CommandBuffer) (dependencies : List Token)
          (calls : List EncodeCall),
        CommandBuffer.ofCalls calls ∈ buffers →
        (∀ call ∈ calls, call.command.Countable) →
        (∃ call ∈ calls, (family, handle) ∈ call.handles) →
        let result := queue.submit session.device buffers dependencies
        (∃ error, result.1 = .error error) ∧
          ∃ waited : List Token,
            result.2.2.native.log = session.device.native.log ++ waited.map Token.waiting) ∧
      ∀ (resources : Resources) (interpreter : Interpreter) (list : CommandList)
          (buffer : CommandBuffer),
        ∃ added, (interpreter.record resources list buffer).2.2.calls = list.calls ++ added ∧
          ∀ call ∈ added, call.Live resources := by
  constructor
  · intro native description device before later family handle created session disposed current
      queue buffers dependencies calls inBuffers countable mentioned result
    obtain ⟨call, inCalls, inCall⟩ := mentioned
    have soundThen : session.device.resources.Sound :=
      ((Session.start device).evolves_after before).resources.sound (Device.sound_of_create created)
    have dead : current.device.resources.Dead handle family :=
      ((session.perform (.dispose family handle)).evolves_after later).resources.dead
        (Device.dead_of_dispose soundThen disposed)
    have notNull : handle ≠ Handle.null := by
      rintro rfl
      obtain ⟨object, names⟩ := Device.names_of_dispose disposed
      exact soundThen.not_names_null object names
    have notEmpty : (CommandBuffer.ofCalls calls).isEmpty = false :=
      CommandBuffer.isEmpty_ofCalls (List.ne_nil_of_mem inCalls)
    exact (queue.submits current.device buffers dependencies).fails_of_unrecorded inBuffers
      notEmpty (not_records_of_dead countable inCalls inCall notNull dead)
  · intro resources interpreter list buffer
    refine ⟨.setDescriptorHeaps (resources.heaps.map DescriptorHeap.object) ::
      (buffer.replay resources).calls, rfl, ?_⟩
    intro call member
    rcases List.mem_cons.mp member with rfl | replayed
    · intro entry inCall
      obtain ⟨object, isHeap, rfl⟩ := List.mem_map.mp inCall
      exact isHeap
    · exact CommandBuffer.live_of_replay replayed

/-- The slot of a buffer that was disposed of is used again, and a copy from the old buffer to the
new one fails. -/
theorem no_use_after_disposal_small :
    let session := (Session.start .small).after [.createBuffer ⟨16, .empty⟩]
    let again :=
      (session.perform (.dispose .buffer ⟨0, 0⟩)).after [.createBuffer ⟨16, .empty⟩]
    let copy : List EncodeCall := [.copyBuffer ⟨0, 0⟩ 0 ⟨0, 1⟩ 0 16]
    Device.create .fresh ⟨1, 4, 4⟩ = .ok .small ∧
      (session.device.dispose ⟨0, 0⟩ .buffer).1 = .ok () ∧
      (∀ call ∈ copy, call.command.Countable) ∧
      (∃ call ∈ copy, (.buffer, ⟨0, 0⟩) ∈ call.handles) ∧
      ∃ error,
        (Queue.sample.submit again.device [CommandBuffer.ofCalls copy] []).1 = .error error := by
  intro session again copy
  have created : Device.create .fresh ⟨1, 4, 4⟩ = .ok .small := rfl
  have disposed : (session.device.dispose ⟨0, 0⟩ .buffer).1 = .ok () := rfl
  have countable : ∀ call ∈ copy, call.command.Countable := by
    simp [copy, EncodeCall.command, Command.Countable, Command.arrayLengths]
  have mentioned : ∃ call ∈ copy, (.buffer, ⟨0, 0⟩) ∈ call.handles := by
    simp [copy, EncodeCall.handles]
  have refused := no_use_after_disposal.1 .fresh ⟨1, 4, 4⟩ .small [.createBuffer ⟨16, .empty⟩]
    [.createBuffer ⟨16, .empty⟩] .buffer ⟨0, 0⟩ created disposed Queue.sample
    [CommandBuffer.ofCalls copy] [] copy List.mem_cons_self countable mentioned
  exact ⟨created, disposed, countable, mentioned, refused.1⟩

/-- What is executed for any number of barriers on a disposed buffer that wraps around. -/
theorem executed_disguised {count : Nat} (wraps : UInt32.ofNat count = 0) (some : count ≠ 0) :
    let session := (Session.start .small).after
      [.createBuffer ⟨16, .empty⟩, .createBuffer ⟨16, .empty⟩,
        .createPipeline ⟨none, .graphics, []⟩, .createQueue .graphics .graphics]
    let current := session.perform (.dispose .buffer ⟨1, 0⟩)
    let calls : List EncodeCall := [.disguised count]
    let queue : Queue := ⟨.graphics, ⟨6, .graphics⟩, 7, 0, [], [], false⟩
    let result := queue.submit current.device [CommandBuffer.ofCalls calls] []
    Device.create .fresh ⟨1, 4, 4⟩ = .ok .small ∧
      (session.device.dispose ⟨1, 0⟩ .buffer).1 = .ok () ∧ current.queues = [queue] ∧
      (∃ call ∈ calls, (.buffer, ⟨1, 0⟩) ∈ call.handles) ∧ result.1 = .ok ⟨7, 1⟩ ∧
      ∃ lists, .execute lists ∈ result.2.2.native.log := by
  intro session current calls queue result
  have stocked : queue.Stocked := ⟨nofun, nofun⟩
  have found : current.device.resources.pipelines.get ⟨0, 0⟩ =
      .ok ⟨5, .graphics, ⟨none, .graphics, []⟩⟩ := rfl
  obtain ⟨allocator, ends⟩ := stocked.executes_disguised rfl rfl rfl rfl found wraps
  have mentioned : (.buffer, ⟨1, 0⟩) ∈ (EncodeCall.disguised count).handles := by
    let barrier : UnorderedAccessBarrier :=
      .ofBuffer ⟨WireEnumeration.code CommandTag.setPipeline, 0⟩
    have stored : barrier ∈ List.replicate count barrier := List.mem_replicate.mpr ⟨some, rfl⟩
    exact List.mem_filterMap.mpr ⟨barrier, stored, rfl⟩
  have executed : ∃ lists, .execute lists ∈ result.2.2.native.log :=
    ⟨_, ends.log.symm ▸ List.mem_append_right _ List.mem_cons_self⟩
  exact ⟨rfl, rfl, rfl, ⟨_, List.mem_cons_self, mentioned⟩, ends.answer, executed⟩

/-- The bound on arrays is needed. A buffer is disposed of, and then a call of 2 ^ 32 barriers on it
is submitted: the submission succeeds and is executed. -/
theorem executed_after_disposal :
    let session := (Session.start .small).after
      [.createBuffer ⟨16, .empty⟩, .createBuffer ⟨16, .empty⟩,
        .createPipeline ⟨none, .graphics, []⟩, .createQueue .graphics .graphics]
    let current := session.perform (.dispose .buffer ⟨1, 0⟩)
    let calls : List EncodeCall := [.disguised 4294967296]
    let queue : Queue := ⟨.graphics, ⟨6, .graphics⟩, 7, 0, [], [], false⟩
    let result := queue.submit current.device [CommandBuffer.ofCalls calls] []
    Device.create .fresh ⟨1, 4, 4⟩ = .ok .small ∧
      (session.device.dispose ⟨1, 0⟩ .buffer).1 = .ok () ∧ current.queues = [queue] ∧
      (∃ call ∈ calls, (.buffer, ⟨1, 0⟩) ∈ call.handles) ∧ result.1 = .ok ⟨7, 1⟩ ∧
      ∃ lists, .execute lists ∈ result.2.2.native.log :=
  executed_disguised (by decide) (by decide)

end CommandStream
