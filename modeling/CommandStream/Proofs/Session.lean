import CommandStream.Submission.Queue
/-!
# Sessions

A session is a device with the queues that were made for it. Whatever a program does with them is a
list of actions: it creates and disposes of resources, carves up heaps, makes queues and submits to
them, and the outside completes work, loses the device or makes a signal fail, all in any order.
An action that fails is an action too, and the session goes on with what it left behind.
-/

namespace CommandStream

/-- A device and its queues, in the order in which they were made. -/
structure Session where
  device : Device
  queues : List Queue

/-- What can be done in a session. A queue is named by its place among the queues. -/
inductive Action
  | createBuffer (description : BufferDescription)
  | createTexture (description : TextureDescription)
  | createSampler (description : SamplerDescription)
  | createPipeline (description : PipelineDescription)
  | dispose (family : ResourceFamily) (handle : Handle)
  | allocateDescriptors (heapType : HeapType) (count : Nat)
  | freeDescriptors (range : DescriptorRange)
  | writeDescriptor (range : DescriptorRange) (index : Nat) (source : DescriptorView Handle)
  /-- A native queue of one type is created and made into a queue of another, or the same. -/
  | createQueue (native type : QueueType)
  | submit (queue : Nat) (buffers : List CommandBuffer) (dependencies : List Token)
  | setAutoComplete (on : Bool)
  | completeAll
  | lose
  | armSignalFailure
  | clearLog

/-- Disposes of a resource of a family. -/
def Device.dispose (device : Device) (handle : Handle) :
    ResourceFamily → Except HandleError Unit × Device
  | .buffer => device.disposeBuffer handle
  | .texture => device.disposeTexture handle
  | .sampler => device.disposeSampler handle
  | .pipeline => device.disposePipeline handle

namespace Session

/-- The session with a device and no queue. -/
def start (device : Device) : Session := ⟨device, []⟩

/-- The session with another state of its native device. -/
def withNative (session : Session) (native : NativeDevice) : Session :=
  { session with device := { session.device with native := native } }

/-- The session after a native queue was made into a queue. -/
def createQueue (session : Session) (native type : QueueType) : Session :=
  let (made, state) := session.device.native.createQueue native
  match Device.createQueue { session.device with native := state } made type with
  | (.error _, device) => { session with device := device }
  | (.ok queue, device) => ⟨device, session.queues ++ [queue]⟩

/-- The session after a submission to a queue, if there is such a queue. -/
def submit (session : Session) (index : Nat) (buffers : List CommandBuffer)
    (dependencies : List Token) : Session :=
  match session.queues[index]? with
  | none => session
  | some queue =>
    let (_, after, device) := queue.submit session.device buffers dependencies
    ⟨device, session.queues.set index after⟩

/-- The session after an action, whether or not the action fails. -/
def perform (session : Session) : Action → Session
  | .createBuffer description =>
    { session with device := (session.device.createBuffer description).2 }
  | .createTexture description =>
    { session with device := (session.device.createTexture description).2 }
  | .createSampler description =>
    { session with device := (session.device.createSampler description).2 }
  | .createPipeline description =>
    { session with device := (session.device.createPipeline description).2 }
  | .dispose family handle =>
    { session with device := (session.device.dispose handle family).2 }
  | .allocateDescriptors heapType count =>
    { session with device := (session.device.allocateDescriptors heapType count).2 }
  | .freeDescriptors range =>
    { session with device := (session.device.freeDescriptors range).2 }
  | .writeDescriptor range index source =>
    { session with device := (session.device.writeDescriptor range index source).2 }
  | .createQueue native type => session.createQueue native type
  | .submit index buffers dependencies => session.submit index buffers dependencies
  | .setAutoComplete on => session.withNative (session.device.native.setAutoComplete on)
  | .completeAll => session.withNative session.device.native.completeAll
  | .lose => session.withNative session.device.native.lose
  | .armSignalFailure => session.withNative session.device.native.armSignalFailure
  | .clearLog => session.withNative session.device.native.clearLog

/-- The session after actions in a row. -/
def after (session : Session) (actions : List Action) : Session :=
  actions.foldl perform session

end Session

/-- A new device whose tables grow by one slot. -/
def Device.small : Device where
  native := { NativeDevice.fresh with nextId := 3 }
  description := ⟨1, 4, 4⟩
  resources := {
    buffers := .empty 1 Nat.one_pos
    textures := .empty 1 Nat.one_pos
    samplers := .empty 1 Nat.one_pos
    pipelines := .empty 1 Nat.one_pos
    cbvSrvUavHeap := .ofObject 1 ⟨.cbvSrvUav, 4, [⟨0, 4⟩]⟩
    samplerHeap := .ofObject 2 ⟨.sampler, 4, [⟨0, 4⟩]⟩ }

end CommandStream
