import CommandStream.Replay
import CommandStream.Submission.Token
/-!
# Submission queues

Each queue has a fence of its own and numbers its submissions by the values of that fence. To
submit is to wait for the tokens of other queues, replay the buffers onto command lists, execute
the lists and signal the next number. Allocators go back to a pool under the number whose
completion sets their memory free, so that no memory is reused which the device may still read;
closed lists go back to a pool at once. A failure at any point leaves the pools in order.
-/

namespace CommandStream

/-- Why a submission failed. -/
inductive SubmitError
  /-- The replay of a buffer failed. -/
  | replay (cause : ReplayError)
  /-- The first pipeline of a buffer is gone. -/
  | handle (cause : HandleError)
  | device (cause : DeviceError)
  deriving DecidableEq

namespace SubmitError

/-- The text of the error. -/
def message : SubmitError → String
  | .replay cause => cause.message
  | .handle cause => cause.message
  | .device cause => cause.message

/-- Whether the failure tells of a removed device. -/
def isDeviceLost : SubmitError → Bool
  | .device cause => cause.isDeviceLost
  | _ => false

end SubmitError

/-- An allocator in the pool of a queue, and the value that must be complete for its reuse. -/
structure PooledAllocator where
  value : Nat
  allocator : CommandAllocator
  deriving DecidableEq

/-- A submission queue: the kind of its work, its native queue, its fence with the last value
given to a submission, its pools, and whether it saw the device lost. The next allocator for
reuse is the first of its pool, and so is the next list. -/
structure Queue where
  type : QueueType
  native : NativeQueue
  fence : ObjectId
  lastSubmitted : Nat
  allocators : List PooledAllocator
  lists : List CommandList
  lost : Bool
  deriving DecidableEq

namespace Queue

/-- The text of a queue: the kind of its work and the value its fence completed. -/
def describe (queue : Queue) (device : NativeDevice) : String :=
  let label := Enumeration.name queue.type
  s!"Queue \x7b ty: {label}, completed: {device.completedValue queue.fence} \x7d"

/-- The token of the last submission. -/
def lastToken (queue : Queue) : Token := ⟨queue.fence, queue.lastSubmitted⟩

/-- The queue after a native call failed: a loss of the device is remembered. -/
def observe (queue : Queue) (cause : DeviceError) : Queue :=
  if cause.isDeviceLost then { queue with lost := true } else queue

/-- Puts an allocator at the end of the pool. -/
def poolAllocator (queue : Queue) (value : Nat) (allocator : CommandAllocator) : Queue :=
  { queue with allocators := queue.allocators ++ [⟨value, allocator⟩] }

/-- Puts closed lists into the pool, the last of them first in line. -/
def poolLists (queue : Queue) (lists : List CommandList) : Queue :=
  { queue with lists := lists.reverse ++ queue.lists }

/-- Whether a submission has to wait for a token on the device: it is another queue's, and it is
not reached. -/
def awaits (queue : Queue) (device : NativeDevice) (token : Token) : Bool :=
  token.fence != queue.fence && !token.isReached device

/-- Makes the native queue wait for tokens. -/
def issueWaits (device : NativeDevice) : List Token → Except DeviceError Unit × NativeDevice
  | [] => (.ok (), device)
  | token :: later =>
    match device.wait token.fence token.value with
    | (.error cause, device) => (.error cause, device)
    | (.ok (), device) => issueWaits device later

/-- Creates an allocator for the queue. -/
def createAllocator (queue : Queue) (device : NativeDevice) :
    Except DeviceError CommandAllocator × Queue × NativeDevice :=
  match device.createAllocator queue.type with
  | (.error cause, device) => (.error cause, queue.observe cause, device)
  | (.ok allocator, device) => (.ok allocator, queue, device)

/-- An allocator for a submission: the first of the pool if its value is complete, and a new one
otherwise. -/
def acquireAllocator (queue : Queue) (device : NativeDevice) :
    Except DeviceError CommandAllocator × Queue × NativeDevice :=
  match queue.allocators with
  | [] => queue.createAllocator device
  | front :: later =>
    if front.value ≤ device.completedValue queue.fence then
      let queue := { queue with allocators := later }
      match device.resetAllocator front.allocator with
      | (.error cause, device) => (.error cause, queue.observe cause, device)
      | (.ok allocator, device) => (.ok allocator, queue, device)
    else queue.createAllocator device

/-- A closed list for a buffer: the first of the pool, or a new one. -/
def acquireList (queue : Queue) (device : NativeDevice) (allocator : CommandAllocator) :
    Except DeviceError CommandList × Queue × NativeDevice :=
  match queue.lists with
  | list :: later => (.ok list, { queue with lists := later }, device)
  | [] =>
    match device.createList queue.type allocator with
    | (.error cause, device) => (.error cause, queue.observe cause, device)
    | (.ok list, device) => (.ok list, queue, device)

/-- A submission in the course of recording: the lists recorded so far, in the order of their
buffers, and what recording changes on the way. -/
structure Recording where
  queue : Queue
  device : NativeDevice
  interpreter : Interpreter
  recorded : List CommandList

namespace Recording

/-- The native object of the pipeline that a buffer binds first, if it binds one. -/
def initialPipeline (resources : Resources) (buffer : CommandBuffer) :
    Except SubmitError (Option ObjectId) :=
  match buffer.firstPipeline with
  | none => .ok none
  | some handle =>
    match resources.pipelines.get handle with
    | .error cause => .error (.handle cause)
    | .ok pipeline => .ok (some pipeline.object)

/-- Records one buffer. A list that cannot be opened goes back to the pool; one whose replay
fails stays open and is given up. -/
def add (recording : Recording) (resources : Resources) (allocator : CommandAllocator)
    (buffer : CommandBuffer) : Except SubmitError Unit × Recording :=
  match initialPipeline resources buffer with
  | .error error => (.error error, recording)
  | .ok initial =>
    match recording.queue.acquireList recording.device allocator with
    | (.error cause, queue, device) =>
      (.error (.device cause), { recording with queue := queue, device := device })
    | (.ok list, queue, device) =>
      let recording := { recording with queue := queue, device := device }
      match list.reset allocator initial with
      | .error cause =>
        (.error (.device cause),
          { recording with queue := (queue.observe cause).poolLists [list] })
      | .ok opened =>
        match recording.interpreter.record resources opened buffer with
        | (.error cause, interpreter, _) =>
          (.error (.replay cause), { recording with interpreter := interpreter })
        | (.ok _, interpreter, filled) =>
          let recording := { recording with interpreter := interpreter }
          match filled.close with
          | .error cause =>
            (.error (.device cause), { recording with queue := queue.observe cause })
          | .ok closed =>
            (.ok (), { recording with recorded := recording.recorded ++ [closed] })

/-- Records buffers in order, up to the first that fails. -/
def addAll (recording : Recording) (resources : Resources) (allocator : CommandAllocator) :
    List CommandBuffer → Except SubmitError Unit × Recording
  | [] => (.ok (), recording)
  | buffer :: later =>
    match recording.add resources allocator buffer with
    | (.error error, recording) => (.error error, recording)
    | (.ok (), recording) => recording.addAll resources allocator later

end Recording

/-- Signals the next value and counts it as submitted. A failed signal comes after the lists went
to the device, so its value is used up all the same and the allocator waits for that value. -/
def signalNext (queue : Queue) (device : NativeDevice) (used : Option CommandAllocator) :
    Except SubmitError Token × Queue × NativeDevice :=
  let value := queue.lastSubmitted + 1
  let (signaled, device) := device.signal queue.fence value
  let pooled :=
    match used with
    | some allocator => queue.poolAllocator value allocator
    | none => queue
  let queue := { pooled with lastSubmitted := value }
  match signaled with
  | .error cause => (.error (.device cause), queue.observe cause, device)
  | .ok () => (.ok ⟨queue.fence, value⟩, queue, device)

/-- Records buffers and executes their lists. When nothing reaches the device the allocator is
free for the next submission, so it goes back under the last value. -/
def executeBuffers (queue : Queue) (device : NativeDevice) (resources : Resources)
    (buffers : List CommandBuffer) :
    Except SubmitError CommandAllocator × Queue × NativeDevice :=
  match queue.acquireAllocator device with
  | (.error cause, queue, device) => (.error (.device cause), queue, device)
  | (.ok allocator, queue, device) =>
    match Recording.addAll ⟨queue, device, .fresh, []⟩ resources allocator buffers with
    | (.error error, recording) =>
      (.error error,
        (recording.queue.poolAllocator recording.queue.lastSubmitted allocator).poolLists
          recording.recorded,
        recording.device)
    | (.ok (), recording) =>
      let queue := recording.queue.poolLists recording.recorded
      match recording.device.execute queue.native recording.recorded with
      | (.error cause, device) =>
        (.error (.device cause),
          (queue.observe cause).poolAllocator queue.lastSubmitted allocator, device)
      | (.ok (), device) => (.ok allocator, queue, device)

/-- Submits work that is not empty, on a queue that saw no loss. -/
def submitWork (queue : Queue) (device : NativeDevice) (resources : Resources)
    (buffers : List CommandBuffer) (waits : List Token) :
    Except SubmitError Token × Queue × NativeDevice :=
  match issueWaits device waits with
  | (.error cause, device) => (.error (.device cause), queue.observe cause, device)
  | (.ok (), device) =>
    if buffers.isEmpty then queue.signalNext device none
    else
      match queue.executeBuffers device resources buffers with
      | (.error error, queue, device) => (.error error, queue, device)
      | (.ok allocator, queue, device) => queue.signalNext device (some allocator)

/-- Submits buffers that depend on tokens. The waits are events of the device, and nothing here
waits for them. Where there is neither a command to execute nor a token to wait for, the device
is left alone and the answer is the token of value zero, which every fence has reached. -/
def submit (queue : Queue) (device : Device) (buffers : List CommandBuffer)
    (dependencies : List Token) : Except SubmitError Token × Queue × Device :=
  let work := buffers.filter fun buffer => !buffer.isEmpty
  let waits := dependencies.filter (queue.awaits device.native)
  if work.isEmpty && waits.isEmpty then (.ok ⟨queue.fence, 0⟩, queue, device)
  else if queue.lost then (.error (.device .deviceLost), queue, device)
  else
    let (answer, queue, native) :=
      queue.submitWork device.native device.resources work waits
    (answer, queue, { device with native := native })

/-- Waits for the token of the last submission. -/
def waitIdle (queue : Queue) (device : NativeDevice) : Except DeviceError WaitStatus :=
  queue.lastToken.wait device .unlimited

end Queue

/-- Makes a submission queue of a native queue by giving it a fence. -/
def Device.createQueue (device : Device) (native : NativeQueue) (type : QueueType) :
    Except DeviceError Queue × Device :=
  match device.native.createFence 0 with
  | (.error cause, state) => (.error cause, { device with native := state })
  | (.ok fence, state) =>
    (.ok ⟨type, native, fence, 0, [], [], false⟩, { device with native := state })

end CommandStream
