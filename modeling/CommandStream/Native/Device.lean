import CommandStream.Native.Call
import CommandStream.Text.Hexadecimal
/-!
# The recording native device

A native device that executes nothing. A command list is the calls made on it, and one log holds
all that reaches the queues. Fences count up: a signal completes at once or, on request,
only when all pending work is finished by hand. The device can be lost, after which it creates
nothing and accepts nothing, and a signal can be made to fail. Every operation answers with the
device it leaves behind, also when it fails.
-/

namespace CommandStream

/-- Why a native call failed. -/
inductive DeviceError
  /-- The device was removed and does not come back. -/
  | deviceLost
  | outOfMemory
  /-- Any other failure, with the code of the native layer. -/
  | native (code : Int32)
  deriving DecidableEq

namespace DeviceError

/-- The failure of a call that breaks the rules of the native layer. -/
def invalidCall : DeviceError := .native (UInt32.toInt32 0x887A0001)

/-- The text of the error. -/
def message : DeviceError → String
  | .deviceLost => "device lost"
  | .outOfMemory => "out of memory"
  | .native code => s!"native call failed with code {hexadecimal code.toUInt32.toNat}"

/-- Whether the error tells of a removed device. -/
def isDeviceLost (error : DeviceError) : Bool := error == .deviceLost

end DeviceError

/-- A fence: the highest value completed and the highest value signaled on it. -/
structure Fence where
  id : ObjectId
  completed : Nat
  signaled : Nat
  deriving DecidableEq, Repr

/-- The fence after a signal of a value, complete or not. -/
def Fence.signal (fence : Fence) (value : Nat) : Fence :=
  { fence with signaled := max fence.signaled value }

/-- The fence after the work up to a value is done. -/
def Fence.complete (fence : Fence) (value : Nat) : Fence :=
  { fence with completed := max fence.completed value }

/-- Memory that command lists record into; it counts its resets. -/
structure CommandAllocator where
  id : ObjectId
  type : QueueType
  resets : Nat
  deriving DecidableEq, Repr

/-- A list of calls, open for recording or closed. -/
structure CommandList where
  id : ObjectId
  type : QueueType
  recording : Bool
  calls : List Call
  deriving DecidableEq

namespace CommandList

/-- Opens a closed list on an allocator of its type and forgets the calls it held. -/
def reset (list : CommandList) (allocator : CommandAllocator) (pipeline : Option ObjectId) :
    Except DeviceError CommandList :=
  if list.recording ∨ allocator.type ≠ list.type then .error .invalidCall
  else .ok { list with recording := true, calls := [.reset allocator.id pipeline] }

/-- Closes an open list. -/
def close (list : CommandList) : Except DeviceError CommandList :=
  if list.recording then .ok { list with recording := false } else .error .invalidCall

/-- Records calls behind those made so far. -/
def push (list : CommandList) (calls : List Call) : CommandList :=
  { list with calls := list.calls ++ calls }

end CommandList

/-- A queue of the native layer. -/
structure NativeQueue where
  id : ObjectId
  type : QueueType
  deriving DecidableEq, Repr

/-- What a wait for a fence comes to. A wait is `blocked` when it has no limit and nothing that
is under way can end it. -/
inductive WaitStatus
  | reached
  | timedOut
  | blocked
  deriving DecidableEq, Repr

/-- Whether a wait gives up after some time. -/
inductive WaitLimit
  | expiring
  | unlimited
  deriving DecidableEq, Repr

/-- The state of the device: the identity of its next object, its switches, the log of its
queues, its live fences, and counters of the command memory that was asked of it. -/
structure NativeDevice where
  nextId : ObjectId
  lost : Bool
  autoComplete : Bool
  failNextSignal : Bool
  log : List QueueEvent
  fences : List Fence
  allocatorsCreated : Nat
  allocatorResets : Nat
  listsCreated : Nat

namespace NativeDevice

/-- A new device, which completes every signal at once. -/
def fresh : NativeDevice where
  nextId := 1
  lost := false
  autoComplete := true
  failNextSignal := false
  log := []
  fences := []
  allocatorsCreated := 0
  allocatorResets := 0
  listsCreated := 0

/-- Loses the device for good. -/
def lose (device : NativeDevice) : NativeDevice := { device with lost := true }

/-- Chooses whether signals complete at once. -/
def setAutoComplete (device : NativeDevice) (on : Bool) : NativeDevice :=
  { device with autoComplete := on }

/-- Makes the next signal fail. -/
def armSignalFailure (device : NativeDevice) : NativeDevice :=
  { device with failNextSignal := true }

/-- Forgets what reached the queues. -/
def clearLog (device : NativeDevice) : NativeDevice := { device with log := [] }

/-- Catches up with the signals: every fence completes the highest value signaled on it. -/
def completeAll (device : NativeDevice) : NativeDevice :=
  { device with fences := device.fences.map fun fence => fence.complete fence.signaled }

/-- The live fence of an identity. -/
def fence? (device : NativeDevice) (id : ObjectId) : Option Fence :=
  device.fences.find? fun fence => fence.id == id

/-- The highest value completed on a fence, zero for a fence that is gone. -/
def completedValue (device : NativeDevice) (id : ObjectId) : Nat :=
  (device.fence? id).elim 0 Fence.completed

/-- Changes the fence of an identity. -/
def updateFence (device : NativeDevice) (id : ObjectId) (change : Fence → Fence) :
    NativeDevice :=
  { device with
    fences := device.fences.map fun fence => if fence.id = id then change fence else fence }

/-- Lets go of a fence: nothing completes on it any more. -/
def dropFence (device : NativeDevice) (id : ObjectId) : NativeDevice :=
  { device with fences := device.fences.filter fun fence => fence.id ≠ id }

/-- Gives the next identity to an object whose creation needs a working device. -/
def createObject (device : NativeDevice) : Except DeviceError ObjectId × NativeDevice :=
  if device.lost then (.error .deviceLost, device)
  else (.ok device.nextId, { device with nextId := device.nextId + 1 })

/-- Creates a native queue, which also a lost device does. -/
def createQueue (device : NativeDevice) (type : QueueType) : NativeQueue × NativeDevice :=
  (⟨device.nextId, type⟩, { device with nextId := device.nextId + 1 })

/-- Creates a fence at which `initial` is signaled and completed. -/
def createFence (device : NativeDevice) (initial : Nat) :
    Except DeviceError ObjectId × NativeDevice :=
  if device.lost then (.error .deviceLost, device)
  else
    (.ok device.nextId,
      { device with
        nextId := device.nextId + 1
        fences := device.fences ++ [⟨device.nextId, initial, initial⟩] })

/-- Creates command memory for lists of a type. -/
def createAllocator (device : NativeDevice) (type : QueueType) :
    Except DeviceError CommandAllocator × NativeDevice :=
  if device.lost then (.error .deviceLost, device)
  else
    (.ok ⟨device.nextId, type, 0⟩,
      { device with
        nextId := device.nextId + 1
        allocatorsCreated := device.allocatorsCreated + 1 })

/-- Recycles the memory of an allocator. -/
def resetAllocator (device : NativeDevice) (allocator : CommandAllocator) :
    Except DeviceError CommandAllocator × NativeDevice :=
  if device.lost then (.error .deviceLost, device)
  else
    (.ok { allocator with resets := allocator.resets + 1 },
      { device with allocatorResets := device.allocatorResets + 1 })

/-- Creates a closed command list of the type of an allocator. -/
def createList (device : NativeDevice) (type : QueueType) (allocator : CommandAllocator) :
    Except DeviceError CommandList × NativeDevice :=
  if device.lost then (.error .deviceLost, device)
  else if allocator.type ≠ type then (.error .invalidCall, device)
  else
    (.ok ⟨device.nextId, type, false, []⟩,
      { device with nextId := device.nextId + 1, listsCreated := device.listsCreated + 1 })

/-- Makes a queue wait for a fence. -/
def wait (device : NativeDevice) (fence : ObjectId) (value : Nat) :
    Except DeviceError Unit × NativeDevice :=
  if device.lost then (.error .deviceLost, device)
  else (.ok (), { device with log := device.log ++ [.wait fence value] })

/-- Executes closed lists of the type of the queue. -/
def execute (device : NativeDevice) (queue : NativeQueue) (lists : List CommandList) :
    Except DeviceError Unit × NativeDevice :=
  if device.lost then (.error .deviceLost, device)
  else if lists.any fun list => list.recording || list.type != queue.type then
    (.error .invalidCall, device)
  else
    (.ok (), { device with log := device.log ++ [.execute (lists.map CommandList.calls)] })

/-- Signals a fence. A signal that was made to fail disarms the failure and does nothing else;
any other one is complete at once if the device completes by itself. -/
def signal (device : NativeDevice) (fence : ObjectId) (value : Nat) :
    Except DeviceError Unit × NativeDevice :=
  if device.lost then (.error .deviceLost, device)
  else if device.failNextSignal then
    (.error .invalidCall, { device with failNextSignal := false })
  else
    let signaled := device.updateFence fence fun state => state.signal value
    let completed :=
      if device.autoComplete then signaled.updateFence fence fun state => state.complete value
      else signaled
    (.ok (), { completed with log := device.log ++ [.signal fence value] })

/-- Waits until a fence completes a value. Nothing else happens meanwhile, so a value that is
not complete is not going to be: a wait with a limit expires and one without is blocked. -/
def awaitFence (device : NativeDevice) (fence : ObjectId) (value : Nat) (limit : WaitLimit) :
    Except DeviceError WaitStatus :=
  if value ≤ device.completedValue fence then .ok .reached
  else if device.lost then .error .deviceLost
  else
    match limit with
    | .expiring => .ok .timedOut
    | .unlimited => .ok .blocked

end NativeDevice

end CommandStream
