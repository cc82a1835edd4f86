import CommandStream.Native.Device
/-!
# Completion tokens

A token is a fence with one of its values and stands for the submission that was given this value:
it is reached as soon as the fence completes the value. Only tokens of one fence compare.
-/

namespace CommandStream

/-- The promise that a fence will complete a value. -/
structure Token where
  fence : ObjectId
  value : Nat
  deriving DecidableEq, Repr

namespace Token

/-- Whether both tokens are of one queue. -/
def sameOwner (left right : Token) : Bool := left.fence == right.fence

/-- How two tokens of one queue are ordered. -/
def compare? (left right : Token) : Option Ordering :=
  if left.sameOwner right then some (compare left.value right.value) else none

/-- Whether the device got past the submission. -/
def isReached (token : Token) (device : NativeDevice) : Bool :=
  token.value ≤ device.completedValue token.fence

/-- Waits for the fence of the token to complete its value. -/
def wait (token : Token) (device : NativeDevice) (limit : WaitLimit) :
    Except DeviceError WaitStatus :=
  device.awaitFence token.fence token.value limit

/-- Waits for tokens one after another, until one of them is not reached. -/
def waitAll (device : NativeDevice) (limit : WaitLimit) :
    List Token → Except DeviceError WaitStatus
  | [] => .ok .reached
  | token :: later =>
    match token.wait device limit with
    | .ok .reached => waitAll device limit later
    | stopped => stopped

end Token

/-- How far an asynchronous wait has come: never polled, waiting for its fence in the
background, or answered. -/
inductive WaitStage
  | created
  | waiting
  | finished
  deriving DecidableEq, Repr

/-- An asynchronous wait for a token. -/
structure AsyncWait where
  token : Token
  stage : WaitStage
  deriving DecidableEq, Repr

/-- What asking an asynchronous wait comes to. -/
inductive AsyncAnswer
  | ready
  | pending
  | failed (cause : DeviceError)
  /-- Waiting on would never end. -/
  | blocked
  /-- The wait was answered before. -/
  | finished
  deriving DecidableEq

namespace AsyncWait

/-- The wait for a token, not polled yet. -/
def ofToken (token : Token) : AsyncWait := ⟨token, .created⟩

/-- Asks once. The first question about a token that is not reached starts the background wait
and has no answer yet, even on a lost device. -/
def poll (wait : AsyncWait) (device : NativeDevice) : AsyncAnswer × AsyncWait :=
  match wait.stage with
  | .finished => (.finished, wait)
  | .created =>
    if wait.token.isReached device then (.ready, { wait with stage := .finished })
    else (.pending, { wait with stage := .waiting })
  | .waiting =>
    if wait.token.isReached device then (.ready, { wait with stage := .finished })
    else if device.lost then (.failed .deviceLost, { wait with stage := .finished })
    else (.pending, wait)

/-- Asks until there is an answer, unless there will be none. -/
def await (wait : AsyncWait) (device : NativeDevice) : AsyncAnswer × AsyncWait :=
  match wait.stage with
  | .finished => (.finished, wait)
  | _ =>
    match wait.token.wait device .unlimited with
    | .ok .reached => (.ready, { wait with stage := .finished })
    | .ok _ => (.blocked, wait)
    | .error cause => (.failed cause, { wait with stage := .finished })

end AsyncWait

end CommandStream
