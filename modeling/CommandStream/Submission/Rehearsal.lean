import CommandStream.Replay
/-!
# Rehearsals

A rehearsal replays buffers onto command lists that no queue ever executes. Every buffer gets an
allocator and a list of its own; the interpreter is one for all of them.
-/

namespace CommandStream

/-- What the replay of one buffer came to: its verdict, the topology set at its end, and the
calls on its list. -/
structure Rehearsal where
  result : Except ReplayError ReplayStatistics
  topology : Option PrimitiveTopology
  calls : List Call

namespace Rehearsal

/-- An open list on an allocator, both of them new. -/
def openList (device : NativeDevice) (type : QueueType) :
    Except DeviceError CommandList × NativeDevice :=
  match device.createAllocator type with
  | (.error cause, device) => (.error cause, device)
  | (.ok allocator, device) =>
    match device.createList type allocator with
    | (.error cause, device) => (.error cause, device)
    | (.ok list, device) => (list.reset allocator none, device)

/-- Rehearses buffers in order. -/
def run (resources : Resources) (type : QueueType) (device : NativeDevice)
    (interpreter : Interpreter) :
    List CommandBuffer → Except DeviceError (List Rehearsal) × NativeDevice
  | [] => (.ok [], device)
  | buffer :: later =>
    match openList device type with
    | (.error cause, device) => (.error cause, device)
    | (.ok list, device) =>
      let (result, interpreter, filled) := interpreter.record resources list buffer
      let rehearsal := ⟨result, interpreter.topology, filled.calls⟩
      let (rest, device) := run resources type device interpreter later
      (rest.map fun rehearsals => rehearsal :: rehearsals, device)

end Rehearsal

/-- Rehearses buffers on a device. -/
def Device.rehearse (device : Device) (type : QueueType) (buffers : List CommandBuffer) :
    Except DeviceError (List Rehearsal) × Device :=
  let (answer, native) := Rehearsal.run device.resources type device.native .fresh buffers
  (answer, { device with native := native })

end CommandStream
