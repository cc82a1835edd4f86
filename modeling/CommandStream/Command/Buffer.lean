import CommandStream.Command.Record
/-!
# Command buffers

A command buffer is the concatenation of records, with the number of them and the pipeline that
the first `SetPipeline` record names. Writing appends and decides nothing: a handle is a pair of
words to it, and a record that makes no sense is found out by replay.
-/

namespace CommandStream

/-- The stored form of a record: tag, header, arrays, and zeros up to a whole word. -/
def recordBytes (tag : CommandTag) (header : List UInt8) (arrays : List (List UInt8)) :
    List UInt8 :=
  let content := FixedLayout.word.write (WireEnumeration.code tag) ++ header ++ arrays.flatten
  let padding := recordLength header.length (arrays.map List.length) - content.length
  content ++ List.replicate padding 0

/-- The records written so far. -/
structure CommandBuffer where
  bytes : List UInt8
  count : Nat
  firstPipeline : Option Handle
  deriving DecidableEq, Repr

namespace CommandBuffer

/-- The buffer without records. -/
def empty : CommandBuffer := ⟨[], 0, none⟩

/-- Whether no record was written. -/
def isEmpty (buffer : CommandBuffer) : Bool := buffer.bytes.isEmpty

/-- The pipeline that a record binds, when its header has the size of a handle. -/
def pipelineOf (tag : CommandTag) (header : List UInt8) : Option Handle :=
  if tag = .setPipeline ∧ header.length = Handle.layout.size then
    (Handle.layout.read header).map Prod.fst
  else
    none

/-- Appends a record of the given tag, header and arrays, whatever they hold. -/
def write (buffer : CommandBuffer) (tag : CommandTag) (header : List UInt8)
    (arrays : List (List UInt8)) : CommandBuffer where
  bytes := buffer.bytes ++ recordBytes tag header arrays
  count := buffer.count + 1
  firstPipeline := buffer.firstPipeline.or (pipelineOf tag header)

/-- Appends the record of a command, with its counts settled. -/
def append (buffer : CommandBuffer) (command : Command) : CommandBuffer :=
  let settled := command.settle
  buffer.write command.tag (command.tag.layout.header settled.arguments)
    (command.tag.layout.arrays settled.arguments)

/-- The buffer of the given commands. -/
def ofCommands (commands : List Command) : CommandBuffer := commands.foldl append empty

end CommandBuffer

end CommandStream
