import CommandStream.Command.Buffer
import CommandStream.Text.Hexadecimal
/-!
# Reading command records

Records are read where an offset says. A walk reads them one after another from the start of a
byte string, and ends at its end or at the first record that cannot be read. Nothing is read
beyond the end of the string, whatever the counts in a header announce.
-/

namespace CommandStream

/-- The fields of a record whose value can be outside what the field admits. -/
inductive RecordField
  | topology
  | indexFormat
  | loadOperation
  | storeOperation
  | vertexRange
  | indexRange
  | instanceRange
  | resourceState
  | resourceKind
  deriving DecidableEq, Repr

/-- The text of a field. -/
def RecordField.describe : RecordField → String
  | .topology => "topology"
  | .indexFormat => "index format"
  | .loadOperation => "load op"
  | .storeOperation => "store op"
  | .vertexRange => "vertex range"
  | .indexRange => "index range"
  | .instanceRange => "instance range"
  | .resourceState => "resource state"
  | .resourceKind => "resource kind"

/-- What is wrong with a record, and the offset where the record begins. -/
inductive StreamError
  /-- The tag is that of no command. -/
  | unsupportedCommand (tag : UInt32) (offset : Nat)
  /-- Too few bytes are left for the record. -/
  | truncated (offset : Nat)
  /-- The word in a field stands for nothing there. -/
  | invalidValue (field : RecordField) (value : UInt32) (offset : Nat)
  deriving DecidableEq, Repr

/-- The text of the error. -/
def StreamError.message : StreamError → String
  | .unsupportedCommand tag offset =>
    s!"unsupported command tag {hexadecimal tag.toNat} at offset {offset}"
  | .truncated offset => s!"command record at offset {offset} is truncated"
  | .invalidValue field value offset =>
    s!"invalid {field.describe} value {value.toNat} in record at offset {offset}"

namespace Command

/-- Reads the record at the front of the input, which begins at `offset` for the error, and
answers with the command and the input behind the record. -/
def read (offset : Nat) (bytes : List UInt8) : Except StreamError (Command × List UInt8) :=
  match FixedLayout.word.read bytes with
  | none => .error (.truncated offset)
  | some (word, body) =>
    match (WireEnumeration.ofCode? word : Option CommandTag) with
    | none => .error (.unsupportedCommand word offset)
    | some tag =>
      match tag.layout.read body with
      | none => .error (.truncated offset)
      | some (arguments, rest) => .ok (⟨tag, arguments⟩, rest)

/-- Reads the record that begins at `offset` and answers with its command and with the offset
behind it. -/
def decode (bytes : List UInt8) (offset : Nat) : Except StreamError (Command × Nat) :=
  match read offset (bytes.drop offset) with
  | .error error => .error error
  | .ok (command, _) => .ok (command, offset + command.encodedLength)

/-- A record that is read leaves less input behind. -/
theorem length_lt_of_read {offset : Nat} {bytes rest : List UInt8} {command : Command}
    (decoded : read offset bytes = .ok (command, rest)) : rest.length < bytes.length := by
  unfold read at decoded
  split at decoded
  · cases decoded
  · rename_i readTag
    have tagLength := FixedLayout.word.length_of_read readTag
    have wordBytes : FixedLayout.word.size = 4 := rfl
    split at decoded
    · cases decoded
    · rename_i tag _
      split at decoded
      · cases decoded
      · rename_i readBody
        cases decoded
        have bodyLength := tag.layout.length_le_of_read readBody
        omega

end Command

/-- What reading a byte string from its start finds: the commands with their offsets, the offset
where reading stopped, and why when that is not the end. -/
structure Walk where
  records : List (Nat × Command)
  stop : Nat
  failure : Option StreamError

/-- Reads the records of an input whose first byte has the given offset. -/
def Walk.start (offset : Nat) (bytes : List UInt8) : Walk :=
  if bytes.isEmpty then ⟨[], offset, none⟩
  else
    match _decoded : Command.read offset bytes with
    | .error error => ⟨[], offset, some error⟩
    | .ok (command, rest) =>
      let later := Walk.start (offset + command.encodedLength) rest
      { later with records := (offset, command) :: later.records }
termination_by bytes.length
decreasing_by exact Command.length_lt_of_read _decoded

/-- The walk of a byte string. -/
def Walk.ofBytes (bytes : List UInt8) : Walk := Walk.start 0 bytes

/-- The walk of a buffer's records. -/
def CommandBuffer.walk (buffer : CommandBuffer) : Walk := Walk.ofBytes buffer.bytes

end CommandStream
