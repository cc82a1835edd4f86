import CommandStream.Proofs.Records
/-!
# Walking what was written

No record says where it ends, so a walk gets from one record to the next only because reading a
record takes exactly the bytes that writing it appended. `Walk.start_records` carries this through
a whole stream of records; `walk_edit_all` says it of the buffers that appending and clearing
make. Streams that nobody wrote are not the subject here.
-/

namespace CommandStream

/-! ## One step of a walk -/

namespace Walk

/-- At the end of the input a walk stops without a failure. -/
theorem start_nil (offset : Nat) : start offset [] = ⟨[], offset, none⟩ := by
  rw [start]
  rfl

/-- A record that is read is the first of the walk, and the walk goes on behind it. -/
theorem start_of_read {offset : Nat} {bytes rest : List UInt8} {command : Command}
    (decoded : Command.read offset bytes = .ok (command, rest)) :
    start offset bytes =
      { start (offset + command.encodedLength) rest with
        records := (offset, command) ::
          (start (offset + command.encodedLength) rest).records } := by
  have shorter := Command.length_lt_of_read decoded
  have some : bytes.isEmpty = false := by
    cases bytes with
    | nil => exact absurd shorter (Nat.not_lt_zero _)
    | cons => rfl
  rw [start, some, if_neg Bool.false_ne_true]
  split
  · rename_i failed
    rw [decoded] at failed
    cases failed
  · rename_i found
    rw [decoded] at found
    cases found
    rfl

end Walk

/-! ## Streams of records -/

namespace Command

/-- Commands with their true counts, and the offset of each when the first record begins at
`offset` and every other one where the record before it ends. -/
def placed (offset : Nat) : List Command → List (Nat × Command)
  | [] => []
  | command :: later => (offset, command.counted) :: placed (offset + command.encodedLength) later

/-- The bytes that the records of commands take together. -/
def size (commands : List Command) : Nat := total (commands.map encodedLength)

@[simp] theorem size_cons (command : Command) (later : List Command) :
    size (command :: later) = command.encodedLength + size later := rfl

/-- Records in a row are as long as their commands say together. -/
theorem length_records (commands : List Command) :
    (commands.flatMap record).length = size commands := by
  induction commands with
  | nil => rfl
  | cons command later inductionHypothesis =>
    rw [List.flatMap_cons, List.length_append, length_record, inductionHypothesis, size_cons]

/-- Commands in a row take what those in front and those behind take. -/
theorem size_append (front back : List Command) :
    size (front ++ back) = size front + size back := by
  rw [← length_records, ← length_records, ← length_records, List.flatMap_append,
    List.length_append]

/-- Settling counts does not change what records take. -/
theorem size_map_counted (commands : List Command) :
    size (commands.map counted) = size commands := by
  rw [size, List.map_map, size]
  exact congrArg total (List.map_congr_left fun command _ => command.encodedLength_counted)

/-- Placing commands keeps their order and settles their counts. -/
theorem map_snd_placed (offset : Nat) (commands : List Command) :
    (placed offset commands).map Prod.snd = commands.map counted := by
  induction commands generalizing offset with
  | nil => rfl
  | cons command later inductionHypothesis =>
    rw [placed, List.map_cons, List.map_cons, inductionHypothesis]

/-- Commands behind others are placed behind their records. -/
theorem placed_append (offset : Nat) (front back : List Command) :
    placed offset (front ++ back) = placed offset front ++ placed (offset + size front) back := by
  induction front generalizing offset with
  | nil => rfl
  | cons command later inductionHypothesis =>
    rw [List.cons_append, placed, inductionHypothesis, placed, size_cons, Nat.add_assoc,
      List.cons_append]

/-- Every record begins where a word begins if the first one does. -/
theorem dvd_of_mem_placed {offset : Nat} {commands : List Command} (aligned : 4 ∣ offset)
    {position : Nat × Command} (member : position ∈ placed offset commands) :
    4 ∣ position.1 := by
  induction commands generalizing offset with
  | nil => cases member
  | cons command later inductionHypothesis =>
    rcases List.mem_cons.mp member with rfl | behind
    · exact aligned
    · exact inductionHypothesis (Nat.dvd_add aligned command.dvd_encodedLength) behind

end Command

/-- A walk finds the records in front of any rest, one for each command, and then goes on with
the rest. The induction is on the commands: reading a record leaves exactly the later ones. -/
theorem Walk.start_records {commands : List Command}
    (countable : ∀ command ∈ commands, command.Countable) (offset : Nat) (rest : List UInt8) :
    Walk.start offset (commands.flatMap Command.record ++ rest) =
      { Walk.start (offset + Command.size commands) rest with
        records := Command.placed offset commands ++
          (Walk.start (offset + Command.size commands) rest).records } := by
  induction commands generalizing offset with
  | nil => rfl
  | cons command later inductionHypothesis =>
    have first := Command.read_record (countable command List.mem_cons_self) offset
      (later.flatMap Command.record ++ rest)
    have behind := inductionHypothesis
      (fun command member => countable command (List.mem_cons_of_mem _ member))
      (offset + command.encodedLength)
    rw [List.flatMap_cons, List.append_assoc, Walk.start_of_read first,
      Command.encodedLength_counted, behind, Command.size_cons, Command.placed,
      Nat.add_assoc]
    rfl

/-! ## Buffers -/

namespace CommandBuffer

/-- Appending commands appends their records and counts them; the first of them that binds a
pipeline is noted unless one was before. -/
theorem foldl_append_eq (buffer : CommandBuffer) (commands : List Command) :
    commands.foldl append buffer =
      ⟨buffer.bytes ++ commands.flatMap Command.record, buffer.count + commands.length,
        buffer.firstPipeline.or (commands.findSome? Command.pipeline?)⟩ := by
  induction commands generalizing buffer with
  | nil => simp
  | cons command later inductionHypothesis =>
    rw [List.foldl_cons, inductionHypothesis, append_eq, List.flatMap_cons, List.append_assoc,
      List.length_cons, List.findSome?_cons, Nat.add_assoc, Nat.add_comm 1, Option.or_assoc]
    cases command.pipeline? <;> rfl

/-- A buffer holds the records of its commands, their number, and the first pipeline among
them. -/
theorem ofCommands_eq (commands : List Command) :
    ofCommands commands =
      ⟨commands.flatMap Command.record, commands.length,
        commands.findSome? Command.pipeline?⟩ := by
  rw [ofCommands, foldl_append_eq, empty, List.nil_append, Nat.zero_add, Option.none_or]

/-- Only the true counts of commands reach a buffer. -/
theorem ofCommands_map_counted (commands : List Command) :
    ofCommands (commands.map Command.counted) = ofCommands commands := by
  rw [ofCommands, List.foldl_map]
  exact congrArg (fun step => commands.foldl step empty)
    (funext fun buffer => funext fun command => append_counted buffer command)

/-- The walk of a buffer finds the commands that it is made of. -/
theorem walk_ofCommands {commands : List Command}
    (countable : ∀ command ∈ commands, command.Countable) :
    (ofCommands commands).walk =
      ⟨Command.placed 0 commands, Command.size commands, none⟩ := by
  have walked := Walk.start_records countable 0 []
  rw [List.append_nil, Nat.zero_add, Walk.start_nil, List.append_nil] at walked
  rw [walk, Walk.ofBytes, ofCommands_eq, walked]

end CommandBuffer

/-! ## Appending and clearing -/

/-- What is done to a command buffer: a command is appended, or every record is dropped. -/
inductive BufferEdit
  | append (command : Command)
  | clear

/-- The buffer after an edit. -/
def CommandBuffer.edit (buffer : CommandBuffer) : BufferEdit → CommandBuffer
  | .append command => buffer.append command
  | .clear => .empty

/-- The commands that were appended since the records were last dropped, in order, when
`commands` were there before. -/
def BufferEdit.remaining (commands : List Command) : List BufferEdit → List Command
  | [] => commands
  | .append command :: later => remaining (commands ++ [command]) later
  | .clear :: later => remaining [] later

/-- A buffer is made of the commands that were appended since it was last cleared. -/
theorem CommandBuffer.foldl_edit_ofCommands (commands : List Command) (edits : List BufferEdit) :
    edits.foldl CommandBuffer.edit (ofCommands commands) =
      ofCommands (BufferEdit.remaining commands edits) := by
  induction edits generalizing commands with
  | nil => rfl
  | cons edit later inductionHypothesis =>
    cases edit with
    | append command =>
      have appended : (ofCommands commands).append command =
          ofCommands (commands ++ [command]) := by
        rw [ofCommands, ofCommands, List.foldl_append]
        rfl
      rw [List.foldl_cons, CommandBuffer.edit, appended, inductionHypothesis,
        BufferEdit.remaining]
    | clear => exact inductionHypothesis []

/-- Walking undoes writing: after any edits, the walk of a buffer yields the commands that were
appended since the last clear, with true counts and otherwise as they were, each record where the
one before it ends, and no failure. Length, count and first pipeline are those of the commands,
and writing again what was read makes the same buffer. -/
theorem walk_edit_all (edits : List BufferEdit)
    (countable : ∀ command ∈ BufferEdit.remaining [] edits, command.Countable) :
    let commands := BufferEdit.remaining [] edits
    let buffer := edits.foldl CommandBuffer.edit .empty
    let walk := buffer.walk
    walk.records.map Prod.snd = commands.map Command.counted ∧
      walk.records = Command.placed 0 commands ∧
      walk.failure = none ∧
      walk.stop = total (commands.map Command.encodedLength) ∧
      buffer.bytes.length = total (commands.map Command.encodedLength) ∧
      (∀ position ∈ walk.records, 4 ∣ position.1) ∧
      buffer.count = commands.length ∧
      buffer.firstPipeline = commands.findSome? Command.pipeline? ∧
      CommandBuffer.ofCommands (walk.records.map Prod.snd) = buffer := by
  intro commands buffer walk
  have made : buffer = .ofCommands commands := CommandBuffer.foldl_edit_ofCommands [] edits
  have walked : walk = ⟨Command.placed 0 commands, Command.size commands, none⟩ := by
    rw [show walk = buffer.walk from rfl, made, CommandBuffer.walk_ofCommands countable]
  rw [walked, made]
  refine ⟨Command.map_snd_placed 0 commands, rfl, rfl, rfl, ?_, ?_, ?_, ?_, ?_⟩
  · rw [CommandBuffer.ofCommands_eq, Command.length_records, Command.size]
  · exact fun position member => Command.dvd_of_mem_placed (Nat.dvd_zero 4) member
  · rw [CommandBuffer.ofCommands_eq]
  · rw [CommandBuffer.ofCommands_eq]
  · rw [Command.map_snd_placed, CommandBuffer.ofCommands_map_counted]

/-- Edits of a buffer: the record in front of the clear is dropped, the topology behind it is none,
the pipeline is null, and the two counts of the barriers are wrong. -/
def BufferEdit.sample : List BufferEdit :=
  [.append ⟨.endRenderPass, ()⟩, .clear, .append ⟨.setTopology, 99⟩,
    .append ⟨.setPipeline, Handle.null⟩,
    .append ⟨.resourceBarriers, ((⟨7, 9⟩, []), [⟨Handle.null, 5⟩])⟩]

/-- Walking the sample finds three records, the last of them with its true counts. -/
theorem walk_edit_sample :
    (∀ command ∈ BufferEdit.remaining [] BufferEdit.sample, command.Countable) ∧
      (BufferEdit.sample.foldl CommandBuffer.edit .empty).walk.records =
        [(0, ⟨.setTopology, 99⟩), (8, ⟨.setPipeline, Handle.null⟩),
          (20, ⟨.resourceBarriers, ((⟨0, 1⟩, []), [⟨Handle.null, 5⟩])⟩)] := by
  have countable :
      ∀ command ∈ BufferEdit.remaining [] BufferEdit.sample, command.Countable := by
    simp [BufferEdit.sample, BufferEdit.remaining, Command.Countable, Command.arrayLengths]
  obtain ⟨_, records, _⟩ := walk_edit_all BufferEdit.sample countable
  exact ⟨countable, records⟩

end CommandStream
