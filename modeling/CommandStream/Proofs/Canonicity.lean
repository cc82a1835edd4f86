import CommandStream.Proofs.AnnouncedSize
import CommandStream.Proofs.RoundTrip
/-!
# Walking any bytes

A byte string need not come from an encoder. Whatever it is, there is one way to see it as records
in a row with a rest that no record begins, and a walk finds it: `Walk.exists_records` is by
induction along the walk. So a byte string that is walked to its end is the buffer of the commands
that were found, bit for bit, and `walk_ofBytes_all` says what the others are.
-/

namespace CommandStream

/-! ## Records in a row -/

namespace Command

/-- A record takes a word at least. -/
theorem four_le_encodedLength (command : Command) : 4 ≤ command.encodedLength :=
  Nat.le_of_dvd command.encodedLength_pos command.dvd_encodedLength

/-- Records in a row take a word each at least. -/
theorem four_mul_length_le_size (commands : List Command) :
    4 * commands.length ≤ size commands := by
  induction commands with
  | nil => exact Nat.le_refl _
  | cons command later inductionHypothesis =>
    have first := command.four_le_encodedLength
    rw [List.length_cons, size_cons]
    omega

/-- What is placed is one of the commands, behind those before it. -/
theorem exists_of_mem_placed {offset : Nat} {commands : List Command} {place : Nat × Command}
    (member : place ∈ placed offset commands) :
    ∃ front command back, commands = front ++ command :: back ∧
      place = (offset + size front, command.counted) := by
  induction commands generalizing offset with
  | nil => cases member
  | cons first later inductionHypothesis =>
    rcases List.mem_cons.mp member with rfl | behind
    · exact ⟨[], first, later, rfl, rfl⟩
    · obtain ⟨front, command, back, rfl, rfl⟩ := inductionHypothesis behind
      refine ⟨first :: front, command, back, rfl, ?_⟩
      rw [size_cons, Nat.add_assoc]

/-- The bytes of a record stand where it is placed, and end before those of the rest. -/
theorem slice_of_mem_placed {commands : List Command} {place : Nat × Command}
    (member : place ∈ placed 0 commands) (rest : List UInt8) :
    let bytes := commands.flatMap record ++ rest
    place.1 + place.2.encodedLength ≤ size commands ∧
      (bytes.drop place.1).take place.2.encodedLength = place.2.record := by
  intro bytes
  obtain ⟨front, command, back, rfl, rfl⟩ := exists_of_mem_placed member
  have before := length_records front
  have own := command.length_record
  constructor
  · rw [encodedLength_counted, ← length_records (front ++ command :: back), List.flatMap_append,
      List.length_append, List.flatMap_cons, List.length_append]
    omega
  · have split : bytes = front.flatMap record ++ (command.record ++
        (back.flatMap record ++ rest)) := by
      simp [bytes]
    rw [split, Nat.zero_add, ← before, List.drop_left, encodedLength_counted, ← own,
      List.take_left, record, record, counted_counted]

end Command

/-! ## Any bytes -/

namespace Walk

/-- How a walk ends in front of a rest: there is none, or no record is read from it. -/
inductive Stops (offset : Nat) : List UInt8 → Option StreamError → Prop
  | finished : Stops offset [] none
  | failed {rest : List UInt8} {error : StreamError} (present : rest ≠ [])
      (refused : Command.read offset rest = .error error) : Stops offset rest (some error)

theorem start_of_error {offset : Nat} {bytes : List UInt8} {error : StreamError}
    (present : bytes ≠ []) (refused : Command.read offset bytes = .error error) :
    start offset bytes = ⟨[], offset, some error⟩ := by
  rw [start, if_neg (mt List.isEmpty_iff.mp present)]
  split
  · rename_i found
    rw [refused] at found
    cases found
    rfl
  · rename_i found
    rw [refused] at found
    cases found

/-- The commands that a walk found. -/
def commands (walk : Walk) : List Command := walk.records.map Prod.snd

/-- Every byte string is records in a row and a rest. The walk finds the settled commands of the
records, one where the other ends, and stops in front of the rest. -/
theorem exists_records (offset : Nat) (bytes : List UInt8) :
    ∃ commands rest failure,
      bytes = commands.flatMap Command.record ++ rest ∧
        (∀ command ∈ commands, command.Settled) ∧
        Stops (offset + Command.size commands) rest failure ∧
        start offset bytes =
          ⟨Command.placed offset commands, offset + Command.size commands, failure⟩ := by
  -- along the walk: each record that is read leaves a shorter rest
  induction offset, bytes using Walk.start.induct with
  | case1 offset bytes isEmpty =>
    obtain rfl := List.isEmpty_iff.mp isEmpty
    exact ⟨[], [], none, rfl, nofun, .finished, start_nil offset⟩
  | case2 offset bytes notEmpty error refused =>
    have present : bytes ≠ [] := mt List.isEmpty_iff.mpr notEmpty
    exact ⟨[], bytes, some error, rfl, nofun, .failed present refused,
      start_of_error present refused⟩
  | case3 offset bytes notEmpty command rest decoded inductionHypothesis =>
    obtain ⟨later, final, failure, split, settled, stops, walked⟩ := inductionHypothesis
    obtain ⟨isSettled, written⟩ := Command.read_eq_ok_iff.mp decoded
    refine ⟨command :: later, final, failure, ?_, ?_, ?_, ?_⟩
    · rw [List.flatMap_cons, List.append_assoc, ← split, written]
    · exact List.forall_mem_cons.mpr ⟨isSettled, settled⟩
    · rw [Command.size_cons, ← Nat.add_assoc]
      exact stops
    · rw [start_of_read decoded, walked, Command.placed, isSettled.2, Command.size_cons,
        Nat.add_assoc]

/-- A walk ends without a failure exactly if there is no rest. -/
theorem Stops.eq_none_iff {offset : Nat} {rest : List UInt8} {failure : Option StreamError}
    (stops : Stops offset rest failure) : failure = none ↔ rest = [] := by
  cases stops with
  | finished => exact iff_of_true rfl rfl
  | failed present refused => exact iff_of_false nofun present

/-- A walk ends with the complaint about the record that is not read. -/
theorem Stops.eq_some_iff {offset : Nat} {rest : List UInt8} {failure : Option StreamError}
    (stops : Stops offset rest failure) {error : StreamError} :
    failure = some error ↔ rest ≠ [] ∧ Command.read offset rest = .error error := by
  cases stops with
  | finished => exact iff_of_false nofun fun ⟨present, _⟩ => present rfl
  | @failed _ found present refused =>
    rw [refused]
    constructor
    · rintro ⟨⟩
      exact ⟨present, rfl⟩
    · rintro ⟨_, ⟨⟩⟩
      rfl

end Walk

/-- The bytes of a buffer of commands are their records in a row. -/
theorem CommandBuffer.bytes_ofCommands (commands : List Command) :
    (ofCommands commands).bytes = commands.flatMap Command.record := by
  rw [ofCommands_eq]

/-- A byte string is walked to its end exactly if it is the buffer of some commands. -/
theorem Walk.failure_eq_none_iff (bytes : List UInt8) :
    (Walk.ofBytes bytes).failure = none ↔
      ∃ commands : List Command, (∀ command ∈ commands, command.Countable) ∧
        bytes = (CommandBuffer.ofCommands commands).bytes := by
  constructor
  · intro noFailure
    obtain ⟨commands, rest, failure, split, settled, stops, walked⟩ := exists_records 0 bytes
    rw [ofBytes, walked] at noFailure
    refine ⟨commands, fun command member => (settled command member).1, ?_⟩
    rw [CommandBuffer.bytes_ofCommands, split, stops.eq_none_iff.mp noFailure, List.append_nil]
  · rintro ⟨commands, countable, rfl⟩
    exact congrArg failure (CommandBuffer.walk_ofCommands countable)

/-- What a walk says of the bytes that it is a walk of. -/
structure Walk.Explains (walk : Walk) (bytes : List UInt8) : Prop where
  /-- There is at most one command for every four bytes. -/
  atMost : walk.commands.length ≤ bytes.length / 4
  inside : walk.stop ≤ bytes.length
  /-- Up to where the walk stops, the bytes are those of the buffer of the commands. -/
  written : bytes.take walk.stop = (CommandBuffer.ofCommands walk.commands).bytes
  stop_eq : walk.stop = total (walk.commands.map Command.encodedLength)
  /-- The counts of the commands are the lengths of their arrays. -/
  counted : ∀ command ∈ walk.commands, command.Settled
  /-- Each command stands where those before it end. -/
  placed : walk.records = Command.placed 0 walk.commands
  /-- Each command is read from bytes that are there. -/
  present : ∀ place ∈ walk.records, place.1 + place.2.encodedLength ≤ bytes.length ∧
    (bytes.drop place.1).take place.2.encodedLength =
      (CommandBuffer.empty.append place.2).bytes
  /-- Without a failure, the walk stops at the end. -/
  finished : walk.failure = none ↔ walk.stop = bytes.length
  /-- The buffers of commands, and no other bytes, are walked without a failure. -/
  accepted : walk.failure = none ↔ ∃ commands : List Command,
    (∀ command ∈ commands, command.Countable) ∧
      bytes = (CommandBuffer.ofCommands commands).bytes
  /-- A failure is about a tag if the word where the walk stops is the tag of no command. -/
  unsupported : ∀ word place, walk.failure = some (.unsupportedCommand word place) ↔
    place = walk.stop ∧ 4 ≤ (bytes.drop walk.stop).length ∧
      wordAt (bytes.drop walk.stop) 0 = word.toNat ∧
      ¬(1 ≤ wordAt (bytes.drop walk.stop) 0 ∧ wordAt (bytes.drop walk.stop) 0 ≤ 17)
  /-- It is about the size if there is no word for a tag, or if there is less behind the tag of a
  command than header and counts announce. -/
  truncated : ∀ place, walk.failure = some (.truncated place) ↔
    place = walk.stop ∧ bytes.drop walk.stop ≠ [] ∧
      ((bytes.drop walk.stop).length < 4 ∨
        ∃ tag : CommandTag,
          wordAt (bytes.drop walk.stop) 0 = (WireEnumeration.code tag).toNat ∧
          (bytes.drop walk.stop).length < 4 + tag.announcedSize (bytes.drop (walk.stop + 4)))
  /-- There are no other failures. -/
  valid : ∀ field value place, walk.failure ≠ some (.invalidValue field value place)

/-- Of any bytes a walk accepts exactly what writing produces, and it explains where it stops: up
to there the bytes are those of the buffer of the commands that it found, and the failure, if there
is one, is about the record that would begin there. -/
theorem walk_ofBytes_all (bytes : List UInt8) : (Walk.ofBytes bytes).Explains bytes := by
  have accepted := Walk.failure_eq_none_iff bytes
  obtain ⟨commands, rest, failure, split, settled, stops, walked⟩ := Walk.exists_records 0 bytes
  rw [Nat.zero_add] at stops walked
  rw [show Walk.ofBytes bytes = _ from walked] at accepted ⊢
  have isCommands : Walk.commands ⟨Command.placed 0 commands, Command.size commands, failure⟩ =
      commands := by
    rw [Walk.commands, Command.map_snd_placed,
      List.map_congr_left fun command member => (settled command member).2, List.map_id']
  have atStop := Command.length_records commands
  have isRest : bytes.drop (Command.size commands) = rest := by
    rw [split, ← atStop, List.drop_left]
  have length : bytes.length = Command.size commands + rest.length := by
    rw [split, List.length_append, atStop]
  constructor
  case atMost =>
    have atLeast := Command.four_mul_length_le_size commands
    rw [isCommands]
    omega
  case inside => exact length ▸ Nat.le_add_right _ _
  case written =>
    rw [isCommands, CommandBuffer.bytes_ofCommands, split, ← atStop, List.take_left]
  case stop_eq =>
    rw [isCommands]
    rfl
  case counted => exact isCommands.symm ▸ settled
  case placed => rw [isCommands]
  case present =>
    intro place member
    obtain ⟨inside, isRecord⟩ := Command.slice_of_mem_placed member rest
    refine ⟨length ▸ Nat.le_trans inside (Nat.le_add_right _ _), ?_⟩
    rw [split, isRecord, CommandBuffer.append_eq, CommandBuffer.empty, List.nil_append]
  case finished =>
    rw [stops.eq_none_iff, ← List.length_eq_zero_iff]
    dsimp only
    omega
  case accepted => exact accepted
  case unsupported =>
    intro word place
    rw [isRest, stops.eq_some_iff, Command.read_eq_unsupportedCommand_iff]
    refine ⟨And.right, fun wrong => ⟨?_, wrong⟩⟩
    exact List.ne_nil_of_length_pos (Nat.lt_of_lt_of_le (by decide) wrong.2.1)
  case truncated =>
    intro place
    rw [← List.drop_drop, isRest, stops.eq_some_iff, Command.read_eq_truncated_iff]
    exact and_left_comm
  case valid =>
    intro field value place failed
    exact Command.read_ne_invalidValue _ _ _ _ _ (stops.eq_some_iff.mp failed).2

end CommandStream
