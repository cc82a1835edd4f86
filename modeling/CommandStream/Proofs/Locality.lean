import CommandStream.Proofs.Canonicity
/-!
# Reading is local

What is read at an offset depends on the bytes of the record alone. More bytes on either side make
no difference but to the offsets, and with any byte less the record is cut off. The first part is
about single records and rests on `read_append` and `read_take`; a walk is shifted as a whole
(`Walk.start_shifted`), goes on behind any records in a row, and stops at a cut.
-/

namespace CommandStream

/-! ## One record -/

namespace Command

/-- More bytes behind a record that is read are left behind it. -/
theorem read_append {offset : Nat} {bytes rest : List UInt8} {command : Command}
    (decoded : read offset bytes = .ok (command, rest)) (later : List UInt8) :
    read offset (bytes ++ later) = .ok (command, rest ++ later) := by
  obtain ⟨settled, rfl⟩ := read_eq_ok_iff.mp decoded
  exact read_eq_ok_iff.mpr ⟨settled, List.append_assoc ..⟩

/-- More bytes behind a tag of no command do not make it one. -/
theorem read_append_of_unsupported {offset place : Nat} {bytes : List UInt8} {word : UInt32}
    (refused : read offset bytes = .error (.unsupportedCommand word place))
    (later : List UInt8) :
    read offset (bytes ++ later) = .error (.unsupportedCommand word place) := by
  have outcome := reads offset bytes
  rw [refused] at outcome
  cases outcome with
  | @noCommand _ body front unknown =>
    have whole : bytes ++ later = FixedLayout.word.write word ++ (body ++ later) := by
      rw [front, List.append_assoc]
    obtain ⟨isWord, _, length⟩ := split_word whole
    exact read_eq_unsupportedCommand_iff.mpr
      ⟨rfl, length ▸ Nat.le_add_right _ _, isWord, isWord ▸ unknown⟩

/-- A record that is read is as long as its command says. -/
theorem length_of_read {offset : Nat} {bytes rest : List UInt8} {command : Command}
    (decoded : read offset bytes = .ok (command, rest)) :
    bytes.length = command.encodedLength + rest.length := by
  rw [(read_eq_ok_iff.mp decoded).2, List.length_append, length_record]

/-- Of a record that is read, fewer bytes than it takes are cut off. Any other answer would be the
answer for the whole record too. -/
theorem read_take {offset count : Nat} {bytes rest : List UInt8} {command : Command}
    (decoded : read offset bytes = .ok (command, rest))
    (short : count < command.encodedLength) :
    read offset (bytes.take count) = .error (.truncated offset) := by
  have outcome := reads offset (bytes.take count)
  rcases answer : read offset (bytes.take count) with error | ⟨other, left⟩
  · rw [answer] at outcome
    cases outcome with
    | noTag => rfl
    | noBody => rfl
    | noCommand =>
      have whole := read_append_of_unsupported answer (bytes.drop count)
      rw [List.take_append_drop, decoded] at whole
      cases whole
  · have whole := read_append answer (bytes.drop count)
    rw [List.take_append_drop, decoded] at whole
    cases whole
    have taken := length_of_read answer
    have atMost := List.length_take_le count bytes
    omega

/-- Where a record is decoded, its bytes are read from there. -/
theorem decode_eq_ok_iff {bytes : List UInt8} {offset stop : Nat} {command : Command} :
    decode bytes offset = .ok (command, stop) ↔
      stop = offset + command.encodedLength ∧
        ∃ rest, read offset (bytes.drop offset) = .ok (command, rest) := by
  unfold decode
  split
  · rename_i failed
    rw [failed]
    constructor
    · rintro ⟨⟩
    · rintro ⟨_, _, ⟨⟩⟩
  · rename_i found
    rw [found]
    constructor
    · rintro ⟨⟩
      exact ⟨rfl, _, rfl⟩
    · rintro ⟨rfl, _, ⟨⟩⟩
      rfl

/-- The record at an offset is settled by its own bytes. -/
structure DecodesLocally (bytes : List UInt8) (offset : Nat) (command : Command) (stop : Nat) :
    Prop where
  tagged : offset + 4 ≤ stop
  inside : stop ≤ bytes.length
  aligned : 4 ∣ offset → 4 ∣ stop
  /-- Bytes behind the others make no difference. -/
  before : ∀ later, decode (bytes ++ later) offset = .ok (command, stop)
  /-- Bytes in front of the others shift the offsets. -/
  behind : ∀ earlier,
    decode (earlier ++ bytes) (earlier.length + offset) = .ok (command, earlier.length + stop)
  /-- A cut anywhere in front of the end of the record cuts it off. -/
  short : ∀ count < stop, decode (bytes.take count) offset = .error (.truncated offset)

/-- Whether a record is read does not depend on the offset that a complaint would name. -/
theorem read_eq_ok_of_offset {offset place : Nat} {bytes rest : List UInt8} {command : Command}
    (decoded : read offset bytes = .ok (command, rest)) :
    read place bytes = .ok (command, rest) :=
  read_eq_ok_iff.mpr (read_eq_ok_iff.mp decoded)

theorem decodesLocally {bytes : List UInt8} {offset stop : Nat} {command : Command}
    (decoded : decode bytes offset = .ok (command, stop)) :
    DecodesLocally bytes offset command stop := by
  obtain ⟨rfl, rest, found⟩ := decode_eq_ok_iff.mp decoded
  have length := length_of_read found
  rw [List.length_drop] at length
  have word := command.four_le_encodedLength
  constructor
  case tagged => exact Nat.add_le_add_left word offset
  case inside => omega
  case aligned => exact fun aligned => Nat.dvd_add aligned command.dvd_encodedLength
  case before =>
    intro later
    refine decode_eq_ok_iff.mpr ⟨rfl, rest ++ later, ?_⟩
    rw [List.drop_append_of_le_length (by omega)]
    exact read_append found later
  case behind =>
    intro earlier
    refine decode_eq_ok_iff.mpr ⟨(Nat.add_assoc ..).symm, rest, ?_⟩
    rw [List.drop_append, List.drop_eq_nil_of_le (Nat.le_add_right _ _), List.nil_append,
      Nat.add_sub_cancel_left]
    exact read_eq_ok_of_offset found
  case short =>
    intro count short
    rw [decode, List.drop_take, read_take found (by omega)]

end Command

/-! ## Walks -/

/-- The complaint about the same record with more bytes in front of it. -/
def StreamError.shifted (distance : Nat) : StreamError → StreamError
  | .unsupportedCommand tag offset => .unsupportedCommand tag (distance + offset)
  | .truncated offset => .truncated (distance + offset)
  | .invalidValue field value offset => .invalidValue field value (distance + offset)

namespace Walk

/-- The same walk with more bytes in front of it. -/
def shifted (distance : Nat) (walk : Walk) : Walk where
  records := walk.records.map fun place => (distance + place.1, place.2)
  stop := distance + walk.stop
  failure := walk.failure.map (StreamError.shifted distance)

/-- Two walks in a row, the first one to its end. -/
def followedBy (front back : Walk) : Walk := { back with records := front.records ++ back.records }

@[simp] theorem commands_followedBy (front back : Walk) :
    (front.followedBy back).commands = front.commands ++ back.commands := List.map_append

/-- Shifting a record that is refused shifts the complaint. -/
theorem read_shifted {offset : Nat} {bytes : List UInt8} {error : StreamError}
    (refused : Command.read offset bytes = .error error) (distance : Nat) :
    Command.read (distance + offset) bytes = .error (error.shifted distance) := by
  have outcome := Command.reads offset bytes
  rw [refused] at outcome
  cases outcome with
  | noTag short =>
    exact Command.read_eq_truncated_iff.mpr ⟨rfl, .inl short⟩
  | noCommand =>
    obtain ⟨_, unknown⟩ := Command.read_eq_unsupportedCommand_iff.mp refused
    exact Command.read_eq_unsupportedCommand_iff.mpr ⟨rfl, unknown⟩
  | noBody =>
    obtain ⟨_, short⟩ := Command.read_eq_truncated_iff.mp refused
    exact Command.read_eq_truncated_iff.mpr ⟨rfl, short⟩

/-- The offset where a walk begins does nothing but shift it. -/
theorem start_shifted (distance offset : Nat) (bytes : List UInt8) :
    start (distance + offset) bytes = (start offset bytes).shifted distance := by
  -- along the walk: each record that is read leaves a shorter rest
  induction offset, bytes using Walk.start.induct with
  | case1 offset bytes isEmpty =>
    obtain rfl := List.isEmpty_iff.mp isEmpty
    rw [start_nil, start_nil]
    rfl
  | case2 offset bytes notEmpty error refused =>
    have present : bytes ≠ [] := mt List.isEmpty_iff.mpr notEmpty
    rw [start_of_error present refused, start_of_error present (read_shifted refused distance)]
    rfl
  | case3 offset bytes notEmpty command rest decoded inductionHypothesis =>
    rw [start_of_read decoded, start_of_read (Command.read_eq_ok_of_offset decoded),
      Nat.add_assoc, inductionHypothesis]
    rfl

/-- Behind a walk to the end of its bytes, more bytes are walked as they are alone. -/
theorem ofBytes_append {front : List UInt8} (finished : (ofBytes front).failure = none)
    (back : List UInt8) :
    ofBytes (front ++ back) = (ofBytes front).followedBy ((ofBytes back).shifted front.length) := by
  obtain ⟨commands, countable, rfl⟩ := (failure_eq_none_iff front).mp finished
  have alone : (ofBytes (CommandBuffer.ofCommands commands).bytes).records =
      Command.placed 0 commands := congrArg records (CommandBuffer.walk_ofCommands countable)
  rw [followedBy, alone, CommandBuffer.bytes_ofCommands, ofBytes,
    start_records countable, Nat.zero_add, Command.length_records, ofBytes, ← start_shifted]
  rfl

/-! ## Cuts -/

/-- The commands in front of a cut, and the one behind them that is cut off, if any. -/
theorem exists_cut {commands : List Command} {count : Nat}
    (inside : count ≤ Command.size commands) :
    ∃ front back, commands = front ++ back ∧ Command.size front ≤ count ∧
      (back = [] ∧ Command.size front = count ∨
        ∃ next later, back = next :: later ∧ count < Command.size front + next.encodedLength) := by
  induction commands generalizing count with
  | nil => exact ⟨[], [], rfl, Nat.zero_le _, .inl ⟨rfl, (Nat.le_zero.mp inside).symm⟩⟩
  | cons first later inductionHypothesis =>
    by_cases cutOff : count < first.encodedLength
    · exact ⟨[], first :: later, rfl, Nat.zero_le _, .inr ⟨first, later, rfl, by
        rwa [show Command.size [] = 0 from rfl, Nat.zero_add]⟩⟩
    · rw [Command.size_cons] at inside
      have behind : count - first.encodedLength ≤ Command.size later := by omega
      obtain ⟨front, back, rfl, fits, ending⟩ := inductionHypothesis behind
      refine ⟨first :: front, back, rfl, by rw [Command.size_cons]; omega, ?_⟩
      rcases ending with ⟨rfl, exactly⟩ | ⟨next, later, rfl, short⟩
      · exact .inl ⟨rfl, by rw [Command.size_cons]; omega⟩
      · exact .inr ⟨next, later, rfl, by rw [Command.size_cons]; omega⟩

/-- What is placed ends in front of the end of all records. -/
theorem stop_le_of_mem_placed {offset : Nat} {commands : List Command} {place : Nat × Command}
    (member : place ∈ Command.placed offset commands) :
    place.1 + place.2.encodedLength ≤ offset + Command.size commands := by
  obtain ⟨front, command, back, rfl, rfl⟩ := Command.exists_of_mem_placed member
  rw [Command.encodedLength_counted, Command.size_append, Command.size_cons]
  omega

/-- What is placed ends behind the first record or with it. -/
theorem le_stop_of_mem_placed {offset : Nat} {first : Command} {later : List Command}
    {place : Nat × Command} (member : place ∈ Command.placed offset (first :: later)) :
    offset + first.encodedLength ≤ place.1 + place.2.encodedLength := by
  obtain ⟨front, command, back, split, rfl⟩ := Command.exists_of_mem_placed member
  rw [Command.encodedLength_counted]
  cases front with
  | nil =>
    cases split
    exact Nat.le_refl _
  | cons _ front =>
    cases split
    rw [Command.size_cons]
    omega

/-- What a walk finds in the bytes in front of a cut: the records that lie there as a whole, and a
complaint about the next one unless the cut is where they end. -/
def cut (walk : Walk) (count : Nat) : Walk :=
  let inFront := walk.records.filter fun place => place.1 + place.2.encodedLength ≤ count
  let stop := Command.size (inFront.map Prod.snd)
  ⟨inFront, stop, if stop = count then none else some (.truncated stop)⟩

/-- Some commands from the start end at the position. -/
def HasBoundary (walk : Walk) (position : Nat) : Prop :=
  ∃ front back, walk.commands = front ++ back ∧ Command.size front = position

/-- Cutting records in a row leaves the records in front of the cut and a part of the next one. -/
theorem start_take_records {commands : List Command}
    (countable : ∀ command ∈ commands, command.Countable) {count : Nat}
    (inside : count ≤ Command.size commands) :
    start 0 ((commands.flatMap Command.record).take count) =
      cut ⟨Command.placed 0 commands, Command.size commands, none⟩ count := by
  obtain ⟨front, back, rfl, fits, ending⟩ := exists_cut inside
  have length := Command.length_records front
  have inFront : (Command.placed 0 (front ++ back)).filter
      (fun place => place.1 + place.2.encodedLength ≤ count) = Command.placed 0 front := by
    rw [Command.placed_append, List.filter_append, List.filter_eq_self.mpr,
      List.filter_eq_nil_iff.mpr, List.append_nil]
    · intro place member
      rcases ending with ⟨rfl, _⟩ | ⟨next, later, rfl, short⟩
      · cases member
      · have behind := le_stop_of_mem_placed member
        rw [decide_eq_true_iff]
        omega
    · intro place member
      have before := stop_le_of_mem_placed member
      rw [decide_eq_true_iff]
      omega
  have taken : ((front ++ back).flatMap Command.record).take count =
      front.flatMap Command.record ++
        (back.flatMap Command.record).take (count - Command.size front) := by
    rw [List.flatMap_append, List.take_append, length, List.take_of_length_le (length ▸ fits)]
  have walked := start_records (fun command member =>
    countable command (List.mem_append_left back member)) 0
      ((back.flatMap Command.record).take (count - Command.size front))
  rw [taken, walked, cut]
  simp only [inFront, Command.map_snd_placed, Command.size_map_counted, Nat.zero_add]
  rcases ending with ⟨rfl, rfl⟩ | ⟨next, later, rfl, short⟩
  · rw [List.flatMap_nil, List.take_nil, start_nil, List.append_nil, if_pos rfl]
  · by_cases exactly : Command.size front = count
    · rw [if_pos exactly, exactly, Nat.sub_self, List.take_zero, start_nil, List.append_nil]
    · have decoded := Command.read_record (countable next (by simp)) (Command.size front)
        (later.flatMap Command.record)
      have cutOff : count - Command.size front < next.counted.encodedLength := by
        rw [Command.encodedLength_counted]
        omega
      have refused := Command.read_take decoded cutOff
      have present : (next.record ++ later.flatMap Command.record).take
          (count - Command.size front) ≠ [] := by
        have some := next.encodedLength_pos
        rw [← List.length_pos_iff, List.length_take, List.length_append, Command.length_record]
        omega
      rw [List.flatMap_cons, start_of_error present refused, List.append_nil, if_neg exactly]

/-- The commands of a walk to the end of some bytes are those that were encoded. -/
theorem commands_ofCommands {commands : List Command}
    (countable : ∀ command ∈ commands, command.Countable) :
    (ofBytes (CommandBuffer.ofCommands commands).bytes).commands =
      commands.map Command.counted := by
  rw [← Command.map_snd_placed 0]
  exact congrArg Walk.commands (CommandBuffer.walk_ofCommands countable)

/-- A cut is walked without a complaint exactly if it is where commands of the whole end. -/
theorem failure_take_eq_none_iff {bytes : List UInt8} (finished : (ofBytes bytes).failure = none)
    {count : Nat} (inside : count ≤ bytes.length) :
    (ofBytes (bytes.take count)).failure = none ↔ (ofBytes bytes).HasBoundary count := by
  constructor
  · intro finishedFront
    have whole := ofBytes_append finishedFront (bytes.drop count)
    rw [List.take_append_drop] at whole
    obtain ⟨commands, countable, isFront⟩ := (failure_eq_none_iff _).mp finishedFront
    refine ⟨(ofBytes (bytes.take count)).commands, _, by rw [whole, commands_followedBy], ?_⟩
    rw [isFront, commands_ofCommands countable, Command.size_map_counted,
      ← Command.length_records, ← CommandBuffer.bytes_ofCommands, ← isFront, List.length_take,
      Nat.min_eq_left inside]
  · rintro ⟨front, back, split, rfl⟩
    obtain ⟨commands, countable, rfl⟩ := (failure_eq_none_iff bytes).mp finished
    rw [commands_ofCommands countable] at split
    obtain ⟨inFront, behind, rfl, rfl, rfl⟩ := List.map_eq_append_iff.mp split
    rw [Command.size_map_counted, CommandBuffer.bytes_ofCommands, List.flatMap_append,
      ← Command.length_records, List.take_left, ← CommandBuffer.bytes_ofCommands]
    exact (failure_eq_none_iff _).mpr
      ⟨inFront, fun command member => countable command (List.mem_append_left behind member), rfl⟩

/-- A walk to the end of its bytes, cut anywhere, finds the records in front of the cut. -/
theorem ofBytes_take {bytes : List UInt8} (finished : (ofBytes bytes).failure = none) {count : Nat}
    (inside : count ≤ bytes.length) : ofBytes (bytes.take count) = (ofBytes bytes).cut count := by
  obtain ⟨commands, countable, rfl⟩ := (failure_eq_none_iff bytes).mp finished
  have walked : ofBytes (CommandBuffer.ofCommands commands).bytes = _ :=
    CommandBuffer.walk_ofCommands countable
  rw [CommandBuffer.bytes_ofCommands] at inside walked ⊢
  rw [Command.length_records] at inside
  rw [walked]
  exact start_take_records countable inside

end Walk

/-- Decoding is local. A record that is decoded is decoded the same with more bytes on either side,
shifted by those in front, and any cut in front of its end cuts it off. So a walk to the end of its
bytes goes on with the walk of any bytes behind them, shifted as a whole; and cut anywhere, it finds
exactly the records in front of the cut, and one that is cut off where the last of them ends unless
the cut is there. Buffers of commands are such bytes. -/
theorem decoding_is_local :
    (∀ bytes offset command stop, Command.decode bytes offset = .ok (command, stop) →
      Command.DecodesLocally bytes offset command stop) ∧
    (∀ front back, (Walk.ofBytes front).failure = none →
      Walk.ofBytes (front ++ back) =
        (Walk.ofBytes front).followedBy ((Walk.ofBytes back).shifted front.length)) ∧
    (∀ bytes count, (Walk.ofBytes bytes).failure = none → count ≤ bytes.length →
      Walk.ofBytes (bytes.take count) = (Walk.ofBytes bytes).cut count ∧
        ((Walk.ofBytes (bytes.take count)).failure = none ↔
          (Walk.ofBytes bytes).HasBoundary count)) ∧
    ∀ commands : List Command, (∀ command ∈ commands, command.Countable) →
      Walk.ofBytes (CommandBuffer.ofCommands commands).bytes =
        ⟨Command.placed 0 commands, Command.size commands, none⟩ :=
  ⟨fun _ _ _ _ => Command.decodesLocally, fun _ back finished => Walk.ofBytes_append finished back,
    fun _ _ finished inside => ⟨Walk.ofBytes_take finished inside,
      Walk.failure_take_eq_none_iff finished inside⟩,
    fun _ => CommandBuffer.walk_ofCommands⟩

/-- Of two records in a row, the first one with a byte less, both with a byte behind them, and both
cut off inside the second one. -/
theorem decoding_is_local_dispatch :
    let commands : List Command := [⟨.dispatch, ⟨1, 2, 3⟩⟩, ⟨.endRenderPass, ()⟩]
    let bytes := (CommandBuffer.ofCommands commands).bytes
    Command.decode bytes 0 = .ok (⟨.dispatch, ⟨1, 2, 3⟩⟩, 16) ∧
      Command.decode (bytes.take 15) 0 = .error (.truncated 0) ∧
      (Walk.ofBytes bytes).failure = none ∧
      (Walk.ofBytes (bytes ++ [9])).failure = some (.truncated 20) ∧
      Walk.ofBytes (bytes.take 18) =
        ⟨[(0, ⟨.dispatch, ⟨1, 2, 3⟩⟩)], 16, some (.truncated 16)⟩ := by
  intro commands bytes
  obtain ⟨records, appended, cuts, encoded⟩ := decoding_is_local
  have decoded : Command.decode bytes 0 = .ok (⟨.dispatch, ⟨1, 2, 3⟩⟩, 16) := rfl
  have countable : ∀ command ∈ commands, command.Countable := by
    simp [commands, Command.Countable, Command.arrayLengths]
  have walked := encoded commands countable
  have finished : (Walk.ofBytes bytes).failure = none := congrArg Walk.failure walked
  have alone : Walk.ofBytes [9] = ⟨[], 0, some (.truncated 0)⟩ :=
    Walk.start_of_error (List.cons_ne_nil _ _) rfl
  refine ⟨decoded, (records bytes 0 _ 16 decoded).short 15 (by decide), finished, ?_, ?_⟩
  · rw [appended bytes [9] finished, alone]
    rfl
  · rw [(cuts bytes 18 finished (by decide)).1, walked]
    rfl

end CommandStream
