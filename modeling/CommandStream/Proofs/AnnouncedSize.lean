import CommandStream.Proofs.Records
/-!
# How large a record says it is

The size of a record is decided by the first words of its bytes: the tag fixes the size of the
header, and some words of the header are counts, each with the size of one element. These sizes and
positions are written down here as plain numbers, without layouts, and `Command.read` is said in
terms of them: what it accepts, and for which of two reasons it refuses the rest.
-/

namespace CommandStream

/-! ## Words -/

/-- The number that bytes stand for, lowest byte first. -/
def littleEndian (bytes : List UInt8) : Nat :=
  bytes.foldr (fun byte higher => byte.toNat + 256 * higher) 0

/-- The word at a position of a byte string, as a number. -/
def wordAt (bytes : List UInt8) (position : Nat) : Nat :=
  littleEndian ((bytes.drop position).take 4)

/-- A word is stored as the four bytes that stand for it. -/
theorem wordAt_write (word : UInt32) (rest : List UInt8) :
    wordAt (FixedLayout.word.write word ++ rest) 0 = word.toNat := by
  have bound := word.toNat_lt
  change (UInt8.ofNat word.toNat).toNat + 256 * ((UInt8.ofNat (word.toNat / 256)).toNat +
    256 * ((UInt8.ofNat (word.toNat / 65536)).toNat +
      256 * ((UInt8.ofNat (word.toNat / 16777216)).toNat + 256 * 0))) = word.toNat
  simp only [UInt8.toNat_ofNat']
  omega

/-! ## Headers and counts -/

namespace FixedLayout

variable {α β : Type}

/-- A field of a stored value is the word at a position, whatever comes behind the value. -/
def HasWord (layout : FixedLayout α) (field : α → UInt32) (position : Nat) : Prop :=
  ∀ value rest, wordAt (layout.write value ++ rest) position = (field value).toNat

theorem hasWord_word : word.HasWord id 0 := wordAt_write

/-- The words of the first component of a pair stay where they are. -/
theorem HasWord.first {layout : FixedLayout α} {field : α → UInt32} {position : Nat}
    (hasWord : layout.HasWord field position) (second : FixedLayout β) :
    (layout.pair second).HasWord (fun value => field value.1) position := by
  intro value rest
  change wordAt ((layout.write value.1 ++ second.write value.2) ++ rest) position = _
  rw [List.append_assoc, hasWord]

/-- The words of the second component of a pair come behind the first one. -/
theorem HasWord.second {layout : FixedLayout β} {field : β → UInt32} {position : Nat}
    (hasWord : layout.HasWord field position) (first : FixedLayout α) :
    (first.pair layout).HasWord (fun value => field value.2) (first.size + position) := by
  intro value rest
  change wordAt ((first.write value.1 ++ layout.write value.2) ++ rest) _ = _
  rw [List.append_assoc, wordAt, ← first.length_write value.1, List.drop_append,
    List.drop_eq_nil_of_le (Nat.le_add_right _ _), List.nil_append, Nat.add_sub_cancel_left,
    ← wordAt, hasWord]

end FixedLayout

theorem SlotRun.hasWord_count : SlotRun.layout.HasWord SlotRun.count 4 :=
  fun run => FixedLayout.hasWord_word.second .word (run.first, run.count)

theorem RootConstantRun.hasWord_count : RootConstantRun.layout.HasWord RootConstantRun.count 8 :=
  fun run => (FixedLayout.hasWord_word.second .word).second .word (run.slot, run.first, run.count)

theorem RenderPassHeader.hasWord_colorCount :
    RenderPassHeader.layout.HasWord RenderPassHeader.colorCount 24 :=
  fun header => (((((FixedLayout.hasWord_word.second .word).second FloatBits.layout).second
    .word).second .word).second Handle.layout) (header.depth, header.depthLoad,
      header.depthStore, header.depthClear, header.stencilClear, header.colorCount)

theorem BarrierCounts.hasWord_transitionCount :
    BarrierCounts.layout.HasWord BarrierCounts.transitionCount 0 :=
  fun counts => FixedLayout.hasWord_word.first .word
    (counts.transitionCount, counts.unorderedAccessCount)

theorem BarrierCounts.hasWord_unorderedAccessCount :
    BarrierCounts.layout.HasWord BarrierCounts.unorderedAccessCount 4 :=
  fun counts => FixedLayout.hasWord_word.second .word
    (counts.transitionCount, counts.unorderedAccessCount)

/-- Where the header of each kind of record counts the elements of an array, and the size of one
element, for array after array. -/
def CommandTag.counters : CommandTag → List (Nat × Nat)
  | .setViewports => [(4, 24)]
  | .setScissors => [(4, 16)]
  | .setVertexBuffers => [(4, 24)]
  | .setRootConstants => [(8, 4)]
  | .beginRenderPass => [(24, 32)]
  | .resourceBarriers => [(0, 24), (4, 12)]
  | .aliasingBarriers => [(0, 24)]
  | _ => []

/-- The size of header and arrays together, as far as the counts in the header tell. Where not
even the header is there, this is more than is there. -/
def CommandTag.announcedSize (tag : CommandTag) (body : List UInt8) : Nat :=
  tag.headerSize +
    total (tag.counters.map fun (position, elementSize) => wordAt body position * elementSize)

/-- A layout takes as many bytes of its input as the input announces, and accepts nothing where
there are fewer. -/
structure RecordLayout.Takes {α : Type} (layout : RecordLayout α) (size : List UInt8 → Nat) :
    Prop where
  read_eq_none_iff : ∀ body, layout.read body = none ↔ body.length < size body
  length_of_read : ∀ {body value rest}, layout.read body = some (value, rest) →
    body.length = size body + rest.length

namespace RecordLayout

variable {α β : Type}

theorem takes_plain (header : FixedLayout α) (wholeWords : 4 ∣ header.size) :
    (plain header wholeWords).Takes fun _ => header.size :=
  ⟨fun _ => header.read_eq_none_iff, header.length_of_read⟩

/-- One more array takes as many elements as the word says that counts them. -/
theorem Takes.array {layout : RecordLayout α} {size : List UInt8 → Nat}
    (takes : layout.Takes size) (counter : Counter layout) (element : FixedLayout β)
    (wholeWords : 4 ∣ element.size) {position : Nat}
    (counts : ∀ {body value rest}, layout.read body = some (value, rest) →
      wordAt body position = (counter.count value).toNat) :
    (layout.array counter element wholeWords).Takes fun body =>
      size body + wordAt body position * element.size := by
  constructor
  · intro body
    cases readFront : layout.read body with
    | none =>
      have short := (takes.read_eq_none_iff body).mp readFront
      have missing : (layout.array counter element wholeWords).read body = none := by
        simp only [RecordLayout.array, readFront, Option.bind_none]
      exact iff_of_true missing (Nat.lt_of_lt_of_le short (Nat.le_add_right _ _))
    | some front =>
      have length := takes.length_of_read readFront
      rw [counts readFront, length, Nat.add_lt_add_iff_left, ← element.readMany_eq_none_iff]
      simp only [RecordLayout.array, readFront, Option.bind_some, Option.map_eq_none_iff]
  · intro body value rest read
    obtain ⟨front, readFront, readBack⟩ := Option.bind_eq_some_iff.mp read
    obtain ⟨back, readValues, same⟩ := Option.map_eq_some_iff.mp readBack
    cases same
    obtain ⟨count, written⟩ := element.readMany_eq_some_iff.mp readValues
    have length := takes.length_of_read readFront
    rw [written, List.length_append, element.length_writeAll, count] at length
    rw [counts readFront, length, Nat.add_assoc]

/-- An array directly behind a header that has the count among its words. -/
theorem takes_array_plain {header : FixedLayout α} {headerWords : 4 ∣ header.size}
    (counter : Counter (plain header headerWords)) (element : FixedLayout β)
    (wholeWords : 4 ∣ element.size) {headerSize position elementSize : Nat}
    (isHeader : header.size = headerSize) (isElement : element.size = elementSize)
    (isCount : header.HasWord counter.count position) :
    ((plain header headerWords).array counter element wholeWords).Takes fun body =>
      headerSize + wordAt body position * elementSize := by
  subst isHeader isElement
  refine (takes_plain header headerWords).array counter element wholeWords ?_
  intro body value rest read
  rw [header.read_eq_some_iff.mp read]
  exact isCount value rest

end RecordLayout

/-- The body of a barrier record begins with its counts. -/
theorem BarrierCounts.takes_record :
    BarrierCounts.record.Takes fun body => 8 + wordAt body 0 * 24 + wordAt body 4 * 12 := by
  have transitions : TransitionBarrier.record.Takes fun body => 8 + wordAt body 0 * 24 :=
    RecordLayout.takes_array_plain _ TransitionBarrier.layout _ rfl rfl hasWord_transitionCount
  refine transitions.array _ UnorderedAccessBarrier.layout _ ?_
  rintro body ⟨counts, barriers⟩ rest read
  obtain ⟨_, written⟩ := TransitionBarrier.record.read_eq_some_iff.mp read
  rw [written, List.append_assoc]
  exact hasWord_unorderedAccessCount counts _

/-- The body of every record takes what its tag and its counts announce. -/
theorem CommandTag.takes_layout (tag : CommandTag) : tag.layout.Takes tag.announcedSize := by
  cases tag with
  | setViewports =>
    exact RecordLayout.takes_array_plain _ Viewport.layout (by decide) rfl rfl SlotRun.hasWord_count
  | setScissors =>
    exact RecordLayout.takes_array_plain _ Rectangle.layout (by decide) rfl rfl
      SlotRun.hasWord_count
  | setVertexBuffers =>
    exact RecordLayout.takes_array_plain _ VertexBufferView.layout (by decide) rfl rfl
      SlotRun.hasWord_count
  | setRootConstants =>
    exact RecordLayout.takes_array_plain _ .word (by decide) rfl rfl RootConstantRun.hasWord_count
  | beginRenderPass =>
    exact RecordLayout.takes_array_plain _ ColorAttachment.layout (by decide) rfl rfl
      RenderPassHeader.hasWord_colorCount
  | resourceBarriers =>
    have sum : announcedSize .resourceBarriers =
        fun body => 8 + wordAt body 0 * 24 + wordAt body 4 * 12 :=
      funext fun body => (Nat.add_assoc 8 _ _).symm
    rw [sum]
    exact BarrierCounts.takes_record
  | aliasingBarriers =>
    exact RecordLayout.takes_array_plain _ AliasingBarrier.layout (by decide) rfl rfl
      FixedLayout.hasWord_word
  | _ => exact RecordLayout.takes_plain _ (by decide)

/-! ## Tags -/

namespace CommandTag

/-- The tags are the words from one to seventeen. -/
theorem code_bounds (tag : CommandTag) :
    1 ≤ (WireEnumeration.code tag).toNat ∧ (WireEnumeration.code tag).toNat ≤ 17 := by
  cases tag <;> decide

theorem isSome_ofCode? :
    ∀ number < 18, 1 ≤ number →
      (WireEnumeration.ofCode? (UInt32.ofNat number) : Option CommandTag).isSome := by
  decide

/-- A word outside of these bounds is the tag of no command, and every other one is. -/
theorem ofCode?_eq_none_iff {word : UInt32} :
    (WireEnumeration.ofCode? word : Option CommandTag) = none ↔
      ¬(1 ≤ word.toNat ∧ word.toNat ≤ 17) := by
  constructor
  · rintro unknown ⟨positive, atMost⟩
    have known := isSome_ofCode? word.toNat (Nat.lt_succ_of_le atMost) positive
    rw [UInt32.ofNat_toNat, unknown] at known
    cases known
  · intro outside
    cases found : (WireEnumeration.ofCode? word : Option CommandTag) with
    | none => rfl
    | some tag =>
      rw [← WireEnumeration.ofCode?_eq_some_iff.mp found] at outside
      exact absurd tag.code_bounds outside

end CommandTag

/-! ## Reading a record -/

/-- An array that a word counts is short enough to be announced. -/
theorem CommandTag.countable_of_settled {tag : CommandTag} {arguments : tag.Arguments}
    (settled : tag.layout.Settled arguments) : tag.layout.Countable arguments := by
  cases tag
  case resourceBarriers =>
    obtain ⟨⟨_, transitions⟩, unorderedAccess⟩ := settled
    exact ⟨⟨trivial, transitions ▸ UInt32.toNat_lt _⟩, unorderedAccess ▸ UInt32.toNat_lt _⟩
  case setViewports | setScissors | setVertexBuffers | setRootConstants | beginRenderPass |
      aliasingBarriers =>
    exact ⟨trivial, settled.2 ▸ UInt32.toNat_lt _⟩
  all_goals trivial

namespace Command

/-- The counts of a command are the lengths of its arrays. -/
def Settled (command : Command) : Prop := command.Countable ∧ command.counted = command

/-- Counts that agree with the arrays are those that layouts call settled. -/
theorem settled_iff {command : Command} :
    command.Settled ↔ command.tag.layout.Settled command.arguments := by
  constructor
  · rintro ⟨countable, same⟩
    rw [← same]
    exact settled_counted countable
  · intro settled
    refine ⟨command.countable_iff.mpr (CommandTag.countable_of_settled settled), ?_⟩
    rw [← settle_eq_counted, settle, command.tag.layout.settle_of_settled settled]

/-- What reading a record comes to. -/
inductive Reads (offset : Nat) (bytes : List UInt8) :
    Except StreamError (Command × List UInt8) → Prop
  /-- There is no word for a tag. -/
  | noTag (short : bytes.length < 4) : Reads offset bytes (.error (.truncated offset))
  /-- The first word is the tag of no command. -/
  | noCommand {word : UInt32} {body : List UInt8}
      (front : bytes = FixedLayout.word.write word ++ body)
      (unknown : ¬(1 ≤ word.toNat ∧ word.toNat ≤ 17)) :
      Reads offset bytes (.error (.unsupportedCommand word offset))
  /-- There is less behind the tag than header and counts announce. -/
  | noBody {tag : CommandTag} {body : List UInt8}
      (front : bytes = FixedLayout.word.write (WireEnumeration.code tag) ++ body)
      (short : body.length < tag.announcedSize body) :
      Reads offset bytes (.error (.truncated offset))
  /-- The input begins with the record of a command. -/
  | command {command : Command} {body rest : List UInt8}
      (front : bytes = FixedLayout.word.write (WireEnumeration.code command.tag) ++ body)
      (fits : body.length = command.tag.announcedSize body + rest.length)
      (settled : command.Settled) (written : bytes = command.record ++ rest) :
      Reads offset bytes (.ok (command, rest))

theorem reads (offset : Nat) (bytes : List UInt8) : Reads offset bytes (read offset bytes) := by
  unfold read
  split
  · rename_i missing
    exact .noTag (FixedLayout.word.read_eq_none_iff.mp missing)
  · rename_i word body readTag
    have front := FixedLayout.word.read_eq_some_iff.mp readTag
    split
    · rename_i unknown
      exact .noCommand front (CommandTag.ofCode?_eq_none_iff.mp unknown)
    · rename_i tag isTag
      rw [← WireEnumeration.ofCode?_eq_some_iff.mp isTag] at front
      split
      · rename_i missing
        exact .noBody front ((tag.takes_layout.read_eq_none_iff body).mp missing)
      · rename_i arguments rest readBody
        obtain ⟨settled, stored⟩ := tag.layout.read_eq_some_iff.mp readBody
        have isSettled : Settled ⟨tag, arguments⟩ := settled_iff.mpr settled
        refine .command front (tag.takes_layout.length_of_read readBody) isSettled ?_
        rw [record, isSettled.2, front, stored, ← List.append_assoc]
        rfl

/-- Reading accepts the records of settled commands, and nothing else. -/
theorem read_eq_ok_iff {offset : Nat} {bytes rest : List UInt8} {command : Command} :
    read offset bytes = .ok (command, rest) ↔
      command.Settled ∧ bytes = command.record ++ rest := by
  constructor
  · intro decoded
    have outcome := reads offset bytes
    rw [decoded] at outcome
    cases outcome with
    | command front fits settled written => exact ⟨settled, written⟩
  · rintro ⟨⟨countable, same⟩, rfl⟩
    rw [read_record countable, same]

/-- A word in front of an input is the number at its beginning. -/
theorem split_word {bytes body : List UInt8} {word : UInt32}
    (front : bytes = FixedLayout.word.write word ++ body) :
    wordAt bytes 0 = word.toNat ∧ bytes.drop 4 = body ∧ bytes.length = 4 + body.length := by
  subst front
  exact ⟨wordAt_write word body, rfl, by rw [List.length_append, FixedLayout.length_write]; rfl⟩

/-- Reading complains about a tag exactly if the first word is the tag of no command. -/
theorem read_eq_unsupportedCommand_iff {offset : Nat} {bytes : List UInt8} {word : UInt32}
    {place : Nat} :
    read offset bytes = .error (.unsupportedCommand word place) ↔
      place = offset ∧ 4 ≤ bytes.length ∧ wordAt bytes 0 = word.toNat ∧
        ¬(1 ≤ wordAt bytes 0 ∧ wordAt bytes 0 ≤ 17) := by
  have outcome := reads offset bytes
  constructor
  · intro failed
    rw [failed] at outcome
    cases outcome with
    | noCommand front unknown =>
      obtain ⟨isWord, _, length⟩ := split_word front
      exact ⟨rfl, length ▸ Nat.le_add_right _ _, isWord, isWord ▸ unknown⟩
  · rintro ⟨rfl, enough, isWord, unknown⟩
    generalize read place bytes = answer at outcome
    cases outcome with
    | noTag short => exact absurd enough (Nat.not_le_of_lt short)
    | noCommand front _ =>
      rw [UInt32.toNat_inj.mp ((split_word front).1.symm.trans isWord)]
    | noBody front _ => exact absurd ((split_word front).1 ▸ CommandTag.code_bounds _) unknown
    | command front _ _ _ =>
      exact absurd ((split_word front).1 ▸ CommandTag.code_bounds _) unknown

/-- Reading complains about the size exactly if there is no word for a tag, or if the first word
is the tag of a command and there is less behind it than header and counts announce. -/
theorem read_eq_truncated_iff {offset : Nat} {bytes : List UInt8} {place : Nat} :
    read offset bytes = .error (.truncated place) ↔
      place = offset ∧ (bytes.length < 4 ∨
        ∃ tag : CommandTag, wordAt bytes 0 = (WireEnumeration.code tag).toNat ∧
          bytes.length < 4 + tag.announcedSize (bytes.drop 4)) := by
  have outcome := reads offset bytes
  constructor
  · intro failed
    rw [failed] at outcome
    cases outcome with
    | noTag short => exact ⟨rfl, .inl short⟩
    | @noBody tag body front short =>
      obtain ⟨isWord, isBody, length⟩ := split_word front
      refine ⟨rfl, .inr ⟨tag, isWord, ?_⟩⟩
      rw [isBody, length]
      exact Nat.add_lt_add_left short 4
  · rintro ⟨rfl, short⟩
    generalize read place bytes = answer at outcome
    cases outcome with
    | noTag => rfl
    | noBody => rfl
    | noCommand front unknown =>
      obtain ⟨isWord, _, length⟩ := split_word front
      rcases short with tooShort | ⟨tag, isTag, _⟩
      · omega
      · rw [← isWord, isTag] at unknown
        exact absurd tag.code_bounds unknown
    | @command command body rest front fits _ _ =>
      obtain ⟨isWord, isBody, length⟩ := split_word front
      rcases short with tooShort | ⟨tag, isTag, tooShort⟩
      · omega
      · have same : command.tag = tag :=
          WireEnumeration.code_injective (UInt32.toNat_inj.mp (isWord.symm.trans isTag))
        rw [isBody, ← same] at tooShort
        omega

/-- A count is no reason to read beyond the end, however large it is. -/
example : read 8 [17, 0, 0, 0, 255, 255, 255, 255] = .error (.truncated 8) := rfl

/-- Reading has no other complaints. -/
theorem read_ne_invalidValue (offset : Nat) (bytes : List UInt8) (field : RecordField)
    (value : UInt32) (place : Nat) :
    read offset bytes ≠ .error (.invalidValue field value place) := by
  intro failed
  have outcome := reads offset bytes
  rw [failed] at outcome
  cases outcome

end Command

end CommandStream
