import CommandStream.Proofs.AnnouncedSize
import Mathlib.Algebra.Group.Nat.Defs
import Mathlib.Order.Bounds.Defs
/-!
# Raw records

Commands fill whole words, but a record may be written from any bytes: a fixed part and two arrays
of any sizes. It is then the padding that keeps the records behind it aligned. A size is rounded up
by clearing the lowest bits of a machine word (`alignByMask`), which is rounding up to a multiple of
four as long as the word does not overflow. Each write appends the bytes of its record and changes
none before them, so where a record begins is the sum of the lengths in front of it.
-/

namespace CommandStream

/-! ## Rounding up -/

/-- The length of a record is the least multiple of four that has room for its tag, its fixed part
and its arrays. -/
theorem isLeast_recordLength (fixed : Nat) (arrays : List Nat) :
    IsLeast {length | 4 ∣ length ∧ 4 + fixed + total arrays ≤ length}
      (recordLength fixed arrays) := by
  refine ⟨⟨dvd_recordLength fixed arrays, ?_⟩, ?_⟩
  · simp only [recordLength, alignToWord, wordSize]
    omega
  · rintro _ ⟨⟨words, rfl⟩, enough⟩
    simp only [recordLength, alignToWord, wordSize]
    omega

/-- No more than three bytes are added. -/
theorem recordLength_le (fixed : Nat) (arrays : List Nat) :
    recordLength fixed arrays ≤ 4 + fixed + total arrays + 3 := by
  simp only [recordLength, alignToWord, wordSize]
  omega

section MachineWords

variable {width : Nat}

/-- Rounding up in a machine word: what is added is taken away again from the lowest bits. -/
def alignByMask (size : BitVec width) : BitVec width :=
  (size + BitVec.ofNat width 3) &&& ~~~BitVec.ofNat width 3

/-- The length of a record as a machine word adds it up. -/
def recordLengthByMask (fixed : BitVec width) (arrays : List (BitVec width)) : BitVec width :=
  alignByMask (BitVec.ofNat width 4 + fixed + arrays.foldr (· + ·) (BitVec.ofNat width 0))

/-- The bits that a mask clears and those that it keeps make up the word. -/
theorem toNat_and_not_add (word mask : BitVec width) :
    (word &&& ~~~mask).toNat + (word &&& mask).toNat = word.toNat := by
  have apart : (word &&& ~~~mask) &&& (word &&& mask) = BitVec.ofNat width 0 := by
    ext place inside
    simp only [BitVec.getElem_and, BitVec.getElem_not, BitVec.getElem_zero]
    cases word[place] <;> cases mask[place] <;> rfl
  have together : (word &&& ~~~mask) ||| (word &&& mask) = word := by
    ext place inside
    simp only [BitVec.getElem_or, BitVec.getElem_and, BitVec.getElem_not]
    cases word[place] <;> cases mask[place] <;> rfl
  rw [← BitVec.toNat_add_of_and_eq_zero apart, BitVec.add_eq_or_of_and_eq_zero _ _ apart,
    together]

/-- Without overflow, clearing the lowest two bits rounds up to a multiple of four. -/
theorem toNat_alignByMask {size : BitVec width} (fits : size.toNat + 3 < 2 ^ width) :
    (alignByMask size).toNat = alignToWord size.toNat := by
  have below : 3 < 2 ^ width := by omega
  have three : (BitVec.ofNat width 3).toNat = 3 := Nat.mod_eq_of_lt below
  have larger : (size + BitVec.ofNat width 3).toNat = size.toNat + 3 := by
    rw [BitVec.toNat_add, three, Nat.mod_eq_of_lt fits]
  have lowest : ((size + BitVec.ofNat width 3) &&& BitVec.ofNat width 3).toNat =
      (size.toNat + 3) % 4 := by
    rw [BitVec.toNat_and, larger, three]
    exact Nat.and_two_pow_sub_one_eq_mod _ 2
  have parts := toNat_and_not_add (size + BitVec.ofNat width 3) (BitVec.ofNat width 3)
  rw [lowest, larger] at parts
  simp only [alignByMask, alignToWord, wordSize]
  omega

/-- Machine words that do not overflow add up as numbers. -/
theorem toNat_foldr_add {sizes : List (BitVec width)}
    (fits : total (sizes.map BitVec.toNat) < 2 ^ width) :
    (sizes.foldr (· + ·) (BitVec.ofNat width 0)).toNat = total (sizes.map BitVec.toNat) := by
  induction sizes with
  | nil => exact BitVec.toNat_zero
  | cons size later inductionHypothesis =>
    rw [List.map_cons, total_cons] at fits ⊢
    rw [List.foldr_cons, BitVec.toNat_add, inductionHypothesis (by omega), Nat.mod_eq_of_lt fits]

/-- So the length of a record is computed right unless it is too large for a machine word. -/
theorem toNat_recordLengthByMask {fixed : BitVec width} {arrays : List (BitVec width)}
    (fits : 4 + fixed.toNat + total (arrays.map BitVec.toNat) + 3 < 2 ^ width) :
    (recordLengthByMask fixed arrays).toNat =
      recordLength fixed.toNat (arrays.map BitVec.toNat) := by
  have below : 4 < 2 ^ width := by omega
  have four : (BitVec.ofNat width 4).toNat = 4 := Nat.mod_eq_of_lt below
  have sum : (BitVec.ofNat width 4 + fixed +
      arrays.foldr (· + ·) (BitVec.ofNat width 0)).toNat =
        4 + fixed.toNat + total (arrays.map BitVec.toNat) := by
    rw [BitVec.toNat_add, BitVec.toNat_add, toNat_foldr_add (by omega), four,
      Nat.mod_eq_of_lt (a := 4 + fixed.toNat) (by omega), Nat.mod_eq_of_lt (by omega)]
  rw [recordLengthByMask, toNat_alignByMask (by omega), sum]
  rfl

end MachineWords

/-! ## One record -/

/-- What a raw record is written from. -/
structure RawRecord where
  tag : CommandTag
  fixed : List UInt8
  first : List UInt8
  second : List UInt8

namespace RawRecord

/-- The length of the record with tag and padding. -/
def length (record : RawRecord) : Nat :=
  recordLength record.fixed.length [record.first.length, record.second.length]

/-- The pipeline that the record binds: if it has the tag for that and a fixed part of two words,
these are index and generation. -/
def pipeline? (record : RawRecord) : Option Handle :=
  if record.tag = .setPipeline ∧ record.fixed.length = 8 then
    some ⟨UInt32.ofNat (wordAt record.fixed 0), UInt32.ofNat (wordAt record.fixed 4)⟩
  else none

/-- The bytes that are written of the record. -/
def stored (record : RawRecord) : List UInt8 :=
  recordBytes record.tag record.fixed [record.first, record.second]

/-- How a record is stored: its tag, lowest byte first, then its parts in order, and zeros up to a
whole word. -/
def StoredAs (record : RawRecord) (bytes : List UInt8) : Prop :=
  bytes.length = record.length ∧
    ∃ tag padding, tag.length = 4 ∧
      littleEndian tag = (WireEnumeration.code record.tag).toNat ∧ padding ≤ 3 ∧
      bytes = tag ++ record.fixed ++ record.first ++ record.second ++ List.replicate padding 0

theorem storedAs_stored (record : RawRecord) : record.StoredAs record.stored := by
  let tag := FixedLayout.word.write (WireEnumeration.code record.tag)
  let content := tag ++ record.fixed ++ record.first ++ record.second
  have tagLength : tag.length = 4 := FixedLayout.word.length_write _
  have contentLength : content.length =
      4 + record.fixed.length + total [record.first.length, record.second.length] := by
    simp only [content, List.length_append, tagLength, total_cons, total_nil]
    omega
  have written : record.stored =
      content ++ List.replicate (record.length - content.length) 0 := by
    simp only [stored, recordBytes, List.flatten_cons, List.flatten_nil, List.append_nil,
      ← List.append_assoc]
    rfl
  have atLeast : content.length ≤ record.length := by
    rw [contentLength]
    exact (isLeast_recordLength _ _).1.2
  have atMost : record.length ≤ content.length + 3 := by
    rw [contentLength]
    exact recordLength_le _ _
  refine ⟨?_, tag, record.length - content.length, tagLength, ?_, by omega, written⟩
  · rw [written, List.length_append, List.length_replicate]
    omega
  · have word := wordAt_write (WireEnumeration.code record.tag) []
    rwa [List.append_nil, wordAt, List.drop_zero,
      List.take_of_length_le (Nat.le_of_eq tagLength)] at word

theorem length_stored (record : RawRecord) : record.stored.length = record.length :=
  record.storedAs_stored.1

/-- The two words of a fixed part of eight bytes are read as a handle. -/
theorem pipelineOf_eq (record : RawRecord) :
    CommandBuffer.pipelineOf record.tag record.fixed = record.pipeline? := by
  unfold CommandBuffer.pipelineOf pipeline?
  by_cases binds : record.tag = .setPipeline ∧ record.fixed.length = 8
  · rw [if_pos binds, if_pos (show _ ∧ record.fixed.length = Handle.layout.size from binds)]
    rcases read : Handle.layout.read record.fixed with _ | ⟨handle, rest⟩
    · have short := Handle.layout.read_eq_none_iff.mp read
      exact absurd short (Nat.not_lt.mpr (Nat.le_of_eq binds.2.symm))
    · have index : wordAt record.fixed 0 = handle.index.toNat := by
        rw [Handle.layout.read_eq_some_iff.mp read]
        exact FixedLayout.hasWord_word.first .word (handle.index, handle.generation) rest
      have generation : wordAt record.fixed 4 = handle.generation.toNat := by
        rw [Handle.layout.read_eq_some_iff.mp read]
        exact FixedLayout.hasWord_word.second .word (handle.index, handle.generation) rest
      rw [index, generation, UInt32.ofNat_toNat, UInt32.ofNat_toNat]
      rfl
  · rw [if_neg binds, if_neg (show ¬(_ ∧ record.fixed.length = Handle.layout.size) from binds)]

end RawRecord

/-! ## Records in a row -/

namespace CommandBuffer

/-- Appends a raw record. -/
def writeRaw (buffer : CommandBuffer) (record : RawRecord) : CommandBuffer :=
  buffer.write record.tag record.fixed [record.first, record.second]

/-- The buffer of raw records. -/
def ofRaw (records : List RawRecord) : CommandBuffer := records.foldl writeRaw empty

/-- A write appends the bytes of its record, counts it, and notes the pipeline that it binds unless
one was noted before. -/
theorem writeRaw_eq (buffer : CommandBuffer) (record : RawRecord) :
    buffer.writeRaw record =
      ⟨buffer.bytes ++ record.stored, buffer.count + 1,
        buffer.firstPipeline.or record.pipeline?⟩ := by
  rw [← record.pipelineOf_eq]
  rfl

theorem foldl_writeRaw_eq (buffer : CommandBuffer) (records : List RawRecord) :
    records.foldl writeRaw buffer =
      ⟨buffer.bytes ++ records.flatMap RawRecord.stored, buffer.count + records.length,
        buffer.firstPipeline.or (records.findSome? RawRecord.pipeline?)⟩ := by
  induction records generalizing buffer with
  | nil => simp
  | cons record later inductionHypothesis =>
    rw [List.foldl_cons, inductionHypothesis, writeRaw_eq, List.flatMap_cons, List.append_assoc,
      List.length_cons, Nat.add_assoc, Nat.add_comm 1, List.findSome?_cons, Option.or_assoc]
    cases record.pipeline? <;> rfl

theorem ofRaw_eq (records : List RawRecord) :
    ofRaw records =
      ⟨records.flatMap RawRecord.stored, records.length,
        records.findSome? RawRecord.pipeline?⟩ := by
  rw [ofRaw, foldl_writeRaw_eq, empty, List.nil_append, Nat.zero_add, Option.none_or]

/-- Records take as many bytes as their lengths add up to. -/
theorem length_bytes_ofRaw (records : List RawRecord) :
    (ofRaw records).bytes.length = total (records.map RawRecord.length) := by
  rw [ofRaw_eq]
  induction records with
  | nil => rfl
  | cons record later inductionHypothesis =>
    rw [List.flatMap_cons, List.length_append, record.length_stored, inductionHypothesis]
    rfl

/-- A record stands where those before it end. -/
theorem bytes_ofRaw_append (front back : List RawRecord) (record : RawRecord) :
    (ofRaw (front ++ record :: back)).bytes =
      (ofRaw front).bytes ++ (record.stored ++ back.flatMap RawRecord.stored) := by
  rw [ofRaw_eq, ofRaw_eq, List.flatMap_append, List.flatMap_cons]

end CommandBuffer

/-- Lengths of records add up to a multiple of four. -/
theorem RawRecord.dvd_total_length (records : List RawRecord) :
    4 ∣ total (records.map RawRecord.length) := by
  induction records with
  | nil => exact Nat.dvd_zero 4
  | cons record later inductionHypothesis =>
    exact Nat.dvd_add (dvd_recordLength _ _) inductionHypothesis

/-- The length of a record is the least multiple of four with room for its tag and its parts, also
as machine words compute it as long as they do not overflow. A write appends that many bytes, which
are the tag, the parts and up to three zeros, behind bytes that stay as they are. So each of many
records stands where the lengths before it add up to, which is at a multiple of four, and the
pipeline that is noted is that of the first record that binds one. -/
theorem raw_records_aligned :
    (∀ fixed arrays,
      IsLeast {length | 4 ∣ length ∧ 4 + fixed + total arrays ≤ length}
        (recordLength fixed arrays)) ∧
    (∀ width (fixed : BitVec width) (arrays : List (BitVec width)),
      4 + fixed.toNat + total (arrays.map BitVec.toNat) + 3 < 2 ^ width →
        (recordLengthByMask fixed arrays).toNat =
          recordLength fixed.toNat (arrays.map BitVec.toNat)) ∧
    (∀ (buffer : CommandBuffer) (record : RawRecord), ∃ stored, record.StoredAs stored ∧
      (buffer.writeRaw record).bytes = buffer.bytes ++ stored) ∧
    ∀ records : List RawRecord,
      let buffer := CommandBuffer.ofRaw records
      (∀ front record back, records = front ++ record :: back →
        let start := total (front.map RawRecord.length)
        4 ∣ start ∧ (CommandBuffer.ofRaw front).bytes.length = start ∧
          (CommandBuffer.ofRaw front).bytes <+: buffer.bytes ∧
          record.StoredAs ((buffer.bytes.drop start).take record.length)) ∧
      buffer.count = records.length ∧
      buffer.firstPipeline = records.findSome? RawRecord.pipeline? := by
  refine ⟨isLeast_recordLength, fun _ _ _ => toNat_recordLengthByMask, fun buffer record => ?_,
    fun records => ⟨?_, ?_, ?_⟩⟩
  · exact ⟨_, record.storedAs_stored, congrArg CommandBuffer.bytes (buffer.writeRaw_eq record)⟩
  · rintro front record back rfl
    have bytes := CommandBuffer.bytes_ofRaw_append front back record
    have start := CommandBuffer.length_bytes_ofRaw front
    refine ⟨RawRecord.dvd_total_length front, start, bytes ▸ List.prefix_append _ _, ?_⟩
    rw [bytes, ← start, List.drop_left, ← record.length_stored, List.take_left]
    exact record.storedAs_stored
  · rw [CommandBuffer.ofRaw_eq]
  · rw [CommandBuffer.ofRaw_eq]

/-- Of three records that do not fill their words, the last stands at the sixteenth byte and is the
first that binds a pipeline, since the fixed part of the one before it is too short. -/
theorem raw_records_aligned_odd :
    let front : List RawRecord := [⟨.dispatch, [1], [2, 3, 4], []⟩, ⟨.setPipeline, [9], [], []⟩]
    let record : RawRecord := ⟨.setPipeline, [7, 0, 0, 0, 2, 0, 0, 0], [1], [2, 3]⟩
    let buffer := CommandBuffer.ofRaw (front ++ [record])
    (recordLengthByMask (.ofNat 32 8) [.ofNat 32 1, .ofNat 32 2]).toNat = 16 ∧
      (CommandBuffer.ofRaw front).bytes.length = 16 ∧
      record.StoredAs ((buffer.bytes.drop 16).take 16) ∧
      buffer.bytes.drop 16 = [1, 0, 0, 0, 7, 0, 0, 0, 2, 0, 0, 0, 1, 2, 3, 0] ∧
      buffer.firstPipeline = some ⟨7, 2⟩ := by
  intro front record buffer
  obtain ⟨_, byMask, _, inARow⟩ := raw_records_aligned
  obtain ⟨records, _, pipeline⟩ := inARow (front ++ [record])
  obtain ⟨_, start, _, stored⟩ := records front record [] rfl
  have byWords : (recordLengthByMask (.ofNat 32 8) [.ofNat 32 1, .ofNat 32 2]).toNat = 16 :=
    byMask 32 _ _ (by decide)
  have length : record.length = 16 := by decide
  have place : total (front.map RawRecord.length) = 16 := by decide
  rw [length, place] at stored
  exact ⟨byWords, start.trans place, stored, by decide +kernel, pipeline⟩

end CommandStream
