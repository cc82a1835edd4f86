/-!
# Layouts of fixed size

A fixed layout stores every value of a type in the same number of bytes, and reads it back from
the front of any longer input. Its laws are part of the value: reading accepts exactly what
writing produces, and fails only where too few bytes are left. So a layout that is composed from
others, as all layouts of command records are, neither loses nor invents a byte.
-/

namespace CommandStream

/-- A way to store the values of a type in `size` bytes. -/
structure FixedLayout (α : Type) where
  size : Nat
  write : α → List UInt8
  read : List UInt8 → Option (α × List UInt8)
  length_write : ∀ value, (write value).length = size
  read_eq_some_iff : ∀ {bytes value rest},
    read bytes = some (value, rest) ↔ bytes = write value ++ rest
  read_eq_none_iff : ∀ {bytes}, read bytes = none ↔ bytes.length < size

namespace FixedLayout

variable {α β : Type}

/-- What a layout writes is read back in front of any rest. -/
theorem read_write (layout : FixedLayout α) (value : α) (rest : List UInt8) :
    layout.read (layout.write value ++ rest) = some (value, rest) :=
  layout.read_eq_some_iff.mpr rfl

/-- Reading takes the size of the layout off the input. -/
theorem length_of_read (layout : FixedLayout α) {bytes rest : List UInt8} {value : α}
    (read : layout.read bytes = some (value, rest)) :
    bytes.length = layout.size + rest.length := by
  rw [layout.read_eq_some_iff.mp read, List.length_append, layout.length_write]

/-- Nothing is stored in no byte. -/
def unit : FixedLayout Unit where
  size := 0
  write _ := []
  read bytes := some ((), bytes)
  length_write _ := rfl
  read_eq_some_iff := by
    intro bytes value rest
    simp
  read_eq_none_iff := by simp

/-- A byte is stored as itself. -/
def byte : FixedLayout UInt8 where
  size := 1
  write value := [value]
  read
    | [] => none
    | value :: rest => some (value, rest)
  length_write _ := rfl
  read_eq_some_iff := by
    intro bytes value rest
    cases bytes <;> simp
  read_eq_none_iff := by
    intro bytes
    cases bytes <;> simp

/-- A pair is stored as its first and then its second component. -/
def pair (first : FixedLayout α) (second : FixedLayout β) : FixedLayout (α × β) where
  size := first.size + second.size
  write value := first.write value.1 ++ second.write value.2
  read bytes :=
    match first.read bytes with
    | none => none
    | some (left, middle) =>
      match second.read middle with
      | none => none
      | some (right, rest) => some ((left, right), rest)
  length_write value := by
    rw [List.length_append, first.length_write, second.length_write]
  read_eq_some_iff := by
    rintro bytes ⟨left, right⟩ rest
    constructor
    · intro read
      split at read
      · cases read
      · rename_i readFirst
        split at read
        · cases read
        · rename_i readSecond
          cases read
          rw [first.read_eq_some_iff.mp readFirst, second.read_eq_some_iff.mp readSecond,
            List.append_assoc]
    · rintro rfl
      rw [List.append_assoc, first.read_write]
      simp only [second.read_write]
  read_eq_none_iff := by
    intro bytes
    constructor
    · intro read
      split at read
      · rename_i readFirst
        have short := first.read_eq_none_iff.mp readFirst
        omega
      · rename_i readFirst
        have consumed := first.length_of_read readFirst
        split at read
        · rename_i readSecond
          have short := second.read_eq_none_iff.mp readSecond
          omega
        · cases read
    · intro short
      split
      · rfl
      · rename_i middle readFirst
        have consumed := first.length_of_read readFirst
        have missing : second.read middle = none := second.read_eq_none_iff.mpr (by omega)
        rw [missing]

/-- The layout of a type that stands in one-to-one correspondence with a stored one. -/
def convert (layout : FixedLayout α) (pack : α → β) (unpack : β → α)
    (unpack_pack : ∀ value, unpack (pack value) = value)
    (pack_unpack : ∀ value, pack (unpack value) = value) : FixedLayout β where
  size := layout.size
  write value := layout.write (unpack value)
  read bytes := (layout.read bytes).map fun (value, rest) => (pack value, rest)
  length_write value := layout.length_write (unpack value)
  read_eq_some_iff := by
    intro bytes value rest
    rw [Option.map_eq_some_iff]
    constructor
    · rintro ⟨⟨stored, remaining⟩, read, same⟩
      cases same
      rw [unpack_pack]
      exact layout.read_eq_some_iff.mp read
    · intro written
      exact ⟨(unpack value, rest), layout.read_eq_some_iff.mpr written, by simp [pack_unpack]⟩
  read_eq_none_iff := by
    intro bytes
    rw [Option.map_eq_none_iff]
    exact layout.read_eq_none_iff

/-- The four bytes of a word, lowest first, are its digits in base 256. -/
def word : FixedLayout UInt32 :=
  (byte.pair (byte.pair (byte.pair byte))).convert
    (fun (lowest, low, high, highest) => UInt32.ofNat
      (lowest.toNat + 256 * (low.toNat + 256 * (high.toNat + 256 * highest.toNat))))
    (fun value => (UInt8.ofNat value.toNat, UInt8.ofNat (value.toNat / 256),
      UInt8.ofNat (value.toNat / 65536), UInt8.ofNat (value.toNat / 16777216)))
    (by
      rintro ⟨lowest, low, high, highest⟩
      have lowestBound := lowest.toNat_lt
      have lowBound := low.toNat_lt
      have highBound := high.toNat_lt
      have highestBound := highest.toNat_lt
      simp only [Prod.mk.injEq, ← UInt8.toNat_inj, UInt8.toNat_ofNat', UInt32.toNat_ofNat']
      omega)
    (by
      intro value
      have bound := value.toNat_lt
      simp only [← UInt32.toNat_inj, UInt8.toNat_ofNat', UInt32.toNat_ofNat']
      omega)

/-- A double word is stored as its low word and then its high word. -/
def doubleWord : FixedLayout UInt64 :=
  (word.pair word).convert
    (fun (low, high) => UInt64.ofNat (low.toNat + 4294967296 * high.toNat))
    (fun value => (UInt32.ofNat value.toNat, UInt32.ofNat (value.toNat / 4294967296)))
    (by
      rintro ⟨low, high⟩
      have lowBound := low.toNat_lt
      have highBound := high.toNat_lt
      simp only [Prod.mk.injEq, ← UInt32.toNat_inj, UInt32.toNat_ofNat', UInt64.toNat_ofNat']
      omega)
    (by
      intro value
      have bound := value.toNat_lt
      simp only [← UInt64.toNat_inj, UInt32.toNat_ofNat', UInt64.toNat_ofNat']
      omega)

/-- A signed word is stored as the word of the same bits. -/
def signedWord : FixedLayout Int32 :=
  word.convert UInt32.toInt32 Int32.toUInt32 (fun _ => rfl) (fun _ => rfl)

/-- The concatenation of the stored elements. -/
def writeAll (element : FixedLayout α) (values : List α) : List UInt8 :=
  values.flatMap element.write

/-- Reads as many elements as asked for, one behind the other. -/
def readMany (element : FixedLayout α) : Nat → List UInt8 → Option (List α × List UInt8)
  | 0, bytes => some ([], bytes)
  | count + 1, bytes =>
    match element.read bytes with
    | none => none
    | some (value, middle) =>
      match element.readMany count middle with
      | none => none
      | some (values, rest) => some (value :: values, rest)

theorem length_writeAll (element : FixedLayout α) (values : List α) :
    (element.writeAll values).length = values.length * element.size := by
  induction values with
  | nil => simp [writeAll]
  | cons value rest inductionHypothesis =>
    rw [writeAll, List.flatMap_cons, List.length_append, element.length_write, ← writeAll,
      inductionHypothesis, List.length_cons, Nat.succ_mul, Nat.add_comm]

/-- Reading a number of elements accepts exactly the concatenations of as many. -/
theorem readMany_eq_some_iff (element : FixedLayout α) {count : Nat} {bytes rest : List UInt8}
    {values : List α} :
    element.readMany count bytes = some (values, rest) ↔
      values.length = count ∧ bytes = element.writeAll values ++ rest := by
  induction count generalizing bytes values with
  | zero =>
    rw [readMany]
    constructor
    · intro read
      cases read
      exact ⟨rfl, rfl⟩
    · rintro ⟨none, rfl⟩
      rw [List.length_eq_zero_iff] at none
      rw [none]
      rfl
  | succ count inductionHypothesis =>
    rw [readMany]
    constructor
    · intro read
      split at read
      · cases read
      · rename_i readFirst
        split at read
        · cases read
        · rename_i readLater
          cases read
          obtain ⟨length, later⟩ := inductionHypothesis.mp readLater
          refine ⟨by rw [List.length_cons, length], ?_⟩
          rw [element.read_eq_some_iff.mp readFirst, later, writeAll, writeAll,
            List.flatMap_cons, List.append_assoc]
    · rintro ⟨length, rfl⟩
      cases values with
      | nil => cases length
      | cons value later =>
        rw [writeAll, List.flatMap_cons, List.append_assoc, element.read_write, ← writeAll]
        have readLater : element.readMany count (element.writeAll later ++ rest) =
            some (later, rest) :=
          inductionHypothesis.mpr ⟨Nat.succ.inj length, rfl⟩
        simp only [readLater]

/-- Reading a number of elements fails exactly where their bytes are not all there. -/
theorem readMany_eq_none_iff (element : FixedLayout α) {count : Nat} {bytes : List UInt8} :
    element.readMany count bytes = none ↔ bytes.length < count * element.size := by
  induction count generalizing bytes with
  | zero => simp [readMany]
  | succ count inductionHypothesis =>
    rw [readMany, Nat.succ_mul]
    constructor
    · intro read
      split at read
      · rename_i readFirst
        have short := element.read_eq_none_iff.mp readFirst
        omega
      · rename_i readFirst
        have consumed := element.length_of_read readFirst
        split at read
        · rename_i readLater
          have short := inductionHypothesis.mp readLater
          omega
        · cases read
    · intro short
      split
      · rfl
      · rename_i middle readFirst
        have consumed := element.length_of_read readFirst
        have missing : element.readMany count middle = none :=
          inductionHypothesis.mpr (by omega)
        rw [missing]

end FixedLayout

end CommandStream
