import CommandStream.Wire.FixedLayout
/-!
# Layouts of record bodies

The body of a command record is a header of fixed size followed by arrays whose lengths the
header announces. A record layout is built from the layout of the header by appending counted
arrays, and its law is that of a fixed layout with one proviso: reading accepts exactly the
written form of the bodies whose header announces the arrays that follow it.
-/

namespace CommandStream

/-- A way to store bodies made of a header and counted arrays. -/
structure RecordLayout (α : Type) where
  header : α → List UInt8
  /-- The stored arrays, one byte string for each. -/
  arrays : α → List (List UInt8)
  read : List UInt8 → Option (α × List UInt8)
  /-- Announces the arrays that are there. -/
  settle : α → α
  /-- The header announces the arrays that are there. -/
  Settled : α → Prop
  /-- Every array is short enough to be announced. -/
  Countable : α → Prop
  read_eq_some_iff : ∀ {bytes value rest}, read bytes = some (value, rest) ↔
    Settled value ∧ bytes = header value ++ (arrays value).flatten ++ rest
  settled_settle : ∀ {value}, Countable value → Settled (settle value)
  settle_of_settled : ∀ {value}, Settled value → settle value = value
  arrays_settle : ∀ value, arrays (settle value) = arrays value
  wholeWords : ∀ value, 4 ∣ (header value).length + (arrays value).flatten.length

namespace RecordLayout

variable {α β : Type}

/-- The stored form of a body. -/
def write (layout : RecordLayout α) (value : α) : List UInt8 :=
  layout.header value ++ (layout.arrays value).flatten

/-- Reading takes bytes off the front of the input. -/
theorem length_le_of_read (layout : RecordLayout α) {bytes rest : List UInt8} {value : α}
    (read : layout.read bytes = some (value, rest)) : rest.length ≤ bytes.length := by
  rw [(layout.read_eq_some_iff.mp read).2, List.length_append]
  exact Nat.le_add_left _ _

/-- A body without arrays. -/
def plain (layout : FixedLayout α) (wholeWords : 4 ∣ layout.size) : RecordLayout α where
  header := layout.write
  arrays _ := []
  read := layout.read
  settle value := value
  Settled _ := True
  Countable _ := True
  read_eq_some_iff := by
    intro bytes value rest
    rw [layout.read_eq_some_iff]
    simp
  settled_settle := fun _ => trivial
  settle_of_settled := fun _ => rfl
  arrays_settle _ := rfl
  wholeWords value := by simpa [layout.length_write] using wholeWords

/-- How a body announces the length of one more array: where the count stands and how it is
replaced. Replacing it disturbs neither the rest of the body nor what else is announced. -/
structure Counter (layout : RecordLayout α) where
  count : α → UInt32
  announce : α → UInt32 → α
  count_announce : ∀ value words, count (announce value words) = words
  announce_count : ∀ value, announce value (count value) = value
  settled_announce : ∀ value words, layout.Settled value → layout.Settled (announce value words)
  arrays_announce : ∀ value words, layout.arrays (announce value words) = layout.arrays value
  length_header_announce : ∀ value words,
    (layout.header (announce value words)).length = (layout.header value).length

/-- A body with one more array behind it, whose length the header announces. -/
def array (layout : RecordLayout α) (counter : Counter layout) (element : FixedLayout β)
    (wholeWords : 4 ∣ element.size) : RecordLayout (α × List β) where
  header value := layout.header value.1
  arrays value := layout.arrays value.1 ++ [element.writeAll value.2]
  read bytes :=
    (layout.read bytes).bind fun front =>
      (element.readMany (counter.count front.1).toNat front.2).map fun back =>
        ((front.1, back.1), back.2)
  settle value :=
    (counter.announce (layout.settle value.1) (UInt32.ofNat value.2.length), value.2)
  Settled value := layout.Settled value.1 ∧ (counter.count value.1).toNat = value.2.length
  Countable value := layout.Countable value.1 ∧ value.2.length < 4294967296
  read_eq_some_iff := by
    rintro bytes ⟨body, values⟩ rest
    constructor
    · intro read
      obtain ⟨front, readBody, readRest⟩ := Option.bind_eq_some_iff.mp read
      obtain ⟨back, readValues, same⟩ := Option.map_eq_some_iff.mp readRest
      cases same
      obtain ⟨settled, start⟩ := layout.read_eq_some_iff.mp readBody
      obtain ⟨length, stop⟩ := element.readMany_eq_some_iff.mp readValues
      refine ⟨⟨settled, length.symm⟩, ?_⟩
      rw [start, stop]
      simp
    · rintro ⟨⟨settled, length⟩, rfl⟩
      have readBody : layout.read (layout.header body ++
          (layout.arrays body ++ [element.writeAll values]).flatten ++ rest) =
            some (body, element.writeAll values ++ rest) :=
        layout.read_eq_some_iff.mpr ⟨settled, by simp⟩
      have readValues : element.readMany (counter.count body).toNat
          (element.writeAll values ++ rest) = some (values, rest) :=
        element.readMany_eq_some_iff.mpr ⟨length.symm, rfl⟩
      rw [readBody, Option.bind_some, readValues, Option.map_some]
  settled_settle := by
    rintro ⟨body, values⟩ ⟨countable, short⟩
    refine ⟨counter.settled_announce _ _ (layout.settled_settle countable), ?_⟩
    rw [counter.count_announce, UInt32.toNat_ofNat']
    exact Nat.mod_eq_of_lt short
  settle_of_settled := by
    rintro ⟨body, values⟩ ⟨settled, length⟩
    have announced : UInt32.ofNat values.length = counter.count body := by
      rw [← length, UInt32.ofNat_toNat]
    simp only [layout.settle_of_settled settled, announced, counter.announce_count]
  arrays_settle value := by simp [counter.arrays_announce, layout.arrays_settle]
  wholeWords value := by
    have front := layout.wholeWords value.1
    have back : 4 ∣ (element.writeAll value.2).length := by
      rw [element.length_writeAll]
      exact Nat.dvd_mul_left_of_dvd wholeWords _
    simp only [List.flatten_append, List.flatten_cons, List.flatten_nil, List.append_nil,
      List.length_append]
    omega

end RecordLayout

end CommandStream
