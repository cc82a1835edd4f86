/-!
# Finite enumerations and their wire codes

`Enumeration` lists the values of a finite type in declaration order and names them.
`WireEnumeration` adds the 32-bit code under which a value travels inside a command record.
A code is read back by search, and `ofCode?_eq_some_iff` says that nothing but the code of a
value is ever read as that value.
-/

namespace CommandStream

/-- A finite type with a listing of its values and a name for each of them. -/
class Enumeration (α : Type) where
  all : List α
  name : α → String
  mem_all : ∀ value, value ∈ all

/-- The first value that carries the name. -/
def Enumeration.ofName? {α : Type} [Enumeration α] (text : String) : Option α :=
  all.find? fun value => name value == text

/-- A finite type whose values travel as distinct 32-bit codes. -/
class WireEnumeration (α : Type) extends Enumeration α where
  code : α → UInt32
  codes_nodup : (all.map code).Nodup

namespace WireEnumeration

variable {α : Type} [WireEnumeration α]

/-- The value a code stands for, if any. -/
def ofCode? (word : UInt32) : Option α :=
  Enumeration.all.find? fun value => code value == word

/-- Two values of a list without repeated codes agree as soon as their codes do. -/
private theorem eq_of_code_eq_of_mem {values : List α} (distinct : (values.map code).Nodup)
    {left right : α} (leftMember : left ∈ values) (rightMember : right ∈ values)
    (same : code left = code right) : left = right := by
  induction values with
  | nil => cases leftMember
  | cons value rest inductionHypothesis =>
    rw [List.map_cons, List.nodup_cons] at distinct
    obtain ⟨absent, restDistinct⟩ := distinct
    rcases List.mem_cons.mp leftMember with rfl | leftRest
    · rcases List.mem_cons.mp rightMember with rfl | rightRest
      · rfl
      · exact absurd (same ▸ List.mem_map_of_mem rightRest) absent
    · rcases List.mem_cons.mp rightMember with rfl | rightRest
      · exact absurd (same ▸ List.mem_map_of_mem leftRest) absent
      · exact inductionHypothesis restDistinct leftRest rightRest

/-- Distinct values have distinct codes. -/
theorem code_injective {left right : α} (same : code left = code right) : left = right :=
  eq_of_code_eq_of_mem codes_nodup (Enumeration.mem_all left) (Enumeration.mem_all right) same

/-- A word is read as a value exactly when it is the code of that value. -/
theorem ofCode?_eq_some_iff {word : UInt32} {value : α} :
    ofCode? word = some value ↔ code value = word := by
  constructor
  · intro found
    simpa using List.find?_some found
  · rintro rfl
    cases found : (ofCode? (code value) : Option α) with
    | none =>
      have refused := List.find?_eq_none.mp found value (Enumeration.mem_all value)
      simp at refused
    | some other =>
      have same : code other = code value := by simpa using List.find?_some found
      rw [code_injective same]

@[simp] theorem ofCode?_code (value : α) : ofCode? (code value) = some value :=
  ofCode?_eq_some_iff.mpr rfl

end WireEnumeration

end CommandStream
