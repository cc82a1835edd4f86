/-!
# Sums of numbers

The sizes of arrays, the lengths of blocks and the costs of parameters are added up as plain
natural numbers.
-/

namespace CommandStream

/-- The sum of numbers. -/
def total (numbers : List Nat) : Nat := numbers.foldr (fun number sum => number + sum) 0

@[simp] theorem total_nil : total [] = 0 := rfl

@[simp] theorem total_cons (number : Nat) (later : List Nat) :
    total (number :: later) = number + total later := rfl

@[simp] theorem total_append (front back : List Nat) :
    total (front ++ back) = total front + total back := by
  induction front with
  | nil => simp
  | cons number later inductionHypothesis => simp [inductionHypothesis, Nat.add_assoc]

/-- The length of a concatenation is the sum of the lengths. -/
theorem total_map_length {α : Type} (arrays : List (List α)) :
    total (arrays.map List.length) = arrays.flatten.length := by
  induction arrays with
  | nil => rfl
  | cons array later inductionHypothesis => simp [inductionHypothesis]

end CommandStream
