import CommandStream.Proofs.Resolution
/-!
# Barriers in batches

Barriers reach the native layer in order and in batches, all of them full but the last one. While
they are added, full batches are handed over and at most one batch is held back; `Steady` is the
invariant of that, and `Divides` says what the batches are in the end.
-/

namespace CommandStream

namespace BarrierBatches

/-- Barriers in batches: all of them in order, no batch empty or too long, and every batch but the
last one full. -/
structure Divides (barriers : List BarrierCall) (batches : List (List BarrierCall)) : Prop where
  complete : batches.flatten = barriers
  notEmpty : ∀ batch ∈ batches, batch ≠ []
  bounded : ∀ batch ∈ batches, batch.length ≤ batchLimit
  full : ∀ batch ∈ batches.dropLast, batch.length = batchLimit

/-- While barriers are added, every batch that was handed over is full, and no more than one batch
is held back. -/
structure Steady (batches : BarrierBatches) : Prop where
  full : ∀ batch ∈ batches.issued, batch.length = batchLimit
  bounded : batches.pending.length ≤ batchLimit

/-- All barriers added so far. -/
def barriers (batches : BarrierBatches) : List BarrierCall :=
  batches.issued.flatten ++ batches.pending

theorem steady_empty : Steady empty := ⟨nofun, Nat.zero_le _⟩

theorem batchLimit_pos : 0 < batchLimit := by decide

/-- A barrier is held back behind those held back before, unless these fill a batch. -/
theorem push_cases (batches : BarrierBatches) (barrier : BarrierCall) :
    (batches.pending.length = batchLimit ∧
        batches.push barrier = ⟨batches.issued ++ [batches.pending], [barrier]⟩) ∨
      (batches.pending.length ≠ batchLimit ∧
        batches.push barrier = ⟨batches.issued, batches.pending ++ [barrier]⟩) := by
  by_cases full : batches.pending.length = batchLimit
  · have some : batches.pending.isEmpty = false := by
      rw [List.isEmpty_eq_false_iff]
      intro none
      rw [none] at full
      cases full
    left
    simp [push, flush, full, some]
  · right
    simp [push, full]

theorem Steady.push {batches : BarrierBatches} (steady : batches.Steady)
    (barrier : BarrierCall) : (batches.push barrier).Steady := by
  rcases push_cases batches barrier with ⟨full, pushed⟩ | ⟨notFull, pushed⟩
  · rw [pushed]
    refine ⟨?_, batchLimit_pos⟩
    intro batch member
    rcases List.mem_append.mp member with issued | pending
    · exact steady.full batch issued
    · rw [List.mem_singleton.mp pending]
      exact full
  · rw [pushed]
    refine ⟨steady.full, ?_⟩
    have bounded := steady.bounded
    simp only [List.length_append, List.length_singleton]
    omega

@[simp] theorem barriers_push (batches : BarrierBatches) (barrier : BarrierCall) :
    (batches.push barrier).barriers = batches.barriers ++ [barrier] := by
  rcases push_cases batches barrier with ⟨_, pushed⟩ | ⟨_, pushed⟩ <;>
    simp [pushed, barriers]

/-- Adding barriers keeps the invariant and loses nothing. -/
theorem Steady.foldl_push {batches : BarrierBatches} (steady : batches.Steady)
    (added : List BarrierCall) :
    (added.foldl BarrierBatches.push batches).Steady ∧
      (added.foldl BarrierBatches.push batches).barriers = batches.barriers ++ added := by
  induction added generalizing batches with
  | nil => exact ⟨steady, (List.append_nil _).symm⟩
  | cons barrier later inductionHypothesis =>
    obtain ⟨stillSteady, inOrder⟩ := inductionHypothesis (steady.push barrier)
    refine ⟨stillSteady, ?_⟩
    rw [List.foldl_cons, inOrder, barriers_push, List.append_assoc, List.singleton_append]

/-- Handing over what is held back completes the batches. -/
theorem Steady.divides_flush {batches : BarrierBatches} (steady : batches.Steady) :
    Divides batches.barriers batches.flush.issued := by
  have nonempty : ∀ batch ∈ batches.issued, batch ≠ [] := by
    intro batch member none
    have full := steady.full batch member
    rw [none] at full
    cases full
  unfold flush
  split
  · rename_i nothing
    refine ⟨?_, nonempty, fun batch member => Nat.le_of_eq (steady.full batch member),
      fun batch member => steady.full batch (List.dropLast_subset _ member)⟩
    rw [barriers, List.isEmpty_iff.mp nothing, List.append_nil]
  · rename_i something
    refine ⟨by simp [barriers], ?_, ?_, ?_⟩
    · intro batch member
      rcases List.mem_append.mp member with issued | pending
      · exact nonempty batch issued
      · rw [List.mem_singleton.mp pending]
        exact fun none => something (List.isEmpty_iff.mpr none)
    · intro batch member
      rcases List.mem_append.mp member with issued | pending
      · exact Nat.le_of_eq (steady.full batch issued)
      · rw [List.mem_singleton.mp pending]
        exact steady.bounded
    · intro batch member
      rw [List.dropLast_concat] at member
      exact steady.full batch member

/-- Behind the first batch, the later barriers are divided. -/
theorem Divides.tail {barriers : List BarrierCall} {batch : List BarrierCall}
    {later : List (List BarrierCall)} (divides : Divides barriers (batch :: later)) :
    Divides later.flatten later where
  complete := rfl
  notEmpty other member := divides.notEmpty other (List.mem_cons_of_mem _ member)
  bounded other member := divides.bounded other (List.mem_cons_of_mem _ member)
  full other member := by
    have some : later ≠ [] := by
      rintro rfl
      cases member
    refine divides.full other ?_
    rw [List.dropLast_cons_of_ne_nil some]
    exact List.mem_cons_of_mem _ member

/-- The first batch is as long as possible. -/
theorem Divides.length_head {barriers : List BarrierCall} {batch : List BarrierCall}
    {later : List (List BarrierCall)} (divides : Divides barriers (batch :: later)) :
    batch.length = min batchLimit (batch.length + later.flatten.length) := by
  have bounded := divides.bounded batch List.mem_cons_self
  cases later with
  | nil =>
    rw [List.flatten_nil, List.length_nil]
    omega
  | cons next rest =>
    have full := divides.full batch (by simp)
    omega

/-- There is only one way to divide barriers: as long as there is another batch behind it, the
first batch is full on either side, and behind it the same barriers remain. -/
theorem Divides.unique {barriers : List BarrierCall} {left right : List (List BarrierCall)}
    (dividesLeft : Divides barriers left) (dividesRight : Divides barriers right) :
    left = right := by
  induction left generalizing barriers right with
  | nil =>
    cases right with
    | nil => rfl
    | cons batch later =>
      have nothing := dividesLeft.complete.trans dividesRight.complete.symm
      rw [List.flatten_nil, List.flatten_cons, eq_comm, List.append_eq_nil_iff] at nothing
      exact absurd nothing.1 (dividesRight.notEmpty batch List.mem_cons_self)
  | cons front behind inductionHypothesis =>
    cases right with
    | nil =>
      have nothing := dividesRight.complete.trans dividesLeft.complete.symm
      rw [List.flatten_nil, List.flatten_cons, eq_comm, List.append_eq_nil_iff] at nothing
      exact absurd nothing.1 (dividesLeft.notEmpty front List.mem_cons_self)
    | cons batch later =>
      have same := dividesLeft.complete.trans dividesRight.complete.symm
      rw [List.flatten_cons, List.flatten_cons] at same
      have lengths := congrArg List.length same
      rw [List.length_append, List.length_append] at lengths
      have leftLength := dividesLeft.length_head
      have rightLength := dividesRight.length_head
      obtain ⟨rfl, rest⟩ := List.append_inj same (by omega)
      rw [inductionHypothesis dividesLeft.tail (rest ▸ dividesRight.tail)]

/-! ## Barriers that may not resolve -/

/-- Barriers that resolve are added one after another. -/
theorem pushAll_ok_append (batches : BarrierBatches) (resolved : List BarrierCall)
    (later : List (Except ReplayError BarrierCall)) :
    batches.pushAll (resolved.map .ok ++ later) =
      (resolved.foldl push batches).pushAll later := by
  induction resolved generalizing batches with
  | nil => rfl
  | cons barrier rest inductionHypothesis => exact inductionHypothesis (batches.push barrier)

/-- The barriers in front of the first that does not resolve. -/
theorem exists_resolved (attempts : List (Except ReplayError BarrierCall)) :
    (∃ resolved : List BarrierCall, attempts = resolved.map .ok) ∨
      ∃ (resolved : List BarrierCall) (error : ReplayError)
        (later : List (Except ReplayError BarrierCall)),
        attempts = resolved.map .ok ++ .error error :: later := by
  induction attempts with
  | nil => exact .inl ⟨[], rfl⟩
  | cons attempt later inductionHypothesis =>
    cases attempt with
    | error error => exact .inr ⟨[], error, later, rfl⟩
    | ok barrier =>
      rcases inductionHypothesis with ⟨resolved, rfl⟩ | ⟨resolved, error, rest, rfl⟩
      · exact .inl ⟨barrier :: resolved, rfl⟩
      · exact .inr ⟨barrier :: resolved, error, rest, rfl⟩

end BarrierBatches

namespace Interpreter.Step

/-- Barriers that all resolve are handed over in batches, and the batches are counted. -/
theorem barriers_of_resolved (interpreter : Interpreter) (resolved : List BarrierCall) :
    ∃ batches : List (List BarrierCall), BarrierBatches.Divides resolved batches ∧
      Step.barriers interpreter (resolved.map .ok) =
        ⟨batches.map .resourceBarriers, .ok (interpreter.countBarrierCalls batches.length)⟩ := by
  have pushed := BarrierBatches.pushAll_ok_append .empty resolved []
  rw [List.append_nil] at pushed
  obtain ⟨steady, inOrder⟩ := BarrierBatches.steady_empty.foldl_push resolved
  have divides := steady.divides_flush
  rw [inOrder] at divides
  refine ⟨_, divides, ?_⟩
  rw [Step.barriers, pushed]
  rfl

/-- Where a barrier does not resolve, full batches of those in front of it are handed over. -/
theorem barriers_of_error (interpreter : Interpreter) (resolved : List BarrierCall)
    (error : ReplayError) (later : List (Except ReplayError BarrierCall)) :
    Step.barriers interpreter (resolved.map .ok ++ .error error :: later) =
      ⟨(resolved.foldl BarrierBatches.push .empty).calls, .error error⟩ := by
  rw [Step.barriers, BarrierBatches.pushAll_ok_append]
  rfl

/-- A barrier record that is executed has every barrier resolved. -/
theorem resolved_of_barriers {interpreter next : Interpreter}
    {attempts : List (Except ReplayError BarrierCall)} {calls : List Call}
    (executed : Step.barriers interpreter attempts = ⟨calls, .ok next⟩) :
    ∃ (resolved : List BarrierCall) (batches : List (List BarrierCall)),
      attempts = resolved.map .ok ∧ BarrierBatches.Divides resolved batches ∧
        calls = batches.map .resourceBarriers ∧
        next = interpreter.countBarrierCalls batches.length := by
  rcases BarrierBatches.exists_resolved attempts with ⟨resolved, rfl⟩ | ⟨resolved, _, _, rfl⟩
  · obtain ⟨batches, divides, made⟩ := barriers_of_resolved interpreter resolved
    rw [made] at executed
    cases executed
    exact ⟨resolved, batches, rfl, divides, rfl, rfl⟩
  · rw [barriers_of_error] at executed
    cases executed

/-- Of a barrier record that fails full batches are handed over, of barriers that resolved. -/
theorem full_of_failed {interpreter : Interpreter}
    {attempts : List (Except ReplayError BarrierCall)} {calls : List Call} {error : ReplayError}
    (failed : Step.barriers interpreter attempts = ⟨calls, .error error⟩) {call : Call}
    (member : call ∈ calls) :
    ∃ batch, call = .resourceBarriers batch ∧ batch.length = BarrierBatches.batchLimit ∧
      ∀ barrier ∈ batch, .ok barrier ∈ attempts := by
  rcases BarrierBatches.exists_resolved attempts with ⟨resolved, rfl⟩ | ⟨resolved, _, _, rfl⟩
  · obtain ⟨batches, _, made⟩ := barriers_of_resolved interpreter resolved
    rw [made] at failed
    cases failed
  · rw [barriers_of_error] at failed
    cases failed
    obtain ⟨batch, issued, rfl⟩ := List.mem_map.mp member
    obtain ⟨steady, inOrder⟩ := BarrierBatches.steady_empty.foldl_push resolved
    refine ⟨batch, rfl, steady.full batch issued, fun barrier inBatch =>
      List.mem_append_left _ (List.mem_map_of_mem ?_)⟩
    have added : barrier ∈ (resolved.foldl BarrierBatches.push .empty).barriers :=
      List.mem_append_left _ (List.mem_flatten_of_mem issued inBatch)
    rw [inOrder] at added
    exact added

end Interpreter.Step

end CommandStream
