import CommandStream.Proofs.Execution
/-!
# How many calls barriers take

`Divides` says of batches that they divide barriers as replay does. That makes their number a
matter of arithmetic: one call for every 32 barriers begun, and none for none. With what each
barrier resolves to, this settles what a barrier record does (`barriers_batched_exactly`): in which
cases it is executed, with which calls, and how many calls it counts.
-/

namespace CommandStream

namespace BarrierBatches

/-- Barriers in the calls that they take: all in order, a call for every 32 of them begun, 32 of
them in each call but the last, and at least one in the last. -/
structure Exact (barriers : List BarrierCall) (batches : List (List BarrierCall)) : Prop where
  inOrder : batches.flatten = barriers
  length : batches.length = (barriers.length + 31) / 32
  full : ∀ batch ∈ batches.dropLast, batch.length = 32
  last : ∀ batch ∈ batches.getLast?, 1 ≤ batch.length ∧ batch.length ≤ 32

variable {barriers : List BarrierCall} {batches : List (List BarrierCall)}

/-- Behind the first batch the number of calls is that of the later barriers, and the first batch
is full if there are any. -/
theorem Divides.length_eq (divides : Divides barriers batches) :
    batches.length = (barriers.length + 31) / 32 := by
  induction batches generalizing barriers with
  | nil =>
    rw [← divides.complete]
    rfl
  | cons batch later inductionHypothesis =>
    have rest := inductionHypothesis divides.tail
    have first := divides.length_head
    have filled := List.length_pos_of_ne_nil (divides.notEmpty batch List.mem_cons_self)
    rw [← divides.complete, List.flatten_cons, List.length_append, List.length_cons, rest]
    rw [batchLimit] at first
    omega

/-- Dividing barriers as replay does is the same as dividing them exactly. -/
theorem divides_iff_exact : Divides barriers batches ↔ Exact barriers batches := by
  constructor
  · intro divides
    refine ⟨divides.complete, divides.length_eq, divides.full, fun batch isLast => ?_⟩
    have member := List.mem_of_getLast? isLast
    exact ⟨List.length_pos_of_ne_nil (divides.notEmpty batch member), divides.bounded batch member⟩
  · intro exactly
    have sizes : ∀ batch ∈ batches, 1 ≤ batch.length ∧ batch.length ≤ 32 := by
      intro batch member
      obtain rfl | ⟨front, final, rfl⟩ := List.eq_nil_or_concat' batches
      · cases member
      rcases List.mem_append.mp member with before | isLast
      · have isFull := exactly.full batch (by rwa [List.dropLast_concat])
        omega
      · rw [List.mem_singleton.mp isLast]
        exact exactly.last final (by rw [List.getLast?_concat]; rfl)
    refine ⟨exactly.inOrder, fun batch member none => ?_,
      fun batch member => (sizes batch member).2, exactly.full⟩
    have filled := (sizes batch member).1
    rw [none] at filled
    cases filled

end BarrierBatches

/-! ## Null handles -/

namespace Resources

variable {resources : Resources}

/-- The null handle stands for every resource, whatever table is named with it, and for no other
object. -/
theorem namesUnlessNull_null_iff {family : Option ResourceFamily} {object : Option ObjectId} :
    resources.NamesUnlessNull family Handle.null object ↔ object = none := by
  constructor
  · intro names
    cases names with
    | null => rfl
    | present notNull => exact absurd rfl notNull
  · rintro rfl
    exact .null

theorem ordersAccess_iff {barrier : UnorderedAccessBarrier} {call : BarrierCall} :
    resources.OrdersAccess barrier call ↔
      ∃ object, resources.NamesUnlessNull (barrierFamily? barrier.kind) barrier.resource object ∧
        call = .unorderedAccess object := by
  constructor
  · rintro ⟨names⟩
    exact ⟨_, names, rfl⟩
  · rintro ⟨_, names, rfl⟩
    exact .intro names

theorem aliases_iff {barrier : AliasingBarrier} {call : BarrierCall} :
    resources.Aliases barrier call ↔
      ∃ before after,
        resources.NamesUnlessNull (barrierFamily? barrier.beforeKind) barrier.before before ∧
          resources.NamesUnlessNull (barrierFamily? barrier.afterKind) barrier.after after ∧
          call = .aliasing before after := by
  constructor
  · rintro ⟨namesBefore, namesAfter⟩
    exact ⟨_, _, namesBefore, namesAfter, rfl⟩
  · rintro ⟨_, _, namesBefore, namesAfter, rfl⟩
    exact .intro namesBefore namesAfter

end Resources

/-! ## Barrier records -/

namespace Interpreter.Step

/-- Barriers are all handed over exactly when each of them resolves, and then in the only batches
that divide them. -/
theorem barriers_eq_ok_iff {interpreter next : Interpreter}
    {attempts : List (Except ReplayError BarrierCall)} {calls : List Call} :
    Step.barriers interpreter attempts = ⟨calls, .ok next⟩ ↔
      ∃ (resolved : List BarrierCall) (batches : List (List BarrierCall)),
        attempts = resolved.map .ok ∧ BarrierBatches.Exact resolved batches ∧
          calls = batches.map .resourceBarriers ∧
          next = interpreter.countBarrierCalls ((attempts.length + 31) / 32) := by
  constructor
  · intro executed
    obtain ⟨resolved, batches, rfl, divides, rfl, rfl⟩ := resolved_of_barriers executed
    refine ⟨resolved, batches, rfl, BarrierBatches.divides_iff_exact.mp divides, rfl, ?_⟩
    rw [divides.length_eq, List.length_map]
  · rintro ⟨resolved, batches, rfl, exactly, rfl, rfl⟩
    obtain ⟨others, divides, made⟩ := barriers_of_resolved interpreter resolved
    rw [made, divides.unique (BarrierBatches.divides_iff_exact.mpr exactly), exactly.length,
      List.length_map]

end Interpreter.Step

/-- What a record of transitions and unordered access barriers does, and what a record of aliasing
barriers does, in whatever state the interpreter is. It is executed exactly when every barrier of
it resolves. Then the barriers go out in order, the transitions first, with one call for every 32
begun and none for none; each call but the last is full, and as many calls are counted. The null
handle of an unordered access or aliasing barrier resolves to every resource, even with a kind that
names no table. -/
theorem barriers_batched_exactly (resources : Resources) (interpreter next : Interpreter)
    (offset : Nat) (calls : List Call) :
    (∀ counts transitions unorderedAccess,
      Interpreter.execute resources interpreter offset
          ⟨.resourceBarriers, ((counts, transitions), unorderedAccess)⟩ = ⟨calls, .ok next⟩ ↔
        ∃ changes orders batches,
          List.Forall₂ resources.Transitions transitions changes ∧
            List.Forall₂ resources.OrdersAccess unorderedAccess orders ∧
            BarrierBatches.Exact (changes ++ orders) batches ∧
            calls = batches.map .resourceBarriers ∧
            next = interpreter.countBarrierCalls
              ((transitions.length + unorderedAccess.length + 31) / 32)) ∧
      (∀ count barriers,
        Interpreter.execute resources interpreter offset ⟨.aliasingBarriers, (count, barriers)⟩ =
            ⟨calls, .ok next⟩ ↔
          ∃ switches batches,
            List.Forall₂ resources.Aliases barriers switches ∧
              BarrierBatches.Exact switches batches ∧
              calls = batches.map .resourceBarriers ∧
              next = interpreter.countBarrierCalls ((barriers.length + 31) / 32)) ∧
      (∀ kind call,
        resources.OrdersAccess ⟨Handle.null, kind⟩ call ↔ call = .unorderedAccess none) ∧
      (∀ kind after afterKind call,
        resources.Aliases ⟨Handle.null, kind, after, afterKind⟩ call ↔
          ∃ object, resources.NamesUnlessNull (barrierFamily? afterKind) after object ∧
            call = .aliasing none object) ∧
      ∀ before beforeKind kind call,
        resources.Aliases ⟨before, beforeKind, Handle.null, kind⟩ call ↔
          ∃ object, resources.NamesUnlessNull (barrierFamily? beforeKind) before object ∧
            call = .aliasing object none := by
  refine ⟨fun counts transitions unorderedAccess => ?_, fun count barriers => ?_,
    fun kind call => ?_, fun kind after afterKind call => ?_, fun before beforeKind kind call => ?_⟩
  · rw [Interpreter.execute, Interpreter.Step.barriers_eq_ok_iff, List.length_append,
      List.length_map, List.length_map]
    constructor
    · rintro ⟨resolved, batches, all, exactly, made, counted⟩
      obtain ⟨changes, orders, rfl, isChanges, isOrders⟩ := List.map_eq_append_iff.mp all.symm
      refine ⟨changes, orders, batches, ?_, ?_, exactly, made, counted⟩
      · exact (map_eq_map_ok_iff.mp isChanges.symm).imp fun _ _ => Resources.transitionCall_eq_ok.mp
      · exact (map_eq_map_ok_iff.mp isOrders.symm).imp
          fun _ _ => Resources.unorderedAccessCall_eq_ok.mp
    · rintro ⟨changes, orders, batches, isChanges, isOrders, exactly, made, counted⟩
      refine ⟨changes ++ orders, batches, ?_, exactly, made, counted⟩
      rw [List.map_append]
      congr 1
      · exact map_eq_map_ok_iff.mpr (isChanges.imp fun _ _ => Resources.transitionCall_eq_ok.mpr)
      · exact map_eq_map_ok_iff.mpr
          (isOrders.imp fun _ _ => Resources.unorderedAccessCall_eq_ok.mpr)
  · rw [Interpreter.execute, Interpreter.Step.barriers_eq_ok_iff, List.length_map]
    simp only [map_eq_map_ok_iff, Resources.aliasingCall_eq_ok, exists_and_left]
  · simp only [Resources.ordersAccess_iff, Resources.namesUnlessNull_null_iff, exists_eq_left]
  all_goals
    simp only [Resources.aliases_iff, Resources.namesUnlessNull_null_iff, exists_and_left,
      exists_eq_left]

/-- Barriers on every resource are one more than a call takes, and their kinds are not looked at. -/
example (resources : Resources) (interpreter : Interpreter) :
    Interpreter.execute resources interpreter 0
        ⟨.aliasingBarriers, (0, List.replicate 33 ⟨Handle.null, 7, Handle.null, 9⟩)⟩ =
      ⟨[.resourceBarriers (List.replicate 32 (.aliasing none none)),
        .resourceBarriers [.aliasing none none]], .ok (interpreter.countBarrierCalls 2)⟩ := by
  cbv

end CommandStream
