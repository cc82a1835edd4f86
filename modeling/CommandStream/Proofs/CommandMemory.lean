import CommandStream.Proofs.Disposal
/-!
# Command memory in flight

A submission records into one allocator, which is busy until the value of the submission is
complete. `Accounted` says that the queues of a session keep the books: every allocator is in one
pool at most, and the value it is pooled under is at least that of every execution that used it.
Each way in which a submission can end puts its allocator back under a value of its own, and each
of them keeps the books in order, so that an allocator is recycled only when the device is done
with it.
-/

namespace CommandStream

/-! ## Executions -/

/-- Lists that were executed: the fence of their queue, the value given to their submission,
which is used up whether or not its signal fails, and the allocators that the calls of the lists
reset. -/
structure Execution where
  fence : ObjectId
  value : Nat
  allocators : List ObjectId
  deriving DecidableEq

/-- The allocator that a call resets its list to. -/
def Call.allocator? : Call → Option ObjectId
  | .reset allocator _ => some allocator
  | _ => none

/-- The allocators of executed lists. -/
def resetAllocators (lists : List (List Call)) : List ObjectId :=
  lists.flatten.filterMap Call.allocator?

/-- The execution that an event is, if it comes from a queue that is about to signal a value. -/
def QueueEvent.execution? (fence : ObjectId) (value : Nat) : QueueEvent → Option Execution
  | .execute lists => some ⟨fence, value, resetAllocators lists⟩
  | _ => none

/-- The executions of a queue among the events that reached a device between two states. -/
def Queue.executions (queue : Queue) (before after : NativeDevice) : List Execution :=
  (after.log.drop before.log.length).filterMap
    (QueueEvent.execution? queue.fence (queue.lastSubmitted + 1))

namespace Session

/-- The executions that an action of a session causes. -/
def executions (session : Session) : Action → List Execution
  | .submit index buffers dependencies =>
    match session.queues[index]? with
    | none => []
    | some queue =>
      queue.executions session.device.native
        (queue.submit session.device buffers dependencies).2.2.native
  | _ => []

/-- The executions that actions in a row cause, the oldest first. -/
def history (session : Session) : List Action → List Execution
  | [] => []
  | action :: later => session.executions action ++ (session.perform action).history later

end Session

/-! ## What a submission does with command memory -/

/-- The calls of a replay are live, and no resource is an allocator. -/
theorem Call.Live.allocator?_eq_none {resources : Resources} {call : Call}
    (live : call.Live resources) : call.allocator? = none := by
  cases call with
  | reset allocator pipeline => exact (live _ List.mem_cons_self).elim
  | _ => rfl

namespace Queue

/-- The lists of a submission are recorded with the allocator of the submission and no other. -/
theorem Recording.Records.mem_allocators {resources : Resources} {allocator : ObjectId}
    {work : List CommandBuffer} {recorded : List (List Call)}
    (records : List.Forall₂ (Recording.Records resources allocator) work recorded)
    {used : ObjectId} (member : used ∈ resetAllocators recorded) : used = allocator := by
  obtain ⟨call, inLists, resets⟩ := List.mem_filterMap.mp member
  obtain ⟨calls, inRecorded, inCalls⟩ := List.mem_flatten.mp inLists
  obtain ⟨buffer, _, ⟨_, _⟩⟩ := exists_of_mem_forall₂ records.flip inRecorded
  rcases List.mem_cons.mp inCalls with rfl | behind
  · cases resets
    rfl
  · rcases List.mem_cons.mp behind with rfl | replayed
    · cases resets
    · rw [(CommandBuffer.live_of_replay replayed).allocator?_eq_none] at resets
      cases resets

/-- What a submission does with the pool of its queue, and the execution that comes of it. -/
inductive Turns (queue : Queue) (device : NativeDevice) :
    Queue → NativeDevice → List Execution → Prop
  /-- No allocator is used, and only a lost device takes one out of the pool. -/
  | unused {after : Queue} {final : NativeDevice}
      (pool : queue.Forfeits device after.allocators)
      (resets : final.allocatorResets = device.allocatorResets) :
      Turns queue device after final []
  /-- Nothing was executed, and the allocator goes back under the last value. -/
  | returned {events : List QueueEvent} {allocator : CommandAllocator} {acquired after : Queue}
      {state final : NativeDevice}
      (acquires : queue.Acquires (device.logged events) allocator acquired state)
      (advances : state.Advances final)
      (resets : final.allocatorResets = state.allocatorResets)
      (pool : after.allocators = acquired.allocators ++ [⟨queue.lastSubmitted, allocator⟩]) :
      Turns queue device after final []
  /-- The lists were executed, and the allocator goes back under the next value. -/
  | executed {events : List QueueEvent} {allocator : CommandAllocator} {acquired after : Queue}
      {state final : NativeDevice} {used : List ObjectId}
      (acquires : queue.Acquires (device.logged events) allocator acquired state)
      (advances : state.Advances final)
      (resets : final.allocatorResets = state.allocatorResets)
      (pool : after.allocators = acquired.allocators ++ [⟨queue.lastSubmitted + 1, allocator⟩])
      (next : after.lastSubmitted = queue.lastSubmitted + 1)
      (uses : ∀ id ∈ used, id = allocator.id) :
      Turns queue device after final [⟨queue.fence, queue.lastSubmitted + 1, used⟩]

/-- The executions of a submission are found among the events by which the log grew. -/
theorem Turns.of_log {queue after : Queue} {device final : NativeDevice}
    {events : List QueueEvent} {executed : List Execution}
    (log : final.log = device.log ++ events)
    (found : events.filterMap (QueueEvent.execution? queue.fence (queue.lastSubmitted + 1)) =
      executed)
    (turns : queue.Turns device after final executed) :
    queue.Turns device after final (queue.executions device final) := by
  rw [executions, log, List.drop_left, found]
  exact turns

/-- Waits execute nothing. -/
theorem filterMap_waiting (fence : ObjectId) (value : Nat) (waits : List Token) :
    (waits.map Token.waiting).filterMap (QueueEvent.execution? fence value) = [] := by
  rw [List.filterMap_map]
  exact List.filterMap_eq_nil_iff.mpr fun _ _ => rfl

namespace Signals

variable {queue after : Queue} {device final : NativeDevice} {used : Option CommandAllocator}
  {answer : Except SubmitError Token}

/-- A signal, if it is made, is all that reaches the device behind what was executed. -/
theorem log_eq (signals : queue.Signals device used answer after final) (fence : ObjectId)
    (value : Nat) :
    ∃ events, final.log = device.log ++ events ∧
      events.filterMap (QueueEvent.execution? fence value) = [] := by
  cases signals with
  | signaled =>
    exact ⟨[.signal queue.fence (queue.lastSubmitted + 1)], rfl, rfl⟩
  | failed => exact ⟨[], (List.append_nil _).symm, rfl⟩

theorem allocatorResets_eq (signals : queue.Signals device used answer after final) :
    final.allocatorResets = device.allocatorResets := by
  cases signals with
  | signaled =>
    unfold NativeDevice.signaled
    dsimp only
    split <;> rfl
  | failed => rfl

theorem after_eq (signals : queue.Signals device used answer after final) :
    after = queue.advanced used := by
  cases signals <;> rfl

end Signals

/-- Every submission turns command memory over in one of the three ways. -/
theorem Submits.turns {queue after : Queue} {device final : Device}
    {buffers : List CommandBuffer} {dependencies : List Token}
    {answer : Except SubmitError Token}
    (submits : queue.Submits device buffers dependencies answer after final) :
    queue.Turns device.native after final.native
      (queue.executions device.native final.native) := by
  have nothing : device.native.log = device.native.log ++ [] := (List.append_nil _).symm
  cases submits with
  | idle => exact .of_log nothing rfl (.unused .nothing rfl)
  | closed => exact .of_log nothing rfl (.unused .nothing rfl)
  | @works answer after native usable pending works =>
    have waited := filterMap_waiting queue.fence (queue.lastSubmitted + 1)
      (queue.waits device.native dependencies)
    cases works with
    | lost gone forfeits => exact .of_log nothing rfl (.unused forfeits rfl)
    | waited present noWork signals =>
      obtain ⟨events, log, silent⟩ := signals.log_eq queue.fence (queue.lastSubmitted + 1)
      have quiet : ((queue.waits device.native dependencies).map Token.waiting ++ events).filterMap
          (QueueEvent.execution? queue.fence (queue.lastSubmitted + 1)) = [] := by
        rw [List.filterMap_append, waited, silent, List.append_nil]
      refine .of_log (log.trans (List.append_assoc _ _ _)) quiet ?_
      rw [signals.after_eq]
      exact .unused .nothing signals.allocatorResets_eq
    | failed present someWork delivers =>
      cases delivers with
      | unrecorded acquires failed =>
        exact .of_log acquires.log_eq waited
          (.returned acquires (NativeDevice.advances_grown _ _) rfl rfl)
      | refused acquires records =>
        exact .of_log acquires.log_eq waited
          (.returned acquires (NativeDevice.advances_grown _ _) rfl rfl)
    | @delivered allocator _ _ _ _ _ present someWork delivers signals =>
      cases delivers with
      | @executed _ acquired state lists created recorded acquires records =>
        have sameLast : acquired.lastSubmitted = queue.lastSubmitted := acquires.lastSubmitted_eq
        obtain ⟨events, behind, silent⟩ := signals.log_eq queue.fence (queue.lastSubmitted + 1)
        have before : state.log = device.native.log ++
          (queue.waits device.native dependencies).map Token.waiting := acquires.log_eq
        have log : native.log = device.native.log ++
            ((queue.waits device.native dependencies).map Token.waiting ++
              .execute recorded :: events) := by
          rw [behind]
          change state.log ++ [.execute recorded] ++ events = _
          rw [before, List.append_assoc, List.append_assoc, List.singleton_append]
        have found : ((queue.waits device.native dependencies).map Token.waiting ++
              .execute recorded :: events).filterMap
              (QueueEvent.execution? queue.fence (queue.lastSubmitted + 1)) =
            [⟨queue.fence, queue.lastSubmitted + 1, resetAllocators recorded⟩] := by
          rw [List.filterMap_append, waited, List.filterMap_cons, silent]
          rfl
        refine .of_log log found ?_
        rw [signals.after_eq]
        refine .executed acquires ?_ signals.allocatorResets_eq ?_ ?_
          fun _ => Recording.Records.mem_allocators records
        · exact (NativeDevice.advances_grown _ _).trans
            ((NativeDevice.advances_logged _ _).trans signals.advances)
        · change acquired.allocators ++ [⟨acquired.lastSubmitted + 1, allocator⟩] = _
          rw [sameLast]
        · change acquired.lastSubmitted + 1 = _
          rw [sameLast]

/-- The fence of a queue stays, and its values count up. -/
theorem Submits.numbers {queue after : Queue} {device final : Device}
    {buffers : List CommandBuffer} {dependencies : List Token}
    {answer : Except SubmitError Token}
    (submits : queue.Submits device buffers dependencies answer after final) :
    after.fence = queue.fence ∧ queue.lastSubmitted ≤ after.lastSubmitted := by
  cases submits with
  | idle => exact ⟨rfl, Nat.le_refl _⟩
  | closed => exact ⟨rfl, Nat.le_refl _⟩
  | works usable pending works =>
    cases works with
    | lost => exact ⟨rfl, Nat.le_refl _⟩
    | waited present noWork signals =>
      rw [signals.after_eq]
      exact ⟨rfl, Nat.le_succ _⟩
    | failed present someWork delivers =>
      obtain ⟨fence, last⟩ := delivers.numbers
      exact ⟨fence, Nat.le_of_eq last.symm⟩
    | delivered present someWork delivers signals =>
      obtain ⟨fence, last⟩ := delivers.numbers
      rw [signals.after_eq]
      exact ⟨fence, Nat.le_succ_of_le (Nat.le_of_eq last.symm)⟩

/-! ## The books -/

/-- The identities of the allocators in the pool of a queue. -/
def pooledIds (queue : Queue) : List ObjectId :=
  queue.allocators.map fun pooled => pooled.allocator.id

/-- The pool of a queue answers for a history: no value in it is ahead of the queue, and
everything that was executed with one of its allocators was executed by the queue, under a value
that is not above that of the allocator. -/
def Vouches (queue : Queue) (history : List Execution) : Prop :=
  ∀ pooled ∈ queue.allocators, pooled.value ≤ queue.lastSubmitted ∧
    ∀ execution ∈ history, pooled.allocator.id ∈ execution.allocators →
      execution.fence = queue.fence ∧ execution.value ≤ pooled.value

/-- A pool with fewer allocators answers for the same, also when its queue went on. -/
theorem Vouches.of_subset {queue after : Queue} {history : List Execution}
    (vouches : queue.Vouches history) (subset : after.allocators ⊆ queue.allocators)
    (fence : after.fence = queue.fence) (grows : queue.lastSubmitted ≤ after.lastSubmitted) :
    after.Vouches history := by
  intro pooled member
  obtain ⟨behind, used⟩ := vouches pooled (subset member)
  rw [fence]
  exact ⟨Nat.le_trans behind grows, used⟩

/-- Executions with other allocators are no concern of a pool. -/
theorem Vouches.append {queue : Queue} {history added : List Execution}
    (vouches : queue.Vouches history)
    (others : ∀ execution ∈ added, ∀ id ∈ execution.allocators, id ∉ queue.pooledIds) :
    queue.Vouches (history ++ added) := by
  intro pooled member
  obtain ⟨behind, used⟩ := vouches pooled member
  refine ⟨behind, fun execution inBoth uses => ?_⟩
  rcases List.mem_append.mp inBoth with inHistory | inAdded
  · exact used execution inHistory uses
  · exact absurd (List.mem_map_of_mem member) (others execution inAdded _ uses)

end Queue

/-- The identities of the allocators in the pools of queues. -/
def pooledIds (queues : List Queue) : List ObjectId := queues.flatMap Queue.pooledIds

/-- The pools of queues over one device keep the books about what was executed. -/
structure Accounted (device : NativeDevice) (queues : List Queue) (history : List Execution) :
    Prop where
  /-- Every pool answers for all that was executed. -/
  vouches : ∀ queue ∈ queues, queue.Vouches history
  /-- No allocator is in two places. -/
  apart : (pooledIds queues).Nodup
  /-- The allocators in the pools are not given again. -/
  pooledGiven : ∀ id ∈ pooledIds queues, id < device.nextId
  /-- Nor are those that executed lists were recorded with. -/
  executedGiven : ∀ execution ∈ history, ∀ id ∈ execution.allocators, id < device.nextId
  /-- An execution with an allocator that is used again later is complete. -/
  complete : history.Pairwise fun first second => ∀ id ∈ first.allocators,
    id ∈ second.allocators → first.value ≤ device.completedValue first.fence

/-- An allocator is in hand while a submission records with it: it is in no pool, and all that was
executed with it is complete. -/
structure InHand (device : NativeDevice) (queues : List Queue) (history : List Execution)
    (queue : Queue) (allocator : CommandAllocator) : Prop where
  accounted : Accounted device queues history
  given : allocator.id < device.nextId
  apart : allocator.id ∉ pooledIds queues
  complete : ∀ execution ∈ history, allocator.id ∈ execution.allocators →
    execution.fence = queue.fence ∧ execution.value ≤ queue.lastSubmitted ∧
      execution.value ≤ device.completedValue queue.fence

theorem accounted_nil (device : NativeDevice) : Accounted device [] [] where
  vouches := nofun
  apart := List.nodup_nil
  pooledGiven := nofun
  executedGiven := nofun
  complete := List.Pairwise.nil

/-- The books stay in order as the device goes on. -/
theorem Accounted.advances {device final : NativeDevice} {queues : List Queue}
    {history : List Execution} (accounted : Accounted device queues history)
    (advances : device.Advances final) : Accounted final queues history where
  vouches := accounted.vouches
  apart := accounted.apart
  pooledGiven id member := Nat.lt_of_lt_of_le (accounted.pooledGiven id member) advances.nextId
  executedGiven execution member id uses :=
    Nat.lt_of_lt_of_le (accounted.executedGiven execution member id uses) advances.nextId
  complete := accounted.complete.imp fun done id inFirst inSecond =>
    Nat.le_trans (done id inFirst inSecond) (advances.completed _)

theorem InHand.advances {device final : NativeDevice} {queues : List Queue}
    {history : List Execution} {queue : Queue} {allocator : CommandAllocator}
    (inHand : InHand device queues history queue allocator) (advances : device.Advances final) :
    InHand final queues history queue allocator where
  accounted := inHand.accounted.advances advances
  given := Nat.lt_of_lt_of_le inHand.given advances.nextId
  apart := inHand.apart
  complete execution member uses := by
    obtain ⟨fence, behind, done⟩ := inHand.complete execution member uses
    exact ⟨fence, behind, Nat.le_trans done (advances.completed _)⟩

section Replacing

variable {start device state : NativeDevice} {front back : List Queue}
  {queue acquired after : Queue} {history : List Execution} {allocator : CommandAllocator}

/-- What is said of all queues is said of those around one of them and of that one. -/
theorem forall_mem_replace {property : Queue → Prop}
    (before : ∀ other ∈ front ++ queue :: back, property other) (new : property after) :
    ∀ other ∈ front ++ after :: back, property other := by
  intro other member
  rcases List.mem_append.mp member with inFront | behind
  · exact before other (List.mem_append_left _ inFront)
  · rcases List.mem_cons.mp behind with rfl | inBack
    · exact new
    · exact before other (List.mem_append_right _ (List.mem_cons_of_mem _ inBack))

theorem pooledIds_replace :
    pooledIds (front ++ queue :: back) =
      pooledIds front ++ (queue.pooledIds ++ pooledIds back) := by
  simp [pooledIds]

/-- A queue may lose allocators. -/
theorem Accounted.shrink (accounted : Accounted device (front ++ queue :: back) history)
    (pool : after.allocators <:+ queue.allocators) (fence : after.fence = queue.fence)
    (grows : queue.lastSubmitted ≤ after.lastSubmitted) :
    Accounted device (front ++ after :: back) history := by
  have vouches := accounted.vouches queue (List.mem_append_right _ List.mem_cons_self)
  have sublist : (pooledIds (front ++ after :: back)).Sublist
      (pooledIds (front ++ queue :: back)) := by
    rw [pooledIds_replace, pooledIds_replace]
    exact (List.Sublist.refl _).append ((pool.sublist.map _).append (List.Sublist.refl _))
  refine ⟨?_, accounted.apart.sublist sublist, ?_, accounted.executedGiven, accounted.complete⟩
  · exact forall_mem_replace accounted.vouches (vouches.of_subset pool.subset fence grows)
  · intro id member
    exact accounted.pooledGiven id (sublist.subset member)

/-- An allocator that a submission acquires is in hand. -/
theorem Accounted.acquire (accounted : Accounted device (front ++ queue :: back) history)
    (acquires : queue.Acquires device allocator acquired state) :
    InHand state (front ++ acquired :: back) history queue allocator := by
  cases acquires with
  | @recycled pooled later isPool complete =>
    have vouches := accounted.vouches queue (List.mem_append_right _ List.mem_cons_self)
    obtain ⟨behind, used⟩ := vouches pooled (isPool ▸ List.mem_cons_self)
    have isSuffix : later <:+ queue.allocators := isPool ▸ List.suffix_cons pooled later
    have shrunk : Accounted device (front ++ { queue with allocators := later } :: back) history :=
      accounted.shrink isSuffix rfl (Nat.le_refl _)
    have order : (pooledIds (front ++ queue :: back)).Perm
        (pooled.allocator.id ::
          pooledIds (front ++ { queue with allocators := later } :: back)) := by
      rw [pooledIds_replace, pooledIds_replace, Queue.pooledIds, isPool]
      exact List.perm_middle
    refine ⟨?_, ?_, ?_, ?_⟩
    · exact shrunk.advances (NativeDevice.advances_of_fences rfl (Nat.le_refl _))
    · exact accounted.pooledGiven _ (order.mem_iff.mpr List.mem_cons_self)
    · exact (List.nodup_cons.mp (order.nodup_iff.mp accounted.apart)).1
    · intro execution member uses
      obtain ⟨fence, atMost⟩ := used execution member uses
      exact ⟨fence, Nat.le_trans atMost behind, Nat.le_trans atMost complete⟩
  | created busy =>
    refine ⟨?_, Nat.lt_succ_self _, ?_, ?_⟩
    · exact accounted.advances (NativeDevice.advances_of_fences rfl (Nat.le_succ _))
    · exact fun member => Nat.lt_irrefl _ (accounted.pooledGiven _ member)
    · intro execution member uses
      exact absurd (accounted.executedGiven execution member _ uses) (Nat.lt_irrefl _)

/-- The allocator in hand may be put back under any value from the last one before the submission
to the last one after it, if what was executed meanwhile used that allocator only and is not above
the value. -/
theorem InHand.pool {added : List Execution} {value : Nat}
    (inHand : InHand device (front ++ acquired :: back) history queue allocator)
    (acquires : queue.Acquires start allocator acquired state)
    (pool : after.allocators = acquired.allocators ++ [⟨value, allocator⟩])
    (fence : after.fence = queue.fence) (atLeast : queue.lastSubmitted ≤ value)
    (atMost : value ≤ after.lastSubmitted)
    (single : added.length ≤ 1)
    (uses : ∀ execution ∈ added, execution.fence = queue.fence ∧ execution.value ≤ value ∧
      ∀ id ∈ execution.allocators, id = allocator.id) :
    Accounted device (front ++ after :: back) (history ++ added) := by
  have accounted := inHand.accounted
  have order : (pooledIds (front ++ after :: back)).Perm
      (allocator.id :: pooledIds (front ++ acquired :: back)) := by
    rw [pooledIds_replace, pooledIds_replace, Queue.pooledIds, pool, List.map_append,
      List.append_assoc, ← List.append_assoc (pooledIds front),
      ← List.append_assoc (pooledIds front)]
    exact List.perm_middle
  have others : ∀ other ∈ front ++ acquired :: back, other.Vouches (history ++ added) := by
    intro other member
    refine (accounted.vouches other member).append fun execution inAdded id isUsed pooled => ?_
    rw [(uses execution inAdded).2.2 id isUsed] at pooled
    exact inHand.apart (List.mem_flatMap.mpr ⟨other, member, pooled⟩)
  refine ⟨forall_mem_replace others ?_, ?_, ?_, ?_, ?_⟩
  · intro pooled member
    rw [pool] at member
    rcases List.mem_append.mp member with inPool | isNew
    · have vouches := others acquired (List.mem_append_right _ List.mem_cons_self)
      obtain ⟨behind, used⟩ := vouches pooled inPool
      rw [acquires.fence_eq] at used
      rw [acquires.lastSubmitted_eq] at behind
      rw [fence]
      exact ⟨Nat.le_trans behind (Nat.le_trans atLeast atMost), used⟩
    · cases List.mem_singleton.mp isNew
      rw [fence]
      refine ⟨atMost, fun execution inBoth isUsed => ?_⟩
      rcases List.mem_append.mp inBoth with inHistory | inAdded
      · obtain ⟨sameFence, behind, _⟩ := inHand.complete execution inHistory isUsed
        exact ⟨sameFence, Nat.le_trans behind atLeast⟩
      · exact ⟨(uses execution inAdded).1, (uses execution inAdded).2.1⟩
  · exact order.nodup_iff.mpr (List.nodup_cons.mpr ⟨inHand.apart, accounted.apart⟩)
  · intro id member
    rcases List.mem_cons.mp (order.mem_iff.mp member) with rfl | inPools
    · exact inHand.given
    · exact accounted.pooledGiven id inPools
  · intro execution member id isUsed
    rcases List.mem_append.mp member with inHistory | inAdded
    · exact accounted.executedGiven execution inHistory id isUsed
    · rw [(uses execution inAdded).2.2 id isUsed]
      exact inHand.given
  · refine List.pairwise_append.mpr ⟨accounted.complete, ?_, ?_⟩
    · match added, single with
      | [], _ => exact .nil
      | [execution], _ => exact List.pairwise_singleton _ _
    · intro first inHistory second inAdded id inFirst inSecond
      rw [(uses second inAdded).2.2 id inSecond] at inFirst
      obtain ⟨sameFence, _, done⟩ := inHand.complete first inHistory inFirst
      rw [sameFence]
      exact done

/-- However a submission turns command memory over, the books stay in order. -/
theorem Accounted.turn {final : NativeDevice} {executed : List Execution}
    (accounted : Accounted device (front ++ queue :: back) history)
    (turns : queue.Turns device after final executed) (advances : device.Advances final)
    (fence : after.fence = queue.fence) (grows : queue.lastSubmitted ≤ after.lastSubmitted) :
    Accounted final (front ++ after :: back) (history ++ executed) := by
  cases turns with
  | unused pool resets =>
    rw [List.append_nil]
    exact (accounted.shrink pool.suffix fence grows).advances advances
  | @returned events _ _ _ _ _ acquires stateAdvances resets pool =>
    have inHand := (accounted.advances (device.advances_logged events)).acquire acquires
    exact (inHand.advances stateAdvances).pool acquires pool fence (Nat.le_refl _) grows
      (Nat.zero_le _) nofun
  | @executed events _ _ _ _ _ _ acquires stateAdvances resets pool next uses =>
    have inHand := (accounted.advances (device.advances_logged events)).acquire acquires
    refine (inHand.advances stateAdvances).pool acquires pool fence (Nat.le_succ _)
      (Nat.le_of_eq next.symm) (Nat.le_refl _) ?_
    intro execution member
    cases List.mem_singleton.mp member
    exact ⟨rfl, Nat.le_refl _, uses⟩

end Replacing

namespace Session

/-- A queue that is made has an empty pool. -/
theorem queues_createQueue (session : Session) (native type : QueueType) :
    ∃ made : List Queue, (∀ queue ∈ made, queue.allocators = []) ∧
      (session.createQueue native type).queues = session.queues ++ made := by
  rw [createQueue]
  dsimp only
  rw [Device.createQueue]
  dsimp only
  cases (session.device.native.createQueue native).2.createFence 0 with
  | mk answer final =>
    cases answer with
    | error cause => exact ⟨[], List.forall_mem_nil _, (List.append_nil _).symm⟩
    | ok fence => exact ⟨_, List.forall_mem_singleton.mpr rfl, rfl⟩

/-- Queues with empty pools answer for everything. -/
theorem accounted_append {device : NativeDevice} {queues made : List Queue}
    {history : List Execution} (accounted : Accounted device queues history)
    (empty : ∀ queue ∈ made, queue.allocators = []) :
    Accounted device (queues ++ made) history := by
  have sameIds : pooledIds (queues ++ made) = pooledIds queues := by
    have none : pooledIds made = [] := List.flatMap_eq_nil_iff.mpr fun queue member => by
      rw [Queue.pooledIds, empty queue member, List.map_nil]
    rw [pooledIds, List.flatMap_append]
    exact (congrArg _ none).trans (List.append_nil _)
  refine ⟨?_, sameIds ▸ accounted.apart, sameIds ▸ accounted.pooledGiven,
    accounted.executedGiven, accounted.complete⟩
  intro queue member
  rcases List.mem_append.mp member with old | new
  · exact accounted.vouches queue old
  · intro pooled inPool
    rw [empty queue new] at inPool
    cases inPool

/-- The queues of a session keep the books through every action. -/
theorem accounted_perform {session : Session} {history : List Execution}
    (accounted : Accounted session.device.native session.queues history) (action : Action) :
    Accounted (session.perform action).device.native (session.perform action).queues
      (history ++ session.executions action) := by
  have advances := (session.evolves_perform action).native
  cases action with
  | submit index buffers dependencies =>
    cases found : session.queues[index]? with
    | none =>
      have idle : session.submit index buffers dependencies = session := by
        rw [submit, found]
      rw [perform, idle, executions, found, List.append_nil]
      exact accounted
    | some queue =>
      obtain ⟨inRange, isQueue⟩ := List.getElem?_eq_some_iff.mp found
      have submits := queue.submits session.device buffers dependencies
      obtain ⟨fence, grows⟩ := submits.numbers
      have performed : session.submit index buffers dependencies =
          ⟨(queue.submit session.device buffers dependencies).2.2,
            session.queues.set index (queue.submit session.device buffers dependencies).2.1⟩ := by
        rw [submit, found]
      obtain ⟨front, back, before, _, replaced⟩ : ∃ front back,
          session.queues = front ++ session.queues[index] :: back ∧ front.length = index ∧
            session.queues.set index (queue.submit session.device buffers dependencies).2.1 =
              front ++ (queue.submit session.device buffers dependencies).2.1 :: back :=
        List.exists_of_set inRange
      rw [isQueue] at before
      rw [before] at accounted
      rw [perform, performed, executions, found]
      dsimp only
      rw [replaced]
      exact accounted.turn submits.turns submits.advances fence grows
  | createQueue native type =>
    obtain ⟨made, empty, more⟩ := session.queues_createQueue native type
    change Accounted _ _ (history ++ [])
    rw [List.append_nil, perform, more]
    exact accounted_append (accounted.advances advances) empty
  | _ =>
    change Accounted _ _ (history ++ [])
    rw [List.append_nil]
    exact accounted.advances advances

/-- The queues of a session keep the books through actions in a row. -/
theorem accounted_after {session : Session} {history : List Execution}
    (accounted : Accounted session.device.native session.queues history)
    (actions : List Action) :
    Accounted (session.after actions).device.native (session.after actions).queues
      (history ++ session.history actions) := by
  induction actions generalizing session history with
  | nil =>
    rw [Session.history, List.append_nil]
    exact accounted
  | cons action later inductionHypothesis =>
    rw [Session.history, ← List.append_assoc]
    exact inductionHypothesis (accounted_perform accounted action)

end Session

/-! ## No recycling in flight -/

namespace Queue

/-- What a submission takes out of the pool: nothing, or the front, which goes back recycled, or
the front, which a lost device refuses to recycle. -/
inductive Takes (queue : Queue) (device : NativeDevice) (after : Queue) (final : NativeDevice) :
    Option PooledAllocator → Prop
  | nothing {new : List PooledAllocator} (pool : after.allocators = queue.allocators ++ new)
      (resets : final.allocatorResets = device.allocatorResets) :
      Takes queue device after final none
  | recycled {front : PooledAllocator} {later : List PooledAllocator} {value : Nat}
      (pooled : queue.allocators = front :: later)
      (pool : after.allocators =
        later ++ [⟨value, { front.allocator with resets := front.allocator.resets + 1 }⟩])
      (resets : final.allocatorResets = device.allocatorResets + 1) :
      Takes queue device after final (some front)
  | refused {front : PooledAllocator} {later : List PooledAllocator}
      (pooled : queue.allocators = front :: later) (pool : after.allocators = later)
      (resets : final.allocatorResets = device.allocatorResets) :
      Takes queue device after final (some front)

/-- A reset that the device counts is that of the front of the pool. -/
theorem Takes.eq_head? {queue after : Queue} {device final : NativeDevice}
    {taken : Option PooledAllocator} (takes : queue.Takes device after final taken)
    (counted : final.allocatorResets ≠ device.allocatorResets) :
    taken = queue.allocators.head? := by
  cases takes with
  | nothing pool resets => exact absurd resets counted
  | recycled pooled pool resets => rw [pooled, List.head?_cons]
  | refused pooled pool resets => exact absurd resets counted

/-- An allocator that is put back behind what is left of the pool was the front of it, or it is
new. -/
theorem Acquires.takes {queue acquired after : Queue} {device state final : NativeDevice}
    {events : List QueueEvent} {allocator : CommandAllocator} {value : Nat}
    (acquires : queue.Acquires (device.logged events) allocator acquired state)
    (resets : final.allocatorResets = state.allocatorResets)
    (pool : after.allocators = acquired.allocators ++ [⟨value, allocator⟩]) :
    ∃ taken, queue.Takes device after final taken ∧ ∀ front ∈ taken,
      front ∈ queue.allocators ∧ front.value ≤ device.completedValue queue.fence := by
  cases acquires with
  | recycled pooled complete =>
    refine ⟨_, .recycled pooled pool resets, ?_⟩
    rintro _ ⟨⟩
    exact ⟨pooled ▸ List.mem_cons_self, complete⟩
  | created busy => exact ⟨none, .nothing pool resets, nofun⟩

/-- Only an allocator whose value is complete is taken out of the pool. -/
theorem Turns.takes {queue after : Queue} {device final : NativeDevice}
    {executed : List Execution} (turns : queue.Turns device after final executed) :
    ∃ taken, queue.Takes device after final taken ∧ ∀ front ∈ taken,
      front ∈ queue.allocators ∧ front.value ≤ device.completedValue queue.fence := by
  cases turns with
  | unused forfeits resets =>
    generalize left : after.allocators = pool at forfeits
    cases forfeits with
    | nothing => exact ⟨none, .nothing (left.trans (List.append_nil _).symm) resets, nofun⟩
    | front pooled complete =>
      refine ⟨_, .refused pooled left resets, ?_⟩
      rintro _ ⟨⟩
      exact ⟨pooled ▸ List.mem_cons_self, complete⟩
  | returned acquires advances resets pool => exact acquires.takes resets pool
  | executed acquires advances resets pool next uses => exact acquires.takes resets pool

end Queue

/-- Command memory is not recycled in flight. After anything that happened in a session, a
submission to one of its queues takes an allocator out of the pool only when all executions whose
lists were recorded with that allocator are executions of the same queue and complete; and as long
as an execution is not complete, no later one on any queue has an allocator in common with it. -/
theorem no_recycling_in_flight (device : Device) (actions : List Action) :
    let session := (Session.start device).after actions
    let history := (Session.start device).history actions
    (∀ (index : Nat) (queue : Queue) (buffers : List CommandBuffer) (dependencies : List Token),
      session.queues[index]? = some queue →
      let result := queue.submit session.device buffers dependencies
      ∃ taken, queue.Takes session.device.native result.2.1 result.2.2.native taken ∧
        ∀ front ∈ taken, ∀ execution ∈ history, front.allocator.id ∈ execution.allocators →
          execution.fence = queue.fence ∧
            execution.value ≤ session.device.native.completedValue queue.fence) ∧
    history.Pairwise fun first second =>
      session.device.native.completedValue first.fence < first.value →
        first.allocators.Disjoint second.allocators := by
  intro session history
  have accounted : Accounted session.device.native session.queues ([] ++ history) :=
    Session.accounted_after (accounted_nil device.native) actions
  rw [List.nil_append] at accounted
  constructor
  · intro index queue buffers dependencies found result
    obtain ⟨taken, takes, allowed⟩ :=
      (queue.submits session.device buffers dependencies).turns.takes
    refine ⟨taken, takes, fun front isTaken execution member uses => ?_⟩
    obtain ⟨inPool, complete⟩ := allowed front isTaken
    have vouches := accounted.vouches queue (List.mem_of_getElem? found)
    obtain ⟨fence, atMost⟩ := (vouches front inPool).2 execution member uses
    exact ⟨fence, Nat.le_trans atMost complete⟩
  · refine accounted.complete.imp fun done pending id inFirst inSecond => ?_
    exact Nat.not_le_of_lt pending (done id inFirst inSecond)

/-- Actions that leave two allocators behind: that of a submission whose signal failed, which the
next submission does not touch, and that of the next submission. The signal of the second completes
both. -/
def Action.sample (buffer : CommandBuffer) : List Action :=
  [.createQueue .graphics .graphics, .setAutoComplete false, .armSignalFailure,
    .submit 0 [buffer] [], .submit 0 [buffer] [], .completeAll]

/-- The memory of a submission whose signal failed is recycled once a later signal covers it. -/
theorem no_recycling_in_flight_small :
    let buffer := CommandBuffer.ofCalls [.resourceBarriers [] [.global]]
    let session := (Session.start .small).after (Action.sample buffer)
    let history := (Session.start .small).history (Action.sample buffer)
    let queue : Queue := ⟨.graphics, ⟨3, .graphics⟩, 4, 2,
      [⟨1, 5, .graphics, 0⟩, ⟨2, 7, .graphics, 0⟩], session.queues.flatMap Queue.lists, false⟩
    let result := queue.submit session.device [buffer] []
    session.queues[0]? = some queue ∧ history = [⟨4, 1, [5]⟩, ⟨4, 2, [7]⟩] ∧
      queue.Takes session.device.native result.2.1 result.2.2.native
        (some ⟨1, 5, .graphics, 0⟩) ∧
      1 ≤ session.device.native.completedValue 4 := by
  intro buffer session history queue result
  have found : session.queues[0]? = some queue := by decide +kernel
  have executed : history = [⟨4, 1, [5]⟩, ⟨4, 2, [7]⟩] := by decide +kernel
  have counted : result.2.2.native.allocatorResets ≠ session.device.native.allocatorResets := by
    decide +kernel
  have safe := (no_recycling_in_flight .small (Action.sample buffer)).1 0 queue [buffer] [] found
  -- the facts above are compared as terms from here on, not by running the session again
  subst result history session
  obtain ⟨taken, takes, complete⟩ := safe
  have isFront : taken = some ⟨1, 5, .graphics, 0⟩ := takes.eq_head? counted
  rw [isFront] at takes
  refine ⟨found, executed, takes, ?_⟩
  refine (complete _ isFront ⟨4, 1, [5]⟩ ?_ List.mem_cons_self).2
  rw [executed]
  exact List.mem_cons_self

end CommandStream
