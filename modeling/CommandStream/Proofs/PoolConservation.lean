import CommandStream.Proofs.DeviceLoss
import CommandStream.Proofs.FenceOrder
/-!
# Conservation in the pools of a queue

What a queue asked of its device it still has, or it was given up for a reason. Every allocator that
was created for a queue is in its pool between submissions, in the order of the values that they
wait for, so the front is the first to be complete and a new one is created only when none is.
Every list that was created is in the pool of lists, except for one for each replay that failed.
Both hold on a device that works; a lost device makes a queue give up an allocator.
-/

namespace CommandStream

/-- Whether an answer tells of a replay that failed. -/
def abandons {α : Type} : Except SubmitError α → Bool
  | .error (.replay _) => true
  | _ => false

/-- Whether a replay failed does not depend on what would have been answered otherwise. -/
theorem abandons_error {α : Type} (β : Type) (error : SubmitError) :
    abandons (.error error : Except SubmitError α) =
      abandons (.error error : Except SubmitError β) := by
  cases error <;> rfl

/-! ## Lists -/

/-- The lists that a queue holds grow by those created for it, less one if a replay failed. -/
structure ListBalance (created held stillCreated stillHeld : Nat) (abandoned : Bool) : Prop where
  creates : created ≤ stillCreated
  balance : stillCreated + held = created + stillHeld + abandoned.toNat

theorem ListBalance.refl (created held : Nat) : ListBalance created held created held false :=
  ⟨Nat.le_refl _, rfl⟩

/-- Until the first replay that fails none of the lists is given up. -/
theorem ListBalance.trans {created held between heldBetween last heldLast : Nat} {abandoned : Bool}
    (front : ListBalance created held between heldBetween false)
    (back : ListBalance between heldBetween last heldLast abandoned) :
    ListBalance created held last heldLast abandoned := by
  refine ⟨Nat.le_trans front.creates back.creates, ?_⟩
  have balanceFront := front.balance
  have balanceBack := back.balance
  rw [Bool.toNat_false] at balanceFront
  omega

namespace Queue

namespace Recording

variable {allocator : CommandAllocator}

/-- The lists that a recording can still dispose of: those in the pool and those recorded. -/
def held (recording : Recording) : Nat :=
  recording.queue.lists.length + recording.recorded.length

/-- A buffer is recorded on a list that is held or created. -/
theorem Adds.balances {recording after : Recording} {resources : Resources}
    {buffer : CommandBuffer} {answer : Except SubmitError Unit}
    (adds : recording.Adds resources allocator buffer answer after) :
    ListBalance recording.device.listsCreated recording.held after.device.listsCreated after.held
      (abandons answer) := by
  cases adds with
  | unbound => exact .refl _ _
  | abandoned _ _ taken =>
    refine ⟨Nat.le_add_right _ _, ?_⟩
    simp only [held, withLists, NativeDevice.grown, abandons, Bool.toNat_true]
    omega
  | recorded _ _ taken =>
    refine ⟨Nat.le_add_right _ _, ?_⟩
    simp only [held, withLists, NativeDevice.grown, abandons, Bool.toNat_false,
      List.length_append, List.length_singleton]
    omega

/-- So are buffers in a row, up to the first that fails. -/
theorem Stocked.balances {recording : Recording} (stocked : recording.Stocked allocator)
    (present : recording.device.lost = false) (resources : Resources)
    (buffers : List CommandBuffer) :
    ListBalance recording.device.listsCreated recording.held
      (recording.addAll resources allocator buffers).2.device.listsCreated
      (recording.addAll resources allocator buffers).2.held
      (abandons (recording.addAll resources allocator buffers).1) := by
  induction buffers generalizing recording with
  | nil => exact .refl _ _
  | cons buffer later inductionHypothesis =>
    have first := (stocked.adds present resources buffer).balances
    have stillStocked := (stocked.add present resources buffer).1
    have frame := (add_of_present present resources allocator buffer).1
    rw [Recording.addAll]
    split
    · rename_i failed
      rw [failed] at first
      exact first
    · rename_i middle added
      rw [added] at first stillStocked frame
      exact first.trans (inductionHypothesis stillStocked (frame.lost_eq.trans present))

end Recording

/-- Acquiring an allocator leaves the lists. -/
theorem Acquires.lists_eq {queue acquired : Queue} {device state : NativeDevice}
    {allocator : CommandAllocator} (acquires : queue.Acquires device allocator acquired state) :
    acquired.lists = queue.lists ∧ state.listsCreated = device.listsCreated := by
  cases acquires <;> exact ⟨rfl, rfl⟩

/-- So does a signal. -/
theorem Signals.lists_eq {queue after : Queue} {device final : NativeDevice}
    {used : Option CommandAllocator} {answer : Except SubmitError Token}
    (signals : queue.Signals device used answer after final) :
    after.lists = queue.lists ∧ final.listsCreated = device.listsCreated := by
  constructor
  · rw [signals.after_eq]
    cases used <;> rfl
  · cases signals with
    | signaled =>
      unfold NativeDevice.signaled
      dsimp only
      split <;> rfl
    | failed => rfl

/-- A signal takes and makes no list, and no replay fails with it. -/
theorem Signals.balance {queue after : Queue} {device final : NativeDevice}
    {used : Option CommandAllocator} {answer : Except SubmitError Token}
    (signals : queue.Signals device used answer after final) :
    ListBalance device.listsCreated queue.lists.length final.listsCreated after.lists.length
      (abandons answer) := by
  obtain ⟨sameLists, sameCount⟩ := signals.lists_eq
  rw [sameLists, sameCount]
  cases signals <;> exact .refl _ _

/-- Lists that were recorded are in the pool again, whether or not they are executed. -/
theorem Stocked.balance_executeBuffers {queue : Queue} (stocked : queue.Stocked)
    {device : NativeDevice} (present : device.lost = false) (resources : Resources)
    (work : List CommandBuffer) :
    ListBalance device.listsCreated queue.lists.length
      (queue.executeBuffers device resources work).2.2.listsCreated
      (queue.executeBuffers device resources work).2.1.lists.length
      (abandons (queue.executeBuffers device resources work).1) := by
  obtain ⟨allocator, acquired, state, isAcquired, acquires⟩ :=
    queue.acquireAllocator_of_present present
  have statePresent : state.lost = false := acquires.lost_eq.trans present
  obtain ⟨sameLists, sameCount⟩ := acquires.lists_eq
  have balances := (stocked.recording acquires).balances statePresent resources work
  have frame := (Recording.addAll_of_present ⟨acquired, state, .fresh, []⟩ statePresent resources
    allocator work).1
  rw [Queue.executeBuffers, isAcquired]
  dsimp only
  rcases added : Recording.addAll ⟨acquired, state, .fresh, []⟩ resources allocator work with
    ⟨answer, recording⟩
  rw [added] at balances frame
  have heldFirst : Recording.held ⟨acquired, state, .fresh, []⟩ = queue.lists.length :=
    congrArg List.length sameLists
  have heldLast : (recording.queue.poolLists recording.recorded).lists.length =
      recording.held := by
    simp only [Queue.poolLists, Recording.held, List.length_append, List.length_reverse]
    exact Nat.add_comm _ _
  have counted : ListBalance device.listsCreated queue.lists.length recording.device.listsCreated
      recording.held (abandons answer) := by
    rw [← sameCount, ← heldFirst]
    exact balances
  rw [← heldLast] at counted
  cases answer with
  | error error =>
    rw [abandons_error CommandAllocator] at counted
    exact counted
  | ok nothing =>
    have grownPresent : recording.device.lost = false := frame.lost_eq.trans statePresent
    dsimp only
    rcases execute_of_present grownPresent (recording.queue.poolLists recording.recorded).native
      recording.recorded with refused | executed
    · rw [refused]
      exact counted
    · rw [executed]
      exact counted

/-- Work that is submitted leaves its lists in the pool, or gave one up. -/
theorem Stocked.balance_submitWork {queue : Queue} (stocked : queue.Stocked)
    (device : NativeDevice) (resources : Resources) {work : List CommandBuffer}
    {waits : List Token} (pending : work ≠ [] ∨ waits ≠ []) :
    ListBalance device.listsCreated queue.lists.length
      (queue.submitWork device resources work waits).2.2.listsCreated
      (queue.submitWork device resources work waits).2.1.lists.length
      (abandons (queue.submitWork device resources work waits).1) := by
  cases gone : device.lost with
  | true =>
    have works : queue.Works device resources work waits
        (queue.submitWork device resources work waits).1
        (queue.submitWork device resources work waits).2.1
        (queue.submitWork device resources work waits).2.2 := works_of_submitWork resources pending
    generalize queue.submitWork device resources work waits = result at works ⊢
    obtain ⟨answer, after, final⟩ := result
    cases works with
    | lost => exact .refl _ _
    | waited present => cases gone.symm.trans present
    | failed present => cases gone.symm.trans present
    | delivered present => cases gone.symm.trans present
  | false =>
    have present : (device.logged (waits.map Token.waiting)).lost = false := gone
    by_cases noWork : work = []
    · rw [submitWork_of_noWork gone noWork]
      exact (signals_of_signalNext present none).balance
    · have balance := stocked.balance_executeBuffers present resources work
      have delivers := queue.delivers_of_executeBuffers present resources work
      rcases executed : queue.executeBuffers (device.logged (waits.map Token.waiting)) resources
        work with ⟨answer, between, state⟩
      rw [executed] at balance delivers
      cases answer with
      | error error =>
        rw [submitWork_of_error gone noWork executed]
        rw [abandons_error Token] at balance
        exact balance
      | ok allocator =>
        rw [submitWork_of_ok gone noWork executed]
        exact balance.trans (signals_of_signalNext (delivers.present present) _).balance

end Queue

/-- A submission leaves its lists in the pool of its queue, or gave one up because a replay
failed. -/
theorem Submission.balance {submission : Submission} (stocked : submission.queue.Stocked) :
    ListBalance submission.device.native.listsCreated submission.queue.lists.length
      submission.final.native.listsCreated submission.after.lists.length
      (abandons submission.answer) := by
  rw [Submission.answer, Submission.after, Submission.final]
  rcases result : submission.queue.submit submission.device submission.buffers
    submission.dependencies with ⟨answer, after, final⟩
  cases Queue.submits_of_submit result with
  | idle => exact .refl _ _
  | closed => exact .refl _ _
  | works usable pending =>
    rw [Queue.submit_of_pending usable pending] at result
    cases result
    exact stocked.balance_submitWork submission.device.native submission.device.resources pending

/-! ## Allocators -/

namespace Queue

/-- A signal creates and resets no allocator. -/
theorem Signals.counters_eq {queue after : Queue} {device final : NativeDevice}
    {used : Option CommandAllocator} {answer : Except SubmitError Token}
    (signals : queue.Signals device used answer after final) :
    final.allocatorsCreated = device.allocatorsCreated ∧
      final.allocatorResets = device.allocatorResets := by
  refine ⟨?_, signals.allocatorResets_eq⟩
  cases signals with
  | signaled =>
    unfold NativeDevice.signaled
    dsimp only
    split <;> rfl
  | failed => rfl

theorem Acquires.queue_lost_eq {queue acquired : Queue} {device state : NativeDevice}
    {allocator : CommandAllocator} (acquires : queue.Acquires device allocator acquired state) :
    acquired.lost = queue.lost := by
  cases acquires <;> rfl

/-- On a working device a queue sees no loss, neither where it executes buffers -/
theorem Delivers.queue_lost_eq {queue after : Queue} {device final : NativeDevice}
    {resources : Resources} {work : List CommandBuffer}
    {answer : Except SubmitError CommandAllocator}
    (delivers : queue.Delivers device resources work answer after final) :
    after.lost = queue.lost := by
  cases delivers with
  | unrecorded acquires => exact acquires.queue_lost_eq
  | refused acquires => exact acquires.queue_lost_eq
  | executed acquires => exact acquires.queue_lost_eq

/-- nor where it signals. -/
theorem Signals.queue_lost_eq {queue after : Queue} {device final : NativeDevice}
    {used : Option CommandAllocator} {answer : Except SubmitError Token}
    (signals : queue.Signals device used answer after final) : after.lost = queue.lost := by
  rw [signals.after_eq]
  cases used <;> rfl

end Queue

/-- The lists that a submission executes, if it comes to that, are recorded on an allocator. -/
def Submission.RecordsOn (submission : Submission) (allocator : ObjectId) : Prop :=
  ∀ lists, .execute lists ∈ submission.events →
    List.Forall₂ (Queue.Recording.Records submission.device.resources allocator)
      (Queue.work submission.buffers) lists

/-- What a submission does with the pool of allocators. -/
inductive Submission.Allots (submission : Submission) : Prop
  /-- There is nothing to record, and the pool is left alone. -/
  | unused (noWork : Queue.work submission.buffers = [])
      (pool : submission.after.allocators = submission.queue.allocators)
      (created : submission.final.native.allocatorsCreated =
        submission.device.native.allocatorsCreated)
      (resets : submission.final.native.allocatorResets =
        submission.device.native.allocatorResets)
  /-- The value of the front is complete. The front is reset, serves the submission and goes to the
  end of the pool. -/
  | reused {front : PooledAllocator} {later : List PooledAllocator} {value : Nat}
      (someWork : Queue.work submission.buffers ≠ [])
      (pooled : submission.queue.allocators = front :: later)
      (complete : front.value ≤
        submission.device.native.completedValue submission.queue.fence)
      (behind : submission.queue.lastSubmitted ≤ value)
      (ahead : value ≤ submission.after.lastSubmitted)
      (pool : submission.after.allocators =
        later ++ [⟨value, { front.allocator with resets := front.allocator.resets + 1 }⟩])
      (created : submission.final.native.allocatorsCreated =
        submission.device.native.allocatorsCreated)
      (resets : submission.final.native.allocatorResets =
        submission.device.native.allocatorResets + 1)
      (serves : submission.RecordsOn front.allocator.id)
  /-- No value in the pool is complete. A new allocator serves the submission and goes to the end of
  the pool. -/
  | created {id : ObjectId} {value : Nat} (someWork : Queue.work submission.buffers ≠ [])
      (busy : ∀ pooled ∈ submission.queue.allocators,
        submission.device.native.completedValue submission.queue.fence < pooled.value)
      (behind : submission.queue.lastSubmitted ≤ value)
      (ahead : value ≤ submission.after.lastSubmitted)
      (pool : submission.after.allocators =
        submission.queue.allocators ++ [⟨value, ⟨id, submission.queue.type, 0⟩⟩])
      (created : submission.final.native.allocatorsCreated =
        submission.device.native.allocatorsCreated + 1)
      (resets : submission.final.native.allocatorResets =
        submission.device.native.allocatorResets)
      (serves : submission.RecordsOn id)

/-- The values in the pool of a queue are in order, and none is above the last. -/
structure Queue.Ordered (queue : Queue) : Prop where
  ordered : queue.allocators.Pairwise fun first second => first.value ≤ second.value
  atMost : ∀ pooled ∈ queue.allocators, pooled.value ≤ queue.lastSubmitted

/-- Where the front of the pool waits for a value, so do all others. -/
theorem Queue.Ordered.lt_of_head? {queue : Queue} (ordered : queue.Ordered) {value : Nat}
    (front : ∀ pooled ∈ queue.allocators.head?, value < pooled.value) :
    ∀ pooled ∈ queue.allocators, value < pooled.value := by
  have inOrder := ordered.ordered
  cases pool : queue.allocators with
  | nil => exact nofun
  | cons first later =>
    rw [pool] at front inOrder
    have isFirst := front first rfl
    obtain ⟨behind, _⟩ := List.pairwise_cons.mp inOrder
    exact List.forall_mem_cons.mpr
      ⟨isFirst, fun pooled member => Nat.lt_of_lt_of_le isFirst (behind pooled member)⟩

namespace Submission

variable {submission : Submission}

/-- A submission that fails at its buffers executes nothing. -/
theorem recordsOn_of_error {after : Queue} {resources : Resources} {work : List CommandBuffer}
    {error : SubmitError}
    (delivers : submission.queue.Delivers
      (submission.device.native.logged (submission.waits.map Token.waiting)) resources work
      (.error error) after submission.final.native) (allocator : ObjectId) :
    submission.RecordsOn allocator := by
  intro lists member
  rw [events_eq delivers.log_of_error] at member
  exact absurd member (Token.execute_notMem_waiting _ _)

/-- A submission that comes to its signal executes what was recorded on its allocator. -/
theorem recordsOn_of_signals {between after : Queue} {state : NativeDevice}
    {answer : Except SubmitError Token} {allocator : CommandAllocator}
    (delivers : submission.queue.Delivers
      (submission.device.native.logged (submission.waits.map Token.waiting))
      submission.device.resources (Queue.work submission.buffers) (.ok allocator) between state)
    (signals : between.Signals state (some allocator) answer after submission.final.native) :
    submission.RecordsOn allocator.id := by
  intro lists member
  cases delivers with
  | @executed _ acquired before _ created recorded acquires records =>
    have log : ((before.grown created).logged [.execute recorded]).log =
        submission.device.native.log ++
          (submission.waits.map Token.waiting ++ [.execute recorded]) := by
      rw [← List.append_assoc]
      exact congrArg (· ++ _) acquires.log_eq
    have waiting := Token.execute_notMem_waiting submission.waits lists
    have isRecorded : .execute lists ∈ submission.waits.map Token.waiting ++ [.execute recorded] →
        lists = recorded := fun found =>
      QueueEvent.execute.inj
        (List.mem_singleton.mp ((List.mem_append.mp found).resolve_left waiting))
    suffices same : lists = recorded from same ▸ records
    cases armed : ((before.grown created).logged [.execute recorded]).failNextSignal with
    | true =>
      rw [events_eq ((signals.of_armed armed).2.trans log)] at member
      exact isRecorded member
    | false =>
      have signaled := (signals.of_unarmed armed).2
      rw [log, List.append_assoc] at signaled
      rw [events_eq signaled] at member
      rcases List.mem_append.mp member with executed | signal
      · exact isRecorded executed
      · cases List.mem_singleton.mp signal

/-- An allocator that is acquired goes to the end of the pool. -/
theorem allots_of_acquires (ordered : submission.queue.Ordered)
    (someWork : Queue.work submission.buffers ≠ []) {events : List QueueEvent}
    {allocator : CommandAllocator} {acquired : Queue} {state : NativeDevice} {value : Nat}
    (acquires : submission.queue.Acquires (submission.device.native.logged events) allocator
      acquired state)
    (behind : submission.queue.lastSubmitted ≤ value)
    (ahead : value ≤ submission.after.lastSubmitted)
    (pool : submission.after.allocators = acquired.allocators ++ [⟨value, allocator⟩])
    (created : submission.final.native.allocatorsCreated = state.allocatorsCreated)
    (resets : submission.final.native.allocatorResets = state.allocatorResets)
    (serves : submission.RecordsOn allocator.id) : submission.Allots := by
  cases acquires with
  | recycled pooled complete =>
    exact .reused someWork pooled complete behind ahead pool created resets serves
  | created busy =>
    exact .created someWork (ordered.lt_of_head? busy) behind ahead pool created resets serves

/-- On a working device a submission does with the pool one of the three. -/
theorem allots (ordered : submission.queue.Ordered) (usable : submission.queue.lost = false)
    (present : submission.device.native.lost = false) : submission.Allots := by
  have submits := submission.submits
  generalize isAnswer : submission.answer = answer at submits
  generalize isAfter : submission.after = after at submits
  generalize isFinal : submission.final = final at submits
  cases submits with
  | idle noWork =>
    exact .unused noWork (by rw [isAfter]) (by rw [isFinal]) (by rw [isFinal])
  | closed lost => cases usable.symm.trans lost
  | @works _ _ native _ pending works =>
    have isNative : submission.final.native = native := by rw [isFinal]
    cases works with
    | lost gone => cases present.symm.trans gone
    | waited _ noWork signals =>
      obtain ⟨created, resets⟩ := signals.counters_eq
      refine .unused noWork ?_ ?_ ?_
      · rw [isAfter, signals.after_eq]
        rfl
      · rw [isNative, created]
        rfl
      · rw [isNative, resets]
        rfl
    | failed _ someWork delivers =>
      have last := delivers.numbers.2
      rw [← isAfter] at last
      have atLeast := Nat.le_of_eq last.symm
      have serves := recordsOn_of_error (isNative ▸ delivers)
      cases delivers with
      | unrecorded acquires failed =>
        exact allots_of_acquires ordered someWork acquires (Nat.le_refl _) atLeast
          (by rw [isAfter]; rfl) (by rw [isNative]; rfl) (by rw [isNative]; rfl) (serves _)
      | refused acquires records =>
        exact allots_of_acquires ordered someWork acquires (Nat.le_refl _) atLeast
          (by rw [isAfter]; rfl) (by rw [isNative]; rfl) (by rw [isNative]; rfl) (serves _)
    | @delivered allocator _ _ _ _ _ _ someWork delivers signals =>
      obtain ⟨created, resets⟩ := signals.counters_eq
      have last := signals.last_eq
      rw [← isAfter, delivers.numbers.2] at last
      have atLeast := Nat.le_of_eq last.symm
      have serves := recordsOn_of_signals delivers (isNative ▸ signals)
      cases delivers with
      | @executed _ acquired _ _ _ _ acquires records =>
        have pool : submission.after.allocators =
            acquired.allocators ++ [⟨submission.queue.lastSubmitted + 1, allocator⟩] := by
          rw [isAfter, signals.after_eq]
          change acquired.allocators ++ [⟨acquired.lastSubmitted + 1, allocator⟩] = _
          rw [acquires.lastSubmitted_eq]
        exact allots_of_acquires ordered someWork acquires (Nat.le_succ _) atLeast pool
          (by rw [isNative, created]; rfl) (by rw [isNative, resets]; rfl) serves

/-- The number of allocators that were created in a submission. -/
def allocatorsCreated (submission : Submission) : Nat :=
  submission.final.native.allocatorsCreated - submission.device.native.allocatorsCreated

/-- The number of lists that were created in a submission. -/
def listsCreated (submission : Submission) : Nat :=
  submission.final.native.listsCreated - submission.device.native.listsCreated

/-- The pool grows by the allocators created. -/
theorem Allots.length_eq (allots : submission.Allots) :
    submission.after.allocators.length =
      submission.queue.allocators.length + submission.allocatorsCreated := by
  cases allots with
  | unused _ pool created =>
    rw [pool, allocatorsCreated, created, Nat.sub_self, Nat.add_zero]
  | reused _ pooled _ _ _ pool created =>
    rw [pool, pooled, allocatorsCreated, created, Nat.sub_self, List.length_append]
    rfl
  | created _ _ _ _ pool created =>
    rw [pool, allocatorsCreated, created, Nat.add_sub_cancel_left, List.length_append,
      List.length_singleton]

/-- An allocator that goes back waits for no less than those in the pool. -/
theorem Allots.ordered (allots : submission.Allots) (ordered : submission.queue.Ordered) :
    submission.after.Ordered := by
  have grows : submission.queue.lastSubmitted ≤ submission.after.lastSubmitted :=
    submission.submits.numbers.2
  -- A reused allocator and a created one go to the end alike, behind some of those in the pool.
  have back : ∀ (pool : List PooledAllocator) (value : Nat) (allocator : CommandAllocator),
      pool.Sublist submission.queue.allocators → submission.queue.lastSubmitted ≤ value →
      value ≤ submission.after.lastSubmitted →
      submission.after.allocators = pool ++ [⟨value, allocator⟩] → submission.after.Ordered := by
    intro pool value allocator kept behind ahead isPool
    constructor
    · rw [isPool]
      refine List.pairwise_append.mpr
        ⟨ordered.ordered.sublist kept, List.pairwise_singleton _ _, fun pooled member => ?_⟩
      rw [List.forall_mem_singleton]
      exact Nat.le_trans (ordered.atMost pooled (kept.subset member)) behind
    · rw [isPool, List.forall_mem_append, List.forall_mem_singleton]
      exact ⟨fun pooled member =>
        Nat.le_trans (ordered.atMost pooled (kept.subset member)) grows, ahead⟩
  cases allots with
  | unused _ pool =>
    refine ⟨pool ▸ ordered.ordered, fun pooled member => ?_⟩
    exact Nat.le_trans (ordered.atMost pooled (pool ▸ member)) grows
  | reused _ pooled _ behind ahead pool =>
    exact back _ _ _ (pooled ▸ List.sublist_cons_self _ _) behind ahead pool
  | created _ _ behind ahead pool => exact back _ _ _ (List.Sublist.refl _) behind ahead pool

/-- A queue that saw no loss sees none while the device works. -/
theorem usable_after (usable : submission.queue.lost = false)
    (present : submission.device.native.lost = false) : submission.after.lost = false := by
  have submits := submission.submits
  generalize submission.answer = answer at submits
  generalize submission.after = after at submits ⊢
  generalize submission.final = final at submits
  cases submits with
  | idle => exact usable
  | closed => exact usable
  | works _ _ works =>
    cases works with
    | lost gone => cases present.symm.trans gone
    | waited _ _ signals => exact signals.queue_lost_eq.trans usable
    | failed _ _ delivers => exact delivers.queue_lost_eq.trans usable
    | delivered _ _ delivers signals =>
      exact signals.queue_lost_eq.trans (delivers.queue_lost_eq.trans usable)

end Submission

/-! ## Books -/

/-- The allocators in the pool of a queue are all that were created for it, and the lists in its
pool all but those of replays that failed. -/
structure Queue.Accounts (queue : Queue) (history : List Submission) : Prop where
  allocators : queue.allocators.length =
    total ((queue.chronicle history).map Submission.allocatorsCreated)
  lists : total ((queue.chronicle history).map Submission.listsCreated) =
    queue.lists.length + (queue.chronicle history).countP fun submission =>
      abandons submission.answer

namespace Queue

variable {queue : Queue} {history : List Submission} {submission : Submission}

/-- What is submitted to another queue is not in the chronicle of a queue. -/
theorem chronicle_append_other (other : queue.fence ≠ submission.queue.fence) :
    queue.chronicle (history ++ [submission]) = queue.chronicle history := by
  rw [chronicle, List.filter_append,
    List.filter_cons_of_neg (fun same => other (of_decide_eq_true same).symm), List.filter_nil,
    List.append_nil]
  rfl

/-- What is submitted to a queue is in its chronicle from then on. -/
theorem chronicle_append_own :
    submission.after.chronicle (history ++ [submission]) =
      submission.queue.chronicle history ++ [submission] := by
  have own : [submission].filter (fun other => other.queue.fence = submission.queue.fence) =
      [submission] :=
    List.filter_cons_of_pos (decide_eq_true rfl)
  rw [chronicle, List.filter_append, submission.fence_after, own]
  rfl

/-- The books of a queue go on with each of its submissions. -/
theorem Accounts.submitted (accounts : submission.queue.Accounts history)
    (stocked : submission.queue.Stocked) (allots : submission.Allots) :
    submission.after.Accounts (history ++ [submission]) := by
  obtain ⟨creates, balance⟩ := submission.balance stocked
  have allocators := accounts.allocators
  have lists := accounts.lists
  constructor
  · rw [chronicle_append_own, List.map_append, total_append, allots.length_eq, allocators]
    rfl
  · rw [chronicle_append_own, List.map_append, total_append, List.countP_append, lists,
      List.map_singleton, total_cons, total_nil, List.countP_singleton, Submission.listsCreated]
    cases gaveUp : abandons submission.answer with
    | true =>
      rw [gaveUp, Bool.toNat_true] at balance
      rw [if_pos rfl]
      omega
    | false =>
      rw [gaveUp, Bool.toNat_false] at balance
      rw [if_neg Bool.false_ne_true]
      omega

end Queue

/-- Nothing was submitted under a fence whose identity was not given yet. -/
theorem InOrder.chronicle_eq_nil {session : Session} {history : List Submission}
    (inOrder : InOrder session history) {queue : Queue}
    (fresh : session.device.native.nextId ≤ queue.fence) : queue.chronicle history = [] := by
  refine List.filter_eq_nil_iff.mpr fun submission member same => ?_
  have before := inOrder.given submission member
  rw [of_decide_eq_true same] at before
  exact absurd before (Nat.not_lt.mpr fresh)

/-- A change that submits nothing to a queue leaves its chronicle. -/
theorem Queue.chronicle_append_untouched {queue : Queue} {history : List Submission}
    {submission? : Option Submission}
    (apart : ∀ submission ∈ submission?.toList, queue.fence ≠ submission.queue.fence) :
    queue.chronicle (history ++ submission?.toList) = queue.chronicle history := by
  cases submission? with
  | none => rw [Option.toList_none, List.append_nil]
  | some submission => exact chronicle_append_other (apart submission List.mem_cons_self)

/-- Where a queue comes from that a session has after a change. -/
inductive Session.Origin (session : Session) (submission? : Option Submission) (next : Session)
    (queue : Queue) : Prop
  /-- It was there before, and nothing is submitted to it. -/
  | untouched (old : queue ∈ session.queues)
      (apart : ∀ submission ∈ submission?.toList, queue.fence ≠ submission.queue.fence)
  /-- It is new. -/
  | new {native : NativeQueue} {type : QueueType} (nothing : submission? = none)
      (device : next.device.native = session.device.native.furnished)
      (isNew : queue = ⟨type, native, session.device.native.nextId + 1, 0, [], [], false⟩)
  /-- It is what a submission left. -/
  | submitted {submission : Submission} (made : submission? = some submission)
      (old : submission.queue ∈ session.queues) (device : submission.device = session.device)
      (final : next.device = submission.final) (isAfter : queue = submission.after)

/-- What is submitted in a change is submitted to a queue and the device of the session. -/
theorem Session.Changes.submitted_to {session next : Session} {submission? : Option Submission}
    (changes : session.Changes submission? next) :
    ∀ submission ∈ submission?.toList,
      submission.queue ∈ session.queues ∧ submission.device = session.device := by
  cases changes with
  | submitted device queues =>
    refine List.forall_mem_singleton.mpr ⟨?_, device⟩
    rw [queues]
    exact List.mem_append_cons_self
  | _ => exact List.forall_mem_nil _

/-- Every queue after a change comes from one of the three. -/
theorem InOrder.origin {session next : Session} {history : List Submission}
    {submission? : Option Submission} (inOrder : InOrder session history)
    (changes : session.Changes submission? next) {queue : Queue} (member : queue ∈ next.queues) :
    session.Origin submission? next queue := by
  cases changes with
  | quiet => exact .untouched member (List.forall_mem_nil _)
  | completed => exact .untouched member (List.forall_mem_nil _)
  | created =>
    obtain old | new := List.mem_append.mp member
    · exact .untouched old (List.forall_mem_nil _)
    · exact .new rfl rfl (List.mem_singleton.mp new)
  | submitted device queues =>
    obtain isAfter | ⟨old, other⟩ := inOrder.mem_queues queues member
    · exact .submitted rfl (queues ▸ List.mem_append_cons_self) device rfl isAfter
    · exact .untouched old (List.forall_mem_singleton.mpr other)

/-- The invariant of a session on a device that works. -/
structure Conserved (session : Session) (history : List Submission) : Prop where
  usable : ∀ queue ∈ session.queues, queue.lost = false
  stocked : ∀ queue ∈ session.queues, queue.Stocked
  ordered : ∀ queue ∈ session.queues, queue.Ordered
  accounts : ∀ queue ∈ session.queues, queue.Accounts history
  allots : ∀ submission ∈ history, submission.Allots

namespace Conserved

variable {session : Session} {history : List Submission}

/-- While the device works every change of a session keeps the books: a new queue has nothing in its
pools, and a submission moves allocators and lists of its own queue only. -/
theorem changes (conserved : Conserved session history) (inOrder : InOrder session history)
    (present : session.device.native.lost = false) {submission? : Option Submission}
    {next : Session} (changes : session.Changes submission? next) :
    Conserved next (history ++ submission?.toList) := by
  have allots : ∀ submission ∈ submission?.toList, submission.Allots := by
    intro submission made
    obtain ⟨old, device⟩ := changes.submitted_to submission made
    exact Submission.allots (conserved.ordered _ old) (conserved.usable _ old) (device ▸ present)
  constructor
  case usable =>
    intro queue member
    cases inOrder.origin changes member with
    | untouched old => exact conserved.usable queue old
    | new _ _ isNew => rw [isNew]
    | submitted _ old device _ isAfter =>
      rw [isAfter]
      exact Submission.usable_after (conserved.usable _ old) (device ▸ present)
  case stocked =>
    intro queue member
    cases inOrder.origin changes member with
    | untouched old => exact conserved.stocked queue old
    | new _ _ isNew =>
      rw [isNew]
      exact ⟨List.forall_mem_nil _, List.forall_mem_nil _⟩
    | submitted _ old _ _ isAfter =>
      rw [isAfter]
      exact (conserved.stocked _ old).submit _ _ _
  case ordered =>
    intro queue member
    cases inOrder.origin changes member with
    | untouched old => exact conserved.ordered queue old
    | new _ _ isNew =>
      rw [isNew]
      exact ⟨.nil, List.forall_mem_nil _⟩
    | submitted made old _ _ isAfter =>
      rw [isAfter]
      exact (allots _ (Option.mem_toList.mpr made)).ordered (conserved.ordered _ old)
  case accounts =>
    intro queue member
    cases inOrder.origin changes member with
    | untouched old apart =>
      obtain ⟨allocators, lists⟩ := conserved.accounts queue old
      rw [← Queue.chronicle_append_untouched apart] at allocators lists
      exact ⟨allocators, lists⟩
    | new nothing _ isNew =>
      have empty : queue.chronicle (history ++ submission?.toList) = [] := by
        rw [nothing, Option.toList_none, List.append_nil, isNew]
        exact inOrder.chronicle_eq_nil (Nat.le_succ session.device.native.nextId)
      constructor <;> rw [empty, isNew] <;> rfl
    | submitted made old _ _ isAfter =>
      have own := allots _ (Option.mem_toList.mpr made)
      rw [isAfter, made]
      exact (conserved.accounts _ old).submitted (conserved.stocked _ old) own
  case allots => exact List.forall_mem_append.mpr ⟨conserved.allots, allots⟩

/-- As long as the device works, the books are kept whatever is done with it and its queues. -/
theorem after {device : Device} (numbered : device.native.Numbered) (actions : List Action)
    (present : ((Session.start device).after actions).device.native.lost = false) :
    Conserved ((Session.start device).after actions)
      ((Session.start device).submissions actions) := by
  -- A device that works in the end worked all the time, for nothing brings back a lost one.
  let property : Session → List Submission → Prop := fun session history =>
    InOrder session history ∧ (session.device.native.lost = false → Conserved session history)
  have kept : ∀ session history submission? next, property session history →
      session.Changes submission? next → property next (history ++ submission?.toList) := by
    rintro session history submission? next ⟨inOrder, conserved⟩ changes
    refine ⟨inOrder.changes changes, fun stillPresent => ?_⟩
    have before := changes.present stillPresent
    exact (conserved before).changes inOrder before changes
  have start : property (Session.start device) [] :=
    ⟨InOrder.after numbered [], fun _ => ⟨List.forall_mem_nil _, List.forall_mem_nil _,
      List.forall_mem_nil _, List.forall_mem_nil _, List.forall_mem_nil _⟩⟩
  exact (Session.holds_after kept start actions).2 present

end Conserved

/-! ## Conservation -/

/-- An allocator that a queue acquires opens each list of its pool. -/
theorem Queue.Stocked.opens {queue acquired : Queue} {device state : NativeDevice}
    {allocator : CommandAllocator} (stocked : queue.Stocked)
    (isAcquired : queue.acquireAllocator device = (.ok allocator, acquired, state))
    {list : CommandList} (member : list ∈ queue.lists) (pipeline : Option ObjectId) :
    ∃ opened, list.reset allocator pipeline = .ok opened := by
  cases gone : device.lost with
  | true =>
    obtain ⟨_, _, refused⟩ := queue.acquireAllocator_of_lost gone
    cases isAcquired.symm.trans refused
  | false =>
    obtain ⟨_, _, _, found, acquires⟩ := queue.acquireAllocator_of_present gone
    cases isAcquired.symm.trans found
    have ready := stocked.lists list member
    rw [← (stocked.acquire acquires).2.1] at ready
    exact ⟨_, ready.reset pipeline⟩

/-- What the pools of a queue keep, given the submissions made in the session of the queue. -/
structure Queue.Conserves (queue : Queue) (history : List Submission) : Prop
    extends queue.Accounts history, queue.Ordered where
  /-- A list in the pool is closed and of the type of the queue, -/
  ready : ∀ list ∈ queue.lists, list.Ready queue.type
  /-- and so it can be opened on whatever allocator the queue acquires. -/
  opens : ∀ device allocator acquired state,
    queue.acquireAllocator device = (.ok allocator, acquired, state) →
      ∀ list ∈ queue.lists, ∀ pipeline, ∃ opened, list.reset allocator pipeline = .ok opened

/-- Pools are conserved. As long as the device works, whatever a program does with it, each queue
has in its pool all allocators that were created for it, in the order of the values that they wait
for; all lists that were created for it, but for those of replays that failed; and each submission
that records anything resets and reuses the front allocator, unless the device is still busy with
all of them. -/
theorem pools_conserved {device : Device} (numbered : device.native.Numbered)
    (actions : List Action)
    (present : ((Session.start device).after actions).device.native.lost = false) :
    let session := (Session.start device).after actions
    let history := (Session.start device).submissions actions
    (∀ queue ∈ session.queues, queue.Conserves history) ∧
      ∀ submission ∈ history, submission.Allots := by
  intro session history
  have conserved : Conserved session history := .after numbered actions present
  refine ⟨fun queue member => ?_, conserved.allots⟩
  have stocked := conserved.stocked queue member
  exact
    { toAccounts := conserved.accounts queue member
      toOrdered := conserved.ordered queue member
      ready := stocked.lists
      opens := fun _ _ _ _ isAcquired _ inPool pipeline =>
        stocked.opens isAcquired inPool pipeline }

/-- Four submissions to one queue. The first one is still pending when a replay fails in the second,
so there are two allocators; the signal of the third is made to fail, and another replay fails in
the fourth. -/
theorem pools_conserved_small :
    let buffer := CommandBuffer.ofCalls [.resourceBarriers [] [.global]]
    let broken := CommandBuffer.ofCalls [.endRenderPass]
    let actions : List Action :=
      [.createQueue .graphics .graphics, .setAutoComplete false, .submit 0 [buffer] [],
        .submit 0 [buffer, broken] [], .completeAll, .armSignalFailure,
        .submit 0 [buffer, buffer] [], .submit 0 [broken] []]
    let session := (Session.start .small).after actions
    let history := (Session.start .small).submissions actions
    Device.small.native.Numbered ∧ session.device.native.lost = false ∧
      session.queues.map Queue.allocators = [[⟨2, 5, .graphics, 1⟩, ⟨2, 7, .graphics, 1⟩]] ∧
      session.queues.map (fun queue => queue.lists.length) = [1] ∧
      history.map Submission.allocatorsCreated = [1, 1, 0, 0] ∧
      history.map Submission.listsCreated = [1, 1, 1, 0] ∧
      history.map (fun submission => abandons submission.answer) = [false, true, false, true] ∧
      (∀ queue ∈ session.queues, queue.Conserves history) ∧
        ∀ submission ∈ history, submission.Allots := by
  intro buffer broken actions session history
  have numbered : Device.small.native.Numbered := ⟨nofun, nofun⟩
  have present : session.device.native.lost = false := by decide +kernel
  refine ⟨numbered, present, by decide +kernel, by decide +kernel, by decide +kernel,
    by decide +kernel, by decide +kernel, ?_⟩
  exact pools_conserved numbered actions present

end CommandStream
