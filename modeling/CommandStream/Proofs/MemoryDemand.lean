import CommandStream.Proofs.IndependentBuffers
import CommandStream.Proofs.PoolConservation
import Mathlib.Data.List.Infix
/-!
# How many allocators a queue needs

A queue creates an allocator when the front of its pool waits for a value that is not complete.
The values in the pool are those of the latest submissions that took an allocator, the oldest first
(`Backs`), so the queue has created as many allocators as were ever waiting at once when one was
asked for, and that one. An allocator waits for its submission if that was executed. One whose
submission failed before it was executed goes to the end of the pool, under the value of the
submission before it: it is behind all that are in flight, and is not found again until they are
complete.
-/

namespace CommandStream

namespace Submission

/-- Whether a submission takes an allocator: it has something to record. -/
def takesMemory (submission : Submission) : Bool := !(Queue.work submission.buffers).isEmpty

/-- Whether the device executes lists of a submission. -/
def executes (submission : Submission) : Bool := !submission.executed.isEmpty

/-- Whether a submission takes an allocator and comes to nothing: it fails while it is recorded, or
the device refuses its lists. -/
def takesInVain (submission : Submission) : Bool :=
  submission.takesMemory && !submission.executes

variable {submission : Submission}

theorem takesMemory_iff : submission.takesMemory = true ↔ Queue.work submission.buffers ≠ [] := by
  simp [takesMemory]

/-- A submission that comes to nothing uses up no value. -/
theorem last_of_takesInVain (inVain : submission.takesInVain = true) :
    submission.after.lastSubmitted = submission.queue.lastSubmitted := by
  obtain ⟨takes, notExecuted⟩ := Bool.and_eq_true_iff.mp inVain
  have noLists : submission.executed = [] := by
    simpa [executes] using notExecuted
  have someLists : ∀ {lists}, submission.Records lists → lists ≠ [] := by
    rintro lists ⟨allocator, records⟩ rfl
    exact takesMemory_iff.mp takes (List.forall₂_nil_right_iff.mp records)
  cases submission.outcome with
  | idle _ last => exact last
  | stopped _ last => exact last
  | unsignaled _ _ records log =>
    rw [executed_of_log log, QueueEvent.flatMap_executing] at noLists
    exact absurd noLists (someLists records)
  | signaled _ _ records log =>
    rw [executed_of_log log, List.flatMap_append, QueueEvent.flatMap_executing] at noLists
    exact absurd (List.append_eq_nil_iff.mp noLists).1 (someLists records)

/-- On a working device the allocator that a submission took waits in the pool for the last value of
the queue. -/
theorem value_of_pool (takes : submission.takesMemory = true)
    (usable : submission.queue.lost = false) (present : submission.device.native.lost = false)
    {front : List PooledAllocator} {last : PooledAllocator}
    (pool : submission.after.allocators = front ++ [last]) :
    last.value = submission.after.lastSubmitted := by
  obtain ⟨before, allocator, pooled⟩ : ∃ before allocator, submission.after.allocators =
      before ++ [⟨submission.after.lastSubmitted, allocator⟩] := by
    have someWork := takesMemory_iff.mp takes
    have submits := submission.submits
    generalize submission.answer = answer at submits
    generalize submission.after = after at submits ⊢
    generalize submission.final = final at submits
    cases submits with
    | idle noWork => exact absurd noWork someWork
    | closed lost => cases usable.symm.trans lost
    | works _ _ works =>
      cases works with
      | lost gone => cases present.symm.trans gone
      | waited _ noWork => exact absurd noWork someWork
      | failed _ _ delivers =>
        rw [delivers.numbers.2]
        cases delivers with
        | unrecorded => exact ⟨_, _, rfl⟩
        | refused => exact ⟨_, _, rfl⟩
      | delivered _ _ delivers signals =>
        rw [signals.last_eq, signals.after_eq]
        exact ⟨_, _, rfl⟩
  have same := (List.append_inj' (pool.symm.trans pooled) rfl).2
  exact congrArg PooledAllocator.value (List.singleton_inj.mp same)

end Submission

/-! ## Demand -/

namespace Queue

variable {queue : Queue} {history : List Submission} {submission : Submission} {bound : Nat}

/-- The last values of a queue after submissions of a kind, in their order. -/
def valuesOf (queue : Queue) (kind : Submission → Bool) (history : List Submission) : List Nat :=
  ((queue.chronicle history).filter kind).map fun submission => submission.after.lastSubmitted

/-- The number of submissions of a kind whose value is not complete. -/
def pending (queue : Queue) (device : NativeDevice) (kind : Submission → Bool)
    (history : List Submission) : Nat :=
  (queue.valuesOf kind history).countP fun value => device.completedValue queue.fence < value

/-- Whenever an allocator is asked for, fewer than so many are waiting for their values. -/
def DemandsBelow (queue : Queue) (history : List Submission) (bound : Nat) : Prop :=
  ∀ front submission back, history = front ++ submission :: back →
    submission.queue.fence = queue.fence → submission.takesMemory = true →
      queue.pending submission.device.native Submission.takesMemory front < bound

/-- The value of a submission comes last if the submission is of the kind. -/
theorem valuesOf_append_own {kind : Submission → Bool} (isKind : kind submission = true) :
    submission.after.valuesOf kind (history ++ [submission]) =
      submission.queue.valuesOf kind history ++ [submission.after.lastSubmitted] := by
  have own : [submission].filter kind = [submission] := List.filter_cons_of_pos isKind
  rw [valuesOf, chronicle_append_own, List.filter_append, own, List.map_append]
  rfl

theorem valuesOf_append_otherKind {kind : Submission → Bool} (notKind : kind submission = false) :
    submission.after.valuesOf kind (history ++ [submission]) =
      submission.queue.valuesOf kind history := by
  have none : [submission].filter kind = [] :=
    List.filter_cons_of_neg (by rw [notKind]; exact Bool.false_ne_true)
  rw [valuesOf, chronicle_append_own, List.filter_append, none, List.append_nil]
  rfl

/-- Demand depends on the fence of a queue only. -/
theorem demandsBelow_after :
    submission.after.DemandsBelow history bound ↔
      submission.queue.DemandsBelow history bound := by
  simp only [DemandsBelow, pending, valuesOf, chronicle, submission.fence_after]

/-- Demand after one more submission. -/
theorem demandsBelow_append :
    queue.DemandsBelow (history ++ [submission]) bound ↔
      queue.DemandsBelow history bound ∧
        (submission.queue.fence = queue.fence → submission.takesMemory = true →
          queue.pending submission.device.native Submission.takesMemory history < bound) := by
  constructor
  · intro below
    refine ⟨fun front earlier back split => ?_, below history submission [] rfl⟩
    refine below front earlier (back ++ [submission]) ?_
    rw [split, List.append_assoc, List.cons_append]
  · rintro ⟨before, here⟩ front earlier back split
    rcases divided_append_singleton split with ⟨rfl, rfl⟩ | ⟨between, isBefore⟩
    · exact here
    · exact before front earlier between isBefore

/-- What the pool of a queue holds, and how it came to hold so much. -/
structure Backs (queue : Queue) (device : NativeDevice) (history : List Submission) : Prop where
  /-- The values of the pool are those of submissions that took an allocator, but for values at the
  front that are complete. -/
  values : ∃ retired,
    queue.valuesOf Submission.takesMemory history =
      retired ++ queue.allocators.map PooledAllocator.value ∧
    ∀ value ∈ retired, value ≤ device.completedValue queue.fence
  /-- The pool is as large as it had to be. -/
  demand : ∀ bound, queue.allocators.length ≤ bound ↔ queue.DemandsBelow history bound

namespace Backs

variable {device next : NativeDevice}

/-- The allocators that are waiting are in the pool. -/
theorem pending_eq (backs : queue.Backs device history) :
    queue.pending device Submission.takesMemory history =
      queue.allocators.countP fun pooled => device.completedValue queue.fence < pooled.value := by
  obtain ⟨retired, isValues, complete⟩ := backs.values
  have none : (retired.countP fun value => device.completedValue queue.fence < value) = 0 := by
    refine List.countP_eq_zero.mpr fun value member => ?_
    simpa using complete value member
  rw [pending, isValues, List.countP_append, none, Nat.zero_add, List.countP_map]
  rfl

/-- What is complete stays complete. -/
theorem advances (backs : queue.Backs device history) (advances : device.Advances next) :
    queue.Backs next history := by
  obtain ⟨retired, isValues, complete⟩ := backs.values
  refine ⟨⟨retired, isValues, fun value member => ?_⟩, backs.demand⟩
  exact Nat.le_trans (complete value member) (advances.completed queue.fence)

/-- A change that submits nothing to a queue leaves its pool and the demand on it. -/
theorem untouched (backs : queue.Backs device history) {submission? : Option Submission}
    (apart : ∀ submission ∈ submission?.toList, queue.fence ≠ submission.queue.fence) :
    queue.Backs device (history ++ submission?.toList) := by
  obtain ⟨retired, isValues, complete⟩ := backs.values
  refine ⟨⟨retired, ?_, complete⟩, fun bound => ?_⟩
  · rw [valuesOf, chronicle_append_untouched apart]
    exact isValues
  · cases submission? with
    | none =>
      rw [Option.toList_none, List.append_nil]
      exact backs.demand bound
    | some submission =>
      have other : queue.fence ≠ submission.queue.fence := apart submission List.mem_cons_self
      rw [Option.toList_some, demandsBelow_append, ← backs.demand bound]
      exact (and_iff_left fun same => absurd same.symm other).symm

/-- A submission to the queue itself: what it takes is the front of the pool or new. -/
theorem submitted (backs : submission.queue.Backs submission.device.native history)
    (ordered : submission.queue.Ordered) (usable : submission.queue.lost = false)
    (present : submission.device.native.lost = false) :
    submission.after.Backs submission.device.native (history ++ [submission]) := by
  obtain ⟨retired, isValues, complete⟩ := backs.values
  rw [← submission.fence_after] at complete
  have demand : ∀ bound, submission.after.DemandsBelow (history ++ [submission]) bound ↔
      submission.queue.allocators.length ≤ bound ∧
        (submission.takesMemory = true →
          (submission.queue.allocators.countP fun pooled =>
            submission.device.native.completedValue submission.queue.fence < pooled.value) <
              bound) := by
    intro bound
    rw [demandsBelow_after, demandsBelow_append, ← backs.demand bound, backs.pending_eq,
      forall_prop_of_true rfl]
  have allots : submission.Allots := Submission.allots ordered usable present
  cases allots with
  | unused noWork pool =>
    have notTakes : submission.takesMemory = false := by
      rw [Submission.takesMemory, noWork]
      rfl
    refine ⟨⟨retired, ?_, complete⟩, fun bound => ?_⟩
    · rw [valuesOf_append_otherKind notTakes, isValues, pool]
    · rw [demand, pool, notTakes]
      exact (and_iff_left nofun).symm
  | @reused first later value someWork pooled isComplete _ _ pool =>
    have takes := Submission.takesMemory_iff.mpr someWork
    have isLast : value = submission.after.lastSubmitted :=
      Submission.value_of_pool takes usable present pool
    refine ⟨⟨retired ++ [first.value], ?_, ?_⟩, fun bound => ?_⟩
    · rw [valuesOf_append_own takes, isValues, pool, pooled, isLast]
      simp
    · rw [submission.fence_after] at complete ⊢
      exact List.forall_mem_append.mpr ⟨complete, List.forall_mem_singleton.mpr isComplete⟩
    · -- The front is not waiting, so there is room for one more below the size of the pool.
      have notWaiting : ¬decide (submission.device.native.completedValue submission.queue.fence <
          first.value) = true := by
        simpa using isComplete
      have waiting : ((first :: later).countP fun pooled =>
          submission.device.native.completedValue submission.queue.fence < pooled.value) ≤
            later.length :=
        le_of_eq_of_le (List.countP_cons_of_neg notWaiting) List.countP_le_length
      rw [demand, forall_prop_of_true takes, pool, pooled, List.length_append,
        List.length_singleton, List.length_cons]
      omega
  | @created _ value someWork busy _ _ pool =>
    have takes := Submission.takesMemory_iff.mpr someWork
    have isLast : value = submission.after.lastSubmitted :=
      Submission.value_of_pool takes usable present pool
    refine ⟨⟨retired, ?_, complete⟩, fun bound => ?_⟩
    · rw [valuesOf_append_own takes, isValues, pool, isLast]
      simp
    · have allWaiting : (submission.queue.allocators.countP fun pooled =>
          submission.device.native.completedValue submission.queue.fence < pooled.value) =
            submission.queue.allocators.length :=
        List.countP_eq_length.mpr fun pooled member => decide_eq_true (busy pooled member)
      rw [demand, forall_prop_of_true takes, pool, allWaiting, List.length_append,
        List.length_singleton]
      omega

end Backs

end Queue

/-! ## Sessions -/

/-- A new fence comes behind those that are there. -/
theorem NativeDevice.advances_furnished (device : NativeDevice) :
    device.Advances device.furnished := by
  refine ⟨Nat.le_add_right _ _, fun id => ?_⟩
  cases found : device.fence? id with
  | none =>
    rw [completedValue, found]
    exact Nat.zero_le _
  | some fence =>
    refine Nat.le_of_eq ?_
    rw [completedValue, completedValue, found, fence?_furnished found]

/-- Whatever changes a session, what is complete stays complete. -/
theorem Session.Changes.advances {session next : Session} {submission? : Option Submission}
    (changes : session.Changes submission? next) :
    session.device.native.Advances next.device.native := by
  cases changes with
  | quiet native => exact NativeDevice.advances_of_fences native.fences native.nextId
  | completed => exact NativeDevice.advances_completeAll _
  | created => exact NativeDevice.advances_furnished _
  | submitted device =>
    rw [← device]
    exact Submission.submits.advances

/-- The pools of all queues of a session are what their submissions made them. -/
def Backed (session : Session) (history : List Submission) : Prop :=
  ∀ queue ∈ session.queues, queue.Backs session.device.native history

namespace Backed

variable {session : Session} {history : List Submission}

/-- Every change of a session that leaves a working device keeps the pools so. -/
theorem changes (backed : Backed session history) (inOrder : InOrder session history)
    (conserved : Conserved session history) (present : session.device.native.lost = false)
    {submission? : Option Submission} {next : Session}
    (changes : session.Changes submission? next) :
    Backed next (history ++ submission?.toList) := by
  intro queue member
  cases inOrder.origin changes member with
  | untouched old apart => exact ((backed queue old).untouched apart).advances changes.advances
  | new nothing _ isNew =>
    have fence : queue.fence = session.device.native.nextId + 1 := congrArg Queue.fence isNew
    have pool : queue.allocators = [] := congrArg Queue.allocators isNew
    have empty : queue.chronicle history = [] := inOrder.chronicle_eq_nil (fence ▸ Nat.le_succ _)
    rw [nothing, Option.toList_none, List.append_nil]
    refine ⟨⟨[], ?_, List.forall_mem_nil _⟩, fun bound => ?_⟩
    · rw [Queue.valuesOf, empty, pool]
      rfl
    · rw [pool]
      refine iff_of_true (Nat.zero_le _) fun front submission back split same _ => ?_
      have before := inOrder.given submission (split ▸ List.mem_append_cons_self)
      rw [same, fence] at before
      exact absurd before (Nat.not_lt.mpr (Nat.le_succ _))
  | @submitted submission made old device final isAfter =>
    have own := backed submission.queue old
    rw [← device] at own present
    rw [final, isAfter, made]
    exact (own.submitted (conserved.ordered _ old) (conserved.usable _ old) present).advances
      submission.submits.advances

/-- As long as the device works, whatever is done with it and its queues. -/
theorem after {device : Device} (numbered : device.native.Numbered) (actions : List Action)
    (present : ((Session.start device).after actions).device.native.lost = false) :
    Backed ((Session.start device).after actions)
      ((Session.start device).submissions actions) := by
  let property : Session → List Submission → Prop := fun session history =>
    InOrder session history ∧ (session.device.native.lost = false →
      Conserved session history ∧ Backed session history)
  have kept : ∀ session history submission? next, property session history →
      session.Changes submission? next → property next (history ++ submission?.toList) := by
    rintro session history submission? next ⟨inOrder, holds⟩ changes
    refine ⟨inOrder.changes changes, fun stillPresent => ?_⟩
    have before := changes.present stillPresent
    obtain ⟨conserved, backed⟩ := holds before
    exact ⟨conserved.changes inOrder before changes,
      backed.changes inOrder conserved before changes⟩
  have start : property (Session.start device) [] :=
    ⟨InOrder.after numbered [], fun works => ⟨Conserved.after numbered [] works, nofun⟩⟩
  exact ((Session.holds_after kept start actions).2 present).2

end Backed

namespace Session

theorem device_of_submission? {session : Session} {action : Action} {submission : Submission}
    (made : session.submission? action = some submission) :
    submission.device = session.device := by
  cases action with
  | submit index buffers dependencies =>
    obtain ⟨queue, _, rfl⟩ := Option.map_eq_some_iff.mp made
    rfl
  | _ => cases made

/-- Each submission of a chronicle was made at some moment: after some of the actions, which made
the submissions before it and left the device that it found. -/
theorem exists_moment {session : Session} {actions : List Action} {front back : List Submission}
    {submission : Submission} (split : session.submissions actions = front ++ submission :: back) :
    ∃ before, before <+: actions ∧ session.submissions before = front ∧
      (session.after before).device = submission.device := by
  induction actions generalizing session front with
  | nil => exact absurd split.symm (List.append_ne_nil_of_right_ne_nil _ (List.cons_ne_nil _ _))
  | cons action later inductionHypothesis =>
    rw [submissions] at split
    cases made : session.submission? action with
    | none =>
      rw [made] at split
      obtain ⟨before, isPrefix, isFront, device⟩ := inductionHypothesis split
      refine ⟨action :: before, List.cons_prefix_cons.mpr ⟨rfl, isPrefix⟩, ?_, device⟩
      rw [submissions, made, isFront]
      rfl
    | some first =>
      rw [made] at split
      cases front with
      | nil =>
        obtain ⟨rfl, _⟩ := List.cons_eq_cons.mp split
        exact ⟨[], List.nil_prefix, rfl, (device_of_submission? made).symm⟩
      | cons head front =>
        obtain ⟨rfl, rest⟩ := List.cons_eq_cons.mp split
        obtain ⟨before, isPrefix, isFront, device⟩ := inductionHypothesis rest
        refine ⟨action :: before, List.cons_prefix_cons.mpr ⟨rfl, isPrefix⟩, ?_, device⟩
        rw [submissions, made, isFront]
        rfl

/-- So what was complete at a submission is complete at those after it. -/
theorem completedValue_le_of_mem {session : Session} {actions : List Action}
    {front back : List Submission} {earlier submission : Submission}
    (split : session.submissions actions = front ++ submission :: back)
    (member : earlier ∈ front) (fence : ObjectId) :
    earlier.device.native.completedValue fence ≤
      submission.device.native.completedValue fence := by
  obtain ⟨before, _, isFront, device⟩ := exists_moment split
  obtain ⟨_, _, isSplit⟩ := List.append_of_mem member
  obtain ⟨first, ⟨between, rfl⟩, _, deviceBefore⟩ := exists_moment (isFront.trans isSplit)
  have isAfter : session.after (first ++ between) = (session.after first).after between :=
    List.foldl_append
  rw [← deviceBefore, ← device, isAfter]
  exact (session.after first).completedValue_le_after between fence

end Session

/-! ## What is created -/

/-- Allocators taken in vain do not count if all before them were complete: those that wait are
waiting for submissions that were executed. -/
theorem Queue.pending_takesMemory_le {queue : Queue} {device : NativeDevice}
    {history : List Submission}
    (idle : ∀ submission ∈ queue.chronicle history, submission.takesInVain = true →
      submission.queue.lastSubmitted ≤ device.completedValue queue.fence) :
    queue.pending device Submission.takesMemory history ≤
      queue.pending device Submission.executes history := by
  simp only [pending, valuesOf, List.countP_map, List.countP_filter]
  refine List.countP_mono_left fun submission member waits => ?_
  obtain ⟨waiting, takes⟩ := Bool.and_eq_true_iff.mp waits
  refine Bool.and_eq_true_iff.mpr ⟨waiting, ?_⟩
  by_contra notExecuted
  have inVain : submission.takesInVain = true := by
    rw [Submission.takesInVain, takes, (Bool.not_eq_true _).mp notExecuted]
    rfl
  have notComplete : device.completedValue queue.fence < submission.after.lastSubmitted :=
    of_decide_eq_true waiting
  have complete := idle submission member inVain
  have last := Submission.last_of_takesInVain inVain
  omega

/-- A queue creates allocators on demand. As long as the device works, it has created as many as
were once waiting when one was asked for, and that one. If each submission that came to nothing
found all submissions before it complete, these are no more than were in flight at some moment, and
one. -/
theorem allocators_created_on_demand {device : Device} (numbered : device.native.Numbered)
    (actions : List Action)
    (present : ((Session.start device).after actions).device.native.lost = false) :
    let session := (Session.start device).after actions
    let history := (Session.start device).submissions actions
    ∀ queue ∈ session.queues,
      let created := total ((queue.chronicle history).map Submission.allocatorsCreated)
      (∀ bound, created ≤ bound ↔ queue.DemandsBelow history bound) ∧
        ((∀ submission ∈ queue.chronicle history, submission.takesInVain = true →
            submission.queue.lastToken.isReached submission.device.native = true) →
          ∀ bound,
            (∀ before, before <+: actions →
              queue.pending ((Session.start device).after before).device.native
                Submission.executes ((Session.start device).submissions before) ≤ bound) →
            created ≤ bound + 1) := by
  intro session history queue member created
  have backs : queue.Backs session.device.native history :=
    Backed.after numbered actions present queue member
  have conserved : Conserved session history := .after numbered actions present
  have demand : ∀ bound, created ≤ bound ↔ queue.DemandsBelow history bound := by
    intro bound
    rw [← backs.demand bound, (conserved.accounts queue member).allocators]
  refine ⟨demand, fun idle bound atMost => (demand (bound + 1)).mpr ?_⟩
  intro front submission back split own _
  obtain ⟨before, isPrefix, isFront, moment⟩ := Session.exists_moment split
  have inFlight := atMost before isPrefix
  rw [isFront, moment] at inFlight
  have free : ∀ earlier ∈ queue.chronicle front, earlier.takesInVain = true →
      earlier.queue.lastSubmitted ≤ submission.device.native.completedValue queue.fence := by
    intro earlier isEarlier inVain
    obtain ⟨inFront, isOwn⟩ := List.mem_filter.mp isEarlier
    have inHistory : earlier ∈ queue.chronicle history :=
      List.mem_filter.mpr ⟨split ▸ List.mem_append_left _ inFront, isOwn⟩
    have reached := of_decide_eq_true (idle earlier inHistory inVain)
    have later := Session.completedValue_le_of_mem split inFront queue.fence
    exact Nat.le_trans reached (of_decide_eq_true isOwn ▸ later)
  exact Nat.lt_succ_of_le (Nat.le_trans (Queue.pending_takesMemory_le free) inFlight)

/-- Replays that fail on an idle queue share one allocator. The second is created for a submission
that is made while another is in flight. -/
theorem allocators_created_on_demand_idle :
    let buffer := CommandBuffer.ofCalls [.resourceBarriers [] [.global]]
    let broken := CommandBuffer.ofCalls [.endRenderPass]
    let actions : List Action :=
      [.createQueue .graphics .graphics, .submit 0 [broken] [], .submit 0 [broken] [],
        .setAutoComplete false, .submit 0 [buffer] [], .setAutoComplete true,
        .submit 0 [buffer] [], .submit 0 [broken] []]
    let session := (Session.start .small).after actions
    let history := (Session.start .small).submissions actions
    Device.small.native.Numbered ∧ session.device.native.lost = false ∧
      history.map Submission.takesInVain = [true, true, false, false, true] ∧
      session.queues.map (fun queue =>
        total ((queue.chronicle history).map Submission.allocatorsCreated)) = [2] ∧
      ∀ queue ∈ session.queues,
        (∀ before, before <+: actions →
          queue.pending ((Session.start .small).after before).device.native Submission.executes
            ((Session.start .small).submissions before) ≤ 1) ∧
        total ((queue.chronicle history).map Submission.allocatorsCreated) ≤ 1 + 1 := by
  intro buffer broken actions
  dsimp only
  have numbered : Device.small.native.Numbered := ⟨nofun, nofun⟩
  have present : ((Session.start .small).after actions).device.native.lost = false := by
    decide +kernel
  have idle : ∀ queue ∈ ((Session.start .small).after actions).queues,
      ∀ submission ∈ queue.chronicle ((Session.start .small).submissions actions),
        submission.takesInVain = true →
        submission.queue.lastToken.isReached submission.device.native = true := by
    decide +kernel
  have inFlight : ∀ queue ∈ ((Session.start .small).after actions).queues,
      ∀ before ∈ actions.inits,
        queue.pending ((Session.start .small).after before).device.native Submission.executes
          ((Session.start .small).submissions before) ≤ 1 := by
    decide +kernel
  refine ⟨numbered, present, by decide +kernel, by decide +kernel, fun queue member => ?_⟩
  have atMost : ∀ before, before <+: actions →
      queue.pending ((Session.start .small).after before).device.native Submission.executes
        ((Session.start .small).submissions before) ≤ 1 :=
    fun before isPrefix => inFlight queue member before ((List.mem_inits _ _).mpr isPrefix)
  refine ⟨atMost, ?_⟩
  exact (allocators_created_on_demand numbered actions present queue member).2
    (idle queue member) 1 atMost

/-- Behind a submission in flight every replay that fails takes an allocator of its own, although
one submission is in flight at most. -/
theorem allocators_pile_up :
    let buffer := CommandBuffer.ofCalls [.resourceBarriers [] [.global]]
    let broken := CommandBuffer.ofCalls [.endRenderPass]
    let actions : List Action :=
      [.createQueue .graphics .graphics, .setAutoComplete false, .submit 0 [buffer] [],
        .submit 0 [broken] [], .submit 0 [broken] []]
    let session := (Session.start .small).after actions
    let history := (Session.start .small).submissions actions
    session.device.native.lost = false ∧ ∃ queue ∈ session.queues,
      total ((queue.chronicle history).map Submission.allocatorsCreated) = 3 ∧
        ∀ before, before <+: actions →
          queue.pending ((Session.start .small).after before).device.native Submission.executes
            ((Session.start .small).submissions before) ≤ 1 := by
  intro buffer broken actions session history
  have created : session.queues.map (fun queue =>
      total ((queue.chronicle history).map Submission.allocatorsCreated)) = [3] := by
    decide +kernel
  have inFlight : ∀ queue ∈ session.queues, ∀ before ∈ actions.inits,
      queue.pending ((Session.start .small).after before).device.native Submission.executes
        ((Session.start .small).submissions before) ≤ 1 := by
    decide +kernel
  obtain ⟨queue, member, isCreated⟩ := List.mem_map.mp (created ▸ List.mem_singleton_self 3)
  refine ⟨by decide +kernel, queue, member, isCreated, fun before isPrefix => ?_⟩
  exact inFlight queue member before ((List.mem_inits _ _).mpr isPrefix)

end CommandStream
