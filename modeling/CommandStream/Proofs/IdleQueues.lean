import CommandStream.Proofs.PoolConservation
import CommandStream.Proofs.WaitOrder
/-!
# Queues that become idle

A queue is idle when the token of its last submission is reached. Once all that was signaled is
complete, this comes down to whether the last value that the queue used up was signaled: the fence
holds the highest value signaled, and `UpToDate` carries along a session that this is the last value
of the queue exactly if its latest submission did not fail in its signal. A value whose signal
failed is waited for in vain until the next submission signals one above it.
-/

namespace CommandStream

namespace Queue

variable {queue : Queue} {history : List Submission} {submission : Submission}

/-- The latest submission to a queue that used up a value. -/
def latest? (queue : Queue) (history : List Submission) : Option Submission :=
  ((queue.chronicle history).filter fun submission => submission.value?.isSome).getLast?

/-- The last value that a queue used up was signaled, if it used up any: the submission that did so
was answered with its token. -/
def LatestSignaled (queue : Queue) (history : List Submission) : Prop :=
  ∀ submission ∈ queue.latest? history, submission.token?.isSome = true

instance : Decidable (queue.LatestSignaled history) :=
  inferInstanceAs
    (Decidable (∀ submission ∈ queue.latest? history, submission.token?.isSome = true))

/-- A change that submits nothing to a queue leaves the latest of its submissions. -/
theorem latest?_append_untouched {submission? : Option Submission}
    (apart : ∀ submission ∈ submission?.toList, queue.fence ≠ submission.queue.fence) :
    queue.latest? (history ++ submission?.toList) = queue.latest? history := by
  rw [latest?, chronicle_append_untouched apart]
  rfl

/-- A submission that uses up a value is the latest from then on. -/
theorem latest?_append_of_isSome (used : submission.value?.isSome = true) :
    submission.after.latest? (history ++ [submission]) = some submission := by
  have own : [submission].filter (fun other => other.value?.isSome) = [submission] :=
    List.filter_cons_of_pos used
  rw [latest?, chronicle_append_own, List.filter_append, own, List.getLast?_concat]

/-- One that does not leaves the latest. -/
theorem latest?_append_of_none (unused : submission.value? = none) :
    submission.after.latest? (history ++ [submission]) = submission.queue.latest? history := by
  have none : [submission].filter (fun other => other.value?.isSome) = [] := by
    refine List.filter_cons_of_neg ?_
    rw [unused]
    exact Bool.false_ne_true
  rw [latest?, chronicle_append_own, List.filter_append, none, List.append_nil]
  rfl

end Queue

/-- A fence holds the last value of its queue exactly if the latest submission signaled it. -/
def Fence.Reflects (fence : Fence) (queue : Queue) (history : List Submission) : Prop :=
  fence.signaled = queue.lastSubmitted ↔ queue.LatestSignaled history

/-- The fence of a queue after a submission to the queue. -/
theorem Fence.Reflects.submitted {submission : Submission} {history : List Submission}
    {fence : Fence} (reflects : fence.Reflects submission.queue history)
    (counts : fence.Counts submission.queue history)
    (found : submission.device.native.fence? submission.queue.fence = some fence) :
    ∃ next, submission.final.native.fence? submission.queue.fence = some next ∧
      next.Reflects submission.after (history ++ [submission]) := by
  have unchanged : submission.after.lastSubmitted = submission.queue.lastSubmitted →
      submission.final.native.fences = submission.device.native.fences →
      ∃ next, submission.final.native.fence? submission.queue.fence = some next ∧
        next.Reflects submission.after (history ++ [submission]) := by
    intro last fences
    refine ⟨fence, (NativeDevice.fence?_congr fences _).trans found, ?_⟩
    rw [Reflects, Queue.LatestSignaled, Queue.latest?_append_of_none (if_pos last), last]
    exact reflects
  cases submission.outcome with
  | idle _ last _ fences => exact unchanged last fences
  | stopped _ last _ _ fences => exact unchanged last fences
  | unsignaled answer last _ _ fences =>
    -- The value is used up, and the fence stays below it.
    refine ⟨fence, (NativeDevice.fence?_congr fences _).trans found, ?_⟩
    have used : submission.value? = some submission.after.lastSubmitted :=
      Submission.value?_of_lt (by omega)
    have below := counts.signaled
    rw [Reflects, Queue.LatestSignaled, Queue.latest?_append_of_isSome (by rw [used]; rfl)]
    constructor
    · intro same
      omega
    · intro signaled
      have token := signaled submission rfl
      rw [Submission.token?, answer] at token
      cases token
  | signaled answer last _ _ fences =>
    have changed := fences.trans (NativeDevice.fences_signaled _ _ _)
    have sameId : ∀ other : Fence, (if other.id = submission.queue.fence then
        other.signaledAt (submission.queue.lastSubmitted + 1) submission.device.native.autoComplete
        else other).id = other.id := by
      intro other
      split
      · exact other.id_signaledAt _ _
      · rfl
    refine ⟨_, (NativeDevice.fence?_map changed sameId _).trans (congrArg _ found), ?_⟩
    have used : submission.value? = some submission.after.lastSubmitted :=
      Submission.value?_of_lt (by omega)
    have below := counts.signaled
    dsimp only
    rw [if_pos (NativeDevice.id_of_fence? found), Reflects, Fence.signaled_signaledAt,
      Queue.LatestSignaled, Queue.latest?_append_of_isSome (by rw [used]; rfl)]
    refine iff_of_true (by omega) ?_
    rintro _ ⟨⟩
    rw [Submission.token?, answer]
    rfl

/-- Without a submission to its queue a fence is signaled nothing new. -/
theorem Session.Changes.fence?_untouched {session next : Session}
    {submission? : Option Submission} (changes : session.Changes submission? next)
    {id : ObjectId} {fence : Fence} (found : session.device.native.fence? id = some fence)
    (apart : ∀ submission ∈ submission?.toList, id ≠ submission.queue.fence) :
    ∃ later, next.device.native.fence? id = some later ∧ later.signaled = fence.signaled := by
  cases changes with
  | quiet native => exact ⟨fence, (NativeDevice.fence?_congr native.fences id).trans found, rfl⟩
  | completed =>
    have caughtUp := NativeDevice.fences_completeAll session.device.native
    refine ⟨fence.complete fence.signaled, ?_, rfl⟩
    exact (NativeDevice.fence?_map caughtUp (fun _ => rfl) id).trans (congrArg _ found)
  | created => exact ⟨fence, NativeDevice.fence?_furnished found, rfl⟩
  | @submitted submission _ _ device =>
    have other : id ≠ submission.queue.fence := apart submission List.mem_cons_self
    obtain ⟨change, alters, fences⟩ := submission.exists_alters
    rw [device] at fences
    refine ⟨fence, ?_, rfl⟩
    rw [NativeDevice.fence?_map fences alters.id_eq, found, Option.map_some,
      alters.eq_of_ne (NativeDevice.id_of_fence? found ▸ other)]

/-- Every queue of a session has a fence that reflects its chronicle. -/
def UpToDate (session : Session) (history : List Submission) : Prop :=
  ∀ queue ∈ session.queues, ∃ fence,
    session.device.native.fence? queue.fence = some fence ∧ fence.Reflects queue history

namespace UpToDate

variable {session : Session} {history : List Submission}

/-- Every change of a session keeps its queues up to date. -/
theorem changes (upToDate : UpToDate session history) (inOrder : InOrder session history)
    {submission? : Option Submission} {next : Session}
    (changes : session.Changes submission? next) :
    UpToDate next (history ++ submission?.toList) := by
  intro queue member
  cases inOrder.origin changes member with
  | untouched old apart =>
    obtain ⟨fence, found, reflects⟩ := upToDate queue old
    obtain ⟨later, foundLater, same⟩ := changes.fence?_untouched found apart
    refine ⟨later, foundLater, ?_⟩
    rw [Fence.Reflects, same, Queue.LatestSignaled, Queue.latest?_append_untouched apart]
    exact reflects
  | new nothing device isNew =>
    have none : queue.latest? (history ++ submission?.toList) = none := by
      rw [nothing, Option.toList_none, List.append_nil, isNew, Queue.latest?,
        inOrder.chronicle_eq_nil (Nat.le_succ session.device.native.nextId)]
      rfl
    refine ⟨⟨session.device.native.nextId + 1, 0, 0⟩, ?_, ?_⟩
    · rw [device, isNew]
      exact inOrder.numbered.fence?_new
    · rw [Fence.Reflects, Queue.LatestSignaled, none, isNew]
      exact iff_of_true rfl fun submission used => absurd used (Option.not_mem_none submission)
  | @submitted submission made old device final isAfter =>
    obtain ⟨fence, found, reflects⟩ := upToDate submission.queue old
    obtain ⟨same, foundSame, counts⟩ := inOrder.counted submission.queue old
    cases found.symm.trans foundSame
    rw [← device] at found
    rw [final, isAfter, made, submission.fence_after]
    exact reflects.submitted counts found

/-- Whatever a program does with a device, its queues are up to date. -/
theorem after {device : Device} (numbered : device.native.Numbered) (actions : List Action) :
    UpToDate ((Session.start device).after actions)
      ((Session.start device).submissions actions) := by
  let property : Session → List Submission → Prop := fun session history =>
    InOrder session history ∧ UpToDate session history
  have kept : ∀ session history submission? next, property session history →
      session.Changes submission? next → property next (history ++ submission?.toList) :=
    fun _ _ _ _ ⟨inOrder, upToDate⟩ changes =>
      ⟨inOrder.changes changes, upToDate.changes inOrder changes⟩
  have start : property (Session.start device) [] := ⟨InOrder.after numbered [], nofun⟩
  exact (Session.holds_after kept start actions).2

end UpToDate

/-! ## Idle queues -/

namespace Queue

variable {queue : Queue} {device : NativeDevice}

/-- A queue is idle: the device got past its last submission. -/
structure Idle (queue : Queue) (device : NativeDevice) : Prop where
  reached : queue.lastToken.isReached device = true
  /-- Waiting for the queue returns at once. -/
  returns : queue.waitIdle device = .ok .reached
  /-- No other queue that depends on the token is made to wait for it, -/
  unneeded : ∀ other : Queue, other.awaits device queue.lastToken = false
  /-- and one that was made to goes on. -/
  passes : queue.lastToken.waiting.replay? device.completedValue = some device.completedValue

/-- A queue hangs: who waits for its last submission does so for good, unless something else
happens. -/
structure Hangs (queue : Queue) (device : NativeDevice) : Prop where
  pending : queue.lastToken.isReached device = false
  /-- Waiting for the queue does not return, -/
  blocked : device.lost = false → queue.waitIdle device = .ok .blocked
  /-- and a queue that is made to wait for the token does not go on. -/
  stays : queue.lastToken.waiting.replay? device.completedValue = none

theorem idle_of_le (complete : queue.lastSubmitted ≤ device.completedValue queue.fence) :
    queue.Idle device := by
  have reached : queue.lastToken.isReached device = true := decide_eq_true complete
  refine ⟨reached, if_pos complete, fun other => ?_, if_pos complete⟩
  rw [awaits, reached, Bool.not_true, Bool.and_false]

theorem hangs_of_lt (pending : device.completedValue queue.fence < queue.lastSubmitted) :
    queue.Hangs device := by
  have notComplete := Nat.not_le.mpr pending
  refine ⟨decide_eq_false notComplete, fun present => ?_, if_neg notComplete⟩
  have works : ¬device.lost = true := by
    rw [present]
    exact Bool.false_ne_true
  exact (if_neg notComplete).trans (if_neg works)

end Queue

/-- Once it caught up, a device has completed what was signaled on a fence. -/
theorem Fence.Counts.completedValue_completeAll {device : NativeDevice} {fence : Fence}
    {queue : Queue} {history : List Submission} (counts : fence.Counts queue history)
    (found : device.fence? queue.fence = some fence) :
    device.completeAll.completedValue queue.fence = fence.signaled := by
  have caughtUp : device.completeAll.fence? queue.fence =
      some (fence.complete fence.signaled) :=
    (NativeDevice.fence?_map (NativeDevice.fences_completeAll device) (fun _ => rfl) _).trans
      (congrArg _ found)
  rw [NativeDevice.completedValue, caughtUp]
  exact Nat.max_eq_right counts.completed

/-- Whatever a program does with a device, as soon as all that was signaled is complete, a queue is
idle if the signal of its latest submission did not fail, and hangs otherwise. -/
theorem idle_iff_latest_signaled {device : Device} (numbered : device.native.Numbered)
    (actions : List Action) :
    let session := (Session.start device).after actions
    let history := (Session.start device).submissions actions
    ∀ queue ∈ session.queues,
      (queue.LatestSignaled history → queue.Idle session.device.native.completeAll) ∧
        (¬queue.LatestSignaled history → queue.Hangs session.device.native.completeAll) := by
  intro session history queue member
  have upToDate : UpToDate session history := .after numbered actions
  have inOrder : InOrder session history := .after numbered actions
  obtain ⟨fence, found, reflects⟩ := upToDate queue member
  obtain ⟨same, foundSame, counts⟩ := inOrder.counted queue member
  cases found.symm.trans foundSame
  have completed := counts.completedValue_completeAll found
  have atMost := counts.signaled
  constructor
  · intro signaled
    have isLast := reflects.mpr signaled
    exact Queue.idle_of_le (by omega)
  · intro unsignaled
    have notLast := mt reflects.mp unsignaled
    exact Queue.hangs_of_lt (by omega)

/-- The signal of the second of three submissions fails, but the third is signaled. -/
theorem idle_of_later_signal :
    let buffer := CommandBuffer.ofCalls [.resourceBarriers [] [.global]]
    let actions : List Action :=
      [.createQueue .graphics .graphics, .setAutoComplete false, .submit 0 [buffer] [],
        .armSignalFailure, .submit 0 [buffer] [], .submit 0 [buffer] []]
    let session := (Session.start .small).after actions
    let history := (Session.start .small).submissions actions
    Device.small.native.Numbered ∧
      history.map Submission.token? = [some ⟨4, 1⟩, none, some ⟨4, 3⟩] ∧
      session.queues.map Queue.lastSubmitted = [3] ∧
      ∀ queue ∈ session.queues, queue.Idle session.device.native.completeAll := by
  intro buffer actions session history
  have numbered : Device.small.native.Numbered := ⟨nofun, nofun⟩
  have signaled : ∀ queue ∈ session.queues, queue.LatestSignaled history := by decide +kernel
  refine ⟨numbered, by decide +kernel, by decide +kernel, fun queue member => ?_⟩
  exact (idle_iff_latest_signaled numbered actions queue member).1 (signaled queue member)

/-- A queue whose only submission fails in its signal is never idle on a device that works,
although all that was signaled is complete. -/
theorem hangs_of_failed_signal :
    let buffer := CommandBuffer.ofCalls [.resourceBarriers [] [.global]]
    let actions : List Action :=
      [.createQueue .graphics .graphics, .setAutoComplete false, .armSignalFailure,
        .submit 0 [buffer] []]
    let session := (Session.start .small).after actions
    let native := session.device.native.completeAll
    native.lost = false ∧ ∃ queue ∈ session.queues,
      queue.lastToken.isReached native = false ∧ queue.waitIdle native = .ok .blocked ∧
        queue.lastToken.waiting.replay? native.completedValue = none := by
  intro buffer actions session native
  have present : native.lost = false := by decide +kernel
  have pending : session.queues.map (fun queue =>
      decide (native.completedValue queue.fence < queue.lastSubmitted)) = [true] := by
    decide +kernel
  obtain ⟨queue, member, isPending⟩ := List.mem_map.mp (pending ▸ List.mem_singleton_self true)
  have hangs : queue.Hangs native := Queue.hangs_of_lt (of_decide_eq_true isPending)
  exact ⟨present, queue, member, hangs.pending, hangs.blocked present, hangs.stays⟩

end CommandStream
