import CommandStream.Proofs.Chronicle
import CommandStream.Proofs.SessionHistory
/-!
# The order of fence values

The fence of a queue counts its submissions. `InOrder` is the invariant of a session and its
chronicle that makes the count meaningful: every queue has a fence of its own, which has completed
no more than was signaled on it and was signaled no more than was submitted, and each submission
starts at the last value that an earlier one left. All that is said about tokens follows from it,
since a signal is the last event of its submission and its value is above those of all before.
-/

namespace CommandStream

/-! ## Values in events -/

/-- The value that an event signals on a fence, if it is a signal of that fence. -/
def QueueEvent.signaledValue? (fence : ObjectId) : QueueEvent → Option Nat
  | .signal other value => if other = fence then some value else none
  | _ => none

/-- The values signaled on a fence, in the order of the events. -/
def signaledValues (fence : ObjectId) (events : List QueueEvent) : List Nat :=
  events.filterMap (QueueEvent.signaledValue? fence)

@[simp] theorem signaledValues_append (fence : ObjectId) (front back : List QueueEvent) :
    signaledValues fence (front ++ back) =
      signaledValues fence front ++ signaledValues fence back :=
  List.filterMap_append

@[simp] theorem signaledValues_waiting (fence : ObjectId) (tokens : List Token) :
    signaledValues fence (tokens.map Token.waiting) = [] := by
  rw [signaledValues, List.filterMap_map]
  exact List.filterMap_eq_nil_iff.mpr fun _ _ => rfl

@[simp] theorem signaledValues_executing (fence : ObjectId) (lists : List (List Call)) :
    signaledValues fence (QueueEvent.executing lists) = [] := by
  unfold QueueEvent.executing
  split <;> rfl

@[simp] theorem signaledValues_signal (fence other : ObjectId) (value : Nat) :
    signaledValues fence [.signal other value] = if other = fence then [value] else [] := by
  by_cases same : other = fence <;> simp [signaledValues, QueueEvent.signaledValue?, same]

theorem signaledValues_flatMap {source : Type} (fence : ObjectId) (sources : List source)
    (events : source → List QueueEvent) :
    signaledValues fence (sources.flatMap events) =
      sources.flatMap fun each => signaledValues fence (events each) :=
  List.filterMap_flatMap

/-- A value is signaled by an event. -/
theorem signal_of_mem_signaledValues {fence : ObjectId} {events : List QueueEvent} {value : Nat}
    (member : value ∈ signaledValues fence events) : .signal fence value ∈ events := by
  obtain ⟨event, inEvents, isValue⟩ := List.mem_filterMap.mp member
  cases event with
  | signal other found =>
    obtain ⟨rfl, rfl⟩ : other = fence ∧ found = value := by
      simpa [QueueEvent.signaledValue?] using isValue
    exact inEvents
  | wait => cases isValue
  | execute => cases isValue

/-! ## Fences -/

namespace NativeDevice

variable {device final : NativeDevice}

theorem fence?_congr (same : final.fences = device.fences) (id : ObjectId) :
    final.fence? id = device.fence? id := by
  rw [fence?, fence?, same]

theorem id_of_fence? {id : ObjectId} {fence : Fence} (found : device.fence? id = some fence) :
    fence.id = id := by
  simpa using List.find?_some found

/-- Fences that are changed in place are found where they were. -/
theorem fence?_map {change : Fence → Fence} (changed : final.fences = device.fences.map change)
    (sameId : ∀ fence, (change fence).id = fence.id) (id : ObjectId) :
    final.fence? id = (device.fence? id).map change := by
  simp only [fence?, changed, List.find?_map, Function.comp_def, sameId]

end NativeDevice

/-- A fence after a signal: the value is complete at once if the device completes by itself. -/
def Fence.signaledAt (fence : Fence) (value : Nat) (atOnce : Bool) : Fence :=
  if atOnce then (fence.signal value).complete value else fence.signal value

@[simp] theorem Fence.id_signaledAt (fence : Fence) (value : Nat) (atOnce : Bool) :
    (fence.signaledAt value atOnce).id = fence.id := by
  cases atOnce <;> rfl

@[simp] theorem Fence.signaled_signaledAt (fence : Fence) (value : Nat) (atOnce : Bool) :
    (fence.signaledAt value atOnce).signaled = max fence.signaled value := by
  cases atOnce <;> rfl

/-- A signal completes no more than its value. -/
theorem Fence.completed_signaledAt_le (fence : Fence) (value : Nat) (atOnce : Bool) :
    (fence.signaledAt value atOnce).completed ≤ max fence.completed value := by
  cases atOnce with
  | false => exact Nat.le_max_left _ _
  | true => exact Nat.le_refl _

/-- Catching up changes all fences in place. -/
theorem NativeDevice.fences_completeAll (device : NativeDevice) :
    device.completeAll.fences = device.fences.map fun fence => fence.complete fence.signaled :=
  rfl

/-- A signal changes one fence in place. -/
theorem NativeDevice.fences_signaled (device : NativeDevice) (id : ObjectId) (value : Nat) :
    (device.signaled id value).fences = device.fences.map fun fence =>
      if fence.id = id then fence.signaledAt value device.autoComplete else fence := by
  unfold NativeDevice.signaled
  dsimp only
  split
  · rename_i atOnce
    rw [NativeDevice.updateFence, NativeDevice.updateFence, List.map_map]
    refine List.map_congr_left fun fence _ => ?_
    by_cases same : fence.id = id
    · simp [same, Fence.signaledAt, atOnce, Fence.signal]
    · simp [same]
  · rename_i later
    refine List.map_congr_left fun fence _ => ?_
    simp [Fence.signaledAt, later]

/-! ## Submissions and their fence -/

namespace Submission

variable {submission : Submission}

/-- A submission signals the fence of its queue with the value that it uses up, or no fence. -/
theorem signaledValues_events (submission : Submission) (fence : ObjectId) :
    signaledValues fence submission.events = [] ∨
      (fence = submission.queue.fence ∧
        submission.after.lastSubmitted = submission.queue.lastSubmitted + 1 ∧
        signaledValues fence submission.events = [submission.queue.lastSubmitted + 1]) := by
  cases submission.outcome with
  | idle _ _ log =>
    rw [events_eq (log.trans (List.append_nil _).symm)]
    exact .inl rfl
  | stopped _ _ _ log =>
    rw [events_eq log]
    exact .inl (signaledValues_waiting _ _)
  | unsignaled _ _ _ log =>
    rw [events_eq log, signaledValues_append, signaledValues_waiting, signaledValues_executing]
    exact .inl rfl
  | signaled _ last _ log =>
    rw [events_eq log, signaledValues_append, signaledValues_append, signaledValues_waiting,
      signaledValues_executing, signaledValues_signal]
    split
    · rename_i same
      exact .inr ⟨same.symm, last, rfl⟩
    · exact .inl rfl

theorem eq_of_mem_signaledValues {fence : ObjectId} {value : Nat}
    (member : value ∈ signaledValues fence submission.events) :
    fence = submission.queue.fence ∧ value = submission.queue.lastSubmitted + 1 ∧
      submission.after.lastSubmitted = submission.queue.lastSubmitted + 1 := by
  obtain none | ⟨same, last, one⟩ := submission.signaledValues_events fence
  · rw [none] at member
    cases member
  · rw [one] at member
    exact ⟨same, List.mem_singleton.mp member, last⟩

/-- What a submission does to the fences: that of its queue is signaled with the value that the
submission uses up, or no fence is changed. -/
inductive Alters (submission : Submission) : (Fence → Fence) → Prop
  | nothing : Alters submission id
  | signal {atOnce : Bool}
      (last : submission.after.lastSubmitted = submission.queue.lastSubmitted + 1)
      (signaled : submission.queue.lastSubmitted + 1 ∈
        signaledValues submission.queue.fence submission.events) :
      Alters submission fun fence =>
        if fence.id = submission.queue.fence then
          fence.signaledAt (submission.queue.lastSubmitted + 1) atOnce
        else fence

theorem exists_alters (submission : Submission) :
    ∃ change, submission.Alters change ∧
      submission.final.native.fences = submission.device.native.fences.map change := by
  have unchanged : submission.final.native.fences = submission.device.native.fences →
      ∃ change, submission.Alters change ∧
        submission.final.native.fences = submission.device.native.fences.map change :=
    fun same => ⟨id, .nothing, same.trans (List.map_id _).symm⟩
  cases submission.outcome with
  | idle _ _ _ fences => exact unchanged fences
  | stopped _ _ _ _ fences => exact unchanged fences
  | unsignaled _ _ _ _ fences => exact unchanged fences
  | signaled _ last _ log fences =>
    refine ⟨_, .signal last ?_, fences.trans (NativeDevice.fences_signaled _ _ _)⟩
    rw [events_eq log]
    simp

theorem Alters.id_eq {change : Fence → Fence} (alters : submission.Alters change)
    (fence : Fence) : (change fence).id = fence.id := by
  cases alters with
  | nothing => rfl
  | signal =>
    dsimp only
    split
    · exact fence.id_signaledAt _ _
    · rfl

theorem Alters.eq_of_ne {change : Fence → Fence} (alters : submission.Alters change)
    {fence : Fence} (other : fence.id ≠ submission.queue.fence) : change fence = fence := by
  cases alters with
  | nothing => rfl
  | signal => exact if_neg other

end Submission

/-! ## The invariant -/

/-- The fence of a queue counts up to what was submitted: no more is complete than signaled, no
more is signaled than submitted, and what is signaled was so by a submission. -/
structure Fence.Counts (fence : Fence) (queue : Queue) (history : List Submission) : Prop where
  completed : fence.completed ≤ fence.signaled
  signaled : fence.signaled ≤ queue.lastSubmitted
  issued : fence.signaled = 0 ∨
    fence.signaled ∈ signaledValues queue.fence (history.flatMap Submission.events)

namespace Fence.Counts

variable {fence : Fence} {queue : Queue} {history : List Submission}

/-- Catching up with the signals. -/
theorem caughtUp (counts : fence.Counts queue history) :
    (fence.complete fence.signaled).Counts queue history :=
  ⟨Nat.max_le.mpr ⟨counts.completed, Nat.le_refl _⟩, counts.signaled, counts.issued⟩

/-- What another queue submits is no concern of the fence. -/
theorem append (counts : fence.Counts queue history) (submission : Submission) :
    fence.Counts queue (history ++ [submission]) := by
  refine ⟨counts.completed, counts.signaled, counts.issued.imp (fun none => none) fun issued => ?_⟩
  rw [List.flatMap_append, signaledValues_append]
  exact List.mem_append_left _ issued

/-- The fence of a queue after a submission to the queue. -/
theorem alter {submission : Submission} (counts : fence.Counts submission.queue history)
    {change : Fence → Fence} (alters : submission.Alters change)
    (own : fence.id = submission.queue.fence) :
    (change fence).Counts submission.after (history ++ [submission]) := by
  obtain ⟨completed, atMost, issued⟩ := counts.append submission
  rw [← submission.fence_after] at issued
  cases alters with
  | nothing => exact ⟨completed, Nat.le_trans atMost submission.submits.numbers.2, issued⟩
  | @signal atOnce last signaled =>
    have isIssued : submission.queue.lastSubmitted + 1 ∈ signaledValues submission.after.fence
        ((history ++ [submission]).flatMap Submission.events) := by
      rw [submission.fence_after, List.flatMap_append, signaledValues_append,
        List.flatMap_singleton]
      exact List.mem_append_right _ signaled
    have raised : max fence.signaled (submission.queue.lastSubmitted + 1) =
        submission.queue.lastSubmitted + 1 := Nat.max_eq_right (Nat.le_succ_of_le atMost)
    have atMostCompleted :=
      fence.completed_signaledAt_le (submission.queue.lastSubmitted + 1) atOnce
    dsimp only
    rw [if_pos own]
    refine ⟨?_, ?_, .inr ?_⟩
    · rw [Fence.signaled_signaledAt]
      omega
    · rw [Fence.signaled_signaledAt, raised]
      exact Nat.le_of_eq last.symm
    · rw [Fence.signaled_signaledAt, raised]
      exact isIssued

end Fence.Counts

/-- Every fence of a device, and every fence that its log tells of, was given its identity
before. -/
structure NativeDevice.Numbered (device : NativeDevice) : Prop where
  fences : ∀ fence ∈ device.fences, fence.id < device.nextId
  signals : ∀ fence value, .signal fence value ∈ device.log → fence < device.nextId

/-- The invariant of a session and its chronicle. Each queue has a fence of its own, and each
submission begins where the last one to its queue left off. -/
structure InOrder (session : Session) (history : List Submission) : Prop where
  numbered : session.device.native.Numbered
  apart : (session.queues.map Queue.fence).Nodup
  counted : ∀ queue ∈ session.queues, ∃ fence,
    session.device.native.fence? queue.fence = some fence ∧ fence.Counts queue history
  given : ∀ submission ∈ history, submission.queue.fence < session.device.native.nextId
  own : ∀ queue ∈ session.queues, ∀ submission ∈ history,
    submission.queue.fence = queue.fence → submission.after.lastSubmitted ≤ queue.lastSubmitted
  successive : history.Pairwise fun first second =>
    first.queue.fence = second.queue.fence →
      first.after.lastSubmitted ≤ second.queue.lastSubmitted
  logged : ∀ queue ∈ session.queues,
    signaledValues queue.fence session.device.native.log <:+
      signaledValues queue.fence (history.flatMap Submission.events)

namespace NativeDevice

/-- The device that recording starts with knows no fence. -/
theorem numbered_fresh : fresh.Numbered := ⟨nofun, nofun⟩

/-- What leaves the fences alone keeps them numbered. -/
theorem Numbered.quiet {before after : NativeDevice} (numbered : before.Numbered)
    (quiet : before.Quiet after) : after.Numbered := by
  refine ⟨fun fence member => ?_, fun fence value member => ?_⟩
  · rw [quiet.fences] at member
    exact Nat.lt_of_lt_of_le (numbered.fences fence member) quiet.nextId
  · exact Nat.lt_of_lt_of_le (numbered.signals fence value (quiet.log.mem member)) quiet.nextId

/-- So does what changes them in place. -/
theorem Numbered.of_map {before after : NativeDevice} (numbered : before.Numbered)
    {change : Fence → Fence} (fences : after.fences = before.fences.map change)
    (sameId : ∀ fence, (change fence).id = fence.id) (nextId : before.nextId ≤ after.nextId)
    (signals : ∀ fence value, .signal fence value ∈ after.log → fence < after.nextId) :
    after.Numbered := by
  refine ⟨fun fence member => ?_, signals⟩
  rw [fences] at member
  obtain ⟨old, inBefore, rfl⟩ := List.mem_map.mp member
  rw [sameId]
  exact Nat.lt_of_lt_of_le (numbered.fences old inBefore) nextId

/-- A fence that is found was given its identity before. -/
theorem Numbered.lt_of_fence? {device : NativeDevice} (numbered : device.Numbered) {id : ObjectId}
    {fence : Fence} (found : device.fence? id = some fence) : id < device.nextId := by
  rw [← id_of_fence? found]
  exact numbered.fences fence (List.mem_of_find?_eq_some found)

/-- A device with a new fence. -/
theorem Numbered.furnished {device : NativeDevice} (numbered : device.Numbered) :
    device.furnished.Numbered := by
  refine ⟨fun fence member => ?_, fun fence value member => ?_⟩
  · obtain old | new := List.mem_append.mp member
    · exact Nat.lt_of_lt_of_le (numbered.fences fence old) (Nat.le_add_right _ _)
    · cases List.mem_singleton.mp new
      exact Nat.lt_succ_self _
  · exact Nat.lt_of_lt_of_le (numbered.signals fence value member) (Nat.le_add_right _ _)

/-- The new fence is found under its identity. -/
theorem Numbered.fence?_new {device : NativeDevice} (numbered : device.Numbered) :
    device.furnished.fence? (device.nextId + 1) = some ⟨device.nextId + 1, 0, 0⟩ := by
  have absent : device.fence? (device.nextId + 1) = none := by
    cases found : device.fence? (device.nextId + 1) with
    | none => rfl
    | some fence =>
      exact absurd (numbered.lt_of_fence? found) (Nat.not_lt.mpr (Nat.le_succ _))
  have found : device.furnished.fence? (device.nextId + 1) =
      (device.fence? (device.nextId + 1)).or
        ([⟨device.nextId + 1, 0, 0⟩].find? fun fence => fence.id == device.nextId + 1) :=
    List.find?_append
  rw [found, absent]
  simp

/-- The fences before it are found as before. -/
theorem fence?_furnished {device : NativeDevice} {id : ObjectId} {fence : Fence}
    (found : device.fence? id = some fence) : device.furnished.fence? id = some fence := by
  have searched : device.furnished.fence? id =
      (device.fence? id).or
        ([⟨device.nextId + 1, 0, 0⟩].find? fun fence => fence.id == id) :=
    List.find?_append
  rw [searched, found]
  rfl

end NativeDevice

/-- A device starts out numbered if the native device does, as a fresh one does. -/
theorem Device.numbered_of_create {native : NativeDevice} {description : DeviceDescription}
    {device : Device} (created : create native description = .ok device)
    (numbered : native.Numbered) : device.native.Numbered := by
  unfold create at created
  split at created
  · simp only [bind_eq_ok, pure_eq_ok] at created
    obtain ⟨_, _, _, _, _, _, _, _, rfl⟩ := created
    have first := numbered.quiet native.quiet_createObject
    exact first.quiet (NativeDevice.quiet_createObject _)
  · cases created

namespace InOrder

variable {session : Session} {history : List Submission}

/-- The fence of a queue was given its identity before. -/
theorem fence_lt (inOrder : InOrder session history) {queue : Queue}
    (member : queue ∈ session.queues) : queue.fence < session.device.native.nextId := by
  obtain ⟨fence, found, _⟩ := inOrder.counted queue member
  exact inOrder.numbered.lt_of_fence? found

theorem quiet (inOrder : InOrder session history) {device : Device}
    (quiet : session.device.native.Quiet device.native) :
    InOrder ⟨device, session.queues⟩ history where
  numbered := inOrder.numbered.quiet quiet
  apart := inOrder.apart
  counted queue member := by
    obtain ⟨fence, found, counts⟩ := inOrder.counted queue member
    exact ⟨fence, (NativeDevice.fence?_congr quiet.fences _).trans found, counts⟩
  given submission member :=
    Nat.lt_of_lt_of_le (inOrder.given submission member) quiet.nextId
  own := inOrder.own
  successive := inOrder.successive
  logged queue member := (quiet.log.filterMap _).trans (inOrder.logged queue member)

theorem completed (inOrder : InOrder session history) :
    InOrder (session.withNative session.device.native.completeAll) history where
  numbered := inOrder.numbered.of_map (NativeDevice.fences_completeAll _) (fun _ => rfl)
    (Nat.le_refl _) inOrder.numbered.signals
  apart := inOrder.apart
  counted queue member := by
    obtain ⟨fence, found, counts⟩ := inOrder.counted queue member
    refine ⟨fence.complete fence.signaled, ?_, counts.caughtUp⟩
    refine (NativeDevice.fence?_map (NativeDevice.fences_completeAll _) (fun _ => rfl)
      queue.fence).trans ?_
    rw [found]
    rfl
  given := inOrder.given
  own := inOrder.own
  successive := inOrder.successive
  logged := inOrder.logged

/-- The fence of a new queue is none of those before, so nothing was submitted under it. -/
theorem created (inOrder : InOrder session history) (native : NativeQueue) (type : QueueType) :
    InOrder ⟨{ session.device with native := session.device.native.furnished },
      session.queues ++
        [⟨type, native, session.device.native.nextId + 1, 0, [], [], false⟩]⟩ history where
  numbered := inOrder.numbered.furnished
  apart := by
    rw [List.map_append, List.nodup_append]
    refine ⟨inOrder.apart, List.pairwise_singleton _ _, fun id old new isNew => ?_⟩
    obtain ⟨queue, member, rfl⟩ := List.mem_map.mp old
    cases List.mem_singleton.mp isNew
    exact Nat.ne_of_lt (Nat.lt_succ_of_lt (inOrder.fence_lt member))
  counted queue member := by
    obtain old | new := List.mem_append.mp member
    · obtain ⟨fence, found, counts⟩ := inOrder.counted queue old
      exact ⟨fence, NativeDevice.fence?_furnished found, counts⟩
    · cases List.mem_singleton.mp new
      exact ⟨_, inOrder.numbered.fence?_new, Nat.le_refl _, Nat.le_refl _, .inl rfl⟩
  given submission member :=
    Nat.lt_of_lt_of_le (inOrder.given submission member) (Nat.le_add_right _ _)
  own queue member submission inHistory sameFence := by
    obtain old | new := List.mem_append.mp member
    · exact inOrder.own queue old submission inHistory sameFence
    · cases List.mem_singleton.mp new
      have before := inOrder.given submission inHistory
      rw [sameFence] at before
      exact absurd before (Nat.not_lt.mpr (Nat.le_succ _))
  successive := inOrder.successive
  logged queue member := by
    obtain old | new := List.mem_append.mp member
    · exact inOrder.logged queue old
    · cases List.mem_singleton.mp new
      have none : signaledValues (session.device.native.nextId + 1) session.device.native.log =
          [] := by
        refine List.eq_nil_iff_forall_not_mem.mpr fun value signaled => ?_
        have before := inOrder.numbered.signals _ _ (signal_of_mem_signaledValues signaled)
        exact absurd before (Nat.not_lt.mpr (Nat.le_succ _))
      exact none ▸ List.nil_suffix

/-- After a submission to one of the queues each of them is that one, or one from before with
another fence. -/
theorem mem_queues {submission : Submission} {front back : List Queue}
    (inOrder : InOrder session history)
    (queues : session.queues = front ++ submission.queue :: back) {queue : Queue}
    (member : queue ∈ front ++ submission.after :: back) :
    queue = submission.after ∨
      (queue ∈ session.queues ∧ queue.fence ≠ submission.queue.fence) := by
  have apart := inOrder.apart
  rw [queues, List.map_append, List.map_cons, List.perm_middle.nodup_iff, List.nodup_cons,
    ← List.map_append] at apart
  have old : queue ∈ front ++ back →
      queue ∈ session.queues ∧ queue.fence ≠ submission.queue.fence := by
    intro found
    refine ⟨queues ▸ ?_, fun same => apart.1 (List.mem_map.mpr ⟨queue, found, same⟩)⟩
    exact List.mem_append.mpr ((List.mem_append.mp found).imp_right (List.mem_cons_of_mem _))
  obtain inFront | inRest := List.mem_append.mp member
  · exact .inr (old (List.mem_append_left _ inFront))
  · obtain here | inBack := List.mem_cons.mp inRest
    · exact .inl here
    · exact .inr (old (List.mem_append_right _ inBack))

theorem submitted (inOrder : InOrder session history) {submission : Submission}
    {front back : List Queue} (device : submission.device = session.device)
    (queues : session.queues = front ++ submission.queue :: back) :
    InOrder ⟨submission.final, front ++ submission.after :: back⟩
      (history ++ [submission]) := by
  have here : submission.queue ∈ session.queues := by
    rw [queues]
    exact List.mem_append_right _ List.mem_cons_self
  have nextId : session.device.native.nextId ≤ submission.final.native.nextId :=
    device ▸ submission.submits.advances.nextId
  obtain ⟨change, alters, fences⟩ := submission.exists_alters
  rw [device] at fences
  have log := submission.log_eq
  rw [device] at log
  constructor
  case numbered =>
    refine inOrder.numbered.of_map fences alters.id_eq nextId fun fence value member => ?_
    refine Nat.lt_of_lt_of_le ?_ nextId
    rw [log] at member
    obtain old | new := List.mem_append.mp member
    · exact inOrder.numbered.signals fence value old
    · have signaled : value ∈ signaledValues fence submission.events :=
        List.mem_filterMap.mpr ⟨_, new, if_pos rfl⟩
      rw [(Submission.eq_of_mem_signaledValues signaled).1]
      exact inOrder.fence_lt here
  case apart =>
    have same : (front ++ submission.after :: back).map Queue.fence =
        session.queues.map Queue.fence := by
      rw [queues, List.map_append, List.map_append, List.map_cons, List.map_cons,
        submission.fence_after]
    exact same ▸ inOrder.apart
  case counted =>
    intro queue member
    obtain rfl | ⟨old, otherFence⟩ := inOrder.mem_queues queues member
    · obtain ⟨fence, found, counts⟩ := inOrder.counted submission.queue here
      refine ⟨change fence, ?_, counts.alter alters (NativeDevice.id_of_fence? found)⟩
      rw [submission.fence_after, NativeDevice.fence?_map fences alters.id_eq, found]
      rfl
    · obtain ⟨fence, found, counts⟩ := inOrder.counted queue old
      have unchanged : change fence = fence :=
        alters.eq_of_ne (NativeDevice.id_of_fence? found ▸ otherFence)
      refine ⟨fence, ?_, counts.append submission⟩
      rw [NativeDevice.fence?_map fences alters.id_eq, found, Option.map_some, unchanged]
  case given =>
    intro other member
    refine Nat.lt_of_lt_of_le ?_ nextId
    obtain old | new := List.mem_append.mp member
    · exact inOrder.given other old
    · cases List.mem_singleton.mp new
      exact inOrder.fence_lt here
  case own =>
    intro queue member other inHistory sameFence
    obtain rfl | ⟨old, otherFence⟩ := inOrder.mem_queues queues member
    · obtain before | now := List.mem_append.mp inHistory
      · rw [submission.fence_after] at sameFence
        exact Nat.le_trans (inOrder.own _ here other before sameFence)
          submission.submits.numbers.2
      · cases List.mem_singleton.mp now
        exact Nat.le_refl _
    · obtain before | now := List.mem_append.mp inHistory
      · exact inOrder.own queue old other before sameFence
      · cases List.mem_singleton.mp now
        exact absurd sameFence.symm otherFence
  case successive =>
    refine List.pairwise_append.mpr ⟨inOrder.successive, List.pairwise_singleton _ _, ?_⟩
    intro first inHistory second isLast sameFence
    cases List.mem_singleton.mp isLast
    exact inOrder.own _ here first inHistory sameFence
  case logged =>
    intro queue member
    have isOld : ∃ old ∈ session.queues, old.fence = queue.fence := by
      obtain rfl | ⟨old, _⟩ := inOrder.mem_queues queues member
      · exact ⟨_, here, submission.fence_after.symm⟩
      · exact ⟨queue, old, rfl⟩
    obtain ⟨old, inQueues, sameFence⟩ := isOld
    obtain ⟨cleared, kept⟩ := inOrder.logged old inQueues
    refine ⟨cleared, ?_⟩
    rw [← sameFence, log, List.flatMap_append, signaledValues_append, signaledValues_append,
      ← List.append_assoc, kept, List.flatMap_singleton]

/-- Every change of a session keeps the order. -/
theorem changes (inOrder : InOrder session history) {submission? : Option Submission}
    {next : Session} (changes : session.Changes submission? next) :
    InOrder next (history ++ submission?.toList) := by
  cases changes with
  | quiet native => exact (List.append_nil history).symm ▸ inOrder.quiet native
  | completed => exact (List.append_nil history).symm ▸ inOrder.completed
  | @created native type => exact (List.append_nil history).symm ▸ inOrder.created native type
  | submitted device queues => exact inOrder.submitted device queues

/-- Whatever a program does with a device, its queues and their chronicle are in order. -/
theorem after {device : Device} (numbered : device.native.Numbered) (actions : List Action) :
    InOrder ((Session.start device).after actions)
      ((Session.start device).submissions actions) := by
  have noQueue : ∀ queue, queue ∉ (Session.start device).queues := fun _ => List.not_mem_nil
  have start : InOrder (Session.start device) [] :=
    { numbered := numbered
      apart := .nil
      counted := fun queue member => absurd member (noQueue queue)
      given := fun _ member => absurd member List.not_mem_nil
      own := fun queue member => absurd member (noQueue queue)
      successive := .nil
      logged := fun queue member => absurd member (noQueue queue) }
  exact Session.holds_after (fun _ _ _ _ inOrder changes => inOrder.changes changes) start actions

end InOrder

/-! ## Tokens -/

namespace Submission

variable {submission : Submission}

/-- The value of the token that a submission was answered with, unless it is zero. -/
def tokenValue? (submission : Submission) : Option Nat :=
  (submission.token?.map Token.value).filter (· ≠ 0)

/-- A token is zero, or has the last value of its queue, which was new. -/
theorem token_cases {token : Token} (given : submission.token? = some token) :
    token = ⟨submission.queue.fence, 0⟩ ∨
      (token = ⟨submission.queue.fence, submission.after.lastSubmitted⟩ ∧
        submission.queue.lastSubmitted < submission.after.lastSubmitted) := by
  unfold token? at given
  cases submission.outcome with
  | idle answer =>
    rw [answer] at given
    exact .inl (Option.some.inj given).symm
  | stopped answer =>
    rw [answer] at given
    cases given
  | unsignaled answer =>
    rw [answer] at given
    cases given
  | signaled answer last =>
    rw [answer] at given
    rw [last]
    exact .inr ⟨(Option.some.inj given).symm, Nat.lt_succ_self _⟩

theorem value?_of_lt (new : submission.queue.lastSubmitted < submission.after.lastSubmitted) :
    submission.value? = some submission.after.lastSubmitted :=
  if_neg (Nat.ne_of_gt new)

theorem lt_of_value? {value : Nat} (used : submission.value? = some value) :
    value = submission.after.lastSubmitted ∧ submission.queue.lastSubmitted < value := by
  unfold value? at used
  split at used
  · cases used
  · rename_i new
    cases used
    exact ⟨rfl, Nat.lt_of_le_of_ne submission.submits.numbers.2 (Ne.symm new)⟩

theorem of_tokenValue? {value : Nat} (given : submission.tokenValue? = some value) :
    value = submission.after.lastSubmitted ∧ submission.queue.lastSubmitted < value := by
  obtain ⟨isValue, nonzero⟩ := Option.filter_eq_some_iff.mp given
  obtain ⟨token, isToken, rfl⟩ := Option.map_eq_some_iff.mp isValue
  obtain rfl | ⟨rfl, new⟩ := token_cases isToken
  · simp at nonzero
  · exact ⟨rfl, new⟩

/-- A submission that used up a value executed its lists after its waits. -/
theorem executed_of_value? {value : Nat} (used : submission.value? = some value) :
    ∃ lists behind, submission.Records lists ∧
      submission.events =
        submission.waits.map Token.waiting ++ (QueueEvent.executing lists ++ behind) := by
  have new := lt_of_value? used
  cases submission.outcome with
  | idle _ last => omega
  | stopped _ last => omega
  | unsignaled _ _ records log =>
    refine ⟨_, [], records, ?_⟩
    rw [events_eq log, List.append_nil]
  | signaled _ _ records log => exact ⟨_, _, records, events_eq log⟩

end Submission

namespace Queue

/-- The submissions to a queue, which are those under its fence. -/
def chronicle (queue : Queue) (history : List Submission) : List Submission :=
  history.filter fun submission => submission.queue.fence = queue.fence

/-- The fence of a queue counts its submissions, and its tokens mean what they promise. -/
structure Promises (queue : Queue) (device : NativeDevice) (history : List Submission) :
    Prop where
  /-- The tokens handed out, but for those of value zero, are strictly ordered. -/
  tokens : ((queue.chronicle history).filterMap Submission.tokenValue?).Pairwise (· < ·)
  /-- A token that is not zero has the value that its submission used up. -/
  given : ∀ submission ∈ queue.chronicle history, ∀ token, submission.token? = some token →
    token.fence = queue.fence ∧ (token.value ≠ 0 → submission.value? = some token.value)
  /-- The values that were ever signaled are strictly ordered, too. -/
  signals : (signaledValues queue.fence (history.flatMap Submission.events)).Pairwise (· < ·)
  /-- The log has the last of them, up to what was cleared. -/
  logged : signaledValues queue.fence device.log <:+
    signaledValues queue.fence (history.flatMap Submission.events)
  /-- No more is complete than signaled, and no more is signaled than submitted. -/
  counted : ∃ fence, device.fence? queue.fence = some fence ∧
    fence.completed ≤ fence.signaled ∧ fence.signaled ≤ queue.lastSubmitted
  /-- With a token that is not zero, all before it are reached. -/
  earlier : (queue.chronicle history).Pairwise fun first second => ∀ token later,
    first.token? = some token → second.token? = some later → later.value ≠ 0 →
      later.isReached device = true → token.isReached device = true
  /-- When a value is complete, the submission that used it up executed its lists, and then that
  value or one above was signaled. -/
  meaning : ∀ front submission back, history = front ++ submission :: back →
    submission.queue.fence = queue.fence → ∀ value, submission.value? = some value →
      value ≤ device.completedValue queue.fence →
        ∃ lists behind signaled, submission.Records lists ∧
          (submission :: back).flatMap Submission.events =
            submission.waits.map Token.waiting ++ (QueueEvent.executing lists ++ behind) ∧
          .signal queue.fence signaled ∈ behind ∧ value ≤ signaled

end Queue

namespace InOrder

variable {session : Session} {history : List Submission} {queue : Queue}

/-- Of two submissions to a queue, the second begins where the first left off, or above. -/
theorem chronicle (inOrder : InOrder session history) (queue : Queue) :
    (queue.chronicle history).Pairwise fun first second =>
      first.after.lastSubmitted ≤ second.queue.lastSubmitted := by
  refine (inOrder.successive.filter _).imp_of_mem fun isFirst isSecond ordered => ordered ?_
  exact (of_decide_eq_true (List.mem_filter.mp isFirst).2).trans
    (of_decide_eq_true (List.mem_filter.mp isSecond).2).symm

theorem tokens (inOrder : InOrder session history) (queue : Queue) :
    ((queue.chronicle history).filterMap Submission.tokenValue?).Pairwise (· < ·) := by
  refine List.pairwise_filterMap.mpr ((inOrder.chronicle queue).imp fun ordered => ?_)
  intro value isFirst later isSecond
  obtain ⟨rfl, _⟩ := Submission.of_tokenValue? isFirst
  exact Nat.lt_of_le_of_lt ordered (Submission.of_tokenValue? isSecond).2

theorem signals (inOrder : InOrder session history) (fence : ObjectId) :
    (signaledValues fence (history.flatMap Submission.events)).Pairwise (· < ·) := by
  rw [signaledValues_flatMap]
  refine List.pairwise_flatMap.mpr ⟨fun submission _ => ?_, inOrder.successive.imp ?_⟩
  · obtain none | ⟨_, _, one⟩ := submission.signaledValues_events fence
    · exact none ▸ .nil
    · exact one ▸ List.pairwise_singleton _ _
  · intro first second ordered value inFirst later inSecond
    obtain ⟨ofFirst, rfl, last⟩ := Submission.eq_of_mem_signaledValues inFirst
    obtain ⟨ofSecond, rfl, _⟩ := Submission.eq_of_mem_signaledValues inSecond
    rw [← last]
    exact Nat.lt_succ_of_le (ordered (ofFirst.symm.trans ofSecond))

/-- What is complete on the fence of a queue was signaled on it. -/
theorem signaled_of_complete (inOrder : InOrder session history)
    (member : queue ∈ session.queues) {value : Nat} (positive : 0 < value)
    (complete : value ≤ session.device.native.completedValue queue.fence) :
    ∃ signaled ∈ signaledValues queue.fence (history.flatMap Submission.events),
      value ≤ signaled := by
  obtain ⟨fence, found, counts⟩ := inOrder.counted queue member
  rw [NativeDevice.completedValue, found] at complete
  have atMost : value ≤ fence.signaled := Nat.le_trans complete counts.completed
  exact ⟨fence.signaled, counts.issued.resolve_left (by omega), atMost⟩

theorem earlier (inOrder : InOrder session history) (queue : Queue) (device : NativeDevice) :
    (queue.chronicle history).Pairwise fun first second => ∀ token later,
      first.token? = some token → second.token? = some later → later.value ≠ 0 →
        later.isReached device = true → token.isReached device = true := by
  refine (inOrder.chronicle queue).imp_of_mem fun isFirst isSecond ordered => ?_
  intro token later isToken isLater nonzero reached
  have ofFirst := of_decide_eq_true (List.mem_filter.mp isFirst).2
  have ofSecond := of_decide_eq_true (List.mem_filter.mp isSecond).2
  obtain rfl | ⟨rfl, new⟩ := Submission.token_cases isLater
  · exact absurd rfl nonzero
  · have complete := of_decide_eq_true reached
    rw [ofSecond] at complete
    refine decide_eq_true ?_
    obtain rfl | ⟨rfl, _⟩ := Submission.token_cases isToken
    · exact Nat.zero_le _
    · rw [ofFirst]
      exact Nat.le_trans ordered (Nat.le_trans (Nat.le_of_lt new) complete)

theorem meaning (inOrder : InOrder session history) (member : queue ∈ session.queues)
    {front back : List Submission} {submission : Submission}
    (isHistory : history = front ++ submission :: back)
    (own : submission.queue.fence = queue.fence) {value : Nat}
    (used : submission.value? = some value)
    (complete : value ≤ session.device.native.completedValue queue.fence) :
    ∃ lists behind signaled, submission.Records lists ∧
      (submission :: back).flatMap Submission.events =
        submission.waits.map Token.waiting ++ (QueueEvent.executing lists ++ behind) ∧
      .signal queue.fence signaled ∈ behind ∧ value ≤ signaled := by
  obtain ⟨isLast, new⟩ := Submission.lt_of_value? used
  obtain ⟨lists, behind, records, events⟩ := Submission.executed_of_value? used
  obtain ⟨signaled, isSignaled, atLeast⟩ :=
    inOrder.signaled_of_complete member (Nat.zero_lt_of_lt new) complete
  have whole : (submission :: back).flatMap Submission.events =
      submission.waits.map Token.waiting ++
        (QueueEvent.executing lists ++ (behind ++ back.flatMap Submission.events)) := by
    rw [List.flatMap_cons, events, List.append_assoc, List.append_assoc]
  -- Submissions before this one signaled less, so the signal is here or behind.
  have notBefore : signaled ∉ signaledValues queue.fence (front.flatMap Submission.events) := by
    intro before
    rw [signaledValues_flatMap] at before
    obtain ⟨other, inFront, inEvents⟩ := List.mem_flatMap.mp before
    obtain ⟨same, rfl, last⟩ := Submission.eq_of_mem_signaledValues inEvents
    have successive := inOrder.successive
    rw [isHistory] at successive
    have ordered := (List.pairwise_append.mp successive).2.2 other inFront submission
      List.mem_cons_self (same.symm.trans own.symm)
    omega
  rw [isHistory, List.flatMap_append, signaledValues_append] at isSignaled
  have isHere := (List.mem_append.mp isSignaled).resolve_left notBefore
  rw [whole, signaledValues_append, signaledValues_append, signaledValues_waiting,
    signaledValues_executing] at isHere
  exact ⟨lists, _, signaled, records, whole, signal_of_mem_signaledValues isHere, atLeast⟩

theorem promises (inOrder : InOrder session history) (member : queue ∈ session.queues) :
    queue.Promises session.device.native history where
  tokens := inOrder.tokens queue
  given submission isOwn token isToken := by
    have own := of_decide_eq_true (List.mem_filter.mp isOwn).2
    obtain rfl | ⟨rfl, new⟩ := Submission.token_cases isToken
    · exact ⟨own, absurd rfl⟩
    · exact ⟨own, fun _ => Submission.value?_of_lt new⟩
  signals := inOrder.signals queue.fence
  logged := inOrder.logged queue member
  counted := by
    obtain ⟨fence, found, counts⟩ := inOrder.counted queue member
    exact ⟨fence, found, counts.completed, counts.signaled⟩
  earlier := inOrder.earlier queue _
  meaning _ _ _ isHistory own _ used complete :=
    inOrder.meaning member isHistory own used complete

end InOrder

/-- What is complete stays complete, whatever is done to the device next. -/
theorem Session.completedValue_le_after (session : Session) (actions : List Action)
    (fence : ObjectId) :
    session.device.native.completedValue fence ≤
      (session.after actions).device.native.completedValue fence :=
  (session.evolves_after actions).native.completed fence

/-- So a token that is reached stays reached. -/
theorem Session.isReached_after (session : Session) (actions : List Action) {token : Token}
    (reached : token.isReached session.device.native = true) :
    token.isReached (session.after actions).device.native = true :=
  decide_eq_true (Nat.le_trans (of_decide_eq_true reached)
    (session.completedValue_le_after actions token.fence))

/-- Tokens are promises that are kept in order. Whatever a program does with a device, each queue
has a fence of its own, which counts the submissions to it, failed ones included. What is complete
on a fence stays complete. A submission with nothing to do is outside of the count: its token has
value zero and is reached from the beginning. -/
theorem tokens_promise {device : Device} (numbered : device.native.Numbered)
    (actions : List Action) :
    let session := (Session.start device).after actions
    let history := (Session.start device).submissions actions
    (session.queues.map Queue.fence).Nodup ∧
      (∀ queue ∈ session.queues, queue.Promises session.device.native history) ∧
      ∀ later,
        (∀ fence, session.device.native.completedValue fence ≤
          (session.after later).device.native.completedValue fence) ∧
        ∀ token : Token, token.isReached session.device.native = true →
          token.isReached (session.after later).device.native = true := by
  have inOrder := InOrder.after numbered actions
  exact ⟨inOrder.apart, fun queue member => inOrder.promises member, fun later =>
    ⟨Session.completedValue_le_after _ later, fun _ => Session.isReached_after _ later⟩⟩

/-- Three submissions to one queue. The signal of the second fails, and all work is finished by
hand after the third. -/
theorem tokens_promise_unsignaled :
    let buffer := CommandBuffer.ofCalls [.resourceBarriers [] [.global]]
    let actions : List Action :=
      [.createQueue .graphics .graphics, .setAutoComplete false, .submit 0 [buffer] [],
        .armSignalFailure, .submit 0 [buffer] [], .submit 0 [buffer] [], .completeAll]
    let session := (Session.start .small).after actions
    let history := (Session.start .small).submissions actions
    Device.small.native.Numbered ∧
      history.map Submission.value? = [some 1, some 2, some 3] ∧
      history.map Submission.token? = [some ⟨4, 1⟩, none, some ⟨4, 3⟩] ∧
      session.device.native.completedValue 4 = 3 ∧
      ∀ queue ∈ session.queues, queue.Promises session.device.native history := by
  intro buffer actions session history
  have numbered : Device.small.native.Numbered := ⟨nofun, nofun⟩
  refine ⟨numbered, by decide +kernel, by decide +kernel, by decide +kernel, ?_⟩
  exact (tokens_promise numbered actions).2.1

/-- A submission with nothing to do has a token that is reached before those of submissions made
earlier. -/
theorem reached_before_earlier :
    let buffer := CommandBuffer.ofCalls [.resourceBarriers [] [.global]]
    let actions : List Action :=
      [.createQueue .graphics .graphics, .setAutoComplete false, .submit 0 [buffer] [],
        .submit 0 [] []]
    let session := (Session.start .small).after actions
    let history := (Session.start .small).submissions actions
    ∃ queue ∈ session.queues,
      ¬(queue.chronicle history).Pairwise fun first second => ∀ token later,
        first.token? = some token → second.token? = some later →
          later.isReached session.device.native = true →
            token.isReached session.device.native = true := by
  intro buffer actions session history
  have fences : session.queues.map Queue.fence = [4] := by decide +kernel
  obtain ⟨queue, member, own⟩ : ∃ queue ∈ session.queues, queue.fence = 4 :=
    List.mem_map.mp (fences ▸ List.mem_singleton_self 4)
  refine ⟨queue, member, fun ordered => ?_⟩
  have tokens : (queue.chronicle history).map Submission.token? =
      [some ⟨4, 1⟩, some ⟨4, 0⟩] := by
    rw [Queue.chronicle, own]
    decide +kernel
  have pending : Token.isReached ⟨4, 1⟩ session.device.native = false := by decide +kernel
  have reached : Token.isReached ⟨4, 0⟩ session.device.native = true := by decide +kernel
  have claimed : ((queue.chronicle history).map Submission.token?).Pairwise fun first second =>
      ∀ token later, first = some token → second = some later →
        later.isReached session.device.native = true →
          token.isReached session.device.native = true := List.pairwise_map.mpr ordered
  rw [tokens] at claimed
  have overtaken := (List.pairwise_cons.mp claimed).1 _ (List.mem_singleton_self _) _ _ rfl rfl
    reached
  cases pending.symm.trans overtaken

end CommandStream
