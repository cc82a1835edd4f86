import CommandStream.Proofs.FenceOrder
/-!
# The history of fences

The users of a native device create fences and signal values on them in any order, smaller values
behind larger ones included. `FenceUse` keeps what they did beside the device: for each fence the
value that it was created with and those that were signaled on it with success. A fence is never
further than it was signaled (`FenceRecord.Describes`), and neither of its two counters goes back
(`NativeDevice.Raises`). What waits come to that give up at once is decided by the counters alone,
in whatever order tokens are waited for.
-/

namespace CommandStream

/-! ## Fences and what is known of them -/

/-- What the users of a fence know: its identity, the value that it was created with, and the
values that were signaled on it with success, the oldest first. -/
structure FenceRecord where
  id : ObjectId
  initial : Nat
  values : List Nat

namespace FenceRecord

/-- The largest of the initial value and the signaled ones. -/
def highest (record : FenceRecord) : Nat := record.values.foldl max record.initial

/-- The record after a value was signaled on a fence, which may be another one. -/
def noted (fence : ObjectId) (value : Nat) (record : FenceRecord) : FenceRecord :=
  if record.id = fence then { record with values := record.values ++ [value] } else record

@[simp] theorem id_noted (fence : ObjectId) (value : Nat) (record : FenceRecord) :
    (record.noted fence value).id = record.id := by
  unfold noted
  split <;> rfl

/-- A fence is signaled up to the largest value of its record, and completed no further. -/
structure Describes (record : FenceRecord) (fence : Fence) : Prop where
  id : fence.id = record.id
  completed : fence.completed ≤ fence.signaled
  signaled : fence.signaled = record.highest

namespace Describes

variable {record : FenceRecord} {fence : Fence}

/-- A new fence has completed the value that it is signaled at. -/
theorem created (id : ObjectId) (initial : Nat) :
    Describes ⟨id, initial, []⟩ ⟨id, initial, initial⟩ :=
  ⟨rfl, Nat.le_refl _, rfl⟩

/-- Catching up with the signals. -/
theorem caughtUp (describes : record.Describes fence) :
    record.Describes (fence.complete fence.signaled) :=
  ⟨describes.id, Nat.max_le.mpr ⟨describes.completed, Nat.le_refl _⟩, describes.signaled⟩

/-- A signal raises its fence and is noted in its record. All others are left alone. -/
theorem signal (describes : record.Describes fence) (id : ObjectId) (value : Nat)
    (atOnce : Bool) :
    (record.noted id value).Describes
      (if fence.id = id then fence.signaledAt value atOnce else fence) := by
  unfold noted
  rw [describes.id]
  split
  · refine ⟨(fence.id_signaledAt value atOnce).trans describes.id, ?_, ?_⟩
    · have atMost := fence.completed_signaledAt_le value atOnce
      have below := describes.completed
      rw [Fence.signaled_signaledAt]
      omega
    · rw [Fence.signaled_signaledAt, describes.signaled, highest, highest, List.foldl_append]
      rfl
  · exact describes

end Describes

/-- Fences that are described one by one are found by the identities of their records. -/
theorem exists_find? {records : List FenceRecord} {fences : List Fence}
    (described : List.Forall₂ Describes records fences)
    (distinct : (records.map FenceRecord.id).Nodup) {record : FenceRecord}
    (member : record ∈ records) :
    ∃ fence, fences.find? (fun fence => fence.id == record.id) = some fence ∧
      record.Describes fence := by
  induction described with
  | nil => cases member
  | @cons first fence others later describes _ inductionHypothesis =>
    obtain ⟨new, distinct⟩ := List.nodup_cons.mp distinct
    obtain rfl | member := List.mem_cons.mp member
    · exact ⟨fence, List.find?_cons_of_pos (beq_iff_eq.mpr describes.id), describes⟩
    · obtain ⟨found, isFound, describesFound⟩ := inductionHypothesis distinct member
      have other : fence.id ≠ record.id := fun same =>
        new (describes.id ▸ same ▸ List.mem_map_of_mem member)
      exact ⟨found, (List.find?_cons_of_neg (by simpa using other)).trans isFound, describesFound⟩

end FenceRecord

/-! ## From one state to a later one -/

/-- A signal of a fence leaves all identities. -/
theorem Fence.id_signaledIf (fence : Fence) (id : ObjectId) (value : Nat) (atOnce : Bool) :
    (if fence.id = id then fence.signaledAt value atOnce else fence).id = fence.id := by
  split
  · exact fence.id_signaledAt value atOnce
  · rfl

/-- A signal lowers neither counter. -/
theorem Fence.le_signaledAt (fence : Fence) (value : Nat) (atOnce : Bool) :
    fence.completed ≤ (fence.signaledAt value atOnce).completed ∧
      fence.signaled ≤ (fence.signaledAt value atOnce).signaled := by
  rw [signaled_signaledAt]
  refine ⟨?_, Nat.le_max_left _ _⟩
  cases atOnce with
  | false => exact Nat.le_refl _
  | true => exact Nat.le_max_left _ _

namespace NativeDevice

/-- All fences are still there, and none has gone back. -/
def Raises (before after : NativeDevice) : Prop :=
  ∀ id fence, before.fence? id = some fence →
    ∃ raised, after.fence? id = some raised ∧ fence.completed ≤ raised.completed ∧
      fence.signaled ≤ raised.signaled

namespace Raises

variable {before after : NativeDevice}

/-- Fences that are left alone do not go back. -/
theorem of_fences (same : after.fences = before.fences) : before.Raises after := by
  intro id fence found
  exact ⟨fence, (fence?_congr same id).trans found, Nat.le_refl _, Nat.le_refl _⟩

theorem trans {middle : NativeDevice} (front : before.Raises middle)
    (back : middle.Raises after) : before.Raises after := by
  intro id fence found
  obtain ⟨raised, isRaised, completed, signaled⟩ := front id fence found
  obtain ⟨final, isFinal, completedBehind, signaledBehind⟩ := back id raised isRaised
  exact ⟨final, isFinal, Nat.le_trans completed completedBehind,
    Nat.le_trans signaled signaledBehind⟩

/-- Neither do fences that are changed in place, if no change lowers a counter. -/
theorem of_map {change : Fence → Fence} (changed : after.fences = before.fences.map change)
    (sameId : ∀ fence, (change fence).id = fence.id)
    (grows : ∀ fence, fence.completed ≤ (change fence).completed ∧
      fence.signaled ≤ (change fence).signaled) : before.Raises after := by
  intro id fence found
  exact ⟨change fence, by rw [fence?_map changed sameId, found]; rfl, grows fence⟩

/-- A new fence is behind those that are there. -/
theorem of_append {new : List Fence} (added : after.fences = before.fences ++ new) :
    before.Raises after := by
  intro id fence found
  refine ⟨fence, ?_, Nat.le_refl _, Nat.le_refl _⟩
  rw [fence?, added, List.find?_append]
  exact congrArg (Option.or · _) found

end Raises

end NativeDevice

/-! ## What is done to fences -/

/-- What the users of a native device do to its fences, and what decides how these take it. A fence
is named by its number among those that were created. A signal may come from any queue, which makes
no difference to the fence. -/
inductive FenceAction
  | createQueue (type : QueueType)
  | createFence (initial : Nat)
  | signal (number : Nat) (value : Nat)
  | setAutoComplete (on : Bool)
  | completeAll
  | lose
  | armSignalFailure

/-- A native device with the records of the fences that were created on it. -/
structure FenceUse where
  device : NativeDevice
  records : List FenceRecord

namespace FenceUse

/-- A new device without fences. -/
def start : FenceUse := ⟨.fresh, []⟩

/-- One action. Only what succeeds is recorded. -/
def perform (use : FenceUse) : FenceAction → FenceUse
  | .createQueue type => { use with device := (use.device.createQueue type).2 }
  | .createFence initial =>
    match use.device.createFence initial with
    | (.ok id, device) => ⟨device, use.records ++ [⟨id, initial, []⟩]⟩
    | (.error _, device) => { use with device }
  | .signal number value =>
    match use.records[number]? with
    | none => use
    | some record =>
      match use.device.signal record.id value with
      | (.ok _, device) => ⟨device, use.records.map (FenceRecord.noted record.id value)⟩
      | (.error _, device) => { use with device }
  | .setAutoComplete on => { use with device := use.device.setAutoComplete on }
  | .completeAll => { use with device := use.device.completeAll }
  | .lose => { use with device := use.device.lose }
  | .armSignalFailure => { use with device := use.device.armSignalFailure }

/-- Actions in a row. -/
def after (use : FenceUse) (actions : List FenceAction) : FenceUse := actions.foldl perform use

end FenceUse

namespace NativeDevice

variable {device : NativeDevice} {fence : ObjectId} {value : Nat}

/-- A signal succeeds unless the device is lost or the signal was made to fail. One that fails
leaves the fences and the log as they are. -/
theorem signal_cases (device : NativeDevice) (fence : ObjectId) (value : Nat) :
    (device.lost = false ∧ device.failNextSignal = false ∧
      device.signal fence value = (.ok (), device.signaled fence value)) ∨
    ((device.lost = true ∨ device.failNextSignal = true) ∧
      ∃ cause final, device.signal fence value = (.error cause, final) ∧
        final.fences = device.fences ∧ final.log = device.log ∧
        final.nextId = device.nextId) := by
  unfold signal
  cases device.lost with
  | true => exact .inr ⟨.inl rfl, _, _, rfl, rfl, rfl, rfl⟩
  | false =>
    cases device.failNextSignal with
    | true => exact .inr ⟨.inr rfl, _, _, rfl, rfl, rfl, rfl⟩
    | false => exact .inl ⟨rfl, rfl, rfl⟩

theorem nextId_signaled (device : NativeDevice) (fence : ObjectId) (value : Nat) :
    (device.signaled fence value).nextId = device.nextId := by
  unfold signaled
  dsimp only
  split <;> rfl

/-- A signal that succeeds on a device that completes by itself leaves its fence completed up to the
value at least. -/
theorem completed_of_signaled (atOnce : device.autoComplete = true) {before : Fence}
    (found : device.fence? fence = some before) :
    ∃ completed, (device.signaled fence value).fence? fence = some completed ∧
      value ≤ completed.completed := by
  refine ⟨before.signaledAt value true, ?_, Nat.le_max_right _ _⟩
  rw [fence?_map (device.fences_signaled fence value) fun other => other.id_signaledIf _ _ _,
    found, Option.map_some, if_pos (id_of_fence? found), atOnce]

end NativeDevice

namespace FenceUse

variable {use : FenceUse}

/-- All that an action can come to: fences that are left alone, one fence more, a signal, or all
fences caught up. -/
inductive Becomes (use : FenceUse) : FenceUse → Prop
  | quiet {device : NativeDevice} (fences : device.fences = use.device.fences)
      (nextId : use.device.nextId ≤ device.nextId) : Becomes use ⟨device, use.records⟩
  | created {device : NativeDevice} (initial : Nat)
      (fences : device.fences = use.device.fences ++ [⟨use.device.nextId, initial, initial⟩])
      (nextId : device.nextId = use.device.nextId + 1) :
      Becomes use ⟨device, use.records ++ [⟨use.device.nextId, initial, []⟩]⟩
  | signaled (fence : ObjectId) (value : Nat) :
      Becomes use ⟨use.device.signaled fence value, use.records.map (.noted fence value)⟩
  | caughtUp : Becomes use ⟨use.device.completeAll, use.records⟩

theorem becomes_perform (use : FenceUse) (action : FenceAction) :
    use.Becomes (use.perform action) := by
  cases action with
  | createQueue => exact .quiet rfl (Nat.le_succ _)
  | createFence initial =>
    rcases made : use.device.createFence initial with ⟨error | id, device⟩
    all_goals
      simp only [perform, made]
      unfold NativeDevice.createFence at made
      split at made
      all_goals cases made
    · exact .quiet rfl (Nat.le_refl _)
    · exact .created initial rfl rfl
  | signal number value =>
    rcases found : use.records[number]? with _ | record
    · simp only [perform, found]
      exact .quiet rfl (Nat.le_refl _)
    · obtain ⟨-, -, done⟩ | ⟨-, cause, final, failed, fences, -, nextId⟩ :=
        use.device.signal_cases record.id value
      · simp only [perform, found, done]
        exact .signaled record.id value
      · simp only [perform, found, failed]
        exact .quiet fences (Nat.le_of_eq nextId.symm)
  | setAutoComplete => exact .quiet rfl (Nat.le_refl _)
  | completeAll => exact .caughtUp
  | lose => exact .quiet rfl (Nat.le_refl _)
  | armSignalFailure => exact .quiet rfl (Nat.le_refl _)

/-! ## Neither counter goes back -/

theorem Becomes.raises {after : FenceUse} (becomes : use.Becomes after) :
    use.device.Raises after.device := by
  cases becomes with
  | quiet fences => exact .of_fences fences
  | created initial fences => exact .of_append fences
  | signaled id value =>
    refine .of_map (use.device.fences_signaled id value) (fun fence => fence.id_signaledIf _ _ _)
      fun fence => ?_
    split
    · exact fence.le_signaledAt value _
    · exact ⟨Nat.le_refl _, Nat.le_refl _⟩
  | caughtUp =>
    exact .of_map use.device.fences_completeAll (fun _ => rfl)
      fun _ => ⟨Nat.le_max_left _ _, Nat.le_refl _⟩

theorem raises_after (use : FenceUse) (actions : List FenceAction) :
    use.device.Raises (use.after actions).device := by
  induction actions generalizing use with
  | nil => exact .of_fences rfl
  | cons action later inductionHypothesis =>
    exact (use.becomes_perform action).raises.trans (inductionHypothesis (use.perform action))

/-! ## The records describe the fences -/

/-- Every fence has one record, which describes it. -/
structure Sound (use : FenceUse) : Prop where
  described : List.Forall₂ FenceRecord.Describes use.records use.device.fences
  distinct : (use.records.map FenceRecord.id).Nodup
  numbered : ∀ record ∈ use.records, record.id < use.device.nextId

theorem sound_start : start.Sound := ⟨.nil, .nil, nofun⟩

theorem Becomes.sound {after : FenceUse} (becomes : use.Becomes after) (sound : use.Sound) :
    after.Sound := by
  cases becomes with
  | quiet fences nextId =>
    exact ⟨fences ▸ sound.described, sound.distinct,
      fun record member => Nat.lt_of_lt_of_le (sound.numbered record member) nextId⟩
  | created initial fences nextId =>
    refine ⟨?_, ?_, fun record member => ?_⟩
    · rw [fences]
      exact List.rel_append sound.described (.cons (.created _ initial) .nil)
    · rw [List.map_append]
      have single : [use.device.nextId].Nodup := List.nodup_cons.mpr ⟨List.not_mem_nil, .nil⟩
      refine List.nodup_append.mpr ⟨sound.distinct, single, ?_⟩
      rintro id old _ new rfl
      obtain ⟨record, member, rfl⟩ := List.mem_map.mp old
      exact Nat.lt_irrefl _ (List.mem_singleton.mp new ▸ sound.numbered record member)
    · obtain old | new := List.mem_append.mp member
      · exact nextId ▸ Nat.lt_succ_of_lt (sound.numbered record old)
      · rw [List.mem_singleton.mp new, nextId]
        exact Nat.lt_succ_self _
  | signaled id value =>
    refine ⟨?_, ?_, fun record member => ?_⟩
    · rw [NativeDevice.fences_signaled]
      exact List.forall₂_map_left_iff.mpr (List.forall₂_map_right_iff.mpr
        (sound.described.imp fun _ _ describes => describes.signal id value _))
    · rw [List.map_map, Function.comp_def]
      simpa only [FenceRecord.id_noted] using sound.distinct
    · obtain ⟨old, inUse, rfl⟩ := List.mem_map.mp member
      rw [FenceRecord.id_noted, NativeDevice.nextId_signaled]
      exact sound.numbered old inUse
  | caughtUp =>
    exact ⟨List.forall₂_map_right_iff.mpr (sound.described.imp fun _ _ => .caughtUp),
      sound.distinct, sound.numbered⟩

theorem Sound.after (sound : use.Sound) (actions : List FenceAction) :
    (use.after actions).Sound := by
  induction actions generalizing use with
  | nil => exact sound
  | cons action later inductionHypothesis =>
    exact inductionHypothesis ((use.becomes_perform action).sound sound)

/-- So the fence of a record is found, and is as the record says. -/
theorem Sound.exists_fence (sound : use.Sound) {record : FenceRecord}
    (member : record ∈ use.records) :
    ∃ fence, use.device.fence? record.id = some fence ∧ record.Describes fence :=
  FenceRecord.exists_find? sound.described sound.distinct member

/-- Catching up completes all that was signaled. -/
theorem Sound.exists_fence_completeAll (sound : use.Sound) {record : FenceRecord}
    (member : record ∈ use.records) :
    ∃ fence, (use.perform .completeAll).device.fence? record.id = some fence ∧
      record.Describes fence ∧ fence.completed = fence.signaled := by
  obtain ⟨fence, found, describes⟩ := sound.exists_fence member
  refine ⟨fence.complete fence.signaled, ?_, describes.caughtUp,
    Nat.max_eq_right describes.completed⟩
  rw [perform, NativeDevice.fence?_map use.device.fences_completeAll (fun _ => rfl), found]
  rfl

end FenceUse

/-! ## Waits that give up at once -/

/-- What a wait comes to that gives up at once, for a value that is not complete. -/
def NativeDevice.givesUp (device : NativeDevice) : Except DeviceError WaitStatus :=
  if device.lost then .error .deviceLost else .ok .timedOut

/-- It is never mistaken for a value that is complete. -/
theorem NativeDevice.givesUp_ne_reached (device : NativeDevice) :
    device.givesUp ≠ .ok .reached := by
  unfold givesUp
  split <;> simp

namespace Token

variable {device : NativeDevice}

theorem wait_expiring (token : Token) (device : NativeDevice) :
    token.wait device .expiring =
      if token.isReached device then .ok .reached else device.givesUp := by
  simp only [wait, NativeDevice.awaitFence, isReached, NativeDevice.givesUp, decide_eq_true_eq]

/-- All tokens that are not reached come to the same, so it does not matter which of them stops the
waits. -/
theorem waitAll_expiring (tokens : List Token) (device : NativeDevice) :
    waitAll device .expiring tokens =
      if tokens.all (fun token => token.isReached device) then .ok .reached
      else device.givesUp := by
  induction tokens with
  | nil => rfl
  | cons token later inductionHypothesis =>
    rw [waitAll, wait_expiring, List.all_cons]
    cases token.isReached device with
    | true => exact inductionHypothesis
    | false =>
      unfold NativeDevice.givesUp
      cases device.lost <;> rfl

theorem waitAll_expiring_eq_reached_iff {tokens : List Token} :
    waitAll device .expiring tokens = .ok .reached ↔
      ∀ token ∈ tokens, token.isReached device = true := by
  rw [waitAll_expiring, ← List.all_eq_true]
  split
  · rename_i all
    exact iff_of_true rfl all
  · rename_i some
    exact iff_of_false device.givesUp_ne_reached some

theorem waitAll_expiring_of_unreached {tokens : List Token} {token : Token}
    (member : token ∈ tokens) (unreached : token.isReached device = false) :
    waitAll device .expiring tokens = token.wait device .expiring := by
  have notAll : ¬tokens.all (fun token => token.isReached device) = true := fun all =>
    Bool.eq_false_iff.mp unreached (List.all_eq_true.mp all token member)
  rw [waitAll_expiring, if_neg notAll, wait_expiring, if_neg (Bool.eq_false_iff.mp unreached)]

theorem waitAll_expiring_of_perm {tokens others : List Token} (reordered : tokens.Perm others) :
    waitAll device .expiring others = waitAll device .expiring tokens := by
  rw [waitAll_expiring, waitAll_expiring, reordered.all_eq]

end Token

/-! ## Whatever is done to fences -/

/-- After any actions on a new device, every fence is completed no further than it was signaled, and
is signaled up to the largest of its initial value and the values that were signaled on it with
success. Neither counter goes back whatever is done later, and catching up makes them equal. A
signal that succeeds while the device completes by itself completes its value, and one that fails
changes no fence and no log. Waits that give up at once tell a complete value from one that is not,
and waiting for many tokens is waiting for any one of them that is not reached. -/
theorem fence_history (actions : List FenceAction) :
    let use := FenceUse.start.after actions
    let device := use.device
    use.Sound ∧
    (∀ record ∈ use.records, ∃ fence,
      device.fence? record.id = some fence ∧ record.Describes fence) ∧
    (∀ later, device.Raises (use.after later).device) ∧
    (∀ record ∈ use.records, ∃ fence,
      (use.perform .completeAll).device.fence? record.id = some fence ∧
        record.Describes fence ∧ fence.completed = fence.signaled) ∧
    (∀ record ∈ use.records, ∀ value answer final,
      device.signal record.id value = (answer, final) →
        (answer = .ok () → device.autoComplete = true →
          ∃ fence, final.fence? record.id = some fence ∧ value ≤ fence.completed) ∧
        (answer ≠ .ok () → final.fences = device.fences ∧ final.log = device.log)) ∧
    (∀ id fence value, device.fence? id = some fence →
      device.awaitFence id value .expiring =
        if value ≤ fence.completed then .ok .reached else device.givesUp) ∧
    ∀ tokens : List Token,
      (Token.waitAll device .expiring tokens = .ok .reached ↔
        ∀ token ∈ tokens, token.isReached device = true) ∧
      (∀ token ∈ tokens, token.isReached device = false →
        Token.waitAll device .expiring tokens = token.wait device .expiring) ∧
      ∀ others, tokens.Perm others →
        Token.waitAll device .expiring others = Token.waitAll device .expiring tokens := by
  intro use device
  have sound : use.Sound := FenceUse.sound_start.after actions
  refine ⟨sound, fun _ => sound.exists_fence, use.raises_after,
    fun _ => sound.exists_fence_completeAll,
    fun record member value answer final signals => ⟨?_, ?_⟩, fun id fence value found => ?_,
    fun tokens => ⟨Token.waitAll_expiring_eq_reached_iff,
      fun _ => Token.waitAll_expiring_of_unreached, fun _ => Token.waitAll_expiring_of_perm⟩⟩
  · rintro rfl atOnce
    obtain ⟨fence, found, -⟩ := sound.exists_fence member
    obtain ⟨-, -, done⟩ | ⟨-, _, _, failed, -⟩ := device.signal_cases record.id value
    · cases signals.symm.trans done
      exact NativeDevice.completed_of_signaled atOnce found
    · cases signals.symm.trans failed
  · intro notDone
    obtain ⟨-, -, done⟩ | ⟨-, _, _, failed, fences, log, -⟩ := device.signal_cases record.id value
    · cases signals.symm.trans done
      exact absurd rfl notDone
    · cases signals.symm.trans failed
      exact ⟨fences, log⟩
  · have completed : device.completedValue id = fence.completed := by
      rw [NativeDevice.completedValue, found]
      rfl
    rw [NativeDevice.awaitFence, completed]
    rfl

/-- One fence is left at a large value that is pending while a smaller one completes behind it; a
signal that was made to fail and one on a lost device leave no trace. Waiting for both fences fails
until the pending value is caught up with. -/
theorem fence_history_pending :
    let use := FenceUse.start.after [.createQueue .graphics, .createFence 5, .createFence 0,
      .setAutoComplete false, .signal 0 9, .setAutoComplete true, .signal 0 7, .signal 1 4,
      .armSignalFailure, .signal 0 20, .lose, .signal 1 8]
    let tokens : List Token := [⟨3, 4⟩, ⟨2, 9⟩]
    use.device.fences = [⟨2, 7, 9⟩, ⟨3, 4, 4⟩] ∧
      use.device.log = [.signal 2 9, .signal 2 7, .signal 3 4] ∧
      Token.waitAll use.device .expiring tokens = .error .deviceLost ∧
      Token.waitAll use.device .expiring tokens.reverse = .error .deviceLost ∧
      Token.waitAll use.device.completeAll .expiring tokens = .ok .reached := by
  intro use tokens
  obtain ⟨_, _, _, _, _, _, waits⟩ := fence_history [.createQueue .graphics, .createFence 5,
    .createFence 0, .setAutoComplete false, .signal 0 9, .setAutoComplete true, .signal 0 7,
    .signal 1 4, .armSignalFailure, .signal 0 20, .lose, .signal 1 8]
  obtain ⟨_, unreached, reordered⟩ := waits tokens
  have pending : Token.waitAll use.device .expiring tokens = .error .deviceLost :=
    unreached ⟨2, 9⟩ (by decide) rfl
  exact ⟨rfl, rfl, pending, (reordered _ (List.reverse_perm tokens).symm).trans pending, rfl⟩

end CommandStream
