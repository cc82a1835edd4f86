import CommandStream.Proofs.Canonicity
import CommandStream.Proofs.FaithfulReplay
/-!
# Where a replay stops

A replay that fails has executed some records from the start of its buffer, and what comes behind
them is to blame: a record that is refused, bytes that are no record, or a render pass that is
still open. `Run.exists_refused` finds the place by induction on the records, `Leaves` says what a
refused record leaves on the list, and `Concerns` which complaints can come from where.
-/

namespace CommandStream

/-- The offset that a complaint about the stream names. -/
def StreamError.offset : StreamError → Nat
  | .unsupportedCommand _ offset => offset
  | .truncated offset => offset
  | .invalidValue _ _ offset => offset

/-- Bytes that are not read are blamed on the offset where they begin. -/
theorem Command.offset_of_read {offset : Nat} {bytes : List UInt8} {cause : StreamError}
    (refused : read offset bytes = .error cause) : cause.offset = offset := by
  have outcome := reads offset bytes
  rw [refused] at outcome
  cases outcome <;> rfl

/-! ## Complaints of a record -/

namespace ReplayError

/-- The error can come from the record at an offset: a complaint about the stream names this
offset, and no record is blamed for a render pass that is still open. -/
def Concerns (offset : Nat) : ReplayError → Prop
  | .stream cause => cause.offset = offset
  | .unterminatedRenderPass => False
  | _ => True

/-- All that an attempt can fail with can come from the record at an offset. -/
def Located {α : Type} (offset : Nat) (attempt : Except ReplayError α) : Prop :=
  ∀ error, attempt = .error error → error.Concerns offset

section Located

variable {α β : Type} {offset : Nat}

theorem located_ok (value : α) : Located offset (.ok value) := nofun

theorem located_error {error : ReplayError} (concerns : error.Concerns offset) :
    Located offset (.error error : Except ReplayError α) := by
  rintro _ ⟨⟩
  exact concerns

theorem located_admitted (value : Option α) (field : RecordField) (word : UInt32) :
    Located offset (Resources.admitted value field word offset) := by
  cases value with
  | none => exact located_error rfl
  | some value => exact located_ok value

theorem located_handle (attempt : Except HandleError α) :
    Located offset (attempt.mapError ReplayError.handle) := by
  cases attempt with
  | error cause => exact located_error trivial
  | ok value => exact located_ok value

theorem located_descriptor (attempt : Except DescriptorError α) :
    Located offset (attempt.mapError ReplayError.descriptor) := by
  cases attempt with
  | error cause => exact located_error trivial
  | ok value => exact located_ok value

theorem Located.bind {attempt : Except ReplayError α} {next : α → Except ReplayError β}
    (first : Located offset attempt) (later : ∀ value, Located offset (next value)) :
    Located offset (attempt >>= next) := by
  cases attempt with
  | error error => exact located_error (first error rfl)
  | ok value => exact later value

theorem Located.map {attempt : Except ReplayError α} (first : Located offset attempt)
    (change : α → β) : Located offset (attempt.map change) := by
  cases attempt with
  | error error => exact located_error (first error rfl)
  | ok value => exact located_ok (change value)

theorem located_mapM {attempt : α → Except ReplayError β}
    (each : ∀ element, Located offset (attempt element)) (elements : List α) :
    Located offset (elements.mapM attempt) := by
  induction elements with
  | nil => exact located_ok []
  | cons element later inductionHypothesis =>
    rw [List.mapM_cons]
    exact (each element).bind fun _ => inductionHypothesis.bind fun _ => located_ok _

/-- One call or none is made: the attempt at it decides. -/
theorem Located.single {attempt : Except ReplayError (Call × Interpreter)}
    (located : Located offset attempt) :
    Located offset (Interpreter.Step.single attempt).outcome := by
  cases attempt with
  | error error => exact located_error (located error rfl)
  | ok made => exact located_ok made.2

/-- Of barriers the first that does not resolve decides. -/
theorem located_barriers (interpreter : Interpreter)
    {attempts : List (Except ReplayError BarrierCall)}
    (each : ∀ attempt ∈ attempts, Located offset attempt) :
    Located offset (Interpreter.Step.barriers interpreter attempts).outcome := by
  rcases BarrierBatches.exists_resolved attempts with
    ⟨resolved, rfl⟩ | ⟨resolved, error, later, rfl⟩
  · obtain ⟨batches, _, made⟩ := Interpreter.Step.barriers_of_resolved interpreter resolved
    rw [made]
    exact located_ok _
  · rw [Interpreter.Step.barriers_of_error]
    exact located_error (each (.error error) (by simp) error rfl)

end Located

end ReplayError

namespace Resources

open ReplayError

variable (resources : Resources) (offset : Nat)

theorem located_bufferObject (handle : Handle) :
    Located offset (resources.bufferObject handle) :=
  (located_handle _).bind fun _ => located_ok _

theorem located_textureObject (handle : Handle) :
    Located offset (resources.textureObject handle) :=
  (located_handle _).bind fun _ => located_ok _

theorem located_vertexBinding (view : VertexBufferView) :
    Located offset (resources.vertexBinding view) :=
  (resources.located_bufferObject offset view.buffer).bind fun _ => located_ok _

theorem located_barrierObject (handle : Handle) (kind : UInt32) :
    Located offset (resources.barrierObject offset handle kind) := by
  refine (located_admitted _ _ _).bind fun known => ?_
  cases known with
  | buffer => exact resources.located_bufferObject offset handle
  | texture => exact resources.located_textureObject offset handle

theorem located_optionalBarrierObject (handle : Handle) (kind : UInt32) :
    Located offset (resources.optionalBarrierObject offset handle kind) := by
  unfold optionalBarrierObject
  split
  · exact located_ok none
  · exact (resources.located_barrierObject offset handle kind).map some

theorem located_transitionCall (barrier : TransitionBarrier) :
    Located offset (resources.transitionCall offset barrier) :=
  (resources.located_barrierObject offset _ _).bind fun _ =>
    (located_admitted _ _ _).bind fun _ => (located_admitted _ _ _).bind fun _ => located_ok _

theorem located_unorderedAccessCall (barrier : UnorderedAccessBarrier) :
    Located offset (resources.unorderedAccessCall offset barrier) :=
  (resources.located_optionalBarrierObject offset _ _).bind fun _ => located_ok _

theorem located_aliasingCall (barrier : AliasingBarrier) :
    Located offset (resources.aliasingCall offset barrier) :=
  (resources.located_optionalBarrierObject offset _ _).bind fun _ =>
    (resources.located_optionalBarrierObject offset _ _).bind fun _ => located_ok _

theorem located_colorObject (attachment : ColorAttachment) :
    Located offset (resources.colorObject offset attachment) :=
  (resources.located_textureObject offset _).bind fun _ =>
    (located_admitted _ _ _).bind fun _ => (located_admitted _ _ _).bind fun _ => located_ok _

theorem located_depthObject (header : RenderPassHeader) :
    Located offset (resources.depthObject offset header) := by
  unfold depthObject
  split
  · exact located_ok none
  · exact (resources.located_textureObject offset _).bind fun _ =>
      (located_admitted _ _ _).bind fun _ => (located_admitted _ _ _).bind fun _ => located_ok _

end Resources

namespace Interpreter

open ReplayError

theorem located_rootParameter (interpreter : Interpreter) (offset : Nat) (slot : UInt32)
    (command : CommandTag) : Located offset (interpreter.rootParameter slot command) := by
  unfold rootParameter
  split
  · exact located_error trivial
  · split
    · exact located_error trivial
    · exact located_ok _

/-- Whatever is wrong with a record, a complaint about the stream names the offset where it is
executed, and the record is not blamed for an open render pass. -/
theorem located_execute (resources : Resources) (interpreter : Interpreter) (offset : Nat)
    (command : Command) :
    Located offset (execute resources interpreter offset command).outcome := by
  obtain ⟨tag, arguments⟩ := command
  cases tag with
  | setPipeline => exact ((located_handle _).bind fun _ => located_ok _).single
  | setTopology => exact ((located_admitted _ _ _).bind fun _ => located_ok _).single
  | setViewports => exact located_ok interpreter
  | setScissors => exact located_ok interpreter
  | setVertexBuffers =>
    simp only [execute]
    split
    · exact located_error trivial
    · exact ((located_mapM (resources.located_vertexBinding offset) _).bind fun _ =>
        located_ok _).single
  | setIndexBuffer =>
    exact ((located_admitted _ _ _).bind fun _ =>
      (resources.located_bufferObject offset _).bind fun _ => located_ok _).single
  | setRootConstants =>
    refine ((interpreter.located_rootParameter offset _ _).bind fun found => ?_).single
    obtain ⟨pipeline, parameter⟩ := found
    cases parameter with
    | constants count =>
      dsimp only
      split
      · exact located_ok _
      · exact located_error trivial
    | descriptor kind => exact located_error trivial
    | table heapType => exact located_error trivial
  | setRootBuffer =>
    refine ((interpreter.located_rootParameter offset _ _).bind fun found => ?_).single
    obtain ⟨pipeline, parameter⟩ := found
    cases parameter with
    | descriptor kind =>
      exact (resources.located_bufferObject offset _).bind fun _ => located_ok _
    | constants count => exact located_error trivial
    | table heapType => exact located_error trivial
  | setDescriptorTable =>
    refine ((interpreter.located_rootParameter offset _ _).bind fun found => ?_).single
    dsimp only
    split
    · exact located_error trivial
    · split
      · exact (located_descriptor _).bind fun _ => located_ok _
      · exact located_error trivial
  | beginRenderPass =>
    simp only [execute]
    split
    · exact located_error trivial
    · split
      · exact located_error trivial
      · exact ((located_mapM (resources.located_colorObject offset) _).bind fun _ =>
          (resources.located_depthObject offset _).bind fun _ => located_ok _).single
  | endRenderPass =>
    simp only [execute]
    split
    · exact (located_ok _).single
    · exact located_error trivial
  | draw =>
    exact ((located_admitted _ _ _).bind fun _ =>
      (located_admitted _ _ _).bind fun _ => located_ok _).single
  | drawIndexed =>
    exact ((located_admitted _ _ _).bind fun _ =>
      (located_admitted _ _ _).bind fun _ => located_ok _).single
  | dispatch => exact located_ok interpreter.countDispatch
  | copyBuffer =>
    exact ((resources.located_bufferObject offset _).bind fun _ =>
      (resources.located_bufferObject offset _).bind fun _ => located_ok _).single
  | resourceBarriers =>
    refine located_barriers interpreter fun attempt member => ?_
    rcases List.mem_append.mp member with changed | ordered
    · obtain ⟨barrier, _, rfl⟩ := List.mem_map.mp changed
      exact resources.located_transitionCall offset barrier
    · obtain ⟨barrier, _, rfl⟩ := List.mem_map.mp ordered
      exact resources.located_unorderedAccessCall offset barrier
  | aliasingBarriers =>
    refine located_barriers interpreter fun attempt member => ?_
    obtain ⟨barrier, _, rfl⟩ := List.mem_map.mp member
    exact resources.located_aliasingCall offset barrier

end Interpreter

/-! ## Calls of a record that is refused -/

namespace BarrierBatches

/-- Something is held back behind any barrier. -/
theorem pending_push (batches : BarrierBatches) (barrier : BarrierCall) :
    (batches.push barrier).pending ≠ [] := by
  rcases push_cases batches barrier with ⟨_, pushed⟩ | ⟨_, pushed⟩ <;> simp [pushed]

/-- The batches that were handed over before the barriers ended: as many full ones as leave at
least one barrier behind. -/
theorem issued_foldl_push (resolved : List BarrierCall) :
    let batches := (resolved.foldl push empty).issued
    batches.length = (resolved.length - 1) / 32 ∧ (∀ batch ∈ batches, batch.length = 32) ∧
      batches.flatten = resolved.take (32 * batches.length) := by
  intro batches
  obtain ⟨steady, inOrder⟩ := steady_empty.foldl_push resolved
  have together : batches.flatten ++ (resolved.foldl push empty).pending = resolved := inOrder
  have full : ∀ batch ∈ batches, batch.length = 32 := steady.full
  have length : batches.flatten.length = 32 * batches.length := by
    rw [List.length_flatten, List.map_congr_left full, List.map_const', List.sum_replicate_nat,
      Nat.mul_comm]
  have total := congrArg List.length together
  rw [List.length_append, length] at total
  have bounded : (resolved.foldl push empty).pending.length ≤ 32 := steady.bounded
  refine ⟨?_, full, ?_⟩
  · rcases List.eq_nil_or_concat' resolved with rfl | ⟨front, last, rfl⟩
    · rfl
    · have held := pending_push (front.foldl push empty) last
      rw [← List.foldl_concat push] at held
      have positive := List.length_pos_of_ne_nil held
      omega
  · rw [← length]
    conv_rhs => rw [← together]
    rw [List.take_left]

end BarrierBatches

/-- What the barriers of a record are to become, in the order in which they are handed over. A
record of another kind has none. -/
def Resources.meanings (resources : Resources) : Command → List (BarrierCall → Prop)
  | ⟨.resourceBarriers, ((_, transitions), unorderedAccess)⟩ =>
    transitions.map resources.Transitions ++ unorderedAccess.map resources.OrdersAccess
  | ⟨.aliasingBarriers, (_, barriers)⟩ => barriers.map resources.Aliases
  | _ => []

namespace Interpreter

/-- What a record that is refused leaves on the list: nothing, but for barriers. Of barriers the
ones in front of the first invalid one have resolved, and they leave as many batches of 32 as there
are without the last of them. -/
inductive Leaves (resources : Resources) (command : Command) : List Call → Prop
  | nothing (notBarriers : command.tag ≠ .resourceBarriers)
      (notAliasing : command.tag ≠ .aliasingBarriers) : Leaves resources command []
  | batches {resolved : List BarrierCall} {meaning : BarrierCall → Prop}
      {batches : List (List BarrierCall)}
      (inFront : List.Forall₂ (fun meaning barrier => meaning barrier)
        ((resources.meanings command).take resolved.length) resolved)
      (next : (resources.meanings command)[resolved.length]? = some meaning)
      (invalid : ∀ barrier, ¬meaning barrier)
      (number : batches.length = (resolved.length - 1) / 32)
      (full : ∀ batch ∈ batches, batch.length = 32)
      (inOrder : batches.flatten = resolved.take (32 * batches.length)) :
      Leaves resources command (batches.map .resourceBarriers)

/-- The attempts at barriers decide what refused barriers leave, where each of them finds what its
barrier is to become. -/
theorem leaves_of_barriers {resources : Resources} {interpreter : Interpreter} {command : Command}
    {attempts : List (Except ReplayError BarrierCall)} {left : List Call} {error : ReplayError}
    (failed : Step.barriers interpreter attempts = ⟨left, .error error⟩)
    (finds : List.Forall₂ (fun meaning attempt => ∀ barrier, attempt = .ok barrier ↔
      meaning barrier) (resources.meanings command) attempts) :
    Leaves resources command left := by
  rcases BarrierBatches.exists_resolved attempts with ⟨resolved, rfl⟩ | ⟨resolved, _, later, rfl⟩
  · obtain ⟨batches, _, made⟩ := Step.barriers_of_resolved interpreter resolved
    rw [made] at failed
    cases failed
  · rw [Step.barriers_of_error] at failed
    cases failed
    have inFront := List.forall₂_take_append _ _ _ finds
    have behind := List.forall₂_drop_append _ _ _ finds
    rw [List.length_map] at inFront behind
    obtain ⟨meaning, rest, refused, _, atNext⟩ := List.forall₂_cons_right_iff.mp behind
    obtain ⟨number, full, inOrder⟩ := BarrierBatches.issued_foldl_push resolved
    have next : (resources.meanings command)[resolved.length]? = some meaning := by
      rw [← List.head?_drop, atNext]
      rfl
    refine .batches ?_ next (fun barrier becomes => ?_) number full inOrder
    · exact (List.forall₂_map_right_iff.mp inFront).imp fun _ _ found => (found _).mp rfl
    · cases (refused barrier).mpr becomes

/-- A record that is refused leaves what is left of its kind. -/
theorem leaves_of_execute {resources : Resources} {interpreter : Interpreter} {offset : Nat}
    {command : Command} {left : List Call} {error : ReplayError}
    (failed : execute resources interpreter offset command = ⟨left, .error error⟩) :
    Leaves resources command left := by
  obtain ⟨tag, arguments⟩ := command
  by_cases isBarriers : tag = .resourceBarriers
  · subst isBarriers
    obtain ⟨⟨counts, transitions⟩, unorderedAccess⟩ := arguments
    refine leaves_of_barriers failed (List.rel_append ?_ ?_)
    · rw [List.forall₂_map_left_iff, List.forall₂_map_right_iff, List.forall₂_same]
      exact fun _ _ _ => Resources.transitionCall_eq_ok
    · rw [List.forall₂_map_left_iff, List.forall₂_map_right_iff, List.forall₂_same]
      exact fun _ _ _ => Resources.unorderedAccessCall_eq_ok
  by_cases isAliasing : tag = .aliasingBarriers
  · subst isAliasing
    obtain ⟨count, barriers⟩ := arguments
    refine leaves_of_barriers failed ?_
    unfold Resources.meanings
    rw [List.forall₂_map_left_iff, List.forall₂_map_right_iff, List.forall₂_same]
    exact fun _ _ _ => Resources.aliasingCall_eq_ok
  obtain ⟨attempt, made⟩ :=
    execute_eq_single resources interpreter offset arguments isBarriers isAliasing
  rw [made] at failed
  cases attempt with
  | error =>
    cases failed
    exact .nothing isBarriers isAliasing
  | ok => cases failed

/-! ## The place where a replay stops -/

/-- Executing a record does not count it as executed. -/
theorem Executes.commands_eq {resources : Resources} {interpreter next : Interpreter}
    {command : Command} {calls : List Call}
    (executes : Executes resources interpreter command calls next) :
    next.statistics.commands = interpreter.statistics.commands := by
  cases executes <;> rfl

/-- Records in a row are counted one by one. -/
theorem Replays.commands_eq {resources : Resources} {interpreter final : Interpreter}
    {commands : List Command} {calls : List Call}
    (replays : Replays resources interpreter commands calls final) :
    final.statistics.commands = interpreter.statistics.commands + commands.length := by
  induction replays with
  | nil => rfl
  | cons first later inductionHypothesis =>
    rw [inductionHypothesis, List.length_cons, ← first.commands_eq]
    exact Nat.add_right_comm _ 1 _

/-- Where records in a row fail, there is one that is refused, and those in front of it are
executed. -/
theorem exists_refused_of_run {resources : Resources} {interpreter : Interpreter}
    {records : List (Nat × Command)} {error : ReplayError}
    (failed : (run resources interpreter records).failure = some error) :
    ∃ front offset command back calls before left,
      records = front ++ (offset, command) :: back ∧
        run resources interpreter front = ⟨calls, before, none⟩ ∧
        execute resources before offset command = ⟨left, .error error⟩ ∧
        run resources interpreter records = ⟨calls ++ left, before, some error⟩ := by
  induction records generalizing interpreter with
  | nil => cases failed
  | cons record later inductionHypothesis =>
    obtain ⟨offset, command⟩ := record
    rw [run] at failed ⊢
    rcases executed : execute resources interpreter offset command with ⟨made, cause | next⟩
    all_goals rw [executed] at failed
    · cases failed
      exact ⟨[], offset, command, later, [], interpreter, made, rfl, rfl, executed, rfl⟩
    · obtain ⟨front, place, refused, back, calls, before, left, rfl, ran, stopped, whole⟩ :=
        inductionHypothesis failed
      refine ⟨(offset, command) :: front, place, refused, back, made ++ calls, before, left, rfl,
        ?_, stopped, ?_⟩
      · rw [run, executed]
        simp only [ran]
      · simp only [whole, List.append_assoc]

/-- What stops a replay behind the records that were executed, with the error and with the calls
that it leaves. -/
inductive Stops (resources : Resources) (walk : Walk) (executed : Nat) (before : Interpreter) :
    ReplayError → List Call → Prop
  /-- The next record is refused. -/
  | refused {offset : Nat} {command : Command} {left : List Call} {error : ReplayError}
      (next : walk.records[executed]? = some (offset, command))
      (failed : execute resources before offset command = ⟨left, .error error⟩)
      (leaves : Leaves resources command left) : Stops resources walk executed before error left
  /-- The next bytes are no record. -/
  | unreadable {cause : StreamError} (all : executed = walk.records.length)
      (failed : walk.failure = some cause) :
      Stops resources walk executed before (.stream cause) []
  /-- There is nothing behind the records, and a render pass is still open. -/
  | unterminated (all : executed = walk.records.length) (readable : walk.failure = none)
      (inside : before.insideRenderPass = true) :
      Stops resources walk executed before .unterminatedRenderPass []

/-- A replay that stopped with an error: some records from the start of the buffer were executed,
and what comes behind them stopped it. -/
structure Halts (resources : Resources) (walk : Walk) (error : ReplayError) (executed : Nat)
    (before : Interpreter) (calls left : List Call) : Prop where
  atMost : executed ≤ walk.records.length
  ran : run resources .fresh (walk.records.take executed) = ⟨calls, before, none⟩
  /-- The calls are those that the records stand for, one record after another. -/
  translated :
    Replays resources .fresh ((walk.records.take executed).map Prod.snd) calls before
  counted : before.statistics.commands = executed
  stopped : Stops resources walk executed before error left
  /-- A complaint about the stream is about the offset behind the records that were executed. -/
  located : ∀ cause, error = .stream cause →
    cause.offset = Command.size ((walk.records.take executed).map Prod.snd)
  /-- No record fails for a render pass that is still open. -/
  unterminated : error = .unterminatedRenderPass →
    executed = walk.records.length ∧ walk.failure = none

/-- Records that were executed from the start bring the calls and the count of a replay that
stops. -/
theorem halts_of_run {resources : Resources} {walk : Walk} {error : ReplayError} {executed : Nat}
    {before : Interpreter} {calls left : List Call} (atMost : executed ≤ walk.records.length)
    (ran : run resources .fresh (walk.records.take executed) = ⟨calls, before, none⟩)
    (stopped : Stops resources walk executed before error left)
    (concerns : error = .unterminatedRenderPass ∧ executed = walk.records.length ∧
        walk.failure = none ∨
      error.Concerns (Command.size ((walk.records.take executed).map Prod.snd))) :
    Halts resources walk error executed before calls left := by
  have replays := replays_of_run (congrArg Run.failure ran)
  rw [ran] at replays
  refine ⟨atMost, ran, replays, ?_, stopped, ?_, ?_⟩
  · rw [replays.commands_eq, List.length_map, List.length_take, Nat.min_eq_left atMost]
    exact Nat.zero_add executed
  · rintro cause rfl
    rcases concerns with ⟨⟨⟩, _⟩ | located
    exact located
  · rintro rfl
    rcases concerns with ⟨_, all, readable⟩ | ⟨⟨⟩⟩
    exact ⟨all, readable⟩

end Interpreter

/-- What is placed begins where the records in front of it end. -/
theorem Command.offset_of_placed {offset place : Nat} {commands : List Command}
    {front back : List (Nat × Command)} {command : Command}
    (split : placed offset commands = front ++ (place, command) :: back) :
    place = offset + size (front.map Prod.snd) := by
  induction front generalizing offset commands with
  | nil =>
    cases commands with
    | nil => cases split
    | cons first later =>
      cases split
      rfl
  | cons record front inductionHypothesis =>
    cases commands with
    | nil => cases split
    | cons first later =>
      rw [placed, List.cons_append, List.cons.injEq] at split
      obtain ⟨rfl, behind⟩ := split
      rw [inductionHypothesis behind, List.map_cons, size_cons, encodedLength_counted,
        Nat.add_assoc]

/-- Each record of a walk begins where the records in front of it end, and so do bytes that are no
record. -/
theorem Walk.offset_eq (bytes : List UInt8) :
    (∀ front offset command back,
      (ofBytes bytes).records = front ++ (offset, command) :: back →
        offset = Command.size (front.map Prod.snd)) ∧
      ∀ cause, (ofBytes bytes).failure = some cause →
        cause.offset = Command.size ((ofBytes bytes).records.map Prod.snd) := by
  obtain ⟨commands, rest, failure, _, _, stops, walked⟩ := exists_records 0 bytes
  rw [Nat.zero_add] at stops walked
  rw [ofBytes, walked]
  refine ⟨fun front offset command back split => ?_, fun cause failed => ?_⟩
  · exact (Command.offset_of_placed split).trans (Nat.zero_add _)
  · rw [Command.map_snd_placed, Command.size_map_counted]
    exact Command.offset_of_read (stops.eq_some_iff.mp failed).2

/-- A replay that fails stops at the first record that is not in order. The list is left with the
heaps, with the calls of the records in front of that one, and with what `Leaves` says of it;
whatever the interpreter was used for before makes no difference. A complaint about the stream
names the offset where the records in front end, and only a replay that executed every record fails
for a render pass that is still open. -/
theorem replay_halts_at_first_failure (interpreter : Interpreter) (resources : Resources)
    (list : CommandList) (buffer : CommandBuffer) {error : ReplayError}
    (failed : (interpreter.record resources list buffer).1 = .error error) :
    ∃ executed before calls left,
      Interpreter.Halts resources buffer.walk error executed before calls left ∧
        (interpreter.record resources list buffer).2.2 =
          list.push (.setDescriptorHeaps (resources.heaps.map DescriptorHeap.object) ::
            (calls ++ left)) := by
  rw [Interpreter.record_eq] at failed ⊢
  obtain ⟨atRecord, behind⟩ := Walk.offset_eq buffer.bytes
  rcases ran : buffer.replay resources with ⟨made, final, failure⟩
  have isRun : Interpreter.run resources .fresh buffer.walk.records = ⟨made, final, failure⟩ := ran
  rw [ran] at failed
  cases failure with
  | some cause =>
    cases failed
    obtain ⟨front, offset, command, back, calls, before, left, split, executed, refused, whole⟩ :=
      Interpreter.exists_refused_of_run (congrArg Interpreter.Run.failure isRun)
    cases isRun.symm.trans whole
    have isFront : buffer.walk.records.take front.length = front := by
      rw [split, List.take_left]
    refine ⟨front.length, final, calls, left, Interpreter.halts_of_run ?_ ?_ (.refused ?_ refused
      (Interpreter.leaves_of_execute refused)) (.inr ?_), rfl⟩
    · rw [split, List.length_append]
      exact Nat.le_add_right _ _
    · rw [isFront, executed]
    · rw [split, List.getElem?_append_right (Nat.le_refl _), Nat.sub_self]
      rfl
    · rw [isFront, ← atRecord front offset command back split]
      exact Interpreter.located_execute resources final offset command error
        (congrArg Interpreter.Step.outcome refused)
  | none =>
    have all : buffer.walk.records.take buffer.walk.records.length = buffer.walk.records :=
      List.take_length
    have executed := all.symm ▸ isRun
    simp only [Interpreter.verdict] at failed
    split at failed
    · rename_i cause unreadable
      cases unreadable
    · rename_i cause _ unreadable
      cases failed
      refine ⟨_, final, made, [], Interpreter.halts_of_run (Nat.le_refl _) executed
        (.unreadable rfl unreadable) (.inr ?_), by rw [List.append_nil]⟩
      rw [all]
      exact behind cause unreadable
    · rename_i _ readable
      split at failed
      · rename_i inside
        cases failed
        exact ⟨_, final, made, [], Interpreter.halts_of_run (Nat.le_refl _) executed
          (.unterminated rfl readable inside) (.inl ⟨rfl, rfl, readable⟩),
          by rw [List.append_nil]⟩
      · cases failed

/-- The barrier with index 33 has a kind that names no table. One batch is handed over by then; the
barrier in front of it is lost, and the complaint names the offset of the whole record. -/
theorem replay_halts_at_first_failure_barriers :
    let resources := Device.sample.resources
    let list : CommandList := ⟨7, .graphics, true, []⟩
    let buffer := CommandBuffer.ofCalls [.dispatch ⟨1, 1, 1⟩,
      .resourceBarriers [] (List.replicate 33 .global ++ [⟨⟨0, 0⟩, 9⟩])]
    let error := ReplayError.stream (.invalidValue .resourceKind 9 16)
    let recorded := Interpreter.fresh.record resources list buffer
    recorded.1 = .error error ∧
      recorded.2.2.calls = [.setDescriptorHeaps [1, 2], .dispatch ⟨1, 1, 1⟩,
        .resourceBarriers (List.replicate 32 (.unorderedAccess none))] ∧
      ∃ executed before calls left,
        Interpreter.Halts resources buffer.walk error executed before calls left ∧
          recorded.2.2 = list.push (.setDescriptorHeaps [1, 2] :: (calls ++ left)) := by
  intro resources list buffer error recorded
  have failed : recorded.1 = .error error := by decide +kernel
  have calls : recorded.2.2.calls = [.setDescriptorHeaps [1, 2], .dispatch ⟨1, 1, 1⟩,
      .resourceBarriers (List.replicate 32 (.unorderedAccess none))] := by decide +kernel
  exact ⟨failed, calls, replay_halts_at_first_failure .fresh resources list buffer failed⟩

end CommandStream
