import CommandStream.Proofs.Locality
import CommandStream.Proofs.NativeLimits
/-!
# Ranges of draws

A draw travels as starts and counts: encoding turns the bounds of its spans into counts, and replay
turns the counts into bounds again. A record may hold any counts, so a span of it need not end at a
word; one that does not is refused, the elements before the instances. What encoding writes is never
refused, reversed spans and those up to the last word included. `DrawRanges` is what the two kinds
of draws have in common, and all that is said of either is said of it.
-/

namespace CommandStream

/-! ## One record -/

/-- The ranges of a draw record: those of the elements that are drawn, which are vertices or
indices, and of the instances. -/
structure DrawRanges where
  /-- The field that is blamed if the elements do not fit. -/
  field : RecordField
  first : UInt32
  count : UInt32
  firstInstance : UInt32
  instanceCount : UInt32
  /-- The native draw of spans of elements and of instances. -/
  call : Span → Span → Call

/-- The ranges of a command that draws. -/
def Command.drawRanges? : Command → Option DrawRanges
  | ⟨.draw, draw⟩ =>
    some ⟨.vertexRange, draw.firstVertex, draw.vertexCount, draw.firstInstance,
      draw.instanceCount, .draw⟩
  | ⟨.drawIndexed, draw⟩ =>
    some ⟨.indexRange, draw.firstIndex, draw.indexCount, draw.firstInstance, draw.instanceCount,
      fun indices instances => .drawIndexed indices draw.baseVertex instances⟩
  | _ => none

/-- The native draw that an encoding call asks for: a reversed span is empty and starts where it
is said to. -/
def EncodeCall.drawn? : EncodeCall → Option Call
  | .draw vertices instances => some (.draw vertices.forward instances.forward)
  | .drawIndexed indices baseVertex instances =>
    some (.drawIndexed indices.forward baseVertex instances.forward)
  | _ => none

namespace DrawRanges

/-- The elements end at a word. -/
def ElementsFit (ranges : DrawRanges) : Prop :=
  ranges.first.toNat + ranges.count.toNat ≤ 4294967295

/-- The instances end at a word. -/
def InstancesFit (ranges : DrawRanges) : Prop :=
  ranges.firstInstance.toNat + ranges.instanceCount.toNat ≤ 4294967295

instance (ranges : DrawRanges) : Decidable ranges.ElementsFit :=
  inferInstanceAs (Decidable (_ ≤ _))

instance (ranges : DrawRanges) : Decidable ranges.InstancesFit :=
  inferInstanceAs (Decidable (_ ≤ _))

/-- What a record at an offset is refused with, by the range that does not fit. The instances are
looked at only if the elements fit. -/
inductive Misfit (ranges : DrawRanges) (offset : Nat) : ReplayError → Prop
  | elements (exceeds : ¬ranges.ElementsFit) :
      Misfit ranges offset (.stream (.invalidValue ranges.field ranges.count offset))
  | instances (fit : ranges.ElementsFit) (exceeds : ¬ranges.InstancesFit) :
      Misfit ranges offset
        (.stream (.invalidValue .instanceRange ranges.instanceCount offset))

end DrawRanges

/-- A start and a count have no span exactly if it would not end at a word. -/
theorem Span.ofCount?_eq_none_iff {first count : UInt32} :
    ofCount? first count = none ↔ ¬first.toNat + count.toNat ≤ 4294967295 := by
  unfold ofCount?
  split <;> simp <;> omega

/-- Otherwise they have one. -/
theorem Span.exists_ofCount? {first count : UInt32}
    (fit : first.toNat + count.toNat ≤ 4294967295) : ∃ span, ofCount? first count = some span :=
  Option.ne_none_iff_exists'.mp (mt ofCount?_eq_none_iff.mp (not_not_intro fit))

/-- The ranges of an encoded draw fit, and are those of the native draw that was asked for: the
count of a span is read back as the span. -/
theorem EncodeCall.exists_drawRanges (call : EncodeCall) {native : Call}
    (drawn : call.drawn? = some native) :
    ∃ ranges elements instances, call.command.drawRanges? = some ranges ∧
      Span.ofCount? ranges.first ranges.count = some elements ∧
      Span.ofCount? ranges.firstInstance ranges.instanceCount = some instances ∧
      ranges.call elements instances = native := by
  cases call with
  | draw vertices instances =>
    cases drawn
    exact ⟨_, _, _, rfl, Span.ofCount?_count vertices, Span.ofCount?_count instances, rfl⟩
  | drawIndexed indices baseVertex instances =>
    cases drawn
    exact ⟨_, _, _, rfl, Span.ofCount?_count indices, Span.ofCount?_count instances, rfl⟩
  | _ => cases drawn

namespace Interpreter

variable {resources : Resources} {interpreter : Interpreter} {offset : Nat}

/-- Executing a draw admits its elements, then its instances, and looks nothing up. -/
theorem execute_draw {command : Command} {ranges : DrawRanges}
    (draws : command.drawRanges? = some ranges) :
    execute resources interpreter offset command = .single do
      let elements ← Resources.admitted (Span.ofCount? ranges.first ranges.count)
        ranges.field ranges.count offset
      let instances ← Resources.admitted
        (Span.ofCount? ranges.firstInstance ranges.instanceCount)
        .instanceRange ranges.instanceCount offset
      return (ranges.call elements instances, interpreter.countDraw) := by
  obtain ⟨tag, arguments⟩ := command
  cases tag with
  | draw =>
    cases draws
    rfl
  | drawIndexed =>
    cases draws
    rfl
  | _ => cases draws

/-- A draw whose ranges fit is the native draw of their spans, and counts as one. -/
theorem execute_draw_of_fit {command : Command} {ranges : DrawRanges}
    (draws : command.drawRanges? = some ranges) {elements instances : Span}
    (isElements : Span.ofCount? ranges.first ranges.count = some elements)
    (isInstances : Span.ofCount? ranges.firstInstance ranges.instanceCount = some instances) :
    execute resources interpreter offset command =
      ⟨[ranges.call elements instances], .ok interpreter.countDraw⟩ := by
  rw [execute_draw draws, isElements, isInstances]
  rfl

/-- Any other draw is refused for the first range that does not fit, and makes no call. -/
theorem execute_draw_of_misfit {command : Command} {ranges : DrawRanges}
    (draws : command.drawRanges? = some ranges) {error : ReplayError}
    (misfit : ranges.Misfit offset error) :
    execute resources interpreter offset command = ⟨[], .error error⟩ := by
  rw [execute_draw draws]
  cases misfit with
  | elements exceeds =>
    rw [Span.ofCount?_eq_none_iff.mpr exceeds]
    rfl
  | instances fit exceeds =>
    obtain ⟨elements, isElements⟩ := Span.exists_ofCount? fit
    rw [isElements, Span.ofCount?_eq_none_iff.mpr exceeds]
    rfl

/-- The record of an encoded draw is the native draw that was asked for. -/
theorem execute_drawn {call : EncodeCall} {native : Call} (drawn : call.drawn? = some native) :
    execute resources interpreter offset call.command =
      ⟨[native], .ok interpreter.countDraw⟩ := by
  obtain ⟨ranges, elements, instances, draws, isElements, isInstances, rfl⟩ :=
    call.exists_drawRanges drawn
  exact execute_draw_of_fit draws isElements isInstances

/-! ## Records in a row -/

/-- Behind records that are all executed, a record that is executed adds its calls, and the run
goes on with the interpreter that it leaves. -/
theorem run_of_executed {front : List (Nat × Command)} {calls made : List Call}
    {before next : Interpreter} {command : Command}
    (completed : run resources interpreter front = ⟨calls, before, none⟩)
    (executed : execute resources before offset command = ⟨made, .ok next⟩)
    (back : List (Nat × Command)) :
    run resources interpreter (front ++ (offset, command) :: back) =
      { run resources next.countCommand back with
        calls := calls ++ made ++ (run resources next.countCommand back).calls } := by
  rw [run_append completed, run, executed]
  simp only [List.append_assoc]

/-- A record that is refused ends the run with what it leaves on the list. -/
theorem run_of_refused {front : List (Nat × Command)} {calls left : List Call}
    {before : Interpreter} {command : Command} {error : ReplayError}
    (completed : run resources interpreter front = ⟨calls, before, none⟩)
    (refused : execute resources before offset command = ⟨left, .error error⟩)
    (back : List (Nat × Command)) :
    run resources interpreter (front ++ (offset, command) :: back) =
      ⟨calls ++ left, before, some error⟩ := by
  rw [run_append completed, run, refused]

end Interpreter

/-- Whether a native call is a draw. -/
def Call.isDraw : Call → Bool
  | .draw .. | .drawIndexed .. => true
  | _ => false

namespace Interpreter

variable {resources : Resources} {interpreter : Interpreter}

/-- Barriers are no draws. -/
theorem countP_isDraw_batches (batches : List (List BarrierCall)) :
    (batches.map Call.resourceBarriers).countP Call.isDraw = 0 := by
  rw [List.countP_map]
  exact List.countP_eq_zero.mpr fun _ _ => Bool.false_ne_true

/-- A record that is executed counts as many draws as it makes native ones. -/
theorem Executes.draws_eq {next : Interpreter} {command : Command} {calls : List Call}
    (executes : Executes resources interpreter command calls next) :
    next.statistics.draws = interpreter.statistics.draws + calls.countP Call.isDraw := by
  cases executes with
  | resourceBarriers => rw [countP_isDraw_batches]; rfl
  | aliasingBarriers => rw [countP_isDraw_batches]; rfl
  | _ => rfl

/-- So do records in a row, whether or not one of them fails. -/
theorem draws_run (records : List (Nat × Command)) :
    (run resources interpreter records).interpreter.statistics.draws =
      interpreter.statistics.draws +
        (run resources interpreter records).calls.countP Call.isDraw := by
  induction records generalizing interpreter with
  | nil => rfl
  | cons record later inductionHypothesis =>
    obtain ⟨offset, command⟩ := record
    rcases executed : execute resources interpreter offset command with ⟨calls, error | next⟩
    · have none : calls.countP Call.isDraw = 0 := by
        refine List.countP_eq_zero.mpr fun call member => ?_
        obtain ⟨batch, rfl, _⟩ := calls_of_failed executed member
        exact Bool.false_ne_true
      rw [run, executed]
      exact (congrArg (interpreter.statistics.draws + ·) none).symm
    · have first := (executes_of_execute executed).draws_eq
      have behind := @inductionHypothesis next.countCommand
      rw [run, executed]
      dsimp only
      rw [behind, List.countP_append, ← Nat.add_assoc, ← first]
      rfl

end Interpreter

/-! ## Buffers -/

namespace CommandBuffer

variable {buffer whole : CommandBuffer} {resources : Resources}

/-- The record of an encoding call stands where the call began to write, whatever bytes come behind
it. -/
theorem records_of_encode (readable : buffer.walk.failure = none) {call : EncodeCall}
    (countable : call.command.Countable) (behind : (buffer.encode call).bytes <+: whole.bytes) :
    ∃ back, whole.walk.records =
      buffer.walk.records ++ (buffer.bytes.length, call.command) :: back := by
  obtain ⟨rest, isWhole⟩ := behind
  obtain ⟨later, alone⟩ : ∃ later, (Walk.ofBytes (call.command.record ++ rest)).records =
      (0, call.command) :: later := by
    have first := Walk.start_of_read (Command.read_record countable 0 rest)
    rw [call.counted_command] at first
    exact ⟨_, congrArg Walk.records first⟩
  rw [EncodeCall.encode_eq_append, append_eq, List.append_assoc] at isWhole
  have walked : whole.walk = _ := isWhole ▸ Walk.ofBytes_append readable _
  rw [walked, Walk.followedBy, Walk.shifted, alone]
  exact ⟨_, rfl⟩

/-- A replay that has executed the records in front makes a native draw for the record behind them,
counts it, and goes on with what is left. -/
def DrawsBehind (buffer : CommandBuffer) (resources : Resources) (front : List (Nat × Command))
    (drawing : Call) (back : List (Nat × Command)) : Prop :=
  ∀ calls before, Interpreter.run resources .fresh front = ⟨calls, before, none⟩ →
    let rest := Interpreter.run resources before.countDraw.countCommand back
    buffer.replay resources = { rest with calls := calls ++ drawing :: rest.calls }

/-- A replay that has executed the records in front fails for the record behind them. The list is
left with the calls of the records in front, and the interpreter with what they counted. -/
def RefusesBehind (buffer : CommandBuffer) (resources : Resources) (front : List (Nat × Command))
    (error : ReplayError) : Prop :=
  ∀ calls before, Interpreter.run resources .fresh front = ⟨calls, before, none⟩ →
    ∀ (interpreter : Interpreter) (list : CommandList),
      interpreter.record resources list buffer =
        (.error error, before,
          list.push (.setDescriptorHeaps (resources.heaps.map DescriptorHeap.object) :: calls))

variable {front back : List (Nat × Command)} {offset : Nat} {command : Command}

theorem drawsBehind_of_execute {drawing : Call}
    (split : buffer.walk.records = front ++ (offset, command) :: back)
    (executed : ∀ interpreter : Interpreter,
      Interpreter.execute resources interpreter offset command =
        ⟨[drawing], .ok interpreter.countDraw⟩) :
    buffer.DrawsBehind resources front drawing back := by
  intro calls before completed
  rw [replay, split, Interpreter.run_of_executed completed (executed before) back]
  simp only [List.append_assoc, List.singleton_append]

theorem refusesBehind_of_execute {error : ReplayError}
    (split : buffer.walk.records = front ++ (offset, command) :: back)
    (refused : ∀ interpreter : Interpreter,
      Interpreter.execute resources interpreter offset command = ⟨[], .error error⟩) :
    buffer.RefusesBehind resources front error := by
  intro calls before completed interpreter list
  have ran := Interpreter.run_of_refused completed (refused before) back
  rw [Interpreter.record_eq, replay, split, ran, List.append_nil]
  rfl

end CommandBuffer

/-- The spans of draws survive their encoding as counts. An encoded draw, wherever it was encoded
and whatever its bounds are, is the native draw of the same spans, a reversed one being empty. Of
any other bytes, a record that draws is replayed as a native draw exactly if its elements and its
instances end at words, and is refused for the first of the two that does not. As many draws are
counted as native ones are made. -/
theorem draw_ranges_replayed (resources : Resources) :
    (∀ (buffer whole : CommandBuffer) (call : EncodeCall) (native : Call),
      buffer.walk.failure = none → call.drawn? = some native →
      (buffer.encode call).bytes <+: whole.bytes →
        ∃ back, whole.walk.records =
            buffer.walk.records ++ (buffer.bytes.length, call.command) :: back ∧
          whole.DrawsBehind resources buffer.walk.records native back) ∧
    (∀ (buffer : CommandBuffer) front offset command back ranges,
      buffer.walk.records = front ++ (offset, command) :: back →
      command.drawRanges? = some ranges →
        (ranges.ElementsFit ∧ ranges.InstancesFit →
          ∃ elements instances, elements.Counts ranges.first ranges.count ∧
            instances.Counts ranges.firstInstance ranges.instanceCount ∧
            buffer.DrawsBehind resources front (ranges.call elements instances) back) ∧
        (¬(ranges.ElementsFit ∧ ranges.InstancesFit) →
          ∃ error, ranges.Misfit offset error ∧
            buffer.RefusesBehind resources front error)) ∧
    ∀ buffer : CommandBuffer,
      (buffer.replay resources).interpreter.statistics.draws =
        (buffer.replay resources).calls.countP Call.isDraw := by
  refine ⟨fun buffer whole call native readable drawn behind => ?_,
    fun buffer front offset command back ranges split draws => ⟨?_, ?_⟩, fun buffer => ?_⟩
  · have countable : call.command.Countable := by
      cases call with
      | draw | drawIndexed => exact List.forall_mem_nil _
      | _ => cases drawn
    obtain ⟨back, split⟩ := CommandBuffer.records_of_encode readable countable behind
    exact ⟨back, split, CommandBuffer.drawsBehind_of_execute split
      fun _ => Interpreter.execute_drawn drawn⟩
  · rintro ⟨elementsFit, instancesFit⟩
    obtain ⟨elements, isElements⟩ := Span.exists_ofCount? elementsFit
    obtain ⟨instances, isInstances⟩ := Span.exists_ofCount? instancesFit
    exact ⟨elements, instances, Span.counts_of_ofCount? isElements,
      Span.counts_of_ofCount? isInstances, CommandBuffer.drawsBehind_of_execute split
        fun _ => Interpreter.execute_draw_of_fit draws isElements isInstances⟩
  · intro tooLong
    have misfit : ∃ error, ranges.Misfit offset error := by
      by_cases fit : ranges.ElementsFit
      · exact ⟨_, .instances fit fun instancesFit => tooLong ⟨fit, instancesFit⟩⟩
      · exact ⟨_, .elements fit⟩
    obtain ⟨error, isMisfit⟩ := misfit
    exact ⟨error, isMisfit, CommandBuffer.refusesBehind_of_execute split
      fun _ => Interpreter.execute_draw_of_misfit draws isMisfit⟩
  · exact (Interpreter.draws_run buffer.walk.records).trans (Nat.zero_add _)

/-- A reversed span is drawn as an empty one, and the last word may be the end of a range, when both
are encoded. A record that draws one instance more than that is refused behind a dispatch that is
done, and is not counted. -/
theorem draw_ranges_replayed_last_word :
    let resources := Device.sample.resources
    let call := EncodeCall.draw ⟨7, 5⟩ ⟨4294967293, 4294967295⟩
    let encoded := CommandBuffer.empty.encode call
    let raw := CommandBuffer.ofCommands [⟨.dispatch, ⟨1, 1, 1⟩⟩, ⟨.draw, ⟨3, 3, 0, 4294967293⟩⟩]
    let list : CommandList := ⟨7, .graphics, true, []⟩
    encoded.replay resources =
        ⟨[.draw ⟨7, 7⟩ ⟨4294967293, 4294967295⟩], ⟨none, none, false, ⟨1, 1, 0, 0⟩⟩, none⟩ ∧
      Interpreter.fresh.record resources list raw =
        (.error (.stream (.invalidValue .instanceRange 3 16)), ⟨none, none, false, ⟨1, 0, 1, 0⟩⟩,
          list.push [.setDescriptorHeaps [1, 2], .dispatch ⟨1, 1, 1⟩]) := by
  intro resources call encoded raw list
  obtain ⟨draws, records, _⟩ := draw_ranges_replayed resources
  constructor
  · have nothing : CommandBuffer.empty.walk = ⟨[], 0, none⟩ := Walk.start_nil 0
    have countable : ∀ command ∈ [call.command], command.Countable :=
      List.forall_mem_singleton.mpr (List.forall_mem_nil _)
    have single : encoded.walk = (CommandBuffer.ofCommands [call.command]).walk :=
      congrArg CommandBuffer.walk (CommandBuffer.ofCalls_eq [call])
    obtain ⟨back, split, drawn⟩ := draws .empty encoded call _
      (congrArg Walk.failure nothing) rfl (List.prefix_refl _)
    rw [nothing] at split drawn
    rw [single, CommandBuffer.walk_ofCommands countable] at split
    have alone : back = [] := (List.cons.inj split).2.symm
    rw [drawn [] .fresh rfl, alone]
    rfl
  · have walked : raw.walk = _ := CommandBuffer.walk_ofCommands
      (by simp [Command.Countable, Command.arrayLengths])
    have split : raw.walk.records =
        [(0, ⟨.dispatch, ⟨1, 1, 1⟩⟩)] ++ (16, ⟨.draw, ⟨3, 3, 0, 4294967293⟩⟩) :: [] := by
      rw [walked]
      rfl
    obtain ⟨_, refused⟩ := records raw _ _ _ _ _ split rfl
    obtain ⟨error, misfit, leaves⟩ := refused (by decide)
    cases misfit with
    | elements exceeds => exact absurd (by decide) exceeds
    | instances => exact leaves [.dispatch ⟨1, 1, 1⟩] _ rfl .fresh list

end CommandStream
