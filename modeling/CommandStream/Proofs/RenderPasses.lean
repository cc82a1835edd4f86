import CommandStream.Proofs.Chronicle
/-!
# Render passes

The begins and ends of render passes among records, or among calls, are a word over two marks.
`PassMark.follow` reads it with a pass open or not: `PassMark.shape` says what the word looks like
that it accepts, and where it stops otherwise. A replay makes a word of calls that is always
accepted (`follow_run`). What it makes of records that are valid but for their render passes is
what `follow` makes of the word of the records (`ValidApart.follow_eq`).
-/

namespace CommandStream

/-! ## Marks -/

/-- The begin or the end of a render pass. -/
inductive PassMark
  | opened
  | closed
  deriving DecidableEq, Repr

namespace PassMark

/-- Whether a pass is open behind a mark. Where a pass is open no other one begins, and where none
is open none ends. -/
def step : Bool → PassMark → Except ReplayError Bool
  | false, .opened => .ok true
  | true, .closed => .ok false
  | true, .opened => .error .nestedRenderPass
  | false, .closed => .error .unexpectedEndRenderPass

/-- Whether a pass is open behind marks in a row. -/
def follow (inside : Bool) (marks : List PassMark) : Except ReplayError Bool :=
  marks.foldlM step inside

/-- The marks of render passes that are begun and ended one after another. -/
def passes (count : Nat) : List PassMark := (List.replicate count [.opened, .closed]).flatten

theorem follow_append (inside : Bool) (front back : List PassMark) :
    follow inside (front ++ back) = follow inside front >>= fun between => follow between back :=
  List.foldlM_append

/-- Passes that are ended leave no trace. -/
theorem follow_passes (count : Nat) (marks : List PassMark) :
    follow false (passes count ++ marks) = follow false marks := by
  induction count with
  | zero => rfl
  | succ count inductionHypothesis => exact inductionHypothesis

/-- What marks look like, and what comes of them: passes that are ended, and behind them nothing, a
pass that is not ended, a second begin of the pass or an end without a begin. -/
inductive Shape : List PassMark → Except ReplayError Bool → Prop
  | balanced (count : Nat) : Shape (passes count) (.ok false)
  | unterminated (count : Nat) : Shape (passes count ++ [.opened]) (.ok true)
  | nested (count : Nat) (rest : List PassMark) :
      Shape (passes count ++ .opened :: .opened :: rest) (.error .nestedRenderPass)
  | unexpected (count : Nat) (rest : List PassMark) :
      Shape (passes count ++ .closed :: rest) (.error .unexpectedEndRenderPass)

/-- A pass in front changes nothing. -/
theorem Shape.pass {marks : List PassMark} {ended : Except ReplayError Bool}
    (shape : Shape marks ended) : Shape (.opened :: .closed :: marks) ended := by
  cases shape with
  | balanced count => exact .balanced (count + 1)
  | unterminated count => exact .unterminated (count + 1)
  | nested count rest => exact .nested (count + 1) rest
  | unexpected count rest => exact .unexpected (count + 1) rest

/-- All marks have one of the shapes. -/
theorem shape : ∀ marks, Shape marks (follow false marks)
  | [] => .balanced 0
  | [.opened] => .unterminated 0
  | .closed :: rest => .unexpected 0 rest
  | .opened :: .opened :: rest => .nested 0 rest
  | .opened :: .closed :: rest => (shape rest).pass

theorem follow_eq_balanced {marks : List PassMark} :
    follow false marks = .ok false ↔ ∃ count, marks = passes count := by
  constructor
  · intro ended
    have shape := shape marks
    rw [ended] at shape
    cases shape with
    | balanced count => exact ⟨count, rfl⟩
  · rintro ⟨count, rfl⟩
    have ended := follow_passes count []
    rwa [List.append_nil] at ended

theorem follow_eq_unterminated {marks : List PassMark} :
    follow false marks = .ok true ↔ ∃ count, marks = passes count ++ [.opened] := by
  constructor
  · intro ended
    have shape := shape marks
    rw [ended] at shape
    cases shape with
    | unterminated count => exact ⟨count, rfl⟩
  · rintro ⟨count, rfl⟩
    rw [follow_passes]
    rfl

theorem follow_eq_nested {marks : List PassMark} :
    follow false marks = .error .nestedRenderPass ↔
      ∃ count rest, marks = passes count ++ .opened :: .opened :: rest := by
  constructor
  · intro ended
    have shape := shape marks
    rw [ended] at shape
    cases shape with
    | nested count rest => exact ⟨count, rest, rfl⟩
  · rintro ⟨count, rest, rfl⟩
    rw [follow_passes]
    rfl

theorem follow_eq_unexpected {marks : List PassMark} :
    follow false marks = .error .unexpectedEndRenderPass ↔
      ∃ count rest, marks = passes count ++ .closed :: rest := by
  constructor
  · intro ended
    have shape := shape marks
    rw [ended] at shape
    cases shape with
    | unexpected count rest => exact ⟨count, rest, rfl⟩
  · rintro ⟨count, rest, rfl⟩
    rw [follow_passes]
    rfl

end PassMark

/-- The mark of a record, if it begins or ends a render pass. -/
def Command.passMark? (command : Command) : Option PassMark :=
  match command.tag with
  | .beginRenderPass => some .opened
  | .endRenderPass => some .closed
  | _ => none

/-- The marks of records in a row. -/
def passMarks (records : List (Nat × Command)) : List PassMark :=
  records.filterMap fun record => record.2.passMark?

theorem passMarks_cons (offset : Nat) (command : Command) (records : List (Nat × Command)) :
    passMarks ((offset, command) :: records) =
      command.passMark?.toList ++ passMarks records := by
  rw [passMarks, List.filterMap_cons]
  cases command.passMark? <;> rfl

/-- The mark of a call, if it begins or ends a render pass. -/
def Call.passMark? : Call → Option PassMark
  | .beginRenderPass .. => some .opened
  | .endRenderPass => some .closed
  | _ => none

namespace Interpreter

open PassMark

variable {resources : Resources}

/-! ## The calls of a replay -/

/-- The calls of a record that is executed have its mark, which is allowed where it stands. -/
theorem Executes.passMark {interpreter next : Interpreter} {command : Command}
    {calls : List Call} (executes : interpreter.Executes resources command calls next) :
    calls.filterMap Call.passMark? = command.passMark?.toList ∧
      follow interpreter.insideRenderPass command.passMark?.toList =
        .ok next.insideRenderPass := by
  cases executes with
  | beginRenderPass closed =>
    refine ⟨rfl, ?_⟩
    rw [closed]
    rfl
  | endRenderPass opened =>
    refine ⟨rfl, ?_⟩
    rw [opened]
    rfl
  | resourceBarriers => exact ⟨filterMap_batches (fun _ => rfl) _, rfl⟩
  | aliasingBarriers => exact ⟨filterMap_batches (fun _ => rfl) _, rfl⟩
  | _ => exact ⟨rfl, rfl⟩

/-- The calls of records in a row, whether or not they are all executed, begin and end passes as
they may, and the interpreter knows whether one is open behind them. -/
theorem follow_run (resources : Resources) (interpreter : Interpreter)
    (records : List (Nat × Command)) :
    follow interpreter.insideRenderPass
        ((run resources interpreter records).calls.filterMap Call.passMark?) =
      .ok (run resources interpreter records).interpreter.insideRenderPass := by
  induction records generalizing interpreter with
  | nil => rfl
  | cons record later inductionHypothesis =>
    obtain ⟨offset, command⟩ := record
    rw [run]
    split
    · rename_i calls error failed
      have none : calls.filterMap Call.passMark? = [] := by
        refine List.filterMap_eq_nil_iff.mpr fun call member => ?_
        obtain ⟨batch, rfl, _⟩ := calls_of_failed failed member
        rfl
      change follow _ (calls.filterMap Call.passMark?) = _
      rw [none]
      rfl
    · rename_i calls next executed
      obtain ⟨marks, allowed⟩ := (executes_of_execute executed).passMark
      change follow _ ((calls ++ _).filterMap Call.passMark?) = _
      rw [List.filterMap_append, follow_append, marks, allowed]
      exact inductionHypothesis next.countCommand

/-! ## Records that are valid but for their passes -/

/-- The interpreter with a pass open or not as a record needs it. -/
def ready (interpreter : Interpreter) (command : Command) : Interpreter :=
  match command.passMark? with
  | some .opened => { interpreter with insideRenderPass := false }
  | some .closed => { interpreter with insideRenderPass := true }
  | none => interpreter

/-- Records that are valid in every respect but for the order in which they begin and end render
passes: each of them would be executed with a pass open or not as it needs it. -/
inductive ValidApart (resources : Resources) : Interpreter → List (Nat × Command) → Prop
  | nil {interpreter : Interpreter} : ValidApart resources interpreter []
  | cons {interpreter next : Interpreter} {offset : Nat} {command : Command} {calls : List Call}
      {records : List (Nat × Command)}
      (executed : execute resources (interpreter.ready command) offset command =
        ⟨calls, .ok next⟩)
      (later : ValidApart resources next.countCommand records) :
      ValidApart resources interpreter ((offset, command) :: records)

/-- A record finds the interpreter ready, or its mark is not allowed and it fails for that. -/
theorem ready_or_refused (resources : Resources) (interpreter : Interpreter) (offset : Nat)
    (command : Command) :
    interpreter.ready command = interpreter ∨
      ∃ mark error, command.passMark? = some mark ∧
        step interpreter.insideRenderPass mark = .error error ∧
        execute resources interpreter offset command = ⟨[], .error error⟩ := by
  obtain ⟨tag, arguments⟩ := command
  obtain ⟨pipeline, topology, inside, statistics⟩ := interpreter
  cases tag with
  | beginRenderPass =>
    cases inside with
    | false => exact .inl rfl
    | true => exact .inr ⟨.opened, _, rfl, rfl, rfl⟩
  | endRenderPass =>
    cases inside with
    | false => exact .inr ⟨.closed, _, rfl, rfl, rfl⟩
    | true => exact .inl rfl
  | _ => exact .inl rfl

/-- What records come to: the failure of one of them, or whether a pass is open behind them. -/
def Run.ending (run : Run) : Except ReplayError Bool :=
  match run.failure with
  | some error => .error error
  | none => .ok run.interpreter.insideRenderPass

/-- Records that are valid but for their passes come to what their marks come to. -/
theorem ValidApart.follow_eq {interpreter : Interpreter} {records : List (Nat × Command)}
    (valid : ValidApart resources interpreter records) :
    follow interpreter.insideRenderPass (passMarks records) =
      (run resources interpreter records).ending := by
  induction valid with
  | nil => rfl
  | @cons interpreter next offset command calls records executed later inductionHypothesis =>
    rw [passMarks_cons, follow_append, run]
    obtain isReady | ⟨mark, error, isMark, refused, failed⟩ :=
      ready_or_refused resources interpreter offset command
    · rw [isReady] at executed
      rw [executed, (executes_of_execute executed).passMark.2]
      exact inductionHypothesis
    · have stops : follow interpreter.insideRenderPass [mark] = .error error := by
        change (step interpreter.insideRenderPass mark >>= pure) = _
        rw [refused]
        rfl
      rw [isMark, failed, Option.toList_some, stops]
      rfl

/-- The verdict on records that come to an end, with the statistics up to there. -/
def conclude (statistics : ReplayStatistics) :
    Except ReplayError Bool → Except ReplayError ReplayStatistics
  | .error error => .error error
  | .ok true => .error .unterminatedRenderPass
  | .ok false => .ok statistics

theorem conclude_eq_ok {statistics : ReplayStatistics} {ended : Except ReplayError Bool} :
    (∃ found, conclude statistics ended = .ok found) ↔ ended = .ok false := by
  rcases ended with error | inside
  · simp [conclude]
  · cases inside <;> simp [conclude]

theorem conclude_eq_error {statistics : ReplayStatistics} {ended : Except ReplayError Bool}
    {error : ReplayError} (other : error ≠ .unterminatedRenderPass) :
    conclude statistics ended = .error error ↔ ended = .error error := by
  rcases ended with found | inside
  · simp [conclude]
  · cases inside <;> simp [conclude, other.symm]

/-- The verdict on a buffer that can be read to its end is that on its records. -/
theorem verdict_eq {run : Run} {walk : Walk} (readable : walk.failure = none) :
    verdict run walk = conclude run.interpreter.statistics run.ending := by
  unfold verdict Run.ending
  rw [readable]
  cases run.failure with
  | some error => rfl
  | none => cases run.interpreter.insideRenderPass <;> rfl

end Interpreter

/-! ## Balance -/

/-- Marks decide a replay: it succeeds if all passes are ended, one after another, and otherwise
fails for the first mark that is not allowed, or else because the last pass is not ended. -/
structure PassMark.Decide (marks : List PassMark)
    (result : Except ReplayError ReplayStatistics) : Prop where
  succeeds : (∃ statistics, result = .ok statistics) ↔ ∃ count, marks = passes count
  nested : result = .error .nestedRenderPass ↔
    ∃ count rest, marks = passes count ++ .opened :: .opened :: rest
  unexpected : result = .error .unexpectedEndRenderPass ↔
    ∃ count rest, marks = passes count ++ .closed :: rest
  unterminated : result = .error .unterminatedRenderPass ↔
    ∃ count, marks = passes count ++ [.opened]
  complete : (∃ statistics, result = .ok statistics) ∨ result = .error .nestedRenderPass ∨
    result = .error .unexpectedEndRenderPass ∨ result = .error .unterminatedRenderPass

/-- The render passes in the replay of a buffer are balanced: in the calls that it makes, and in
the records if they are valid in every other respect. -/
structure PassMark.Balance (resources : Resources) (buffer : CommandBuffer)
    (result : Except ReplayError ReplayStatistics) (calls : List Call) : Prop where
  /-- Begins and ends alternate, with a begin first. -/
  alternate : ∃ count, calls.filterMap Call.passMark? = passes count ∨
    calls.filterMap Call.passMark? = passes count ++ [.opened]
  /-- An end is last, unless there is none, if the replay succeeds. -/
  ended : ∀ statistics, result = .ok statistics →
    ∃ count, calls.filterMap Call.passMark? = passes count
  /-- Where nothing else decides, the marks do. -/
  decide : buffer.walk.failure = none →
    Interpreter.ValidApart resources .fresh buffer.walk.records →
      PassMark.Decide (passMarks buffer.walk.records) result

/-- What the marks come to decides. -/
theorem PassMark.decide_conclude (marks : List PassMark) (statistics : ReplayStatistics) :
    Decide marks (Interpreter.conclude statistics (follow false marks)) where
  succeeds := Interpreter.conclude_eq_ok.trans follow_eq_balanced
  nested := by
    have other : ReplayError.nestedRenderPass ≠ .unterminatedRenderPass := nofun
    exact (Interpreter.conclude_eq_error other).trans follow_eq_nested
  unexpected := by
    have other : ReplayError.unexpectedEndRenderPass ≠ .unterminatedRenderPass := nofun
    exact (Interpreter.conclude_eq_error other).trans follow_eq_unexpected
  unterminated := by
    have shape := shape marks
    rw [← follow_eq_unterminated]
    generalize follow false marks = ended at shape
    cases shape <;> simp [Interpreter.conclude]
  complete := by
    have shape := shape marks
    generalize follow false marks = ended at shape
    cases shape <;> simp [Interpreter.conclude]

namespace CommandBuffer

open PassMark

variable {resources : Resources} {buffer : CommandBuffer}

/-- The calls of a replay have the marks of passes, of which the last may be open. -/
theorem passMarks_replay (resources : Resources) (buffer : CommandBuffer) :
    ∃ count, (buffer.replay resources).calls.filterMap Call.passMark? = passes count ∨
      (buffer.replay resources).calls.filterMap Call.passMark? = passes count ++ [.opened] := by
  have followed : follow false ((buffer.replay resources).calls.filterMap Call.passMark?) =
      .ok (buffer.replay resources).interpreter.insideRenderPass :=
    Interpreter.follow_run resources .fresh buffer.walk.records
  cases inside : (buffer.replay resources).interpreter.insideRenderPass with
  | false =>
    rw [inside] at followed
    exact (follow_eq_balanced.mp followed).imp fun _ => .inl
  | true =>
    rw [inside] at followed
    exact (follow_eq_unterminated.mp followed).imp fun _ => .inr

/-- No pass is open at the end of a replay that succeeds. -/
theorem passMarks_replay_of_verdict {statistics : ReplayStatistics}
    (verdict : Interpreter.verdict (buffer.replay resources) buffer.walk = .ok statistics) :
    ∃ count, (buffer.replay resources).calls.filterMap Call.passMark? = passes count := by
  obtain ⟨completed, readable⟩ := Interpreter.completed_of_verdict verdict
  rw [Interpreter.verdict_eq readable] at verdict
  have ended := Interpreter.conclude_eq_ok.mp ⟨statistics, verdict⟩
  rw [Interpreter.Run.ending, completed] at ended
  have followed := Interpreter.follow_run resources .fresh buffer.walk.records
  exact follow_eq_balanced.mp (followed.trans ended)

/-- A buffer that is valid but for its passes is decided by the marks of its records. -/
theorem decide_of_validApart (readable : buffer.walk.failure = none)
    (valid : Interpreter.ValidApart resources .fresh buffer.walk.records) :
    PassMark.Decide (passMarks buffer.walk.records)
      (Interpreter.verdict (buffer.replay resources) buffer.walk) := by
  have followed : follow false (passMarks buffer.walk.records) =
      (buffer.replay resources).ending := valid.follow_eq
  rw [Interpreter.verdict_eq readable, ← followed]
  exact PassMark.decide_conclude _ _

end CommandBuffer

/-- A list that is executed for a submission has complete passes. -/
theorem Submission.passes_of_execute {submission : Submission} {lists : List (List Call)}
    (executed : .execute lists ∈ submission.events) {calls : List Call} (member : calls ∈ lists) :
    ∃ count, calls.filterMap Call.passMark? = PassMark.passes count := by
  obtain ⟨allocator, records⟩ := submission.records_of_execute executed
  obtain ⟨buffer, _, ⟨_, verdict⟩⟩ := exists_of_mem_forall₂ records.flip member
  exact CommandBuffer.passMarks_replay_of_verdict verdict

/-- Render passes are balanced, whatever the interpreter and the list were used for before: in the
calls that the replay of a buffer appends, in its verdict if nothing but the passes can be wrong,
and so in every list that is executed for a submission. -/
theorem render_passes_balanced :
    (∀ (interpreter : Interpreter) (resources : Resources) (list : CommandList)
        (buffer : CommandBuffer),
      ∃ appended, (interpreter.record resources list buffer).2.2.calls = list.calls ++ appended ∧
        PassMark.Balance resources buffer (interpreter.record resources list buffer).1
          appended) ∧
      ∀ (submission : Submission) (lists : List (List Call)),
        .execute lists ∈ submission.events → ∀ calls ∈ lists, ∃ count,
          calls.filterMap Call.passMark? = PassMark.passes count := by
  refine ⟨fun interpreter resources list buffer => ?_, fun submission lists executed calls =>
    submission.passes_of_execute executed⟩
  rw [Interpreter.record_eq]
  refine ⟨_, rfl, ?_⟩
  constructor
  case alternate => exact buffer.passMarks_replay resources
  case ended => exact fun statistics => CommandBuffer.passMarks_replay_of_verdict
  case decide => exact CommandBuffer.decide_of_validApart

/-- A buffer that failed inside a pass leaves the interpreter there. The next one ends a pass that
it has not begun, behind one that it has, and fails for that. -/
theorem render_passes_balanced_reused :
    let resources := Device.sample.resources
    let list : CommandList := ⟨7, .graphics, true, []⟩
    let left := (Interpreter.fresh.record resources list
      (.ofCalls [.beginRenderPass [] none])).2.1
    let calls := [.beginRenderPass [] none, .endRenderPass, .endRenderPass]
    let buffer := CommandBuffer.ofCalls calls
    left.insideRenderPass = true ∧ buffer.walk.failure = none ∧
      Interpreter.ValidApart resources .fresh buffer.walk.records ∧
      passMarks buffer.walk.records = [.opened, .closed, .closed] ∧
      (left.record resources list buffer).1 = .error .unexpectedEndRenderPass := by
  intro resources list left calls buffer
  have inside : left.insideRenderPass = true := by decide +kernel
  have countable : ∀ call ∈ calls, call.command.Countable := by
    simp [calls, EncodeCall.command, Command.Countable, Command.arrayLengths]
  obtain ⟨commands, readable⟩ := CommandBuffer.walk_ofCalls countable
  obtain ⟨⟨begin, _⟩, _, records, rfl, ends⟩ := List.map_eq_cons_iff.mp commands
  obtain ⟨⟨first, _⟩, _, rfl, rfl, last⟩ := List.map_eq_cons_iff.mp ends
  obtain ⟨⟨second, _⟩, rfl, rfl⟩ := List.map_eq_singleton_iff.mp last
  have valid : Interpreter.ValidApart resources .fresh buffer.walk.records := by
    rw [records]
    exact .cons rfl (.cons rfl (.cons rfl .nil))
  have marks : passMarks buffer.walk.records = [.opened, .closed, .closed] := by
    rw [records]
    rfl
  refine ⟨inside, readable, valid, marks, ?_⟩
  obtain ⟨_, _, balance⟩ := render_passes_balanced.1 left resources list buffer
  exact (balance.decide readable valid).unexpected.mpr ⟨1, [], marks⟩

end CommandStream
