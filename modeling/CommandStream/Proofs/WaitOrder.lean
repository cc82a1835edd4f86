import CommandStream.Proofs.Chronicle
import CommandStream.Proofs.SubmissionStages
import Mathlib.Data.List.Induction
/-!
# Waits that end

The queues of a device wait for each other only through tokens, and a token is handed out behind its
signal. `Traffic` is a session in which submissions to several queues are under way at the same
time, each of them between two of its native calls, while anything else happens to the device. By
the invariant `Traffic.Behaved` nothing is ever waited for that was not signaled before, whichever
submissions fail and wherever they do, so the log can be replayed with waits that block
(`waits_never_block`).
-/

namespace CommandStream

/-! ## Events -/

/-- A value of the fence of a token was signaled that is not below that of the token. -/
def Token.SignaledIn (token : Token) (events : List QueueEvent) : Prop :=
  ∃ value, .signal token.fence value ∈ events ∧ token.value ≤ value

theorem Token.SignaledIn.append {token : Token} {events : List QueueEvent}
    (signaled : token.SignaledIn events) (added : List QueueEvent) :
    token.SignaledIn (events ++ added) := by
  obtain ⟨value, member, atLeast⟩ := signaled
  exact ⟨value, List.mem_append_left _ member, atLeast⟩

/-- Every wait among events is behind a signal that ends it. -/
def Unblocked (events : List QueueEvent) : Prop :=
  ∀ front fence value back, events = front ++ .wait fence value :: back →
    Token.SignaledIn ⟨fence, value⟩ front

theorem unblocked_nil : Unblocked [] := by
  intro front fence value back split
  exact absurd split.symm (List.append_ne_nil_of_right_ne_nil _ (List.cons_ne_nil _ _))

/-- Events go on as they are if what comes next is no wait, or one that was signaled. -/
theorem Unblocked.append_singleton {events : List QueueEvent} (unblocked : Unblocked events)
    {event : QueueEvent}
    (ends : ∀ fence value, event = .wait fence value → Token.SignaledIn ⟨fence, value⟩ events) :
    Unblocked (events ++ [event]) := by
  intro front fence value back split
  rcases divided_append_singleton split with ⟨rfl, isWait⟩ | ⟨later, before⟩
  · exact ends fence value isWait
  · exact unblocked front fence value later before

theorem Unblocked.of_append {front back : List QueueEvent} (unblocked : Unblocked (front ++ back)) :
    Unblocked front := by
  intro earlier fence value later split
  refine unblocked earlier fence value (later ++ back) ?_
  rw [split, List.append_assoc, List.cons_append]

/-- The fences, by the values they have reached, after an event of a queue that blocks where it has
to wait; none if it would block for good, since nothing else happens meanwhile. -/
def QueueEvent.replay? (reached : ObjectId → Nat) : QueueEvent → Option (ObjectId → Nat)
  | .wait fence value => if value ≤ reached fence then some reached else none
  | .execute _ => some reached
  | .signal fence value => some (Function.update reached fence (max (reached fence) value))

/-- Events in order, from fences that have reached nothing. -/
def replayEvents? (events : List QueueEvent) : Option (ObjectId → Nat) :=
  events.foldlM QueueEvent.replay? fun _ => 0

/-- Events whose waits are all behind their signals are replayed to the end. -/
theorem Unblocked.replays {events : List QueueEvent} (unblocked : Unblocked events) :
    ∃ reached, replayEvents? events = some reached ∧
      ∀ fence value, .signal fence value ∈ events → value ≤ reached fence := by
  induction events using List.reverseRecOn with
  | nil => exact ⟨_, rfl, nofun⟩
  | append_singleton earlier event inductionHypothesis =>
    obtain ⟨reached, replayed, covers⟩ := inductionHypothesis unblocked.of_append
    have next : replayEvents? (earlier ++ [event]) = event.replay? reached := by
      rw [replayEvents?] at replayed ⊢
      rw [List.foldlM_append, replayed, Option.bind_eq_bind, Option.bind_some, List.foldlM_cons]
      exact bind_pure _
    rw [next]
    cases event with
    | wait fence value =>
      obtain ⟨signaled, member, atLeast⟩ := unblocked earlier fence value [] rfl
      refine ⟨reached, if_pos (Nat.le_trans atLeast (covers fence signaled member)), ?_⟩
      intro other otherValue inEvents
      rcases List.mem_append.mp inEvents with old | new
      · exact covers other otherValue old
      · cases List.mem_singleton.mp new
    | execute lists =>
      refine ⟨reached, rfl, fun other otherValue inEvents => ?_⟩
      rcases List.mem_append.mp inEvents with old | new
      · exact covers other otherValue old
      · cases List.mem_singleton.mp new
    | signal fence value =>
      refine ⟨_, rfl, fun other otherValue inEvents => ?_⟩
      rcases List.mem_append.mp inEvents with old | new
      · have covered := covers other otherValue old
        rw [Function.update_apply]
        split
        · rename_i same
          exact Nat.le_trans (same ▸ covered) (Nat.le_max_left _ _)
        · exact covered
      · cases List.mem_singleton.mp new
        rw [Function.update_self]
        exact Nat.le_max_right _ _

/-! ## Traffic -/

/-- A submission under way: the place of its queue, its buffers and how far it has come. -/
structure Flight where
  index : Nat
  work : List CommandBuffer
  stage : Stage

/-- The flight after a step, unless it came to its end. -/
def Flight.next? (flight : Flight) : Progress → Option Flight
  | .reached stage => some { flight with stage := stage }
  | .answered _ => none

/-- A session with the submissions under way, the tokens handed out so far, and all events that were
ever appended to the log. -/
structure Traffic where
  session : Session
  flights : List Flight
  tokens : List Token
  events : List QueueEvent

namespace Traffic

/-- A session in which nothing was submitted yet. -/
def start (device : Device) : Traffic := ⟨Session.start device, [], [], []⟩

/-- What can happen next. -/
inductive Step (traffic : Traffic) : Traffic → Prop
  /-- Something other than a submission is done, or happens from outside. -/
  | acts {action : Action} (other : traffic.session.submission? action = none) :
      Step traffic { traffic with session := traffic.session.perform action }
  /-- A submission has nothing to do. -/
  | idles {index : Nat} {queue : Queue} {buffers : List CommandBuffer} {dependencies : List Token}
      (found : traffic.session.queues[index]? = some queue)
      (handedOut : dependencies ⊆ traffic.tokens) (noWork : Queue.work buffers = [])
      (noWaits : queue.waits traffic.session.device.native dependencies = []) :
      Step traffic { traffic with tokens := traffic.tokens ++ [⟨queue.fence, 0⟩] }
  /-- A submission begins. What it has to wait for is decided here, before it has the queue. -/
  | begins {index : Nat} {queue : Queue} {buffers : List CommandBuffer} {dependencies : List Token}
      (found : traffic.session.queues[index]? = some queue)
      (handedOut : dependencies ⊆ traffic.tokens)
      (pending : Queue.work buffers ≠ [] ∨
        queue.waits traffic.session.device.native dependencies ≠ []) :
      Step traffic { traffic with
        flights := traffic.flights ++ [⟨index, Queue.work buffers,
          .entering (queue.waits traffic.session.device.native dependencies)⟩] }
  /-- A submission takes its next step. It enters its queue only while no other has it. -/
  | advances {front back : List Flight} {flight : Flight} {queue after : Queue}
      {progress : Progress} {native : NativeDevice} {added : List QueueEvent}
      (isFlight : traffic.flights = front ++ flight :: back)
      (found : traffic.session.queues[flight.index]? = some queue)
      (free : flight.stage.entered = false →
        ∀ other ∈ front ++ back, other.index = flight.index → other.stage.entered = false)
      (advanced : flight.stage.advance queue traffic.session.device.native
        traffic.session.device.resources flight.work = (progress, after, native))
      (log : native.log = traffic.session.device.native.log ++ added) :
      Step traffic
        { session := ⟨{ traffic.session.device with native := native },
            traffic.session.queues.set flight.index after⟩
          flights := front ++ ((flight.next? progress).toList ++ back)
          tokens := traffic.tokens ++ progress.token?.toList
          events := traffic.events ++ added }

/-- What can happen in a row. -/
inductive Steps : Traffic → Traffic → Prop
  | refl (traffic : Traffic) : Steps traffic traffic
  | step {first middle last : Traffic} (prior : Steps first middle) (next : middle.Step last) :
      Steps first last

theorem Steps.trans {first middle last : Traffic} (front : Steps first middle)
    (back : Steps middle last) : Steps first last := by
  induction back with
  | refl => exact front
  | step _ next inductionHypothesis => exact .step inductionHypothesis next

/-- The invariant of traffic: what was handed out and what is still waited for was signaled, and so
was what has been waited for, before it was. -/
structure Behaved (traffic : Traffic) : Prop where
  tokens : ∀ token ∈ traffic.tokens, token.value ≠ 0 → token.SignaledIn traffic.events
  flights : ∀ flight ∈ traffic.flights, ∀ token ∈ flight.stage.waits,
    token.SignaledIn traffic.events
  unblocked : Unblocked traffic.events
  log : traffic.session.device.native.log <:+ traffic.events

/-- A token that has to be waited for is not zero, which every fence has reached. -/
theorem value_ne_zero_of_mem_waits {queue : Queue} {device : NativeDevice}
    {dependencies : List Token} {token : Token} (member : token ∈ queue.waits device dependencies) :
    token.value ≠ 0 := by
  intro zero
  have awaited := (List.mem_filter.mp member).2
  rw [Queue.awaits, Token.isReached, zero, decide_eq_true (Nat.zero_le _)] at awaited
  simp at awaited

/-- What a step of a submission appends leaves all waits behind their signals. -/
theorem unblocked_of_emits {queue : Queue} {stage : Stage} {progress : Progress}
    {events added : List QueueEvent} (unblocked : Unblocked events)
    (signaled : ∀ token ∈ stage.waits, token.SignaledIn events)
    (emits : stage.Emits queue progress added) : Unblocked (events ++ added) := by
  cases emits with
  | nothing => exact (List.append_nil events).symm ▸ unblocked
  | @wait token later =>
    refine unblocked.append_singleton fun fence value same => ?_
    cases same
    exact signaled token List.mem_cons_self
  | execution => exact unblocked.append_singleton nofun
  | signal => exact unblocked.append_singleton nofun

/-- A token that a step of a submission hands out was signaled in the step. -/
theorem signaled_of_emits {queue : Queue} {stage : Stage} {progress : Progress}
    {added : List QueueEvent} (emits : stage.Emits queue progress added) {token : Token}
    (handedOut : progress.token? = some token) : token.SignaledIn added := by
  cases emits with
  | nothing _ noToken => cases noToken.symm.trans handedOut
  | wait => cases handedOut
  | execution => cases handedOut
  | signal =>
    cases handedOut
    exact ⟨_, List.mem_singleton_self _, Nat.le_refl _⟩

/-- What is still to be waited for behind a step was to be waited for before it. -/
theorem waits_of_emits {queue : Queue} {stage : Stage} {progress : Progress}
    {added : List QueueEvent} (emits : stage.Emits queue progress added) :
    progress.waits ⊆ stage.waits := by
  cases emits with
  | nothing waits => exact waits
  | wait => exact List.subset_cons_self _ _
  | execution => exact List.nil_subset _
  | signal => exact List.nil_subset _

theorem behaved_start {device : Device} (noEvents : device.native.log = []) :
    (start device).Behaved where
  tokens := List.forall_mem_nil _
  flights := List.forall_mem_nil _
  unblocked := unblocked_nil
  log := by
    change device.native.log <:+ []
    exact noEvents ▸ List.suffix_rfl

/-- Whatever happens next, traffic behaves. -/
theorem Step.behaved {traffic next : Traffic} (step : traffic.Step next)
    (behaved : traffic.Behaved) : next.Behaved := by
  cases step with
  | @acts action other =>
    refine ⟨behaved.tokens, behaved.flights, behaved.unblocked, ?_⟩
    have changes := traffic.session.changes_perform action
    rw [other] at changes
    have log := changes.log
    rw [Option.toList_none, List.flatMap_nil, List.append_nil] at log
    exact log.trans behaved.log
  | idles found handedOut noWork noWaits =>
    refine ⟨List.forall_mem_append.mpr ⟨behaved.tokens, List.forall_mem_singleton.mpr ?_⟩,
      behaved.flights, behaved.unblocked, behaved.log⟩
    exact fun nonzero => absurd rfl nonzero
  | begins found handedOut pending =>
    refine ⟨behaved.tokens, List.forall_mem_append.mpr ⟨behaved.flights,
      List.forall_mem_singleton.mpr ?_⟩, behaved.unblocked, behaved.log⟩
    intro token member
    have nonzero := value_ne_zero_of_mem_waits member
    exact behaved.tokens token (handedOut (List.mem_filter.mp member).1) nonzero
  | @advances front back flight _ _ progress native added isFlight _ _ advanced log =>
    -- The only wait that a step can append is for a token of its own flight, and by the invariant
    -- that was signaled; the only token that it can hand out is the one that it signals.
    obtain ⟨appended, isLog, emits⟩ := Stage.emits_of_advance advanced
    obtain rfl : appended = added := List.append_cancel_left (isLog.symm.trans log)
    have inFlight : flight ∈ traffic.flights := by
      rw [isFlight]
      exact List.mem_append_right _ List.mem_cons_self
    have due := behaved.flights flight inFlight
    constructor
    case tokens =>
      intro token member nonzero
      rcases List.mem_append.mp member with old | new
      · exact (behaved.tokens token old nonzero).append _
      · obtain ⟨value, signaled, atLeast⟩ :=
          signaled_of_emits emits (Option.mem_toList.mp new)
        exact ⟨value, List.mem_append_right _ signaled, atLeast⟩
    case flights =>
      intro other member token waited
      refine Token.SignaledIn.append ?_ _
      rcases List.mem_append.mp member with inFront | inRest
      · exact behaved.flights other (isFlight ▸ List.mem_append_left _ inFront) token waited
      · rcases List.mem_append.mp inRest with isNext | inBack
        · cases progress with
          | reached stage =>
            cases Option.mem_toList.mp isNext
            exact due token (waits_of_emits emits waited)
          | answered => cases isNext
        · exact behaved.flights other
            (isFlight ▸ List.mem_append_right _ (List.mem_cons_of_mem _ inBack)) token waited
    case unblocked => exact unblocked_of_emits behaved.unblocked due emits
    case log =>
      change native.log <:+ _
      rw [log]
      obtain ⟨cleared, kept⟩ := behaved.log
      exact ⟨cleared, by rw [← List.append_assoc, kept]⟩

theorem Steps.behaved {first last : Traffic} (steps : Steps first last)
    (behaved : first.Behaved) : last.Behaved := by
  induction steps with
  | refl => exact behaved
  | step _ next inductionHypothesis => exact next.behaved inductionHypothesis

/-! ## Sessions -/

/-- The next step of a submission that is the only one under way. -/
theorem step_of_alone {traffic : Traffic} {flight : Flight} {queue after : Queue}
    {progress : Progress} {native : NativeDevice} {added : List QueueEvent}
    (alone : traffic.flights = [flight])
    (found : traffic.session.queues[flight.index]? = some queue)
    (advanced : flight.stage.advance queue traffic.session.device.native
      traffic.session.device.resources flight.work = (progress, after, native))
    (log : native.log = traffic.session.device.native.log ++ added) :
    traffic.Step
      { session := ⟨{ traffic.session.device with native := native },
          traffic.session.queues.set flight.index after⟩
        flights := (flight.next? progress).toList
        tokens := traffic.tokens ++ progress.token?.toList
        events := traffic.events ++ added } := by
  have free : ∀ other ∈ ([] ++ [] : List Flight), other.index = flight.index →
      other.stage.entered = false := nofun
  have step := @Step.advances traffic [] [] flight queue after progress native added alone found
    (fun _ => free) advanced log
  rwa [List.nil_append, List.append_nil] at step

/-- The steps of a submission that nothing disturbs. -/
theorem steps_of_completes {device : Device} {work : List CommandBuffer} {stage : Stage}
    {queue after : Queue} {native final : NativeDevice} {answer : Except SubmitError Token}
    (completes : stage.Completes device.resources work queue native answer after final)
    {queues : List Queue} {index : Nat} (found : queues[index]? = some queue)
    (tokens : List Token) (events : List QueueEvent) :
    ∃ added, final.log = native.log ++ added ∧
      Steps
        ⟨⟨{ device with native := native }, queues⟩, [⟨index, work, stage⟩], tokens, events⟩
        ⟨⟨{ device with native := final }, queues.set index after⟩, [],
          tokens ++ answer.toOption.toList, events ++ added⟩ := by
  induction completes generalizing queues tokens events with
  | @last stage queue after native final answer answered =>
    have alone : Traffic.flights ⟨⟨{ device with native := native }, queues⟩,
        [⟨index, work, stage⟩], tokens, events⟩ = [⟨index, work, stage⟩] := rfl
    obtain ⟨added, log, _⟩ := Stage.emits_of_advance answered
    exact ⟨added, log, .step (.refl _) (step_of_alone alone found answered log)⟩
  | @step stage next queue between after native state final answer reached rest
      inductionHypothesis =>
    have alone : Traffic.flights ⟨⟨{ device with native := native }, queues⟩,
        [⟨index, work, stage⟩], tokens, events⟩ = [⟨index, work, stage⟩] := rfl
    obtain ⟨first, firstLog, _⟩ := Stage.emits_of_advance reached
    have inRange := (List.getElem?_eq_some_iff.mp found).1
    obtain ⟨later, laterLog, steps⟩ :=
      inductionHypothesis (List.getElem?_set_self inRange) (tokens ++ []) (events ++ first)
    refine ⟨first ++ later, by rw [laterLog, firstLog, List.append_assoc], ?_⟩
    rw [List.set_set, List.append_nil, List.append_assoc] at steps
    have step := step_of_alone alone found reached firstLog
    rw [Progress.token?, Option.toList_none] at step
    dsimp only at step
    rw [List.append_nil] at step
    exact .trans (.step (.refl _) step) steps

/-- A submission of a session, made from its begin to its end. -/
theorem steps_of_submission {session : Session} {action : Action} {submission : Submission}
    (made : session.submission? action = some submission) {tokens : List Token}
    (handedOut : submission.dependencies ⊆ tokens) (events : List QueueEvent) :
    Steps ⟨session, [], tokens, events⟩
      ⟨session.perform action, [], tokens ++ submission.token?.toList,
        events ++ submission.events⟩ := by
  cases action with
  | submit index buffers dependencies =>
    obtain ⟨queue, found, rfl⟩ := Option.map_eq_some_iff.mp made
    rcases result : queue.submit session.device buffers dependencies with ⟨answer, after, final⟩
    have isToken : Submission.token? ⟨queue, session.device, buffers, dependencies⟩ =
        answer.toOption := by
      rw [Submission.token?, Submission.answer, result]
    have isFinal : Submission.final ⟨queue, session.device, buffers, dependencies⟩ = final := by
      rw [Submission.final, result]
    have performed : session.perform (.submit index buffers dependencies) =
        ⟨final, session.queues.set index after⟩ := by
      rw [Session.perform, Session.submit, found]
      dsimp only
      rw [result]
    have submits := Queue.submits_of_submit result
    rw [isToken, performed]
    by_cases pending : Queue.work buffers ≠ [] ∨
        queue.waits session.device.native dependencies ≠ []
    · have begins : Step ⟨session, [], tokens, events⟩ _ := .begins found handedOut pending
      obtain ⟨added, log, steps⟩ :=
        steps_of_completes (Stage.completes_submit pending result) found tokens events
      rw [Submission.events_eq (isFinal ▸ log), submits.device_eq]
      exact .trans (.step (.refl _) begins) steps
    · obtain ⟨noWork, noWaits⟩ := not_or.mp pending
      cases submits with
      | idle =>
        have idles : Step ⟨session, [], tokens, events⟩ _ :=
          .idles found handedOut (not_not.mp noWork) (not_not.mp noWaits)
        have unchanged : session.queues.set index queue = session.queues := by
          obtain ⟨inRange, isQueue⟩ := List.getElem?_eq_some_iff.mp found
          rw [← isQueue, List.set_getElem_self]
        have log : (Submission.final ⟨queue, session.device, buffers, dependencies⟩).native.log =
            session.device.native.log ++ [] := by
          rw [isFinal, List.append_nil]
        rw [Submission.events_eq log, List.append_nil, unchanged]
        exact .step (.refl _) idles
      | closed _ pending' => exact absurd pending' pending
      | works _ pending' => exact absurd pending' pending
  | _ => cases made

end Traffic

/-- Submissions in a row depend only on tokens that were handed out before, by those before them or
earlier. -/
def HandedOut (tokens : List Token) : List Submission → Prop
  | [] => True
  | submission :: later =>
    submission.dependencies ⊆ tokens ∧ HandedOut (tokens ++ submission.token?.toList) later

instance HandedOut.decidable : (tokens : List Token) → (history : List Submission) →
    Decidable (HandedOut tokens history)
  | _, [] => .isTrue trivial
  | tokens, submission :: later =>
    have := decidable (tokens ++ submission.token?.toList) later
    inferInstanceAs (Decidable (submission.dependencies ⊆ tokens ∧
      HandedOut (tokens ++ submission.token?.toList) later))

/-- A session in which one submission is made after another is traffic. -/
theorem Traffic.steps_of_actions {session : Session} {tokens : List Token} (actions : List Action)
    (handedOut : HandedOut tokens (session.submissions actions)) (events : List QueueEvent) :
    Steps ⟨session, [], tokens, events⟩
      ⟨session.after actions, [],
        tokens ++ (session.submissions actions).filterMap Submission.token?,
        events ++ (session.submissions actions).flatMap Submission.events⟩ := by
  induction actions generalizing session tokens events with
  | nil =>
    rw [Session.submissions, List.filterMap_nil, List.flatMap_nil, List.append_nil,
      List.append_nil]
    exact .refl _
  | cons action later inductionHypothesis =>
    rw [Session.submissions] at handedOut ⊢
    cases made : session.submission? action with
    | none =>
      rw [made, Option.toList_none, List.nil_append] at handedOut
      rw [Option.toList_none, List.nil_append]
      have acts : Step ⟨session, [], tokens, events⟩ _ := .acts made
      exact .trans (.step (.refl _) acts) (inductionHypothesis handedOut events)
    | some submission =>
      rw [made, Option.toList_some, List.singleton_append] at handedOut
      obtain ⟨dependencies, laterHandedOut⟩ := handedOut
      have token : (submission :: (session.perform action).submissions later).filterMap
          Submission.token? = submission.token?.toList ++
            ((session.perform action).submissions later).filterMap Submission.token? := by
        rw [List.filterMap_cons]
        cases submission.token? <;> rfl
      rw [Option.toList_some, List.singleton_append, List.flatMap_cons, token,
        ← List.append_assoc, ← List.append_assoc]
      exact (steps_of_submission made dependencies events).trans
        (inductionHypothesis laterHandedOut _)

/-! ## No deadlock -/

/-- Waits on the device never block for good. However submissions to the queues of a device are
interleaved, wherever they fail and whatever else happens, as long as they depend on tokens that
submissions were answered with, every wait that ever reaches the log is behind a signal of its fence
that is not below it; so the events can be replayed in order by queues that block where they have to
wait. In particular this holds of sessions in which one submission is made after another. -/
theorem waits_never_block {device : Device} (noEvents : device.native.log = []) :
    (∀ traffic, (Traffic.start device).Steps traffic →
      traffic.session.device.native.log <:+ traffic.events ∧ Unblocked traffic.events ∧
        ∃ reached, replayEvents? traffic.events = some reached) ∧
    ∀ actions, HandedOut [] ((Session.start device).submissions actions) →
      let session := (Session.start device).after actions
      let events := ((Session.start device).submissions actions).flatMap Submission.events
      session.device.native.log <:+ events ∧ Unblocked events ∧
        ∃ reached, replayEvents? events = some reached := by
  have never : ∀ traffic, (Traffic.start device).Steps traffic →
      traffic.session.device.native.log <:+ traffic.events ∧ Unblocked traffic.events ∧
        ∃ reached, replayEvents? traffic.events = some reached := by
    intro traffic steps
    obtain ⟨_, _, unblocked, log⟩ := steps.behaved (Traffic.behaved_start noEvents)
    obtain ⟨reached, replayed, _⟩ := unblocked.replays
    exact ⟨log, unblocked, reached, replayed⟩
  exact ⟨never, fun actions handedOut => never _ (Traffic.steps_of_actions actions handedOut [])⟩

/-- Two queues that wait for each other in turn. The signal of the third submission is made to fail,
and the fourth one waits for the second again. -/
theorem waits_never_block_mutual :
    let buffer := CommandBuffer.ofCalls [.resourceBarriers [] [.global]]
    let actions : List Action :=
      [.createQueue .graphics .graphics, .createQueue .compute .compute, .setAutoComplete false,
        .submit 0 [buffer] [], .submit 1 [] [⟨4, 1⟩], .armSignalFailure, .submit 0 [] [⟨6, 1⟩],
        .submit 0 [] [⟨4, 1⟩, ⟨6, 1⟩]]
    let history := (Session.start .small).submissions actions
    HandedOut [] history ∧
      history.map Submission.token? = [some ⟨4, 1⟩, some ⟨6, 1⟩, none, some ⟨4, 3⟩] ∧
      (history.flatMap Submission.events).drop 1 =
        [.signal 4 1, .wait 4 1, .signal 6 1, .wait 6 1, .wait 6 1, .signal 4 3] ∧
      Unblocked (history.flatMap Submission.events) := by
  intro buffer actions history
  have handedOut : HandedOut [] history := by decide +kernel
  have noEvents : Device.small.native.log = [] := rfl
  refine ⟨handedOut, by decide +kernel, by decide +kernel, ?_⟩
  exact ((waits_never_block noEvents).2 actions handedOut).2.1

end CommandStream
