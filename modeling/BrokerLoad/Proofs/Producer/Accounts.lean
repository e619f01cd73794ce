import BrokerLoad.Proofs.Ledger.Service
import BrokerLoad.Proofs.Producer.History

/-!
# The accounts of a producer

What the shared counters learn of a producer can be told from its history: each event is
made known by emissions of its own (`Event.emissions`), and so a counter grows by the number
of the events that it counts (`Gains.of_history`).  A line that is written counts nowhere.

The counts that a producer keeps for itself, the ids that it takes and the way in which it
ends are set against the counters in `Accounts`, equation by equation.  All are equations
between words, which hold however often a counter wraps around.
-/

namespace BrokerLoad

/-- Whether an emission changes the metrics. -/
def Emission.counts : Emission → Bool
  | .say _ => false
  | _ => true

/-- What does not change the metrics may be left out. -/
theorem Metrics.foldl_absorb_filter (m : Metrics) (emissions : List Emission) :
    (emissions.filter Emission.counts).foldl Metrics.absorb m =
      emissions.foldl Metrics.absorb m := by
  induction emissions generalizing m with
  | nil => rfl
  | cons emission rest ih => cases emission <;> exact ih _

namespace Producer

/-- What a producer makes known of an event. -/
def Event.emissions (options : Options) : Event → List Emission
  | .submitted id attempt => announce (options.message id attempt)
  | .answered _ attempt status =>
    if status = .ok then [.sample .write]
    else if attempt < options.maxAttempts then refusal status
    else [.bump .sendErrors 1]
  | _ => []

namespace History

/-- What a producer makes known of a history. -/
def emissions (options : Options) (history : History) : List Emission :=
  history.flatMap (Event.emissions options)

@[simp] theorem emissions_nil (options : Options) : emissions options [] = [] := rfl

@[simp] theorem emissions_cons (options : Options) (event : Event) (rest : History) :
    emissions options (event :: rest) = event.emissions options ++ emissions options rest :=
  List.flatMap_cons

@[simp] theorem emissions_append (options : Options) (history more : History) :
    emissions options (history ++ more) = history.emissions options ++ more.emissions options :=
  List.flatMap_append

/-- How many submissions were throttled that may be repeated. -/
def slowed (maxAttempts : UInt32) (history : History) : Nat :=
  history.answers.countP fun answer => answer.2.2 = .throttled ∧ answer.2.1 < maxAttempts

/-- How many submissions are the first of their messages. -/
def firsts (history : History) : Nat := history.sent.countP fun submission => submission.2 = 1

/-- How many submissions are repetitions. -/
def repeats (history : History) : Nat := history.sent.countP fun submission => submission.2 ≠ 1

/-- Whether the last that happened is that a new message could not be submitted. -/
def failsNew (history : History) : Bool :=
  match history.getLast? with
  | some (.unsent _ attempt) => attempt = 1
  | _ => false

/-- Whether the last that happened is that a message could not be submitted again. -/
def failsAgain (history : History) : Bool :=
  match history.getLast? with
  | some (.unsent _ attempt) => attempt ≠ 1
  | _ => false

/-- Every submission is the first of its message or a repetition. -/
theorem length_sent (history : History) :
    history.sent.length = history.firsts + history.repeats := by
  simpa [firsts, repeats] using List.length_eq_countP_add_countP
    (fun submission : UInt64 × UInt32 => decide (submission.2 = 1)) (l := history.sent)

@[simp] theorem firsts_append (history more : History) :
    firsts (history ++ more) = history.firsts + more.firsts := by
  rw [firsts, sent_append, List.countP_append, firsts, firsts]

@[simp] theorem repeats_append (history more : History) :
    repeats (history ++ more) = history.repeats + more.repeats := by
  rw [repeats, sent_append, List.countP_append, repeats, repeats]

end History

/-! ## The counters -/

/-- How the metrics grow by a history. -/
structure Gains (options : Options) (history : History) (before after : Metrics) : Prop where
  /-- Submissions are counted. -/
  messagesOut : after.messagesOut = before.messagesOut + UInt64.ofNat history.sent.length
  /-- Their bytes are, with those of the id. -/
  bytesOut : after.bytesOut = before.bytesOut +
    UInt64.ofNat history.sent.length * UInt64.ofNat (8 + options.messageSize)
  /-- Refusals are counted. -/
  sendErrors : after.sendErrors = before.sendErrors + UInt64.ofNat history.refused.length
  /-- Those for haste are, unless they are the last. -/
  throttled : after.throttled =
    before.throttled + UInt64.ofNat (history.slowed options.maxAttempts)
  /-- Accepted messages are timed. -/
  writes : after.writeLatency.count =
    before.writeLatency.count + UInt64.ofNat history.completed.length

namespace Gains

variable {options : Options} {history more : History} {before between after : Metrics}

theorem nil (before : Metrics) : Gains options [] before before := by
  constructor <;> simp [History.slowed]

theorem trans (gains : Gains options history before between)
    (gains' : Gains options more between after) : Gains options (history ++ more) before after where
  messagesOut := by
    rw [gains'.messagesOut, gains.messagesOut, History.sent_append, List.length_append,
      UInt64.ofNat_add, UInt64.add_assoc]
  bytesOut := by
    rw [gains'.bytesOut, gains.bytesOut, History.sent_append, List.length_append,
      UInt64.ofNat_add history.sent.length, UInt64.add_mul, UInt64.add_assoc]
  sendErrors := by
    rw [gains'.sendErrors, gains.sendErrors, History.refused_append, List.length_append,
      UInt64.ofNat_add, UInt64.add_assoc]
  throttled := by
    rw [gains'.throttled, gains.throttled, History.slowed, History.slowed, History.slowed,
      History.answers_append, List.countP_append, UInt64.ofNat_add, UInt64.add_assoc]
  writes := by
    rw [gains'.writes, gains.writes, History.completed_append, List.length_append,
      UInt64.ofNat_add, UInt64.add_assoc]

theorem of_event (event : Event) (before : Metrics) :
    Gains options [event] before ((event.emissions options).foldl Metrics.absorb before) := by
  cases event with
  | submitted id attempt =>
    have hlength : (options.message id attempt).length = 8 + options.messageSize := by
      simp [Options.message, Envelope.wireSize, Envelope.idSize]
    constructor <;>
      simp [Event.emissions, announce, Metrics.absorb, Metrics.add, History.slowed, hlength]
  | answered id attempt status =>
    by_cases hok : status = .ok
    · constructor <;> simp [Event.emissions, Metrics.absorb, Metrics.updateLatency,
        Histogram.record, History.slowed, hok]
    by_cases hbelow : attempt < options.maxAttempts
    · by_cases hthrottled : status = .throttled <;> constructor <;>
        simp_all [Event.emissions, Metrics.absorb, Metrics.add, refusal, History.slowed]
    · constructor <;>
        simp [Event.emissions, Metrics.absorb, Metrics.add, History.slowed, hok, hbelow]
  | _ => constructor <;> simp [Event.emissions, History.slowed]

/-- What is gained by a history. -/
theorem of_history (history : History) (before : Metrics) :
    Gains options history before ((history.emissions options).foldl Metrics.absorb before) := by
  induction history generalizing before with
  | nil => exact nil before
  | cons event rest ih =>
    rw [History.emissions_cons, List.foldl_append]
    exact (of_event event before).trans (ih _)

end Gains

/-! ## The equations -/

namespace History

/-- How many new messages could not be submitted. -/
def unsentNew (history : History) : Nat := history.unsent.countP fun submission => submission.2 = 1

/-- How many messages could not be submitted again. -/
def unsentAgain (history : History) : Nat :=
  history.unsent.countP fun submission => submission.2 ≠ 1

/-- Nothing happens any more to a message that could not be submitted, nor to any other. -/
def EndsUnsent (history : History) : Prop :=
  history.unsent = (history.getLast?.bind Event.unsent?).toList

@[simp] theorem unsentNew_append (history more : History) :
    unsentNew (history ++ more) = history.unsentNew + more.unsentNew := by
  rw [unsentNew, unsent_append, List.countP_append, unsentNew, unsentNew]

@[simp] theorem unsentAgain_append (history more : History) :
    unsentAgain (history ++ more) = history.unsentAgain + more.unsentAgain := by
  rw [unsentAgain, unsent_append, List.countP_append, unsentAgain, unsentAgain]

variable {history : History}

/-- What comes after a history in which every message could be submitted ends the longer one. -/
theorem EndsUnsent.append {event : Event} {events : History} (quiet : history.unsent = [])
    (ends : EndsUnsent (event :: events)) : EndsUnsent (history ++ event :: events) := by
  rw [EndsUnsent, unsent_append, quiet, List.nil_append, ends, List.getLast?_append,
    List.getLast?_cons, Option.some_or]

/-- If it is the last that happened, then it happened at most once. -/
theorem EndsUnsent.unsentNew (ends : history.EndsUnsent) :
    history.unsentNew = history.failsNew.toNat := by
  rw [EndsUnsent] at ends
  rw [History.unsentNew, ends, failsNew]
  cases history.getLast? with
  | none => rfl
  | some event =>
    cases event with
    | unsent id attempt => by_cases hnew : attempt = 1 <;> simp [hnew]
    | _ => rfl

theorem EndsUnsent.unsentAgain (ends : history.EndsUnsent) :
    history.unsentAgain = history.failsAgain.toNat := by
  rw [EndsUnsent] at ends
  rw [History.unsentAgain, ends, failsAgain]
  cases history.getLast? with
  | none => rfl
  | some event =>
    cases event with
    | unsent id attempt => by_cases hnew : attempt = 1 <;> simp [hnew]
    | _ => rfl

end History

@[simp] theorem submitted_complete (counts : Counts) :
    counts.complete.submitted = counts.submitted := rfl

@[simp] theorem retried_complete (counts : Counts) :
    counts.complete.retried = counts.retried := rfl

@[simp] theorem completed_complete (counts : Counts) :
    counts.complete.completed = counts.completed + 1 := rfl

/-- What a producer has counted, against its history: whether it is still turning, how many
messages it has an id for and has not yet submitted, how many it has been refused and is
about to submit again, and how many were refused too often. -/
structure Tallies (history : History) (counts : Counts) (live : Bool)
    (fresh due exceeded : Nat) : Prop where
  /-- Submissions are counted. -/
  submitted : counts.submitted = UInt64.ofNat history.sent.length
  /-- Repetitions are. -/
  retried : counts.retried = UInt64.ofNat history.repeats
  /-- Accepted messages are. -/
  completed : counts.completed = UInt64.ofNat history.completed.length
  /-- A producer that could not submit does not turn any more. -/
  quiet : live = true → history.unsent = []
  /-- It was the last that happened. -/
  ends : history.EndsUnsent
  /-- A message that an id was taken for was submitted, or could not be, or is about to be. -/
  minted : history.minted.length = history.firsts + history.unsentNew + fresh
  /-- A refused submission was repeated, or could not be, or was dropped, or was the last, or is
  about to be repeated. -/
  refused : history.refused.length = history.repeats + history.unsentAgain +
    history.dropped.length + exceeded + due

namespace Tallies

variable {history : History} {counts counts' : Counts} {live live' : Bool}
  {fresh due exceeded fresh' due' exceeded' : Nat}

theorem nil : Tallies [] {} true 0 0 0 where
  submitted := rfl
  retried := rfl
  completed := rfl
  quiet _ := rfl
  ends := rfl
  minted := rfl
  refused := rfl

theorem next {event : Event} {events : History}
    (tallies : Tallies history counts true fresh due exceeded)
    (submitted : counts'.submitted =
      counts.submitted + UInt64.ofNat (History.sent (event :: events)).length)
    (retried : counts'.retried =
      counts.retried + UInt64.ofNat (History.repeats (event :: events)))
    (completed : counts'.completed =
      counts.completed + UInt64.ofNat (History.completed (event :: events)).length)
    (quiet : live' = true → History.unsent (event :: events) = [])
    (ends : History.EndsUnsent (event :: events))
    (minted : (History.minted (event :: events)).length + fresh =
      History.firsts (event :: events) + History.unsentNew (event :: events) + fresh')
    (refused : (History.refused (event :: events)).length + exceeded + due =
      History.repeats (event :: events) + History.unsentAgain (event :: events) +
        (History.dropped (event :: events)).length + exceeded' + due') :
    Tallies (history ++ event :: events) counts' live' fresh' due' exceeded' where
  submitted := by
    rw [submitted, tallies.submitted, History.sent_append, List.length_append, UInt64.ofNat_add]
  retried := by
    rw [retried, tallies.retried, History.repeats_append, UInt64.ofNat_add]
  completed := by
    rw [completed, tallies.completed, History.completed_append, List.length_append,
      UInt64.ofNat_add]
  quiet hlive := by
    rw [History.unsent_append, tallies.quiet rfl, quiet hlive, List.append_nil]
  ends := .append (tallies.quiet rfl) ends
  minted := by
    have hbefore := tallies.minted
    rw [History.minted_append, List.length_append, History.firsts_append,
      History.unsentNew_append]
    omega
  refused := by
    have hbefore := tallies.refused
    rw [History.refused_append, List.length_append, History.repeats_append,
      History.unsentAgain_append, History.dropped_append, List.length_append]
    omega

theorem halt (tallies : Tallies history counts live fresh due exceeded) :
    Tallies history counts false fresh due exceeded :=
  { tallies with quiet := fun hlive => absurd hlive (by simp) }

end Tallies

/-- What a producer counts, what the counters learn and what ids are taken agree, for a
producer that has finished and left so many receipts outstanding. -/
structure Accounts (options : Options) (history : History) (counts : Counts) (outcome : Outcome)
    (outstanding : Nat) (before after : Ledger) : Prop where
  /-- Every submission is counted. -/
  messagesOut : after.metrics.messagesOut = before.metrics.messagesOut + counts.submitted
  /-- Its bytes are, with those of the id. -/
  bytesOut : after.metrics.bytesOut =
    before.metrics.bytesOut + counts.submitted * UInt64.ofNat (8 + options.messageSize)
  /-- Every accepted message is timed. -/
  writes : after.metrics.writeLatency.count =
    before.metrics.writeLatency.count + counts.completed
  /-- A submission is accepted, or refused, or its receipt is outstanding. -/
  balance : counts.submitted = counts.completed +
    (after.metrics.sendErrors - before.metrics.sendErrors) + UInt64.ofNat outstanding
  /-- The refusals for haste are counted if the message may be sent again. -/
  throttled : after.metrics.throttled =
    before.metrics.throttled + UInt64.ofNat (history.slowed options.maxAttempts)
  /-- An id is taken for every message submitted, and for one that could not be. -/
  ids : after.ids.latest = before.ids.latest + (counts.submitted - counts.retried) +
    if history.failsNew then 1 else 0
  /-- A refused message is submitted again, unless it is dropped, or was sent too often, or
  could not be. -/
  retried : counts.retried = (after.metrics.sendErrors - before.metrics.sendErrors) -
    UInt64.ofNat history.dropped.length -
    (if outcome = .ok .attemptsExceeded then 1 else 0) - if history.failsAgain then 1 else 0

theorem ofNat_toNat (flag : Bool) : UInt64.ofNat flag.toNat = if flag then 1 else 0 := by
  cases flag <;> rfl

/-- The accounts of a producer that has finished. -/
theorem Accounts.of_tallies {options : Options} {history : History} {counts : Counts}
    {live : Bool} {outcome : Outcome} {outstanding : Nat} {before after : Ledger}
    (tallies : Tallies history counts live 0 0 (if outcome = .ok .attemptsExceeded then 1 else 0))
    (sent : history.sent.length =
      history.completed.length + history.refused.length + outstanding)
    (metrics : after.metrics = (history.emissions options).foldl Metrics.absorb before.metrics)
    (latest : after.ids.latest = before.ids.latest + UInt64.ofNat history.minted.length) :
    Accounts options history counts outcome outstanding before after := by
  have gains : Gains options history before.metrics after.metrics :=
    metrics ▸ Gains.of_history history before.metrics
  have herrors : after.metrics.sendErrors - before.metrics.sendErrors =
      UInt64.ofNat history.refused.length := by
    rw [gains.sendErrors, UInt64.add_comm, UInt64.add_sub_cancel]
  refine ⟨?_, ?_, ?_, ?_, gains.throttled, ?_, ?_⟩
  · rw [tallies.submitted, gains.messagesOut]
  · rw [tallies.submitted, gains.bytesOut]
  · rw [tallies.completed, gains.writes]
  · rw [herrors, tallies.submitted, tallies.completed, sent, UInt64.ofNat_add,
      UInt64.ofNat_add]
  · have hfirsts : counts.submitted - counts.retried = UInt64.ofNat history.firsts := by
      rw [tallies.submitted, tallies.retried, history.length_sent, UInt64.ofNat_add,
        UInt64.add_sub_cancel]
    rw [latest, tallies.minted, Nat.add_zero, hfirsts, UInt64.ofNat_add, tallies.ends.unsentNew,
      ofNat_toNat, UInt64.add_assoc]
  · rw [herrors, tallies.retried, tallies.refused, Nat.add_zero, tallies.ends.unsentAgain]
    have hexceeded : (if outcome = .ok .attemptsExceeded then 1 else 0 : UInt64) =
        UInt64.ofNat (if outcome = .ok .attemptsExceeded then 1 else 0) := by
      split <;> rfl
    rw [hexceeded, ← ofNat_toNat, UInt64.ofNat_add, UInt64.ofNat_add, UInt64.ofNat_add]
    rw [UInt64.eq_sub_iff_add_eq, UInt64.eq_sub_iff_add_eq, UInt64.eq_sub_iff_add_eq]
    ac_rfl

end Producer
end BrokerLoad
