import BrokerLoad.Engine
import BrokerLoad.Proofs.Consumer.Steps
import BrokerLoad.Proofs.Consumer.Noting
import BrokerLoad.Proofs.Consumer.Stopping
import BrokerLoad.Proofs.Engine.Course

/-!
# What consumers add to a run

The accounts of a consumer are about the whole of its course, from the creation of its handle to
its release: an error is reported by the loop, or by what holds the handle when the loop, the
creation or the opening of the handle ends in one, and it is to be counted once in either case.  So
the steps of the loops are carried over to the engines here (`Receives.step_of_request`), with no
regard to which of the two loops it is.

While a delivery is taken in, the shared counters learn of it one by one, and so the accounts are
right when a consumer is *at rest*: it has no delivery at hand and nothing to say.  It is at rest
before every delivery that it asks for, while it waits for one, and when it has finished.
`consumers_account` says so of every course, and a ledger that nobody else uses.
-/

namespace BrokerLoad
namespace Consumer

variable {σ : Type} {name : String} {body : Handle → σ → Request Ending (Paced σ)}
  {phase : σ → Phase} {tally counts : σ → Counts}

/-! ## Loops -/

/-- What it takes for a loop to be one that receives: it makes the steps that consumers make, as
its phase says and what has been counted, and its outcome tells where it ends.  It counts itself
what is not counted about a delivery at hand. -/
structure Receives (body : Handle → σ → Request Ending (Paced σ)) (phase : σ → Phase)
    (tally counts : σ → Counts) : Prop where
  step : ∀ {handle : Handle} {state : Paced σ} {query : Query} {next : query.Reply → Paced σ}
    (reply : query.Reply), state.request (body handle) = .ask query next →
      ∃ events, Step ⟨state.pending, phase state.now, tally state.now⟩ ⟨query, reply⟩ events
        ⟨(next reply).pending, phase (next reply).now, tally (next reply).now⟩
  finish : ∀ {handle : Handle} {loop : σ} {outcome : Outcome},
    body handle loop = .finish outcome →
      phase loop = .ofOutcome outcome ∧ tally loop = counts loop
  held : ∀ loop, tally loop = counts loop ∨ ∃ intake : Intake, phase loop = intake.phase

/-- A delivery at hand is no rest. -/
theorem Intake.isRest_phase (intake : Intake) : intake.phase.isRest = false := by
  rw [Intake.phase]
  rcases intake.stage with _ | _ | _ | ((_ | _) | (_ | _)) <;> rfl

theorem Receives.rest (receives : Receives body phase tally counts) {loop : σ}
    (rests : (phase loop).isRest = true) : tally loop = counts loop := by
  refine (receives.held loop).resolve_right fun ⟨intake, hphase⟩ => ?_
  rw [hphase, intake.isRest_phase] at rests
  cases rests

theorem Pipelined.receives (name : String) :
    Receives (request name) Loop.phase Loop.tally Loop.counts where
  step reply asks := (Move.of_request asks reply).step
  finish finishes := by simp [Loop.phase, Loop.tally, point_of_finish finishes]
  held loop := by cases here : loop.point <;> simp [Loop.phase, Loop.tally, here]

theorem Blocking.receives (name : String) :
    Receives (request name) Loop.phase Loop.tally Loop.counts where
  step reply asks := (Move.of_request asks reply).step
  finish finishes := by simp [Loop.phase, Loop.tally, point_of_finish finishes]
  held loop := by cases here : loop.point <;> simp [Loop.phase, Loop.tally, here]

/-! ## Handles -/

/-- How far a consumer has come, by its handle and its loop. -/
def phaseOf (phase : σ → Phase) (engine : Handling σ) : Phase :=
  match engine.stage with
  | .creating => .between
  | .opening _ => .between
  | .working _ => phase engine.loop
  | _ => .done

/-- Where a consumer stands. -/
def standingOf (phase : σ → Phase) (tally : σ → Counts) (state : Paced (Handling σ)) : Standing :=
  ⟨state.pending, phaseOf phase state.now, tally state.now.loop⟩

/-- A loop has no delivery at hand when its handle is not in use, and has not begun when that was
never in use. -/
structure IsAway (phase : σ → Phase) (tally counts : σ → Counts) (engine : Handling σ) : Prop where
  early : engine.stage.isEarly = true → phase engine.loop = .between
  idle : engine.stage.isWorking = false → tally engine.loop = counts engine.loop

namespace IsAway

variable {engine : Handling σ}

/-- The handle is not in use any more. -/
theorem of_idle (late : engine.stage.isEarly = false)
    (idle : tally engine.loop = counts engine.loop) : IsAway phase tally counts engine where
  early early := by
    rw [late] at early
    cases early
  idle _ := idle

/-- The handle is in use. -/
theorem of_working {handle : Handle} (working : engine.stage = .working handle) :
    IsAway phase tally counts engine where
  early early := by
    rw [working] at early
    cases early
  idle idle := by
    rw [working] at idle
    cases idle

end IsAway

/-- What follows the end of a loop. -/
theorem step_leave {handle : Handle} {loop : σ} {options : Options} {outcome : Outcome}
    (ends : phase loop = .ofOutcome outcome) :
    ∃ events, Step ⟨[], phase loop, tally loop⟩ ⟨.pause, ()⟩ events
      (standingOf phase tally (Handling.leave name options.role handle loop outcome)) := by
  rw [ends]
  match outcome with
  | .ok ending => exact ⟨_, .stop _ [] _ _ rfl rfl (.inr (.inr rfl)) fun _ => rfl⟩
  | .error (.error what) => exact ⟨_, .report _ _ _ rfl rfl⟩
  | .error .foreign => exact ⟨_, .stop _ [] _ _ rfl rfl (.inr (.inr rfl)) fun _ => rfl⟩

/-- A loop is left alone from then on. -/
theorem isAway_leave {handle : Handle} {loop : σ} {role : Role} {outcome : Outcome}
    (same : tally loop = counts loop) :
    IsAway phase tally counts (Handling.leave name role handle loop outcome).now := by
  rcases outcome with (_ | _) | _ <;> exact .of_idle rfl same

theorem Receives.step_of_request (receives : Receives body phase tally counts) {options : Options}
    {state : Paced (Handling σ)} {query : Query} {next : query.Reply → Paced (Handling σ)}
    (away : IsAway phase tally counts state.now)
    (asks : state.request (Handling.request name options.role body) = .ask query next)
    (reply : query.Reply) :
    (∃ events, Step (standingOf phase tally state) ⟨query, reply⟩ events
      (standingOf phase tally (next reply))) ∧ IsAway phase tally counts (next reply).now := by
  obtain ⟨pending, stage, loop⟩ := state
  cases pending with
  | cons emission rest =>
    cases asks
    exact ⟨⟨_, .emit emission rest _ _⟩, away⟩
  | nil =>
    rw [Paced.request_nil] at asks
    cases stage with
    | creating =>
      have hbetween : phase loop = .between := away.early rfl
      have haway : tally loop = counts loop := away.idle rfl
      simp only [Handling.request] at asks
      cases asks
      obtain (what | _) | (_ | handle) := reply
      · exact ⟨⟨_, .miss _ _ _ rfl rfl⟩, .of_idle rfl haway⟩
      · exact ⟨⟨_, .stop _ [] _ _ rfl rfl (.inl rfl) fun _ => rfl⟩, .of_idle rfl haway⟩
      · exact ⟨⟨_, .stop _ [_] _ _ rfl rfl (.inl rfl) fun _ => by simp⟩, .of_idle rfl haway⟩
      · exact ⟨⟨_, .wait _ _ _ rfl rfl (.inl rfl)⟩, fun _ => hbetween, fun _ => haway⟩
    | opening handle =>
      have hbetween : phase loop = .between := away.early rfl
      have haway : tally loop = counts loop := away.idle rfl
      simp only [Handling.request] at asks
      cases asks
      obtain (what | _) | (_ | _) := reply
      · exact ⟨⟨_, .miss _ _ _ rfl rfl⟩, .of_idle rfl haway⟩
      · exact ⟨⟨_, .stop _ [] _ _ rfl rfl (.inl rfl) fun _ => rfl⟩, .of_idle rfl haway⟩
      · exact ⟨⟨_, .stop _ [] _ _ rfl rfl (.inl rfl) fun _ => rfl⟩, .of_idle rfl haway⟩
      · refine ⟨?_, .of_working rfl⟩
        show ∃ events, Step _ _ events ⟨[], phase loop, tally loop⟩
        rw [hbetween]
        exact ⟨_, .wait _ _ _ rfl rfl (.inl rfl)⟩
    | refused handle =>
      have haway : tally loop = counts loop := away.idle rfl
      simp only [Handling.request] at asks
      cases asks
      exact ⟨⟨_, .stop _ [_] _ _ rfl rfl (.inr (.inr rfl)) fun _ => by simp⟩, .of_idle rfl haway⟩
    | working handle =>
      simp only [Handling.request] at asks
      cases hbody : body handle loop with
      | ask query next =>
        rw [hbody] at asks
        cases asks
        have hpaced : Paced.request (body handle) ⟨[], loop⟩ = .ask _ next := hbody
        exact ⟨receives.step reply hpaced, .of_working rfl⟩
      | finish outcome =>
        rw [hbody] at asks
        cases asks
        obtain ⟨hphase, hsame⟩ := receives.finish hbody
        exact ⟨step_leave hphase, isAway_leave hsame⟩
    | closing handle ending =>
      have haway : tally loop = counts loop := away.idle rfl
      simp only [Handling.request] at asks
      cases asks
      obtain (what | _) | _ := reply
      · exact ⟨⟨_, .stop _ [_] _ _ rfl rfl (.inr (.inr rfl)) fun _ => by simp⟩,
          .of_idle rfl haway⟩
      · exact ⟨⟨_, .stop _ [] _ _ rfl rfl (.inr (.inr rfl)) fun _ => rfl⟩, .of_idle rfl haway⟩
      · exact ⟨⟨_, .stop _ [] _ _ rfl rfl (.inr (.inr rfl)) fun _ => rfl⟩, .of_idle rfl haway⟩
    | releasing handle outcome =>
      have haway : tally loop = counts loop := away.idle rfl
      simp only [Handling.request] at asks
      cases asks
      exact ⟨⟨_, .stop _ [] _ _ rfl rfl (.inr (.inr rfl)) fun _ => rfl⟩, .of_idle rfl haway⟩
    | _ =>
      -- The handle has been released, and nothing is asked any more.
      simp only [Handling.request] at asks
      cases asks

/-- What a consumer adds to a run.  The engine may be anywhere in its course. -/
theorem Receives.agrees_of_course (receives : Receives body phase tally counts) {options : Options}
    {wrap : Paced (Handling σ) → Engine} {start : σ}
    (wraps : ∀ state, (wrap state).request name =
      (state.request (Handling.request name options.role body)).map wrap)
    (idle : phase start = .between) (blank : tally start = {}) (same : counts start = {})
    {exchanges : List Exchange} {engine : Engine}
    (course : Engine.Course name (wrap (Handling.begin start)) exchanges engine) :
    ∃ state, engine = wrap state ∧ IsAway phase tally counts state.now ∧
      Agrees exchanges (standingOf phase tally state) := by
  induction course with
  | start =>
    refine ⟨_, rfl, ⟨fun _ => idle, fun _ => blank.trans same.symm⟩, ?_⟩
    show Agrees [] ⟨[], .between, tally start⟩
    rw [blank]
    exact .start
  | ask before asks reply ih =>
    obtain ⟨state, rfl, away, agrees⟩ := ih
    rw [wraps] at asks
    obtain ⟨onward, hasks, rfl⟩ := Request.of_map_eq_ask asks
    obtain ⟨⟨events, step⟩, haway⟩ := receives.step_of_request away hasks reply
    exact ⟨_, rfl, haway, agrees.step step⟩

/-! ## The accounts -/

/-- What a consumer has counted, what the shared counters have learned of it and what has
happened to it agree. -/
structure Accounts (history : History) (counts : Counts) (before after : Ledger) : Prop where
  /-- What was received was acknowledged. -/
  received : counts.received = counts.acked
  acked : counts.acked = UInt64.ofNat history.settled.length
  messagesIn : after.metrics.messagesIn = before.metrics.messagesIn + counts.acked
  /-- The bytes received are those of the whole messages. -/
  bytesIn : after.metrics.bytesIn = before.metrics.bytesIn +
    UInt64.ofNat (history.settled.map fun delivery => delivery.payload.length).sum
  /-- Whatever is handed over is timed. -/
  reads : after.metrics.readLatency.count =
    before.metrics.readLatency.count + UInt64.ofNat history.handed.length
  /-- Every envelope handed over was to be acknowledged, once, and nothing else was. -/
  tried : history.tried = history.envelopes
  /-- The ids of the envelopes have been seen, whatever became of them. -/
  seen : ∀ id, after.seen.contains id = (decide (id ∈ history.carried) || before.seen.contains id)
  /-- Those that had been seen when they came are duplicates. -/
  duplicates : counts.duplicates = UInt64.ofNat (before.seen.repeats history.carried)
  duplicated : after.metrics.duplicates = before.metrics.duplicates + counts.duplicates
  /-- There is one error if the consumer has come to its end by one. -/
  errors : after.metrics.receiveErrors =
    before.metrics.receiveErrors + if history.endsInFailure then 1 else 0
  /-- That is the only way in which something fails. -/
  failures : history.failures = history.endsInFailure.toNat
  /-- The ids that are new and the duplicates make up what was acknowledged, and the one delivery
  that could not be. -/
  balance : after.seen.size + before.seen.repeats history.carried =
    before.seen.size + history.settled.length + history.spurned
  spurned : history.spurned ≤ 1

theorem History.length_carried (history : History) :
    history.carried.length = history.envelopes.length := by
  rw [carried, envelopes, List.length_filterMap_eq_countP, List.countP_eq_length_filter]

/-- A consumer at rest has said all, and has noted and acknowledged what it was handed. -/
theorem Agrees.accounts {exchanges : List Exchange} {standing : Standing} {before after : Ledger}
    (agrees : Agrees exchanges standing) (answered : before.Answers exchanges after)
    (quiet : standing.pending = []) (rests : standing.phase.isRest = true) :
    Accounts (.of exchanges) standing.counts before after := by
  have hopen : standing.phase.unnoted = [] ∧ standing.phase.untried = [] ∧
      standing.phase.owes = 0 ∧ standing.phase.uncounted = 0 := by
    cases hphase : standing.phase <;> rw [hphase] at rests <;>
      first | exact ⟨rfl, rfl, rfl, rfl⟩ | cases rests
  obtain ⟨hunnoted, huntried, howes, huncounted⟩ := hopen
  have hnoted : (History.of exchanges).carried = (History.of exchanges).noted := by
    rw [agrees.noted, hunnoted, List.append_nil]
  have htried : (History.of exchanges).tried = (History.of exchanges).envelopes := by
    rw [agrees.tried, huntried, List.append_nil]
  have hread : ∀ gauge, after.metrics.read gauge =
      before.metrics.read gauge + UInt64.ofNat ((History.of exchanges).gain gauge) := by
    intro gauge
    have hdues : standing.dues gauge = 0 := by
      rw [Standing.dues, quiet, howes, ite_self]
      rfl
    rw [answered.read, ← agrees.gain gauge, hdues, Nat.add_zero]
  have hrepeats : (History.of exchanges).repeats =
      before.seen.repeats (History.of exchanges).carried := by
    rw [hnoted, answered.repeats]
  have hreceived : standing.counts.received = standing.counts.acked := by
    rw [agrees.acked, ← agrees.received, huncounted, UInt64.add_zero]
  constructor
  case received => exact hreceived
  case acked => exact agrees.acked
  case messagesIn =>
    rw [agrees.acked, ← History.gain_messagesIn]
    exact hread (.counter .messagesIn)
  case bytesIn =>
    rw [← History.ofNat_gain_bytesIn]
    exact hread (.counter .bytesIn)
  case reads =>
    rw [← History.gain_reads]
    exact hread (.samples .read)
  case tried => exact htried
  case seen =>
    intro id
    rw [answered.seen, SeenIds.contains_noteAll, hnoted]
  case duplicates => rw [agrees.duplicates, hrepeats]
  case duplicated =>
    rw [agrees.duplicates, ← History.gain_duplicates]
    exact hread (.counter .duplicates)
  case errors =>
    have hends : (if (History.of exchanges).endsInFailure then 1 else 0 : UInt64) =
        UInt64.ofNat ((History.of exchanges).gain (.counter .receiveErrors)) := by
      rw [History.gain_receiveErrors, agrees.fails]
      cases (History.of exchanges).endsInFailure <;> rfl
    rw [hends]
    exact hread (.counter .receiveErrors)
  case failures => exact agrees.fails
  case balance =>
    rw [Nat.add_assoc, ← History.length_tried, htried, ← History.length_carried, answered.seen,
      ← hnoted]
    exact before.seen.size_noteAll _
  case spurned => exact le_of_add_le_left agrees.spurns

/-- A consumer at rest has counted itself whatever has been counted. -/
theorem Receives.tally_eq (receives : Receives body phase tally counts) {engine : Handling σ}
    (away : IsAway phase tally counts engine) (rests : (phaseOf phase engine).isRest = true) :
    tally engine.loop = counts engine.loop := by
  cases hstage : engine.stage with
  | working handle =>
    rw [phaseOf, hstage] at rests
    exact receives.rest rests
  | _ => exact away.idle (by rw [hstage]; rfl)

end Consumer

/-! ## Engines -/

namespace Engine

open Consumer

/-- How far a consumer has come. -/
def phase : Engine → Phase
  | .pipelinedConsumer _ state => phaseOf Pipelined.Loop.phase state.now
  | .blockingConsumer _ state => phaseOf Blocking.Loop.phase state.now
  | _ => .done

/-- Whether an engine has nothing to say, and has no delivery at hand. -/
def IsAtRest (engine : Engine) : Prop := engine.pending = [] ∧ engine.phase.isRest = true

variable {name : String} {isPipelined : Bool} {options : Consumer.Options}
  {exchanges : List Exchange} {engine : Engine} {before after : Ledger}

/-- The accounts of a consumer whose loop receives, wherever it is in its course. -/
theorem accounts_of_receives {σ : Type} {body : Handle → σ → Request Ending (Paced σ)}
    {phase : σ → Phase} {tally counts : σ → Consumer.Counts}
    {wrap : Paced (Handling σ) → Engine} {start : σ}
    (receives : Receives body phase tally counts)
    (wraps : ∀ state, (wrap state).request name =
      (state.request (Handling.request name options.role body)).map wrap)
    (rests : ∀ state, (wrap state).IsAtRest ↔
      state.pending = [] ∧ (phaseOf phase state.now).isRest = true)
    (counted : ∀ state, (wrap state).counts = .consumer (counts state.now.loop))
    (idle : phase start = .between) (blank : tally start = {}) (same : counts start = {})
    (course : Course name (wrap (Handling.begin start)) exchanges engine)
    (answered : before.Answers exchanges after) :
    (∀ outcome, engine.request name = .finish outcome → engine.IsAtRest) ∧
      (engine.IsAtRest → ∃ counts, engine.counts = .consumer counts ∧
        Consumer.Accounts (.of exchanges) counts before after) := by
  obtain ⟨state, rfl, away, agrees⟩ := receives.agrees_of_course wraps idle blank same course
  refine ⟨fun outcome finishes => ?_, fun atRest => ?_⟩
  · rw [wraps] at finishes
    obtain ⟨hpending, hstage⟩ := Handling.over_of_finish (Request.of_map_eq_finish finishes)
    refine (rests state).2 ⟨hpending, ?_⟩
    rw [phaseOf, hstage]
    rfl
  · obtain ⟨hpending, hrests⟩ := (rests state).1 atRest
    refine ⟨_, counted state, ?_⟩
    rw [← receives.tally_eq away hrests]
    exact agrees.accounts answered hpending hrests

/-- The accounts of a consumer of either kind, with a ledger that nobody else uses, whatever the
broker answers and whenever the consumer is asked to stop: they are right whenever it is at rest,
and it is at rest when it has finished. -/
theorem consumers_account
    (course : Course name (Engine.consumer isPipelined options) exchanges engine)
    (answered : before.Answers exchanges after) :
    (∀ outcome, engine.request name = .finish outcome → engine.IsAtRest) ∧
      (engine.IsAtRest → ∃ counts, engine.counts = .consumer counts ∧
        Consumer.Accounts (.of exchanges) counts before after) := by
  cases isPipelined with
  | true =>
    exact accounts_of_receives (Pipelined.receives name) (fun _ => rfl) (fun _ => .rfl)
      (fun _ => rfl) rfl rfl rfl course answered
  | false =>
    exact accounts_of_receives (Blocking.receives name) (fun _ => rfl) (fun _ => .rfl)
      (fun _ => rfl) rfl rfl rfl course answered

/-- A blocking consumer is handed a message that was seen before, and cannot acknowledge it. -/
theorem consumers_account_spurned :
    ∃ (exchanges : List Exchange) (engine : Engine) (before after : Ledger)
      (counts : Consumer.Counts),
      Course "c" (Engine.consumer false { destination := "d", group := "g" }) exchanges engine ∧
        engine.request "c" = .finish (.ok .unexpectedError) ∧ (History.of exchanges).spurned = 1 ∧
        engine.counts = .consumer counts ∧ counts.received = 0 ∧ counts.duplicates = 1 ∧
        Consumer.Accounts (.of exchanges) counts before after := by
  have begun : Course "c" (Engine.consumer false { destination := "d", group := "g" }) _ _ :=
    (Course.start.ask rfl (Except.ok (some (0 : Handle)))).ask rfl (Except.ok true)
  have handed := (begun.ask rfl false).ask rfl
    (Except.ok (some (⟨[0, 0, 0, 0, 0, 0, 0, 7], 0, 1⟩ : Delivery)))
  have noted := (((handed.ask rfl ()).ask rfl ()).ask rfl false).ask rfl ()
  have spurned := (((noted.ask rfl (Except.ok false)).ask rfl ()).ask rfl ()).ask rfl ()
  have closed := ((spurned.ask rfl ()).ask rfl (Except.ok ())).ask rfl ()
  have seen : (({} : SeenIds).insert 7).2.contains 7 = true := by
    rw [SeenIds.contains_insert]
    rfl
  have repeated : false = ((({} : SeenIds).insert 7).2.insert 7).1 := by
    rw [SeenIds.fst_insert, seen]
    rfl
  obtain ⟨rests, accounts⟩ := consumers_account closed
    (show Ledger.Answers { seen := (({} : SeenIds).insert 7).2 } _ _ from
      .ask (.ask (.ask (.ask (.ask (.ask (.ask (.ask (.ask (.ask (.ask (.ask (.ask (.ask (.ask
        .start trivial) trivial) trivial) trivial) trivial) trivial) repeated) trivial) trivial)
        trivial) trivial) trivial) trivial) trivial) trivial)
  obtain ⟨counts, hcounts, haccounts⟩ := accounts (rests _ rfl)
  cases hcounts
  exact ⟨_, _, _, _, _, closed, rfl, rfl, rfl, rfl, rfl, haccounts⟩

end Engine
end BrokerLoad
