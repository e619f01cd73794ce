import BrokerLoad.Proofs.Engine.Course
import BrokerLoad.Proofs.Ledger.Gauges
import BrokerLoad.Proofs.Producer.Verdicts
import Mathlib.Algebra.BigOperators.Group.List.Basic

/-!
# What a producer adds to a run

A producer takes ids, gets verdicts and moves gauges.  All of that can be told from its course
by way of the history of its loop (`Reckons`): there is one verdict for every submission, one
id for every message begun, and the gauges have moved as the history says, but for what the
producer has still to say.  Whether it is pipelined or blocking makes no difference to that.
-/

namespace BrokerLoad

namespace Gauge

/-- Whether a gauge is about messages sent. -/
def isSending : Gauge → Bool
  | .counter which => which.isSending
  | .samples channel => channel.isSending

/-- Such a gauge is moved by such emissions only. -/
theorem gain_eq_zero {gauge : Gauge} (sending : gauge.isSending = true) {emission : Emission}
    (silent : emission.isSending = false) : emission.gain gauge = 0 := by
  have hother : emission.isSending ≠ gauge.isSending := by
    rw [silent, sending]
    decide
  cases emission with
  | say line => cases gauge <;> rfl
  | bump other amount =>
    cases gauge with
    | samples channel => rfl
    | counter counter => exact if_neg fun heq => hother (congrArg Counter.isSending heq)
  | sample other =>
    cases gauge with
    | counter counter => rfl
    | samples channel => exact if_neg fun heq => hother (congrArg Channel.isSending heq)

/-- Such a gauge is moved by such exchanges only. -/
theorem exchange_gain_eq_zero {gauge : Gauge} (sending : gauge.isSending = true)
    {exchange : Exchange} (silent : exchange.isSending = false) : exchange.gain gauge = 0 := by
  obtain ⟨query, reply⟩ := exchange
  cases query with
  | emit emission => exact gain_eq_zero sending silent
  | _ => rfl

end Gauge

/-- A sum over exchanges that only some of them add to. -/
theorem sum_map_filter {α : Type} {f : α → Nat} {p : α → Bool} (l : List α)
    (silent : ∀ a, p a = false → f a = 0) : ((l.filter p).map f).sum = (l.map f).sum := by
  induction l with
  | nil => rfl
  | cons a rest ih =>
    rw [List.filter_cons, List.map_cons, List.sum_cons]
    cases hp : p a with
    | true => rw [if_pos rfl, List.map_cons, List.sum_cons, ih]
    | false => rw [if_neg (by simp), ih, silent a hp, Nat.zero_add]

/-- A list read off exchanges that only some of them add to. -/
theorem filterMap_filter_of_silent {α β : Type} {f : α → Option β} {p : α → Bool} (l : List α)
    (silent : ∀ a, p a = false → f a = none) : (l.filter p).filterMap f = l.filterMap f := by
  rw [List.filterMap_filter]
  refine List.filterMap_congr fun a _ => ?_
  cases hp : p a with
  | true => exact if_pos rfl
  | false => exact (silent a hp).symm

theorem sum_gain (gauge : Gauge) (exchanges : List Exchange) :
    (exchanges.map (Exchange.gain gauge)).sum =
      ((exchanges.filterMap Exchange.emission?).map (Emission.gain gauge)).sum := by
  induction exchanges with
  | nil => rfl
  | cons exchange rest ih =>
    rw [List.map_cons, List.sum_cons, ih, List.filterMap_cons, Exchange.gain]
    cases exchange.emission? with
    | none => exact Nat.zero_add _
    | some emission => rfl

namespace Producer

/-! ## What a history makes known -/

namespace History

/-- How far a history moves a gauge on. -/
def gain (options : Options) (gauge : Gauge) (history : History) : Nat :=
  ((history.emissions options).map (Emission.gain gauge)).sum

variable {options : Options}

theorem gain_cons (gauge : Gauge) (event : Event) (rest : History) :
    gain options gauge (event :: rest) =
      ((event.emissions options).map (Emission.gain gauge)).sum + gain options gauge rest := by
  rw [gain, emissions_cons, List.map_append, List.sum_append, gain]

theorem gain_messagesOut (history : History) :
    history.gain options (.counter .messagesOut) = history.sent.length := by
  induction history with
  | nil => rfl
  | cons event rest ih =>
    rw [gain_cons, ih, sent_cons, List.length_append]
    congr 1
    cases event with
    | answered id attempt status =>
      simp only [Event.emissions, refusal]
      split
      · rfl
      · split
        · split <;> rfl
        · rfl
    | _ => rfl

theorem gain_sendErrors (history : History) :
    history.gain options (.counter .sendErrors) = history.refused.length := by
  induction history with
  | nil => rfl
  | cons event rest ih =>
    rw [gain_cons, ih, refused_cons, List.length_append]
    congr 1
    cases event with
    | answered id attempt status =>
      simp only [Event.emissions, refusal, Event.refused?]
      split
      · rfl
      · split
        · split <;> rfl
        · rfl
    | _ => rfl

theorem gain_writes (history : History) :
    history.gain options (.samples .write) = history.completed.length := by
  induction history with
  | nil => rfl
  | cons event rest ih =>
    rw [gain_cons, ih, completed_cons, List.length_append]
    congr 1
    cases event with
    | answered id attempt status =>
      simp only [Event.emissions, refusal, Event.accepted?]
      split
      · rfl
      · split
        · split <;> rfl
        · rfl
    | _ => rfl

theorem gain_throttled (history : History) :
    history.gain options (.counter .throttled) = history.slowed options.maxAttempts := by
  induction history with
  | nil => rfl
  | cons event rest ih =>
    rw [gain_cons, ih, slowed, slowed, answers_cons, List.countP_append]
    congr 1
    cases event with
    | answered id attempt status =>
      by_cases hok : status = .ok
      · simp [Event.emissions, hok, Emission.gain]
      · by_cases hbelow : attempt < options.maxAttempts
        · by_cases hthrottled : status = .throttled <;>
            simp [Event.emissions, refusal, hok, hbelow, hthrottled, Emission.gain]
        · simp [Event.emissions, hok, hbelow, Emission.gain]
    | _ => rfl

end History

/-- What was made known of a history moves a gauge on as the history does. -/
theorem Announced.gain {σ : Type} {options : Options} {history : History} {turns : List (Turn σ)}
    {state : Paced σ} (announced : Announced options history turns state) (gauge : Gauge) :
    ((turns.map Turn.exchange).map (Exchange.gain gauge)).sum +
      (state.pending.map (Emission.gain gauge)).sum = history.gain options gauge := by
  have hemissions : (turns.map Turn.exchange).filterMap Exchange.emission? = emissions turns :=
    List.filterMap_map
  have hsilent : ∀ emission : Emission, emission.counts = false → emission.gain gauge = 0 := by
    intro emission hcounts
    cases emission with
    | say line => cases gauge <;> rfl
    | _ => cases hcounts
  rw [sum_gain, hemissions, ← List.sum_append, ← List.map_append,
    ← sum_map_filter (emissions turns ++ state.pending) hsilent, announced, History.gain]

/-! ## Producers -/

/-- What the course of a producer adds to a run, by its history. -/
structure Reckons (options : Options) (history : History) (exchanges : List Exchange)
    (pending : List Emission) (isDone : Prop) : Prop where
  /-- Gauges have moved as the history says, but for what is pending. -/
  gain : ∀ gauge : Gauge, gauge.isSending = true →
    (exchanges.map (Exchange.gain gauge)).sum + (pending.map (Emission.gain gauge)).sum =
      history.gain options gauge
  /-- There is a verdict for every submission. -/
  verdicts : ∀ statusOf : Ticket → WriteStatus,
    (verdicts statusOf exchanges).length = history.sent.length
  minted : (exchanges.filterMap Exchange.minted?).length = history.minted.length
  /-- A producer that has completed its task has heard of all verdicts. -/
  concludes : isDone → ∀ statusOf : Ticket → WriteStatus,
    (∀ exchange ∈ exchanges, exchange.Upholds statusOf) →
      Concludes options history (BrokerLoad.verdicts statusOf exchanges)

/-- A verdict is passed on what is sent. -/
theorem verdict?_eq_none {exchange : Exchange} (statusOf : Ticket → WriteStatus)
    (silent : exchange.isSending = false) : exchange.verdict? statusOf = none := by
  obtain ⟨query, reply⟩ := exchange
  cases query with
  | broker call => cases call <;> first | rfl | cases silent
  | _ => rfl

theorem minted?_eq_none {exchange : Exchange} (silent : exchange.isSending = false) :
    exchange.minted? = none := by
  obtain ⟨query, reply⟩ := exchange
  cases query with
  | mint => cases silent
  | _ => rfl

theorem upholds_of_silent {exchange : Exchange} (statusOf : Ticket → WriteStatus)
    (silent : exchange.isSending = false) : exchange.Upholds statusOf := by
  obtain ⟨query, reply⟩ := exchange
  cases query with
  | broker call => cases call <;> trivial
  | _ => trivial

/-- The ids that a producer is given its loop is given. -/
theorem minted_of_encloses {σ : Type} {body : Handle → σ → Request Ending (Paced σ)} {start : σ}
    {exchanges : List Exchange} {state : Paced (Handling σ)} {handle : Handle}
    {turns : List (Turn σ)} {inner : Paced σ}
    (encloses : Handling.Encloses body start exchanges state handle turns inner) :
    exchanges.filterMap Exchange.minted? = mintedIds turns := by
  rw [mintedIds, ← filterMap_filter_of_silent exchanges fun _ => minted?_eq_none, encloses.sending,
    filterMap_filter_of_silent _ fun _ => minted?_eq_none, List.filterMap_map]
  rfl

/-- What the loop of a producer adds to a run the producer adds. -/
theorem Reckons.of_encloses {σ : Type} {options : Options} {history : History}
    {body : Handle → σ → Request Ending (Paced σ)} {start : σ} {exchanges : List Exchange}
    {state : Paced (Handling σ)} {handle : Handle} {turns : List (Turn σ)} {inner : Paced σ}
    (encloses : Handling.Encloses body start exchanges state handle turns inner)
    {isDone : Prop} (announced : Announced options history turns inner)
    (counted : ∀ statusOf : Ticket → WriteStatus,
      (BrokerLoad.verdicts statusOf (turns.map Turn.exchange)).length = history.sent.length)
    (minted : history.minted = mintedIds turns)
    (concludes : isDone → ∀ statusOf : Ticket → WriteStatus,
      (∀ turn ∈ turns, turn.exchange.Upholds statusOf) →
        Concludes options history (BrokerLoad.verdicts statusOf (turns.map Turn.exchange))) :
    Reckons options history exchanges state.pending isDone := by
  have hverdicts : ∀ statusOf, BrokerLoad.verdicts statusOf exchanges =
      BrokerLoad.verdicts statusOf (turns.map Turn.exchange) := by
    intro statusOf
    rw [BrokerLoad.verdicts, BrokerLoad.verdicts,
      ← filterMap_filter_of_silent exchanges fun _ => verdict?_eq_none statusOf,
      encloses.sending, filterMap_filter_of_silent _ fun _ => verdict?_eq_none statusOf]
  refine ⟨fun gauge sending => ?_, fun statusOf => ?_, ?_, fun done statusOf upholds => ?_⟩
  · have hpending : (state.pending.map (Emission.gain gauge)).sum =
        (inner.pending.map (Emission.gain gauge)).sum := by
      cases hworking : state.now.stage.isWorking with
      | true =>
        obtain ⟨other, hstage⟩ : ∃ other, state.now.stage = .working other := by
          cases hstage : state.now.stage with
          | working other => exact ⟨other, rfl⟩
          | _ => simp [hstage] at hworking
        rw [(encloses.working other hstage).2]
      | false =>
        obtain ⟨hnone, hquiet⟩ := encloses.idle hworking
        rw [hnone, List.map_nil, List.sum_nil]
        refine List.sum_eq_zero (List.forall_mem_map.2 fun emission hmem => ?_)
        exact Gauge.gain_eq_zero sending (hquiet emission hmem)
    rw [hpending, ← announced.gain gauge,
      ← sum_map_filter exchanges fun _ => Gauge.exchange_gain_eq_zero sending, encloses.sending,
      sum_map_filter _ fun _ => Gauge.exchange_gain_eq_zero sending]
  · rw [hverdicts, counted]
  · rw [minted, minted_of_encloses encloses]
  · rw [hverdicts]
    refine concludes done statusOf fun turn hturn => ?_
    cases hsending : turn.exchange.isSending with
    | true =>
      refine upholds _ (List.mem_of_mem_filter (p := Exchange.isSending) ?_)
      rw [encloses.sending]
      exact List.mem_filter.2 ⟨List.mem_map_of_mem hturn, hsending⟩
    | false => exact upholds_of_silent statusOf hsending

/-- What a producer of either kind adds to a run. -/
theorem exists_reckons {name : String} {isPipelined : Bool} {options : Options}
    {exchanges : List Exchange} {engine : Engine}
    (course : Engine.Course name (.producer isPipelined options) exchanges engine) :
    ∃ history, Reckons options history exchanges engine.pending
      (engine.request name = .finish (.ok .completed)) := by
  cases isPipelined with
  | true =>
    obtain ⟨state, handle, turns, inner, rfl, encloses⟩ := course.pipelined
    refine ⟨_, .of_encloses encloses (Pipelined.announced_of_run encloses.run)
      (fun statusOf => Pipelined.length_verdicts statusOf encloses.run)
      (Pipelined.minted_history encloses.run) fun done statusOf upholds => ?_⟩
    obtain ⟨-, hstage⟩ := Handling.over_of_finish (Request.of_map_eq_finish done)
    have hfinish := encloses.honest (by rw [hstage]; rfl)
    rw [← encloses.loop] at hfinish
    have hpoint := Pipelined.point_of_finish hfinish
    exact Pipelined.concludes encloses.run upholds hpoint
  | false =>
    obtain ⟨state, handle, turns, inner, rfl, encloses⟩ := course.blocking
    refine ⟨_, .of_encloses encloses (Blocking.announced_of_run encloses.run)
      (fun statusOf => Blocking.length_verdicts statusOf encloses.run)
      (Blocking.minted_history encloses.run) fun done statusOf _ => ?_⟩
    obtain ⟨-, hstage⟩ := Handling.over_of_finish (Request.of_map_eq_finish done)
    have hfinish := encloses.honest (by rw [hstage]; rfl)
    rw [← encloses.loop] at hfinish
    have hpoint := Blocking.point_of_finish hfinish
    exact Blocking.concludes statusOf encloses.run hpoint

/-- A producer is given no more ids than it has messages to send. -/
theorem length_minted_le {name : String} {isPipelined : Bool} {options : Options}
    {exchanges : List Exchange} {engine : Engine}
    (course : Engine.Course name (.producer isPipelined options) exchanges engine) :
    (exchanges.filterMap Exchange.minted?).length ≤ options.messages.toNat := by
  cases isPipelined with
  | true =>
    obtain ⟨state, handle, turns, inner, -, encloses⟩ := course.pipelined
    rw [minted_of_encloses encloses, ← Pipelined.minted_history encloses.run]
    exact Pipelined.Balances.minted_le_of_run encloses.run
  | false =>
    obtain ⟨state, handle, turns, inner, -, encloses⟩ := course.blocking
    rw [minted_of_encloses encloses, ← Blocking.minted_history encloses.run]
    exact (Blocking.Balances.of_run encloses.run).supply

end Producer
end BrokerLoad
