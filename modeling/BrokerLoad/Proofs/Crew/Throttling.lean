import BrokerLoad.Proofs.Crew.Alone
import BrokerLoad.Proofs.Docket.Hub
import BrokerLoad.Proofs.Docket.Rounds

/-!
# A throttled producer

A pipelined producer that is alone with a hub is slowed down by every so-manieth of its own
writes.  What is throttled is written again, and it depends on the window and on what else there
is to write how many writes come in between.  If their number is such that the repeat is throttled
as well, and so on, then the message runs out of attempts, and the producer gives up.

`Crew.throttled_alone` says when that is: for a message whose writes, each as many places after
the one before as `Producer.repeatOf` says, are all throttled, as often as it may be sent.  Then
the producer gives up, and else it completes.  It completes in particular whenever fewer writes
are in flight than lie between two that are throttled, and each message may be sent twice.
-/

namespace BrokerLoad
namespace Hub

/-- Whether the write that comes after so many others is throttled. -/
def Throttles (throttleEvery : UInt32) (number : Nat) : Prop :=
  paceAt throttleEvery (UInt64.ofNat (number + 1)) = .throttled

instance (throttleEvery : UInt32) : DecidablePred (Throttles throttleEvery) :=
  fun _ => inferInstanceAs (Decidable (_ = _))

/-- The docket of a hub refuses what the hub throttles. -/
theorem docket_refuses (throttleEvery : UInt32) :
    (docket throttleEvery).Refuses (Throttles throttleEvery) := by
  intro number
  refine ⟨_, rfl, ?_⟩
  rw [receiptAfter, Throttles]
  split
  next throttled =>
    refine ⟨fun hok => ?_, fun accepted => absurd throttled accepted⟩
    cases hok
  next accepted => exact ⟨fun _ => accepted, fun _ => rfl⟩

end Hub

/-- A pipelined producer that submits makes no other calls but those that belong to it. -/
theorem Producer.Pipelined.submits_of_request {name : String} {options : Options} {handle : Handle}
    {state : Paced Loop} {call : Call} {next : call.Reply → Paced Loop}
    (asks : state.request (request name options handle) = .ask (.broker call) next) :
    call.submits handle := by
  obtain ⟨events, move⟩ := Move.of_request asks (Client.serve call ({} : Hub)).reply
  generalize (Client.serve call ({} : Hub)).reply = reply at move
  generalize next reply = after at move
  cases move <;> trivial

/-! ## Few writes in flight -/

namespace Hub

variable {throttleEvery : UInt32} {window messages attempts number : Nat}

/-- How many writes are throttled. -/
theorem count_throttles (throttleEvery : UInt32) (total : Nat) :
    Nat.count (Throttles throttleEvery) total = (pace throttleEvery total).count .throttled := by
  induction total with
  | zero => rfl
  | succ total ih =>
    rw [Nat.count_succ, ih, pace_succ, List.count_append, List.count_singleton]
    simp [Throttles]

/-- If all the writes that it takes can be counted, then all that are made are. -/
theorem lt_of_isMade (two : 2 ≤ throttleEvery.toNat)
    (fits : messages + (messages - 1) / (throttleEvery.toNat - 1) < 2 ^ 64)
    (made : Producer.IsMade (Throttles throttleEvery) messages number) : number + 1 < 2 ^ 64 := by
  by_contra hmany
  have hpositive := ne_zero_of_two_le two
  -- all that the word can count, and yet one more
  have hlast := made.of_le (show 2 ^ 64 - 1 ≤ number by omega)
  rw [Producer.IsMade, count_throttles, count_throttled hpositive (by omega)] at hlast
  have hdivides := Nat.div_mul_le_self (2 ^ 64 - 1) throttleEvery.toNat
  have hrefused : (2 ^ 64 - 1) / throttleEvery.toNat ≤
      (messages - 1) / (throttleEvery.toNat - 1) := by
    rw [Nat.le_div_iff_mul_le (by omega), Nat.mul_sub, Nat.mul_one]
    omega
  omega

/-- There is no write that is throttled if there are fewer messages than that takes. -/
theorem period_le {every rounds : Nat} (positive : 0 < every) (last : number + 1 = every * rounds)
    (made : number < messages + number / every) : every ≤ messages := by
  cases rounds with
  | zero => cases last
  | succ rounds =>
    have hearlier : number / every < rounds + 1 := by
      rw [Nat.div_lt_iff_lt_mul positive, Nat.mul_comm]
      omega
    have hrounds := Nat.mul_le_mul_right rounds (Nat.succ_le_of_lt positive)
    rw [Nat.mul_succ] at last
    omega

/-- If fewer writes are in flight than lie between two that are throttled, then no message is
throttled twice in a row. -/
theorem not_exhausts_of_few (two : 2 ≤ throttleEvery.toNat) (room : 0 < window)
    (few : min window messages < throttleEvery.toNat)
    (fits : messages + (messages - 1) / (throttleEvery.toNat - 1) < 2 ^ 64)
    (again : 2 ≤ attempts) :
    ¬ Producer.Exhausts (Throttles throttleEvery) window messages attempts := by
  rintro ⟨first, made, hthrottled⟩
  have hpositive := ne_zero_of_two_le two
  have hfirst : Throttles throttleEvery first := hthrottled 0 (by omega)
  have hsecond : Throttles throttleEvery
      (Producer.repeatOf (Throttles throttleEvery) window messages first) := hthrottled 1 (by omega)
  have hlater := made.lt_repeatOf room
  have hrepeat : Producer.repeatOf (Throttles throttleEvery) window messages first =
      min (first + window) (messages + Nat.count (Throttles throttleEvery) first) := rfl
  have hlt := lt_of_isMade two fits made
  have hlt' := lt_of_isMade two fits (made.of_refused room hfirst)
  rw [Throttles, paceAt_eq_throttled_iff hpositive hlt] at hfirst
  rw [Throttles, paceAt_eq_throttled_iff hpositive hlt'] at hsecond
  obtain ⟨rounds, hrounds⟩ := hfirst
  obtain ⟨rounds', hrounds'⟩ := hsecond
  rw [Producer.IsMade] at made
  rw [count_throttles, count_throttled hpositive (by omega)] at made hrepeat
  have hgap : first + throttleEvery.toNat <
      Producer.repeatOf (Throttles throttleEvery) window messages first + 1 := by
    have hround : rounds < rounds' := by
      refine Nat.lt_of_mul_lt_mul_left (a := throttleEvery.toNat) ?_
      omega
    have hrounds'' := Nat.mul_le_mul_left throttleEvery.toNat (Nat.succ_le_of_lt hround)
    rw [Nat.mul_succ] at hrounds''
    omega
  have hmessages := period_le (Nat.lt_of_succ_lt two) hrounds made
  omega

end Hub

namespace Crew

/-- A pipelined producer that is alone with a hub comes to its end: it completes, unless a message
is throttled as often as it may be sent. -/
theorem exists_throttled (name : String) (options : Producer.Options) (start : Shared Hub)
    (fresh : start.client.IsFresh options.destination) :
    ∃ (bound : Nat) (life : Lifecycle) (engine : Engine) (after : Shared Hub)
      (counts : Producer.Counts),
      runWorker 0 bound (Crew.start ⟨start, [.hire name (.producer true options)]⟩ 0) =
        ⟨after, [⟨life, engine⟩]⟩ ∧
      life.isDone = true ∧ engine.counts = .producer counts ∧
      (life.ending = .completed ∧ counts.completed = options.messages ∧
          ¬ Producer.Exhausts (Hub.Throttles start.client.throttleEvery) options.window
            options.messages.toNat (max 1 options.maxAttempts.toNat) ∨
        life.ending = .attemptsExceeded ∧
          Producer.Exhausts (Hub.Throttles start.client.throttleEvery) options.window
            options.messages.toNat (max 1 options.maxAttempts.toNat)) := by
  obtain ⟨hcreated, hopened, hkeeps⟩ := fresh.opens
  let begun : Shared Docket := (entering name options.role start.client.handles.size start).onto
    (Hub.docket start.client.throttleEvery)
  obtain ⟨last, sharing, hgoes, hends⟩ := Producer.Pipelined.exists_endsBy name options
    start.client.handles.size begun (Hub.docket_refuses start.client.throttleEvery) rfl
  obtain ⟨delay, turns, hattended⟩ : ∃ delay,
      Gets (Producer.Pipelined.request name options start.client.handles.size)
        (.enter (.start options)) begun ⟨[], last⟩ (sharing.delayed delay) := hgoes fun _ => 0
  obtain ⟨hub, hserved, -⟩ := hkeeps.attended Producer.Pipelined.submits_of_request hattended
  have hworks : Attended (Producer.Pipelined.request name options start.client.handles.size)
      (.enter (.start options)) (entering name options.role start.client.handles.size start) turns
      ⟨[], last⟩ ((sharing.delayed delay).onto hub) := hserved
  have hcreates : (Client.serve (.create options.role) start.client).reply =
      .ok (some start.client.handles.size) := congrArg Except.ok hcreated
  have hopens : (Client.serve (.openHandle start.client.handles.size)
      (Client.serve (.create options.role) start.client).client).reply = .ok true :=
    congrArg Except.ok hopened
  have hcomes : ∀ outcome, last.point = .halted outcome → ∃ bound engine after,
      runWorker 0 bound (Crew.start ⟨start, [.hire name (.producer true options)]⟩ 0) =
        ⟨after, [⟨Worker.exitedLife name (Handling.resultOf outcome).ending, engine⟩]⟩ ∧
      engine.counts = .producer last.counts := by
    intro outcome hhalted
    obtain ⟨bound, hrun⟩ := exists_finished (request_pipelinedProducer name options) hcreates
      hopens (fun _ => rfl) hworks (Producer.Pipelined.request_of_halted hhalted)
    exact ⟨bound, _, _, hrun, rfl⟩
  cases hends with
  | completed here spared all =>
    obtain ⟨bound, engine, after, hrun, hcounts⟩ := hcomes _ here
    exact ⟨bound, _, engine, after, _, hrun, rfl, hcounts, .inl ⟨rfl, all, spared⟩⟩
  | exceeded here exhausts =>
    obtain ⟨bound, engine, after, hrun, hcounts⟩ := hcomes _ here
    exact ⟨bound, _, engine, after, _, hrun, rfl, hcounts, .inr ⟨rfl, exhausts⟩⟩

/-- A pipelined producer that is alone with a hub comes to its end.  Either it completes, and then
all its messages are accepted, or it gives up; and it gives up just when some write is throttled
and so are all its repeats, as many of them as there may be, where what comes after `number` other
writes is repeated after `Producer.repeatOf` others.  It completes in particular if each message
may be sent twice and fewer writes are in flight than from one that is throttled to the next. -/
theorem throttled_alone (name : String) (options : Producer.Options) (ledger : Ledger) {hub : Hub}
    (fresh : hub.IsFresh options.destination) :
    ∃ (bound : Nat) (life : Lifecycle) (engine : Engine) (after : Shared Hub)
      (counts : Producer.Counts),
      runWorker 0 bound (Crew.start
          ⟨{ ledger, client := hub }, [.hire name (.producer true options)]⟩ 0) =
        ⟨after, [⟨life, engine⟩]⟩ ∧
      life.isDone = true ∧ engine.counts = .producer counts ∧
      (life.ending = .completed ∨ life.ending = .attemptsExceeded) ∧
      (life.ending = .completed → counts.completed = options.messages) ∧
      (life.ending = .completed ↔
        ¬ Producer.Exhausts (Hub.Throttles hub.throttleEvery) options.window
          options.messages.toNat (max 1 options.maxAttempts.toNat)) ∧
      (2 ≤ hub.throttleEvery.toNat → 2 ≤ options.maxAttempts.toNat →
        min options.window options.messages.toNat < hub.throttleEvery.toNat →
        options.messages.toNat +
          (options.messages.toNat - 1) / (hub.throttleEvery.toNat - 1) < 2 ^ 64 →
        life.ending = .completed) := by
  obtain ⟨bound, life, engine, after, counts, hrun, hdone, hcounts, hends⟩ :=
    exists_throttled name options { ledger, client := hub } fresh
  refine ⟨bound, life, engine, after, counts, hrun, hdone, hcounts, ?_⟩
  rcases hends with ⟨hcompleted, hall, hspared⟩ | ⟨hexceeded, hexhausts⟩
  · exact ⟨.inl hcompleted, fun _ => hall, ⟨fun _ => hspared, fun _ => hcompleted⟩,
      fun _ _ _ _ => hcompleted⟩
  · have hunfinished : life.ending ≠ .completed := by simp [hexceeded]
    refine ⟨.inr hexceeded, fun hcompleted => absurd hcompleted hunfinished,
      ⟨fun hcompleted => absurd hcompleted hunfinished, fun hspared => absurd hexhausts hspared⟩,
      fun two again few fits => absurd hexhausts ?_⟩
    exact Hub.not_exhausts_of_few two (Nat.le_max_left _ _) few fits
      (Nat.le_trans again (Nat.le_max_right _ _))

/-- Every third write is throttled and two are in flight, so that all messages get through. -/
theorem throttled_alone_every_third :
    (({ throttleEvery := 3 } : Hub).createDestination { path := "/d" }).2.IsFresh "/d" ∧
    ∃ (bound : Nat) (life : Lifecycle) (engine : Engine) (after : Shared Hub)
      (counts : Producer.Counts),
      runWorker 0 bound (Crew.start
          ⟨{ client := (({ throttleEvery := 3 } : Hub).createDestination { path := "/d" }).2 },
            [.hire "publisher" (.producer true
              { destination := "/d", messages := 7, maxInFlight := 2, maxAttempts := 2 })]⟩ 0) =
        ⟨after, [⟨life, engine⟩]⟩ ∧
      life.isDone = true ∧ engine.counts = .producer counts ∧ life.ending = .completed ∧
      counts.completed = 7 := by
  have hfresh : (({ throttleEvery := 3 } : Hub).createDestination { path := "/d" }).2.IsFresh
      "/d" := .createDestination 3 0 (by decide)
  obtain ⟨bound, life, engine, after, counts, hrun, hdone, hcounts, -, hall, -, hfew⟩ :=
    throttled_alone "publisher"
      { destination := "/d", messages := 7, maxInFlight := 2, maxAttempts := 2 } {} hfresh
  have hcompleted : life.ending = .completed :=
    hfew (by decide) (by decide) (by decide) (by decide)
  exact ⟨hfresh, bound, life, engine, after, counts, hrun, hdone, hcounts, hcompleted,
    hall hcompleted⟩

/-- Every other write is throttled and two are in flight: the second of three messages is throttled
as the second write and, repeated, as the fourth, and then the producer gives up. -/
theorem gives_up_of_two_in_flight :
    ∃ (bound : Nat) (life : Lifecycle) (engine : Engine) (after : Shared Hub),
      runWorker 0 bound (Crew.start
          ⟨{ client := (({ throttleEvery := 2 } : Hub).createDestination { path := "/d" }).2 },
            [.hire "publisher" (.producer true
              { destination := "/d", messages := 3, maxInFlight := 2, maxAttempts := 2 })]⟩ 0) =
        ⟨after, [⟨life, engine⟩]⟩ ∧
      life.isDone = true ∧ life.ending = .attemptsExceeded ∧ life.ending ≠ .completed := by
  have hfresh : (({ throttleEvery := 2 } : Hub).createDestination { path := "/d" }).2.IsFresh
      "/d" := .createDestination 2 0 (by decide)
  obtain ⟨bound, life, engine, after, counts, hrun, hdone, -, hends⟩ :=
    exists_throttled "publisher"
      { destination := "/d", messages := 3, maxInFlight := 2, maxAttempts := 2 }
      { client := (({ throttleEvery := 2 } : Hub).createDestination { path := "/d" }).2 } hfresh
  have hexhausts : Producer.Exhausts (Hub.Throttles 2) 2 3 2 := ⟨1, by decide, by decide⟩
  rcases hends with ⟨-, -, hspared⟩ | ⟨hexceeded, -⟩
  · exact absurd hexhausts hspared
  · exact ⟨bound, life, engine, after, hrun, hdone, hexceeded, by simp [hexceeded]⟩

end Crew
end BrokerLoad
