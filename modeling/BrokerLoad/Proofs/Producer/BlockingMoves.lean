import BrokerLoad.Producer.Blocking
import BrokerLoad.Proofs.Run
import BrokerLoad.Proofs.Producer.History

/-!
# The moves of a blocking producer

The same for a blocking producer as for a pipelined one: the list of all moves that its
loop can make, each with the exchange that makes it, what it means for the messages, its
guard, and the loop afterwards.

A write that is answered is a submission whose receipt is collected at once, so it makes
two events of the history.  That a refused message is dropped is known only when the stop
request is looked at.
-/

namespace BrokerLoad
namespace Producer
namespace Blocking

/-- What a turn of the loop means for its messages. -/
def Loop.events (loop : Loop) (exchange : Exchange) : History :=
  match loop.point, exchange with
  | .minting, ⟨.mint, id⟩ => [.minted id]
  | .writing id attempt, ⟨.broker (.write _ _), .ok answer⟩ =>
    [.submitted id attempt, .answered id attempt answer.status]
  | .writing id attempt, ⟨.broker (.write _ _), .error _⟩ => [.unsent id attempt]
  | .afterRefusal id attempt, ⟨.stopRequested, true⟩ => [.dropped id attempt]
  | _, _ => []

/-- What a run has meant for its messages. -/
def history (turns : List (Turn Loop)) : History :=
  turns.flatMap fun turn => turn.state.now.events turn.exchange

@[simp] theorem history_append (turns more : List (Turn Loop)) :
    history (turns ++ more) = history turns ++ history more :=
  List.flatMap_append

@[simp] theorem history_singleton (turn : Turn Loop) :
    history [turn] = turn.state.now.events turn.exchange :=
  List.append_nil _

/-- A loop finishes only when it is over. -/
theorem point_of_finish {name : String} {options : Options} {handle : Handle} {loop : Loop}
    {outcome : Outcome} (finishes : request name options handle loop = .finish outcome) :
    loop.point = .halted outcome := by
  cases here : loop.point <;> simp_all [request]

/-! ## The moves -/

/-- The moves of the loop: the loop before, what it asks and is told, what that means for its
messages, and the loop after. -/
inductive Move (options : Options) (handle : Handle) :
    Paced Loop → Exchange → History → Paced Loop → Prop
  /-- An emission is made. -/
  | emit (emission : Emission) (rest : List Emission) (loop : Loop) :
    Move options handle ⟨emission :: rest, loop⟩ ⟨.emit emission, ()⟩ [] ⟨rest, loop⟩
  /-- There is a next message. -/
  | renew (loop : Loop) (here : loop.point = .head) (left : loop.sent < options.messages) :
    Move options handle ⟨[], loop⟩ ⟨.pause, ()⟩ [] ⟨[], { loop with point := .minting }⟩
  /-- There is none. -/
  | finish (loop : Loop) (here : loop.point = .head) (none_left : options.messages ≤ loop.sent) :
    Move options handle ⟨[], loop⟩ ⟨.pause, ()⟩ []
      ⟨[], { loop with point := .halted (.ok .completed) }⟩
  /-- An id is taken for it. -/
  | mint (loop : Loop) (id : UInt64) (here : loop.point = .minting) :
    Move options handle ⟨[], loop⟩ ⟨.mint, id⟩ [.minted id]
      ⟨[], { loop with point := .writing id 1 }⟩
  /-- It is written and accepted. -/
  | accept (loop : Loop) (id : UInt64) (attempt : UInt32) (answer : Receipt)
      (here : loop.point = .writing id attempt) (ok : answer.status = .ok) :
    Move options handle ⟨[], loop⟩
      ⟨.broker (.write handle (options.message id attempt)), .ok answer⟩
      [.submitted id attempt, .answered id attempt .ok]
      ⟨announce (options.message id attempt) ++ [.sample .write],
        { loop with counts := (loop.tally attempt).counts.complete, point := .afterAcceptance }⟩
  /-- It is written and refused. -/
  | refuse (loop : Loop) (id : UInt64) (attempt : UInt32) (answer : Receipt)
      (here : loop.point = .writing id attempt) (refused : answer.status ≠ .ok)
      (below : attempt < options.maxAttempts) :
    Move options handle ⟨[], loop⟩
      ⟨.broker (.write handle (options.message id attempt)), .ok answer⟩
      [.submitted id attempt, .answered id attempt answer.status]
      ⟨announce (options.message id attempt) ++ refusal answer.status,
        { loop with counts := (loop.tally attempt).counts, point := .afterRefusal id attempt }⟩
  /-- It is written and refused as often as it may be. -/
  | giveUp (loop : Loop) (id : UInt64) (attempt : UInt32) (answer : Receipt) (line : LogLine)
      (here : loop.point = .writing id attempt) (refused : answer.status ≠ .ok)
      (cap : options.maxAttempts ≤ attempt) :
    Move options handle ⟨[], loop⟩
      ⟨.broker (.write handle (options.message id attempt)), .ok answer⟩
      [.submitted id attempt, .answered id attempt answer.status]
      ⟨announce (options.message id attempt) ++ [.bump .sendErrors 1, .say line],
        { loop with
          counts := (loop.tally attempt).counts
          point := .halted (.ok .attemptsExceeded) }⟩
  /-- Writing it ends in a fault. -/
  | crash (loop : Loop) (id : UInt64) (attempt : UInt32) (fault : Fault)
      (here : loop.point = .writing id attempt) :
    Move options handle ⟨[], loop⟩
      ⟨.broker (.write handle (options.message id attempt)), .error fault⟩ [.unsent id attempt]
      ⟨[], { loop with point := .halted (.error fault) }⟩
  /-- It was refused, and there is a stop request. -/
  | drop (loop : Loop) (id : UInt64) (attempt : UInt32)
      (here : loop.point = .afterRefusal id attempt) :
    Move options handle ⟨[], loop⟩ ⟨.stopRequested, true⟩ [.dropped id attempt]
      ⟨[], { loop with point := .halted (.ok .stopRequested) }⟩
  /-- It was refused, and is written again. -/
  | again (loop : Loop) (id : UInt64) (attempt : UInt32)
      (here : loop.point = .afterRefusal id attempt) :
    Move options handle ⟨[], loop⟩ ⟨.stopRequested, false⟩ []
      ⟨[], { loop with point := .writing id (attempt + 1) }⟩
  /-- It was accepted, and there is a stop request. -/
  | leave (loop : Loop) (here : loop.point = .afterAcceptance) :
    Move options handle ⟨[], loop⟩ ⟨.stopRequested, true⟩ []
      ⟨[], { loop with point := .halted (.ok .stopRequested) }⟩
  /-- It was accepted, and the loop turns to the next. -/
  | goOn (loop : Loop) (here : loop.point = .afterAcceptance) :
    Move options handle ⟨[], loop⟩ ⟨.stopRequested, false⟩ []
      ⟨[], { loop with sent := loop.sent + 1, point := .head }⟩

namespace Move

variable {name : String} {options : Options} {handle : Handle}

theorem of_settle {loop : Loop} {id : UInt64} {attempt : UInt32} (answer : Receipt)
    (here : loop.point = .writing id attempt) :
    ∃ events, Move options handle ⟨[], loop⟩
      ⟨.broker (.write handle (options.message id attempt)), .ok answer⟩ events
      ⟨announce (options.message id attempt) ++
          ((loop.tally attempt).settle name options id attempt answer).pending,
        ((loop.tally attempt).settle name options id attempt answer).now⟩ := by
  by_cases hok : answer.status = .ok
  · have hsettle : (loop.tally attempt).settle name options id attempt answer =
        ⟨[.sample .write], (loop.tally attempt).complete.goto .afterAcceptance⟩ := by
      simp only [Loop.settle, Disposition.ofStatus, hok, if_true]
    rw [hsettle]
    exact ⟨_, .accept loop id attempt answer here hok⟩
  by_cases hcap : options.maxAttempts ≤ attempt
  · simp only [Loop.settle, Disposition.ofStatus, hok, hcap, if_true, if_false]
    exact ⟨_, .giveUp loop id attempt answer _ here hok hcap⟩
  have hsettle : (loop.tally attempt).settle name options id attempt answer =
      ⟨refusal answer.status, (loop.tally attempt).goto (.afterRefusal id attempt)⟩ := by
    simp only [Loop.settle, Disposition.ofStatus, hok, hcap, if_false, refusal]
    by_cases hthrottled : answer.status = .throttled <;> simp only [hthrottled, if_true, if_false]
  rw [hsettle]
  exact ⟨_, .refuse loop id attempt answer here hok (UInt32.not_le.1 hcap)⟩

/-- A request is answered by a move, whatever the reply. -/
theorem of_request {state : Paced Loop} {query : Query} {next : query.Reply → Paced Loop}
    (asks : state.request (request name options handle) = .ask query next)
    (reply : query.Reply) :
    ∃ events, Move options handle state ⟨query, reply⟩ events (next reply) := by
  obtain ⟨pending, loop⟩ := state
  cases pending with
  | cons emission rest =>
    cases asks
    exact ⟨_, .emit emission rest loop⟩
  | nil =>
    rw [Paced.request_nil] at asks
    cases here : loop.point with
    | head =>
      simp only [request, here] at asks
      cases asks
      by_cases hleft : loop.sent < options.messages
      · rw [if_pos hleft]
        exact ⟨_, .renew loop here hleft⟩
      · rw [if_neg hleft]
        exact ⟨_, .finish loop here (UInt64.not_lt.1 hleft)⟩
    | minting =>
      simp only [request, here] at asks
      cases asks
      exact ⟨_, .mint loop reply here⟩
    | writing id attempt =>
      simp only [request, here] at asks
      cases asks
      match reply with
      | .ok answer => exact of_settle answer here
      | .error fault => exact ⟨_, .crash loop id attempt fault here⟩
    | afterRefusal id attempt =>
      simp only [request, here] at asks
      cases asks
      cases reply with
      | true => exact ⟨_, .drop loop id attempt here⟩
      | false => exact ⟨_, .again loop id attempt here⟩
    | afterAcceptance =>
      simp only [request, here] at asks
      cases asks
      cases reply with
      | true => exact ⟨_, .leave loop here⟩
      | false => exact ⟨_, .goOn loop here⟩
    | halted outcome =>
      simp only [request, here] at asks
      cases asks

/-- A move means for the messages what its turn means for them. -/
theorem events_eq {state after : Paced Loop} {exchange : Exchange} {events : History}
    (move : Move options handle state exchange events after) :
    state.now.events exchange = events := by
  cases move with
  | emit emission rest loop => cases here : loop.point <;> simp [Loop.events, here]
  | accept loop id attempt answer here ok => simp [Loop.events, here, ok]
  | _ => simp_all [Loop.events]

end Move

/-! ## Runs -/

variable {name : String} {options : Options} {handle : Handle}

/-- What holds in the beginning and is kept by every move holds of every run, with its exchanges
and its history, wherever it starts. -/
theorem run_induction {P : List Exchange → History → Paced Loop → Prop} {start : Paced Loop}
    (begins : P [] [] start)
    (moves : ∀ {exchanges : List Exchange} {past events : History} {state after : Paced Loop}
      {exchange : Exchange}, P exchanges past state →
      Move options handle state exchange events after →
        P (exchanges ++ [exchange]) (past ++ events) after)
    {turns : List (Turn Loop)} {state : Paced Loop}
    (run : Run (request name options handle) start turns state) :
    P (turns.map Turn.exchange) (history turns) state := by
  induction run with
  | start => exact begins
  | @ask turns state query next before asks reply ih =>
    obtain ⟨events, move⟩ := Move.of_request asks reply
    rw [List.map_append, history_append, history_singleton, move.events_eq]
    exact moves ih move

/-- The same for runs from the beginning of the loop. -/
theorem exchange_induction {P : List Exchange → History → Paced Loop → Prop}
    (begins : P [] [] (.enter {}))
    (moves : ∀ {exchanges : List Exchange} {past events : History} {state after : Paced Loop}
      {exchange : Exchange}, P exchanges past state →
      Move options handle state exchange events after →
        P (exchanges ++ [exchange]) (past ++ events) after)
    {turns : List (Turn Loop)} {state : Paced Loop}
    (run : Run (request name options handle) (.enter {}) turns state) :
    P (turns.map Turn.exchange) (history turns) state :=
  run_induction begins moves run

/-- What holds of the empty history and is kept by every move holds of every run. -/
theorem history_induction {P : History → Paced Loop → Prop} (begins : P [] (.enter {}))
    (moves : ∀ {past events : History} {state after : Paced Loop} {exchange : Exchange},
      P past state → Move options handle state exchange events after → P (past ++ events) after)
    {turns : List (Turn Loop)} {state : Paced Loop}
    (run : Run (request name options handle) (.enter {}) turns state) :
    P (history turns) state :=
  run_induction (P := fun _ past state => P past state) begins moves run

end Blocking
end Producer
end BrokerLoad
