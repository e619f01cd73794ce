import BrokerLoad.Producer.Pipelined
import BrokerLoad.Proofs.Run
import BrokerLoad.Proofs.Producer.History

/-!
# The moves of a pipelined producer

`Pipelined.request` says what the loop asks next and how it goes on; here the same is said
the other way round, as the list of all moves that the loop can make, each with the
exchange that makes it, its guard and the loop afterwards.  The loop is taken apart in
`Move.of_request`, and in `point_of_finish` to say where it ends: everything that is true
of all runs is proved one move at a time.

`Loop.events` reads a turn of the loop as history.  That a receipt was refused and the
message is dropped can be told from the receipt alone, since the loop knows by then
whether it is draining.
-/

namespace BrokerLoad
namespace Producer
namespace Pipelined

/-! ## Reading histories -/

/-- What the answer to a submission means for the message submitted. -/
def submission (id : UInt64) (attempt : UInt32) : Except Fault (Option Ticket) → Event
  | .ok (some _) => .submitted id attempt
  | .ok none => .unsent id attempt
  | .error _ => .unsent id attempt

/-- What a receipt means for the message it is for. -/
def receipt (options : Options) (draining : Bool) (oldest : InFlight) (status : WriteStatus) :
    History :=
  .answered oldest.id oldest.attempts status ::
    if status ≠ .ok ∧ oldest.attempts < options.maxAttempts ∧ draining then
      [.dropped oldest.id oldest.attempts]
    else []

/-- What a turn of the loop means for its messages. -/
def Loop.events (options : Options) (loop : Loop) (exchange : Exchange) : History :=
  match loop.point, exchange with
  | .minting, ⟨.mint, id⟩ => [.minted id]
  | .sending id, ⟨.broker (.submit _ _), reply⟩ => [submission id 1 reply]
  | .resending retry, ⟨.broker (.submit _ _), reply⟩ =>
    [submission retry.id (retry.attempts + 1) reply]
  | .collecting oldest, ⟨.broker (.takeReceipt _), .ok answer⟩ =>
    receipt options loop.draining oldest answer.status
  | .collecting oldest, ⟨.broker (.takeReceipt _), .error _⟩ =>
    [.spoiled oldest.id oldest.attempts]
  | .impatient oldest, ⟨.stopRequested, true⟩ => [.abandoned oldest.id oldest.attempts]
  | _, _ => []

/-- What a run has meant for its messages. -/
def history (options : Options) (turns : List (Turn Loop)) : History :=
  turns.flatMap fun turn => turn.state.now.events options turn.exchange

@[simp] theorem history_append (options : Options) (turns more : List (Turn Loop)) :
    history options (turns ++ more) = history options turns ++ history options more :=
  List.flatMap_append

@[simp] theorem history_singleton (options : Options) (turn : Turn Loop) :
    history options [turn] = turn.state.now.events options turn.exchange :=
  List.append_nil _

/-- A loop that is over finishes with its outcome. -/
theorem request_of_halted {name : String} {options : Options} {handle : Handle} {loop : Loop}
    {outcome : Outcome} (here : loop.point = .halted outcome) :
    (⟨[], loop⟩ : Paced Loop).request (request name options handle) = .finish outcome := by
  rw [Paced.request_nil, request, here]

/-- A loop finishes only when it is over. -/
theorem point_of_finish {name : String} {options : Options} {handle : Handle} {loop : Loop}
    {outcome : Outcome} (finishes : request name options handle loop = .finish outcome) :
    loop.point = .halted outcome := by
  cases here : loop.point with
  | head =>
    simp only [request, here] at finishes
    repeat' split at finishes
    all_goals cases finishes
  | checkpoint =>
    simp only [request, here] at finishes
    split at finishes <;> cases finishes
  | _ => simp_all [request]

/-! ## The moves -/

/-- Where a turn goes on when there is nothing to repeat. -/
def onward (remaining : UInt64) : Point := if remaining = 0 then .checkpoint else .minting

/-- A turn with nothing to repeat goes on to a new message or to its end. -/
theorem onward_cases (remaining : UInt64) :
    remaining = 0 ∧ onward remaining = .checkpoint ∨
      remaining ≠ 0 ∧ onward remaining = .minting := by
  by_cases hnone : remaining = 0
  · exact Or.inl ⟨hnone, if_pos hnone⟩
  · exact Or.inr ⟨hnone, if_neg hnone⟩

/-- What the loop is about to submit, if it is about to. -/
def Point.submits? : Point → Option (UInt64 × UInt32)
  | .sending id => some (id, 1)
  | .resending retry => some (retry.id, retry.attempts + 1)
  | _ => none

/-- What is about to be submitted is a new message or one that was refused. -/
theorem Point.of_submits? {point : Point} {id : UInt64} {attempt : UInt32}
    (submits : point.submits? = some (id, attempt)) :
    point = .sending id ∧ attempt = 1 ∨
      ∃ retry, point = .resending retry ∧ id = retry.id ∧ attempt = retry.attempts + 1 := by
  cases point with
  | sending id' =>
    cases submits
    exact Or.inl ⟨rfl, rfl⟩
  | resending retry =>
    cases submits
    exact Or.inr ⟨retry, rfl, rfl, rfl⟩
  | _ => cases submits

/-- The counts after a submission. -/
def count (counts : Counts) (size : Nat) : Counts :=
  { counts with
    submitted := counts.submitted + 1
    peakInFlight := max counts.peakInFlight size.toUInt64 }

@[simp] theorem count_submitted (counts : Counts) (size : Nat) :
    (count counts size).submitted = counts.submitted + 1 := rfl

@[simp] theorem count_retried (counts : Counts) (size : Nat) :
    (count counts size).retried = counts.retried := rfl

@[simp] theorem count_completed (counts : Counts) (size : Nat) :
    (count counts size).completed = counts.completed := rfl

/-- The moves of the loop: the loop before, what it asks and is told, and the loop after. -/
inductive Move (options : Options) (handle : Handle) :
    Paced Loop → Exchange → History → Paced Loop → Prop
  /-- An emission is made. -/
  | emit (emission : Emission) (rest : List Emission) (loop : Loop) :
    Move options handle ⟨emission :: rest, loop⟩ ⟨.emit emission, ()⟩ []
      ⟨rest, loop⟩
  /-- Nothing is left to send and nothing is in flight. -/
  | finish (loop : Loop) (here : loop.point = .head) (empty : loop.window.toList = [])
      (none_left : loop.remaining = 0) :
    Move options handle ⟨[], loop⟩ ⟨.pause, ()⟩ []
      ⟨[], { loop with
        point := .halted (.ok (if loop.draining then .stopRequested else .completed)) }⟩
  /-- The oldest submission is taken off the window. -/
  | take (loop : Loop) (oldest : InFlight) (rest : Fifo InFlight) (here : loop.point = .head)
      (pops : loop.window.toList = oldest :: rest.toList)
      (must : options.window ≤ loop.window.toList.length ∨ loop.remaining = 0) :
    Move options handle ⟨[], loop⟩ ⟨.pause, ()⟩ []
      ⟨[], { loop with window := rest, point := .awaiting oldest }⟩
  /-- A new message is to be sent. -/
  | renew (loop : Loop) (here : loop.point = .head) (left : loop.remaining ≠ 0)
      (room : loop.window.toList.length < options.window) :
    Move options handle ⟨[], loop⟩ ⟨.pause, ()⟩ []
      ⟨[], { loop with point := .minting }⟩
  /-- The receipt waited for is there. -/
  | ready (loop : Loop) (oldest : InFlight) (here : loop.point = .awaiting oldest) :
    Move options handle ⟨[], loop⟩ ⟨.broker (.receiptReady oldest.ticket), true⟩ []
      ⟨[], { loop with point := .collecting oldest }⟩
  /-- It is not there, and a stop request would change nothing about that. -/
  | linger (loop : Loop) (oldest : InFlight) (here : loop.point = .awaiting oldest)
      (patient : loop.draining = true ∨ options.stopPolicy = .drain) :
    Move options handle ⟨[], loop⟩ ⟨.broker (.receiptReady oldest.ticket), false⟩ []
      ⟨[], loop⟩
  /-- It is not there, and there may be a stop request. -/
  | doubt (loop : Loop) (oldest : InFlight) (here : loop.point = .awaiting oldest)
      (going : loop.draining = false) (policy : options.stopPolicy = .abandon) :
    Move options handle ⟨[], loop⟩ ⟨.broker (.receiptReady oldest.ticket), false⟩ []
      ⟨[], { loop with point := .impatient oldest }⟩
  /-- There is one: the wait is given up. -/
  | abandon (loop : Loop) (oldest : InFlight) (here : loop.point = .impatient oldest) :
    Move options handle ⟨[], loop⟩ ⟨.stopRequested, true⟩ [.abandoned oldest.id oldest.attempts]
      ⟨[], { loop with point := .halted (.ok .stopRequested) }⟩
  /-- There is none: the wait goes on. -/
  | persist (loop : Loop) (oldest : InFlight) (here : loop.point = .impatient oldest) :
    Move options handle ⟨[], loop⟩ ⟨.stopRequested, false⟩ []
      ⟨[], { loop with point := .awaiting oldest }⟩
  /-- The receipt says that the message was accepted. -/
  | accept (loop : Loop) (oldest : InFlight) (answer : Receipt)
      (here : loop.point = .collecting oldest) (ok : answer.status = .ok) :
    Move options handle ⟨[], loop⟩ ⟨.broker (.takeReceipt oldest.ticket), .ok answer⟩
      [.answered oldest.id oldest.attempts .ok]
      ⟨[.sample .write],
        { loop with counts := loop.counts.complete, point := onward loop.remaining }⟩
  /-- It says that the message was refused, and it is sent again. -/
  | refuse (loop : Loop) (oldest : InFlight) (answer : Receipt)
      (here : loop.point = .collecting oldest) (refused : answer.status ≠ .ok)
      (below : oldest.attempts < options.maxAttempts) (going : loop.draining = false) :
    Move options handle ⟨[], loop⟩ ⟨.broker (.takeReceipt oldest.ticket), .ok answer⟩
      [.answered oldest.id oldest.attempts answer.status]
      ⟨refusal answer.status, { loop with point := .resending ⟨oldest.id, oldest.attempts⟩ }⟩
  /-- It says that the message was refused, and it is dropped. -/
  | drop (loop : Loop) (oldest : InFlight) (answer : Receipt)
      (here : loop.point = .collecting oldest) (refused : answer.status ≠ .ok)
      (below : oldest.attempts < options.maxAttempts) (draining : loop.draining = true) :
    Move options handle ⟨[], loop⟩ ⟨.broker (.takeReceipt oldest.ticket), .ok answer⟩
      [.answered oldest.id oldest.attempts answer.status, .dropped oldest.id oldest.attempts]
      ⟨refusal answer.status, { loop with point := onward loop.remaining }⟩
  /-- It says that the message was refused, as often as it may be. -/
  | giveUp (loop : Loop) (oldest : InFlight) (answer : Receipt) (line : LogLine)
      (here : loop.point = .collecting oldest) (refused : answer.status ≠ .ok)
      (cap : options.maxAttempts ≤ oldest.attempts) :
    Move options handle ⟨[], loop⟩ ⟨.broker (.takeReceipt oldest.ticket), .ok answer⟩
      [.answered oldest.id oldest.attempts answer.status]
      ⟨[.bump .sendErrors 1, .say line],
        { loop with point := .halted (.ok .attemptsExceeded) }⟩
  /-- Taking the receipt ends in a fault. -/
  | spoil (loop : Loop) (oldest : InFlight) (fault : Fault)
      (here : loop.point = .collecting oldest) :
    Move options handle ⟨[], loop⟩ ⟨.broker (.takeReceipt oldest.ticket), .error fault⟩
      [.spoiled oldest.id oldest.attempts]
      ⟨[], { loop with point := .halted (.error fault) }⟩
  /-- An id is taken for a new message. -/
  | mint (loop : Loop) (id : UInt64) (here : loop.point = .minting) :
    Move options handle ⟨[], loop⟩ ⟨.mint, id⟩ [.minted id]
      ⟨[], { loop with point := .sending id }⟩
  /-- A new message is submitted. -/
  | send (loop : Loop) (id : UInt64) (ticket : Ticket) (here : loop.point = .sending id) :
    Move options handle ⟨[], loop⟩
      ⟨.broker (.submit handle (options.message id 1)), .ok (some ticket)⟩ [.submitted id 1]
      ⟨announce (options.message id 1),
        { loop with
          point := .checkpoint
          remaining := loop.remaining - 1
          window := loop.window.push ⟨id, 1, ticket⟩
          counts := count loop.counts (loop.window.push ⟨id, 1, ticket⟩).size }⟩
  /-- A refused message is submitted again. -/
  | resend (loop : Loop) (retry : Retry) (ticket : Ticket)
      (here : loop.point = .resending retry) :
    Move options handle ⟨[], loop⟩
      ⟨.broker (.submit handle (options.message retry.id (retry.attempts + 1))),
        .ok (some ticket)⟩ [.submitted retry.id (retry.attempts + 1)]
      ⟨announce (options.message retry.id (retry.attempts + 1)),
        { loop with
          point := .checkpoint
          window := loop.window.push ⟨retry.id, retry.attempts + 1, ticket⟩
          counts :=
            { count loop.counts
                (loop.window.push ⟨retry.id, retry.attempts + 1, ticket⟩).size with
              retried := loop.counts.retried + 1 } }⟩
  /-- A submission is not taken on. -/
  | fail (loop : Loop) (id : UInt64) (attempt : UInt32)
      (here : loop.point.submits? = some (id, attempt)) :
    Move options handle ⟨[], loop⟩
      ⟨.broker (.submit handle (options.message id attempt)), .ok none⟩ [.unsent id attempt]
      ⟨[], { loop with point := .refused id }⟩
  /-- A submission ends in a fault. -/
  | crash (loop : Loop) (id : UInt64) (attempt : UInt32) (fault : Fault)
      (here : loop.point.submits? = some (id, attempt)) :
    Move options handle ⟨[], loop⟩
      ⟨.broker (.submit handle (options.message id attempt)), .error fault⟩ [.unsent id attempt]
      ⟨[], { loop with point := .halted (.error fault) }⟩
  /-- It is reported why a submission was not taken on. -/
  | explain (loop : Loop) (id : UInt64) (reason : String) (line : LogLine)
      (here : loop.point = .refused id) :
    Move options handle ⟨[], loop⟩ ⟨.broker (.lastError handle), reason⟩ []
      ⟨[.say line], { loop with point := .halted (.ok .unexpectedError) }⟩
  /-- A turn ends while the window is drained. -/
  | turn (loop : Loop) (here : loop.point = .checkpoint) (draining : loop.draining = true) :
    Move options handle ⟨[], loop⟩ ⟨.pause, ()⟩ []
      ⟨[], { loop with point := .head }⟩
  /-- A turn ends, and there is no stop request. -/
  | goOn (loop : Loop) (here : loop.point = .checkpoint) (going : loop.draining = false) :
    Move options handle ⟨[], loop⟩ ⟨.stopRequested, false⟩ []
      ⟨[], { loop with point := .head }⟩
  /-- A turn ends, there is a stop request, and the window is abandoned. -/
  | leave (loop : Loop) (here : loop.point = .checkpoint) (going : loop.draining = false)
      (policy : options.stopPolicy = .abandon) :
    Move options handle ⟨[], loop⟩ ⟨.stopRequested, true⟩ []
      ⟨[], { loop with point := .halted (.ok .stopRequested) }⟩
  /-- A turn ends, there is a stop request, and the window is drained from now on. -/
  | drain (loop : Loop) (here : loop.point = .checkpoint) (going : loop.draining = false)
      (policy : options.stopPolicy = .drain) :
    Move options handle ⟨[], loop⟩ ⟨.stopRequested, true⟩ []
      ⟨[], { loop with draining := true, remaining := 0, point := .head }⟩
  /-- The loop is waiting for the oldest of no submissions. -/
  | starve (loop : Loop) (here : loop.point = .starved) :
    Move options handle ⟨[], loop⟩ ⟨.pause, ()⟩ []
      ⟨[], loop⟩

namespace Move

variable {name : String} {options : Options} {handle : Handle}

/-- The move of a loop that is about to decide what to do.  There is always room for one
submission, so a full window is not empty and its oldest submission is there to take. -/
theorem of_request_head {loop : Loop} {query : Query} {next : query.Reply → Paced Loop}
    (here : loop.point = .head)
    (asks : request name options handle loop = .ask query next) (reply : query.Reply) :
    ∃ events, Move options handle ⟨[], loop⟩ ⟨query, reply⟩ events (next reply) := by
  have hsize : loop.window.size = loop.window.toList.length := loop.window.size_eq_length
  have hroom : 1 ≤ options.window := Nat.le_max_left ..
  simp only [request, here] at asks
  split at asks
  next hdone =>
    cases asks
    exact ⟨_, .finish loop here (List.length_eq_zero_iff.1 (hsize ▸ hdone.1)) hdone.2⟩
  next hnot =>
    split at asks
    next hmust =>
      rw [hsize] at hmust
      split at asks
      next oldest rest hpop =>
        cases asks
        exact ⟨_, .take loop oldest rest here (Fifo.toList_of_pop? hpop) hmust⟩
      next hpop =>
        -- an empty window is not full, and with nothing left to send all would be over
        have hempty : loop.window.toList.length = 0 := by
          rw [Fifo.pop?_eq_none_iff.1 hpop, List.length_nil]
        rcases hmust with hfull | hnone
        · omega
        · exact absurd ⟨hsize.trans hempty, hnone⟩ hnot
    next hmay =>
      rw [not_or, Nat.not_le, hsize] at hmay
      cases asks
      rw [Loop.proceed, if_neg hmay.2]
      exact ⟨_, .renew loop here hmay.2 hmay.1⟩

theorem proceed_none (loop : Loop) :
    loop.proceed none = { loop with point := onward loop.remaining } := by
  by_cases hnone : loop.remaining = 0
  · rw [Loop.proceed, if_pos hnone, onward, if_pos hnone]
    rfl
  · rw [Loop.proceed, if_neg hnone, onward, if_neg hnone]
    rfl

theorem proceed_some_of_going {loop : Loop} (going : loop.draining = false) (retry : Retry) :
    loop.proceed (some retry) = { loop with point := .resending retry } := by
  simp only [Loop.proceed, going, Bool.false_eq_true, if_false, Loop.goto]

theorem proceed_some_of_draining {loop : Loop} (retry : Retry) (draining : loop.draining = true) :
    loop.proceed (some retry) = loop.proceed none := by
  simp only [Loop.proceed, draining, if_true]

/-- A message that was accepted is done. -/
theorem settle_of_ok {loop : Loop} {oldest : InFlight} {answer : Receipt}
    (ok : answer.status = .ok) :
    loop.settle name options oldest answer =
      ⟨[.sample .write],
        { loop with counts := loop.counts.complete, point := onward loop.remaining }⟩ := by
  have hsettle : loop.settle name options oldest answer =
      ⟨[.sample .write], loop.complete.proceed none⟩ := by
    simp only [Loop.settle, Disposition.ofStatus, ok, if_true]
  rw [hsettle, proceed_none]
  rfl

/-- A message that was refused as often as it may be ends the loop. -/
theorem settle_of_cap {loop : Loop} {oldest : InFlight} {answer : Receipt}
    (refused : answer.status ≠ .ok) (cap : options.maxAttempts ≤ oldest.attempts) :
    loop.settle name options oldest answer =
      ⟨[.bump .sendErrors 1, .say (givingUp name oldest.id answer.status oldest.attempts)],
        { loop with point := .halted (.ok .attemptsExceeded) }⟩ := by
  simp only [Loop.settle, Disposition.ofStatus, refused, cap, if_true, if_false]
  rfl

/-- A message that was refused below the cap is a retry. -/
theorem settle_of_below {loop : Loop} {oldest : InFlight} {answer : Receipt}
    (refused : answer.status ≠ .ok) (below : oldest.attempts < options.maxAttempts) :
    loop.settle name options oldest answer =
      ⟨refusal answer.status, loop.proceed (some ⟨oldest.id, oldest.attempts⟩)⟩ := by
  simp only [Loop.settle, Disposition.ofStatus, refused, UInt32.not_le.2 below, if_false, refusal]
  by_cases hthrottled : answer.status = .throttled <;> simp only [hthrottled, if_true, if_false]

/-- The move of a loop that takes a receipt, by what the receipt says. -/
theorem of_settle {loop : Loop} {oldest : InFlight} (answer : Receipt)
    (here : loop.point = .collecting oldest) :
    ∃ events, Move options handle ⟨[], loop⟩ ⟨.broker (.takeReceipt oldest.ticket), .ok answer⟩
      events (loop.settle name options oldest answer) := by
  by_cases hok : answer.status = .ok
  · rw [settle_of_ok hok]
    exact ⟨_, .accept loop oldest answer here hok⟩
  by_cases hcap : options.maxAttempts ≤ oldest.attempts
  · rw [settle_of_cap hok hcap]
    exact ⟨_, .giveUp loop oldest answer _ here hok hcap⟩
  have hbelow : oldest.attempts < options.maxAttempts := UInt32.not_le.1 hcap
  rw [settle_of_below hok hbelow]
  cases hdraining : loop.draining with
  | false =>
    rw [proceed_some_of_going hdraining]
    exact ⟨_, .refuse loop oldest answer here hok hbelow hdraining⟩
  | true =>
    rw [proceed_some_of_draining _ hdraining, proceed_none]
    exact ⟨_, .drop loop oldest answer here hok hbelow hdraining⟩

/-- The move of a loop at the end of a turn. -/
theorem of_request_checkpoint {loop : Loop} {query : Query} {next : query.Reply → Paced Loop}
    (here : loop.point = .checkpoint)
    (asks : request name options handle loop = .ask query next) (reply : query.Reply) :
    ∃ events, Move options handle ⟨[], loop⟩ ⟨query, reply⟩ events (next reply) := by
  simp only [request, here] at asks
  split at asks
  next hdraining =>
    cases asks
    exact ⟨_, .turn loop here hdraining⟩
  next hgoing =>
    rw [Bool.not_eq_true] at hgoing
    cases asks
    cases reply with
    | false => exact ⟨_, .goOn loop here hgoing⟩
    | true =>
      cases hpolicy : options.stopPolicy with
      | abandon => exact ⟨_, .leave loop here hgoing hpolicy⟩
      | drain => exact ⟨_, .drain loop here hgoing hpolicy⟩

/-- A request is answered by a move, whatever the reply. -/
theorem of_request {state : Paced Loop} {query : Query} {next : query.Reply → Paced Loop}
    (asks : state.request (request name options handle) = .ask query next)
    (reply : query.Reply) :
    ∃ events, Move options handle state ⟨query, reply⟩ events (next reply) := by
  obtain ⟨pending, loop⟩ := state
  cases pending with
  | cons emission rest =>
    cases asks
    exact ⟨_, .emit emission rest loop⟩
  | nil =>
    rw [Paced.request_nil] at asks
    cases here : loop.point with
    | head => exact of_request_head here asks reply
    | awaiting oldest =>
      simp only [request, here] at asks
      cases asks
      cases reply with
      | true => exact ⟨_, .ready loop oldest here⟩
      | false =>
        simp only [Bool.false_eq_true, if_false]
        split
        next hpatient => exact ⟨_, .linger loop oldest here hpatient⟩
        next hdoubt =>
          rw [not_or, Bool.not_eq_true] at hdoubt
          refine ⟨_, .doubt loop oldest here hdoubt.1 ?_⟩
          cases hpolicy : options.stopPolicy with
          | abandon => rfl
          | drain => exact absurd hpolicy hdoubt.2
    | impatient oldest =>
      simp only [request, here] at asks
      cases asks
      cases reply with
      | true => exact ⟨_, .abandon loop oldest here⟩
      | false => exact ⟨_, .persist loop oldest here⟩
    | collecting oldest =>
      simp only [request, here] at asks
      cases asks
      match reply with
      | .ok answer => exact of_settle answer here
      | .error fault => exact ⟨_, .spoil loop oldest fault here⟩
    | minting =>
      simp only [request, here] at asks
      cases asks
      exact ⟨_, .mint loop reply here⟩
    | sending id =>
      simp only [request, here] at asks
      cases asks
      have hsubmits : loop.point.submits? = some (id, 1) := by rw [here]; rfl
      match reply with
      | .ok (some ticket) => exact ⟨_, .send loop id ticket here⟩
      | .ok none => exact ⟨_, .fail loop id 1 hsubmits⟩
      | .error fault => exact ⟨_, .crash loop id 1 fault hsubmits⟩
    | resending retry =>
      simp only [request, here] at asks
      cases asks
      have hsubmits : loop.point.submits? = some (retry.id, retry.attempts + 1) := by
        rw [here]; rfl
      match reply with
      | .ok (some ticket) => exact ⟨_, .resend loop retry ticket here⟩
      | .ok none => exact ⟨_, .fail loop retry.id _ hsubmits⟩
      | .error fault => exact ⟨_, .crash loop retry.id _ fault hsubmits⟩
    | refused id =>
      simp only [request, here] at asks
      cases asks
      exact ⟨_, .explain loop id reply _ here⟩
    | checkpoint => exact of_request_checkpoint here asks reply
    | halted outcome =>
      simp only [request, here] at asks
      cases asks
    | starved =>
      simp only [request, here] at asks
      cases asks
      exact ⟨_, .starve loop here⟩

/-- A move means for the messages what its turn means for them. -/
theorem events_eq {state after : Paced Loop} {exchange : Exchange} {events : History}
    (move : Move options handle state exchange events after) :
    state.now.events options exchange = events := by
  cases move with
  | accept loop oldest answer here ok => simp [Loop.events, here, receipt, ok]
  | refuse loop oldest answer here refused below going => simp [Loop.events, here, receipt, going]
  | drop loop oldest answer here refused below draining =>
    simp [Loop.events, here, receipt, refused, below, draining]
  | giveUp loop oldest answer line here refused cap =>
    simp [Loop.events, here, receipt, UInt32.not_lt.2 cap]
  | fail loop id attempt here =>
    rcases loop.point.of_submits? here with ⟨hpoint, rfl⟩ | ⟨retry, hpoint, rfl, rfl⟩ <;>
      simp [Loop.events, hpoint, submission]
  | crash loop id attempt fault here =>
    rcases loop.point.of_submits? here with ⟨hpoint, rfl⟩ | ⟨retry, hpoint, rfl, rfl⟩ <;>
      simp [Loop.events, hpoint, submission]
  | send loop id ticket here => simp [Loop.events, here, submission]
  | resend loop retry ticket here => simp [Loop.events, here, submission]
  | emit emission rest loop => cases here : loop.point <;> simp [Loop.events, here]
  | linger loop oldest here => simp [Loop.events, here]
  | starve loop here => simp [Loop.events, here]
  | _ => simp_all [Loop.events]

end Move

/-! ## Runs -/

variable {name : String} {options : Options} {handle : Handle}

/-- What holds in the beginning and is kept by every move holds of every run, with its exchanges
and its history, wherever it starts. -/
theorem run_induction {P : List Exchange → History → Paced Loop → Prop} {start : Paced Loop}
    (begins : P [] [] start)
    (moves : ∀ {exchanges : List Exchange} {past events : History} {state after : Paced Loop}
      {exchange : Exchange}, P exchanges past state →
      Move options handle state exchange events after →
        P (exchanges ++ [exchange]) (past ++ events) after)
    {turns : List (Turn Loop)} {state : Paced Loop}
    (run : Run (request name options handle) start turns state) :
    P (turns.map Turn.exchange) (history options turns) state := by
  induction run with
  | start => exact begins
  | @ask turns state query next before asks reply ih =>
    obtain ⟨events, move⟩ := Move.of_request asks reply
    rw [List.map_append, history_append, history_singleton, move.events_eq]
    exact moves ih move

/-- The same for runs from the beginning of the loop. -/
theorem exchange_induction {P : List Exchange → History → Paced Loop → Prop}
    (begins : P [] [] (.enter (.start options)))
    (moves : ∀ {exchanges : List Exchange} {past events : History} {state after : Paced Loop}
      {exchange : Exchange}, P exchanges past state →
      Move options handle state exchange events after →
        P (exchanges ++ [exchange]) (past ++ events) after)
    {turns : List (Turn Loop)} {state : Paced Loop}
    (run : Run (request name options handle) (.enter (.start options)) turns state) :
    P (turns.map Turn.exchange) (history options turns) state :=
  run_induction begins moves run

/-- What holds of the empty history and is kept by every move holds of every run. -/
theorem history_induction {P : History → Paced Loop → Prop}
    (begins : P [] (.enter (.start options)))
    (moves : ∀ {past events : History} {state after : Paced Loop} {exchange : Exchange},
      P past state → Move options handle state exchange events after → P (past ++ events) after)
    {turns : List (Turn Loop)} {state : Paced Loop}
    (run : Run (request name options handle) (.enter (.start options)) turns state) :
    P (history options turns) state :=
  run_induction (P := fun _ past state => P past state) begins moves run

end Pipelined
end Producer
end BrokerLoad
