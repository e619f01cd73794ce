import BrokerLoad.Engine.Query
import BrokerLoad.Fifo
import BrokerLoad.Producer.Policy
import BrokerLoad.Worker.Ending

/-!
# Pipelined producers

A pipelined producer submits messages without waiting for each receipt, and keeps a
*window* of the submissions whose receipts it has not yet seen, oldest first.  Its
loop turns on one decision, made at `head`.

* If nothing is left to send and nothing is in flight, it is over.
* If the window is full, or nothing new is left to send, it takes the *oldest*
  submission off the window and waits for its receipt.  An accepted message is done;
  a refused one becomes a retry, which is submitted at once and so goes to the back
  of the window; one that was refused too often ends the producer.
* Otherwise it mints an id and submits a new message.

A retry has precedence over a new message, and a turn in which a message was done
goes on to submit a new one if there is any.

## Stopping

The stop request is looked at after each submission, in a turn that ends without
one, and, by a producer that abandons its window, whenever the wait for a receipt
takes longer than a while.  A producer that drains its window instead forgets what
it has not sent, drops every retry from then on, and turns until the window is
empty.
-/

namespace BrokerLoad
namespace Producer
namespace Pipelined

/-- A submission whose receipt has not been seen. -/
structure InFlight where
  id : UInt64
  /-- How often it has been submitted, this time included. -/
  attempts : UInt32
  ticket : Ticket
  deriving DecidableEq

/-- A refused submission that is to be repeated. -/
structure Retry where
  id : UInt64
  /-- How often it has been submitted. -/
  attempts : UInt32
  deriving DecidableEq

/-- Where the loop is. -/
inductive Point where
  /-- About to decide what to do. -/
  | head
  /-- Waiting for the receipt of a submission taken off the window. -/
  | awaiting (oldest : InFlight)
  /-- The wait has taken a while; about to look whether to abandon it. -/
  | impatient (oldest : InFlight)
  /-- The receipt is there; about to take it. -/
  | collecting (oldest : InFlight)
  /-- About to take an id for a new message. -/
  | minting
  /-- About to submit a new message. -/
  | sending (id : UInt64)
  /-- About to repeat a refused one. -/
  | resending (retry : Retry)
  /-- A submission was not taken on; about to ask why. -/
  | refused (id : UInt64)
  /-- About to look at the stop request. -/
  | checkpoint
  /-- Over. -/
  | halted (outcome : Outcome)
  /-- Was to wait for the oldest of no submissions. -/
  | starved

/-- The loop: where it is, and its variables. -/
structure Loop where
  /-- Where it is. -/
  point : Point := .head
  /-- How many new messages are left to send. -/
  remaining : UInt64
  /-- The submissions in flight, oldest first. -/
  window : Fifo InFlight := .empty
  draining : Bool := false
  counts : Counts := {}

namespace Loop

/-- The loop at its beginning. -/
def start (options : Options) : Loop := { remaining := options.messages }

/-- The same loop somewhere else. -/
def goto (loop : Loop) (point : Point) : Loop := { loop with point := point }

/-- The loop at its end. -/
def halt (loop : Loop) (ending : Ending) : Loop := loop.goto (.halted (.ok ending))

/-- The loop ended by a fault. -/
def raise (loop : Loop) (fault : Fault) : Loop := loop.goto (.halted (.error fault))

/-- One more message is done. -/
def complete (loop : Loop) : Loop := { loop with counts := loop.counts.complete }

/-- Where a turn goes on once its receipt, if it waited for one, has been dealt with:
to the retry, unless the loop is draining; else to a new message, if there is any;
else to the end of the turn. -/
def proceed (loop : Loop) (retry : Option Retry) : Loop :=
  match retry with
  | some retry =>
    if loop.draining then
      if loop.remaining = 0 then loop.goto .checkpoint else loop.goto .minting
    else
      loop.goto (.resending retry)
  | none => if loop.remaining = 0 then loop.goto .checkpoint else loop.goto .minting

/-- Deals with a receipt. -/
def settle (name : String) (options : Options) (loop : Loop) (oldest : InFlight)
    (receipt : Receipt) : Paced Loop :=
  match Disposition.ofStatus receipt.status oldest.attempts options.maxAttempts with
  | .ok => ⟨[.sample .write], loop.complete.proceed none⟩
  | .throttled =>
    ⟨[.bump .sendErrors 1, .bump .throttled 1], loop.proceed (some ⟨oldest.id, oldest.attempts⟩)⟩
  | .failed => ⟨[.bump .sendErrors 1], loop.proceed (some ⟨oldest.id, oldest.attempts⟩)⟩
  | .attemptsExceeded =>
    ⟨[.bump .sendErrors 1, .say (givingUp name oldest.id receipt.status oldest.attempts)],
      loop.halt .attemptsExceeded⟩

/-- Puts a submission into the window and counts it. -/
def enqueue (loop : Loop) (submission : InFlight) : Loop :=
  let window := loop.window.push submission
  { loop with
    window := window
    counts :=
      { loop.counts with
        submitted := loop.counts.submitted + 1
        peakInFlight := max loop.counts.peakInFlight window.size.toUInt64 } }

/-- A new message has been submitted. -/
def sent (loop : Loop) (submission : InFlight) : Loop :=
  let loop := loop.enqueue submission
  { loop with remaining := loop.remaining - 1 }

/-- A refused message has been submitted again. -/
def resent (loop : Loop) (submission : InFlight) : Loop :=
  let loop := loop.enqueue submission
  { loop with counts := { loop.counts with retried := loop.counts.retried + 1 } }

/-- Begins to drain the window: nothing new is left to send. -/
def drain (loop : Loop) : Loop :=
  { loop with draining := true, remaining := 0, point := .head }

end Loop

open Loop

/-- What the loop asks next. -/
def request (name : String) (options : Options) (handle : Handle) (loop : Loop) :
    Request Ending (Paced Loop) :=
  match loop.point with
  | .head =>
    if loop.window.size = 0 ∧ loop.remaining = 0 then
      .ask .pause fun _ =>
        .enter (loop.halt (if loop.draining then .stopRequested else .completed))
    else if options.window ≤ loop.window.size ∨ loop.remaining = 0 then
      match loop.window.pop? with
      | some (oldest, rest) =>
        .ask .pause fun _ => .enter { loop with window := rest, point := .awaiting oldest }
      | none => .ask .pause fun _ => .enter (loop.goto .starved)
    else
      .ask .pause fun _ => .enter (loop.proceed none)
  | .awaiting oldest =>
    .ask (.broker (.receiptReady oldest.ticket)) fun ready =>
      if ready then
        .enter (loop.goto (.collecting oldest))
      else if loop.draining ∨ options.stopPolicy = .drain then
        .enter loop
      else
        .enter (loop.goto (.impatient oldest))
  | .impatient oldest =>
    .ask .stopRequested fun stop =>
      .enter (if stop then loop.halt .stopRequested else loop.goto (.awaiting oldest))
  | .collecting oldest =>
    .ask (.broker (.takeReceipt oldest.ticket)) fun
      | .ok receipt => loop.settle name options oldest receipt
      | .error fault => .enter (loop.raise fault)
  | .minting => .ask .mint fun id => .enter (loop.goto (.sending id))
  | .sending id =>
    let data := options.message id 1
    .ask (.broker (.submit handle data)) fun
      | .ok (some ticket) => ⟨announce data, (loop.sent ⟨id, 1, ticket⟩).goto .checkpoint⟩
      | .ok none => .enter (loop.goto (.refused id))
      | .error fault => .enter (loop.raise fault)
  | .resending retry =>
    let attempts := retry.attempts + 1
    let data := options.message retry.id attempts
    .ask (.broker (.submit handle data)) fun
      | .ok (some ticket) =>
        ⟨announce data, (loop.resent ⟨retry.id, attempts, ticket⟩).goto .checkpoint⟩
      | .ok none => .enter (loop.goto (.refused retry.id))
      | .error fault => .enter (loop.raise fault)
  | .refused id =>
    .ask (.broker (.lastError handle)) fun reason =>
      ⟨[.say (.err (name ++ ": publisher returned no receipt for message " ++
          toString id.toNat ++ ": " ++ reason))],
        loop.halt .unexpectedError⟩
  | .checkpoint =>
    if loop.draining then
      .ask .pause fun _ => .enter (loop.goto .head)
    else
      .ask .stopRequested fun stop =>
        if stop then
          match options.stopPolicy with
          | .abandon => .enter (loop.halt .stopRequested)
          | .drain => .enter loop.drain
        else
          .enter (loop.goto .head)
  | .halted outcome => .finish outcome
  | .starved => .ask .pause fun _ => .enter loop

end Pipelined
end Producer
end BrokerLoad
