import BrokerLoad.Engine.Query
import BrokerLoad.Producer.Policy
import BrokerLoad.Worker.Ending

/-!
# Blocking producers

A blocking producer writes one message at a time and waits for its receipt.  It
repeats a refused message until it is accepted or has been sent as often as it may
be, and only then turns to the next.  The stop request is looked at after every
write, except after the one that makes it give up.
-/

namespace BrokerLoad
namespace Producer
namespace Blocking

/-- Where the loop is. -/
inductive Point where
  /-- About to turn to the next message, if there is one. -/
  | head
  /-- About to take an id for it. -/
  | minting
  | writing (id : UInt64) (attempt : UInt32)
  /-- It was refused; about to look at the stop request. -/
  | afterRefusal (id : UInt64) (attempt : UInt32)
  /-- It was accepted; about to look at the stop request. -/
  | afterAcceptance
  /-- Over. -/
  | halted (outcome : Outcome)

/-- The loop: where it is, and its variables. -/
structure Loop where
  /-- Where it is. -/
  point : Point := .head
  /-- How many messages it is done with. -/
  sent : UInt64 := 0
  counts : Counts := {}

namespace Loop

/-- The same loop somewhere else. -/
def goto (loop : Loop) (point : Point) : Loop := { loop with point := point }

/-- The loop at its end. -/
def halt (loop : Loop) (ending : Ending) : Loop := loop.goto (.halted (.ok ending))

/-- The loop ended by a fault. -/
def raise (loop : Loop) (fault : Fault) : Loop := loop.goto (.halted (.error fault))

/-- Counts a write that was answered. -/
def tally (loop : Loop) (attempt : UInt32) : Loop :=
  { loop with
    counts :=
      { loop.counts with
        submitted := loop.counts.submitted + 1
        retried := if 1 < attempt then loop.counts.retried + 1 else loop.counts.retried
        peakInFlight := 1 } }

/-- One more message is done. -/
def complete (loop : Loop) : Loop := { loop with counts := loop.counts.complete }

/-- Deals with the receipt of a write that has been counted. -/
def settle (name : String) (options : Options) (loop : Loop) (id : UInt64) (attempt : UInt32)
    (receipt : Receipt) : Paced Loop :=
  match Disposition.ofStatus receipt.status attempt options.maxAttempts with
  | .ok => ⟨[.sample .write], loop.complete.goto .afterAcceptance⟩
  | .throttled =>
    ⟨[.bump .sendErrors 1, .bump .throttled 1], loop.goto (.afterRefusal id attempt)⟩
  | .failed => ⟨[.bump .sendErrors 1], loop.goto (.afterRefusal id attempt)⟩
  | .attemptsExceeded =>
    ⟨[.bump .sendErrors 1, .say (givingUp name id receipt.status attempt)],
      loop.halt .attemptsExceeded⟩

end Loop

open Loop

/-- What the loop asks next. -/
def request (name : String) (options : Options) (handle : Handle) (loop : Loop) :
    Request Ending (Paced Loop) :=
  match loop.point with
  | .head =>
    .ask .pause fun _ =>
      .enter (if loop.sent < options.messages then loop.goto .minting else loop.halt .completed)
  | .minting => .ask .mint fun id => .enter (loop.goto (.writing id 1))
  | .writing id attempt =>
    let data := options.message id attempt
    .ask (.broker (.write handle data)) fun
      | .ok receipt =>
        let settled := (loop.tally attempt).settle name options id attempt receipt
        ⟨announce data ++ settled.pending, settled.now⟩
      | .error fault => .enter (loop.raise fault)
  | .afterRefusal id attempt =>
    .ask .stopRequested fun stop =>
      .enter (if stop then loop.halt .stopRequested else loop.goto (.writing id (attempt + 1)))
  | .afterAcceptance =>
    .ask .stopRequested fun stop =>
      .enter
        (if stop then loop.halt .stopRequested
        else { loop with sent := loop.sent + 1, point := .head })
  | .halted outcome => .finish outcome

end Blocking
end Producer
end BrokerLoad
