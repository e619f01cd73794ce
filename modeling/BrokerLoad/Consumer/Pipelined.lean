import BrokerLoad.Consumer.Intake
import BrokerLoad.Worker.Ending

/-!
# Pipelined consumers

A pipelined consumer asks for a delivery, polls until it is there, and takes it in.
Between two deliveries it looks at the stop request; while it polls it looks at it
each time that it has waited for a while, and then abandons the delivery it has
asked for.  A delivery that resolves to nothing is an error.
-/

namespace BrokerLoad
namespace Consumer
namespace Pipelined

/-- Where the loop is. -/
inductive Point where
  /-- About to look at the stop request. -/
  | head
  /-- About to ask for a delivery. -/
  | asking
  /-- The client did not take that on; about to ask why. -/
  | refused
  /-- Polling for the delivery. -/
  | awaiting (ticket : Ticket)
  /-- The wait has taken a while; about to look at the stop request. -/
  | impatient (ticket : Ticket)
  /-- The delivery is there; about to take it. -/
  | collecting (ticket : Ticket)
  /-- Taking it in. -/
  | handling (intake : Intake)
  /-- Over. -/
  | halted (outcome : Outcome)

/-- The loop: where it is, and its counts.  While a delivery is taken in, the intake
keeps the counts. -/
structure Loop where
  /-- Where it is. -/
  point : Point := .head
  counts : Counts := {}

namespace Loop

/-- The same loop somewhere else. -/
def goto (loop : Loop) (point : Point) : Loop := { loop with point := point }

/-- The loop at its end. -/
def halt (loop : Loop) (ending : Ending) : Loop := loop.goto (.halted (.ok ending))

/-- The loop ended by a fault. -/
def raise (loop : Loop) (fault : Fault) : Loop := loop.goto (.halted (.error fault))

/-- One more wait in vain. -/
def countTimeout (loop : Loop) : Loop := { loop with counts := loop.counts.addTimeout }

/-- Where the loop goes on when an intake has finished. -/
def resume (counts : Counts) : Except Fault Bool → Loop
  | .ok true => { counts := counts.addReceived }
  | .ok false => halt { counts := counts } .unexpectedError
  | .error fault => raise { counts := counts } fault

end Loop

/-- A loop that is taking in a delivery. -/
def takingIn (intake : Intake) : Loop := { point := .handling intake, counts := intake.counts }

/-- What the loop asks next. -/
def request (name : String) (handle : Handle) (loop : Loop) : Request Ending (Paced Loop) :=
  match loop.point with
  | .head =>
    .ask .stopRequested fun stop =>
      .enter (if stop then loop.halt .stopRequested else loop.goto .asking)
  | .asking =>
    .ask (.broker (.request handle)) fun
      | .ok (some ticket) => .enter (loop.goto (.awaiting ticket))
      | .ok none => .enter (loop.goto .refused)
      | .error fault => .enter (loop.raise fault)
  | .refused =>
    .ask (.broker (.lastError handle)) fun reason =>
      ⟨[.say (.err (name ++ ": consumer returned no pending read: " ++ reason)),
          .bump .receiveErrors 1],
        loop.halt .unexpectedError⟩
  | .awaiting ticket =>
    .ask (.broker (.deliveryReady ticket)) fun ready =>
      .enter
        (if ready then loop.goto (.collecting ticket)
        else loop.countTimeout.goto (.impatient ticket))
  | .impatient ticket =>
    .ask .stopRequested fun stop =>
      .enter (if stop then loop.halt .stopRequested else loop.goto (.awaiting ticket))
  | .collecting ticket =>
    .ask (.broker (.takeDelivery ticket)) fun
      | .ok (some delivery) =>
        ⟨[.sample .read], takingIn { delivery := delivery, counts := loop.counts }⟩
      | .ok none =>
        ⟨[.say (.err (name ++ ": read resolved without a delivery")), .bump .receiveErrors 1],
          loop.halt .unexpectedError⟩
      | .error fault => .enter (loop.raise fault)
  | .handling intake =>
    (intake.request name).within takingIn fun result =>
      .enter (Loop.resume intake.counts result)
  | .halted outcome => .finish outcome

end Pipelined
end Consumer
end BrokerLoad
