import BrokerLoad.Consumer.Intake
import BrokerLoad.Worker.Ending

/-!
# Blocking consumers

A blocking consumer waits for a delivery for a while and takes it in.  It looks at
the stop request before each wait; a wait in vain is counted and tried again.
-/

namespace BrokerLoad
namespace Consumer
namespace Blocking

/-- Where the loop is. -/
inductive Point where
  /-- About to look at the stop request. -/
  | head
  /-- About to wait for a delivery. -/
  | reading
  /-- Taking it in. -/
  | handling (intake : Intake)
  /-- Over. -/
  | halted (outcome : Outcome)

/-- The loop: where it is, and its counts.  While a delivery is taken in, the intake
keeps the counts. -/
structure Loop where
  /-- Where it is. -/
  point : Point := .head
  counts : Counts := {}

namespace Loop

/-- The same loop somewhere else. -/
def goto (loop : Loop) (point : Point) : Loop := { loop with point := point }

/-- The loop at its end. -/
def halt (loop : Loop) (ending : Ending) : Loop := loop.goto (.halted (.ok ending))

/-- The loop ended by a fault. -/
def raise (loop : Loop) (fault : Fault) : Loop := loop.goto (.halted (.error fault))

/-- One more wait in vain. -/
def countTimeout (loop : Loop) : Loop := { loop with counts := loop.counts.addTimeout }

/-- Where the loop goes on when an intake has finished. -/
def resume (counts : Counts) : Except Fault Bool → Loop
  | .ok true => { counts := counts.addReceived }
  | .ok false => halt { counts := counts } .unexpectedError
  | .error fault => raise { counts := counts } fault

end Loop

/-- A loop that is taking in a delivery. -/
def takingIn (intake : Intake) : Loop := { point := .handling intake, counts := intake.counts }

/-- What the loop asks next. -/
def request (name : String) (handle : Handle) (loop : Loop) : Request Ending (Paced Loop) :=
  match loop.point with
  | .head =>
    .ask .stopRequested fun stop =>
      .enter (if stop then loop.halt .stopRequested else loop.goto .reading)
  | .reading =>
    .ask (.broker (.read handle)) fun
      | .ok (some delivery) =>
        ⟨[.sample .read], takingIn { delivery := delivery, counts := loop.counts }⟩
      | .ok none => .enter (loop.countTimeout.goto .head)
      | .error fault => .enter (loop.raise fault)
  | .handling intake =>
    (intake.request name).within takingIn fun result =>
      .enter (Loop.resume intake.counts result)
  | .halted outcome => .finish outcome

end Blocking
end Consumer
end BrokerLoad
