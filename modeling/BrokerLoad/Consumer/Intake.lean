import BrokerLoad.Engine.Query
import BrokerLoad.Envelope

/-!
# Taking in a delivery

What a consumer does with a delivery, whichever way it came by it.  The payload must
be an envelope.  Its id is noted in the shared set before anything else, so that of
all the deliveries of one id exactly one is the first, whoever takes them in; a
repeat is counted and otherwise treated alike.  Then the delivery is acknowledged,
and only an acknowledged delivery counts as received.

`Intake` is a machine of its own, so that several of them may be interleaved.  It
finishes with `true` when all went well, and with `false` when the delivery was no
envelope or the broker did not take the acknowledgement.
-/

namespace BrokerLoad
namespace Consumer

/-- What a consumer counts for itself. -/
structure Counts where
  /-- Deliveries dealt with from beginning to end. -/
  received : UInt64 := 0
  /-- Deliveries of an id seen before. -/
  duplicates : UInt64 := 0
  /-- Deliveries acknowledged. -/
  acked : UInt64 := 0
  /-- Times that it waited for a delivery and found none. -/
  readTimeouts : UInt64 := 0
  deriving DecidableEq

namespace Counts

/-- One more delivery dealt with from beginning to end. -/
def addReceived (counts : Counts) : Counts := { counts with received := counts.received + 1 }

/-- One more repeat. -/
def addDuplicate (counts : Counts) : Counts := { counts with duplicates := counts.duplicates + 1 }

/-- One more acknowledgement. -/
def addAck (counts : Counts) : Counts := { counts with acked := counts.acked + 1 }

/-- One more wait in vain. -/
def addTimeout (counts : Counts) : Counts :=
  { counts with readTimeouts := counts.readTimeouts + 1 }

end Counts

namespace Intake

/-- How far a delivery has come. -/
inductive Stage where
  | arrived
  /-- An envelope; about to note its id. -/
  | noting (id : UInt64)
  /-- Noted; about to acknowledge it. -/
  | acking (id : UInt64)
  /-- Dealt with. -/
  | over (result : Except Fault Bool)

end Intake

/-- A delivery being taken in, and the counts of the consumer that does it. -/
structure Intake where
  /-- How far it has come. -/
  stage : Intake.Stage := .arrived
  delivery : Delivery
  counts : Counts

namespace Intake

/-- The same intake further on. -/
def goto (intake : Intake) (stage : Stage) : Intake := { intake with stage := stage }

/-- One more repeat. -/
def countDuplicate (intake : Intake) : Intake :=
  { intake with counts := intake.counts.addDuplicate }

/-- One more acknowledgement. -/
def countAck (intake : Intake) : Intake := { intake with counts := intake.counts.addAck }

/-- What an intake asks next. -/
def request (name : String) (intake : Intake) : Request Bool (Paced Intake) :=
  match intake.stage with
  | .arrived =>
    .ask .pause fun _ =>
      match Envelope.decode intake.delivery.payload with
      | some envelope => .enter (intake.goto (.noting envelope.id))
      | none =>
        ⟨[.say (.err (name ++ ": undecodable delivery of " ++
            toString intake.delivery.payload.length ++ " bytes")),
            .bump .receiveErrors 1],
          intake.goto (.over (.ok false))⟩
  | .noting id =>
    .ask (.note id) fun fresh =>
      if fresh then .enter (intake.goto (.acking id))
      else ⟨[.bump .duplicates 1], intake.countDuplicate.goto (.acking id)⟩
  | .acking id =>
    .ask (.broker (.ack intake.delivery)) fun
      | .ok true =>
        ⟨[.bump .messagesIn 1, .bump .bytesIn intake.delivery.payload.length.toUInt64],
          intake.countAck.goto (.over (.ok true))⟩
      | .ok false =>
        ⟨[.say (.err (name ++ ": failed to ack message " ++ toString id.toNat)),
            .bump .receiveErrors 1],
          intake.goto (.over (.ok false))⟩
      | .error fault => .enter (intake.goto (.over (.error fault)))
  | .over result => .finish result

end Intake

/-- The options of a consumer. -/
structure Options where
  destination : String
  group : String
  /-- How many deliveries the client may keep at hand. -/
  prefetch : UInt64 := defaultPrefetch
  deriving DecidableEq

end Consumer
end BrokerLoad
