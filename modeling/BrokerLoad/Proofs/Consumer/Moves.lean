import BrokerLoad.Consumer.Blocking
import BrokerLoad.Consumer.Pipelined
import BrokerLoad.Proofs.Run

/-!
# The moves of consumers

As for producers, the loops of both kinds of consumers are told here as the list of the
moves that they can make.  A consumer that takes in a delivery makes the moves of its
intake, and one more when the intake has finished; so the moves of an intake are listed
once, and each of the two loops has the constructors `handle` and `resume` for them.
-/

namespace BrokerLoad
namespace Consumer

/-! ## Intakes -/

/-- The moves of an intake: the intake before, what it asks and is told, and the intake
after. -/
inductive Intake.Move : Intake → Exchange → Paced Intake → Prop
  /-- The delivery is an envelope. -/
  | decode (intake : Intake) (envelope : Envelope) (here : intake.stage = .arrived)
      (decodes : Envelope.decode intake.delivery.payload = some envelope) :
    Intake.Move intake ⟨.pause, ()⟩ ⟨[], { intake with stage := .noting envelope.id }⟩
  /-- It is none. -/
  | garble (intake : Intake) (line : LogLine) (here : intake.stage = .arrived)
      (garbled : Envelope.decode intake.delivery.payload = none) :
    Intake.Move intake ⟨.pause, ()⟩
      ⟨[.say line, .bump .receiveErrors 1], { intake with stage := .over (.ok false) }⟩
  /-- The id is noted, and it is new. -/
  | note (intake : Intake) (id : UInt64) (here : intake.stage = .noting id) :
    Intake.Move intake ⟨.note id, true⟩ ⟨[], { intake with stage := .acking id }⟩
  /-- The id is noted, and it was seen before. -/
  | repeat (intake : Intake) (id : UInt64) (here : intake.stage = .noting id) :
    Intake.Move intake ⟨.note id, false⟩
      ⟨[.bump .duplicates 1],
        { intake with counts := intake.counts.addDuplicate, stage := .acking id }⟩
  /-- The delivery is acknowledged. -/
  | ack (intake : Intake) (id : UInt64) (here : intake.stage = .acking id) :
    Intake.Move intake ⟨.broker (.ack intake.delivery), .ok true⟩
      ⟨[.bump .messagesIn 1, .bump .bytesIn intake.delivery.payload.length.toUInt64],
        { intake with counts := intake.counts.addAck, stage := .over (.ok true) }⟩
  /-- The broker does not take the acknowledgement. -/
  | reject (intake : Intake) (id : UInt64) (line : LogLine) (here : intake.stage = .acking id) :
    Intake.Move intake ⟨.broker (.ack intake.delivery), .ok false⟩
      ⟨[.say line, .bump .receiveErrors 1], { intake with stage := .over (.ok false) }⟩
  /-- Acknowledging it ends in a fault. -/
  | crash (intake : Intake) (id : UInt64) (fault : Fault) (here : intake.stage = .acking id) :
    Intake.Move intake ⟨.broker (.ack intake.delivery), .error fault⟩
      ⟨[], { intake with stage := .over (.error fault) }⟩

/-- A request of an intake is answered by a move, whatever the reply. -/
theorem Intake.Move.of_request {name : String} {intake : Intake} {query : Query}
    {next : query.Reply → Paced Intake} (asks : intake.request name = .ask query next)
    (reply : query.Reply) : Intake.Move intake ⟨query, reply⟩ (next reply) := by
  match here : intake.stage with
  | .arrived =>
    simp only [Intake.request, here] at asks
    cases asks
    cases hdecode : Envelope.decode intake.delivery.payload with
    | some envelope => exact .decode intake envelope here hdecode
    | none => exact .garble intake _ here hdecode
  | .noting id =>
    simp only [Intake.request, here] at asks
    cases asks
    cases reply with
    | true => exact .note intake id here
    | false => exact .repeat intake id here
  | .acking id =>
    simp only [Intake.request, here] at asks
    cases asks
    match reply with
    | .ok true => exact .ack intake id here
    | .ok false => exact .reject intake id _ here
    | .error fault => exact .crash intake id fault here
  | .over result =>
    simp only [Intake.request, here] at asks
    cases asks

/-- An intake finishes only when it is over. -/
theorem Intake.over_of_finish {name : String} {intake : Intake} {result : Except Fault Bool}
    (finishes : intake.request name = .finish result) : intake.stage = .over result := by
  match here : intake.stage with
  | .over result' =>
    simp only [Intake.request, here] at finishes
    rw [Request.finish.inj finishes]
  | .arrived | .noting _ | .acking _ =>
    simp only [Intake.request, here] at finishes
    cases finishes

/-! ## Pipelined consumers -/

namespace Pipelined

/-- The moves of the loop: the loop before, what it asks and is told, and the loop after. -/
inductive Move (handle : Handle) : Paced Loop → Exchange → Paced Loop → Prop
  /-- An emission is made. -/
  | emit (emission : Emission) (rest : List Emission) (loop : Loop) :
    Move handle ⟨emission :: rest, loop⟩ ⟨.emit emission, ()⟩ ⟨rest, loop⟩
  /-- There is a stop request. -/
  | leave (loop : Loop) (here : loop.point = .head) :
    Move handle ⟨[], loop⟩ ⟨.stopRequested, true⟩
      ⟨[], { loop with point := .halted (.ok .stopRequested) }⟩
  /-- There is none. -/
  | goOn (loop : Loop) (here : loop.point = .head) :
    Move handle ⟨[], loop⟩ ⟨.stopRequested, false⟩ ⟨[], { loop with point := .asking }⟩
  /-- A delivery is asked for. -/
  | ask (loop : Loop) (ticket : Ticket) (here : loop.point = .asking) :
    Move handle ⟨[], loop⟩ ⟨.broker (.request handle), .ok (some ticket)⟩
      ⟨[], { loop with point := .awaiting ticket }⟩
  /-- The client does not take that on. -/
  | refuse (loop : Loop) (here : loop.point = .asking) :
    Move handle ⟨[], loop⟩ ⟨.broker (.request handle), .ok none⟩
      ⟨[], { loop with point := .refused }⟩
  /-- Asking for it ends in a fault. -/
  | crash (loop : Loop) (fault : Fault) (here : loop.point = .asking) :
    Move handle ⟨[], loop⟩ ⟨.broker (.request handle), .error fault⟩
      ⟨[], { loop with point := .halted (.error fault) }⟩
  /-- It is reported why the client did not take it on. -/
  | explain (loop : Loop) (reason : String) (line : LogLine) (here : loop.point = .refused) :
    Move handle ⟨[], loop⟩ ⟨.broker (.lastError handle), reason⟩
      ⟨[.say line, .bump .receiveErrors 1],
        { loop with point := .halted (.ok .unexpectedError) }⟩
  /-- The delivery is there. -/
  | ready (loop : Loop) (ticket : Ticket) (here : loop.point = .awaiting ticket) :
    Move handle ⟨[], loop⟩ ⟨.broker (.deliveryReady ticket), true⟩
      ⟨[], { loop with point := .collecting ticket }⟩
  /-- It is not there yet. -/
  | linger (loop : Loop) (ticket : Ticket) (here : loop.point = .awaiting ticket) :
    Move handle ⟨[], loop⟩ ⟨.broker (.deliveryReady ticket), false⟩
      ⟨[], { loop with counts := loop.counts.addTimeout, point := .impatient ticket }⟩
  /-- There is a stop request: the delivery is given up. -/
  | abandon (loop : Loop) (ticket : Ticket) (here : loop.point = .impatient ticket) :
    Move handle ⟨[], loop⟩ ⟨.stopRequested, true⟩
      ⟨[], { loop with point := .halted (.ok .stopRequested) }⟩
  /-- There is none: the wait goes on. -/
  | persist (loop : Loop) (ticket : Ticket) (here : loop.point = .impatient ticket) :
    Move handle ⟨[], loop⟩ ⟨.stopRequested, false⟩
      ⟨[], { loop with point := .awaiting ticket }⟩
  /-- The delivery is taken. -/
  | take (loop : Loop) (ticket : Ticket) (delivery : Delivery)
      (here : loop.point = .collecting ticket) :
    Move handle ⟨[], loop⟩ ⟨.broker (.takeDelivery ticket), .ok (some delivery)⟩
      ⟨[.sample .read],
        { loop with point := .handling { delivery := delivery, counts := loop.counts } }⟩
  /-- There is none to take. -/
  | miss (loop : Loop) (ticket : Ticket) (line : LogLine)
      (here : loop.point = .collecting ticket) :
    Move handle ⟨[], loop⟩ ⟨.broker (.takeDelivery ticket), .ok none⟩
      ⟨[.say line, .bump .receiveErrors 1],
        { loop with point := .halted (.ok .unexpectedError) }⟩
  /-- Taking it ends in a fault. -/
  | spoil (loop : Loop) (ticket : Ticket) (fault : Fault)
      (here : loop.point = .collecting ticket) :
    Move handle ⟨[], loop⟩ ⟨.broker (.takeDelivery ticket), .error fault⟩
      ⟨[], { loop with point := .halted (.error fault) }⟩
  /-- The intake of a delivery moves on. -/
  | handle (loop : Loop) (intake : Intake) (exchange : Exchange) (next : Paced Intake)
      (here : loop.point = .handling intake) (move : Intake.Move intake exchange next) :
    Move handle ⟨[], loop⟩ exchange ⟨next.pending, takingIn next.now⟩
  /-- It is over. -/
  | resume (loop : Loop) (intake : Intake) (result : Except Fault Bool)
      (here : loop.point = .handling intake) (ended : intake.stage = .over result) :
    Move handle ⟨[], loop⟩ ⟨.pause, ()⟩ ⟨[], .resume intake.counts result⟩

/-- A request is answered by a move, whatever the reply. -/
theorem Move.of_request {name : String} {handle : Handle} {state : Paced Loop} {query : Query}
    {next : query.Reply → Paced Loop} (asks : state.request (request name handle) = .ask query next)
    (reply : query.Reply) : Move handle state ⟨query, reply⟩ (next reply) := by
  obtain ⟨pending, loop⟩ := state
  cases pending with
  | cons emission rest =>
    cases asks
    exact .emit emission rest loop
  | nil =>
    rw [Paced.request_nil] at asks
    cases here : loop.point with
    | head =>
      simp only [request, here] at asks
      cases asks
      cases reply with
      | true => exact .leave loop here
      | false => exact .goOn loop here
    | asking =>
      simp only [request, here] at asks
      cases asks
      match reply with
      | .ok (some ticket) => exact .ask loop ticket here
      | .ok none => exact .refuse loop here
      | .error fault => exact .crash loop fault here
    | refused =>
      simp only [request, here] at asks
      cases asks
      exact .explain loop reply _ here
    | awaiting ticket =>
      simp only [request, here] at asks
      cases asks
      cases reply with
      | true => exact .ready loop ticket here
      | false => exact .linger loop ticket here
    | impatient ticket =>
      simp only [request, here] at asks
      cases asks
      cases reply with
      | true => exact .abandon loop ticket here
      | false => exact .persist loop ticket here
    | collecting ticket =>
      simp only [request, here] at asks
      cases asks
      match reply with
      | .ok (some delivery) => exact .take loop ticket delivery here
      | .ok none => exact .miss loop ticket _ here
      | .error fault => exact .spoil loop ticket fault here
    | handling intake =>
      simp only [request, here] at asks
      cases hintake : intake.request name with
      | finish result =>
        rw [hintake] at asks
        cases asks
        exact .resume loop intake result here (Intake.over_of_finish hintake)
      | ask query' next' =>
        rw [hintake] at asks
        cases asks
        exact .handle loop intake _ _ here (.of_request hintake reply)
    | halted outcome =>
      simp only [request, here] at asks
      cases asks

/-- The loop finishes only when it is over. -/
theorem point_of_finish {name : String} {handle : Handle} {loop : Loop} {outcome : Outcome}
    (finishes : request name handle loop = .finish outcome) : loop.point = .halted outcome := by
  cases here : loop.point <;> simp_all [request]

end Pipelined

/-! ## Blocking consumers -/

namespace Blocking

/-- The moves of the loop: the loop before, what it asks and is told, and the loop after. -/
inductive Move (handle : Handle) : Paced Loop → Exchange → Paced Loop → Prop
  /-- An emission is made. -/
  | emit (emission : Emission) (rest : List Emission) (loop : Loop) :
    Move handle ⟨emission :: rest, loop⟩ ⟨.emit emission, ()⟩ ⟨rest, loop⟩
  /-- There is a stop request. -/
  | leave (loop : Loop) (here : loop.point = .head) :
    Move handle ⟨[], loop⟩ ⟨.stopRequested, true⟩
      ⟨[], { loop with point := .halted (.ok .stopRequested) }⟩
  /-- There is none. -/
  | goOn (loop : Loop) (here : loop.point = .head) :
    Move handle ⟨[], loop⟩ ⟨.stopRequested, false⟩ ⟨[], { loop with point := .reading }⟩
  /-- A delivery is read. -/
  | take (loop : Loop) (delivery : Delivery) (here : loop.point = .reading) :
    Move handle ⟨[], loop⟩ ⟨.broker (.read handle), .ok (some delivery)⟩
      ⟨[.sample .read],
        { loop with point := .handling { delivery := delivery, counts := loop.counts } }⟩
  /-- There is none to read. -/
  | miss (loop : Loop) (here : loop.point = .reading) :
    Move handle ⟨[], loop⟩ ⟨.broker (.read handle), .ok none⟩
      ⟨[], { loop with counts := loop.counts.addTimeout, point := .head }⟩
  /-- Reading ends in a fault. -/
  | spoil (loop : Loop) (fault : Fault) (here : loop.point = .reading) :
    Move handle ⟨[], loop⟩ ⟨.broker (.read handle), .error fault⟩
      ⟨[], { loop with point := .halted (.error fault) }⟩
  /-- The intake of a delivery moves on. -/
  | handle (loop : Loop) (intake : Intake) (exchange : Exchange) (next : Paced Intake)
      (here : loop.point = .handling intake) (move : Intake.Move intake exchange next) :
    Move handle ⟨[], loop⟩ exchange ⟨next.pending, takingIn next.now⟩
  /-- It is over. -/
  | resume (loop : Loop) (intake : Intake) (result : Except Fault Bool)
      (here : loop.point = .handling intake) (ended : intake.stage = .over result) :
    Move handle ⟨[], loop⟩ ⟨.pause, ()⟩ ⟨[], .resume intake.counts result⟩

/-- A request is answered by a move, whatever the reply. -/
theorem Move.of_request {name : String} {handle : Handle} {state : Paced Loop} {query : Query}
    {next : query.Reply → Paced Loop} (asks : state.request (request name handle) = .ask query next)
    (reply : query.Reply) : Move handle state ⟨query, reply⟩ (next reply) := by
  obtain ⟨pending, loop⟩ := state
  cases pending with
  | cons emission rest =>
    cases asks
    exact .emit emission rest loop
  | nil =>
    rw [Paced.request_nil] at asks
    cases here : loop.point with
    | head =>
      simp only [request, here] at asks
      cases asks
      cases reply with
      | true => exact .leave loop here
      | false => exact .goOn loop here
    | reading =>
      simp only [request, here] at asks
      cases asks
      match reply with
      | .ok (some delivery) => exact .take loop delivery here
      | .ok none => exact .miss loop here
      | .error fault => exact .spoil loop fault here
    | handling intake =>
      simp only [request, here] at asks
      cases hintake : intake.request name with
      | finish result =>
        rw [hintake] at asks
        cases asks
        exact .resume loop intake result here (Intake.over_of_finish hintake)
      | ask query' next' =>
        rw [hintake] at asks
        cases asks
        exact .handle loop intake _ _ here (.of_request hintake reply)
    | halted outcome =>
      simp only [request, here] at asks
      cases asks

/-- The loop finishes only when it is over. -/
theorem point_of_finish {name : String} {handle : Handle} {loop : Loop} {outcome : Outcome}
    (finishes : request name handle loop = .finish outcome) : loop.point = .halted outcome := by
  cases here : loop.point <;> simp_all [request]

end Blocking
end Consumer
end BrokerLoad
