import BrokerLoad.Proofs.Consumer.Moves
import BrokerLoad.Proofs.Consumer.Phases

/-!
# The steps of the loops

Where a loop stands is read off its point, and off its intake while there is one: the intake has
the counts then, and the loop gets them back when the intake is over.  Every move of a loop is a
step as they are listed for consumers of either kind.
-/

namespace BrokerLoad
namespace Consumer

/-! ## Intakes -/

/-- How far an intake has come. -/
def Intake.phase (intake : Intake) : Phase :=
  match intake.stage with
  | .arrived => .arrived intake.delivery
  | .noting id => .noting id intake.delivery
  | .acking _ => .acking intake.delivery
  | .over result => .ofResult result

/-- Where a consumer stands that takes in a delivery. -/
def Intake.standing (state : Paced Intake) : Standing :=
  ⟨state.pending, state.now.phase, state.now.counts⟩

theorem Intake.Move.step {intake : Intake} {exchange : Exchange} {next : Paced Intake}
    (move : Intake.Move intake exchange next) :
    ∃ events, Step ⟨[], intake.phase, intake.counts⟩ exchange events (standing next) := by
  cases move with
  | decode envelope here decodes =>
    have hid : intake.delivery.payload.id? = some envelope.id := by
      rw [Bytes.id?, decodes, Option.map_some]
    rw [phase, here]
    exact ⟨_, .decode intake.delivery envelope.id intake.counts hid⟩
  | garble line here garbled =>
    have hid : intake.delivery.payload.id? = none := by
      rw [Bytes.id?, garbled, Option.map_none]
    rw [phase, here]
    exact ⟨_, .garble intake.delivery line intake.counts hid⟩
  | note id here =>
    rw [phase, here]
    exact ⟨_, .note intake.delivery id intake.counts⟩
  | «repeat» id here =>
    rw [phase, here]
    exact ⟨_, .repeat intake.delivery id intake.counts⟩
  | ack id here =>
    rw [phase, here]
    exact ⟨_, .ack intake.delivery intake.counts⟩
  | reject id line here =>
    rw [phase, here]
    exact ⟨_, .reject intake.delivery line intake.counts⟩
  | crash id fault here =>
    rw [phase, here]
    cases fault with
    | error what => exact ⟨_, .crash intake.delivery what intake.counts⟩
    | foreign => exact ⟨_, .abort intake.delivery intake.counts⟩

/-- An intake that is over is left behind, wherever a consumer then stands. -/
theorem Intake.step_resume {intake : Intake} {result : Except Fault Bool}
    (resumed : Except Fault Bool → Standing) (ended : intake.stage = .over result)
    (goesOn : resumed (.ok true) = ⟨[], .between, intake.counts.addReceived⟩)
    (ends : resumed (.ok false) = ⟨[], .done, intake.counts⟩)
    (fails : ∀ fault, resumed (.error fault) = ⟨[], .ofOutcome (.error fault), intake.counts⟩) :
    ∃ events, Step ⟨[], intake.phase, intake.counts⟩ ⟨.pause, ()⟩ events (resumed result) := by
  rw [phase, ended]
  obtain fault | (_ | _) := result
  · rw [fails]
    exact Step.of_error fault
  · rw [ends]
    exact ⟨_, .stop _ [] _ _ rfl rfl (.inr (.inl rfl)) fun _ => rfl⟩
  · rw [goesOn]
    exact ⟨_, .resume _⟩

/-! ## Pipelined consumers -/

namespace Pipelined

/-- How far the loop has come. -/
def Loop.phase (loop : Loop) : Phase :=
  match loop.point with
  | .refused => .failing
  | .handling intake => intake.phase
  | .halted outcome => .ofOutcome outcome
  | _ => .between

/-- What has been counted, by the intake if there is one. -/
def Loop.tally (loop : Loop) : Counts :=
  match loop.point with
  | .handling intake => intake.counts
  | _ => loop.counts

/-- Where the loop stands. -/
def standing (state : Paced Loop) : Standing := ⟨state.pending, state.now.phase, state.now.tally⟩

theorem Move.step {handle : Handle} {before after : Paced Loop} {exchange : Exchange}
    (move : Move handle before exchange after) :
    ∃ events, Step (standing before) exchange events (standing after) := by
  cases move with
  | emit emission rest loop => exact ⟨_, .emit emission rest _ _⟩
  | goOn loop here =>
    simp only [standing, Loop.phase, Loop.tally, here]
    exact ⟨_, .wait _ _ _ rfl rfl (.inl rfl)⟩
  | ask loop ticket here | ready loop ticket here | persist loop ticket here =>
    simp only [standing, Loop.phase, Loop.tally, here]
    exact ⟨_, .wait _ _ _ rfl rfl (.inl rfl)⟩
  | linger loop ticket here =>
    simp only [standing, Loop.phase, Loop.tally, here]
    exact ⟨_, .wait _ _ _ rfl rfl (.inr rfl)⟩
  | leave loop here =>
    simp only [standing, Loop.phase, Loop.tally, here]
    exact ⟨_, .stop _ [] _ _ rfl rfl (.inl rfl) fun _ => rfl⟩
  | abandon loop ticket here =>
    simp only [standing, Loop.phase, Loop.tally, here]
    exact ⟨_, .stop _ [] _ _ rfl rfl (.inl rfl) fun _ => rfl⟩
  | refuse loop here =>
    simp only [standing, Loop.phase, Loop.tally, here]
    exact ⟨_, .fail _ _ rfl rfl⟩
  | explain loop reason line here =>
    simp only [standing, Loop.phase, Loop.tally, here]
    exact ⟨_, .report _ line _ rfl rfl⟩
  | miss loop ticket line here =>
    simp only [standing, Loop.phase, Loop.tally, here]
    exact ⟨_, .miss _ line _ rfl rfl⟩
  | crash loop fault here =>
    simp only [standing, Loop.phase, Loop.tally, here]
    exact Step.of_fault fault rfl rfl
  | spoil loop ticket fault here =>
    simp only [standing, Loop.phase, Loop.tally, here]
    exact Step.of_fault fault rfl rfl
  | take loop ticket delivery here =>
    simp only [standing, Loop.phase, Loop.tally, here]
    exact ⟨_, .take _ delivery _ rfl rfl⟩
  | handle loop intake exchange next here move =>
    simp only [standing, Loop.phase, Loop.tally, here]
    exact move.step
  | resume loop intake result here ended =>
    simp only [standing, Loop.phase, Loop.tally, here]
    exact Intake.step_resume (fun result => standing ⟨[], .resume intake.counts result⟩) ended rfl
      rfl fun _ => rfl

end Pipelined

/-! ## Blocking consumers -/

namespace Blocking

/-- How far the loop has come. -/
def Loop.phase (loop : Loop) : Phase :=
  match loop.point with
  | .handling intake => intake.phase
  | .halted outcome => .ofOutcome outcome
  | _ => .between

/-- What has been counted, by the intake if there is one. -/
def Loop.tally (loop : Loop) : Counts :=
  match loop.point with
  | .handling intake => intake.counts
  | _ => loop.counts

/-- Where the loop stands. -/
def standing (state : Paced Loop) : Standing := ⟨state.pending, state.now.phase, state.now.tally⟩

theorem Move.step {handle : Handle} {before after : Paced Loop} {exchange : Exchange}
    (move : Move handle before exchange after) :
    ∃ events, Step (standing before) exchange events (standing after) := by
  cases move with
  | emit emission rest loop => exact ⟨_, .emit emission rest _ _⟩
  | goOn loop here =>
    simp only [standing, Loop.phase, Loop.tally, here]
    exact ⟨_, .wait _ _ _ rfl rfl (.inl rfl)⟩
  | miss loop here =>
    simp only [standing, Loop.phase, Loop.tally, here]
    exact ⟨_, .wait _ _ _ rfl rfl (.inr rfl)⟩
  | leave loop here =>
    simp only [standing, Loop.phase, Loop.tally, here]
    exact ⟨_, .stop _ [] _ _ rfl rfl (.inl rfl) fun _ => rfl⟩
  | spoil loop fault here =>
    simp only [standing, Loop.phase, Loop.tally, here]
    exact Step.of_fault fault rfl rfl
  | take loop delivery here =>
    simp only [standing, Loop.phase, Loop.tally, here]
    exact ⟨_, .take _ delivery _ rfl rfl⟩
  | handle loop intake exchange next here move =>
    simp only [standing, Loop.phase, Loop.tally, here]
    exact move.step
  | resume loop intake result here ended =>
    simp only [standing, Loop.phase, Loop.tally, here]
    exact Intake.step_resume (fun result => standing ⟨[], .resume intake.counts result⟩) ended rfl
      rfl fun _ => rfl

end Blocking
end Consumer
end BrokerLoad
