import BrokerLoad.Proofs.Broker.Acts
import BrokerLoad.Proofs.Broker.Redelivery

/-!
# The stories of queues

The story of a queue says what was put into it, what it handed over, and what became of the
deliveries that were settled.  It is told from the creation of the queue on (`Hub.storyOf`), and
what is true of every queue when it is created, and stays true whatever is done to it, is true of
every queue of every hub at any moment (`Hub.told_afterAll`).
-/

namespace BrokerLoad
namespace Queue

variable {δ : Type}

/-! ## What a story tells -/

namespace Event

/-- What was put in, if anything was. -/
def put? : Event δ → Option δ
  | .put data => some data
  | _ => none

/-- What was handed over, if anything was. -/
def handed? : Event δ → Option (Handover δ)
  | .handed handover => some handover
  | _ => none

/-- What was acknowledged, if anything was. -/
def acked? : Event δ → Option δ
  | .acked _ data _ => some data
  | _ => none

/-- What was given up, if anything was. -/
def deadLettered? : Event δ → Option δ
  | .nacked _ data .deadLettered => some data
  | _ => none

/-- The delivery that was settled, if one was. -/
def settled? : Event δ → Option (Handover δ)
  | .acked token data _ => some ⟨token, data⟩
  | .nacked token data _ => some ⟨token, data⟩
  | _ => none

end Event

/-- What was put in, in order. -/
def puts (story : List (Event δ)) : List δ := story.filterMap Event.put?

/-- What was handed over, in order. -/
def handovers (story : List (Event δ)) : List (Handover δ) := story.filterMap Event.handed?

/-- What was acknowledged, in order. -/
def acked (story : List (Event δ)) : List δ := story.filterMap Event.acked?

/-- What was given up, in order. -/
def deadLettered (story : List (Event δ)) : List δ := story.filterMap Event.deadLettered?

/-- The deliveries that were settled, in order. -/
def settled (story : List (Event δ)) : List (Handover δ) := story.filterMap Event.settled?

section Append

variable (story more : List (Event δ))

@[simp] theorem puts_append : puts (story ++ more) = puts story ++ puts more :=
  List.filterMap_append

@[simp] theorem handovers_append :
    handovers (story ++ more) = handovers story ++ handovers more :=
  List.filterMap_append

@[simp] theorem acked_append : acked (story ++ more) = acked story ++ acked more :=
  List.filterMap_append

@[simp] theorem deadLettered_append :
    deadLettered (story ++ more) = deadLettered story ++ deadLettered more :=
  List.filterMap_append

@[simp] theorem settled_append : settled (story ++ more) = settled story ++ settled more :=
  List.filterMap_append

end Append

end Queue

namespace Hub

open Queue (Act Event)

/-! ## Stories from the beginning on -/

/-- What happens in the queue of a number during several operations. -/
def storyOf (number : Nat) (hub : Hub) : List Operation → List (Event Bytes)
  | [] => []
  | operation :: operations =>
    (match hub.queues[number]? with
      | some queue => queue.story (hub.actsOf number operation)
      | none => []) ++ storyOf number (hub.operate operation) operations

/-- The story of a queue that is there. -/
theorem storyOf_eq {hub : Hub} {number : Nat} {queue : Queue Bytes}
    (found : hub.queues[number]? = some queue) (operations : List Operation) :
    storyOf number hub operations = queue.story (hub.actsOn number operations) := by
  induction operations generalizing hub queue with
  | nil => rfl
  | cons operation rest ih =>
    rw [storyOf, found, actsOn, Queue.story_append, ih (queues_operate found operation)]

/-- A queue that is not there has no story. -/
theorem storyOf_eq_nil {hub : Hub} {number : Nat} {operations : List Operation}
    (nothing : (hub.afterAll operations).queues[number]? = none) :
    storyOf number hub operations = [] := by
  induction operations generalizing hub with
  | nil => rfl
  | cons operation rest ih =>
    have hnone : hub.queues[number]? = none := by
      cases hfound : hub.queues[number]? with
      | none => rfl
      | some queue =>
        have hlast := queues_afterAll hfound (operation :: rest)
        exact absurd (hlast.symm.trans nothing) nofun
    rw [storyOf, hnone, List.nil_append]
    exact ih nothing

theorem storyOf_append (number : Nat) (hub : Hub) (operations more : List Operation) :
    storyOf number hub (operations ++ more) =
      storyOf number hub operations ++ storyOf number (hub.afterAll operations) more := by
  induction operations generalizing hub with
  | nil => rfl
  | cons operation rest ih =>
    rw [List.cons_append, storyOf, ih, storyOf, List.append_assoc]
    rfl

/-- What is true of a queue when it is created, and stays true whatever is done to it, is true of
every queue. -/
theorem told_afterAll {redeliverEvery : UInt32} {P : Queue Bytes → List (Event Bytes) → Prop}
    (creates : ∀ maxDeliveries, P (.create maxDeliveries redeliverEvery) [])
    (keeps : ∀ {queue : Queue Bytes} {story : List (Event Bytes)} (act : Act Bytes),
      P queue story → P (queue.perform act) (story ++ queue.events act))
    (throttleEvery : UInt32) (operations : List Operation) {number : Nat} {queue : Queue Bytes}
    (found : (afterAll { throttleEvery, redeliverEvery } operations).queues[number]? = some queue) :
    P queue (storyOf number { throttleEvery, redeliverEvery } operations) := by
  -- A queue that is not there yet has no story, and begins with an empty one.
  suffices htold : ∀ (operations : List Operation) {hub : Hub},
      hub.redeliverEvery = redeliverEvery → hub.queues[number]? = none → ∀ {queue : Queue Bytes},
        (hub.afterAll operations).queues[number]? = some queue →
          P queue (storyOf number hub operations) from htold operations rfl rfl found
  intro operations
  induction operations with
  | nil =>
    intro hub _ hnone queue hfound
    exact absurd (hnone.symm.trans hfound) nofun
  | cons operation rest ih =>
    intro hub hevery hnone queue hfound
    rw [storyOf, hnone, List.nil_append]
    cases hnext : (hub.operate operation).queues[number]? with
    | none => exact ih ((redeliverEvery_operate hub operation).trans hevery) hnext hfound
    | some created =>
      obtain ⟨maxDeliveries, rfl⟩ : ∃ maxDeliveries,
          created = .create maxDeliveries redeliverEvery := by
        rw [← hevery]
        cases operation with
        | serve call => exact created_of_serve hnone call hnext
        | disown => exact created_of_serve hnone .shutDown hnext
      have hlast := queues_afterAll hnext rest
      rw [storyOf_eq hnext, ← Option.some.inj (hlast.symm.trans hfound)]
      exact Queue.performAll_induction [] (creates maxDeliveries) _ fun {_ _ act} _ => keeps act

end Hub
end BrokerLoad
