import BrokerLoad.Proofs.Run

/-!
# Machines that are left to the world

A run is a list of turns, so that every run is over at some time.  Whether a machine comes to
an end is a question about all that may still follow, and needs all replies at once.  A
`World` has them: it says what is replied to each query in each turn.  A machine knows nothing
but the replies, and so a world leads it one way only.  That a reply may hang on what was
asked before makes no difference: what was asked before is settled by the world too.

Some machines ask for a receipt again and again until it is there, and they need not come to an
end if a receipt never comes.  `Delivers` says that the receipts do come.

A machine comes to its end if each turn brings it nearer to it (`exists_finish`).  How near it
is may be told from the time as well as from its state, so that a machine that waits is
nearer because less is left of the wait.
-/

namespace BrokerLoad

/-- What is replied in each turn to each query. -/
abbrev World : Type := Nat → (query : Query) → query.Reply

namespace World

variable {α σ : Type} (world : World) (body : σ → Request α (Paced σ)) (start : Paced σ)

/-- Where a machine is after so many turns.  Once it has finished it stays where it is. -/
def state : Nat → Paced σ
  | 0 => start
  | n + 1 =>
    match (state n).request body with
    | .finish _ => state n
    | .ask query next => next (world n query)

/-- The turns that it has taken by then. -/
def turns : Nat → List (Turn σ)
  | 0 => []
  | n + 1 =>
    match (world.state body start n).request body with
    | .finish _ => turns n
    | .ask query _ => turns n ++ [⟨world.state body start n, ⟨query, world n query⟩⟩]

/-- Where a world leads a machine it is led to by a run. -/
theorem run (n : Nat) : Run body start (world.turns body start n) (world.state body start n) := by
  induction n with
  | zero => exact .start
  | succ n ih =>
    rw [turns, state]
    split
    next => exact ih
    next query next asks => exact ih.ask asks (world n query)

/-- Whether a machine comes to an end. -/
def Ends : Prop := ∃ n result, (world.state body start n).request body = .finish result

/-- Every receipt that is waited for comes: from some turn on it is there if it is asked for. -/
def Delivers : Prop :=
  ∀ ticket, ∃ since, ∀ n next, since ≤ n →
    (world.state body start n).request body = .ask (.broker (.receiptReady ticket)) next →
      world n (.broker (.receiptReady ticket)) = true

variable {world body start}

/-- A machine goes on with the reply of the world. -/
theorem state_succ {n : Nat} {query : Query} {next : query.Reply → Paced σ}
    (asks : (world.state body start n).request body = .ask query next) :
    world.state body start (n + 1) = next (world n query) := by
  rw [state, asks]

/-- A machine that comes nearer to its end with every turn comes to its end. -/
theorem exists_finish {μ : Type} [WellFoundedRelation μ] (left : Nat → Paced σ → μ)
    (nearer : ∀ {n : Nat} {query : Query} {next : query.Reply → Paced σ},
      (world.state body start n).request body = .ask query next →
        WellFoundedRelation.rel (left (n + 1) (next (world n query)))
          (left n (world.state body start n))) :
    world.Ends body start := by
  suffices hends : ∀ bound n, left n (world.state body start n) = bound →
      world.Ends body start from hends _ 0 rfl
  intro bound
  induction bound using (WellFoundedRelation.wf (α := μ)).induction with
  | h bound ih =>
    rintro n rfl
    cases hrequest : (world.state body start n).request body with
    | finish result => exact ⟨n, result, hrequest⟩
    | ask query next =>
      have hnearer := nearer hrequest
      rw [← state_succ hrequest] at hnearer
      exact ih _ hnearer (n + 1) rfl

end World
end BrokerLoad
