import BrokerLoad.Client.Call
import BrokerLoad.Ledger
import BrokerLoad.Log

/-!
# Engines as questions and continuations

The engines of a run --- producers and consumers --- are small-step machines.  A
state of one is turned into a `Request`: either the engine has finished, or it asks
a `Query` of the world around it and says, for every possible reply, in which state
it goes on.  Everything that another thread could see or influence is a query: a
broker call, a look at the stop request, an id taken from the mint, an id noted in
the set of seen ids, and the bump of a single counter.  A query is one atomic step,
so an interleaving of engines is an interleaving of their queries.

Two things about this form matter.

* The engine says nothing about the world.  A deterministic broker is one way to
  answer, an adversary another; both run the same machine.
* Where several counters are bumped in a row, each bump is a step of its own.  To
  write such rows down without inventing a state for each of their members, a
  continuation is a `Paced` state: a list of emissions still to be made, and the
  state to go on with when they are.
-/

namespace BrokerLoad

/-- A message to the world that waits for no answer. -/
inductive Emission where
  /-- Write a line. -/
  | say (line : LogLine)
  /-- Add to a shared counter. -/
  | bump (counter : Counter) (amount : UInt64)
  /-- Add a latency sample, of whatever time has passed. -/
  | sample (channel : Channel)
  deriving DecidableEq

/-- What an engine asks of the world. -/
inductive Query where
  /-- Nothing: a step that only the engine itself can see. -/
  | pause
  /-- To make an emission. -/
  | emit (emission : Emission)
  /-- An id of its own. -/
  | mint
  /-- To note an id as seen; the reply tells whether it was new. -/
  | note (id : UInt64)
  | stopRequested
  | broker (call : Call)
  deriving DecidableEq

/-- What the reply to each query looks like. -/
@[reducible] def Query.Reply : Query → Type
  | .pause => Unit
  | .emit _ => Unit
  | .mint => UInt64
  | .note _ => Bool
  | .stopRequested => Bool
  | .broker call => call.Reply

/-- What an engine does next: it has finished with a result, or it asks and goes on. -/
inductive Request (α κ : Type) where
  | finish (result : Except Fault α)
  | ask (query : Query) (next : query.Reply → κ)

namespace Request

variable {α β κ μ : Type}

/-- Renames the states to go on with. -/
def map (f : κ → μ) : Request α κ → Request α μ
  | .finish result => .finish result
  | .ask query next => .ask query fun reply => f (next reply)

@[simp] theorem map_finish (f : κ → μ) (result : Except Fault α) :
    (finish result : Request α κ).map f = .finish result := rfl

@[simp] theorem map_ask (f : κ → μ) (query : Query) (next : query.Reply → κ) :
    (ask query next : Request α κ).map f = .ask query fun reply => f (next reply) := rfl

end Request

/-- A state together with the emissions to be made before it is entered. -/
structure Paced (σ : Type) where
  /-- The emissions still to be made, first one first. -/
  pending : List Emission
  /-- The state to go on with. -/
  now : σ
  deriving DecidableEq

namespace Paced

variable {α β σ τ : Type}

/-- A state to be entered at once. -/
def enter (now : σ) : Paced σ := ⟨[], now⟩

/-- Renames the state. -/
def map (f : σ → τ) (paced : Paced σ) : Paced τ := ⟨paced.pending, f paced.now⟩

/-- Makes the pending emissions one by one, then does what the state does. -/
def request (body : σ → Request α (Paced σ)) (paced : Paced σ) : Request α (Paced σ) :=
  match paced.pending with
  | [] => body paced.now
  | emission :: rest => .ask (.emit emission) fun _ => ⟨rest, paced.now⟩

@[simp] theorem request_nil (body : σ → Request α (Paced σ)) (now : σ) :
    request body ⟨[], now⟩ = body now := rfl

@[simp] theorem request_cons (body : σ → Request α (Paced σ)) (emission : Emission)
    (rest : List Emission) (now : σ) :
    request body ⟨emission :: rest, now⟩ = .ask (.emit emission) fun _ => ⟨rest, now⟩ := rfl

end Paced

/-- Runs a machine as a part of a larger one: its states are states of the larger one
by `lift`, and where it finishes the larger one goes on by `after`. -/
def Request.within {α β σ τ : Type} (lift : σ → τ) (after : Except Fault α → Paced τ) :
    Request α (Paced σ) → Request β (Paced τ)
  | .finish result => .ask .pause fun _ => after result
  | .ask query next => .ask query fun reply => (next reply).map lift

end BrokerLoad
