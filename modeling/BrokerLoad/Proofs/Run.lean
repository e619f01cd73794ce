import BrokerLoad.Engine.Query
import Mathlib.Data.List.Induction

/-!
# Runs of a machine

A machine asks, and the world answers.  A *run* is what comes of that when nothing at
all is known about the world: every query gets some reply of its type, and the machine
goes on with it.  So a statement about all runs is a statement about all brokers, all
scripts and all moments at which a stop may be requested.

A run is recorded as a list of turns, the state before each together with the query
asked and the reply given.  The record is what histories are read from: what an engine
has sent, which receipts it has taken, which ids it was given.  Turns are added at the
end of the list, so that an induction over a run adds one turn to a run that the
statement is already known for.
-/

namespace BrokerLoad

/-- A query and the reply that it got. -/
abbrev Exchange : Type := (query : Query) × query.Reply

/-- One turn of a machine: the state it was in, what it asked and what it was told. -/
structure Turn (σ : Type) where
  state : Paced σ
  /-- What it asked, and what it was told. -/
  exchange : Exchange

/-- The runs of a machine, whatever the replies: the turns taken since the start, and the
state reached. -/
inductive Run {α σ : Type} (body : σ → Request α (Paced σ)) (start : Paced σ) :
    List (Turn σ) → Paced σ → Prop where
  /-- No turn has been taken. -/
  | start : Run body start [] start
  /-- One more turn: the machine asks, and goes on with the reply. -/
  | ask {turns : List (Turn σ)} {state : Paced σ} {query : Query}
      {next : query.Reply → Paced σ} (before : Run body start turns state)
      (asks : state.request body = .ask query next) (reply : query.Reply) :
      Run body start (turns ++ [⟨state, ⟨query, reply⟩⟩]) (next reply)

/-- What a machine has finished with, if it has. -/
def Request.result? {α κ : Type} : Request α κ → Option (Except Fault α)
  | .finish result => some result
  | .ask _ _ => none

/-- A part of a larger machine is never the end of it. -/
@[simp] theorem Request.within_ne_finish {α β σ τ : Type} {lift : σ → τ}
    {after : Except Fault α → Paced τ} {request : Request α (Paced σ)} {result : Except Fault β} :
    request.within lift after ≠ .finish result := by
  cases request with
  | finish => nofun
  | ask => nofun

/-- A machine that has finished has nothing to say. -/
theorem Paced.finish_of_result {α σ : Type} {body : σ → Request α (Paced σ)} {state : Paced σ}
    {result : Except Fault α} (finished : (state.request body).result? = some result) :
    state.pending = [] ∧ body state.now = .finish result := by
  obtain ⟨pending, now⟩ := state
  cases pending with
  | cons emission rest => cases finished
  | nil =>
    rw [Paced.request_nil] at finished
    cases hbody : body now with
    | ask query next =>
      rw [hbody] at finished
      cases finished
    | finish found =>
      rw [hbody] at finished
      cases finished
      exact ⟨rfl, rfl⟩

namespace Exchange

/-- The emission that was made, if one was. -/
def emission? : Exchange → Option Emission
  | ⟨.emit emission, _⟩ => some emission
  | _ => none

/-- The id that was given out, if one was. -/
def minted? : Exchange → Option UInt64
  | ⟨.mint, id⟩ => some id
  | _ => none

end Exchange

/-- The ids given to a machine in its turns, in order. -/
def mintedIds {σ : Type} (turns : List (Turn σ)) : List UInt64 :=
  turns.filterMap fun turn => turn.exchange.minted?

/-- The emissions a machine has made in its turns, in order. -/
def emissions {σ : Type} (turns : List (Turn σ)) : List Emission :=
  turns.filterMap fun turn => turn.exchange.emission?

variable {σ : Type}

@[simp] theorem mintedIds_append (turns more : List (Turn σ)) :
    mintedIds (turns ++ more) = mintedIds turns ++ mintedIds more :=
  List.filterMap_append

@[simp] theorem emissions_append (turns more : List (Turn σ)) :
    emissions (turns ++ more) = emissions turns ++ emissions more :=
  List.filterMap_append

/-! ## Parts of runs -/

namespace Run

variable {α : Type} {body : σ → Request α (Paced σ)} {start state : Paced σ}
  {turns more : List (Turn σ)} {turn : Turn σ}

/-- A run without turns is where it started. -/
theorem eq_start (run : Run body start [] state) : state = start := by
  generalize hnone : ([] : List (Turn σ)) = turns at run
  cases run with
  | start => rfl
  | ask before asks reply => exact absurd hnone (by simp)

/-- The last turn of a run is what the machine asked where the turns before had led to. -/
theorem last (run : Run body start (turns ++ [turn]) state) :
    ∃ before query next reply, Run body start turns before ∧ turn = ⟨before, ⟨query, reply⟩⟩ ∧
      before.request body = .ask query next ∧ state = next reply := by
  generalize hall : turns ++ [turn] = all at run
  cases run with
  | start => exact absurd hall (by simp)
  | @ask earlier before query next run asks reply =>
    obtain ⟨rfl, hturn⟩ := List.append_inj' hall rfl
    exact ⟨before, query, next, reply, run, List.singleton_inj.1 hturn, asks, rfl⟩

/-- A run of so many turns and some more is a run of so many, and a run of the others from
there. -/
theorem split (run : Run body start (turns ++ more) state) :
    ∃ between, Run body start turns between ∧ Run body between more state := by
  induction more using List.reverseRecOn generalizing state with
  | nil =>
    rw [List.append_nil] at run
    exact ⟨state, run, .start⟩
  | append_singleton more turn ih =>
    rw [← List.append_assoc] at run
    obtain ⟨before, query, next, reply, hrun, rfl, asks, rfl⟩ := run.last
    obtain ⟨between, hearlier, hlater⟩ := ih hrun
    exact ⟨between, hearlier, hlater.ask asks reply⟩

/-- The first turn of a run is what the machine asks to begin with, and it goes on with the
reply. -/
theorem first (run : Run body start (turn :: turns) state) :
    ∃ query next reply, turn = ⟨start, ⟨query, reply⟩⟩ ∧
      start.request body = .ask query next ∧ Run body (next reply) turns state := by
  have hrun : Run body start ([turn] ++ turns) state := run
  obtain ⟨between, hfirst, hrest⟩ := hrun.split
  have hone : Run body start ([] ++ [turn]) between := hfirst
  obtain ⟨before, query, next, reply, hnone, rfl, asks, rfl⟩ := hone.last
  obtain rfl := hnone.eq_start
  exact ⟨query, next, reply, rfl, asks, hrest⟩

/-- A run can be continued by a run from where it has led to. -/
theorem append {between : Paced σ} (run : Run body start turns between)
    (rest : Run body between more state) : Run body start (turns ++ more) state := by
  induction rest with
  | start => rwa [List.append_nil]
  | ask before asks reply ih =>
    rw [← List.append_assoc]
    exact ih.ask asks reply

/-- What is kept by every turn that is as assumed is kept by a run whose turns all are.  And if
each turn of some kind is paid for out of a budget that no turn adds to, then there are no more
turns of the kind than the budget pays for. -/
theorem spends {P : Paced σ → Prop} {Q : Exchange → Prop} (kind : Exchange → Bool)
    (budget : Paced σ → Nat) (run : Run body start turns state) (begins : P start)
    (assumed : ∀ turn ∈ turns, Q turn.exchange)
    (pays : ∀ {state : Paced σ} {query : Query} {next : query.Reply → Paced σ}
      (reply : query.Reply), P state → state.request body = .ask query next →
      Q ⟨query, reply⟩ →
        P (next reply) ∧ (kind ⟨query, reply⟩).toNat + budget (next reply) ≤ budget state) :
    P state ∧ (turns.countP fun turn => kind turn.exchange) + budget state ≤ budget start := by
  induction run with
  | start => exact ⟨begins, by simp⟩
  | @ask turns state query next before asks reply ih =>
    simp only [List.forall_mem_append, List.forall_mem_singleton] at assumed
    obtain ⟨hkeeps, hbudget⟩ := ih assumed.1
    obtain ⟨hnext, hpaid⟩ := pays reply hkeeps asks assumed.2
    refine ⟨hnext, ?_⟩
    rw [List.countP_append, List.countP_singleton]
    cases hkind : kind ⟨query, reply⟩ <;> rw [hkind] at hpaid <;> simp at hpaid ⊢ <;>
      omega

end Run

/-! ## Renamed states -/

/-- A machine whose states are renamed asks what it asked before. -/
theorem Request.of_map_eq_ask {α κ μ : Type} {f : κ → μ} {request : Request α κ} {query : Query}
    {next : query.Reply → μ} (asks : request.map f = .ask query next) :
    ∃ before, request = .ask query before ∧ next = fun reply => f (before reply) := by
  cases request with
  | finish result => cases asks
  | ask query before =>
    cases asks
    exact ⟨before, rfl, rfl⟩

/-- A machine whose states are renamed finishes with what it finished with before. -/
theorem Request.of_map_eq_finish {α κ μ : Type} {f : κ → μ} {request : Request α κ}
    {result : Except Fault α} (finishes : request.map f = .finish result) :
    request = .finish result := by
  cases request with
  | finish => exact congrArg _ (Request.finish.inj finishes)
  | ask => cases finishes

end BrokerLoad
