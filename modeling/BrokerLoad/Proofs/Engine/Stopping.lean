import BrokerLoad.Envelope
import BrokerLoad.Proofs.Run
import BrokerLoad.Worker.Ending

/-!
# Honouring a stop request

A stop request is made once and stays made.  What happens to an engine afterwards is
therefore a run that starts wherever the engine happened to be, and in which every look at
the stop request finds it (`Exchange.FindsStop`).

That the request is honoured means that not much is done any more (`HonoursStop.once`) and
that the engine ends for a reason that one can be content with: it was stopped, it had
nothing left to do, or what was left to do has failed (`EndsPromptly`).  Both are shown in
the same way for every kind of engine.  For the first one says how much of each kind of
work may still be done from each place on, and that every move pays for what it does
(`Run.spends`).  For the second one says which outcomes can be told from a place, and that
an outcome that comes to be known in a move is explained by what happens in it
(`endsPromptly`).
-/

namespace BrokerLoad

/-- The kinds of work that engines do. -/
inductive Work where
  /-- An id is taken. -/
  | mint
  /-- A message is handed to the broker. -/
  | write
  /-- The receipt of a submission is collected. -/
  | collect
  /-- A delivery is asked for. -/
  | read
  /-- A delivery is received. -/
  | receive
  /-- The id of a delivery is noted. -/
  | note
  /-- A delivery is acknowledged. -/
  | ack
  deriving DecidableEq

namespace Exchange

/-- Whether some work of a kind is done. -/
def does : Work → Exchange → Bool
  | .mint, ⟨.mint, _⟩ => true
  | .write, ⟨.broker (.submit _ _), _⟩ => true
  | .write, ⟨.broker (.write _ _), _⟩ => true
  | .collect, ⟨.broker (.takeReceipt _), _⟩ => true
  | .read, ⟨.broker (.request _), _⟩ => true
  | .read, ⟨.broker (.read _), _⟩ => true
  | .receive, ⟨.broker (.takeDelivery _), .ok (some _)⟩ => true
  | .receive, ⟨.broker (.read _), .ok (some _)⟩ => true
  | .note, ⟨.note _, _⟩ => true
  | .ack, ⟨.broker (.ack _), _⟩ => true
  | _, _ => false

/-- Whether it is more than an emission. -/
def isStep : Exchange → Bool
  | ⟨.emit _, _⟩ => false
  | _ => true

/-- Whether the stop request is found, if it is looked at. -/
def FindsStop : Exchange → Prop
  | ⟨.stopRequested, found⟩ => found = true
  | _ => True

/-- The fault that a call ended in, if it did. -/
def fault? : Exchange → Option Fault
  | ⟨.broker (.submit _ _), .error fault⟩ => some fault
  | ⟨.broker (.write _ _), .error fault⟩ => some fault
  | ⟨.broker (.takeReceipt _), .error fault⟩ => some fault
  | ⟨.broker (.request _), .error fault⟩ => some fault
  | ⟨.broker (.takeDelivery _), .error fault⟩ => some fault
  | ⟨.broker (.read _), .error fault⟩ => some fault
  | ⟨.broker (.ack _), .error fault⟩ => some fault
  | _ => none

/-- Whether a receipt is collected that says that a message was refused. -/
def refuses : Exchange → Bool
  | ⟨.broker (.takeReceipt _), .ok receipt⟩ => receipt.status ≠ .ok
  | ⟨.broker (.write _ _), .ok receipt⟩ => receipt.status ≠ .ok
  | _ => false

/-- Whether the client does not do what it was asked to: it has not taken on a call, has no
delivery where there should be one, has one that is no envelope, or does not take an
acknowledgement. -/
def disappoints : Exchange → Bool
  | ⟨.broker (.lastError _), _⟩ => true
  | ⟨.broker (.takeDelivery _), .ok none⟩ => true
  | ⟨.broker (.takeDelivery _), .ok (some delivery)⟩ => (Envelope.decode delivery.payload).isNone
  | ⟨.broker (.read _), .ok (some delivery)⟩ => (Envelope.decode delivery.payload).isNone
  | ⟨.broker (.ack _), .ok accepted⟩ => !accepted
  | _ => false

/-- The outcomes that an exchange may lead to by failing. -/
inductive Fails (exchange : Exchange) : Outcome → Prop where
  | fault (fault : Fault) (ends : exchange.fault? = some fault) : Fails exchange (.error fault)
  | refused (refuses : exchange.refuses = true) : Fails exchange (.ok .attemptsExceeded)
  | disappointed (disappoints : exchange.disappoints = true) :
    Fails exchange (.ok .unexpectedError)

namespace Fails

variable {exchange : Exchange}

@[simp] theorem error_iff {fault : Fault} :
    exchange.Fails (.error fault) ↔ exchange.fault? = some fault :=
  ⟨fun | .fault _ ends => ends, .fault fault⟩

@[simp] theorem unexpectedError_iff :
    exchange.Fails (.ok .unexpectedError) ↔ exchange.disappoints = true :=
  ⟨fun | .disappointed disappoints => disappoints, .disappointed⟩

end Fails

end Exchange

/-- How an engine may end once a stop is requested: `settled` says that it has nothing left to
do, without which it never completes its task, `foregone` is the outcome that was certain before,
if one was, and `after` is what has happened since. -/
inductive EndsPromptly (settled : Prop) (foregone : Option Outcome) (after : List Exchange) :
    Outcome → Prop where
  | stopped : EndsPromptly settled foregone after (.ok .stopRequested)
  | completed (holds : settled) : EndsPromptly settled foregone after (.ok .completed)
  | foregone {outcome : Outcome} (certain : foregone = some outcome)
    (unfinished : outcome ≠ .ok .completed) : EndsPromptly settled foregone after outcome
  | failed {outcome : Outcome} (exchange : Exchange) (happened : exchange ∈ after)
    (fails : exchange.Fails outcome) : EndsPromptly settled foregone after outcome

theorem EndsPromptly.append {settled : Prop} {foregone : Option Outcome}
    {after more : List Exchange} {outcome : Outcome}
    (ends : EndsPromptly settled foregone after outcome) :
    EndsPromptly settled foregone (after ++ more) outcome := by
  cases ends with
  | stopped => exact .stopped
  | completed holds => exact .completed holds
  | foregone certain unfinished => exact .foregone certain unfinished
  | failed exchange happened fails => exact .failed exchange (List.mem_append_left _ happened) fails

/-- What a stop request does to an engine.  `abandons` says that it does not wait for the
receipts of what it has submitted. -/
structure HonoursStop {σ : Type} (abandons settled : Prop) (foregone : Option Outcome)
    (after : List (Turn σ)) (result : Option Outcome) : Prop where
  /-- No more than one piece of work is begun of each kind. -/
  once : ∀ work, (work = .collect → abandons) →
    (after.countP fun turn => turn.exchange.does work) ≤ 1
  /-- The engine does not go on for long. -/
  brief : abandons → (after.countP fun turn => turn.exchange.isStep) ≤ 8
  /-- It ends for the request, unless there is nothing left to do or what is left fails. -/
  ended : ∀ outcome, result = some outcome →
    EndsPromptly settled foregone (after.map Turn.exchange) outcome

/-! ## Reckoning with a stop request -/

/-- What can be told from where a loop is about what it will still do when it is asked to
stop. -/
structure Reckoning (σ : Type) where
  /-- How much work of each kind it may still do. -/
  allowance : σ → Work → Nat
  /-- How many steps it may still take, if it does not wait for what it has submitted. -/
  steps : σ → Nat
  /-- The outcome, if it is certain. -/
  foregone? : σ → Option Outcome

namespace Reckoning

/-- What a turn of a loop costs is paid for: by work and steps that are allowed, and, if an
outcome has become certain, by what has happened. -/
structure Pays {σ : Type} (reckoning : Reckoning σ) (abandons : Prop) (before : σ)
    (exchange : Exchange) (after : σ) : Prop where
  work : ∀ work, (work = .collect → abandons) →
    (exchange.does work).toNat + reckoning.allowance after work ≤ reckoning.allowance before work
  steps : abandons → exchange.isStep.toNat + reckoning.steps after ≤ reckoning.steps before
  explains : ∀ outcome, reckoning.foregone? after = some outcome →
    reckoning.foregone? before = some outcome ∨ exchange.Fails outcome ∨
      outcome = .ok .stopRequested ∨ outcome = .ok .completed

variable {σ : Type} {body : σ → Request Ending (Paced σ)} {start state : Paced σ}
  {turns : List (Turn σ)} {settled abandons : Prop} {reckoning : Reckoning σ}
  {P : Paced σ → Prop}

/-- If every turn is paid for, the outcome in the end is explained. -/
theorem endsPromptly (run : Run body start turns state) (begins : P start)
    (finds : ∀ turn ∈ turns, turn.exchange.FindsStop)
    (pays : ∀ {state : Paced σ} {query : Query} {next : query.Reply → Paced σ}
      (reply : query.Reply), P state → state.request body = .ask query next →
      Exchange.FindsStop ⟨query, reply⟩ →
        P (next reply) ∧ reckoning.Pays abandons state.now ⟨query, reply⟩ (next reply).now)
    (settles : reckoning.foregone? state.now = some (.ok .completed) → settled)
    {outcome : Outcome} (certain : reckoning.foregone? state.now = some outcome) :
    EndsPromptly settled (reckoning.foregone? start.now) (turns.map Turn.exchange) outcome := by
  by_cases hcompleted : outcome = .ok .completed
  · subst hcompleted
    exact .completed (settles certain)
  -- what is settled in the end need not be settled before
  clear settles
  suffices P state ∧ (reckoning.foregone? state.now = some outcome →
      EndsPromptly settled (reckoning.foregone? start.now) (turns.map Turn.exchange) outcome) from
    this.2 certain
  clear certain
  induction run with
  | start => exact ⟨begins, fun certain => .foregone certain hcompleted⟩
  | @ask turns state query next before asks reply ih =>
    simp only [List.forall_mem_append, List.forall_mem_singleton] at finds
    obtain ⟨hkeeps, hends⟩ := ih finds.1
    obtain ⟨hnext, hpays⟩ := pays reply hkeeps asks finds.2
    refine ⟨hnext, fun certain => ?_⟩
    rw [List.map_append]
    rcases hpays.explains outcome certain with hbefore | hfails | rfl | hcontra
    · exact (hends hbefore).append
    · exact .failed _ (by simp) hfails
    · exact .stopped
    · exact absurd hcontra hcompleted

variable (reckoning) in
/-- A loop whose turns are paid for honours a stop request. -/
theorem honoursStop (run : Run body start turns state) (begins : P start)
    (finds : ∀ turn ∈ turns, turn.exchange.FindsStop)
    (pays : ∀ {state : Paced σ} {query : Query} {next : query.Reply → Paced σ}
      (reply : query.Reply), P state → state.request body = .ask query next →
      Exchange.FindsStop ⟨query, reply⟩ →
        P (next reply) ∧ reckoning.Pays abandons state.now ⟨query, reply⟩ (next reply).now)
    (one : ∀ loop work, reckoning.allowance loop work ≤ 1) (few : ∀ loop, reckoning.steps loop ≤ 8)
    (settles : reckoning.foregone? state.now = some (.ok .completed) → settled)
    (certain : ∀ outcome, (state.request body).result? = some outcome →
      reckoning.foregone? state.now = some outcome) :
    HonoursStop abandons settled (reckoning.foregone? start.now) turns
      (state.request body).result? where
  once work collects := by
    have hspent := (run.spends (Exchange.does work)
      (fun state => reckoning.allowance state.now work) begins finds
      fun reply keeps asks finds =>
        (pays reply keeps asks finds).imp_right fun hpays => hpays.work work collects).2
    have hone := one start.now work
    omega
  brief leaves := by
    have hspent := (run.spends Exchange.isStep (fun state => reckoning.steps state.now) begins finds
      fun reply keeps asks finds =>
        (pays reply keeps asks finds).imp_right fun hpays => hpays.steps leaves).2
    have hfew := few start.now
    omega
  ended outcome result := endsPromptly run begins finds pays settles (certain outcome result)

end Reckoning

end BrokerLoad
