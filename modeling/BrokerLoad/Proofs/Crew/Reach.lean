import BrokerLoad.Proofs.Crew.Engines
import BrokerLoad.Proofs.Ledger.Service
import Mathlib.Algebra.GroupWithZero.Nat

/-!
# The states that a crew can reach

`Crew.Reaches` are the runs of a crew on a hub: any worker may take the next step, and any
control --- a start, a stop, a wait --- may take one in between, at any time and on any
worker.  What the workers asked on the way is recorded as a list of *occasions*, one for
each query, with the hub as it was before and as it is after it.

The record is what the history of a crew is read from: the ids minted, the payloads
accepted, how often the counters of the hub were moved.  None of these lists is kept by the
crew itself.

`Crew.Reaches.induction` turns a run into a sequence of acts on one bag of items, and is the
only place where workers and their lives are looked into.
-/

namespace BrokerLoad

/-- A query of a worker, and the hub before and after it. -/
structure Occasion where
  before : Hub
  /-- What was asked, and what was answered. -/
  exchange : Exchange
  after : Hub

namespace Occasion

/-- Whether the hub answered, if it was asked, and stayed as it was, if it was not. -/
def IsServed : Occasion → Prop
  | ⟨before, ⟨.broker call, reply⟩, after⟩ =>
    reply = (before.serve call).reply ∧ after = (before.serve call).client
  | ⟨before, _, after⟩ => after = before

/-- The ids of what was accepted. -/
def accepted (occasion : Occasion) : List UInt64 :=
  (occasion.after.accepted occasion.exchange).filterMap Bytes.id?

/-- Whether something was delivered. -/
def delivers (occasion : Occasion) : Bool :=
  occasion.after.counts.deliveries ≠ occasion.before.counts.deliveries

/-- Whether something was sent round again. -/
def redelivers (occasion : Occasion) : Bool :=
  occasion.after.counts.redeliveries ≠ occasion.before.counts.redeliveries

end Occasion

/-- What was asked by the workers of a crew, in order. -/
abbrev Past : Type := List Occasion

namespace Past

variable (past more : Past)

/-- The ids given out. -/
def minted : List UInt64 := past.filterMap fun occasion => occasion.exchange.minted?

/-- The ids whose writes were accepted, each as often as it was. -/
def accepted : List UInt64 := past.flatMap Occasion.accepted

/-- How many deliveries there were. -/
def deliveries : Nat := past.countP Occasion.delivers

/-- How many messages were sent round again. -/
def redeliveries : Nat := past.countP Occasion.redelivers

/-- How many repeats were counted. -/
def repeats : Nat := (past.map fun occasion => occasion.exchange.repeats).sum

@[simp] theorem minted_append : minted (past ++ more) = past.minted ++ more.minted :=
  List.filterMap_append

@[simp] theorem accepted_append : accepted (past ++ more) = past.accepted ++ more.accepted :=
  List.flatMap_append

@[simp] theorem deliveries_append :
    deliveries (past ++ more) = past.deliveries + more.deliveries :=
  List.countP_append

@[simp] theorem redeliveries_append :
    redeliveries (past ++ more) = past.redeliveries + more.redeliveries :=
  List.countP_append

@[simp] theorem repeats_append : repeats (past ++ more) = past.repeats + more.repeats := by
  rw [repeats, List.map_append, List.sum_append, repeats, repeats]

@[simp] theorem minted_singleton (occasion : Occasion) :
    minted [occasion] = occasion.exchange.minted?.toList := by
  rw [minted, List.filterMap_cons]
  cases occasion.exchange.minted? <;> rfl

@[simp] theorem accepted_singleton (occasion : Occasion) :
    accepted [occasion] = occasion.accepted := by
  rw [accepted, List.flatMap_singleton]

@[simp] theorem repeats_singleton (occasion : Occasion) :
    repeats [occasion] = occasion.exchange.repeats :=
  Nat.add_zero _

end Past

/-- A hub that serves one group of one destination, as yet unused. -/
def Hub.serving (path group : String) (throttleEvery redeliverEvery maxDeliveries : UInt32) :
    Hub where
  throttleEvery := throttleEvery
  redeliverEvery := redeliverEvery
  queues := #[.create maxDeliveries redeliverEvery]
  topology := [(path, [(group, 0)])]

/-- It is what becomes of a new hub when the destination and the group are created. -/
theorem Hub.serving_eq {path group : String} (throttleEvery redeliverEvery maxDeliveries : UInt32)
    (hpath : path ≠ "") (hgroup : group ≠ "") :
    (({ throttleEvery, redeliverEvery : Hub }.createDestination { path }).2.createGroup
        { destination := path, name := group, maxDeliveries }).2 =
      serving path group throttleEvery redeliverEvery maxDeliveries := by
  simp [createDestination, createGroup, groups?, withGroups, serving, hpath, hgroup]

/-- An engine that has not begun. -/
inductive Engine.IsNew : Engine → Prop where
  | producer (pipelined : Bool) (options : Producer.Options) : IsNew (.producer pipelined options)
  | consumer (pipelined : Bool) (options : Consumer.Options) : IsNew (.consumer pipelined options)

/-- What a worker holds. -/
def Worker.items (worker : Worker) : List Item := worker.engine.items

namespace Crew

/-- What a crew holds. -/
def items (crew : Crew Hub) : List Item := crew.workers.flatMap Worker.items

/-- What the worker of a number asks in its next step, if it asks. -/
def asked (crew : Crew Hub) (number : Nat) : Past :=
  match crew.workers[number]? with
  | none => []
  | some worker =>
    if worker.life.phase = .working then
      match worker.engine.request worker.life.name with
      | .finish _ => []
      | .ask query _ =>
        let served := crew.shared.answer worker.life.stopRequested query
        [⟨crew.shared.client, ⟨query, served.reply⟩, served.client.client⟩]
    else []

/-- What the worker of a number asks while it takes so many steps. -/
def askedBy (number : Nat) : Nat → Crew Hub → Past
  | 0, _ => []
  | bound + 1, crew =>
    match crew.step number with
    | none => []
    | some after => crew.asked number ++ askedBy number bound after

/-- The runs of a crew, whoever takes the next step: what was asked since the start, and the
crew reached. -/
inductive Reaches (start : Crew Hub) : Past → Crew Hub → Prop where
  /-- Nothing has happened. -/
  | start : Reaches start [] start
  | work {past : Past} {crew after : Crew Hub} (before : Reaches start past crew) (number : Nat)
      (steps : crew.step number = some after) : Reaches start (past ++ crew.asked number) after
  | control {past : Past} {crew after : Crew Hub} {control next : Lifecycle.Control}
      (before : Reaches start past crew) (number : Nat) (timeUp : Bool)
      (steps : crew.control number timeUp control = some (next, after)) :
      Reaches start past after

/-- A new crew on a hub that serves one group. -/
def opening (hub : Hub) (staff : List (String × Engine)) : Crew Hub :=
  ⟨{ client := hub }, staff.map fun (name, engine) => .hire name engine⟩

theorem items_opening (hub : Hub) {staff : List (String × Engine)}
    (new : ∀ member ∈ staff, member.2.IsNew) : (opening hub staff).items = [] := by
  rw [items, opening, List.flatMap_map, List.flatMap_eq_nil_iff]
  intro ⟨name, engine⟩ hmember
  show engine.items = []
  cases new _ hmember with
  | producer pipelined options => exact Engine.items_producer pipelined options
  | consumer pipelined options => exact Engine.items_consumer pipelined options

/-- A worker in the place of another one that holds the same. -/
theorem items_set {crew : Crew Hub} {number : Nat} {worker other : Worker}
    (hworker : crew.workers[number]? = some worker) (hitems : other.items = worker.items)
    (shared : Shared Hub) :
    (Crew.mk shared (crew.workers.set number other)).items = crew.items := by
  obtain ⟨hlt, hget⟩ := List.getElem?_eq_some_iff.1 hworker
  have hself : crew.workers.set number worker = crew.workers := by
    rw [← hget, List.set_getElem_self]
  rw [items, items, List.flatMap_def, List.flatMap_def, List.map_set, hitems, ← List.map_set, hself]

/-- A worker in the place of another one, while the others hold what they held. -/
theorem acts_set {crew : Crew Hub} {number : Nat} {worker other : Worker} {exchange : Exchange}
    (hworker : crew.workers[number]? = some worker) (shared : Shared Hub)
    (acts : Acts exchange worker.items other.items) :
    Acts exchange crew.items (Crew.mk shared (crew.workers.set number other)).items := by
  obtain ⟨hlt, hget⟩ := List.getElem?_eq_some_iff.1 hworker
  have hbefore := (List.getElem_cons_eraseIdx_perm hlt).symm.flatMap_right Worker.items
  have hafter := (List.set_perm_cons_eraseIdx hlt other).flatMap_right Worker.items
  rw [List.flatMap_cons] at hbefore hafter
  rw [hget] at hbefore
  exact acts.frame hbefore hafter

/-- A step of a lifecycle leaves all that matters alone. -/
theorem advance_eq {worker other : Worker} {shared after : Shared Hub} {outcome : Option Outcome}
    (hadvance : worker.advance shared outcome = some (other, after)) :
    other.items = worker.items ∧ after.ledger = shared.ledger ∧ after.client = shared.client := by
  obtain ⟨⟨life, lines⟩, -, heq⟩ := Option.map_eq_some_iff.1 hadvance
  cases heq
  exact ⟨rfl, rfl, rfl⟩

/-- A step of a crew is an act of one of its workers, if that worker asks, and leaves all that
matters alone, if it does not. -/
theorem step_cases {crew after : Crew Hub} {number : Nat} (steps : crew.step number = some after) :
    (crew.asked number = [] ∧ after.shared.ledger = crew.shared.ledger ∧
      after.shared.client = crew.shared.client ∧ after.items = crew.items) ∨
    ∃ occasion : Occasion, crew.asked number = [occasion] ∧
      occasion.before = crew.shared.client ∧ occasion.after = after.shared.client ∧
      after.shared.ledger = crew.shared.ledger.after occasion.exchange ∧
      crew.shared.ledger.Allows occasion.exchange ∧ occasion.IsServed ∧
      Acts occasion.exchange crew.items after.items := by
  rw [Crew.step] at steps
  rw [asked]
  cases hworker : crew.workers[number]? with
  | none =>
    rw [hworker] at steps
    cases steps
  | some worker =>
    rw [hworker] at steps
    obtain ⟨⟨other, shared⟩, hstep, rfl⟩ := Option.map_eq_some_iff.1 steps
    rw [Worker.step] at hstep
    by_cases hworking : worker.life.phase = .working
    · simp only [if_pos hworking] at hstep ⊢
      cases hrequest : worker.engine.request worker.life.name with
      | finish outcome =>
        rw [hrequest] at hstep
        obtain ⟨hitems, hledger, hclient⟩ := advance_eq hstep
        exact .inl ⟨rfl, hledger, hclient, items_set hworker hitems shared⟩
      | ask query next =>
        rw [hrequest] at hstep
        cases hstep
        obtain ⟨hallows, hafter⟩ :=
          Ledger.shared_answer crew.shared worker.life.stopRequested query
        refine .inr ⟨_, rfl, rfl, rfl, hafter, hallows, ?_, acts_set hworker _ ?_⟩
        · cases query with
          | broker call => exact ⟨rfl, rfl⟩
          | emit emission => cases emission <;> rfl
          | _ => rfl
        · exact Engine.acts hrequest _
    · simp only [if_neg hworking] at hstep ⊢
      obtain ⟨hitems, hledger, hclient⟩ := advance_eq hstep
      exact .inl ⟨trivial, hledger, hclient, items_set hworker hitems shared⟩

/-- A step of a control leaves all that matters alone. -/
theorem control_eq {crew after : Crew Hub} {number : Nat} {timeUp : Bool}
    {control next : Lifecycle.Control}
    (steps : crew.control number timeUp control = some (next, after)) :
    after.shared.ledger = crew.shared.ledger ∧ after.shared.client = crew.shared.client ∧
      after.items = crew.items := by
  rw [Crew.control] at steps
  cases hworker : crew.workers[number]? with
  | none =>
    rw [hworker] at steps
    cases steps
  | some worker =>
    rw [hworker] at steps
    obtain ⟨⟨onward, life, lines⟩, -, heq⟩ := Option.map_eq_some_iff.1 steps
    cases heq
    have hsame : Worker.items { worker with life := life } = worker.items := rfl
    exact ⟨rfl, rfl, items_set hworker hsame _⟩

namespace Reaches

variable {start crew : Crew Hub} {past : Past}

/-- A control that takes its steps with nobody else in between. -/
theorem drive {number : Nat} {worker : Worker} (reaches : start.Reaches past crew)
    (hworker : crew.workers[number]? = some worker) (timeUp : Bool) (bound : Nat)
    (control : Lifecycle.Control) :
    start.Reaches past ⟨crew.shared.say (control.drive timeUp bound worker.life).2.2,
      crew.workers.set number
        { worker with life := (control.drive timeUp bound worker.life).2.1 }⟩ := by
  have hnothing : Crew.mk (crew.shared.say []) (crew.workers.set number worker) = crew := by
    obtain ⟨hlt, hget⟩ := List.getElem?_eq_some_iff.1 hworker
    rw [Shared.say, List.append_nil, ← hget, List.set_getElem_self]
  induction bound generalizing crew worker control with
  | zero => exact hnothing.symm ▸ reaches
  | succ bound ih =>
    rw [Lifecycle.Control.drive]
    cases hstep : control.step timeUp worker.life with
    | none => exact hnothing.symm ▸ reaches
    | some result =>
      obtain ⟨next, life, lines⟩ := result
      obtain ⟨hlt, hget⟩ := List.getElem?_eq_some_iff.1 hworker
      have hcontrol : crew.control number timeUp control = some (next,
          ⟨crew.shared.say lines, crew.workers.set number { worker with life := life }⟩) := by
        rw [Crew.control, hworker]
        dsimp only
        rw [hstep]
        rfl
      have hself : (crew.workers.set number { worker with life := life })[number]? =
          some { worker with life := life } := by
        rw [List.getElem?_set_self hlt]
      have hall := ih (reaches.control number timeUp hcontrol) hself next (by
        rw [Shared.say, List.append_nil, List.set_set])
      rw [List.set_set, Shared.say, Shared.say, List.append_assoc] at hall
      exact hall

theorem started (reaches : start.Reaches past crew) (number : Nat) :
    start.Reaches past (crew.start number) := by
  rw [Crew.start]
  cases hworker : crew.workers[number]? with
  | none => exact reaches
  | some worker => exact reaches.drive hworker false Lifecycle.Control.stepBound .start

/-- A worker takes its steps with nobody else in between. -/
theorem runWorker (reaches : start.Reaches past crew) (number bound : Nat) :
    start.Reaches (past ++ askedBy number bound crew) (crew.runWorker number bound) := by
  induction bound generalizing past crew with
  | zero => exact (List.append_nil past).symm ▸ reaches
  | succ bound ih =>
    rw [askedBy, Crew.runWorker]
    cases hstep : crew.step number with
    | none => exact (List.append_nil past).symm ▸ reaches
    | some after =>
      have hall := ih (reaches.work number hstep)
      rw [List.append_assoc] at hall
      exact hall

end Reaches

/-- What holds in the beginning and is kept by every act holds in every state reached. -/
theorem Reaches.induction {P : Past → Ledger → Hub → List Item → Prop} {start crew : Crew Hub}
    {past : Past} (begins : P [] start.shared.ledger start.shared.client start.items)
    (acts : ∀ {past : Past} {ledger : Ledger} {occasion : Occasion} {before after : List Item},
      P past ledger occasion.before before → ledger.Allows occasion.exchange →
      occasion.IsServed → Acts occasion.exchange before after →
      P (past ++ [occasion]) (ledger.after occasion.exchange) occasion.after after)
    (reaches : start.Reaches past crew) :
    P past crew.shared.ledger crew.shared.client crew.items := by
  induction reaches with
  | start => exact begins
  | work before number steps ih =>
    rcases step_cases steps with
      ⟨hasked, hledger, hclient, hitems⟩ |
        ⟨occasion, hasked, hbefore, hafter, hledger, hallows, hserved, hacts⟩
    · rw [hasked, List.append_nil, hledger, hclient, hitems]
      exact ih
    · rw [hasked, hledger, ← hafter]
      exact acts (hbefore ▸ ih) hallows hserved hacts
  | control before number timeUp steps ih =>
    obtain ⟨hledger, hclient, hitems⟩ := control_eq steps
    rw [hledger, hclient, hitems]
    exact ih

end Crew
end BrokerLoad
