import BrokerLoad.Proofs.Consumer.Moves
import BrokerLoad.Proofs.Crew.Reach
import BrokerLoad.Proofs.Engine.Course

/-!
# Which handles are closed

An engine closes its handle on every way out but one: a fault that is no error goes
straight through, and nobody closes the handle on its behalf.  Such a fault can come out of
any call about a handle.  When it comes out of the creation there is no handle yet, and out of
the closing the handle has been closed already; those that *escape* with the handle still open
come out of all other calls.

For each of the four loops there is a predicate that says that a fault is on its way out
(`IsHonest`), so that at the level of handles the loops are all alike.  `Stage.Tended` has the
ways in which a handle can be tended so far, and `Engine.Course.tended` says that every course
of an engine is one of them.
-/

namespace BrokerLoad

/-! ## What an exchange does to handles -/

namespace Exchange

/-- The handle that was handed out, if one was. -/
def handed? : Exchange → Option Handle
  | ⟨.broker (.create _), .ok handle⟩ => handle
  | _ => none

/-- The handle that was to be closed, if it was one. -/
def closed? : Exchange → Option Handle
  | ⟨.broker (.closeHandle handle), _⟩ => some handle
  | _ => none

/-- Whether something was read or written, a receipt or a delivery waited for, or a delivery
settled. -/
def isTransfer : Exchange → Bool
  | ⟨.broker (.submit _ _), _⟩ => true
  | ⟨.broker (.receiptReady _), _⟩ => true
  | ⟨.broker (.takeReceipt _), _⟩ => true
  | ⟨.broker (.write _ _), _⟩ => true
  | ⟨.broker (.request _), _⟩ => true
  | ⟨.broker (.deliveryReady _), _⟩ => true
  | ⟨.broker (.takeDelivery _), _⟩ => true
  | ⟨.broker (.read _), _⟩ => true
  | ⟨.broker (.ack _), _⟩ => true
  | ⟨.broker (.nack _), _⟩ => true
  | _ => false

/-- Whether a fault that is no error came out of a call about a handle that was open, or was
being opened. -/
def escapes : Exchange → Bool
  | ⟨.broker (.openHandle _), .error .foreign⟩ => true
  | ⟨.broker (.submit _ _), .error .foreign⟩ => true
  | ⟨.broker (.takeReceipt _), .error .foreign⟩ => true
  | ⟨.broker (.write _ _), .error .foreign⟩ => true
  | ⟨.broker (.request _), .error .foreign⟩ => true
  | ⟨.broker (.takeDelivery _), .error .foreign⟩ => true
  | ⟨.broker (.read _), .error .foreign⟩ => true
  | ⟨.broker (.ack _), .error .foreign⟩ => true
  | ⟨.broker (.nack _), .error .foreign⟩ => true
  | _ => false

end Exchange

/-- The handles handed out in exchanges. -/
def handed (exchanges : List Exchange) : List Handle := exchanges.filterMap Exchange.handed?

/-- The handles closed in exchanges, each as often as it was. -/
def closed (exchanges : List Exchange) : List Handle := exchanges.filterMap Exchange.closed?

@[simp] theorem handed_concat (exchanges : List Exchange) (exchange : Exchange) :
    handed (exchanges ++ [exchange]) = handed exchanges ++ exchange.handed?.toList := by
  rw [handed, List.filterMap_append, handed, List.filterMap_cons]
  cases exchange.handed? <;> rfl

@[simp] theorem closed_concat (exchanges : List Exchange) (exchange : Exchange) :
    closed (exchanges ++ [exchange]) = closed exchanges ++ exchange.closed?.toList := by
  rw [closed, List.filterMap_append, closed, List.filterMap_cons]
  cases exchange.closed? <;> rfl

/-! ## Loops -/

/-- A loop asks neither for a handle nor to close one, and the fault that it ends with, if it is
no error, is one that came out of a call: `escaping` says that there is one on its way out. -/
structure IsHonest {σ : Type} (body : Handle → σ → Request Ending (Paced σ))
    (escaping : σ → Prop) : Prop where
  uses : ∀ handle loop, (body handle loop).Uses handle
  finish : ∀ {handle loop outcome}, body handle loop = .finish outcome →
    (outcome = .error .foreign ↔ escaping loop)
  ask : ∀ {handle loop query next}, body handle loop = .ask query next → ∀ reply : query.Reply,
    (escaping (next reply).now ↔ escaping loop ∨ Exchange.escapes ⟨query, reply⟩ = true)

namespace Producer

/-- Whether a fault that is no error is on its way out of the loop. -/
def Pipelined.IsEscaping (loop : Pipelined.Loop) : Prop := loop.point = .halted (.error .foreign)

/-- Whether a fault that is no error is on its way out of the loop. -/
def Blocking.IsEscaping (loop : Blocking.Loop) : Prop := loop.point = .halted (.error .foreign)

theorem Pipelined.honest (name : String) (options : Options) :
    IsHonest (Pipelined.request name options) Pipelined.IsEscaping where
  uses := Pipelined.uses name options
  finish finishes := by simp [IsEscaping, point_of_finish finishes]
  ask {handle loop query next} asks reply := by
    have asks : Paced.request (request name options handle) ⟨[], loop⟩ = .ask query next := asks
    obtain ⟨events, move⟩ := Move.of_request asks reply
    generalize next reply = after, (⟨query, reply⟩ : Exchange) = exchange at move ⊢
    cases move with
    | take loop oldest rest here pops must => simp [IsEscaping, Exchange.escapes, here]
    | accept loop oldest answer here ok =>
      rcases onward_cases loop.remaining with ⟨-, h⟩ | ⟨-, h⟩ <;>
        simp [IsEscaping, Exchange.escapes, here, h]
    | drop loop oldest answer here refused below draining =>
      rcases onward_cases loop.remaining with ⟨-, h⟩ | ⟨-, h⟩ <;>
        simp [IsEscaping, Exchange.escapes, here, h]
    | spoil loop oldest fault here => cases fault <;> simp [IsEscaping, Exchange.escapes, here]
    | fail loop id attempt here =>
      rcases Point.of_submits? here with ⟨h, -⟩ | ⟨retry, h, -⟩ <;>
        simp [IsEscaping, Exchange.escapes, h]
    | crash loop id attempt fault here =>
      rcases Point.of_submits? here with ⟨h, -⟩ | ⟨retry, h, -⟩ <;> cases fault <;>
        simp [IsEscaping, Exchange.escapes, h]
    | _ => simp_all [IsEscaping, Exchange.escapes]

theorem Blocking.honest (name : String) (options : Options) :
    IsHonest (Blocking.request name options) Blocking.IsEscaping where
  uses := Blocking.uses name options
  finish finishes := by simp [IsEscaping, point_of_finish finishes]
  ask {handle loop query next} asks reply := by
    have asks : Paced.request (request name options handle) ⟨[], loop⟩ = .ask query next := asks
    obtain ⟨events, move⟩ := Move.of_request asks reply
    generalize next reply = after, (⟨query, reply⟩ : Exchange) = exchange at move ⊢
    cases move with
    | crash loop id attempt fault here =>
      cases fault <;> simp [IsEscaping, Exchange.escapes, here]
    | _ => simp_all [IsEscaping, Exchange.escapes]

end Producer

namespace Consumer

/-- Whether a fault that is no error is on its way out of the intake. -/
def Intake.IsEscaping (intake : Intake) : Prop := intake.stage = .over (.error .foreign)

/-- Whether a fault that is no error is on its way out of the loop, or of the intake in it. -/
def Pipelined.IsEscaping (loop : Pipelined.Loop) : Prop :=
  loop.point = .halted (.error .foreign) ∨
    ∃ intake, loop.point = .handling intake ∧ intake.IsEscaping

/-- Whether a fault that is no error is on its way out of the loop, or of the intake in it. -/
def Blocking.IsEscaping (loop : Blocking.Loop) : Prop :=
  loop.point = .halted (.error .foreign) ∨
    ∃ intake, loop.point = .handling intake ∧ intake.IsEscaping

theorem Intake.escaping_of_finish {name : String} {intake : Intake} {result : Except Fault Bool}
    (finishes : intake.request name = .finish result) :
    result = .error .foreign ↔ intake.IsEscaping := by
  obtain ⟨stage, delivery, counts⟩ := intake
  cases stage <;> cases finishes
  simp [IsEscaping]

theorem Intake.escaping_of_ask {name : String} {intake : Intake} {query : Query}
    {next : query.Reply → Paced Intake} (asks : intake.request name = .ask query next)
    (reply : query.Reply) :
    (next reply).now.IsEscaping ↔
      intake.IsEscaping ∨ Exchange.escapes ⟨query, reply⟩ = true := by
  obtain ⟨stage, delivery, counts⟩ := intake
  cases stage with
  | arrived =>
    cases asks
    dsimp only
    split <;> simp [IsEscaping, goto, Paced.enter, Exchange.escapes]
  | noting id =>
    cases asks
    dsimp only
    split <;> simp [IsEscaping, goto, countDuplicate, Paced.enter, Exchange.escapes]
  | acking id =>
    cases asks
    cases reply with
    | error fault => cases fault <;> simp [IsEscaping, goto, Paced.enter, Exchange.escapes]
    | ok done => cases done <;> simp [IsEscaping, goto, countAck, Exchange.escapes]
  | _ => cases asks

/-- A fault that is on its way out of the intake is on its way out of the loop around it, if the
loop is told apart by that. -/
theorem Intake.escaping_within {σ : Type} {name : String} {intake : Intake} {lift : Intake → σ}
    {onward : Except Fault Bool → Paced σ} (P : σ → Prop)
    (lifts : ∀ intake, P (lift intake) ↔ intake.IsEscaping)
    (ends : ∀ result, P (onward result).now ↔ result = .error .foreign)
    {query : Query} {next : query.Reply → Paced σ}
    (asks : ((intake.request name).within lift onward : Request Ending (Paced σ)) =
      .ask query next) (reply : query.Reply) :
    P (next reply).now ↔ intake.IsEscaping ∨ Exchange.escapes ⟨query, reply⟩ = true := by
  cases hintake : intake.request name with
  | finish result =>
    rw [hintake] at asks
    cases asks
    rw [ends, Intake.escaping_of_finish hintake]
    simp [Exchange.escapes]
  | ask query next =>
    rw [hintake] at asks
    cases asks
    exact (lifts _).trans (Intake.escaping_of_ask hintake reply)

theorem Pipelined.escaping_resume (counts : Counts) (result : Except Fault Bool) :
    IsEscaping (Loop.resume counts result) ↔ result = .error .foreign := by
  cases result with
  | error fault => simp [IsEscaping, Loop.resume, Loop.raise, Loop.goto]
  | ok more => cases more <;> simp [IsEscaping, Loop.resume, Loop.halt, Loop.goto]

theorem Blocking.escaping_resume (counts : Counts) (result : Except Fault Bool) :
    IsEscaping (Loop.resume counts result) ↔ result = .error .foreign := by
  cases result with
  | error fault => simp [IsEscaping, Loop.resume, Loop.raise, Loop.goto]
  | ok more => cases more <;> simp [IsEscaping, Loop.resume, Loop.halt, Loop.goto]

theorem Pipelined.honest (name : String) :
    IsHonest (Pipelined.request name) Pipelined.IsEscaping where
  uses handle loop := (Pipelined.quiet name handle loop).uses
  finish finishes := by simp [IsEscaping, point_of_finish finishes]
  ask {handle loop query next} asks reply := by
    obtain ⟨point, counts⟩ := loop
    cases point with
    | handling intake =>
      have hescaping := Intake.escaping_within IsEscaping
        (fun intake => by simp [IsEscaping, takingIn])
        (fun result => escaping_resume intake.counts result) asks reply
      simpa [IsEscaping] using hescaping
    | asking =>
      cases asks
      cases reply with
      | error fault =>
        cases fault <;> simp [IsEscaping, Loop.raise, Loop.goto, Paced.enter, Exchange.escapes]
      | ok ticket =>
        cases ticket <;> simp [IsEscaping, Loop.goto, Paced.enter, Exchange.escapes]
    | collecting ticket =>
      cases asks
      cases reply with
      | error fault =>
        cases fault <;> simp [IsEscaping, Loop.raise, Loop.goto, Paced.enter, Exchange.escapes]
      | ok delivery =>
        cases delivery with
        | none => simp [IsEscaping, Loop.halt, Loop.goto, Exchange.escapes]
        | some delivery => simp [IsEscaping, takingIn, Intake.IsEscaping, Exchange.escapes]
    | halted result => cases asks
    | _ =>
      cases asks
      cases reply <;>
        simp [IsEscaping, Loop.halt, Loop.goto, Loop.countTimeout, Paced.enter, Exchange.escapes]

theorem Blocking.honest (name : String) :
    IsHonest (Blocking.request name) Blocking.IsEscaping where
  uses handle loop := (Blocking.quiet name handle loop).uses
  finish finishes := by simp [IsEscaping, point_of_finish finishes]
  ask {handle loop query next} asks reply := by
    obtain ⟨point, counts⟩ := loop
    cases point with
    | handling intake =>
      have hescaping := Intake.escaping_within IsEscaping
        (fun intake => by simp [IsEscaping, takingIn])
        (fun result => escaping_resume intake.counts result) asks reply
      simpa [IsEscaping] using hescaping
    | head =>
      cases asks
      cases reply <;> simp [IsEscaping, Loop.halt, Loop.goto, Paced.enter, Exchange.escapes]
    | reading =>
      cases asks
      cases reply with
      | error fault =>
        cases fault <;> simp [IsEscaping, Loop.raise, Loop.goto, Paced.enter, Exchange.escapes]
      | ok delivery =>
        cases delivery with
        | none => simp [IsEscaping, Loop.countTimeout, Loop.goto, Paced.enter, Exchange.escapes]
        | some delivery => simp [IsEscaping, takingIn, Intake.IsEscaping, Exchange.escapes]
    | halted result => cases asks

end Consumer

/-! ## Handles -/

namespace Handling

/-- How a handle can have been tended: the stage that it is in, the handles handed out and those
closed so far, and whether a fault has escaped.  `escaping` is what the loop says about that. -/
inductive Stage.Tended (escaping : Prop) : Stage → List Handle → List Handle → Bool → Prop
  | creating (calm : ¬escaping) : Tended escaping .creating [] [] false
  | opening (handle : Handle) (calm : ¬escaping) :
    Tended escaping (.opening handle) [handle] [] false
  | refused (handle : Handle) : Tended escaping (.refused handle) [handle] [] false
  | working (handle : Handle) {escaped : Bool} (agrees : escaped = true ↔ escaping) :
    Tended escaping (.working handle) [handle] [] escaped
  | closing (handle : Handle) (ending : Ending) :
    Tended escaping (.closing handle ending) [handle] [] false
  /-- It has been closed. -/
  | closed (handle : Handle) (outcome : Outcome) :
    Tended escaping (.releasing handle outcome) [handle] [handle] false
  /-- It has not been closed, and will not be. -/
  | escaped (handle : Handle) (outcome : Outcome) :
    Tended escaping (.releasing handle outcome) [handle] [] true
  /-- There never was a handle. -/
  | denied (outcome : Outcome) : Tended escaping (.over outcome) [] [] false
  | gone (handle : Handle) (outcome : Outcome) :
    Tended escaping (.over outcome) [handle] [handle] false
  | lost (handle : Handle) (outcome : Outcome) : Tended escaping (.over outcome) [handle] [] true

namespace Stage.Tended

variable {escaping : Prop} {stage : Stage} {handed closed : List Handle} {escaped : Bool}

theorem length_handed_le (tended : Tended escaping stage handed closed escaped) :
    handed.length ≤ 1 := by
  cases tended <;> simp

theorem closed_eq (tended : Tended escaping stage handed closed escaped) :
    closed = [] ∨ closed = handed := by
  cases tended <;> simp

theorem closed_of_working {handle : Handle}
    (tended : Tended escaping (.working handle) handed closed escaped) : closed = [] := by
  cases tended
  rfl

/-- In the end every handle handed out has been closed, unless a fault has escaped. -/
theorem closed_of_over {outcome : Outcome}
    (tended : Tended escaping (.over outcome) handed closed escaped) :
    closed = if escaped then [] else handed := by
  cases tended <;> rfl

end Stage.Tended

variable {σ : Type} {name : String} {role : Role} {body : Handle → σ → Request Ending (Paced σ)}
  {escaping : σ → Prop}

/-- A query that uses a handle is about no other handle, and closes none. -/
theorem quiet_of_uses {handle : Handle} {exchange : Exchange}
    (uses : exchange.1.uses handle = true) : exchange.handed? = none ∧ exchange.closed? = none := by
  obtain ⟨query, reply⟩ := exchange
  cases query with
  | broker call => cases call <;> first | exact ⟨rfl, rfl⟩ | cases uses
  | _ => exact ⟨rfl, rfl⟩

/-- What has been handed out, closed and let escape after one more exchange. -/
theorem Stage.Tended.step (honest : IsHonest body escaping) {state : Paced (Handling σ)}
    {handed closed : List Handle} {escaped : Bool}
    (tended : state.now.stage.Tended (escaping state.now.loop) handed closed escaped)
    {query : Query} {next : query.Reply → Paced (Handling σ)}
    (asks : state.request (request name role body) = .ask query next) (reply : query.Reply) :
    (next reply).now.stage.Tended (escaping (next reply).now.loop)
      (handed ++ (Exchange.handed? ⟨query, reply⟩).toList)
      (closed ++ (Exchange.closed? ⟨query, reply⟩).toList)
      (escaped || Exchange.escapes ⟨query, reply⟩) := by
  obtain ⟨pending, stage, loop⟩ := state
  cases pending with
  | cons emission rest =>
    cases asks
    simpa [Exchange.handed?, Exchange.closed?, Exchange.escapes] using tended
  | nil =>
    rw [Paced.request_nil] at asks
    cases tended with
    | creating calm =>
      cases asks
      cases reply with
      | error fault => cases fault <;> exact .denied _
      | ok found =>
        cases found with
        | none => exact .denied _
        | some handle => exact .opening handle calm
    | opening handle calm =>
      cases asks
      cases reply with
      | error fault =>
        cases fault with
        | error what => exact .closing handle _
        | foreign => exact .escaped handle _
      | ok opened =>
        cases opened with
        | false => exact .refused handle
        | true => exact .working handle (by simpa [Exchange.escapes, Paced.enter] using calm)
    | refused handle =>
      cases asks
      exact .closing handle _
    | working handle agrees =>
      simp only [request, Request.within] at asks
      cases hbody : body handle loop with
      | finish result =>
        rw [hbody] at asks
        cases asks
        have hfinish := (honest.finish hbody).trans agrees.symm
        cases result with
        | ok ending =>
          obtain rfl : escaped = false := by simpa using hfinish
          exact .closing handle ending
        | error fault =>
          cases fault with
          | error what =>
            obtain rfl : escaped = false := by simpa using hfinish
            exact .closing handle _
          | foreign =>
            obtain rfl : escaped = true := by simpa using hfinish
            exact .escaped handle _
      | ask query next =>
        rw [hbody] at asks
        cases asks
        have huses := honest.uses handle loop
        rw [hbody] at huses
        obtain ⟨hhanded, hclosed⟩ := @quiet_of_uses handle ⟨query, reply⟩ huses
        rw [hhanded, hclosed]
        refine .working handle ?_
        rw [Bool.or_eq_true, agrees]
        exact (honest.ask hbody reply).symm
    | closing handle ending =>
      cases asks
      cases reply with
      | error fault => cases fault <;> exact .closed handle _
      | ok => exact .closed handle _
    | closed handle outcome =>
      cases asks
      exact .gone handle outcome
    | escaped handle outcome =>
      cases asks
      exact .lost handle outcome
    | _ => cases asks

end Handling

namespace Engine

variable {name : String} {start engine : Engine} {exchanges : List Exchange}

/-- How the handle of an engine has been tended so far. -/
def Tended (engine : Engine) (exchanges : List Exchange) : Prop :=
  ∃ escaping, engine.stage.Tended escaping (handed exchanges) (closed exchanges)
    (exchanges.any Exchange.escapes)

/-- A course of an engine tends its handle, if the loop in it is an honest one. -/
theorem Course.tended_of_honest {σ : Type} {role : Role}
    {body : Handle → σ → Request Ending (Paced σ)} {escaping : σ → Prop}
    {wrap : Paced (Handling σ) → Engine} {loop : σ}
    (honest : IsHonest body escaping) (calm : ¬escaping loop)
    (stage : ∀ state, (wrap state).stage = state.now.stage)
    (wraps : ∀ state, (wrap state).request name =
      (state.request (Handling.request name role body)).map wrap)
    (course : Course name (wrap (Handling.begin loop)) exchanges engine) :
    engine.Tended exchanges := by
  suffices htended : ∃ state, engine = wrap state ∧
      state.now.stage.Tended (escaping state.now.loop) (handed exchanges) (closed exchanges)
        (exchanges.any Exchange.escapes) by
    obtain ⟨state, rfl, tended⟩ := htended
    exact ⟨_, stage state ▸ tended⟩
  induction course with
  | start => exact ⟨_, rfl, .creating calm⟩
  | @ask exchanges engine query next before asks reply ih =>
    obtain ⟨state, rfl, tended⟩ := ih
    rw [wraps] at asks
    obtain ⟨goesOn, hasks, rfl⟩ := Request.of_map_eq_ask asks
    refine ⟨_, rfl, ?_⟩
    have hstep := tended.step honest hasks reply
    rw [handed_concat, closed_concat, List.any_append]
    simpa using hstep

theorem Course.tended (course : Course name start exchanges engine) (new : start.IsNew) :
    engine.Tended exchanges := by
  cases new with
  | producer isPipelined options =>
    cases isPipelined with
    | true =>
      exact tended_of_honest (Producer.Pipelined.honest name options)
        (by simp [Producer.Pipelined.IsEscaping, Producer.Pipelined.Loop.start])
        (fun _ => rfl) (fun _ => rfl) course
    | false =>
      exact tended_of_honest (Producer.Blocking.honest name options)
        (by simp [Producer.Blocking.IsEscaping]) (fun _ => rfl) (fun _ => rfl) course
  | consumer isPipelined options =>
    cases isPipelined with
    | true =>
      exact tended_of_honest (Consumer.Pipelined.honest name)
        (by simp [Consumer.Pipelined.IsEscaping]) (fun _ => rfl) (fun _ => rfl) course
    | false =>
      exact tended_of_honest (Consumer.Blocking.honest name)
        (by simp [Consumer.Blocking.IsEscaping]) (fun _ => rfl) (fun _ => rfl) course

/-- Reading and writing is done with a handle that is in use. -/
theorem working_of_isTransfer {query : Query} {next : query.Reply → Engine}
    (asks : engine.request name = .ask query next) {reply : query.Reply}
    (transfers : Exchange.isTransfer ⟨query, reply⟩ = true) :
    ∃ handle, engine.stage = .working handle := by
  have hsteps := (steps asks reply).1
  generalize engine.stage = stage, (next reply).stage = later at hsteps ⊢
  generalize (⟨query, reply⟩ : Exchange) = exchange at hsteps transfers
  cases hsteps with
  | work handle => exact ⟨handle, rfl⟩
  | pass handle exchange held kept idle tends =>
    obtain ⟨query, reply⟩ := exchange
    cases query with
    | broker call => cases call <;> simp [Query.tends] at tends <;> cases transfers
    | _ => cases transfers
  | _ => cases transfers

/-- An engine that has finished has nothing more to do with its handle. -/
theorem stage_of_finish {outcome : Outcome} (finishes : engine.request name = .finish outcome) :
    engine.stage = .over outcome := by
  cases engine <;> exact (Handling.over_of_finish (Request.of_map_eq_finish finishes)).2

/-- After a handle was closed nothing is read or written any more. -/
theorem Course.ordered (course : Course name start exchanges engine) (new : start.IsNew) :
    exchanges.Pairwise fun earlier later =>
      earlier.closed? ≠ none → later.isTransfer = false := by
  induction course with
  | start => exact .nil
  | @ask exchanges engine query next before asks reply ih =>
    refine List.pairwise_append.2 ⟨ih, List.pairwise_singleton _ _, ?_⟩
    intro earlier hmem other hother closes
    obtain rfl := List.mem_singleton.1 hother
    by_contra htransfers
    obtain ⟨handle, hworking⟩ := working_of_isTransfer asks (Bool.not_eq_false _ ▸ htransfers)
    obtain ⟨escaping, tended⟩ := before.tended new
    rw [hworking] at tended
    have hclosed : closed exchanges = [] := tended.closed_of_working
    obtain ⟨other, hcloses⟩ := Option.ne_none_iff_exists'.1 closes
    have hother : other ∈ closed exchanges := List.mem_filterMap.2 ⟨earlier, hmem, hcloses⟩
    rw [hclosed] at hother
    cases hother

end Engine
end BrokerLoad
