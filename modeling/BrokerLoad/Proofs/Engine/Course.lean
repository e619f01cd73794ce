import BrokerLoad.Proofs.Engine.Handles
import BrokerLoad.Proofs.Producer.BlockingMoves
import BrokerLoad.Proofs.Producer.PipelinedMoves

/-!
# The courses of engines

A *course* of an engine is a run of it, whatever kind of engine it is, read as the list of its
exchanges.  In a course of a producer there is a run of its loop, and with regard to what is
sent the two are the same (`Course.pipelined`, `Course.blocking`).  In a course of a consumer
nothing is sent (`Course.consumer`).

What a step of an engine does to its handle depends on the stage of the handle only
(`Engine.steps`).  While a handle is in use it is the only one that is used.
-/

namespace BrokerLoad

/-! ## Loops that send nothing -/

/-- A request that is not about messages sent, and nothing after it is said that is. -/
def Request.IsQuiet {α κ : Type} (handle : Handle) : Request α (Paced κ) → Prop
  | .finish _ => True
  | .ask query next => query.uses handle = true ∧ ∀ reply,
      Exchange.isSending ⟨query, reply⟩ = false ∧
        ∀ emission ∈ (next reply).pending, emission.isSending = false

namespace Request.IsQuiet

variable {α β σ τ : Type} {handle : Handle}

theorem within {request : Request α (Paced σ)} (quiet : request.IsQuiet handle) (lift : σ → τ)
    {after : Except Fault α → Paced τ}
    (ends : ∀ result, ∀ emission ∈ (after result).pending, emission.isSending = false) :
    (request.within lift after : Request β (Paced τ)).IsQuiet handle := by
  cases request with
  | finish result => exact ⟨rfl, fun _ => ⟨rfl, ends result⟩⟩
  | ask query next => exact quiet

/-- A loop that sends nothing has sent nothing. -/
theorem of_run {body : σ → Request α (Paced σ)} (quiet : ∀ loop, (body loop).IsQuiet handle)
    {start : σ} {turns : List (Turn σ)} {state : Paced σ}
    (run : Run body (.enter start) turns state) :
    (turns.map Turn.exchange).filter Exchange.isSending = [] ∧
      ∀ emission ∈ state.pending, emission.isSending = false := by
  induction run with
  | start => exact ⟨rfl, by simp [Paced.enter]⟩
  | @ask turns state query next before asks reply ih =>
    obtain ⟨hturns, hpending⟩ := ih
    have hstep : Exchange.isSending ⟨query, reply⟩ = false ∧
        ∀ emission ∈ (next reply).pending, emission.isSending = false := by
      obtain ⟨pending, now⟩ := state
      cases pending with
      | nil =>
        have hquiet := quiet now
        rw [show body now = .ask query next from asks] at hquiet
        exact hquiet.2 reply
      | cons emission rest =>
        cases asks
        exact ⟨hpending emission List.mem_cons_self,
          fun other hmem => hpending other (List.mem_cons_of_mem _ hmem)⟩
    refine ⟨?_, hstep.2⟩
    rw [List.map_append, List.filter_append, hturns]
    simp [hstep.1]

end Request.IsQuiet

namespace Consumer

theorem Intake.quiet (name : String) (handle : Handle) (intake : Intake) :
    (intake.request name).IsQuiet handle := by
  obtain ⟨stage, delivery, counts⟩ := intake
  cases stage with
  | arrived =>
    refine ⟨rfl, fun reply => ⟨rfl, ?_⟩⟩
    dsimp only
    split <;> simp [Paced.enter]
  | noting id =>
    refine ⟨rfl, fun reply => ⟨rfl, ?_⟩⟩
    dsimp only
    split <;> simp [Paced.enter]
  | acking id =>
    refine ⟨rfl, fun reply => ⟨rfl, ?_⟩⟩
    cases reply with
    | ok settled => cases settled <;> simp
    | error fault => simp [Paced.enter]
  | _ => trivial

theorem Pipelined.quiet (name : String) (handle : Handle) (loop : Loop) :
    (request name handle loop).IsQuiet handle := by
  obtain ⟨point, counts⟩ := loop
  cases point with
  | asking =>
    refine ⟨decide_eq_true rfl, fun reply => ⟨rfl, ?_⟩⟩
    cases reply with
    | ok ticket => cases ticket <;> simp [Paced.enter]
    | error fault => simp [Paced.enter]
  | collecting ticket =>
    refine ⟨rfl, fun reply => ⟨rfl, ?_⟩⟩
    cases reply with
    | ok delivery => cases delivery <;> simp
    | error fault => simp [Paced.enter]
  | refused =>
    exact ⟨decide_eq_true rfl, fun reply => ⟨rfl, by simp⟩⟩
  | handling intake =>
    exact (intake.quiet name handle).within _ fun result => by simp [Paced.enter]
  | halted outcome => trivial
  | _ => exact ⟨rfl, fun reply => ⟨rfl, by simp [Paced.enter]⟩⟩

theorem Blocking.quiet (name : String) (handle : Handle) (loop : Loop) :
    (request name handle loop).IsQuiet handle := by
  obtain ⟨point, counts⟩ := loop
  cases point with
  | head => exact ⟨rfl, fun reply => ⟨rfl, by simp [Paced.enter]⟩⟩
  | reading =>
    refine ⟨decide_eq_true rfl, fun reply => ⟨rfl, ?_⟩⟩
    cases reply with
    | ok delivery => cases delivery <;> simp [Paced.enter]
    | error fault => simp [Paced.enter]
  | handling intake =>
    exact (intake.quiet name handle).within _ fun result => by simp [Paced.enter]
  | halted outcome => trivial

end Consumer

/-! ## What an engine does to its handle -/

/-- A loop uses no other handle than its own. -/
def Request.Uses {α κ : Type} (handle : Handle) : Request α κ → Prop
  | .finish _ => True
  | .ask query _ => query.uses handle = true

theorem Request.IsQuiet.uses {α κ : Type} {handle : Handle} {request : Request α (Paced κ)}
    (quiet : request.IsQuiet handle) : request.Uses handle := by
  cases request with
  | finish => trivial
  | ask query next => exact quiet.1

/-- A producer's loop uses the handle that it was given. -/
theorem Producer.Pipelined.uses (name : String) (options : Options) (handle : Handle)
    (loop : Loop) : (request name options handle loop).Uses handle := by
  cases hrequest : request name options handle loop with
  | finish => trivial
  | ask query next =>
    obtain ⟨point, remaining, window, draining, counts⟩ := loop
    cases point <;> simp only [request] at hrequest <;>
      (repeat' split at hrequest) <;> cases hrequest <;>
      first | rfl | exact decide_eq_true rfl

theorem Producer.Blocking.uses (name : String) (options : Options) (handle : Handle)
    (loop : Loop) : (request name options handle loop).Uses handle := by
  obtain ⟨point, sent, counts⟩ := loop
  cases point with
  | writing id attempt => exact decide_eq_true rfl
  | halted outcome => trivial
  | _ => rfl

namespace Handling

/-- What a step of an engine is, by the stages of its handle. -/
inductive Stage.Steps (role : Role) : Stage → Exchange → Stage → Prop
  /-- An emission is made. -/
  | say (stage : Stage) (emission : Emission) : Steps role stage ⟨.emit emission, ()⟩ stage
  | create (handle : Handle) :
    Steps role .creating ⟨.broker (.create role), .ok (some handle)⟩ (.opening handle)
  /-- There is to be no handle. -/
  | deny (reply : Except Fault (Option Handle)) (outcome : Outcome) :
    Steps role .creating ⟨.broker (.create role), reply⟩ (.over outcome)
  /-- The handle can be used. -/
  | opened (handle : Handle) :
    Steps role (.opening handle) ⟨.broker (.openHandle handle), .ok true⟩ (.working handle)
  /-- It is used, and only a publisher sends. -/
  | work (handle : Handle) (exchange : Exchange) (uses : exchange.1.uses handle = true)
      (sends : exchange.isSending = true → ∃ path, role = .publisher path) :
    Steps role (.working handle) exchange (.working handle)
  /-- It is not used, or not any more. -/
  | pass {stage later : Stage} (handle : Handle) (exchange : Exchange)
      (held : stage.handle? = some handle) (kept : later.handle? = some handle)
      (idle : later.isWorking = false) (tends : exchange.1.tends handle = true) :
    Steps role stage exchange later
  | release (handle : Handle) (outcome : Outcome) :
    Steps role (.releasing handle outcome) ⟨.broker (.release handle), ()⟩ (.over outcome)

variable {σ : Type} {name : String} {role : Role} {body : Handle → σ → Request Ending (Paced σ)}

theorem Move.steps {state after : Paced (Handling σ)} {exchange : Exchange}
    (uses : ∀ handle loop, (body handle loop).Uses handle)
    (sends : (∃ path, role = .publisher path) ∨ ∀ handle loop, (body handle loop).IsQuiet handle)
    (move : Move role body state exchange after) :
    state.now.stage.Steps role exchange after.now.stage := by
  cases move with
  | emit emission rest engine => exact .say _ emission
  | create handle loop => exact .create handle
  | deny reply reports outcome loop quiet failed => exact .deny reply outcome
  | opened handle loop => exact .opened handle
  | work handle loop asks reply =>
    have huses := uses handle loop
    rw [asks] at huses
    refine .work handle _ huses fun sending => ?_
    rcases sends with hpublisher | hquiet
    · exact hpublisher
    · have hsilent := hquiet handle loop
      rw [asks] at hsilent
      rw [(hsilent.2 reply).1] at sending
      cases sending
  | pass handle exchange reports loop held kept late idle tends quiet honest =>
    exact .pass handle exchange held kept idle tends
  | release handle outcome loop => exact .release handle outcome

/-- An engine that has finished has said all, and its handle is gone. -/
theorem over_of_finish {state : Paced (Handling σ)} {outcome : Outcome}
    (finishes : state.request (request name role body) = .finish outcome) :
    state.pending = [] ∧ state.now.stage = .over outcome := by
  obtain ⟨pending, stage, loop⟩ := state
  cases pending with
  | cons emission rest => cases finishes
  | nil =>
    rw [Paced.request_nil] at finishes
    match stage, finishes with
    | .over result, finishes =>
      cases finishes
      exact ⟨rfl, rfl⟩
    | .working handle, finishes =>
      simp only [request] at finishes
      cases hbody : body handle loop <;> rw [hbody] at finishes <;> cases finishes

end Handling

/-! ## Engines -/

namespace Engine

/-- The stage of the handle. -/
def stage : Engine → Handling.Stage
  | .pipelinedProducer _ state => state.now.stage
  | .blockingProducer _ state => state.now.stage
  | .pipelinedConsumer _ state => state.now.stage
  | .blockingConsumer _ state => state.now.stage

/-- What is still to be said. -/
def pending : Engine → List Emission
  | .pipelinedProducer _ state => state.pending
  | .blockingProducer _ state => state.pending
  | .pipelinedConsumer _ state => state.pending
  | .blockingConsumer _ state => state.pending

/-- How many messages an engine is to send. -/
def messages : Engine → Nat
  | .pipelinedProducer options _ => options.messages.toNat
  | .blockingProducer options _ => options.messages.toNat
  | _ => 0

/-- Whether an engine is a producer. -/
def isProducer : Engine → Bool
  | .pipelinedProducer _ _ => true
  | .blockingProducer _ _ => true
  | _ => false

/-- A step of an engine is a step of its handle, and the engine stays of its kind. -/
theorem steps {name : String} {engine : Engine} {query : Query} {next : query.Reply → Engine}
    (asks : engine.request name = .ask query next) (reply : query.Reply) :
    engine.stage.Steps engine.role ⟨query, reply⟩ (next reply).stage ∧
      (next reply).role = engine.role ∧ (next reply).isProducer = engine.isProducer := by
  cases engine with
  | pipelinedProducer options state =>
    obtain ⟨before, hasks, rfl⟩ := Request.of_map_eq_ask asks
    exact ⟨(Handling.Move.of_request hasks reply).steps (Producer.Pipelined.uses name options)
      (.inl ⟨_, rfl⟩), rfl, rfl⟩
  | blockingProducer options state =>
    obtain ⟨before, hasks, rfl⟩ := Request.of_map_eq_ask asks
    exact ⟨(Handling.Move.of_request hasks reply).steps (Producer.Blocking.uses name options)
      (.inl ⟨_, rfl⟩), rfl, rfl⟩
  | pipelinedConsumer options state =>
    obtain ⟨before, hasks, rfl⟩ := Request.of_map_eq_ask asks
    have hquiet := Consumer.Pipelined.quiet name
    exact ⟨(Handling.Move.of_request hasks reply).steps
      (fun handle loop => (hquiet handle loop).uses) (.inr hquiet), rfl, rfl⟩
  | blockingConsumer options state =>
    obtain ⟨before, hasks, rfl⟩ := Request.of_map_eq_ask asks
    have hquiet := Consumer.Blocking.quiet name
    exact ⟨(Handling.Move.of_request hasks reply).steps
      (fun handle loop => (hquiet handle loop).uses) (.inr hquiet), rfl, rfl⟩

/-- A course of an engine, whatever the replies: its exchanges, and the engine reached. -/
inductive Course (name : String) (start : Engine) : List Exchange → Engine → Prop where
  /-- Nothing has been asked. -/
  | start : Course name start [] start
  /-- One more query. -/
  | ask {exchanges : List Exchange} {engine : Engine} {query : Query}
      {next : query.Reply → Engine} (before : Course name start exchanges engine)
      (asks : engine.request name = .ask query next) (reply : query.Reply) :
      Course name start (exchanges ++ [⟨query, reply⟩]) (next reply)

namespace Course

variable {name : String} {exchanges : List Exchange} {engine : Engine}

/-- In a course of an engine there is a run of its loop. -/
theorem exists_encloses {σ : Type} {role : Role} {body : Handle → σ → Request Ending (Paced σ)}
    {wrap : Paced (Handling σ) → Engine} {start : σ}
    (wraps : ∀ state, (wrap state).request name =
      (state.request (Handling.request name role body)).map wrap)
    (course : Course name (wrap (Handling.begin start)) exchanges engine) :
    ∃ state handle turns inner, engine = wrap state ∧
      Handling.Encloses body start exchanges state handle turns inner := by
  suffices hrun : ∃ turns state, engine = wrap state ∧ exchanges = turns.map Turn.exchange ∧
      Run (Handling.request name role body) (Handling.begin start) turns state by
    obtain ⟨turns, state, hengine, rfl, run⟩ := hrun
    obtain ⟨handle, inner, reached, hencloses⟩ := Handling.exists_encloses run
    exact ⟨state, handle, inner, reached, hengine, hencloses⟩
  induction course with
  | start => exact ⟨[], _, rfl, rfl, .start⟩
  | ask before asks reply ih =>
    obtain ⟨turns, state, rfl, rfl, run⟩ := ih
    rw [wraps] at asks
    obtain ⟨goesOn, hasks, rfl⟩ := Request.of_map_eq_ask asks
    refine ⟨_, _, rfl, ?_, run.ask hasks reply⟩
    rw [List.map_append]
    rfl

theorem pipelined {options : Producer.Options}
    (course : Course name (producer true options) exchanges engine) :
    ∃ state handle turns inner, engine = .pipelinedProducer options state ∧
      Handling.Encloses (Producer.Pipelined.request name options) (.start options) exchanges state
        handle turns inner :=
  exists_encloses (fun _ => rfl) course

theorem blocking {options : Producer.Options}
    (course : Course name (producer false options) exchanges engine) :
    ∃ state handle turns inner, engine = .blockingProducer options state ∧
      Handling.Encloses (Producer.Blocking.request name options) {} exchanges state handle turns
        inner :=
  exists_encloses (fun _ => rfl) course

/-- A consumer sends nothing. -/
theorem consumer {isPipelined : Bool} {options : Consumer.Options}
    (course : Course name (Engine.consumer isPipelined options) exchanges engine) :
    exchanges.filter Exchange.isSending = [] := by
  cases isPipelined with
  | true =>
    obtain ⟨state, handle, turns, inner, -, encloses⟩ := exists_encloses (fun _ => rfl) course
    rw [encloses.sending]
    exact (Request.IsQuiet.of_run (Consumer.Pipelined.quiet name handle) encloses.run).1
  | false =>
    obtain ⟨state, handle, turns, inner, -, encloses⟩ := exists_encloses (fun _ => rfl) course
    rw [encloses.sending]
    exact (Request.IsQuiet.of_run (Consumer.Blocking.quiet name handle) encloses.run).1

end Course
end Engine
end BrokerLoad
