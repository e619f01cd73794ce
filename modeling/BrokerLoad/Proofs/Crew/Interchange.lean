import BrokerLoad.Proofs.Consumer.Lockstep
import BrokerLoad.Proofs.Engine.Course

/-!
# Consumers are interchangeable

Whether a consumer is pipelined or blocking makes no difference to what it does with a script
whose reads are plain: each read brings a delivery or ends in a fault, and a stop request may come
with any read and with any acknowledgement (`Crew.consumers_agree`).

The loops come to the same end by `Consumer.Blocking.InStep.exists_ended`.  What an engine asks
about its handle before and after its loop does not depend on the kind of the loop, and a client
answers it without a look at the deliveries on its record, which are all that may be different
then.
-/

namespace BrokerLoad

/-! ## Calls about a handle -/

/-- A call that is made for the life of a handle. -/
def Call.isAboutHandle : Call → Bool
  | .create _ | .openHandle _ | .lastError _ | .closeHandle _ | .release _ => true
  | _ => false

namespace Scripted

variable {client : Scripted} {call : Call}

/-- A call about a handle is answered without a look at the deliveries on record. -/
theorem serve_holding (about : call.isAboutHandle = true) (client : Scripted)
    (deliveries : Array Script.ReadStep) :
    (client.holding deliveries).serve call =
      { reply := (client.serve call).reply
        client := (client.serve call).client.holding deliveries
        stops := (client.serve call).stops } := by
  cases call with
  | create role =>
    simp only [serve, holding]
    split <;> rfl
  | openHandle handle =>
    simp only [serve, holding]
    split <;> rfl
  | closeHandle handle =>
    simp only [serve, holding]
    split <;> rfl
  | lastError handle | release handle => rfl
  | _ => cases about

/-- It leaves them there, and takes nothing from the script. -/
theorem kept_of_isAboutHandle (about : call.isAboutHandle = true) (client : Scripted) :
    (client.serve call).client.deliveries = client.deliveries ∧
      (client.serve call).client.script = client.script := by
  cases call with
  | create role =>
    simp only [serve]
    split <;> exact ⟨rfl, rfl⟩
  | openHandle handle =>
    simp only [serve]
    split <;> exact ⟨rfl, rfl⟩
  | closeHandle handle =>
    simp only [serve]
    split <;> exact ⟨rfl, rfl⟩
  | lastError handle | release handle => exact ⟨rfl, rfl⟩
  | _ => cases about

end Scripted

/-! ## Engines with other loops -/

namespace Handling

/-- Whether the loop has still to do its work. -/
def Stage.isAhead (stage : Stage) : Bool := stage.isEarly || stage.isWorking

/-- How far the handle of an engine is from its end. -/
def Stage.rank : Stage → Nat
  | .creating => 5
  | .opening _ => 4
  | .refused _ => 3
  | .working _ => 3
  | .closing _ _ => 2
  | .releasing _ _ => 1
  | .over _ => 0

variable {σ τ : Type} {name : String} {role : Role}
  {body : Handle → σ → Request Ending (Paced σ)} {body' : Handle → τ → Request Ending (Paced τ)}

/-- The same engine with another loop. -/
def withLoop (f : σ → τ) (engine : Handling σ) : Handling τ := ⟨engine.stage, f engine.loop⟩

theorem leave_withLoop (f : σ → τ) (name : String) (role : Role) (handle : Handle) (loop : σ)
    (outcome : Outcome) :
    leave name role handle (f loop) outcome =
      (leave name role handle loop outcome).map (withLoop f) := by
  rcases outcome with (what | _) | ending <;> rfl

/-- An engine that leaves its loop has its work behind it, and comes nearer to the end. -/
theorem nearer_leave (name : String) (role : Role) (handle : Handle) (loop : σ)
    (outcome : Outcome) :
    (leave name role handle loop outcome).now.stage.isAhead = false ∧
      (leave name role handle loop outcome).now.stage.rank < (Stage.working handle).rank := by
  rcases outcome with (what | _) | ending <;>
    exact ⟨rfl, by simp [leave, fail, Paced.enter, Stage.rank]⟩

/-- Except in its loop an engine asks what any other asks, and goes on alike. -/
theorem request_withLoop (name : String) (role : Role)
    (body : Handle → σ → Request Ending (Paced σ)) (body' : Handle → τ → Request Ending (Paced τ))
    (f : σ → τ) (engine : Handling σ)
    (idle : engine.stage.isWorking = false) :
    request name role body' (engine.withLoop f) =
      (request name role body engine).map (Paced.map (withLoop f)) := by
  obtain ⟨stage, loop⟩ := engine
  cases stage with
  | creating =>
    refine congrArg (Request.ask (Query.broker (.create role))) (funext fun reply => ?_)
    rcases reply with (what | _) | _ | handle <;> rfl
  | opening handle =>
    refine congrArg (Request.ask (Query.broker (.openHandle handle))) (funext fun reply => ?_)
    rcases reply with (what | _) | _ | _ <;> rfl
  | closing handle ending =>
    refine congrArg (Request.ask (Query.broker (.closeHandle handle))) (funext fun reply => ?_)
    rcases reply with (what | _) | _ <;> rfl
  | working handle => cases idle
  | _ => rfl

/-- What it asks there is about its handle, and it comes nearer to the end. -/
theorem nearer_of_request {engine : Handling σ} {query : Query}
    {next : query.Reply → Paced (Handling σ)} (idle : engine.stage.isWorking = false)
    (asks : request name role body engine = .ask query next) (reply : query.Reply) :
    (∃ call : Call, call.isAboutHandle = true ∧ query = .broker call) ∧
      (next reply).now.stage.rank < engine.stage.rank ∧
      ((next reply).now.stage.isAhead = true → engine.stage.isAhead = true ∧
        (next reply).pending = [] ∧ (next reply).now.loop = engine.loop) := by
  obtain ⟨stage, loop⟩ := engine
  cases stage with
  | creating =>
    cases asks
    refine ⟨⟨_, rfl, rfl⟩, ?_⟩
    rcases reply with (what | _) | _ | handle <;> simp [Stage.rank, Stage.isAhead, Paced.enter]
  | opening handle =>
    cases asks
    refine ⟨⟨_, rfl, rfl⟩, ?_⟩
    rcases reply with (what | _) | _ | _ <;> simp [Stage.rank, Stage.isAhead, Paced.enter, fail]
  | refused handle =>
    cases asks
    exact ⟨⟨_, rfl, rfl⟩, by simp [Stage.rank, Stage.isAhead]⟩
  | closing handle ending =>
    cases asks
    refine ⟨⟨_, rfl, rfl⟩, ?_⟩
    rcases reply with (what | _) | _ <;> simp [Stage.rank, Stage.isAhead, Paced.enter]
  | releasing handle outcome =>
    cases asks
    exact ⟨⟨_, rfl, rfl⟩, by simp [Stage.rank, Stage.isAhead, Paced.enter]⟩
  | working handle => cases idle
  | _ => cases asks

end Handling

/-! ## Engines abreast -/

namespace Consumer

variable {name : String} {role : Role} {duty : Duty (Handling Blocking.Loop) Scripted}
  {other : Duty (Handling Pipelined.Loop) Scripted} {deliveries : Array Script.ReadStep}

/-- The duty of a pipelined engine that is as far as a blocking one, and has other deliveries on
record. -/
def pipedHolding (deliveries : Array Script.ReadStep)
    (duty : Duty (Handling Blocking.Loop) Scripted) : Duty (Handling Pipelined.Loop) Scripted :=
  duty.relabel (Handling.withLoop Blocking.Loop.piped) (Shared.holding deliveries)

/-- What a query about a handle is answered, and what an emission leaves behind, does not depend
on the deliveries on record. -/
theorem turns_pipedHolding {query : Query} {next : query.Reply → Paced (Handling Blocking.Loop)}
    (asks' : (duty.state.map (Handling.withLoop Blocking.Loop.piped)).request
      (Handling.request name role (Pipelined.request name)) =
        .ask query fun reply => (next reply).map (Handling.withLoop Blocking.Loop.piped))
    (apart : (∃ emission, query = .emit emission) ∨
      ∃ call : Call, call.isAboutHandle = true ∧ query = .broker call) :
    Duty.Turns (Handling.request name role (Pipelined.request name)) (pipedHolding deliveries duty)
      (pipedHolding deliveries (duty.answered query next)) := by
  rcases apart with ⟨emission, rfl⟩ | ⟨call, about, rfl⟩
  · exact Duty.turns_relabel asks' rfl rfl fun lines => by cases emission <;> rfl
  · have hserved := Scripted.serve_holding about duty.shared.client deliveries
    have hcall : (Client.serve call (Shared.holding deliveries duty.shared).client) = _ := hserved
    refine Duty.turns_relabel asks' ?_ ?_ fun lines => ?_
    · simp only [Shared.answer, hcall]
      rfl
    · simp only [Shared.answer, hcall]
      rfl
    · simp only [Shared.answer, hcall]
      rfl

/-- What is true of a blocking engine and of a pipelined one that is as far. -/
structure Alike (deliveries : Array Script.ReadStep)
    (duty : Duty (Handling Blocking.Loop) Scripted) : Prop where
  onDuty : duty.life.OnDuty
  /-- While the loop has still to do its work there is no difference in the deliveries. -/
  ahead : duty.state.now.stage.isAhead = true → duty.state.pending = [] ∧
    duty.state.now.loop = {} ∧ duty.shared.client.ReadsPlainly ∧
    duty.shared.client.deliveries = deliveries

/-- A blocking engine, and the pipelined one that is as far. -/
def Abreast (duty : Duty (Handling Blocking.Loop) Scripted)
    (other : Duty (Handling Pipelined.Loop) Scripted) : Prop :=
  ∃ held, Alike held duty ∧ other = pipedHolding held duty

/-- Two engines that are abreast, and at their ends. -/
def BothOver (duty : Duty (Handling Blocking.Loop) Scripted)
    (other : Duty (Handling Pipelined.Loop) Scripted) : Prop :=
  ∃ held, Alike held duty ∧ other = pipedHolding held duty ∧
    ∃ outcome, duty.state = ⟨[], ⟨.over outcome, duty.state.now.loop⟩⟩

/-- What an engine has before it. -/
def handleLeft (duty : Duty (Handling Blocking.Loop) Scripted) : Nat × Nat × Nat :=
  (duty.state.now.stage.rank, duty.state.pending.length, 0)

/-- Except in their loops both take the same turn, and are nearer to the end. -/
theorem Alike.turns (alike : Alike deliveries duty) {query : Query}
    {next : query.Reply → Paced (Handling Blocking.Loop)}
    (asks : duty.state.request (Handling.request name role (Blocking.request name)) =
      .ask query next)
    (idle : duty.state.now.stage.isWorking = false) :
    Duty.Turns (Handling.request name role (Pipelined.request name)) (pipedHolding deliveries duty)
        (pipedHolding deliveries (duty.answered query next)) ∧
      Alike deliveries (duty.answered query next) ∧
      WellFoundedRelation.rel (handleLeft (duty.answered query next)) (handleLeft duty) := by
  have honDuty := ((Duty.turns_of_asks asks).onDuty alike.onDuty).1
  obtain ⟨life, ⟨pending, engine⟩, shared⟩ := duty
  cases pending with
  | cons emission rest =>
    cases asks
    refine ⟨turns_pipedHolding rfl (.inl ⟨emission, rfl⟩), ⟨honDuty, fun hahead => ?_⟩, ?_⟩
    · exact absurd (alike.ahead hahead).1 (List.cons_ne_nil _ _)
    · exact nearer_second (Nat.lt_succ_self rest.length)
  | nil =>
    have hasks : Handling.request name role (Blocking.request name) engine = .ask query next := asks
    have hasks' := Handling.request_withLoop name role (Blocking.request name)
      (Pipelined.request name) Blocking.Loop.piped engine idle
    rw [hasks] at hasks'
    obtain ⟨⟨call, about, rfl⟩, hrank, hahead⟩ :=
      Handling.nearer_of_request idle hasks (shared.answer life.stopRequested query).reply
    obtain ⟨hdeliveries, hscript⟩ := Scripted.kept_of_isAboutHandle about shared.client
    refine ⟨turns_pipedHolding hasks' (.inr ⟨call, about, rfl⟩), ⟨honDuty, fun hstill => ?_⟩,
      nearer_first hrank⟩
    obtain ⟨hbefore, hnothing, hloop⟩ := hahead hstill
    obtain ⟨-, hfresh, hplain, hsame⟩ := alike.ahead hbefore
    refine ⟨hnothing, hloop.trans hfresh, ?_, hdeliveries.trans hsame⟩
    show ∀ step ∈ (shared.client.serve call).client.script.reads, _
    rw [hscript]
    exact hplain

/-- A loop that is entered comes to its end in both, and both leave it alike. -/
theorem exists_left (name : String) (role : Role) (handle : Handle) {life : Lifecycle}
    {shared : Shared Scripted} (onDuty : life.OnDuty) (plain : shared.client.ReadsPlainly) :
    ∃ (deliveries' : Array Script.ReadStep) (after : Duty (Handling Blocking.Loop) Scripted),
      Duty.Reaches (Handling.request name role (Blocking.request name))
        ⟨life, ⟨[], ⟨.working handle, {}⟩⟩, shared⟩ after ∧
      Duty.Reaches (Handling.request name role (Pipelined.request name))
        ⟨life, ⟨[], ⟨.working handle, {}⟩⟩, shared⟩ (pipedHolding deliveries' after) ∧
      Alike deliveries' after ∧
        after.state.now.stage.rank < (Handling.Stage.working handle).rank := by
  have hinStep : Blocking.InStep ⟨life, ⟨[], {}⟩, shared⟩
      (Duty.relabel Blocking.Loop.piped id ⟨life, ⟨[], {}⟩, shared⟩) := ⟨rfl, onDuty, plain⟩
  obtain ⟨last, last', hreaches, hreaches', outcome, deliveries', hfinished, rfl⟩ :=
    hinStep.exists_ended name handle
  let after : Duty (Handling Blocking.Loop) Scripted :=
    ⟨last.life, Handling.leave name role handle last.state.now outcome, last.shared⟩
  have hlast := (hreaches.onDuty onDuty).1
  have hleave : Duty.Turns (Handling.request name role (Blocking.request name))
      (last.inUse handle) after :=
    ⟨.pause, _, Handling.request_finished hfinished, by
      simp only [Duty.answered, Shared.answer, Worker.interrupts, Shared.say_nil]
      rfl⟩
  have hleave' : Duty.Turns (Handling.request name role (Pipelined.request name))
      ((last.relabel Blocking.Loop.piped (Shared.holding deliveries')).inUse handle)
      (pipedHolding deliveries' after) :=
    ⟨.pause, _, Handling.request_finished (Blocking.finish_piped hfinished), by
      simp only [Duty.answered, Shared.answer, Worker.interrupts, Shared.say_nil, pipedHolding,
        Duty.relabel, after, ← Handling.leave_withLoop]
      rfl⟩
  obtain ⟨hbehind, hnearer⟩ := Handling.nearer_leave name role handle last.state.now outcome
  refine ⟨deliveries', after, hreaches.inUse.tail hleave, hreaches'.inUse.tail hleave', ?_, hnearer⟩
  exact ⟨hlast, fun hahead => absurd (hbehind.symm.trans hahead) Bool.false_ne_true⟩

/-- Two engines that are alike come to their ends alike. -/
theorem Alike.exists_over (name : String) (role : Role) (alike : Alike deliveries duty) :
    ∃ (last : Duty (Handling Blocking.Loop) Scripted) (deliveries' : Array Script.ReadStep)
      (outcome : Outcome),
      duty.Reaches (Handling.request name role (Blocking.request name)) last ∧
      (pipedHolding deliveries duty).Reaches (Handling.request name role (Pipelined.request name))
        (pipedHolding deliveries' last) ∧
      last.life.OnDuty ∧ last.state = ⟨[], ⟨.over outcome, last.state.now.loop⟩⟩ := by
  suffices hmeeting : ∃ last last',
      duty.Reaches (Handling.request name role (Blocking.request name)) last ∧
      (pipedHolding deliveries duty).Reaches
        (Handling.request name role (Pipelined.request name)) last' ∧ BothOver last last' by
    obtain ⟨last, -, hreaches, hreaches', held, halike, rfl, outcome, hover⟩ := hmeeting
    exact ⟨last, held, outcome, hreaches, hreaches', halike.onDuty, hover⟩
  have habreast : Abreast duty (pipedHolding deliveries duty) := ⟨deliveries, alike, rfl⟩
  refine Duty.exists_meeting handleLeft (fun {here there} habreast => ?_) habreast
  obtain ⟨held, halike, rfl⟩ := habreast
  cases hworking : here.state.now.stage.isWorking with
  | true =>
    obtain ⟨hnothing, hloop, hplain, hheld⟩ := halike.ahead
      (by rw [Handling.Stage.isAhead, hworking, Bool.or_true])
    obtain ⟨life, ⟨pending, stage, loop⟩, shared⟩ := here
    obtain ⟨rfl, rfl, rfl⟩ : pending = [] ∧ loop = {} ∧ shared.client.deliveries = held :=
      ⟨hnothing, hloop, hheld⟩
    cases stage with
    | working handle =>
      obtain ⟨held', after, hreaches, hreaches', hafter, hnearer⟩ :=
        exists_left name role handle halike.onDuty hplain
      exact ⟨after, _, hreaches, hreaches', .inr ⟨⟨held', hafter, rfl⟩, nearer_first hnearer⟩⟩
    | _ => cases hworking
  | false =>
    cases hrequest : here.state.request
        (Handling.request name role (Blocking.request name)) with
    | ask query next =>
      obtain ⟨hturns, hafter, hnearer⟩ := halike.turns hrequest hworking
      exact ⟨_, _, .single (Duty.turns_of_asks hrequest), .single hturns,
        .inr ⟨⟨held, hafter, rfl⟩, hnearer⟩⟩
    | finish outcome =>
      obtain ⟨hpending, hstage⟩ := Handling.over_of_finish hrequest
      obtain ⟨life, ⟨pending, stage, loop⟩, shared⟩ := here
      obtain ⟨rfl, rfl⟩ : pending = [] ∧ stage = .over outcome := ⟨hpending, hstage⟩
      exact ⟨_, _, .refl, .refl, .inl ⟨held, halike, rfl, outcome, rfl⟩⟩

end Consumer

/-! ## Workers -/

namespace Crew

/-- A worker whose engine is at work, and comes to its end, ends itself. -/
theorem exists_runWorker_of_reaches {β σ : Type} [Client β] {name : String} {role : Role}
    {body : Handle → σ → Request Ending (Paced σ)} (wrap : Paced (Handling σ) → Engine)
    (wraps : ∀ state, (wrap state).request name =
      (state.request (Handling.request name role body)).map wrap)
    {loop : σ} {start : Shared β} {last : Duty (Handling σ) β} {outcome : Outcome}
    (reaches : Duty.Reaches (Handling.request name role body)
      ⟨Worker.workingLife name, Handling.begin loop, start.say [.out (name ++ " started")]⟩ last)
    (ended : last.state = ⟨[], ⟨.over outcome, last.state.now.loop⟩⟩) :
    ∃ bound, runWorker 0 bound (Crew.start ⟨start, [.hire name (wrap (Handling.begin loop))]⟩ 0) =
      ⟨last.shared.say (Worker.lastWords name outcome),
        [⟨last.life.exited outcome.ending, wrap last.state⟩]⟩ := by
  obtain ⟨honDuty, hname⟩ := reaches.onDuty (Worker.onDuty_workingLife name)
  have hannounce : Worker.Steps
      (⟨{ name := name, state := .running, phase := .announcing }, wrap (Handling.begin loop)⟩,
        start) []
      (⟨Worker.workingLife name, wrap (Handling.begin loop)⟩,
        start.say [.out (name ++ " started")]) := .live (by simp) rfl
  obtain ⟨trail, hwork⟩ :=
    reaches.employ wrap wraps (Worker.onDuty_workingLife name) rfl
  have hfinish : (wrap last.state).request last.life.name = .finish outcome := by
    rw [hname, Worker.workingLife_name, wraps, ended]
    rfl
  have hexited := Worker.reaches_exited _ last.shared honDuty.working hfinish
  rw [hname, Worker.workingLife_name] at hexited
  obtain ⟨bound, hbound⟩ := exists_runWorker (.head hannounce (hwork.trans hexited))
  exact ⟨bound, (start_hire ..).symm ▸ hbound⟩

/-- Two consumers of one name, each alone with a client that follows the same script, one of them
pipelined and the other blocking.  If every read of the script brings a delivery or ends in a
fault, then both end, for the same reason and with the same counts; the ledger and the log are the
same afterwards; and both have asked for as many reads and for as many acknowledgements. -/
theorem consumers_agree (name : String) (options : Consumer.Options) (start : Shared Scripted)
    (plain : start.client.ReadsPlainly) :
    ∃ (bound bound' : Nat) (life : Lifecycle) (engine engine' : Engine)
      (counts : Consumer.Counts) (after after' : Shared Scripted),
      runWorker 0 bound (Crew.start ⟨start, [.hire name (.consumer true options)]⟩ 0) =
        ⟨after, [⟨life, engine⟩]⟩ ∧
      runWorker 0 bound' (Crew.start ⟨start, [.hire name (.consumer false options)]⟩ 0) =
        ⟨after', [⟨life, engine'⟩]⟩ ∧
      life.isDone = true ∧
      engine.counts = .consumer counts ∧ engine'.counts = .consumer counts ∧
      after.ledger = after'.ledger ∧ after.log = after'.log ∧
      after.client.readCalls = after'.client.readCalls ∧
      after.client.ackCalls = after'.client.ackCalls := by
  have halike : Consumer.Alike start.client.deliveries
      ⟨Worker.workingLife name, Handling.begin {}, start.say [.out (name ++ " started")]⟩ :=
    ⟨Worker.onDuty_workingLife name, fun _ => ⟨rfl, rfl, plain, rfl⟩⟩
  obtain ⟨last, deliveries, outcome, hblocking, hpipelined, honDuty, hover⟩ :=
    halike.exists_over name options.role
  obtain ⟨bound', hrun'⟩ := exists_runWorker_of_reaches
    (Engine.blockingConsumer options) (fun _ => rfl) hblocking hover
  have hover' : (Consumer.pipedHolding deliveries last).state =
      ⟨[], ⟨.over outcome, last.state.now.loop.piped⟩⟩ := by
    show Paced.map _ last.state = _
    rw [hover]
    rfl
  have hpipelined' : Duty.Reaches
      (Handling.request name options.role (Consumer.Pipelined.request name))
      ⟨Worker.workingLife name, Handling.begin {}, start.say [.out (name ++ " started")]⟩
      (Consumer.pipedHolding deliveries last) := hpipelined
  obtain ⟨bound, hrun⟩ := exists_runWorker_of_reaches
    (Engine.pipelinedConsumer options) (fun _ => rfl) hpipelined' hover'
  refine ⟨bound, bound', _, _, _, last.state.now.loop.counts, _, _, hrun, hrun', ?_, rfl, rfl, rfl,
    rfl, rfl, rfl⟩
  exact Latch.isSet_notify honDuty.closable

/-- Four reads, of which the second brings what the first has brought, the third is interrupted by
stop requests, and the fourth would end in a fault. -/
def interruptedReads : List Script.ReadStep :=
  [{ act := .brings [0, 0, 0, 0, 0, 0, 0, 7, 65] },
    { act := .brings [0, 0, 0, 0, 0, 0, 0, 7, 65] },
    { act := .brings [0, 0, 0, 0, 0, 0, 0, 8], stopAtRead := true, stopAtAck := true },
    { act := .throws (.error "connection lost") }]

theorem consumers_agree_until_stopped :
    Scripted.ReadsPlainly { script := { reads := interruptedReads } } ∧
    ∃ (bound bound' : Nat) (life : Lifecycle) (engine engine' : Engine)
      (counts : Consumer.Counts) (after after' : Shared Scripted),
      runWorker 0 bound (Crew.start ⟨{ client := { script := { reads := interruptedReads } } },
          [.hire "reader" (.consumer true { destination := "/d", group := "g" })]⟩ 0) =
        ⟨after, [⟨life, engine⟩]⟩ ∧
      runWorker 0 bound' (Crew.start ⟨{ client := { script := { reads := interruptedReads } } },
          [.hire "reader" (.consumer false { destination := "/d", group := "g" })]⟩ 0) =
        ⟨after', [⟨life, engine'⟩]⟩ ∧
      life.isDone = true ∧
      engine.counts = .consumer counts ∧ engine'.counts = .consumer counts ∧
      after.ledger = after'.ledger ∧ after.log = after'.log ∧
      after.client.readCalls = after'.client.readCalls ∧
      after.client.ackCalls = after'.client.ackCalls := by
  have hplain : Scripted.ReadsPlainly { script := { reads := interruptedReads } } := by
    simp [Scripted.ReadsPlainly, interruptedReads, Script.Reading.isPlain]
  exact ⟨hplain, consumers_agree _ _ _ hplain⟩

end Crew
end BrokerLoad
