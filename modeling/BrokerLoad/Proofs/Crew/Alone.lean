import BrokerLoad.Crew
import BrokerLoad.Proofs.Attended

/-!
# A worker alone with its client

A worker that nobody else disturbs is started, creates and opens its handle, does what its loop
does, and when the loop is over it closes the handle, gives it back and ends.  What the loop does
is one thing, and an attended run of it is all that is assumed of it here; all the rest is the
same for every worker, and is worked out once (`Worker.reaches_finished`): how the worker ends,
what it says and what it asks before and after its loop is a function of its name, the role of its
handle and the outcome of its loop.

The client is one that asks nobody to stop, so that the worker is not interrupted either.
-/

namespace BrokerLoad

/-- What a worker is asked to record when its loop has ended. -/
def Outcome.ending : Outcome → Ending
  | .ok ending => ending
  | .error _ => .unexpectedError

/-- A life after its end: what the worker's own thread has changed once its loop has ended. -/
def Lifecycle.exited (life : Lifecycle) (ending : Ending) : Lifecycle :=
  { life with state := .stopped, ending, done := life.done.notify.2, phase := .exited }

namespace Shared

variable {β : Type}

@[simp] theorem say_nil (shared : Shared β) : shared.say [] = shared := by
  rw [Shared.say, List.append_nil]

end Shared

/-! ## Steps of a worker -/

namespace Worker

variable {β : Type} [Client β]

/-- What a worker asks in its next step, if it asks. -/
def asks (worker : Worker) (shared : Shared β) : List Exchange :=
  if worker.life.phase = .working then
    match worker.engine.request worker.life.name with
    | .finish _ => []
    | .ask query _ => [⟨query, (shared.answer worker.life.stopRequested query).reply⟩]
  else []

/-- A worker takes a step, and asks something or nothing. -/
structure Steps (before : Worker × Shared β) (trail : List Exchange) (after : Worker × Shared β) :
    Prop where
  becomes : before.1.step before.2 = some after
  trails : before.1.asks before.2 = trail

/-- What a worker and the things that it shares become by steps of its own, and what it asks on the
way. -/
inductive Reaches : Worker × Shared β → List Exchange → Worker × Shared β → Prop where
  /-- No step is taken. -/
  | refl (here : Worker × Shared β) : Reaches here [] here
  /-- A step, and more of them. -/
  | head {before next after : Worker × Shared β} {trail more : List Exchange}
      (steps : Steps before trail next) (rest : Reaches next more after) :
      Reaches before (trail ++ more) after

namespace Reaches

variable {before next after : Worker × Shared β} {trail more : List Exchange}

theorem single (steps : Steps before trail after) : Reaches before trail after :=
  List.append_nil trail ▸ .head steps (.refl after)

theorem trans (first : Reaches before trail next) (rest : Reaches next more after) :
    Reaches before (trail ++ more) after := by
  induction first with
  | refl => exact rest
  | head steps _ ih =>
    rw [List.append_assoc]
    exact .head steps (ih rest)

end Reaches

variable {life : Lifecycle} {engine : Engine} {shared after : Shared β}

/-- An engine that asks gets its answer. -/
theorem Steps.ask [QuietClient β] {query : Query} {next : query.Reply → Engine}
    {reply : query.Reply} (working : life.phase = .working) (going : life.stopRequested = false)
    (asks : engine.request life.name = .ask query next)
    (answers : shared.Answers ⟨query, reply⟩ after) :
    Steps (⟨life, engine⟩, shared) [⟨query, reply⟩] (⟨life, next reply⟩, after) := by
  have hstops : (shared.answer false query).stops = [] := by
    cases query with
    | broker call => exact QuietClient.stops_serve call shared.client
    | _ => rfl
  have hreply : reply = (shared.answer false query).reply := answers.reply
  have hafter : after = (shared.answer false query).client := answers.after
  refine ⟨?_, ?_⟩
  · rw [step, if_pos working, asks]
    simp only [going, hstops, interrupts, Shared.say_nil, hreply, hafter]
  · rw [Worker.asks, if_pos working, asks]
    simp only [going, hreply]

/-- Outside its work loop a worker's life goes on. -/
theorem Steps.live {next : Lifecycle} {lines : List LogLine} (idle : life.phase ≠ .working)
    (advances : life.advance none = some (next, lines)) :
    Steps (⟨life, engine⟩, shared) [] (⟨next, engine⟩, shared.say lines) := by
  refine ⟨?_, ?_⟩
  · rw [step, if_neg idle, advance, advances]
    rfl
  · rw [asks, if_neg idle]

/-- A worker whose engine has finished leaves its work loop. -/
theorem Steps.finish {outcome : Outcome} {next : Lifecycle} (working : life.phase = .working)
    (finishes : engine.request life.name = .finish outcome)
    (advances : life.advance (some outcome) = some (next, [])) :
    Steps (⟨life, engine⟩, shared) [] (⟨next, engine⟩, shared) := by
  refine ⟨?_, ?_⟩
  · rw [step, if_pos working, finishes]
    simp only [advance, advances, Option.map_some, Shared.say_nil]
  · rw [asks, if_pos working, finishes]

/-- A worker of a name in its work loop. -/
def workingLife (name : String) : Lifecycle := { name, state := .running, phase := .working }

@[simp] theorem workingLife_name (name : String) : (workingLife name).name = name := rfl

/-- A worker of a name that has ended. -/
def exitedLife (name : String) (ending : Ending) : Lifecycle :=
  { name, state := .stopped, ending, done := Latch.ready.notify.2, phase := .exited }

@[simp] theorem exited_workingLife (name : String) (ending : Ending) :
    (workingLife name).exited ending = exitedLife name ending := rfl

/-- What a worker says when its engine has finished. -/
def lastWords (name : String) (outcome : Outcome) : List LogLine :=
  let farewell := .out (name ++ " stopped (" ++ outcome.ending.text ++ ")")
  match outcome with
  | .ok _ => [farewell]
  | .error fault => [.err (Lifecycle.faultText name fault), farewell]

/-- A worker that is about to record how its loop ended does so and ends. -/
theorem reaches_exited_of_recording (life : Lifecycle) (engine : Engine) (ending : Ending)
    (shared : Shared β) :
    Reaches (⟨{ life with phase := .recording ending }, engine⟩, shared) []
      (⟨life.exited ending, engine⟩,
        shared.say [.out (life.name ++ " stopped (" ++ ending.text ++ ")")]) := by
  have hrecord : Steps (⟨{ life with phase := .recording ending }, engine⟩, shared) []
      (⟨{ life with ending := ending, phase := .closing ending }, engine⟩,
        shared.say []) := .live (by simp) rfl
  have hclose : Steps
      (⟨{ life with ending := ending, phase := .closing ending }, engine⟩, shared) []
      (⟨{ life with state := .stopped, ending := ending, phase := .leaving ending },
        engine⟩, shared.say []) := .live (by simp) rfl
  have hleave : Steps
      (⟨{ life with state := .stopped, ending := ending, phase := .leaving ending },
        engine⟩, shared) []
      (⟨{ life with state := .stopped, ending := ending, phase := .signalling },
        engine⟩, shared.say [.out (life.name ++ " stopped (" ++ ending.text ++ ")")]) :=
    .live (by simp) rfl
  have hsignal : ∀ said : Shared β, Steps
      (⟨{ life with state := .stopped, ending := ending, phase := .signalling },
        engine⟩, said) [] (⟨life.exited ending, engine⟩, said.say []) :=
    fun said => .live (by simp) rfl
  simp only [Shared.say_nil] at hrecord hclose hsignal
  exact .head hrecord (.head hclose (.head hleave (.single (hsignal _))))

/-- A worker whose engine has finished ends, and says so. -/
theorem reaches_exited (life : Lifecycle) {outcome : Outcome} (shared : Shared β)
    (working : life.phase = .working)
    (finishes : engine.request life.name = .finish outcome) :
    Reaches (⟨life, engine⟩, shared) []
      (⟨life.exited outcome.ending, engine⟩, shared.say (lastWords life.name outcome)) := by
  cases outcome with
  | ok ending =>
    have hfinish : Steps (⟨life, engine⟩, shared) []
        (⟨{ life with phase := .recording ending }, engine⟩, shared) :=
      .finish working finishes (by rw [Lifecycle.advance, working])
    exact .head hfinish (reaches_exited_of_recording life engine ending shared)
  | error fault =>
    have hfinish : Steps (⟨life, engine⟩, shared) []
        (⟨{ life with phase := .complaining fault }, engine⟩, shared) :=
      .finish working finishes (by rw [Lifecycle.advance, working])
    have hcomplain : Steps
        (⟨{ life with phase := .complaining fault }, engine⟩, shared) []
        (⟨{ life with phase := .recording .unexpectedError }, engine⟩,
          shared.say [.err (Lifecycle.faultText life.name fault)]) := .live (by simp) rfl
    have hexited := reaches_exited_of_recording life engine .unexpectedError
      (shared.say [.err (Lifecycle.faultText life.name fault)])
    have hsaid : (shared.say [.err (Lifecycle.faultText life.name fault)]).say
        [.out (life.name ++ " stopped (" ++ Ending.unexpectedError.text ++ ")")] =
        shared.say (lastWords life.name (.error fault)) := by
      simp [Shared.say, lastWords, Outcome.ending]
    exact .head hfinish (.head hcomplain (hsaid ▸ hexited))

end Worker

/-! ## Engines around their loops -/

namespace Handling

variable {σ : Type} {name : String} {role : Role} {body : Handle → σ → Request Ending (Paced σ)}
  {handle : Handle} {state : Paced σ}

/-- An engine whose loop is at a state of its own. -/
def inUse (handle : Handle) (state : Paced σ) : Paced (Handling σ) :=
  state.map fun loop => ⟨.working handle, loop⟩

/-- While its handle is in use an engine asks what its loop asks. -/
theorem request_working {query : Query} {next : query.Reply → Paced σ}
    (asks : state.request (body handle) = .ask query next) :
    (inUse handle state).request (request name role body) =
      .ask query fun reply => inUse handle (next reply) := by
  obtain ⟨pending, loop⟩ := state
  cases pending with
  | cons emission rest =>
    cases asks
    rfl
  | nil =>
    rw [Paced.request_nil] at asks
    show (body handle loop).within _ _ = _
    rw [asks]
    rfl

/-- When its loop is over it leaves its handle. -/
theorem request_finished {outcome : Outcome}
    (finishes : state.request (body handle) = .finish outcome) :
    (inUse handle state).request (request name role body) =
      .ask .pause fun _ => leave name role handle state.now outcome := by
  obtain ⟨pending, loop⟩ := state
  cases pending with
  | cons emission rest => cases finishes
  | nil =>
    rw [Paced.request_nil] at finishes
    show (body handle loop).within _ _ = _
    rw [finishes]
    rfl

/-- How an engine finishes whose loop has: an error is caught. -/
def resultOf : Outcome → Outcome
  | .error (.error _) => .ok .unexpectedError
  | outcome => outcome

/-- What an engine says whose loop has finished. -/
def complaints (name : String) (role : Role) : Outcome → List Emission
  | .error (.error what) => caught name role what
  | _ => []

/-- What an engine asks after its loop has finished, to give its handle back. -/
def farewell (name : String) (role : Role) (handle : Handle) : Outcome → List Exchange
  | .error .foreign => [⟨.pause, ()⟩, ⟨.broker (.release handle), ()⟩]
  | outcome =>
    ⟨.pause, ()⟩ :: ((complaints name role outcome).map (fun emission => ⟨.emit emission, ()⟩) ++
      [⟨.broker (.closeHandle handle), .ok ()⟩, ⟨.broker (.release handle), ()⟩])

/-- What is shared after the loop has finished and the handle was given back. -/
def partingFrom {β : Type} [Client β] (shared : Shared β) (handle : Handle) : Outcome → Shared β
  | .error .foreign => shared.serving (.release handle)
  | _ => (shared.serving (.closeHandle handle)).serving (.release handle)

end Handling

namespace Worker

variable {β σ : Type} [Client β] [QuietClient β] {role : Role}
  {body : Handle → σ → Request Ending (Paced σ)} {wrap : Paced (Handling σ) → Engine}
  {start state : Paced σ} {life : Lifecycle} {handle : Handle} {before shared : Shared β}
  {turns : List (Turn σ)}

/-- How an engine asks: what its handle and its loop ask, under the name of its worker. -/
def Wraps (life : Lifecycle) (role : Role) (body : Handle → σ → Request Ending (Paced σ))
    (wrap : Paced (Handling σ) → Engine) : Prop :=
  ∀ state, (wrap state).request life.name =
    (state.request (Handling.request life.name role body)).map wrap

/-- An engine that asks gets its answer. -/
theorem Wraps.ask (wraps : Wraps life role body wrap) (working : life.phase = .working)
    (going : life.stopRequested = false) (shared : Shared β) (state : Paced (Handling σ))
    {query : Query} {next : query.Reply → Paced (Handling σ)}
    (asks : state.request (Handling.request life.name role body) = .ask query next)
    (reply : query.Reply) (replies : reply = (shared.answer false query).reply) :
    Steps (⟨life, wrap state⟩, shared) [⟨query, reply⟩]
      (⟨life, wrap (next reply)⟩, (shared.answer false query).client) := by
  have hasks : (wrap state).request life.name = .ask query fun reply => wrap (next reply) := by
    rw [wraps, asks]
    rfl
  exact .ask working going hasks ⟨replies, rfl⟩

/-- An engine makes its emissions. -/
theorem Wraps.emits (wraps : Wraps life role body wrap) (working : life.phase = .working)
    (going : life.stopRequested = false) (emissions : List Emission) (now : Handling σ)
    (shared : Shared β) :
    Reaches (⟨life, wrap ⟨emissions, now⟩⟩, shared)
      (emissions.map fun emission => ⟨.emit emission, ()⟩)
      (⟨life, wrap (.enter now)⟩, shared.absorbAll emissions) := by
  induction emissions generalizing shared with
  | nil => exact .refl _
  | cons emission rest ih =>
    have hemit := wraps.ask working going shared ⟨emission :: rest, now⟩ rfl () rfl
    exact .head hemit (ih (shared.absorb emission))

/-- An engine in use of its handle does what its loop does. -/
theorem Wraps.attended (wraps : Wraps life role body wrap) (working : life.phase = .working)
    (going : life.stopRequested = false)
    (attended : Attended (body handle) start before turns state shared) :
    Reaches (⟨life, wrap (Handling.inUse handle start)⟩, before) (turns.map Turn.exchange)
      (⟨life, wrap (Handling.inUse handle state)⟩, shared) := by
  induction attended with
  | start => exact .refl _
  | ask earlier asks answers ih =>
    rw [answers.after, List.map_append]
    exact ih.trans (.single
      (wraps.ask working going _ _ (Handling.request_working asks) _ answers.reply))

/-- An engine gives its handle back when its loop is over. -/
theorem Wraps.over (wraps : Wraps life role body wrap) (working : life.phase = .working)
    (going : life.stopRequested = false)
    (closes : ∀ client : β, (Client.serve (.closeHandle handle) client).reply = .ok ())
    {outcome : Outcome} (finishes : state.request (body handle) = .finish outcome)
    (shared : Shared β) :
    Reaches (⟨life, wrap (Handling.inUse handle state)⟩, shared)
      (Handling.farewell life.name role handle outcome)
      (⟨life, wrap (.enter ⟨.over (Handling.resultOf outcome), state.now⟩)⟩,
        Handling.partingFrom (shared.absorbAll (Handling.complaints life.name role outcome)) handle
          outcome) := by
  have hleave : Steps (⟨life, wrap (Handling.inUse handle state)⟩, shared) [⟨.pause, ()⟩]
      (⟨life, wrap (Handling.leave life.name role handle state.now outcome)⟩, shared) :=
    wraps.ask working going shared _ (Handling.request_finished finishes) () rfl
  have hrelease : ∀ (result : Outcome) (sharing : Shared β),
      Steps (⟨life, wrap (.enter ⟨.releasing handle result, state.now⟩)⟩, sharing)
        [⟨.broker (.release handle), ()⟩]
        (⟨life, wrap (.enter ⟨.over result, state.now⟩)⟩, sharing.serving (.release handle)) :=
    fun result sharing =>
      wraps.ask working going sharing (.enter ⟨.releasing handle result, state.now⟩) rfl () rfl
  have hclose : ∀ (ending : Ending) (sharing : Shared β),
      Steps (⟨life, wrap (.enter ⟨.closing handle ending, state.now⟩)⟩, sharing)
        [⟨.broker (.closeHandle handle), .ok ()⟩]
        (⟨life, wrap (.enter ⟨.releasing handle (.ok ending), state.now⟩)⟩,
          sharing.serving (.closeHandle handle)) := fun ending sharing =>
    wraps.ask working going sharing (.enter ⟨.closing handle ending, state.now⟩) rfl (.ok ())
      (closes sharing.client).symm
  match outcome with
  | .ok ending => exact .head hleave (.head (hclose ending shared) (.single (hrelease _ _)))
  | .error .foreign => exact .head hleave (.single (hrelease _ _))
  | .error (.error what) =>
    have hcaught := wraps.emits working going (Handling.caught life.name role what)
      ⟨.closing handle .unexpectedError, state.now⟩ shared
    have hparting := hcaught.trans (.head (hclose _ _) (.single (hrelease _ _)))
    exact .head hleave hparting

end Worker

/-! ## The crew -/

namespace Crew

variable {β : Type} [Client β]

/-- A crew of one takes the step that its one worker takes. -/
theorem step_of_steps {before after : Worker × Shared β} {trail : List Exchange}
    (steps : Worker.Steps before trail after) :
    Crew.step ⟨before.2, [before.1]⟩ 0 = some ⟨after.2, [after.1]⟩ := by
  show (before.1.step before.2).map _ = _
  rw [steps.becomes]
  rfl

/-- A crew of one does what its one worker does. -/
theorem exists_runWorker {before after : Worker × Shared β} {trail : List Exchange}
    (reaches : Worker.Reaches before trail after) :
    ∃ bound, runWorker 0 bound ⟨before.2, [before.1]⟩ = ⟨after.2, [after.1]⟩ := by
  induction reaches with
  | refl => exact ⟨0, rfl⟩
  | head steps _ ih =>
    obtain ⟨bound, hbound⟩ := ih
    refine ⟨bound + 1, ?_⟩
    rw [runWorker, step_of_steps steps]
    exact hbound

/-- A worker that was started is about to announce itself. -/
theorem start_hire {β : Type} (name : String) (engine : Engine) (shared : Shared β) :
    start ⟨shared, [.hire name engine]⟩ 0 =
      ⟨shared, [⟨{ name := name, state := .running, phase := .announcing }, engine⟩]⟩ := by
  show Crew.mk (shared.say []) _ = _
  rw [Shared.say_nil]
  rfl

/-- What is shared when the loop of a worker begins: the worker has said that it has started, and
its handle was created and opened. -/
def entering (name : String) (role : Role) (handle : Handle) (shared : Shared β) : Shared β :=
  ((shared.say [.out (name ++ " started")]).serving (.create role)).serving (.openHandle handle)

/-- What is shared when a worker has ended whose loop has finished. -/
def leaving (name : String) (role : Role) (handle : Handle) (outcome : Outcome)
    (shared : Shared β) : Shared β :=
  (Handling.partingFrom (shared.absorbAll (Handling.complaints name role outcome)) handle
    outcome).say (Worker.lastWords name (Handling.resultOf outcome))

/-- A pipelined producer asks what its handle and its loop ask. -/
theorem request_pipelinedProducer (name : String) (options : Producer.Options)
    (state : Paced (Handling Producer.Pipelined.Loop)) :
    (Engine.pipelinedProducer options state).request name =
      (state.request (Handling.request name options.role
        (Producer.Pipelined.request name options))).map (.pipelinedProducer options) := rfl

/-- A blocking producer asks what its handle and its loop ask. -/
theorem request_blockingProducer (name : String) (options : Producer.Options)
    (state : Paced (Handling Producer.Blocking.Loop)) :
    (Engine.blockingProducer options state).request name =
      (state.request (Handling.request name options.role
        (Producer.Blocking.request name options))).map (.blockingProducer options) := rfl

end Crew

/-! ## From beginning to end -/

section Finished

variable {β σ : Type} [Client β] [QuietClient β] {name : String} {role : Role} {handle : Handle}
  {body : Handle → σ → Request Ending (Paced σ)} {wrap : Paced (Handling σ) → Engine}
  {loop : σ} {state : Paced σ} {turns : List (Turn σ)} {start shared : Shared β} {outcome : Outcome}

/-- A worker alone with its client comes to its end if the loop of its engine does: it creates and
opens its handle, asks what its loop asks, and gives the handle back. -/
theorem Worker.reaches_finished
    (wraps : ∀ state, (wrap state).request name =
      (state.request (Handling.request name role body)).map wrap)
    (creates : (Client.serve (.create role) start.client).reply = .ok (some handle))
    (opens : (Client.serve (.openHandle handle)
      (Client.serve (.create role) start.client).client).reply = .ok true)
    (closes : ∀ client : β, (Client.serve (.closeHandle handle) client).reply = .ok ())
    (attended : Attended (body handle) (.enter loop) (Crew.entering name role handle start) turns
      state shared)
    (finishes : state.request (body handle) = .finish outcome) :
    Reaches
      (⟨{ name := name, state := .running, phase := .announcing }, wrap (Handling.begin loop)⟩,
        start)
      ([⟨.broker (.create role), .ok (some handle)⟩, ⟨.broker (.openHandle handle), .ok true⟩] ++
        turns.map Turn.exchange ++ Handling.farewell name role handle outcome)
      (⟨exitedLife name (Handling.resultOf outcome).ending,
        wrap (.enter ⟨.over (Handling.resultOf outcome), state.now⟩)⟩,
        Crew.leaving name role handle outcome shared) := by
  have hwraps : Wraps (workingLife name) role body wrap := wraps
  have hover : (wrap (.enter ⟨.over (Handling.resultOf outcome), state.now⟩)).request name =
      .finish (Handling.resultOf outcome) := by
    rw [wraps]
    rfl
  have hannounce : Steps
      (⟨{ name := name, state := .running, phase := .announcing }, wrap (Handling.begin loop)⟩,
        start) []
      (⟨workingLife name, wrap (Handling.begin loop)⟩,
        start.say [.out (name ++ " started")]) := .live (by simp) rfl
  have hcreate : Steps
      (⟨workingLife name, wrap (Handling.begin loop)⟩,
        start.say [.out (name ++ " started")]) [⟨.broker (.create role), .ok (some handle)⟩]
      (⟨workingLife name, wrap (.enter ⟨.opening handle, loop⟩)⟩,
        (start.say [.out (name ++ " started")]).serving (.create role)) :=
    hwraps.ask rfl rfl (start.say _) (.enter ⟨.creating, loop⟩) rfl (.ok (some handle)) creates.symm
  have hopen : Steps
      (⟨workingLife name, wrap (.enter ⟨.opening handle, loop⟩)⟩,
        (start.say [.out (name ++ " started")]).serving (.create role))
      [⟨.broker (.openHandle handle), .ok true⟩]
      (⟨workingLife name, wrap (Handling.inUse handle (.enter loop))⟩,
        Crew.entering name role handle start) :=
    hwraps.ask rfl rfl ((start.say _).serving _) (.enter ⟨.opening handle, loop⟩) rfl (.ok true)
      opens.symm
  have hwork := hwraps.attended rfl rfl attended
  have hleave := hwraps.over rfl rfl closes finishes shared
  have hexited := reaches_exited (workingLife name) (Handling.partingFrom
    (shared.absorbAll (Handling.complaints name role outcome)) handle outcome) rfl hover
  rw [exited_workingLife, workingLife_name] at hexited
  have hparting := (hwork.trans hleave).trans hexited
  have hall := Reaches.head hannounce (.head hcreate (.head hopen hparting))
  simpa [Crew.leaving] using hall

/-- So a crew of one comes to its end. -/
theorem Crew.exists_finished
    (wraps : ∀ state, (wrap state).request name =
      (state.request (Handling.request name role body)).map wrap)
    (creates : (Client.serve (.create role) start.client).reply = .ok (some handle))
    (opens : (Client.serve (.openHandle handle)
      (Client.serve (.create role) start.client).client).reply = .ok true)
    (closes : ∀ client : β, (Client.serve (.closeHandle handle) client).reply = .ok ())
    (attended : Attended (body handle) (.enter loop) (entering name role handle start) turns state
      shared)
    (finishes : state.request (body handle) = .finish outcome) :
    ∃ bound, runWorker 0 bound (Crew.start ⟨start, [.hire name (wrap (Handling.begin loop))]⟩ 0) =
      ⟨leaving name role handle outcome shared,
        [⟨Worker.exitedLife name (Handling.resultOf outcome).ending,
          wrap (.enter ⟨.over (Handling.resultOf outcome), state.now⟩)⟩]⟩ := by
  obtain ⟨bound, hbound⟩ := exists_runWorker
    (Worker.reaches_finished wraps creates opens closes attended finishes)
  exact ⟨bound, (start_hire ..).symm ▸ hbound⟩

end Finished
end BrokerLoad
