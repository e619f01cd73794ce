import BrokerLoad.Proofs.Crew.Items
import BrokerLoad.Proofs.Producer.BlockingMoves
import BrokerLoad.Proofs.Producer.PipelinedMoves

/-!
# What engines do with their items

Each of the four engines acts (`Acts`) in every exchange, whatever the reply.  For producers
this is read off their moves, for consumers off their requests; the life of a handle adds
nothing to it.  `Engine.acts` puts the four together, and is all that is said here about
engines.

The items are those of the loop, wherever the handle is: a loop that has ended keeps what it
left unfinished, and a loop that has not begun holds nothing.
-/

namespace BrokerLoad

namespace Producer

theorem dues_announce (data : Bytes) : (announce data).flatMap Emission.dues = [] := rfl

theorem dues_refusal (status : WriteStatus) : (refusal status).flatMap Emission.dues = [] := by
  rw [refusal]
  split <;> rfl

/-! ## Pipelined producers -/

namespace Pipelined

/-- A submission in flight. -/
def InFlight.item (submission : InFlight) : Item := .aloft submission.id submission.ticket

/-- What the loop has in hand. -/
@[simp] def Point.items : Point → List Item
  | .awaiting oldest => [oldest.item]
  | .impatient oldest => [oldest.item]
  | .collecting oldest => [oldest.item]
  | .sending id => [.resting id]
  | .resending retry => [.resting retry.id]
  | _ => []

/-- What the loop holds. -/
def Loop.items (loop : Loop) : List Item :=
  loop.point.items ++ loop.window.toList.map InFlight.item

/-- A loop that goes on to a new message or to the end of its turn has nothing in hand. -/
theorem items_onward (remaining : UInt64) : (onward remaining).items = [] := by
  rcases onward_cases remaining with ⟨-, hon⟩ | ⟨-, hon⟩ <;> rw [hon] <;> rfl

variable {name : String} {options : Options} {handle : Handle} {state after : Paced Loop}
  {exchange : Exchange} {events : History}

/-- What the loop has in hand is dropped. -/
theorem acts_drop {loop loop' : Loop} {pending : List Emission}
    (idle : exchange.isIdle = true) (hpending : pending.flatMap Emission.dues = [])
    (hpoint : loop'.point.items = []) (hwindow : loop'.window = loop.window) :
    Acts exchange (Paced.items Loop.items ⟨[], loop⟩)
      (Paced.items Loop.items ⟨pending, loop'⟩) := by
  refine .of_idle idle (List.Sublist.subperm ?_)
  rw [Paced.items, Paced.items, hpending, Loop.items, Loop.items, hpoint, hwindow]
  exact List.sublist_append_right _ _

/-- A submission is in the window from then on. -/
theorem acts_send {loop loop' : Loop} {data : Bytes} {id : UInt64} {attempts : UInt32}
    {ticket : Ticket} {pending : List Emission} (carries : data.id? = some id)
    (hpending : pending.flatMap Emission.dues = []) (here : loop.point.items = [.resting id])
    (hpoint : loop'.point.items = [])
    (hwindow : loop'.window = loop.window.push ⟨id, attempts, ticket⟩) :
    Acts ⟨.broker (.submit handle data), .ok (some ticket)⟩ (Paced.items Loop.items ⟨[], loop⟩)
      (Paced.items Loop.items ⟨pending, loop'⟩) := by
  refine ⟨_, _, loop.window.toList.map InFlight.item, .submit handle data id ticket carries, ?_, ?_⟩
  · rw [Paced.items_nil, Loop.items, here]
  · rw [Paced.items, hpending, List.nil_append, Loop.items, hpoint, hwindow, Fifo.toList_push,
      List.map_append]
    exact (List.perm_append_singleton _ _).subperm

theorem Move.acts (move : Move options handle state exchange events after) :
    Acts exchange (state.items Loop.items) (after.items Loop.items) := by
  cases move with
  | emit emission rest loop => exact Paced.acts_emit _ emission rest loop
  | finish loop here empty none_left => exact acts_drop rfl rfl rfl rfl
  | take loop oldest rest here pops must =>
    have hsame : Loop.items { loop with window := rest, point := .awaiting oldest } =
        loop.items := by
      rw [Loop.items, Loop.items, here, pops]
      rfl
    rw [Paced.items_nil, Paced.items_nil, hsame]
    exact .refl rfl
  | renew loop here left room => exact acts_drop rfl rfl rfl rfl
  | ready loop oldest here => simpa [Loop.items, here] using Acts.refl rfl
  | linger loop oldest here patient => exact .refl rfl
  | doubt loop oldest here going policy => simpa [Loop.items, here] using Acts.refl rfl
  | abandon loop oldest here => exact acts_drop rfl rfl rfl rfl
  | persist loop oldest here => simpa [Loop.items, here] using Acts.refl rfl
  | accept loop oldest answer here ok => exact acts_drop rfl rfl (items_onward _) rfl
  | refuse loop oldest answer here refused below going =>
    rw [Paced.items_nil, Paced.items, dues_refusal, Loop.items, here]
    exact Acts.of_trade (.refuse oldest.id oldest.ticket answer refused)
  | drop loop oldest answer here refused below draining =>
    exact acts_drop rfl (dues_refusal _) (items_onward _) rfl
  | giveUp loop oldest answer line here refused cap => exact acts_drop rfl rfl rfl rfl
  | spoil loop oldest fault here => exact acts_drop rfl rfl rfl rfl
  | mint loop id here =>
    rw [Paced.items_nil, Paced.items_nil, Loop.items, here]
    exact Acts.of_trade (.mint id)
  | send loop id ticket here =>
    exact acts_send (options.id?_message id 1) (dues_announce _) (by rw [here]; rfl) rfl rfl
  | resend loop retry ticket here =>
    exact acts_send (options.id?_message retry.id _) (dues_announce _) (by rw [here]; rfl) rfl rfl
  | fail loop id attempt here => exact acts_drop rfl rfl rfl rfl
  | crash loop id attempt fault here => exact acts_drop rfl rfl rfl rfl
  | explain loop id reason line here => exact acts_drop rfl rfl rfl rfl
  | turn loop here draining => exact acts_drop rfl rfl rfl rfl
  | goOn loop here going => exact acts_drop rfl rfl rfl rfl
  | leave loop here going policy => exact acts_drop rfl rfl rfl rfl
  | drain loop here going policy => exact acts_drop rfl rfl rfl rfl
  | starve loop here => exact .refl rfl

theorem acts {loop : Loop} {query : Query} {next : query.Reply → Paced Loop}
    (asks : request name options handle loop = .ask query next) (reply : query.Reply) :
    Acts ⟨query, reply⟩ loop.items ((next reply).items Loop.items) := by
  have hpaced : Paced.request (request name options handle) ⟨[], loop⟩ = .ask query next := asks
  obtain ⟨events, move⟩ := Move.of_request hpaced reply
  exact move.acts

end Pipelined

/-! ## Blocking producers -/

namespace Blocking

/-- What the loop has in hand. -/
@[simp] def Point.items : Point → List Item
  | .writing id _ => [.resting id]
  | .afterRefusal id _ => [.resting id]
  | _ => []

/-- What the loop holds. -/
def Loop.items (loop : Loop) : List Item := loop.point.items

variable {name : String} {options : Options} {handle : Handle} {state after : Paced Loop}
  {exchange : Exchange} {events : History}

/-- What the loop has in hand is dropped. -/
theorem acts_drop {loop loop' : Loop} {pending : List Emission}
    (idle : exchange.isIdle = true) (hpending : pending.flatMap Emission.dues = [])
    (hpoint : loop'.point.items = []) :
    Acts exchange (Paced.items Loop.items ⟨[], loop⟩)
      (Paced.items Loop.items ⟨pending, loop'⟩) := by
  refine .of_idle idle ?_
  rw [Paced.items, Paced.items, hpending, Loop.items, hpoint]
  exact List.nil_subperm

/-- A write that is refused leaves its message as it was. -/
theorem isIdle_write {data : Bytes} {answer : Receipt} (refused : answer.status ≠ .ok) :
    Exchange.isIdle ⟨.broker (.write handle data), .ok answer⟩ = true :=
  decide_eq_true refused

theorem Move.acts (move : Move options handle state exchange events after) :
    Acts exchange (state.items Loop.items) (after.items Loop.items) := by
  cases move with
  | emit emission rest loop => exact Paced.acts_emit _ emission rest loop
  | renew loop here left => exact acts_drop rfl rfl rfl
  | finish loop here none_left => exact acts_drop rfl rfl rfl
  | mint loop id here =>
    rw [Paced.items_nil, Paced.items_nil, Loop.items, here]
    exact Acts.of_trade (.mint id)
  | accept loop id attempt answer here ok =>
    rw [Paced.items_nil, Loop.items, here]
    exact Acts.of_trade (.accept handle _ id answer (options.id?_message id attempt) ok)
  | refuse loop id attempt answer here refused below =>
    rw [Paced.items_nil, Paced.items, List.flatMap_append, dues_announce, dues_refusal, Loop.items,
      here]
    exact .refl (isIdle_write refused)
  | giveUp loop id attempt answer line here refused cap =>
    exact acts_drop (isIdle_write refused) rfl rfl
  | crash loop id attempt fault here => exact acts_drop rfl rfl rfl
  | drop loop id attempt here => exact acts_drop rfl rfl rfl
  | again loop id attempt here =>
    rw [Paced.items_nil, Paced.items_nil, Loop.items, here]
    exact .refl rfl
  | leave loop here => exact acts_drop rfl rfl rfl
  | goOn loop here => exact acts_drop rfl rfl rfl

theorem acts {loop : Loop} {query : Query} {next : query.Reply → Paced Loop}
    (asks : request name options handle loop = .ask query next) (reply : query.Reply) :
    Acts ⟨query, reply⟩ loop.items ((next reply).items Loop.items) := by
  have hpaced : Paced.request (request name options handle) ⟨[], loop⟩ = .ask query next := asks
  obtain ⟨events, move⟩ := Move.of_request hpaced reply
  exact move.acts

end Blocking
end Producer

/-! ## Consumers -/

namespace Consumer

/-- What an intake holds. -/
def Intake.items (intake : Intake) : List Item :=
  match intake.stage with
  | .arrived => [.arrived intake.delivery]
  | .noting id => [.noting id intake.delivery]
  | .acking id => [.acking id intake.delivery]
  | .over _ => []

theorem Intake.acts {name : String} {intake : Intake} {query : Query}
    {next : query.Reply → Paced Intake} (asks : intake.request name = .ask query next)
    (reply : query.Reply) : Acts ⟨query, reply⟩ intake.items ((next reply).items Intake.items) := by
  cases here : intake.stage with
  | arrived =>
    simp only [Intake.request, here] at asks
    cases asks
    rw [Intake.items, here]
    cases hdecode : Envelope.decode intake.delivery.payload with
    | none => exact .of_idle rfl List.nil_subperm
    | some envelope =>
      have carries : intake.delivery.payload.id? = some envelope.id := by
        rw [Bytes.id?, hdecode, Option.map_some]
      exact Acts.of_trade (.decode envelope.id intake.delivery carries)
  | noting id =>
    simp only [Intake.request, here] at asks
    cases asks
    rw [Intake.items, here]
    cases reply with
    | true => exact Acts.of_trade (.first id intake.delivery)
    | false =>
      -- the repeat is counted before the delivery is acknowledged
      exact ⟨_, _, [], .again id intake.delivery, .refl _, (List.Perm.swap _ _ _).subperm⟩
  | acking id =>
    simp only [Intake.request, here] at asks
    cases asks
    rw [Intake.items, here]
    cases reply with
    | error fault => exact .of_idle rfl List.nil_subperm
    | ok settled =>
      cases settled with
      | true => exact Acts.of_trade (.settle id intake.delivery)
      | false => exact .of_idle rfl List.nil_subperm
  | _ =>
    simp only [Intake.request, here] at asks
    cases asks

/-! ### Pipelined ones -/

namespace Pipelined

/-- What the loop holds. -/
def Loop.items (loop : Loop) : List Item :=
  match loop.point with
  | .awaiting ticket => [.waiting ticket]
  | .impatient ticket => [.waiting ticket]
  | .collecting ticket => [.waiting ticket]
  | .handling intake => intake.items
  | _ => []

theorem acts {name : String} {handle : Handle} {loop : Loop} {query : Query}
    {next : query.Reply → Paced Loop} (asks : request name handle loop = .ask query next)
    (reply : query.Reply) : Acts ⟨query, reply⟩ loop.items ((next reply).items Loop.items) := by
  cases here : loop.point with
  | head =>
    simp only [request, here] at asks
    cases asks
    cases reply <;> exact .of_idle rfl List.nil_subperm
  | asking =>
    simp only [request, here] at asks
    cases asks
    rw [Loop.items, here]
    match reply with
    | .ok (some ticket) => exact Acts.of_trade (.request handle ticket)
    | .ok none => exact .of_idle rfl List.nil_subperm
    | .error fault => exact .of_idle rfl List.nil_subperm
  | refused =>
    simp only [request, here] at asks
    cases asks
    exact .of_idle rfl List.nil_subperm
  | awaiting ticket =>
    simp only [request, here] at asks
    cases asks
    rw [Loop.items, here]
    cases reply <;> exact .refl rfl
  | impatient ticket =>
    simp only [request, here] at asks
    cases asks
    rw [Loop.items, here]
    cases reply with
    | true => exact .of_idle rfl List.nil_subperm
    | false => exact .refl rfl
  | collecting ticket =>
    simp only [request, here] at asks
    cases asks
    rw [Loop.items, here]
    match reply with
    | .ok (some delivery) => exact Acts.of_trade (.take ticket delivery)
    | .ok none => exact .of_idle rfl List.nil_subperm
    | .error fault => exact .of_idle rfl List.nil_subperm
  | handling intake =>
    simp only [request, here] at asks
    rw [Loop.items, here]
    refine Paced.acts_within ?_ ?_ asks reply
    · intro query next hask reply
      exact Intake.acts hask reply
    · intro result _
      rcases result with fault | (_ | _) <;> exact List.nil_subperm
  | halted outcome =>
    simp only [request, here] at asks
    cases asks

end Pipelined

/-! ### Blocking ones -/

namespace Blocking

/-- What the loop holds. -/
def Loop.items (loop : Loop) : List Item :=
  match loop.point with
  | .handling intake => intake.items
  | _ => []

theorem acts {name : String} {handle : Handle} {loop : Loop} {query : Query}
    {next : query.Reply → Paced Loop} (asks : request name handle loop = .ask query next)
    (reply : query.Reply) : Acts ⟨query, reply⟩ loop.items ((next reply).items Loop.items) := by
  cases here : loop.point with
  | head =>
    simp only [request, here] at asks
    cases asks
    cases reply <;> exact .of_idle rfl List.nil_subperm
  | reading =>
    simp only [request, here] at asks
    cases asks
    rw [Loop.items, here]
    match reply with
    | .ok (some delivery) => exact Acts.of_trade (.read handle delivery)
    | .ok none => exact .of_idle rfl List.nil_subperm
    | .error fault => exact .of_idle rfl List.nil_subperm
  | handling intake =>
    simp only [request, here] at asks
    rw [Loop.items, here]
    refine Paced.acts_within ?_ ?_ asks reply
    · intro query next hask reply
      exact Intake.acts hask reply
    · intro result _
      rcases result with fault | (_ | _) <;> exact List.nil_subperm
  | halted outcome =>
    simp only [request, here] at asks
    cases asks

end Blocking
end Consumer

/-! ## Handles -/

namespace Handling

variable {σ : Type} {name : String} {role : Role}

theorem dues_caught (what : String) : (caught name role what).flatMap Emission.dues = [] := by
  cases role <;> rfl

/-- What follows a fault leaves the items of the loop alone. -/
theorem items_fail (f : σ → List Item) (handle : Handle) (loop : σ) (fault : Fault) :
    (fail name role handle loop fault).items (fun engine => f engine.loop) = f loop := by
  cases fault with
  | error what =>
    show (caught name role what).flatMap Emission.dues ++ f loop = f loop
    rw [dues_caught, List.nil_append]
  | foreign => rfl

theorem items_leave (f : σ → List Item) (handle : Handle) (loop : σ) (result : Outcome) :
    (leave name role handle loop result).items (fun engine => f engine.loop) = f loop := by
  cases result with
  | ok ending => rfl
  | error fault => exact items_fail f handle loop fault

theorem acts {f : σ → List Item} {body : Handle → σ → Request Ending (Paced σ)}
    (hbody : ∀ handle loop query next, body handle loop = .ask query next → ∀ reply,
      Acts ⟨query, reply⟩ (f loop) ((next reply).items f))
    {engine : Handling σ} {query : Query} {next : query.Reply → Paced (Handling σ)}
    (asks : request name role body engine = .ask query next) (reply : query.Reply) :
    Acts ⟨query, reply⟩ (f engine.loop) ((next reply).items fun engine => f engine.loop) := by
  cases here : engine.stage with
  | creating =>
    simp only [request, here] at asks
    cases asks
    match reply with
    | .ok (some handle) => exact .refl rfl
    | .ok none => exact .refl rfl
    | .error (.error what) =>
      show Acts _ _ ((caught name role what).flatMap Emission.dues ++ f engine.loop)
      rw [dues_caught, List.nil_append]
      exact .refl rfl
    | .error .foreign => exact .refl rfl
  | opening handle =>
    simp only [request, here] at asks
    cases asks
    match reply with
    | .ok true => exact .refl rfl
    | .ok false => exact .refl rfl
    | .error fault =>
      rw [items_fail]
      exact .refl rfl
  | refused handle =>
    simp only [request, here] at asks
    cases asks
    exact .refl rfl
  | working handle =>
    simp only [request, here] at asks
    refine Paced.acts_within ?_ ?_ asks reply
    · exact hbody handle engine.loop
    · intro result _
      rw [items_leave]
  | closing handle ending =>
    simp only [request, here] at asks
    cases asks
    match reply with
    | .ok () => exact .refl rfl
    | .error (.error what) => exact .refl rfl
    | .error .foreign => exact .refl rfl
  | releasing handle outcome =>
    simp only [request, here] at asks
    cases asks
    exact .refl rfl
  | _ =>
    simp only [request, here] at asks
    cases asks

end Handling

/-! ## Engines -/

namespace Engine

/-- What an engine holds. -/
def items : Engine → List Item
  | .pipelinedProducer _ state => state.items fun engine => engine.loop.items
  | .blockingProducer _ state => state.items fun engine => engine.loop.items
  | .pipelinedConsumer _ state => state.items fun engine => engine.loop.items
  | .blockingConsumer _ state => state.items fun engine => engine.loop.items

theorem items_producer (pipelined : Bool) (options : Producer.Options) :
    (producer pipelined options).items = [] := by
  cases pipelined <;> rfl

theorem items_consumer (pipelined : Bool) (options : Consumer.Options) :
    (consumer pipelined options).items = [] := by
  cases pipelined <;> rfl

/-- An engine acts as its loop does. -/
theorem acts_of_loop {σ : Type} {f : σ → List Item} {name : String} {role : Role}
    {body : Handle → σ → Request Ending (Paced σ)}
    (hbody : ∀ handle loop query next, body handle loop = .ask query next → ∀ reply,
      Acts ⟨query, reply⟩ (f loop) ((next reply).items f))
    {engine : Paced (Handling σ) → Engine}
    (hitems : ∀ state, (engine state).items = state.items fun engine => f engine.loop)
    {state : Paced (Handling σ)} {query : Query} {next : query.Reply → Engine}
    (asks : (state.request (Handling.request name role body)).map engine = .ask query next)
    (reply : query.Reply) : Acts ⟨query, reply⟩ (engine state).items (next reply).items := by
  obtain ⟨before, hasks, rfl⟩ := Request.of_map_eq_ask asks
  rw [hitems, hitems]
  refine Paced.acts_request (f := fun engine => f engine.loop) ?_ hasks reply
  intro query next hasks reply
  exact Handling.acts hbody hasks reply

theorem acts {name : String} {engine : Engine} {query : Query} {next : query.Reply → Engine}
    (asks : engine.request name = .ask query next) (reply : query.Reply) :
    Acts ⟨query, reply⟩ engine.items (next reply).items := by
  cases engine with
  | pipelinedProducer options state =>
    exact acts_of_loop (fun _ _ _ _ hasks => Producer.Pipelined.acts hasks) (fun _ => rfl) asks
      reply
  | blockingProducer options state =>
    exact acts_of_loop (fun _ _ _ _ hasks => Producer.Blocking.acts hasks) (fun _ => rfl) asks reply
  | pipelinedConsumer options state =>
    exact acts_of_loop (fun _ _ _ _ hasks => Consumer.Pipelined.acts hasks) (fun _ => rfl) asks
      reply
  | blockingConsumer options state =>
    exact acts_of_loop (fun _ _ _ _ hasks => Consumer.Blocking.acts hasks) (fun _ => rfl) asks reply

end Engine
end BrokerLoad
