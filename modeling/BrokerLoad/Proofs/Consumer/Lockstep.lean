import BrokerLoad.Proofs.Consumer.Stopping
import BrokerLoad.Proofs.Crew.Duty
import BrokerLoad.Script.Client

/-!
# A blocking consumer is a pipelined one

A blocking consumer reads where a pipelined one asks for a delivery, waits for it and takes it;
everywhere else the two are at the same places, ask the same and go on alike.  So the states of a
blocking loop are read as states of a pipelined one (`Blocking.Loop.piped`), and the pipelined
loop takes the same turns at all places but one (`Blocking.request_piped`).  At that place, where
a delivery is read, a script decides what happens: a read that brings a delivery, or that ends in
a fault, has the same effect on both (`reaches_piped_of_reading`).

When the script has no more reads both wait in vain, find that they were asked to stop, and end;
the only trace of the difference is a delivery that the pipelined loop has left behind with the
client (`reaches_exhausted`).  Hence both come to the same end (`exists_ended`), by induction on
the reads that are left.
-/

namespace BrokerLoad

/-! ## Duties with other states -/

namespace Duty

variable {α α' σ τ β : Type} [Client β]

/-- The same duty, with its states and what it shares renamed. -/
def relabel (f : σ → τ) (g : Shared β → Shared β) (duty : Duty σ β) : Duty τ β :=
  ⟨duty.life, duty.state.map f, g duty.shared⟩

variable {body : σ → Request α (Paced σ)} {body' : τ → Request α' (Paced τ)}
  {duty after : Duty σ β} {f : σ → τ} {g : Shared β → Shared β} {query : Query}
  {next : query.Reply → Paced σ}

/-- A machine that asks the same as another gets the same answer and goes on alike, if what it
shares differs from what the other shares in nothing that matters for the answer. -/
theorem turns_relabel
    (asks' : (duty.state.map f).request body' = .ask query fun reply => (next reply).map f)
    (reply_eq : ((g duty.shared).answer duty.life.stopRequested query).reply =
      (duty.shared.answer duty.life.stopRequested query).reply)
    (stops_eq : ((g duty.shared).answer duty.life.stopRequested query).stops =
      (duty.shared.answer duty.life.stopRequested query).stops)
    (client_eq : ∀ lines, ((g duty.shared).answer duty.life.stopRequested query).client.say lines =
      g ((duty.shared.answer duty.life.stopRequested query).client.say lines)) :
    Turns body' (duty.relabel f g) ((duty.answered query next).relabel f g) := by
  refine ⟨query, _, asks', ?_⟩
  simp only [relabel, answered, reply_eq, stops_eq, client_eq]

/-- If it shares the same as the other, there is nothing to be said about the answer. -/
theorem turns_relabel_id
    (asks' : (duty.state.map f).request body' = .ask query fun reply => (next reply).map f) :
    Turns body' (duty.relabel f id) ((duty.answered query next).relabel f id) :=
  turns_relabel asks' rfl rfl fun _ => rfl

/-- A call is answered as the client serves it. -/
theorem turns_broker {call : Call} {next : call.Reply → Paced σ} {reply : call.Reply}
    {client : β} {stops : List Interruption}
    (asks : duty.state.request body = .ask (.broker call) next)
    (served : Client.serve call duty.shared.client = { reply, client, stops })
    (becomes : after =
      ⟨(Worker.interrupts duty.life stops).1, next reply,
        { duty.shared with client }.say (Worker.interrupts duty.life stops).2⟩) :
    Turns body duty after := by
  refine ⟨.broker call, next, asks, ?_⟩
  simp only [becomes, answered, Shared.answer, served]

/-- Without a stop request that changes neither the life of the worker nor the log. -/
theorem turns_quietly {call : Call} {next : call.Reply → Paced σ} {reply : call.Reply}
    {client : β} (asks : duty.state.request body = .ask (.broker call) next)
    (served : Client.serve call duty.shared.client = { reply, client })
    (becomes : after = ⟨duty.life, next reply, { duty.shared with client }⟩) :
    Turns body duty after :=
  turns_broker asks served (by rw [becomes, Worker.interrupts, Shared.say_nil])

/-- A machine that looks at the stop request. -/
theorem turns_looking {next : Bool → Paced σ}
    (asks : duty.state.request body = .ask .stopRequested next)
    (becomes : after = ⟨duty.life, next duty.life.stopRequested, duty.shared⟩) :
    Turns body duty after := by
  refine ⟨.stopRequested, next, asks, ?_⟩
  simp only [becomes, answered, Shared.answer, Worker.interrupts, Shared.say_nil]

end Duty

/-! ## Scripts of plain reads -/

/-- A read that brings a delivery, or that ends in a fault at once. -/
def Script.Reading.isPlain : Script.Reading → Bool
  | .brings _ => true
  | .throws _ => true
  | _ => false

namespace Scripted

/-- All reads that the script still has are plain. -/
def ReadsPlainly (client : Scripted) : Prop :=
  ∀ step ∈ client.script.reads, step.act.isPlain = true

/-- The same client with other deliveries on record. -/
def holding (deliveries : Array Script.ReadStep) (client : Scripted) : Scripted :=
  { client with deliveries }

/-- An acknowledgement takes nothing from the script. -/
theorem script_serve_ack (client : Scripted) (delivery : Delivery) :
    (client.serve (.ack delivery)).client.script = client.script := by
  simp only [serve]
  split
  · split <;> rfl
  · rfl

/-- The client after a read that its script had a step for. -/
def afterRead (client : Scripted) (rest : List Script.ReadStep) : Scripted :=
  { client with script := { client.script with reads := rest }, readCalls := client.readCalls + 1 }

/-- The client with one more delivery on record. -/
def record (client : Scripted) (step : Script.ReadStep) : Scripted :=
  client.holding (client.deliveries.push step)

variable {client : Scripted} {step : Script.ReadStep} {rest : List Script.ReadStep}
  (handle : Handle)

theorem takeRead_cons (left : client.script.reads = step :: rest) :
    client.takeRead = (step, client.afterRead rest) := by
  rw [takeRead, nextRead, left]
  rfl

theorem takeRead_nil (left : client.script.reads = []) :
    client.takeRead = (Script.exhausted, client.afterRead []) := by
  simp only [takeRead, nextRead, left]
  rw [afterRead, ← left]

/-! What the two kinds of reads come to, for each plain step and when there are no more steps. -/

theorem serve_read_brings {data : Bytes} (left : client.script.reads = step :: rest)
    (brings : step.act = .brings data) :
    client.serve (.read handle) =
      { reply := .ok (some (delivery data client.deliveries.size))
        client := (client.afterRead rest).record step
        stops := stopIf step.stopAtRead } := by
  simp only [serve, takeRead_cons left, brings]
  rfl

theorem serve_request_brings {data : Bytes} (left : client.script.reads = step :: rest)
    (brings : step.act = .brings data) :
    client.serve (.request handle) =
      { reply := .ok (some client.deliveries.size)
        client := (client.afterRead rest).record step
        stops := stopIf step.stopAtRead } := by
  simp only [serve, takeRead_cons left, brings]
  rfl

theorem serve_read_throws {fault : Fault} (left : client.script.reads = step :: rest)
    (throws : step.act = .throws fault) :
    client.serve (.read handle) =
      { reply := .error fault, client := client.afterRead rest,
        stops := stopIf step.stopAtRead } := by
  simp only [serve, takeRead_cons left, throws]

theorem serve_request_throws {fault : Fault} (left : client.script.reads = step :: rest)
    (throws : step.act = .throws fault) :
    client.serve (.request handle) =
      { reply := .error fault, client := client.afterRead rest,
        stops := stopIf step.stopAtRead } := by
  simp only [serve, takeRead_cons left, throws]

theorem serve_read_exhausted (left : client.script.reads = []) :
    client.serve (.read handle) =
      { reply := .ok none, client := client.afterRead [], stops := [.inside] } := by
  simp only [serve, takeRead_nil left]
  rfl

theorem serve_request_exhausted (left : client.script.reads = []) :
    client.serve (.request handle) =
      { reply := .ok (some client.deliveries.size)
        client := (client.afterRead []).record Script.exhausted
        stops := [.inside] } := by
  simp only [serve, takeRead_nil left]
  rfl

/-- The latest delivery on record. -/
theorem record_getElem? (client : Scripted) (step : Script.ReadStep) :
    (client.record step).deliveries[client.deliveries.size]? = some step :=
  Array.getElem?_push_size

end Scripted

/-- The same with other deliveries on the client's record. -/
def Shared.holding (deliveries : Array Script.ReadStep) (shared : Shared Scripted) :
    Shared Scripted :=
  { shared with client := shared.client.holding deliveries }

namespace Consumer
namespace Blocking

/-! ## Blocking loops as pipelined ones -/

/-- Where a pipelined loop is that is as far as a blocking one. -/
def Point.piped : Point → Pipelined.Point
  | .head => .head
  | .reading => .asking
  | .handling intake => .handling intake
  | .halted outcome => .halted outcome

/-- A pipelined loop that is as far as a blocking one. -/
def Loop.piped (loop : Loop) : Pipelined.Loop := ⟨loop.point.piped, loop.counts⟩

theorem Loop.piped_resume (counts : Counts) (result : Except Fault Bool) :
    (Loop.resume counts result).piped = Pipelined.Loop.resume counts result := by
  rcases result with _ | _ | _ <;> rfl

/-- Except where a delivery is read, both ask the same and go on alike. -/
theorem request_piped (name : String) (handle : Handle) (loop : Loop)
    (elsewhere : loop.point ≠ .reading) :
    Pipelined.request name handle loop.piped =
      (request name handle loop).map (Paced.map Loop.piped) := by
  obtain ⟨point, counts⟩ := loop
  cases point with
  | head =>
    refine congrArg (Request.ask Query.stopRequested) (funext fun stop => ?_)
    cases stop <;> rfl
  | reading => exact absurd rfl elsewhere
  | handling intake =>
    show (intake.request name).within Pipelined.takingIn _ =
      ((intake.request name).within takingIn _).map (Paced.map Loop.piped)
    cases intake.request name with
    | finish result =>
      show Request.ask Query.pause (fun _ => Paced.enter (Pipelined.Loop.resume _ result)) = _
      rw [← Loop.piped_resume]
      rfl
    | ask query next => rfl
  | halted outcome => rfl

/-- So do they while there are emissions to be made. -/
theorem request_map_piped {name : String} {handle : Handle} {state : Paced Loop}
    (elsewhere : state.pending = [] → state.now.point ≠ .reading) :
    (state.map Loop.piped).request (Pipelined.request name handle) =
      (state.request (request name handle)).map (Paced.map Loop.piped) := by
  obtain ⟨pending, loop⟩ := state
  cases pending with
  | cons emission rest => rfl
  | nil => exact request_piped name handle loop (elsewhere rfl)

/-- When the one has finished the other has. -/
theorem finish_piped {name : String} {handle : Handle} {state : Paced Loop} {outcome : Outcome}
    (finishes : state.request (request name handle) = .finish outcome) :
    (state.map Loop.piped).request (Pipelined.request name handle) = .finish outcome := by
  have helsewhere : state.pending = [] → state.now.point ≠ .reading := by
    intro nothing reading
    obtain ⟨pending, point, counts⟩ := state
    obtain ⟨rfl, rfl⟩ : pending = [] ∧ point = .reading := ⟨nothing, reading⟩
    cases finishes
  rw [request_map_piped helsewhere, finishes]
  rfl

/-! ## How far it is to the end -/

/-- How far a place is from the next read, or from the end. -/
def Point.rank : Point → Nat
  | .handling intake => intake.stage.steps + 3
  | .head => 2
  | .reading => 1
  | .halted _ => 0

/-- What a loop has before it: reads, places and emissions. -/
def left (duty : Duty Loop Scripted) : Nat × Nat × Nat :=
  (duty.shared.client.script.reads.length, duty.state.now.point.rank, duty.state.pending.length)

/-- Where nothing is read, a turn takes nothing from the script. -/
theorem script_of_move {handle : Handle} {state : Paced Loop} {query : Query} {reply : query.Reply}
    {next : Paced Loop} (move : Move handle state ⟨query, reply⟩ next)
    (elsewhere : state.pending = [] → state.now.point ≠ .reading) (shared : Shared Scripted)
    (stopRequested : Bool) :
    (shared.answer stopRequested query).client.client.script = shared.client.script := by
  generalize hexchange : (⟨query, reply⟩ : Exchange) = exchange at move
  cases move with
  | emit emission rest loop =>
    cases hexchange
    cases emission <;> rfl
  | leave loop here | goOn loop here | resume loop intake result here ended =>
    cases hexchange
    rfl
  | take loop delivery here | miss loop here | spoil loop fault here =>
    exact absurd here (elsewhere rfl)
  | handle loop intake exchange next here move =>
    subst hexchange
    cases move with
    | ack | reject | crash => exact Scripted.script_serve_ack _ _
    | _ => rfl

/-- Where nothing is read, a turn leads nearer to the next read or to the end. -/
theorem nearer_of_move {handle : Handle} {state : Paced Loop} {exchange : Exchange}
    {next : Paced Loop} (move : Move handle state exchange next)
    (elsewhere : state.pending = [] → state.now.point ≠ .reading) :
    next.now.point.rank < state.now.point.rank ∨
      (next.now.point.rank = state.now.point.rank ∧
        next.pending.length < state.pending.length) := by
  cases move with
  | emit emission rest loop => exact .inr ⟨rfl, Nat.lt_succ_self _⟩
  | leave loop here | goOn loop here =>
    left
    simp only [here, Point.rank]
    decide
  | take loop delivery here | miss loop here | spoil loop fault here =>
    exact absurd here (elsewhere rfl)
  | handle loop intake exchange next here move =>
    have hsteps := move.steps
    left
    simp only [here, Point.rank, takingIn]
    omega
  | resume loop intake result here ended =>
    left
    simp only [here, Point.rank, ended]
    rcases result with _ | _ | _ <;> simp [Loop.resume, Loop.halt, Loop.raise, Loop.goto]

/-! ## Reading -/

variable {name : String} {handle : Handle} {life : Lifecycle} {shared : Shared Scripted}
  {counts : Counts} {step : Script.ReadStep} {rest : List Script.ReadStep}

/-- A delivery that is there is taken. -/
theorem reaches_taken {data : Bytes} {ticket : Ticket}
    (there : shared.client.deliveries[ticket]? = some step) (brings : step.act = .brings data) :
    Duty.Reaches (Pipelined.request name handle) ⟨life, ⟨[], ⟨.awaiting ticket, counts⟩⟩, shared⟩
      ⟨life,
        ⟨[.sample .read],
          Pipelined.takingIn { delivery := Scripted.delivery data ticket, counts }⟩,
        shared⟩ := by
  have hready : shared.client.serve (.deliveryReady ticket) =
      { reply := true, client := shared.client } := by
    simp [Scripted.serve, there, brings]
  have htake : shared.client.serve (.takeDelivery ticket) =
      { reply := .ok (some (Scripted.delivery data ticket)), client := shared.client } := by
    simp only [Scripted.serve, there, Option.map_some, brings]
  have hcollecting : Duty.Turns (Pipelined.request name handle)
      ⟨life, ⟨[], ⟨.awaiting ticket, counts⟩⟩, shared⟩
      ⟨life, ⟨[], ⟨.collecting ticket, counts⟩⟩, shared⟩ := Duty.turns_quietly rfl hready rfl
  exact .head hcollecting (.single (Duty.turns_quietly rfl htake rfl))

/-- A read that the script has a plain step for has the same effect on both. -/
theorem reaches_piped_of_reading (name : String) (handle : Handle) (life : Lifecycle)
    (counts : Counts) (left : shared.client.script.reads = step :: rest)
    (plain : step.act.isPlain = true) :
    ∃ after : Duty Loop Scripted,
      Duty.Turns (request name handle) ⟨life, ⟨[], ⟨.reading, counts⟩⟩, shared⟩ after ∧
      Duty.Reaches (Pipelined.request name handle)
        ⟨life, ⟨[], ⟨.asking, counts⟩⟩, shared⟩ (after.relabel Loop.piped id) ∧
      after.shared.client.script.reads = rest := by
  cases hact : step.act with
  | brings data =>
    refine ⟨_, Duty.turns_broker rfl (Scripted.serve_read_brings handle left hact) rfl, ?_, rfl⟩
    refine .head (Duty.turns_broker rfl (Scripted.serve_request_brings handle left hact) rfl) ?_
    exact reaches_taken (Scripted.record_getElem? _ step) hact
  | throws fault =>
    refine ⟨_, Duty.turns_broker rfl (Scripted.serve_read_throws handle left hact) rfl, ?_, rfl⟩
    exact .single (Duty.turns_broker rfl (Scripted.serve_request_throws handle left hact) rfl)
  | nothing | refuses _ | spoils _ | never =>
    rw [hact] at plain
    cases plain

/-- When the script has no more reads both wait in vain and find that they were asked to stop.
The pipelined loop leaves a delivery on record. -/
theorem reaches_exhausted (name : String) (handle : Handle) (counts : Counts)
    (onDuty : life.OnDuty) (left : shared.client.script.reads = []) :
    ∃ after : Duty Loop Scripted,
      Duty.Reaches (request name handle) ⟨life, ⟨[], ⟨.reading, counts⟩⟩, shared⟩ after ∧
      Duty.Reaches (Pipelined.request name handle) ⟨life, ⟨[], ⟨.asking, counts⟩⟩, shared⟩
        (after.relabel Loop.piped
          (Shared.holding (shared.client.deliveries.push Script.exhausted))) ∧
      after.Finished (request name handle) (.ok .stopRequested) := by
  obtain ⟨stopped, lines, hinterrupts, hstopped⟩ : ∃ stopped lines,
      Worker.interrupts life [.inside] = (stopped, lines) ∧ stopped.stopRequested = true :=
    ⟨_, _, rfl, onDuty.stopRequested_interrupt true⟩
  let waited : Shared Scripted := { shared with client := shared.client.afterRead [] }.say lines
  refine ⟨⟨stopped, ⟨[], ⟨.halted (.ok .stopRequested), counts.addTimeout⟩⟩, waited⟩, ?_, ?_, rfl⟩
  · have hread : Duty.Turns (request name handle) ⟨life, ⟨[], ⟨.reading, counts⟩⟩, shared⟩
        ⟨stopped, ⟨[], ⟨.head, counts.addTimeout⟩⟩, waited⟩ :=
      Duty.turns_broker rfl (Scripted.serve_read_exhausted handle left) (by rw [hinterrupts]; rfl)
    refine .head hread (.single (Duty.turns_looking rfl ?_))
    rw [hstopped]
    rfl
  · -- the same wait in three steps: the delivery is asked for, it is not there, and the stop
    -- request is
    let asked : Shared Scripted :=
      { shared with client := (shared.client.afterRead []).record Script.exhausted }.say lines
    have hthere : asked.client.deliveries[shared.client.deliveries.size]? = some Script.exhausted :=
      Scripted.record_getElem? (shared.client.afterRead []) Script.exhausted
    have hready : asked.client.serve (.deliveryReady shared.client.deliveries.size) =
        { reply := false, client := asked.client } := by
      simp [Scripted.serve, hthere, Script.exhausted]
    have hrequest : Duty.Turns (Pipelined.request name handle)
        ⟨life, ⟨[], ⟨.asking, counts⟩⟩, shared⟩
        ⟨stopped, ⟨[], ⟨.awaiting shared.client.deliveries.size, counts⟩⟩, asked⟩ :=
      Duty.turns_broker rfl (Scripted.serve_request_exhausted handle left)
        (by rw [hinterrupts]; rfl)
    have hwait : Duty.Turns (Pipelined.request name handle)
        ⟨stopped, ⟨[], ⟨.awaiting shared.client.deliveries.size, counts⟩⟩, asked⟩
        ⟨stopped, ⟨[], ⟨.impatient shared.client.deliveries.size, counts.addTimeout⟩⟩, asked⟩ :=
      Duty.turns_quietly rfl hready rfl
    refine .head hrequest (.head hwait (.single (Duty.turns_looking rfl ?_)))
    rw [hstopped]
    rfl

/-! ## To the end -/

/-- A blocking loop that a plain script serves, and the pipelined one that is as far. -/
structure InStep (duty : Duty Loop Scripted) (other : Duty Pipelined.Loop Scripted) : Prop where
  other_eq : other = duty.relabel Loop.piped id
  onDuty : duty.life.OnDuty
  plain : duty.shared.client.ReadsPlainly

/-- A blocking loop that has finished, and a pipelined one that has finished alike, but may have
left other deliveries on record. -/
def BothEnded (name : String) (handle : Handle) (duty : Duty Loop Scripted)
    (other : Duty Pipelined.Loop Scripted) : Prop :=
  ∃ outcome deliveries, duty.Finished (request name handle) outcome ∧
    other = duty.relabel Loop.piped (Shared.holding deliveries)

/-- Elsewhere than at a read both take the same turn, and are nearer to the end. -/
theorem InStep.turns {duty : Duty Loop Scripted} {other : Duty Pipelined.Loop Scripted}
    (inStep : InStep duty other) {query : Query} {next : query.Reply → Paced Loop}
    (asks : duty.state.request (request name handle) = .ask query next)
    (elsewhere : duty.state.pending = [] → duty.state.now.point ≠ .reading) :
    Duty.Turns (Pipelined.request name handle) other
        ((duty.answered query next).relabel Loop.piped id) ∧
      InStep (duty.answered query next) ((duty.answered query next).relabel Loop.piped id) ∧
      WellFoundedRelation.rel (Blocking.left (duty.answered query next)) (Blocking.left duty) := by
  have hmove := Move.of_request asks (duty.shared.answer duty.life.stopRequested query).reply
  have hscript : (duty.answered query next).shared.client.script = duty.shared.client.script :=
    script_of_move hmove elsewhere duty.shared duty.life.stopRequested
  refine ⟨?_, ⟨rfl, (Duty.turns_of_asks asks).onDuty inStep.onDuty |>.1, ?_⟩, ?_⟩
  · rw [inStep.other_eq]
    exact Duty.turns_relabel_id (by rw [request_map_piped elsewhere, asks]; rfl)
  · rw [Scripted.ReadsPlainly, hscript]
    exact inStep.plain
  · rw [Blocking.left, Blocking.left, hscript]
    rcases nearer_of_move hmove elsewhere with hrank | ⟨hrank, hpending⟩
    · exact nearer_second hrank
    · rw [show (duty.answered query next).state.now.point.rank = _ from hrank]
      exact nearer_third hpending

/-- Two loops in step come to the same end. -/
theorem InStep.exists_ended (name : String) (handle : Handle) {duty : Duty Loop Scripted}
    {other : Duty Pipelined.Loop Scripted} (inStep : InStep duty other) :
    ∃ last last', duty.Reaches (request name handle) last ∧
      other.Reaches (Pipelined.request name handle) last' ∧ BothEnded name handle last last' := by
  refine Duty.exists_meeting Blocking.left (fun {here there} inStep => ?_) inStep
  by_cases hreading : here.state.pending = [] ∧ here.state.now.point = .reading
  · obtain ⟨life, ⟨pending, point, counts⟩, shared⟩ := here
    obtain ⟨rfl, rfl⟩ : pending = [] ∧ point = .reading := hreading
    obtain ⟨rfl, onDuty, plain⟩ := inStep
    cases hreads : shared.client.script.reads with
    | nil =>
      obtain ⟨after, hblocking, hpipelined, hfinished⟩ :=
        reaches_exhausted name handle counts onDuty hreads
      exact ⟨after, _, hblocking, hpipelined, .inl ⟨_, _, hfinished, rfl⟩⟩
    | cons step rest =>
      have hplain : ∀ later ∈ step :: rest, later.act.isPlain = true := hreads ▸ plain
      obtain ⟨after, hblocking, hpipelined, hleft⟩ :=
        reaches_piped_of_reading name handle life counts hreads
          (hplain step (List.mem_cons_self ..))
      refine ⟨after, _, .single hblocking, hpipelined, .inr ⟨⟨rfl, ?_, ?_⟩, ?_⟩⟩
      · exact (hblocking.onDuty onDuty).1
      · rw [Scripted.ReadsPlainly, hleft]
        exact fun later hmem => hplain later (List.mem_cons_of_mem _ hmem)
      · refine nearer_first ?_
        rw [hleft, hreads]
        exact Nat.lt_succ_self _
  · have helsewhere : here.state.pending = [] → here.state.now.point ≠ .reading :=
      fun nothing reading => hreading ⟨nothing, reading⟩
    cases hrequest : here.state.request (request name handle) with
    | ask query next =>
      obtain ⟨hother, hstep, hnearer⟩ := inStep.turns hrequest helsewhere
      exact ⟨_, _, .single (Duty.turns_of_asks hrequest), .single hother, .inr ⟨hstep, hnearer⟩⟩
    | finish outcome =>
      exact ⟨here, there, .refl, .refl, .inl ⟨outcome, here.shared.client.deliveries, hrequest,
        inStep.other_eq⟩⟩

end Blocking
end Consumer
end BrokerLoad
