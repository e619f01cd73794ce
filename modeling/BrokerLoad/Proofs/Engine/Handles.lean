import BrokerLoad.Engine
import BrokerLoad.Proofs.Run

/-!
# The lives of handles

What an engine does for its handle is the same for all engines, and little of it matters to
the messages that it sends.  `Handling.Move` lists what can happen: the handle is created,
opened and used, and then it passes through some last stages until it is released.

Of all exchanges those are *sending* that have to do with messages sent: an id is taken, a
message is written or submitted, a receipt is taken, or a counter of the sending side is
changed.  An engine makes them in its loop only, so that with regard to them a run of the
engine is a run of its loop (`Handling.exists_encloses`).  The engine ends as its loop does,
or else by an error: that everything was completed is never said of a loop that has not
said so itself.
-/

namespace BrokerLoad

/-- Whether a counter is about messages sent. -/
@[simp] def Counter.isSending : Counter → Bool
  | .messagesOut => true
  | .bytesOut => true
  | .sendErrors => true
  | .throttled => true
  | .messagesIn => false
  | .bytesIn => false
  | .duplicates => false
  | .receiveErrors => false

/-- Whether a channel is about messages sent. -/
@[simp] def Channel.isSending : Channel → Bool
  | .write => true
  | .read => false

/-- Whether an emission is about messages sent. -/
@[simp] def Emission.isSending : Emission → Bool
  | .say _ => false
  | .bump counter _ => counter.isSending
  | .sample channel => channel.isSending

/-- Whether an exchange is about messages sent. -/
def Exchange.isSending : Exchange → Bool
  | ⟨.mint, _⟩ => true
  | ⟨.emit emission, _⟩ => emission.isSending
  | ⟨.broker (.submit _ _), _⟩ => true
  | ⟨.broker (.takeReceipt _), _⟩ => true
  | ⟨.broker (.write _ _), _⟩ => true
  | _ => false

/-- Whether a query is one that an engine makes while it uses its handle. -/
def Query.uses (handle : Handle) : Query → Bool
  | .broker (.submit other _) => other = handle
  | .broker (.write other _) => other = handle
  | .broker (.request other) => other = handle
  | .broker (.read other) => other = handle
  | .broker (.lastError other) => other = handle
  | .broker (.receiptReady _) => true
  | .broker (.takeReceipt _) => true
  | .broker (.deliveryReady _) => true
  | .broker (.takeDelivery _) => true
  | .broker (.ack _) => true
  | .broker (.nack _) => true
  | .broker _ => false
  | _ => true

/-- Whether a query is one that an engine makes about its handle, or none at all. -/
def Query.tends (handle : Handle) : Query → Bool
  | .pause => true
  | .broker (.openHandle other) => other = handle
  | .broker (.closeHandle other) => other = handle
  | .broker (.lastError other) => other = handle
  | _ => false

namespace Handling

namespace Stage

/-- The handle, while there is one. -/
@[simp] def handle? : Stage → Option Handle
  | .creating => none
  | .opening handle => some handle
  | .refused handle => some handle
  | .working handle => some handle
  | .closing handle _ => some handle
  | .releasing handle _ => some handle
  | .over _ => none

/-- How the engine is to end, once that is known. -/
@[simp] def outcome? : Stage → Option Outcome
  | .closing _ ending => some (.ok ending)
  | .releasing _ outcome => some outcome
  | .over outcome => some outcome
  | _ => none

/-- Whether the handle is still to be used. -/
@[simp] def isEarly : Stage → Bool
  | .creating => true
  | .opening _ => true
  | _ => false

/-- Whether it is in use. -/
@[simp] def isWorking : Stage → Bool
  | .working _ => true
  | _ => false

theorem ne_working {stage : Stage} (idle : stage.isWorking = false) (handle : Handle) :
    stage ≠ .working handle := by
  rintro rfl
  cases idle

end Stage

/-! ## The moves -/

variable {σ : Type} {name : String} {role : Role} {body : Handle → σ → Request Ending (Paced σ)}

/-- What can happen to an engine: its state before, what it asks and is told, and its state
after. -/
inductive Move (role : Role) (body : Handle → σ → Request Ending (Paced σ)) :
    Paced (Handling σ) → Exchange → Paced (Handling σ) → Prop
  /-- An emission is made. -/
  | emit (emission : Emission) (rest : List Emission) (engine : Handling σ) :
    Move role body ⟨emission :: rest, engine⟩ ⟨.emit emission, ()⟩ ⟨rest, engine⟩
  | create (handle : Handle) (loop : σ) :
    Move role body ⟨[], ⟨.creating, loop⟩⟩ ⟨.broker (.create role), .ok (some handle)⟩
      ⟨[], ⟨.opening handle, loop⟩⟩
  /-- There is to be no handle. -/
  | deny (reply : Except Fault (Option Handle)) (reports : List Emission) (outcome : Outcome)
      (loop : σ) (quiet : ∀ emission ∈ reports, emission.isSending = false)
      (failed : outcome ≠ .ok .completed) :
    Move role body ⟨[], ⟨.creating, loop⟩⟩ ⟨.broker (.create role), reply⟩
      ⟨reports, ⟨.over outcome, loop⟩⟩
  /-- The handle can be used. -/
  | opened (handle : Handle) (loop : σ) :
    Move role body ⟨[], ⟨.opening handle, loop⟩⟩ ⟨.broker (.openHandle handle), .ok true⟩
      ⟨[], ⟨.working handle, loop⟩⟩
  /-- It is used. -/
  | work (handle : Handle) (loop : σ) {query : Query} {next : query.Reply → Paced σ}
      (asks : body handle loop = .ask query next) (reply : query.Reply) :
    Move role body ⟨[], ⟨.working handle, loop⟩⟩ ⟨query, reply⟩
      ((next reply).map fun loop => ⟨.working handle, loop⟩)
  /-- It is not used, or not any more. -/
  | pass {stage later : Stage} (handle : Handle) (exchange : Exchange) (reports : List Emission)
      (loop : σ) (held : stage.handle? = some handle) (kept : later.handle? = some handle)
      (late : later.isEarly = false) (idle : later.isWorking = false)
      (tends : exchange.1.tends handle = true)
      (quiet : ∀ emission ∈ reports, emission.isSending = false)
      (honest : later.outcome? = some (.ok .completed) →
        stage.outcome? = some (.ok .completed) ∨
          (stage = .working handle ∧ body handle loop = .finish (.ok .completed))) :
    Move role body ⟨[], ⟨stage, loop⟩⟩ exchange ⟨reports, ⟨later, loop⟩⟩
  | release (handle : Handle) (outcome : Outcome) (loop : σ) :
    Move role body ⟨[], ⟨.releasing handle outcome, loop⟩⟩ ⟨.broker (.release handle), ()⟩
      ⟨[], ⟨.over outcome, loop⟩⟩

namespace Move

theorem quiet_caught (what : String) :
    ∀ emission ∈ caught name role what, emission.isSending = false := by
  cases role <;> simp [caught, Role.errorCounter]

theorem quiet_say (line : LogLine) :
    ∀ emission ∈ [Emission.say line], emission.isSending = false := by
  simp

/-- A fault is the end of the use of a handle. -/
theorem of_fail {stage : Stage} {handle : Handle} {exchange : Exchange} {loop : σ} (fault : Fault)
    (held : stage.handle? = some handle) (tends : exchange.1.tends handle = true) :
    Move role body ⟨[], ⟨stage, loop⟩⟩ exchange (fail name role handle loop fault) := by
  cases fault with
  | error what =>
    exact .pass handle exchange _ loop held rfl rfl rfl tends (quiet_caught what) (by simp)
  | foreign =>
    exact .pass handle exchange _ loop held rfl rfl rfl tends (by simp) (by simp)

/-- A request is answered by a move, whatever the reply. -/
theorem of_request {state : Paced (Handling σ)} {query : Query}
    {next : query.Reply → Paced (Handling σ)}
    (asks : state.request (request name role body) = .ask query next) (reply : query.Reply) :
    Move role body state ⟨query, reply⟩ (next reply) := by
  obtain ⟨pending, stage, loop⟩ := state
  cases pending with
  | cons emission rest =>
    cases asks
    exact .emit emission rest _
  | nil =>
    rw [Paced.request_nil] at asks
    cases stage with
    | creating =>
      simp only [request] at asks
      cases asks
      match reply with
      | .ok (some handle) => exact .create handle loop
      | .ok none => exact .deny _ _ _ loop (quiet_say _) (by simp)
      | .error (.error what) => exact .deny _ _ _ loop (quiet_caught what) (by simp)
      | .error .foreign => exact .deny _ _ _ loop (by simp) (by simp)
    | opening handle =>
      simp only [request] at asks
      cases asks
      match reply with
      | .ok true => exact .opened handle loop
      | .ok false =>
        exact .pass handle _ _ loop rfl rfl rfl rfl (decide_eq_true rfl) (by simp) (by simp)
      | .error fault => exact of_fail fault rfl (decide_eq_true rfl)
    | refused handle =>
      simp only [request] at asks
      cases asks
      exact .pass handle _ _ loop rfl rfl rfl rfl (decide_eq_true rfl) (quiet_say _) (by simp)
    | working handle =>
      simp only [request] at asks
      cases hbody : body handle loop with
      | ask query next =>
        rw [hbody] at asks
        cases asks
        exact .work handle loop hbody reply
      | finish result =>
        rw [hbody] at asks
        cases asks
        cases result with
        | error fault => exact of_fail fault rfl rfl
        | ok ending =>
          refine .pass handle _ _ loop rfl rfl rfl rfl rfl (by simp) fun hcompleted => ?_
          cases hcompleted
          exact .inr ⟨rfl, hbody⟩
    | closing handle ending =>
      simp only [request] at asks
      cases asks
      match reply with
      | .ok () =>
        exact .pass handle _ _ loop rfl rfl rfl rfl (decide_eq_true rfl) (by simp) .inl
      | .error (.error what) =>
        exact .pass handle _ _ loop rfl rfl rfl rfl (decide_eq_true rfl) (quiet_say _) .inl
      | .error .foreign =>
        exact .pass handle _ _ loop rfl rfl rfl rfl (decide_eq_true rfl) (by simp) (by simp)
    | releasing handle outcome =>
      simp only [request] at asks
      cases asks
      exact .release handle outcome loop
    | _ =>
      simp only [request] at asks
      cases asks

end Move

/-! ## The run of the loop -/

/-- A run of an engine, its exchanges and its state, and the run of its loop in it. -/
structure Encloses (body : Handle → σ → Request Ending (Paced σ)) (start : σ)
    (exchanges : List Exchange) (state : Paced (Handling σ)) (handle : Handle)
    (turns : List (Turn σ)) (inner : Paced σ) : Prop where
  run : Run (body handle) (.enter start) turns inner
  /-- What is sent is sent by the loop. -/
  sending : exchanges.filter Exchange.isSending =
    (turns.map Turn.exchange).filter Exchange.isSending
  loop : inner.now = state.now.loop
  /-- While the handle is in use the loop is at work. -/
  working : ∀ other, state.now.stage = .working other →
    other = handle ∧ inner.pending = state.pending
  /-- While it is not, the loop has nothing more to say. -/
  idle : state.now.stage.isWorking = false →
    inner.pending = [] ∧ ∀ emission ∈ state.pending, emission.isSending = false
  /-- Before it is, the loop has not begun. -/
  early : state.now.stage.isEarly = true → turns = [] ∧ inner = .enter start
  /-- The engine has completed its task only if the loop has. -/
  honest : state.now.stage.outcome? = some (.ok .completed) →
    body handle state.now.loop = .finish (.ok .completed)

namespace Encloses

variable {start : σ} {exchanges : List Exchange} {state after : Paced (Handling σ)}
  {handle : Handle} {turns : List (Turn σ)} {inner : Paced σ} {exchange : Exchange}

theorem begin (handle : Handle) :
    Encloses body start [] (Handling.begin start) handle [] (.enter start) where
  run := .start
  sending := rfl
  loop := rfl
  working := by simp [Handling.begin, Paced.enter]
  idle := by simp [Handling.begin, Paced.enter]
  early _ := ⟨rfl, rfl⟩
  honest := by simp [Handling.begin, Paced.enter]

/-- What an engine does for its handle is nothing to the loop. -/
theorem aside (encloses : Encloses body start exchanges state handle turns inner)
    (silent : exchange.isSending = false) (loop : after.now.loop = state.now.loop)
    (pending : inner.pending = [])
    (quiet : ∀ emission ∈ after.pending, emission.isSending = false)
    (working : ∀ other, after.now.stage = .working other → other = handle ∧ after.pending = [])
    (early : after.now.stage.isEarly = true → state.now.stage.isEarly = true)
    (honest : after.now.stage.outcome? = some (.ok .completed) →
      body handle after.now.loop = .finish (.ok .completed)) :
    Encloses body start (exchanges ++ [exchange]) after handle turns inner where
  run := encloses.run
  sending := by
    rw [List.filter_append, encloses.sending, List.filter_cons_of_neg (by simp [silent]),
      List.filter_nil, List.append_nil]
  loop := encloses.loop.trans loop.symm
  working other here := ⟨(working other here).1, pending.trans (working other here).2.symm⟩
  idle _ := ⟨pending, quiet⟩
  early here := encloses.early (early here)
  honest := honest

/-- What happens in the loop happens in a turn of the loop. -/
theorem turn {next : Paced σ} (encloses : Encloses body start exchanges state handle turns inner)
    (run : Run (body handle) (.enter start) (turns ++ [⟨inner, exchange⟩]) next) :
    Encloses body start (exchanges ++ [exchange]) (next.map fun loop => ⟨.working handle, loop⟩)
      handle (turns ++ [⟨inner, exchange⟩]) next where
  run := run
  sending := by
    rw [List.filter_append, encloses.sending, List.map_append, List.filter_append]
    rfl
  loop := rfl
  working other hother := ⟨(Stage.working.inj hother).symm, rfl⟩
  idle := nofun
  early := nofun
  honest := nofun

theorem silent_of_tends {handle : Handle} (tends : exchange.1.tends handle = true) :
    exchange.isSending = false := by
  obtain ⟨query, reply⟩ := exchange
  cases query with
  | broker call => cases call <;> first | rfl | cases tends
  | pause => rfl
  | _ => cases tends

/-- A move of the engine is a turn of its loop, or is nothing to it. -/
theorem move (encloses : Encloses body start exchanges state handle turns inner)
    (move : Move role body state exchange after) :
    ∃ handle turns inner,
      Encloses body start (exchanges ++ [exchange]) after handle turns inner := by
  cases move with
  | emit emission rest engine =>
    cases hworking : engine.stage.isWorking with
    | true =>
      obtain ⟨other, hstage⟩ : ∃ other, engine.stage = .working other := by
        cases hstage : engine.stage with
        | working other => exact ⟨other, rfl⟩
        | _ => simp [hstage] at hworking
      obtain ⟨rfl, hpending⟩ := encloses.working other hstage
      obtain rfl : inner = ⟨emission :: rest, engine.loop⟩ := by
        obtain ⟨pending, now⟩ := inner
        cases encloses.loop
        cases hpending
        rfl
      have hturn := encloses.turn (encloses.run.ask rfl ())
      have hsame : (⟨rest, engine.loop⟩ : Paced σ).map (fun loop => ⟨.working other, loop⟩) =
          ⟨rest, engine⟩ := by
        rw [← hstage]
        rfl
      exact ⟨_, _, _, hsame ▸ hturn⟩
    | false =>
      obtain ⟨hpending, hquiet⟩ := encloses.idle hworking
      exact ⟨_, _, _, encloses.aside (hquiet emission List.mem_cons_self) rfl hpending
        (fun emission hmem => hquiet emission (List.mem_cons_of_mem _ hmem))
        (fun other here => absurd here (Stage.ne_working hworking other)) id encloses.honest⟩
  | create other loop =>
    exact ⟨_, _, _, encloses.aside rfl rfl (encloses.idle rfl).1 (by simp) (by simp) id (by simp)⟩
  | deny reply reports outcome loop quiet failed =>
    exact ⟨_, _, _, encloses.aside rfl rfl (encloses.idle rfl).1 quiet (by simp) (by simp)
      (by simp [failed])⟩
  | opened other loop =>
    -- the loop has not begun, so it may as well be the loop of this handle
    have hloop := encloses.loop
    have hsending := encloses.sending
    obtain ⟨rfl, rfl⟩ := encloses.early rfl
    have hbegun : Encloses body start exchanges ⟨[], ⟨.opening other, loop⟩⟩ other []
        (.enter start) := { encloses with
      run := .start
      working := nofun
      honest := nofun }
    exact ⟨_, _, _, hbegun.aside rfl rfl rfl (by simp) (by simp) (by simp) (by simp)⟩
  | work other loop asks reply =>
    obtain ⟨rfl, hpending⟩ := encloses.working other rfl
    obtain rfl : inner = ⟨[], loop⟩ := by
      obtain ⟨pending, now⟩ := inner
      cases encloses.loop
      cases hpending
      rfl
    exact ⟨_, _, _, encloses.turn (encloses.run.ask asks reply)⟩
  | @pass stage later other exchange reports loop held kept late idle tends quiet honest =>
    have hpending : inner.pending = [] := by
      cases hstage : stage with
      | working used => exact (encloses.working used hstage).2
      | _ => exact (encloses.idle (by simp [hstage])).1
    refine ⟨_, _, _, encloses.aside (silent_of_tends tends) rfl hpending quiet
      (fun used here => absurd here (Stage.ne_working idle used)) (fun here => ?_) fun here => ?_⟩
    · rw [late] at here
      cases here
    · rcases honest here with hbefore | ⟨hworking, hfinish⟩
      · exact encloses.honest hbefore
      · rw [(encloses.working other hworking).1] at hfinish
        exact hfinish
  | release other outcome loop =>
    exact ⟨_, _, _, encloses.aside rfl rfl (encloses.idle rfl).1 (by simp) (by simp) (by simp)
      encloses.honest⟩

end Encloses

/-- In every run of an engine there is a run of its loop. -/
theorem exists_encloses {start : σ} {turns : List (Turn (Handling σ))}
    {state : Paced (Handling σ)}
    (run : Run (request name role body) (begin start) turns state) :
    ∃ handle inner reached,
      Encloses body start (turns.map Turn.exchange) state handle inner reached := by
  induction run with
  | start => exact ⟨0, _, _, .begin 0⟩
  | @ask turns state query next before asks reply ih =>
    obtain ⟨handle, inner, reached, encloses⟩ := ih
    rw [List.map_append]
    exact encloses.move (Move.of_request asks reply)

end Handling
end BrokerLoad
