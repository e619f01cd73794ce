import BrokerLoad.Proofs.Producer.Tallies

/-!
# Draining the window

A pipelined producer that is to drain its window looks at the stop request at the end of a
turn and nowhere else.  When it finds one there it forgets what it has not sent, and from
then on it only winds down: `IsWinding` says where such a loop can be, and `IsWinding.ebbs`
what one move of it can be.  Nothing is begun any more, and every move but a look at a
receipt that is not there yet makes the loop come nearer to its end, by the measure
`ebb`.

What a loop that winds down reconciles follows from the order of receipts: what was
submitted is what was settled, what was lost and what is waiting, before and after
(`InOrder`), and nothing is submitted in between.  So the receipts collected are those of
the window, oldest first, and all of them when the loop ends by saying that it was stopped.
Two things can end it earlier, a message refused too often and a receipt that cannot be
taken (`IsReconciled.ended`).
-/

namespace BrokerLoad

namespace Exchange

/-- Whether something new is begun: an id is taken, or a message is handed to the broker. -/
def begins : Exchange → Bool
  | ⟨.mint, _⟩ => true
  | ⟨.broker (.submit _ _), _⟩ => true
  | ⟨.broker (.write _ _), _⟩ => true
  | _ => false

/-- Whether it is a look at a receipt that is not there yet. -/
def isFutile : Exchange → Bool
  | ⟨.broker (.receiptReady _), ready⟩ => !ready
  | _ => false

end Exchange

namespace Producer
namespace Pipelined

namespace Point

/-- Where a loop can be that winds down. -/
@[simp] def winds : Point → Bool
  | .head => true
  | .awaiting _ => true
  | .collecting _ => true
  | .checkpoint => true
  | .halted _ => true
  | _ => false

/-- How many turns there may be before the loop is at its head again, not counting those in
which it looks at a receipt that is not there. -/
@[simp] def ebb : Point → Nat
  | .awaiting _ => 5
  | .collecting _ => 4
  | .checkpoint => 1
  | _ => 0

end Point

/-- A loop that winds down. -/
structure IsWinding (loop : Loop) : Prop where
  draining : loop.draining = true
  spent : loop.remaining = 0
  place : loop.point.winds = true

/-- How many turns there may be before the loop is over, not counting those in which it looks
at a receipt that is not there. -/
def ebb (state : Paced Loop) : Nat :=
  state.pending.length + state.now.point.ebb + 6 * state.now.window.toList.length +
    match state.now.point with
    | .halted _ => 0
    | _ => 1

variable {name : String} {options : Options} {handle : Handle} {past : History}
  {state after : Paced Loop} {exchange : Exchange} {events : History} {turns : List (Turn Loop)}

/-! ## Where stop requests are looked at -/

/-- A loop that is to drain its window never doubts that it should wait for a receipt. -/
theorem Move.patient (policy : options.stopPolicy = .drain)
    (calm : ∀ oldest, state.now.point ≠ .impatient oldest)
    (move : Move options handle state exchange events after) :
    ∀ oldest, after.now.point ≠ .impatient oldest := by
  cases move with
  | doubt loop oldest here going abandons => rw [policy] at abandons; cases abandons
  | accept loop oldest answer here ok =>
    rcases onward_cases loop.remaining with ⟨-, hon⟩ | ⟨-, hon⟩ <;> simp [hon]
  | drop loop oldest answer here refused below draining =>
    rcases onward_cases loop.remaining with ⟨-, hon⟩ | ⟨-, hon⟩ <;> simp [hon]
  | emit emission rest loop => exact calm
  | _ => simp_all

theorem patient_of_run (policy : options.stopPolicy = .drain)
    (run : Run (request name options handle) (.enter (.start options)) turns state) :
    ∀ oldest, state.now.point ≠ .impatient oldest :=
  history_induction (P := fun _ state => ∀ oldest, state.now.point ≠ .impatient oldest)
    (by simp [Paced.enter, Loop.start]) (fun calm move => move.patient policy calm) run

/-- A move that finds a stop request and does not end the loop begins to drain the window. -/
theorem Move.of_stop (policy : options.stopPolicy = .drain)
    (calm : ∀ oldest, state.now.point ≠ .impatient oldest)
    (move : Move options handle state ⟨.stopRequested, true⟩ events after) :
    state.now.point = .checkpoint ∧ state.now.draining = false ∧ events = [] ∧
      after = ⟨[], state.now.drain⟩ := by
  cases move with
  | abandon loop oldest here => exact absurd here (calm oldest)
  | leave loop here going abandons => rw [policy] at abandons; cases abandons
  | drain loop here going drains => exact ⟨here, going, rfl, rfl⟩

/-! ## Winding down -/

/-- What a move of a loop that winds down can be. -/
structure Ebbs (state : Paced Loop) (exchange : Exchange) (events : History)
    (after : Paced Loop) : Prop where
  /-- It still winds down. -/
  winding : IsWinding after.now
  /-- Nothing is begun. -/
  silent : exchange.begins = false
  unsent : events.sent = []
  /-- It comes nearer to its end, unless it looks in vain at a receipt. -/
  nearer : (!exchange.isFutile).toNat + ebb after ≤ ebb state

/-- A loop that winds down is not about to submit anything. -/
theorem IsWinding.submits?_eq {loop : Loop} (winding : IsWinding loop) :
    loop.point.submits? = none := by
  have hplace := winding.place
  cases hpoint : loop.point <;> simp_all [Point.submits?]

theorem onward_of_spent {loop : Loop} (winding : IsWinding loop) :
    onward loop.remaining = .checkpoint :=
  if_pos winding.spent

theorem IsWinding.ebbs (winding : IsWinding state.now)
    (move : Move options handle state exchange events after) :
    Ebbs state exchange events after := by
  have hnone := winding.submits?_eq
  obtain ⟨hdraining, hspent, hplace⟩ := winding
  cases move with
  | emit emission rest loop =>
    refine ⟨⟨hdraining, hspent, hplace⟩, rfl, rfl, ?_⟩
    simp [Exchange.isFutile, ebb]
    omega
  | finish loop here empty none_left =>
    exact ⟨⟨hdraining, hspent, rfl⟩, rfl, rfl, by simp [Exchange.isFutile, ebb, here, empty]⟩
  | take loop oldest rest here pops must =>
    refine ⟨⟨hdraining, hspent, rfl⟩, rfl, rfl, ?_⟩
    simp [Exchange.isFutile, ebb, here, pops]
    omega
  | ready loop oldest here =>
    refine ⟨⟨hdraining, hspent, rfl⟩, rfl, rfl, ?_⟩
    simp [Exchange.isFutile, ebb, here]
    omega
  | linger loop oldest here patient =>
    exact ⟨⟨hdraining, hspent, hplace⟩, rfl, rfl, by simp [Exchange.isFutile]⟩
  | accept loop oldest answer here ok =>
    have hon := onward_of_spent ⟨hdraining, hspent, hplace⟩
    refine ⟨⟨hdraining, hspent, by simp [hon]⟩, rfl, rfl, ?_⟩
    simp [Exchange.isFutile, ebb, here, hon]
    omega
  | drop loop oldest answer here refused below draining =>
    have hon := onward_of_spent ⟨hdraining, hspent, hplace⟩
    refine ⟨⟨hdraining, hspent, by simp [hon]⟩, rfl, rfl, ?_⟩
    simp only [refusal]
    split <;> simp [Exchange.isFutile, ebb, here, hon] <;> omega
  | giveUp loop oldest answer line here refused cap =>
    refine ⟨⟨hdraining, hspent, rfl⟩, rfl, rfl, ?_⟩
    simp [Exchange.isFutile, ebb, here]
    omega
  | spoil loop oldest fault here =>
    refine ⟨⟨hdraining, hspent, rfl⟩, rfl, rfl, ?_⟩
    simp [Exchange.isFutile, ebb, here]
    omega
  | turn loop here draining =>
    refine ⟨⟨hdraining, hspent, rfl⟩, rfl, rfl, ?_⟩
    simp [Exchange.isFutile, ebb, here]
    omega
  | _ =>
    -- the other moves are not for a loop that winds down
    simp_all

/-- How a loop can be over that winds down. -/
inductive Conclusion (options : Options) (exchanges : List Exchange) (past : History)
    (loop : Loop) : Outcome → Prop where
  /-- The window is empty, and every receipt was collected. -/
  | drained (empty : loop.window.toList = []) (lossless : past.lost = []) :
    Conclusion options exchanges past loop (.ok .stopRequested)
  /-- A message was refused too often. -/
  | exceeded (exhausted : past.Exhausted options.maxAttempts) :
    Conclusion options exchanges past loop (.ok .attemptsExceeded)
  /-- A receipt could not be taken. -/
  | spoiled (ticket : Ticket) (fault : Fault)
      (fails : ⟨.broker (.takeReceipt ticket), .error fault⟩ ∈ exchanges) :
    Conclusion options exchanges past loop (.error fault)

/-- What a loop has done since it began to wind down. -/
structure Winds (options : Options) (exchanges : List Exchange) (past : History)
    (loop : Loop) : Prop extends IsWinding loop where
  unsent : past.sent = []
  /-- A loop that has lost a receipt does not turn any more. -/
  lossless : loop.point.isLive = true → past.lost = []
  ended : ∀ outcome, loop.point = .halted outcome →
    Conclusion options exchanges past loop outcome

namespace Winds

variable {exchanges : List Exchange}

theorem drain (loop : Loop) : Winds options [] [] loop.drain where
  draining := rfl
  spent := rfl
  place := rfl
  unsent := rfl
  lossless _ := rfl
  ended outcome here := by cases here

/-- A loop that turns on has neither lost a receipt nor come to an end. -/
theorem turn (winds : Winds options exchanges past state.now)
    (ebbs : Ebbs state exchange events after) (live : state.now.point.isLive = true)
    (lossless : events.lost = []) (turns : ∀ outcome, after.now.point ≠ .halted outcome) :
    Winds options (exchanges ++ [exchange]) (past ++ events) after.now where
  toIsWinding := ebbs.winding
  unsent := by rw [History.sent_append, winds.unsent, ebbs.unsent, List.append_nil]
  lossless _ := by rw [History.lost_append, winds.lossless live, lossless, List.append_nil]
  ended outcome here := absurd here (turns outcome)

/-- A loop that is over winds down no further. -/
theorem halt (winds : Winds options exchanges past state.now)
    (ebbs : Ebbs state exchange events after) {outcome : Outcome}
    (here : after.now.point = .halted outcome)
    (conclusion : Conclusion options (exchanges ++ [exchange]) (past ++ events) after.now outcome) :
    Winds options (exchanges ++ [exchange]) (past ++ events) after.now where
  toIsWinding := ebbs.winding
  unsent := by rw [History.sent_append, winds.unsent, ebbs.unsent, List.append_nil]
  lossless live := by rw [here] at live; cases live
  ended outcome' here' := by
    cases here.symm.trans here'
    exact conclusion

theorem move (winds : Winds options exchanges past state.now)
    (move : Move options handle state exchange events after) :
    Winds options (exchanges ++ [exchange]) (past ++ events) after.now := by
  have ebbs := winds.toIsWinding.ebbs move
  cases move with
  | emit emission rest loop =>
    refine ⟨ebbs.winding, ?_, ?_, fun outcome here => ?_⟩
    · rw [List.append_nil]
      exact winds.unsent
    · rw [List.append_nil]
      exact winds.lossless
    · rw [List.append_nil]
      cases winds.ended outcome here with
      | drained empty lossless => exact .drained empty lossless
      | exceeded exhausted => exact .exceeded exhausted
      | spoiled ticket fault fails => exact .spoiled ticket fault (List.mem_append_left _ fails)
  | finish loop here empty none_left =>
    have hstopped : (if loop.draining then Ending.stopRequested else .completed) =
        .stopRequested := if_pos winds.draining
    refine winds.halt ebbs (congrArg (fun ending => Point.halted (.ok ending)) hstopped)
      (.drained empty ?_)
    rw [List.append_nil]
    exact winds.lossless (by simp [here])
  | giveUp loop oldest answer line here refused cap =>
    refine winds.halt ebbs rfl (.exceeded ?_)
    exact (History.exhausted_append_of_answer rfl).2 ⟨refused, cap⟩
  | spoil loop oldest fault here =>
    exact winds.halt ebbs rfl (.spoiled oldest.ticket fault (List.mem_append_right _ (by simp)))
  | accept loop oldest answer here ok =>
    exact winds.turn ebbs (by simp [here]) rfl (onward_ne_halted _)
  | drop loop oldest answer here refused below draining =>
    exact winds.turn ebbs (by simp [here]) rfl (onward_ne_halted _)
  | take loop oldest rest here pops must => exact winds.turn ebbs (by simp [here]) rfl nofun
  | ready loop oldest here => exact winds.turn ebbs (by simp [here]) rfl nofun
  | linger loop oldest here patient =>
    exact winds.turn ebbs (by simp [here]) rfl (by simp [here])
  | turn loop here draining => exact winds.turn ebbs (by simp [here]) rfl nofun
  | _ =>
    have hnone := winds.toIsWinding.submits?_eq
    obtain ⟨hdraining, hspent, hplace⟩ := winds.toIsWinding
    simp_all

end Winds

/-! ## What becomes of the window -/

/-- What has become of a window since a stop request was found at the end of a turn. -/
structure IsReconciled (options : Options) (window : List InFlight) (after : List (Turn Loop))
    (state : Paced Loop) (result : Option Outcome) : Prop where
  /-- No id is taken, and nothing is handed to the broker, be it new or a repetition. -/
  silent : ∀ turn ∈ after, turn.exchange.begins = false
  /-- The receipts collected, the one lost if one was, and those still to come are the ones of
  the window, each of them once, oldest first. -/
  ordered : (history options after).settled ++ (history options after).lost ++
    (state.now.point.inHand ++ state.now.window.toList).map InFlight.submission =
      window.map InFlight.submission
  /-- The loop does not turn for long, apart from looking at a receipt that is not there. -/
  prompt : (after.countP fun turn => !turn.exchange.isFutile) ≤ 6 * window.length + 1
  /-- When it is over all receipts were collected, unless the last one said that a message was
  refused too often or could not be taken. -/
  ended : ∀ outcome, result = some outcome →
    outcome = .ok .stopRequested ∧
        (history options after).settled = window.map InFlight.submission ∨
      outcome = .ok .attemptsExceeded ∧ (history options after).Exhausted options.maxAttempts ∨
      ∃ ticket fault, outcome = .error fault ∧
        ∃ turn ∈ after, turn.exchange = ⟨.broker (.takeReceipt ticket), .error fault⟩

/-- A run in which a stop request is found is a run to the end of a turn, and from there a run
that winds down. -/
theorem Winds.of_run {before after : List (Turn Loop)} {mid : Paced Loop}
    (policy : options.stopPolicy = .drain)
    (run : Run (request name options handle) (.enter (.start options))
      (before ++ ⟨mid, ⟨.stopRequested, true⟩⟩ :: after) state) :
    Run (request name options handle) (.enter (.start options)) before mid ∧
      mid.now.point = .checkpoint ∧
      history options (before ++ ⟨mid, ⟨.stopRequested, true⟩⟩ :: after) =
        history options before ++ history options after ∧
      Run (request name options handle) ⟨[], mid.now.drain⟩ after state ∧
      Winds options (after.map Turn.exchange) (history options after) state.now := by
  obtain ⟨between, hbefore, hrest⟩ := run.split
  obtain ⟨query, next, reply, hturn, asks, hafter⟩ := hrest.first
  cases hturn
  obtain ⟨events, move⟩ := Move.of_request asks true
  obtain ⟨hpoint, -, rfl, hdrain⟩ := move.of_stop policy (patient_of_run policy hbefore)
  rw [hdrain] at hafter
  refine ⟨hbefore, hpoint, ?_, hafter, ?_⟩
  · rw [← List.singleton_append, history_append, history_append, history_singleton,
      move.events_eq, List.nil_append]
  · exact run_induction
      (P := fun exchanges past state => Winds options exchanges past state.now) (.drain mid.now)
      (fun winds move => winds.move move) hafter

/-- A loop that winds down begins nothing, and does not turn for long. -/
theorem ebbs_of_run {start : Paced Loop} (winding : IsWinding start.now)
    (run : Run (request name options handle) start turns state) :
    (∀ turn ∈ turns, turn.exchange.begins = false) ∧
      (turns.countP fun turn => !turn.exchange.isFutile) + ebb state ≤ ebb start := by
  have hsilent := run.spends (P := fun state => IsWinding state.now) (Q := fun _ => True)
    Exchange.begins (fun _ => 0) winding (fun _ _ => trivial) fun reply winding asks _ => by
      obtain ⟨events, move⟩ := Move.of_request asks reply
      have ebbs := winding.ebbs move
      exact ⟨ebbs.winding, by simp [ebbs.silent]⟩
  have hnearer := run.spends (P := fun state => IsWinding state.now) (Q := fun _ => True)
    (fun exchange => !exchange.isFutile) ebb winding (fun _ _ => trivial)
    fun reply winding asks _ => by
      obtain ⟨events, move⟩ := Move.of_request asks reply
      have ebbs := winding.ebbs move
      exact ⟨ebbs.winding, ebbs.nearer⟩
  refine ⟨fun turn hmem => ?_, hnearer.2⟩
  have hnone := List.countP_eq_zero.1 (Nat.le_zero.1 hsilent.2) turn hmem
  exact Bool.not_eq_true _ ▸ hnone

theorem isReconciled_of_run {before after : List (Turn Loop)} {mid : Paced Loop}
    (policy : options.stopPolicy = .drain)
    (run : Run (request name options handle) (.enter (.start options))
      (before ++ ⟨mid, ⟨.stopRequested, true⟩⟩ :: after) state) :
    IsReconciled options mid.now.window.toList after state
      (state.request (request name options handle)).result? := by
  obtain ⟨hbefore, hpoint, hhistory, hafter, winds⟩ := Winds.of_run policy run
  have begun : Winds options [] [] mid.now.drain := .drain mid.now
  obtain ⟨silent, prompt⟩ := ebbs_of_run begun.toIsWinding hafter
  -- what was submitted before is all that was submitted, so both sides of the order agree
  have ordered : (history options after).settled ++ (history options after).lost ++
      (state.now.point.inHand ++ state.now.window.toList).map InFlight.submission =
        mid.now.window.toList.map InFlight.submission := by
    have hwhole := (InOrder.of_run run).order
    have hfirst := InOrder.of_run hbefore
    have hlost : (history options before).lost = [] := hfirst.lossless (by simp [hpoint])
    rw [hhistory, History.sent_append, winds.unsent, List.append_nil, hfirst.order,
      History.settled_append, History.lost_append, hlost, hpoint] at hwhole
    simpa using hwhole.symm
  refine ⟨silent, ordered, ?_, fun outcome result => ?_⟩
  · simp [ebb, Loop.drain] at prompt
    omega
  · obtain ⟨-, here⟩ := point_of_result result
    cases winds.ended outcome here with
    | drained empty lossless =>
      rw [here, lossless, empty] at ordered
      exact Or.inl ⟨rfl, by simpa using ordered⟩
    | exceeded exhausted => exact Or.inr (Or.inl ⟨rfl, exhausted⟩)
    | spoiled ticket fault fails =>
      obtain ⟨turn, hmem, hturn⟩ := List.mem_map.1 fails
      exact Or.inr (Or.inr ⟨ticket, fault, rfl, turn, hmem, hturn⟩)

/-! ## Drained runs -/

/-- A loop that drains its window, or says that it was stopped, has found a stop request. -/
theorem stop_of_run
    (run : Run (request name options handle) (.enter (.start options)) turns state)
    (here : state.now.point = .halted (.ok .stopRequested)) :
    ⟨.stopRequested, true⟩ ∈ turns.map Turn.exchange := by
  refine (exchange_induction
    (P := fun exchanges _ state =>
      state.now.draining = true ∨ state.now.point = .halted (.ok .stopRequested) →
        ⟨.stopRequested, true⟩ ∈ exchanges)
    (by simp [Paced.enter, Loop.start]) (fun before move => ?_) run) (Or.inr here)
  intro hafter
  cases move with
  | abandon loop oldest here => simp
  | leave loop here going abandons => simp
  | drain loop here going drains => simp
  | finish loop here empty none_left =>
    cases hdraining : loop.draining <;> simp_all
  | accept loop oldest answer here ok =>
    have hdraining := hafter.resolve_right (onward_ne_halted _ _)
    exact List.mem_append_left _ (before (Or.inl hdraining))
  | drop loop oldest answer here refused below draining =>
    exact List.mem_append_left _ (before (Or.inl draining))
  | _ => simp_all

/-- A turn of a run starts where the turns before it have led to. -/
theorem point_of_mem (policy : options.stopPolicy = .drain)
    (run : Run (request name options handle) (.enter (.start options)) turns state)
    {turn : Turn Loop} (hmem : turn ∈ turns) :
    (∀ oldest, turn.state.now.point ≠ .impatient oldest) ∧
      ∃ events after, Move options handle turn.state turn.exchange events after := by
  obtain ⟨before, after, rfl⟩ := List.append_of_mem hmem
  obtain ⟨between, hbefore, hrest⟩ := run.split
  obtain ⟨query, next, reply, rfl, asks, -⟩ := hrest.first
  obtain ⟨events, move⟩ := Move.of_request asks reply
  exact ⟨patient_of_run policy hbefore, events, _, move⟩

/-- How a producer deals with its window that is to drain it. -/
structure Drains (options : Options) (turns : List (Turn Loop)) (state : Paced Loop)
    (result : Option Outcome) : Prop where
  /-- The stop request is looked at when a turn ends, and never during the wait for a receipt. -/
  looks : ∀ turn ∈ turns, turn.exchange.1 = .stopRequested → turn.state.now.point = .checkpoint
  /-- No receipt is given up. -/
  patient : ∀ id attempt, .abandoned id attempt ∉ history options turns
  /-- Once a stop request is found the window is reconciled, and nothing else is done. -/
  reconciled : ∀ before mid after, turns = before ++ ⟨mid, ⟨.stopRequested, true⟩⟩ :: after →
    IsReconciled options mid.now.window.toList after state result
  /-- It says that it was stopped only if it found a stop request and its window is empty. -/
  emptied : result = some (.ok .stopRequested) →
    ⟨.stopRequested, true⟩ ∈ turns.map Turn.exchange ∧ state.now.window.toList = []
  /-- If it says so, every submission was accepted or counted as an error. -/
  balance : result = some (.ok .stopRequested) → ∀ ledger later : Ledger,
    ledger.Serves turns [] later →
      state.now.counts.submitted = state.now.counts.completed +
        (later.metrics.sendErrors - ledger.metrics.sendErrors)

/-- A producer that is to drain its window waits for every receipt.  Once it has found a stop
request it takes no ids and submits nothing, and reconciles its window, oldest first. -/
theorem drains_window (name : String) (options : Options) (handle : Handle)
    (policy : options.stopPolicy = .drain) (turns : List (Turn Loop)) (state : Paced Loop)
    (run : Run (request name options handle) (.enter (.start options)) turns state) :
    Drains options turns state (state.request (request name options handle)).result? := by
  have emptied : (state.request (request name options handle)).result? =
      some (.ok .stopRequested) → ⟨.stopRequested, true⟩ ∈ turns.map Turn.exchange ∧
        state.now.window.toList = [] ∧ (history options turns).lost = [] := by
    intro result
    obtain ⟨-, here⟩ := point_of_result result
    have hstop := stop_of_run run here
    obtain ⟨⟨mid, exchange⟩, hmem, rfl⟩ := List.mem_map.1 hstop
    obtain ⟨before, after, rfl⟩ := List.append_of_mem hmem
    obtain ⟨hbefore, hpoint, hhistory, -, winds⟩ := Winds.of_run policy run
    have hlost := (InOrder.of_run hbefore).lossless (by simp [hpoint])
    cases winds.ended _ here with
    | drained empty lossless =>
      exact ⟨hstop, empty, by rw [hhistory, History.lost_append, hlost, lossless]; rfl⟩
  refine ⟨fun turn hmem hlook => ?_, fun id attempt hmem => ?_, ?_,
    fun result => ⟨(emptied result).1, (emptied result).2.1⟩, fun result ledger later served => ?_⟩
  · obtain ⟨hcalm, events, after, move⟩ := point_of_mem policy run hmem
    obtain ⟨before, query, reply⟩ := turn
    cases hlook
    cases move with
    | abandon loop oldest here => exact absurd here (hcalm oldest)
    | persist loop oldest here => exact absurd here (hcalm oldest)
    | goOn loop here going => exact here
    | leave loop here going abandons => exact here
    | drain loop here going drains => exact here
  · obtain ⟨turn, hturn, hevent⟩ := List.mem_flatMap.1 hmem
    obtain ⟨hcalm, events, after, move⟩ := point_of_mem policy run hturn
    rw [move.events_eq] at hevent
    obtain ⟨before, exchange⟩ := turn
    cases move with
    | abandon loop oldest here => exact absurd here (hcalm oldest)
    | _ => simp at hevent
  · rintro before mid after rfl
    exact isReconciled_of_run policy run
  · have hbalance := (accounts run served result).balance
    rw [(emptied result).2.2, Fifo.size_eq_length, (emptied result).2.1] at hbalance
    exact hbalance.trans (UInt64.add_zero _)

/-- A producer with one message in flight, which finds a stop request and reconciles it. -/
theorem drains_window_one_in_flight : ∃ (turns : List (Turn Loop)) (state : Paced Loop),
    (state.request (request "p" { destination := "d", messages := 2, stopPolicy := .drain }
      0)).result? = some (.ok .stopRequested) ∧
    Drains { destination := "d", messages := 2, stopPolicy := .drain } turns state
      (state.request (request "p" { destination := "d", messages := 2, stopPolicy := .drain }
        0)).result? := by
  have begun : Run (request "p" { destination := "d", messages := 2, stopPolicy := .drain } 0)
      (.enter (.start { destination := "d", messages := 2, stopPolicy := .drain })) _ _ := .start
  have sent := ((begun.ask rfl ()).ask rfl 1).ask rfl (Except.ok (some (5 : Ticket)))
  have found := ((sent.ask rfl ()).ask rfl ()).ask rfl true
  have ready := ((found.ask rfl ()).ask rfl false).ask rfl true
  have refused := ready.ask rfl (Except.ok ⟨WriteStatus.throttled, ""⟩)
  have ended := (((refused.ask rfl ()).ask rfl ()).ask rfl ()).ask rfl ()
  exact ⟨_, _, rfl, drains_window "p" _ 0 rfl _ _ ended⟩

end Pipelined
end Producer
end BrokerLoad
