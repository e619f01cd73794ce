import BrokerLoad.Proofs.Producer.Tallies

/-!
# The verdicts on what a producer sends

A broker passes a verdict on every message that it is sent, when it is sent.  A blocking
producer hears of it at once, a pipelined one when it takes the receipt.  Suppose that every
ticket has its status from the beginning, and that receipts say what their tickets say
(`Exchange.Upholds`).  Then the verdicts passed are those that the producer has heard of, in
order, followed by those on what is in flight (`Confirms`).

A producer that completes its task has heard of them all, and the last one was in its favour:
after a refusal it has a message to repeat or another receipt to wait for, and is not done
(`Settles`).  What follows for its verdicts is in `Concludes`.
-/

namespace BrokerLoad

namespace Exchange

/-- The verdict on what was sent, if something was, from what the tickets say. -/
def verdict? (statusOf : Ticket → WriteStatus) : Exchange → Option WriteStatus
  | ⟨.broker (.submit _ _), .ok (some ticket)⟩ => some (statusOf ticket)
  | ⟨.broker (.write _ _), .ok answer⟩ => some answer.status
  | _ => none

/-- Whether a receipt, if one was taken, says what its ticket says. -/
def Upholds (statusOf : Ticket → WriteStatus) : Exchange → Prop
  | ⟨.broker (.takeReceipt ticket), .ok answer⟩ => answer.status = statusOf ticket
  | _ => True

end Exchange

/-- The verdicts on what was sent. -/
def verdicts (statusOf : Ticket → WriteStatus) (exchanges : List Exchange) : List WriteStatus :=
  exchanges.filterMap (Exchange.verdict? statusOf)

theorem verdicts_snoc (statusOf : Ticket → WriteStatus) (exchanges : List Exchange)
    (exchange : Exchange) : verdicts statusOf (exchanges ++ [exchange]) =
      verdicts statusOf exchanges ++ (exchange.verdict? statusOf).toList := by
  rw [verdicts, verdicts, List.filterMap_append, List.filterMap_cons]
  cases exchange.verdict? statusOf <;> rfl

namespace Producer

namespace History

/-- What the receipts say, in order. -/
def statuses (history : History) : List WriteStatus := history.answers.map fun answer => answer.2.2

@[simp] theorem statuses_append (history more : History) :
    statuses (history ++ more) = history.statuses ++ more.statuses := by
  rw [statuses, answers_append, List.map_append, statuses, statuses]

/-- The last receipt collected refuses. -/
def EndsRefused (history : History) : Prop :=
  ∃ status, history.statuses.getLast? = some status ∧ status ≠ .ok

/-- No submission was refused that may not be repeated. -/
def Repeatable (maxAttempts : UInt32) (history : History) : Prop :=
  ∀ id attempt status, (id, attempt, status) ∈ history.answers → status ≠ .ok →
    attempt < maxAttempts

variable {maxAttempts : UInt32} {history events : History}

theorem endsRefused_append_of_silent (silent : events.answers = []) :
    EndsRefused (history ++ events) ↔ EndsRefused history := by
  rw [EndsRefused, EndsRefused, statuses_append, statuses.eq_def events, silent, List.map_nil,
    List.append_nil]

theorem endsRefused_append_of_answer {id : UInt64} {attempt : UInt32} {status : WriteStatus}
    (answer : events.answers = [(id, attempt, status)]) :
    EndsRefused (history ++ events) ↔ status ≠ .ok := by
  rw [EndsRefused, statuses_append, statuses.eq_def events, answer, List.map_singleton,
    List.getLast?_append, List.getLast?_singleton, Option.some_or]
  constructor
  · rintro ⟨status', heq, hrefused⟩
    cases heq
    exact hrefused
  · exact fun hrefused => ⟨status, rfl, hrefused⟩

theorem Repeatable.append (repeatable : history.Repeatable maxAttempts)
    (more : Repeatable maxAttempts events) : Repeatable maxAttempts (history ++ events) := by
  intro id attempt status hmem
  rw [answers_append] at hmem
  rcases List.mem_append.1 hmem with hbefore | hnow
  · exact repeatable id attempt status hbefore
  · exact more id attempt status hnow

theorem Repeatable.of_silent (silent : events.answers = []) : Repeatable maxAttempts events := by
  intro id attempt status hmem
  rw [silent] at hmem
  cases hmem

theorem Repeatable.of_answer {id : UInt64} {attempt : UInt32} {status : WriteStatus}
    (answer : events.answers = [(id, attempt, status)])
    (below : status ≠ .ok → attempt < maxAttempts) : Repeatable maxAttempts events := by
  intro id' attempt' status' hmem
  rw [answer] at hmem
  cases List.mem_singleton.1 hmem
  exact below

/-- If no refusal was the last that may be, then every throttled submission may be repeated. -/
theorem slowed_eq (repeatable : history.Repeatable maxAttempts) :
    history.slowed maxAttempts = history.statuses.count .throttled := by
  rw [slowed, statuses, List.count_eq_countP, List.countP_map]
  refine List.countP_congr fun answer hmem => ?_
  obtain ⟨id, attempt, status⟩ := answer
  have hbelow := repeatable id attempt status hmem
  simp only [decide_eq_true_eq, Function.comp, beq_iff_eq]
  exact ⟨fun h => h.1, fun h => ⟨h, hbelow (by rw [h]; decide)⟩⟩

/-- Receipts accept as often as messages are accepted. -/
theorem count_statuses (history : History) :
    history.statuses.count .ok = history.completed.length := by
  induction history with
  | nil => rfl
  | cons event rest ih =>
    rw [← List.singleton_append, statuses_append, completed_append, List.count_append,
      List.length_append, ih]
    congr 1
    cases event with
    | answered id attempt status => by_cases hok : status = .ok <;> simp [statuses, hok]
    | _ => rfl

end History

/-- The verdicts on what a producer has sent that has completed its task. -/
structure Concludes (options : Options) (history : History) (passed : List WriteStatus) :
    Prop where
  /-- The producer has heard of all of them. -/
  heard : passed = history.statuses
  /-- The last was in its favour. -/
  last : ∀ status, passed.getLast? = some status → status = .ok
  repeatable : history.Repeatable options.maxAttempts
  /-- Every message was begun. -/
  minted : history.minted.length = options.messages.toNat
  /-- Every message was accepted. -/
  completed : history.completed.length = options.messages.toNat

/-! ## Pipelined producers -/

namespace Pipelined

variable {name : String} {options : Options} {handle : Handle} {past : History}
  {state after : Paced Loop} {exchange : Exchange} {events : History} {turns : List (Turn Loop)}
  {statusOf : Ticket → WriteStatus} {passed : List WriteStatus}

/-- The submissions whose receipts are still to be collected. -/
def Loop.waiting (loop : Loop) : List InFlight := loop.point.inHand ++ loop.window.toList

/-- The verdicts are those heard of and those still to be heard of. -/
structure Confirms (statusOf : Ticket → WriteStatus) (passed : List WriteStatus) (past : History)
    (loop : Loop) : Prop where
  /-- There is one for every submission. -/
  counted : passed.length = past.sent.length
  /-- Unless a receipt was lost they come in this order. -/
  order : past.lost = [] →
    passed = past.statuses ++ loop.waiting.map fun inFlight => statusOf inFlight.ticket

namespace Confirms

theorem start (statusOf : Ticket → WriteStatus) (options : Options) :
    Confirms statusOf [] [] (.start options) where
  counted := rfl
  order _ := rfl

theorem turn {loop next : Loop} {more : List WriteStatus}
    (confirms : Confirms statusOf passed past loop) (counted : more.length = events.sent.length)
    (order : events.lost = [] →
      (loop.waiting.map fun inFlight => statusOf inFlight.ticket) ++ more =
        events.statuses ++ next.waiting.map fun inFlight => statusOf inFlight.ticket) :
    Confirms statusOf (passed ++ more) (past ++ events) next where
  counted := by
    rw [List.length_append, confirms.counted, counted, History.sent_append, List.length_append]
  order hlost := by
    rw [History.lost_append, List.append_eq_nil_iff] at hlost
    rw [confirms.order hlost.1, List.append_assoc, order hlost.2, History.statuses_append,
      List.append_assoc]

/-- What waits for its receipt is what it was. -/
theorem keep {loop next : Loop} (confirms : Confirms statusOf passed past loop)
    (waiting : next.waiting = loop.waiting) : Confirms statusOf (passed ++ []) (past ++ []) next :=
  confirms.turn rfl fun _ => by rw [List.append_nil, waiting]; rfl

/-- A submission waits for its receipt from then on. -/
theorem push {loop : Loop} {id : UInt64} {attempt : UInt32} {ticket : Ticket} {remaining : UInt64}
    {draining : Bool} {counts : Counts} (confirms : Confirms statusOf passed past loop)
    (free : loop.point.inHand = []) :
    Confirms statusOf (passed ++ [statusOf ticket]) (past ++ [.submitted id attempt])
      ⟨.checkpoint, remaining, loop.window.push ⟨id, attempt, ticket⟩, draining, counts⟩ := by
  refine confirms.turn rfl fun _ => ?_
  rw [Loop.waiting, Loop.waiting, free, Fifo.toList_push, List.nil_append, List.map_append,
    List.map_append]
  rfl

/-- The receipt in hand is heard of. -/
theorem collect {loop next : Loop} {oldest : InFlight} {answer : Receipt}
    (confirms : Confirms statusOf passed past loop) (here : loop.point = .collecting oldest)
    (upholds : answer.status = statusOf oldest.ticket) (sent : events.sent = [])
    (heard : events.statuses = [answer.status]) (free : next.point.inHand = [])
    (window : next.window = loop.window) :
    Confirms statusOf (passed ++ []) (past ++ events) next := by
  refine confirms.turn (by rw [sent]; rfl) fun _ => ?_
  rw [heard, upholds, Loop.waiting, Loop.waiting, here, free, window, List.append_nil]
  rfl

/-- What could not be submitted is not waited for. -/
theorem unsent {loop next : Loop} {id : UInt64} {attempt : UInt32}
    (confirms : Confirms statusOf passed past loop) (free : loop.point.inHand = [])
    (after : next.point.inHand = []) (window : next.window = loop.window) :
    Confirms statusOf (passed ++ []) (past ++ [.unsent id attempt]) next := by
  refine confirms.turn rfl fun _ => ?_
  rw [Loop.waiting, Loop.waiting, free, after, window, List.append_nil]
  rfl

theorem move (confirms : Confirms statusOf passed past state.now)
    (upholds : exchange.Upholds statusOf)
    (move : Move options handle state exchange events after) :
    Confirms statusOf (passed ++ (exchange.verdict? statusOf).toList) (past ++ events)
      after.now := by
  cases move with
  | emit emission rest loop => exact confirms.keep rfl
  | starve loop here => exact confirms.keep rfl
  | linger loop oldest here patient => exact confirms.keep rfl
  | take loop oldest rest here pops must =>
    exact confirms.keep (by simp [Loop.waiting, here, pops])
  | accept loop oldest answer here ok =>
    exact confirms.collect here upholds rfl (congrArg (fun status => [status]) ok.symm)
      (inHand_onward _) rfl
  | drop loop oldest answer here refused below draining =>
    exact confirms.collect here upholds rfl rfl (inHand_onward _) rfl
  | refuse loop oldest answer here refused below going =>
    exact confirms.collect here upholds rfl rfl rfl rfl
  | giveUp loop oldest answer line here refused cap =>
    exact confirms.collect here upholds rfl rfl rfl rfl
  | abandon loop oldest here => exact confirms.turn rfl nofun
  | spoil loop oldest fault here => exact confirms.turn rfl nofun
  | send loop id ticket here => exact confirms.push (by simp [here])
  | resend loop retry ticket here => exact confirms.push (by simp [here])
  | fail loop id attempt here =>
    exact confirms.unsent (Point.live_of_submits? here).2 rfl rfl
  | crash loop id attempt fault here =>
    exact confirms.unsent (Point.live_of_submits? here).2 rfl rfl
  | mint loop id here =>
    exact confirms.turn rfl fun _ => by simp [Loop.waiting, here, History.statuses]; rfl
  | finish loop here empty none_left => exact confirms.keep (by simp [Loop.waiting, here])
  | renew loop here left room => exact confirms.keep (by simp [Loop.waiting, here])
  | ready loop oldest here => exact confirms.keep (by simp [Loop.waiting, here])
  | doubt loop oldest here going policy => exact confirms.keep (by simp [Loop.waiting, here])
  | persist loop oldest here => exact confirms.keep (by simp [Loop.waiting, here])
  | explain loop id reason line here => exact confirms.keep (by simp [Loop.waiting, here])
  | turn loop here draining => exact confirms.keep (by simp [Loop.waiting, here])
  | goOn loop here going => exact confirms.keep (by simp [Loop.waiting, here])
  | leave loop here going policy => exact confirms.keep (by simp [Loop.waiting, here])
  | drain loop here going policy => exact confirms.keep (by simp [Loop.waiting, here])

theorem of_run (run : Run (request name options handle) (.enter (.start options)) turns state)
    (upholds : ∀ turn ∈ turns, turn.exchange.Upholds statusOf) :
    Confirms statusOf (verdicts statusOf (turns.map Turn.exchange)) (history options turns)
      state.now := by
  have hupholds : ∀ exchange ∈ turns.map Turn.exchange, exchange.Upholds statusOf :=
    List.forall_mem_map.2 upholds
  refine exchange_induction (P := fun exchanges past state =>
    (∀ exchange ∈ exchanges, exchange.Upholds statusOf) →
      Confirms statusOf (verdicts statusOf exchanges) past state.now)
    (fun _ => .start statusOf options) (fun before move hupholds => ?_) run hupholds
  rw [List.forall_mem_append] at hupholds
  rw [verdicts_snoc]
  exact (before hupholds.1).move (hupholds.2 _ (List.mem_singleton_self _)) move

end Confirms

/-- There is a verdict for every submission, whatever the receipts say. -/
theorem length_verdicts (statusOf : Ticket → WriteStatus)
    (run : Run (request name options handle) (.enter (.start options)) turns state) :
    (verdicts statusOf (turns.map Turn.exchange)).length = (history options turns).sent.length := by
  refine exchange_induction
    (P := fun exchanges past _ => (verdicts statusOf exchanges).length = past.sent.length) rfl
    (fun before move => ?_) run
  rw [verdicts_snoc, List.length_append, before, History.sent_append, List.length_append]
  cases move <;> rfl

/-- Whether there is something to be done about a refusal. -/
def Loop.Owes (loop : Loop) : Prop :=
  loop.draining = true ∨ loop.waiting ≠ [] ∨ (∃ retry, loop.point = .resending retry) ∨
    (loop.point.isLive = false ∧ loop.point ≠ .halted (.ok .completed))

/-- A loop has not completed its task while there is something to be done about a refusal. -/
structure Settles (options : Options) (past : History) (loop : Loop) : Prop where
  owes : past.EndsRefused → loop.Owes
  repeatable : loop.point ≠ .halted (.ok .attemptsExceeded) → past.Repeatable options.maxAttempts
  finished : loop.point = .halted (.ok .completed) → loop.draining = false ∧ loop.waiting = []

namespace Settles

/-- Without a receipt. -/
theorem silent {loop next : Loop} (settles : Settles options past loop)
    (live : loop.point ≠ .halted (.ok .attemptsExceeded)) (silent : events.answers = [])
    (owes : loop.Owes → next.Owes) (unfinished : next.point ≠ .halted (.ok .completed)) :
    Settles options (past ++ events) next where
  owes hends := owes (settles.owes ((History.endsRefused_append_of_silent silent).1 hends))
  repeatable _ := (settles.repeatable live).append (.of_silent silent)
  finished here := absurd here unfinished

/-- With a receipt. -/
theorem answer {loop next : Loop} {id : UInt64} {attempt : UInt32} {status : WriteStatus}
    (settles : Settles options past loop)
    (live : loop.point ≠ .halted (.ok .attemptsExceeded))
    (answer : events.answers = [(id, attempt, status)]) (owes : status ≠ .ok → next.Owes)
    (below : next.point ≠ .halted (.ok .attemptsExceeded) → status ≠ .ok →
      attempt < options.maxAttempts)
    (unfinished : next.point ≠ .halted (.ok .completed)) :
    Settles options (past ++ events) next where
  owes hends := owes ((History.endsRefused_append_of_answer answer).1 hends)
  repeatable hgoing := (settles.repeatable live).append (.of_answer answer (below hgoing))
  finished here := absurd here unfinished

theorem move (settles : Settles options past state.now)
    (move : Move options handle state exchange events after) :
    Settles options (past ++ events) after.now := by
  cases move with
  | emit emission rest loop => rwa [List.append_nil]
  | linger loop oldest here patient => rwa [List.append_nil]
  | starve loop here => rwa [List.append_nil]
  | finish loop here empty none_left =>
    rw [List.append_nil]
    have howes := settles.owes
    have hrepeatable := settles.repeatable (by simp [here])
    cases hdraining : loop.draining with
    | true => exact ⟨fun _ => .inl rfl, fun _ => hrepeatable, by simp⟩
    | false =>
      refine ⟨fun hends => ?_, fun _ => hrepeatable, fun _ => ⟨rfl, ?_⟩⟩
      · have hnothing := howes hends
        simp [Loop.Owes, Loop.waiting, hdraining, here, empty] at hnothing
      · simp [Loop.waiting, empty]
  | accept loop oldest answer here ok =>
    exact settles.answer (by simp [here]) rfl (absurd rfl) (fun _ => absurd rfl)
      (onward_ne_halted _ _)
  | refuse loop oldest answer here refused below going =>
    exact settles.answer (by simp [here]) rfl (fun _ => .inr (.inr (.inl ⟨_, rfl⟩)))
      (fun _ _ => below) (by simp)
  | drop loop oldest answer here refused below draining =>
    exact settles.answer (by simp [here]) rfl (fun _ => .inl draining) (fun _ _ => below)
      (onward_ne_halted _ _)
  | giveUp loop oldest answer line here refused cap =>
    exact settles.answer (by simp [here]) rfl (fun _ => .inr (.inr (.inr ⟨rfl, by simp⟩)))
      (by simp) (by simp)
  | fail loop id attempt here =>
    refine settles.silent ?_ rfl (fun _ => .inr (.inr (.inr ⟨rfl, by simp⟩))) (by simp)
    rcases Point.of_submits? here with ⟨hpoint, -⟩ | ⟨retry, hpoint, -⟩ <;> simp [hpoint]
  | crash loop id attempt fault here =>
    refine settles.silent ?_ rfl (fun _ => .inr (.inr (.inr ⟨rfl, by simp⟩))) (by simp)
    rcases Point.of_submits? here with ⟨hpoint, -⟩ | ⟨retry, hpoint, -⟩ <;> simp [hpoint]
  | send loop id ticket here =>
    exact settles.silent (by simp [here]) rfl
      (fun _ => .inr (.inl (by simp [Loop.waiting]))) (by simp)
  | resend loop retry ticket here =>
    exact settles.silent (by simp [here]) rfl
      (fun _ => .inr (.inl (by simp [Loop.waiting]))) (by simp)
  | drain loop here going policy =>
    exact settles.silent (by simp [here]) rfl (fun _ => .inl rfl) (by simp)
  | take loop oldest rest here pops must =>
    exact settles.silent (by simp [here]) rfl
      (fun _ => .inr (.inl (by simp [Loop.waiting]))) (by simp)
  | _ =>
    exact settles.silent (by simp_all) rfl (by simp_all [Loop.Owes, Loop.waiting]) (by simp)

theorem of_run (run : Run (request name options handle) (.enter (.start options)) turns state) :
    Settles options (history options turns) state.now :=
  history_induction (P := fun past state => Settles options past state.now)
    ⟨by simp [History.EndsRefused, History.statuses],
      fun _ => History.Repeatable.of_silent rfl, by simp [Paced.enter, Loop.start]⟩
    (fun settles move => settles.move move) run

end Settles

/-- A loop that has lost a receipt has not completed its task. -/
theorem lost_of_completed
    (run : Run (request name options handle) (.enter (.start options)) turns state)
    (here : state.now.point = .halted (.ok .completed)) : (history options turns).lost = [] := by
  refine history_induction (P := fun past state => InOrder past state.now ∧
      (state.now.point = .halted (.ok .completed) → past.lost = []))
    ⟨.start options, fun _ => rfl⟩ (fun {past events state after exchange} inv move => ?_) run
    |>.2 here
  refine ⟨inv.1.move move, fun hafter => ?_⟩
  cases move with
  | finish loop here empty none_left =>
    rw [List.append_nil]
    exact inv.1.lossless (by simp [here])
  | emit emission rest loop =>
    rw [List.append_nil]
    exact inv.2 hafter
  | accept loop oldest answer here ok => exact absurd hafter (onward_ne_halted _ _)
  | drop loop oldest answer here refused below draining =>
    exact absurd hafter (onward_ne_halted _ _)
  | _ => simp_all

/-- The verdicts on what a loop has sent that has completed its task. -/
theorem concludes (run : Run (request name options handle) (.enter (.start options)) turns state)
    (upholds : ∀ turn ∈ turns, turn.exchange.Upholds statusOf)
    (here : state.now.point = .halted (.ok .completed)) :
    Concludes options (history options turns)
      (verdicts statusOf (turns.map Turn.exchange)) := by
  have settles := Settles.of_run run
  obtain ⟨hdraining, hwaiting⟩ := settles.finished here
  obtain ⟨hminted, hcompleted⟩ := (Balances.of_run run).finished here
  have hheard := (Confirms.of_run run upholds).order (lost_of_completed run here)
  rw [hwaiting, List.map_nil, List.append_nil] at hheard
  refine ⟨hheard, fun status hlast => ?_, settles.repeatable (by simp [here]), hminted, hcompleted⟩
  by_contra hrefused
  have howes := settles.owes ⟨status, hheard ▸ hlast, hrefused⟩
  simp [Loop.Owes, hdraining, hwaiting, here] at howes

end Pipelined

/-! ## Blocking producers -/

namespace Blocking

variable {name : String} {options : Options} {handle : Handle} {past : History}
  {state after : Paced Loop} {exchange : Exchange} {events : History} {turns : List (Turn Loop)}

/-- A blocking producer has heard of every verdict. -/
theorem verdicts_eq (statusOf : Ticket → WriteStatus)
    (run : Run (request name options handle) (.enter {}) turns state) :
    verdicts statusOf (turns.map Turn.exchange) = (history turns).statuses := by
  refine exchange_induction
    (P := fun exchanges past _ => verdicts statusOf exchanges = past.statuses) rfl
    (fun before move => ?_) run
  rw [verdicts_snoc, before, History.statuses_append]
  congr 1
  cases move with
  | accept loop id attempt answer here ok => exact congrArg (fun status => [status]) ok
  | _ => rfl

/-- There is a verdict for every submission. -/
theorem length_verdicts (statusOf : Ticket → WriteStatus)
    (run : Run (request name options handle) (.enter {}) turns state) :
    (verdicts statusOf (turns.map Turn.exchange)).length = (history turns).sent.length := by
  rw [verdicts_eq statusOf run, History.statuses, List.length_map, length_answers_of_run run]

/-- Whether there is something to be done about a refusal. -/
@[simp] def Point.owes : Point → Bool
  | .writing _ _ => true
  | .afterRefusal _ _ => true
  | .halted (.ok .completed) => false
  | .halted _ => true
  | _ => false

/-- A loop has not completed its task while there is something to be done about a refusal. -/
structure Settles (options : Options) (past : History) (loop : Loop) : Prop where
  owes : past.EndsRefused → loop.point.owes = true
  repeatable : loop.point ≠ .halted (.ok .attemptsExceeded) → past.Repeatable options.maxAttempts

theorem Settles.move (settles : Settles options past state.now)
    (move : Move options handle state exchange events after) :
    Settles options (past ++ events) after.now := by
  cases move with
  | emit emission rest loop => rwa [List.append_nil]
  | accept loop id attempt answer here ok =>
    refine ⟨fun hends => ?_, fun _ => (settles.repeatable (by simp [here])).append
      (.of_answer rfl (absurd rfl))⟩
    exact absurd rfl ((History.endsRefused_append_of_answer rfl).1 hends)
  | refuse loop id attempt answer here refused below =>
    exact ⟨fun _ => rfl, fun _ => (settles.repeatable (by simp [here])).append
      (.of_answer rfl fun _ => below)⟩
  | giveUp loop id attempt answer line here refused cap => exact ⟨fun _ => rfl, by simp⟩
  | _ =>
    refine ⟨fun hends => ?_, fun _ => (settles.repeatable (by simp_all)).append (.of_silent rfl)⟩
    have howes := settles.owes ((History.endsRefused_append_of_silent rfl).1 hends)
    simp_all

theorem Settles.of_run (run : Run (request name options handle) (.enter {}) turns state) :
    Settles options (history turns) state.now :=
  history_induction (P := fun past state => Settles options past state.now)
    ⟨by simp [History.EndsRefused, History.statuses], fun _ => History.Repeatable.of_silent rfl⟩
    (fun settles move => settles.move move) run

/-- The verdicts on what a loop has sent that has completed its task. -/
theorem concludes (statusOf : Ticket → WriteStatus)
    (run : Run (request name options handle) (.enter {}) turns state)
    (here : state.now.point = .halted (.ok .completed)) :
    Concludes options (history turns) (verdicts statusOf (turns.map Turn.exchange)) := by
  have settles := Settles.of_run run
  have hheard := verdicts_eq statusOf run
  obtain ⟨hminted, hcompleted⟩ := (Balances.of_run run).finished here
  refine ⟨hheard, fun status hlast => ?_, settles.repeatable (by simp [here]), hminted, hcompleted⟩
  by_contra hrefused
  have howes := settles.owes ⟨status, hheard ▸ hlast, hrefused⟩
  simp [here] at howes

end Blocking
end Producer
end BrokerLoad
