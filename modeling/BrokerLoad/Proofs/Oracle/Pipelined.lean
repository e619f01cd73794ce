import BrokerLoad.Proofs.Oracle.Forecast
import BrokerLoad.Proofs.Producer.Effort

/-!
# Pipelined producers and oracles

A pipelined producer that is served by an oracle submits what it is about to submit, and gets
the verdict on it with the receipt, whenever that is there.  `Heeds` says what is known of its
loop in between: the attempts have the numbers that the oracle gives them, each submission in
flight has its place on the oracle's record, and what the receipts have said so far is what the
oracle thinks.  Nothing that could stop the loop but the end of its task or one refusal too many
ever happens (`Point.isCalm`).

The loop comes to its end (`exists_ends`): an oracle knows how often each receipt is still asked
for, and with every look that is once less.
-/

namespace BrokerLoad
namespace Producer
namespace Pipelined

variable {name : String} {options : Options} {handle : Handle} {past : History}
  {state after : Paced Loop} {exchange : Exchange} {events : History} {turns : List (Turn Loop)}
  {oracle : Oracle} {before shared served : Shared Oracle}

/-! ## What is known of the loop -/

/-- Whether the loop may be here while an oracle serves it. -/
@[simp] def Point.isCalm : Point → Bool
  | .refused _ => false
  | .starved => false
  | .halted (.ok .completed) => true
  | .halted (.ok .attemptsExceeded) => true
  | .halted _ => false
  | _ => true

theorem isCalm_onward (remaining : UInt64) : (onward remaining).isCalm = true := by
  rcases onward_cases remaining with ⟨-, hon⟩ | ⟨-, hon⟩ <;> rw [hon] <;> rfl

/-- The loop is served by an oracle. -/
structure Heeds (oracle : Oracle) (past : History) (loop : Loop) : Prop where
  going : loop.draining = false
  calm : loop.point.isCalm = true
  /-- The attempts have the numbers that the oracle gives them. -/
  sent : oracle.sent = numbered past.sent
  unsent : past.unsent = []
  judged : past.IsJudged oracle.verdict
  /-- What is in flight is on record. -/
  filed : ∀ inFlight ∈ loop.waiting,
    oracle.sent[inFlight.ticket]? = some (inFlight.id, inFlight.attempts.toNat)

namespace Heeds

theorem start (fresh : oracle.sent = []) (options : Options) :
    Heeds oracle [] (.start options) where
  going := rfl
  calm := rfl
  sent := fresh
  unsent := rfl
  judged := .of_silent rfl
  filed := by simp [Loop.waiting, Loop.start]

/-- The loop goes on without having submitted or heard of anything. -/
theorem keep {loop next : Loop} {later : Oracle} (heeds : Heeds oracle past loop)
    (sent : later.sent = oracle.sent) (verdict : later.verdict = oracle.verdict)
    (silent : events.sent = [] ∧ events.unsent = [] ∧ events.answers = [])
    (going : next.draining = loop.draining) (calm : next.point.isCalm = true)
    (waiting : ∀ inFlight ∈ next.waiting, inFlight ∈ loop.waiting) :
    Heeds later (past ++ events) next where
  going := going.trans heeds.going
  calm := calm
  sent := by rw [sent, heeds.sent, History.sent_append, silent.1, List.append_nil]
  unsent := by rw [History.unsent_append, heeds.unsent, silent.2.1, List.append_nil]
  judged := verdict ▸ heeds.judged.append (.of_silent silent.2.2)
  filed inFlight hmem := sent ▸ heeds.filed inFlight (waiting inFlight hmem)

/-- The loop hears what the oracle thinks. -/
theorem collect {loop next : Loop} {oldest : InFlight} {answer : Receipt}
    (heeds : Heeds oracle past loop) (here : loop.point = .collecting oldest)
    (reply : Except.ok answer = oracle.receipt oldest.ticket)
    (event : events = [.answered oldest.id oldest.attempts answer.status])
    (going : next.draining = loop.draining) (calm : next.point.isCalm = true)
    (free : next.point.inHand = []) (window : next.window = loop.window) :
    Heeds oracle (past ++ events) next where
  going := going.trans heeds.going
  calm := calm
  sent := by rw [heeds.sent, History.sent_append, event]; simp
  unsent := by rw [History.unsent_append, heeds.unsent, event]; rfl
  judged := by
    rw [oracle.receipt_eq (heeds.filed oldest (by simp [Loop.waiting, here]))] at reply
    refine heeds.judged.append (.of_answer (congrArg History.answers event) ?_)
    rw [Except.ok.inj reply]
  filed inFlight hmem := by
    rw [Loop.waiting, free, window] at hmem
    exact heeds.filed inFlight (List.mem_append_right _ hmem)

/-- The loop submits, and the oracle gives the attempt the number that it has. -/
theorem submit {loop : Loop} {id : UInt64} {attempt : UInt32} {remaining : UInt64}
    {draining : Bool} {counts : Counts} (heeds : Heeds oracle past loop)
    (free : loop.point.inHand = []) (number : attempt.toNat = (past.attemptsOf id).length + 1)
    (going : draining = loop.draining) :
    Heeds (oracle.record (options.message id attempt)) (past ++ [.submitted id attempt])
      ⟨.checkpoint, remaining, loop.window.push ⟨id, attempt, oracle.sent.length⟩, draining,
        counts⟩ := by
  have hentry : oracle.entry (options.message id attempt) = (id, attempt.toNat) := by
    rw [oracle.entry_message, heeds.sent, countP_numbered, number]
  have hfiled := heeds.filed
  rw [Loop.waiting, free, List.nil_append] at hfiled
  refine ⟨going.trans heeds.going, rfl, ?_, ?_, heeds.judged.append (.of_silent rfl), ?_⟩
  · rw [Oracle.sent_record, hentry, heeds.sent, History.sent_append, numbered_append]
    rfl
  · rw [History.unsent_append, heeds.unsent]
    rfl
  · intro inFlight hmem
    have hpushed :
        inFlight ∈ loop.window.toList ∨ inFlight = ⟨id, attempt, oracle.sent.length⟩ := by
      simpa [Loop.waiting] using hmem
    rw [Oracle.sent_record, hentry]
    rcases hpushed with hbefore | rfl
    · have hfound := hfiled inFlight hbefore
      rw [List.getElem?_append_left (List.getElem?_eq_some_iff.1 hfound).1, hfound]
    · rw [List.getElem?_concat_length]

theorem move (heeds : Heeds shared.client past state.now)
    (tracks : Tracks options.maxAttempts.toNat past state.now.stakes)
    (answers : shared.Answers exchange served)
    (move : Move options handle state exchange events after) :
    Heeds served.client (past ++ events) after.now := by
  have hsilent : History.sent [] = [] ∧ History.unsent [] = [] ∧ History.answers [] = [] :=
    ⟨rfl, rfl, rfl⟩
  have hverdict := answers.verdict_eq
  cases move with
  | emit emission rest loop =>
    rw [answers.client_eq (by simp)]
    exact heeds.keep rfl rfl hsilent rfl heeds.calm fun _ hmem => hmem
  | finish loop here empty none_left =>
    have hgoing : loop.draining = false := heeds.going
    rw [answers.client_eq (by simp)]
    exact heeds.keep rfl rfl hsilent rfl (by simp [hgoing]) fun _ hmem =>
      List.mem_append_right _ (by simpa [Loop.waiting] using hmem)
  | take loop oldest rest here pops must =>
    rw [answers.client_eq (by simp)]
    exact heeds.keep rfl rfl hsilent rfl rfl fun _ hmem => by
      simpa [Loop.waiting, here, pops] using hmem
  | renew loop here left room =>
    rw [answers.client_eq (by simp)]
    exact heeds.keep rfl rfl hsilent rfl rfl fun _ hmem => by
      simpa [Loop.waiting, here] using hmem
  | ready loop oldest here =>
    rw [answers.of_receiptReady.2]
    exact heeds.keep rfl rfl hsilent rfl rfl fun _ hmem => by
      simpa [Loop.waiting, here] using hmem
  | linger loop oldest here patient =>
    rw [answers.of_receiptReady.2]
    exact heeds.keep rfl rfl hsilent rfl heeds.calm fun _ hmem => hmem
  | doubt loop oldest here going policy =>
    rw [answers.of_receiptReady.2]
    exact heeds.keep rfl rfl hsilent rfl rfl fun _ hmem => by
      simpa [Loop.waiting, here] using hmem
  | abandon loop oldest here => cases answers.stop_eq
  | persist loop oldest here =>
    rw [answers.client_eq (by simp)]
    exact heeds.keep rfl rfl hsilent rfl rfl fun _ hmem => by
      simpa [Loop.waiting, here] using hmem
  | accept loop oldest answer here ok =>
    obtain ⟨hreply, hclient⟩ := answers.of_takeReceipt
    rw [hclient]
    exact heeds.collect here hreply (by rw [ok]) rfl (isCalm_onward _) (inHand_onward _) rfl
  | refuse loop oldest answer here refused below going =>
    obtain ⟨hreply, hclient⟩ := answers.of_takeReceipt
    rw [hclient]
    exact heeds.collect here hreply rfl rfl rfl rfl rfl
  | drop loop oldest answer here refused below draining =>
    rw [heeds.going] at draining
    cases draining
  | giveUp loop oldest answer line here refused cap =>
    obtain ⟨hreply, hclient⟩ := answers.of_takeReceipt
    rw [hclient]
    exact heeds.collect here hreply rfl rfl rfl rfl rfl
  | spoil loop oldest fault here =>
    have hreply := answers.of_takeReceipt.1
    rw [shared.client.receipt_eq (heeds.filed oldest (by simp [Loop.waiting, here]))] at hreply
    cases hreply
  | mint loop id here =>
    rw [answers.client_eq (by simp)]
    exact heeds.keep rfl rfl ⟨rfl, rfl, rfl⟩ rfl rfl fun _ hmem => by
      simpa [Loop.waiting, here] using hmem
  | send loop id ticket here =>
    obtain ⟨hreply, hclient⟩ := answers.of_submit
    cases hreply
    rw [Loop.stakes, here] at tracks
    rw [hclient]
    exact heeds.submit (by simp [here]) (by rw [tracks.length_attemptsOf]; rfl) rfl
  | resend loop retry ticket here =>
    obtain ⟨hreply, hclient⟩ := answers.of_submit
    cases hreply
    rw [Loop.stakes, here] at tracks
    have hnext := tracks.toNat_succ options.maxAttempts.toNat_lt
    rw [hclient]
    exact heeds.submit (by simp [here]) (by rw [tracks.length_attemptsOf, hnext]) rfl
  | fail loop id attempt here => cases answers.of_submit.1
  | crash loop id attempt fault here => cases answers.of_submit.1
  | explain loop id reason line here =>
    have hcalm := heeds.calm
    simp [here] at hcalm
  | turn loop here draining =>
    rw [heeds.going] at draining
    cases draining
  | goOn loop here going =>
    rw [answers.client_eq (by simp)]
    exact heeds.keep rfl rfl hsilent rfl rfl fun _ hmem => by
      simpa [Loop.waiting, here] using hmem
  | leave loop here going policy => cases answers.stop_eq
  | drain loop here going policy => cases answers.stop_eq
  | starve loop here =>
    have hcalm := heeds.calm
    simp [here] at hcalm

end Heeds

/-- In every run the ids that the loop takes are new. -/
theorem tracks_of_attended
    (attended : Attended (request name options handle) (.enter (.start options)) before turns state
      shared) :
    Tracks options.maxAttempts.toNat (history options turns) state.now.stakes :=
  tracks_of_run attended.run
    (nodup_mintedIds attended.run attended.serves options.few_alone)

theorem Heeds.of_attended (fresh : before.client.sent = [])
    (attended : Attended (request name options handle) (.enter (.start options)) before turns state
      shared) :
    Heeds shared.client (history options turns) state.now := by
  induction attended with
  | start => exact .start fresh options
  | @ask turns state shared served query next reply earlier asks answers ih =>
    obtain ⟨events, move⟩ := Move.of_request asks reply
    rw [history_append, history_singleton, move.events_eq]
    exact ih.move (tracks_of_attended earlier) answers move

/-! ## The end of the loop -/

/-- An oracle that is asked for a receipt in vain will be asked for it once less. -/
theorem Shortens.of_answers (answers : shared.Answers exchange served) :
    Shortens exchange shared.client.delay served.client.delay where
  looked ticket heq := by
    subst heq
    rw [answers.of_receiptReady.2, Oracle.delay_postpone]
    exact Nat.sub_lt answers.delay_pos Nat.one_pos
  alone own ticket := by rw [answers.client_eq own]

theorem Point.fresh_le_one (point : Point) : point.fresh ≤ 1 := by
  cases point <;> simp

/-- An id is taken for no more messages than there are, unless one could not be submitted. -/
theorem Move.supply (fits : Fits options state.now)
    (supply : past.minted.length + state.now.remaining.toNat ≤
      options.messages.toNat + state.now.point.fresh + past.unsent.length)
    (move : Move options handle state exchange events after) :
    (past ++ events).minted.length + after.now.remaining.toNat ≤
      options.messages.toNat + after.now.point.fresh + (past ++ events).unsent.length := by
  rw [History.minted_append, History.unsent_append, List.length_append, List.length_append]
  cases move with
  | send loop id ticket here =>
    have hfewer : (loop.remaining - 1).toNat + 1 = loop.remaining.toNat :=
      toNat_sub_one (fits.left (by simp [here]))
    simp only [here, Point.fresh, History.minted_cons, History.minted_nil, History.unsent_cons,
      History.unsent_nil, Event.minted?, Event.unsent?] at supply ⊢
    simp only [Option.toList_none, List.append_nil, List.length_nil]
    omega
  | fail loop id attempt here =>
    refine Nat.le_trans supply ?_
    have hfresh := loop.point.fresh_le_one
    show options.messages.toNat + loop.point.fresh + past.unsent.length ≤
      options.messages.toNat + 0 + (past.unsent.length + 1)
    omega
  | crash loop id attempt fault here =>
    refine Nat.le_trans supply ?_
    have hfresh := loop.point.fresh_le_one
    show options.messages.toNat + loop.point.fresh + past.unsent.length ≤
      options.messages.toNat + 0 + (past.unsent.length + 1)
    omega
  | accept loop oldest answer here ok =>
    rcases onward_cases loop.remaining with ⟨-, hon⟩ | ⟨-, hon⟩ <;> simp_all
  | drop loop oldest answer here refused below draining =>
    rcases onward_cases loop.remaining with ⟨-, hon⟩ | ⟨-, hon⟩ <;> simp_all
  | mint loop id here =>
    simp [here] at supply ⊢
    omega
  | drain loop here going policy =>
    simp [here] at supply ⊢
    omega
  | _ => simp_all

theorem supply_of_run
    (run : Run (request name options handle) (.enter (.start options)) turns state) :
    (history options turns).minted.length + state.now.remaining.toNat ≤
      options.messages.toNat + state.now.point.fresh + (history options turns).unsent.length :=
  (history_induction (P := fun past state => Fits options state.now ∧
    past.minted.length + state.now.remaining.toNat ≤
      options.messages.toNat + state.now.point.fresh + past.unsent.length)
    ⟨.start options, by simp [Paced.enter, Loop.start]⟩
    (fun inv move => ⟨inv.1.move move, move.supply inv.1 inv.2⟩) run).2

/-- A loop that an oracle serves comes to its end, and nothing comes in between. -/
theorem exists_ends (name : String) (options : Options) (handle : Handle) (before : Shared Oracle)
    (fresh : before.client.sent = []) :
    ∃ turns state shared ending,
      Attended (request name options handle) (.enter (.start options)) before turns state shared ∧
      state.request (request name options handle) = .finish (.ok ending) ∧
      Ends before.client.verdict options before.ledger shared.ledger shared.client.sent
        (history options turns) state.now.counts ending := by
  obtain ⟨turns, state, shared, result, attended, hfinish⟩ :=
    Attended.exists_finish (fun state shared => Loop.left options shared.client.delay state)
      (fun {turns state shared served query next reply}
          (attended : Attended (request name options handle) (.enter (.start options)) before turns
            state shared)
          asks answers => by
        obtain ⟨events, move⟩ := Move.of_request asks reply
        exact move.nearer (.of_run attended.run) (.of_run attended.run) (.of_answers answers))
  obtain ⟨hpending, hpoint⟩ := point_of_result (congrArg Request.result? hfinish)
  have heeds := Heeds.of_attended fresh attended
  have balances := Balances.of_run attended.run
  obtain ⟨ending, rfl, hending⟩ : ∃ ending, result = .ok ending ∧
      (ending ≠ .completed → ending = .attemptsExceeded) := by
    have hcalm := heeds.calm
    rw [hpoint] at hcalm
    cases result with
    | error fault => cases hcalm
    | ok ending => exact ⟨ending, rfl, by cases ending <;> simp_all⟩
  have orderly := orderly attended.run attended.serves options.few_alone
  rw [hfinish] at orderly
  have counted := Counted.of_run attended.run
  rw [Counted, hpoint] at counted
  refine ⟨turns, state, shared, ending, attended, hfinish, .of_attended attended hpending
    (announced_of_run attended.run) (minted_history attended.run)
    (tracks_of_attended attended).exists_fate? heeds.judged heeds.sent heeds.unsent ?_ ⟨_, counted⟩
    ?_ fun hunfinished => ?_⟩
  · have hsupply := supply_of_run attended.run
    have hfresh : (Point.halted (.ok ending)).fresh = 0 := rfl
    rw [heeds.unsent, hpoint, hfresh, List.length_nil] at hsupply
    omega
  · rintro rfl
    obtain ⟨hbegun, haccepted⟩ := balances.finished hpoint
    exact ⟨hbegun, haccepted, (Settles.of_run attended.run).repeatable (by simp [hpoint])⟩
  · exact ⟨hending hunfinished, (orderly.exceeded _ rfl).1 (by rw [hending hunfinished])⟩

end Pipelined
end Producer
end BrokerLoad
