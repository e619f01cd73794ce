import BrokerLoad.Proofs.Oracle.Forecast
import BrokerLoad.Proofs.Producer.Effort

/-!
# Blocking producers and oracles

The same for a blocking producer, which hears of every verdict at once, so that nothing is in
flight and there is nothing to wait for.
-/

namespace BrokerLoad
namespace Producer
namespace Blocking

variable {name : String} {options : Options} {handle : Handle} {past : History}
  {state after : Paced Loop} {exchange : Exchange} {events : History} {turns : List (Turn Loop)}
  {oracle : Oracle} {before shared served : Shared Oracle}

/-! ## What is known of the loop -/

/-- The loop is served by an oracle. -/
structure Heeds (oracle : Oracle) (past : History) (loop : Loop) : Prop where
  calm : loop.point.isCalm = true
  /-- The attempts have the numbers that the oracle gives them. -/
  sent : oracle.sent = numbered past.sent
  unsent : past.unsent = []
  judged : past.IsJudged oracle.verdict

namespace Heeds

/-- The loop goes on without having written anything. -/
theorem keep {loop next : Loop} (heeds : Heeds oracle past loop)
    (silent : events.sent = [] ∧ events.unsent = [] ∧ events.answers = [])
    (calm : next.point.isCalm = true) : Heeds oracle (past ++ events) next where
  calm := calm
  sent := by rw [heeds.sent, History.sent_append, silent.1, List.append_nil]
  unsent := by rw [History.unsent_append, heeds.unsent, silent.2.1, List.append_nil]
  judged := heeds.judged.append (.of_silent silent.2.2)

/-- The loop writes, and the oracle gives the attempt the number that it has. -/
theorem write {loop next : Loop} {id : UInt64} {attempt : UInt32} {answer : Receipt}
    (heeds : Heeds shared.client past loop)
    (tracks : Tracks options.maxAttempts.toNat past loop.point.stakes)
    (here : loop.point = .writing id attempt)
    (answers : shared.Answers
      ⟨.broker (.write handle (options.message id attempt)), .ok answer⟩ served)
    (calm : next.point.isCalm = true) :
    Heeds served.client
      (past ++ [.submitted id attempt, .answered id attempt answer.status]) next := by
  obtain ⟨hreply, hclient⟩ := answers.of_write
  simp only [here, Point.stakes] at tracks
  have hnumber := tracks.toNat_succ options.maxAttempts.toNat_lt
  rw [UInt32.sub_add_cancel] at hnumber
  have hentry : shared.client.entry (options.message id attempt) = (id, attempt.toNat) := by
    rw [shared.client.entry_message, heeds.sent, countP_numbered, tracks.length_attemptsOf, hnumber]
  have hstatus : answer.status = shared.client.verdict id attempt.toNat := by
    rw [Except.ok.inj hreply, hentry]
    rfl
  refine ⟨calm, ?_, ?_, ?_⟩
  · rw [hclient, Oracle.sent_record, hentry, heeds.sent, History.sent_append, numbered_append]
    rfl
  · rw [History.unsent_append, heeds.unsent]
    rfl
  · rw [hclient, Oracle.verdict_record]
    exact heeds.judged.append (.of_answer rfl hstatus)

theorem move (heeds : Heeds shared.client past state.now)
    (tracks : Tracks options.maxAttempts.toNat past state.now.point.stakes)
    (answers : shared.Answers exchange served)
    (move : Move options handle state exchange events after) :
    Heeds served.client (past ++ events) after.now := by
  cases move with
  | emit emission rest loop =>
    rw [answers.client_eq (by simp)]
    exact heeds.keep ⟨rfl, rfl, rfl⟩ heeds.calm
  | accept loop id attempt answer here ok =>
    rw [← ok]
    exact heeds.write tracks here answers rfl
  | refuse loop id attempt answer here refused below => exact heeds.write tracks here answers rfl
  | giveUp loop id attempt answer line here refused cap => exact heeds.write tracks here answers rfl
  | crash loop id attempt fault here => cases answers.of_write.1
  | drop loop id attempt here => cases answers.stop_eq
  | leave loop here => cases answers.stop_eq
  | _ =>
    rw [answers.client_eq (by simp)]
    exact heeds.keep ⟨rfl, rfl, rfl⟩ rfl

end Heeds

theorem Heeds.of_attended (fresh : before.client.sent = [])
    (attended : Attended (request name options handle) (.enter {}) before turns state shared) :
    Heeds shared.client (history turns) state.now := by
  induction attended with
  | start => exact ⟨rfl, fresh, rfl, .of_silent rfl⟩
  | @ask turns state shared served query next reply earlier asks answers ih =>
    obtain ⟨events, move⟩ := Move.of_request asks reply
    rw [history_append, history_singleton, move.events_eq]
    exact ih.move (tracks_of_attended earlier) answers move

/-! ## The end of the loop -/

/-- A loop that an oracle serves comes to its end, and nothing comes in between. -/
theorem exists_ends (name : String) (options : Options) (handle : Handle) (before : Shared Oracle)
    (fresh : before.client.sent = []) :
    ∃ turns state shared ending,
      Attended (request name options handle) (.enter {}) before turns state shared ∧
      state.request (request name options handle) = .finish (.ok ending) ∧
      Ends before.client.verdict options before.ledger shared.ledger shared.client.sent
        (history turns) state.now.counts ending := by
  obtain ⟨turns, state, shared, result, attended, hfinish⟩ :=
    exists_over name options handle before
  obtain ⟨hpending, hpoint⟩ := point_of_result (congrArg Request.result? hfinish)
  have heeds := Heeds.of_attended fresh attended
  have balances := Balances.of_run attended.run
  obtain ⟨ending, rfl, hending⟩ : ∃ ending, result = .ok ending ∧
      (ending ≠ .completed → ending = .attemptsExceeded) := by
    rcases Point.cases_of_isCalm (hpoint ▸ heeds.calm) with rfl | rfl
    · exact ⟨_, rfl, fun hunfinished => absurd rfl hunfinished⟩
    · exact ⟨_, rfl, fun _ => rfl⟩
  have orderly := orderly attended.run attended.serves options.few_alone
  rw [hfinish] at orderly
  have counted := Counted.of_run attended.run
  rw [Counted, hpoint] at counted
  refine ⟨turns, state, shared, ending, attended, hfinish, .of_attended attended hpending
    (announced_of_run attended.run) (minted_history attended.run)
    (tracks_of_attended attended).exists_fate? heeds.judged heeds.sent heeds.unsent ?_ ⟨_, counted⟩
    ?_ fun hunfinished => ?_⟩
  · exact balances.supply
  · rintro rfl
    obtain ⟨hbegun, haccepted⟩ := balances.finished hpoint
    exact ⟨hbegun, haccepted, (Settles.of_run attended.run).repeatable (by simp [hpoint])⟩
  · exact ⟨hending hunfinished, (orderly.exceeded _ rfl).1 (by rw [hending hunfinished])⟩

end Blocking
end Producer
end BrokerLoad
