import BrokerLoad.Proofs.Broker.Pace
import BrokerLoad.Proofs.Envelope
import BrokerLoad.Proofs.Producer.Effort
import BrokerLoad.Proofs.Producer.Persisting

/-!
# A blocking producer alone with a hub

If nobody else writes to a hub, then the writes that it counts are those of the one producer, and
the verdicts that the producer hears are those that the pace of the hub has for the numbers that
come after the one with which the hub began (`Meets`).  At a pace of two or more no two successive
writes are refused, as long as the hub does not lose count, so that the producer completes its
task, and there are as many refusals as there are multiples of the pace among those numbers
(`Persevered`).
-/

namespace BrokerLoad

/-- The id of what a broker was asked to write, if it was asked to write something. -/
def Exchange.written? : Exchange → Option UInt64
  | ⟨.broker (.write _ data), _⟩ => data.id?
  | ⟨.broker (.submit _ data), _⟩ => data.id?
  | _ => none

namespace Producer

/-- A producer has completed its task although so many of its writes were refused: what it has
written, what it has counted, and what the counters have learnt. -/
structure Persevered (options : Options) (refusals : Nat) (before after : Metrics)
    (written : List UInt64) (counts : Counts) : Prop where
  completed : counts.completed = options.messages
  /-- Nothing was written three times. -/
  twice : ∀ id, written.count id ≤ 2
  /-- Every message was written, and once more for each refusal. -/
  written : written.length = options.messages.toNat + refusals
  sendErrors : after.sendErrors = before.sendErrors + UInt64.ofNat refusals
  throttled : after.throttled = before.throttled + UInt64.ofNat refusals
  retried : counts.retried = UInt64.ofNat refusals

namespace Blocking

variable {name : String} {options : Options} {handle : Handle} {past events : History}
  {state after : Paced Loop} {exchange : Exchange} {turns : List (Turn Loop)}
  {before shared served : Shared Hub} {hub : Hub}

/-- The loop is served by a hub that nobody else uses, and that was so in the beginning. -/
structure Meets (start : Hub) (handle : Handle) (past : History) (loop : Loop) (hub : Hub) :
    Prop where
  calm : loop.point.isCalm = true
  admits : hub.Admits handle
  paced : hub.throttleEvery = start.throttleEvery
  writes : hub.writes = UInt64.ofNat (start.writes.toNat + past.sent.length)
  statuses : past.statuses =
    Hub.paceAfter start.throttleEvery start.writes.toNat past.sent.length
  unsent : past.unsent = []

namespace Meets

variable {start : Hub} {loop next : Loop}

/-- The loop goes on without having written anything. -/
theorem keep (meets : Meets start handle past loop hub)
    (silent : events.sent = [] ∧ events.unsent = [] ∧ events.answers = [])
    (calm : next.point.isCalm = true) : Meets start handle (past ++ events) next hub := by
  obtain ⟨hsent, hunsent, hanswers⟩ := silent
  have hlength : (History.sent (past ++ events)).length = past.sent.length := by
    rw [History.sent_append, hsent, List.append_nil]
  refine ⟨calm, meets.admits, meets.paced, ?_, ?_, ?_⟩
  · rw [hlength, meets.writes]
  · rw [hlength, ← meets.statuses, History.statuses_append, History.statuses, History.statuses,
      hanswers, List.map_nil, List.append_nil]
  · rw [History.unsent_append, meets.unsent, hunsent, List.append_nil]

/-- The loop writes, and the hub passes the verdict on the next number. -/
theorem write {id : UInt64} {attempt : UInt32} {answer : Receipt}
    (meets : Meets start handle past loop shared.client)
    (answers : shared.Answers
      ⟨.broker (.write handle (options.message id attempt)), .ok answer⟩ served)
    (calm : next.point.isCalm = true) :
    Meets start handle (past ++ [.submitted id attempt, .answered id attempt answer.status]) next
      served.client := by
  have hreply : answer = (shared.client.write handle (options.message id attempt)).1 :=
    Except.ok.inj answers.reply
  have hclient : served.client = (shared.client.write handle (options.message id attempt)).2 :=
    congrArg Shared.client answers.after
  obtain ⟨hstatus, hdesk⟩ := meets.admits.write (options.message id attempt)
  have hpaced : served.client.throttleEvery = shared.client.throttleEvery := by
    rw [hclient]
    exact congrArg Hub.Desk.throttleEvery hdesk
  have hnumber : shared.client.writes + 1 =
      UInt64.ofNat (start.writes.toNat + past.sent.length + 1) := by
    rw [meets.writes, UInt64.ofNat_add _ 1]
    rfl
  have hlength : (History.sent
      (past ++ [.submitted id attempt, .answered id attempt answer.status])).length =
      past.sent.length + 1 := by
    rw [History.sent_append, List.length_append]
    rfl
  refine ⟨calm, hclient ▸ meets.admits.again _, hpaced.trans meets.paced, ?_, ?_, ?_⟩
  · rw [hlength, hclient, ← Nat.add_assoc, ← hnumber]
    exact congrArg Hub.Desk.writes hdesk
  · rw [hlength, Hub.paceAfter_succ, ← meets.statuses, ← hnumber, ← meets.paced,
      History.statuses_append]
    rw [hreply, hstatus]
    rfl
  · rw [History.unsent_append, meets.unsent]
    rfl

theorem move (meets : Meets start handle past state.now shared.client)
    (answers : shared.Answers exchange served)
    (move : Move options handle state exchange events after) :
    Meets start handle (past ++ events) after.now served.client := by
  cases move with
  | emit emission rest loop =>
    rw [answers.client_eq (by simp)]
    exact meets.keep ⟨rfl, rfl, rfl⟩ meets.calm
  | accept loop id attempt answer here ok =>
    rw [← ok]
    exact meets.write answers rfl
  | refuse loop id attempt answer here refused below => exact meets.write answers rfl
  | giveUp loop id attempt answer line here refused cap => exact meets.write answers rfl
  | crash loop id attempt fault here => cases answers.reply
  | drop loop id attempt here => cases answers.stop_eq
  | leave loop here => cases answers.stop_eq
  | _ =>
    rw [answers.client_eq (by simp)]
    exact meets.keep ⟨rfl, rfl, rfl⟩ rfl

theorem of_attended (admits : before.client.Admits handle)
    (attended : Attended (request name options handle) (.enter {}) before turns state shared) :
    Meets before.client handle (history turns) state.now shared.client := by
  induction attended with
  | start =>
    refine ⟨rfl, admits, rfl, ?_, rfl, rfl⟩
    show before.client.writes = UInt64.ofNat (before.client.writes.toNat + 0)
    rw [Nat.add_zero, UInt64.ofNat_toNat]
  | @ask turns state shared served query next reply earlier asks answers ih =>
    obtain ⟨events, move⟩ := Move.of_request asks reply
    rw [history_append, history_singleton, move.events_eq]
    exact ih.move answers move

/-- What was written was accepted or throttled. -/
theorem count_ok_add_count_throttled (meets : Meets start handle past loop hub) :
    past.statuses.count .ok + past.statuses.count .throttled = past.sent.length := by
  rw [meets.statuses, Hub.count_ok_add_count_paceAfter]

/-- It was throttled if its number is a multiple of the pace. -/
theorem count_throttled (meets : Meets start handle past loop hub)
    (positive : start.throttleEvery ≠ 0)
    (few : start.writes.toNat + past.sent.length < 2 ^ 64) :
    past.statuses.count .throttled =
      Hub.multiples start.throttleEvery start.writes.toNat past.sent.length := by
  rw [meets.statuses, Hub.count_paceAfter positive few]

end Meets

/-! ## What was written -/

/-- What the hub was asked to write is what was submitted, if no call has ended in a fault. -/
theorem written_of_run (run : Run (request name options handle) (.enter {}) turns state)
    (unsent : (history turns).unsent = []) :
    (turns.map Turn.exchange).filterMap Exchange.written? =
      (history turns).sent.map Prod.fst := by
  refine exchange_induction
    (P := fun exchanges past _ => past.unsent = [] →
      exchanges.filterMap Exchange.written? = past.sent.map Prod.fst)
    (fun _ => rfl) (fun {exchanges past events state after exchange} before move unsent => ?_) run
    unsent
  rw [History.unsent_append, List.append_eq_nil_iff] at unsent
  rw [List.filterMap_append, before unsent.1, History.sent_append, List.map_append]
  congr 1
  cases move with
  | accept loop id attempt answer here ok => simp [Exchange.written?]
  | refuse loop id attempt answer here refused below => simp [Exchange.written?]
  | giveUp loop id attempt answer line here refused cap => simp [Exchange.written?]
  | crash loop id attempt fault here => simp at unsent
  | _ => rfl

/-! ## The end of the loop -/

/-- A loop that has completed its task has done so in spite of the refusals. -/
theorem persevered_of_attended
    (attended : Attended (request name options handle) (.enter {}) before turns state shared)
    (meets : Meets before.client handle (history turns) state.now shared.client)
    (persists : Persists (history turns) state.now) (done : state.pending = [])
    (here : state.now.point = .halted (.ok .completed))
    (positive : before.client.throttleEvery ≠ 0)
    (few : before.client.writes.toNat + (history turns).sent.length < 2 ^ 64) :
    Persevered options
      (Hub.multiples before.client.throttleEvery before.client.writes.toNat
        (history turns).sent.length)
      before.ledger.metrics shared.ledger.metrics ((history turns).sent.map Prod.fst)
      state.now.counts := by
  have hrepeatable := (Settles.of_run attended.run).repeatable (by simp [here])
  obtain ⟨hminted, hcompleted⟩ := (Balances.of_run attended.run).finished here
  have hanswers := length_answers_of_run attended.run
  have tallies := Counted.of_run attended.run
  rw [Counted, here] at tallies
  have gains : Gains options (history turns) before.ledger.metrics shared.ledger.metrics :=
    (announced_of_run attended.run).metrics done attended.serves ▸ Gains.of_history _ _
  have hthrottled := meets.count_throttled positive few
  have hall := meets.count_ok_add_count_throttled
  rw [hthrottled, History.count_statuses, hcompleted] at hall
  have hrefused : (history turns).refused.length =
      Hub.multiples before.client.throttleEvery before.client.writes.toNat
        (history turns).sent.length := by
    have hsum := History.length_answers (history turns)
    omega
  have hrepeats : (history turns).repeats =
      Hub.multiples before.client.throttleEvery before.client.writes.toNat
        (history turns).sent.length := by
    have hsent := History.length_sent (history turns)
    have hfirsts := tallies.minted
    rw [History.unsentNew, meets.unsent] at hfirsts
    simp only [List.countP_nil, Point.fresh] at hfirsts
    omega
  refine ⟨?_, persists.count_sent_le (tracks_of_attended attended).exists_fate?, ?_, ?_, ?_, ?_⟩
  · rw [tallies.completed, hcompleted, UInt64.ofNat_toNat]
  · rw [List.length_map]
    exact hall.symm
  · rw [gains.sendErrors, hrefused]
  · rw [gains.throttled, History.slowed_eq hrepeatable, hthrottled]
  · rw [tallies.retried, hrepeats]

/-- A loop that is alone with a hub comes to its end, having completed its task or given up.  It
completes its task if the hub does not refuse every write, if each message may be sent twice, and
if the hub has not lost count. -/
theorem exists_persevered (name : String) (options : Options) (handle : Handle)
    (before : Shared Hub) (admits : before.client.Admits handle)
    (two : 2 ≤ before.client.throttleEvery.toNat) (again : 2 ≤ options.maxAttempts) :
    ∃ turns state shared ending,
      Attended (request name options handle) (.enter {}) before turns state shared ∧
      state.request (request name options handle) = .finish (.ok ending) ∧
      (turns.map Turn.exchange).filterMap Exchange.written? = (history turns).sent.map Prod.fst ∧
      shared.client.writes =
        UInt64.ofNat (before.client.writes.toNat + (history turns).sent.length) ∧
      (history turns).sent.length ≤ options.messages.toNat * max 1 options.maxAttempts.toNat ∧
      (before.client.writes.toNat + (history turns).sent.length < 2 ^ 64 →
        ending = .completed ∧
        Persevered options
          (Hub.multiples before.client.throttleEvery before.client.writes.toNat
            (history turns).sent.length)
          before.ledger.metrics shared.ledger.metrics ((history turns).sent.map Prod.fst)
          state.now.counts) := by
  obtain ⟨turns, state, shared, outcome, attended, hfinish⟩ :=
    exists_over name options handle before
  obtain ⟨hpending, hpoint⟩ := point_of_result (congrArg Request.result? hfinish)
  have meets := Meets.of_attended admits attended
  have hfates := (tracks_of_attended attended).exists_fate?
  have hsupply := (Balances.of_run attended.run).supply
  have hsent := (History.length_sent_le hfates).trans (Nat.mul_le_mul_right _ hsupply)
  obtain ⟨ending, rfl⟩ : ∃ ending, outcome = .ok ending := by
    rcases Point.cases_of_isCalm (hpoint ▸ meets.calm) with rfl | rfl <;> exact ⟨_, rfl⟩
  refine ⟨turns, state, shared, ending, attended, hfinish, written_of_run attended.run meets.unsent,
    meets.writes, hsent, fun few => ?_⟩
  have hspaced : Spaced (history turns).statuses :=
    meets.statuses ▸ Hub.isChain_paceAfter two few
  have persists := Persists.of_run again hspaced attended.run
  obtain rfl : ending = .completed := by
    have hgoing := persists.point
    rcases Point.cases_of_isCalm (hpoint ▸ meets.calm) with hending | hending
    · exact Except.ok.inj hending
    · rw [hpoint, hending] at hgoing
      exact hgoing.elim
  exact ⟨rfl, persevered_of_attended attended meets persists hpending hpoint
    (Hub.ne_zero_of_two_le two) few⟩

end Blocking
end Producer
end BrokerLoad
