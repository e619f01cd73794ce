import BrokerLoad.Proofs.Producer.Balance
import BrokerLoad.Proofs.Producer.BlockingFates

/-!
# What a producer may be trusted with

Both kinds of producers send their messages in an orderly way, and what they say at the end
can be relied on.  A producer says that the attempts were exceeded exactly if the last
receipt that it collected refuses a submission that may not be repeated, and it says that
it completed its task only if it took an id for each message that it was to send and each
of them was accepted in the end, once.

The two engines have different loops and count their attempts in different places.  What is
common to them is all in the histories, so that the promise is one structure, `Orderly`, and
each engine contributes its moves.
-/

namespace BrokerLoad

namespace Producer

/-- The last receipt collected refuses a submission that may not be repeated. -/
def History.Exhausted (maxAttempts : UInt32) (history : History) : Prop :=
  ∃ id attempt status, history.answers.getLast? = some (id, attempt, status) ∧
    status ≠ .ok ∧ maxAttempts ≤ attempt

namespace History

variable {maxAttempts : UInt32} {history events : History}

theorem not_exhausted_nil : ¬ Exhausted maxAttempts [] := by
  rintro ⟨id, attempt, status, hlast, -⟩
  simp at hlast

/-- Without a new receipt the last one is the same as before. -/
theorem exhausted_append_of_silent (silent : events.answers = []) :
    Exhausted maxAttempts (history ++ events) ↔ Exhausted maxAttempts history := by
  rw [Exhausted, Exhausted, answers_append, silent, List.append_nil]

theorem exhausted_append_of_answer {id : UInt64} {attempt : UInt32} {status : WriteStatus}
    (answer : events.answers = [(id, attempt, status)]) :
    Exhausted maxAttempts (history ++ events) ↔ status ≠ .ok ∧ maxAttempts ≤ attempt := by
  rw [Exhausted, answers_append, answer, List.getLast?_append, List.getLast?_singleton,
    Option.some_or]
  constructor
  · rintro ⟨id', attempt', status', heq, hrefused, hcap⟩
    cases heq
    exact ⟨hrefused, hcap⟩
  · rintro ⟨hrefused, hcap⟩
    exact ⟨id, attempt, status, rfl, hrefused, hcap⟩

end History

/-- A producer that is alone takes fewer ids than there are. -/
theorem Options.few_alone (options : Options) :
    (Ledger.idsOf []).length + options.messages.toNat < 2 ^ 64 := by
  simpa [Ledger.idsOf] using options.messages.toNat_lt

/-- What a producer promises about its messages, and by its result if it has one. -/
structure Orderly (options : Options) (history : History) (result : Option Outcome) : Prop where
  /-- The messages are sent in an orderly way. -/
  disciplined : Disciplined options.maxAttempts history
  /-- No id is taken twice. -/
  nodup : history.minted.Nodup
  /-- The attempts are exceeded exactly if the last receipt says so. -/
  exceeded : ∀ outcome, result = some outcome →
    (outcome = .ok .attemptsExceeded ↔ history.Exhausted options.maxAttempts)
  /-- The task is completed only if every message was begun. -/
  begun : result = some (.ok .completed) → history.minted.length = options.messages.toNat
  /-- The task is completed only if the last receipt of every message accepts it, and no other
  receipt does. -/
  accepted : result = some (.ok .completed) → ∀ id ∈ history.minted, ∃ earlier attempt,
    history.answersOf id = earlier ++ [(attempt, .ok)] ∧
      ∀ answer ∈ earlier, answer.2 ≠ WriteStatus.ok

/-- A producer that tracks its messages and knows when it is over is orderly. -/
theorem Orderly.of_tracks {options : Options} {history : History} {result : Option Outcome}
    {stakes : List (UInt64 × Fate)} (tracks : Tracks options.maxAttempts.toNat history stakes)
    (nodup : history.minted.Nodup)
    (exceeded : ∀ outcome, result = some outcome →
      (outcome = .ok .attemptsExceeded ↔ history.Exhausted options.maxAttempts))
    (finished : result = some (.ok .completed) →
      history.minted.length = options.messages.toNat ∧
        history.completed.length = options.messages.toNat) :
    Orderly options history result where
  disciplined := tracks.disciplined
  nodup := nodup
  exceeded := exceeded
  begun done := (finished done).1
  accepted done id hmem := by
    obtain ⟨hminted, hcompleted⟩ := finished done
    have hlength : history.minted.length ≤ history.completed.length :=
      Nat.le_of_eq (hminted.trans hcompleted.symm)
    exact answersOf_of_completed tracks.exists_fate?
      (mem_completed_of_length_eq tracks.exists_fate? hlength hmem)

/-! ## Pipelined producers -/

namespace Pipelined

variable {name : String} {options : Options} {handle : Handle} {turns : List (Turn Loop)}
  {state after : Paced Loop}

/-- A loop is over for exceeded attempts exactly if the last receipt says so. -/
theorem Move.exhausted {past events : History} {exchange : Exchange}
    (before : state.now.point = .halted (.ok .attemptsExceeded) ↔
      past.Exhausted options.maxAttempts)
    (move : Move options handle state exchange events after) :
    after.now.point = .halted (.ok .attemptsExceeded) ↔
      (past ++ events).Exhausted options.maxAttempts := by
  cases move with
  | emit emission rest loop => rwa [List.append_nil]
  | linger loop oldest here patient => rwa [List.append_nil]
  | starve loop here => rwa [List.append_nil]
  | accept loop oldest answer here ok =>
    rw [History.exhausted_append_of_answer rfl]
    rcases onward_cases loop.remaining with ⟨-, hon⟩ | ⟨-, hon⟩ <;> simp [hon]
  | refuse loop oldest answer here refused below going =>
    rw [History.exhausted_append_of_answer rfl]
    simp [UInt32.not_le.2 below]
  | drop loop oldest answer here refused below draining =>
    rw [History.exhausted_append_of_answer rfl]
    rcases onward_cases loop.remaining with ⟨-, hon⟩ | ⟨-, hon⟩ <;>
      simp [hon, UInt32.not_le.2 below]
  | giveUp loop oldest answer line here refused cap =>
    rw [History.exhausted_append_of_answer rfl]
    simp [refused, cap]
  | fail loop id attempt here =>
    rw [History.exhausted_append_of_silent rfl, ← before]
    rcases Point.of_submits? here with ⟨hpoint, -⟩ | ⟨retry, hpoint, -⟩ <;> simp [hpoint]
  | crash loop id attempt fault here =>
    rw [History.exhausted_append_of_silent rfl, ← before]
    rcases Point.of_submits? here with ⟨hpoint, -⟩ | ⟨retry, hpoint, -⟩ <;> simp [hpoint]
  | finish loop here empty none_left =>
    rw [History.exhausted_append_of_silent rfl, ← before]
    cases loop.draining <;> simp [here]
  | _ =>
    rw [History.exhausted_append_of_silent rfl, ← before]
    simp_all

theorem point_of_result {outcome : Outcome}
    (result : (state.request (request name options handle)).result? = some outcome) :
    state.pending = [] ∧ state.now.point = .halted outcome := by
  obtain ⟨hpending, hfinish⟩ := Paced.finish_of_result result
  exact ⟨hpending, point_of_finish hfinish⟩

/-- A pipelined producer is orderly. -/
theorem orderly {ledger later : Ledger} {others : List Exchange}
    (run : Run (request name options handle) (.enter (.start options)) turns state)
    (served : ledger.Serves turns others later)
    (few : (Ledger.idsOf others).length + options.messages.toNat < 2 ^ 64) :
    Orderly options (history options turns)
      (state.request (request name options handle)).result? := by
  have new := nodup_mintedIds run served few
  have exhausted : state.now.point = .halted (.ok .attemptsExceeded) ↔
      (history options turns).Exhausted options.maxAttempts :=
    history_induction
      (P := fun past state => state.now.point = .halted (.ok .attemptsExceeded) ↔
        past.Exhausted options.maxAttempts)
      (iff_of_false (by simp [Paced.enter, Loop.start]) History.not_exhausted_nil)
      (fun before move => move.exhausted before) run
  refine .of_tracks (tracks_of_run run new) (minted_history run ▸ new) ?_ fun result =>
    (Balances.of_run run).finished (point_of_result result).2
  intro outcome result
  rw [← exhausted, (point_of_result result).2]
  simp

end Pipelined

/-! ## Blocking producers -/

namespace Blocking

variable {name : String} {options : Options} {handle : Handle} {turns : List (Turn Loop)}
  {state after : Paced Loop}

/-- A loop is over for exceeded attempts exactly if the last receipt says so. -/
theorem Move.exhausted {past events : History} {exchange : Exchange}
    (before : state.now.point = .halted (.ok .attemptsExceeded) ↔
      past.Exhausted options.maxAttempts)
    (move : Move options handle state exchange events after) :
    after.now.point = .halted (.ok .attemptsExceeded) ↔
      (past ++ events).Exhausted options.maxAttempts := by
  cases move with
  | emit emission rest loop => rwa [List.append_nil]
  | accept loop id attempt answer here ok =>
    rw [History.exhausted_append_of_answer rfl]
    simp
  | refuse loop id attempt answer here refused below =>
    rw [History.exhausted_append_of_answer rfl]
    simp [UInt32.not_le.2 below]
  | giveUp loop id attempt answer line here refused cap =>
    rw [History.exhausted_append_of_answer rfl]
    simp [refused, cap]
  | _ =>
    rw [History.exhausted_append_of_silent rfl, ← before]
    simp_all

theorem point_of_result {outcome : Outcome}
    (result : (state.request (request name options handle)).result? = some outcome) :
    state.pending = [] ∧ state.now.point = .halted outcome := by
  obtain ⟨hpending, hfinish⟩ := Paced.finish_of_result result
  exact ⟨hpending, point_of_finish hfinish⟩

/-- A blocking producer is orderly. -/
theorem orderly {ledger later : Ledger} {others : List Exchange}
    (run : Run (request name options handle) (.enter {}) turns state)
    (served : ledger.Serves turns others later)
    (few : (Ledger.idsOf others).length + options.messages.toNat < 2 ^ 64) :
    Orderly options (history turns) (state.request (request name options handle)).result? := by
  have new := nodup_mintedIds run served few
  have exhausted : state.now.point = .halted (.ok .attemptsExceeded) ↔
      (history turns).Exhausted options.maxAttempts :=
    history_induction
      (P := fun past state => state.now.point = .halted (.ok .attemptsExceeded) ↔
        past.Exhausted options.maxAttempts)
      (iff_of_false (by simp [Paced.enter]) History.not_exhausted_nil)
      (fun before move => move.exhausted before) run
  refine .of_tracks (tracks_of_run run new) (minted_history run ▸ new) ?_ fun result =>
    (Balances.of_run run).finished (point_of_result result).2
  intro outcome result
  rw [← exhausted, (point_of_result result).2]
  simp

end Blocking

/-! ## Both -/

/-- Producers of both kinds are orderly, whatever the broker answers and whenever they are
asked to stop, as long as the mint does not go all the way round. -/
theorem producers_orderly (name : String) (options : Options) (handle : Handle)
    (ledger later : Ledger) (others : List Exchange)
    (few : (Ledger.idsOf others).length + options.messages.toNat < 2 ^ 64) :
    (∀ turns state,
      Run (Pipelined.request name options handle) (.enter (.start options)) turns state →
      ledger.Serves turns others later →
      Orderly options (Pipelined.history options turns)
        (state.request (Pipelined.request name options handle)).result?) ∧
    (∀ turns state,
      Run (Blocking.request name options handle) (.enter {}) turns state →
      ledger.Serves turns others later →
      Orderly options (Blocking.history turns)
        (state.request (Blocking.request name options handle)).result?) :=
  ⟨fun _ _ run served => Pipelined.orderly run served few,
    fun _ _ run served => Blocking.orderly run served few⟩

/-- A pipelined producer that may send only once and is throttled, and a blocking one whose
first attempt is throttled and whose second is accepted. -/
theorem producers_orderly_throttled :
    (∃ (turns : List (Turn Pipelined.Loop)) (state : Paced Pipelined.Loop),
      (state.request (Pipelined.request "p"
          { destination := "d", messages := 1, maxAttempts := 1 } 0)).result? =
        some (Except.ok .attemptsExceeded) ∧
      Orderly { destination := "d", messages := 1, maxAttempts := 1 }
        (Pipelined.history { destination := "d", messages := 1, maxAttempts := 1 } turns)
        (state.request (Pipelined.request "p"
          { destination := "d", messages := 1, maxAttempts := 1 } 0)).result?) ∧
    (∃ (turns : List (Turn Blocking.Loop)) (state : Paced Blocking.Loop),
      (state.request (Blocking.request "p" { destination := "d", messages := 1 } 0)).result? =
        some (Except.ok .completed) ∧
      Orderly { destination := "d", messages := 1 } (Blocking.history turns)
        (state.request
          (Blocking.request "p" { destination := "d", messages := 1 } 0)).result?) := by
  constructor
  · have begun : Run
        (Pipelined.request "p" { destination := "d", messages := 1, maxAttempts := 1 } 0)
        (.enter (.start { destination := "d", messages := 1, maxAttempts := 1 })) _ _ := .start
    have sent := ((begun.ask rfl ()).ask rfl 1).ask rfl (Except.ok (some (5 : Ticket)))
    have taken := (((sent.ask rfl ()).ask rfl ()).ask rfl false).ask rfl ()
    have ready := taken.ask rfl true
    have refused := ready.ask rfl (Except.ok ⟨WriteStatus.throttled, ""⟩)
    have ended := (refused.ask rfl ()).ask rfl ()
    have orderly := (producers_orderly "p" _ 0 {} _ [] (by decide)).1 _ _ ended
      (.turn (.turn (.turn (.turn (.turn (.turn (.turn (.turn (.turn (.turn (.turn .start
        trivial) rfl) trivial) trivial) trivial) trivial) trivial) trivial) trivial) trivial)
        trivial)
    refine ⟨_, _, ?_, orderly⟩
    rfl
  · have begun : Run (Blocking.request "p" { destination := "d", messages := 1 } 0)
        (.enter {}) _ _ := .start
    have minted := (begun.ask rfl ()).ask rfl 1
    have refused := minted.ask rfl (Except.ok ⟨WriteStatus.throttled, ""⟩)
    have again := ((((refused.ask rfl ()).ask rfl ()).ask rfl ()).ask rfl ()).ask rfl false
    have accepted := again.ask rfl (Except.ok ⟨WriteStatus.ok, ""⟩)
    have ended := ((((accepted.ask rfl ()).ask rfl ()).ask rfl ()).ask rfl false).ask rfl ()
    have orderly := (producers_orderly "p" _ 0 {} _ [] (by decide)).2 _ _ ended
      (.turn (.turn (.turn (.turn (.turn (.turn (.turn (.turn (.turn (.turn (.turn (.turn (.turn
        (.turn .start trivial) rfl) trivial) trivial) trivial) trivial) trivial) trivial)
        trivial) trivial) trivial) trivial) trivial) trivial)
    refine ⟨_, _, ?_, orderly⟩
    rfl

end Producer
end BrokerLoad
