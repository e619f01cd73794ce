import BrokerLoad.Proofs.Producer.Accounts
import BrokerLoad.Proofs.Producer.Orderly

/-!
# The accounts of both kinds of producers

For each kind it is said what its loop has counted and made known at any time (`Tallies`,
`Move.announced`), kept up move by move, and read off when the loop has finished.

A loop makes known what happened in a move only in the turns after it, so what it has made
known is behind its history by the emissions that are pending.  When it has finished there
are none.
-/

namespace BrokerLoad
namespace Producer

/-- What was made known of a history, but for the lines written. -/
def Announced {σ : Type} (options : Options) (history : History) (turns : List (Turn σ))
    (state : Paced σ) : Prop :=
  (emissions turns ++ state.pending).filter Emission.counts = history.emissions options

/-- A turn puts on record what happens in it, at the latest in the turns after it. -/
theorem Announced.ask {σ : Type} {options : Options} {history events : History}
    {turns : List (Turn σ)} {state after : Paced σ} {exchange : Exchange}
    (announced : Announced options history turns state)
    (turn : (exchange.emission?.toList ++ after.pending).filter Emission.counts =
      state.pending.filter Emission.counts ++ events.emissions options) :
    Announced options (history ++ events) (turns ++ [⟨state, exchange⟩]) after := by
  have hlast : emissions [(⟨state, exchange⟩ : Turn σ)] = exchange.emission?.toList := by
    rw [emissions, List.filterMap_cons]
    cases exchange.emission? <;> rfl
  rw [Announced, List.filter_append] at announced
  rw [Announced, emissions_append, hlast, List.append_assoc, List.filter_append, turn,
    ← List.append_assoc, announced, History.emissions_append]

theorem succ_ne_zero {attempts cap : UInt32} (below : attempts < cap) : attempts + 1 ≠ 0 := by
  intro hzero
  have hword := congrArg UInt32.toNat hzero
  have hbelow := UInt32.lt_iff_toNat_lt.1 below
  have hcap := cap.toNat_lt
  rw [UInt32.toNat_add, UInt32.toNat_one, UInt32.toNat_zero, Nat.mod_eq_of_lt (by omega)] at hword
  omega

/-- A refusal that is not the last one has nothing but counters to change. -/
theorem filter_refusal (status : WriteStatus) :
    (refusal status).filter Emission.counts = refusal status := by
  rw [refusal]
  split <;> rfl

/-- Nor has what is made known of a message handed to the broker. -/
theorem filter_announce (data : Bytes) :
    (announce data).filter Emission.counts = announce data := rfl

/-- The metrics of a producer that has made everything known are those of its history. -/
theorem Announced.metrics {σ : Type} {options : Options} {history : History}
    {turns : List (Turn σ)} {state : Paced σ} {before after : Ledger}
    (announced : Announced options history turns state) (done : state.pending = [])
    (served : before.Serves turns [] after) :
    after.metrics = (history.emissions options).foldl Metrics.absorb before.metrics := by
  rw [Announced, done, List.append_nil] at announced
  rw [served.metrics, ← announced, Metrics.foldl_absorb_filter]

/-! ## Pipelined producers -/

namespace Pipelined

variable {name : String} {options : Options} {handle : Handle} {past : History}
  {state after : Paced Loop} {exchange : Exchange} {events : History} {turns : List (Turn Loop)}

/-- A move puts on record what happens in it. -/
theorem Move.announced (move : Move options handle state exchange events after) :
    (exchange.emission?.toList ++ after.pending).filter Emission.counts =
      state.pending.filter Emission.counts ++ events.emissions options := by
  cases move with
  | emit emission rest loop => simp [Exchange.emission?]
  | accept loop oldest answer here ok => rfl
  | refuse loop oldest answer here refused below going =>
    simp [Exchange.emission?, filter_refusal, Event.emissions, refused, below]
  | drop loop oldest answer here refused below draining =>
    simp [Exchange.emission?, filter_refusal, Event.emissions, refused, below]
  | giveUp loop oldest answer line here refused cap =>
    simp only [Exchange.emission?, History.emissions_cons, History.emissions_nil, Event.emissions,
      refused, UInt32.not_lt.2 cap, if_false]
    rfl
  | _ => rfl

/-- What a loop has made known of its history, but for what is pending. -/
theorem announced_of_run
    (run : Run (request name options handle) (.enter (.start options)) turns state) :
    Announced options (history options turns) turns state := by
  induction run with
  | start => rfl
  | @ask turns state query next before asks reply ih =>
    obtain ⟨events, move⟩ := Move.of_request asks reply
    rw [history_append, history_singleton, move.events_eq]
    exact ih.ask move.announced

/-- Every submission has a number, and one that is to be repeated may be. -/
structure Numbered (options : Options) (loop : Loop) : Prop where
  /-- No submission waiting for its receipt is number zero. -/
  waiting : ∀ inFlight ∈ loop.point.inHand ++ loop.window.toList, inFlight.attempts ≠ 0
  /-- No submission to be repeated is, and it is not the last one. -/
  again : ∀ retry, loop.point = .resending retry →
    retry.attempts ≠ 0 ∧ retry.attempts < options.maxAttempts

namespace Numbered

theorem start (options : Options) : Numbered options (.start options) where
  waiting := by simp [Loop.start]
  again := by simp [Loop.start]

theorem push {loop : Loop} (numbered : Numbered options loop) (submission : InFlight)
    (free : loop.point.inHand = []) (number : submission.attempts ≠ 0) {remaining : UInt64}
    {draining : Bool} {counts : Counts} :
    Numbered options ⟨.checkpoint, remaining, loop.window.push submission, draining, counts⟩ where
  waiting := by
    intro inFlight hmem
    have hwaiting := numbered.waiting
    rw [free, List.nil_append] at hwaiting
    simp only [Point.inHand, List.nil_append, Fifo.toList_push, List.mem_append,
      List.mem_singleton] at hmem
    rcases hmem with hearlier | rfl
    · exact hwaiting inFlight hearlier
    · exact number
  again := by simp

/-- A loop that waits for no other receipts, and repeats nothing. -/
theorem keep {loop next : Loop} (numbered : Numbered options loop)
    (waiting : next.point.inHand ++ next.window.toList ⊆
      loop.point.inHand ++ loop.window.toList)
    (again : ∀ retry, next.point ≠ .resending retry) : Numbered options next where
  waiting inFlight hmem := numbered.waiting inFlight (waiting hmem)
  again retry here := absurd here (again retry)

theorem onward {loop : Loop} {oldest : InFlight} (numbered : Numbered options loop)
    (here : loop.point = .collecting oldest) (counts : Counts) :
    Numbered options { loop with counts := counts, point := onward loop.remaining } := by
  refine numbered.keep ?_ fun retry => ?_
  · dsimp only
    rw [inHand_onward, here]
    exact List.subset_append_right _ _
  · rcases onward_cases loop.remaining with ⟨-, hon⟩ | ⟨-, hon⟩ <;> simp [hon]

theorem move (numbered : Numbered options state.now)
    (move : Move options handle state exchange events after) : Numbered options after.now := by
  cases move with
  | emit emission rest loop => exact numbered
  | starve loop here => exact numbered
  | linger loop oldest here patient => exact numbered
  | take loop oldest rest here pops must =>
    exact numbered.keep (by simp [here, pops]) nofun
  | accept loop oldest answer here ok => exact numbered.onward here _
  | drop loop oldest answer here refused below draining => exact numbered.onward here _
  | refuse loop oldest answer here refused below going =>
    have hnumber : oldest.attempts ≠ 0 := numbered.waiting oldest (by simp [here])
    refine ⟨fun inFlight hmem => numbered.waiting inFlight (List.mem_append_right _ hmem), ?_⟩
    intro retry heq
    cases heq
    exact ⟨hnumber, below⟩
  | resend loop retry ticket here =>
    exact numbered.push _ (by simp [here]) (succ_ne_zero (numbered.again retry here).2)
  | send loop id ticket here => exact numbered.push _ (by simp [here]) (by simp)
  | ready loop oldest here => exact numbered.keep (by simp [here]) nofun
  | doubt loop oldest here going policy => exact numbered.keep (by simp [here]) nofun
  | persist loop oldest here => exact numbered.keep (by simp [here]) nofun
  | finish loop here empty none_left => exact numbered.keep (List.subset_append_right _ _) nofun
  | renew loop here left room => exact numbered.keep (List.subset_append_right _ _) nofun
  | abandon loop oldest here => exact numbered.keep (List.subset_append_right _ _) nofun
  | giveUp loop oldest answer line here refused cap =>
    exact numbered.keep (List.subset_append_right _ _) nofun
  | spoil loop oldest fault here => exact numbered.keep (List.subset_append_right _ _) nofun
  | mint loop id here => exact numbered.keep (List.subset_append_right _ _) nofun
  | fail loop id attempt here => exact numbered.keep (List.subset_append_right _ _) nofun
  | crash loop id attempt fault here => exact numbered.keep (List.subset_append_right _ _) nofun
  | explain loop id reason line here => exact numbered.keep (List.subset_append_right _ _) nofun
  | turn loop here draining => exact numbered.keep (List.subset_append_right _ _) nofun
  | goOn loop here going => exact numbered.keep (List.subset_append_right _ _) nofun
  | leave loop here going policy => exact numbered.keep (List.subset_append_right _ _) nofun
  | drain loop here going policy => exact numbered.keep (List.subset_append_right _ _) nofun

theorem of_run
    (run : Run (request name options handle) (.enter (.start options)) turns state) :
    Numbered options state.now :=
  history_induction (P := fun _ state => Numbered options state.now) (.start options)
    (fun numbered move => numbered.move move) run

end Numbered

namespace Point

/-- How many ids have been taken for messages that are about to be submitted. -/
@[simp] def fresh : Point → Nat
  | .sending _ => 1
  | _ => 0

/-- How many refused messages are about to be submitted again. -/
@[simp] def due : Point → Nat
  | .resending _ => 1
  | _ => 0

/-- How many messages the loop was over for being refused too often. -/
@[simp] def exceeded : Point → Nat
  | .halted (.ok .attemptsExceeded) => 1
  | _ => 0

end Point

/-- What a loop has counted, against its history. -/
def Counted (past : History) (loop : Loop) : Prop :=
  Tallies past loop.counts loop.point.isLive loop.point.fresh loop.point.due loop.point.exceeded

namespace Counted

/-- A message that could not be submitted is counted, and the loop does not turn any more. -/
theorem unsent {loop : Loop} {id : UInt64} {attempt : UInt32} (counted : Counted past loop)
    (numbered : Numbered options loop) (submits : loop.point.submits? = some (id, attempt)) :
    Tallies (past ++ [.unsent id attempt]) loop.counts false 0 0 0 := by
  rw [Counted] at counted
  rcases Point.of_submits? submits with ⟨here, rfl⟩ | ⟨retry, here, rfl, rfl⟩
  · simp only [here, Point.isLive, Point.fresh, Point.due, Point.exceeded] at counted
    refine counted.next ?_ ?_ ?_ ?_ rfl ?_ ?_ <;>
      simp [History.firsts, History.repeats, History.unsentNew, History.unsentAgain]
  · have hnumber : retry.attempts ≠ 0 := (numbered.again retry here).1
    simp only [here, Point.isLive, Point.fresh, Point.due, Point.exceeded] at counted
    refine counted.next ?_ ?_ ?_ ?_ rfl ?_ ?_ <;>
      simp [History.firsts, History.repeats, History.unsentNew, History.unsentAgain, hnumber]

theorem move (counted : Counted past state.now) (numbered : Numbered options state.now)
    (move : Move options handle state exchange events after) :
    Counted (past ++ events) after.now := by
  rw [Counted] at counted ⊢
  cases move with
  | emit emission rest loop => simpa using counted
  | linger loop oldest here patient => simpa using counted
  | starve loop here => simpa using counted
  | accept loop oldest answer here ok =>
    simp only [here, Point.isLive, Point.fresh, Point.due, Point.exceeded] at counted
    rcases onward_cases loop.remaining with ⟨-, hon⟩ | ⟨-, hon⟩ <;>
      refine counted.next ?_ ?_ ?_ ?_ rfl ?_ ?_ <;>
      simp [History.firsts, History.repeats, History.unsentNew, History.unsentAgain, hon]
  | drop loop oldest answer here refused below draining =>
    simp only [here, Point.isLive, Point.fresh, Point.due, Point.exceeded] at counted
    rcases onward_cases loop.remaining with ⟨-, hon⟩ | ⟨-, hon⟩ <;>
      refine counted.next ?_ ?_ ?_ ?_ rfl ?_ ?_ <;>
      simp [History.firsts, History.repeats, History.unsentNew, History.unsentAgain, hon, refused]
  | abandon loop oldest here =>
    simp only [here, Point.isLive, Point.fresh, Point.due, Point.exceeded] at counted
    refine counted.next ?_ ?_ ?_ ?_ rfl ?_ ?_ <;>
      simp [History.firsts, History.repeats, History.unsentNew, History.unsentAgain]
  | spoil loop oldest fault here =>
    simp only [here, Point.isLive, Point.fresh, Point.due, Point.exceeded] at counted
    refine counted.next ?_ ?_ ?_ ?_ rfl ?_ ?_ <;>
      simp [History.firsts, History.repeats, History.unsentNew, History.unsentAgain]
  | refuse loop oldest answer here refused below going =>
    simp only [here, Point.isLive, Point.fresh, Point.due, Point.exceeded] at counted
    refine counted.next ?_ ?_ ?_ ?_ rfl ?_ ?_ <;>
      simp [History.firsts, History.repeats, History.unsentNew, History.unsentAgain, refused]
  | giveUp loop oldest answer line here refused cap =>
    simp only [here, Point.isLive, Point.fresh, Point.due, Point.exceeded] at counted
    refine counted.next ?_ ?_ ?_ ?_ rfl ?_ ?_ <;>
      simp [History.firsts, History.repeats, History.unsentNew, History.unsentAgain, refused]
  | mint loop id here =>
    simp only [here, Point.isLive, Point.fresh, Point.due, Point.exceeded] at counted
    refine counted.next ?_ ?_ ?_ ?_ rfl ?_ ?_ <;>
      simp [History.firsts, History.repeats, History.unsentNew, History.unsentAgain]
  | send loop id ticket here =>
    simp only [here, Point.isLive, Point.fresh, Point.due, Point.exceeded] at counted
    refine counted.next ?_ ?_ ?_ ?_ rfl ?_ ?_ <;>
      simp [History.firsts, History.repeats, History.unsentNew, History.unsentAgain]
  | resend loop retry ticket here =>
    simp only [here, Point.isLive, Point.fresh, Point.due, Point.exceeded] at counted
    have hnumber : retry.attempts ≠ 0 := (numbered.again retry here).1
    refine counted.next ?_ ?_ ?_ ?_ rfl ?_ ?_ <;>
      simp [History.firsts, History.repeats, History.unsentNew, History.unsentAgain, hnumber]
  | fail loop id attempt here =>
    have hunsent := unsent counted numbered here
    exact hunsent
  | crash loop id attempt fault here =>
    have hunsent := unsent counted numbered here
    exact hunsent
  | finish loop here empty none_left =>
    simp only [here, Point.isLive, Point.fresh, Point.due, Point.exceeded] at counted
    rw [List.append_nil]
    cases loop.draining <;> exact counted.halt
  | leave loop here going policy =>
    simp only [here, Point.isLive, Point.fresh, Point.due, Point.exceeded] at counted
    rw [List.append_nil]
    exact counted.halt
  | _ => simp_all

end Counted

theorem Counted.of_run
    (run : Run (request name options handle) (.enter (.start options)) turns state) :
    Counted (history options turns) state.now :=
  (history_induction
    (P := fun past state => Numbered options state.now ∧ Counted past state.now)
    ⟨.start options, .nil⟩
    (fun inv move => ⟨inv.1.move move, inv.2.move inv.1 move⟩) run).2

/-- The accounts of a pipelined producer that has finished.  The receipts outstanding are those
of the window and the one that was lost, if one was. -/
theorem accounts {before later : Ledger} {outcome : Outcome}
    (run : Run (request name options handle) (.enter (.start options)) turns state)
    (served : before.Serves turns [] later)
    (result : (state.request (request name options handle)).result? = some outcome) :
    Accounts options (history options turns) state.now.counts outcome
      (state.now.window.size + (history options turns).lost.length) before later := by
  obtain ⟨done, here⟩ := point_of_result result
  have counted := Counted.of_run run
  have horder := congrArg List.length (InOrder.of_run run).order
  have hanswers := History.length_answers (history options turns)
  have hexceeded : (Point.halted outcome).exceeded =
      if outcome = .ok .attemptsExceeded then 1 else 0 := by
    rcases outcome with fault | ending
    · rfl
    · cases ending <;> rfl
  rw [Counted, here, hexceeded] at counted
  refine .of_tallies counted ?_ ((announced_of_run run).metrics done served) ?_
  · rw [here] at horder
    simp only [Point.inHand, List.nil_append, List.length_append, List.length_map,
      History.settled] at horder
    rw [Fifo.size_eq_length]
    omega
  · rw [served.latest, minted_history run]
    rfl

end Pipelined

/-! ## Blocking producers -/

namespace Blocking

variable {name : String} {options : Options} {handle : Handle} {past : History}
  {state after : Paced Loop} {exchange : Exchange} {events : History} {turns : List (Turn Loop)}

/-- A move puts on record what happens in it. -/
theorem Move.announced (move : Move options handle state exchange events after) :
    (exchange.emission?.toList ++ after.pending).filter Emission.counts =
      state.pending.filter Emission.counts ++ events.emissions options := by
  cases move with
  | emit emission rest loop => simp [Exchange.emission?]
  | accept loop id attempt answer here ok => rfl
  | refuse loop id attempt answer here refused below =>
    simp [Exchange.emission?, filter_announce, filter_refusal, Event.emissions, refused, below]
  | giveUp loop id attempt answer line here refused cap =>
    simp only [Exchange.emission?, History.emissions_cons, History.emissions_nil, Event.emissions,
      refused, UInt32.not_lt.2 cap, if_false]
    rfl
  | _ => rfl

/-- What a loop has made known of its history, but for what is pending. -/
theorem announced_of_run (run : Run (request name options handle) (.enter {}) turns state) :
    Announced options (history turns) turns state := by
  induction run with
  | start => rfl
  | @ask turns state query next before asks reply ih =>
    obtain ⟨events, move⟩ := Move.of_request asks reply
    rw [history_append, history_singleton, move.events_eq]
    exact ih.ask move.announced

namespace Point

/-- How many ids have been taken for messages that are about to be written. -/
@[simp] def fresh : Point → Nat
  | .writing _ attempt => if attempt = 1 then 1 else 0
  | _ => 0

/-- How many refused messages are about to be written again. -/
@[simp] def due : Point → Nat
  | .writing _ attempt => if attempt = 1 then 0 else 1
  | .afterRefusal _ _ => 1
  | _ => 0

/-- How many messages the loop was over for being refused too often. -/
@[simp] def exceeded : Point → Nat
  | .halted (.ok .attemptsExceeded) => 1
  | _ => 0

end Point

/-- The attempt that the loop is about to make has a number. -/
structure Numbered (options : Options) (loop : Loop) : Prop where
  /-- No write is number zero. -/
  writing : ∀ id attempt, loop.point = .writing id attempt → attempt ≠ 0
  /-- No refused write is, and it is not the last one. -/
  again : ∀ id attempt, loop.point = .afterRefusal id attempt →
    attempt ≠ 0 ∧ attempt < options.maxAttempts

theorem Numbered.start (options : Options) : Numbered options {} := ⟨by simp, by simp⟩

theorem Numbered.move (numbered : Numbered options state.now)
    (move : Move options handle state exchange events after) : Numbered options after.now := by
  cases move with
  | emit emission rest loop => exact numbered
  | mint loop id here =>
    refine ⟨fun id' attempt heq => ?_, by simp⟩
    cases heq
    decide
  | refuse loop id attempt answer here refused below =>
    refine ⟨by simp, fun id' attempt' heq => ?_⟩
    cases heq
    exact ⟨numbered.writing id attempt here, below⟩
  | again loop id attempt here =>
    refine ⟨fun id' attempt' heq => ?_, by simp⟩
    cases heq
    exact succ_ne_zero (numbered.again id attempt here).2
  | _ => exact ⟨by simp, by simp⟩

theorem Numbered.of_run (run : Run (request name options handle) (.enter {}) turns state) :
    Numbered options state.now :=
  history_induction (P := fun _ state => Numbered options state.now) (.start options)
    (fun numbered move => numbered.move move) run

/-- What a loop has counted, against its history. -/
def Counted (past : History) (loop : Loop) : Prop :=
  Tallies past loop.counts loop.point.isLive loop.point.fresh loop.point.due loop.point.exceeded

namespace Counted

/-- An attempt with a number is the first or one after it. -/
theorem first_or_repeat {attempt : UInt32} (number : attempt ≠ 0) :
    attempt = 1 ∨ attempt ≠ 1 ∧ 1 < attempt := by
  by_cases hfirst : attempt = 1
  · exact Or.inl hfirst
  · refine Or.inr ⟨hfirst, UInt32.lt_iff_toNat_lt.2 ?_⟩
    have hzero : attempt.toNat ≠ 0 := fun h => number (UInt32.toNat_inj.1 h)
    have hone : attempt.toNat ≠ 1 := fun h => hfirst (UInt32.toNat_inj.1 h)
    rw [UInt32.toNat_one]
    omega

theorem move (counted : Counted past state.now) (numbered : Numbered options state.now)
    (move : Move options handle state exchange events after) :
    Counted (past ++ events) after.now := by
  rw [Counted] at counted ⊢
  cases move with
  | emit emission rest loop => simpa using counted
  | mint loop id here =>
    simp only [here, Point.isLive, Point.fresh, Point.due, Point.exceeded] at counted
    refine counted.next ?_ ?_ ?_ ?_ rfl ?_ ?_ <;>
      simp [History.firsts, History.repeats, History.unsentNew, History.unsentAgain]
  | accept loop id attempt answer here ok =>
    simp only [here, Point.isLive, Point.fresh, Point.due, Point.exceeded] at counted
    rcases first_or_repeat (numbered.writing id attempt here) with rfl | ⟨hmore, hlt⟩ <;>
      refine counted.next ?_ ?_ ?_ ?_ rfl ?_ ?_ <;>
      simp_all [History.firsts, History.repeats, History.unsentNew, History.unsentAgain, Loop.tally]
  | refuse loop id attempt answer here refused below =>
    simp only [here, Point.isLive, Point.fresh, Point.due, Point.exceeded] at counted
    rcases first_or_repeat (numbered.writing id attempt here) with rfl | ⟨hmore, hlt⟩ <;>
      refine counted.next ?_ ?_ ?_ ?_ rfl ?_ ?_ <;>
      simp_all [History.firsts, History.repeats, History.unsentNew, History.unsentAgain, Loop.tally]
  | giveUp loop id attempt answer line here refused cap =>
    simp only [here, Point.isLive, Point.fresh, Point.due, Point.exceeded] at counted
    rcases first_or_repeat (numbered.writing id attempt here) with rfl | ⟨hmore, hlt⟩ <;>
      refine counted.next ?_ ?_ ?_ ?_ rfl ?_ ?_ <;>
      simp_all [History.firsts, History.repeats, History.unsentNew, History.unsentAgain, Loop.tally]
  | crash loop id attempt fault here =>
    simp only [here, Point.isLive, Point.fresh, Point.due, Point.exceeded] at counted
    rcases first_or_repeat (numbered.writing id attempt here) with rfl | ⟨hmore, hlt⟩ <;>
      refine counted.next ?_ ?_ ?_ ?_ rfl ?_ ?_ <;>
      simp_all [History.firsts, History.repeats, History.unsentNew, History.unsentAgain]
  | drop loop id attempt here =>
    simp only [here, Point.isLive, Point.fresh, Point.due, Point.exceeded] at counted
    refine counted.next ?_ ?_ ?_ ?_ rfl ?_ ?_ <;>
      simp [History.firsts, History.repeats, History.unsentNew, History.unsentAgain]
  | again loop id attempt here =>
    have hnumber : attempt ≠ 0 := (numbered.again id attempt here).1
    simp_all
  | finish loop here none_left =>
    simp only [here, Point.isLive, Point.fresh, Point.due, Point.exceeded] at counted
    rw [List.append_nil]
    exact counted.halt
  | leave loop here =>
    simp only [here, Point.isLive, Point.fresh, Point.due, Point.exceeded] at counted
    rw [List.append_nil]
    exact counted.halt
  | _ => simp_all

end Counted

theorem Counted.of_run (run : Run (request name options handle) (.enter {}) turns state) :
    Counted (history turns) state.now :=
  (history_induction
    (P := fun past state => Numbered options state.now ∧ Counted past state.now)
    ⟨⟨by simp [Paced.enter], by simp [Paced.enter]⟩, .nil⟩
    (fun inv move => ⟨inv.1.move move, inv.2.move inv.1 move⟩) run).2

theorem length_answers_of_run
    (run : Run (request name options handle) (.enter {}) turns state) :
    (history turns).answers.length = (history turns).sent.length := by
  refine history_induction (P := fun past _ => past.answers.length = past.sent.length) rfl
    (fun {past events state after exchange} before move => ?_) run
  rw [History.answers_append, History.sent_append, List.length_append, List.length_append, before]
  cases move <;> rfl

/-- The accounts of a blocking producer that has finished.  It leaves no receipts
outstanding. -/
theorem accounts {before later : Ledger} {outcome : Outcome}
    (run : Run (request name options handle) (.enter {}) turns state)
    (served : before.Serves turns [] later)
    (result : (state.request (request name options handle)).result? = some outcome) :
    Accounts options (history turns) state.now.counts outcome 0 before later := by
  obtain ⟨done, here⟩ := point_of_result result
  have counted := Counted.of_run run
  have hexceeded : (Point.halted outcome).exceeded =
      if outcome = .ok .attemptsExceeded then 1 else 0 := by
    rcases outcome with fault | ending
    · rfl
    · cases ending <;> rfl
  rw [Counted, here, hexceeded] at counted
  refine .of_tallies counted ?_ ((announced_of_run run).metrics done served) ?_
  · rw [← length_answers_of_run run, History.length_answers, Nat.add_zero]
  · rw [served.latest, minted_history run]
    rfl

end Blocking

/-! ## Both -/

/-- The accounts of a producer of either kind that has finished, with a ledger that nobody
else uses, whatever the broker answers and whenever the producer is asked to stop. -/
theorem producers_accounts (name : String) (options : Options) (handle : Handle)
    (before later : Ledger) (outcome : Outcome) :
    (∀ turns state,
      Run (Pipelined.request name options handle) (.enter (.start options)) turns state →
      before.Serves turns [] later →
      (state.request (Pipelined.request name options handle)).result? = some outcome →
      Accounts options (Pipelined.history options turns) state.now.counts outcome
        (state.now.window.size + (Pipelined.history options turns).lost.length) before later) ∧
    (∀ turns state,
      Run (Blocking.request name options handle) (.enter {}) turns state →
      before.Serves turns [] later →
      (state.request (Blocking.request name options handle)).result? = some outcome →
      Accounts options (Blocking.history turns) state.now.counts outcome 0 before later) :=
  ⟨fun _ _ run served result => Pipelined.accounts run served result,
    fun _ _ run served result => Blocking.accounts run served result⟩

/-- A pipelined producer that abandons the receipt it waits for, and a blocking one whose
broker fails at the second attempt. -/
theorem producers_accounts_cut_short :
    (∃ (turns : List (Turn Pipelined.Loop)) (state : Paced Pipelined.Loop) (later : Ledger),
      (Pipelined.history { destination := "d", messages := 1 } turns).lost = [(1, 1)] ∧
      Accounts { destination := "d", messages := 1 }
        (Pipelined.history { destination := "d", messages := 1 } turns) state.now.counts
        (Except.ok .stopRequested) 1 {} later) ∧
    (∃ (turns : List (Turn Blocking.Loop)) (state : Paced Blocking.Loop) (later : Ledger),
      (Blocking.history turns).failsAgain = true ∧
      Accounts { destination := "d", messages := 1 } (Blocking.history turns) state.now.counts
        (Except.error .foreign) 0 {} later) := by
  constructor
  · have begun : Run (Pipelined.request "p" { destination := "d", messages := 1 } 0)
        (.enter (.start { destination := "d", messages := 1 })) _ _ := .start
    have sent := ((begun.ask rfl ()).ask rfl 1).ask rfl (Except.ok (some (5 : Ticket)))
    have taken := (((sent.ask rfl ()).ask rfl ()).ask rfl false).ask rfl ()
    have ended := (taken.ask rfl false).ask rfl true
    have accounts := (producers_accounts "p" _ 0 {} _ (.ok .stopRequested)).1 _ _ ended
      (.turn (.turn (.turn (.turn (.turn (.turn (.turn (.turn (.turn .start
        trivial) rfl) trivial) trivial) trivial) trivial) trivial) trivial) trivial) rfl
    exact ⟨_, _, _, rfl, accounts⟩
  · have begun : Run (Blocking.request "p" { destination := "d", messages := 1 } 0)
        (.enter {}) _ _ := .start
    have minted := (begun.ask rfl ()).ask rfl 1
    have refused := minted.ask rfl (Except.ok ⟨WriteStatus.throttled, ""⟩)
    have again := ((((refused.ask rfl ()).ask rfl ()).ask rfl ()).ask rfl ()).ask rfl false
    have ended := again.ask rfl (Except.error Fault.foreign)
    have accounts := (producers_accounts "p" _ 0 {} _ (.error .foreign)).2 _ _ ended
      (.turn (.turn (.turn (.turn (.turn (.turn (.turn (.turn (.turn .start
        trivial) rfl) trivial) trivial) trivial) trivial) trivial) trivial) trivial) rfl
    exact ⟨_, _, _, rfl, accounts⟩

end Producer
end BrokerLoad
