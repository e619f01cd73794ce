import BrokerLoad.Proofs.Engine.Stopping
import BrokerLoad.Proofs.Producer.Verdicts

/-!
# What a producer has left to spend

The budget of a producer is how many more times it may hand a message to the broker: so many
times each message that is left to be begun, and each message that was begun as many times as
its next attempts have numbers up to the cap.  Handing a message to the broker costs one, and
nothing is ever added (`Move.pays`), so that all its submissions together are no more than
the messages times the cap.

The budget is exact only because the words that it is read from are.  The numbers of attempts
are from one to the cap, and the one that is counted on from is below it, so that it does not
wrap even for the largest cap that there is.  The messages left to a pipelined producer, and
those that a blocking one is done with, are those not yet begun and those begun, to a unit.

None of this depends on ids: nothing is assumed about what the mint gives out.
-/

namespace BrokerLoad
namespace Producer

/-- How many attempts may follow one that is refused. -/
def Options.spare (options : Options) (attempt : UInt32) : Nat :=
  options.maxAttempts.toNat - attempt.toNat

/-- The first attempt at a message and those that may follow it. -/
theorem Options.spare_one (options : Options) :
    1 + options.spare 1 ≤ max 1 options.maxAttempts.toNat := by
  rw [Options.spare, UInt32.toNat_one]
  omega

/-- The attempt after one below the cap and those that may follow it. -/
theorem Options.spare_succ {options : Options} {attempt : UInt32}
    (below : attempt < options.maxAttempts) :
    1 + options.spare (attempt + 1) = options.spare attempt := by
  have hnext := toNat_succ_of_lt below
  rw [UInt32.lt_iff_toNat_lt] at below
  rw [Options.spare, Options.spare, hnext]
  omega

/-- Whether an attempt may have a number. -/
def Options.Allows (options : Options) (attempt : UInt32) : Prop :=
  1 ≤ attempt.toNat ∧ attempt.toNat ≤ max 1 options.maxAttempts.toNat

theorem Options.allows_one (options : Options) : options.Allows 1 :=
  ⟨Nat.le_refl _, Nat.le_max_left _ _⟩

/-- The attempt after one below the cap. -/
theorem Options.allows_succ {options : Options} {attempt : UInt32}
    (below : attempt < options.maxAttempts) : options.Allows (attempt + 1) := by
  have hnext := toNat_succ_of_lt below
  rw [UInt32.lt_iff_toNat_lt] at below
  rw [Options.Allows, hnext]
  omega

/-- How often messages were handed to the broker. -/
def submissions {σ : Type} (turns : List (Turn σ)) : Nat :=
  turns.countP fun turn => turn.exchange.does .write

/-- A producer keeps within its means.  The numbers of attempts that it keeps or is about to use
are `attempts`, and those that it is about to count on from are `refused`. -/
structure KeepsWithin {σ : Type} (options : Options) (turns : List (Turn σ))
    (attempts refused : List UInt32) : Prop where
  /-- No more messages are handed to the broker than may be. -/
  submitted : submissions turns ≤ options.messages.toNat * max 1 options.maxAttempts.toNat
  /-- The numbers of attempts are from one to the cap. -/
  allowed : ∀ attempt ∈ attempts, options.Allows attempt
  /-- So is the one after a refusal, and it is one more. -/
  next : ∀ attempt ∈ refused,
    options.Allows (attempt + 1) ∧ (attempt + 1).toNat = attempt.toNat + 1

/-! ## Pipelined producers -/

namespace Pipelined

/-- The number of the refused submission that is to be repeated. -/
@[simp] def Point.repeats : Point → List UInt32
  | .resending retry => [retry.attempts]
  | _ => []

namespace Loop

/-- The numbers of the submissions that the loop has not done with: those in flight, and the
refused one that is to be repeated. -/
def held (loop : Loop) : List UInt32 := loop.waiting.map InFlight.attempts ++ loop.point.repeats

/-- The numbers of attempts that the loop keeps or is about to use. -/
def attempts (loop : Loop) : List UInt32 :=
  loop.held ++ loop.point.submits?.toList.map Prod.snd

/-- How many more times the loop may hand a message to the broker. -/
def budget (options : Options) (loop : Loop) : Nat :=
  if loop.point.isLive then
    loop.remaining.toNat * max 1 options.maxAttempts.toNat + (loop.held.map options.spare).sum
  else 0

end Loop

variable {name : String} {options : Options} {handle : Handle} {past : History}
  {state after : Paced Loop} {exchange : Exchange} {events : History} {turns : List (Turn Loop)}

/-! ### The numbers of attempts -/

theorem held_onward (loop : Loop) (counts : Counts) :
    Loop.held { loop with counts := counts, point := onward loop.remaining } =
      loop.window.toList.map InFlight.attempts := by
  rcases onward_cases loop.remaining with ⟨-, hon⟩ | ⟨-, hon⟩ <;>
    simp [Loop.held, Loop.waiting, hon]

theorem held_push (window : Fifo InFlight) (submission : InFlight) (remaining : UInt64)
    (draining : Bool) (counts : Counts) :
    Loop.held ⟨.checkpoint, remaining, window.push submission, draining, counts⟩ =
      window.toList.map InFlight.attempts ++ [submission.attempts] := by
  simp [Loop.held, Loop.waiting]

/-- A submission is the first of its message, or follows one below the cap. -/
theorem Numbered.allows {loop : Loop} (numbered : Numbered options loop) {id : UInt64}
    {attempt : UInt32} (submits : loop.point.submits? = some (id, attempt)) :
    options.Allows attempt := by
  rcases Point.of_submits? submits with ⟨-, rfl⟩ | ⟨retry, here, -, rfl⟩
  · exact options.allows_one
  · exact Options.allows_succ (numbered.again retry here).2

/-- What the loop holds after a move it has held before, or it has just submitted it. -/
theorem Move.held (move : Move options handle state exchange events after) {attempt : UInt32}
    (hmem : attempt ∈ after.now.held) :
    attempt ∈ state.now.held ∨ ∃ id, state.now.point.submits? = some (id, attempt) := by
  cases move with
  | accept loop oldest answer here ok =>
    rw [held_onward] at hmem
    exact .inl (by simp [Loop.held, Loop.waiting, here, hmem])
  | drop loop oldest answer here refused below draining =>
    rw [held_onward] at hmem
    exact .inl (by simp [Loop.held, Loop.waiting, here, hmem])
  | refuse loop oldest answer here refused below going =>
    exact .inl (by simpa [Loop.held, Loop.waiting, here, or_comm] using hmem)
  | send loop id ticket here =>
    rw [held_push, List.mem_append, List.mem_singleton] at hmem
    rcases hmem with hbefore | rfl
    · exact .inl (by simpa [Loop.held, Loop.waiting, here] using hbefore)
    · exact .inr ⟨id, by rw [here]; rfl⟩
  | resend loop retry ticket here =>
    rw [held_push, List.mem_append, List.mem_singleton] at hmem
    rcases hmem with hbefore | rfl
    · exact .inl (List.mem_append_left _ (by simpa [Loop.waiting, here] using hbefore))
    · exact .inr ⟨retry.id, by rw [here]; rfl⟩
  | _ => simp_all [Loop.held, Loop.waiting]

/-- The numbers of the submissions that a loop holds are from one to the cap. -/
theorem allows_held (run : Run (request name options handle) (.enter (.start options)) turns state)
    {attempt : UInt32} (hmem : attempt ∈ state.now.held) : options.Allows attempt := by
  induction run with
  | start => simp [Loop.held, Loop.waiting, Paced.enter, Loop.start] at hmem
  | ask before asks reply ih =>
    obtain ⟨events, move⟩ := Move.of_request asks reply
    rcases move.held hmem with hbefore | ⟨id, submits⟩
    · exact ih hbefore
    · exact (Numbered.of_run before).allows submits

/-! ### The messages left -/

/-- The messages left are counted down, and not below zero. -/
structure CountsDown (options : Options) (past : History) (loop : Loop) : Prop where
  /-- Those that are not left have been submitted, unless the loop has forgotten what was left. -/
  counted : loop.draining = false →
    loop.remaining.toNat + past.firsts = options.messages.toNat
  /-- It has nothing left then. -/
  forgotten : loop.draining = true → loop.remaining = 0
  /-- One is left whenever one is about to be submitted. -/
  left : ∀ id, loop.point = .sending id → (loop.remaining - 1).toNat + 1 = loop.remaining.toNat

theorem Move.counted (fits : Fits options state.now) (numbered : Numbered options state.now)
    (counted : state.now.draining = false →
      state.now.remaining.toNat + past.firsts = options.messages.toNat)
    (move : Move options handle state exchange events after)
    (going : after.now.draining = false) :
    after.now.remaining.toNat + (past ++ events).firsts = options.messages.toNat := by
  rw [History.firsts_append]
  cases move with
  | send loop id ticket here =>
    have hfewer : (loop.remaining - 1).toNat + 1 = loop.remaining.toNat :=
      toNat_sub_one (fits.left (by simp [here]))
    have hbefore : loop.remaining.toNat + past.firsts = options.messages.toNat := counted going
    show (loop.remaining - 1).toNat + (past.firsts + 1) = options.messages.toNat
    omega
  | resend loop retry ticket here =>
    have hnumber : retry.attempts ≠ 0 := (numbered.again retry here).1
    simpa [History.firsts, hnumber] using counted going
  | drain loop here going' policy => cases going
  | _ => exact counted going

theorem CountsDown.of_run
    (run : Run (request name options handle) (.enter (.start options)) turns state) :
    CountsDown options (history options turns) state.now where
  counted := by
    induction run with
    | start => exact fun _ => rfl
    | ask before asks reply ih =>
      obtain ⟨events, move⟩ := Move.of_request asks reply
      rw [history_append, history_singleton, move.events_eq]
      exact move.counted (Fits.of_run before) (Numbered.of_run before) ih
  forgotten := (Fits.of_run run).drained
  left id here := toNat_sub_one ((Fits.of_run run).left (by simp [here]))

/-! ### The budget -/

namespace Loop

theorem budget_of_live {loop : Loop} (live : loop.point.isLive = true) :
    loop.budget options =
      loop.remaining.toNat * max 1 options.maxAttempts.toNat + (loop.held.map options.spare).sum :=
  if_pos live

theorem budget_push (options : Options) (window : Fifo InFlight) (submission : InFlight)
    (remaining : UInt64) (draining : Bool) (counts : Counts) :
    budget options ⟨.checkpoint, remaining, window.push submission, draining, counts⟩ =
      remaining.toNat * max 1 options.maxAttempts.toNat +
        ((window.toList.map InFlight.attempts).map options.spare).sum +
          options.spare submission.attempts := by
  rw [budget_of_live rfl, held_push, List.map_append, List.sum_append, Nat.add_assoc]
  rfl

/-- A message that is done with needs no more attempts. -/
theorem budget_onward (loop : Loop) {oldest : InFlight} (here : loop.point = .collecting oldest)
    (counts : Counts) :
    budget options { loop with counts := counts, point := onward loop.remaining } ≤
      loop.budget options := by
  have hlive : (onward loop.remaining).isLive = true := by
    rcases onward_cases loop.remaining with ⟨-, hon⟩ | ⟨-, hon⟩ <;> rw [hon] <;> rfl
  rw [budget_of_live hlive, budget_of_live (by rw [here]; rfl), held_onward]
  simp [held, waiting, here]

/-- What the loop is about to submit is still to be paid for. -/
theorem budget_pos {loop : Loop} (fits : Fits options loop) (numbered : Numbered options loop)
    {submission : UInt64 × UInt32} (submits : loop.point.submits? = some submission) :
    0 < loop.budget options := by
  rw [budget_of_live (Point.live_of_submits? submits).1]
  rcases Point.of_submits? submits with ⟨here, -⟩ | ⟨retry, here, -⟩
  · have hfewer := toNat_sub_one (fits.left (by simp [here]))
    have hleft : 0 < loop.remaining.toNat := by omega
    exact Nat.add_pos_left (Nat.mul_pos hleft (Nat.le_max_left _ _)) _
  · have hbelow := UInt32.lt_iff_toNat_lt.1 (numbered.again retry here).2
    have hspare : 0 < options.spare retry.attempts := Nat.sub_pos_of_lt hbelow
    refine Nat.add_pos_right _ (Nat.lt_of_lt_of_le hspare ?_)
    simp [held, here]

end Loop

/-- Every move pays for what it hands to the broker. -/
theorem Move.pays (fits : Fits options state.now) (numbered : Numbered options state.now)
    (move : Move options handle state exchange events after) :
    (exchange.does .write).toNat + after.now.budget options ≤ state.now.budget options := by
  cases move with
  | send loop id ticket here =>
    have hfewer : (loop.remaining - 1).toNat + 1 = loop.remaining.toNat :=
      toNat_sub_one (fits.left (by simp [here]))
    have hfirst := options.spare_one
    rw [Loop.budget_push, Loop.budget_of_live (by rw [here]; rfl), ← hfewer, Nat.succ_mul]
    simp only [Exchange.does, Bool.toNat_true, Loop.held, Loop.waiting, here, Point.inHand,
      Point.repeats, List.nil_append, List.append_nil]
    omega
  | resend loop retry ticket here =>
    have hspare := Options.spare_succ (numbered.again retry here).2
    rw [Loop.budget_push, Loop.budget_of_live (by rw [here]; rfl)]
    simp only [Exchange.does, Bool.toNat_true, Loop.held, Loop.waiting, here, Point.inHand,
      Point.repeats, List.nil_append, List.map_append, List.map_singleton, List.sum_append,
      List.sum_singleton]
    omega
  | fail loop id attempt here => exact loop.budget_pos fits numbered here
  | crash loop id attempt fault here => exact loop.budget_pos fits numbered here
  | accept loop oldest answer here ok =>
    simpa [Exchange.does] using loop.budget_onward here _
  | drop loop oldest answer here refused below draining =>
    simpa [Exchange.does] using loop.budget_onward here _
  | refuse loop oldest answer here refused below going =>
    simp [Exchange.does, Loop.budget, Loop.held, Loop.waiting, here, Nat.add_comm]
  | take loop oldest rest here pops must =>
    simp [Exchange.does, Loop.budget, Loop.held, Loop.waiting, here, pops]
  | drain loop here going policy =>
    simp [Exchange.does, Loop.budget, Loop.held, Loop.waiting, here]
  | emit emission rest loop => simp [Exchange.does]
  | _ => simp_all [Exchange.does, Loop.budget, Loop.held, Loop.waiting]

theorem submissions_le
    (run : Run (request name options handle) (.enter (.start options)) turns state) :
    submissions turns ≤ options.messages.toNat * max 1 options.maxAttempts.toNat := by
  have hspent := (run.spends
    (P := fun state => Fits options state.now ∧ Numbered options state.now) (Q := fun _ => True)
    (Exchange.does .write) (fun state => state.now.budget options)
    ⟨.start options, .start options⟩ (fun _ _ => trivial) fun reply inv asks _ => by
      obtain ⟨events, move⟩ := Move.of_request asks reply
      exact ⟨⟨inv.1.move move, inv.2.move move⟩, move.pays inv.1 inv.2⟩).2
  have hbegin : (Loop.start options).budget options =
      options.messages.toNat * max 1 options.maxAttempts.toNat := by
    simp [Loop.budget, Loop.held, Loop.waiting, Loop.start]
  rw [Paced.enter, hbegin] at hspent
  exact Nat.le_of_add_right_le hspent

theorem keepsWithin
    (run : Run (request name options handle) (.enter (.start options)) turns state) :
    KeepsWithin options turns state.now.attempts state.now.point.repeats where
  submitted := submissions_le run
  allowed attempt hmem := by
    rcases List.mem_append.1 hmem with hheld | hdue
    · exact allows_held run hheld
    · obtain ⟨⟨id, attempt⟩, hsubmits, rfl⟩ := List.mem_map.1 hdue
      exact (Numbered.of_run run).allows (Option.mem_toList.1 hsubmits)
  next attempt hmem := by
    cases here : state.now.point with
    | resending retry =>
      rw [here, Point.repeats, List.mem_singleton] at hmem
      obtain ⟨-, hbelow⟩ := (Numbered.of_run run).again retry here
      rw [hmem]
      exact ⟨Options.allows_succ hbelow, toNat_succ_of_lt hbelow⟩
    | _ => simp [here] at hmem

end Pipelined

/-! ## Blocking producers -/

namespace Blocking

/-- The number of the refused write that is to be repeated. -/
@[simp] def Point.repeats : Point → List UInt32
  | .afterRefusal _ attempt => [attempt]
  | _ => []

/-- The numbers of attempts that the loop keeps or is about to use. -/
@[simp] def Point.attempts : Point → List UInt32
  | .writing _ attempt => [attempt]
  | .afterRefusal _ attempt => [attempt]
  | _ => []

/-- How many more times the message that the loop has turned to may be written. -/
@[simp] def Point.tries (options : Options) : Point → Nat
  | .writing _ attempt => options.spare attempt + 1
  | .afterRefusal _ attempt => options.spare attempt
  | _ => 0

/-- How many more times the loop may hand a message to the broker. -/
def Loop.budget (options : Options) (loop : Loop) : Nat :=
  if loop.point.isLive then
    (options.messages.toNat - loop.sent.toNat - loop.point.begun) *
      max 1 options.maxAttempts.toNat + loop.point.tries options
  else 0

variable {name : String} {options : Options} {handle : Handle} {past : History}
  {state after : Paced Loop} {exchange : Exchange} {events : History} {turns : List (Turn Loop)}

/-! ### The numbers of attempts -/

/-- The numbers of attempts stay from one to the cap. -/
theorem Move.allows (numbered : Numbered options state.now)
    (allowed : ∀ attempt ∈ state.now.point.attempts, options.Allows attempt)
    (move : Move options handle state exchange events after) :
    ∀ attempt ∈ after.now.point.attempts, options.Allows attempt := by
  cases move with
  | emit emission rest loop => exact allowed
  | mint loop id here => simpa using options.allows_one
  | refuse loop id attempt answer here refused below => simpa [here] using allowed
  | again loop id attempt here =>
    simpa using Options.allows_succ (numbered.again id attempt here).2
  | _ => simp

theorem allows_of_run (run : Run (request name options handle) (.enter {}) turns state) :
    ∀ attempt ∈ state.now.point.attempts, options.Allows attempt := by
  induction run with
  | start => simp [Paced.enter]
  | ask before asks reply ih =>
    obtain ⟨events, move⟩ := Move.of_request asks reply
    exact move.allows (.of_run before) ih

/-! ### The messages done with -/

/-- The messages done with are counted up, and not past those that there are. -/
structure CountsUp (options : Options) (past : History) (loop : Loop) : Prop where
  /-- They are those accepted, but for the one that the loop is just done with. -/
  counted : loop.point.isLive = true → past.completed.length = loop.sent.toNat + loop.point.done
  enough : loop.sent.toNat ≤ options.messages.toNat
  /-- One more is one more. -/
  next : loop.point = .afterAcceptance → (loop.sent + 1).toNat = loop.sent.toNat + 1

theorem CountsUp.of_run (run : Run (request name options handle) (.enter {}) turns state) :
    CountsUp options (history turns) state.now where
  counted := (Balances.of_run run).accepted
  enough := (Balances.of_run run).enough
  next here := (Balances.of_run run).toNat_sent_succ (by simp [here])

/-! ### The budget -/

/-- Every move pays for what it hands to the broker. -/
theorem Move.pays (balances : Balances options past state.now)
    (numbered : Numbered options state.now)
    (move : Move options handle state exchange events after) :
    (exchange.does .write).toNat + after.now.budget options ≤ state.now.budget options := by
  cases move with
  | emit emission rest loop => simp [Exchange.does]
  | mint loop id here =>
    have hmore : loop.sent.toNat < options.messages.toNat := balances.left (by simp [here])
    have hfirst := options.spare_one
    have hone : (options.messages.toNat - loop.sent.toNat) * max 1 options.maxAttempts.toNat =
        (options.messages.toNat - loop.sent.toNat - 1) * max 1 options.maxAttempts.toNat +
          max 1 options.maxAttempts.toNat := by
      rw [← Nat.succ_mul, Nat.succ_eq_add_one, Nat.sub_add_cancel (Nat.sub_pos_of_lt hmore)]
    simp only [Exchange.does, Loop.budget, here, Point.isLive, Point.begun, Point.tries, if_true,
      Bool.toNat_false, Nat.sub_zero, hone]
    omega
  | again loop id attempt here =>
    have hspare := Options.spare_succ (numbered.again id attempt here).2
    simp only [Exchange.does, Loop.budget, here, Point.isLive, Point.begun, Point.tries, if_true,
      Bool.toNat_false]
    omega
  | goOn loop here =>
    have hnext : (loop.sent + 1).toNat = loop.sent.toNat + 1 :=
      balances.toNat_sent_succ (by simp [here])
    simp [Exchange.does, Loop.budget, here, hnext, Nat.sub_sub]
  | _ =>
    simp only [Exchange.does, Loop.budget, *, Point.isLive, Point.begun, Point.tries, if_true,
      Bool.false_eq_true, if_false, Bool.toNat_true, Bool.toNat_false]
    omega

theorem submissions_le (run : Run (request name options handle) (.enter {}) turns state) :
    submissions turns ≤ options.messages.toNat * max 1 options.maxAttempts.toNat := by
  have hspent := (run.spends
    (P := fun state => (∃ past, Balances options past state.now) ∧ Numbered options state.now)
    (Q := fun _ => True) (Exchange.does .write) (fun state => state.now.budget options)
    ⟨⟨[], .start options⟩, .start options⟩ (fun _ _ => trivial) fun reply inv asks _ => by
      obtain ⟨⟨past, balances⟩, numbered⟩ := inv
      obtain ⟨events, move⟩ := Move.of_request asks reply
      exact ⟨⟨⟨_, balances.move move⟩, numbered.move move⟩, move.pays balances numbered⟩).2
  have hbegin : Loop.budget options {} =
      options.messages.toNat * max 1 options.maxAttempts.toNat := by
    simp [Loop.budget]
  rw [Paced.enter, hbegin] at hspent
  exact Nat.le_of_add_right_le hspent

theorem keepsWithin (run : Run (request name options handle) (.enter {}) turns state) :
    KeepsWithin options turns state.now.point.attempts state.now.point.repeats where
  submitted := submissions_le run
  allowed := allows_of_run run
  next attempt hmem := by
    cases here : state.now.point with
    | afterRefusal id refused =>
      rw [here, Point.repeats, List.mem_singleton] at hmem
      obtain ⟨-, hbelow⟩ := (Numbered.of_run run).again id refused here
      rw [hmem]
      exact ⟨Options.allows_succ hbelow, toNat_succ_of_lt hbelow⟩
    | _ => simp [here] at hmem

end Blocking
end Producer
end BrokerLoad
