import BrokerLoad.Proofs.Attended
import BrokerLoad.Proofs.Producer.Tallies

/-!
# What a producer has left to do

Every move of a producer leaves less to do (`Move.nearer`), whatever the client says to it.

What is left to a pipelined producer is measured in three stages.  First there is the effort:
every message left costs what it costs to make all attempts at it, every submission in flight
what it costs to make the attempts that are still possible, and with one effort left the points
of a turn come in a fixed order.  A repeat takes its effort along into the window, and the order
of the points is what it makes less.  Only waiting for a receipt costs no effort, and then the
receipt is asked for once more.  How often it is asked for is for those to say who know the
client; that a wait makes it less is all that is needed.  Making something known changes nothing
else.

What is left to a blocking producer is the effort, and what is still to be made known.  A message
left costs two steps for each attempt at it, the write and the look at the stop request after it,
and some more to turn to it and to the next one.  A fault and a stop request only make it less: a
loop that is over has nothing left to do.  So a blocking producer that nobody disturbs comes to
its end (`exists_over`).
-/

namespace BrokerLoad
namespace Producer

/-! ## Pipelined producers -/

namespace Pipelined

namespace Point

/-- The order of the points that a loop goes through with one effort left. -/
@[simp] def rank : Point → Nat
  | .resending _ => 6
  | .checkpoint => 5
  | .head => 4
  | .awaiting _ => 3
  | .impatient _ => 3
  | .minting => 3
  | .sending _ => 2
  | .collecting _ => 2
  | .refused _ => 1
  | _ => 0

/-- How often the receipt that the loop waits for is still asked for, and the stop request looked
at. -/
@[simp] def looks (delay : Ticket → Nat) : Point → Nat
  | .awaiting oldest => 2 * delay oldest.ticket
  | .impatient oldest => 2 * delay oldest.ticket + 1
  | _ => 0

theorem looks_le {delay later : Ticket → Nat} (sooner : ∀ ticket, later ticket ≤ delay ticket)
    (point : Point) : point.looks later ≤ point.looks delay := by
  cases point with
  | awaiting oldest => exact Nat.mul_le_mul_left 2 (sooner oldest.ticket)
  | impatient oldest => exact Nat.succ_le_succ (Nat.mul_le_mul_left 2 (sooner oldest.ticket))
  | _ => exact Nat.le_refl 0

end Point

namespace Loop

/-- Another point at which the message in hand is as far. -/
theorem effort_point {cap : Nat} (loop : Loop) (point : Point)
    (same : point.effort cap = loop.point.effort cap) :
    effort cap { loop with point := point } = loop.effort cap := by
  rw [effort, effort, same]

/-- What is left to do, if each receipt is still asked for so often. -/
def left (options : Options) (delay : Ticket → Nat) (state : Paced Loop) : Nat × Nat × Nat :=
  (state.now.effort options.maxAttempts.toNat * 8 + state.now.point.rank,
    state.now.point.looks delay, state.pending.length)

/-- A message that is done with leaves less to do. -/
theorem nearer_onward (options : Options) {loop : Loop} {oldest : InFlight}
    (here : loop.point = .collecting oldest) (counts : Counts) (pending : List Emission)
    (delay later : Ticket → Nat) :
    WellFoundedRelation.rel
      (left options later
        ⟨pending, { loop with counts := counts, point := onward loop.remaining }⟩)
      (left options delay ⟨[], loop⟩) := by
  refine nearer_first ?_
  rcases onward_cases loop.remaining with ⟨-, hon⟩ | ⟨-, hon⟩ <;>
    simp only [effort, here, hon, Point.effort, Point.rank, InFlight.effort] <;> omega

end Loop

variable {options : Options} {handle : Handle} {state after : Paced Loop} {exchange : Exchange}
  {events : History}

/-- How often each receipt is still asked for before an exchange and after it. -/
structure Shortens (exchange : Exchange) (delay later : Ticket → Nat) : Prop where
  /-- What was asked for in vain is asked for less often from then on. -/
  looked : ∀ ticket, exchange = ⟨.broker (.receiptReady ticket), false⟩ →
    later ticket < delay ticket
  /-- What is no call makes no wait longer. -/
  alone : (∀ call, exchange.1 ≠ .broker call) → ∀ ticket, later ticket ≤ delay ticket

/-- Every move leaves less to do. -/
theorem Move.nearer {delay later : Ticket → Nat} (fits : Fits options state.now)
    (numbers : Numbered options state.now) (shortens : Shortens exchange delay later)
    (move : Move options handle state exchange events after) :
    WellFoundedRelation.rel (Loop.left options later after) (Loop.left options delay state) := by
  cases move with
  | emit emission rest loop =>
    have hlooks := loop.point.looks_le (shortens.alone nofun)
    rcases Nat.lt_or_eq_of_le hlooks with hless | hsame
    · exact nearer_second hless
    · rw [Loop.left, Loop.left, hsame]
      exact nearer_third (Nat.lt_succ_self _)
  | linger loop oldest here patient =>
    have hless := shortens.looked oldest.ticket rfl
    refine nearer_second ?_
    simp only [here, Point.looks]
    omega
  | doubt loop oldest here going policy =>
    have hless := shortens.looked oldest.ticket rfl
    rw [Loop.left, Loop.left, loop.effort_point (.impatient oldest) (by rw [here]; rfl), here]
    refine nearer_second ?_
    simp only [Point.looks]
    omega
  | persist loop oldest here =>
    have hsooner := shortens.alone nofun oldest.ticket
    rw [Loop.left, Loop.left, loop.effort_point (.awaiting oldest) (by rw [here]; rfl), here]
    refine nearer_second ?_
    simp only [Point.looks]
    omega
  | accept loop oldest answer here ok =>
    exact Loop.nearer_onward options here _ _ _ _
  | drop loop oldest answer here refused below draining =>
    exact Loop.nearer_onward options here _ _ _ _
  | send loop id ticket here =>
    have hfewer : (loop.remaining - 1).toNat + 1 = loop.remaining.toNat :=
      toNat_sub_one (fits.left (by simp [here]))
    refine nearer_first ?_
    simp only [Loop.effort_push]
    simp only [Loop.effort, here, Point.effort, Point.rank, InFlight.effort, ← hfewer,
      Nat.succ_mul, UInt32.toNat_one]
    omega
  | resend loop retry ticket here =>
    have hbelow := (numbers.again retry here).2
    have hnext := toNat_succ_of_lt hbelow
    rw [UInt32.lt_iff_toNat_lt] at hbelow
    refine nearer_first ?_
    simp only [Loop.effort_push]
    simp only [Loop.effort, here, Point.effort, Point.rank, InFlight.effort, hnext]
    omega
  | take loop oldest rest here pops must =>
    refine nearer_first ?_
    simp only [Loop.effort, here, pops, Point.effort, Point.rank, List.map_cons, List.sum_cons]
    omega
  | fail loop id attempt here =>
    refine nearer_first ?_
    rcases Point.of_submits? here with ⟨hpoint, -⟩ | ⟨retry, hpoint, -⟩ <;>
      simp only [Loop.effort, hpoint, Point.effort, Point.rank] <;> omega
  | crash loop id attempt fault here =>
    refine nearer_first ?_
    rcases Point.of_submits? here with ⟨hpoint, -⟩ | ⟨retry, hpoint, -⟩ <;>
      simp only [Loop.effort, hpoint, Point.effort, Point.rank] <;> omega
  | drain loop here going policy =>
    refine nearer_first ?_
    simp only [Loop.effort, here, Point.effort, Point.rank, UInt64.toNat_zero, Nat.zero_mul]
    omega
  | starve loop here => exact absurd here fits.fed
  | _ =>
    refine nearer_first ?_
    simp only [Loop.effort, *, Point.effort, Point.rank, InFlight.effort]
    omega

end Pipelined

/-! ## Blocking producers -/

namespace Blocking

variable {β : Type} [Client β] {name : String} {options : Options} {handle : Handle}
  {past events : History} {state after : Paced Loop} {exchange : Exchange}
  {turns : List (Turn Loop)} {before shared : Shared β}

/-- Whether the loop may be here if no call has ended in a fault and nobody has asked it to
stop. -/
@[simp] def Point.isCalm : Point → Bool
  | .halted (.ok .completed) => true
  | .halted (.ok .attemptsExceeded) => true
  | .halted _ => false
  | _ => true

theorem Point.cases_of_isCalm {outcome : Outcome} (calm : (halted outcome).isCalm = true) :
    outcome = .ok .completed ∨ outcome = .ok .attemptsExceeded := by
  cases outcome with
  | error fault => cases calm
  | ok ending => cases ending <;> simp at calm ⊢

/-- What it takes until the message that the loop has turned to is done with. -/
@[simp] def Point.effort (cap : Nat) : Point → Nat
  | .head => 2 * cap + 6
  | .minting => 2 * cap + 5
  | .writing _ attempt => 2 * (cap - attempt.toNat) + 4
  | .afterRefusal _ attempt => 2 * (cap - attempt.toNat) + 3
  | .afterAcceptance => 1
  | .halted _ => 0

/-- What it takes until all messages are done with. -/
def Loop.effort (options : Options) (loop : Loop) : Nat :=
  (options.messages.toNat - loop.sent.toNat) * (2 * options.maxAttempts.toNat + 8) +
    loop.point.effort options.maxAttempts.toNat

/-- What is left to do. -/
def Loop.left (options : Options) (state : Paced Loop) : Nat × Nat × Nat :=
  (state.now.effort options, 0, state.pending.length)

/-- Every move leaves less to do. -/
theorem Move.nearer (balances : Balances options past state.now)
    (numbers : Numbered options state.now)
    (move : Move options handle state exchange events after) :
    WellFoundedRelation.rel (Loop.left options after) (Loop.left options state) := by
  cases move with
  | emit emission rest loop => exact nearer_third (Nat.lt_succ_self _)
  | goOn loop here =>
    have hmore : loop.sent.toNat < options.messages.toNat := balances.left (by simp [here])
    have hnext : (loop.sent + 1).toNat = loop.sent.toNat + 1 :=
      balances.toNat_sent_succ (by simp [here])
    have hfewer : options.messages.toNat - loop.sent.toNat =
        options.messages.toNat - (loop.sent.toNat + 1) + 1 := by omega
    refine nearer_first ?_
    simp only [Loop.effort, here, Point.effort, hnext, hfewer, Nat.succ_mul]
    omega
  | again loop id attempt here =>
    have hbelow := (numbers.again id attempt here).2
    have hnext := toNat_succ_of_lt hbelow
    rw [UInt32.lt_iff_toNat_lt] at hbelow
    refine nearer_first ?_
    simp only [Loop.effort, here, Point.effort, hnext]
    omega
  | refuse loop id attempt answer here refused below =>
    rw [UInt32.lt_iff_toNat_lt] at below
    refine nearer_first ?_
    simp only [Loop.effort, here, Point.effort]
    omega
  | mint loop id here =>
    refine nearer_first ?_
    simp only [Loop.effort, here, Point.effort, UInt32.toNat_one]
    omega
  | _ =>
    refine nearer_first ?_
    simp only [Loop.effort, *, Point.effort]
    omega

/-- A loop that is alone with a client comes to its end. -/
theorem exists_over (name : String) (options : Options) (handle : Handle) (before : Shared β) :
    ∃ turns state shared outcome,
      Attended (request name options handle) (.enter {}) before turns state shared ∧
      state.request (request name options handle) = .finish outcome :=
  Attended.exists_finish (fun state _ => Loop.left options state)
    (fun {turns state shared served query next reply}
        (attended : Attended (request name options handle) (.enter {}) before turns state shared)
        asks answers => by
      obtain ⟨events, move⟩ := Move.of_request asks reply
      exact move.nearer (.of_run attended.run) (.of_run attended.run))

/-- In every run the ids that the loop takes are new. -/
theorem tracks_of_attended
    (attended : Attended (request name options handle) (.enter {}) before turns state shared) :
    Tracks options.maxAttempts.toNat (history turns) state.now.point.stakes :=
  tracks_of_run attended.run
    (nodup_mintedIds attended.run attended.serves options.few_alone)

end Blocking
end Producer
end BrokerLoad
