import BrokerLoad.Proofs.Docket.Answers
import BrokerLoad.Proofs.Producer.PipelinedMoves

/-!
# A pipelined producer with a docket

What a pipelined producer does with a docket is known from one decision to the next, however long
it has to wait for receipts: the waits leave no trace (`Goes`).  The lemmas here are the stretches
that its way is made of.  It submits and is at the head of its next turn (`goes_submitted`); it
takes the oldest submission off its window and has its receipt to collect (`goes_collecting`); it
deals with the receipt (`goes_settled`); it turns to a new message (`goes_sending`), or, when there
is none and nothing is in flight, is over (`goes_completed`).
-/

namespace BrokerLoad
namespace Producer
namespace Pipelined

/-- A loop that is left to itself with a docket: where it gets to, and what becomes of what is
shared, whatever the delays of receipts. -/
def Goes (name : String) (options : Options) (handle : Handle) (state : Paced Loop)
    (shared : Shared Docket) (after : Paced Loop) (sharing : Shared Docket) : Prop :=
  ∀ delay, ∃ delay',
    Gets (request name options handle) state (shared.delayed delay) after (sharing.delayed delay')

section Goes

variable {name : String} {options : Options} {handle : Handle} {state next after : Paced Loop}
  {shared meanwhile sharing : Shared Docket}

namespace Goes

theorem refl (state : Paced Loop) (shared : Shared Docket) :
    Goes name options handle state shared state shared :=
  fun delay => ⟨delay, .refl _ _⟩

theorem trans (first : Goes name options handle state shared next meanwhile)
    (rest : Goes name options handle next meanwhile after sharing) :
    Goes name options handle state shared after sharing := by
  intro delay
  obtain ⟨delay', hfirst⟩ := first delay
  obtain ⟨delay'', hrest⟩ := rest delay'
  exact ⟨delay'', hfirst.trans hrest⟩

theorem emits (emissions : List Emission) (loop : Loop) (shared : Shared Docket) :
    Goes name options handle ⟨emissions, loop⟩ shared ⟨[], loop⟩ (shared.absorbAll emissions) := by
  intro delay
  refine ⟨delay, ?_⟩
  rw [← Shared.absorbAll_delayed]
  exact .emits emissions loop _

end Goes
end Goes

variable (name : String) (options : Options) (handle : Handle) (loop : Loop)
  (shared : Shared Docket)

/-! ## Submitting -/

/-- How many new messages are left when the one at hand has been submitted. -/
def Loop.rest (loop : Loop) : UInt64 :=
  match loop.point with
  | .sending _ => loop.remaining - 1
  | _ => loop.remaining

/-- How many repeats there have been when the message at hand has been submitted. -/
def Loop.repeats (loop : Loop) : UInt64 :=
  match loop.point with
  | .resending _ => loop.counts.retried + 1
  | _ => loop.counts.retried

/-- The loop at the head of the turn after a submission. -/
structure IsSubmitted (submission : InFlight) (before after : Loop) : Prop where
  here : after.point = .head
  window : after.window.toList = before.window.toList ++ [submission]
  going : after.draining = false
  remaining : after.remaining = before.rest
  counts : after.counts =
    { count before.counts after.window.toList.length with retried := before.repeats }

/-- The end of a turn, when nobody asks to stop. -/
theorem goes_head (here : loop.point = .checkpoint) (going : loop.draining = false) :
    Goes name options handle ⟨[], loop⟩ shared ⟨[], { loop with point := .head }⟩ shared := by
  obtain ⟨point, remaining, window, draining, counts⟩ := loop
  dsimp only at here going
  subst here going
  intro delay
  have hlook : Gets (request name options handle)
      ⟨[], ⟨.checkpoint, remaining, window, false, counts⟩⟩ (shared.delayed delay) _ _ :=
    Gets.ask _ _ rfl false rfl
  exact ⟨delay, hlook⟩

/-- What a docket answers to a submission. -/
theorem reply_of_upcoming {handle : Handle} {shared : Shared Docket}
    {upcoming : Except Fault Receipt} (hupcoming : shared.client.upcoming = upcoming)
    (data : Bytes) (delay : Ticket → Nat) :
    (upcoming.map fun _ => some shared.client.sent.length : Except Fault (Option Ticket)) =
      ((shared.delayed delay).answer false (.broker (.submit handle data))).reply := by
  subst hupcoming
  rfl

/-- A submission that is taken on is in the window when the next turn begins. -/
theorem goes_submitted {id : UInt64} {attempt : UInt32} {answer : Receipt}
    (submits : loop.point.submits? = some (id, attempt)) (going : loop.draining = false)
    (upcoming : shared.client.upcoming = .ok answer) :
    ∃ next : Loop, IsSubmitted ⟨id, attempt, shared.client.sent.length⟩ loop next ∧
      Goes name options handle ⟨[], loop⟩ shared ⟨[], next⟩
        ((shared.serving (.write handle (options.message id attempt))).absorbAll
          (announce (options.message id attempt))) := by
  obtain ⟨point, remaining, window, draining, counts⟩ := loop
  dsimp only at submits going
  subst going
  let submission : InFlight := ⟨id, attempt, shared.client.sent.length⟩
  have hsubmitted : ∃ waiting : Loop, waiting.point = .checkpoint ∧
      IsSubmitted submission ⟨point, remaining, window, false, counts⟩
        { waiting with point := .head } ∧
      Goes name options handle ⟨[], ⟨point, remaining, window, false, counts⟩⟩ shared
        ⟨announce (options.message id attempt), waiting⟩
        (shared.serving (.write handle (options.message id attempt))) := by
    rcases Point.of_submits? submits with ⟨rfl, rfl⟩ | ⟨retry, rfl, rfl, rfl⟩
    · refine ⟨(Loop.sent ⟨.sending id, remaining, window, false, counts⟩ submission).goto
        .checkpoint, rfl, ⟨rfl, Fifo.toList_push _ _, rfl, rfl, ?_⟩, fun delay => ⟨delay, ?_⟩⟩
      · simp [Loop.sent, Loop.enqueue, Loop.goto, Loop.repeats, count, Fifo.size_eq_length]
      · have hsubmit : Gets (request name options handle)
            ⟨[], ⟨.sending id, remaining, window, false, counts⟩⟩ (shared.delayed delay) _ _ :=
          Gets.ask _ _ rfl _ (reply_of_upcoming upcoming _ delay)
        exact hsubmit
    · refine ⟨(Loop.resent ⟨.resending retry, remaining, window, false, counts⟩ submission).goto
        .checkpoint, rfl, ⟨rfl, Fifo.toList_push _ _, rfl, rfl, ?_⟩, fun delay => ⟨delay, ?_⟩⟩
      · simp [Loop.resent, Loop.enqueue, Loop.goto, Loop.repeats, count, Fifo.size_eq_length]
      · have hsubmit : Gets (request name options handle)
            ⟨[], ⟨.resending retry, remaining, window, false, counts⟩⟩ (shared.delayed delay)
            _ _ := Gets.ask _ _ rfl _ (reply_of_upcoming upcoming _ delay)
        exact hsubmit
  obtain ⟨waiting, hhere, submitted, hgoes⟩ := hsubmitted
  have hhead := goes_head name options handle waiting
    ((shared.serving (.write handle (options.message id attempt))).absorbAll
      (announce (options.message id attempt))) hhere submitted.going
  exact ⟨_, submitted, (hgoes.trans (.emits _ _ _)).trans hhead⟩

/-- A submission that ends in a fault ends the loop. -/
theorem goes_crashed {id : UInt64} {attempt : UInt32} {fault : Fault}
    (submits : loop.point.submits? = some (id, attempt))
    (upcoming : shared.client.upcoming = .error fault) :
    Goes name options handle ⟨[], loop⟩ shared
      ⟨[], { loop with point := .halted (.error fault) }⟩
      (shared.serving (.write handle (options.message id attempt))) := by
  obtain ⟨point, remaining, window, draining, counts⟩ := loop
  dsimp only at submits
  rcases Point.of_submits? submits with ⟨rfl, rfl⟩ | ⟨retry, rfl, rfl, rfl⟩
  · intro delay
    have hsubmit : Gets (request name options handle)
        ⟨[], ⟨.sending id, remaining, window, draining, counts⟩⟩ (shared.delayed delay) _ _ :=
      Gets.ask _ _ rfl _ (reply_of_upcoming upcoming _ delay)
    exact ⟨delay, hsubmit⟩
  · intro delay
    have hsubmit : Gets (request name options handle)
        ⟨[], ⟨.resending retry, remaining, window, draining, counts⟩⟩ (shared.delayed delay) _ _ :=
      Gets.ask _ _ rfl _ (reply_of_upcoming upcoming _ delay)
    exact ⟨delay, hsubmit⟩

/-! ## Receipts -/

/-- A receipt that is waited for comes. -/
theorem goes_ready {oldest : InFlight} (here : loop.point = .awaiting oldest)
    (going : loop.draining = false) :
    Goes name options handle ⟨[], loop⟩ shared
      ⟨[], { loop with point := .collecting oldest }⟩ shared := by
  obtain ⟨point, remaining, window, draining, counts⟩ := loop
  dsimp only at here going
  subst here going
  intro delay
  -- by induction on how often it is still asked for in vain
  generalize hwait : delay oldest.ticket = wait
  induction wait generalizing delay with
  | zero =>
    have hready : Gets (request name options handle)
        ⟨[], ⟨.awaiting oldest, remaining, window, false, counts⟩⟩ (shared.delayed delay) _ _ :=
      Gets.ask _ _ rfl true (decide_eq_true hwait).symm
    exact ⟨_, hready⟩
  | succ wait ih =>
    obtain ⟨delay', hrest⟩ := ih
      (fun other => if other = oldest.ticket then delay other - 1 else delay other)
      (by simp [hwait])
    have hvain : false = decide (delay oldest.ticket = 0) := by simp [hwait]
    refine ⟨delay', Gets.trans ?_ hrest⟩
    cases hpolicy : options.stopPolicy with
    | drain =>
      have hlinger : Gets (request name options handle)
          ⟨[], ⟨.awaiting oldest, remaining, window, false, counts⟩⟩ (shared.delayed delay) _ _ :=
        Gets.ask _ _ rfl false hvain
      simp only [Bool.false_eq_true, if_false, hpolicy, or_true, if_true] at hlinger
      exact hlinger
    | abandon =>
      have hdoubt : Gets (request name options handle)
          ⟨[], ⟨.awaiting oldest, remaining, window, false, counts⟩⟩ (shared.delayed delay) _ _ :=
        Gets.ask _ _ rfl false hvain
      simp only [Bool.false_eq_true, if_false, hpolicy, reduceCtorEq, or_self] at hdoubt
      have hpersist : Gets (request name options handle)
          ⟨[], ⟨.impatient oldest, remaining, window, false, counts⟩⟩
          (shared.delayed fun other =>
            if other = oldest.ticket then delay other - 1 else delay other) _ _ :=
        Gets.ask _ _ rfl false rfl
      exact Gets.trans hdoubt hpersist

/-- The oldest submission is taken off a window that is full, or when nothing new is left. -/
theorem goes_collecting {oldest : InFlight} {rest : List InFlight} (here : loop.point = .head)
    (going : loop.draining = false) (window : loop.window.toList = oldest :: rest)
    (must : options.window ≤ loop.window.toList.length ∨ loop.remaining = 0) :
    ∃ younger : Fifo InFlight, younger.toList = rest ∧
      Goes name options handle ⟨[], loop⟩ shared
        ⟨[], { loop with window := younger, point := .collecting oldest }⟩ shared := by
  have hsize : loop.window.size = loop.window.toList.length := loop.window.size_eq_length
  cases hpop : loop.window.pop? with
  | none =>
    rw [Fifo.pop?_eq_none_iff.1 hpop] at window
    cases window
  | some popped =>
    obtain ⟨first, younger⟩ := popped
    have hlist := Fifo.toList_of_pop? hpop
    rw [window] at hlist
    obtain ⟨rfl, hrest⟩ := List.cons.inj hlist
    have hasks : (⟨[], loop⟩ : Paced Loop).request (request name options handle) =
        .ask .pause fun _ => .enter { loop with window := younger, point := .awaiting oldest } := by
      have hsome : ¬ (loop.window.size = 0 ∧ loop.remaining = 0) := by simp [hsize, window]
      rw [← hsize] at must
      rw [Paced.request_nil, request, here]
      dsimp only
      rw [if_neg hsome, if_pos must, hpop]
    have htaken : Goes name options handle ⟨[], loop⟩ shared
        ⟨[], { loop with window := younger, point := .awaiting oldest }⟩ shared :=
      fun delay => ⟨delay, Gets.ask _ _ hasks () rfl⟩
    have hready := goes_ready name options handle
      { loop with window := younger, point := .awaiting oldest } shared rfl going
    exact ⟨younger, hrest.symm, htaken.trans hready⟩

/-- A receipt is collected and dealt with. -/
theorem goes_settled {oldest : InFlight} {answer : Receipt} (here : loop.point = .collecting oldest)
    (answered : shared.client.receipt oldest.ticket = .ok answer) :
    Goes name options handle ⟨[], loop⟩ shared
      ⟨[], (loop.settle name options oldest answer).now⟩
      (shared.absorbAll (loop.settle name options oldest answer).pending) := by
  obtain ⟨point, remaining, window, draining, counts⟩ := loop
  dsimp only at here
  subst here
  have htake : Goes name options handle
      ⟨[], ⟨.collecting oldest, remaining, window, draining, counts⟩⟩ shared
      (Loop.settle name options ⟨.collecting oldest, remaining, window, draining, counts⟩ oldest
        answer) shared := fun delay => by
    have hget : Gets (request name options handle)
        ⟨[], ⟨.collecting oldest, remaining, window, draining, counts⟩⟩
        (shared.delayed delay) _ _ :=
      Gets.ask _ _ rfl (Except.ok answer : Except Fault Receipt) answered.symm
    exact ⟨delay, hget⟩
  exact htake.trans (Goes.emits _ _ shared)

/-! ## New messages -/

/-- Whether the loop may turn to a new message: a turn begins, or goes on with nothing to repeat. -/
def Loop.IsFree (loop : Loop) : Prop := loop.point = .head ∨ loop.point = onward loop.remaining

/-- With no message left a turn begins. -/
theorem goes_turn (free : loop.IsFree) (done : loop.remaining = 0)
    (going : loop.draining = false) :
    Goes name options handle ⟨[], loop⟩ shared ⟨[], { loop with point := .head }⟩ shared := by
  rcases free with here | here
  · rw [show ({ loop with point := .head } : Loop) = loop by rw [← here]]
    exact .refl _ _
  · rw [onward, if_pos done] at here
    exact goes_head name options handle loop shared here going

/-- With no message left and nothing in flight the loop is over. -/
theorem goes_completed (free : loop.IsFree) (done : loop.remaining = 0)
    (going : loop.draining = false) (empty : loop.window.toList = []) :
    Goes name options handle ⟨[], loop⟩ shared
      ⟨[], { loop with point := .halted (.ok .completed) }⟩ shared := by
  have hsize : loop.window.size = 0 := by rw [loop.window.size_eq_length, empty]; rfl
  refine (goes_turn name options handle loop shared free done going).trans fun delay => ?_
  have hasks : (⟨[], { loop with point := .head }⟩ : Paced Loop).request
      (request name options handle) =
      .ask .pause fun _ => .enter { loop with point := .halted (.ok .completed) } := by
    rw [Paced.request_nil]
    simp [request, hsize, done, going, Loop.halt, Loop.goto]
  exact ⟨delay, Gets.ask _ _ hasks () rfl⟩

/-- With a message left and room for it the loop takes an id and is about to submit it. -/
theorem goes_sending (free : loop.IsFree) (left : loop.remaining ≠ 0)
    (room : loop.window.toList.length < options.window) :
    Goes name options handle ⟨[], loop⟩ shared
      ⟨[], { loop with point := .sending (shared.answer false .mint).reply }⟩
      (shared.answer false .mint).client := by
  have hminting : Goes name options handle ⟨[], loop⟩ shared
      ⟨[], { loop with point := .minting }⟩ shared := by
    rcases free with here | here
    · have hasks : (⟨[], loop⟩ : Paced Loop).request (request name options handle) =
          .ask .pause fun _ => .enter { loop with point := .minting } := by
        rw [← loop.window.size_eq_length] at room
        rw [Paced.request_nil]
        simp [request, here, left, Nat.not_le.2 room, Loop.proceed, Loop.goto]
      exact fun delay => ⟨delay, Gets.ask _ _ hasks () rfl⟩
    · rw [onward, if_neg left] at here
      rw [show ({ loop with point := .minting } : Loop) = loop by rw [← here]]
      exact .refl _ _
  obtain ⟨point, remaining, window, draining, counts⟩ := loop
  refine hminting.trans fun delay => ?_
  have hmint : Gets (request name options handle)
      ⟨[], ⟨.minting, remaining, window, draining, counts⟩⟩ (shared.delayed delay) _ _ :=
    Gets.ask _ _ rfl _ rfl
  exact ⟨delay, hmint⟩

end Pipelined
end Producer
end BrokerLoad
