import BrokerLoad.Proofs.Producer.PipelinedMoves
import Mathlib.Algebra.Order.Ring.Nat
import Mathlib.Data.List.Nodup

/-!
# The window of a pipelined producer

The window is a queue, and the loop puts submissions into it at one end and takes them off
at the other.  Between the taking of a submission and the next look at the window there
may be one more that is put in: a new message or the repetition of the one taken.  So what
is kept by every move is not that the window is small enough, but that it is small enough
even with the submission that may still come (`Fits`).

The receipts come in the order of the submissions.  A submission that was taken off the
window is in hand until its receipt is collected or lost, and with that one counted in,
the submissions made are those whose receipts were collected, then the one lost if there
is one, then the one in hand, then the window (`InOrder`).  One receipt at most is lost,
since a loop that loses one is over.

The peak is the largest size that the window ever had (`peak_isLargest`).  It is a word, and
exact because the window is never larger than a word can say.

What is left to a loop is measured by `Loop.effort`: the attempts that are still possible at the
messages in flight and at those that are yet to come.
-/

namespace BrokerLoad
namespace Producer
namespace Pipelined

/-- The message and the attempt that a submission in flight is. -/
def InFlight.submission (inFlight : InFlight) : UInt64 × UInt32 := (inFlight.id, inFlight.attempts)

namespace Point

/-- The submission that was taken off the window and whose receipt is still to come. -/
@[simp] def inHand : Point → List InFlight
  | .awaiting oldest => [oldest]
  | .impatient oldest => [oldest]
  | .collecting oldest => [oldest]
  | _ => []

/-- How many places in the window may be needed before it is looked at again. -/
@[simp] def reserved : Point → Nat
  | .awaiting _ => 1
  | .impatient _ => 1
  | .collecting _ => 1
  | .minting => 1
  | .sending _ => 1
  | .resending _ => 1
  | _ => 0

/-- Whether a new message is being sent. -/
@[simp] def isNew : Point → Bool
  | .minting => true
  | .sending _ => true
  | _ => false

/-- Whether the loop is still turning. -/
@[simp] def isLive : Point → Bool
  | .halted _ => false
  | .refused _ => false
  | .starved => false
  | _ => true

/-- A loop that is about to submit turns, and has nothing in hand. -/
theorem live_of_submits? {point : Point} {submission : UInt64 × UInt32}
    (submits : point.submits? = some submission) : point.isLive = true ∧ point.inHand = [] := by
  rcases of_submits? submits with ⟨rfl, -⟩ | ⟨retry, rfl, -⟩ <;> exact ⟨rfl, rfl⟩

end Point

theorem inHand_onward (remaining : UInt64) : (onward remaining).inHand = [] := by
  rcases onward_cases remaining with ⟨-, hon⟩ | ⟨-, hon⟩ <;> rw [hon] <;> rfl

variable {name : String} {options : Options} {handle : Handle} {past : History}
  {state after : Paced Loop} {exchange : Exchange} {events : History}

/-! ## Room -/

/-- The window has room for what may be put into it, and new messages are sent only while
there are some left. -/
structure Fits (options : Options) (loop : Loop) : Prop where
  /-- The loop never waits for the oldest of no submissions. -/
  fed : loop.point ≠ .starved
  /-- The window is not full while something may be put into it. -/
  room : loop.window.toList.length + loop.point.reserved ≤ options.window
  /-- Nothing new is left to send while the window is drained. -/
  drained : loop.draining = true → loop.remaining = 0
  /-- Something new is left to send while a new message is being sent. -/
  left : loop.point.isNew = true → loop.remaining ≠ 0

namespace Fits

theorem start (options : Options) : Fits options (.start options) where
  fed := by simp [Loop.start]
  room := by simp [Loop.start]
  drained := by simp [Loop.start]
  left := by simp [Loop.start]

theorem onward {loop : Loop} (fits : Fits options loop) (counts : Counts)
    (spare : loop.window.toList.length + 1 ≤ options.window) :
    Fits options { loop with counts := counts, point := onward loop.remaining } := by
  rcases onward_cases loop.remaining with ⟨hnone, hon⟩ | ⟨hleft, hon⟩
  · refine ⟨by simp [hon], ?_, fits.drained, by simp [hon]⟩
    simp only [hon, Point.reserved]
    omega
  · refine ⟨by simp [hon], ?_, fits.drained, fun _ => hleft⟩
    simp only [hon, Point.reserved]
    exact spare

/-- A loop that needs no more room than before, and does not begin to send a new message. -/
theorem keep {loop next : Loop} (fits : Fits options loop) (fed : next.point ≠ .starved)
    (room : next.window.toList.length + next.point.reserved ≤
      loop.window.toList.length + loop.point.reserved)
    (draining : next.draining = loop.draining) (remaining : next.remaining = loop.remaining)
    (left : next.point.isNew = true → loop.point.isNew = true) : Fits options next where
  fed := fed
  room := Nat.le_trans room fits.room
  drained := by rw [draining, remaining]; exact fits.drained
  left hnew := by rw [remaining]; exact fits.left (left hnew)

theorem move (fits : Fits options state.now)
    (move : Move options handle state exchange events after) : Fits options after.now := by
  cases move with
  | emit emission rest loop => exact fits
  | starve loop here => exact fits
  | linger loop oldest here patient => exact fits
  | take loop oldest rest here pops must =>
    have hlength := congrArg List.length pops
    rw [List.length_cons] at hlength
    exact fits.keep (by simp) (by simp [here, hlength]) rfl rfl nofun
  | renew loop here left room => exact ⟨by simp, room, fits.drained, fun _ => left⟩
  | accept loop oldest answer here ok =>
    exact fits.onward _ (by simpa [here] using fits.room)
  | drop loop oldest answer here refused below draining =>
    exact fits.onward _ (by simpa [here] using fits.room)
  | send loop id ticket here =>
    have hleft : loop.remaining ≠ 0 := fits.left (by simp [here])
    refine ⟨by simp, by simpa [here] using fits.room, fun draining => ?_, nofun⟩
    exact absurd (fits.drained draining) hleft
  | resend loop retry ticket here =>
    exact fits.keep (by simp) (by simp [here]) rfl rfl nofun
  | drain loop here going policy =>
    exact ⟨by simp, by simpa [here] using fits.room, fun _ => rfl, nofun⟩
  | mint loop id here => exact fits.keep (by simp) (by simp [here]) rfl rfl (by simp [here])
  | finish loop here empty none_left => exact fits.keep (by simp) (by simp [here]) rfl rfl nofun
  | ready loop oldest here => exact fits.keep (by simp) (by simp [here]) rfl rfl nofun
  | doubt loop oldest here going policy => exact fits.keep (by simp) (by simp [here]) rfl rfl nofun
  | persist loop oldest here => exact fits.keep (by simp) (by simp [here]) rfl rfl nofun
  | abandon loop oldest here => exact fits.keep (by simp) (by simp [here]) rfl rfl nofun
  | refuse loop oldest answer here refused below going =>
    exact fits.keep (by simp) (by simp [here]) rfl rfl nofun
  | giveUp loop oldest answer line here refused cap =>
    exact fits.keep (by simp) (by simp [here]) rfl rfl nofun
  | spoil loop oldest fault here => exact fits.keep (by simp) (by simp [here]) rfl rfl nofun
  | fail loop id attempt here => exact fits.keep (by simp) (by simp) rfl rfl nofun
  | crash loop id attempt fault here => exact fits.keep (by simp) (by simp) rfl rfl nofun
  | explain loop id reason line here => exact fits.keep (by simp) (by simp [here]) rfl rfl nofun
  | turn loop here draining => exact fits.keep (by simp) (by simp [here]) rfl rfl nofun
  | goOn loop here going => exact fits.keep (by simp) (by simp [here]) rfl rfl nofun
  | leave loop here going policy => exact fits.keep (by simp) (by simp [here]) rfl rfl nofun

theorem of_run {turns : List (Turn Loop)}
    (run : Run (request name options handle) (.enter (.start options)) turns state) :
    Fits options state.now :=
  history_induction (P := fun _ state => Fits options state.now) (.start options)
    (fun fits move => fits.move move) run

/-- With one more submission the window is still no larger than a word can say. -/
theorem size_push_lt {loop : Loop} (fits : Fits options loop) (submission : InFlight)
    (spare : loop.point.reserved = 1) : (loop.window.push submission).size < 2 ^ 64 := by
  have hroom := fits.room
  have hwindow : options.window < 2 ^ 64 := by
    have := options.maxInFlight.toNat_lt
    rw [Options.window]
    omega
  rw [Fifo.size_eq_length, Fifo.toList_push, List.length_append, List.length_singleton]
  omega

end Fits

/-! ## Order -/

/-- The receipts come in the order of the submissions. -/
structure InOrder (past : History) (loop : Loop) : Prop where
  /-- A loop that has lost a receipt does not turn any more. -/
  lossless : loop.point.isLive = true → past.lost = []
  /-- What was submitted is what was collected, what was lost, and what is waiting. -/
  order : past.sent = past.settled ++ past.lost ++
    (loop.point.inHand ++ loop.window.toList).map InFlight.submission

namespace InOrder

theorem start (options : Options) : InOrder [] (.start options) where
  lossless _ := rfl
  order := rfl

/-- A loop that turns collects and loses only the oldest submissions. -/
theorem turn {loop next : Loop} (inOrder : InOrder past loop) (live : loop.point.isLive = true)
    (lossless : next.point.isLive = true → events.lost = [])
    (order : (loop.point.inHand ++ loop.window.toList).map InFlight.submission ++ events.sent =
      events.settled ++ events.lost ++
        (next.point.inHand ++ next.window.toList).map InFlight.submission) :
    InOrder (past ++ events) next where
  lossless hlive := by
    rw [History.lost_append, inOrder.lossless live, lossless hlive, List.append_nil]
  order := by
    have hbefore := inOrder.order
    rw [inOrder.lossless live, List.append_nil] at hbefore
    rw [History.sent_append, hbefore, List.append_assoc, order, History.settled_append,
      History.lost_append, inOrder.lossless live, List.nil_append, List.append_assoc,
      List.append_assoc, List.append_assoc]

theorem move (inOrder : InOrder past state.now)
    (move : Move options handle state exchange events after) :
    InOrder (past ++ events) after.now := by
  have hsame : past ++ [] = past := List.append_nil past
  cases move with
  | emit emission rest loop => exact hsame.symm ▸ inOrder
  | starve loop here => exact hsame.symm ▸ inOrder
  | linger loop oldest here patient => exact hsame.symm ▸ inOrder
  | explain loop id reason line here =>
    have horder := inOrder.order
    rw [here] at horder
    rw [hsame]
    exact ⟨by simp, horder⟩
  | take loop oldest rest here pops must =>
    exact inOrder.turn (by simp [here]) (fun _ => rfl) (by simp [here, pops, History.settled])
  | accept loop oldest answer here ok =>
    refine inOrder.turn (by simp [here]) (fun _ => rfl) ?_
    dsimp only
    rw [inHand_onward, here]
    simp [InFlight.submission, History.settled]
  | drop loop oldest answer here refused below draining =>
    refine inOrder.turn (by simp [here]) (fun _ => rfl) ?_
    dsimp only
    rw [inHand_onward, here]
    simp [InFlight.submission, History.settled]
  | fail loop id attempt here =>
    obtain ⟨hlive, hnone⟩ := Point.live_of_submits? here
    refine inOrder.turn hlive (fun _ => rfl) ?_
    rw [hnone]
    simp [History.settled]
  | crash loop id attempt fault here =>
    obtain ⟨hlive, hnone⟩ := Point.live_of_submits? here
    refine inOrder.turn hlive (fun _ => rfl) ?_
    rw [hnone]
    simp [History.settled]
  | abandon loop oldest here =>
    exact inOrder.turn (by simp [here]) (by simp)
      (by simp [here, InFlight.submission, History.settled])
  | spoil loop oldest fault here =>
    exact inOrder.turn (by simp [here]) (by simp)
      (by simp [here, InFlight.submission, History.settled])
  | finish loop here empty none_left =>
    exact inOrder.turn (by simp [here]) (fun _ => rfl) (by simp [here, History.settled])
  | renew loop here left room =>
    exact inOrder.turn (by simp [here]) (fun _ => rfl) (by simp [here, History.settled])
  | ready loop oldest here =>
    exact inOrder.turn (by simp [here]) (fun _ => rfl) (by simp [here, History.settled])
  | doubt loop oldest here going policy =>
    exact inOrder.turn (by simp [here]) (fun _ => rfl) (by simp [here, History.settled])
  | persist loop oldest here =>
    exact inOrder.turn (by simp [here]) (fun _ => rfl) (by simp [here, History.settled])
  | refuse loop oldest answer here refused below going =>
    exact inOrder.turn (by simp [here]) (fun _ => rfl)
      (by simp [here, InFlight.submission, History.settled])
  | giveUp loop oldest answer line here refused cap =>
    exact inOrder.turn (by simp [here]) (fun _ => rfl)
      (by simp [here, InFlight.submission, History.settled])
  | mint loop id here =>
    exact inOrder.turn (by simp [here]) (fun _ => rfl) (by simp [here, History.settled])
  | send loop id ticket here =>
    exact inOrder.turn (by simp [here]) (fun _ => rfl)
      (by simp [here, InFlight.submission, History.settled])
  | resend loop retry ticket here =>
    exact inOrder.turn (by simp [here]) (fun _ => rfl)
      (by simp [here, InFlight.submission, History.settled])
  | turn loop here draining =>
    exact inOrder.turn (by simp [here]) (fun _ => rfl) (by simp [here, History.settled])
  | goOn loop here going =>
    exact inOrder.turn (by simp [here]) (fun _ => rfl) (by simp [here, History.settled])
  | leave loop here going policy =>
    exact inOrder.turn (by simp [here]) (fun _ => rfl) (by simp [here, History.settled])
  | drain loop here going policy =>
    exact inOrder.turn (by simp [here]) (fun _ => rfl) (by simp [here, History.settled])

theorem of_run {turns : List (Turn Loop)}
    (run : Run (request name options handle) (.enter (.start options)) turns state) :
    InOrder (history options turns) state.now :=
  history_induction (P := fun past state => InOrder past state.now) (.start options)
    (fun inOrder move => inOrder.move move) run

end InOrder

/-! ## The peak -/

/-- The sizes that the window has had in a run. -/
def windowSizes (turns : List (Turn Loop)) (state : Paced Loop) : List Nat :=
  turns.map (fun turn => turn.state.now.window.size) ++ [state.now.window.size]

theorem toNat_max_toUInt64 (word : UInt64) {size : Nat} (small : size < 2 ^ 64) :
    (max word size.toUInt64).toNat = max word.toNat size := by
  have hsize : size.toUInt64.toNat = size := UInt64.toNat_ofNat_of_lt' small
  show (if word ≤ size.toUInt64 then size.toUInt64 else word).toNat = _
  split
  next hle =>
    rw [UInt64.le_iff_toNat_le, hsize] at hle
    rw [hsize, Nat.max_eq_right hle]
  next hnot =>
    rw [UInt64.le_iff_toNat_le, hsize] at hnot
    rw [Nat.max_eq_left (Nat.le_of_not_le hnot)]

/-- A move raises the peak to the size of the window, and not further. -/
theorem Move.peak (fits : Fits options state.now)
    (move : Move options handle state exchange events after)
    (below : state.now.window.size ≤ state.now.counts.peakInFlight.toNat) :
    after.now.counts.peakInFlight.toNat =
      max state.now.counts.peakInFlight.toNat after.now.window.size := by
  cases move with
  | send loop id ticket here =>
    exact toNat_max_toUInt64 _ (fits.size_push_lt _ (by simp [here]))
  | resend loop retry ticket here =>
    exact toNat_max_toUInt64 _ (fits.size_push_lt _ (by simp [here]))
  | take loop oldest rest here pops must =>
    have hlength := congrArg List.length pops
    rw [← Fifo.size_eq_length, List.length_cons, ← Fifo.size_eq_length] at hlength
    exact (Nat.max_eq_left (by simp only at below ⊢; omega)).symm
  | _ => exact (Nat.max_eq_left below).symm

/-- The peak is the largest size that the window has had. -/
theorem peak_isLargest {turns : List (Turn Loop)}
    (run : Run (request name options handle) (.enter (.start options)) turns state) :
    (windowSizes turns state).max? = some state.now.counts.peakInFlight.toNat := by
  induction run with
  | start => rfl
  | @ask turns state query next before asks reply ih =>
    obtain ⟨events, move⟩ := Move.of_request asks reply
    have hsizes : windowSizes (turns ++ [⟨state, ⟨query, reply⟩⟩]) (next reply) =
        windowSizes turns state ++ [(next reply).now.window.size] := by
      simp [windowSizes]
    have hbelow : state.now.window.size ≤ state.now.counts.peakInFlight.toNat :=
      (List.max?_eq_some_iff.1 ih).2 _ (by simp [windowSizes])
    rw [hsizes, move.peak (Fits.of_run before) hbelow]
    rw [List.max?_eq_some_iff] at ih ⊢
    obtain ⟨hattained, hbound⟩ := ih
    refine ⟨?_, fun size hmem => ?_⟩
    · rcases Nat.le_total (next reply).now.window.size state.now.counts.peakInFlight.toNat
        with hle | hle
      · rw [Nat.max_eq_left hle]
        exact List.mem_append_left _ hattained
      · rw [Nat.max_eq_right hle]
        exact List.mem_append_right _ (List.mem_singleton_self _)
    · rcases List.mem_append.1 hmem with hearlier | hnow
      · exact Nat.le_trans (hbound size hearlier) (Nat.le_max_left _ _)
      · rw [List.mem_singleton.1 hnow]
        exact Nat.le_max_right _ _

/-! ## What is left to do -/

/-- What it takes until a submission in flight is done with: all attempts at its message that are
still possible. -/
def InFlight.effort (cap : Nat) (inFlight : InFlight) : Nat := cap - inFlight.attempts.toNat + 1

/-- What it takes until the message in hand is done with. -/
@[simp] def Point.effort (cap : Nat) : Point → Nat
  | .awaiting oldest => oldest.effort cap
  | .impatient oldest => oldest.effort cap
  | .collecting oldest => oldest.effort cap
  | .resending retry => cap - retry.attempts.toNat
  | _ => 0

/-- What it takes until all messages are done with. -/
def Loop.effort (cap : Nat) (loop : Loop) : Nat :=
  loop.remaining.toNat * (cap + 2) + loop.point.effort cap +
    (loop.window.toList.map (InFlight.effort cap)).sum

theorem Loop.effort_push (cap : Nat) (window : Fifo InFlight) (submission : InFlight)
    (remaining : UInt64) (draining : Bool) (counts : Counts) :
    effort cap ⟨.checkpoint, remaining, window.push submission, draining, counts⟩ =
      remaining.toNat * (cap + 2) + (window.toList.map (InFlight.effort cap)).sum +
        submission.effort cap := by
  simp [effort, Nat.add_assoc]

end Pipelined
end Producer
end BrokerLoad
