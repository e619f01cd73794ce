import BrokerLoad.Proofs.Producer.PipelinedMoves
import BrokerLoad.Proofs.Producer.Discipline

/-!
# The messages of a pipelined producer

A pipelined producer has something to do with the messages whose submissions are in its
window, and with at most one more: the one it has just taken off the window, or is about
to submit.  `Loop.stakes` lists them with the fates that the loop believes them to have.
Every move does to its message what comes next in its fate, and to no other message
anything, so that the loop believes right, as long as the ids that it takes are new.
-/

namespace BrokerLoad
namespace Producer
namespace Pipelined

/-- The message of a submission in flight waits for a receipt. -/
def InFlight.stake (inFlight : InFlight) : UInt64 × Fate :=
  (inFlight.id, .aloft inFlight.attempts.toNat)

/-- The message that the loop has in hand, and its fate. -/
@[simp] def Point.stakes : Point → List (UInt64 × Fate)
  | .awaiting oldest => [oldest.stake]
  | .impatient oldest => [oldest.stake]
  | .collecting oldest => [oldest.stake]
  | .sending id => [(id, .resting 0)]
  | .resending retry => [(retry.id, .resting retry.attempts.toNat)]
  | _ => []

/-- The messages that the loop has something to do with, and their fates. -/
def Loop.stakes (loop : Loop) : List (UInt64 × Fate) :=
  loop.point.stakes ++ loop.window.toList.map InFlight.stake

/-- A message that is about to be submitted rests. -/
theorem Loop.stakes_of_submits {loop : Loop} {id : UInt64} {attempt : UInt32}
    (submits : loop.point.submits? = some (id, attempt)) : ∃ sent : UInt32,
    loop.stakes = (id, .resting sent.toNat) :: loop.window.toList.map InFlight.stake ∧
      attempt = sent + 1 := by
  rcases Point.of_submits? submits with ⟨hpoint, rfl⟩ | ⟨retry, hpoint, rfl, rfl⟩
  · exact ⟨0, by rw [Loop.stakes, hpoint]; rfl, rfl⟩
  · exact ⟨retry.attempts, by rw [Loop.stakes, hpoint]; rfl, rfl⟩

variable {name : String} {options : Options} {handle : Handle} {past : History}
  {state after : Paced Loop} {exchange : Exchange} {events : History}

theorem Move.minted (move : Move options handle state exchange events after) :
    events.minted = exchange.minted?.toList := by
  cases move <;> rfl

/-- A submission at the end of the window comes after those that were there. -/
theorem stakes_push (point : Point) (window : Fifo InFlight) (submission : InFlight)
    (stakes : point.stakes = []) (remaining : UInt64) (draining : Bool) (counts : Counts) :
    (submission.stake :: window.toList.map InFlight.stake).Perm
      (Loop.stakes ⟨point, remaining, window.push submission, draining, counts⟩) := by
  rw [Loop.stakes, stakes, Fifo.toList_push, List.map_append, List.nil_append]
  exact (List.perm_append_singleton _ _).symm

theorem stakes_onward (loop : Loop) (counts : Counts) :
    Loop.stakes { loop with counts := counts, point := onward loop.remaining } =
      loop.window.toList.map InFlight.stake := by
  rcases onward_cases loop.remaining with ⟨-, hon⟩ | ⟨-, hon⟩ <;> rw [Loop.stakes, hon] <;> rfl

/-- A move does to its message what comes next. -/
theorem Move.tracks (tracks : Tracks options.maxAttempts.toNat past state.now.stakes)
    (move : Move options handle state exchange events after)
    (new : (past ++ events).minted.Nodup) :
    Tracks options.maxAttempts.toNat (past ++ events) after.now.stakes := by
  have hcap : options.maxAttempts.toNat < 2 ^ 32 := options.maxAttempts.toNat_lt
  cases move with
  | emit emission rest loop => simpa using tracks
  | abandon loop oldest here =>
    rw [Loop.stakes, here] at tracks
    exact tracks.close rfl (if_pos rfl) (by simp)
  | accept loop oldest answer here ok =>
    rw [Loop.stakes, here] at tracks
    rw [stakes_onward]
    exact tracks.close rfl Fate.next_accepted (by simp)
  | refuse loop oldest answer here refused below going =>
    rw [Loop.stakes, here] at tracks
    exact tracks.keep rfl (Fate.next_refused refused (UInt32.lt_iff_toNat_lt.1 below)) trivial
  | drop loop oldest answer here refused below draining =>
    rw [Loop.stakes, here] at tracks
    have hresting :=
      tracks.keep rfl (Fate.next_refused refused (UInt32.lt_iff_toNat_lt.1 below)) trivial
    rw [stakes_onward, List.append_cons]
    exact hresting.close rfl (if_pos rfl) (by simp)
  | giveUp loop oldest answer line here refused cap =>
    rw [Loop.stakes, here] at tracks
    exact tracks.close rfl (Fate.next_exhausted refused (UInt32.le_iff_toNat_le.1 cap)) (by simp)
  | spoil loop oldest fault here =>
    rw [Loop.stakes, here] at tracks
    exact tracks.close rfl (if_pos rfl) (by simp)
  | mint loop id here =>
    rw [Loop.stakes, here] at tracks
    have hnew : id ∉ past.minted := by
      rw [History.minted_append] at new
      exact fun hmem => List.disjoint_of_nodup_append new hmem (List.mem_singleton_self _)
    exact tracks.mint hnew
  | send loop id ticket here =>
    rw [Loop.stakes, here] at tracks
    have hnext : (Fate.resting 0).next options.maxAttempts.toNat (.submitted id 1) =
        some (.aloft (1 : UInt32).toNat) := Fate.next_submitted rfl
    have haloft := tracks.keep rfl hnext trivial
    exact haloft.perm (stakes_push _ _ ⟨id, 1, ticket⟩ rfl _ _ _)
  | resend loop retry ticket here =>
    rw [Loop.stakes, here] at tracks
    have haloft := tracks.keep rfl (Fate.next_submitted (tracks.toNat_succ hcap)) trivial
    exact haloft.perm (stakes_push _ _ ⟨retry.id, _, ticket⟩ rfl _ _ _)
  | fail loop id attempt here =>
    obtain ⟨sent, hstakes, rfl⟩ := Loop.stakes_of_submits here
    rw [hstakes] at tracks
    exact tracks.close rfl (Fate.next_unsent (tracks.toNat_succ hcap)) (by simp)
  | crash loop id attempt fault here =>
    obtain ⟨sent, hstakes, rfl⟩ := Loop.stakes_of_submits here
    rw [hstakes] at tracks
    exact tracks.close rfl (Fate.next_unsent (tracks.toNat_succ hcap)) (by simp)
  | _ => simp_all [Loop.stakes]

/-! ## Runs -/

variable {turns : List (Turn Loop)}

theorem minted_history
    (run : Run (request name options handle) (.enter (.start options)) turns state) :
    (history options turns).minted = mintedIds turns := by
  induction run with
  | start => rfl
  | @ask turns state query next before asks reply ih =>
    obtain ⟨events, move⟩ := Move.of_request asks reply
    rw [history_append, history_singleton, move.events_eq, History.minted_append, move.minted, ih,
      mintedIds_append]
    cases query <;> rfl

/-- If the ids are new, the loop is right about the fates of its messages. -/
theorem tracks_of_run
    (run : Run (request name options handle) (.enter (.start options)) turns state)
    (new : (mintedIds turns).Nodup) :
    Tracks options.maxAttempts.toNat (history options turns) state.now.stakes := by
  rw [← minted_history run] at new
  refine history_induction
    (P := fun past state => past.minted.Nodup →
      Tracks options.maxAttempts.toNat past state.now.stakes)
    (fun _ => .nil) (fun {past events state after exchange} tracks move hnew => ?_) run new
  rw [History.minted_append] at hnew
  exact move.tracks (tracks (List.Nodup.of_append_left hnew)) (History.minted_append _ _ ▸ hnew)

end Pipelined
end Producer
end BrokerLoad
