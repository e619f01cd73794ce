import BrokerLoad.Proofs.Producer.Verdicts
import Mathlib.Data.List.Chain

/-!
# A blocking producer that is refused now and then

A blocking producer writes a refused message again before it writes anything else.  So if no two
successive writes are refused (`Spaced`), then the second attempt at a message is accepted: no
message is written three times, and a producer that may write each of them twice does not give up
(`Persists`).

Nothing is said here about the broker, or about why it refuses.
-/

namespace BrokerLoad

/-- Of two successive verdicts one is in favour. -/
def Spaced (statuses : List WriteStatus) : Prop :=
  statuses.IsChain fun earlier later => earlier = .ok ∨ later = .ok

namespace Producer

namespace History

variable {history events : History}

theorem spaced_of_append (spaced : Spaced (statuses (history ++ events))) :
    Spaced history.statuses :=
  List.IsChain.left_of_append (History.statuses_append history events ▸ spaced)

/-- What comes after a refusal is accepted. -/
theorem eq_ok_of_spaced {id : UInt64} {attempt : UInt32} {status : WriteStatus}
    (ends : history.EndsRefused) (answer : events.answers = [(id, attempt, status)])
    (spaced : Spaced (statuses (history ++ events))) : status = .ok := by
  obtain ⟨last, hlast, hrefused⟩ := ends
  have hnext : events.statuses = [status] := by rw [statuses, answer, List.map_singleton]
  rw [statuses_append, hnext, Spaced, List.isChain_append] at spaced
  exact (spaced.2.2 last hlast status rfl).resolve_left hrefused

end History

namespace Blocking

variable {name : String} {options : Options} {handle : Handle} {past events : History}
  {state after : Paced Loop} {exchange : Exchange} {turns : List (Turn Loop)}

/-- Where the loop may be if each message is accepted at the first attempt or at the second. -/
@[simp] def Point.Persists (past : History) : Point → Prop
  | .writing _ attempt => attempt = 1 ∨ attempt = 2 ∧ past.EndsRefused
  | .afterRefusal _ attempt => attempt = 1 ∧ past.EndsRefused
  | .halted (.ok .attemptsExceeded) => False
  | _ => True

/-- A loop that has been refused now and then. -/
structure Persists (past : History) (loop : Loop) : Prop where
  point : loop.point.Persists past
  /-- Nothing was written for a third time. -/
  twice : ∀ submission ∈ past.sent, submission.2 ≤ 2

namespace Persists

/-- The loop goes on without having written anything. -/
theorem keep {loop next : Loop} (persists : Persists past loop) (sent : events.sent = [])
    (point : next.point.Persists (past ++ events)) : Persists (past ++ events) next where
  point := point
  twice := by
    rw [History.sent_append, sent, List.append_nil]
    exact persists.twice

/-- The loop writes. -/
theorem write {loop next : Loop} {id : UInt64} {attempt : UInt32} (persists : Persists past loop)
    (here : loop.point = .writing id attempt) (sent : events.sent = [(id, attempt)])
    (point : next.point.Persists (past ++ events)) : Persists (past ++ events) next where
  point := point
  twice := by
    have hattempt : attempt ≤ 2 := by
      have hpoint := persists.point
      rw [here] at hpoint
      obtain rfl | ⟨rfl, -⟩ := hpoint <;> decide
    rw [History.sent_append, sent, List.forall_mem_append, List.forall_mem_singleton]
    exact ⟨persists.twice, hattempt⟩

/-- If a write is refused, then it was the first of its message. -/
theorem first_of_refused {loop : Loop} {id : UInt64} {attempt : UInt32} {answer : Receipt}
    (persists : Persists past loop) (here : loop.point = .writing id attempt)
    (refused : answer.status ≠ .ok)
    (spaced : Spaced (History.statuses
      (past ++ [.submitted id attempt, .answered id attempt answer.status]))) : attempt = 1 := by
  have hpoint := persists.point
  rw [here] at hpoint
  obtain hfirst | ⟨-, hends⟩ := hpoint
  · exact hfirst
  · exact absurd (History.eq_ok_of_spaced hends rfl spaced) refused

theorem move (again : 2 ≤ options.maxAttempts) (persists : Persists past state.now)
    (spaced : Spaced (History.statuses (past ++ events)))
    (move : Move options handle state exchange events after) :
    Persists (past ++ events) after.now := by
  cases move with
  | emit emission rest loop => rwa [List.append_nil]
  | accept loop id attempt answer here ok => exact persists.write here rfl trivial
  | refuse loop id attempt answer here refused below =>
    exact persists.write here rfl ⟨persists.first_of_refused here refused spaced,
      (History.endsRefused_append_of_answer rfl).2 refused⟩
  | giveUp loop id attempt answer line here refused cap =>
    obtain rfl := persists.first_of_refused here refused spaced
    exact absurd (UInt32.le_trans again cap) (by decide)
  | again loop id attempt here =>
    have hpoint := persists.point
    rw [here] at hpoint
    obtain ⟨rfl, hends⟩ := hpoint
    rw [List.append_nil]
    exact ⟨.inr ⟨rfl, hends⟩, persists.twice⟩
  | mint loop id here => exact persists.keep rfl (.inl rfl)
  | _ => exact persists.keep rfl trivial

theorem of_run (again : 2 ≤ options.maxAttempts) (spaced : Spaced (history turns).statuses)
    (run : Run (request name options handle) (.enter {}) turns state) :
    Persists (history turns) state.now :=
  history_induction (P := fun past state => Spaced past.statuses → Persists past state.now)
    (fun _ => ⟨trivial, by simp⟩)
    (fun before move spaced => (before (History.spaced_of_append spaced)).move again spaced move)
    run spaced

/-- No message is written more than twice. -/
theorem count_sent_le {loop : Loop} {cap : Nat} (persists : Persists past loop)
    (fates : ∀ id, ∃ fate, past.fate? cap id = some fate) (id : UInt64) :
    (past.sent.map Prod.fst).count id ≤ 2 := by
  obtain ⟨fate, hfate⟩ := fates id
  have reads := Reads.of_fate? hfate
  rw [History.count_sent, reads.length_attemptsOf]
  by_contra hmore
  -- the last attempt has the number of them all
  have hlast : fate.sent ∈ (past.attemptsOf id).map UInt32.toNat := by
    rw [reads.attempts, List.mem_range'_1]
    omega
  obtain ⟨attempt, hmem, hnumber⟩ := List.mem_map.1 hlast
  have htwice := UInt32.le_iff_toNat_le.1 (persists.twice _ (History.mem_attemptsOf.1 hmem))
  rw [hnumber] at htwice
  exact hmore htwice

end Persists
end Blocking
end Producer
end BrokerLoad
