import BrokerLoad.Proofs.Consumer.History
import BrokerLoad.Proofs.Ledger.Repeats

/-!
# What a ledger learns of consumers

A ledger that answers consumers, and nobody else, is told by their history: it has seen the ids
that were noted (`Answers.seen`), its gauges have moved by what was emitted (`Answers.read`),
and an id was called a repeat whenever it had been seen (`Answers.repeats`).  How many consumers
there are, and which of them has asked what, makes no difference to it.
-/

namespace BrokerLoad
namespace Ledger

open Consumer

/-- A ledger that answers, one after another. -/
inductive Answers (before : Ledger) : List Exchange → Ledger → Prop where
  /-- Nothing has been asked. -/
  | start : Answers before [] before
  /-- One more query. -/
  | ask {exchanges : List Exchange} {ledger : Ledger} {exchange : Exchange}
      (answered : Answers before exchanges ledger) (allowed : ledger.Allows exchange) :
      Answers before (exchanges ++ [exchange]) (ledger.after exchange)

/-- An exchange in which no id is noted is nothing to the ids seen. -/
theorem note_or_silent (exchange : Exchange) :
    (∃ id fresh, exchange = ⟨.note id, fresh⟩) ∨
      ((∀ ledger : Ledger, (ledger.after exchange).seen = ledger.seen) ∧
        History.notes exchange.event?.toList = []) := by
  obtain ⟨query, reply⟩ := exchange
  cases query with
  | note id => exact .inl ⟨id, reply, rfl⟩
  | broker call =>
    refine .inr ⟨fun _ => rfl, ?_⟩
    cases call with
    | create role => rcases reply with (_ | _) | _ <;> rfl
    | openHandle handle => rcases reply with (_ | _) | _ <;> rfl
    | request handle => rcases reply with (_ | _) | (_ | _) <;> rfl
    | takeDelivery ticket => rcases reply with (_ | _) | (_ | _) <;> rfl
    | read handle => rcases reply with (_ | _) | (_ | _) <;> rfl
    | _ => rfl
  | _ => exact .inr ⟨fun _ => rfl, rfl⟩

/-- An id is called new if it has not been seen. -/
theorem Allows.fresh_eq {ledger : Ledger} {id : UInt64} {fresh : Bool}
    (allowed : ledger.Allows ⟨.note id, fresh⟩) : fresh = !ledger.seen.contains id := by
  rw [← SeenIds.fst_insert]
  exact allowed

namespace Answers

variable {before after : Ledger} {exchanges : List Exchange}

/-- The ledger has seen what was noted. -/
theorem seen (answered : Answers before exchanges after) :
    after.seen = before.seen.noteAll (History.of exchanges).noted := by
  induction answered with
  | start => rfl
  | @ask exchanges ledger exchange answered allowed ih =>
    rw [History.of_concat, History.noted_append, SeenIds.noteAll_append, ← ih,
      ← History.map_fst_notes exchange.event?.toList]
    rcases note_or_silent exchange with ⟨id, fresh, rfl⟩ | ⟨hseen, hnotes⟩
    · rfl
    · rw [hseen, hnotes]
      rfl

/-- What has been seen is what was seen before and what was noted. -/
theorem contains_seen (answered : Answers before exchanges after) (id : UInt64) :
    after.seen.contains id =
      (decide (id ∈ (History.of exchanges).noted) || before.seen.contains id) := by
  rw [answered.seen, SeenIds.contains_noteAll]

/-- It has told repeats from new ids. -/
theorem repeats (answered : Answers before exchanges after) :
    (History.of exchanges).repeats = before.seen.repeats (History.of exchanges).noted := by
  induction answered with
  | start => rfl
  | @ask exchanges ledger exchange answered allowed ih =>
    rw [History.of_concat, History.repeats_append, ih, History.noted_append,
      SeenIds.repeats_append, ← answered.seen, History.repeats_eq,
      ← History.map_fst_notes exchange.event?.toList]
    rcases note_or_silent exchange with ⟨id, fresh, rfl⟩ | ⟨hseen, hnotes⟩
    · rw [allowed.fresh_eq]
      cases hseen : ledger.seen.contains id <;>
        simp [Exchange.event?, SeenIds.repeats, hseen]
    · rw [hnotes]
      rfl

/-- It has called an id new once, the first time that it was noted, unless it had seen it. -/
theorem count_notes (answered : Answers before exchanges after) (id : UInt64) :
    (History.of exchanges).notes.count (id, true) =
      if before.seen.contains id then 0
      else if id ∈ (History.of exchanges).noted then 1 else 0 := by
  induction answered with
  | start => split <;> rfl
  | @ask exchanges ledger exchange answered allowed ih =>
    rw [History.of_concat, History.notes_append, List.count_append, ih, History.noted_append,
      ← History.map_fst_notes exchange.event?.toList]
    rcases note_or_silent exchange with ⟨other, fresh, rfl⟩ | ⟨hseen, hnotes⟩
    · have hfresh := allowed.fresh_eq
      rw [answered.contains_seen] at hfresh
      rw [hfresh]
      by_cases hsame : other = id
      · subst hsame
        by_cases hmem : other ∈ (History.of exchanges).noted
        · simp [Exchange.event?, hmem]
        · cases before.seen.contains other <;> simp [Exchange.event?, hmem]
      · have hother : ¬ id = other := fun h => hsame h.symm
        simp [Exchange.event?, hsame, hother]
    · rw [hnotes]
      simp

/-- Its gauges have moved by what was emitted. -/
theorem read (answered : Answers before exchanges after) (gauge : Gauge) :
    after.metrics.read gauge =
      before.metrics.read gauge + UInt64.ofNat (exchanges.map (Exchange.gain gauge)).sum := by
  induction answered with
  | start => exact (UInt64.add_zero _).symm
  | ask answered allowed ih =>
    rw [read_after, ih, List.map_append, List.sum_append, UInt64.ofNat_add, UInt64.add_assoc]
    rfl

end Answers
end Ledger
end BrokerLoad
