import BrokerLoad.Producer.Policy

/-!
# Histories of producers

What matters about a run of a producer is which ids it took, which of its submissions the
client took on, and what became of each.  An `Event` is one such fact, and a history is the
list of them in the order in which they happened.  Both kinds of producers are read into
histories of this one type, so that what is said about a history holds of both.

The rest of the module reads lists off a history: the ids minted, the submissions taken on,
the receipts collected, and so on, and the part that one id has in each.  Every one of them
is a `filterMap`, so that it reads an appended history piece by piece.
-/

namespace BrokerLoad
namespace Producer

/-- What the shared counters learn from a refusal that is not the last one. -/
def refusal (status : WriteStatus) : List Emission :=
  .bump .sendErrors 1 :: if status = .throttled then [.bump .throttled 1] else []

/-- The attempt after one that is not the last has the next number. -/
theorem toNat_succ_of_lt {attempt maxAttempts : UInt32} (below : attempt < maxAttempts) :
    (attempt + 1).toNat = attempt.toNat + 1 := by
  have hbelow := UInt32.lt_iff_toNat_lt.1 below
  have hmax := maxAttempts.toNat_lt
  rw [UInt32.toNat_add, UInt32.toNat_one, Nat.mod_eq_of_lt (by omega)]

/-- One message fewer is left than before, if one was. -/
theorem toNat_sub_one {word : UInt64} (h : word ≠ 0) : (word - 1).toNat + 1 = word.toNat := by
  have hpositive : 0 < word.toNat :=
    Nat.pos_of_ne_zero fun hzero => h (UInt64.toNat_inj.1 hzero)
  rw [UInt64.toNat_sub_of_le word 1 (UInt64.le_iff_toNat_le.2 hpositive), UInt64.toNat_one]
  omega

/-- What happens to a message. -/
inductive Event where
  /-- An id was taken for it. -/
  | minted (id : UInt64)
  /-- It was submitted, and the client took the submission on. -/
  | submitted (id : UInt64) (attempt : UInt32)
  /-- It was to be submitted, but the client did not take that on. -/
  | unsent (id : UInt64) (attempt : UInt32)
  /-- The receipt of a submission was collected. -/
  | answered (id : UInt64) (attempt : UInt32) (status : WriteStatus)
  /-- Collecting the receipt of a submission failed. -/
  | spoiled (id : UInt64) (attempt : UInt32)
  /-- The wait for the receipt of a submission was given up, for a stop request. -/
  | abandoned (id : UInt64) (attempt : UInt32)
  /-- It was refused, and is not sent again although it might be, for a stop request. -/
  | dropped (id : UInt64) (attempt : UInt32)
  deriving DecidableEq

namespace Event

/-- The message that an event is about. -/
def id : Event → UInt64
  | .minted id => id
  | .submitted id _ => id
  | .unsent id _ => id
  | .answered id _ _ => id
  | .spoiled id _ => id
  | .abandoned id _ => id
  | .dropped id _ => id

/-- The id taken, if one was. -/
@[simp] def minted? : Event → Option UInt64
  | .minted id => some id
  | _ => none

/-- The submission taken on, if one was. -/
@[simp] def sent? : Event → Option (UInt64 × UInt32)
  | .submitted id attempt => some (id, attempt)
  | _ => none

/-- The submission not taken on, if one was not. -/
@[simp] def unsent? : Event → Option (UInt64 × UInt32)
  | .unsent id attempt => some (id, attempt)
  | _ => none

/-- The receipt collected, with the submission it is for, if one was. -/
@[simp] def answer? : Event → Option (UInt64 × UInt32 × WriteStatus)
  | .answered id attempt status => some (id, attempt, status)
  | _ => none

/-- The message accepted, if one was. -/
@[simp] def accepted? : Event → Option UInt64
  | .answered id _ status => if status = .ok then some id else none
  | _ => none

/-- The submission refused, if one was. -/
@[simp] def refused? : Event → Option (UInt64 × UInt32)
  | .answered id attempt status => if status = .ok then none else some (id, attempt)
  | _ => none

/-- The submission whose receipt is not going to be collected, if this says so of one. -/
@[simp] def lost? : Event → Option (UInt64 × UInt32)
  | .spoiled id attempt => some (id, attempt)
  | .abandoned id attempt => some (id, attempt)
  | _ => none

/-- The refused submission that is not repeated for a stop request, if there is one. -/
@[simp] def dropped? : Event → Option (UInt64 × UInt32)
  | .dropped id attempt => some (id, attempt)
  | _ => none

end Event

/-- What happened to the messages of a producer, in order. -/
abbrev History : Type := List Event

namespace History

variable (history more : History) (event : Event)

/-- The ids taken. -/
def minted : List UInt64 := history.filterMap Event.minted?

/-- The submissions taken on. -/
def sent : List (UInt64 × UInt32) := history.filterMap Event.sent?

/-- The submissions not taken on. -/
def unsent : List (UInt64 × UInt32) := history.filterMap Event.unsent?

/-- The receipts collected. -/
def answers : List (UInt64 × UInt32 × WriteStatus) := history.filterMap Event.answer?

/-- The submissions whose receipts are not going to be collected. -/
def lost : List (UInt64 × UInt32) := history.filterMap Event.lost?

/-- The refused submissions that are not repeated for a stop request. -/
def dropped : List (UInt64 × UInt32) := history.filterMap Event.dropped?

/-- The submissions whose receipts have been collected. -/
def settled : List (UInt64 × UInt32) := history.answers.map fun answer => (answer.1, answer.2.1)

/-- The ids of the messages accepted. -/
def completed : List UInt64 := history.filterMap Event.accepted?

/-- The submissions that were refused. -/
def refused : List (UInt64 × UInt32) := history.filterMap Event.refused?

/-- The attempts at sending one message that the client took on. -/
def attemptsOf (id : UInt64) : List UInt32 :=
  (history.sent.filter fun submission => submission.1 = id).map Prod.snd

/-- The receipts collected for one message, with the attempts they are for. -/
def answersOf (id : UInt64) : List (UInt32 × WriteStatus) :=
  (history.answers.filter fun answer => answer.1 = id).map Prod.snd

/-! ## Reading a longer history -/

@[simp] theorem minted_nil : minted [] = [] := rfl

@[simp] theorem minted_cons : minted (event :: more) = event.minted?.toList ++ minted more := by
  cases event <;> rfl

@[simp] theorem minted_append : minted (history ++ more) = history.minted ++ more.minted :=
  List.filterMap_append

@[simp] theorem sent_nil : sent [] = [] := rfl

@[simp] theorem sent_cons : sent (event :: more) = event.sent?.toList ++ sent more := by
  cases event <;> rfl

@[simp] theorem sent_append : sent (history ++ more) = history.sent ++ more.sent :=
  List.filterMap_append

@[simp] theorem unsent_nil : unsent [] = [] := rfl

@[simp] theorem unsent_cons : unsent (event :: more) = event.unsent?.toList ++ unsent more := by
  cases event <;> rfl

@[simp] theorem unsent_append : unsent (history ++ more) = history.unsent ++ more.unsent :=
  List.filterMap_append

@[simp] theorem answers_nil : answers [] = [] := rfl

@[simp] theorem answers_cons : answers (event :: more) = event.answer?.toList ++ answers more := by
  cases event <;> rfl

@[simp] theorem answers_append : answers (history ++ more) = history.answers ++ more.answers :=
  List.filterMap_append

@[simp] theorem settled_append : settled (history ++ more) = history.settled ++ more.settled := by
  rw [settled, answers_append, List.map_append, settled, settled]

@[simp] theorem completed_nil : completed [] = [] := rfl

@[simp] theorem completed_cons :
    completed (event :: more) = event.accepted?.toList ++ completed more := by
  rw [completed, completed, List.filterMap_cons]
  cases event.accepted? <;> rfl

@[simp] theorem completed_append :
    completed (history ++ more) = history.completed ++ more.completed :=
  List.filterMap_append

@[simp] theorem refused_nil : refused [] = [] := rfl

@[simp] theorem refused_cons : refused (event :: more) = event.refused?.toList ++ refused more := by
  rw [refused, refused, List.filterMap_cons]
  cases event.refused? <;> rfl

@[simp] theorem refused_append : refused (history ++ more) = history.refused ++ more.refused :=
  List.filterMap_append

@[simp] theorem lost_nil : lost [] = [] := rfl

@[simp] theorem lost_cons : lost (event :: more) = event.lost?.toList ++ lost more := by
  cases event <;> rfl

@[simp] theorem lost_append : lost (history ++ more) = history.lost ++ more.lost :=
  List.filterMap_append

@[simp] theorem dropped_nil : dropped [] = [] := rfl

@[simp] theorem dropped_cons : dropped (event :: more) = event.dropped?.toList ++ dropped more := by
  cases event <;> rfl

@[simp] theorem dropped_append : dropped (history ++ more) = history.dropped ++ more.dropped :=
  List.filterMap_append

/-! ## The part of one message -/

theorem attemptsOf_append (id : UInt64) :
    (history ++ more).attemptsOf id = history.attemptsOf id ++ more.attemptsOf id := by
  simp [attemptsOf]

theorem answersOf_append (id : UInt64) :
    (history ++ more).answersOf id = history.answersOf id ++ more.answersOf id := by
  simp [answersOf]

variable {event} in
theorem attemptsOf_of_ne {id : UInt64} (other : event.id ≠ id) : attemptsOf [event] id = [] := by
  cases event <;> simp_all [attemptsOf, Event.id]

variable {event} in
theorem answersOf_of_ne {id : UInt64} (other : event.id ≠ id) : answersOf [event] id = [] := by
  cases event <;> simp_all [answersOf, Event.id]

theorem mem_answersOf {history : History} {id : UInt64} {attempt : UInt32}
    {status : WriteStatus} :
    (attempt, status) ∈ history.answersOf id ↔ .answered id attempt status ∈ history := by
  simp only [answersOf, answers, List.mem_map, List.mem_filter, List.mem_filterMap,
    decide_eq_true_eq]
  constructor
  · rintro ⟨⟨id', answer⟩, ⟨⟨event, hmem, hanswer⟩, hid⟩, hpair⟩
    cases event <;> simp_all
  · intro hmem
    exact ⟨(id, attempt, status), ⟨⟨_, hmem, rfl⟩, rfl⟩, rfl⟩

/-- A message accepted has a receipt that says so. -/
theorem mem_completed {history : History} {id : UInt64} :
    id ∈ history.completed ↔ ∃ attempt, .answered id attempt .ok ∈ history := by
  rw [completed, List.mem_filterMap]
  constructor
  · rintro ⟨event, hmem, haccepted⟩
    cases event with
    | answered id' attempt status =>
      rw [Event.accepted?, Option.ite_none_right_eq_some] at haccepted
      obtain ⟨rfl, ⟨⟩⟩ := haccepted
      exact ⟨attempt, hmem⟩
    | _ => simp at haccepted
  · rintro ⟨attempt, hmem⟩
    exact ⟨_, hmem, rfl⟩

/-- Every receipt accepts or refuses. -/
theorem length_answers (history : History) :
    history.answers.length = history.completed.length + history.refused.length := by
  induction history with
  | nil => rfl
  | cons event rest ih =>
    cases event with
    | answered id attempt status =>
      by_cases hok : status = .ok <;> simp [hok, ih] <;> omega
    | _ => simpa using ih

/-- A message was accepted as often as its receipts say so. -/
theorem count_completed (history : History) (id : UInt64) :
    history.completed.count id = (history.answersOf id).countP fun answer => answer.2 = .ok := by
  induction history with
  | nil => rfl
  | cons event rest ih =>
    rw [← List.singleton_append, completed_append, List.count_append, answersOf_append,
      List.countP_append, ih]
    congr 1
    by_cases own : event.id = id
    · subst own
      cases event with
      | answered id attempt status =>
        by_cases hok : status = .ok <;> simp [answersOf, hok, Event.id]
      | _ => rfl
    · rw [answersOf_of_ne own]
      cases event <;> simp_all [Event.id]
      split <;> simp_all

end History
end Producer
end BrokerLoad
