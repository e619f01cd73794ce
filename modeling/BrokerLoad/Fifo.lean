/-!
# First in, first out

A `Fifo` holds a sequence that is added to at its back and taken from at its front.
The sequence is `toList`, and that is all there is to know about it: the lemmas below
say what each operation does to `toList`, and nobody else needs to look inside.

Inside it is kept in two lists, the back one in reverse, so that neither end has to be
searched for.  The back list is turned round only when the front list is used up, so
each element is turned round once.  The size is kept as well, since it is asked for
as often as the sequence is changed.
-/

namespace BrokerLoad

/-- A sequence that is added to at its back and taken from at its front. -/
structure Fifo (α : Type) where
  front : List α := []
  /-- The elements behind them, last one first. -/
  back : List α := []
  /-- How many elements there are. -/
  size : Nat := 0
  size_eq : size = front.length + back.length := by rfl
  deriving DecidableEq

namespace Fifo

variable {α : Type}

/-- The empty sequence. -/
def empty : Fifo α := {}

/-- The sequence. -/
def toList (q : Fifo α) : List α := q.front ++ q.back.reverse

/-- Adds an element at the back. -/
def push (q : Fifo α) (a : α) : Fifo α where
  front := q.front
  back := a :: q.back
  size := q.size + 1
  size_eq := by simp [q.size_eq, Nat.add_assoc]

/-- Takes the element at the front, if there is one. -/
def pop? (q : Fifo α) : Option (α × Fifo α) :=
  match h : q.front with
  | a :: front => some (a, ⟨front, q.back, q.size - 1, by simp [q.size_eq, h]⟩)
  | [] =>
    match hback : q.back.reverse with
    | a :: front =>
      some (a, ⟨front, [], q.size - 1, by
        have hlength := congrArg List.length hback
        rw [List.length_reverse] at hlength
        simp [q.size_eq, h, hlength]⟩)
    | [] => none

/-- The size is the length of the sequence. -/
theorem size_eq_length (q : Fifo α) : q.size = q.toList.length := by
  simp [toList, q.size_eq]

/-- Nothing is in an empty one. -/
@[simp] theorem toList_empty : (empty : Fifo α).toList = [] := rfl

/-- What is pushed comes last. -/
@[simp] theorem toList_push (q : Fifo α) (a : α) : (q.push a).toList = q.toList ++ [a] := by
  simp [toList, push]

/-- There is something to pop unless the sequence is empty. -/
theorem pop?_eq_none_iff {q : Fifo α} : q.pop? = none ↔ q.toList = [] := by
  unfold pop? toList
  split
  · simp_all
  · split <;> simp_all

/-- What is popped came first. -/
theorem toList_of_pop? {q r : Fifo α} {a : α} (h : q.pop? = some (a, r)) :
    q.toList = a :: r.toList := by
  unfold pop? at h
  unfold toList
  split at h
  · cases h
    simp_all
  · split at h
    · cases h
      simp_all
    · cases h

end Fifo
end BrokerLoad
