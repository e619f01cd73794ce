import BrokerLoad.Proofs.Broker.Settling

/-!
# Attempts at settling a delivery

A reader may try to settle a delivery as often as it likes, either way, and long after the group
was deleted or the hub closed.  What its attempts do is said by `Hub.SettlesOnce`, for any
delivery and whatever has been done with the hub.

* At most one attempt succeeds.
* One that fails changes nothing at all.
* One that succeeds takes the delivery out of its own queue, and puts at most that one message in
  again.  Every other queue is as it was, that of a group of the same name included, since a queue
  keeps its number and the number is not given to another one.
* Until then an attempt succeeds if anyone holds the queue: the topology, in a hub that is held
  itself, or a consumer that is open.

The story of a queue tells of an attempt if it succeeds (`Hub.count_answers`).  So what is known of
stories, that a delivery is settled once in each, is known of attempts.
-/

namespace BrokerLoad
namespace Queue

variable {δ : Type}

/-! ## What stories tell of attempts -/

/-- Whether an act is an attempt at settling a delivery. -/
def Act.isSettling : Act δ → Bool
  | .ack _ => true
  | .nack _ => true
  | _ => false

theorem settled_ofServed (served : Option (Ticket × Handover δ)) :
    settled (Event.ofServed served) = [] := by
  cases served <;> rfl

/-- What is settled is what was found. -/
theorem settled_ofSettled {event : δ → Settlement δ → Event δ} {token : UInt64}
    (settles : ∀ data settlement, (event data settlement).settled? = some ⟨token, data⟩)
    {found : Option (Message δ)} (settle : Message δ → Settlement δ × Queue δ) :
    settled (Event.ofSettled event found (found.map settle)) =
      (found.map fun message => (⟨token, message.data⟩ : Handover δ)).toList := by
  cases found with
  | none => rfl
  | some message =>
    rw [Option.map_some, Event.ofSettled, settled, List.filterMap_cons_some (settles _ _)]
    exact congrArg _ (settled_ofServed _)

theorem settled_ack (q : Queue δ) (token : UInt64) : settled (q.events (.ack token)) =
    ((q.find? token).map fun message => (⟨token, message.data⟩ : Handover δ)).toList :=
  settled_ofSettled (fun _ _ => rfl) _

theorem settled_nack (q : Queue δ) (token : UInt64) : settled (q.events (.nack token)) =
    ((q.find? token).map fun message => (⟨token, message.data⟩ : Handover δ)).toList :=
  settled_ofSettled (fun _ _ => rfl) _

/-- Nothing else settles a delivery. -/
theorem settled_of_not_settling (q : Queue δ) {act : Act δ} (other : act.isSettling = false) :
    settled (q.events act) = [] := by
  cases act with
  | put data =>
    rw [events, settled_append, settled_ofServed, List.append_nil]
    cases q.closed <;> rfl
  | read =>
    rw [events]
    cases q.read.1 <;> rfl
  | request reader ticket =>
    rw [events]
    split
    · rename_i handover _
      cases handover <;> rfl
    · rfl
  | ack token => cases other
  | nack token => cases other
  | drop reader => rfl
  | shutDown => rfl

theorem settled_story_of_not_settling (q : Queue δ) {acts : List (Act δ)}
    (others : ∀ act ∈ acts, act.isSettling = false) : settled (q.story acts) = [] := by
  induction acts generalizing q with
  | nil => rfl
  | cons act acts ih =>
    rw [story, settled_append, settled_of_not_settling q (others act List.mem_cons_self),
      ih _ fun other hother => others other (List.mem_cons_of_mem _ hother)]
    rfl

end Queue

namespace Hub

open Queue (Act Event handovers settled)

/-! ## Attempts and their answers -/

/-- What an operation answers, if it is an attempt at settling a delivery of a queue that went out
under a token. -/
def answer? (number : Nat) (token : UInt64) (hub : Hub) : Operation → Option Bool
  | .serve (.ack delivery) =>
    if delivery.queue = number ∧ delivery.token = token then some (hub.ack delivery).1 else none
  | .serve (.nack delivery) =>
    if delivery.queue = number ∧ delivery.token = token then some (hub.nack delivery).1 else none
  | _ => none

/-- The answers to all attempts at settling it. -/
def answers (number : Nat) (token : UInt64) (hub : Hub) : List Operation → List Bool
  | [] => []
  | operation :: operations =>
    (hub.answer? number token operation).toList ++
      answers number token (hub.operate operation) operations

/-- An attempt succeeds if the queue is held, and the delivery is outstanding in it. -/
def IsOutstanding (hub : Hub) (delivery : Delivery) : Prop :=
  hub.holds delivery.queue = true ∧ ∃ queue : Queue Bytes,
    hub.queues[delivery.queue]? = some queue ∧ ∃ message, queue.find? delivery.token = some message

section Attempt

variable (hub : Hub) (delivery : Delivery)

theorem isSome_bind_queueOf?_iff
    (settle : Queue Bytes → Option (Queue.Settlement Bytes × Queue Bytes))
    (settles : ∀ queue : Queue Bytes,
      (settle queue).isSome = (queue.find? delivery.token).isSome) :
    ((hub.queueOf? delivery).bind settle).isSome ↔ hub.IsOutstanding delivery := by
  rw [Option.isSome_bind, Option.any_eq_true, IsOutstanding, queueOf?]
  simp only [settles, Option.isSome_iff_exists, Option.ite_none_right_eq_some, and_assoc,
    exists_and_left]

theorem ack_eq_true_iff : (hub.ack delivery).1 = true ↔ hub.IsOutstanding delivery := by
  have hsome := hub.isSome_bind_queueOf?_iff delivery
    (fun queue => queue.ack delivery.token) fun _ => Option.isSome_map
  rw [← hsome, ack]
  split
  next hnone => simp [hnone]
  next hfound => simp [hfound]

theorem nack_eq_true_iff : (hub.nack delivery).1 = true ↔ hub.IsOutstanding delivery := by
  have hsome := hub.isSome_bind_queueOf?_iff delivery
    (fun queue => queue.nack delivery.token) fun _ => Option.isSome_map
  rw [← hsome, nack]
  split
  next hnone => simp [hnone]
  next hfound => simp [hfound]

end Attempt

/-! ### Attempts and stories -/

section Count

variable {hub : Hub} {number : Nat} {token : UInt64} {queue : Queue Bytes}

/-- An attempt that succeeds settles the delivery, and one that does not settles none. -/
theorem count_settled_attempt (found : hub.queues[number]? = some queue) {delivery : Delivery}
    {act : Act Bytes} {answer : Bool} (answers : answer = true ↔ hub.IsOutstanding delivery)
    (settles : settled (queue.events act) = ((queue.find? delivery.token).map fun message =>
      (⟨delivery.token, message.data⟩ : Handover Bytes)).toList) :
    ((settled (queue.story (if delivery.queue = number ∧ hub.holds number = true then [act]
      else []))).map Handover.token).count token =
    (if delivery.queue = number ∧ delivery.token = token then some answer
      else none).toList.count true := by
  by_cases hqueue : delivery.queue = number
  · subst hqueue
    by_cases houtstanding : hub.IsOutstanding delivery
    · obtain ⟨hholds, other, hother, message, hfind⟩ := houtstanding
      obtain rfl : queue = other := Option.some.inj (found.symm.trans hother)
      rw [if_pos ⟨rfl, hholds⟩, Queue.story, Queue.settled_append, settles, hfind,
        answers.2 ⟨hholds, queue, found, message, hfind⟩]
      by_cases htoken : delivery.token = token <;> simp [htoken, Queue.story, settled]
    · have hfalse : answer = false := Bool.eq_false_iff.2 fun h => houtstanding (answers.1 h)
      have hnone : settled (queue.story (if delivery.queue = delivery.queue ∧
          hub.holds delivery.queue = true then [act] else [])) = [] := by
        by_cases hholds : hub.holds delivery.queue = true
        · rw [if_pos ⟨rfl, hholds⟩, Queue.story, Queue.settled_append, settles]
          cases hfind : queue.find? delivery.token with
          | none => rfl
          | some message => exact absurd ⟨hholds, queue, found, message, hfind⟩ houtstanding
        · rw [if_neg fun h => hholds h.2]
          rfl
      rw [hnone, hfalse]
      split <;> rfl
  · rw [if_neg fun h => hqueue h.1, if_neg fun h => hqueue h.1]
    rfl

/-- No other call settles a delivery. -/
theorem isSettling_of_mem_acts {call : Call} (other : call.isSettling = false) {act : Act Bytes}
    (hact : act ∈ hub.acts number call) : act.isSettling = false := by
  have hclosing : ∀ {handle}, act ∈ hub.actsOfClosing handle number → act.isSettling = false := by
    intro handle hmem
    rw [actsOfClosing] at hmem
    split at hmem
    · split at hmem
      · rw [List.mem_singleton.1 hmem]
        rfl
      · cases hmem
    · cases hmem
  have hreading : ∀ {handle} {f : UInt64 → Act Bytes}, (∀ reader, (f reader).isSettling = false) →
      act ∈ hub.actsOfReading handle number f → act.isSettling = false := by
    intro handle f hf hmem
    rw [actsOfReading] at hmem
    split at hmem
    · split at hmem
      · rw [List.mem_singleton.1 hmem]
        exact hf _
      · cases hmem
    · cases hmem
  have hshutting : ∀ {p : Prop} [Decidable p],
      act ∈ (if p then [Act.shutDown (δ := Bytes)] else []) → act.isSettling = false := by
    intro p _ hmem
    split at hmem
    · rw [List.mem_singleton.1 hmem]
      rfl
    · cases hmem
  cases call with
  | write handle data => rw [List.eq_of_mem_replicate hact]; rfl
  | submit handle data => rw [List.eq_of_mem_replicate hact]; rfl
  | read handle => exact hreading (fun _ => rfl) hact
  | request handle => exact hreading (fun _ => rfl) hact
  | ack delivery => cases other
  | nack delivery => cases other
  | closeHandle handle => exact hclosing hact
  | release handle => exact hclosing hact
  | deleteGroup path name => exact hshutting hact
  | deleteDestination path => exact hshutting hact
  | shutDown => exact hshutting hact
  | createDestination | createGroup | create | openHandle | lastError | receiptReady | takeReceipt
  | deliveryReady | takeDelivery => cases hact

/-- What an operation settles is what it answers. -/
theorem count_settled_operation (found : hub.queues[number]? = some queue)
    (operation : Operation) :
    ((settled (queue.story (hub.actsOf number operation))).map Handover.token).count token =
      (answer? number token hub operation).toList.count true := by
  have hnothing : ∀ call : Call, call.isSettling = false →
      ((settled (queue.story (hub.acts number call))).map Handover.token).count token = 0 := by
    intro call hcall
    rw [Queue.settled_story_of_not_settling queue fun act => isSettling_of_mem_acts hcall]
    rfl
  cases operation with
  | disown => exact hnothing .shutDown rfl
  | serve call =>
    by_cases hcall : call.isSettling = true
    · cases call with
      | ack delivery =>
        exact count_settled_attempt found (hub.ack_eq_true_iff delivery)
          (queue.settled_ack delivery.token)
      | nack delivery =>
        exact count_settled_attempt found (hub.nack_eq_true_iff delivery)
          (queue.settled_nack delivery.token)
      | _ => cases hcall
    · have hother : call.isSettling = false := Bool.eq_false_iff.2 hcall
      rw [actsOf, hnothing _ hother]
      cases call with
      | ack delivery => cases hother
      | nack delivery => cases hother
      | _ => rfl

end Count

/-- A queue that is not there settles nothing. -/
theorem answer?_of_none {hub : Hub} {number : Nat} (nothing : hub.queues[number]? = none)
    (token : UInt64) (operation : Operation) :
    (answer? number token hub operation).toList.count true = 0 := by
  have hfalse : ∀ {delivery : Delivery} {answer : Bool},
      (answer = true ↔ hub.IsOutstanding delivery) →
        (if delivery.queue = number ∧ delivery.token = token then some answer
          else none).toList.count true = 0 := by
    intro delivery answer hanswer
    split
    next hsame =>
      have hnot : answer = false := by
        refine Bool.eq_false_iff.2 fun htrue => ?_
        obtain ⟨-, queue, hqueue, -⟩ := hanswer.1 htrue
        rw [hsame.1, nothing] at hqueue
        cases hqueue
      rw [hnot]
      rfl
    next => rfl
  cases operation with
  | disown => rfl
  | serve call =>
    cases call with
    | ack delivery => exact hfalse (hub.ack_eq_true_iff delivery)
    | nack delivery => exact hfalse (hub.nack_eq_true_iff delivery)
    | _ => rfl

/-- The story of a queue tells of the attempts that succeed. -/
theorem count_answers (number : Nat) (token : UInt64) (hub : Hub) (operations : List Operation) :
    (answers number token hub operations).count true =
      ((settled (storyOf number hub operations)).map Handover.token).count token := by
  induction operations generalizing hub with
  | nil => rfl
  | cons operation rest ih =>
    rw [answers, storyOf, Queue.settled_append, List.map_append, List.count_append,
      List.count_append, ih]
    refine congrArg (· + _) ?_
    cases hfound : hub.queues[number]? with
    | none => exact answer?_of_none hfound token operation
    | some queue => exact (count_settled_operation hfound operation).symm

/-! ## Settling once -/

/-- A queue is held by the topology, in a hub that anyone holds, or by a consumer that is open. -/
def IsKept (hub : Hub) (number : Nat) : Prop :=
  (hub.isHeld = true ∧ ∃ path group, (path, group, number) ∈ hub.places) ∨
    ∃ (handle : Handle) (path group : String) (reader : UInt64) (error : String),
      hub.handles[handle]? = some (.consumer path group reader (some number) error)

theorem holds_iff (hub : Hub) (number : Nat) : hub.holds number = true ↔ hub.IsKept number := by
  have hplace : hub.reachable.contains number = true ↔
      ∃ path group, (path, group, number) ∈ hub.places := by
    rw [reachable_eq_map_places, List.contains_iff_mem, List.mem_map]
    constructor
    · rintro ⟨⟨path, group, number⟩, hmem, rfl⟩
      exact ⟨path, group, hmem⟩
    · rintro ⟨path, group, hmem⟩
      exact ⟨_, hmem, rfl⟩
  have hconsumer : ∀ {state : HandleState}, handleHolds number state = true ↔
      ∃ path group reader error, state = .consumer path group reader (some number) error := by
    intro state
    constructor
    · intro hstate
      cases state with
      | consumer path group reader queue error =>
        obtain rfl : queue = some number := of_decide_eq_true hstate
        exact ⟨path, group, reader, error, rfl⟩
      | publisher | released => cases hstate
    · rintro ⟨path, group, reader, error, rfl⟩
      exact decide_eq_true rfl
  rw [holds, IsKept, Bool.or_eq_true, Bool.and_eq_true, hplace, Array.any_eq_true']
  refine or_congr_right ⟨?_, ?_⟩
  · rintro ⟨state, hmem, hstate⟩
    obtain ⟨handle, hhandle⟩ := Array.getElem?_of_mem hmem
    obtain ⟨path, group, reader, error, rfl⟩ := hconsumer.1 hstate
    exact ⟨handle, path, group, reader, error, hhandle⟩
  · rintro ⟨handle, path, group, reader, error, hhandle⟩
    exact ⟨_, Array.mem_of_getElem? hhandle, hconsumer.2 ⟨path, group, reader, error, rfl⟩⟩

/-- What an attempt at settling a delivery does: its answer, and the hub afterwards. -/
structure Attempts (hub : Hub) (delivery : Delivery) (attempt : Bool × Hub) : Prop where
  /-- One that fails changes nothing. -/
  fails : attempt.1 = false → attempt.2 = hub
  /-- One that succeeds takes the delivery out of its queue, and that is all that it takes out; the
  message is gone for good, or is put in again.  All other queues are as they were. -/
  succeeds : attempt.1 = true → ∃ (queue after : Queue Bytes) (message : Message Bytes)
    (settlement : Queue.Settlement Bytes),
    hub.queues[delivery.queue]? = some queue ∧ queue.find? delivery.token = some message ∧
      queue.unacked.Perm ((delivery.token, message) :: (queue.settle delivery.token).unacked) ∧
      queue.Settles delivery.token settlement after ∧
      attempt.2.queues[delivery.queue]? = some after ∧
      ∀ number ≠ delivery.queue, attempt.2.queues[number]? = hub.queues[number]?

/-- A delivery settles at most once, and only in its own queue. -/
structure SettlesOnce (fresh : Hub) (operations : List Operation) (delivery : Delivery) : Prop where
  /-- At most one attempt succeeds for each time that the token was given out. -/
  counted : (answers delivery.queue delivery.token fresh operations).count true ≤
    ((handovers (storyOf delivery.queue fresh operations)).map Handover.token).count delivery.token
  /-- That is once, until tokens come back. -/
  once : (handovers (storyOf delivery.queue fresh operations)).length < 2 ^ 64 →
    (answers delivery.queue delivery.token fresh operations).count true ≤ 1
  ack : (fresh.afterAll operations).Attempts delivery ((fresh.afterAll operations).ack delivery)
  nack : (fresh.afterAll operations).Attempts delivery ((fresh.afterAll operations).nack delivery)
  /-- Until one has succeeded, an attempt succeeds if and only if the queue is held by the topology
  or by a consumer that is open. -/
  first : delivery.token ∈
      (handovers (storyOf delivery.queue fresh operations)).map Handover.token →
    (handovers (storyOf delivery.queue fresh operations)).length < 2 ^ 64 →
    true ∉ answers delivery.queue delivery.token fresh operations →
    (((fresh.afterAll operations).ack delivery).1 = true ↔
      (fresh.afterAll operations).IsKept delivery.queue) ∧
    (((fresh.afterAll operations).nack delivery).1 = true ↔
      (fresh.afterAll operations).IsKept delivery.queue)

/-- Queues keep their tallies, whatever is done with a hub. -/
theorem tallies_afterAll (throttleEvery redeliverEvery : UInt32) (operations : List Operation)
    {number : Nat} {queue : Queue Bytes}
    (found : (afterAll { throttleEvery, redeliverEvery } operations).queues[number]? =
      some queue) :
    ∃ displaced, queue.Tallies (storyOf number { throttleEvery, redeliverEvery } operations)
      displaced := by
  refine told_afterAll (P := fun queue story => ∃ displaced, queue.Tallies story displaced)
    (fun maxDeliveries => ⟨[], .create maxDeliveries redeliverEvery⟩) ?_ throttleEvery operations
    found
  rintro queue story act ⟨displaced, htallies⟩
  exact htallies.passes (queue.passes_perform act)

/-- What an attempt does, in a hub in which one message is outstanding under a token. -/
theorem Attempts.of_settle (settle : Queue Bytes → Option (Queue.Settlement Bytes × Queue Bytes))
    {hub : Hub} {delivery : Delivery} {attempt : Bool × Hub}
    (distinct : ∀ {queue : Queue Bytes}, hub.queues[delivery.queue]? = some queue →
      (queue.unacked.map Prod.fst).Nodup)
    (settles : ∀ {queue after : Queue Bytes} {settlement : Queue.Settlement Bytes},
      settle queue = some (settlement, after) → queue.Settles delivery.token settlement after)
    (fails : (hub.queueOf? delivery).bind settle = none → attempt = (false, hub))
    (succeeds : ∀ {settlement after}, (hub.queueOf? delivery).bind settle =
      some (settlement, after) → attempt.1 = true ∧
        attempt.2.queues = hub.queues.setIfInBounds delivery.queue after) :
    hub.Attempts delivery attempt := by
  cases hsettled : (hub.queueOf? delivery).bind settle with
  | none =>
    rw [fails hsettled]
    exact ⟨fun _ => rfl, nofun⟩
  | some pair =>
    obtain ⟨settlement, after⟩ := pair
    obtain ⟨htrue, hqueues⟩ := succeeds hsettled
    obtain ⟨queue, hqueue, hsettle⟩ := Option.bind_eq_some_iff.1 hsettled
    have hfound := found_of_queueOf? hqueue
    have hlt := (Array.getElem?_eq_some_iff.1 hfound).1
    obtain ⟨message, hfind⟩ : ∃ message, queue.find? delivery.token = some message := by
      cases settles hsettle with
      | aside acks hfind hdone => exact ⟨_, hfind⟩
      | again acks hfind => exact ⟨_, hfind⟩
    refine ⟨fun hfalse => absurd (htrue.symm.trans hfalse) nofun, fun _ => ?_⟩
    refine ⟨queue, after, message, settlement, hfound, hfind,
      Queue.perm_settle (distinct hfound) hfind, settles hsettle, ?_, fun number hne => ?_⟩
    · rw [hqueues, Array.getElem?_setIfInBounds, if_pos rfl, if_pos hlt]
    · rw [hqueues, Array.getElem?_setIfInBounds, if_neg (Ne.symm hne)]

theorem attempts_ack {hub : Hub} {delivery : Delivery}
    (distinct : ∀ {queue : Queue Bytes}, hub.queues[delivery.queue]? = some queue →
      (queue.unacked.map Prod.fst).Nodup) : hub.Attempts delivery (hub.ack delivery) := by
  refine .of_settle (fun queue => queue.ack delivery.token) distinct Queue.settles_of_ack
    (fun hnone => ?_) (fun hsome => ?_)
  · rw [ack, hnone]
  · rw [ack, hsome]
    exact ⟨rfl, queues_countSettlement _ _ _⟩

theorem attempts_nack {hub : Hub} {delivery : Delivery}
    (distinct : ∀ {queue : Queue Bytes}, hub.queues[delivery.queue]? = some queue →
      (queue.unacked.map Prod.fst).Nodup) : hub.Attempts delivery (hub.nack delivery) := by
  refine .of_settle (fun queue => queue.nack delivery.token) distinct Queue.settles_of_nack
    (fun hnone => ?_) (fun hsome => ?_)
  · rw [nack, hnone]
  · rw [nack, hsome]
    exact ⟨rfl, queues_countSettlement _ _ _⟩

/-- What was handed over, and was not settled, can be settled as long as its queue is held. -/
theorem isOutstanding_iff {hub : Hub} {delivery : Delivery} {queue : Queue Bytes}
    {story : List (Event Bytes)} {displaced : List (Handover Bytes)}
    (found : hub.queues[delivery.queue]? = some queue) (tallies : queue.Tallies story displaced)
    (handed : delivery.token ∈ (handovers story).map Handover.token)
    (few : (handovers story).length < 2 ^ 64)
    (unsettled : delivery.token ∉ (settled story).map Handover.token) :
    hub.IsOutstanding delivery ↔ hub.IsKept delivery.queue := by
  rw [← holds_iff]
  constructor
  · exact And.left
  · intro hholds
    have hall := (tallies.accounted.map Handover.token).mem_iff.1 handed
    rw [tallies.few few, List.append_nil, List.map_append, List.mem_append,
      Queue.map_token_outstanding, ← Queue.isSome_find?_iff, Option.isSome_iff_exists] at hall
    exact ⟨hholds, queue, found, hall.resolve_left unsettled⟩

/-- A queue that is not there has handed over nothing, and its tally is kept by any new queue. -/
theorem exists_tallies (throttleEvery redeliverEvery : UInt32) (operations : List Operation)
    (number : Nat) : ∃ (queue : Queue Bytes) (displaced : List (Handover Bytes)),
      queue.Tallies (storyOf number { throttleEvery, redeliverEvery } operations) displaced := by
  cases hfound : (afterAll { throttleEvery, redeliverEvery } operations).queues[number]? with
  | none =>
    rw [storyOf_eq_nil hfound]
    exact ⟨.create 1 redeliverEvery, [], .create 1 redeliverEvery⟩
  | some queue => exact ⟨queue, tallies_afterAll throttleEvery redeliverEvery operations hfound⟩

/-- What was handed over can be settled as long as no attempt at that has succeeded and its queue is
held. -/
theorem isOutstanding_afterAll_iff {throttleEvery redeliverEvery : UInt32}
    {operations : List Operation} {delivery : Delivery}
    (handed : delivery.token ∈ (handovers (storyOf delivery.queue
      { throttleEvery, redeliverEvery } operations)).map Handover.token)
    (few : (handovers (storyOf delivery.queue
      { throttleEvery, redeliverEvery } operations)).length < 2 ^ 64)
    (never : true ∉ answers delivery.queue delivery.token
      { throttleEvery, redeliverEvery } operations) :
    (afterAll { throttleEvery, redeliverEvery } operations).IsOutstanding delivery ↔
      (afterAll { throttleEvery, redeliverEvery } operations).IsKept delivery.queue := by
  have hunsettled : delivery.token ∉ (settled (storyOf delivery.queue
      { throttleEvery, redeliverEvery } operations)).map Handover.token := by
    rw [← List.count_eq_zero, ← count_answers, List.count_eq_zero]
    exact never
  cases hfound :
    (afterAll { throttleEvery, redeliverEvery } operations).queues[delivery.queue]? with
  | none =>
    rw [storyOf_eq_nil hfound] at handed
    cases handed
  | some queue =>
    obtain ⟨displaced, htallies⟩ :=
      tallies_afterAll throttleEvery redeliverEvery operations hfound
    exact isOutstanding_iff hfound htallies handed few hunsettled

/-- A delivery settles at most once and only in its own queue, whatever is done with a hub. -/
theorem deliveries_settle_once (throttleEvery redeliverEvery : UInt32)
    (operations : List Operation) (delivery : Delivery) :
    SettlesOnce { throttleEvery, redeliverEvery } operations delivery := by
  obtain ⟨queue, displaced, htally⟩ :=
    exists_tallies throttleEvery redeliverEvery operations delivery.queue
  have hcounted := htally.count_settled_le delivery.token
  rw [← count_answers] at hcounted
  have hdistinct : ∀ {queue : Queue Bytes},
      (afterAll { throttleEvery, redeliverEvery } operations).queues[delivery.queue]? =
        some queue → (queue.unacked.map Prod.fst).Nodup := by
    intro queue hfound
    obtain ⟨displaced, hown⟩ := tallies_afterAll throttleEvery redeliverEvery operations hfound
    exact hown.distinct
  constructor
  · exact hcounted
  · intro few
    exact hcounted.trans
      (List.nodup_iff_count_le_one.1 (htally.nodup_tokens (Nat.le_of_lt few)) _)
  · exact attempts_ack hdistinct
  · exact attempts_nack hdistinct
  · intro handed few never
    have hiff := isOutstanding_afterAll_iff handed few never
    rw [ack_eq_true_iff, nack_eq_true_iff]
    exact ⟨hiff, hiff⟩

/-- The group is deleted and created again while a delivery is outstanding, and the hub is closed.
Its consumer is still open, so the delivery can be refused, once.  The same token of the new group
is another delivery. -/
example :
    let operations := ([.createDestination { path := "orders" },
      .createGroup { destination := "orders", name := "billing" },
      .create (.publisher "orders"), .openHandle 0,
      .create (.consumer "orders" "billing" defaultPrefetch), .openHandle 1, .write 0 [7], .read 1,
      .deleteGroup "orders" "billing",
      .createGroup { destination := "orders", name := "billing" },
      .create (.consumer "orders" "billing" defaultPrefetch), .openHandle 2, .write 0 [8], .read 2,
      .shutDown, .nack { payload := [7], queue := 0, token := 1 },
      .ack { payload := [7], queue := 0, token := 1 },
      .ack { payload := [8], queue := 1, token := 1 }] : List Call).map .serve
    answers 0 1 {} operations = [true, false] ∧ answers 1 1 {} operations = [true] := by
  decide +kernel

end Hub
end BrokerLoad
