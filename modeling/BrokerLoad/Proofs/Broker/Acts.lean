import BrokerLoad.Proofs.Broker.Alike
import BrokerLoad.Proofs.Broker.Conservation

/-!
# What is done to a queue

There are seven things that a hub does to a queue, and `Queue.Act` lists them.  `Hub.acts` says
which of them an operation does to the queue of a number: most operations do nothing to most
queues, and a write does one thing to each queue of its destination.  What becomes of a queue is
then told by what is done to it, and by nothing else that happens in the hub
(`Hub.queues_operate`, and `Hub.queues_afterAll` for any number of operations).

So what is true of a queue whatever is done to it is true of every queue of every hub.  What
happens in a queue in the meantime is its story (`Queue.story`): what is put in, what is handed
over, and what becomes of the deliveries that are settled.
-/

namespace BrokerLoad
namespace Queue

variable {δ : Type}

/-- What can be done to a queue. -/
inductive Act (δ : Type) where
  | put (data : δ)
  | read
  | request (reader : UInt64) (ticket : Ticket)
  | ack (token : UInt64)
  | nack (token : UInt64)
  | drop (reader : UInt64)
  | shutDown
  deriving DecidableEq

/-- The queue afterwards. -/
def perform (q : Queue δ) : Act δ → Queue δ
  | .put data => (q.push { data }).2
  | .read => q.read.2
  | .request reader ticket => (q.request reader ticket).2
  | .ack token => ((q.ack token).map Prod.snd).getD q
  | .nack token => ((q.nack token).map Prod.snd).getD q
  | .drop reader => (q.drop reader).2
  | .shutDown => q.shutDown.2

/-- The queue after one thing has been done after another. -/
def performAll (q : Queue δ) (acts : List (Act δ)) : Queue δ := acts.foldl perform q

@[simp] theorem performAll_nil (q : Queue δ) : q.performAll [] = q := rfl

@[simp] theorem performAll_cons (q : Queue δ) (act : Act δ) (acts : List (Act δ)) :
    q.performAll (act :: acts) = (q.perform act).performAll acts := rfl

theorem performAll_append (q : Queue δ) (acts more : List (Act δ)) :
    q.performAll (acts ++ more) = (q.performAll acts).performAll more :=
  List.foldl_append

/-- A read that finds nothing changes nothing. -/
theorem read_eq_self {q : Queue δ} (nothing : q.read.1 = none) : q.read.2 = q := by
  rw [read] at nothing ⊢
  split at nothing
  next hclosed => rw [if_pos hclosed]
  next hclosed =>
    rw [if_neg hclosed]
    cases hpop : q.ready.pop? with
    | none => rfl
    | some popped =>
      rw [hpop] at nothing
      cases nothing

/-- Nor does a request that is answered without a message. -/
theorem request_eq_self {q : Queue δ} {reader : UInt64} {ticket : Ticket}
    (nothing : (q.request reader ticket).1 = .answered none) :
    (q.request reader ticket).2 = q := by
  rw [request] at nothing ⊢
  split at nothing
  next hclosed => rw [if_pos hclosed]
  next hclosed =>
    rw [if_neg hclosed]
    cases hpop : q.ready.pop? with
    | none =>
      rw [hpop] at nothing
      cases nothing
    | some popped =>
      rw [hpop] at nothing
      cases nothing

/-! ## Stories -/

/-- What happens to a message in a queue. -/
inductive Event (δ : Type) where
  /-- It is put in. -/
  | put (data : δ)
  | handed (handover : Handover δ)
  /-- Its delivery is acknowledged. -/
  | acked (token : UInt64) (data : δ) (settlement : Settlement δ)
  /-- Its delivery is refused. -/
  | nacked (token : UInt64) (data : δ) (settlement : Settlement δ)

/-- The handover of a message that goes straight to a parked read, if it does. -/
def Event.ofServed (served : Option (Ticket × Handover δ)) : List (Event δ) :=
  (served.map Prod.snd).toList.map .handed

/-- What happens when a delivery is settled: nothing, unless it is outstanding. -/
def Event.ofSettled (event : δ → Settlement δ → Event δ) (found : Option (Message δ))
    (settled : Option (Settlement δ × Queue δ)) : List (Event δ) :=
  match found, settled with
  | some message, some (settlement, _) =>
    event message.data settlement :: ofServed settlement.served
  | _, _ => []

/-- What happens in a queue when something is done to it.  Nothing is put into a queue that is
shut down. -/
def events (q : Queue δ) : Act δ → List (Event δ)
  | .put data =>
    (if q.closed then [] else [.put data]) ++ Event.ofServed (q.push { data }).1
  | .read => q.read.1.toList.map .handed
  | .request reader ticket =>
    match (q.request reader ticket).1 with
    | .answered handover => handover.toList.map .handed
    | .parked => []
  | .ack token => Event.ofSettled (.acked token) (q.find? token) (q.ack token)
  | .nack token => Event.ofSettled (.nacked token) (q.find? token) (q.nack token)
  | .drop _ => []
  | .shutDown => []

/-- What happens in a queue when one thing is done to it after another. -/
def story (q : Queue δ) : List (Act δ) → List (Event δ)
  | [] => []
  | act :: acts => q.events act ++ (q.perform act).story acts

theorem story_append (q : Queue δ) (acts more : List (Act δ)) :
    q.story (acts ++ more) = q.story acts ++ (q.performAll acts).story more := by
  induction acts generalizing q with
  | nil => rfl
  | cons act acts ih => rw [List.cons_append, story, story, ih, List.append_assoc, performAll_cons]

/-- What is true in the beginning, and stays true whatever is done, is true at any moment. -/
theorem performAll_induction {P : Queue δ → List (Event δ) → Prop} {q : Queue δ}
    (begun : List (Event δ)) (holds : P q begun) (acts : List (Act δ))
    (keeps : ∀ {q : Queue δ} {told : List (Event δ)} {act : Act δ}, act ∈ acts → P q told →
      P (q.perform act) (told ++ q.events act)) :
    P (q.performAll acts) (begun ++ q.story acts) := by
  induction acts generalizing q begun with
  | nil => exact (List.append_nil begun).symm ▸ holds
  | cons act acts ih =>
    rw [performAll_cons, story, ← List.append_assoc]
    exact ih _ (keeps List.mem_cons_self holds) fun hmem =>
      keeps (List.mem_cons_of_mem _ hmem)

end Queue

namespace Hub

open Queue (Act)

/-! ## What a call does to a queue -/

/-- The parked reads that go when a handle is closed. -/
def actsOfClosing (hub : Hub) (handle : Handle) (number : Nat) : List (Act Bytes) :=
  match hub.handles[handle]? with
  | some (.consumer _ _ reader (some held) _) => if held = number then [.drop reader] else []
  | _ => []

/-- What is done to a queue through the consumer of a handle. -/
def actsOfReading (hub : Hub) (handle : Handle) (number : Nat) (act : UInt64 → Act Bytes) :
    List (Act Bytes) :=
  match hub.heldQueue? handle with
  | some (held, _, reader) => if held = number then [act reader] else []
  | none => []

/-- What a call does to the queue of a number. -/
def acts (hub : Hub) (number : Nat) : Call → List (Act Bytes)
  | .write handle data => List.replicate ((hub.targets handle data).count number) (.put data)
  | .submit handle data => List.replicate ((hub.targets handle data).count number) (.put data)
  | .read handle => hub.actsOfReading handle number fun _ => .read
  | .request handle =>
    hub.actsOfReading handle number fun reader => .request reader hub.awaited.size
  | .ack delivery =>
    if delivery.queue = number ∧ hub.holds number = true then [.ack delivery.token] else []
  | .nack delivery =>
    if delivery.queue = number ∧ hub.holds number = true then [.nack delivery.token] else []
  | .closeHandle handle => hub.actsOfClosing handle number
  | .release handle => hub.actsOfClosing handle number
  | .deleteGroup path name =>
    if hub.queueNumber? path name = some number then [.shutDown] else []
  | .deleteDestination path =>
    if hub.closed = false ∧ number ∈ ((hub.groups? path).getD []).map Prod.snd then [.shutDown]
    else []
  | .shutDown => if hub.closed = false ∧ number ∈ hub.reachable then [.shutDown] else []
  | _ => []

/-- What an operation does to the queue of a number. -/
def actsOf (hub : Hub) (number : Nat) : Operation → List (Act Bytes)
  | .serve call => hub.acts number call
  | .disown => hub.acts number .shutDown

/-- What several operations do to the queue of a number. -/
def actsOn (hub : Hub) (number : Nat) : List Operation → List (Act Bytes)
  | [] => []
  | operation :: operations =>
    hub.actsOf number operation ++ (hub.operate operation).actsOn number operations

/-! ## Queues are told by what is done to them -/

variable {hub : Hub} {number : Nat}

/-- What is done to one queue. -/
theorem getElem?_setIfInBounds_acts (act : Act Bytes) {queues : Array (Queue Bytes)}
    {queue changed : Queue Bytes} {held : Nat} (found : queues[held]? = some queue)
    (performs : changed = queue.perform act) (number : Nat) :
    (queues.setIfInBounds held changed)[number]? =
      (queues[number]?).map fun queue =>
        queue.performAll (if held = number then [act] else []) := by
  have hlt := (Array.getElem?_eq_some_iff.1 found).1
  rw [Array.getElem?_setIfInBounds, if_pos hlt]
  by_cases hsame : held = number
  · subst hsame
    rw [if_pos rfl, if_pos rfl, found, Option.map_some, performs]
    rfl
  · rw [if_neg hsame, if_neg hsame]
    exact Option.map_id'.symm

/-- Nothing is done to any queue. -/
theorem getElem?_map_performAll_nil (queues : Array (Queue Bytes)) (number : Nat) :
    queues[number]? = (queues[number]?).map fun queue => queue.performAll [] :=
  Option.map_id'.symm

/-- Something is done to one queue, and does not change it. -/
theorem getElem?_of_idle (act : Act Bytes) {queues : Array (Queue Bytes)} {queue : Queue Bytes}
    {held : Nat} (found : queues[held]? = some queue) (idle : queue.perform act = queue)
    (number : Nat) : queues[number]? = (queues[number]?).map fun queue =>
        queue.performAll (if held = number then [act] else []) := by
  by_cases hsame : held = number
  · subst hsame
    rw [if_pos rfl, found, Option.map_some, Queue.performAll_cons, idle]
    rfl
  · rw [if_neg hsame]
    exact getElem?_map_performAll_nil queues number

theorem queues_pushTo (hub : Hub) (data : Bytes) (held number : Nat) :
    (hub.pushTo data held).queues[number]? =
      (hub.queues[number]?).map fun queue =>
        queue.performAll (if held = number then [.put data] else []) := by
  rw [pushTo]
  cases hfound : hub.queues[held]? with
  | none =>
    by_cases hsame : held = number
    · rw [← hsame, hfound]
      rfl
    · rw [if_neg hsame]
      exact getElem?_map_performAll_nil hub.queues number
  | some queue =>
    show (serveParked _ held _).queues[number]? = _
    rw [queues_serveParked]
    exact getElem?_setIfInBounds_acts (.put data) hfound rfl number

theorem queues_pushAll (hub : Hub) (data : Bytes) (numbers : List Nat) (number : Nat) :
    (numbers.foldl (fun hub number => hub.pushTo data number) hub).queues[number]? =
      (hub.queues[number]?).map fun queue =>
        queue.performAll (List.replicate (numbers.count number) (.put data)) := by
  induction numbers generalizing hub with
  | nil => exact getElem?_map_performAll_nil hub.queues number
  | cons held rest ih =>
    rw [List.foldl_cons, ih, queues_pushTo, Option.map_map]
    refine congrArg (Option.map · _) (funext fun queue => ?_)
    by_cases hsame : held = number
    · subst hsame
      rw [List.count_cons_self, List.replicate_succ]
      simp
    · rw [List.count_cons_of_ne hsame]
      simp [hsame]

theorem queues_publish (hub : Hub) (path : String) (data : Bytes) (number : Nat) :
    (hub.publish path data).2.queues[number]? =
      (hub.queues[number]?).map fun queue =>
        queue.performAll (List.replicate
          ((if (hub.publish path data).1.status = .ok then
            ((hub.groups? path).getD []).map Prod.snd else []).count number) (.put data)) := by
  have hnothing : ∀ {after : Hub}, after.queues = hub.queues → after.queues[number]? =
      (hub.queues[number]?).map fun queue => queue.performAll
        (List.replicate (([] : List Nat).count number) (.put data)) := by
    intro after hqueues
    rw [hqueues]
    exact getElem?_map_performAll_nil hub.queues number
  rw [publish]
  split
  · exact hnothing rfl
  · cases hgroups : hub.groups? path with
    | none => exact hnothing rfl
    | some groups =>
      dsimp only
      split
      · exact hnothing rfl
      · exact queues_pushAll { hub with writes := hub.writes + 1 } data (groups.map Prod.snd) number

theorem queues_write (hub : Hub) (handle : Handle) (data : Bytes) (number : Nat) :
    (hub.write handle data).2.queues[number]? =
      (hub.queues[number]?).map fun queue =>
        queue.performAll (List.replicate ((hub.targets handle data).count number) (.put data)) := by
  rcases hub.write_cases handle data with
    ⟨path, ⟨error, hhandle⟩, hwrite⟩ | ⟨-, hstatus, hwrite⟩
  · have htargets : hub.targets handle data = if (hub.publish path data).1.status = .ok then
        ((hub.groups? path).getD []).map Prod.snd else [] := by
      rw [targets, hhandle, hwrite]
    rw [htargets, hwrite]
    exact queues_publish hub path data number
  · have htargets : hub.targets handle data = [] := by
      rw [targets, hstatus]
      split <;> rfl
    rw [htargets, hwrite]
    exact getElem?_map_performAll_nil hub.queues number

/-- What is done through a consumer is done to the queue that it holds. -/
theorem map_actsOfReading {handle : Handle} {held : Nat} {queue : Queue Bytes} {reader : UInt64}
    (hheld : hub.heldQueue? handle = some (held, queue, reader)) (number : Nat)
    (act : UInt64 → Act Bytes) :
    hub.actsOfReading handle number act = if held = number then [act reader] else [] := by
  rw [actsOfReading, hheld]

theorem queues_read (hub : Hub) (handle : Handle) (number : Nat) :
    (hub.read handle).2.queues[number]? =
      (hub.queues[number]?).map fun queue => queue.performAll (hub.acts number (.read handle)) := by
  rw [read, acts]
  split
  next hheld =>
    rw [actsOfReading, hheld]
    exact getElem?_map_performAll_nil hub.queues number
  next held queue reader hheld =>
    have hfound := found_of_heldQueue? hheld
    rw [map_actsOfReading hheld]
    split
    next changed hread =>
      exact getElem?_of_idle .read hfound (Queue.read_eq_self (by rw [hread])) number
    next handover changed hread =>
      exact getElem?_setIfInBounds_acts _ hfound (congrArg Prod.snd hread).symm number

theorem queues_request (hub : Hub) (handle : Handle) (number : Nat) :
    (hub.request handle).2.queues[number]? =
      (hub.queues[number]?).map fun queue =>
        queue.performAll (hub.acts number (.request handle)) := by
  rw [request, acts]
  split
  next hheld =>
    rw [actsOfReading, hheld]
    exact getElem?_map_performAll_nil hub.queues number
  next held queue reader hheld =>
    have hfound := found_of_heldQueue? hheld
    rw [map_actsOfReading hheld]
    split
    next changed hrequest =>
      exact getElem?_of_idle (.request reader hub.awaited.size) hfound
        (Queue.request_eq_self (by rw [hrequest])) number
    next handover changed hrequest =>
      exact getElem?_setIfInBounds_acts _ hfound (congrArg Prod.snd hrequest).symm number
    next changed hrequest =>
      exact getElem?_setIfInBounds_acts _ hfound (congrArg Prod.snd hrequest).symm number

/-- A delivery is settled in its queue, if anyone holds that. -/
theorem queues_settle (settle : Queue Bytes → Option (Queue.Settlement Bytes × Queue Bytes))
    {hub after : Hub} {delivery : Delivery} {act : Act Bytes}
    (performs : ∀ queue : Queue Bytes,
      queue.perform act = ((settle queue).map Prod.snd).getD queue)
    (unsettled : (hub.queueOf? delivery).bind settle = none → after.queues = hub.queues)
    (settled : ∀ {settlement changed},
      (hub.queueOf? delivery).bind settle = some (settlement, changed) →
        after.queues = hub.queues.setIfInBounds delivery.queue changed) (number : Nat) :
    after.queues[number]? = (hub.queues[number]?).map fun queue => queue.performAll
      (if delivery.queue = number ∧ hub.holds number = true then [act] else []) := by
  by_cases hholds : hub.holds delivery.queue = true
  · have hacts : (if delivery.queue = number ∧ hub.holds number = true then [act] else []) =
        if delivery.queue = number then [act] else [] := by
      by_cases hsame : delivery.queue = number
      · rw [if_pos hsame, if_pos ⟨hsame, hsame ▸ hholds⟩]
      · rw [if_neg hsame, if_neg fun h => hsame h.1]
    have hqueue : hub.queueOf? delivery = hub.queues[delivery.queue]? := if_pos hholds
    rw [hacts]
    cases hsettled : (hub.queueOf? delivery).bind settle with
    | none =>
      rw [unsettled hsettled]
      cases hfound : hub.queues[delivery.queue]? with
      | none =>
        by_cases hsame : delivery.queue = number
        · rw [← hsame, hfound]
          rfl
        · rw [if_neg hsame]
          exact getElem?_map_performAll_nil hub.queues number
      | some queue =>
        rw [hqueue, hfound, Option.bind_some] at hsettled
        exact getElem?_of_idle _ hfound (by rw [performs, hsettled]; rfl) number
    | some pair =>
      obtain ⟨queue, hfound, hsettle⟩ := Option.bind_eq_some_iff.1 hsettled
      rw [settled hsettled]
      exact getElem?_setIfInBounds_acts _ (hqueue ▸ hfound)
        (by rw [performs, hsettle]; rfl) number
  · have hnone : hub.queueOf? delivery = none := if_neg hholds
    have helsewhere : ¬ (delivery.queue = number ∧ hub.holds number = true) := by
      rintro ⟨rfl, hheld⟩
      exact hholds hheld
    rw [unsettled (by rw [hnone]; rfl), if_neg helsewhere]
    exact getElem?_map_performAll_nil hub.queues number

theorem queues_ack (hub : Hub) (delivery : Delivery) (number : Nat) :
    (hub.ack delivery).2.queues[number]? =
      (hub.queues[number]?).map fun queue =>
        queue.performAll (hub.acts number (.ack delivery)) := by
  refine queues_settle (fun queue => queue.ack delivery.token) (fun _ => rfl)
    (fun hnone => ?_) (fun {settlement changed} hsome => ?_) number
  · rw [ack, hnone]
  · rw [ack, hsome]
    exact queues_countSettlement _ _ _

theorem queues_nack (hub : Hub) (delivery : Delivery) (number : Nat) :
    (hub.nack delivery).2.queues[number]? =
      (hub.queues[number]?).map fun queue =>
        queue.performAll (hub.acts number (.nack delivery)) := by
  refine queues_settle (fun queue => queue.nack delivery.token) (fun _ => rfl)
    (fun hnone => ?_) (fun {settlement changed} hsome => ?_) number
  · rw [nack, hnone]
  · rw [nack, hsome]
    exact queues_countSettlement _ _ _

theorem queues_dropReads (hub : Hub) (held : Nat) (reader : UInt64) (number : Nat) :
    (hub.dropReads held reader).queues[number]? =
      (hub.queues[number]?).map fun queue =>
        queue.performAll (if held = number then [.drop reader] else []) := by
  rw [dropReads]
  cases hfound : hub.queues[held]? with
  | none =>
    by_cases hsame : held = number
    · rw [← hsame, hfound]
      rfl
    · rw [if_neg hsame]
      exact getElem?_map_performAll_nil hub.queues number
  | some queue =>
    show (resolveAll _ _ _).queues[number]? = _
    rw [queues_resolveAll]
    exact getElem?_setIfInBounds_acts (.drop reader) hfound rfl number

theorem queues_closeHandle (hub : Hub) (handle : Handle) (number : Nat) :
    (hub.closeHandle handle).queues[number]? =
      (hub.queues[number]?).map fun queue =>
        queue.performAll (hub.acts number (.closeHandle handle)) := by
  rw [closeHandle, acts, actsOfClosing]
  split
  next path isOpen error hhandle =>
    rw [hhandle]
    exact getElem?_map_performAll_nil hub.queues number
  next path group reader held error hhandle =>
    rw [hhandle]
    exact queues_dropReads hub held reader number
  next hnot hnone =>
    split
    next path group reader held error hhandle =>
      exact absurd hhandle (hnone path group reader held error)
    next => exact getElem?_map_performAll_nil hub.queues number

theorem queues_openHandle (hub : Hub) (handle : Handle) :
    (hub.openHandle handle).2.queues = hub.queues := by
  rw [openHandle]
  split
  · split <;> rfl
  · split <;> rfl
  · rfl

theorem queues_create (hub : Hub) (role : Role) : (hub.create role).2.queues = hub.queues := by
  unfold create
  split
  · rfl
  · split <;> rfl

/-! ### Administration -/

/-- Shutting queues down once more changes nothing, so that it does not matter how often. -/
theorem queues_shutQueues (hub : Hub) (numbers : List Nat) (number : Nat) :
    (hub.shutQueues numbers).queues[number]? =
      (hub.queues[number]?).map fun queue =>
        queue.performAll (if number ∈ numbers then [.shutDown] else []) := by
  rw [getElem?_shutQueues]
  refine congrArg (Option.map · _) (funext fun queue => ?_)
  split <;> rfl

theorem queues_createDestination (hub : Hub) (destination : DestinationSpec) :
    (hub.createDestination destination).2.queues = hub.queues := by
  rw [createDestination]
  split
  · rfl
  · split
    · rfl
    · split <;> rfl

theorem queues_deleteGroup (hub : Hub) (path name : String) (number : Nat) :
    (hub.deleteGroup path name).2.queues[number]? =
      (hub.queues[number]?).map fun queue =>
        queue.performAll (hub.acts number (.deleteGroup path name)) := by
  rw [deleteGroup, acts]
  split
  next hclosed =>
    rw [queueNumber?, if_pos hclosed, if_neg (by simp)]
    exact getElem?_map_performAll_nil hub.queues number
  next hopen =>
    split
    next hnone =>
      rw [hnone, if_neg (by simp)]
      exact getElem?_map_performAll_nil hub.queues number
    next held hsome =>
      have hshut := queues_shutQueues (hub.withGroups path fun groups =>
        groups.filter fun entry => entry.1 ≠ name) [held] number
      have hsame : (if some held = some number then [.shutDown] else []) =
          if number ∈ [held] then [Act.shutDown (δ := Bytes)] else [] := by
        simp only [Option.some.injEq, List.mem_singleton, eq_comm]
      rw [hsome, hsame]
      exact hshut

theorem queues_deleteDestination (hub : Hub) (path : String) (number : Nat) :
    (hub.deleteDestination path).2.queues[number]? =
      (hub.queues[number]?).map fun queue =>
        queue.performAll (hub.acts number (.deleteDestination path)) := by
  rw [deleteDestination, acts]
  split
  next hclosed =>
    rw [if_neg fun h => Bool.false_ne_true (h.1.symm.trans hclosed)]
    exact getElem?_map_performAll_nil hub.queues number
  next hopen =>
    have hisOpen : hub.closed = false := by simpa using hopen
    split
    next hnone =>
      rw [hnone, if_neg (by simp)]
      exact getElem?_map_performAll_nil hub.queues number
    next groups hsome =>
      rw [hsome, Option.getD_some]
      simp only [hisOpen, true_and]
      exact queues_shutQueues _ _ number

theorem queues_close (hub : Hub) (number : Nat) :
    hub.close.queues[number]? =
      (hub.queues[number]?).map fun queue => queue.performAll (hub.acts number .shutDown) := by
  rw [close, acts]
  split
  next hclosed =>
    rw [if_neg fun h => Bool.false_ne_true (h.1.symm.trans hclosed)]
    exact getElem?_map_performAll_nil hub.queues number
  next hopen =>
    have hisOpen : hub.closed = false := by simpa using hopen
    simp only [hisOpen, true_and]
    exact queues_shutQueues _ _ number

/-! ### All operations -/

/-- What becomes of the queues is told by what a call does to them, unless it creates one. -/
theorem queues_serve_of_ne (hub : Hub) {call : Call} (other : ∀ group, call ≠ .createGroup group)
    (number : Nat) : (hub.serve call).client.queues[number]? =
      (hub.queues[number]?).map fun queue => queue.performAll (hub.acts number call) := by
  have hsame : ∀ {after : Hub}, after.queues = hub.queues → after.queues[number]? =
      (hub.queues[number]?).map fun queue => queue.performAll [] := by
    intro after hqueues
    rw [hqueues]
    exact getElem?_map_performAll_nil hub.queues number
  cases call with
  | createDestination destination => exact hsame (hub.queues_createDestination destination)
  | createGroup group => exact absurd rfl (other group)
  | deleteGroup path name => exact hub.queues_deleteGroup path name number
  | deleteDestination path => exact hub.queues_deleteDestination path number
  | shutDown => exact hub.queues_close number
  | create role => exact hsame (hub.queues_create role)
  | openHandle handle => exact hsame (hub.queues_openHandle handle)
  | closeHandle handle => exact hub.queues_closeHandle handle number
  | release handle => exact hub.queues_closeHandle handle number
  | submit handle data => exact hub.queues_write handle data number
  | write handle data => exact hub.queues_write handle data number
  | request handle => exact hub.queues_request handle number
  | read handle => exact hub.queues_read handle number
  | ack delivery => exact hub.queues_ack delivery number
  | nack delivery => exact hub.queues_nack delivery number
  | lastError | receiptReady | takeReceipt | deliveryReady | takeDelivery => exact hsame rfl

/-- What becomes of a queue is told by what a call does to it. -/
theorem queues_serve {queue : Queue Bytes} (found : hub.queues[number]? = some queue)
    (call : Call) :
    (hub.serve call).client.queues[number]? = some (queue.performAll (hub.acts number call)) := by
  by_cases hgroup : ∃ group, call = .createGroup group
  · obtain ⟨group, rfl⟩ := hgroup
    show (hub.createGroup group).2.queues[number]? = some queue
    rcases hub.createGroup_cases group with ⟨-, hsame⟩ | ⟨-, hqueues, -⟩
    · rw [hsame, found]
    · have hlt := (Array.getElem?_eq_some_iff.1 found).1
      rw [hqueues, Array.getElem?_push, if_neg (Nat.ne_of_lt hlt), found]
  · rw [queues_serve_of_ne hub (fun group heq => hgroup ⟨group, heq⟩), found, Option.map_some]

/-- A queue that was not there before is created. -/
theorem created_of_serve (before : hub.queues[number]? = none) (call : Call)
    {queue : Queue Bytes} (found : (hub.serve call).client.queues[number]? = some queue) :
    ∃ maxDeliveries, queue = .create maxDeliveries hub.redeliverEvery := by
  by_cases hgroup : ∃ group, call = .createGroup group
  · obtain ⟨group, rfl⟩ := hgroup
    replace found : (hub.createGroup group).2.queues[number]? = some queue := found
    rcases hub.createGroup_cases group with ⟨-, hsame⟩ | ⟨-, hqueues, -⟩
    · rw [hsame, before] at found
      cases found
    · rw [hqueues, Array.getElem?_push] at found
      split at found
      · exact ⟨group.maxDeliveries, (Option.some.inj found).symm⟩
      · rw [before] at found
        cases found
  · rw [queues_serve_of_ne hub (fun group heq => hgroup ⟨group, heq⟩), before] at found
    cases found

theorem queues_operate {queue : Queue Bytes} (found : hub.queues[number]? = some queue)
    (operation : Operation) :
    (hub.operate operation).queues[number]? =
      some (queue.performAll (hub.actsOf number operation)) := by
  cases operation with
  | serve call => exact queues_serve found call
  | disown => exact queues_serve found .shutDown

/-- So is what becomes of it by any number of operations. -/
theorem queues_afterAll {queue : Queue Bytes} (found : hub.queues[number]? = some queue)
    (operations : List Operation) :
    (hub.afterAll operations).queues[number]? =
      some (queue.performAll (hub.actsOn number operations)) := by
  induction operations generalizing hub queue with
  | nil => exact found
  | cons operation rest ih =>
    rw [actsOn, Queue.performAll_append]
    exact ih (queues_operate found operation)

end Hub
end BrokerLoad
