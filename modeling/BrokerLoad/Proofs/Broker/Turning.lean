import BrokerLoad.Proofs.Broker.Movements
import Mathlib.Algebra.Group.Pi.Lemmas

/-!
# What a calm call moves

A write puts copies into the queues of a destination, all of which are open, because they can
be reached.  A read or a request hands a message over, and so does a write or a redelivery
that meets a parked request.  An acknowledgement or a refusal settles what is outstanding and
may send it round again.  All other calm calls move nothing.

For each of these calls the step is one of `Hub.Turns`: what it moves is what `Hub.moved` says,
and it is counted.
-/

namespace BrokerLoad
namespace Hub

/-! ## Calm calls -/

theorem counts_serveParked (hub : Hub) (number : Nat) (served : Option (Ticket × Handover Bytes)) :
    Counts hub.counts (hub.serveParked number served).counts 0 served.toList.length := by
  cases served with
  | none => exact .of_eq rfl rfl rfl rfl
  | some pair => exact { Counts.of_eq rfl rfl rfl rfl with deliveries := rfl }

theorem counts_resolveAll (answer : Awaited) (hub : Hub) (tickets : List Ticket) :
    (hub.resolveAll answer tickets).counts = hub.counts := by
  induction tickets generalizing hub with
  | nil => rfl
  | cons ticket rest ih => exact ih _

/-- What becomes of a settled delivery is counted. -/
theorem counts_countSettlement (hub : Hub) (number : Nat) {queue changed : Queue Bytes}
    {token : UInt64} {settlement : Queue.Settlement Bytes}
    (hsettles : queue.Settles token settlement changed) :
    Counts hub.counts (hub.countSettlement number settlement).counts
      (Pi.single .resent (queue.again token (some (settlement, changed))).length)
      settlement.served.toList.length := by
  cases hsettles with
  | aside acks hfind hdone =>
    cases settlement with
    | redelivered served => exact absurd rfl (hdone served)
    | done =>
      show Counts _ _ (Pi.single .resent 0) 0
      rw [Pi.single_zero]
      exact .of_eq rfl rfl rfl rfl
    | deadLettered =>
      show Counts _ _ (Pi.single .resent 0) 0
      rw [Pi.single_zero]
      exact .of_eq rfl rfl rfl rfl
  | again acks hfind =>
    have hserved : ∀ served : Option (Ticket × Handover Bytes), Counts hub.counts
        (hub.countSettlement number (.redelivered served)).counts (Pi.single .resent 1)
        served.toList.length := by
      intro served
      have hresent : Counts hub.counts
          { hub.counts with redeliveries := hub.counts.redeliveries + 1 } (Pi.single .resent 1) 0 :=
        { Counts.of_eq rfl rfl rfl rfl with redeliveries := rfl }
      have hboth := hresent.trans (counts_serveParked { hub with counts := { hub.counts with
        redeliveries := hub.counts.redeliveries + 1 } } number served)
      rw [add_zero, Nat.zero_add] at hboth
      exact hboth
    rw [Queue.again, hfind]
    exact hserved _

/-- A calm step throws nothing away. -/
theorem Calm.discards {before after : Hub} (calm : before.Calm after) (number : Nat) :
    before.discards after number = 0 := by
  have hflag := calm.queues number
  rw [Hub.discards]
  cases hbefore : before.queues[number]? with
  | none => rfl
  | some queue =>
    rw [hbefore] at hflag
    obtain ⟨later, hafter, hclosed⟩ := Option.map_eq_some_iff.1 hflag
    rw [hafter]
    dsimp only
    rw [hclosed, Bool.not_and_self, if_neg Bool.false_ne_true]

/-- A publisher that is open. -/
def IsOpenPublisher (hub : Hub) (handle : Handle) : Prop :=
  ∃ path error, hub.handles[handle]? = some (.publisher path true error)

/-- A write goes to the destination of a publisher, and nowhere if that is not open. -/
theorem write_cases (hub : Hub) (handle : Handle) (data : Bytes) :
    (∃ path, (∃ error, hub.handles[handle]? = some (.publisher path true error)) ∧
      hub.write handle data = hub.publish path data) ∨
    (¬ hub.IsOpenPublisher handle ∧ (hub.write handle data).1.status = .failed ∧
      (hub.write handle data).2 = hub) := by
  rw [write]
  split
  next path error hhandle => exact .inl ⟨path, ⟨error, hhandle⟩, rfl⟩
  next hnot =>
    refine .inr ⟨?_, rfl, rfl⟩
    rintro ⟨path, error, hhandle⟩
    exact hnot path error hhandle

namespace Turns

/-- Nothing is copied into no queues. -/
theorem count_nil : (fun number : Nat =>
    (Pi.single .copied (([] : List Nat).count number) : Movement → Nat)) = 0 :=
  funext fun _ => Pi.single_zero _

/-- A copy of a message is put into an open queue. -/
theorem pushTo (hub : Hub) (data : Bytes) {number : Nat}
    (hopen : ∃ queue, hub.queues[number]? = some queue ∧ queue.closed = false) :
    hub.Turns (hub.pushTo data number) (Pi.single number (Pi.single .copied 1)) := by
  obtain ⟨queue, hfound, hclosed⟩ := hopen
  have hpush : hub.pushTo data number =
      (hub.putQueue number (queue.push { data }).2).serveParked number (queue.push { data }).1 := by
    rw [Hub.pushTo, hfound]
  have hcounts := counts_serveParked (hub.putQueue number (queue.push { data }).2) number
    (queue.push { data }).1
  refine of_queue _ (queue.push { data }).1.toList.length hfound ?_ (desk_pushTo hub data number)
    (queue.closed_push _) ?_ fun balances => (balances.add (.inl rfl)).push hclosed _
  · rw [hpush, queues_serveParked]
    rfl
  · rw [hpush]
    exact ⟨hcounts.deliveries, hcounts.acks, hcounts.nacks, hcounts.redeliveries⟩

/-- A copy is put into each of some queues. -/
theorem pushAll (hub : Hub) (data : Bytes) {numbers : List Nat}
    (hopen : ∀ number ∈ numbers, ∃ queue, hub.queues[number]? = some queue ∧ queue.closed = false) :
    hub.Turns (numbers.foldl (fun hub number => hub.pushTo data number) hub)
      fun number => Pi.single .copied (numbers.count number) := by
  induction numbers generalizing hub with
  | nil =>
    rw [count_nil]
    exact refl hub
  | cons number rest ih =>
    have hfirst := pushTo hub data (hopen number List.mem_cons_self)
    have hrest := ih (hub.pushTo data number) fun other hother =>
      hfirst.calm.isOpen (hopen other (List.mem_cons_of_mem _ hother))
    have hsum : (fun other : Nat => (Pi.single .copied ((number :: rest).count other) :
        Movement → Nat)) = Pi.single number (Pi.single .copied 1) +
          fun other => Pi.single .copied (rest.count other) := by
      funext other
      rw [Pi.add_apply, List.count_cons, Nat.add_comm, Pi.single_add]
      by_cases hsame : number = other
      · subst hsame
        rw [Pi.single_eq_same, beq_self_eq_true, if_pos rfl]
      · rw [Pi.single_eq_of_ne (Ne.symm hsame), if_neg (by simpa using hsame), Pi.single_zero]
    rw [hsum]
    exact hfirst.trans hrest

theorem countWrite (hub : Hub) (status : WriteStatus) : hub.Turns (hub.countWrite status) 0 := by
  cases status <;> exact of_eq rfl rfl rfl (.of_eq rfl rfl rfl rfl)

theorem putHandle (hub : Hub) (handle : Handle) (state : HandleState) :
    hub.Turns (hub.putHandle handle state) 0 :=
  of_eq rfl rfl rfl (.of_eq rfl rfl rfl rfl)

theorem ticketFor (hub : Hub) (awaited : Awaited) : hub.Turns (hub.ticketFor awaited).2 0 :=
  of_eq rfl rfl rfl (.of_eq rfl rfl rfl rfl)

/-- A write puts a copy into the queue of each group of its destination, if it is accepted. -/
theorem publish {hub : Hub} (named : hub.IsNamed) (path : String) (data : Bytes) :
    hub.Turns (hub.publish path data).2 fun number => Pi.single .copied
      ((if (hub.publish path data).1.status = .ok then
        ((hub.groups? path).getD []).map Prod.snd else []).count number) := by
  rw [Hub.publish]
  split
  next => exact count_nil ▸ countWrite hub .failed
  next hopen =>
    cases hgroups : hub.groups? path with
    | none => exact count_nil ▸ countWrite hub .failed
    | some groups =>
      have hadmitted : hub.Turns { hub with writes := hub.writes + 1 } 0 :=
        of_eq rfl rfl rfl (.of_eq rfl rfl rfl rfl)
      dsimp only
      split
      next =>
        exact count_nil ▸ hadmitted.trans_idle (countWrite _ .throttled)
      next =>
        have hnumbers := fun number hnumber => named.isOpen (by simpa using hopen) number
          (mem_reachable_of_groups? hgroups hnumber)
        have hall := (hadmitted.trans (pushAll { hub with writes := hub.writes + 1 } data
          hnumbers)).trans_idle (countWrite _ .ok)
        rw [zero_add] at hall
        exact hall

/-- So does a write through a publisher that is open. -/
theorem write {hub : Hub} (named : hub.IsNamed) (handle : Handle) (data : Bytes) :
    hub.Turns (hub.write handle data).2 fun number =>
      Pi.single .copied ((hub.targets handle data).count number) := by
  rcases hub.write_cases handle data with
    ⟨path, ⟨error, hhandle⟩, hwrite⟩ | ⟨-, hstatus, hwrite⟩
  · have htargets : hub.targets handle data = if (hub.publish path data).1.status = .ok then
        ((hub.groups? path).getD []).map Prod.snd else [] := by
      rw [targets, hhandle, hwrite]
    rw [htargets, hwrite]
    exact publish named path data
  · have htargets : hub.targets handle data = [] := by
      rw [targets, hstatus]
      split <;> rfl
    rw [htargets, hwrite, count_nil]
    exact refl hub

theorem submit {hub : Hub} (named : hub.IsNamed) (handle : Handle) (data : Bytes) :
    hub.Turns (hub.submit handle data).2 fun number =>
      Pi.single .copied ((hub.targets handle data).count number) :=
  (write named handle data).trans_idle (of_eq rfl rfl rfl (.of_eq rfl rfl rfl rfl))

/-- A step at one queue that hands over and moves nothing else. -/
theorem hands {before after : Hub} {number : Nat} {queue changed : Queue Bytes} (already : Nat)
    (hfound : before.queues[number]? = some queue)
    (hqueues : after.queues = before.queues.setIfInBounds number changed)
    (hdesk : after.desk = before.desk) (hcounts : Counts before.counts after.counts 0 already)
    (hclosed : changed.closed = queue.closed)
    (hbalances : ∀ {moved handed}, queue.Balances moved handed 0 →
      changed.Balances moved (handed + already) 0) : before.Turns after 0 := by
  rw [← Pi.single_zero number]
  refine of_queue 0 already hfound hqueues hdesk hclosed hcounts fun balances => ?_
  rw [add_zero]
  exact hbalances balances

/-- A message is read. -/
theorem read (hub : Hub) (handle : Handle) : hub.Turns (hub.read handle).2 0 := by
  rw [Hub.read]
  split
  next => exact refl hub
  next number queue reader hheld =>
    have hclosed := queue.closed_read
    split
    next => exact refl hub
    next handover changed hread =>
      rw [hread] at hclosed
      refine hands 1 (found_of_heldQueue? hheld) rfl rfl
        { Counts.of_eq rfl rfl rfl rfl with deliveries := rfl } hclosed fun balances => ?_
      have hbalances := balances.read
      rw [hread] at hbalances
      exact hbalances

/-- A message is requested and there, or the request is parked. -/
theorem request (hub : Hub) (handle : Handle) : hub.Turns (hub.request handle).2 0 := by
  rw [Hub.request]
  split
  next => exact ticketFor hub .nothing
  next number queue reader hheld =>
    have hclosed := queue.closed_request reader hub.awaited.size
    split
    next => exact ticketFor hub .nothing
    next handover changed hrequest =>
      rw [hrequest] at hclosed
      refine hands 1 (found_of_heldQueue? hheld) rfl rfl
        { Counts.of_eq rfl rfl rfl rfl with deliveries := rfl } hclosed fun balances => ?_
      have hbalances := balances.request reader hub.awaited.size
      rw [hrequest] at hbalances
      exact hbalances
    next changed hrequest =>
      rw [hrequest] at hclosed
      refine hands 0 (found_of_heldQueue? hheld) rfl rfl (.of_eq rfl rfl rfl rfl) hclosed
        fun balances => ?_
      have hbalances := balances.request reader hub.awaited.size
      rw [hrequest] at hbalances
      exact hbalances

/-- Parked requests are dropped, because their reader closes. -/
theorem dropReads (hub : Hub) (number : Nat) (reader : UInt64) :
    hub.Turns (hub.dropReads number reader) 0 := by
  have hdesk := desk_dropReads hub number reader
  rw [Hub.dropReads] at hdesk ⊢
  split
  next => exact refl hub
  next queue hfound =>
    rw [hfound] at hdesk
    refine @hands hub _ number queue (queue.drop reader).2 0 hfound ?_ hdesk ?_ rfl
      fun balances => balances.drop reader
    · rw [queues_resolveAll]
      rfl
    · rw [counts_resolveAll]
      exact .of_eq rfl rfl rfl rfl

theorem closeHandle (hub : Hub) (handle : Handle) : hub.Turns (hub.closeHandle handle) 0 := by
  rw [Hub.closeHandle]
  split
  · exact putHandle hub handle _
  · exact (dropReads hub _ _).trans_idle (putHandle _ handle _)
  · exact refl hub

theorem openHandle (hub : Hub) (handle : Handle) : hub.Turns (hub.openHandle handle).2 0 := by
  rw [Hub.openHandle]
  split
  · split <;> exact putHandle hub handle _
  · split <;> exact putHandle hub handle _
  · exact refl hub

theorem create (hub : Hub) (role : Role) : hub.Turns (hub.create role).2 0 := by
  unfold Hub.create
  split
  · exact refl hub
  · split <;> exact of_eq rfl rfl rfl (.of_eq rfl rfl rfl rfl)

theorem release (hub : Hub) (handle : Handle) : hub.Turns (hub.release handle) 0 := by
  have hboth := (closeHandle hub handle).trans (putHandle _ handle .released)
  rw [add_zero] at hboth
  exact hboth

end Turns

/-! ## What calls move -/

theorem length_putInto_map (data : Bytes) (numbers : List Nat) (number : Nat) :
    (putInto number (numbers.map fun other => .put other data)).length = numbers.count number := by
  induction numbers with
  | nil => rfl
  | cons other rest ih =>
    rw [List.map_cons, ← List.singleton_append, putInto_append, List.length_append, ih,
      List.count_cons, Nat.add_comm]
    by_cases hsame : other = number
    · simp [putInto, Entry.put?, hsame]
    · simp [putInto, Entry.put?, hsame]

/-- A calm call that settles nothing moves copies only. -/
theorem moved_of_calm {hub : Hub} {call : Call} (hcall : call.isSettling = false)
    (calm : hub.Calm (hub.serve call).client) : hub.moved call =
      fun number => Pi.single .copied (putInto number (hub.entries call)).length := by
  have hnone : hub.settled? call = none := by
    cases call <;> first | rfl | cases hcall
  funext number way
  cases way <;> simp [moved, hcall, hnone, calm.discards]

/-- What is thrown away between two moments, and no other movement. -/
def thrownAway (before after : Hub) (number : Nat) : Movement → Nat :=
  Pi.single .discarded (before.discards after number)

/-- A call that settles nothing and puts nothing in throws away at most. -/
theorem moved_of_idle {hub : Hub} {call : Call} (hcall : call.isSettling = false)
    (hentries : hub.entries call = []) :
    hub.moved call = hub.thrownAway (hub.serve call).client := by
  have hnone : hub.settled? call = none := by
    cases call <;> first | rfl | cases hcall
  funext number way
  cases way <;> simp [moved, thrownAway, hcall, hnone, hentries, putInto]

/-- A call that settles nothing that is outstanding moves nothing. -/
theorem moved_of_not_settled {hub : Hub} {call : Call} (hcall : call.isSettling = true)
    (hnone : hub.settled? call = none) (hentries : hub.entries call = [])
    (calm : hub.Calm (hub.serve call).client) : hub.moved call = 0 := by
  funext number way
  cases way <;> simp [moved, hcall, hnone, hentries, putInto, calm.discards]

/-- A call that settles a delivery moves that, and what it sends round again. -/
theorem moved_of_settled {hub : Hub} {call : Call} {number : Nat} {way : Movement}
    {again : List Bytes} (hcall : call.isSettling = true) (hway : way = .acked ∨ way = .nacked)
    (hsettled : hub.settled? call = some (number, way))
    (hentries : hub.entries call = again.map (.put number))
    (calm : hub.Calm (hub.serve call).client) : hub.moved call =
      Pi.single number (Pi.single way 1 + Pi.single .resent again.length) := by
  funext other
  by_cases hsame : other = number
  · subst hsame
    rw [Pi.single_eq_same]
    funext kind
    rcases hway with rfl | rfl <;> cases kind <;>
      simp [moved, hcall, hsettled, hentries, calm.discards]
  · have hnone : putInto other (again.map (.put number)) = [] :=
      (nil_of_number_ne other fun entry hentry => by
        obtain ⟨data, -, rfl⟩ := List.mem_map.1 hentry
        exact Ne.symm hsame).1
    rw [Pi.single_eq_of_ne hsame]
    funext kind
    cases kind <;> simp [moved, hcall, hsettled, hentries, hnone, calm.discards, Ne.symm hsame]

/-- Nothing goes round again if nothing is settled. -/
theorem again_eq_nil {hub : Hub} {delivery : Delivery}
    {settle : Queue Bytes → Option (Queue.Settlement Bytes × Queue Bytes)}
    (hnone : (hub.queueOf? delivery).bind settle = none) : hub.again delivery settle = [] := by
  rw [again]
  cases hqueue : hub.queueOf? delivery with
  | none => rfl
  | some queue =>
    rw [hqueue, Option.bind_some] at hnone
    dsimp only
    rw [hnone]
    rfl

namespace Turns

/-- A delivery that is not outstanding is not settled. -/
theorem nothing {hub : Hub} {call : Call} (hcall : call.isSettling = true)
    (hnone : hub.settled? call = none) (hentries : hub.entries call = [])
    (hserved : (hub.serve call).client = hub) :
    hub.Turns (hub.serve call).client (hub.moved call) := by
  have hcalm : hub.Calm (hub.serve call).client := by
    rw [hserved]
    exact (refl hub).calm
  rw [moved_of_not_settled hcall hnone hentries hcalm, hserved]
  exact refl hub

/-- A delivery is settled, and may go round again. -/
theorem settle {hub : Hub} {call : Call} {number : Nat} {way : Movement} {token : UInt64}
    {queue changed : Queue Bytes} {settlement : Queue.Settlement Bytes} {counts : HubCounts}
    (hcall : call.isSettling = true) (hway : way = .acked ∨ way = .nacked)
    (hserved : (hub.serve call).client =
      ({ hub with counts := counts }.putQueue number changed).countSettlement number settlement)
    (hsettled : hub.settled? call = some (number, way))
    (hentries : hub.entries call =
      (queue.again token (some (settlement, changed))).map (.put number))
    (hfound : hub.queues[number]? = some queue)
    (hsettles : queue.Settles token settlement changed)
    (hcounts : Counts hub.counts counts (Pi.single way 1) 0)
    (hdesk : desk { hub with counts := counts } = hub.desk)
    (hbalances : ∀ {moved handed}, queue.Balances moved handed 0 → changed.Balances
      (moved + Pi.single way 1 +
        Pi.single .resent (queue.again token (some (settlement, changed))).length)
      (handed + settlement.served.toList.length) 0) :
    hub.Turns (hub.serve call).client (hub.moved call) := by
  have hagain := counts_countSettlement ({ hub with counts := counts }.putQueue number changed)
    number hsettles
  have hturns : hub.Turns (hub.serve call).client (Pi.single number (Pi.single way 1 +
      Pi.single .resent (queue.again token (some (settlement, changed))).length)) := by
    rw [hserved]
    refine of_queue _ settlement.served.toList.length hfound ?_
      ((desk_countSettlement _ _ _).trans hdesk) hsettles.closed ?_ fun balances => ?_
    · cases settlement with
      | redelivered served => exact queues_serveParked _ _ _
      | done => rfl
      | deadLettered => rfl
    · rw [← Nat.zero_add settlement.served.toList.length]
      exact hcounts.trans hagain
    · rw [← add_assoc]
      exact hbalances balances
  rw [moved_of_settled hcall hway hsettled hentries hturns.calm]
  exact hturns

/-- A delivery is acknowledged. -/
theorem ack (hub : Hub) (delivery : Delivery) :
    hub.Turns (hub.serve (.ack delivery)).client (hub.moved (.ack delivery)) := by
  cases hsettled : (hub.queueOf? delivery).bind fun queue => queue.ack delivery.token with
  | none =>
    have hack : hub.ack delivery = (false, hub) := by
      rw [Hub.ack, hsettled]
    exact nothing rfl (by rw [settled?, hack]; rfl) (again_eq_nil hsettled)
      (congrArg Prod.snd hack)
  | some pair =>
    obtain ⟨settlement, changed⟩ := pair
    obtain ⟨queue, hqueue, hack⟩ := Option.bind_eq_some_iff.1 hsettled
    have hcounts : Counts hub.counts { hub.counts with acks := hub.counts.acks + 1 }
        (Pi.single .acked 1) 0 := { Counts.of_eq rfl rfl rfl rfl with acks := rfl }
    have hserved : hub.ack delivery = (true, ({ hub with counts := { hub.counts with
        acks := hub.counts.acks + 1 } }.putQueue delivery.queue changed).countSettlement
          delivery.queue settlement) := by
      rw [Hub.ack, hsettled]
    refine settle rfl (.inl rfl) (congrArg Prod.snd hserved) (by rw [settled?, hserved]; rfl) ?_
      (found_of_queueOf? hqueue) (Queue.settles_of_ack hack) hcounts rfl
      fun balances => balances.ack hack
    rw [entries, Hub.again, hqueue]
    dsimp only
    rw [hack]

/-- A delivery is refused. -/
theorem nack (hub : Hub) (delivery : Delivery) :
    hub.Turns (hub.serve (.nack delivery)).client (hub.moved (.nack delivery)) := by
  cases hsettled : (hub.queueOf? delivery).bind fun queue => queue.nack delivery.token with
  | none =>
    have hnack : hub.nack delivery = (false, hub) := by
      rw [Hub.nack, hsettled]
    exact nothing rfl (by rw [settled?, hnack]; rfl) (again_eq_nil hsettled)
      (congrArg Prod.snd hnack)
  | some pair =>
    obtain ⟨settlement, changed⟩ := pair
    obtain ⟨queue, hqueue, hnack⟩ := Option.bind_eq_some_iff.1 hsettled
    have hcounts : Counts hub.counts { hub.counts with nacks := hub.counts.nacks + 1 }
        (Pi.single .nacked 1) 0 := { Counts.of_eq rfl rfl rfl rfl with nacks := rfl }
    have hserved : hub.nack delivery = (true, ({ hub with counts := { hub.counts with
        nacks := hub.counts.nacks + 1 } }.putQueue delivery.queue changed).countSettlement
          delivery.queue settlement) := by
      rw [Hub.nack, hsettled]
    refine settle rfl (.inr rfl) (congrArg Prod.snd hserved) (by rw [settled?, hserved]; rfl) ?_
      (found_of_queueOf? hqueue) (Queue.settles_of_nack hnack) hcounts rfl
      fun balances => balances.nack hnack
    rw [entries, Hub.again, hqueue]
    dsimp only
    rw [hnack]

end Turns

end Hub
end BrokerLoad
