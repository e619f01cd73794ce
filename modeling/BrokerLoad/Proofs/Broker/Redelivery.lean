import BrokerLoad.Proofs.Broker.Conservation
import BrokerLoad.Proofs.Broker.Duplicates
import BrokerLoad.Proofs.Broker.Order

/-!
# Injected redelivery drains

In a group that makes a duplicate with every so-manieth acknowledgement, duplicates are
acknowledged like all other messages and bring duplicates in turn.  Still they come to an end,
and it is known in advance how many there are (`redelivery_drains`).

At any moment the backlog is what was written and not acknowledged, and a duplicate for every
so many acknowledgements.  When it is empty the number of acknowledgements is thus a fixed
point: it is what was written and the duplicates of as many acknowledgements.  The equation has
two solutions if one of them is a multiple of the spacing.  That one is excluded, because the
last acknowledgement would have made a duplicate, and the backlog would not be empty.

Nothing is assumed of the calls that the hub has served but that no delivery of the group was
refused: which of them come first, whether a read is parked or finds a message, and how many
consumers there are does not matter.  Acknowledgements are counted by a word, and so are
tokens; all this holds until one of them comes back.
-/

namespace BrokerLoad

namespace Queue

variable {δ : Type} {q : Queue δ} {every : UInt32} {moved : Movement → Nat} {handed : Nat}

/-- What was put in and not acknowledged is in the queue. -/
theorem Balances.backlog_add_acked (balances : q.Balances moved handed 0)
    (hopen : q.closed = false) (hnacked : moved .nacked = 0) (few : handed < 2 ^ 64) :
    q.backlog + moved .acked = moved .copied + moved .resent := by
  have hput := balances.put
  have hkept := balances.kept few
  have hwhole := balances.whole hopen
  rw [backlog]
  omega

/-- The duplicates of an empty queue can be told from what was written. -/
theorem Duplicates.resent_eq (duplicates : q.Duplicates every moved)
    (balances : q.Balances moved handed 0) (hopen : q.closed = false) (hnacked : moved .nacked = 0)
    (few : handed < 2 ^ 64) (two : 2 ≤ every.toNat) (hempty : q.backlog = 0)
    (hsome : 0 < moved .copied) :
    moved .resent = (moved .copied - 1) / (every.toNat - 1) := by
  have hsettled := balances.settled
  have hall := balances.backlog_add_acked hopen hnacked few
  rw [hempty, Nat.zero_add] at hall
  have hresent := duplicates.resent hopen hnacked (by omega)
  have hbefore := duplicates.before hopen hnacked (by omega) (by omega)
  refine Hub.refused_eq two ?_ fun hdvd => ?_
  · rw [← hall]
    exact hresent
  · -- The last acknowledgement would have made one more duplicate than is accounted for.
    obtain ⟨last, hlast⟩ : ∃ last, moved .acked = last + 1 := ⟨moved .acked - 1, by omega⟩
    rw [← hall, hlast] at hdvd
    rw [hlast, Nat.succ_div, if_pos hdvd] at hresent
    rw [hlast, Nat.add_sub_cancel] at hbefore
    omega

end Queue

namespace Hub

/-! ## Copies and duplicates -/

/-- What calls put into a queue: those that settle a delivery, or those that do not. -/
def putBy (settling : Bool) (number : Nat) (hub : Hub) : List Call → List Bytes
  | [] => []
  | call :: calls =>
    (if call.isSettling = settling then putInto number (hub.entries call) else []) ++
      putBy settling number (hub.serve call).client calls

/-- The copies of accepted writes in a queue. -/
def writtenInto (number : Nat) (hub : Hub) (calls : List Call) : List Bytes :=
  putBy false number hub calls

/-- What went round again in a queue. -/
def resentInto (number : Nat) (hub : Hub) (calls : List Call) : List Bytes :=
  putBy true number hub calls

theorem perm_putInto (number : Nat) (hub : Hub) (calls : List Call) :
    (putInto number (hub.chronicle calls)).Perm
      (writtenInto number hub calls ++ resentInto number hub calls) := by
  induction calls generalizing hub with
  | nil => exact .refl []
  | cons call calls ih =>
    rw [chronicle, putInto_append, writtenInto, resentInto, putBy, putBy]
    cases call.isSettling with
    | false =>
      rw [if_pos rfl, if_neg Bool.false_ne_true, List.nil_append, List.append_assoc]
      exact (ih _).append_left _
    | true =>
      rw [if_neg (Ne.symm Bool.false_ne_true), if_pos rfl, List.nil_append]
      exact ((ih _).append_left _).trans (List.perm_append_comm_assoc _ _ _)

theorem length_putBy (number : Nat) (hub : Hub) (calls : List Call) :
    (writtenInto number hub calls).length = hub.movedIn (calls.map .serve) number .copied ∧
    (resentInto number hub calls).length = hub.movedIn (calls.map .serve) number .resent := by
  induction calls generalizing hub with
  | nil => exact ⟨rfl, rfl⟩
  | cons call calls ih =>
    obtain ⟨hwritten, hresent⟩ := ih (hub.serve call).client
    rw [List.map_cons, movedIn, Pi.add_apply, Pi.add_apply, Pi.add_apply, ← hwritten, ← hresent,
      writtenInto, resentInto, putBy, putBy, List.length_append, List.length_append, moved, moved]
    cases call.isSettling <;> exact ⟨rfl, rfl⟩

theorem after_eq_afterAll (hub : Hub) (calls : List Call) :
    hub.after calls = hub.afterAll (calls.map .serve) := by
  rw [after, afterAll, List.foldl_map]
  rfl

/-- Duplicates are told from acknowledgements, whatever calls a hub serves. -/
theorem Duplicates.after {hub : Hub} {moved : Nat → Movement → Nat}
    (duplicates : hub.Duplicates moved) (accounts : hub.Accounts moved) (calls : List Call) :
    (hub.after calls).Duplicates (moved + hub.movedIn (calls.map .serve)) := by
  induction calls generalizing hub moved with
  | nil => exact (add_zero moved).symm ▸ duplicates
  | cons call calls ih =>
    obtain ⟨handed, balances⟩ := accounts.balances
    rw [List.map_cons, movedIn, ← add_assoc]
    exact ih (duplicates.serve balances call) (accounts.serve call)

/-! ## Draining -/

/-- What has become of the messages of a group once its backlog is empty. -/
structure IsDrained (every acked : Nat) (written resent delivered : List Bytes) : Prop where
  sentRound : resent.length = (written.length - 1) / (every - 1)
  acks : acked = written.length + (written.length - 1) / (every - 1)
  deliveries : delivered.length = written.length + (written.length - 1) / (every - 1)
  /-- A message was delivered as often as it was written and sent round. -/
  each : delivered.Perm (written ++ resent)

/-- A group sends one message round again for every so many acknowledgements. -/
structure Redelivers (every backlog acked : Nat) (written resent delivered : List Bytes) :
    Prop where
  sentRound : resent.length = acked / every
  /-- What was written and how much was acknowledged determine the backlog. -/
  left : (backlog : Int) = written.length + (acked / every : Nat) - acked
  drained : backlog = 0 → written ≠ [] → IsDrained every acked written resent delivered

/-- What was put into an open queue was delivered or is ready. -/
theorem Tells.perm_deliveriesFrom {hub : Hub} {chronicle : List Entry}
    (tells : hub.Tells chronicle) {number : Nat} {queue : Queue Bytes}
    (hqueue : hub.queues[number]? = some queue) (hopen : queue.closed = false) :
    (putInto number chronicle).Perm
      ((hub.deliveriesFrom number chronicle).map Delivery.payload ++
        queue.ready.toList.map Message.data) := by
  obtain ⟨handed, served, hands⟩ := tells.inOrder.queues hqueue hopen
  have hpayloads : (handed.map (delivery number)).map Delivery.payload =
      handed.map Handover.payload := by
    rw [List.map_map]
    rfl
  rw [hands.ordered, ← hpayloads]
  exact (hands.once.map _).append_right _

section Drains

variable {hub : Hub} {moved : Nat → Movement → Nat} {chronicle : List Entry} {number : Nat}
  {written resent : List Bytes}

/-- The account of a hub, its duplicates and its chronicle together. -/
theorem redelivers_of_accounts (accounts : hub.Accounts moved) (duplicates : hub.Duplicates moved)
    (tells : hub.Tells chronicle) (two : 2 ≤ hub.redeliverEvery.toNat) {path group : String}
    (hgroup : hub.queueNumber? path group = some number) (hnacked : moved number .nacked = 0)
    (few : (hub.deliveriesFrom number chronicle).length < 2 ^ 64)
    (hwritten : written.length = moved number .copied)
    (hresent : resent.length = moved number .resent)
    (hput : (putInto number chronicle).Perm (written ++ resent)) :
    Redelivers hub.redeliverEvery.toNat (hub.backlog path group) (moved number .acked) written
      resent ((hub.deliveriesFrom number chronicle).map Delivery.payload) := by
  obtain ⟨queue, hqueue, hopen, hbacklog⟩ := accounts.named.backlog_eq hgroup
  obtain ⟨handed, hbalances⟩ := accounts.balances
  have balances := hbalances.queues hqueue
  have hqueued := duplicates.queues hqueue
  have hdelivered := hput.symm.trans (tells.perm_deliveriesFrom hqueue hopen)
  have hhanded : (hub.deliveriesFrom number chronicle).length = handed number := by
    have hlength := hdelivered.length_eq
    have hall := balances.put
    have hwhole := balances.whole hopen
    simp only [List.length_append, List.length_map, ← Fifo.size_eq_length] at hlength
    omega
  rw [hhanded] at few
  have hleft := balances.backlog_add_acked hopen hnacked few
  have hacked := balances.settled
  have hsent := hqueued.resent hopen hnacked (by omega)
  rw [hbacklog]
  refine { sentRound := hresent.trans hsent, left := by omega, drained := fun hempty hsome => ?_ }
  have hcopied : 0 < moved number .copied := hwritten ▸ List.length_pos_iff.2 hsome
  have hround := hqueued.resent_eq balances hopen hnacked few two hempty hcopied
  have hready : queue.ready.toList = [] := by
    rw [Queue.backlog, Fifo.size_eq_length] at hempty
    exact List.eq_nil_of_length_eq_zero (by omega)
  rw [hready, List.map_nil, List.append_nil] at hdelivered
  have hlength := hdelivered.length_eq
  rw [List.length_append] at hlength
  exact {
    sentRound := by rw [hresent, hwritten, hround]
    acks := by rw [hwritten, ← hround]; omega
    deliveries := by rw [← hlength, hresent, hwritten, hround]
    each := hdelivered.symm }

end Drains

theorem redeliverEvery_serve (hub : Hub) (call : Call) :
    (hub.serve call).client.redeliverEvery = hub.redeliverEvery := by
  by_cases hcall : ∃ delivery, call = .ack delivery
  · obtain ⟨delivery, rfl⟩ := hcall
    show (hub.ack delivery).2.redeliverEvery = _
    rw [ack]
    split
    · rfl
    · exact redeliverEvery_countSettlement _ _ _
  · exact (Alike.serve hub fun delivery heq => hcall ⟨delivery, heq⟩).redeliverEvery

theorem redeliverEvery_operate (hub : Hub) (operation : Operation) :
    (hub.operate operation).redeliverEvery = hub.redeliverEvery := by
  cases operation with
  | serve call => exact redeliverEvery_serve hub call
  | disown => exact redeliverEvery_serve hub .shutDown

theorem redeliverEvery_afterAll (hub : Hub) (operations : List Operation) :
    (hub.afterAll operations).redeliverEvery = hub.redeliverEvery := by
  induction operations generalizing hub with
  | nil => rfl
  | cons operation rest ih => exact (ih _).trans (redeliverEvery_operate hub operation)

theorem redeliverEvery_after (hub : Hub) (calls : List Call) :
    (hub.after calls).redeliverEvery = hub.redeliverEvery := by
  rw [after_eq_afterAll]
  exact redeliverEvery_afterAll hub _

/-- Injected redelivery drains, whatever calls a hub has served. -/
theorem redelivery_drains (throttleEvery redeliverEvery : UInt32) (two : 2 ≤ redeliverEvery.toNat)
    (calls : List Call) {path group : String} {number : Nat}
    (hgroup : (Hub.after { throttleEvery, redeliverEvery } calls).queueNumber? path group =
      some number)
    (hnacked : movedIn { throttleEvery, redeliverEvery } (calls.map .serve) number .nacked = 0)
    (few : ((Hub.after { throttleEvery, redeliverEvery } calls).deliveriesFrom number
      (chronicle { throttleEvery, redeliverEvery } calls)).length < 2 ^ 64) :
    Redelivers redeliverEvery.toNat
      ((Hub.after { throttleEvery, redeliverEvery } calls).backlog path group)
      (movedIn { throttleEvery, redeliverEvery } (calls.map .serve) number .acked)
      (writtenInto number { throttleEvery, redeliverEvery } calls)
      (resentInto number { throttleEvery, redeliverEvery } calls)
      (((Hub.after { throttleEvery, redeliverEvery } calls).deliveriesFrom number
        (chronicle { throttleEvery, redeliverEvery } calls)).map Delivery.payload) := by
  have hfresh := Accounts.fresh throttleEvery redeliverEvery
  have haccounts := accounts_afterAll hfresh (calls.map .serve)
  have hduplicates := (Duplicates.fresh throttleEvery redeliverEvery).after hfresh calls
  have hevery := redeliverEvery_after { throttleEvery, redeliverEvery } calls
  have htells := (leads_after _ calls [] (tells_fresh throttleEvery redeliverEvery)).1
  obtain ⟨hwritten, hresent⟩ := length_putBy number { throttleEvery, redeliverEvery } calls
  rw [zero_add] at hduplicates haccounts
  rw [← after_eq_afterAll] at haccounts
  have hall := redelivers_of_accounts haccounts hduplicates htells (hevery.symm ▸ two) hgroup
    hnacked few hwritten hresent (perm_putInto number _ calls)
  rw [hevery] at hall
  exact hall

/-- Three messages are written, with two readers and a duplicate for every second
acknowledgement.  The first one goes to a read that was parked.  The second and the third are
acknowledged as the second and the fourth delivery, and come again. -/
theorem redelivery_drains_three_written :
    let calls : List Call := [.createDestination { path := "orders" },
      .createGroup { destination := "orders", name := "billing" },
      .create (.publisher "orders"), .openHandle 0,
      .create (.consumer "orders" "billing" defaultPrefetch), .openHandle 1,
      .create (.consumer "orders" "billing" defaultPrefetch), .openHandle 2,
      .request 1, .write 0 [7], .write 0 [8], .ack { payload := [7], queue := 0, token := 1 },
      .read 2, .write 0 [9], .ack { payload := [8], queue := 0, token := 2 }, .read 1, .read 2,
      .ack { payload := [8], queue := 0, token := 4 },
      .ack { payload := [9], queue := 0, token := 3 }, .read 2,
      .ack { payload := [9], queue := 0, token := 5 }]
    let hub : Hub := { redeliverEvery := 2 }
    (hub.after calls).backlog "orders" "billing" = 0 ∧
      writtenInto 0 hub calls = [[7], [8], [9]] ∧ resentInto 0 hub calls = [[8], [9]] ∧
      IsDrained 2 5 [[7], [8], [9]] [[8], [9]]
        (((hub.after calls).deliveriesFrom 0 (hub.chronicle calls)).map Delivery.payload) := by
  intro calls hub
  have hdrains := redelivery_drains 0 2 (by decide) calls
    (show (hub.after calls).queueNumber? "orders" "billing" = some 0 by decide +kernel)
    (by decide +kernel) (by decide +kernel)
  have hempty : (hub.after calls).backlog "orders" "billing" = 0 := by decide +kernel
  have hwritten : writtenInto 0 hub calls = [[7], [8], [9]] := by decide +kernel
  have hresent : resentInto 0 hub calls = [[8], [9]] := by decide +kernel
  have hacked : hub.movedIn (calls.map .serve) 0 .acked = 5 := by decide +kernel
  rw [hwritten, hresent, hacked] at hdrains
  exact ⟨hempty, hwritten, hresent, hdrains.drained hempty nofun⟩

end Hub
end BrokerLoad
