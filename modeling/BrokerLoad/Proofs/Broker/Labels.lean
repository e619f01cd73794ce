import BrokerLoad.Proofs.Broker.Stories

/-!
# Messages with labels

A queue never looks at what its messages carry.  So they may carry labels besides, and what becomes
of a queue whose messages carry labels is, but for the labels, what becomes of it without them
(`Queue.map_performAll`, `Queue.map_story`).

With labels, two messages of the same content can be told apart.  `Queue.labelled` labels what is
put into a queue by the place of the act that puts it in (`Queue.nodup_puts_labelled`).
-/

namespace BrokerLoad

/-! ## What is carried -/

namespace Fifo

variable {α β : Type}

/-- The sequence of the values. -/
def map (f : α → β) (q : Fifo α) : Fifo β where
  front := q.front.map f
  back := q.back.map f
  size := q.size
  size_eq := by simp [q.size_eq]

theorem pop?_map (f : α → β) (q : Fifo α) :
    (q.map f).pop? = q.pop?.map (Prod.map f (map f)) := by
  obtain ⟨front, back, size, hsize⟩ := q
  cases front with
  | cons a front => rfl
  | nil =>
    unfold pop? map
    dsimp only
    split
    next a rest hcons => cases hcons
    next =>
      split
      next a rest hback =>
        split
        next a' rest' hback' =>
          rw [← List.map_reverse, hback'] at hback
          cases hback
          rfl
        next hnone =>
          rw [← List.map_reverse, hnone] at hback
          cases hback
      next hnone =>
        split
        next a' rest' hback' =>
          rw [← List.map_reverse, hback'] at hnone
          cases hnone
        next => rfl

end Fifo

/-- A message that carries something else. -/
def Message.map {δ ε : Type} (f : δ → ε) (message : Message δ) : Message ε :=
  ⟨f message.data, message.deliveries⟩

def Handover.map {δ ε : Type} (f : δ → ε) (handover : Handover δ) : Handover ε :=
  ⟨handover.token, f handover.payload⟩

namespace Queue

variable {δ ε : Type}

def Settlement.map (f : δ → ε) : Settlement δ → Settlement ε
  | .done => .done
  | .redelivered served => .redelivered (served.map (Prod.map id (Handover.map f)))
  | .deadLettered => .deadLettered

def Act.map (f : δ → ε) : Act δ → Act ε
  | .put data => .put (f data)
  | .read => .read
  | .request reader ticket => .request reader ticket
  | .ack token => .ack token
  | .nack token => .nack token
  | .drop reader => .drop reader
  | .shutDown => .shutDown

def Event.map (f : δ → ε) : Event δ → Event ε
  | .put data => .put (f data)
  | .handed handover => .handed (handover.map f)
  | .acked token data settlement => .acked token (f data) (settlement.map f)
  | .nacked token data settlement => .nacked token (f data) (settlement.map f)

/-- A queue whose messages carry something else. -/
def map (f : δ → ε) (q : Queue δ) : Queue ε where
  maxDeliveries := q.maxDeliveries
  redeliverEvery := q.redeliverEvery
  ready := q.ready.map (Message.map f)
  parked := q.parked
  unacked := q.unacked.map (Prod.map id (Message.map f))
  nextToken := q.nextToken
  acks := q.acks
  closed := q.closed

/-! ## Operations do not look at it -/

section Operations

variable (f : δ → ε) (q : Queue δ)

theorem find?_map (token : UInt64) :
    (q.map f).find? token = (q.find? token).map (Message.map f) := by
  show (q.unacked.map _).lookup token = (q.unacked.lookup token).map _
  induction q.unacked with
  | nil => rfl
  | cons entry rest ih =>
    rw [List.map_cons, List.lookup_cons, List.lookup_cons, ih]
    show (match token == entry.1 with | true => _ | false => _) = _
    cases token == entry.1 <;> rfl

theorem map_settle (token : UInt64) : (q.settle token).map f = (q.map f).settle token := by
  have hunacked : (q.unacked.filter fun entry => entry.1 ≠ token).map
      (Prod.map id (Message.map f)) =
        (q.unacked.map (Prod.map id (Message.map f))).filter fun entry => entry.1 ≠ token := by
    rw [List.filter_map]
    rfl
  rw [settle, settle, map, hunacked]
  rfl

theorem deliver_map (message : Message δ) : (q.map f).deliver (message.map f) =
    ((q.deliver message).1.map f, (q.deliver message).2.map f) := by
  have hused : ((q.map f).find? (q.map f).nextToken).isSome = (q.find? q.nextToken).isSome := by
    rw [find?_map, Option.isSome_map]
    rfl
  rw [deliver, deliver, hused]
  by_cases hfree : (q.find? q.nextToken).isSome = true
  · rw [if_pos hfree, if_pos hfree]
    rfl
  · rw [if_neg hfree, if_neg hfree, map, map, List.map_append]
    rfl

theorem push_map (message : Message δ) : (q.map f).push (message.map f) =
    ((q.push message).1.map (Prod.map id (Handover.map f)), (q.push message).2.map f) := by
  have hclosed : (q.map f).closed = q.closed := rfl
  have hparked : (q.map f).parked = q.parked := rfl
  rw [push, push, hclosed, hparked]
  by_cases hshut : q.closed = true
  · rw [if_pos hshut, if_pos hshut]
    rfl
  · rw [if_neg hshut, if_neg hshut]
    cases q.parked with
    | nil => rfl
    | cons read rest =>
      have hserved := deliver_map f { q with parked := rest } message
      exact congrArg (fun pair => (some (read.ticket, pair.1), pair.2)) hserved

theorem read_map : (q.map f).read = (q.read.1.map (Handover.map f), q.read.2.map f) := by
  have hclosed : (q.map f).closed = q.closed := rfl
  have hpop : (q.map f).ready.pop? = q.ready.pop?.map (Prod.map (Message.map f) (Fifo.map _)) :=
    Fifo.pop?_map _ _
  rw [read, read, hclosed, hpop]
  by_cases hshut : q.closed = true
  · rw [if_pos hshut, if_pos hshut]
    rfl
  · rw [if_neg hshut, if_neg hshut]
    cases q.ready.pop? with
    | none => rfl
    | some popped =>
      have hhanded := deliver_map f { q with ready := popped.2 } popped.1
      exact congrArg (fun pair => (some pair.1, pair.2)) hhanded

/-- What becomes of a read that does not wait. -/
def Requested.map : Requested δ → Requested ε
  | .answered handover => .answered (handover.map (Handover.map f))
  | .parked => .parked

theorem request_map (reader : UInt64) (ticket : Ticket) : (q.map f).request reader ticket =
    ((q.request reader ticket).1.map f, (q.request reader ticket).2.map f) := by
  have hclosed : (q.map f).closed = q.closed := rfl
  have hpop : (q.map f).ready.pop? = q.ready.pop?.map (Prod.map (Message.map f) (Fifo.map _)) :=
    Fifo.pop?_map _ _
  rw [request, request, hclosed, hpop]
  by_cases hshut : q.closed = true
  · rw [if_pos hshut, if_pos hshut]
    rfl
  · rw [if_neg hshut, if_neg hshut]
    cases q.ready.pop? with
    | none => rfl
    | some popped =>
      have hhanded := deliver_map f { q with ready := popped.2 } popped.1
      exact congrArg (fun pair => (Requested.answered (some pair.1), pair.2)) hhanded

theorem ack_map (token : UInt64) : (q.map f).ack token =
    (q.ack token).map (Prod.map (Settlement.map f) (map f)) := by
  rw [ack, ack, find?_map, Option.map_map, Option.map_map]
  refine congrArg (Option.map · (q.find? token)) (funext fun message => ?_)
  have hsettled : { (q.map f).settle token with acks := (q.map f).acks + 1 } =
      map f { q.settle token with acks := q.acks + 1 } := by
    rw [← map_settle]
    rfl
  have hpushed := (congrArg (fun queue => queue.push (message.map f)) hsettled).trans
    (push_map f { q.settle token with acks := q.acks + 1 } message)
  dsimp only at hpushed
  by_cases hagain : (!q.closed && (q.settle token).duplicates (q.acks + 1)) = true
  · refine (if_pos hagain).trans (Eq.trans ?_
      (congrArg (Prod.map (Settlement.map f) (map f)) (if_pos hagain)).symm)
    exact congrArg (fun pair => (Settlement.redelivered pair.1, pair.2)) hpushed
  · refine (if_neg hagain).trans (Eq.trans ?_
      (congrArg (Prod.map (Settlement.map f) (map f)) (if_neg hagain)).symm)
    exact congrArg (Prod.mk Settlement.done) hsettled

theorem nack_map (token : UInt64) : (q.map f).nack token =
    (q.nack token).map (Prod.map (Settlement.map f) (map f)) := by
  rw [nack, nack, find?_map, Option.map_map, Option.map_map]
  refine congrArg (Option.map · (q.find? token)) (funext fun message => ?_)
  have hpushed := push_map f (q.settle token) message
  dsimp only [Function.comp]
  rw [← map_settle]
  show (if q.closed = true then _ else if q.maxDeliveries ≤ message.deliveries then _ else _) =
    Prod.map _ _ (if q.closed = true then _
      else if q.maxDeliveries ≤ message.deliveries then _ else _)
  by_cases hshut : q.closed = true
  · rw [if_pos hshut, if_pos hshut]
    rfl
  · rw [if_neg hshut, if_neg hshut]
    by_cases henough : q.maxDeliveries ≤ message.deliveries
    · rw [if_pos henough, if_pos henough]
      rfl
    · rw [if_neg henough, if_neg henough]
      exact congrArg (fun pair => (Settlement.redelivered pair.1, pair.2)) hpushed

end Operations

/-! ## What is done, and what happens -/

section Acts

variable (f : δ → ε) (q : Queue δ)

theorem map_perform (act : Act δ) : (q.perform act).map f = (q.map f).perform (act.map f) := by
  cases act with
  | put data => exact (congrArg Prod.snd (q.push_map f { data })).symm
  | read => exact (congrArg Prod.snd (q.read_map f)).symm
  | request reader ticket => exact (congrArg Prod.snd (q.request_map f reader ticket)).symm
  | ack token =>
    rw [perform, Act.map, perform, ack_map, Option.map_map]
    cases q.ack token <;> rfl
  | nack token =>
    rw [perform, Act.map, perform, nack_map, Option.map_map]
    cases q.nack token <;> rfl
  | drop reader => rfl
  | shutDown => rfl

/-- So is what it becomes by any number of acts. -/
theorem map_performAll (acts : List (Act δ)) :
    (q.performAll acts).map f = (q.map f).performAll (acts.map (Act.map f)) := by
  induction acts generalizing q with
  | nil => rfl
  | cons act acts ih => rw [performAll_cons, ih, map_perform, List.map_cons, performAll_cons]

theorem map_ofServed (served : Option (Ticket × Handover δ)) :
    (Event.ofServed served).map (Event.map f) =
      Event.ofServed (served.map (Prod.map id (Handover.map f))) := by
  cases served <;> rfl

theorem map_ofSettled {event : δ → Settlement δ → Event δ} {event' : ε → Settlement ε → Event ε}
    (same : ∀ data settlement,
      (event data settlement).map f = event' (f data) (settlement.map f))
    (found : Option (Message δ)) (settled : Option (Settlement δ × Queue δ)) :
    (Event.ofSettled event found settled).map (Event.map f) =
      Event.ofSettled event' (found.map (Message.map f))
        (settled.map (Prod.map (Settlement.map f) (map f))) := by
  cases found with
  | none => rfl
  | some message =>
    cases settled with
    | none => rfl
    | some pair =>
      obtain ⟨settlement, after⟩ := pair
      rw [Event.ofSettled, List.map_cons, same, map_ofServed]
      cases settlement <;> rfl

theorem map_events (act : Act δ) :
    (q.events act).map (Event.map f) = (q.map f).events (act.map f) := by
  cases act with
  | put data =>
    have hpushed : (q.map f).push { data := f data } = _ := q.push_map f { data }
    rw [events, List.map_append, map_ofServed, Act.map, events, hpushed]
    show _ = (if q.closed = true then _ else _) ++ _
    cases q.closed <;> rfl
  | read =>
    rw [events, Act.map, events, read_map]
    cases q.read.1 <;> rfl
  | request reader ticket =>
    rw [events, Act.map, events, request_map]
    cases (q.request reader ticket).1 with
    | answered handover => cases handover <;> rfl
    | parked => rfl
  | ack token =>
    rw [events, Act.map, events, ack_map, find?_map]
    exact map_ofSettled f (fun _ _ => rfl) _ _
  | nack token =>
    rw [events, Act.map, events, nack_map, find?_map]
    exact map_ofSettled f (fun _ _ => rfl) _ _
  | drop reader => rfl
  | shutDown => rfl

/-- So is its story. -/
theorem map_story (acts : List (Act δ)) :
    (q.story acts).map (Event.map f) = (q.map f).story (acts.map (Act.map f)) := by
  induction acts generalizing q with
  | nil => rfl
  | cons act acts ih =>
    rw [story, List.map_append, ih, map_events, map_perform, List.map_cons, story]

end Acts

/-! ## Labels -/

/-- What is put in by an act, if anything is. -/
def Act.put? : Act δ → Option δ
  | .put data => some data
  | _ => none

/-- The acts with labels: what is put in is labelled by the place of the act. -/
def labelled (acts : List (Act δ)) : List (Act (δ × Nat)) :=
  acts.zipIdx.map fun pair => pair.1.map fun data => (data, pair.2)

theorem map_fst_labelled (acts : List (Act δ)) : (labelled acts).map (Act.map Prod.fst) = acts := by
  have hsame : ∀ pair : Act δ × Nat,
      ((pair.1.map fun data => (data, pair.2)).map Prod.fst) = pair.1 := by
    rintro ⟨act, label⟩
    cases act <;> rfl
  rw [labelled, List.map_map]
  exact (List.map_congr_left fun pair _ => hsame pair).trans (List.zipIdx_map_fst 0 acts)

/-- Nothing is put in but by an act that does so. -/
theorem puts_events_sublist (q : Queue δ) (act : Act δ) :
    (puts (q.events act)).Sublist act.put?.toList := by
  have hserved : ∀ served : Option (Ticket × Handover δ), puts (Event.ofServed served) = [] := by
    intro served
    cases served <;> rfl
  have hsettled : ∀ {event : δ → Settlement δ → Event δ} (found : Option (Message δ))
      (settled : Option (Settlement δ × Queue δ)),
      (∀ data settlement, (event data settlement).put? = none) →
        puts (Event.ofSettled event found settled) = [] := by
    intro event found settled hnone
    cases found with
    | none => rfl
    | some message =>
      cases settled with
      | none => rfl
      | some pair =>
        rw [Event.ofSettled, puts, List.filterMap_cons_none (hnone _ _)]
        exact hserved _
  cases act with
  | put data =>
    rw [events, puts_append, hserved, List.append_nil]
    cases q.closed
    · exact .refl _
    · exact List.nil_sublist _
  | read =>
    rw [events]
    cases q.read.1 <;> exact .refl _
  | request reader ticket =>
    rw [events]
    cases (q.request reader ticket).1 with
    | answered handover => cases handover <;> exact .refl _
    | parked => exact .refl _
  | ack token =>
    have hnone : puts (q.events (.ack token)) = [] := hsettled _ _ fun _ _ => rfl
    exact hnone ▸ .refl _
  | nack token =>
    have hnone : puts (q.events (.nack token)) = [] := hsettled _ _ fun _ _ => rfl
    exact hnone ▸ .refl _
  | drop reader => exact .refl _
  | shutDown => exact .refl _

theorem puts_story_sublist (q : Queue δ) (acts : List (Act δ)) :
    (puts (q.story acts)).Sublist (acts.filterMap Act.put?) := by
  induction acts generalizing q with
  | nil => exact .refl _
  | cons act acts ih =>
    have hcons : (act :: acts).filterMap Act.put? = act.put?.toList ++ acts.filterMap Act.put? := by
      rw [List.filterMap_cons]
      cases act.put? <;> rfl
    rw [story, puts_append, hcons]
    exact (q.puts_events_sublist act).append (ih _)

/-- What is put in with labels can be told apart. -/
theorem nodup_puts_labelled (q : Queue (δ × Nat)) (acts : List (Act δ)) :
    (puts (q.story (labelled acts))).Nodup := by
  refine (puts_story_sublist q (labelled acts)).nodup (List.Nodup.of_map Prod.snd ?_)
  have hlabels : ((labelled acts).filterMap Act.put?).map Prod.snd =
      acts.zipIdx.filterMap fun pair => pair.1.put?.map fun _ => pair.2 := by
    rw [labelled, List.filterMap_map, List.map_filterMap]
    refine List.filterMap_congr fun pair _ => ?_
    obtain ⟨act, label⟩ := pair
    cases act <;> rfl
  have hsublist : (acts.zipIdx.filterMap fun pair => pair.1.put?.map fun _ => pair.2).Sublist
      (acts.zipIdx.map Prod.snd) := by
    induction acts.zipIdx with
    | nil => exact .refl _
    | cons pair rest ih =>
      rw [List.filterMap_cons, List.map_cons]
      cases pair.1.put? with
      | none => exact ih.cons _
      | some data => exact ih.cons_cons _
  rw [hlabels]
  refine hsublist.nodup ?_
  rw [List.zipIdx_map_snd]
  exact List.nodup_range'

end Queue
end BrokerLoad
