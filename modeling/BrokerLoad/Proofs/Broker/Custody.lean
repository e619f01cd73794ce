import BrokerLoad.Proofs.Broker.Settling

/-!
# What a queue has in custody

In a queue without duplicates, a message that was put in is in one place: it is ready, or
outstanding, or it was acknowledged or given up.  `Queue.Custody` says so for messages that can be
told apart, as the *copies* of writes can.  A message knows how often it was delivered, wherever it
is, so one that is refused goes round again until it has been delivered as often as the queue
allows, and is given up then (`Queue.Custody.nack`).

A message that an operation has taken out of its place, and not yet put into another one, is
*loose*.
-/

namespace BrokerLoad
namespace Queue

variable {δ : Type} [DecidableEq δ]

/-- How often a copy was delivered. -/
def timesDelivered (story : List (Event δ)) (copy : δ) : Nat :=
  ((handovers story).map Handover.payload).count copy

/-- An open queue without duplicates has its copies in custody. -/
structure Custody (q : Queue δ) (limit : Nat) (story : List (Event δ)) (loose : List (Message δ))
    (displaced : List (Handover δ)) : Prop where
  tallies : q.Tallies story displaced
  isOpen : q.closed = false
  /-- The queue makes no duplicates. -/
  plain : q.redeliverEvery = 0
  limited : q.maxDeliveries.toNat = limit
  positive : 0 < limit
  unique : (puts story).Nodup
  /-- A copy is in one place. -/
  accounted : (puts story).Perm (loose.map Message.data ++ q.ready.toList.map Message.data ++
    q.outstanding.map Handover.payload ++ acked story ++ deadLettered story ++
      displaced.map Handover.payload)
  /-- A copy that waits knows how often it was delivered, and that is not as often as it may be. -/
  waiting : ∀ message ∈ loose ++ q.ready.toList,
    message.deliveries.toNat = timesDelivered story message.data ∧
      message.deliveries.toNat < limit
  /-- So does one that is outstanding, and it was delivered. -/
  delivered : ∀ entry ∈ q.unacked,
    entry.2.deliveries.toNat = timesDelivered story entry.2.data ∧
      1 ≤ entry.2.deliveries.toNat ∧ entry.2.deliveries.toNat ≤ limit
  /-- No copy is delivered more often than that. -/
  bounded : ∀ copy, timesDelivered story copy ≤ limit
  known : ∀ copy, copy ∉ puts story → timesDelivered story copy = 0

/-- What tells of no handover delivers nothing. -/
theorem timesDelivered_append_of_nil (story more : List (Event δ))
    (nothing : handovers more = []) (copy : δ) :
    timesDelivered (story ++ more) copy = timesDelivered story copy := by
  rw [timesDelivered, handovers_append, nothing, List.append_nil, timesDelivered]

theorem timesDelivered_append_handed (story : List (Event δ)) (handover : Handover δ) (copy : δ) :
    timesDelivered (story ++ [.handed handover]) copy =
      timesDelivered story copy + if handover.payload = copy then 1 else 0 := by
  have hhanded : handovers (story ++ [.handed handover]) = handovers story ++ [handover] :=
    handovers_append _ _
  rw [timesDelivered, hhanded, List.map_append, List.count_append, timesDelivered,
    List.map_singleton, List.count_singleton]
  simp only [beq_iff_eq]

theorem timesDelivered_handed_self (story : List (Event δ)) (handover : Handover δ) :
    timesDelivered (story ++ [.handed handover]) handover.payload =
      timesDelivered story handover.payload + 1 := by
  rw [timesDelivered_append_handed, if_pos rfl]

theorem timesDelivered_handed_of_ne (story : List (Event δ)) (handover : Handover δ) {copy : δ}
    (other : copy ≠ handover.payload) :
    timesDelivered (story ++ [.handed handover]) copy = timesDelivered story copy := by
  rw [timesDelivered_append_handed, if_neg (Ne.symm other), Nat.add_zero]

namespace Custody

variable {q after : Queue δ} {limit : Nat} {story : List (Event δ)} {loose : List (Message δ)}
  {displaced : List (Handover δ)} {message : Message δ}

theorem create (maxDeliveries : UInt32) : (Queue.create maxDeliveries 0 : Queue δ).Custody
    (max 1 maxDeliveries.toNat) [] [] [] where
  tallies := .create maxDeliveries 0
  isOpen := rfl
  plain := rfl
  limited := by
    show (if maxDeliveries = 0 then 1 else maxDeliveries).toNat = _
    split
    next hzero =>
      rw [hzero]
      rfl
    next hsome =>
      have hne : maxDeliveries.toNat ≠ 0 := fun hzero => hsome (UInt32.toNat_inj.1 hzero)
      omega
  positive := by omega
  unique := .nil
  accounted := .nil
  waiting := by
    intro message hmem
    cases hmem
  delivered := by
    intro entry hmem
    cases hmem
  bounded _ := Nat.zero_le _
  known _ _ := rfl

/-! ## What it says -/

/-- A loose copy is in no other place. -/
theorem ne_of_loose (custody : q.Custody limit story [message] displaced) :
    (∀ other ∈ q.ready.toList, other.data ≠ message.data) ∧
      ∀ entry ∈ q.unacked, entry.2.data ≠ message.data := by
  have hnodup := custody.accounted.nodup_iff.1 custody.unique
  simp only [List.map_singleton, List.cons_append, List.nil_append, List.append_assoc,
    List.nodup_cons, List.mem_append, not_or] at hnodup
  obtain ⟨⟨hready, hout, -⟩, -⟩ := hnodup
  constructor
  · intro other hother heq
    exact hready (heq ▸ List.mem_map_of_mem hother)
  · intro entry hentry heq
    refine hout (List.mem_map.2 ⟨⟨entry.1, entry.2.data⟩, ?_, heq⟩)
    exact List.mem_map.2 ⟨entry, hentry, rfl⟩

/-- A copy that is refused goes round again unless it was delivered as often as it may be, and is
given up if it was. -/
theorem nack (custody : q.Custody limit story [] displaced) {token : UInt64}
    (found : q.find? token = some message) :
    (timesDelivered story message.data < limit ∧
      ∃ served after, q.nack token = some (.redelivered served, after)) ∨
    (timesDelivered story message.data = limit ∧
      q.nack token = some (.deadLettered, q.settle token)) := by
  obtain ⟨htimes, -, hle⟩ := custody.delivered _ (mem_unacked_of_find? found)
  have hlimited := custody.limited
  have hopen : ¬ (q.settle token).closed = true := by
    show ¬ q.closed = true
    rw [custody.isOpen]
    exact Bool.false_ne_true
  rw [Queue.nack, found, Option.map_some]
  dsimp only at htimes hle ⊢
  rw [if_neg hopen]
  by_cases henough : q.maxDeliveries ≤ message.deliveries
  · have hmany := UInt32.le_iff_toNat_le.1 henough
    exact .inr ⟨by omega, by rw [if_pos (show (q.settle token).maxDeliveries ≤ _ from henough)]⟩
  · have hfew := UInt32.lt_iff_toNat_lt.1 (UInt32.not_le.1 henough)
    refine .inl ⟨by omega, ((q.settle token).push message).1, ((q.settle token).push message).2, ?_⟩
    rw [if_neg (show ¬ (q.settle token).maxDeliveries ≤ _ from henough)]

/-! ## Steps -/

/-- Nothing happens to any message. -/
theorem rests (custody : q.Custody limit story [] displaced) (rests : q.Rests after) :
    after.Custody limit story [] displaced := by
  have htallies := custody.tallies.of_eq rests.nextToken rests.unacked
    (rfl : handovers ([] : List (Event δ)) = []) rfl
  have houtstanding : after.outstanding = q.outstanding := by
    rw [Queue.outstanding, rests.unacked, Queue.outstanding]
  rw [List.append_nil] at htallies
  exact { custody with
    tallies := htallies
    isOpen := rests.closed.trans custody.isOpen
    plain := rests.redeliverEvery.trans custody.plain
    limited := rests.maxDeliveries ▸ custody.limited
    accounted := by
      rw [rests.ready, houtstanding]
      exact custody.accounted
    waiting := rests.ready ▸ custody.waiting
    delivered := rests.unacked ▸ custody.delivered }

/-- A new copy is about to be put in. -/
theorem put (custody : q.Custody limit story [] displaced) {data : δ}
    (new : data ∉ puts story) :
    q.Custody limit (story ++ [.put data]) [{ data }] displaced := by
  have hputs : puts (story ++ [.put data]) = puts story ++ [data] := puts_append _ _
  have htimes := timesDelivered_append_of_nil story [.put data] rfl
  refine { custody with
    tallies := custody.tallies.of_eq rfl rfl rfl rfl
    unique := ?_
    accounted := ?_
    waiting := ?_
    delivered := ?_
    bounded := fun copy => htimes copy ▸ custody.bounded copy
    known := ?_ }
  · rw [hputs]
    exact custody.unique.append (List.nodup_singleton _) (by simpa using new)
  · have hnone : acked [Event.put data] = [] ∧ deadLettered [Event.put data] = [] := ⟨rfl, rfl⟩
    rw [hputs, acked_append, deadLettered_append, hnone.1, hnone.2, List.append_nil,
      List.append_nil]
    exact List.perm_append_comm.trans (custody.accounted.cons data)
  · intro other hother
    rw [htimes]
    rcases List.mem_cons.1 hother with rfl | hold
    · exact ⟨(custody.known data new).symm, custody.positive⟩
    · exact custody.waiting other hold
  · intro entry hentry
    rw [htimes]
    exact custody.delivered entry hentry
  · intro copy hcopy
    rw [hputs, List.mem_append, not_or] at hcopy
    rw [htimes]
    exact custody.known copy hcopy.1

/-- A copy is taken out of the ready ones. -/
theorem pop (custody : q.Custody limit story [] displaced) {ready : Fifo (Message δ)}
    (popped : q.ready.pop? = some (message, ready)) :
    Custody { q with ready := ready } limit story [message] displaced := by
  have hready : q.ready.toList = message :: ready.toList := Fifo.toList_of_pop? popped
  have haccounted := custody.accounted
  have hwaiting := custody.waiting
  rw [hready] at haccounted hwaiting
  exact { custody with
    tallies := { custody.tallies with }
    accounted := haccounted
    waiting := hwaiting }

/-- A loose copy becomes ready. -/
theorem enqueue (custody : q.Custody limit story [message] displaced) :
    Custody { q with ready := q.ready.push message } limit story [] displaced := by
  refine { custody with
    tallies := { custody.tallies with }
    accounted := ?_
    waiting := ?_ }
  · refine custody.accounted.trans ?_
    simp only [List.append_assoc, Fifo.toList_push, List.map_append, List.map_nil, List.nil_append]
    exact List.perm_append_comm_assoc _ _ _
  · intro other hother
    rw [List.nil_append, Fifo.toList_push] at hother
    exact custody.waiting other (List.perm_append_comm.mem_iff.1 hother)

/-- The count of a loose copy is not at its end. -/
theorem toNat_succ (custody : q.Custody limit story [message] displaced) :
    (message.deliveries + 1).toNat = message.deliveries.toNat + 1 := by
  obtain ⟨-, hless⟩ := custody.waiting message List.mem_cons_self
  have hlimited := custody.limited
  have hword := q.maxDeliveries.toNat_lt
  rw [UInt32.toNat_add]
  exact Nat.mod_eq_of_lt (by show message.deliveries.toNat + 1 < 2 ^ 32; omega)

/-- A loose copy is handed over. -/
theorem deliver (custody : q.Custody limit story [message] displaced) :
    ∃ displaced, (q.deliver message).2.Custody limit (story ++ [.handed (q.deliver message).1]) []
      displaced := by
  obtain ⟨lost, htallies, hlost⟩ := custody.tallies.deliver message
  obtain ⟨hready, hunacked⟩ := custody.ne_of_loose
  obtain ⟨hknows, hless⟩ := custody.waiting message List.mem_cons_self
  have hothers : ∀ {copy}, copy ≠ message.data →
      timesDelivered (story ++ [.handed (q.deliver message).1]) copy =
        timesDelivered story copy :=
    timesDelivered_handed_of_ne story (q.deliver message).1
  have honce : timesDelivered (story ++ [.handed (q.deliver message).1]) message.data =
      timesDelivered story message.data + 1 :=
    timesDelivered_handed_self story (q.deliver message).1
  have hputs : puts (story ++ [.handed (q.deliver message).1]) = puts story :=
    (puts_append _ _).trans (List.append_nil _)
  have hsucc := custody.toNat_succ
  refine ⟨_, {
    tallies := htallies
    isOpen := custody.isOpen
    plain := custody.plain
    limited := custody.limited
    positive := custody.positive
    unique := hputs ▸ custody.unique
    accounted := ?_
    waiting := ?_
    delivered := ?_
    bounded := ?_
    known := ?_ }⟩
  · have hpayloads := hlost.map Handover.payload
    rw [hputs, acked_append, deadLettered_append]
    refine custody.accounted.trans (List.perm_iff_count.2 fun copy => ?_)
    have hcount := hpayloads.count_eq copy
    simp only [List.map_append, List.count_append, List.map_singleton, List.map_nil] at hcount ⊢
    have hnone : (acked [Event.handed (q.deliver message).1]).count copy = 0 ∧
        (deadLettered [Event.handed (q.deliver message).1]).count copy = 0 := ⟨rfl, rfl⟩
    have hsame : (q.deliver message).2.ready = q.ready ∧
        (q.deliver message).1.payload = message.data := ⟨rfl, rfl⟩
    rw [hnone.1, hnone.2, hsame.1, List.count_nil]
    rw [hsame.2] at hcount
    omega
  · intro other hother
    obtain ⟨hother', hlt⟩ := custody.waiting other (List.mem_cons_of_mem _ hother)
    rw [hothers (hready other hother)]
    exact ⟨hother', hlt⟩
  · intro entry hentry
    rcases mem_unacked_deliver hentry with hold | rfl
    · rw [hothers (hunacked entry hold)]
      exact custody.delivered entry hold
    · dsimp only
      rw [honce]
      omega
  · intro copy
    by_cases hcopy : copy = message.data
    · rw [hcopy, honce]
      omega
    · rw [hothers hcopy]
      exact custody.bounded copy
  · intro copy hcopy
    rw [hputs] at hcopy
    have hne : copy ≠ message.data := by
      rintro rfl
      refine hcopy (custody.accounted.mem_iff.2 ?_)
      simp
    rw [hothers hne]
    exact custody.known copy hcopy

/-- An outstanding delivery is settled: the copy is acknowledged, or given up, or loose. -/
theorem settle (custody : q.Custody limit story [] displaced) {token : UInt64}
    (found : q.find? token = some message) (acks : UInt64) {event : Event δ}
    (hput : event.put? = none) (hhanded : event.handed? = none)
    (hsettled : event.settled? = some ⟨token, message.data⟩)
    (goes : loose.map Message.data ++ acked [event] ++ deadLettered [event] = [message.data])
    (few : ∀ other ∈ loose, other = message ∧ message.deliveries < q.maxDeliveries) :
    Custody { q.settle token with acks := acks } limit (story ++ [event]) loose displaced := by
  have hputs : puts (story ++ [event]) = puts story := by
    rw [puts_append, puts, puts, List.filterMap_cons_none hput]
    exact List.append_nil _
  have hnone : handovers [event] = [] := by
    rw [handovers, List.filterMap_cons_none hhanded]
    rfl
  have htimes := timesDelivered_append_of_nil story _ hnone
  have hentry := mem_unacked_of_find? found
  refine { custody with
    tallies := custody.tallies.settle found acks hhanded hsettled
    unique := hputs ▸ custody.unique
    accounted := ?_
    waiting := ?_
    delivered := ?_
    bounded := fun copy => htimes copy ▸ custody.bounded copy
    known := fun copy hcopy => htimes copy ▸ custody.known copy (hputs ▸ hcopy) }
  · have hout := (perm_settle custody.tallies.distinct found).map fun entry => entry.2.data
    rw [hputs, acked_append, deadLettered_append]
    refine custody.accounted.trans (List.perm_iff_count.2 fun copy => ?_)
    have hcount := hout.count_eq copy
    have hgoes := congrArg (List.count copy) goes
    have hpayloads : ∀ q : Queue δ, q.outstanding.map Handover.payload =
        q.unacked.map fun entry => entry.2.data := by
      intro q
      rw [Queue.outstanding, List.map_map]
      rfl
    have hrest : Queue.outstanding { q.settle token with acks := acks } =
        (q.settle token).outstanding := rfl
    rw [List.map_cons, ← List.singleton_append, List.count_append] at hcount
    dsimp only at hcount
    simp only [List.count_append, hpayloads, hrest, List.map_nil, List.count_nil] at hgoes ⊢
    show _ = List.count copy (List.map Message.data loose) +
      List.count copy (List.map Message.data q.ready.toList) + _ + _ + _ + _
    omega
  · intro other hother
    rw [htimes]
    rcases List.mem_append.1 hother with hloose | hready
    · obtain ⟨rfl, hlt⟩ := few other hloose
      obtain ⟨hknows, -⟩ := custody.delivered _ hentry
      exact ⟨hknows, custody.limited ▸ UInt32.lt_iff_toNat_lt.1 hlt⟩
    · exact custody.waiting other hready
  · intro entry hmem
    rw [htimes]
    exact custody.delivered entry (List.mem_of_mem_filter hmem)

/-- A loose copy is placed. -/
theorem places (custody : q.Custody limit story [message] displaced) {placed : List (Event δ)}
    (places : q.Places message placed after) :
    ∃ displaced, after.Custody limit (story ++ placed) [] displaced := by
  cases places with
  | queued => exact ⟨displaced, (List.append_nil story).symm ▸ custody.enqueue⟩
  | handed rest =>
    have hserved : Custody { q with parked := rest } limit story [message] displaced :=
      { custody with tallies := { custody.tallies with } }
    exact hserved.deliver

/-- Whatever happens in a queue that stays open, it keeps its copies in custody. -/
theorem passes (custody : q.Custody limit story [] displaced) {events : List (Event δ)}
    (passes : q.Passes events after) (stays : after.closed = false)
    (unique : (puts (story ++ events)).Nodup) :
    ∃ displaced, after.Custody limit (story ++ events) [] displaced := by
  cases passes with
  | rests rests => exact ⟨displaced, (List.append_nil story).symm ▸ custody.rests rests⟩
  | shuts => cases stays
  | puts data isOpen places =>
    rw [List.append_cons, puts_append, puts_append] at unique
    have hnew : data ∉ puts story := by
      intro hmem
      have hboth := (List.nodup_append.1 (List.nodup_append.1 unique).1).2.2
      exact hboth _ hmem data List.mem_cons_self rfl
    rw [List.append_cons]
    exact (custody.put hnew).places places
  | reads isOpen popped => exact (custody.pop popped).deliver
  | leaves found acks => exact ⟨_, custody.settle found acks rfl rfl rfl rfl (by simp)⟩
  | duplicates found acks spaced isOpen served places => exact absurd custody.plain spaced
  | givesUp found enough =>
    exact ⟨_, custody.settle found q.acks rfl rfl rfl rfl (by simp)⟩
  | forgets found shut => exact absurd (custody.isOpen.symm.trans shut) nofun
  | @returns token message found few isOpen served placed after places =>
    have hloose : (q.settle token).Custody limit
        (story ++ [.nacked token message.data (.redelivered served)]) [message] displaced :=
      custody.settle found q.acks rfl rfl rfl rfl fun other hother =>
        ⟨List.mem_singleton.1 hother, few⟩
    rw [List.append_cons]
    exact hloose.places places

end Custody

/-- A queue has its copies in custody as long as it is open. -/
theorem custody_performAll (maxDeliveries : UInt32) (acts : List (Act δ))
    (isOpen : ((Queue.create maxDeliveries 0 : Queue δ).performAll acts).closed = false)
    (unique : (puts ((Queue.create maxDeliveries 0 : Queue δ).story acts)).Nodup) :
    ∃ displaced, ((Queue.create maxDeliveries 0 : Queue δ).performAll acts).Custody
      (max 1 maxDeliveries.toNat) ((Queue.create maxDeliveries 0 : Queue δ).story acts) []
        displaced := by
  refine performAll_induction (P := fun q story => q.closed = false → (puts story).Nodup →
    ∃ displaced, q.Custody (max 1 maxDeliveries.toNat) story [] displaced)
    [] (fun _ _ => ⟨[], .create maxDeliveries⟩) acts ?_ isOpen unique
  intro q told act _ hcustody hopen hunique
  have hpasses := q.passes_perform act
  have hbefore : (puts told).Nodup := by
    rw [puts_append] at hunique
    exact (List.nodup_append.1 hunique).1
  obtain ⟨displaced, hheld⟩ := hcustody (hpasses.isOpen hopen) hbefore
  exact hheld.passes hpasses hopen hunique

end Queue
end BrokerLoad
