import BrokerLoad.Proofs.Crew.Writing

/-!
# No delivery is taken in twice

A delivery is handed over once, and so it is noted once: it is at a ticket that one worker
waits at, or in the hands of one worker, or was noted.  `Placed` says so for each delivery,
as a bound; deliveries that nobody waits for any more are in none of these places.

`Reading` adds what becomes of the ids of what was noted.  The first time that an id is
noted it is new, and every other time it is a repeat (`Reading.repeats`); a delivery is
acknowledged only after its id was noted (`Reading.settled`); and a repeat is counted only
after it was one (`Reading.counted`).
-/

namespace BrokerLoad

/-- The id that a delivery carries, if it carries an envelope. -/
def Delivery.id? (delivery : Delivery) : Option UInt64 := delivery.payload.id?

namespace Item

/-- The ticket that an item waits at, if it does. -/
def ticket? : Item → Option Ticket
  | .waiting ticket => some ticket
  | _ => none

/-- The delivery in an item whose id was not noted, if there is one. -/
def parcel? : Item → Option Delivery
  | .arrived delivery => some delivery
  | .noting _ delivery => some delivery
  | _ => none

/-- Whether an item is what it says: the id to be noted is that of the delivery, and what is
about to be acknowledged was noted. -/
def IsSound (noted : List Delivery) : Item → Prop
  | .noting id delivery => delivery.id? = some id
  | .acking _ delivery => delivery ∈ noted
  | _ => True

theorem IsSound.append {noted : List Delivery} {item : Item} (sound : item.IsSound noted)
    (more : List Delivery) : item.IsSound (noted ++ more) := by
  cases item with
  | noting id delivery => exact sound
  | acking id delivery => exact List.mem_append_left more sound
  | _ => trivial

end Item

/-- A delivery that is about to be acknowledged and repeats to be counted hold nothing else. -/
theorem filterMap_acking {α : Type} {f : Item → Option α} {id : UInt64} {delivery : Delivery}
    {kept : List Item} {count : Nat} (hacking : f (.acking id delivery) = none)
    (hdue : f .due = none) :
    (Item.acking id delivery :: (List.replicate count .due ++ kept)).filterMap f =
      kept.filterMap f := by
  rw [List.filterMap_cons_none hacking, List.filterMap_append,
    List.filterMap_replicate_of_none hdue, List.nil_append]

theorem Exchange.nodup_tickets (exchange : Exchange) : exchange.tickets.Nodup := by
  unfold tickets
  split
  · exact List.nodup_singleton _
  · exact List.nodup_nil

/-- Every delivery that was noted, is at a ticket or is in somebody's hands was handed over, and
no oftener than it is in these places. -/
def Placed (traffic : Traffic Bytes) (hub : Hub) (noted : List Delivery) (waiting : List Ticket)
    (parcels : List Delivery) : Prop :=
  ∀ delivery, noted.count delivery + (hub.arrivals waiting).count delivery +
    parcels.count delivery ≤ traffic.deliveries.count delivery

/-- What is handed over in an exchange is in one place. -/
theorem Placed.pass {spacing : UInt32} {before after : Hub} {exchange : Exchange}
    {traffic later : Traffic Bytes} {noted parcels : List Delivery} {waiting : List Ticket}
    (placed : Placed traffic before noted waiting parcels)
    (passage : Hub.Passage spacing before exchange after traffic later) (hnodup : waiting.Nodup)
    (hvalid : ∀ ticket ∈ waiting, ticket < before.awaited.size) :
    Placed later after noted (exchange.tickets ++ waiting) (exchange.readings ++ parcels) := by
  intro delivery
  obtain ⟨new, hhanded, -, -, harrivals⟩ := passage.handed
  have hbefore := placed delivery
  have hnew := harrivals waiting hnodup hvalid delivery
  rw [Traffic.deliveries, hhanded, List.map_append, List.count_append, ← Traffic.deliveries,
    List.count_append]
  omega

/-- The deliveries that workers wait for and take in, against the traffic of the hub, the
deliveries noted, the ids that were repeats, and how many of those were counted. -/
structure Reading (traffic : Traffic Bytes) (noted : List Delivery) (again : List UInt64)
    (total : Nat) (seen : SeenIds) (hub : Hub) (items : List Item) : Prop where
  /-- A delivery is in one place. -/
  placed : Placed traffic hub noted (items.filterMap Item.ticket?) (items.filterMap Item.parcel?)
  /-- Nobody waits where somebody else waits. -/
  single : (items.filterMap Item.ticket?).Nodup
  /-- Tickets are valid. -/
  valid : ∀ ticket ∈ items.filterMap Item.ticket?, ticket < hub.awaited.size
  /-- Items are what they say. -/
  sound : ∀ item ∈ items, item.IsSound noted
  /-- Of what was noted the id was seen. -/
  known : ∀ delivery ∈ noted, ∃ id, delivery.id? = some id ∧ seen.contains id = true
  /-- An id is noted once for the first time, and all other times are repeats. -/
  repeats : ∀ id, again.count id + (if seen.contains id then 1 else 0) =
    (noted.filterMap Delivery.id?).count id
  /-- What was acknowledged was noted. -/
  settled : ∀ token ∈ traffic.settled, ∃ delivery ∈ noted, delivery.token = token
  /-- Repeats are counted after they were noted. -/
  counted : total + items.count .due ≤ again.length

namespace Reading

variable {traffic later : Traffic Bytes} {noted : List Delivery} {again : List UInt64}
  {total : Nat} {seen : SeenIds} {hub after : Hub} {items items' kept : List Item}
  {delivery : Delivery} {id : UInt64}

theorem nil (hub : Hub) : Reading {} [] [] 0 {} hub [] where
  placed _ := Nat.le_refl _
  single := List.nodup_nil
  valid := by simp
  sound := by simp
  known := by simp
  repeats id := by simp [SeenIds.contains_empty]
  settled := by simp
  counted := Nat.le_refl _

theorem anti (reading : Reading traffic noted again total seen hub items)
    (hkept : items'.Subperm items) : Reading traffic noted again total seen hub items' where
  placed other := by
    have hbefore := reading.placed other
    have htickets := (subperm_filterMap hub.arrived?
      (subperm_filterMap Item.ticket? hkept)).count_le other
    have hparcels := (subperm_filterMap Item.parcel? hkept).count_le other
    rw [Hub.arrivals] at hbefore ⊢
    omega
  single := nodup_of_subperm (subperm_filterMap _ hkept) reading.single
  valid ticket hticket := reading.valid ticket ((subperm_filterMap _ hkept).subset hticket)
  sound item hitem := reading.sound item (hkept.subset hitem)
  known := reading.known
  repeats := reading.repeats
  settled := reading.settled
  counted := by
    have hbefore := reading.counted
    have hdues := hkept.count_le Item.due
    omega

/-- What goes through the hub in an exchange, while a worker gets what the exchange brings. -/
theorem pass {spacing : UInt32} {exchange : Exchange} {made : List Item}
    (reading : Reading traffic noted again total seen hub kept)
    (passage : Hub.Passage spacing hub exchange after traffic later)
    (htickets : made.filterMap Item.ticket? = exchange.tickets)
    (hparcels : made.filterMap Item.parcel? = exchange.readings)
    (hsound : ∀ item ∈ made, item.IsSound noted) (hdue : made.count .due = 0)
    (hsettled : ∀ token ∈ exchange.settled, ∃ delivery ∈ noted, delivery.token = token) :
    Reading later noted again total seen after (made ++ kept) where
  placed := by
    rw [List.filterMap_append, List.filterMap_append, htickets, hparcels]
    exact reading.placed.pass passage reading.single reading.valid
  single := by
    rw [List.filterMap_append, htickets]
    refine List.Nodup.append ?_ reading.single ?_
    · exact exchange.nodup_tickets
    · intro ticket hnew hold
      exact Nat.lt_irrefl _
        (Nat.lt_of_lt_of_le (reading.valid ticket hold) (passage.fresh ticket hnew).1)
  valid ticket hticket := by
    rw [List.filterMap_append, htickets] at hticket
    rcases List.mem_append.1 hticket with hnew | hold
    · exact (passage.fresh ticket hnew).2
    · exact Nat.lt_of_lt_of_le (reading.valid ticket hold) passage.room
  sound := List.forall_mem_append.2 ⟨hsound, reading.sound⟩
  known := reading.known
  repeats := reading.repeats
  settled token htoken := by
    rw [passage.settled] at htoken
    rcases List.mem_append.1 htoken with hold | hnew
    · exact reading.settled token hold
    · exact hsettled token hnew
  counted := by
    rw [List.count_append, hdue, Nat.zero_add]
    exact reading.counted

/-- What goes through the hub in an exchange that brings nothing. -/
theorem onward {spacing : UInt32} {exchange : Exchange}
    (reading : Reading traffic noted again total seen hub items)
    (passage : Hub.Passage spacing hub exchange after traffic later)
    (htickets : exchange.tickets = []) (hreadings : exchange.readings = [])
    (hsettled : ∀ token ∈ exchange.settled, ∃ delivery ∈ noted, delivery.token = token) :
    Reading later noted again total seen after items := by
  have hall : Reading later noted again total seen after ([] ++ items) :=
    reading.pass passage htickets.symm hreadings.symm (List.forall_mem_nil _) List.count_nil
      hsettled
  exact hall

/-- A delivery that is there at a ticket is taken. -/
theorem take {ticket : Ticket}
    (reading : Reading traffic noted again total seen hub (.waiting ticket :: kept))
    (harrived : hub.arrived? ticket = some delivery) :
    Reading traffic noted again total seen hub (.arrived delivery :: kept) where
  placed other := by
    have hbefore := reading.placed other
    have htickets : (Item.waiting ticket :: kept).filterMap Item.ticket? =
        ticket :: kept.filterMap Item.ticket? := rfl
    have harrivals : hub.arrivals (ticket :: kept.filterMap Item.ticket?) =
        delivery :: hub.arrivals (kept.filterMap Item.ticket?) :=
      List.filterMap_cons_some harrived
    rw [htickets, harrivals, List.count_cons] at hbefore
    have hparcels : (Item.arrived delivery :: kept).filterMap Item.parcel? =
        delivery :: kept.filterMap Item.parcel? := rfl
    have hsame : (Item.arrived delivery :: kept).filterMap Item.ticket? =
        kept.filterMap Item.ticket? := rfl
    have hnone : (Item.waiting ticket :: kept).filterMap Item.parcel? =
        kept.filterMap Item.parcel? := rfl
    rw [hparcels, hsame, List.count_cons]
    rw [hnone] at hbefore
    omega
  single := (List.nodup_cons.1 reading.single).2
  valid other hother := reading.valid other (List.mem_cons_of_mem ticket hother)
  sound := List.forall_mem_cons.2 ⟨trivial, (List.forall_mem_cons.1 reading.sound).2⟩
  known := reading.known
  repeats := reading.repeats
  settled := reading.settled
  counted := by
    have hbefore := reading.counted
    rw [List.count_cons_of_ne (by simp)] at hbefore ⊢
    exact hbefore

theorem decode (reading : Reading traffic noted again total seen hub (.arrived delivery :: kept))
    (carries : delivery.id? = some id) :
    Reading traffic noted again total seen hub (.noting id delivery :: kept) where
  placed := reading.placed
  single := reading.single
  valid := reading.valid
  sound := List.forall_mem_cons.2 ⟨carries, (List.forall_mem_cons.1 reading.sound).2⟩
  known := reading.known
  repeats := reading.repeats
  settled := reading.settled
  counted := by
    have hbefore := reading.counted
    rw [List.count_cons_of_ne (by simp)] at hbefore ⊢
    exact hbefore

/-- The id of a delivery is noted, and is a repeat as often as it does not become one that was
seen. -/
theorem note {more : List UInt64}
    (reading : Reading traffic noted again total seen hub (.noting id delivery :: kept))
    (hmore : ∀ other, more.count other + (if (seen.insert id).2.contains other then 1 else 0) =
      (if seen.contains other then 1 else 0) + if other = id then 1 else 0) :
    Reading traffic (noted ++ [delivery]) (again ++ more) total (seen.insert id).2 hub
      (.acking id delivery :: (List.replicate more.length .due ++ kept)) where
  placed other := by
    have hbefore := reading.placed other
    have hparcels : (Item.noting id delivery :: kept).filterMap Item.parcel? =
        delivery :: kept.filterMap Item.parcel? := rfl
    have htickets : (Item.noting id delivery :: kept).filterMap Item.ticket? =
        kept.filterMap Item.ticket? := rfl
    rw [hparcels, htickets, List.count_cons] at hbefore
    rw [filterMap_acking rfl rfl, filterMap_acking rfl rfl, List.count_append,
      List.count_singleton]
    omega
  single := by
    rw [filterMap_acking rfl rfl]
    exact reading.single
  valid := by
    rw [filterMap_acking rfl rfl]
    exact reading.valid
  sound := by
    have hkept : ∀ item ∈ kept, item.IsSound (noted ++ [delivery]) := fun item hitem =>
      (reading.sound item (List.mem_cons_of_mem _ hitem)).append [delivery]
    refine List.forall_mem_cons.2 ⟨List.mem_append_right _ (List.mem_singleton_self _), ?_⟩
    refine List.forall_mem_append.2 ⟨fun item hitem => ?_, hkept⟩
    rw [List.eq_of_mem_replicate hitem]
    trivial
  known other hother := by
    rcases List.mem_append.1 hother with hold | hnew
    · obtain ⟨id', hid', hseen⟩ := reading.known other hold
      exact ⟨id', hid', by rw [SeenIds.contains_insert, hseen, Bool.or_true]⟩
    · rw [List.mem_singleton.1 hnew]
      exact ⟨id, reading.sound _ List.mem_cons_self,
        by rw [SeenIds.contains_insert, decide_eq_true rfl, Bool.true_or]⟩
  repeats other := by
    have carries : delivery.id? = some id := reading.sound _ List.mem_cons_self
    have hbefore := reading.repeats other
    have hafter := hmore other
    rw [List.filterMap_append, List.count_append, List.count_append,
      List.filterMap_cons_some carries, List.filterMap_nil, List.count_singleton, beq_eq_decide]
    simp only [decide_eq_true_eq, eq_comm (a := id)]
    omega
  settled token htoken := by
    obtain ⟨other, hother, htoken⟩ := reading.settled token htoken
    exact ⟨other, List.mem_append_left _ hother, htoken⟩
  counted := by
    have hbefore := reading.counted
    rw [List.count_cons_of_ne (by simp)] at hbefore ⊢
    rw [List.count_append, List.count_replicate_self, List.length_append]
    omega

/-- The id is new. -/
theorem note_first (hnew : seen.contains id = false)
    (reading : Reading traffic noted again total seen hub (.noting id delivery :: kept)) :
    Reading traffic (noted ++ [delivery]) again total (seen.insert id).2 hub
      (.acking id delivery :: kept) := by
  have hall := reading.note fun other => by
    show ([] : List UInt64).count other + _ = _
    rw [SeenIds.contains_insert, List.count_nil, Nat.zero_add]
    by_cases hsame : other = id
    · rw [hsame, hnew]
      simp
    · simp [hsame]
  rw [List.append_nil] at hall
  exact hall

/-- The id is a repeat, which has to be counted. -/
theorem note_again (hold : seen.contains id = true)
    (reading : Reading traffic noted again total seen hub (.noting id delivery :: kept)) :
    Reading traffic (noted ++ [delivery]) (again ++ [id]) total (seen.insert id).2 hub
      (.acking id delivery :: .due :: kept) := by
  refine reading.note fun other => ?_
  rw [SeenIds.contains_insert, List.count_singleton]
  by_cases hsame : other = id
  · rw [hsame, hold]
    simp
  · simp [hsame, Ne.symm hsame]

theorem bump {count : Nat}
    (reading : Reading traffic noted again total seen hub (List.replicate count .due ++ kept)) :
    Reading traffic noted again (total + count) seen hub kept :=
  { reading.anti (List.sublist_append_right _ kept).subperm with
    counted := by
      have hbefore := reading.counted
      rw [List.count_append, List.count_replicate_self] at hbefore
      omega }

/-- A trade keeps what is said of deliveries, if the hub and the ledger answer as they do. -/
theorem of_trade {spacing : UInt32} {ledger : Ledger} {occasion : Occasion}
    {used made : List Item}
    (reading : Reading traffic noted again total ledger.seen occasion.before (used ++ kept))
    (trade : Trade occasion.exchange used made) (served : occasion.IsServed)
    (allowed : ledger.Allows occasion.exchange)
    (passage : Hub.Passage spacing occasion.before occasion.exchange occasion.after traffic later) :
    ∃ noted again, Reading later noted again (total + occasion.exchange.repeats)
      (ledger.after occasion.exchange).seen occasion.after (made ++ kept) := by
  have hkept := reading.anti (List.sublist_append_right used kept).subperm
  obtain ⟨before, exchange, after⟩ := occasion
  cases trade with
  | idle exchange idle =>
    have hquiet := Exchange.isQuiet_of_isIdle idle
    refine ⟨noted, again, ?_⟩
    rw [hquiet.repeats, hquiet.seen]
    refine hkept.onward passage hquiet.tickets hquiet.readings ?_
    rw [hquiet.settled]
    exact List.forall_mem_nil _
  | mint id =>
    exact ⟨noted, again, hkept.pass passage rfl rfl (by simp [Item.IsSound]) rfl
      (List.forall_mem_nil _)⟩
  | submit handle data id ticket carries =>
    exact ⟨noted, again, hkept.pass passage rfl rfl (by simp [Item.IsSound]) rfl
      (List.forall_mem_nil _)⟩
  | accept handle data id receipt carries ok =>
    exact ⟨noted, again, hkept.onward passage rfl rfl (List.forall_mem_nil _)⟩
  | refuse id ticket receipt refused =>
    exact ⟨noted, again, hkept.pass passage rfl rfl (by simp [Item.IsSound]) rfl
      (List.forall_mem_nil _)⟩
  | request handle ticket =>
    exact ⟨noted, again, hkept.pass passage rfl rfl (by simp [Item.IsSound]) rfl
      (List.forall_mem_nil _)⟩
  | read handle delivery =>
    exact ⟨noted, again, hkept.pass passage rfl rfl (by simp [Item.IsSound]) rfl
      (List.forall_mem_nil _)⟩
  | take ticket delivery =>
    have harrived : before.arrived? ticket = some delivery := by
      have htake : Except.ok (some delivery) = before.take ticket := served.1
      rw [Hub.take] at htake
      rw [Hub.arrived?]
      split at htake
      next found hfound =>
        cases htake
        rw [hfound]
      next => cases htake
      next => cases htake
    exact ⟨noted, again, (reading.take harrived).onward passage rfl rfl (List.forall_mem_nil _)⟩
  | decode id delivery carries =>
    exact ⟨noted, again, (reading.decode carries).onward passage rfl rfl (List.forall_mem_nil _)⟩
  | first id delivery =>
    have hnew : ledger.seen.contains id = false := by
      have hfresh : true = (ledger.seen.insert id).1 := allowed
      rw [SeenIds.fst_insert] at hfresh
      simpa using hfresh.symm
    exact ⟨_, _, (reading.note_first hnew).onward passage rfl rfl (List.forall_mem_nil _)⟩
  | again id delivery =>
    have hold : ledger.seen.contains id = true := by
      have hfresh : false = (ledger.seen.insert id).1 := allowed
      rw [SeenIds.fst_insert] at hfresh
      simpa using hfresh.symm
    exact ⟨_, _, (reading.note_again hold).onward passage rfl rfl (List.forall_mem_nil _)⟩
  | settle id delivery =>
    have hmem : delivery ∈ noted := reading.sound _ List.mem_cons_self
    refine ⟨noted, again, hkept.onward passage rfl rfl ?_⟩
    intro token htoken
    exact ⟨delivery, hmem, (List.mem_singleton.1 htoken).symm⟩
  | bump amount => exact ⟨noted, again, reading.bump.onward passage rfl rfl (List.forall_mem_nil _)⟩

end Reading
end BrokerLoad
