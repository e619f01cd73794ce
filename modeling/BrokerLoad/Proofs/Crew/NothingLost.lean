import BrokerLoad.Proofs.Crew.Reading

/-!
# Nothing is lost, and nothing comes twice for nothing

A crew of producers and consumers works on a hub with one destination and one group.
Whatever the order of their steps, and whenever one of them is stopped, no id is accepted
twice, every accepted id is still in the queue, outstanding or seen, nothing is seen that was
not accepted, and there are no more repeats than messages that the hub sent round again
(`Crew.nothing_lost`).

`Sound` is the invariant: what the hub carries is what was accepted (`Hub.Carries`), no
message is written twice (`Writing`) and no delivery taken in twice (`Reading`), and the
lists that the history is read from agree with the counters.  One step keeps it
(`Sound.act`), and the four statements follow from it by counting.

## Where words run out

Ids, tokens and counters are words of 64 bits.  Fewer ids than words are given out, but a hub
that sends messages round again may make any number of deliveries.  After as many of them as
there are words a token comes again, and if the delivery that had it first is still
outstanding, the new one is not recorded; so that nothing is lost is said as long as there
were fewer deliveries than words, which is always the case if nothing is sent round again.
A counter that has gone all the way round shows less than it has counted, and so the two
counters are compared as long as the larger one has not.  How often they were moved
(`NothingLost.repeats`) is compared without any bound.
-/

namespace BrokerLoad

/-- Whether a message of an id is ready. -/
def Queue.HasReady (queue : Queue Bytes) (id : UInt64) : Prop :=
  ∃ message ∈ queue.ready.toList, message.data.id? = some id

/-- Whether a delivery of an id is outstanding. -/
def Queue.HasUnacked (queue : Queue Bytes) (id : UInt64) : Prop :=
  ∃ entry ∈ queue.unacked, entry.2.data.id? = some id

/-- Nothing is lost, and nothing comes twice for nothing: a past, and what has become of the
ledger and the hub. -/
structure NothingLost (redeliverEvery : UInt32) (past : Past) (ledger : Ledger) (hub : Hub) :
    Prop where
  /-- No id is accepted twice. -/
  once : past.accepted.Nodup
  /-- Every accepted id is ready, outstanding or seen. -/
  kept : redeliverEvery = 0 ∨ past.deliveries < 2 ^ 64 →
    ∃ queue, hub.queues = #[queue] ∧ ∀ id ∈ past.accepted,
      queue.HasReady id ∨ queue.HasUnacked id ∨ ledger.seen.contains id = true
  /-- Every id seen was accepted. -/
  seen : ∀ id, ledger.seen.contains id = true → id ∈ past.accepted
  /-- There were no more repeats than messages sent round again. -/
  repeats : past.repeats ≤ past.redeliveries
  /-- The ledger counts the repeats. -/
  duplicates : ledger.metrics.duplicates = UInt64.ofNat past.repeats
  /-- The hub counts the messages sent round again. -/
  redeliveries : hub.counts.redeliveries = UInt64.ofNat past.redeliveries
  /-- The one counter shows no more than the other until it has gone all the way round. -/
  bounded : past.redeliveries < 2 ^ 64 → ledger.metrics.duplicates ≤ hub.counts.redeliveries
  /-- No more messages were sent round again than were delivered. -/
  exchanged : past.redeliveries ≤ past.deliveries
  /-- It shows nothing if nothing is sent round again. -/
  plain : redeliverEvery = 0 → ledger.metrics.duplicates = 0

/-- What every step of a crew keeps. -/
structure Sound (spacing : UInt32) (past : Past) (ledger : Ledger) (hub : Hub)
    (items : List Item) (traffic : Traffic Bytes) (noted : List Delivery) (again : List UInt64) :
    Prop where
  /-- Ids are given out one after another. -/
  minted : past.minted = wordsAfter 0 past.minted.length
  /-- The mint knows the last of them. -/
  latest : ledger.ids.latest = UInt64.ofNat past.minted.length
  /-- The hub carries its traffic. -/
  carries : hub.Carries spacing traffic
  /-- What was accepted was written. -/
  written : traffic.written.map Bytes.id? = past.accepted.map some
  /-- What was handed over was delivered. -/
  handed : traffic.handed.length = past.deliveries
  /-- What was sent round again is known. -/
  resent : traffic.resent.length = past.redeliveries
  /-- It is counted. -/
  redeliveries : hub.counts.redeliveries = UInt64.ofNat past.redeliveries
  /-- Repeats are counted. -/
  duplicates : ledger.metrics.duplicates = UInt64.ofNat past.repeats
  /-- No message is written twice. -/
  writing : Writing past.minted past.accepted hub items
  /-- No delivery is taken in twice. -/
  reading : Reading traffic noted again past.repeats ledger.seen hub items

/-! ## One step -/

/-- What goes through the hub in a trade. -/
theorem Trade.passage {spacing : UInt32} {occasion : Occasion} {traffic : Traffic Bytes}
    {used made : List Item} (trade : Trade occasion.exchange used made)
    (served : occasion.IsServed) (carries : occasion.before.Carries spacing traffic) :
    ∃ later, Hub.Passage spacing occasion.before occasion.exchange occasion.after traffic
      later := by
  obtain ⟨before, ⟨query, reply⟩, after⟩ := occasion
  cases query with
  | broker call =>
    obtain ⟨rfl, rfl⟩ := served
    exact carries.serve call trade.isUse
  | _ =>
    have hsame : after = before := served
    rw [hsame]
    exact ⟨traffic, .refl carries rfl rfl rfl rfl⟩

/-- A counter that moves by one at most has moved if it shows something else. -/
theorem countP_moves {moves : Occasion → Bool} {occasion : Occasion} {before after : UInt64}
    {count : Nat} (hmoves : moves occasion = decide (after ≠ before))
    (hafter : after = before + UInt64.ofNat count) (hone : count ≤ 1) :
    [occasion].countP moves = count := by
  rw [List.countP_singleton, hmoves, hafter]
  obtain rfl | rfl : count = 0 ∨ count = 1 := by omega
  · simp
  · simp

/-- The mint gives out the next id. -/
theorem Ledger.Allows.minted {ledger : Ledger} {exchange : Exchange} {count : Nat}
    (allowed : ledger.Allows exchange) (hlatest : ledger.ids.latest = UInt64.ofNat count) :
    exchange.minted?.toList = [] ∨ exchange.minted?.toList = [0 + UInt64.ofNat (count + 1)] := by
  obtain ⟨query, reply⟩ := exchange
  cases query with
  | mint =>
    have hreply : reply = ledger.ids.latest + 1 := allowed
    refine .inr ?_
    rw [hlatest] at hreply
    rw [UInt64.zero_add, UInt64.ofNat_add]
    exact congrArg (fun id => [id]) hreply
  | _ => exact .inl rfl

/-- The ledger counts the repeats that it is told of. -/
theorem Ledger.duplicates_after (ledger : Ledger) (exchange : Exchange) :
    (ledger.after exchange).metrics.duplicates =
      ledger.metrics.duplicates + UInt64.ofNat exchange.repeats := by
  obtain ⟨query, reply⟩ := exchange
  cases query with
  | emit emission =>
    cases emission with
    | bump counter amount =>
      cases counter with
      | duplicates =>
        show ledger.metrics.duplicates + amount = _ + UInt64.ofNat amount.toNat
        rw [UInt64.ofNat_toNat]
      | _ => exact (UInt64.add_zero _).symm
    | sample channel => cases channel <;> exact (UInt64.add_zero _).symm
    | say line => exact (UInt64.add_zero _).symm
  | _ => exact (UInt64.add_zero _).symm

namespace Sound

variable {spacing : UInt32} {past : Past} {ledger : Ledger} {hub : Hub} {items : List Item}
  {traffic : Traffic Bytes} {noted : List Delivery} {again : List UInt64}

theorem start (path group : String) (throttleEvery redeliverEvery maxDeliveries : UInt32) :
    Sound redeliverEvery [] {} (.serving path group throttleEvery redeliverEvery maxDeliveries) []
      {} [] [] where
  minted := rfl
  latest := rfl
  carries := ⟨⟨path, group, rfl⟩, _, rfl, .create maxDeliveries redeliverEvery⟩
  written := rfl
  handed := rfl
  resent := rfl
  redeliveries := rfl
  duplicates := rfl
  writing := .nil _
  reading := .nil _

/-- An act of a worker keeps it, unless the mint goes all the way round. -/
theorem act {occasion : Occasion} {after : List Item}
    (sound : Sound spacing past ledger occasion.before items traffic noted again)
    (allowed : ledger.Allows occasion.exchange) (served : occasion.IsServed)
    (acts : Acts occasion.exchange items after)
    (few : (Past.minted (past ++ [occasion])).length < 2 ^ 64) :
    ∃ traffic noted again, Sound spacing (past ++ [occasion]) (ledger.after occasion.exchange)
      occasion.after after traffic noted again := by
  obtain ⟨used, made, kept, trade, hused, hmade⟩ := acts
  obtain ⟨later, passage⟩ := trade.passage served sound.carries
  have hlater : Past.minted (past ++ [occasion]) =
      past.minted ++ occasion.exchange.minted?.toList := by
    rw [Past.minted_append, Past.minted_singleton]
  have hwords : Past.minted (past ++ [occasion]) =
      wordsAfter 0 (Past.minted (past ++ [occasion])).length := by
    rw [hlater, List.length_append]
    rcases allowed.minted sound.latest with hnone | hnext
    · rw [hnone, List.append_nil]
      exact sound.minted
    · rw [hnext, List.length_singleton, wordsAfter_succ, ← sound.minted]
  have hnew : (past.minted ++ occasion.exchange.minted?.toList).Nodup := by
    rw [← hlater, hwords]
    exact nodup_wordsAfter 0 (Nat.le_of_lt few)
  obtain ⟨resent, hresent, hresentOne, hresentCount⟩ := passage.resent
  obtain ⟨handed, hhanded, hhandedOne, hhandedCount, -⟩ := passage.handed
  have hwriting := ((sound.writing.anti hused.symm.subperm).of_trade trade served passage.accepts
    hnew).anti hmade
  obtain ⟨noted, again, hreading⟩ :=
    (sound.reading.anti hused.symm.subperm).of_trade trade served allowed passage
  have hdelivers : [occasion].countP Occasion.delivers = handed.length :=
    countP_moves rfl hhandedCount hhandedOne
  have hredelivers : [occasion].countP Occasion.redelivers = resent.length :=
    countP_moves rfl hresentCount hresentOne
  refine ⟨later, noted, again, ?_⟩
  exact {
    minted := hwords
    latest := by
      rw [Ledger.latest_after, sound.latest, ← UInt64.ofNat_add, hlater, List.length_append]
    carries := passage.carries
    written := by
      rw [passage.written, List.map_append, sound.written, trade.map_id?_accepted,
        Past.accepted_append, List.map_append, Past.accepted_singleton, Occasion.accepted]
    handed := by
      rw [hhanded, List.length_append, sound.handed, Past.deliveries_append, Past.deliveries,
        Past.deliveries, hdelivers]
    resent := by
      rw [hresent, List.length_append, sound.resent, Past.redeliveries_append, Past.redeliveries,
        Past.redeliveries, hredelivers]
    redeliveries := by
      rw [hresentCount, sound.redeliveries, ← UInt64.ofNat_add, Past.redeliveries_append,
        Past.redeliveries, Past.redeliveries, hredelivers]
    duplicates := by
      rw [Ledger.duplicates_after, sound.duplicates, ← UInt64.ofNat_add, Past.repeats_append,
        Past.repeats_singleton]
    writing := by
      rw [hlater, Past.accepted_append, Past.accepted_singleton]
      exact hwriting
    reading := by
      rw [Past.repeats_append, Past.repeats_singleton]
      exact hreading.anti hmade }

/-! ## What follows from it -/

variable (sound : Sound spacing past ledger hub items traffic noted again)
include sound

/-- An id was accepted if a message of that id was written. -/
theorem mem_accepted {data : Bytes} {id : UInt64} (hdata : data ∈ traffic.written)
    (carries : data.id? = some id) : id ∈ past.accepted := by
  have hmem : data.id? ∈ traffic.written.map Bytes.id? := List.mem_map_of_mem hdata
  rw [sound.written, carries] at hmem
  obtain ⟨other, hother, hsame⟩ := List.mem_map.1 hmem
  cases hsame
  exact hother

theorem exists_mem_written {id : UInt64} (haccepted : id ∈ past.accepted) :
    ∃ data ∈ traffic.written, data.id? = some id := by
  have hmem : some id ∈ past.accepted.map some := List.mem_map_of_mem haccepted
  rw [← sound.written] at hmem
  exact List.mem_map.1 hmem

theorem filterMap_written : traffic.written.filterMap Bytes.id? = past.accepted := by
  have hids := congrArg (List.filterMap id) sound.written
  rw [List.filterMap_map, List.filterMap_map] at hids
  exact hids.trans (List.filterMap_some)

/-- No more was written than ids were given out. -/
theorem length_written_le : traffic.written.length ≤ past.minted.length := by
  have hlength := congrArg List.length sound.written
  rw [List.length_map, List.length_map] at hlength
  rw [hlength]
  exact (sound.writing.once.subperm sound.writing.known).length_le

theorem noted_subperm : noted.Subperm traffic.deliveries := by
  refine List.subperm_ext_iff.2 fun delivery _ => ?_
  have hplaced := sound.reading.placed delivery
  omega

/-- Tokens do not come again. -/
theorem length_handed_lt (few : past.minted.length < 2 ^ 64)
    (proviso : spacing = 0 ∨ past.deliveries < 2 ^ 64) : traffic.handed.length < 2 ^ 64 := by
  rcases proviso with hplain | hdeliveries
  · obtain ⟨queue, -, carries⟩ := sound.carries.queue
    have hlength := carries.conserved.length_eq
    rw [carries.plain hplain] at hlength
    simp only [List.length_append, List.length_map, List.length_nil] at hlength
    have hwritten := sound.length_written_le
    omega
  · rw [sound.handed]
    exact hdeliveries

/-- Every id that was seen was accepted. -/
theorem accepted_of_seen {id : UInt64} (hseen : ledger.seen.contains id = true) :
    id ∈ past.accepted := by
  obtain ⟨queue, -, carries⟩ := sound.carries.queue
  have hcount := sound.reading.repeats id
  rw [hseen, if_pos rfl] at hcount
  have hnoted : id ∈ noted.filterMap Delivery.id? := List.count_pos_iff.1 (by omega)
  obtain ⟨delivery, hdelivery, hid⟩ := List.mem_filterMap.1 hnoted
  have hhanded := sound.noted_subperm.subset hdelivery
  obtain ⟨handover, hmem, rfl⟩ := List.mem_map.1 hhanded
  exact sound.mem_accepted (carries.payload_mem_written hmem) hid

/-- Every id that was accepted is ready, outstanding or seen. -/
theorem kept_of_accepted {queue : Queue Bytes} (carries : queue.Carries spacing traffic [])
    (few : traffic.handed.length < 2 ^ 64) {id : UInt64} (haccepted : id ∈ past.accepted) :
    queue.HasReady id ∨ queue.HasUnacked id ∨ ledger.seen.contains id = true := by
  obtain ⟨data, hwritten, hid⟩ := sound.exists_mem_written haccepted
  rcases carries.handed_or_ready_or_loose hwritten with ⟨handover, hmem, rfl⟩ | hready | hloose
  · rcases carries.kept few handover hmem with hsettled | ⟨message, hunacked, hdata⟩
    · -- The delivery that was acknowledged under this token is this one.
      obtain ⟨delivery, hdelivery, htoken⟩ := sound.reading.settled _ hsettled
      obtain ⟨other, hother, rfl⟩ :=
        List.mem_map.1 (sound.noted_subperm.subset hdelivery)
      have hsame : other = handover :=
        carries.eq_of_token_eq (Nat.le_of_lt few) hother hmem htoken
      subst hsame
      obtain ⟨seen, hseen, hcontains⟩ := sound.reading.known _ hdelivery
      have hids : some seen = some id := hseen.symm.trans hid
      cases hids
      exact .inr (.inr hcontains)
    · exact .inr (.inl ⟨_, hunacked, hdata ▸ hid⟩)
  · obtain ⟨message, hmessage, rfl⟩ := List.mem_map.1 hready
    exact .inl ⟨message, hmessage, hid⟩
  · cases hloose

/-- Every repeat is one of a message that was sent round again. -/
theorem again_subperm : again.Subperm (traffic.resent.filterMap Bytes.id?) := by
  refine List.subperm_ext_iff.2 fun id hagain => ?_
  obtain ⟨queue, -, carries⟩ := sound.carries.queue
  have hrepeats := sound.reading.repeats id
  have hseen : ledger.seen.contains id = true := by
    have hnoted : id ∈ noted.filterMap Delivery.id? := by
      refine List.count_pos_iff.1 ?_
      have hpos := List.count_pos_iff.2 hagain
      omega
    obtain ⟨delivery, hdelivery, hid⟩ := List.mem_filterMap.1 hnoted
    obtain ⟨seen, hsame, hcontains⟩ := sound.reading.known delivery hdelivery
    rw [hid] at hsame
    cases hsame
    exact hcontains
  rw [hseen, if_pos rfl] at hrepeats
  -- What was noted was handed over, and is therefore part of what was written and resent.
  have hnoted := (subperm_filterMap Delivery.id? sound.noted_subperm).count_le id
  have hdeliveries : traffic.deliveries.filterMap Delivery.id? =
      (traffic.handed.map Handover.payload).filterMap Bytes.id? := by
    rw [Traffic.deliveries, List.filterMap_map, List.filterMap_map]
    rfl
  have hconserved := (carries.conserved.filterMap Bytes.id?).count_eq id
  rw [List.append_nil, List.filterMap_append, List.filterMap_append, List.count_append,
    List.count_append, sound.filterMap_written] at hconserved
  have honce := List.nodup_iff_count_le_one.1 sound.writing.once id
  rw [hdeliveries] at hnoted
  omega

/-- There are no more repeats than messages sent round again. -/
theorem repeats_le : past.repeats ≤ past.redeliveries := by
  calc past.repeats ≤ again.length := Nat.le_of_add_right_le sound.reading.counted
    _ ≤ (traffic.resent.filterMap Bytes.id?).length := sound.again_subperm.length_le
    _ ≤ traffic.resent.length := List.length_filterMap_le _ _
    _ = past.redeliveries := sound.resent

/-- Nothing is lost, and nothing comes twice for nothing. -/
theorem nothingLost (few : past.minted.length < 2 ^ 64) :
    NothingLost spacing past ledger hub where
  once := sound.writing.once
  kept proviso := by
    obtain ⟨queue, hqueue, carries⟩ := sound.carries.queue
    exact ⟨queue, hqueue, fun id =>
      sound.kept_of_accepted carries (sound.length_handed_lt few proviso)⟩
  seen _ := sound.accepted_of_seen
  repeats := sound.repeats_le
  duplicates := sound.duplicates
  redeliveries := sound.redeliveries
  bounded hfew := by
    have hrepeats := sound.repeats_le
    rw [sound.duplicates, sound.redeliveries, UInt64.le_iff_toNat_le,
      UInt64.toNat_ofNat_of_lt' (Nat.lt_of_le_of_lt hrepeats hfew), UInt64.toNat_ofNat_of_lt' hfew]
    exact hrepeats
  exchanged := by
    obtain ⟨queue, -, carries⟩ := sound.carries.queue
    rw [← sound.resent, ← sound.handed]
    exact Nat.le_of_add_right_le carries.exchanged
  plain hplain := by
    obtain ⟨queue, -, carries⟩ := sound.carries.queue
    have hnone : past.redeliveries = 0 := by
      rw [← sound.resent, carries.plain hplain, List.length_nil]
    have hrepeats := sound.repeats_le
    have hzero : past.repeats = 0 := by omega
    rw [sound.duplicates, hzero]
    rfl

end Sound

/-- Whatever a crew of new engines has done on a hub that serves one group, in whatever order
its workers took their steps and whenever they were started and stopped: as long as the ids
have not gone all the way round, nothing is lost, and nothing comes twice for nothing. -/
theorem Crew.nothing_lost {path group : String}
    {throttleEvery redeliverEvery maxDeliveries : UInt32} {staff : List (String × Engine)}
    {past : Past} {crew : Crew Hub} (new : ∀ member ∈ staff, member.2.IsNew)
    (reaches : (Crew.opening (.serving path group throttleEvery redeliverEvery maxDeliveries)
      staff).Reaches past crew)
    (few : past.minted.length < 2 ^ 64) :
    NothingLost redeliverEvery past crew.shared.ledger crew.shared.client := by
  have hsound : past.minted.length < 2 ^ 64 → ∃ traffic noted again, Sound redeliverEvery past
      crew.shared.ledger crew.shared.client crew.items traffic noted again := by
    refine Crew.Reaches.induction (P := fun past ledger hub items =>
      past.minted.length < 2 ^ 64 → ∃ traffic noted again,
        Sound redeliverEvery past ledger hub items traffic noted again) ?_ ?_ reaches
    · intro _
      rw [Crew.items_opening _ new]
      exact ⟨{}, [], [], .start path group throttleEvery redeliverEvery maxDeliveries⟩
    · intro past ledger occasion before after hbefore allowed served acts few
      have hfewer : past.minted.length < 2 ^ 64 := by
        rw [Past.minted_append, List.length_append] at few
        omega
      obtain ⟨traffic, noted, again, sound⟩ := hbefore hfewer
      exact sound.act allowed served acts few
  obtain ⟨traffic, noted, again, sound⟩ := hsound few
  exact sound.nothingLost few

/-- A message that is sent round again is counted as a repeat. -/
theorem Crew.nothing_lost_one_repeat :
    ∃ past crew, (Crew.opening (.serving "orders" "billing" 0 1 0)
        [("producer", .producer false { destination := "orders", messages := 1 }),
          ("consumer", .consumer false { destination := "orders", group := "billing" })]).Reaches
            past crew ∧
      past.accepted = [1] ∧ past.repeats = 1 ∧
      NothingLost 1 past crew.shared.ledger crew.shared.client := by
  have begun := @Crew.Reaches.start (.opening (.serving "orders" "billing" 0 1 0)
    [("producer", .producer false { destination := "orders", messages := 1 }),
      ("consumer", .consumer false { destination := "orders", group := "billing" })])
  have reaches := (((begun.started 0).runWorker 0 6).started 1).runWorker 1 18
  refine ⟨_, _, reaches, by decide +kernel, by decide +kernel,
    Crew.nothing_lost ?_ reaches (by decide +kernel)⟩
  exact List.forall_mem_cons.2 ⟨.producer false _, List.forall_mem_singleton.2 (.consumer false _)⟩

end BrokerLoad
