import BrokerLoad.Proofs.Crew.Tallying
import BrokerLoad.Proofs.Engine.Sending

/-!
# A crew's counters and its hub's

The workers of a crew count what they have sent, and the hub counts what it was sent.  The two
agree, in whatever order the workers take their steps.

* Every verdict of the hub is passed on a submission of one worker, and every producer counts
  its submissions (`Record.IsTrue.written`).  So there are as many verdicts as were counted,
  except for what producers have still to count.
* A producer that has completed its task has heard of all its verdicts, and the last was in its
  favour (`Record.IsTrue.settles`).  If all have, then the last verdict of all was in favour of
  somebody.  The hub passes its verdicts at its pace, so that is enough to know how often it has
  refused (`Crew.counters_reconcile`).
-/

namespace BrokerLoad

/-! ## Engines -/

namespace Engine

theorem messages_producer (isPipelined : Bool) (options : Producer.Options) :
    (producer isPipelined options).messages = options.messages.toNat := by
  cases isPipelined <;> rfl

theorem isProducer_producer (isPipelined : Bool) (options : Producer.Options) :
    (producer isPipelined options).isProducer = true := by
  cases isPipelined <;> rfl

theorem messages_consumer (isPipelined : Bool) (options : Consumer.Options) :
    (consumer isPipelined options).messages = 0 := by
  cases isPipelined <;> rfl

theorem IsNew.eq_producer_or_consumer {engine : Engine} (new : engine.IsNew) :
    (∃ isPipelined options, engine = .producer isPipelined options) ∨
      ∃ isPipelined options, engine = .consumer isPipelined options := by
  cases new with
  | producer isPipelined options => exact .inl ⟨isPipelined, options, rfl⟩
  | consumer isPipelined options => exact .inr ⟨isPipelined, options, rfl⟩

/-- An engine that has finished has nothing more to say. -/
theorem pending_of_finish {name : String} {engine : Engine} {outcome : Outcome}
    (finishes : engine.request name = .finish outcome) : engine.pending = [] := by
  cases engine <;> exact (Handling.over_of_finish (Request.of_map_eq_finish finishes)).1

/-- A producer stays one. -/
theorem Course.isProducer_eq {name : String} {start engine : Engine} {exchanges : List Exchange}
    (course : Course name start exchanges engine) : engine.isProducer = start.isProducer := by
  induction course with
  | start => rfl
  | ask before asks reply ih => exact (steps asks reply).2.2.trans ih

/-- What a consumer adds to a run is nothing about messages sent. -/
theorem Course.consumer_idle {name : String} {isPipelined : Bool} {options : Consumer.Options}
    {exchanges : List Exchange} {engine : Engine}
    (course : Course name (Engine.consumer isPipelined options) exchanges engine) :
    (∀ gauge : Gauge, gauge.isSending = true → (exchanges.map (Exchange.gain gauge)).sum = 0) ∧
      (∀ statusOf : Ticket → WriteStatus, verdicts statusOf exchanges = []) ∧
      exchanges.filterMap Exchange.minted? = [] := by
  have hnothing := course.consumer
  refine ⟨fun gauge sending => ?_, fun statusOf => ?_, ?_⟩
  · rw [← sum_map_filter exchanges fun _ => Gauge.exchange_gain_eq_zero sending, hnothing]
    rfl
  · rw [verdicts,
      ← filterMap_filter_of_silent exchanges fun _ => Producer.verdict?_eq_none statusOf, hnothing]
    rfl
  · rw [← filterMap_filter_of_silent exchanges fun _ => Producer.minted?_eq_none, hnothing]
    rfl

end Engine

/-! ## Workers -/

namespace Crew.Record

variable {record : Record}

/-- A worker that has no submission to count has counted them all. -/
theorem IsTrue.written (isTrue : record.IsTrue) (new : record.first.IsNew)
    (quiet : ∀ amount, .bump .messagesOut amount ∉ record.worker.engine.pending)
    (statusOf : Ticket → WriteStatus) :
    (record.course.map (Exchange.gain (.counter .messagesOut))).sum =
      (verdicts statusOf record.course).length := by
  obtain ⟨name, first, worker, exchanges⟩ := record
  have hcourse : Engine.Course name first exchanges worker.engine := isTrue.course
  rcases new.eq_producer_or_consumer with ⟨isPipelined, options, rfl⟩ | ⟨isPipelined, options, rfl⟩
  · obtain ⟨history, hreckons⟩ := Producer.exists_reckons hcourse
    have hpending :
        (worker.engine.pending.map (Emission.gain (.counter .messagesOut))).sum = 0 := by
      refine List.sum_eq_zero (List.forall_mem_map.2 fun emission hmem => ?_)
      cases emission with
      | bump other amount =>
        refine if_neg ?_
        rintro rfl
        exact quiet amount hmem
      | _ => rfl
    have hgain := hreckons.gain (.counter .messagesOut) rfl
    rw [hpending, Nat.add_zero, Producer.History.gain_messagesOut] at hgain
    exact hgain.trans (hreckons.verdicts statusOf).symm
  · obtain ⟨hgain, hverdicts, -⟩ := hcourse.consumer_idle
    exact (hgain _ rfl).trans (congrArg List.length (hverdicts statusOf)).symm

/-- What a worker has added to a run that has completed its task, or has none. -/
structure Settles (record : Record) (statusOf : Ticket → WriteStatus) : Prop where
  /-- Its last message was accepted. -/
  ends : Hub.EndsAccepted (verdicts statusOf record.course)
  accepted : (verdicts statusOf record.course).count .ok = record.first.messages
  minted : (record.course.filterMap Exchange.minted?).length = record.first.messages
  written : (record.course.map (Exchange.gain (.counter .messagesOut))).sum =
    (verdicts statusOf record.course).length
  /-- Every submission is sampled or is an error. -/
  sampled : (record.course.map (Exchange.gain (.samples .write))).sum = record.first.messages
  errors : (record.course.map (Exchange.gain (.counter .sendErrors))).sum +
    (verdicts statusOf record.course).count .ok = (verdicts statusOf record.course).length
  throttled : (record.course.map (Exchange.gain (.counter .throttled))).sum =
    (verdicts statusOf record.course).count .throttled

theorem IsTrue.settles {statusOf : Ticket → WriteStatus} (isTrue : record.IsTrue)
    (new : record.first.IsNew)
    (completed : record.worker.engine.isProducer = true → record.worker.life.ending = .completed)
    (upholds : ∀ exchange ∈ record.course, exchange.Upholds statusOf) :
    record.Settles statusOf := by
  obtain ⟨name, first, worker, exchanges⟩ := record
  have hcourse : Engine.Course name first exchanges worker.engine := isTrue.course
  rcases new.eq_producer_or_consumer with ⟨isPipelined, options, rfl⟩ | ⟨isPipelined, options, rfl⟩
  · have hproducer : worker.engine.isProducer = true :=
      hcourse.isProducer_eq.trans (Engine.isProducer_producer isPipelined options)
    have hdone := isTrue.honest (.inl (completed hproducer))
    obtain ⟨history, hreckons⟩ := Producer.exists_reckons hcourse
    have hconcludes := hreckons.concludes hdone statusOf upholds
    have hmessages := Engine.messages_producer isPipelined options
    have hgain : ∀ gauge : Gauge, gauge.isSending = true →
        (exchanges.map (Exchange.gain gauge)).sum = history.gain options gauge := by
      intro gauge sending
      rw [← hreckons.gain gauge sending, Engine.pending_of_finish hdone]
      rfl
    have hverdicts : verdicts statusOf exchanges = history.statuses := hconcludes.heard
    have haccepted : (verdicts statusOf exchanges).count .ok = history.completed.length := by
      rw [hverdicts, Producer.History.count_statuses]
    have hlength : (verdicts statusOf exchanges).length =
        history.completed.length + history.refused.length := by
      rw [hverdicts, Producer.History.statuses, List.length_map, Producer.History.length_answers]
    refine ⟨hconcludes.last, ?_, ?_, ?_, ?_, ?_, ?_⟩
    · exact haccepted.trans (hconcludes.completed.trans hmessages.symm)
    · exact hreckons.minted.trans (hconcludes.minted.trans hmessages.symm)
    · show (exchanges.map _).sum = (verdicts statusOf exchanges).length
      rw [hgain _ rfl, Producer.History.gain_messagesOut, hreckons.verdicts]
    · show (exchanges.map _).sum = (Engine.producer isPipelined options).messages
      rw [hgain _ rfl, Producer.History.gain_writes, hconcludes.completed, hmessages]
    · show (exchanges.map _).sum + (verdicts statusOf exchanges).count .ok =
        (verdicts statusOf exchanges).length
      rw [hgain _ rfl, Producer.History.gain_sendErrors, haccepted, hlength, Nat.add_comm]
    · show (exchanges.map _).sum = (verdicts statusOf exchanges).count .throttled
      rw [hgain _ rfl, Producer.History.gain_throttled, hverdicts,
        Producer.History.slowed_eq hconcludes.repeatable]
  · obtain ⟨hgain, hverdicts, hminted⟩ := hcourse.consumer_idle
    have hnone : verdicts statusOf exchanges = [] := hverdicts statusOf
    have hmessages := Engine.messages_consumer isPipelined options
    refine ⟨?_, ?_, ?_, ?_, ?_, ?_, ?_⟩ <;> dsimp only
    · rw [hnone]
      intro status hlast
      cases hlast
    · rw [hnone, hmessages]
      rfl
    · rw [hminted, hmessages]
      rfl
    · rw [hgain _ rfl, hnone]
      rfl
    · rw [hgain _ rfl, hmessages]
    · rw [hgain _ rfl, hnone]
      rfl
    · rw [hgain _ rfl, hnone]
      rfl

end Crew.Record

/-! ## The crew -/

/-- A hub to which nothing was written so far, and which is open. -/
structure Hub.IsUnwritten (hub : Hub) : Prop where
  isOpen : hub.closed = false
  writes : hub.writes = 0
  counts : hub.counts = {}

namespace Crew

variable {hub : Hub} {staff : List (String × Engine)} {past : Past} {crew : Crew Hub}

/-- A hub counts what a crew writes. -/
theorem Reaches.exists_tallied (unwritten : hub.IsUnwritten)
    (new : ∀ member ∈ staff, member.2.IsNew)
    (destined : ∀ member ∈ staff, ∀ path, member.2.role = .publisher path →
      (hub.groups? path).isSome = true)
    (reaches : (opening hub staff).Reaches past crew) :
    ∃ total, Hub.IsTallied hub.throttleEvery (past.map Occasion.exchange) crew.shared.client
      total := by
  refine (reaches.step_induction (P := fun past crew => crew.IsManned ∧
    ∃ total, Hub.IsTallied hub.throttleEvery (past.map Occasion.exchange) crew.shared.client
      total)
    ⟨.opening unwritten.isOpen new destined, 0, by simp, rfl, rfl, unwritten.writes, ?_, ?_⟩
    fun before steps => ?_).2
  · exact congrArg HubCounts.accepted unwritten.counts
  · exact congrArg HubCounts.throttled unwritten.counts
  · obtain ⟨manned, total, tallied⟩ := before
    obtain ⟨hmanned, hshows⟩ := manned.steps steps
    refine ⟨hmanned, ?_⟩
    cases steps with
    | ask found asks reply served ledger =>
      rw [List.map_append]
      exact tallied.shows (hshows _ List.mem_cons_self) served
    | live found name client ledger honest =>
      rw [List.append_nil, client]
      exact ⟨total, tallied⟩

/-- What adds up along a course adds up along the past of a crew. -/
theorem IsRecorded.sum {records : List Record} (recorded : IsRecorded staff past crew records)
    {f : List Exchange → Nat} (nil : f [] = 0)
    (snoc : ∀ exchanges exchange, f (exchanges ++ [exchange]) = f exchanges + f [exchange])
    {g : Record → Nat} (same : ∀ record ∈ records, f record.course = g record) :
    f (past.map Occasion.exchange) = (records.map g).sum := by
  rw [recorded.past.sum nil snoc, List.map_map]
  exact congrArg List.sum (List.map_congr_left same)

/-- A gauge shows what the workers of a crew have moved it on. -/
theorem IsRecorded.read {records : List Record} (recorded : IsRecorded staff past crew records)
    (reaches : (opening hub staff).Reaches past crew) (gauge : Gauge) {g : Record → Nat}
    (same : ∀ record ∈ records, (record.course.map (Exchange.gain gauge)).sum = g record) :
    crew.shared.ledger.metrics.read gauge = UInt64.ofNat (records.map g).sum := by
  have hsum := recorded.sum (f := fun exchanges => (exchanges.map (Exchange.gain gauge)).sum) rfl
    (fun exchanges exchange => by rw [List.map_append, List.sum_append]) same
  have hzero : (opening hub staff).shared.ledger.metrics.read gauge = 0 := by
    cases gauge with
    | counter counter => cases counter <;> rfl
    | samples channel => cases channel <;> rfl
  rw [reaches.ledger_eq, Ledger.read_foldl_after, hzero, UInt64.zero_add]
  exact congrArg UInt64.ofNat hsum

/-- What adds up along verdicts adds up along the verdicts on all workers of a crew. -/
theorem IsRecorded.sum_verdicts {records : List Record}
    (recorded : IsRecorded staff past crew records) (statusOf : Ticket → WriteStatus)
    {f : List WriteStatus → Nat} (nil : f [] = 0)
    (append : ∀ passed more, f (passed ++ more) = f passed + f more) :
    f (verdicts statusOf (past.map Occasion.exchange)) =
      (records.map fun record => f (verdicts statusOf record.course)).sum :=
  recorded.sum (f := fun exchanges => f (verdicts statusOf exchanges)) nil
    (fun exchanges exchange => by rw [verdicts, List.filterMap_append, append]; rfl) fun _ _ => rfl

/-- The counters of a crew and of its hub, when so many messages were sent. -/
structure IsReconciled (throttleEvery : UInt32) (total : Nat) (crew : Crew Hub) : Prop where
  accepted : crew.shared.client.counts.accepted = UInt64.ofNat total
  sampled : crew.shared.ledger.metrics.writeLatency.count = UInt64.ofNat total
  latest : crew.shared.ledger.ids.latest = UInt64.ofNat total
  errors : crew.shared.ledger.metrics.sendErrors = crew.shared.client.counts.throttled
  slowed : crew.shared.ledger.metrics.throttled = crew.shared.client.counts.throttled
  written : crew.shared.ledger.metrics.messagesOut =
    UInt64.ofNat total + crew.shared.client.counts.throttled
  /-- Without a pace nothing is refused. -/
  unpaced : throttleEvery = 0 → crew.shared.client.counts.throttled = 0
  /-- With one it is known how often, as long as a word can count the writes. -/
  paced : 2 ≤ throttleEvery.toNat →
    total + (total - 1) / (throttleEvery.toNat - 1) < 2 ^ 64 →
    crew.shared.client.counts.throttled.toNat = (total - 1) / (throttleEvery.toNat - 1)

/-- If every worker has completed its task, then the last verdict was in favour of somebody, and
as many were in favour as there were messages. -/
theorem IsRecorded.concludes {records : List Record} {statusOf : Ticket → WriteStatus}
    (recorded : IsRecorded staff past crew records)
    (settles : ∀ record ∈ records, record.Settles statusOf) :
    Hub.EndsAccepted (verdicts statusOf (past.map Occasion.exchange)) ∧
      (verdicts statusOf (past.map Occasion.exchange)).count .ok =
        (staff.map fun member => member.2.messages).sum := by
  refine ⟨fun status hlast => ?_, ?_⟩
  · obtain ⟨exchanges, hcourse, hend⟩ := recorded.past.getLast?_filterMap hlast
    obtain ⟨record, hmem, rfl⟩ := List.mem_map.1 hcourse
    exact (settles record hmem).ends status hend
  · rw [recorded.sum_verdicts _ rfl fun _ _ => List.count_append, ← recorded.staff, List.map_map]
    exact congrArg List.sum (List.map_congr_left fun record hmem => (settles record hmem).accepted)

/-- If every worker has completed its task, then all the counters are known. -/
theorem IsRecorded.reconciled {records : List Record} {throttleEvery : UInt32} {total : Nat}
    (recorded : IsRecorded staff past crew records)
    (reaches : (opening hub staff).Reaches past crew)
    (tallied : Hub.IsTallied throttleEvery (past.map Occasion.exchange) crew.shared.client total)
    (settles : ∀ record ∈ records, record.Settles crew.shared.client.statusOf) :
    IsReconciled throttleEvery (staff.map fun member => member.2.messages).sum crew := by
  obtain ⟨messages, hmessages⟩ : ∃ messages,
      messages = (staff.map fun member => member.2.messages).sum := ⟨_, rfl⟩
  obtain ⟨hends, hok⟩ := recorded.concludes settles
  rw [← hmessages] at hok ⊢
  rw [tallied.verdicts] at hends hok
  have hfirst : (records.map fun record => record.first.messages).sum = messages := by
    rw [hmessages, ← recorded.staff, List.map_map]
    rfl
  have hall := Hub.count_ok_add_count_throttled throttleEvery total
  rw [hok] at hall
  have hlength : (records.map fun record =>
      (verdicts crew.shared.client.statusOf record.course).length).sum = total := by
    rw [← recorded.sum_verdicts _ rfl fun _ _ => List.length_append, tallied.verdicts,
      Hub.length_pace]
  have herrors : (records.map fun record =>
      (record.course.map (Exchange.gain (.counter .sendErrors))).sum).sum =
        (Hub.pace throttleEvery total).count .throttled := by
    have hadd := hlength
    rw [← List.map_congr_left fun record hmem => (settles record hmem).errors, List.sum_map_add,
      ← recorded.sum_verdicts _ rfl fun _ _ => List.count_append, tallied.verdicts, hok] at hadd
    omega
  have hread := recorded.read reaches
  have hthrottled := tallied.throttled
  refine ⟨by rw [tallied.accepted, hok], ?_, ?_, ?_, ?_, ?_, ?_, fun two fits => ?_⟩
  · exact (hread (.samples .write) fun record hmem => (settles record hmem).sampled).trans
      (congrArg UInt64.ofNat hfirst)
  · have hminted := recorded.sum (f := fun exchanges =>
      (exchanges.filterMap Exchange.minted?).length) rfl
      (fun exchanges exchange => by rw [List.filterMap_append, List.length_append])
      fun record hmem => (settles record hmem).minted
    rw [reaches.ledger_eq, Ledger.latest_foldl_after]
    exact (UInt64.zero_add _).trans (congrArg UInt64.ofNat (hminted.trans hfirst))
  · rw [hthrottled, ← herrors]
    exact hread (.counter .sendErrors) fun _ _ => rfl
  · refine (hread (.counter .throttled) fun record hmem => (settles record hmem).throttled).trans ?_
    rw [hthrottled, ← tallied.verdicts, recorded.sum_verdicts _ rfl fun _ _ => List.count_append]
  · rw [hthrottled, ← UInt64.ofNat_add, hall, ← hlength]
    exact hread (.counter .messagesOut) fun record hmem => (settles record hmem).written
  · rintro rfl
    rw [hthrottled, Hub.count_throttled_zero]
    rfl
  · rw [← hok] at fits ⊢
    have hfits := Nat.lt_of_le_of_lt (Nat.le_add_left _ _) fits
    rw [hthrottled, Hub.throttled_eq two hends fits]
    exact UInt64.toNat_ofNat_of_lt' hfits

/-- Whatever a crew of new engines has done on an open hub that has all their destinations, in
whatever order its workers took their steps: while no submission is still to be counted, what
the crew has counted is what the hub has accepted and throttled, and once every producer has
completed its task, all the counters are known. -/
theorem counters_reconcile (unwritten : hub.IsUnwritten)
    (new : ∀ member ∈ staff, member.2.IsNew)
    (destined : ∀ member ∈ staff, ∀ path, member.2.role = .publisher path →
      (hub.groups? path).isSome = true)
    (reaches : (opening hub staff).Reaches past crew) :
    ((∀ worker ∈ crew.workers, ∀ amount, .bump .messagesOut amount ∉ worker.engine.pending) →
      crew.shared.ledger.metrics.messagesOut =
        crew.shared.client.counts.accepted + crew.shared.client.counts.throttled) ∧
    ((∀ worker ∈ crew.workers, worker.engine.isProducer = true →
        worker.life.ending = .completed) →
      IsReconciled hub.throttleEvery (staff.map fun member => member.2.messages).sum crew) := by
  obtain ⟨total, tallied⟩ := reaches.exists_tallied unwritten new destined
  obtain ⟨records, recorded⟩ := reaches.exists_records
  have hnew : ∀ record ∈ records, record.first.IsNew := fun record hmem =>
    new _ (recorded.staff ▸ List.mem_map_of_mem hmem)
  have hworker : ∀ record ∈ records, record.worker ∈ crew.workers := fun record hmem =>
    recorded.workers ▸ List.mem_map_of_mem hmem
  refine ⟨fun quiet => ?_, fun completed => ?_⟩
  · have hwritten := recorded.read reaches (.counter .messagesOut) fun record hmem =>
      (recorded.isTrue record hmem).written (hnew record hmem)
        (quiet _ (hworker record hmem)) crew.shared.client.statusOf
    rw [← recorded.sum_verdicts _ rfl fun _ _ => List.length_append, tallied.verdicts,
      Hub.length_pace] at hwritten
    rw [tallied.accepted, tallied.throttled, ← UInt64.ofNat_add, Hub.count_ok_add_count_throttled]
    exact hwritten
  · refine recorded.reconciled reaches tallied fun record hmem => ?_
    refine (recorded.isTrue record hmem).settles (hnew record hmem)
      (completed _ (hworker record hmem)) fun exchange hexchange => ?_
    have hwhole := recorded.past.mem_whole (List.mem_map_of_mem hmem) hexchange
    exact (tallied.filed exchange hwhole).upholds

/-- A crew in which nobody has anything to say has nothing to count. -/
theorem quiet_of_pending (nothing : ∀ worker ∈ crew.workers, worker.engine.pending = []) :
    ∀ worker ∈ crew.workers, ∀ amount, .bump .messagesOut amount ∉ worker.engine.pending := by
  intro worker hmem amount
  rw [nothing worker hmem]
  exact List.not_mem_nil

/-- Two producers that write by turns to a hub that refuses every other write. -/
theorem counters_reconcile_every_other :
    ∃ past crew, (Crew.opening (.serving "orders" "billing" 2 0 0)
        [("first", .producer true
            { destination := "orders", messages := 2, messageSize := 0, maxInFlight := 2 }),
          ("second", .producer false
            { destination := "orders", messages := 1, messageSize := 0 })]).Reaches past crew ∧
      crew.shared.ledger.metrics.messagesOut =
        crew.shared.client.counts.accepted + crew.shared.client.counts.throttled ∧
      IsReconciled 2 3 crew ∧ crew.shared.client.counts.throttled = 2 := by
  have begun := @Crew.Reaches.start (.opening (.serving "orders" "billing" 2 0 0)
    [("first", .producer true
        { destination := "orders", messages := 2, messageSize := 0, maxInFlight := 2 }),
      ("second", .producer false { destination := "orders", messages := 1, messageSize := 0 })])
  have reaches :=
    ((((begun.started 0).started 1).runWorker 0 12).runWorker 1 40).runWorker 0 60
  have hroles : ∀ path, Role.publisher "orders" = .publisher path →
      ((Hub.serving "orders" "billing" 2 0 0).groups? path).isSome = true := by
    rintro path heq
    cases heq
    decide
  have hall := Crew.counters_reconcile ⟨rfl, rfl, rfl⟩ ?_ ?_ reaches
  · exact ⟨_, _, reaches, hall.1 (quiet_of_pending (by decide +kernel)), hall.2 (by decide +kernel),
      by decide +kernel⟩
  · exact List.forall_mem_cons.2 ⟨.producer true _, List.forall_mem_singleton.2 (.producer false _)⟩
  · exact List.forall_mem_cons.2 ⟨hroles, List.forall_mem_singleton.2 hroles⟩

end Crew
end BrokerLoad
