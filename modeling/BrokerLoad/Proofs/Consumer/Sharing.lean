import BrokerLoad.Proofs.Consumer.Steps
import BrokerLoad.Proofs.Consumer.Noting

/-!
# Consumers that share a ledger

Deliveries are shared out among any number of consumers, and these take them in, each of them one
after another and all of them at the same time: between two steps of one of them any others may
take theirs.  `Sharing` are the runs that come of it, with the ledger that answers all of them.

That the order is immaterial is not shown by exchanging steps.  It is enough that nothing gets
lost: at any time the ids of the deliveries have been noted or are still to be, and so with the
acknowledgements and the counters (`Balances`).  When nothing is left to be done, everything that
can be told of the ledger is told by what the deliveries were, up to their order (`TakesIn`).  Which
delivery of an id is the first one does depend on the order; that there is one does not, since the
ledger notes an id and tells whether it was new in one step.
-/

namespace BrokerLoad

/-- Whether an exchange is no acknowledgement that the broker does not take. -/
def Exchange.IsTaken : Exchange → Prop
  | ⟨.broker (.ack _), reply⟩ => reply = .ok true
  | _ => True

namespace Consumer

/-- The delivery whose id was noted in a turn of an intake, and whether the id was new. -/
def sighting? (turn : Turn Intake) : Option (Delivery × Bool) :=
  match turn.exchange with
  | ⟨.note _, fresh⟩ => some (turn.state.now.delivery, fresh)
  | _ => none

/-- The deliveries whose ids were noted, and whether they were new. -/
def sightings (turns : List (Turn Intake)) : List (Delivery × Bool) := turns.filterMap sighting?

/-- What happened in some turns. -/
def historyOf (turns : List (Turn Intake)) : History := .of (turns.map Turn.exchange)

/-! ## Intakes of envelopes -/

namespace Intake

/-- An intake of an envelope in which all goes well. -/
def IsSound (intake : Intake) : Prop :=
  match intake.stage with
  | .arrived => intake.delivery.payload.id?.isSome = true
  | .noting id => intake.delivery.payload.id? = some id
  | .acking id => intake.delivery.payload.id? = some id
  | .over result => result = .ok true

/-- The delivery, if its id is still to be noted. -/
def unsighted (intake : Intake) : List Delivery :=
  match intake.stage with
  | .arrived => [intake.delivery]
  | .noting _ => [intake.delivery]
  | _ => []

/-- The delivery, if it is still to be acknowledged. -/
def unsettled (intake : Intake) : List Delivery :=
  match intake.stage with
  | .over _ => []
  | _ => [intake.delivery]

/-- What becomes of a delivery in a turn of its intake. -/
structure Passes (state : Paced Intake) (exchange : Exchange) (after : Paced Intake) : Prop where
  sound : after.now.IsSound
  unsighted : state.now.unsighted =
    (sightings [⟨state, exchange⟩]).map Prod.fst ++ after.now.unsighted
  unsettled : state.now.unsettled = (historyOf [⟨state, exchange⟩]).settled ++ after.now.unsettled
  notes : (historyOf [⟨state, exchange⟩]).notes =
    (sightings [⟨state, exchange⟩]).filterMap fun sighting =>
      sighting.1.payload.id?.map fun id => (id, sighting.2)
  gain : ∀ gauge, exchange.gain gauge + (standing after).dues gauge =
    (standing state).dues gauge + (historyOf [⟨state, exchange⟩]).gain gauge

theorem Move.passes {intake : Intake} {exchange : Exchange} {after : Paced Intake}
    (move : Move intake exchange after) (sound : intake.IsSound) (taken : exchange.IsTaken) :
    Passes ⟨[], intake⟩ exchange after := by
  have hgain : ∀ gauge, exchange.gain gauge + (standing after).dues gauge =
      (standing ⟨[], intake⟩).dues gauge + History.gain exchange.event?.toList gauge := by
    obtain ⟨events, step⟩ := move.step
    rw [step.event]
    exact step.gain
  cases move with
  | decode envelope here decodes =>
    have hid : intake.delivery.payload.id? = some envelope.id := by
      rw [Bytes.id?, decodes, Option.map_some]
    exact ⟨hid, by rw [unsighted, here]; rfl, by rw [unsettled, here]; rfl, rfl, hgain⟩
  | garble line here garbled =>
    rw [IsSound, here, Bytes.id?, garbled] at sound
    cases sound
  | note id here =>
    rw [IsSound, here] at sound
    refine ⟨sound, by rw [unsighted, here]; rfl, by rw [unsettled, here]; rfl, ?_, hgain⟩
    show [(id, true)] = [(intake.delivery, true)].filterMap _
    rw [List.filterMap_cons, sound]
    rfl
  | «repeat» id here =>
    rw [IsSound, here] at sound
    refine ⟨sound, by rw [unsighted, here]; rfl, by rw [unsettled, here]; rfl, ?_, hgain⟩
    show [(id, false)] = [(intake.delivery, false)].filterMap _
    rw [List.filterMap_cons, sound]
    rfl
  | ack id here =>
    exact ⟨rfl, by rw [unsighted, here]; rfl, by rw [unsettled, here]; rfl, rfl, hgain⟩
  | reject id line here => cases taken
  | crash id fault here => cases taken

theorem passes {name : String} {state : Paced Intake} {query : Query}
    {next : query.Reply → Paced Intake} (sound : state.now.IsSound)
    (asks : state.request (Intake.request name) = .ask query next) (reply : query.Reply)
    (taken : Exchange.IsTaken ⟨query, reply⟩) : Passes state ⟨query, reply⟩ (next reply) := by
  obtain ⟨pending, intake⟩ := state
  cases pending with
  | cons emission rest =>
    cases asks
    exact ⟨sound, rfl, rfl, rfl, (Step.emit emission rest intake.phase intake.counts).gain⟩
  | nil =>
    have move := Move.of_request (show intake.request name = .ask query next from asks) reply
    exact move.passes sound taken

/-- An intake that has finished has said all. -/
theorem of_finish {name : String} {state : Paced Intake} {result : Except Fault Bool}
    (finishes : state.request (Intake.request name) = .finish result) :
    state.pending = [] ∧ state.now.stage = .over result := by
  obtain ⟨pending, intake⟩ := state
  cases pending with
  | cons emission rest => cases finishes
  | nil => exact ⟨rfl, over_of_finish (show intake.request name = .finish result from finishes)⟩

end Intake

/-! ## Takers -/

/-- One of several consumers: the deliveries that it has still to take in, one after another, and
the one that it is taking in. -/
structure Taker where
  /-- What it is called in log lines. -/
  name : String
  waiting : List Delivery
  current : Option (Paced Intake) := none
  counts : Counts := {}

namespace Taker

/-- A step of a consumer: what the ledger is before, the turn of the intake if there is one, and
what the ledger is then.  Whatever is to be acknowledged is. -/
inductive Step (ledger : Ledger) : Taker → List (Turn Intake) → Taker → Ledger → Prop
  /-- The next delivery is handed to it. -/
  | begin (name : String) (delivery : Delivery) (waiting : List Delivery) (counts : Counts) :
    Step ledger ⟨name, delivery :: waiting, none, counts⟩ []
      ⟨name, waiting, some (.enter { delivery := delivery, counts := counts }), counts⟩ ledger
  /-- The intake moves on. -/
  | ask (name : String) (waiting : List Delivery) (counts : Counts) {state : Paced Intake}
      {query : Query} {next : query.Reply → Paced Intake} (reply : query.Reply)
      (asks : state.request (Intake.request name) = .ask query next)
      (allowed : ledger.Allows ⟨query, reply⟩) (taken : Exchange.IsTaken ⟨query, reply⟩) :
    Step ledger ⟨name, waiting, some state, counts⟩ [⟨state, ⟨query, reply⟩⟩]
      ⟨name, waiting, some (next reply), counts⟩ (ledger.after ⟨query, reply⟩)
  /-- The delivery has been taken in. -/
  | finish (name : String) (waiting : List Delivery) (counts : Counts) {state : Paced Intake}
      (finishes : state.request (Intake.request name) = .finish (.ok true)) :
    Step ledger ⟨name, waiting, some state, counts⟩ []
      ⟨name, waiting, none, state.now.counts.addReceived⟩ ledger

/-- The deliveries whose ids it has still to note. -/
def unsighted (taker : Taker) : List Delivery :=
  taker.current.elim [] (fun state => state.now.unsighted) ++ taker.waiting

/-- The deliveries that it has still to acknowledge. -/
def unsettled (taker : Taker) : List Delivery :=
  taker.current.elim [] (fun state => state.now.unsettled) ++ taker.waiting

/-- How far a gauge is behind what it has done. -/
def dues (gauge : Gauge) (taker : Taker) : Nat :=
  taker.current.elim 0 fun state => (Intake.standing state).dues gauge

/-- Whether it has nothing left to do. -/
def IsDone (taker : Taker) : Prop := taker.waiting = [] ∧ taker.current = none

/-- A consumer of envelopes, with which all goes well. -/
structure IsSound (taker : Taker) : Prop where
  waiting : ∀ delivery ∈ taker.waiting, delivery.payload.id?.isSome = true
  current : ∀ state, taker.current = some state → state.now.IsSound

/-- What a consumer does in a step. -/
structure Does (before : Taker) (turns : List (Turn Intake)) (after : Taker) : Prop where
  sound : after.IsSound
  unsighted : before.unsighted = (sightings turns).map Prod.fst ++ after.unsighted
  unsettled : before.unsettled = (historyOf turns).settled ++ after.unsettled
  notes : (historyOf turns).notes =
    (sightings turns).filterMap fun sighting =>
      sighting.1.payload.id?.map fun id => (id, sighting.2)
  gain : ∀ gauge, ((turns.map Turn.exchange).map (Exchange.gain gauge)).sum + after.dues gauge =
    before.dues gauge + (historyOf turns).gain gauge

theorem Step.does {ledger ledger' : Ledger} {before after : Taker} {turns : List (Turn Intake)}
    (step : before.Step ledger turns after ledger') (sound : before.IsSound) :
    before.Does turns after := by
  cases step with
  | begin name delivery waiting counts =>
    have henvelope := sound.waiting delivery List.mem_cons_self
    refine ⟨⟨fun other hmem => sound.waiting other (List.mem_cons_of_mem _ hmem), ?_⟩, rfl, rfl,
      rfl, fun gauge => ?_⟩
    · rintro state ⟨⟩
      exact henvelope
    · have hnone : delivery.payload.id?.isNone = false := by
        rw [← Option.not_isSome, henvelope]
        rfl
      show 0 + Standing.dues ⟨[], .arrived delivery, counts⟩ gauge = 0
      rw [Standing.dues, Phase.owes, hnone]
      simp
  | ask name waiting counts reply asks allowed taken =>
    have passes := Intake.passes (sound.current _ rfl) asks reply taken
    refine ⟨⟨sound.waiting, ?_⟩, ?_, ?_, passes.notes, fun gauge => ?_⟩
    · rintro state ⟨⟩
      exact passes.sound
    · exact (congrArg (· ++ waiting) passes.unsighted).trans (List.append_assoc _ _ _)
    · exact (congrArg (· ++ waiting) passes.unsettled).trans (List.append_assoc _ _ _)
    · exact passes.gain gauge
  | @finish name waiting counts state finishes =>
    obtain ⟨hpending, hstage⟩ := Intake.of_finish finishes
    refine ⟨⟨sound.waiting, ?_⟩, ?_, ?_, rfl, fun gauge => ?_⟩
    · rintro state ⟨⟩
    · show state.now.unsighted ++ waiting = waiting
      rw [Intake.unsighted, hstage, List.nil_append]
    · show state.now.unsettled ++ waiting = waiting
      rw [Intake.unsettled, hstage, List.nil_append]
    · show 0 = (Intake.standing state).dues gauge
      rw [Standing.dues, Intake.standing, hpending, Intake.phase, hstage]
      simp

/-- A step is answered by the ledger. -/
theorem Step.answers {ledger ledger' before : Ledger} {taker after : Taker}
    {turns : List (Turn Intake)} {exchanges : List Exchange}
    (step : taker.Step ledger turns after ledger') (answered : before.Answers exchanges ledger) :
    before.Answers (exchanges ++ turns.map Turn.exchange) ledger' := by
  cases step with
  | begin name delivery waiting counts =>
    rw [List.map_nil, List.append_nil]
    exact answered
  | ask name waiting counts reply asks allowed taken => exact answered.ask allowed
  | finish name waiting counts finishes =>
    rw [List.map_nil, List.append_nil]
    exact answered

/-- A consumer that has nothing left to do has nothing to note, to acknowledge or to count. -/
theorem IsDone.spent {taker : Taker} (done : taker.IsDone) :
    taker.unsighted = [] ∧ taker.unsettled = [] ∧ ∀ gauge, taker.dues gauge = 0 := by
  obtain ⟨name, waiting, current, counts⟩ := taker
  obtain ⟨rfl, rfl⟩ := done
  exact ⟨rfl, rfl, fun _ => rfl⟩

end Taker

/-! ## Sharing -/

/-- Several consumers at work with one ledger, in whatever order they take their steps: the turns
of their intakes so far, where they are, and what the ledger is. -/
inductive Sharing (start : List Taker) (before : Ledger) :
    List (Turn Intake) → List Taker → Ledger → Prop
  /-- None of them has taken a step. -/
  | start : Sharing start before [] start before
  /-- One of them takes a step. -/
  | step {turns more : List (Turn Intake)} {earlier later : List Taker} {taker after : Taker}
      {ledger ledger' : Ledger}
      (sharing : Sharing start before turns (earlier ++ taker :: later) ledger)
      (step : taker.Step ledger more after ledger') :
      Sharing start before (turns ++ more) (earlier ++ after :: later) ledger'

/-- What was done with some deliveries, and what is still to be done with them. -/
structure Balances (deliveries : List Delivery) (turns : List (Turn Intake))
    (takers : List Taker) : Prop where
  sound : ∀ taker ∈ takers, taker.IsSound
  /-- The id of every delivery has been noted, or is still to be. -/
  sighted : deliveries.Perm
    ((sightings turns).map Prod.fst ++ takers.flatMap Taker.unsighted)
  /-- Every delivery has been acknowledged, or is still to be. -/
  settled : deliveries.Perm ((historyOf turns).settled ++ takers.flatMap Taker.unsettled)
  notes : (historyOf turns).notes =
    (sightings turns).filterMap fun sighting =>
      sighting.1.payload.id?.map fun id => (id, sighting.2)
  gain : ∀ gauge, ((turns.map Turn.exchange).map (Exchange.gain gauge)).sum +
    (takers.map (Taker.dues gauge)).sum = (historyOf turns).gain gauge

theorem historyOf_append (turns more : List (Turn Intake)) :
    historyOf (turns ++ more) = historyOf turns ++ historyOf more := by
  rw [historyOf, List.map_append, History.of_append, historyOf, historyOf]

theorem sightings_append (turns more : List (Turn Intake)) :
    sightings (turns ++ more) = sightings turns ++ sightings more :=
  List.filterMap_append

/-- What one of several has done it need not do any more. -/
theorem perm_advance {α β : Type} {f : α → List β} {all done more : List β} {a a' : α}
    {earlier later : List α} (perm : all.Perm (done ++ (earlier ++ a :: later).flatMap f))
    (advances : f a = more ++ f a') :
    all.Perm ((done ++ more) ++ (earlier ++ a' :: later).flatMap f) := by
  refine perm.trans ?_
  rw [List.flatMap_append, List.flatMap_cons, advances, List.flatMap_append, List.flatMap_cons,
    List.append_assoc done more, List.append_assoc more]
  refine List.Perm.append_left done ?_
  rw [← List.append_assoc, ← List.append_assoc more]
  exact List.perm_append_comm.append_right _

theorem Balances.step {deliveries : List Delivery} {turns more : List (Turn Intake)}
    {earlier later : List Taker} {taker after : Taker} {ledger ledger' : Ledger}
    (balances : Balances deliveries turns (earlier ++ taker :: later))
    (step : taker.Step ledger more after ledger') :
    Balances deliveries (turns ++ more) (earlier ++ after :: later) := by
  have hsound : taker.IsSound := balances.sound taker (by simp)
  have hdoes := step.does hsound
  constructor
  case sound =>
    intro other hmem
    rcases List.mem_append.1 hmem with hearlier | hlater
    · exact balances.sound other (List.mem_append_left _ hearlier)
    · rcases List.mem_cons.1 hlater with rfl | hlater
      · exact hdoes.sound
      · exact balances.sound other (by simp [hlater])
  case sighted =>
    rw [sightings_append, List.map_append]
    exact perm_advance balances.sighted hdoes.unsighted
  case settled =>
    rw [historyOf_append, History.settled_append]
    exact perm_advance balances.settled hdoes.unsettled
  case notes =>
    rw [historyOf_append, History.notes_append, balances.notes, hdoes.notes, sightings_append,
      List.filterMap_append]
  case gain =>
    intro gauge
    have hbefore := balances.gain gauge
    have hstep := hdoes.gain gauge
    rw [historyOf_append, History.gain_append]
    simp only [List.map_append, List.sum_append, List.map_cons, List.sum_cons] at hbefore ⊢
    omega

/-- When all is done, every delivery has been noted and acknowledged, and is counted. -/
theorem Balances.finished {deliveries : List Delivery} {turns : List (Turn Intake)}
    {done : List Taker} (balances : Balances deliveries turns done)
    (ends : ∀ taker ∈ done, taker.IsDone) :
    ((sightings turns).map Prod.fst).Perm deliveries ∧
      (historyOf turns).settled.Perm deliveries ∧
      ∀ gauge, ((turns.map Turn.exchange).map (Exchange.gain gauge)).sum =
        (historyOf turns).gain gauge := by
  have hunsighted : done.flatMap Taker.unsighted = [] :=
    List.flatMap_eq_nil_iff.2 fun taker hmem => (ends taker hmem).spent.1
  have hunsettled : done.flatMap Taker.unsettled = [] :=
    List.flatMap_eq_nil_iff.2 fun taker hmem => (ends taker hmem).spent.2.1
  have hdues : ∀ gauge, (done.map (Taker.dues gauge)).sum = 0 := fun gauge =>
    List.sum_eq_zero (List.forall_mem_map.2 fun taker hmem => (ends taker hmem).spent.2.2 gauge)
  have hsighted := balances.sighted
  have hsettled := balances.settled
  rw [hunsighted, List.append_nil] at hsighted
  rw [hunsettled, List.append_nil] at hsettled
  refine ⟨hsighted.symm, hsettled.symm, fun gauge => ?_⟩
  rw [← balances.gain gauge, hdues, Nat.add_zero]

/-- The ids noted are those of the deliveries that were taken in. -/
theorem Balances.noted_eq {deliveries : List Delivery} {turns : List (Turn Intake)}
    {takers : List Taker} (balances : Balances deliveries turns takers) :
    (historyOf turns).noted =
      ((sightings turns).map Prod.fst).filterMap fun delivery => delivery.payload.id? := by
  rw [← History.map_fst_notes, balances.notes, List.map_filterMap, List.filterMap_map]
  refine List.filterMap_congr fun sighting _ => ?_
  show _ = sighting.1.payload.id?
  cases sighting.1.payload.id? <;> rfl

namespace Sharing

variable {takers now : List Taker} {turns : List (Turn Intake)} {before after : Ledger}
  {deliveries : List Delivery}

/-- The ledger answers whoever asks. -/
theorem answers (sharing : Sharing takers before turns now after) :
    before.Answers (turns.map Turn.exchange) after := by
  induction sharing with
  | start => exact .start
  | step sharing step ih =>
    rw [List.map_append]
    exact step.answers ih

/-- What some consumers have done and what they have still to do make up what they were given. -/
theorem balances (sharing : Sharing takers before turns now after)
    (begins : ∀ taker ∈ takers, taker.current = none)
    (shares : (takers.flatMap Taker.waiting).Perm deliveries)
    (envelopes : ∀ delivery ∈ deliveries, delivery.payload.id?.isSome = true) :
    Balances deliveries turns now := by
  have hunsighted : takers.flatMap Taker.unsighted = takers.flatMap Taker.waiting :=
    List.flatMap_congr fun taker hmem => by
      rw [Taker.unsighted, begins taker hmem, Option.elim_none, List.nil_append]
  have hunsettled : takers.flatMap Taker.unsettled = takers.flatMap Taker.waiting :=
    List.flatMap_congr fun taker hmem => by
      rw [Taker.unsettled, begins taker hmem, Option.elim_none, List.nil_append]
  induction sharing with
  | start =>
    refine ⟨fun taker hmem => ⟨fun delivery hwaiting => ?_, ?_⟩, ?_, ?_, rfl, fun gauge => ?_⟩
    · exact envelopes delivery (shares.mem_iff.1 (List.mem_flatMap.2 ⟨taker, hmem, hwaiting⟩))
    · rw [begins taker hmem]
      exact nofun
    · show deliveries.Perm (takers.flatMap Taker.unsighted)
      rw [hunsighted]
      exact shares.symm
    · show deliveries.Perm (takers.flatMap Taker.unsettled)
      rw [hunsettled]
      exact shares.symm
    · refine (Nat.zero_add _).trans (List.sum_eq_zero (List.forall_mem_map.2 fun taker hmem => ?_))
      rw [Taker.dues, begins taker hmem, Option.elim_none]
  | step sharing step ih => exact ih.step step

end Sharing

/-- What it comes to that some deliveries are taken in. -/
structure TakesIn (deliveries : List Delivery) (sightings : List (Delivery × Bool))
    (before after : Ledger) : Prop where
  /-- Their ids have been seen. -/
  seen : ∀ id, after.seen.contains id =
    (decide (id ∈ deliveries.filterMap fun delivery => delivery.payload.id?) ||
      before.seen.contains id)
  messagesIn : after.metrics.messagesIn =
    before.metrics.messagesIn + UInt64.ofNat deliveries.length
  bytesIn : after.metrics.bytesIn = before.metrics.bytesIn +
    UInt64.ofNat (deliveries.map fun delivery => delivery.payload.length).sum
  /-- They are duplicates, but for as many as there are new ids. -/
  duplicates : after.metrics.duplicates = before.metrics.duplicates +
    UInt64.ofNat (deliveries.length -
      (before.seen.unseen (deliveries.filterMap fun delivery => delivery.payload.id?)).length)
  /-- The id of every delivery was noted. -/
  sighted : (sightings.map Prod.fst).Perm deliveries
  /-- Of the deliveries of an id that is new one was no duplicate. -/
  once : ∀ id ∈ deliveries.filterMap fun delivery => delivery.payload.id?,
    (sightings.countP fun sighting => sighting.1.payload.id? = some id && sighting.2) =
      if before.seen.contains id then 0 else 1

/-- A delivery was noted as new as often as its id was. -/
theorem count_notes_sightings (sightings : List (Delivery × Bool)) (id : UInt64) :
    (sightings.filterMap fun sighting =>
        sighting.1.payload.id?.map fun id => (id, sighting.2)).count (id, true) =
      sightings.countP fun sighting => sighting.1.payload.id? = some id && sighting.2 := by
  rw [List.count, List.countP_filterMap]
  refine List.countP_congr fun sighting _ => ?_
  cases sighting.1.payload.id? <;> simp

theorem Sharing.takesIn {takers done : List Taker} {turns : List (Turn Intake)}
    {before after : Ledger} {deliveries : List Delivery}
    (sharing : Sharing takers before turns done after)
    (begins : ∀ taker ∈ takers, taker.current = none)
    (shares : (takers.flatMap Taker.waiting).Perm deliveries)
    (envelopes : ∀ delivery ∈ deliveries, delivery.payload.id?.isSome = true)
    (ends : ∀ taker ∈ done, taker.IsDone) : TakesIn deliveries (sightings turns) before after := by
  have balances := sharing.balances begins shares envelopes
  have answered := sharing.answers
  obtain ⟨hsighted, hsettled, hgain⟩ := balances.finished ends
  have hnoted : (historyOf turns).noted.Perm
      (deliveries.filterMap fun delivery => delivery.payload.id?) :=
    balances.noted_eq ▸ hsighted.filterMap _
  have hread : ∀ gauge, after.metrics.read gauge =
      before.metrics.read gauge + UInt64.ofNat ((historyOf turns).gain gauge) :=
    fun gauge => hgain gauge ▸ answered.read gauge
  constructor
  case seen =>
    intro id
    rw [answered.contains_seen, ← decide_eq_decide.2 hnoted.mem_iff]
    rfl
  case messagesIn =>
    rw [← hsettled.length_eq, ← History.gain_messagesIn]
    exact hread (.counter .messagesIn)
  case bytesIn =>
    rw [← (hsettled.map _).sum_eq, ← History.ofNat_gain_bytesIn]
    exact hread (.counter .bytesIn)
  case duplicates =>
    have hrepeats : (historyOf turns).repeats = deliveries.length -
        (before.seen.unseen
          (deliveries.filterMap fun delivery => delivery.payload.id?)).length := by
      have hsum := before.seen.repeats_add_length_unseen (historyOf turns).noted
      have hids : (deliveries.filterMap fun delivery => delivery.payload.id?).length =
          deliveries.length := List.filterMap_length_eq_length.2 envelopes
      rw [historyOf, answered.repeats, ← hids, ← hnoted.length_eq,
        ← (before.seen.unseen_perm hnoted).length_eq]
      exact Nat.eq_sub_of_add_eq hsum
    rw [← hrepeats, ← History.gain_duplicates]
    exact hread (.counter .duplicates)
  case sighted => exact hsighted
  case once =>
    intro id hid
    rw [← count_notes_sightings, ← balances.notes, historyOf, answered.count_notes]
    split
    · rfl
    · exact if_pos (hnoted.mem_iff.2 hid)

/-! ## Coming to an end -/

/-- How many steps there may still be to the end of an intake. -/
def Intake.effort (state : Paced Intake) : Nat :=
  state.pending.length +
    match state.now.stage with
    | .arrived => 6
    | .noting _ => 5
    | .acking _ => 3
    | .over _ => 0

/-- An intake of an envelope moves on, if the broker takes what is acknowledged, or has finished. -/
theorem Intake.exists_next (name : String) {state : Paced Intake} (sound : state.now.IsSound)
    (ledger : Ledger) :
    (∃ (query : Query) (next : query.Reply → Paced Intake) (reply : query.Reply),
      state.request (Intake.request name) = .ask query next ∧ ledger.Allows ⟨query, reply⟩ ∧
        Exchange.IsTaken ⟨query, reply⟩ ∧ effort (next reply) < effort state) ∨
      state.request (Intake.request name) = .finish (.ok true) := by
  obtain ⟨pending, intake⟩ := state
  cases pending with
  | cons emission rest =>
    refine .inl ⟨_, _, (), rfl, trivial, trivial, ?_⟩
    simp [effort]
  | nil =>
    rw [Paced.request_nil, request]
    rw [IsSound] at sound
    match hstage : intake.stage with
    | .arrived =>
      rw [hstage] at sound
      obtain ⟨id, hid⟩ := Option.isSome_iff_exists.1 sound
      obtain ⟨envelope, hdecode, -⟩ := Option.map_eq_some_iff.1 hid
      refine .inl ⟨_, _, (), rfl, trivial, trivial, ?_⟩
      simp [hdecode, effort, hstage, Paced.enter, goto]
    | .noting id =>
      refine .inl ⟨.note id, _, (ledger.seen.insert id).1, rfl, rfl, trivial, ?_⟩
      cases (ledger.seen.insert id).1 <;>
        simp [effort, hstage, Paced.enter, goto, countDuplicate]
    | .acking id =>
      refine .inl ⟨.broker (.ack intake.delivery), _, .ok true, rfl, trivial, rfl, ?_⟩
      simp [effort, hstage, goto, countAck]
    | .over result =>
      rw [hstage] at sound
      exact .inr (congrArg _ sound)

/-- How many steps there may still be to the end of a consumer. -/
def Taker.effort (taker : Taker) : Nat :=
  taker.current.elim 0 (fun state => Intake.effort state + 1) + 8 * taker.waiting.length

/-- A consumer of envelopes that has something left to do can do it. -/
theorem Taker.exists_step {taker : Taker} (sound : taker.IsSound) (busy : ¬ taker.IsDone)
    (ledger : Ledger) : ∃ turns after ledger',
      taker.Step ledger turns after ledger' ∧ after.effort < taker.effort := by
  obtain ⟨name, waiting, current, counts⟩ := taker
  cases current with
  | some state =>
    rcases Intake.exists_next name (sound.current state rfl) ledger with
      ⟨query, next, reply, asks, allowed, taken, hless⟩ | finishes
    · refine ⟨_, _, _, .ask name waiting counts reply asks allowed taken, ?_⟩
      show Intake.effort (next reply) + 1 + 8 * waiting.length <
        Intake.effort state + 1 + 8 * waiting.length
      omega
    · refine ⟨_, _, _, .finish name waiting counts finishes, ?_⟩
      simp [effort]
  | none =>
    cases waiting with
    | nil => exact absurd ⟨rfl, rfl⟩ busy
    | cons delivery waiting =>
      refine ⟨_, _, _, .begin name delivery waiting counts, ?_⟩
      simp [effort, Intake.effort, Paced.enter]
      omega

/-- Consumers of envelopes come to an end, if those that have something left to do are let do it,
and it does not matter what they have done so far. -/
theorem Sharing.exists_done {takers now : List Taker} {turns : List (Turn Intake)}
    {before ledger : Ledger} {deliveries : List Delivery}
    (begins : ∀ taker ∈ takers, taker.current = none)
    (shares : (takers.flatMap Taker.waiting).Perm deliveries)
    (envelopes : ∀ delivery ∈ deliveries, delivery.payload.id?.isSome = true)
    (sharing : Sharing takers before turns now ledger) :
    ∃ more done after, Sharing takers before (turns ++ more) done after ∧
      ∀ taker ∈ done, taker.IsDone := by
  induction hbound : (now.map Taker.effort).sum using Nat.strong_induction_on
    generalizing now turns ledger with
  | h bound ih =>
    by_cases hbusy : ∃ taker ∈ now, ¬ taker.IsDone
    · obtain ⟨taker, hmem, hbusy⟩ := hbusy
      have hsound := (sharing.balances begins shares envelopes).sound taker hmem
      obtain ⟨more, after, ledger', step, hless⟩ := Taker.exists_step hsound hbusy ledger
      obtain ⟨earlier, later, rfl⟩ := List.append_of_mem hmem
      have hsum : ((earlier ++ after :: later).map Taker.effort).sum < bound := by
        rw [← hbound]
        simp only [List.map_append, List.map_cons, List.sum_append, List.sum_cons]
        omega
      obtain ⟨rest, done, final, hdone, hends⟩ := ih _ hsum (sharing.step step) rfl
      rw [List.append_assoc] at hdone
      exact ⟨more ++ rest, done, final, hdone, hends⟩
    · rw [← List.append_nil turns] at sharing
      refine ⟨[], now, ledger, sharing, fun taker hmem => ?_⟩
      by_contra hnot
      exact hbusy ⟨taker, hmem, hnot⟩

/-! ## Whoever takes in what -/

/-- Deliveries of envelopes whose acknowledgements are taken may be taken in by any number of
consumers, however they are shared out among them and in whatever order these take their steps.
What has become of the ledger when all is done is the same, and however far they have come, they
can come to that end. -/
theorem sharing_immaterial {deliveries : List Delivery} {takers takers' : List Taker}
    {before : Ledger} (envelopes : ∀ delivery ∈ deliveries, delivery.payload.id?.isSome = true)
    (begins : ∀ taker ∈ takers, taker.current = none)
    (begins' : ∀ taker ∈ takers', taker.current = none)
    (shares : (takers.flatMap Taker.waiting).Perm deliveries)
    (shares' : (takers'.flatMap Taker.waiting).Perm deliveries) :
    (∀ turns now ledger, Sharing takers before turns now ledger →
      ∃ more done after, Sharing takers before (turns ++ more) done after ∧
        ∀ taker ∈ done, taker.IsDone) ∧
    ∀ turns done after, Sharing takers before turns done after →
      (∀ taker ∈ done, taker.IsDone) →
      TakesIn deliveries (sightings turns) before after ∧
      ∀ turns' done' after', Sharing takers' before turns' done' after' →
        (∀ taker ∈ done', taker.IsDone) →
        (∀ id, after.seen.contains id = after'.seen.contains id) ∧
          after.metrics.messagesIn = after'.metrics.messagesIn ∧
          after.metrics.bytesIn = after'.metrics.bytesIn ∧
          after.metrics.duplicates = after'.metrics.duplicates := by
  refine ⟨fun turns now ledger sharing => sharing.exists_done begins shares envelopes,
    fun turns done after sharing ends => ?_⟩
  have takes := sharing.takesIn begins shares envelopes ends
  refine ⟨takes, fun turns' done' after' sharing' ends' => ?_⟩
  have takes' := sharing'.takesIn begins' shares' envelopes ends'
  refine ⟨fun id => ?_, ?_, ?_, ?_⟩
  · rw [takes.seen, takes'.seen]
  · rw [takes.messagesIn, takes'.messagesIn]
  · rw [takes.bytesIn, takes'.bytesIn]
  · rw [takes.duplicates, takes'.duplicates]

/-- Two deliveries of one message and one of another, shared out among two consumers or all given to
one: there is one duplicate. -/
theorem sharing_immaterial_two_ids :
    ∃ (first again other : Delivery) (turns turns' : List (Turn Intake))
      (done done' : List Taker) (after after' : Ledger),
      first.payload.id? = some 7 ∧ again.payload.id? = some 7 ∧ other.payload.id? = some 9 ∧
      Sharing [⟨"a", [first], none, {}⟩, ⟨"b", [again, other], none, {}⟩] {} turns done after ∧
      Sharing [⟨"c", [other, again, first], none, {}⟩] {} turns' done' after' ∧
      TakesIn [first, again, other] (sightings turns) {} after ∧
      after.metrics.duplicates = 1 ∧ after'.metrics.duplicates = 1 := by
  have agree := @sharing_immaterial
    [⟨[0, 0, 0, 0, 0, 0, 0, 7], 0, 1⟩, ⟨[0, 0, 0, 0, 0, 0, 0, 7], 0, 2⟩,
      ⟨[0, 0, 0, 0, 0, 0, 0, 9], 0, 3⟩]
    [⟨"a", [⟨[0, 0, 0, 0, 0, 0, 0, 7], 0, 1⟩], none, {}⟩,
      ⟨"b", [⟨[0, 0, 0, 0, 0, 0, 0, 7], 0, 2⟩, ⟨[0, 0, 0, 0, 0, 0, 0, 9], 0, 3⟩], none, {}⟩]
    [⟨"c", [⟨[0, 0, 0, 0, 0, 0, 0, 9], 0, 3⟩, ⟨[0, 0, 0, 0, 0, 0, 0, 7], 0, 2⟩,
      ⟨[0, 0, 0, 0, 0, 0, 0, 7], 0, 1⟩], none, {}⟩]
    {} (by decide) (by decide) (by decide) (by decide) (by decide)
  obtain ⟨turns, done, after, sharing, ends⟩ := agree.1 _ _ _ .start
  have other : Sharing [⟨"c", [⟨[0, 0, 0, 0, 0, 0, 0, 9], 0, 3⟩,
      ⟨[0, 0, 0, 0, 0, 0, 0, 7], 0, 2⟩, ⟨[0, 0, 0, 0, 0, 0, 0, 7], 0, 1⟩], none, {}⟩] {} [] _ _ :=
    .start
  obtain ⟨turns', done', after', sharing', ends'⟩ :=
    other.exists_done (by decide) (.refl _) (by decide)
  obtain ⟨takes, same⟩ := agree.2 _ _ _ sharing ends
  have hduplicates : after.metrics.duplicates = 1 := takes.duplicates.trans (by decide)
  exact ⟨_, _, _, _, _, _, _, _, _, rfl, rfl, rfl, sharing, sharing', takes, hduplicates,
    (same _ _ _ sharing' ends').2.2.2 ▸ hduplicates⟩

end Consumer
end BrokerLoad
