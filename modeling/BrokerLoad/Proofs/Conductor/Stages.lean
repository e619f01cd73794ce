import BrokerLoad.Proofs.Conductor.Parting
import BrokerLoad.Proofs.Conductor.Roll
import BrokerLoad.Proofs.Crew.NothingLost

/-!
# The stages of a run

A run on a new hub goes through four stages.  Before the destination and the group are there
nobody asks anything; then the hub serves one group, and what a crew keeps on such a hub
(`Sound`) is kept, whatever the conductor does with the workers in the meantime; and when the
group is to be deleted everybody is gone, so what is known of the ids by then
(`Settled`) remains true, however the hub is taken down.

The ids do not go round, because the plan was accepted (`Plan.IsValid.few`) and no more are
given out than it has messages (`Reaches.length_minted_le`).
-/

namespace BrokerLoad

/-- What is known of the ids of a crew, with or without a hub. -/
structure Settled (past : Past) (ledger : Ledger) : Prop where
  /-- Ids are given out one after another. -/
  minted : past.minted = wordsAfter 0 past.minted.length
  /-- The mint knows the last of them. -/
  latest : ledger.ids.latest = UInt64.ofNat past.minted.length
  /-- Every id seen was accepted. -/
  seen : ∀ id, ledger.seen.contains id = true → id ∈ past.accepted
  /-- Every id accepted was given out. -/
  known : ∀ id ∈ past.accepted, id ∈ past.minted

theorem Settled.nil : Settled [] {} where
  minted := rfl
  latest := rfl
  seen id hseen := by
    rw [show ({} : Ledger).seen.contains id = false from SeenIds.contains_empty id] at hseen
    cases hseen
  known id hid := by cases hid

theorem Sound.settled {spacing : UInt32} {past : Past} {ledger : Ledger} {hub : Hub}
    {items : List Item} {traffic : Traffic Bytes} {noted : List Delivery} {again : List UInt64}
    (sound : Sound spacing past ledger hub items traffic noted again) : Settled past ledger where
  minted := sound.minted
  latest := sound.latest
  seen _ := sound.accepted_of_seen
  known := sound.writing.known

/-- What a crew keeps on a hub that serves one group. -/
def Crew.IsSound (spacing : UInt32) (past : Past) (crew : Crew Hub) : Prop :=
  ∃ traffic noted again, Sound spacing past crew.shared.ledger crew.shared.client crew.items
    traffic noted again

namespace Crew.IsSound

variable {spacing : UInt32} {past : Past} {crew after : Crew Hub} {number : Nat}

/-- It is kept as long as nothing of it changes. -/
theorem congr (sound : crew.IsSound spacing past)
    (ledger : after.shared.ledger = crew.shared.ledger)
    (client : after.shared.client = crew.shared.client) (items : after.items = crew.items) :
    after.IsSound spacing past := by
  rw [IsSound, ledger, client, items]
  exact sound

/-- A worker takes a step. -/
theorem step (sound : crew.IsSound spacing past) (steps : crew.step number = some after)
    (few : (Past.minted (past ++ crew.asked number)).length < 2 ^ 64) :
    after.IsSound spacing (past ++ crew.asked number) := by
  rcases Crew.step_cases steps with ⟨hasked, hledger, hclient, hitems⟩ |
      ⟨occasion, hasked, hbefore, hafter, hledger, hallows, hserved, hacts⟩
  · rw [hasked, List.append_nil]
    exact sound.congr hledger hclient hitems
  · obtain ⟨traffic, noted, again, hsound⟩ := sound
    rw [hasked] at few ⊢
    rw [← hbefore] at hsound
    rw [IsSound, hledger, ← hafter]
    exact hsound.act hallows hserved hacts few

/-- A worker is controlled. -/
theorem control {timeUp : Bool} {control next : Lifecycle.Control}
    (sound : crew.IsSound spacing past)
    (steps : crew.control number timeUp control = some (next, after)) :
    after.IsSound spacing past := by
  obtain ⟨hledger, hclient, hitems⟩ := Crew.control_eq steps
  exact sound.congr hledger hclient hitems

theorem settled (sound : crew.IsSound spacing past) : Settled past crew.shared.ledger := by
  obtain ⟨traffic, noted, again, hsound⟩ := sound
  exact hsound.settled

end Crew.IsSound

namespace Conductor

/-- Whether the hub is there for the workers at a point. -/
@[simp] def Point.isOpen : Point → Bool
  | .createDestination => false
  | .createGroup => false
  | .deleteGroup => false
  | .deleteDestination => false
  | .shutDown => false
  | .finished _ => false
  | _ => true

/-- Whether the hub is being taken down at a point. -/
@[simp] def Point.isOver : Point → Bool
  | .deleteGroup => true
  | .deleteDestination => true
  | .shutDown => true
  | .finished _ => true
  | _ => false

variable {run after : Conductor Hub} {diary : Diary} {glance : Glance} {plan : Plan}
  {throttleEvery redeliverEvery : UInt32}

/-- Nobody has done anything so far. -/
structure IsIdle (diary : Diary) (run : Conductor Hub) : Prop where
  diary : diary = []
  ledger : run.crew.shared.ledger = {}
  /-- Nobody holds anything. -/
  items : run.crew.items = []

/-- The stages of a run, which begins with a new hub. -/
inductive Stage (throttleEvery redeliverEvery : UInt32) (diary : Diary) (run : Conductor Hub) :
    Prop where
  /-- The destination is to be created. -/
  | new (here : run.point = .createDestination) (idle : IsIdle diary run)
      (hub : run.crew.shared.client = { throttleEvery, redeliverEvery })
  /-- The group is to be created. -/
  | halfway (here : run.point = .createGroup) (idle : IsIdle diary run)
      (hub : run.crew.shared.client =
        (Hub.createDestination { throttleEvery, redeliverEvery } run.plan.destinationSpec).2)
  /-- The hub serves the group. -/
  | serving (isOpen : run.point.isOpen = true) (sound : run.crew.IsSound redeliverEvery diary.past)
  /-- Everybody is gone. -/
  | closed (isOver : run.point.isOver = true) (settled : Settled diary.past run.crew.shared.ledger)

/-- Nobody is left when the hub is taken down. -/
theorem Point.leaves_of_isOver {point : Point} (isOver : point.isOver = true)
    (consumers number : Nat) : point.Leaves consumers number := by
  cases point <;> trivial

theorem Point.isOpen_of_isOver {point : Point} (isOver : point.isOver = true) :
    point.isOpen = false := by
  cases point <;> trivial

theorem Task.isOpen_point (task : Task) (number : Nat) (control : Lifecycle.Control) :
    (task.point number control).isOpen = true := by
  cases task <;> rfl

/-- Where the conductor goes on with its workers, and after the last of them. -/
theorem Task.isOpen_onFrom (task : Task) (number : Nat) :
    (task.onFrom run number).isOpen = true ∨ task.onFrom run number = .deleteGroup :=
  onFrom_cases (P := fun point => point.isOpen = true ∨ point = .deleteGroup)
    (fun task number => .inl (task.isOpen_point number task.first)) (.inl rfl) (.inl rfl)
    (.inr rfl) task number

/-- The conductor turns from one thing to another as long as the hub is there. -/
theorem Leads.isOpen {here there : Point} (leads : run.Leads here there) :
    here.isOpen = true ∧ (there.isOpen = true ∨ there = .deleteGroup) := by
  cases leads with
  | stop => exact ⟨rfl, Task.isOpen_onFrom .stoppingPublisher _⟩
  | dismiss => exact ⟨rfl, Task.isOpen_onFrom .dismissingPublisher _⟩
  | next task number answer => exact ⟨task.isOpen_point _ _, task.isOpen_onFrom _⟩
  | _ => exact ⟨rfl, .inl rfl⟩

namespace Stage

theorem begin (plan : Plan) :
    Stage throttleEvery redeliverEvery []
      (begin plan ({ throttleEvery, redeliverEvery } : Hub)) := by
  refine .new rfl ⟨rfl, rfl, ?_⟩ rfl
  refine List.flatMap_eq_nil_iff.2 fun worker hworker => ?_
  obtain ⟨number, hnumber, rfl⟩ := List.getElem_of_mem hworker
  rcases plan.worker_cases (List.getElem?_eq_getElem hnumber) with ⟨-, hsame⟩ | ⟨index, -, -, hsame⟩
  · rw [hsame]
    exact Engine.items_consumer _ _
  · rw [hsame]
    exact Engine.items_producer _ _

/-- What is known of the ids at any stage. -/
theorem settled (stage : Stage throttleEvery redeliverEvery diary run) :
    Settled diary.past run.crew.shared.ledger := by
  cases stage with
  | new here idle hub =>
    rw [idle.diary, idle.ledger]
    exact .nil
  | halfway here idle hub =>
    rw [idle.diary, idle.ledger]
    exact .nil
  | serving isOpen sound => exact sound.settled
  | closed isOver settled => exact settled

/-- A worker takes a step. -/
theorem work (stage : Stage throttleEvery redeliverEvery diary run) (clears : run.Clears)
    {number : Nat} {crew : Crew Hub} (steps : run.crew.step number = some crew)
    (few : (diary ++ Diary.entries number (run.crew.asked number)).past.minted.length < 2 ^ 64) :
    Stage throttleEvery redeliverEvery (diary ++ Diary.entries number (run.crew.asked number))
      { run with crew } := by
  obtain ⟨worker, other, moves⟩ := Crew.exists_of_step steps
  cases stage with
  | new here idle hub => exact (clears.not_moves moves (by simp [here])).elim
  | halfway here idle hub => exact (clears.not_moves moves (by simp [here])).elim
  | closed isOver settled =>
    exact (clears.not_moves moves (Point.leaves_of_isOver isOver _ _)).elim
  | serving isOpen sound =>
    refine .serving isOpen ?_
    rw [Diary.past_append, Diary.past_entries] at few ⊢
    exact sound.step steps few

/-- The conductor turns to something else, or a worker is controlled. -/
theorem onward (stage : Stage throttleEvery redeliverEvery diary run)
    (was : run.point.isOpen = true)
    (sound : run.crew.IsSound redeliverEvery diary.past →
      after.crew.IsSound redeliverEvery diary.past)
    (isOpen : after.point.isOpen = true ∨ after.point = .deleteGroup) :
    Stage throttleEvery redeliverEvery diary after := by
  cases stage with
  | new here idle hub =>
    rw [here] at was
    cases was
  | halfway here idle hub =>
    rw [here] at was
    cases was
  | closed isOver settled =>
    rw [Point.isOpen_of_isOver isOver] at was
    cases was
  | serving _ before =>
    rcases isOpen with hopen | hclosed
    · exact .serving hopen (sound before)
    · exact .closed (by rw [hclosed]; rfl) (sound before).settled

/-- When the group is created the hub serves it. -/
theorem createGroup (idle : IsIdle diary run) (valid : run.plan.IsValid) (lines : List LogLine)
    (hub : run.crew.shared.client =
      (Hub.createDestination { throttleEvery, redeliverEvery } run.plan.destinationSpec).2) :
    ((run.call (.createGroup run.plan.groupSpec)).2.say lines).crew.IsSound redeliverEvery
      diary.past := by
  have hclient : (run.crew.shared.client.createGroup run.plan.groupSpec).2 =
      .serving run.plan.destination run.plan.group throttleEvery redeliverEvery 3 := by
    rw [hub]
    exact Hub.serving_eq throttleEvery redeliverEvery 3 valid.destination valid.group
  refine ⟨{}, [], [], ?_⟩
  show Sound redeliverEvery diary.past run.crew.shared.ledger
    (run.crew.shared.client.createGroup run.plan.groupSpec).2 run.crew.items {} [] []
  rw [idle.diary, idle.ledger, idle.items, hclient]
  exact .start run.plan.destination run.plan.group throttleEvery redeliverEvery 3

/-- The conductor makes a call. -/
theorem ask (stage : Stage throttleEvery redeliverEvery diary run) (valid : run.plan.IsValid)
    {here : Point} {call : Call} {onward : call.Reply → Point} (found : run.point = here)
    (asks : run.Asks here call onward) (lines : List LogLine) :
    Stage throttleEvery redeliverEvery diary
      (((run.call call).2.say lines).goto (onward (run.call call).1)) := by
  cases asks with
  | createDestination =>
    cases stage with
    | new here idle hub =>
      dsimp only
      split
      · refine .halfway rfl ⟨idle.diary, idle.ledger, idle.items⟩ ?_
        show (run.crew.shared.client.createDestination run.plan.destinationSpec).2 = _
        rw [hub]
        rfl
      · exact .closed rfl (idle.diary ▸ idle.ledger ▸ .nil)
    | _ => simp_all
  | createGroup =>
    cases stage with
    | halfway here idle hub =>
      have hsound := createGroup idle valid lines hub
      dsimp only
      split
      · have hstart : (run.startFrom 0).isOpen = true ∨ run.startFrom 0 = .deleteGroup :=
          Task.isOpen_onFrom .starting 0
        rcases hstart with hopen | hnobody
        · exact .serving hopen hsound
        · exact .closed (congrArg Point.isOver hnobody) hsound.settled
      · exact .closed rfl (idle.diary ▸ idle.ledger ▸ .nil)
    | _ => simp_all
  | deleteGroup => exact .closed rfl stage.settled
  | deleteDestination => exact .closed rfl stage.settled
  | shutDown => exact .closed rfl stage.settled

theorem deed (stage : Stage throttleEvery redeliverEvery diary run) (valid : run.plan.IsValid)
    (deed : run.Deed after) : Stage throttleEvery redeliverEvery diary after := by
  cases deed with
  | turn lines found leads =>
    obtain ⟨hopen, hnext⟩ := leads.isOpen
    exact stage.onward (found ▸ hopen) (fun sound => sound.congr rfl rfl rfl) hnext
  | @control task number control next timeUp crew found steps =>
    exact stage.onward (found ▸ task.isOpen_point number control)
      (fun sound => sound.control steps) (.inl (task.isOpen_point number next))
  | ask lines found asks => exact stage.ask valid found asks lines

theorem of_reaches (valid : plan.IsValid)
    (reaches : (Conductor.begin plan ({ throttleEvery, redeliverEvery } : Hub)).Reaches diary glance
      run) : Stage throttleEvery redeliverEvery diary run := by
  refine reaches.deed_induction (P := Stage throttleEvery redeliverEvery) (begin plan)
    (fun {diary glance run number crew} before stage steps => ?_)
    (fun before stage deed => stage.deed (before.plan_eq ▸ valid) deed)
    fun {diary run} complete point here hpoint stage => ?_
  · have hafter := before.work number
      (congrArg (Option.map fun crew => { run with crew : Conductor Hub }) steps)
    exact stage.work (.of_reaches before) steps
      (Nat.lt_of_le_of_lt hafter.length_minted_le valid.few)
  · refine stage.onward (by rw [here]; rfl) (fun sound => sound) (.inl ?_)
    rcases hpoint with rfl | rfl <;> rfl

end Stage
end Conductor
end BrokerLoad
