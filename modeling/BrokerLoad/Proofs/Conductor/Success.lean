import BrokerLoad.Proofs.Conductor.Stages

/-!
# What the success of a run means

A run ends with success if the conductor has counted as many ids as there are messages to be
brought across; it never looks which ids they are.  That is enough (`Reaches.isTruthful`): an
id that was seen belongs to a message that a publisher began and that the hub accepted, the
ids given out are the numbers from one on, and there are no more of them than messages.  So if
as many have been seen, all of them have been.

The conductor counts shard by shard, and what it has counted in the shards that it has looked
at is never more than what is in them now (`Counts.sum`).  It may well be less than what is
there, and then the conductor looks again.
-/

namespace BrokerLoad

/-- The words after zero are the numbers from one on. -/
theorem map_toNat_wordsAfter {count : Nat} (few : count < 2 ^ 64) :
    (wordsAfter 0 count).map UInt64.toNat = List.range' 1 count := by
  rw [wordsAfter, List.map_map, List.range'_eq_map_range]
  refine List.map_congr_left fun i hi => ?_
  have hlt : i + 1 < 2 ^ 64 := Nat.lt_of_le_of_lt (List.mem_range.1 hi) few
  show (0 + UInt64.ofNat (i + 1)).toNat = 1 + i
  rw [UInt64.zero_add, UInt64.toNat_ofNat_of_lt' hlt, Nat.add_comm]

/-- An id is among the numbers from one on if its number is. -/
theorem mem_of_map_toNat {ids : List UInt64} {count : Nat}
    (numbers : ids.map UInt64.toNat = List.range' 1 count) (id : UInt64) :
    id ∈ ids ↔ 1 ≤ id.toNat ∧ id.toNat ≤ count := by
  rw [← List.mem_map_of_injective fun _ _ => UInt64.toNat_inj.1, numbers, List.mem_range'_1]
  omega

/-- What is seen changes in a step by one id at most. -/
theorem Crew.seen_of_step {crew after : Crew Hub} {number : Nat}
    (steps : crew.step number = some after) :
    after.shared.ledger.seen = crew.shared.ledger.seen ∨
      ∃ id, after.shared.ledger.seen = (crew.shared.ledger.seen.insert id).2 := by
  rcases Crew.step_cases steps with ⟨-, hledger, -⟩ | ⟨⟨_, ⟨query, reply⟩, _⟩, -, -, -, hledger, -⟩
  · exact .inl (congrArg Ledger.seen hledger)
  · rw [hledger]
    cases query with
    | note id => exact .inr ⟨id, rfl⟩
    | _ => exact .inl rfl

namespace Conductor

variable {run after : Conductor Hub} {diary : Diary} {glance : Glance} {plan : Plan}
  {throttleEvery redeliverEvery : UInt32}

/-- The conductor itself keeps nothing in the ledger. -/
theorem Deed.ledger_eq (deed : run.Deed after) :
    after.crew.shared.ledger = run.crew.shared.ledger := by
  cases deed with
  | turn lines found leads => rfl
  | control found steps => exact (Crew.control_eq steps).1
  | ask lines found asks => rfl

theorem Deed.complete_eq (deed : run.Deed after) : after.complete = run.complete := by
  cases deed <;> rfl

/-- A run is over with success only when it was complete. -/
theorem Deed.complete_of_success (deed : run.Deed after) (success : after.point = .finished 0) :
    run.complete = true := by
  have hopen : ∀ {point : Point}, point = .finished 0 →
      ¬ (point.isOpen = true ∨ point = .deleteGroup) := by
    rintro - rfl (hopen | hdelete)
    · cases hopen
    · cases hdelete
  cases deed with
  | turn lines found leads => exact absurd leads.isOpen.2 (hopen success)
  | @control task number control next timeUp crew found steps =>
    exact absurd (.inl (task.isOpen_point number next)) (hopen success)
  | ask lines found asks =>
    cases asks with
    | createDestination =>
      simp only [goto] at success
      split at success <;> cases success
    | createGroup =>
      simp only [goto] at success
      split at success
      · exact absurd (Task.isOpen_onFrom .starting 0) (hopen success)
      · cases success
    | shutDown =>
      simp only [goto, Point.finished.injEq] at success
      by_contra hcomplete
      rw [if_neg hcomplete] at success
      cases success
    | _ => cases success

/-- What the conductor has counted, and what it has concluded from it. -/
structure Counts (glance : Glance) (run : Conductor Hub) : Prop where
  shards : glance.shards ≤ shardCount
  /-- What was counted is there. -/
  sum : glance.sum ≤ run.crew.shared.ledger.seen.sizeBelow glance.shards
  /-- There were enough ids when the run was found complete, and there are now. -/
  complete : run.complete = true → run.plan.expected.toNat ≤ run.seenCount
  success : run.point = .finished 0 → run.complete = true

namespace Counts

/-- A worker takes a step, and no shard becomes smaller. -/
theorem work (counts : Counts glance run) {number : Nat} {crew : Crew Hub}
    (steps : run.crew.step number = some crew) : Counts glance { run with crew } := by
  have hgrows : ∀ count ≤ shardCount, run.crew.shared.ledger.seen.sizeBelow count ≤
      crew.shared.ledger.seen.sizeBelow count := by
    intro count hcount
    rcases Crew.seen_of_step steps with hsame | ⟨id, hinsert⟩
    · rw [hsame]
    · rw [hinsert]
      exact SeenIds.sizeBelow_le_insert _ id hcount
  refine ⟨counts.shards, counts.sum.trans (hgrows _ counts.shards), fun hcomplete => ?_,
    counts.success⟩
  have hall := hgrows shardCount (Nat.le_refl _)
  rw [SeenIds.sizeBelow_shardCount, SeenIds.sizeBelow_shardCount] at hall
  exact (counts.complete hcomplete).trans hall

theorem deed (counts : Counts glance run) (deed : run.Deed after) : Counts {} after where
  shards := Nat.zero_le _
  sum := Nat.le_refl 0
  complete hcomplete := by
    rw [deed.complete_eq] at hcomplete
    rw [deed.plan_eq, seenCount, deed.ledger_eq]
    exact counts.complete hcomplete
  success hover := deed.complete_eq.trans (deed.complete_of_success hover)

/-- It looks at one more shard. -/
theorem look (counts : Counts glance run) (more : glance.shards < shardCount) :
    Counts ⟨glance.shards + 1,
      glance.sum + run.crew.shared.ledger.seen.shards[glance.shards].size⟩ run where
  shards := more
  sum := by
    rw [SeenIds.sizeBelow_succ _ more]
    exact Nat.add_le_add_right counts.sum _
  complete := counts.complete
  success := counts.success

/-- It has looked at all shards. -/
theorem judge (counts : Counts glance run) (all : glance.shards = shardCount) :
    Counts {} (run.judge glance.sum) := by
  have hsum := counts.sum
  rw [all, SeenIds.sizeBelow_shardCount] at hsum
  rw [Conductor.judge]
  split
  next henough =>
    refine ⟨Nat.zero_le _, Nat.le_refl 0, fun _ => henough.trans hsum, fun success => ?_⟩
    cases success
  next =>
    refine ⟨Nat.zero_le _, Nat.le_refl 0, counts.complete, fun success => ?_⟩
    cases success

theorem of_reaches {hub : Hub} (reaches : (begin plan hub).Reaches diary glance run) :
    Counts glance run := by
  induction reaches with
  | start => exact ⟨Nat.zero_le _, Nat.le_refl 0, nofun, nofun⟩
  | work before number steps counts =>
    obtain ⟨crew, hcrew, rfl⟩ := Option.map_eq_some_iff.1 steps
    exact counts.work hcrew
  | conduct before moment elsewhere steps counts => exact counts.deed (.of_step elsewhere steps)
  | look before here more counts => exact counts.look more
  | judge before here all counts => exact counts.judge all

end Counts

/-- The ids seen can be listed. -/
theorem Reaches.exists_lists {hub : Hub} (reaches : (begin plan hub).Reaches diary glance run) :
    ∃ ids, run.crew.shared.ledger.seen.Lists ids := by
  refine reaches.deed_induction
    (P := fun _ run => ∃ ids, run.crew.shared.ledger.seen.Lists ids) ⟨[], .empty⟩
    (fun _ ih steps => ?_) (fun _ ih deed => deed.ledger_eq ▸ ih) fun _ _ _ _ ih => ih
  obtain ⟨ids, lists⟩ := ih
  rcases Crew.seen_of_step steps with hsame | ⟨id, hinsert⟩
  · exact ⟨ids, hsame ▸ lists⟩
  · exact hinsert ▸ lists.insert id

/-- The number that was given out last. -/
def lastIssued (run : Conductor Hub) : Nat := run.crew.shared.ledger.ids.latest.toNat

/-- Whether an id has been seen. -/
def hasSeen (run : Conductor Hub) (id : UInt64) : Prop :=
  run.crew.shared.ledger.seen.contains id = true

/-- What is true of a run at any time, and what its success means. -/
structure IsTruthful (plan : Plan) (diary : Diary) (run : Conductor Hub) : Prop where
  /-- The ids given out are the numbers from one on, each once. -/
  minted : diary.past.minted.map UInt64.toNat = List.range' 1 run.lastIssued
  /-- Each was given to one worker, and that is a publisher. -/
  minter : ∀ id ∈ diary.past.minted, ∃ number, plan.IsPublisher number ∧
    ∀ other, id ∈ diary.mintedBy other ↔ other = number
  /-- No worker takes more ids than a publisher has messages. -/
  share : ∀ number, (diary.mintedBy number).length ≤ plan.messages.toNat
  /-- No more ids are given out than there are messages. -/
  bound : run.lastIssued ≤ plan.publishers.toNat * plan.messages.toNat
  /-- Every id seen was given out. -/
  seen : ∀ id, run.hasSeen id → 1 ≤ id.toNat ∧ id.toNat ≤ run.lastIssued
  /-- If the run is a success, there is an id for every message, and these are what was seen. -/
  complete : run.exitCode = 0 →
    plan.expected.toNat = plan.publishers.toNat * plan.messages.toNat ∧
      run.lastIssued = plan.expected.toNat ∧
        ∀ id, run.hasSeen id ↔ 1 ≤ id.toNat ∧ id.toNat ≤ plan.expected.toNat
  /-- Every message of a successful run was begun, accepted and consumed. -/
  delivered : run.exitCode = 0 → ∀ id : UInt64, 1 ≤ id.toNat → id.toNat ≤ plan.expected.toNat →
    id ∈ diary.past.minted ∧ id ∈ diary.past.accepted ∧ run.hasSeen id

theorem exitCode_eq_zero : run.exitCode = 0 ↔ run.point = .finished 0 := by
  rw [exitCode]
  split
  next code here => rw [here, Point.finished.injEq]
  next hnot =>
    refine iff_of_false (by decide) fun here => ?_
    exact hnot 0 here

/-- If as many ids have been seen as there are messages, those seen are those given out. -/
theorem Reaches.perm_of_complete (valid : plan.IsValid)
    (reaches : (begin plan ({ throttleEvery, redeliverEvery } : Hub)).Reaches diary glance run)
    (settled : Settled diary.past run.crew.shared.ledger)
    {ids : List UInt64} (lists : run.crew.shared.ledger.seen.Lists ids)
    (complete : run.complete = true) :
    ids.Perm diary.past.minted ∧ diary.past.minted.length = plan.expected.toNat := by
  have hbound := reaches.length_minted_le
  have hcount := (Counts.of_reaches reaches).complete complete
  rw [reaches.plan_eq, seenCount, lists.size] at hcount
  rw [← valid.expected_eq] at hbound
  have hsubset : ids ⊆ diary.past.minted := fun id hid =>
    settled.known id (settled.seen id ((lists.mem_iff id).1 hid))
  have hsubperm := lists.nodup.subperm hsubset
  exact ⟨hsubperm.perm_of_length_le (hbound.trans hcount),
    Nat.le_antisymm hbound (hcount.trans hsubperm.length_le)⟩

/-- Whatever the order of the steps and whenever the run is stopped or interrupted: the ids
given out are the numbers from one on, each is given to one publisher, and none is seen that
was not; and if the run is a success, every message has been begun, accepted and consumed. -/
theorem Reaches.isTruthful {start : Plan} {commandLine : List String}
    (accepted : start.parse commandLine = (.accepted, plan))
    (reaches : (begin plan ({ throttleEvery, redeliverEvery } : Hub)).Reaches diary glance run) :
    IsTruthful plan diary run := by
  have valid := Plan.isValid_of_parse accepted
  have settled := (Stage.of_reaches valid reaches).settled
  have hbound := reaches.length_minted_le
  have few := Nat.lt_of_le_of_lt hbound valid.few
  have hlast : run.lastIssued = diary.past.minted.length := by
    rw [lastIssued, settled.latest, UInt64.toNat_ofNat_of_lt' few]
  have hnumbers : diary.past.minted.map UInt64.toNat = List.range' 1 run.lastIssued := by
    rw [settled.minted, map_toNat_wordsAfter few, hlast]
  have hnodup : diary.past.minted.Nodup := by
    rw [settled.minted]
    exact nodup_wordsAfter 0 (Nat.le_of_lt few)
  obtain ⟨ids, lists⟩ := reaches.exists_lists
  have hsuccess : run.exitCode = 0 → ids.Perm diary.past.minted ∧
      diary.past.minted.length = plan.expected.toNat := fun hexit =>
    reaches.perm_of_complete valid settled lists
      ((Counts.of_reaches reaches).success (exitCode_eq_zero.1 hexit))
  have hseen : run.exitCode = 0 → ∀ id, run.hasSeen id ↔
      1 ≤ id.toNat ∧ id.toNat ≤ plan.expected.toNat := by
    intro hexit id
    obtain ⟨hperm, hlength⟩ := hsuccess hexit
    rw [hasSeen, ← lists.mem_iff, hperm.mem_iff, mem_of_map_toNat hnumbers, hlast, hlength]
  refine ⟨hnumbers, fun id hid => ?_, fun number => ?_, hlast ▸ hbound, fun id hid => ?_,
    fun hexit => ⟨valid.expected_eq, hlast.trans (hsuccess hexit).2, hseen hexit⟩,
    fun hexit id hone hle => ?_⟩
  · obtain ⟨⟨number, occasion⟩, hentry, hgiven⟩ := Diary.mem_minted.1 hid
    have hmine : id ∈ diary.mintedBy number := Diary.mem_mintedBy.2 ⟨_, hentry, rfl, hgiven⟩
    refine ⟨number, reaches.isPublisher_of_mem hmine, fun other => ⟨fun hyours => ?_, ?_⟩⟩
    · exact Diary.eq_of_mem_mintedBy hnodup hyours hmine
    · rintro rfl
      exact hmine
  · refine (reaches.length_mintedBy_le number).trans ?_
    split <;> omega
  · exact (mem_of_map_toNat hnumbers id).1 (settled.known id (settled.seen id hid))
  · have hmine := (hseen hexit id).2 ⟨hone, hle⟩
    have haccepted := settled.seen id hmine
    exact ⟨settled.known id haccepted, haccepted, hmine⟩

/-- Two publishers with two messages each, and a hub that refuses every other write and sends
every other message round again. -/
theorem Reaches.isTruthful_of_four_messages :
    ∃ (plan : Plan) (diary : Diary) (run : Conductor Hub),
      Plan.parse {} ["loadgen_demo", "-p", "2", "-c", "2", "-n", "2", "-s", "0"] =
        (.accepted, plan) ∧
      (begin plan ({ throttleEvery := 2, redeliverEvery := 2 } : Hub)).Reaches diary {} run ∧
      run.exitCode = 0 ∧ IsTruthful plan diary run := by
  let plan : Plan := { publishers := 2, consumers := 2, messages := 2, messageSize := 0 }
  have accepted : Plan.parse {} ["loadgen_demo", "-p", "2", "-c", "2", "-n", "2", "-s", "0"] =
      (.accepted, plan) := by decide +kernel
  obtain ⟨diary, reaches⟩ :=
    reaches_conduct plan { throttleEvery := 2, redeliverEvery := 2 } false
  exact ⟨plan, diary, _, accepted, reaches, by decide +kernel, reaches.isTruthful accepted⟩

end Conductor
end BrokerLoad
