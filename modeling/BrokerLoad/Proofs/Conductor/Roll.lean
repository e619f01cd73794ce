import BrokerLoad.Proofs.Conductor.Deeds
import BrokerLoad.Proofs.Crew.Reconciling
import BrokerLoad.Proofs.Plan
import Mathlib.Algebra.BigOperators.Group.Finset.Piecewise
import Mathlib.Algebra.Group.Action.Defs
import Mathlib.Algebra.Order.BigOperators.Group.Finset

/-!
# Who is given which ids

Whatever the order of the steps, each worker of a run goes through a course of its own engine,
and the diary tells the courses apart (`Follows`).  A consumer takes no ids, and a publisher no
more than it has messages to send; so a run gives out no more ids than it is to bring messages
across (`length_minted_le`), and they do not go round.
-/

namespace BrokerLoad

namespace Diary

variable {diary : Diary} {id : UInt64} {number other : Nat}

theorem mem_minted : id ∈ diary.past.minted ↔
    ∃ entry ∈ diary, entry.2.exchange.minted? = some id := by
  rw [Past.minted, Diary.past, List.filterMap_map, List.mem_filterMap]
  rfl

theorem mem_mintedBy : id ∈ diary.mintedBy number ↔
    ∃ entry ∈ diary, entry.1 = number ∧ entry.2.exchange.minted? = some id := by
  simp only [mintedBy, course, List.filterMap_map, List.mem_filterMap, List.mem_filter,
    decide_eq_true_eq, and_assoc, Function.comp_apply]

/-- If no id is given out twice, none is given to two workers. -/
theorem eq_of_mem_mintedBy (nodup : diary.past.minted.Nodup) (mine : id ∈ diary.mintedBy number)
    (yours : id ∈ diary.mintedBy other) : number = other := by
  let given (entry : Nat × Occasion) : Option (Nat × UInt64) :=
    entry.2.exchange.minted?.map fun id => (entry.1, id)
  have hids : diary.past.minted = (diary.filterMap given).map Prod.snd := by
    rw [Past.minted, Diary.past, List.filterMap_map, List.map_filterMap]
    refine List.filterMap_congr fun entry _ => ?_
    show _ = (entry.2.exchange.minted?.map fun id => (entry.1, id)).map Prod.snd
    rw [Option.map_map]
    exact Option.map_id.symm ▸ rfl
  have hgiven : ∀ {number : Nat}, id ∈ diary.mintedBy number →
      (number, id) ∈ diary.filterMap given := by
    intro number hmem
    obtain ⟨entry, hentry, rfl, hid⟩ := mem_mintedBy.1 hmem
    exact List.mem_filterMap.2 ⟨entry, hentry, by simp [given, hid]⟩
  rw [hids] at nodup
  exact congrArg Prod.fst (List.inj_on_of_nodup_map nodup (hgiven mine) (hgiven yours) rfl)

/-- The ids given out are those given to the workers. -/
theorem length_minted {count : Nat} (known : ∀ entry ∈ diary, entry.1 < count) :
    diary.past.minted.length = ∑ number ∈ Finset.range count, (diary.mintedBy number).length := by
  induction diary with
  | nil => simp [Diary.past, Past.minted, mintedBy, course]
  | cons entry rest ih =>
    obtain ⟨hentry, hrest⟩ := List.forall_mem_cons.1 known
    have hmine : ∀ number, (mintedBy (entry :: rest) number).length =
        (if entry.1 = number then entry.2.exchange.minted?.toList.length else 0) +
          (mintedBy rest number).length := by
      intro number
      rw [mintedBy, course, List.filter_cons]
      by_cases hsame : entry.1 = number
      · rw [if_pos (decide_eq_true hsame), if_pos hsame, List.map_cons, List.filterMap_cons]
        cases entry.2.exchange.minted? with
        | none => exact (Nat.zero_add _).symm
        | some id => exact Nat.add_comm _ 1
      · rw [if_neg (by simpa using hsame), if_neg hsame, Nat.zero_add, mintedBy, course]
    have hall : (Diary.past (entry :: rest)).minted.length =
        entry.2.exchange.minted?.toList.length + (Diary.past rest).minted.length := by
      rw [← List.singleton_append, past_append, Past.minted_append, List.length_append]
      exact congrArg (· + _) (congrArg List.length (Past.minted_singleton entry.2))
    rw [hall, ih hrest, Finset.sum_congr rfl fun number _ => hmine number,
      Finset.sum_add_distrib, Finset.sum_ite_eq, if_pos (Finset.mem_range.2 hentry)]

end Diary

namespace Plan

/-- Whether a worker number is that of a publisher. -/
def IsPublisher (plan : Plan) (number : Nat) : Prop :=
  plan.consumers.toNat ≤ number ∧ number < plan.consumers.toNat + plan.publishers.toNat

end Plan

namespace Conductor

variable {run after : Conductor Hub} {diary : Diary} {glance : Glance} {number : Nat}

/-- Every worker goes through a course of its own. -/
structure Follows (diary : Diary) (run : Conductor Hub) : Prop where
  course : ∀ number worker, run.crew.workers[number]? = some worker →
    ∃ first, run.plan.workers[number]? = some first ∧ worker.life.name = first.life.name ∧
      Engine.Course first.life.name first.engine (diary.course number) worker.engine
  /-- Nobody else has asked. -/
  known : ∀ entry ∈ diary, entry.1 < run.crew.workers.length

namespace Follows

theorem begin (plan : Plan) (hub : Hub) : Follows [] (begin plan hub) where
  course number worker found := ⟨worker, found, rfl, .start⟩
  known := by simp

/-- A worker takes a step. -/
theorem work (follows : Follows diary run) {crew : Crew Hub} {worker other : Worker}
    (moves : run.crew.Moves crew number worker other) :
    Follows (diary ++ Diary.entries number (run.crew.asked number)) { run with crew } where
  course current someone found := by
    have hfound : crew.workers[current]? = some someone := found
    rw [moves.workers] at hfound
    rw [Diary.course_append]
    by_cases hsame : number = current
    · subst hsame
      rw [List.getElem?_set_self (List.getElem?_eq_some_iff.1 moves.found).1] at hfound
      cases hfound
      obtain ⟨first, hfirst, hname, hcourse⟩ := follows.course number worker moves.found
      refine ⟨first, hfirst, moves.name.trans hname, ?_⟩
      rw [Diary.course_entries_self]
      exact hcourse.goes (hname ▸ moves.goes)
    · rw [List.getElem?_set_ne hsame] at hfound
      rw [Diary.course_entries_of_ne hsame, List.append_nil]
      exact follows.course current someone hfound
  known entry hmem := by
    show entry.1 < crew.workers.length
    rw [moves.workers, List.length_set]
    rcases List.mem_append.1 hmem with hbefore | hnew
    · exact follows.known entry hbefore
    · obtain ⟨occasion, -, rfl⟩ := List.mem_map.1 hnew
      exact (List.getElem?_eq_some_iff.1 moves.found).1

/-- The engines of the workers stay as they are, whatever the conductor does. -/
theorem deed (follows : Follows diary run) (deed : run.Deed after) : Follows diary after := by
  cases deed with
  | turn lines found leads => exact ⟨follows.course, follows.known⟩
  | ask lines found asks => exact ⟨follows.course, follows.known⟩
  | @control task current control next timeUp crew found steps =>
    obtain ⟨worker, life, lines, hworker, hworkers, hstep⟩ := Crew.exists_of_control steps
    refine ⟨fun number someone hsomeone => ?_, fun entry hentry => ?_⟩
    · have hfound : crew.workers[number]? = some someone := hsomeone
      rw [hworkers] at hfound
      by_cases hsame : current = number
      · subst hsame
        rw [List.getElem?_set_self (List.getElem?_eq_some_iff.1 hworker).1] at hfound
        cases hfound
        obtain ⟨first, hfirst, hname, hcourse⟩ := follows.course current worker hworker
        exact ⟨first, hfirst, (Lifecycle.name_of_control hstep).trans hname, hcourse⟩
      · rw [List.getElem?_set_ne hsame] at hfound
        exact follows.course number someone hfound
    · show entry.1 < crew.workers.length
      rw [hworkers, List.length_set]
      exact follows.known entry hentry

end Follows

variable {plan : Plan} {hub : Hub}

theorem Deed.plan_eq (deed : run.Deed after) : after.plan = run.plan := by
  cases deed <;> rfl

namespace Reaches

/-- The plan stays the same. -/
theorem plan_eq (reaches : (begin plan hub).Reaches diary glance run) : run.plan = plan :=
  reaches.deed_induction (P := fun _ run => run.plan = plan) rfl (fun _ same _ => same)
    (fun _ same deed => deed.plan_eq.trans same) fun _ _ _ _ same => same

theorem follows (reaches : (begin plan hub).Reaches diary glance run) : Follows diary run := by
  refine reaches.deed_induction (P := Follows) (.begin plan hub) (fun _ follows steps => ?_)
    (fun _ follows deed => follows.deed deed)
    fun _ _ _ _ follows => ⟨follows.course, follows.known⟩
  obtain ⟨worker, other, moves⟩ := Crew.exists_of_step steps
  exact follows.work moves

/-! ## The ids of a worker -/

variable (reaches : (begin plan hub).Reaches diary glance run)
include reaches

/-- The worker of an entry is one of the plan. -/
theorem lt_of_mem {entry : Nat × Occasion} (hentry : entry ∈ diary) :
    entry.1 < plan.consumers.toNat + plan.publishers.toNat := by
  have hlt := reaches.follows.known entry hentry
  obtain ⟨first, hfirst, -⟩ := reaches.follows.course entry.1 _ (List.getElem?_eq_getElem hlt)
  rw [reaches.plan_eq] at hfirst
  rw [← plan.length_workers]
  exact (List.getElem?_eq_some_iff.1 hfirst).1

/-- Nobody but a publisher takes ids, and a publisher no more than it has messages to send. -/
theorem length_mintedBy_le (number : Nat) :
    (diary.mintedBy number).length ≤
      if plan.consumers.toNat ≤ number then plan.messages.toNat else 0 := by
  have hfollows := reaches.follows
  cases hworker : run.crew.workers[number]? with
  | none =>
    have hnone : diary.course number = [] := by
      refine List.map_eq_nil_iff.2 (List.filter_eq_nil_iff.2 fun entry hentry hsame => ?_)
      have hlt := hfollows.known entry hentry
      rw [of_decide_eq_true hsame] at hlt
      rw [List.getElem?_eq_getElem hlt] at hworker
      cases hworker
    rw [Diary.mintedBy, hnone]
    exact Nat.zero_le _
  | some worker =>
    obtain ⟨first, hfirst, -, hcourse⟩ := hfollows.course number worker hworker
    rw [reaches.plan_eq] at hfirst
    rcases plan.worker_cases hfirst with ⟨-, rfl⟩ | ⟨index, -, rfl, rfl⟩
    · rw [Diary.mintedBy, hcourse.consumer_idle.2.2]
      exact Nat.zero_le _
    · rw [if_pos (Nat.le_add_right _ _)]
      exact Producer.length_minted_le hcourse

theorem isPublisher_of_mem {id : UInt64} (hid : id ∈ diary.mintedBy number) :
    plan.IsPublisher number := by
  have hle := reaches.length_mintedBy_le number
  have hpositive := List.length_pos_of_mem hid
  refine ⟨?_, ?_⟩
  · by_contra hconsumer
    rw [if_neg hconsumer] at hle
    omega
  · obtain ⟨entry, hentry, rfl, -⟩ := Diary.mem_mintedBy.1 hid
    exact reaches.lt_of_mem hentry

/-- A run gives out no more ids than it is to bring messages across. -/
theorem length_minted_le :
    diary.past.minted.length ≤ plan.publishers.toNat * plan.messages.toNat := by
  have hconsumers : ∑ number ∈ Finset.range plan.consumers.toNat,
      (diary.mintedBy number).length = 0 := by
    refine Finset.sum_eq_zero fun number hnumber => ?_
    have hle := reaches.length_mintedBy_le number
    rw [if_neg (Nat.not_le.2 (Finset.mem_range.1 hnumber))] at hle
    exact Nat.le_zero.1 hle
  have hpublishers : ∑ index ∈ Finset.range plan.publishers.toNat,
      (diary.mintedBy (plan.consumers.toNat + index)).length ≤
        (Finset.range plan.publishers.toNat).card • plan.messages.toNat := by
    refine Finset.sum_le_card_nsmul _ _ _ fun index _ => ?_
    have hle := reaches.length_mintedBy_le (plan.consumers.toNat + index)
    rwa [if_pos (Nat.le_add_right _ _)] at hle
  rw [Diary.length_minted fun entry hentry => reaches.lt_of_mem hentry, Finset.sum_range_add,
    hconsumers, Nat.zero_add]
  rwa [Finset.card_range, smul_eq_mul] at hpublishers

end Reaches
end Conductor
end BrokerLoad
