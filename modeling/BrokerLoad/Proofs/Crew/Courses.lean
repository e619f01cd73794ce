import BrokerLoad.Proofs.Crew.Reach
import BrokerLoad.Proofs.Engine.Course
import BrokerLoad.Proofs.Worker.Scene

/-!
# The courses of a crew's workers

A crew that has reached some state has let each of its workers run its own course, and what it
has asked all in all is these courses, interleaved.  `Crew.Reaches.exists_records` says so: to
every worker there is a record of where it began and what it has asked since, and the past of
the crew has come about by taking from these courses, one exchange at a time
(`Interleaves`).

A worker of which it is said that it ended with everything completed has an engine that has
finished in that way; a life may go on after that, but the engine does not.
-/

namespace BrokerLoad

/-! ## Interleaving -/

/-- Lists that are interleaved to one, each in its own order. -/
inductive Interleaves {α : Type} : List (List α) → List α → Prop where
  /-- Nothing has been taken. -/
  | start {lists : List (List α)} (empty : ∀ list ∈ lists, list = []) : Interleaves lists []
  /-- One more item of one of the lists. -/
  | next {lists : List (List α)} {whole : List α} (before : Interleaves lists whole)
      {number : Nat} (hlt : number < lists.length) (item : α) :
      Interleaves (lists.set number (lists[number] ++ [item])) (whole ++ [item])

namespace Interleaves

variable {α β : Type} {lists : List (List α)} {whole : List α}

/-- What adds up along a list adds up along lists that are interleaved. -/
theorem sum (interleaves : Interleaves lists whole) {f : List α → Nat} (nil : f [] = 0)
    (snoc : ∀ list item, f (list ++ [item]) = f list + f [item]) :
    f whole = (lists.map f).sum := by
  induction interleaves with
  | @start lists empty =>
    rw [nil, List.map_congr_left fun list hlist => (congrArg f (empty list hlist)).trans nil]
    simp
  | @next lists whole before number hlt item ih =>
    have hbefore := ((List.getElem_cons_eraseIdx_perm hlt).map f).sum_nat
    have hafter := ((List.set_perm_cons_eraseIdx hlt (lists[number] ++ [item])).map f).sum_nat
    rw [List.map_cons, List.sum_cons] at hbefore hafter
    rw [snoc, ih, hafter, snoc]
    omega

/-- What is on one of the lists is on the whole. -/
theorem mem_whole (interleaves : Interleaves lists whole) {list : List α} (hlist : list ∈ lists)
    {item : α} (hitem : item ∈ list) : item ∈ whole := by
  induction interleaves generalizing list item with
  | start empty =>
    rw [empty list hlist] at hitem
    exact hitem
  | @next lists whole before number hlt last ih =>
    rw [List.mem_append]
    rcases List.mem_or_eq_of_mem_set hlist with hbefore | rfl
    · exact .inl (ih hbefore hitem)
    · rcases List.mem_append.1 hitem with hearlier | hlast
      · exact .inl (ih (List.getElem_mem hlt) hearlier)
      · exact .inr hlast

/-- What comes last of the whole comes last of one of the lists. -/
theorem getLast?_filterMap (interleaves : Interleaves lists whole) {g : α → Option β} {last : β}
    (hlast : (whole.filterMap g).getLast? = some last) :
    ∃ list ∈ lists, (list.filterMap g).getLast? = some last := by
  induction interleaves with
  | start empty => cases hlast
  | @next lists whole before number hlt item ih =>
    have hset : lists[number] ++ [item] ∈ lists.set number (lists[number] ++ [item]) :=
      List.mem_set hlt _
    rw [List.filterMap_append] at hlast
    cases hitem : g item with
    | some value =>
      rw [List.filterMap_cons_some hitem, List.filterMap_nil, List.getLast?_append,
        List.getLast?_singleton, Option.some_or] at hlast
      refine ⟨_, hset, ?_⟩
      rw [List.filterMap_append, List.filterMap_cons_some hitem, List.filterMap_nil,
        List.getLast?_append, List.getLast?_singleton, Option.some_or, hlast]
    | none =>
      rw [List.filterMap_cons_none hitem, List.filterMap_nil, List.append_nil] at hlast
      obtain ⟨list, hlist, hend⟩ := ih hlast
      obtain ⟨other, hother, rfl⟩ := List.getElem_of_mem hlist
      by_cases hsame : other = number
      · subst hsame
        refine ⟨_, hset, ?_⟩
        rw [List.filterMap_append, List.filterMap_cons_none hitem, List.filterMap_nil,
          List.append_nil, hend]
      · refine ⟨lists[other], ?_, hend⟩
        have hkept : (lists.set number (lists[number] ++ [item]))[other]? = some lists[other] := by
          rw [List.getElem?_set_ne (Ne.symm hsame), List.getElem?_eq_getElem hother]
        exact List.mem_of_getElem? hkept

end Interleaves

/-! ## Steps -/

/-- Whether it is said of a life that it ended in a way, or is about to be. -/
def Lifecycle.Claims (life : Lifecycle) (ending : Ending) : Prop :=
  life.ending = ending ∨ life.phase = .recording ending

namespace Lifecycle

/-- A step of a life claims nothing but what comes out of its work loop. -/
theorem claims_of_advance {life after : Lifecycle} {outcome : Option Outcome}
    {lines : List LogLine} (advances : life.advance outcome = some (after, lines))
    (claims : after.Claims .completed) :
    life.Claims .completed ∨ (life.phase = .working ∧ outcome = some (.ok .completed)) := by
  rw [advance.eq_def] at advances
  cases hphase : life.phase with
  | working =>
    rw [hphase] at advances
    rcases outcome with _ | fault | ending
    · cases advances
    · cases advances
      rcases claims with hending | hrecording
      · exact .inl (.inl hending)
      · cases hrecording
    · cases advances
      rcases claims with hending | hrecording
      · exact .inl (.inl hending)
      · cases hrecording
        exact .inr ⟨rfl, rfl⟩
  | recording ending =>
    rw [hphase] at advances
    cases advances
    rcases claims with hending | hrecording
    · exact .inl (.inr (hphase.trans (congrArg _ hending)))
    · cases hrecording
  | _ =>
    rw [hphase] at advances
    cases advances
    try
      rcases claims with hending | hrecording
      · exact .inl (.inl hending)
      · cases hrecording

/-- A step of a control claims nothing. -/
theorem claims_of_control {life after : Lifecycle} {control next : Control} {timeUp : Bool}
    {lines : List LogLine} (steps : control.step timeUp life = some (next, after, lines))
    (claims : after.Claims .completed) : life.Claims .completed := by
  have hsame : after.ending = life.ending ∧
      (after.phase = .recording .completed → life.phase = .recording .completed) := by
    cases control <;> simp only [Control.step] at steps <;> (repeat' split at steps) <;>
      cases steps <;> simp_all
  exact claims.imp (fun hending => hsame.1 ▸ hending) hsame.2

end Lifecycle

namespace Crew

/-- What a step of a crew is: a worker's engine asks, or a worker's life goes on. -/
inductive Steps (crew : Crew Hub) : Past → Crew Hub → Prop where
  /-- An engine asks. -/
  | ask {number : Nat} {worker : Worker} {query : Query} {next : query.Reply → Engine}
      {shared : Shared Hub} (found : crew.workers[number]? = some worker)
      (asks : worker.engine.request worker.life.name = .ask query next) (reply : query.Reply)
      (served : Occasion.IsServed ⟨crew.shared.client, ⟨query, reply⟩, shared.client⟩)
      (ledger : shared.ledger = crew.shared.ledger.after ⟨query, reply⟩) :
      Steps crew [⟨crew.shared.client, ⟨query, reply⟩, shared.client⟩]
        ⟨shared, crew.workers.set number { worker with engine := next reply }⟩
  /-- Nothing is asked. -/
  | live {number : Nat} {worker : Worker} {life : Lifecycle} {shared : Shared Hub}
      (found : crew.workers[number]? = some worker) (name : life.name = worker.life.name)
      (client : shared.client = crew.shared.client) (ledger : shared.ledger = crew.shared.ledger)
      (honest : life.Claims .completed → worker.life.Claims .completed ∨
        worker.engine.request worker.life.name = .finish (.ok .completed)) :
      Steps crew [] ⟨shared, crew.workers.set number { worker with life := life }⟩

/-- No stop request comes out of a hub. -/
theorem stops_answer (shared : Shared Hub) (stop : Bool) (query : Query) :
    (shared.answer stop query).stops = [] := by
  cases query with
  | broker call => cases call <;> rfl
  | _ => rfl

theorem Steps.of_step {crew after : Crew Hub} {number : Nat}
    (steps : crew.step number = some after) : Steps crew (crew.asked number) after := by
  rw [Crew.step] at steps
  rw [asked]
  cases hworker : crew.workers[number]? with
  | none =>
    rw [hworker] at steps
    cases steps
  | some worker =>
    rw [hworker] at steps
    obtain ⟨⟨other, shared⟩, hstep, rfl⟩ := Option.map_eq_some_iff.1 steps
    rw [Worker.step] at hstep
    by_cases hworking : worker.life.phase = .working
    · simp only [if_pos hworking] at hstep ⊢
      cases hrequest : worker.engine.request worker.life.name with
      | finish outcome =>
        rw [hrequest] at hstep
        obtain ⟨⟨life, lines⟩, hadvance, heq⟩ := Option.map_eq_some_iff.1 hstep
        cases heq
        refine .live hworker (Lifecycle.name_of_advance hadvance) rfl rfl fun claims => ?_
        rcases Lifecycle.claims_of_advance hadvance claims with hbefore | ⟨-, houtcome⟩
        · exact .inl hbefore
        · cases houtcome
          exact .inr hrequest
      | ask query next =>
        rw [hrequest] at hstep
        cases hstep
        have hledger := (Ledger.shared_answer crew.shared worker.life.stopRequested query).2
        rw [stops_answer, Worker.interrupts]
        refine @Steps.ask _ _ _ _ _
          ((crew.shared.answer worker.life.stopRequested query).client.say []) hworker hrequest _ ?_
          hledger
        cases query with
        | broker call => exact ⟨rfl, rfl⟩
        | emit emission => cases emission <;> rfl
        | _ => rfl
    · simp only [if_neg hworking] at hstep ⊢
      obtain ⟨⟨life, lines⟩, hadvance, heq⟩ := Option.map_eq_some_iff.1 hstep
      cases heq
      refine .live hworker (Lifecycle.name_of_advance hadvance) rfl rfl fun claims => ?_
      exact (Lifecycle.claims_of_advance hadvance claims).imp_right fun h => absurd h.1 hworking

theorem Steps.of_control {crew after : Crew Hub} {number : Nat} {timeUp : Bool}
    {control next : Lifecycle.Control}
    (steps : crew.control number timeUp control = some (next, after)) : Steps crew [] after := by
  rw [Crew.control] at steps
  cases hworker : crew.workers[number]? with
  | none =>
    rw [hworker] at steps
    cases steps
  | some worker =>
    rw [hworker] at steps
    obtain ⟨⟨onward, life, lines⟩, hstep, heq⟩ := Option.map_eq_some_iff.1 steps
    cases heq
    exact .live hworker (Lifecycle.name_of_control hstep) rfl rfl fun claims =>
      .inl (Lifecycle.claims_of_control hstep claims)

/-- What holds in the beginning and is kept by every step holds in every state reached. -/
theorem Reaches.step_induction {P : Past → Crew Hub → Prop} {start crew : Crew Hub} {past : Past}
    (begins : P [] start)
    (steps : ∀ {past more : Past} {crew after : Crew Hub}, P past crew → Steps crew more after →
      P (past ++ more) after)
    (reaches : start.Reaches past crew) : P past crew := by
  induction reaches with
  | start => exact begins
  | work before number stepped ih => exact steps ih (.of_step stepped)
  | control before number timeUp stepped ih =>
    have hafter := steps ih (.of_control stepped)
    rwa [List.append_nil] at hafter

/-! ## Records -/

/-- Where a worker began and what it has asked since. -/
structure Record where
  name : String
  /-- The engine that it began with. -/
  first : Engine
  worker : Worker
  /-- What it has asked. -/
  course : List Exchange

namespace Record

/-- The member of the staff that a record is about. -/
def member (record : Record) : String × Engine := (record.name, record.first)

/-- Whether a record is true. -/
structure IsTrue (record : Record) : Prop where
  name : record.worker.life.name = record.name
  course : Engine.Course record.name record.first record.course record.worker.engine
  /-- A worker that is said to have completed its task has. -/
  honest : record.worker.life.Claims .completed →
    record.worker.engine.request record.name = .finish (.ok .completed)

end Record

/-- An item in the place of another one that looks the same. -/
theorem map_set_of_eq {α β : Type} {f : α → β} {l : List α} {i : Nat} {a : α} (hlt : i < l.length)
    (same : f a = f l[i]) : (l.set i a).map f = l.map f := by
  have hlt' : i < (l.map f).length := by rwa [List.length_map]
  have hself : (l.map f).set i (l.map f)[i] = l.map f := List.set_getElem_self hlt'
  rwa [List.getElem_map, ← same, ← List.map_set] at hself

/-- Records of all the workers of a crew and of all that they have asked. -/
structure IsRecorded (staff : List (String × Engine)) (past : Past) (crew : Crew Hub)
    (records : List Record) : Prop where
  staff : records.map Record.member = staff
  workers : records.map Record.worker = crew.workers
  past : Interleaves (records.map Record.course) (past.map Occasion.exchange)
  isTrue : ∀ record ∈ records, record.IsTrue

theorem IsRecorded.steps {staff : List (String × Engine)} {past more : Past}
    {crew after : Crew Hub} {records : List Record}
    (recorded : IsRecorded staff past crew records) (steps : Steps crew more after) :
    ∃ records, IsRecorded staff (past ++ more) after records := by
  have hmember : ∀ {number : Nat} {worker : Worker}, crew.workers[number]? = some worker →
      ∃ hlt : number < records.length, records[number].worker = worker := by
    intro number worker found
    rw [← recorded.workers, List.getElem?_map, Option.map_eq_some_iff] at found
    obtain ⟨record, hrecord, hworker⟩ := found
    obtain ⟨hlt, rfl⟩ := List.getElem?_eq_some_iff.1 hrecord
    exact ⟨hlt, hworker⟩
  cases steps with
  | @ask number worker query next shared found asks reply served ledger =>
    obtain ⟨hlt, rfl⟩ := hmember found
    have htrue := recorded.isTrue _ (List.getElem_mem hlt)
    refine ⟨records.set number { records[number] with
      worker := { records[number].worker with engine := next reply }
      course := records[number].course ++ [⟨query, reply⟩] }, ?_, ?_, ?_, fun record hrecord => ?_⟩
    · exact (map_set_of_eq hlt (by rfl)).trans recorded.staff
    · rw [List.map_set, recorded.workers]
    · have hcourse : number < (records.map Record.course).length := by simpa using hlt
      have hnext := recorded.past.next hcourse ⟨query, reply⟩
      rw [List.map_set, List.map_append]
      simpa using hnext
    · rcases List.mem_or_eq_of_mem_set hrecord with hbefore | rfl
      · exact recorded.isTrue record hbefore
      · rw [htrue.name] at asks
        refine ⟨htrue.name, htrue.course.ask asks reply, fun claims => ?_⟩
        rw [htrue.honest claims] at asks
        cases asks
  | @live number worker life shared found name client ledger honest =>
    obtain ⟨hlt, rfl⟩ := hmember found
    have htrue := recorded.isTrue _ (List.getElem_mem hlt)
    refine ⟨records.set number { records[number] with
      worker := { records[number].worker with life := life } }, ?_, ?_, ?_,
      fun record hrecord => ?_⟩
    · exact (map_set_of_eq hlt (by rfl)).trans recorded.staff
    · rw [List.map_set, recorded.workers]
    · have hcourses := recorded.past
      rw [← map_set_of_eq (f := Record.course) (a := { records[number] with
        worker := { records[number].worker with life := life } }) hlt (by rfl)] at hcourses
      rwa [List.append_nil]
    · rcases List.mem_or_eq_of_mem_set hrecord with hbefore | rfl
      · exact recorded.isTrue record hbefore
      · refine ⟨name.trans htrue.name, htrue.course, fun claims => ?_⟩
        rcases honest claims with hbefore | hfinish
        · exact htrue.honest hbefore
        · exact htrue.name ▸ hfinish

/-- Every worker of a crew runs its own course. -/
theorem Reaches.exists_records {hub : Hub} {staff : List (String × Engine)} {past : Past}
    {crew : Crew Hub} (reaches : (opening hub staff).Reaches past crew) :
    ∃ records, IsRecorded staff past crew records := by
  refine reaches.step_induction
    (P := fun past crew => ∃ records, IsRecorded staff past crew records) ?_ fun before steps => ?_
  · refine ⟨staff.map fun member => ⟨member.1, member.2, .hire member.1 member.2, []⟩, ?_, ?_, ?_,
      fun record hrecord => ?_⟩
    · simp [Function.comp_def, Record.member]
    · simp [Function.comp_def, opening]
    · exact .start (by simp)
    · obtain ⟨member, -, rfl⟩ := List.mem_map.1 hrecord
      exact ⟨rfl, .start, by simp [Worker.hire, Lifecycle.Claims]⟩
  · obtain ⟨records, recorded⟩ := before
    exact recorded.steps steps

/-- The ledger of a crew is what its past has made of it. -/
theorem Reaches.ledger_eq {start crew : Crew Hub} {past : Past}
    (reaches : start.Reaches past crew) :
    crew.shared.ledger = (past.map Occasion.exchange).foldl Ledger.after start.shared.ledger := by
  refine reaches.step_induction (P := fun past crew => crew.shared.ledger =
    (past.map Occasion.exchange).foldl Ledger.after start.shared.ledger) rfl
    fun before steps => ?_
  rw [List.map_append, List.foldl_append, ← before]
  cases steps with
  | ask found asks reply served ledger => exact ledger
  | live found name client ledger honest => exact ledger

end Crew
end BrokerLoad
