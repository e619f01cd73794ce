import BrokerLoad.Proofs.CommandLine.Spelling
import BrokerLoad.Proofs.Plan.Runnable

/-!
# The last word on a setting

A command line is a list of *orders*, each of which gives a datum to a setting, and every order can
be written in several ways (`Plan.Writes`): the option has its spellings, and a number its numerals.
Whatever the ways, the last order for a setting counts, and a setting without an order stays as it
was (`Plan.LastWins`).  The plan that comes of it is then checked as a whole.

So it does not matter in which order different settings are given, and all plans that a run can be
made of can be ordered, but for one thing: there is an option for the blocking interfaces, and none
for the others.
-/

namespace BrokerLoad
namespace Plan

open CommandLine (Occurrence Spells Calls IsTable)
open Numeral (Denotes)

/-! ## Orders -/

/-- What a text asks for: a number that it denotes and that is not too large for the setting, or
else the text itself, or nothing but what the option stands for. -/
inductive Asks (setting : Setting) (text : String) : Datum → Prop
  | number {maximum : UInt64} {number : Nat} (numeric : setting.maximum? = some maximum)
      (denotes : Denotes text.toList number) (le : number ≤ maximum.toNat) :
      Asks setting text (.number number)
  | given {datum : Datum} (given : setting.given? text = some datum) : Asks setting text datum

/-- How an order for a setting is written: as its option, in any spelling, with a text that asks for
the datum. -/
def Writes (order : Setting × Datum) (arguments : List String) : Prop :=
  ∃ text, Asks order.1 text order.2 ∧ Spells options { key := order.1, value := text } arguments

/-- The last datum that is ordered for a setting. -/
def lastDatum? (orders : List (Setting × Datum)) (setting : Setting) : Option Datum :=
  orders.reverse.lookup setting

theorem lastDatum?_append (orders more : List (Setting × Datum)) (setting : Setting) :
    lastDatum? (orders ++ more) setting =
      (lastDatum? more setting).or (lastDatum? orders setting) := by
  rw [lastDatum?, List.reverse_append, List.lookup_append]
  rfl

theorem lastDatum?_cons (order : Setting × Datum) (rest : List (Setting × Datum))
    (setting : Setting) : lastDatum? (order :: rest) setting =
      (lastDatum? rest setting).or (if setting = order.1 then some order.2 else none) := by
  obtain ⟨key, datum⟩ := order
  rw [← List.singleton_append, lastDatum?_append, lastDatum?.eq_def [(key, datum)]]
  by_cases hsame : setting = key
  · simp [hsame]
  · simp [List.lookup_cons, hsame, beq_false_of_ne hsame]

/-- Orders for different settings that come one after the other may change places. -/
theorem lastDatum?_swap (before behind : List (Setting × Datum)) {one other : Setting × Datum}
    (differ : one.1 ≠ other.1) (setting : Setting) :
    lastDatum? (before ++ one :: other :: behind) setting =
      lastDatum? (before ++ other :: one :: behind) setting := by
  simp only [lastDatum?_append, lastDatum?_cons, Option.or_assoc]
  by_cases hone : setting = one.1
  · rw [if_pos hone, if_neg (hone ▸ differ), Option.none_or]
    simp
  · rw [if_neg hone, Option.none_or]
    simp

/-! ## Applying orders -/

theorem apply_of_asks {setting : Setting} {text : String} {datum : Datum}
    (asks : Asks setting text datum) (plan : Plan) :
    ∃ after, plan.apply { key := setting, value := text } = (.ok (), after) ∧
      plan.Sets setting datum after := by
  cases asks with
  | number numeric denotes le => exact apply_of_takes numeric plan ⟨le, .inl denotes⟩
  | given given => exact apply_of_given given plan

/-- What an option is that an order is written as. -/
structure IsOption (order : Setting × Datum) (option : Occurrence Setting) : Prop where
  key : option.key = order.1
  asks : Asks order.1 option.value order.2

/-- The last order for a setting counts. -/
theorem applyAll_of_isOption {orders : List (Setting × Datum)} {found : List (Occurrence Setting)}
    (areOptions : List.Forall₂ IsOption orders found) (plan : Plan) :
    ∃ after, plan.applyAll found = (.ok (), after) ∧
      ∀ setting, after.datum? setting = (lastDatum? orders setting).or (plan.datum? setting) := by
  induction areOptions generalizing plan with
  | nil => exact ⟨plan, rfl, fun _ => rfl⟩
  | @cons order option orders found isOption _ ih =>
    obtain ⟨key, text⟩ := option
    obtain rfl : key = order.1 := isOption.key
    obtain ⟨next, happly, hsets⟩ := apply_of_asks isOption.asks plan
    obtain ⟨after, hrest, hafter⟩ := ih next
    refine ⟨after, ?_, fun setting => ?_⟩
    · rw [applyAll, happly]
      exact hrest
    · rw [hafter, lastDatum?_cons, Option.or_assoc]
      by_cases hsame : setting = order.1
      · rw [if_pos hsame, hsame, hsets.set, Option.some_or]
      · rw [if_neg hsame, hsets.others setting hsame, Option.none_or]

/-- Options that are written are found. -/
theorem exists_options {orders : List (Setting × Datum)} {lines : List (List String)}
    (written : List.Forall₂ Writes orders lines) :
    ∃ found, List.Forall₂ IsOption orders found ∧ List.Forall₂ (Spells options) found lines := by
  induction written with
  | nil => exact ⟨[], .nil, .nil⟩
  | cons writes _ ih =>
    obtain ⟨text, hasks, hspells⟩ := writes
    obtain ⟨found, hoptions, hfound⟩ := ih
    exact ⟨_ :: found, .cons ⟨rfl, hasks⟩ hoptions, .cons hspells hfound⟩

/-! ## Settings and their options -/

/-- The options can be told apart. -/
theorem isTable_options : IsTable options where
  names := by decide +kernel
  letters := by decide +kernel
  nonempty := by decide +kernel
  plain := by decide +kernel
  dashless := by decide +kernel

/-- What comes of orders. -/
structure LastWins (start : Plan) (orders : List (Setting × Datum)) (outcome : Reception × Plan) :
    Prop where
  settings : ∀ setting, outcome.2.datum? setting =
    (lastDatum? orders setting).or (start.datum? setting)
  checked : outcome.1 = outcome.2.check
  success : outcome.1.verdict = .success ↔ outcome.2.IsValid
  invalid : ¬ outcome.2.IsValid → outcome.1.verdict = .invalidValue

theorem LastWins.of_check {start after : Plan} {orders : List (Setting × Datum)}
    (settings : ∀ setting, after.datum? setting =
      (lastDatum? orders setting).or (start.datum? setting)) :
    LastWins start orders (after.check, after) where
  settings := settings
  checked := rfl
  success := by
    rw [← check_eq_accepted_iff]
    refine ⟨fun hsuccess => after.check_cases.resolve_right fun hinvalid => ?_,
      fun haccepted => congrArg Reception.verdict haccepted⟩
    cases hsuccess.symm.trans hinvalid
  invalid hnot := after.check_cases.resolve_left fun haccepted =>
    hnot (check_eq_accepted_iff.1 haccepted)

/-- The last orders are all that counts. -/
theorem LastWins.unique {start : Plan} {orders others : List (Setting × Datum)}
    {outcome outcome' : Reception × Plan} (one : LastWins start orders outcome)
    (other : LastWins start others outcome')
    (same : ∀ setting, lastDatum? orders setting = lastDatum? others setting) :
    outcome = outcome' := by
  have hplan : outcome.2 = outcome'.2 := ext_datum? fun setting => by
    rw [one.settings, other.settings, same]
  exact Prod.ext (by rw [one.checked, other.checked, hplan]) hplan

theorem lastWins_parse (start : Plan) (program : String) {orders : List (Setting × Datum)}
    {lines : List (List String)} (written : List.Forall₂ Writes orders lines) :
    LastWins start orders (start.parse (program :: lines.flatten)) := by
  obtain ⟨found, hoptions, hspells⟩ := exists_options written
  obtain ⟨after, happly, hafter⟩ := applyAll_of_isOption hoptions start
  have hparse : start.parse (program :: lines.flatten) = (after.check, after) := by
    rw [Plan.parse, CommandLine.scan_of_spells isTable_options hspells, happly]
    rfl
  rw [hparse]
  exact .of_check hafter

/-! ## Plans that can be ordered -/

/-- What is ordered of a plan: everything, but for the interfaces that wait for nothing. -/
def ordered? (plan : Plan) (setting : Setting) : Option Datum :=
  match plan.datum? setting with
  | some (.flag true) => none
  | datum => datum

/-- The orders that make a plan. -/
def orders (plan : Plan) : List (Setting × Datum) :=
  Setting.all.filterMap fun setting => (plan.ordered? setting).map fun datum => (setting, datum)

/-- An order, by the full name of its option and in decimal digits. -/
def spelled : Setting × Datum → List String
  | (setting, .text text) => ["--" ++ setting.long, text]
  | (setting, .number number) => ["--" ++ setting.long, number.repr]
  | (setting, .flag _) => ["--" ++ setting.long]

theorem datum?_of_ordered? {plan : Plan} {setting : Setting} {datum : Datum}
    (ordered : plan.ordered? setting = some datum) : plan.datum? setting = some datum := by
  rw [ordered?] at ordered
  split at ordered
  · cases ordered
  · exact ordered

/-- What is not ordered is there already. -/
theorem ordered?_or {plan start : Plan} (clears : plan.pipelined = true → start.pipelined = true)
    (setting : Setting) :
    (plan.ordered? setting).or (start.datum? setting) = plan.datum? setting := by
  cases setting with
  | blocking =>
    rw [ordered?, datum?, datum?]
    cases hpipelined : plan.pipelined with
    | false => rfl
    | true =>
      rw [clears hpipelined]
      rfl
  | _ => rfl

theorem lastDatum?_orders (plan : Plan) (setting : Setting) :
    lastDatum? plan.orders setting = plan.ordered? setting := by
  obtain ⟨_, _, _, _, _, _, pipelined, _, _, _⟩ := plan
  cases pipelined <;> cases setting <;> rfl

theorem mem_options (setting : Setting) : setting.spec ∈ options := by
  cases setting <;> exact List.mem_map_of_mem (by decide)

/-- What is ordered of a plan can be written so. -/
theorem writes_spelled {plan : Plan} (inRange : plan.IsInRange) {setting : Setting}
    {datum : Datum} (ordered : plan.ordered? setting = some datum) :
    Writes (setting, datum) (spelled (setting, datum)) := by
  have hmem := mem_options setting
  have hdatum := datum?_of_ordered? ordered
  cases setting with
  | help => cases ordered
  | destination | group =>
    cases ordered
    exact ⟨_, .given rfl, .nameApart _ hmem .full rfl⟩
  | publishers | consumers | messages | messageSize | timeout | throttleEvery | redeliverEvery =>
    cases ordered
    exact ⟨_, .number rfl (Numeral.denotes_repr _) (inRange.le rfl hdatum),
      .nameApart _ hmem .full rfl⟩
  | blocking =>
    obtain ⟨_, _, _, _, _, _, pipelined, _, _, _⟩ := plan
    cases pipelined <;> cases ordered
    exact ⟨_, .given rfl, .alone hmem .full rfl⟩

theorem written_orders {plan : Plan} (inRange : plan.IsInRange) :
    List.Forall₂ Writes plan.orders (plan.orders.map spelled) := by
  refine List.forall₂_map_right_iff.2 (List.forall₂_same.2 fun order hmem => ?_)
  obtain ⟨setting, -, hordered⟩ := List.mem_filterMap.1 hmem
  obtain ⟨datum, hdatum, rfl⟩ := Option.map_eq_some_iff.1 hordered
  exact writes_spelled inRange hdatum

/-- The orders that make a plan make it of any other, but for the interfaces. -/
theorem parse_orders {plan : Plan} (runnable : plan.IsRunnable) (start : Plan)
    (clears : plan.pipelined = true → start.pipelined = true) (program : String) :
    start.parse (program :: (plan.orders.map spelled).flatten) = (.accepted, plan) := by
  have hlast := lastWins_parse start program (written_orders runnable.inRange)
  have hplan : (start.parse (program :: (plan.orders.map spelled).flatten)).2 = plan := by
    refine ext_datum? fun setting => ?_
    rw [hlast.settings, lastDatum?_orders, ordered?_or clears]
  refine Prod.ext ?_ hplan
  rw [hlast.checked, hplan]
  exact check_eq_accepted_iff.2 runnable.valid

/-- No order is for the interfaces that wait for nothing. -/
theorem eq_false_of_written {orders : List (Setting × Datum)} {lines : List (List String)}
    (written : List.Forall₂ Writes orders lines) {datum : Datum}
    (ordered : lastDatum? orders .blocking = some datum) : datum = .flag false := by
  have hmem : (Setting.blocking, datum) ∈ orders := by
    obtain ⟨before, behind, hsplit, -⟩ := List.lookup_eq_some_iff.1 ordered
    exact List.mem_reverse.1 (hsplit ▸ List.mem_append_right before List.mem_cons_self)
  clear ordered
  induction written with
  | nil => cases hmem
  | cons writes _ ih =>
    rcases List.mem_cons.1 hmem with rfl | hrest
    · obtain ⟨text, hasks, -⟩ := writes
      cases hasks with
      | number numeric => cases numeric
      | given given =>
        cases given
        rfl
    · exact ih hrest

/-- Command lines whose options are all written well, whatever the plan they are applied to.

The last order for a setting counts, the others stay as they were, and the plan is checked as a
whole.  Orders for different settings that come one after the other may change places.  From a plan
whose numbers are in range a command line leads to all those that a run can be made of, but that the
blocking interfaces stay once they are chosen. -/
theorem last_word (start : Plan) (program : String) :
    (∀ {orders : List (Setting × Datum)} {lines : List (List String)},
      List.Forall₂ Writes orders lines →
        LastWins start orders (start.parse (program :: lines.flatten))) ∧
    (∀ {before behind : List (Setting × Datum)} {one other : Setting × Datum}
      {lines swapped : List (List String)}, one.1 ≠ other.1 →
        List.Forall₂ Writes (before ++ one :: other :: behind) lines →
          List.Forall₂ Writes (before ++ other :: one :: behind) swapped →
            start.parse (program :: lines.flatten) = start.parse (program :: swapped.flatten)) ∧
    (start.IsInRange → ∀ plan : Plan, (∃ orders lines, List.Forall₂ Writes orders lines ∧
      start.parse (program :: lines.flatten) = (.accepted, plan)) ↔
        plan.IsRunnable ∧ (plan.pipelined = true → start.pipelined = true)) := by
  refine ⟨lastWins_parse start program, fun {before behind _ _ _ _} differ hlines hswapped => ?_,
    fun inRange plan => ⟨?_, fun ⟨hrunnable, hclears⟩ => ?_⟩⟩
  · exact (lastWins_parse start program hlines).unique (lastWins_parse start program hswapped)
      (lastDatum?_swap before behind differ)
  · rintro ⟨orders, lines, hwritten, hparse⟩
    have hlast := lastWins_parse start program hwritten
    have hrange := inRange.parse (program :: lines.flatten)
    rw [hparse] at hlast hrange
    have hvalid := isValid_of_parse hparse
    refine ⟨⟨hvalid, hrange, hvalid.expected_eq⟩, fun hpipelined => ?_⟩
    have hblocking := hlast.settings .blocking
    cases hordered : lastDatum? orders .blocking with
    | none =>
      rw [hordered, Option.none_or, datum?, datum?, hpipelined] at hblocking
      exact (Datum.flag.inj (Option.some.inj hblocking)).symm
    | some datum =>
      rw [hordered, eq_false_of_written hwritten hordered, datum?, hpipelined] at hblocking
      cases hblocking
  · exact ⟨plan.orders, _, written_orders hrunnable.inRange,
      parse_orders hrunnable start hclears program⟩

/-- The second number of producers counts, and a text that looks like an option is one's value. -/
example :
    ({} : Plan).parse
        ["demo", "-p3", "--consumer-g", "--sync", "--messages= +007", "--pub", "2"] =
      (.accepted, { group := "--sync", publishers := 2, messages := 7 }) := by
  decide +kernel

end Plan
end BrokerLoad
