import BrokerLoad.Proofs.CommandLine.Numerals
import BrokerLoad.Proofs.Plan

/-!
# What a plan has for its settings

All settings but the call for help have a field of the plan, which holds a text, a number or a flag
(`Plan.datum?`).  A plan is known by what it has for its settings (`Plan.ext_datum?`).

An option changes the field of its own setting (`Plan.Sets`) and leaves the others as they were.  If
it wants a number then it goes by its text: it is taken for a number that is not too large for the
setting, or the plan stays as it was (`Plan.apply_of_takes`, `Plan.apply_of_not_takes`).
-/

namespace BrokerLoad
namespace Plan

open CommandLine (Occurrence)

/-- What a plan can have for a setting. -/
inductive Datum where
  | text (text : String)
  | number (number : Nat)
  | flag (flag : Bool)
  deriving DecidableEq

/-- What a plan has for a setting; a call for help has no field. -/
def datum? (plan : Plan) : Setting → Option Datum
  | .destination => some (.text plan.destination)
  | .group => some (.text plan.group)
  | .publishers => some (.number plan.publishers.toNat)
  | .consumers => some (.number plan.consumers.toNat)
  | .messages => some (.number plan.messages.toNat)
  | .messageSize => some (.number plan.messageSize.toNat)
  | .timeout => some (.number plan.timeoutSeconds.toNat)
  | .blocking => some (.flag plan.pipelined)
  | .throttleEvery => some (.number plan.throttleEvery.toNat)
  | .redeliverEvery => some (.number plan.redeliverEvery.toNat)
  | .help => none

/-- Plans that have the same for all settings are the same. -/
theorem ext_datum? {plan other : Plan}
    (same : ∀ setting, plan.datum? setting = other.datum? setting) : plan = other := by
  have hdestination := same .destination
  have hgroup := same .group
  have hpublishers := same .publishers
  have hconsumers := same .consumers
  have hmessages := same .messages
  have hmessageSize := same .messageSize
  have htimeout := same .timeout
  have hblocking := same .blocking
  have hthrottleEvery := same .throttleEvery
  have hredeliverEvery := same .redeliverEvery
  cases plan
  cases other
  simp only [datum?, Option.some.injEq, Datum.text.injEq, Datum.number.injEq, Datum.flag.injEq,
    UInt64.toNat_inj, UInt32.toNat_inj] at *
  simp [*]

/-- What a plan is after a setting was given a datum. -/
structure Sets (plan : Plan) (setting : Setting) (datum : Datum) (after : Plan) : Prop where
  set : after.datum? setting = some datum
  others : ∀ other, other ≠ setting → after.datum? other = plan.datum? other

/-- The largest number that a setting can be given, if it is a number. -/
def Setting.maximum? : Setting → Option UInt64
  | .publishers => some maxUInt32
  | .consumers => some maxUInt32
  | .messages => some maxUInt64
  | .messageSize => some maxUInt32
  | .timeout => some maxUInt32
  | .throttleEvery => some maxUInt32
  | .redeliverEvery => some maxUInt32
  | _ => none

/-! ## Options that want a number -/

/-- Such an option is told by its setting, and by what it does with the number. -/
theorem exists_apply_eq_number {setting : Setting} {maximum : UInt64}
    (numeric : setting.maximum? = some maximum) (plan : Plan) : ∃ assign : UInt64 → Plan,
      (∀ text, plan.apply { key := setting, value := text } =
        plan.number setting text maximum assign) ∧
      ∀ value ≤ maximum, plan.Sets setting (.number value.toNat) (assign value) := by
  -- Three fields are half words, and the largest number is one, too.
  have hhalf : ∀ value ≤ maxUInt32, value.toUInt32.toNat = value.toNat := by
    intro value hle
    rw [UInt64.toNat_toUInt32]
    exact Nat.mod_eq_of_lt (Nat.lt_succ_of_le (UInt64.le_iff_toNat_le.1 hle))
  cases setting <;> cases numeric
  case publishers | consumers | messages | messageSize =>
    refine ⟨_, fun text => rfl, fun value _ => ⟨rfl, fun other hother => ?_⟩⟩
    cases other <;> first | rfl | exact absurd rfl hother
  case timeout | throttleEvery | redeliverEvery =>
    refine ⟨_, fun text => rfl, fun value hle => ⟨?_, fun other hother => ?_⟩⟩
    · exact congrArg (fun number => some (Datum.number number)) (hhalf value hle)
    · cases other <;> first | rfl | exact absurd rfl hother

section Numbers

open Numeral (Takes)

variable {setting : Setting} {maximum : UInt64} (numeric : setting.maximum? = some maximum)
  {text : String} (plan : Plan)
include numeric

/-- The setting is given the number that the text is taken for. -/
theorem apply_of_takes {number : Nat} (takes : Takes text.toList maximum.toNat number) :
    ∃ after, plan.apply { key := setting, value := text } = (.ok (), after) ∧
      plan.Sets setting (.number number) after := by
  obtain ⟨assign, happly, hassign⟩ := exists_apply_eq_number numeric plan
  have hnumber : (UInt64.ofNat number).toNat = number :=
    UInt64.toNat_ofNat_of_lt' (Nat.lt_of_le_of_lt takes.le maximum.toNat_lt)
  have hsets := hassign (UInt64.ofNat number)
    (UInt64.le_iff_toNat_le.2 (hnumber.symm ▸ takes.le))
  rw [hnumber] at hsets
  refine ⟨_, ?_, hsets⟩
  rw [happly, Plan.number, Numeral.optionValue?_of_takes takes]

/-- A text that is taken for nothing is refused. -/
theorem apply_of_not_takes (nothing : ¬ ∃ number, Takes text.toList maximum.toNat number) :
    plan.apply { key := setting, value := text } =
      (.error (.refused (.badNumber setting text)), plan) := by
  obtain ⟨assign, happly, -⟩ := exists_apply_eq_number numeric plan
  rw [happly, Plan.number, Numeral.optionValue?_eq_none nothing]

end Numbers

/-! ## Other options -/

/-- What a setting is given that is no number. -/
def Setting.given? (text : String) : Setting → Option Datum
  | .destination => some (.text text)
  | .group => some (.text text)
  | .blocking => some (.flag false)
  | _ => none

theorem apply_of_given {setting : Setting} {text : String} {datum : Datum}
    (given : setting.given? text = some datum) (plan : Plan) :
    ∃ after, plan.apply { key := setting, value := text } = (.ok (), after) ∧
      plan.Sets setting datum after := by
  cases setting with
  | destination | group | blocking =>
    cases given
    refine ⟨_, rfl, rfl, fun other hother => ?_⟩
    cases other <;> first | rfl | exact absurd rfl hother
  | _ => cases given

/-- What an option does.  It gives its setting a datum, which is a number that the setting can be
given if it wants one; or it is a call for help, or a text that is taken for no number. -/
theorem apply_cases (plan : Plan) (option : Occurrence Setting) :
    (∃ datum after, plan.apply option = (.ok (), after) ∧ plan.Sets option.key datum after ∧
      ∀ maximum, option.key.maximum? = some maximum →
        ∃ number ≤ maximum.toNat, datum = .number number) ∨
    plan.apply option = (.error .helpRequested, plan) ∨
    plan.apply option = (.error (.refused (.badNumber option.key option.value)), plan) := by
  obtain ⟨setting, text⟩ := option
  cases hmaximum : setting.maximum? with
  | some maximum =>
    by_cases htakes : ∃ number, Numeral.Takes text.toList maximum.toNat number
    · obtain ⟨number, htakes⟩ := htakes
      obtain ⟨after, happly, hsets⟩ := apply_of_takes hmaximum plan htakes
      refine .inl ⟨_, after, happly, hsets, fun other hother => ⟨number, ?_, rfl⟩⟩
      cases hother
      exact htakes.le
    · exact .inr (.inr (apply_of_not_takes hmaximum plan htakes))
  | none =>
    cases hgiven : setting.given? text with
    | some datum =>
      obtain ⟨after, happly, hsets⟩ := apply_of_given hgiven plan
      exact .inl ⟨datum, after, happly, hsets, nofun⟩
    | none =>
      cases setting with
      | help => exact .inr (.inl rfl)
      | destination | group | blocking => cases hgiven
      | _ => cases hmaximum

/-! ## Parsing in steps -/

/-- What becomes of a plan with options that are still to be applied, and how the scan ends. -/
def carryOn (plan : Plan) (found : List (Occurrence Setting)) (ending : CommandLine.ScanEnd) :
    Reception × Plan :=
  match plan.applyAll found with
  | (.error reception, plan) => (reception, plan)
  | (.ok (), plan) => (plan.conclude ending, plan)

theorem parse_eq_carryOn (plan : Plan) (commandLine : List String) : plan.parse commandLine =
    plan.carryOn (CommandLine.scan options commandLine).found
      (CommandLine.scan options commandLine).ending := rfl

/-- Options that were applied are done with. -/
theorem carryOn_append {start plan : Plan} {before : List (Occurrence Setting)}
    (reached : start.applyAll before = (.ok (), plan)) (rest : List (Occurrence Setting))
    (ending : CommandLine.ScanEnd) :
    start.carryOn (before ++ rest) ending = plan.carryOn rest ending := by
  induction before generalizing start with
  | nil =>
    cases reached
    rfl
  | cons option before ih =>
    rw [applyAll] at reached
    rw [List.cons_append, carryOn, applyAll]
    cases happly : start.apply option with
    | mk result next =>
      rw [happly] at reached
      cases result with
      | ok => exact ih reached
      | error reception => cases reached

theorem carryOn_cons {plan after : Plan} {option : Occurrence Setting}
    (applied : plan.apply option = (.ok (), after)) (rest : List (Occurrence Setting))
    (ending : CommandLine.ScanEnd) :
    plan.carryOn (option :: rest) ending = after.carryOn rest ending := by
  rw [carryOn, applyAll, applied]
  rfl

theorem carryOn_cons_of_error {plan after : Plan} {option : Occurrence Setting}
    {reception : Reception} (ended : plan.apply option = (.error reception, after))
    (rest : List (Occurrence Setting)) (ending : CommandLine.ScanEnd) :
    plan.carryOn (option :: rest) ending = (reception, after) := by
  rw [carryOn, applyAll, ended]

end Plan
end BrokerLoad
