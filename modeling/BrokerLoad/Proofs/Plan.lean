import BrokerLoad.Plan
import Mathlib.Algebra.Order.Ring.Nat

/-!
# Plans that are accepted

A command line is accepted only at the end of `Plan.parse`, where the plan as a whole is
checked: no option has an acceptance to give.  What the check makes sure of is
`Plan.IsValid`; above all the number of messages of the run is a word, so the product that
`Plan.expected` is does not go round (`Plan.IsValid.expected_eq`).
-/

namespace BrokerLoad
namespace Plan

/-- A plan that can be carried out. -/
structure IsValid (plan : Plan) : Prop where
  destination : plan.destination ≠ ""
  group : plan.group ≠ ""
  publishers : plan.publishers ≠ 0
  consumers : plan.consumers ≠ 0
  messages : plan.messages ≠ 0
  /-- The messages of the run can be counted. -/
  few : plan.publishers.toNat * plan.messages.toNat < 2 ^ 64

theorem isValid_of_check {plan : Plan} (accepted : plan.check = .accepted) : plan.IsValid := by
  rw [check] at accepted
  repeat' split at accepted
  all_goals try cases accepted
  next hdestination hgroup hpublishers hconsumers hmessages hmany =>
    refine ⟨hdestination, hgroup, hpublishers, hconsumers, hmessages, ?_⟩
    rw [UInt64.not_lt, UInt64.le_iff_toNat_le, UInt64.toNat_div] at hmany
    have hpositive : 0 < plan.publishers.toNat :=
      Nat.pos_of_ne_zero fun hzero => hpublishers (UInt64.toNat_inj.1 hzero)
    have hproduct := (Nat.le_div_iff_mul_le hpositive).1 hmany
    rw [Nat.mul_comm] at hproduct
    exact Nat.lt_of_le_of_lt hproduct (by decide)

/-- An option that ends the parsing does not end it with an acceptance. -/
theorem apply_ne_accepted {plan after : Plan} {option : CommandLine.Occurrence Setting} :
    plan.apply option ≠ (.error .accepted, after) := by
  intro h
  rw [apply] at h
  cases hkey : option.key <;> simp only [hkey, number] at h <;> (try split at h) <;> cases h

theorem applyAll_ne_accepted {plan after : Plan} {found : List (CommandLine.Occurrence Setting)} :
    plan.applyAll found ≠ (.error .accepted, after) := by
  induction found generalizing plan with
  | nil => exact nofun
  | cons option rest ih =>
    rw [applyAll]
    cases happly : plan.apply option with
    | mk result next =>
      cases result with
      | ok => exact ih
      | error reception =>
        intro h
        cases h
        exact apply_ne_accepted happly

/-- A command line that is accepted, whatever the plan that it was applied to, makes a plan
that can be carried out. -/
theorem isValid_of_parse {start plan : Plan} {commandLine : List String}
    (accepted : start.parse commandLine = (.accepted, plan)) : plan.IsValid := by
  rw [parse] at accepted
  cases hfound : start.applyAll (CommandLine.scan options commandLine).found with
  | mk result after =>
    rw [hfound] at accepted
    cases result with
    | error reception =>
      cases accepted
      exact absurd hfound applyAll_ne_accepted
    | ok =>
      obtain ⟨hreception, rfl⟩ := Prod.mk.inj accepted
      rw [conclude.eq_def] at hreception
      split at hreception
      · cases hreception
      · cases hreception
      · cases hreception
      · exact isValid_of_check hreception

namespace IsValid

variable {plan : Plan} (valid : plan.IsValid)
include valid

/-- The messages of the run are counted without going round. -/
theorem expected_eq : plan.expected.toNat = plan.publishers.toNat * plan.messages.toNat := by
  rw [expected, UInt64.toNat_mul, Nat.mod_eq_of_lt valid.few]

end IsValid
end Plan
end BrokerLoad
