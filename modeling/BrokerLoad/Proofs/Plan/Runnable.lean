import BrokerLoad.Proofs.Plan.Settings

/-!
# Plans that a run can be made of

One plan goes through any number of command lines, one after another.  Those that are refused leave
what they had set, so a plan may be anything that options can make of it; its numbers are always
such that options can give them (`Plan.IsInRange`).  A command line that is accepted leaves a plan
that is also valid as a whole, and its messages are counted exactly (`Plan.IsRunnable`).

The check for too many messages is a division.  It says the same as the exact product
(`Plan.lt_messages_iff`), and there is a divisor whenever it is made
(`Plan.checkDividing_eq`).
-/

namespace BrokerLoad
namespace Plan

open CommandLine (Occurrence scan)

/-! ## The check -/

/-- The division tells whether the messages of a run are too many for a word. -/
theorem lt_messages_iff {plan : Plan} (some : plan.publishers ≠ 0) :
    maxUInt64 / plan.publishers < plan.messages ↔
      2 ^ 64 ≤ plan.publishers.toNat * plan.messages.toNat := by
  have hpositive : 0 < plan.publishers.toNat :=
    Nat.pos_of_ne_zero fun hzero => some (UInt64.toNat_inj.1 hzero)
  have hmaximum : maxUInt64.toNat = 2 ^ 64 - 1 := by decide
  rw [UInt64.lt_iff_toNat_lt, UInt64.toNat_div, Nat.div_lt_iff_lt_mul hpositive, hmaximum,
    Nat.mul_comm]
  omega

/-- The check accepts plans that are valid, and no others. -/
theorem check_eq_accepted_iff {plan : Plan} : plan.check = .accepted ↔ plan.IsValid := by
  refine ⟨isValid_of_check, fun valid => ?_⟩
  have hfew : ¬ maxUInt64 / plan.publishers < plan.messages := by
    rw [lt_messages_iff valid.publishers]
    exact Nat.not_le.2 valid.few
  rw [check, if_neg valid.destination, if_neg valid.group, if_neg valid.publishers,
    if_neg valid.consumers, if_neg valid.messages, if_neg hfew]

/-- What the check refuses has a value that cannot be. -/
theorem check_cases (plan : Plan) :
    plan.check = .accepted ∨ plan.check.verdict = .invalidValue := by
  rw [check]
  split
  · exact .inr rfl
  split
  · exact .inr rfl
  split
  · exact .inr rfl
  split
  · exact .inr rfl
  split
  · exact .inr rfl
  split
  · exact .inr rfl
  · exact .inl rfl

/-- Too many messages do not fit into a word. -/
theorem le_of_check {plan : Plan} (many : plan.check = .refused .tooManyMessages) :
    2 ^ 64 ≤ plan.publishers.toNat * plan.messages.toNat := by
  rw [check] at many
  repeat' split at many
  all_goals try cases many
  next hpublishers _ _ hmany => exact (lt_messages_iff hpublishers).1 hmany

/-- Division that has no value at 0. -/
def divide? (dividend divisor : UInt64) : Option UInt64 :=
  if divisor = 0 then none else some (dividend / divisor)

/-- The check, if it has a value by such a division. -/
def checkDividing (plan : Plan) : Option Reception :=
  if plan.destination = "" then some (.refused .noDestination)
  else if plan.group = "" then some (.refused .noGroup)
  else if plan.publishers = 0 then some (.refused .noPublishers)
  else if plan.consumers = 0 then some (.refused .noConsumers)
  else if plan.messages = 0 then some (.refused .noMessages)
  else (divide? maxUInt64 plan.publishers).map fun most =>
    if most < plan.messages then .refused .tooManyMessages else .accepted

/-- Nothing is ever divided by 0. -/
theorem checkDividing_eq (plan : Plan) : plan.checkDividing = some plan.check := by
  rw [checkDividing, check]
  split
  · rfl
  split
  · rfl
  split
  · rfl
  next hpublishers =>
  split
  · rfl
  split
  · rfl
  · rw [divide?, if_neg hpublishers, Option.map_some]

/-! ## What options can make of a plan -/

/-- Every number of a plan is one that its setting can be given. -/
structure IsInRange (plan : Plan) : Prop where
  le : ∀ {setting : Setting} {maximum : UInt64} {number : Nat}, setting.maximum? = some maximum →
    plan.datum? setting = some (.number number) → number ≤ maximum.toNat

theorem isInRange_default : IsInRange {} := by
  refine ⟨fun {setting maximum number} hmaximum hnumber => ?_⟩
  cases setting <;> cases hmaximum <;> cases hnumber <;> decide

theorem IsInRange.sets {plan after : Plan} (inRange : plan.IsInRange) {setting : Setting}
    {datum : Datum} (sets : plan.Sets setting datum after)
    (fits : ∀ maximum, setting.maximum? = some maximum →
      ∃ number ≤ maximum.toNat, datum = .number number) : after.IsInRange := by
  refine ⟨fun {other maximum number} hmaximum hnumber => ?_⟩
  by_cases hsame : other = setting
  · subst hsame
    obtain ⟨given, hle, rfl⟩ := fits maximum hmaximum
    cases sets.set.symm.trans hnumber
    exact hle
  · rw [sets.others other hsame] at hnumber
    exact inRange.le hmaximum hnumber

/-- However far options are applied, the numbers are in range. -/
theorem IsInRange.applyAll {plan : Plan} (inRange : plan.IsInRange)
    (found : List (Occurrence Setting)) : (plan.applyAll found).2.IsInRange := by
  induction found generalizing plan with
  | nil => exact inRange
  | cons option rest ih =>
    rcases plan.apply_cases option with ⟨datum, after, happly, hsets, hfits⟩ | happly | happly
    · rw [Plan.applyAll, happly]
      exact ih (inRange.sets hsets hfits)
    · rw [Plan.applyAll, happly]
      exact inRange
    · rw [Plan.applyAll, happly]
      exact inRange

theorem IsInRange.parse {plan : Plan} (inRange : plan.IsInRange) (commandLine : List String) :
    (plan.parse commandLine).2.IsInRange := by
  have hafter := inRange.applyAll (scan options commandLine).found
  rw [Plan.parse]
  cases happly : plan.applyAll (scan options commandLine).found with
  | mk result after =>
    rw [happly] at hafter
    cases result <;> exact hafter

/-! ## Command lines, one after another -/

/-- A plan after several command lines, whatever became of each. -/
def parseAll (plan : Plan) (history : List (List String)) : Plan :=
  history.foldl (fun plan commandLine => (plan.parse commandLine).2) plan

theorem IsInRange.parseAll {plan : Plan} (inRange : plan.IsInRange)
    (history : List (List String)) : (plan.parseAll history).IsInRange := by
  induction history generalizing plan with
  | nil => exact inRange
  | cons commandLine rest ih => exact ih (inRange.parse commandLine)

/-- A plan that a run can be made of. -/
structure IsRunnable (plan : Plan) : Prop where
  valid : plan.IsValid
  inRange : plan.IsInRange
  /-- The messages of the run are counted without going round. -/
  counted : plan.expected.toNat = plan.publishers.toNat * plan.messages.toNat

/-- Options end the parsing with a call for help, or with a text that is taken for no number. -/
theorem applyAll_of_error {plan after : Plan} {found : List (Occurrence Setting)}
    {reception : Reception} (ended : plan.applyAll found = (.error reception, after)) :
    reception = .helpRequested ∨
      ∃ setting text, reception = .refused (.badNumber setting text) := by
  induction found generalizing plan with
  | nil => cases ended
  | cons option rest ih =>
    rw [Plan.applyAll] at ended
    rcases plan.apply_cases option with ⟨datum, next, happly, -, -⟩ | happly | happly
    · rw [happly] at ended
      exact ih ended
    · rw [happly] at ended
      cases ended
      exact .inl rfl
    · rw [happly] at ended
      cases ended
      exact .inr ⟨_, _, rfl⟩

/-- Only the check says that there are too many messages. -/
theorem le_of_parse {start : Plan} {commandLine : List String}
    (many : (start.parse commandLine).1 = .refused .tooManyMessages) :
    2 ^ 64 ≤ (start.parse commandLine).2.publishers.toNat *
      (start.parse commandLine).2.messages.toNat := by
  rw [Plan.parse] at many ⊢
  cases happly : start.applyAll (scan options commandLine).found with
  | mk result after =>
    rw [happly] at many
    cases result with
    | error reception =>
      rcases applyAll_of_error happly with rfl | ⟨setting, text, rfl⟩
      · cases many
      · cases many
    | ok =>
      dsimp only at many
      rw [conclude.eq_def] at many
      split at many
      · cases many
      · cases many
      · cases many
      · exact le_of_check many

/-- A plan goes through command lines, and then through one more. -/
structure ParsesSafely (plan : Plan) (commandLine : List String) : Prop where
  /-- Accepted, it can be carried out. -/
  runnable : (plan.parse commandLine).1 = .accepted → (plan.parse commandLine).2.IsRunnable
  /-- A run whose messages can be counted is not refused for their number. -/
  few : (plan.parse commandLine).2.publishers.toNat * (plan.parse commandLine).2.messages.toNat <
    2 ^ 64 → (plan.parse commandLine).1 ≠ .refused .tooManyMessages
  /-- The check does not divide by 0. -/
  divides : (plan.parse commandLine).2.checkDividing = some (plan.parse commandLine).2.check

/-- However many command lines there were before, and whatever became of them. -/
theorem parses_safely (history : List (List String)) (commandLine : List String) :
    ParsesSafely (parseAll {} history) commandLine where
  runnable haccepted := by
    have hvalid := isValid_of_parse (Prod.ext haccepted rfl)
    exact ⟨hvalid, (isInRange_default.parseAll history).parse commandLine, hvalid.expected_eq⟩
  few hfew hmany := Nat.not_le.2 hfew (le_of_parse hmany)
  divides := checkDividing_eq _

/-- As many messages as can be counted are accepted, one more for each producer is not.  The number
of producers was left by a command line that was refused. -/
example :
    let plan := parseAll {} [["demo", "-p", "4294967295", "-n", "many"]]
    (plan.parse ["demo", "-n", "4294967297"]).1 = .accepted ∧
      (plan.parse ["demo", "-n", "4294967298"]).1 = .refused .tooManyMessages := by
  decide +kernel

end Plan
end BrokerLoad
