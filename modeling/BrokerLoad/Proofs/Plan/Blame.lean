import BrokerLoad.Proofs.CommandLine.Reading
import BrokerLoad.Proofs.Plan.LastWord

/-!
# Who is blamed for a rejection

A command line is rejected for an argument of its own: for the first operand, for an argument whose
option is not known or takes no value, or for an option at the end that lacks its value
(`Plan.Rejects`).  The complaint is that argument, with one exception (`Plan.blames`).  If there is
more of a cluster behind the unknown letter, or behind the first byte of it, then the complaint is
what was passed before: the last operand, or else the argument before, or else the name of the
program (`Plan.blames_program`).
-/

namespace BrokerLoad
namespace Plan

open CommandLine (Occurrence Reads Offends Wants Stop exists_stop scan)

/-- What is wrong with an argument that a command line is rejected for. -/
inductive Fault where
  /-- It is no option. -/
  | operand
  /-- Its option is not known, or not with a value. -/
  | unknown
  /-- A letter of it is not known, and there is more of it; what was passed before is something
  else. -/
  | unfinished (passed : String)
  /-- Its option lacks a value. -/
  | missing
  deriving DecidableEq

namespace Fault

def verdict : Fault → Verdict
  | .missing => .missingValue
  | _ => .unknownOption

/-- What the complaint is about an argument that is at fault. -/
def complaint (culprit : String) : Fault → String
  | .unfinished passed => passed
  | _ => culprit

end Fault

/-- An argument that a command line is rejected for.  The command line was read up to there, and
the options that were found could be applied. -/
inductive Rejects (start : Plan) : List String → String → Fault → Prop
  /-- All is read, and there is an operand.  It is the first of them. -/
  | operand {program culprit : String} {arguments others : List String}
      {found : List (Occurrence Setting)} {after : Plan}
      (reads : Reads options arguments found (culprit :: others))
      (applied : start.applyAll found = (.ok (), after)) :
      Rejects start (program :: arguments) culprit .operand
  /-- Behind two dashes there are operands only. -/
  | operandBehind {program culprit : String} {before behind operands others : List String}
      {found : List (Occurrence Setting)} {after : Plan}
      (reads : Reads options before found operands)
      (first : operands ++ behind = culprit :: others)
      (applied : start.applyAll found = (.ok (), after)) :
      Rejects start (program :: (before ++ "--" :: behind)) culprit .operand
  | unknown {program culprit : String} {before behind operands : List String}
      {found more : List (Occurrence Setting)} {after : Plan}
      (reads : Reads options before found operands) (offends : Offends options culprit more false)
      (applied : start.applyAll (found ++ more) = (.ok (), after)) :
      Rejects start (program :: (before ++ culprit :: behind)) culprit .unknown
  | unfinished {program culprit : String} {before behind operands : List String}
      {found more : List (Occurrence Setting)} {after : Plan}
      (reads : Reads options before found operands) (offends : Offends options culprit more true)
      (applied : start.applyAll (found ++ more) = (.ok (), after)) :
      Rejects start (program :: (before ++ culprit :: behind)) culprit
        (.unfinished (operands.getLast?.getD (before.getLast?.getD program)))
  | missing {program culprit : String} {before operands : List String}
      {found more : List (Occurrence Setting)} {setting : Setting} {after : Plan}
      (reads : Reads options before found operands) (wants : Wants options culprit more setting)
      (applied : start.applyAll (found ++ more) = (.ok (), after)) :
      Rejects start (program :: (before ++ [culprit])) culprit .missing

/-- There is more than one option. -/
theorem length_options_ne_one : options.length ≠ 1 := by decide

/-! ## What becomes of a scan -/

theorem parse_of_scan {start after : Plan} {commandLine : List String}
    {found : List (Occurrence Setting)} {ending : CommandLine.ScanEnd}
    (scans : scan options commandLine = ⟨found, ending⟩)
    (applied : start.applyAll found = (.ok (), after)) :
    start.parse commandLine = (after.conclude ending, after) := by
  rw [parse_eq_carryOn, scans, carryOn, applied]

/-- Whether a command line is rejected for one of its arguments. -/
def IsRejected (start : Plan) (commandLine : List String) : Prop :=
  (start.parse commandLine).1.verdict = .unknownOption ∨
    (start.parse commandLine).1.verdict = .missingValue

/-- It is not for what becomes of an option, nor for what becomes of the plan. -/
theorem IsRejected.applied {start : Plan} {commandLine : List String}
    {found : List (Occurrence Setting)} {ending : CommandLine.ScanEnd}
    (rejected : start.IsRejected commandLine) (scans : scan options commandLine = ⟨found, ending⟩) :
    ending ≠ .operands [] ∧ ∃ after, start.applyAll found = (.ok (), after) := by
  rw [IsRejected, parse_eq_carryOn, scans, carryOn] at rejected
  cases happly : start.applyAll found with
  | mk result after =>
    rw [happly] at rejected
    cases result with
    | error reception =>
      rcases applyAll_of_error happly with rfl | ⟨setting, text, rfl⟩
      · simp [Reception.verdict] at rejected
      · simp [Reception.verdict] at rejected
    | ok =>
      refine ⟨?_, after, rfl⟩
      rintro rfl
      have hchecked : after.check.verdict = .unknownOption ∨ after.check.verdict = .missingValue :=
        rejected
      rcases after.check_cases with haccepted | hinvalid
      · simp [haccepted, Reception.verdict] at hchecked
      · simp [hinvalid] at hchecked

/-- A rejected command line has a culprit. -/
theorem IsRejected.exists_culprit {start : Plan} {commandLine : List String}
    (rejected : start.IsRejected commandLine) :
    ∃ culprit fault, Rejects start commandLine culprit fault := by
  cases commandLine with
  | nil => exact absurd rfl (rejected.applied rfl).1
  | cons program arguments =>
    obtain ⟨before, behind, found, operands, rfl, hreads, hstop⟩ := exists_stop options arguments
    cases hstop with
    | finished =>
      rw [List.append_nil] at rejected ⊢
      obtain ⟨hsome, after, happlied⟩ :=
        rejected.applied (hreads.scan_of_finished isTable_options program)
      cases operands with
      | nil => exact absurd rfl hsome
      | cons culprit others => exact ⟨culprit, _, .operand hreads happlied⟩
    | terminator behind =>
      obtain ⟨hsome, after, happlied⟩ :=
        rejected.applied (hreads.scan_of_terminator isTable_options program behind)
      cases hoperands : operands ++ behind with
      | nil => exact absurd (congrArg _ hoperands) hsome
      | cons culprit others => exact ⟨culprit, _, .operandBehind hreads hoperands happlied⟩
    | @offends culprit more unfinished behind hoffends =>
      obtain ⟨-, after, happlied⟩ := rejected.applied
        (hreads.scan_of_offends isTable_options length_options_ne_one hoffends program behind)
      cases unfinished with
      | false => exact ⟨culprit, _, .unknown hreads hoffends happlied⟩
      | true => exact ⟨culprit, _, .unfinished hreads hoffends happlied⟩
    | @wants culprit more setting hwants =>
      obtain ⟨-, after, happlied⟩ :=
        rejected.applied (hreads.scan_of_wants isTable_options hwants program)
      exact ⟨culprit, _, .missing hreads hwants happlied⟩

/-- How a scan ends at a culprit. -/
def Fault.Ends (culprit : String) : Fault → CommandLine.ScanEnd → Prop
  | .operand, ending => ∃ others, ending = .operands (culprit :: others)
  | .unknown, ending => ending = .unknownOption culprit
  | .unfinished passed, ending => ending = .unknownOption passed
  | .missing, ending => ending = .missingValue culprit

/-- The scan ends at the culprit, and nothing that was found before is the end of it. -/
theorem Rejects.scan {start : Plan} {commandLine : List String} {culprit : String} {fault : Fault}
    (rejects : Rejects start commandLine culprit fault) :
    ∃ found ending after, CommandLine.scan options commandLine = ⟨found, ending⟩ ∧
      fault.Ends culprit ending ∧ start.applyAll found = (.ok (), after) := by
  cases rejects with
  | operand reads applied =>
    exact ⟨_, _, _, reads.scan_of_finished isTable_options _, ⟨_, rfl⟩, applied⟩
  | operandBehind reads first applied =>
    exact ⟨_, _, _, reads.scan_of_terminator isTable_options _ _,
      ⟨_, congrArg CommandLine.ScanEnd.operands first⟩, applied⟩
  | unknown reads offends applied =>
    exact ⟨_, _, _, reads.scan_of_offends isTable_options length_options_ne_one offends _ _, rfl,
      applied⟩
  | unfinished reads offends applied =>
    exact ⟨_, _, _, reads.scan_of_offends isTable_options length_options_ne_one offends _ _, rfl,
      applied⟩
  | missing reads wants applied =>
    exact ⟨_, _, _, reads.scan_of_wants isTable_options wants _, rfl, applied⟩

/-- What is wrong with the culprit tells the verdict, and the complaint. -/
theorem Rejects.parse {start : Plan} {commandLine : List String} {culprit : String} {fault : Fault}
    (rejects : Rejects start commandLine culprit fault) :
    (start.parse commandLine).1.verdict = fault.verdict ∧
      (start.parse commandLine).1.complaint = fault.complaint culprit := by
  obtain ⟨found, ending, after, hscan, hends, happlied⟩ := rejects.scan
  rw [parse_of_scan hscan happlied]
  cases fault with
  | operand =>
    obtain ⟨others, rfl⟩ := hends
    exact ⟨rfl, rfl⟩
  | _ =>
    obtain rfl := hends
    exact ⟨rfl, rfl⟩

/-! ## The one culprit -/

/-- Where a command line offends, there is its culprit. -/
theorem Rejects.eq_of_offends {start : Plan} {commandLine : List String} {program culprit : String}
    {culprit' : String} {fault : Fault} {before behind operands : List String}
    {found more : List (Occurrence Setting)} {unfinished : Bool}
    (rejects : Rejects start commandLine culprit' fault)
    (line : commandLine = program :: (before ++ culprit :: behind))
    (reads : Reads options before found operands)
    (offends : Offends options culprit more unfinished) :
    culprit' = culprit ∧ fault = if unfinished then
      .unfinished (operands.getLast?.getD (before.getLast?.getD program)) else .unknown := by
  obtain ⟨_, ending, _, hscan, hends, -⟩ := rejects.scan
  rw [line, reads.scan_of_offends isTable_options length_options_ne_one offends] at hscan
  obtain rfl := congrArg CommandLine.Scan.ending hscan
  cases rejects with
  | operand => cases hends.choose_spec
  | operandBehind => cases hends.choose_spec
  | unknown reads' offends' applied =>
    obtain ⟨-, hsame⟩ := List.cons.inj line
    obtain ⟨-, rfl, rfl⟩ := Offends.place_unique isTable_options length_options_ne_one
      reads' offends' reads offends hsame
    exact ⟨rfl, rfl⟩
  | unfinished reads' offends' applied =>
    obtain ⟨-, hsame⟩ := List.cons.inj line
    obtain ⟨-, rfl, rfl⟩ := Offends.place_unique isTable_options length_options_ne_one
      reads' offends' reads offends hsame
    exact ⟨rfl, congrArg Fault.unfinished (CommandLine.ScanEnd.unknownOption.inj hends).symm⟩
  | missing => cases hends

/-- There is but one culprit, and one thing is wrong with it. -/
theorem Rejects.unique {start : Plan} {commandLine : List String} {culprit culprit' : String}
    {fault fault' : Fault} (one : Rejects start commandLine culprit fault)
    (other : Rejects start commandLine culprit' fault') : culprit = culprit' ∧ fault = fault' := by
  obtain ⟨_, ending, _, hscan, hends, -⟩ := one.scan
  obtain ⟨_, ending', _, hscan', hends', -⟩ := other.scan
  obtain rfl := congrArg CommandLine.Scan.ending (hscan.symm.trans hscan')
  cases fault with
  | operand =>
    obtain ⟨others, rfl⟩ := hends
    cases fault' with
    | operand =>
      obtain ⟨others', hsame⟩ := hends'
      obtain ⟨rfl, -⟩ := List.cons.inj (CommandLine.ScanEnd.operands.inj hsame)
      exact ⟨rfl, rfl⟩
    | _ => cases hends'
  | missing =>
    obtain rfl := hends
    cases fault' with
    | missing => exact ⟨CommandLine.ScanEnd.missingValue.inj hends', rfl⟩
    | operand => cases hends'.choose_spec
    | _ => cases hends'
  | unknown =>
    cases one with
    | unknown reads offends applied =>
      obtain ⟨rfl, rfl⟩ := other.eq_of_offends rfl reads offends
      exact ⟨rfl, rfl⟩
  | unfinished =>
    cases one with
    | unfinished reads offends applied =>
      obtain ⟨rfl, rfl⟩ := other.eq_of_offends rfl reads offends
      exact ⟨rfl, rfl⟩

/-- Whom a command line blames that is rejected for one of its arguments. -/
structure Blames (start : Plan) (commandLine : List String) : Prop where
  /-- There is a culprit if it is rejected, and only then. -/
  rejected : start.IsRejected commandLine ↔ ∃ culprit fault, Rejects start commandLine culprit fault
  /-- There is but one. -/
  unique : ∀ culprit culprit' fault fault', Rejects start commandLine culprit fault →
    Rejects start commandLine culprit' fault' → culprit = culprit' ∧ fault = fault'
  /-- What is wrong with the culprit tells the verdict. -/
  verdict : ∀ culprit fault, Rejects start commandLine culprit fault →
    (start.parse commandLine).1.verdict = fault.verdict
  /-- The complaint is the culprit. -/
  culprit : ∀ culprit fault, Rejects start commandLine culprit fault →
    (∀ passed, fault ≠ .unfinished passed) → (start.parse commandLine).1.complaint = culprit
  /-- Or it is what was passed before, if there is more of a cluster. -/
  passed : ∀ culprit passed, Rejects start commandLine culprit (.unfinished passed) →
    (start.parse commandLine).1.complaint = passed

theorem blames (start : Plan) (commandLine : List String) : Blames start commandLine where
  rejected := by
    refine ⟨IsRejected.exists_culprit, fun ⟨culprit, fault, hrejects⟩ => ?_⟩
    rw [IsRejected, hrejects.parse.1]
    cases fault with
    | missing => exact .inr rfl
    | _ => exact .inl rfl
  unique _ _ _ _ one other := one.unique other
  verdict _ _ hrejects := hrejects.parse.1
  culprit _ fault hrejects hfinished := by
    rw [hrejects.parse.2]
    cases fault with
    | unfinished passed => exact absurd rfl (hfinished passed)
    | _ => rfl
  passed _ _ hrejects := hrejects.parse.2

/-- The letter behind the unknown one has the name of the program blamed. -/
theorem blames_program :
    Rejects {} ["prog", "-xh"] "-xh" (.unfinished "prog") ∧
      ({} : Plan).parse ["prog", "-xh"] = (.refused (.unknownOption "prog"), {}) := by
  refine ⟨?_, by decide +kernel⟩
  have hunknown : ∀ spec ∈ options, spec.letter ≠ some 'x' := by decide
  exact .unfinished .nil (.letter ['h'] .nil hunknown fun _ => by decide) rfl

end Plan
end BrokerLoad
