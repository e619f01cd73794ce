import BrokerLoad.Proofs.Plan.Settings

/-!
# The numbers that settings are given

A setting that is a number is given a text, anywhere on a command line and in any spelling.  The
text is taken for a number that is not too large for the setting, and the plan then has that number
and is otherwise as it was; or the command line is refused there, and the plan stays as it was
(`Plan.numbers_read`).

A text without a minus sign is taken for what it denotes: blank space, a plus sign or none, and
digits with nothing after them.  A minus sign is refused at the beginning of a text, but not behind
blank space, where the number is taken for the word that adds up to 0 with it
(`Plan.negative_accepted`).
-/

namespace BrokerLoad
namespace Plan

open CommandLine (Occurrence scan)
open Numeral (Denotes Takes)

/-- What is parsed when a scan has come to the text for a setting. -/
structure ReadsNumber (start plan : Plan) (commandLine : List String) (setting : Setting)
    (text : String) (maximum : Nat) (rest : List (Occurrence Setting)) : Prop where
  /-- A text that is taken for a number sets the setting to it, and the parsing goes on. -/
  taken : ∀ number, Takes text.toList maximum number →
    ∃ after, plan.Sets setting (.number number) after ∧
      start.parse commandLine = after.carryOn rest (scan options commandLine).ending
  /-- Any other text ends the parsing, and the plan is as it was. -/
  refused : (¬ ∃ number, Takes text.toList maximum number) →
    start.parse commandLine = (.refused (.badNumber setting text), plan)
  /-- Without a minus sign the number is the one that the text denotes. -/
  plain : '-' ∉ text.toList → ∀ number,
    Takes text.toList maximum number ↔ Denotes text.toList number ∧ number ≤ maximum
  /-- With a minus sign it denotes none. -/
  signed : '-' ∈ text.toList → ∀ number, ¬ Denotes text.toList number

/-- A setting is given a text: the options before it have been applied. -/
theorem numbers_read {start plan : Plan} {commandLine : List String}
    {before rest : List (Occurrence Setting)} {setting : Setting} {maximum : UInt64}
    {text : String} (numeric : setting.maximum? = some maximum)
    (found : (scan options commandLine).found = before ++ { key := setting, value := text } :: rest)
    (reached : start.applyAll before = (.ok (), plan)) :
    ReadsNumber start plan commandLine setting text maximum.toNat rest where
  taken number takes := by
    obtain ⟨after, happly, hsets⟩ := apply_of_takes numeric plan takes
    refine ⟨after, hsets, ?_⟩
    rw [parse_eq_carryOn, found, carryOn_append reached, carryOn_cons happly]
  refused nothing := by
    have happly := apply_of_not_takes numeric plan nothing
    rw [parse_eq_carryOn, found, carryOn_append reached, carryOn_cons_of_error happly]
  plain hplain number := Numeral.takes_iff_of_notMem hplain
  signed hminus number denotes := denotes.notMem hminus

/-- A number with a plus sign is given, after another option and before one. -/
theorem numbers_read_plus_sign :
    let commandLine := ["demo", "-d", "/orders", "--pub= +12", "-g", "billing"]
    let plan : Plan := { destination := "/orders" }
    (scan options commandLine).found = [⟨.destination, "/orders"⟩] ++
        ⟨.publishers, " +12"⟩ :: [⟨.group, "billing"⟩] ∧
      ∃ after, plan.Sets .publishers (.number 12) after ∧
        ({} : Plan).parse commandLine = after.carryOn [⟨.group, "billing"⟩] (.operands []) := by
  intro commandLine plan
  have hfound : (scan options commandLine).found = [⟨.destination, "/orders"⟩] ++
      ⟨.publishers, " +12"⟩ :: [⟨.group, "billing"⟩] := by decide +kernel
  have hending : (scan options commandLine).ending = .operands [] := by decide +kernel
  have hwritten : Numeral.IsWritten " +12".toList [' '] ['+'] ['1', '2'] :=
    ⟨by decide, List.all_eq_true.1 rfl, List.all_eq_true.1 rfl, List.cons_ne_nil _ _⟩
  have htakes : Takes " +12".toList maxUInt32.toNat 12 :=
    ⟨by decide, .inl ⟨_, _, _, hwritten, .inr rfl, rfl⟩⟩
  have hreads : ReadsNumber {} plan commandLine .publishers " +12" maxUInt32.toNat
      [⟨.group, "billing"⟩] := numbers_read rfl hfound rfl
  obtain ⟨after, hsets, hparse⟩ := hreads.taken 12 htakes
  exact ⟨hfound, after, hsets, hending ▸ hparse⟩

/-- Minus one denotes no number, and is accepted behind a space as the largest word. -/
theorem negative_accepted :
    ({} : Plan).parse ["demo", "-n", " -1"] = (.accepted, { messages := 0xFFFFFFFFFFFFFFFF }) ∧
      '-' ∈ " -1".toList ∧ ¬ ∃ number, Denotes " -1".toList number := by
  have hminus : '-' ∈ " -1".toList := by decide
  exact ⟨by decide +kernel, hminus, fun ⟨_, hdenotes⟩ => hdenotes.notMem hminus⟩

end Plan
end BrokerLoad
