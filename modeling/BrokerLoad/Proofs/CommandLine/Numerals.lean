import BrokerLoad.CommandLine.Numeral
import Mathlib.Data.UInt
import Mathlib.Data.List.TakeWhile

/-!
# What numerals denote

A numeral is written as blank space, a sign or none, and at least one digit (`Numeral.IsWritten`).
Without a minus sign it *denotes* a number (`Numeral.Denotes`), and with it the negative of one
(`Numeral.Negates`).

A text has the value of the numeral that it is, if it is one, and only a text whose first character
is a minus sign is refused for its sign.  So a text is taken for the number it denotes if that is
not too large (`Numeral.optionValue?_of_denotes`).  Blank space before it hides a minus sign, and
the text is taken for the word that adds up to 0 with what its digits say
(`Numeral.optionValue?_eq_some_iff`).
-/

namespace BrokerLoad
namespace Numeral

/-! ## Grammar -/

/-- Blank space, a sign or none, and digits, of which there is one at least. -/
structure IsWritten (text blanks sign digits : List Char) : Prop where
  eq : text = blanks ++ (sign ++ digits)
  areBlank : ∀ c ∈ blanks, isBlank c = true
  areDigits : ∀ c ∈ digits, c.isDigit = true
  nonempty : digits ≠ []

/-- A text with a plus sign or none denotes the number of its digits. -/
def Denotes (text : List Char) (number : Nat) : Prop :=
  ∃ blanks sign digits, IsWritten text blanks sign digits ∧ (sign = [] ∨ sign = ['+']) ∧
    Nat.ofDigitChars 10 digits 0 = number

/-- A text with a minus sign denotes the negative of that number. -/
def Negates (text : List Char) (number : Nat) : Prop :=
  ∃ blanks digits, IsWritten text blanks ['-'] digits ∧ Nat.ofDigitChars 10 digits 0 = number

/-- A number is denoted by its decimal digits. -/
theorem denotes_repr (number : Nat) : Denotes number.repr.toList number :=
  ⟨[], [], Nat.toDigits 10 number, ⟨Nat.toList_repr, nofun,
    fun _ => Nat.isDigit_of_mem_toDigits (by decide) (by decide), Nat.toDigits_ne_nil⟩, .inl rfl,
    Nat.ofDigitChars_toDigits (by decide) (by decide)⟩

/-! ## Characters -/

theorem isBlank_of_isDigit {c : Char} (digit : c.isDigit = true) : isBlank c = false := by
  have hlow : 48 ≤ c.toNat := by
    simp only [Char.isDigit, Bool.and_eq_true, decide_eq_true_eq, ge_iff_le,
      UInt32.le_iff_toNat_le] at digit
    exact digit.1
  have hspace : c ≠ ' ' := by
    rintro rfl
    cases digit
  simp only [isBlank, hspace, decide_false, Bool.false_or, Bool.and_eq_false_iff,
    decide_eq_false_iff_not]
  omega

/-- A digit is none of the other characters. -/
theorem ne_of_isDigit {c other : Char} (digit : c.isDigit = true) (mark : other.isDigit = false) :
    c ≠ other := by
  rintro rfl
  exact Bool.false_ne_true (mark.symm.trans digit)

/-! ## Values of numerals -/

/-- Nothing but digits, and not too many, have the value that they denote. -/
theorem unsigned_of_digits {digits : List Char} (areDigits : ∀ c ∈ digits, c.isDigit = true)
    (nonempty : digits ≠ []) : unsigned digits =
      if Nat.ofDigitChars 10 digits 0 < 2 ^ 64 then
        some (UInt64.ofNat (Nat.ofDigitChars 10 digits 0))
      else none := by
  rw [unsigned]
  refine if_congr ?_ rfl rfl
  exact ⟨fun h => h.2.2, fun h => ⟨nonempty, List.all_eq_true.2 areDigits, h⟩⟩

/-- Without a sign there are only digits. -/
theorem signed_of_digits {digits : List Char} (areDigits : ∀ c ∈ digits, c.isDigit = true) :
    signed digits = unsigned digits := by
  rw [signed.eq_def]
  split
  next rest => exact absurd rfl (ne_of_isDigit (areDigits '+' List.mem_cons_self) rfl)
  next rest => exact absurd rfl (ne_of_isDigit (areDigits '-' List.mem_cons_self) rfl)
  next => rfl

/-- Blank space does not count. -/
theorem IsWritten.value?_eq {text blanks sign digits : List Char}
    (written : IsWritten text blanks sign digits) (mark : ∀ c ∈ sign.head?, isBlank c = false) :
    value? text = signed (sign ++ digits) := by
  rw [value?, written.eq, List.dropWhile_append_of_pos written.areBlank]
  congr 1
  -- What comes next is a sign or a digit.
  cases sign with
  | cons c rest => exact List.dropWhile_cons_of_neg (by simp [mark c rfl])
  | nil =>
    obtain ⟨c, rest, hdigits⟩ := List.exists_cons_of_ne_nil written.nonempty
    have hdigit := written.areDigits c (hdigits ▸ List.mem_cons_self)
    rw [List.nil_append, hdigits]
    exact List.dropWhile_cons_of_neg (by simp [isBlank_of_isDigit hdigit])

theorem value?_of_denotes {text : List Char} {number : Nat} (denotes : Denotes text number) :
    value? text = if number < 2 ^ 64 then some (UInt64.ofNat number) else none := by
  obtain ⟨blanks, sign, digits, hwritten, rfl | rfl, rfl⟩ := denotes
  · rw [hwritten.value?_eq nofun, List.nil_append, signed_of_digits hwritten.areDigits,
      unsigned_of_digits hwritten.areDigits hwritten.nonempty]
  · rw [hwritten.value?_eq (by rintro c ⟨⟩; rfl)]
    exact unsigned_of_digits hwritten.areDigits hwritten.nonempty

theorem value?_of_negates {text : List Char} {number : Nat} (negates : Negates text number) :
    value? text = if number < 2 ^ 64 then some (0 - UInt64.ofNat number) else none := by
  obtain ⟨blanks, digits, hwritten, rfl⟩ := negates
  rw [hwritten.value?_eq (by rintro c ⟨⟩; rfl)]
  show (unsigned digits).map (fun value => 0 - value) = _
  rw [unsigned_of_digits hwritten.areDigits hwritten.nonempty]
  split <;> rfl

/-- Only digits have a value. -/
theorem digits_of_unsigned {digits : List Char} (some : (unsigned digits).isSome = true) :
    (∀ c ∈ digits, c.isDigit = true) ∧ digits ≠ [] := by
  rw [unsigned] at some
  split at some
  next h => exact ⟨List.all_eq_true.1 h.2.1, h.1⟩
  next => cases some

/-- Only numerals have a value. -/
theorem numeral_of_value? {text : List Char} (some : (value? text).isSome = true) :
    (∃ number, Denotes text number) ∨ ∃ number, Negates text number := by
  have hblanks : ∀ c ∈ text.takeWhile isBlank, isBlank c = true := fun c hc =>
    List.mem_takeWhile_imp hc
  have htext := (List.takeWhile_append_dropWhile (p := isBlank) (l := text)).symm
  rw [value?, signed.eq_def] at some
  split at some
  next digits hrest =>
    obtain ⟨hdigits, hnonempty⟩ := digits_of_unsigned some
    rw [hrest] at htext
    have hwritten : IsWritten text _ ['+'] digits := ⟨htext, hblanks, hdigits, hnonempty⟩
    exact .inl ⟨_, _, _, _, hwritten, .inr rfl, rfl⟩
  next digits hrest =>
    obtain ⟨hdigits, hnonempty⟩ := digits_of_unsigned ((Option.isSome_map).symm.trans some)
    rw [hrest] at htext
    have hwritten : IsWritten text _ ['-'] digits := ⟨htext, hblanks, hdigits, hnonempty⟩
    exact .inr ⟨_, _, _, hwritten, rfl⟩
  next =>
    obtain ⟨hdigits, hnonempty⟩ := digits_of_unsigned some
    have hwritten : IsWritten text _ [] (text.dropWhile isBlank) :=
      ⟨htext, hblanks, hdigits, hnonempty⟩
    exact .inl ⟨_, _, _, _, hwritten, .inl rfl, rfl⟩

/-! ## Values of options -/

/-- A text that denotes a number does not begin with a minus sign, nor has one anywhere. -/
theorem Denotes.notMem {text : List Char} {number : Nat} (denotes : Denotes text number) :
    '-' ∉ text := by
  obtain ⟨blanks, sign, digits, hwritten, hsign, -⟩ := denotes
  rw [hwritten.eq, List.mem_append, List.mem_append]
  rintro (hblank | hmem | hdigit)
  · cases hwritten.areBlank '-' hblank
  · rcases hsign with rfl | rfl
    · cases hmem
    · cases List.mem_singleton.1 hmem
  · cases hwritten.areDigits '-' hdigit

theorem Negates.mem {text : List Char} {number : Nat} (negates : Negates text number) :
    '-' ∈ text := by
  obtain ⟨blanks, digits, hwritten, -⟩ := negates
  rw [hwritten.eq]
  simp

/-- A text that begins with a minus sign is refused, and one that does not has the value of its
numeral, unless that is too large. -/
theorem optionValue?_eq_filter (text : String) (maximum : UInt64) :
    optionValue? text maximum =
      if text.toList.head? = some '-' then none
      else (value? text.toList).filter fun value => value ≤ maximum := by
  rw [optionValue?]
  split
  next rest htext => simp [htext]
  next hnot =>
    rw [if_neg]
    intro hhead
    obtain ⟨rest, htext⟩ := List.head?_eq_some_iff.1 hhead
    exact hnot rest htext

/-- A text is taken for the number that it denotes, unless that is too large. -/
theorem optionValue?_of_denotes {text : String} {number : Nat}
    (denotes : Denotes text.toList number) (maximum : UInt64) :
    optionValue? text maximum =
      if number ≤ maximum.toNat then some (UInt64.ofNat number) else none := by
  have hhead : text.toList.head? ≠ some '-' := fun hhead =>
    denotes.notMem (List.mem_of_head? hhead)
  rw [optionValue?_eq_filter, if_neg hhead, value?_of_denotes denotes]
  have hmaximum := maximum.toNat_lt
  by_cases hfits : number < 2 ^ 64
  · rw [if_pos hfits, Option.filter_some]
    refine if_congr ?_ rfl rfl
    rw [decide_eq_true_iff, UInt64.le_iff_toNat_le, UInt64.toNat_ofNat_of_lt' hfits]
  · rw [if_neg hfits, if_neg (by omega)]
    rfl

/-- What numbers a text is taken for. -/
structure Takes (text : List Char) (maximum : Nat) (number : Nat) : Prop where
  le : number ≤ maximum
  /-- The text denotes the number; or a minus sign stands behind blank space, and the number and
  that of the digits add up to nothing, as words. -/
  reads : Denotes text number ∨ text.head? ≠ some '-' ∧ ∃ negated < 2 ^ 64,
    Negates text negated ∧ number = (2 ^ 64 - negated) % 2 ^ 64

/-- A text without a minus sign is taken for what it denotes. -/
theorem takes_iff_of_notMem {text : List Char} (plain : '-' ∉ text) {maximum number : Nat} :
    Takes text maximum number ↔ Denotes text number ∧ number ≤ maximum := by
  constructor
  · rintro ⟨hle, hdenotes | ⟨-, negated, -, hnegates, -⟩⟩
    · exact ⟨hdenotes, hle⟩
    · exact absurd hnegates.mem plain
  · exact fun ⟨hdenotes, hle⟩ => ⟨hle, .inl hdenotes⟩

/-- The negative of a number, as a word. -/
theorem toNat_zero_sub {negated : Nat} (small : negated < 2 ^ 64) :
    (0 - UInt64.ofNat negated).toNat = (2 ^ 64 - negated) % 2 ^ 64 := by
  rw [UInt64.toNat_sub, UInt64.toNat_ofNat_of_lt' small]
  rfl

/-- An option has the value that the text is taken for. -/
theorem optionValue?_eq_some_iff {text : String} {maximum value : UInt64} :
    optionValue? text maximum = some value ↔ Takes text.toList maximum.toNat value.toNat := by
  constructor
  · intro hvalue
    rw [optionValue?_eq_filter, Option.ite_none_left_eq_some, Option.filter_eq_some_iff] at hvalue
    obtain ⟨hhead, hvalue, hle⟩ := hvalue
    refine ⟨UInt64.le_iff_toNat_le.1 (of_decide_eq_true hle), ?_⟩
    rcases numeral_of_value? (Option.isSome_iff_exists.2 ⟨value, hvalue⟩) with
      ⟨number, hdenotes⟩ | ⟨negated, hnegates⟩
    · rw [value?_of_denotes hdenotes, Option.ite_none_right_eq_some] at hvalue
      obtain ⟨hsmall, heq⟩ := hvalue
      cases heq
      rw [UInt64.toNat_ofNat_of_lt' hsmall]
      exact .inl hdenotes
    · rw [value?_of_negates hnegates, Option.ite_none_right_eq_some] at hvalue
      obtain ⟨hsmall, heq⟩ := hvalue
      cases heq
      exact .inr ⟨hhead, negated, hsmall, hnegates, toNat_zero_sub hsmall⟩
  · rintro ⟨hle, hdenotes | ⟨hhead, negated, hsmall, hnegates, heq⟩⟩
    · rw [optionValue?_of_denotes hdenotes, if_pos hle, UInt64.ofNat_toNat]
    · rw [← toNat_zero_sub hsmall, UInt64.toNat_inj] at heq
      rw [optionValue?_eq_filter, if_neg hhead, value?_of_negates hnegates, if_pos hsmall, ← heq,
        Option.filter_some, if_pos (decide_eq_true (UInt64.le_iff_toNat_le.2 hle))]

theorem optionValue?_of_takes {text : String} {maximum : UInt64} {number : Nat}
    (takes : Takes text.toList maximum.toNat number) :
    optionValue? text maximum = some (UInt64.ofNat number) := by
  rw [optionValue?_eq_some_iff, UInt64.toNat_ofNat_of_lt']
  · exact takes
  · exact Nat.lt_of_le_of_lt takes.le maximum.toNat_lt

/-- There is none if it is taken for nothing. -/
theorem optionValue?_eq_none {text : String} {maximum : UInt64}
    (nothing : ¬ ∃ number, Takes text.toList maximum.toNat number) :
    optionValue? text maximum = none := by
  refine Option.eq_none_iff_forall_ne_some.2 fun value hvalue => nothing ?_
  exact ⟨value.toNat, optionValue?_eq_some_iff.1 hvalue⟩

/-- One is hidden behind a space. -/
example : optionValue? " -1" 0xFFFFFFFFFFFFFFFF = some 0xFFFFFFFFFFFFFFFF := by decide +kernel

end Numeral
end BrokerLoad
