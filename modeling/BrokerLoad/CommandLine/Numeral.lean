/-!
# Numbers on the command line

A numeral is blank space, a sign or none, and decimal digits, with nothing after
them.  Its value is a 64-bit word: what the digits denote if that fits into one, and
with a minus sign the word that adds up with it to 0.  An option refuses a text that
begins with a minus sign and a value above its maximum.
-/

namespace BrokerLoad
namespace Numeral

/-- White space before a numeral: the space, the tab, the line feed, the vertical tab,
the form feed and the carriage return. -/
def isBlank (c : Char) : Bool :=
  c = ' ' || (9 ≤ c.toNat && c.toNat ≤ 13)

/-- The number that decimal digits denote. -/
def digitsValue (digits : List Char) : Nat :=
  digits.foldl (fun n c => 10 * n + (c.toNat - 48)) 0

/-- The value of digits without a sign: there is one if there are digits, nothing but
digits, and not too many of them. -/
def unsigned (digits : List Char) : Option UInt64 :=
  if digits ≠ [] ∧ digits.all Char.isDigit ∧ digitsValue digits < UInt64.size then
    some (digitsValue digits).toUInt64
  else
    none

/-- The value of a numeral that has no blank space before it. -/
def signed : List Char → Option UInt64
  | '+' :: digits => unsigned digits
  | '-' :: digits => (unsigned digits).map fun value => 0 - value
  | digits => unsigned digits

/-- The value of a numeral. -/
def value? (text : List Char) : Option UInt64 :=
  signed (text.dropWhile isBlank)

/-- The value of an option that may be at most so large. -/
def optionValue? (text : String) (maximum : UInt64) : Option UInt64 :=
  match text.toList with
  | '-' :: _ => none
  | chars => (value? chars).filter fun value => value ≤ maximum

end Numeral
end BrokerLoad
