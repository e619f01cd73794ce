import BrokerLoad.Decimal.Binary64

/-!
# Numbers with one decimal place

The report prints rates and averages with exactly one digit after the point.  The
digit is the exact decimal value rounded to the nearest tenth, a half to the even
one; the sign is kept even where nothing but zeros is left; and what is not a
number is spelled out.
-/

namespace BrokerLoad
namespace Binary64

/-- A minus sign where there is one. -/
def signText (negative : Bool) : String :=
  if negative then "-" else ""

/-- A count of tenths, with its point. -/
def tenthsText (tenths : Nat) : String :=
  toString (tenths / 10) ++ "." ++ toString (tenths % 10)

/-- The number with one digit after the point. -/
def onePlace (x : Binary64) : String :=
  match x.meaning with
  | .finite negative mantissa scale =>
    signText negative ++ tenthsText (roundDiv (mantissa * twoTo scale * 10) (twoTo unitScale))
  | .infinite negative => signText negative ++ "inf"
  | .undefined negative => signText negative ++ "nan"

end Binary64
end BrokerLoad
