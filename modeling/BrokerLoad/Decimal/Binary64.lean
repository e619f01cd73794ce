/-!
# Double-precision numbers by exact arithmetic

Averages and rates are computed in double precision and compared bit for bit, so
they are computed here exactly: a value is its 64 bits, a finite value is a
mantissa times a power of two, and every operation forms the exact quotient of two
natural numbers and rounds it once.

`roundDiv` is the one place where rounding happens.  It goes to the nearest
natural number and, where two are equally near, to the even one; `ofRatio` uses it
on the binary scale, and the decimal printer of `Decimal.OnePlace` on the decimal
scale.
-/

namespace BrokerLoad

/-- The quotient rounded to the nearest natural number, a half to the even one. -/
def roundDiv (num den : Nat) : Nat :=
  let quotient := num / den
  let twice := 2 * (num % den)
  if twice < den then quotient
  else if den < twice then quotient + 1
  else quotient + quotient % 2

/-- A power of two. -/
def twoTo (exponent : Nat) : Nat := Nat.pow 2 exponent

/-- A double-precision number, as its bits: sign, eleven bits of exponent, fifty-two
bits of mantissa. -/
structure Binary64 where
  bits : UInt64
  deriving DecidableEq

namespace Binary64

/-- What a bit pattern stands for. -/
inductive Meaning where
  /-- The number `mantissa * 2 ^ (scale - 1074)`, negated if so said. -/
  | finite (negative : Bool) (mantissa scale : Nat)
  | infinite (negative : Bool)
  /-- Not a number. -/
  | undefined (negative : Bool)
  deriving DecidableEq

/-- Positive zero. -/
def zero : Binary64 := ⟨0⟩

/-- The scale at which all exponents count from nought: the smallest positive number
is `2 ^ (-1074)`. -/
def unitScale : Nat := 1074

/-- Reads the bits. -/
def meaning (x : Binary64) : Meaning :=
  let n := x.bits.toNat
  let negative := decide (twoTo 63 ≤ n)
  let exponent := n / twoTo 52 % twoTo 11
  let fraction := n % twoTo 52
  if exponent = 2047 then
    if fraction = 0 then .infinite negative else .undefined negative
  else if exponent = 0 then
    .finite negative fraction 0
  else
    .finite negative (twoTo 52 + fraction) (exponent - 1)

/-- The numerator of the magnitude over `2 ^ 1074`; 0 for what is not finite. -/
def units (x : Binary64) : Nat :=
  match x.meaning with
  | .finite _ mantissa scale => mantissa * twoTo scale
  | _ => 0

/-- The scale at which a positive ratio has a mantissa of fifty-three bits, or the
least scale there is if the ratio is too small for that. -/
def scaleOf (num den : Nat) : Nat :=
  -- `twoTo unitScale` is multiplied in first, so that the logarithm is of a number above 1
  let whole := num * twoTo unitScale / den
  whole.log2 - 52

/-- The number nearest to a ratio of natural numbers, ties to an even mantissa, and
infinity from halfway past the largest number.  The ratio is 0 if its denominator
is. -/
def ofRatio (num den : Nat) : Binary64 :=
  if num = 0 ∨ den = 0 then
    zero
  else
    let scale := scaleOf num den
    let mantissa := roundDiv (num * twoTo unitScale) (den * twoTo scale)
    -- a mantissa with its leading bit adds one to the exponent field by itself
    let bits := scale * twoTo 52 + mantissa
    ⟨(min bits (2047 * twoTo 52)).toUInt64⟩

/-- The number nearest to a natural number. -/
def ofNat (n : Nat) : Binary64 := ofRatio n 1

/-- The product of the magnitudes of two finite numbers, rounded. -/
def mul (x y : Binary64) : Binary64 :=
  ofRatio (x.units * y.units) (twoTo (2 * unitScale))

/-- The quotient of the magnitudes of two finite numbers, rounded. -/
def div (x y : Binary64) : Binary64 :=
  ofRatio x.units y.units

end Binary64
end BrokerLoad
