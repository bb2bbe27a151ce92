/-!
# Double precision

Times are counted in double precision: a number has 53 significant bits, and its last bit stands for
at least the power of two with exponent -1074. Every exact number has a nearest one in double
precision, of two equally near ones that with the even last bit. Too large numbers become infinite,
and a negative number that is too small becomes a zero that keeps its sign.
-/

namespace BrickLint

/-- A number in double precision. -/
inductive Double where
  /-- An ordinary number. -/
  | finite (value : Rat)
  /-- The zero with a minus sign, equal to the one without. -/
  | negativeZero
  /-- Larger than all ordinary numbers, or smaller than all of them. -/
  | infinite (negative : Bool)
  /-- The outcome of an operation that has none. -/
  | undefined
  deriving DecidableEq

/-- The whole number nearest to a quotient; a tie goes to the even neighbour. -/
def nearestQuotient (num den : Nat) : Nat :=
  let quotient := num / den
  let twice := 2 * (num % den)
  if twice < den ∨ (twice = den ∧ quotient % 2 = 0) then quotient else quotient + 1

/-- A number times a power of two that may have a negative exponent, as numerator and
denominator. -/
def scaledPair (num den : Nat) (exponent : Int) : Nat × Nat :=
  if 0 ≤ exponent then (num <<< exponent.toNat, den) else (num, den <<< (-exponent).toNat)

/-- The exponent of the greatest power of two that is at most the positive number `num / den`. -/
def leadingExponent (num den : Nat) : Int :=
  let guess := (num.log2 : Int) - den.log2
  let (scaledNum, scaledDen) := scaledPair num den (-guess)
  if scaledNum < scaledDen then guess - 1 else guess

namespace Double

/-- The exponent of the last bit of a number whose leading bit has the given exponent. -/
def lastExponent (leading : Int) : Int :=
  max (leading - 52) (-1074)

/-- The least power of two that is too large. -/
def bound : Nat :=
  1 <<< 1024

/-- The number in double precision that is nearest to an exact one. -/
def nearest (value : Rat) : Double :=
  if value.num = 0 then .finite 0
  else
    let magnitude := value.num.natAbs
    let exponent := lastExponent (leadingExponent magnitude value.den)
    let (scaledNum, scaledDen) := scaledPair magnitude value.den (-exponent)
    let (num, den) := scaledPair (nearestQuotient scaledNum scaledDen) 1 exponent
    let negative := value.num < 0
    if bound * den ≤ num then .infinite negative
    else if num = 0 ∧ negative then .negativeZero
    else .finite (mkRat (if negative then -(num : Int) else num) den)

/-- The exact value of a number that has one. -/
def value? : Double → Option Rat
  | .finite value => some value
  | .negativeZero => some 0
  | _ => none

/-- A zero of either sign. -/
def zero (negative : Bool) : Double :=
  if negative then .negativeZero else .finite 0

/-- The sum of two numbers, rounded to the nearest one. A negative zero changes nothing. -/
def add : Double → Double → Double
  | .negativeZero, b => b
  | a, .negativeZero => a
  | .finite a, .finite b => nearest (a + b)
  | .infinite a, .infinite b => if a = b then .infinite a else .undefined
  | .undefined, _ | _, .undefined => .undefined
  | .infinite a, .finite _ => .infinite a
  | .finite _, .infinite b => .infinite b

/-- Whether a number is at most another one. -/
def atMost : Double → Double → Bool
  | .undefined, _ | _, .undefined => false
  | .infinite a, .infinite b => a || !b
  | .infinite a, _ => a
  | _, .infinite b => !b
  | a, b => a.value?.getD 0 ≤ b.value?.getD 0

/-- An ordinary number without its fractional part. -/
def truncate? (a : Double) : Option Int :=
  a.value?.map fun value => value.num.tdiv value.den

end Double

end BrickLint
