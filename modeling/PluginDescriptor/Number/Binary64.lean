/-!
# Binary floating point

The numbers of the IEEE 754 binary64 format, and the one nearest to a decimal. All arithmetic is
exact, on natural numbers.
-/

namespace PluginDescriptor

/-- A binary64 number. -/
inductive Binary64 where
  /-- The number `significand * 2 ^ exponent` with a sign. -/
  | finite (negative : Bool) (significand : Nat) (exponent : Int)
  | infinite (negative : Bool)
  | notANumber
deriving DecidableEq

namespace Binary64

/-- One more than the largest significand. -/
def significandLimit : Nat := Nat.pow 2 53

/-- The least exponent. -/
def leastExponent : Int := -1074

/-- The greatest exponent. -/
def greatestExponent : Int := 971

/-- The quotient rounded to the nearest whole number, a tie to the even one. -/
def roundedQuotient (numerator denominator : Nat) : Nat :=
  let quotient := numerator / denominator
  let twice := 2 * (numerator % denominator)
  if denominator < twice || (twice = denominator && quotient % 2 = 1) then quotient + 1
  else quotient

/-- The number nearest to the positive quotient, with a significand that uses all its digits unless
the exponent is the least one. -/
def ofQuotient (negative : Bool) (numerator denominator : Nat) : Binary64 :=
  let scaled (exponent : Int) : Nat × Nat :=
    (numerator * Nat.pow 2 (-exponent).toNat, denominator * Nat.pow 2 exponent.toNat)
  let estimate := max leastExponent (numerator.log2 - denominator.log2 - 53 : Int)
  let (n, d) := scaled estimate
  let exponent := if n / d < significandLimit then estimate else estimate + 1
  let (n, d) := scaled exponent
  let significand := roundedQuotient n d
  let (significand, exponent) :=
    if significand < significandLimit then (significand, exponent)
    else (significand / 2, exponent + 1)
  if greatestExponent < exponent then .infinite negative
  else .finite negative significand exponent

/-- The number nearest to `digits * 10 ^ power`. A decimal beyond every number is infinite. -/
def ofDecimal (negative : Bool) (digits : Nat) (power : Int) : Binary64 :=
  let magnitude := (Nat.toDigits 10 digits).length + power
  if digits = 0 || magnitude < -330 then .finite negative 0 leastExponent
  else if 310 < magnitude then .infinite negative
  else ofQuotient negative (digits * Nat.pow 10 power.toNat) (Nat.pow 10 (-power).toNat)

end Binary64

end PluginDescriptor
