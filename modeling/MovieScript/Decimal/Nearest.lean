namespace MovieScript.Decimal

/-!
# The double nearest to a ratio

A ratio of natural numbers is rounded to the nearest double, a half going to
the even neighbour.  The result is built from its bit pattern, so the rule is
exact natural-number arithmetic throughout.
-/

/-- The quotient rounded to the nearest natural number, a half going to even. -/
def roundHalfEven
    (numerator denominator : Nat) :
    Nat :=
  let quotient := numerator / denominator
  let remainder := numerator % denominator
  if 2 * remainder < denominator then
    quotient
  else if denominator < 2 * remainder then
    quotient + 1
  else
    quotient + quotient % 2

/-- The bit pattern of positive infinity, above every finite pattern. -/
def infinityPattern : Nat :=
  0x7FF0000000000000

/-- The smallest exponent of two that a double's last significand bit can have. -/
def lowestExponent : Int :=
  -1074

/-- A ratio scaled by a power of two, as numerator and denominator. -/
def scaleByTwo
    (numerator denominator : Nat)
    (exponent : Int) :
    Nat × Nat :=
  if 0 ≤ exponent then
    (numerator, denominator * Nat.pow 2 exponent.toNat)
  else
    (numerator * Nat.pow 2 (-exponent).toNat, denominator)

/--
The exponent of the last significand bit: the one that leaves fifty-three
significant bits, but never below the exponent of the subnormal numbers.
-/
def lastBitExponent
    (numerator denominator : Nat) :
    Int :=
  let guess : Int := (numerator.log2 : Int) - (denominator.log2 : Int) - 52
  let scaled := scaleByTwo numerator denominator guess
  let exact :=
    if scaled.1 < scaled.2 * Nat.pow 2 52 then guess - 1 else guess
  max exact lowestExponent

/--
The bit pattern of the double nearest to a positive ratio.  A significand that
rounds up to the next power of two carries into the exponent field by itself.
-/
def nearestPattern
    (numerator denominator : Nat) :
    Nat :=
  if numerator = 0 then
    0
  else
    let exponent := lastBitExponent numerator denominator
    let scaled := scaleByTwo numerator denominator exponent
    let significand := roundHalfEven scaled.1 scaled.2
    min infinityPattern
      ((exponent - lowestExponent).toNat * Nat.pow 2 52 + significand)

/-- The double nearest to a nonnegative ratio, with the given sign. -/
def nearest
    (negative : Bool)
    (numerator denominator : Nat) :
    Float :=
  let pattern := nearestPattern numerator denominator
  Float.ofBits
    (if negative then pattern + Nat.pow 2 63 else pattern).toUInt64

/-- The double nearest to an integer. -/
def nearestToInt (value : Int) : Float :=
  nearest (value < 0) value.natAbs 1

end MovieScript.Decimal
