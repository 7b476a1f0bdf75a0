namespace MovieScript.Decimal

/-!
# The fewest digits that read back

A positive double is printed with the fewest decimal digits that still round to
it.  For each digit count the value has two neighbours on the decimal grid;
the first grid with a neighbour inside the rounding interval wins, and of two
such neighbours the nearer one, a tie going to the larger.
-/

/-- A finite positive double, as a natural significand times a power of two. -/
structure Binary where
  significand : Nat
  exponent : Int
  /-- The double below is half as far away as the double above. -/
  narrowBelow : Bool
  deriving Repr, DecidableEq

namespace Binary

/-- Decode the magnitude of a finite double from its bit pattern. -/
def ofPattern (pattern : Nat) : Binary :=
  let magnitude := pattern % Nat.pow 2 63
  let fraction := magnitude % Nat.pow 2 52
  let field : Nat := magnitude / Nat.pow 2 52
  if field = 0 then
    { significand := fraction
      exponent := -1074
      narrowBelow := false }
  else
    { significand := fraction + Nat.pow 2 52
      exponent := (field : Int) - 1075
      narrowBelow := fraction = 0 && 1 < field }

end Binary

/-- The real interval that rounds to a double, over one common denominator. -/
structure RoundingInterval where
  low : Nat
  value : Nat
  high : Nat
  denominator : Nat
  /-- The two ends themselves round to the double. -/
  closed : Bool
  deriving Repr, DecidableEq

namespace RoundingInterval

/-- The halfway points to the neighbouring doubles, in quarters of the last bit. -/
def ofBinary (binary : Binary) : RoundingInterval :=
  let quarters := 4 * binary.significand
  let below := if binary.narrowBelow then 1 else 2
  let exponent := binary.exponent - 2
  let up := Nat.pow 2 exponent.toNat
  { low := (quarters - below) * up
    value := quarters * up
    high := (quarters + 2) * up
    denominator := Nat.pow 2 (-exponent).toNat
    closed := binary.significand % 2 = 0 }

/-- The ratio `numerator / denominator` lies in the interval. -/
def covers
    (interval : RoundingInterval)
    (numerator denominator : Nat) :
    Bool :=
  let scaled := numerator * interval.denominator
  let low := interval.low * denominator
  let high := interval.high * denominator
  if interval.closed then
    low ≤ scaled && scaled ≤ high
  else
    low < scaled && scaled < high

end RoundingInterval

/-- A decimal number: a coefficient times a power of ten. -/
structure Scientific where
  coefficient : Nat
  exponent : Int
  deriving Repr, DecidableEq

/--
The place of the decimal point of a positive ratio: the power of ten just above
it, counted down from `1` while the ratio stays below the tried power.
-/
def pointBelowOne
    (numerator denominator : Nat) :
    Nat → Nat → Int
  | 0, zeros => -(zeros : Int)
  | fuel + 1, zeros =>
      if denominator ≤ numerator * 10 then
        -(zeros : Int)
      else
        pointBelowOne (numerator * 10) denominator fuel (zeros + 1)

/-- The number of digits before the decimal point, negative for leading zeros. -/
def pointOf
    (numerator denominator : Nat) :
    Int :=
  if denominator ≤ numerator then
    ((Nat.toDigits 10 (numerator / denominator)).length : Int)
  else
    pointBelowOne numerator denominator 400 0

/-- A multiple of a power of ten as a ratio. -/
def gridRatio
    (coefficient : Nat)
    (exponent : Int) :
    Nat × Nat :=
  (coefficient * Nat.pow 10 exponent.toNat,
    Nat.pow 10 (-exponent).toNat)

/-- The neighbour of the value with `count` digits that rounds back, if one does. -/
def neighbour?
    (interval : RoundingInterval)
    (point : Int)
    (count : Nat) :
    Option Scientific :=
  let exponent := point - count
  let unit := gridRatio 1 exponent
  let lower :=
    interval.value * unit.2 / (interval.denominator * unit.1)
  let lowerRatio := gridRatio lower exponent
  let upperRatio := gridRatio (lower + 1) exponent
  let lowerFits := interval.covers lowerRatio.1 lowerRatio.2
  let upperFits := interval.covers upperRatio.1 upperRatio.2
  let twiceValue := 2 * interval.value * unit.2
  let middle := (2 * lower + 1) * unit.1 * interval.denominator
  if lowerFits && (!upperFits || twiceValue < middle) then
    some ⟨lower, exponent⟩
  else if upperFits then
    some ⟨lower + 1, exponent⟩
  else
    none

/-- Drop trailing zeros of the coefficient, at most `fuel` of them. -/
def Scientific.trimZeros : Nat → Scientific → Scientific
  | 0, decimal => decimal
  | fuel + 1, decimal =>
      if decimal.coefficient ≠ 0 && decimal.coefficient % 10 = 0 then
        trimZeros fuel
          ⟨decimal.coefficient / 10, decimal.exponent + 1⟩
      else
        decimal

/-- The shortest decimal that rounds to a finite nonzero bit pattern. -/
def shortest (pattern : Nat) : Scientific :=
  let interval := RoundingInterval.ofBinary (Binary.ofPattern pattern)
  let point := pointOf interval.value interval.denominator
  match (List.range 17).findSome? fun count =>
      neighbour? interval point (count + 1) with
  | some decimal => decimal.trimZeros 20
  | none => ⟨0, 0⟩

end MovieScript.Decimal
