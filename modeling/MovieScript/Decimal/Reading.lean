import MovieScript.Decimal.Nearest

namespace MovieScript.Decimal

/-!
# Reading decimal numbers

The grammar of a decimal number: an optional sign, then `inf`, `infinity` or
`nan` in any case, or digits with an optional point and an optional exponent,
with at least one digit before the exponent.
-/

/-- A decimal number as it is written, before rounding. -/
inductive Literal where
  | nan
  | infinite (negative : Bool)
  | finite (negative : Bool) (coefficient : Nat) (exponent : Int)
  deriving Repr, DecidableEq

/-- The value of a run of decimal digits. -/
def digitsValue (digits : List Char) : Nat :=
  digits.foldl
    (fun total digit => total * 10 + (digit.toNat - '0'.toNat)) 0

/-- Split an optional sign off; `true` stands for a minus sign. -/
def takeSign : List Char → Bool × List Char
  | '-' :: rest => (true, rest)
  | '+' :: rest => (false, rest)
  | characters => (false, characters)

/-- The exponent that follows the digits: nothing, or `e`, a sign and digits. -/
def exponent? : List Char → Option Int
  | [] => some 0
  | mark :: rest =>
      if mark = 'e' || mark = 'E' then
        let (negative, digits) := takeSign rest
        if digits.isEmpty || !digits.all Char.isDigit then
          none
        else if negative then
          some (-(digitsValue digits : Int))
        else
          some (digitsValue digits : Int)
      else
        none

/-- An unsigned decimal number, as coefficient and exponent of ten. -/
def number? (characters : List Char) : Option (Nat × Int) :=
  let whole := characters.takeWhile Char.isDigit
  let afterWhole := characters.dropWhile Char.isDigit
  let (fraction, afterFraction) :=
    match afterWhole with
    | '.' :: rest =>
        (rest.takeWhile Char.isDigit, rest.dropWhile Char.isDigit)
    | _ => ([], afterWhole)
  if whole.isEmpty && fraction.isEmpty then
    none
  else
    (exponent? afterFraction).map fun exponent =>
      (digitsValue (whole ++ fraction), exponent - fraction.length)

/-- Read a whole text as a decimal number. -/
def Literal.read? (characters : List Char) : Option Literal :=
  let (negative, unsigned) := takeSign characters
  let word := String.ofList (unsigned.map Char.toLower)
  if word = "nan" then
    some .nan
  else if word = "inf" || word = "infinity" then
    some (.infinite negative)
  else
    (number? unsigned).map fun (coefficient, exponent) =>
      .finite negative coefficient exponent

/-- More decimal places than this on either side leave the range of doubles. -/
def placesBound : Int :=
  400

/--
The double a literal stands for.  The place of the leading digit decides
overflow and underflow before any power of ten is computed.
-/
def Literal.toFloat : Literal → Float
  | .nan => Float.ofBits 0x7FF8000000000000
  | .infinite negative =>
      Float.ofBits (if negative then 0xFFF0000000000000 else 0x7FF0000000000000)
  | .finite negative coefficient exponent =>
      let places := ((Nat.toDigits 10 coefficient).length : Int) + exponent
      if coefficient = 0 || places < -placesBound then
        nearest negative 0 1
      else if placesBound < places then
        nearest negative (Nat.pow 2 1024) 1
      else if 0 ≤ exponent then
        nearest negative (coefficient * Nat.pow 10 exponent.toNat) 1
      else
        nearest negative coefficient (Nat.pow 10 (-exponent).toNat)

end MovieScript.Decimal
