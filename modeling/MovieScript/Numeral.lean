import MovieScript.Decimal.Nearest
import MovieScript.Decimal.Reading
import MovieScript.Decimal.Shortest
import MovieScript.Text.Blank

namespace MovieScript.Numeral

/-!
# Numbers as scripts write them

Reading accepts a decimal or hexadecimal number between blanks and answers NaN
for anything else.  Writing gives the shortest digits that read back, without a
point for whole numbers, and in exponent form outside `[1e-6, 1e21)`.
-/

/-- The value of a hexadecimal digit of either case. -/
def hexDigit? (character : Char) : Option Nat :=
  if '0' ≤ character && character ≤ '9' then
    some (character.toNat - '0'.toNat)
  else if 'a' ≤ character && character ≤ 'f' then
    some (character.toNat - 'a'.toNat + 10)
  else if 'A' ≤ character && character ≤ 'F' then
    some (character.toNat - 'A'.toNat + 10)
  else
    none

/-- The value of a nonempty run of hexadecimal digits. -/
def hexDigits? (characters : List Char) : Option Nat :=
  if characters.isEmpty then
    none
  else
    characters.foldlM
      (fun total character =>
        (hexDigit? character).map fun digit => total * 16 + digit) 0

/-- A hexadecimal number with an optional sign that fits in sixty-four signed bits. -/
def signedHex? (characters : List Char) : Option Int :=
  let (negative, digits) := Decimal.takeSign characters
  (hexDigits? digits).bind fun magnitude =>
    let value : Int := if negative then -(magnitude : Int) else magnitude
    if -Int.pow 2 63 ≤ value && value < Int.pow 2 63 then
      some value
    else
      none

/-- The quiet NaN. -/
def notANumber : Float :=
  Decimal.Literal.toFloat .nan

/-- The characters after a `0x` mark, if the text starts with one. -/
def afterHexMark? : List Char → Option (List Char)
  | '0' :: 'x' :: rest => some rest
  | '0' :: 'X' :: rest => some rest
  | _ => none

/--
Read a number.  A hexadecimal number may stand after a minus sign and may have
a sign of its own after the mark.
-/
def read (text : String) : Float :=
  let trimmed := Text.trim text.toList
  let (negative, unsigned) :=
    match trimmed with
    | '-' :: rest => (true, rest)
    | characters => (false, characters)
  match afterHexMark? unsigned with
  | some digits =>
      match signedHex? digits with
      | some value =>
          let magnitude := Decimal.nearestToInt value
          if negative then -magnitude else magnitude
      | none => notANumber
  | none =>
      match Decimal.Literal.read? trimmed with
      | some literal => literal.toFloat
      | none => notANumber

/-- Where positional writing ends, as places of the decimal point. -/
structure Layout where
  lowestPoint : Int
  highestPoint : Int
  deriving Repr, DecidableEq

/-- Positional from `0.000001` up to twenty-one digits. -/
def layout : Layout :=
  ⟨-5, 21⟩

/-- A run of zeros. -/
def zeros (count : Nat) : String :=
  String.ofList (List.replicate count '0')

/-- Digits written around a decimal point that stands after `point` digits. -/
def positional
    (digits : List Char)
    (point : Int) :
    String :=
  if point ≤ 0 then
    "0." ++ zeros (-point).toNat ++ String.ofList digits
  else if digits.length ≤ point.toNat then
    String.ofList digits ++ zeros (point.toNat - digits.length)
  else
    String.ofList (digits.take point.toNat) ++ "." ++
      String.ofList (digits.drop point.toNat)

/-- Digits written as a mantissa with one digit before the point, and an exponent. -/
def exponential
    (digits : List Char)
    (point : Int) :
    String :=
  let fraction := digits.drop 1
  let mantissa :=
    String.ofList (digits.take 1) ++
      (if fraction.isEmpty then "" else "." ++ String.ofList fraction)
  let exponent := point - 1
  let sign := if exponent < 0 then "-" else "+"
  mantissa ++ "e" ++ sign ++ toString exponent.natAbs

/-- Write a positive decimal number in the form the layout asks for. -/
def writeDecimal (decimal : Decimal.Scientific) : String :=
  let digits := Nat.toDigits 10 decimal.coefficient
  let point := (digits.length : Int) + decimal.exponent
  if layout.lowestPoint ≤ point && point ≤ layout.highestPoint then
    positional digits point
  else
    exponential digits point

/-- Write a number.  Both zeros are written `0`. -/
def write (number : Float) : String :=
  let pattern := number.toBits.toNat
  let negative := Nat.pow 2 63 ≤ pattern
  let magnitude := pattern % Nat.pow 2 63
  if Decimal.infinityPattern < magnitude then
    "NaN"
  else if magnitude = 0 then
    "0"
  else
    let sign := if negative then "-" else ""
    if magnitude = Decimal.infinityPattern then
      sign ++ "Infinity"
    else
      sign ++ writeDecimal (Decimal.shortest magnitude)

/-- Truncate toward zero; NaN becomes zero and the ends of the range hold. -/
def truncate (number : Float) : Int32 :=
  number.toInt32

end MovieScript.Numeral
