import MovieScript.Decimal.Reading

namespace MovieScript

/-!
# Names of array elements

An array element is a member whose name is the decimal form of its index,
without sign, leading zeros or blanks.
-/

/-- Indices are below this bound. -/
def indexBound : Nat :=
  Nat.pow 2 64

/-- The length an array can reach through index writes or `length`. -/
def maxArrayLength : Nat :=
  Nat.pow 2 20

/-- The name of the element at an index. -/
def elementName (index : Nat) : String :=
  toString index

/-- A number as an index; arithmetic on indices must not reach the bound. -/
def asIndex? (number : Nat) : Option Nat :=
  if number < indexBound then some number else none

/-- An index with one more digit behind it. -/
def appendDigit?
    (index : Nat)
    (digit : Char) :
    Option Nat := do
  let shifted ← asIndex? (index * 10)
  asIndex? (shifted + (digit.toNat - '0'.toNat))

/-- The index a member name stands for, if it is the name of an element. -/
def elementIndex? (name : String) : Option Nat :=
  let digits := name.toList
  if digits.isEmpty || 1 < digits.length && digits.head? = some '0' then
    none
  else if !digits.all Char.isDigit then
    none
  else
    digits.foldlM appendDigit? 0

end MovieScript
