import MovieScript.Classes.Receiver
import MovieScript.Machine.Member

namespace MovieScript

/-!
# Objects, booleans, numbers and texts

The functions of the classes `Object`, `Boolean`, `Number` and `String`.  A
method of the last three works on a primitive or on its boxed form.
-/

namespace ObjectClass

/-- `Object(value)` boxes a primitive; `new Object()` keeps the fresh instance. -/
def construct
    (receiver : Value)
    (arguments : List Value) :
    Edit Value := do
  let value := argument arguments 0
  match value with
  | .object _ => return value
  | _ =>
      if value.isNullish then
        if (← get).isFreshInstance receiver "Object" then
          return receiver
        else
          return .object (← Edit.createObject)
      else
        return .object (← Edit.toObject value)

/-- Whether the receiver itself has a member. -/
def hasOwnProperty
    (receiver : Value)
    (arguments : List Value) :
    Edit Value := do
  let handle ← Edit.toObject receiver
  let name ← Edit.displayText (argument arguments 0)
  return .boolean (← Edit.ask (·.hasOwnMember handle name))

/-- The text of the receiver. -/
def toText (receiver : Value) : Edit Value := do
  return .text (← Edit.displayText receiver)

/--
Install a pair of accessor functions.  The getter must be a function, the
setter may be left out; bad arguments are answered with `false`.
-/
def addProperty
    (receiver : Value)
    (arguments : List Value) :
    Edit Value := do
  let handle ← Edit.toObject receiver
  let name ← Edit.displayText (argument arguments 0)
  let getter := argument arguments 1
  let setter := argument arguments 2
  let machine ← get
  if name.isEmpty || !machine.isCallable getter then
    return .boolean false
  else if setter.isNullish || machine.isCallable setter then
    return .boolean
      (← Edit.defineProperty handle name
        (.accessors getter.handle? setter.handle?))
  else
    return .boolean false

end ObjectClass

namespace BooleanClass

/-- The boolean that a method works on. -/
def receiverOf (receiver : Value) : Edit Bool := do
  match receiver with
  | .boolean flag => return flag
  | .object handle =>
      match ← Edit.ask (·.contentOf handle) with
      | .boolean flag => return flag
      | _ => throw (.incompatibleObject "Boolean")
  | other => throw (.incompatibleReceiver "Boolean" other.typeName)

/-- `Boolean(value)` converts, `new Boolean(value)` boxes. -/
def construct
    (receiver : Value)
    (arguments : List Value) :
    Edit Value :=
  let flag := (argument arguments 0).toBoolean
  Edit.convertOrFill "Boolean" receiver (.boolean flag)
    (return .boolean flag)

end BooleanClass

namespace NumberClass

/-- The number of a value, an integer whenever it is exactly one. -/
def toNumber : Value → Value
  | .integer number => .integer number
  | other =>
      let number := other.toFloat
      let truncated := Numeral.truncate number
      let negativeZero := number.toBits == 0x8000000000000000
      if truncated.toFloat == number && !negativeZero then
        .integer truncated
      else
        .float number

/-- The number that a method works on. -/
def receiverOf (receiver : Value) : Edit Value := do
  match receiver with
  | .integer _ => return receiver
  | .float _ => return receiver
  | .object handle =>
      match ← Edit.ask (·.contentOf handle) with
      | .number payload => return payload
      | _ => throw (.incompatibleObject "Number")
  | other => throw (.incompatibleReceiver "Number" other.typeName)

/-- `Number(value)` converts, `new Number(value)` boxes. -/
def construct
    (receiver : Value)
    (arguments : List Value) :
    Edit Value :=
  let number :=
    match arguments with
    | [] => .integer 0
    | value :: _ => toNumber value
  Edit.convertOrFill "Number" receiver (.number number)
    (return number)

end NumberClass

namespace StringClass

/-- The text that a method works on. -/
def receiverOf (receiver : Value) : Edit String := do
  match receiver with
  | .text content => return content
  | .object handle =>
      match ← Edit.ask (·.contentOf handle) with
      | .text content => return content
      | _ => throw (.incompatibleObject "String")
  | other => throw (.incompatibleReceiver "String" other.typeName)

/-- `String(value)` converts, `new String(value)` boxes. -/
def construct
    (receiver : Value)
    (arguments : List Value) :
    Edit Value := do
  let content ←
    match arguments with
    | [] => pure ""
    | value :: _ => Edit.displayText value
  Edit.convertOrFill "String" receiver (.text content)
    (return .text content)

/-- A number of 64 signed bits; arithmetic must not leave them. -/
def fitting (number : Int) : Except Fault Int :=
  if Int64.minValue.toInt ≤ number && number ≤ Int64.maxValue.toInt then
    .ok number
  else
    .error .numberTooLarge

/-- The nearest number of an interval, whose ends must be in order. -/
def clamped (low high number : Int) : Except Fault Int :=
  if low ≤ high then
    .ok (max low (min number high))
  else
    .error .boundsOutOfOrder

/-- The first character of a cut; a negative start counts from the end. -/
def cutStart (length start : Int) : Except Fault Int := do
  let fromFront ←
    if start < 0 then do
      let position ← fitting (length + start)
      pure (max position 0)
    else
      pure start
  return min fromFront length

/-- The number of characters of a cut, within what is left of the text. -/
def cutLength
    (length first : Int)
    (count : Option Int) :
    Except Fault Int := do
  let left ← fitting (length - first)
  match count with
  | some count => clamped 0 left count
  | none => return left

/-- Cut a run of characters out of a text. -/
def cut
    (text : String)
    (start : Int)
    (count : Option Int) :
    Except Fault String := do
  let characters := text.toList
  let length := min (characters.length : Int) Int64.maxValue.toInt
  let first ← cutStart length start
  let taken ← cutLength length first count
  return String.ofList
    ((characters.drop first.toNat).take taken.toNat)

/-- `substr(start)` and `substr(start, length)`. -/
def substr
    (receiver : Value)
    (arguments : List Value) :
    Edit Value := do
  match arguments with
  | [start] =>
      let text ← receiverOf receiver
      return .text
        (← Edit.ask fun _ => cut text start.toInteger.toInt none)
  | [start, count] =>
      let text ← receiverOf receiver
      return .text
        (← Edit.ask fun _ =>
          cut text start.toInteger.toInt (some count.toInteger.toInt))
  | _ => throw (.arity "substr" arguments.length)

end StringClass

end MovieScript
