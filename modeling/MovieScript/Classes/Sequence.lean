import MovieScript.Classes.Receiver

namespace MovieScript.ArrayClass

/-!
# Arrays

The functions of the class `Array`.
-/

/-- A requested array length, if an array can have it. -/
def lengthOf (requested : Int32) : Except Fault Nat :=
  let length := requested.toInt
  if 0 ≤ length && length ≤ maxArrayLength then
    .ok length.toNat
  else
    .error (.invalidArrayLength length)

/--
`Array(n)` makes undefined elements, any other arguments become the elements
themselves; `new Array` does the same to the fresh instance.
-/
def construct
    (receiver : Value)
    (arguments : List Value) :
    Edit Value := do
  let elements ←
    match arguments with
    | [.integer requested] => do
        let length ← Edit.ask fun _ => lengthOf requested
        pure (Array.replicate length Value.undefined)
    | _ => pure arguments.toArray
  Edit.convertOrFill "Array" receiver (.array elements) do
    return .object (← Edit.createArray elements)

/-- The array object a method works on, and its elements. -/
def receiverOf (receiver : Value) : Edit (Handle × Array Value) := do
  match receiver with
  | .object handle =>
      match (← Edit.ask (·.object handle)).elements? with
      | some elements => return (handle, elements)
      | none => throw .notAnArray
  | _ => throw .notAnArray

/-- The number of elements. -/
def length (receiver : Value) : Edit Value := do
  let (_, elements) ← receiverOf receiver
  return lengthValue elements.size

/-- Cut the elements to a length, or pad them with undefined. -/
def resize
    (elements : Array Value)
    (length : Nat) :
    Array Value :=
  elements.take length ++
    Array.replicate (length - elements.size) Value.undefined

/-- Change the number of elements. -/
def setLength
    (receiver : Value)
    (arguments : List Value) :
    Edit Value := do
  let (_, elements) ← receiverOf receiver
  let length ←
    Edit.ask fun _ => lengthOf (argument arguments 0).toInteger
  Edit.setContent receiver (.array (resize elements length))
  return .undefined

/-- Append the arguments and answer with the new length. -/
def push
    (receiver : Value)
    (arguments : List Value) :
    Edit Value := do
  let (_, elements) ← receiverOf receiver
  let extended := elements ++ arguments.toArray
  Edit.setContent receiver (.array extended)
  return lengthValue extended.size

/-- The texts of the elements between separators; empty values have no text. -/
def join
    (receiver : Value)
    (arguments : List Value) :
    Edit Value := do
  let (_, elements) ← receiverOf receiver
  let separator ←
    match argument arguments 0 with
    | .undefined => pure ","
    | other => Edit.displayText other
  let parts ← elements.toList.mapM fun element =>
    if element.isNullish then
      pure ""
    else
      Edit.displayText element
  return .text (separator.intercalate parts)

end MovieScript.ArrayClass
