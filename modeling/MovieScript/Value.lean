import MovieScript.Heap.Handle
import MovieScript.Numeral

namespace MovieScript

/-!
# Script values

The values scripts compute with, and the conversions between kinds that need
no look at the objects themselves.
-/

/-- A script value; objects are named by handle. -/
inductive Value where
  | undefined
  | null
  | boolean (flag : Bool)
  | integer (number : Int32)
  | float (number : Float)
  | text (content : String)
  | object (handle : Handle)
  deriving Repr

namespace Value

instance : Inhabited Value :=
  ⟨.undefined⟩

/-- Neither undefined nor null carries any information. -/
def isNullish : Value → Bool
  | .undefined => true
  | .null => true
  | _ => false

/-- The value is undefined. -/
def isUndefined : Value → Bool
  | .undefined => true
  | _ => false

/-- The value is an integer or a floating-point number. -/
def isNumber : Value → Bool
  | .integer _ => true
  | .float _ => true
  | _ => false

/-- The handle of an object value. -/
def handle? : Value → Option Handle
  | .object handle => some handle
  | _ => none

/-- The content of a text value. -/
def text? : Value → Option String
  | .text content => some content
  | _ => none

/-- An optional object as a value, undefined for none. -/
def ofHandle? : Option Handle → Value
  | some handle => .object handle
  | none => .undefined

/-- The handles a value holds: one for an object, none otherwise. -/
def references : Value → List Handle
  | .object handle => [handle]
  | _ => []

/-- The kind of the value for diagnostics; functions count as objects. -/
def typeName : Value → String
  | .undefined => "undefined"
  | .null => "null"
  | .boolean _ => "boolean"
  | .integer _ => "number"
  | .float _ => "number"
  | .text _ => "string"
  | .object _ => "object"

/-- Zero, NaN, the empty text and the two empty values are false. -/
def toBoolean : Value → Bool
  | .undefined => false
  | .null => false
  | .boolean flag => flag
  | .integer number => number != 0
  | .float number => number != 0.0 && !number.isNaN
  | .text content => !content.isEmpty
  | .object _ => true

/-- The number a value stands for; undefined and objects stand for none. -/
def toFloat : Value → Float
  | .undefined => Numeral.notANumber
  | .null => 0.0
  | .boolean true => 1.0
  | .boolean false => 0.0
  | .integer number => number.toFloat
  | .float number => number
  | .text content => Numeral.read content
  | .object _ => Numeral.notANumber

/-- The number cut to thirty-two signed bits. -/
def toInteger : Value → Int32
  | .integer number => number
  | .boolean true => 1
  | .boolean false => 0
  | other => Numeral.truncate other.toFloat

/-- The text of a value when objects are not looked at. -/
def toText : Value → String
  | .undefined => "undefined"
  | .null => "null"
  | .boolean true => "true"
  | .boolean false => "false"
  | .integer number => toString number.toInt
  | .float number => Numeral.write number
  | .text content => content
  | .object _ => "[object Object]"

/-- The value as diagnostics write it: text in quotes, objects by handle. -/
def diagnostic : Value → String
  | .text content => "\"" ++ content ++ "\""
  | .object handle => "[object " ++ handle.text ++ "]"
  | other => other.toText

/--
Equality of scripts: primitives by value, objects by identity.  Integers and
floats compare as numbers, so NaN equals nothing.
-/
def strictEquals : Value → Value → Bool
  | .undefined, .undefined => true
  | .null, .null => true
  | .boolean first, .boolean second => first == second
  | .integer first, .integer second => first == second
  | .text first, .text second => first == second
  | .object first, .object second => first == second
  | first, second =>
      first.isNumber && second.isNumber &&
        first.toFloat == second.toFloat

end Value

end MovieScript
