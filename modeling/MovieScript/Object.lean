import MovieScript.Callable
import MovieScript.ElementName
import MovieScript.Heap.Arena
import MovieScript.Scene

namespace MovieScript

/-!
# Script objects

An object has ordered own properties, a prototype, the function that made it,
and a content that only some operations look at.
-/

/-- A named place of an object. -/
inductive Property where
  | data (value : Value) (writable enumerable configurable : Bool)
  | accessor (getter setter : Option Handle)
      (enumerable configurable : Bool)
  deriving Repr

namespace Property

/-- A property that can be written, listed and removed. -/
def plain (value : Value) : Property :=
  .data value true true true

/-- A built-in method: writable, not listed, permanent. -/
def method (function : Handle) : Property :=
  .data (.object function) true false false

/-- An internal link such as `prototype`: writable and removable, not listed. -/
def hidden (value : Value) : Property :=
  .data value true false true

/-- A pair of accessor functions: removable, not listed. -/
def accessors (getter setter : Option Handle) : Property :=
  .accessor getter setter false true

/-- A value that cannot be changed or removed, and is not listed. -/
def constant (value : Value) : Property :=
  .data value false false false

/-- The property is a pair of accessor functions. -/
def isAccessor : Property → Bool
  | .data _ _ _ _ => false
  | .accessor _ _ _ _ => true

/-- The property is listed. -/
def enumerable : Property → Bool
  | .data _ _ enumerable _ => enumerable
  | .accessor _ _ enumerable _ => enumerable

/-- The property can be removed or replaced. -/
def configurable : Property → Bool
  | .data _ _ _ configurable => configurable
  | .accessor _ _ _ configurable => configurable

/-- The stored value, if the property stores one. -/
def value? : Property → Option Value
  | .data value _ _ _ => some value
  | .accessor _ _ _ _ => none

/-- Store another value and keep the attributes. -/
def withValue
    (property : Property)
    (value : Value) :
    Property :=
  match property with
  | .data _ writable enumerable configurable =>
      .data value writable enumerable configurable
  | .accessor _ _ _ _ => property

/-- The handles a property holds. -/
def references : Property → List Handle
  | .data value _ _ _ => value.references
  | .accessor getter setter _ _ => getter.toList ++ setter.toList

end Property

/-- Which class of display object a script object belongs to. -/
inductive StageKind where
  | stageObject
  | textField
  | movieClip
  deriving Repr, DecidableEq

namespace StageKind

/-- The name of the class. -/
def className : StageKind → String
  | .stageObject => "StageObject"
  | .textField => "TextField"
  | .movieClip => "MovieClip"

/-- The class with a name. -/
def named? (name : String) : Option StageKind :=
  [stageObject, textField, movieClip].find? (·.className == name)

end StageKind

/-- What an object is, beyond its properties. -/
inductive Content where
  | ordinary
  | function (callable : Callable)
  | text (content : String)
  | boolean (flag : Bool)
  | number (value : Value)
  | array (elements : Array Value)
  | stage (item : ItemId) (kind : StageKind)

namespace Content

/-- The class an object with this content belongs to. -/
def className : Content → String
  | .ordinary => "Object"
  | .function _ => "Function"
  | .text _ => "String"
  | .boolean _ => "Boolean"
  | .number _ => "Number"
  | .array _ => "Array"
  | .stage _ kind => kind.className

/-- The handles a content holds. -/
def references
    (content : Content)
    (scopes : Scopes) :
    List Handle :=
  match content with
  | .function callable => callable.references scopes
  | .number value => value.references
  | .array elements => elements.toList.flatMap Value.references
  | _ => []

end Content

/-- A script object. -/
structure ScriptObject where
  properties : Table String Property
  prototype : Option Handle
  /-- The function the object was made by. -/
  constructor : Option Handle
  content : Content

namespace ScriptObject

/-- An object without properties. -/
def new
    (prototype : Option Handle)
    (content : Content) :
    ScriptObject where
  properties := .empty
  prototype := prototype
  constructor := none
  content := content

/-- The object that is made by nothing and inherits from nothing. -/
def blank : ScriptObject :=
  new none .ordinary

/-- A removed object holds on to nothing. -/
instance : Reset ScriptObject where
  reset object :=
    { object with
      properties := .empty
      prototype := none
      constructor := none
      content := .ordinary }

/-- What is left of a removed object is an object made by nothing. -/
theorem reset_eq_blank
    (object : ScriptObject) :
    Reset.reset object = blank :=
  rfl

/-- An own property. -/
def own?
    (object : ScriptObject)
    (name : String) :
    Option Property :=
  object.properties.get? name

/-- The function behind the object. -/
def callable? (object : ScriptObject) : Option Callable :=
  match object.content with
  | .function callable => some callable
  | _ => none

/-- The elements of an array object. -/
def elements? (object : ScriptObject) : Option (Array Value) :=
  match object.content with
  | .array elements => some elements
  | _ => none

/-- The display item and class of a display object. -/
def stage? (object : ScriptObject) : Option (ItemId × StageKind) :=
  match object.content with
  | .stage item kind => some (item, kind)
  | _ => none

/-- The array element a member name stands for, if it is in range. -/
def element?
    (object : ScriptObject)
    (name : String) :
    Option Value :=
  match object.content with
  | .array elements =>
      (elementIndex? name).bind fun index => elements[index]?
  | _ => none

/-- The elements with one of them written, padded with undefined up to it. -/
def writeElement
    (elements : Array Value)
    (index : Nat)
    (value : Value) :
    Array Value :=
  if elements.size ≤ index then
    (elements ++
      Array.replicate (index - elements.size) Value.undefined).push value
  else
    elements.setIfInBounds index value

/-- Write an element of an array object; another object stays as it is. -/
def withElement
    (object : ScriptObject)
    (index : Nat)
    (value : Value) :
    ScriptObject :=
  match object with
  | ⟨properties, prototype, constructor, .array elements⟩ =>
      ⟨properties, prototype, constructor,
        .array (writeElement elements index value)⟩
  | other => other

/-- Give the object a property under a name, in its old place if it had one. -/
def withProperty
    (object : ScriptObject)
    (name : String)
    (property : Property) :
    ScriptObject :=
  { object with properties := object.properties.insert name property }

/-- Every handle the object holds. -/
def references
    (scopes : Scopes)
    (object : ScriptObject) :
    List Handle :=
  object.properties.values.flatMap Property.references ++
    object.prototype.toList ++
    object.constructor.toList ++
    object.content.references scopes

end ScriptObject

end MovieScript
