import MovieScript.Machine.Conversion

namespace MovieScript

/-!
# Receivers and arguments of built-in functions

What the functions of the built-in classes share: missing arguments are
undefined, and a constructor tells by its receiver whether it was called to
make an object.
-/

/-- An argument by position; undefined if it is missing. -/
def argument
    (arguments : List Value)
    (position : Nat) :
    Value :=
  arguments.getD position .undefined

/-- A length as a script value. -/
def lengthValue (length : Nat) : Value :=
  .integer
    (if length < Nat.pow 2 31 then
      Int32.ofNat length
    else
      Int32.maxValue)

namespace Machine

/--
The receiver is an object fresh from the construction of a class: an ordinary
one that inherits directly from the prototype of the class.
-/
def isFreshInstance
    (machine : Machine)
    (receiver : Value)
    (className : String) :
    Bool :=
  match receiver with
  | .object handle =>
      match machine.heap.get? handle with
      | some object =>
          match object.content, object.prototype with
          | .ordinary, some prototype =>
              machine.prototype? className == some prototype
          | _, _ => false
      | none => false
  | _ => false

/-- The content of the object a receiver names. -/
def contentOf
    (machine : Machine)
    (handle : Handle) :
    Except Fault Content := do
  return (← machine.object handle).content

end Machine

namespace Edit

/-- Give an object another content. -/
def setContent
    (receiver : Value)
    (content : Content) :
    Edit Unit :=
  match receiver with
  | .object handle =>
      modifyObject handle fun object => { object with content := content }
  | _ => return ()

/--
Finish the constructor of a class that has both uses: on a fresh instance it
fills in the content, otherwise it answers with the converted value.
-/
def convertOrFill
    (className : String)
    (receiver : Value)
    (content : Content)
    (converted : Edit Value) :
    Edit Value := do
  if (← get).isFreshInstance receiver className then
    setContent receiver content
    return receiver
  else
    converted

end Edit

end MovieScript
