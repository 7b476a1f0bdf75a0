import MovieScript.Act.Basic

namespace MovieScript.Act

/-!
# Calls and member access

A call made by the host opens a host entry, runs the function to its end and
closes the entry again, whatever happens in between.  Reading and writing
members can call accessor functions in this way.
-/

variable {σ : Type}

/-- Run the frames above `base` and take what the bottom one returned. -/
def finishEntry (base : Nat) : Act σ Value := do
  runAbove base
  Edit.takeHostResult

/-- Call a function to its end and return its result. -/
def call
    (function receiver : Value)
    (arguments : List Value) :
    Act σ Value := do
  let base ← Edit.enterHost
  let outcome ← attempt do
    match ← invoke function receiver arguments with
    | .complete value => return value
    | .pending => finishEntry base
  Edit.leaveHost base outcome

/-- The number of registers of a frame that runs a top-level script. -/
def topLevelRegisters : Nat :=
  4

/-- Run a top-level script with an object as receiver and scope object. -/
def executeScript
    (code : Array UInt8)
    (constants : Array Value)
    (target : Handle) :
    Act σ Value := do
  discard (ask (·.object target))
  let locals ← Edit.createScope none
  let frame :=
    { Frame.new code constants topLevelRegisters locals
        (.object target) with
      scopeObjects := [target] }
  let base ← Edit.enterHost
  let outcome ← attempt do
    Edit.pushFrame frame
    finishEntry base
  Edit.leaveHost base outcome

/-- Read a member; an accessor runs its getter on the object. -/
def getMember
    (handle : Handle)
    (name : String) :
    Act σ Value := do
  match ← ask (·.resolve handle name) with
  | .value value => return value
  | .missing => return .undefined
  | .accessor (some getter) _ =>
      call (.object getter) (.object handle) []
  | .accessor none _ => fail (.noGetter name)

/-- Read a member of any value; a primitive is boxed first. -/
def getValueMember
    (value : Value)
    (name : String) :
    Act σ Value := do
  let handle ← Edit.toObject value
  getMember handle name

/-- Write a member; an accessor runs its setter on the object. -/
def setMember
    (handle : Handle)
    (name : String)
    (value : Value) :
    Act σ Unit := do
  match ← (Edit.writeMember handle name value : Edit Edit.Write) with
  | .done => return ()
  | .setter setter =>
      discard (call (.object setter) (.object handle) [value])

/-- The method of a value under a name, which must be a function. -/
def methodOf
    (target : Value)
    (name : String) :
    Act σ Value := do
  let method ← getValueMember target name
  if ← inspect (·.isCallable method) then
    return method
  else
    fail (.notAFunction name)

/-- Call a method of a value to its end. -/
def callMethod
    (target : Value)
    (name : String)
    (arguments : List Value) :
    Act σ Value := do
  let method ← methodOf target name
  call method target arguments

/--
Call from a running frame: a result that is there at once goes onto the
frame's operand stack, a pushed frame will deliver its own.
-/
def callFromFrame
    (function receiver : Value)
    (arguments : List Value) :
    Act σ Unit := do
  match ← invoke function receiver arguments with
  | .complete value => Edit.pushOperand value
  | .pending => return ()

/-- Call a method of a value from a running frame. -/
def callMethodFromFrame
    (target : Value)
    (name : String)
    (arguments : List Value) :
    Act σ Unit := do
  let method ← methodOf target name
  callFromFrame method target arguments

/-- The prototype of the objects that a function makes. -/
def instancePrototype (maker : Handle) : Act σ (Option Handle) := do
  match ← getMember maker "prototype" with
  | .object prototype => return some prototype
  | _ => inspect (·.prototype? "Object")

/-- A new object that a constructor has not worked on yet. -/
def instantiate (constructor : Value) : Act σ Handle := do
  let (maker, _) ← ask (·.toFunction constructor)
  let prototype ← instancePrototype maker
  Edit.alloc
    { ScriptObject.new prototype .ordinary with
      constructor := some maker }

/--
Make an object with a constructor: it inherits from the constructor's
`prototype`, the constructor runs on it, and an object that the constructor
returns takes its place.
-/
def construct
    (constructor : Value)
    (arguments : List Value) :
    Act σ Value := do
  let fresh ← instantiate constructor
  match ← call constructor (.object fresh) arguments with
  | .object result => return .object result
  | _ => return .object fresh

/-- The constructor of a class that is known by name. -/
def classConstructor (className : String) : Act σ Value := do
  match ← inspect (·.constructor? className) with
  | some constructor => return .object constructor
  | none => do
      let global ← inspect (·.global)
      getMember global className

/-- Make an object of a class that is known by name. -/
def constructClass
    (className : String)
    (arguments : List Value) :
    Act σ Value := do
  let constructor ← classConstructor className
  if ← inspect (·.isCallable constructor) then
    construct constructor arguments
  else
    fail (.notAConstructor className)

end MovieScript.Act
