import MovieScript.Machine.Member

namespace MovieScript

/-!
# What a frame can see

The objects whose members a running frame sees as variables, and the
well-known values that belong to the frame itself.
-/

namespace Machine

/-- The first of some objects that has a member of that name. -/
def firstHolder?
    (machine : Machine)
    (name : String) :
    List Handle → Except Fault (Option Handle)
  | [] => .ok none
  | handle :: rest => do
      if ← machine.hasMember handle name then
        return some handle
      else
        machine.firstHolder? name rest

/-- The scope objects of the top frame, innermost first. -/
def scopeObjects (machine : Machine) : List Handle :=
  match machine.frames with
  | frame :: _ => frame.scopeObjects
  | [] => []

/-- The object through which a name is visible: a scope object or the global one. -/
def visibleHolder?
    (machine : Machine)
    (name : String) :
    Except Fault (Option Handle) :=
  machine.firstHolder? name (machine.scopeObjects ++ [machine.global])

/-- The object a relative path starts from, if a frame is running. -/
def pathStart? (machine : Machine) : Option Handle :=
  match machine.frames with
  | frame :: _ => frame.scopeObjects.head?.or frame.receiver.handle?
  | [] => none

/-- The prototype of the prototype of a receiver. -/
def ancestorOf
    (machine : Machine)
    (receiver : Value) :
    Except Fault Value :=
  match receiver with
  | .object handle => do
      match (← machine.object handle).prototype with
      | some prototype =>
          return .ofHandle? (← machine.object prototype).prototype
      | none => return .undefined
  | _ => .ok .undefined

/-- A variable that the top frame or an enclosing scope binds. -/
def localVariable?
    (machine : Machine)
    (name : String) :
    Option Value :=
  match machine.frames with
  | frame :: _ => machine.scopes.lookup frame.locals name
  | [] => none

/-- The receiver of the top frame; undefined without one. -/
def receiver (machine : Machine) : Value :=
  match machine.frames with
  | frame :: _ => frame.receiver
  | [] => .undefined

end Machine

namespace Edit

/-- The array object of the top frame's arguments, made when first asked for. -/
def argumentsArray : Edit Value := do
  let frame ← ask (·.currentFrame)
  match frame.argumentsObject with
  | some handle => return .object handle
  | none => do
      let handle ← createArray frame.arguments.toArray
      onFrame
        (modify fun frame => { frame with argumentsObject := some handle })
      return .object handle

/-- Bind a variable in the top frame's own scope. -/
def defineInFrame
    (name : String)
    (value : Value) :
    Edit Unit := do
  let frame ← ask (·.currentFrame)
  defineVariable frame.locals name value

/-- Overwrite a variable that the top frame or an enclosing scope binds. -/
def assignInFrame
    (name : String)
    (value : Value) :
    Edit Bool := do
  let frame ← ask (·.currentFrame)
  modifyGet fun machine =>
    let (assigned, scopes) :=
      machine.scopes.assign frame.locals name value
    (assigned, { machine with scopes := scopes })

/--
Make a function object from a definition.  It closes over the variables and
the scope objects of the top frame, and gets a prototype object of its own.
-/
def defineFunction (definition : Definition) : Edit Handle := do
  match definition.validate with
  | .error fault => throw fault
  | .ok _ => do
      let machine ← get
      let closure : Closure :=
        { definition := definition
          scope := machine.frames.head?.map Frame.locals
          scopeObjects := machine.scopeObjects }
      let function ← createFunction (.defined closure)
      let prototype ← createObject
      modifyObject prototype
        (·.withProperty "constructor" (.hidden (.object function)))
      modifyObject function
        (·.withProperty "prototype" (.hidden (.object prototype)))
      return function

end Edit

end MovieScript
