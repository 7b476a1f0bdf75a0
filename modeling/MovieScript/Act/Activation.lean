import MovieScript.Act.Call
import MovieScript.Machine.Visibility

namespace MovieScript.Act

/-!
# Activation of defined functions

The frame of a call is built before it is pushed: parameters are bound first,
then the requested well-known values go into their registers.
-/

variable {σ : Type}

/-- Bind parameters to arguments, in registers of the frame or as variables. -/
def bindParameters :
    Frame → List Parameter → List Value → Act σ Frame
  | frame, [], _ => return frame
  | frame, parameter :: rest, arguments => do
      let value := arguments.headD .undefined
      let bound ←
        match parameter.register? with
        | some register => ask fun _ => frame.setRegister register value
        | none => do
            Edit.defineVariable frame.locals parameter.name value
            pure frame
      bindParameters bound rest arguments.tail

/-- A well-known value of a frame that is being built, and the frame with it. -/
def wellKnownValue
    (frame : Frame)
    (kind : Preload) :
    Act σ (Value × Frame) := do
  match kind with
  | .receiver => return (frame.receiver, frame)
  | .arguments =>
      match frame.argumentsObject with
      | some handle => return (.object handle, frame)
      | none => do
          let handle ← Edit.createArray frame.arguments.toArray
          return (.object handle,
            { frame with argumentsObject := some handle })
  | .ancestor =>
      return (← ask (·.ancestorOf frame.receiver), frame)
  | .root => return (.ofHandle? (← inspect (·.root)), frame)
  | .parent =>
      match frame.receiver with
      | .object handle =>
          return (← getMember handle "_parent", frame)
      | _ => return (.undefined, frame)
  | .global => return (.object (← inspect (·.global)), frame)
  | .external => return (.object (← inspect (·.external)), frame)

/-- Put well-known values into their registers. -/
def preloadValues :
    Frame → List (Preload × Nat) → Act σ Frame
  | frame, [] => return frame
  | frame, (kind, register) :: rest => do
      let (value, marked) ← wellKnownValue frame kind
      let loaded ← ask fun _ => marked.setRegister register value
      preloadValues loaded rest

/-- Build the frame for one call of a defined function. -/
def buildFrame
    (closure : Closure)
    (callee : Handle)
    (receiver : Value)
    (arguments : List Value) :
    Act σ Frame := do
  let definition := closure.definition
  let locals ← Edit.createScope closure.scope
  let fresh :=
    { Frame.new definition.code definition.constants
        definition.frameRegisterCount locals receiver with
      name := definition.name
      callee := some callee
      arguments := arguments
      scopeObjects := closure.scopeObjects
      state := .binding }
  let bound ← bindParameters fresh definition.parameters arguments
  if definition.usesRegisters then
    preloadValues { bound with state := .preloading }
      definition.preloadRegisters
  else
    return bound

end MovieScript.Act
