import MovieScript.Fault
import MovieScript.Scope
import MovieScript.Text.Escaped

namespace MovieScript

/-!
# Frames

One running function body: its registers, local scope, constants, instruction
cursor, operand stack and scope objects.  Operations on the cursor keep
whatever progress they made when they fail.
-/

/-- The stages in the life of a frame. -/
inductive FrameState where
  | created
  | binding
  | preloading
  | running
  | returned
  deriving Repr, DecidableEq

namespace FrameState

/-- The stage as diagnostics write it. -/
def label : FrameState → String
  | .created => "Created"
  | .binding => "Binding"
  | .preloading => "Preloading"
  | .running => "Running"
  | .returned => "Returned"

end FrameState

/-- One live call of a function body. -/
structure Frame where
  registers : Array Value
  locals : ScopeId
  constants : Array Value
  code : Array UInt8
  /-- The index of the next instruction byte. -/
  position : Nat
  /-- The operand stack, top first. -/
  stack : List Value
  /-- Objects whose members are visible as variables, innermost first. -/
  scopeObjects : List Handle
  receiver : Value
  callee : Option Handle
  arguments : List Value
  /-- The array that scripts see as `arguments`, once it was asked for. -/
  argumentsObject : Option Handle
  state : FrameState
  name : Option String

/-- Work on a frame that can fail and keeps the frame as it is then. -/
abbrev FrameEdit := EStateM Fault Frame

namespace Frame

/-- A frame at the start of its code, with undefined registers. -/
def new
    (code : Array UInt8)
    (constants : Array Value)
    (registerCount : Nat)
    (locals : ScopeId)
    (receiver : Value) :
    Frame where
  registers := Array.replicate registerCount .undefined
  locals := locals
  constants := constants
  code := code
  position := 0
  stack := []
  scopeObjects := []
  receiver := receiver
  callee := none
  arguments := []
  argumentsObject := none
  state := .created
  name := none

/-- The cursor has run off the end of the code. -/
def atEnd (frame : Frame) : Bool :=
  frame.code.size ≤ frame.position

/-- The name of the function for diagnostics. -/
def label (frame : Frame) : String :=
  frame.name.getD "<anonymous>"

/-- A register of the frame. -/
def register
    (frame : Frame)
    (index : Nat) :
    Except Fault Value :=
  match frame.registers[index]? with
  | some value => .ok value
  | none => .error (.invalidRegister index frame.registers.size)

/-- Write a register of the frame. -/
def setRegister
    (frame : Frame)
    (index : Nat)
    (value : Value) :
    Except Fault Frame :=
  if index < frame.registers.size then
    .ok
      { frame with
        registers := frame.registers.setIfInBounds index value }
  else
    .error (.invalidRegister index frame.registers.size)

/-- A constant of the pool. -/
def constant
    (frame : Frame)
    (index : Nat) :
    Except Fault Value :=
  match frame.constants[index]? with
  | some value => .ok value
  | none => .error (.constantOutsidePool index frame.constants.size)

/-- Put a value on the operand stack. -/
def push
    (frame : Frame)
    (value : Value) :
    Frame :=
  { frame with stack := value :: frame.stack }

/-- Take a value off the operand stack; an empty stack gives undefined. -/
def pop (frame : Frame) : Value × Frame :=
  match frame.stack with
  | [] => (.undefined, frame)
  | value :: rest => (value, { frame with stack := rest })

/-- Move the cursor to a byte of the code, or just behind the last one. -/
def jumpTo (target : Nat) : FrameEdit Unit := do
  let frame ← get
  if frame.code.size < target then
    throw (.jumpBehindEnd target frame.code.size)
  else
    set { frame with position := target }

/-- Move the cursor by a signed distance. -/
def jumpBy (distance : Int) : FrameEdit Unit := do
  let target : Int := (← get).position + distance
  if target < 0 then
    throw (.jumpBeforeStart target)
  else
    jumpTo target.toNat

/-- Read one instruction byte. -/
def readByte : FrameEdit UInt8 := do
  let frame ← get
  match frame.code[frame.position]? with
  | some byte =>
      set { frame with position := frame.position + 1 }
      return byte
  | none => throw (.readPastEnd frame.position)

/-- Read two instruction bytes, the low one first. -/
def readWord : FrameEdit UInt16 := do
  let low ← readByte
  let high ← readByte
  return low.toUInt16 ||| (high.toUInt16 <<< 8)

/-- Read two instruction bytes as a signed number. -/
def readSignedWord : FrameEdit Int16 := do
  return (← readWord).toInt16

/-- Every handle the frame holds, its variables included. -/
def references
    (frame : Frame)
    (scopes : Scopes) :
    List Handle :=
  (frame.registers.toList ++ frame.stack ++ frame.arguments ++
      frame.constants.toList ++ [frame.receiver]).flatMap
        Value.references ++
    frame.scopeObjects ++ frame.callee.toList ++
    frame.argumentsObject.toList ++ scopes.references frame.locals

/-- The frame as diagnostics write it. -/
def diagnostic (frame : Frame) : String :=
  "ActionContext \x7b name: " ++ Text.quoted frame.label ++
    ", pc: " ++ toString frame.position ++
    ", registers: " ++ toString frame.registers.size ++
    ", stack: " ++ toString frame.stack.length ++
    ", state: " ++ frame.state.label ++ " \x7d"

end Frame

end MovieScript
