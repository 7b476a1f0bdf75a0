import MovieScript.Configuration
import MovieScript.Frame
import MovieScript.Heap.Collection
import MovieScript.Interval
import MovieScript.Object

namespace MovieScript

/-!
# The machine

Everything the script engine owns: the objects, the well-known ones among
them, the frames that are live, the open host entries, the intervals and the
display tree.  An `Edit` is work on the machine that runs no script and no
host code; when it fails it keeps the changes made so far.
-/

/-- How urgent a log record is. -/
inductive LogLevel where
  | info
  | warn
  | error
  deriving Repr, DecidableEq

namespace LogLevel

/-- The level as it is written in front of a record. -/
def label : LogLevel → String
  | .info => "info"
  | .warn => "warn"
  | .error => "error"

end LogLevel

/-- One message for the host's log. -/
structure LogRecord where
  level : LogLevel
  text : String
  deriving Repr, DecidableEq

/-- How the host loads further movies. -/
structure DocumentLoader where
  loadMovie : String → Except Fault Value
  attachMovie : String → String → Int32 → Except Fault Value

/-- The state of the script engine. -/
structure Machine where
  heap : Heap ScriptObject
  /-- The object that holds the global variables. -/
  global : Handle
  /-- The object that holds the variables the host provides. -/
  external : Handle
  /-- The script object of the root movie. -/
  root : Option Handle
  /-- The prototypes of the built-in classes. -/
  prototypes : Table String Handle
  /-- The constructors of the built-in classes. -/
  constructors : Table String Handle
  /-- The live frames, innermost first. -/
  frames : List Frame
  /-- The number of frames below each open host entry, innermost first. -/
  barriers : List Nat
  /-- What the frame that a host entry waits for has returned. -/
  hostResult : Option Value
  /-- The registered intervals in firing order. -/
  intervals : Table String Interval
  /-- The number of the last generated interval name. -/
  intervalCounter : UInt32
  /-- The time on the host's clock, in milliseconds. -/
  clock : Nat
  /-- The time at which the machine was made. -/
  startedAt : Nat
  loader : Option DocumentLoader
  configuration : Configuration
  scopes : Scopes
  scene : Scene
  /-- Messages for the host, newest first. -/
  log : List LogRecord

/-- Work on the machine that runs no script and no host code. -/
abbrev Edit := EStateM Fault Machine

namespace Machine

/-- The number of live frames. -/
def depth (machine : Machine) : Nat :=
  machine.frames.length

/-- The object a handle names. -/
def object
    (machine : Machine)
    (handle : Handle) :
    Except Fault ScriptObject :=
  match machine.heap.get? handle with
  | some object => .ok object
  | none => .error (.danglingReference handle)

/-- The prototype of a built-in class. -/
def prototype?
    (machine : Machine)
    (className : String) :
    Option Handle :=
  machine.prototypes.get? className

/-- The constructor of a built-in class. -/
def constructor?
    (machine : Machine)
    (className : String) :
    Option Handle :=
  machine.constructors.get? className

/-- The frame that runs at the moment. -/
def currentFrame (machine : Machine) : Except Fault Frame :=
  match machine.frames with
  | frame :: _ => .ok frame
  | [] => .error .noActiveFrame

/-- Milliseconds since the machine was made. -/
def elapsed (machine : Machine) : Nat :=
  machine.clock - machine.startedAt

/-- Keep only the outermost frames, as many as `count`. -/
def keepFrames
    (machine : Machine)
    (count : Nat) :
    Machine :=
  { machine with
    frames := machine.frames.drop (machine.frames.length - count) }

/-- The handles that collection starts from, pins apart. -/
def roots (machine : Machine) : List Handle :=
  [machine.global, machine.external] ++
    machine.root.toList ++
    machine.prototypes.values ++
    machine.constructors.values ++
    machine.frames.flatMap (·.references machine.scopes) ++
    machine.intervals.values.flatMap Interval.references ++
    (machine.hostResult.map Value.references).getD []

end Machine

namespace Edit

/-- Ask the machine for something that it may not have. -/
def ask (question : Machine → Except Fault α) : Edit α := do
  match question (← get) with
  | .ok answer => return answer
  | .error fault => throw fault

/-- Write a message to the host's log. -/
def report
    (level : LogLevel)
    (text : String) :
    Edit Unit :=
  modify fun machine =>
    { machine with log := ⟨level, text⟩ :: machine.log }

/-- Move an object into the heap. -/
def alloc (object : ScriptObject) : Edit Handle :=
  modifyGet fun machine =>
    let (handle, heap) := machine.heap.alloc object
    (handle, { machine with heap := heap })

/-- Change the object a handle names. -/
def modifyObject
    (handle : Handle)
    (change : ScriptObject → ScriptObject) :
    Edit Unit := do
  if (← get).heap.contains handle then
    modify fun machine =>
      { machine with heap := machine.heap.modify handle change }
  else
    throw (.danglingReference handle)

/-- Make an ordinary object with a given prototype. -/
def createObjectWith (prototype : Option Handle) : Edit Handle :=
  alloc (.new prototype .ordinary)

/-- Make an ordinary object that inherits from `Object.prototype`. -/
def createObject : Edit Handle := do
  createObjectWith ((← get).prototype? "Object")

/-- Make an object of a built-in class with a given content. -/
def createInstance
    (className : String)
    (content : Content) :
    Edit Handle := do
  let machine ← get
  alloc
    { ScriptObject.new (machine.prototype? className) content with
      constructor := machine.constructor? className }

/-- Make an array object. -/
def createArray (elements : Array Value) : Edit Handle :=
  createInstance "Array" (.array elements)

/-- Make a function object that inherits from `Function.prototype`. -/
def createFunction (callable : Callable) : Edit Handle := do
  alloc (.new ((← get).prototype? "Function") (.function callable))

/-- Make a function object for one of the library's functions. -/
def createBuiltin
    (name : String)
    (function : Builtin) :
    Edit Handle :=
  createFunction (.native ⟨name, .builtin function⟩)

/-- Install one of the library's functions as a method. -/
def registerMethod
    (target : Handle)
    (name : String)
    (function : Builtin) :
    Edit Unit := do
  let handle ← createBuiltin name function
  modifyObject target (·.withProperty name (.method handle))

/-- Make the script object of a display item; it stays pinned until released. -/
def createStageObject
    (item : ItemId)
    (kind : StageKind) :
    Edit Handle := do
  let handle ← createInstance kind.className (.stage item kind)
  modify fun machine => { machine with heap := machine.heap.pin handle }
  return handle

/-- Keep an object alive while the host holds its handle. -/
def pin (handle : Handle) : Edit Unit :=
  modify fun machine => { machine with heap := machine.heap.pin handle }

/-- Take one pin back; `false` if there was none. -/
def unpin (handle : Handle) : Edit Bool :=
  modifyGet fun machine =>
    let (unpinned, heap) := machine.heap.unpin handle
    (unpinned, { machine with heap := heap })

/-- Change the number of allocations between automatic collections. -/
def setThreshold (threshold : UInt64) : Edit Unit :=
  modify fun machine =>
    { machine with
      configuration :=
        { machine.configuration with collectionThreshold := threshold }
      heap := machine.heap.setThreshold threshold }

/-- Run a collection, which is allowed only while no frame is live. -/
def collectGarbage : Edit Nat := do
  if (← get).frames.isEmpty then
    modifyGet fun machine =>
      let (collected, heap) :=
        machine.heap.collect
          (ScriptObject.references machine.scopes) machine.roots
      (collected, { machine with heap := heap })
  else
    throw .collectionWhileRunning

/-- Run a collection if it is wanted and allowed. -/
def collectIfDue : Edit Unit := do
  let machine ← get
  if machine.frames.isEmpty && machine.heap.shouldCollect then
    discard collectGarbage

/-- Set the script object of the root movie. -/
def setRoot (root : Option Handle) : Edit Unit :=
  modify fun machine => { machine with root := root }

/-- Move the clock forward; it stops at the end of time. -/
def advanceClock (milliseconds : Nat) : Edit Unit :=
  modify fun machine =>
    { machine with clock := min clockLimit (machine.clock + milliseconds) }

/-- Set the clock. -/
def setClock (milliseconds : Nat) : Edit Unit :=
  modify fun machine => { machine with clock := milliseconds }

/-- Make a scope for the variables of a call. -/
def createScope (outer : Option ScopeId) : Edit ScopeId :=
  modifyGet fun machine =>
    let (id, scopes) := machine.scopes.create outer
    (id, { machine with scopes := scopes })

/-- Bind a variable in a scope. -/
def defineVariable
    (scope : ScopeId)
    (name : String)
    (value : Value) :
    Edit Unit :=
  modify fun machine =>
    { machine with scopes := machine.scopes.define scope name value }

/-- Push a frame; it is the one that runs next. -/
def pushFrame (frame : Frame) : Edit Unit := do
  let machine ← get
  if machine.depth < machine.configuration.maxCallDepth then
    set
      { machine with
        frames := { frame with state := .running } :: machine.frames }
  else
    throw (.stackExhaustion machine.configuration.maxCallDepth)

/--
Pop the top frame and deliver what it returned: to the host entry that waits
at this depth, or onto the operand stack of the frame below.
-/
def returnFromFrame (value : Value) : Edit Unit := do
  let machine ← get
  match machine.frames with
  | [] => throw .returnWithoutFrame
  | _ :: callers =>
      if machine.barriers.head? = some callers.length then
        set { machine with frames := callers, hostResult := some value }
      else
        match callers with
        | [] => set { machine with frames := [] }
        | caller :: rest =>
            set { machine with frames := caller.push value :: rest }

/-- Work on the top frame. -/
def onFrame (edit : FrameEdit α) : Edit α := fun machine =>
  match machine.frames with
  | [] => .error .noActiveFrame machine
  | frame :: callers =>
      match edit frame with
      | .ok result changed =>
          .ok result { machine with frames := changed :: callers }
      | .error fault changed =>
          .error fault { machine with frames := changed :: callers }

/-- Put a value on the operand stack of the top frame. -/
def pushOperand (value : Value) : Edit Unit :=
  onFrame (modify (·.push value))

/-- Take a value off the operand stack of the top frame. -/
def popOperand : Edit Value :=
  onFrame (modifyGet Frame.pop)

/--
Open a host entry above the live frames.  Entries nest on the host's own
stack, so their number is bounded apart from the number of frames.
-/
def enterHost : Edit Nat := do
  let machine ← get
  if machine.barriers.length < machine.configuration.maxHostDepth then
    set { machine with barriers := machine.depth :: machine.barriers }
    return machine.depth
  else
    report .warn
      ("host entry refused at nesting " ++
        toString machine.barriers.length)
    throw (.stackExhaustion machine.configuration.maxHostDepth)

/-- Close a host entry; a failed one discards every frame it left behind. -/
def leaveHost
    (base : Nat)
    (outcome : Except Fault Value) :
    Edit Value := do
  modify fun machine =>
    { machine with barriers := machine.barriers.tail }
  match outcome with
  | .ok value => return value
  | .error fault =>
      modify fun machine =>
        { machine.keepFrames base with hostResult := none }
      throw fault

/-- Take the value that the awaited frame has returned. -/
def takeHostResult : Edit Value := do
  let machine ← get
  match machine.hostResult with
  | some value =>
      set { machine with hostResult := none }
      return value
  | none => throw .missingResult

/-- Tear the running movie down: intervals, frames, host entries and pins. -/
def unload : Edit Unit := do
  modify fun machine =>
    { machine with
      intervals := .empty
      frames := []
      barriers := []
      hostResult := none
      root := none
      heap := machine.heap.clearPins }
  discard collectGarbage

end Edit

end MovieScript
