import MovieScript.Callable
import MovieScript.Machine.Member

namespace MovieScript

/-!
# Making a machine

A machine starts with the built-in classes: for each of them a prototype
object with its members, and a constructor function on the global object.
-/

/-- One member of a built-in class. -/
inductive ClassMember where
  | method (name : String) (function : Builtin)
  | accessor (name : String) (getter setter : Option Builtin)
  | constant (name : String) (value : Value)

/-- A built-in class. -/
structure ClassTable where
  name : String
  /-- The class whose prototype this class's prototype inherits from. -/
  base : Option String
  constructor : Builtin
  /-- Members of the prototype. -/
  members : List ClassMember
  /-- Members of the constructor. -/
  statics : List ClassMember

namespace ClassTable

/-- The base of all objects. -/
def object : ClassTable where
  name := "Object"
  base := none
  constructor := .objectConstructor
  members :=
    [.method "hasOwnProperty" .objectHasOwnProperty,
      .method "toString" .objectToString,
      .method "valueOf" .objectValueOf,
      .method "addProperty" .objectAddProperty]
  statics := []

/-- Functions. -/
def function : ClassTable where
  name := "Function"
  base := none
  constructor := .functionConstructor
  members :=
    [.method "call" .functionCall, .method "apply" .functionApply]
  statics := []

/-- Boxed booleans. -/
def boolean : ClassTable where
  name := "Boolean"
  base := none
  constructor := .booleanConstructor
  members :=
    [.method "valueOf" .booleanValueOf,
      .method "toString" .booleanToString]
  statics := []

/-- Boxed numbers, and the limits of numbers. -/
def number : ClassTable where
  name := "Number"
  base := none
  constructor := .numberConstructor
  members :=
    [.method "valueOf" .numberValueOf,
      .method "toString" .numberToString]
  statics :=
    [.constant "MAX_VALUE" (.float (Float.ofBits 0x7FEFFFFFFFFFFFFF)),
      .constant "MIN_VALUE" (.float (Float.ofBits 1)),
      .constant "NaN" (.float Numeral.notANumber),
      .constant "POSITIVE_INFINITY"
        (.float (Float.ofBits 0x7FF0000000000000)),
      .constant "NEGATIVE_INFINITY"
        (.float (Float.ofBits 0xFFF0000000000000))]

/-- Boxed texts. -/
def text : ClassTable where
  name := "String"
  base := none
  constructor := .stringConstructor
  members :=
    [.accessor "length" (some .stringLength) none,
      .method "substr" .stringSubstr,
      .method "valueOf" .stringValueOf,
      .method "toString" .stringToString]
  statics := []

/-- Arrays. -/
def array : ClassTable where
  name := "Array"
  base := none
  constructor := .arrayConstructor
  members :=
    [.accessor "length" (some .arrayLength) (some .arraySetLength),
      .method "push" .arrayPush,
      .method "join" .arrayJoin]
  statics := []

/-- A display member that can be read and written. -/
def displayProperty
    (name : String)
    (property : DisplayMember) :
    ClassMember :=
  .accessor name (some (.displayRead property))
    (some (.displayWrite property))

/-- A display member that can only be read. -/
def displayReadOnly
    (name : String)
    (property : DisplayMember) :
    ClassMember :=
  .accessor name (some (.displayRead property)) none

/-- What all display objects have in common. -/
def stageObject : ClassTable where
  name := "StageObject"
  base := none
  constructor := .stageConstructor
  members :=
    [displayProperty "_x" .x, displayProperty "_y" .y,
      displayProperty "_xscale" .xScale,
      displayProperty "_yscale" .yScale,
      displayProperty "_alpha" .alpha,
      displayProperty "_visible" .visible,
      displayProperty "_name" .name,
      displayReadOnly "_parent" .parent,
      displayReadOnly "_target" .target]
  statics := []

/-- Text fields. -/
def textField : ClassTable where
  name := "TextField"
  base := some "StageObject"
  constructor := .stageConstructor
  members :=
    [.accessor "textColor" (some .textColour) (some .setTextColour)]
  statics := []

/-- Movie clips. -/
def movieClip : ClassTable where
  name := "MovieClip"
  base := some "StageObject"
  constructor := .stageConstructor
  members :=
    [.accessor "_currentframe" (some .currentFrame) none,
      .method "gotoAndPlay" .gotoAndPlay,
      .method "gotoAndStop" .gotoAndStop,
      .method "play" .play,
      .method "stop" .stop]
  statics := []

/-- All classes; a base comes before the classes built on it. -/
def all : List ClassTable :=
  [object, function, boolean, number, text, array, stageObject,
    textField, movieClip]

/-- The functions on the global object. -/
def globals : List ClassMember :=
  [.method "getTime" .getTime, .method "setInterval" .setInterval,
    .method "clearInterval" .clearInterval,
    .method "loadMovie" .loadMovie, .method "attachMovie" .attachMovie,
    .method "trace" .trace]

end ClassTable

namespace Edit

/-- Define a built-in member; it is a fault if something is in the way. -/
def install
    (target : Handle)
    (name : String)
    (property : Property) :
    Edit Unit := do
  if ← defineProperty target name property then
    return ()
  else
    throw (.builtinRefused name)

/-- Make a function object for an accessor that exists. -/
def createAccessor
    (name : String) :
    Option Builtin → Edit (Option Handle)
  | some function => return some (← createBuiltin name function)
  | none => return none

/-- Install one member of a built-in class. -/
def installMember
    (target : Handle)
    (member : ClassMember) :
    Edit Unit := do
  match member with
  | .method name function => do
      let handle ← createBuiltin name function
      install target name (.method handle)
  | .accessor name getter setter => do
      let getter ← createAccessor name getter
      let setter ← createAccessor name setter
      install target name (.accessor getter setter false false)
  | .constant name value => install target name (.constant value)

/-- The prototype object of a class, made unless it is there already. -/
def classPrototype
    (table : ClassTable)
    (objectPrototype : Handle) :
    Edit Handle := do
  let machine ← get
  match machine.prototype? table.name with
  | some existing => return existing
  | none =>
      let base := (table.base.bind machine.prototype?).getD objectPrototype
      createObjectWith (some base)

/-- Build one class and register it. -/
def installClass
    (objectPrototype : Handle)
    (table : ClassTable) :
    Edit Unit := do
  let prototype ← classPrototype table objectPrototype
  let constructor ← createBuiltin table.name table.constructor
  install constructor "prototype" (.hidden (.object prototype))
  install prototype "constructor" (.hidden (.object constructor))
  table.members.forM (installMember prototype)
  table.statics.forM (installMember constructor)
  modify fun machine =>
    { machine with
      prototypes := machine.prototypes.insert table.name prototype
      constructors := machine.constructors.insert table.name constructor }
  let global := (← get).global
  install global table.name (.hidden (.object constructor))

/-- Build the classes and fill the global object. -/
def bootstrap : Edit Unit := do
  let objectPrototype ← alloc .blank
  let functionPrototype ← alloc (.new (some objectPrototype) .ordinary)
  modify fun machine =>
    { machine with
      prototypes :=
        (machine.prototypes.insert "Object" objectPrototype).insert
          "Function" functionPrototype }
  ClassTable.all.forM (installClass objectPrototype)
  let machine ← get
  modifyObject machine.global fun object =>
    { object with prototype := some objectPrototype }
  modifyObject machine.external fun object =>
    { object with prototype := some objectPrototype }
  ClassTable.globals.forM (installMember machine.global)

end Edit

namespace Machine

/-- A machine with its two well-known objects and no classes yet. -/
def bare
    (configuration : Configuration)
    (clock : Nat) :
    Machine :=
  let start : Heap ScriptObject :=
    Heap.empty.setThreshold configuration.collectionThreshold
  let (global, withGlobal) := start.alloc .blank
  let (external, heap) := withGlobal.alloc .blank
  { heap := heap
    global := global
    external := external
    root := none
    prototypes := .empty
    constructors := .empty
    frames := []
    barriers := []
    hostResult := none
    intervals := .empty
    intervalCounter := 0
    clock := clock
    startedAt := clock
    loader := none
    configuration := configuration
    scopes := .empty
    scene := .empty
    log := [] }

/-- Make a machine, or report why a class could not be built. -/
def create?
    (configuration : Configuration)
    (clock : Nat) :
    Except Fault Machine :=
  match Edit.bootstrap (bare configuration clock) with
  | .ok _ machine => .ok machine
  | .error fault _ => .error fault

/-- Make a machine; a class that could not be built is reported in its log. -/
def create
    (configuration : Configuration)
    (clock : Nat) :
    Machine :=
  match Edit.bootstrap (bare configuration clock) with
  | .ok _ machine => machine
  | .error fault machine =>
      { machine with
        log :=
          ⟨.error, "vm bootstrap failed: " ++ fault.message⟩ ::
            machine.log }

end Machine

end MovieScript
