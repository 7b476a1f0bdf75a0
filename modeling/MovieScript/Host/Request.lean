import MovieScript.Act.Activation
import MovieScript.Act.Exchange
import MovieScript.Act.Tick
import MovieScript.Act.Variable
import MovieScript.Classes.Builtin

namespace MovieScript

/-!
# What a host can ask of the machine

The operations that are open to the host and to the functions it implements,
as data.  Each request has the type of its answer, and `Request.perform` says
what it does.
-/

/-- One operation of the machine, with the type of its answer. -/
inductive Request : Type → Type 1 where
  /-- Look at the machine without changing it. -/
  | inspect {β : Type} (question : Machine → β) : Request β
  /-- Take the log records written so far, oldest first. -/
  | drainLog : Request (List LogRecord)
  -- Objects
  | alloc (object : ScriptObject) : Request Handle
  | createObject : Request Handle
  | createObjectWith (prototype : Option Handle) : Request Handle
  | createArray (elements : Array Value) : Request Handle
  | createNative (function : Native) : Request Handle
  | defineFunction (definition : Definition) : Request Handle
  | registerMethod (target : Handle) (name : String)
      (function : Builtin) : Request Unit
  | toObject (value : Value) : Request Handle
  -- Members
  | getMember (handle : Handle) (name : String) : Request Value
  | getValueMember (value : Value) (name : String) : Request Value
  | setMember (handle : Handle) (name : String) (value : Value) :
      Request Unit
  | deleteMember (handle : Handle) (name : String) : Request Bool
  | defineProperty (handle : Handle) (name : String)
      (property : Property) : Request Bool
  | setPrototype (handle : Handle) (prototype : Option Handle) :
      Request Unit
  -- Calls
  | invoke (function receiver : Value) (arguments : List Value) :
      Request Invocation
  | call (function receiver : Value) (arguments : List Value) :
      Request Value
  | callMethod (target : Value) (name : String)
      (arguments : List Value) : Request Value
  | callFromFrame (function receiver : Value)
      (arguments : List Value) : Request Unit
  | callMethodFromFrame (target : Value) (name : String)
      (arguments : List Value) : Request Unit
  | construct (constructor : Value) (arguments : List Value) :
      Request Value
  | constructClass (className : String) (arguments : List Value) :
      Request Value
  | executeScript (code : Array UInt8) (constants : Array Value)
      (target : Handle) : Request Value
  -- Frames
  | createScope (outer : Option ScopeId) : Request ScopeId
  | pushFrame (frame : Frame) : Request Unit
  | returnFromFrame (value : Value) : Request Unit
  | runAbove (depth : Nat) : Request Unit
  | jumpTo (target : Nat) : Request Unit
  | jumpBy (distance : Int) : Request Unit
  | readByte : Request UInt8
  | readWord : Request UInt16
  | readSignedWord : Request Int16
  | pushOperand (value : Value) : Request Unit
  | popOperand : Request Value
  | setRegister (index : Nat) (value : Value) : Request Unit
  | defineInFrame (name : String) (value : Value) : Request Unit
  | pushScopeObject (handle : Handle) : Request Unit
  | popScopeObject : Request (Option Handle)
  -- Variables and paths
  | getVariable (name : String) : Request Value
  | setVariable (name : String) (value : Value) : Request Unit
  | defineLocal (name : String) (value : Value) : Request Unit
  | resolvePath (start : Handle) (path : String) : Request Value
  | resolveTextVariable (handle : Handle) (path : String) :
      Request Value
  | setRoot (root : Option Handle) : Request Unit
  | unload : Request Unit
  -- Documents
  | importDocument (document : Document) : Request Value
  | exportDocument (value : Value) : Request Document
  -- Time
  | createInterval (name : String) (period : Nat)
      (callback receiver : Value) (arguments : List Value) :
      Request Unit
  | clearInterval (name : String) : Request Bool
  | tick : Request Nat
  | advanceClock (milliseconds : Nat) : Request Unit
  | setClock (milliseconds : Nat) : Request Unit
  -- Memory
  | collectGarbage : Request Nat
  | pin (handle : Handle) : Request Unit
  | unpin (handle : Handle) : Request Bool
  | setThreshold (threshold : UInt64) : Request Unit
  -- Display
  | addItem (item : Item) : Request ItemId
  | setParent (item : ItemId) (parent : Option ItemId) : Request Unit
  | setScript (item : ItemId) (script : Option Handle) : Request Unit
  | holdItem (item : ItemId) (exclusive : Bool) : Request Unit
  | letItemGo (item : ItemId) (exclusive : Bool) : Request Unit
  | createStageObject (item : ItemId) (kind : StageKind) :
      Request Handle
  | getDisplayProperty (handle : Handle) (index : Nat) : Request Value
  | setDisplayProperty (handle : Handle) (index : Nat)
      (value : Value) : Request Unit

namespace Edit

/-- Take the log records written so far, oldest first. -/
def drainLog : Edit (List LogRecord) :=
  modifyGet fun machine =>
    (machine.log.reverse, { machine with log := [] })

/-- Write a register of the top frame. -/
def setRegister
    (index : Nat)
    (value : Value) :
    Edit Unit :=
  onFrame do
    match (← get).setRegister index value with
    | .ok frame => set frame
    | .error fault => throw fault

/-- Make the members of an object visible to the top frame. -/
def pushScopeObject (handle : Handle) : Edit Unit :=
  onFrame
    (modify fun frame =>
      { frame with scopeObjects := handle :: frame.scopeObjects })

/-- Take the innermost scope object of the top frame away. -/
def popScopeObject : Edit (Option Handle) :=
  onFrame
    (modifyGet fun frame =>
      (frame.scopeObjects.head?,
        { frame with scopeObjects := frame.scopeObjects.tail }))

/-- Change the display tree. -/
def onScene (change : Scene → Scene) : Edit Unit :=
  modify fun machine => { machine with scene := change machine.scene }

/-- Add a display item. -/
def addItem (item : Item) : Edit ItemId :=
  modifyGet fun machine =>
    let (id, scene) := machine.scene.add item
    (id, { machine with scene := scene })

end Edit

namespace Act

variable {σ : Type}

/-- The member behind a numbered property of a display object. -/
def displayMember
    (handle : Handle)
    (index : Nat) :
    Act σ String := do
  let name ← ask fun _ => DisplayClass.indexedName index
  discard (ask (·.displayItem handle))
  return name

/-- Read a display property by its number. -/
def getDisplayProperty
    (handle : Handle)
    (index : Nat) :
    Act σ Value := do
  let name ← displayMember handle index
  getMember handle name

/-- Write a display property by its number. -/
def setDisplayProperty
    (handle : Handle)
    (index : Nat)
    (value : Value) :
    Act σ Unit := do
  let name ← displayMember handle index
  setMember handle name value

end Act

namespace Request

variable {σ β : Type}

/-- What a request does. -/
def perform : Request β → Act σ β
  | .inspect question => Act.inspect question
  | .drainLog => Edit.drainLog
  | .alloc object => Edit.alloc object
  | .createObject => Edit.createObject
  | .createObjectWith prototype => Edit.createObjectWith prototype
  | .createArray elements => Edit.createArray elements
  | .createNative function => Edit.createFunction (.native function)
  | .defineFunction definition => Edit.defineFunction definition
  | .registerMethod target name function =>
      Edit.registerMethod target name function
  | .toObject value => Edit.toObject value
  | .getMember handle name => Act.getMember handle name
  | .getValueMember value name => Act.getValueMember value name
  | .setMember handle name value => Act.setMember handle name value
  | .deleteMember handle name => Edit.deleteMember handle name
  | .defineProperty handle name property =>
      Edit.defineProperty handle name property
  | .setPrototype handle prototype =>
      Edit.setPrototype handle prototype
  | .invoke function receiver arguments =>
      Act.invoke function receiver arguments
  | .call function receiver arguments =>
      Act.call function receiver arguments
  | .callMethod target name arguments =>
      Act.callMethod target name arguments
  | .callFromFrame function receiver arguments =>
      Act.callFromFrame function receiver arguments
  | .callMethodFromFrame target name arguments =>
      Act.callMethodFromFrame target name arguments
  | .construct constructor arguments =>
      Act.construct constructor arguments
  | .constructClass className arguments =>
      Act.constructClass className arguments
  | .executeScript code constants target =>
      Act.executeScript code constants target
  | .createScope outer => Edit.createScope outer
  | .pushFrame frame => Edit.pushFrame frame
  | .returnFromFrame value => Edit.returnFromFrame value
  | .runAbove depth => Act.runAbove depth
  | .jumpTo target => Edit.onFrame (Frame.jumpTo target)
  | .jumpBy distance => Edit.onFrame (Frame.jumpBy distance)
  | .readByte => Edit.onFrame Frame.readByte
  | .readWord => Edit.onFrame Frame.readWord
  | .readSignedWord => Edit.onFrame Frame.readSignedWord
  | .pushOperand value => Edit.pushOperand value
  | .popOperand => Edit.popOperand
  | .setRegister index value => Edit.setRegister index value
  | .defineInFrame name value => Edit.defineInFrame name value
  | .pushScopeObject handle => Edit.pushScopeObject handle
  | .popScopeObject => Edit.popScopeObject
  | .getVariable name => Act.getVariable name
  | .setVariable name value => Act.setVariable name value
  | .defineLocal name value => Act.defineLocal name value
  | .resolvePath start path => Act.resolvePath start path
  | .resolveTextVariable handle path =>
      Act.resolveTextVariable handle path
  | .setRoot root => Edit.setRoot root
  | .unload => Edit.unload
  | .importDocument document => Act.importDocument document
  | .exportDocument value => Act.exportDocument value
  | .createInterval name period callback receiver arguments =>
      Edit.createInterval name period callback receiver arguments
  | .clearInterval name => Edit.clearInterval name
  | .tick => Act.tick
  | .advanceClock milliseconds => Edit.advanceClock milliseconds
  | .setClock milliseconds => Edit.setClock milliseconds
  | .collectGarbage => Edit.collectGarbage
  | .pin handle => Edit.pin handle
  | .unpin handle => Edit.unpin handle
  | .setThreshold threshold => Edit.setThreshold threshold
  | .addItem item => Edit.addItem item
  | .setParent item parent =>
      Edit.onScene fun scene =>
        scene.modify item fun item => { item with parent := parent }
  | .setScript item script =>
      Edit.onScene fun scene =>
        scene.modify item fun item => { item with script := script }
  | .holdItem item exclusive => Edit.onScene (·.hold item exclusive)
  | .letItemGo item exclusive => Edit.onScene (·.letGo item exclusive)
  | .createStageObject item kind => Edit.createStageObject item kind
  | .getDisplayProperty handle index =>
      Act.getDisplayProperty handle index
  | .setDisplayProperty handle index value =>
      Act.setDisplayProperty handle index value

end Request

end MovieScript
