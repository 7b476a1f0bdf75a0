import MovieScript.Act.Call
import MovieScript.Machine.Visibility
import MovieScript.Path

namespace MovieScript.Act

/-!
# Variables and paths

A plain name is looked for in the frame, in the scope objects, on the global
object and among the well-known names, in this order.  A dotted name is a path
whose first segment is a member of the frame's target or a plain variable.
-/

variable {σ : Type}

/-- The names that are always there unless something else hides them. -/
def wellKnownVariable (name : String) : Act σ Value := do
  match name with
  | "_global" => return .object (← inspect (·.global))
  | "_root" => return .ofHandle? (← inspect (·.root))
  | "extern" => return .object (← inspect (·.external))
  | "_parent" =>
      match ← inspect (·.pathStart?) with
      | some start => getMember start "_parent"
      | none => return .undefined
  | _ => return .undefined

/-- A name looked for on the visible objects, then among the well-known ones. -/
def visibleVariable (name : String) : Act σ Value := do
  match ← ask (·.visibleHolder? name) with
  | some holder => getMember holder name
  | none => wellKnownVariable name

/-- Read a variable whose name has no dot. -/
def plainVariable (name : String) : Act σ Value := do
  if name = "this" then
    inspect (·.receiver)
  else
    match ← inspect (·.localVariable? name) with
    | some value => return value
    | none => do
        let running ← inspect (!·.frames.isEmpty)
        if running && name = "arguments" then
          Edit.argumentsArray
        else if running && name = "super" then
          ask fun machine => machine.ancestorOf machine.receiver
        else
          visibleVariable name

/-- The object that a segment in the middle of a path leads to. -/
def stepInto
    (handle : Handle)
    (path segment : String) :
    Act σ Handle := do
  if ← ask (·.hasMember handle segment) then
    match ← getMember handle segment with
    | .object next => return next
    | _ => fail (.unresolvedPath path segment)
  else
    fail (.unresolvedPath path segment)

/-- Follow segments from an object; the last one is read like any member. -/
def walkPath
    (path : String) :
    Handle → List String → Act σ Value
  | start, [] => return .object start
  | start, [last] => getMember start last
  | start, segment :: rest => do
      let next ← stepInto start path segment
      walkPath path next rest

/-- Follow a dotted path from an object. -/
def resolvePath
    (start : Handle)
    (path : String) :
    Act σ Value :=
  walkPath path start (Path.segments path)

/-- What the first segment of a dotted variable name leads to. -/
def pathHead (first : String) : Act σ Value := do
  let start ←
    inspect fun machine => machine.pathStart?.getD machine.global
  if ← ask (·.hasMember start first) then
    getMember start first
  else
    plainVariable first

/-- Follow a dotted variable name from the running frame. -/
def resolveVariablePath (name : String) : Act σ Value := do
  let (first, rest) := Path.splitFirst name
  match ← pathHead first with
  | .object handle =>
      if rest.isEmpty then
        return .object handle
      else
        resolvePath handle rest
  | _ => fail (.unresolvedPath name first)

/-- Read a variable by plain or dotted name. -/
def getVariable (name : String) : Act σ Value :=
  if Path.isDotted name then
    resolveVariablePath name
  else
    plainVariable name

/--
Write a variable whose name has no dot: where it is bound, else on the visible
object that has it, else on the innermost scope object or in the frame.
-/
def setPlainVariable
    (name : String)
    (value : Value) :
    Act σ Unit := do
  if ← inspect (·.frames.isEmpty) then
    setMember (← inspect (·.global)) name value
  else if ← Edit.assignInFrame name value then
    return ()
  else
    match ← ask (·.visibleHolder? name) with
    | some holder => setMember holder name value
    | none =>
        match ← inspect (·.scopeObjects.head?) with
        | some innermost => setMember innermost name value
        | none => Edit.defineInFrame name value

/-- Write a variable by plain or dotted name. -/
def setVariable
    (name : String)
    (value : Value) :
    Act σ Unit := do
  match Path.splitLast? name with
  | some (path, member) =>
      match ← resolveVariablePath path with
      | .object target => setMember target member value
      | _ => fail (.unresolvedPath name path)
  | none => setPlainVariable name value

/-- Declare a variable of the running frame, or a global one without a frame. -/
def defineLocal
    (name : String)
    (value : Value) :
    Act σ Unit := do
  if ← inspect (·.frames.isEmpty) then
    setMember (← inspect (·.global)) name value
  else
    Edit.defineInFrame name value

/--
Follow the path that a text field is bound to.  It starts at the script object
of the nearest ancestor that has one.
-/
def resolveTextVariable
    (handle : Handle)
    (path : String) :
    Act σ Value := do
  let item ← ask (·.displayItem handle)
  match ← ask (·.scene.containerScript item) with
  | some container => resolvePath container path
  | none => fail (.unresolvedPath path "_parent")

end MovieScript.Act
