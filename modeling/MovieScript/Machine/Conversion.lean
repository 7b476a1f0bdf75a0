import MovieScript.Machine.State

namespace MovieScript

/-!
# Conversions that look at objects

The text of an object depends on its content, and only a function object can
be called.  A primitive is boxed into a fresh object when an object is needed.
-/

namespace Machine

/-- Arrays nested deeper than this are left out of a text. -/
def maxDisplayDepth : Nat :=
  8

/--
The text of a value as scripts see it.  `depth` is the number of levels of
nested arrays that are still written out.
-/
def displayTextWithin
    (machine : Machine) :
    Nat → Value → Except Fault String
  | depth, value =>
      match value with
      | .object handle => do
          let object ← machine.object handle
          match object.content with
          | .ordinary => return "[object Object]"
          | .function _ => return "[type Function]"
          | .text content => return content
          | .boolean flag => return (Value.boolean flag).toText
          | .number payload => return payload.toText
          | .stage item _ => return machine.scene.targetPath item
          | .array elements =>
              match depth with
              | 0 => return ""
              | remaining + 1 =>
                  let parts ← elements.toList.mapM fun element =>
                    if element.isNullish then
                      pure ""
                    else
                      machine.displayTextWithin remaining element
                  return ",".intercalate parts
      | primitive => .ok primitive.toText

/-- The text of a value as scripts see it. -/
def displayText
    (machine : Machine)
    (value : Value) :
    Except Fault String :=
  machine.displayTextWithin maxDisplayDepth value

/-- The function object behind a value. -/
def toFunction
    (machine : Machine)
    (value : Value) :
    Except Fault (Handle × Callable) :=
  match value with
  | .object handle => do
      match (← machine.object handle).callable? with
      | some callable => return (handle, callable)
      | none => throw (.notAFunction value.diagnostic)
  | _ => .error (.notAFunction value.diagnostic)

/-- The value can be called. -/
def isCallable
    (machine : Machine)
    (value : Value) :
    Bool :=
  match value with
  | .object handle =>
      ((machine.heap.get? handle).bind ScriptObject.callable?).isSome
  | _ => false

/-- The kind of a value as scripts see it. -/
def typeOf
    (machine : Machine)
    (value : Value) :
    String :=
  match value with
  | .object handle =>
      match (machine.heap.get? handle).map ScriptObject.content with
      | some (.function _) => "function"
      | some (.stage _ .movieClip) => "movieclip"
      | _ => "object"
  | primitive => primitive.typeName

/-- The display item an object stands for. -/
def displayItem
    (machine : Machine)
    (handle : Handle) :
    Except Fault ItemId := do
  match (← machine.object handle).stage? with
  | some (item, _) => return item
  | none => throw (.notADisplayObject handle)

/-- The display object as diagnostics write it; an unreadable name is empty. -/
def stageDiagnostic
    (machine : Machine)
    (item : ItemId)
    (kind : StageKind) :
    String :=
  let name :=
    match machine.scene.read item with
    | .ok item => item.name
    | .error _ => ""
  "StageBinding(" ++ kind.className ++ ", " ++ name ++ ")"

end Machine

namespace Edit

/-- The text of a value as scripts see it. -/
def displayText (value : Value) : Edit String :=
  ask (·.displayText value)

/-- The object form of a value: a primitive is boxed, an empty value has none. -/
def toObject (value : Value) : Edit Handle :=
  match value with
  | .object handle => return handle
  | .undefined => throw (.noObjectForm value.typeName)
  | .null => throw (.noObjectForm value.typeName)
  | .boolean flag => createInstance "Boolean" (.boolean flag)
  | .integer _ => createInstance "Number" (.number value)
  | .float _ => createInstance "Number" (.number value)
  | .text content => createInstance "String" (.text content)

end Edit

end MovieScript
