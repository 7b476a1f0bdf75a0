import MovieScript.Definition
import MovieScript.Scope

namespace MovieScript

/-!
# Functions

Three kinds of function can be called: the library's built-in ones, functions
the host implements, and functions a movie defines.  A built-in function is
named by what it does, a host function by a number the host gives it, so that
an object holding a function stays plain data.
-/

/-- A member of a display object that reads or writes its display item. -/
inductive DisplayMember where
  | x
  | y
  | xScale
  | yScale
  | alpha
  | visible
  | name
  | parent
  | target
  deriving Repr, DecidableEq

/-- The functions the library itself provides. -/
inductive Builtin where
  | objectConstructor
  | objectHasOwnProperty
  | objectToString
  | objectValueOf
  | objectAddProperty
  | functionConstructor
  | functionCall
  | functionApply
  | booleanConstructor
  | booleanValueOf
  | booleanToString
  | numberConstructor
  | numberValueOf
  | numberToString
  | stringConstructor
  | stringLength
  | stringSubstr
  | stringValueOf
  | stringToString
  | arrayConstructor
  | arrayLength
  | arraySetLength
  | arrayPush
  | arrayJoin
  | stageConstructor
  | displayRead (property : DisplayMember)
  | displayWrite (property : DisplayMember)
  | textColour
  | setTextColour
  | currentFrame
  | gotoAndPlay
  | gotoAndStop
  | play
  | stop
  | getTime
  | setInterval
  | clearInterval
  | loadMovie
  | attachMovie
  | trace
  deriving Repr, DecidableEq

/-- What runs when a native function is called. -/
inductive NativeBody where
  | builtin (function : Builtin)
  | host (number : Nat)
  deriving Repr, DecidableEq

/-- A function that runs at once, in the frame of its caller. -/
structure Native where
  name : String
  body : NativeBody
  deriving Repr, DecidableEq

/-- A defined function with the scope and the scope objects it was defined under. -/
structure Closure where
  definition : Definition
  scope : Option ScopeId
  /-- Scope objects of the defining frame, innermost first. -/
  scopeObjects : List Handle

namespace Closure

/-- Every handle the function holds, its captured variables included. -/
def references
    (closure : Closure)
    (scopes : Scopes) :
    List Handle :=
  closure.definition.constants.toList.flatMap Value.references ++
    closure.scopeObjects ++
    (closure.scope.map scopes.references).getD []

end Closure

/-- Anything that can be called. -/
inductive Callable where
  | native (function : Native)
  | defined (closure : Closure)

namespace Callable

/-- The name of the function; a defined one may have none. -/
def name? : Callable → Option String
  | .native function => some function.name
  | .defined closure => closure.definition.name

/-- Every handle the function holds. -/
def references
    (callable : Callable)
    (scopes : Scopes) :
    List Handle :=
  match callable with
  | .native _ => []
  | .defined closure => closure.references scopes

/-- The function as diagnostics write it. -/
def diagnostic : Callable → String
  | .native function =>
      "Native(NativeFunction(" ++ function.name ++ "))"
  | .defined closure =>
      "Defined(" ++ closure.definition.diagnostic ++ ")"

end Callable

/-- How a call that was started stands. -/
inductive Invocation where
  /-- The call is over. -/
  | complete (result : Value)
  /-- A frame was pushed; its return will deliver the result. -/
  | pending

end MovieScript
