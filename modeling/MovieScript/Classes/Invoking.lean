import MovieScript.Act.Call
import MovieScript.Act.Tick
import MovieScript.Classes.Receiver
import MovieScript.Machine.Visibility
import MovieScript.MovieAddress

namespace MovieScript

/-!
# Functions about functions, time and movies

The methods `call` and `apply` of functions, and the global functions.  Those
that call a function or read a member are acts.
-/

namespace FunctionClass

variable {σ : Type}

/-- `f.call(receiver, ...arguments)`. -/
def call
    (function : Value)
    (arguments : List Value) :
    Act σ Invocation :=
  Act.invoke function (argument arguments 0) (arguments.drop 1)

/--
The argument list that `apply` was given: an array, an object with a `length`
and elements, or nothing.
-/
def spread (list : Value) : Act σ (List Value) := do
  match list with
  | .undefined => return []
  | .null => return []
  | .object handle =>
      match (← Act.ask (·.object handle)).elements? with
      | some elements => return elements.toList
      | none => do
          let length ← Act.getMember handle "length"
          if length.isNumber then
            (List.range length.toInteger.toInt.toNat).mapM fun index =>
              Act.getMember handle (elementName index)
          else
            Act.fail .applyNeedsLength
  | other => Act.fail (.applyNeedsArray other.typeName)

/-- `f.apply(receiver, list)`. -/
def apply
    (function : Value)
    (arguments : List Value) :
    Act σ Invocation := do
  let list ← spread (argument arguments 1)
  Act.invoke function (argument arguments 0) list

end FunctionClass

namespace GlobalFunction

variable {σ : Type}

/-- Milliseconds since the machine was made. -/
def getTime : Edit Value := do
  return .float (Decimal.nearestToInt (← get).elapsed)

/-- The receiver of a function that an interval calls. -/
def intervalReceiver (receiver : Value) : Act σ Value :=
  if receiver.isNullish then
    Act.inspect (·.receiver)
  else
    return receiver

/-- The method of an object that an interval calls. -/
def intervalMethod
    (handle : Handle)
    (label : Value) :
    Act σ Value := do
  let name ← Edit.displayText label
  let method ← Act.getMember handle name
  if ← Act.inspect (·.isCallable method) then
    return method
  else
    Act.fail (.intervalMethodMissing name)

/-- What an interval calls and on which receiver, and the other arguments. -/
def intervalTarget
    (receiver : Value)
    (arguments : List Value) :
    Act σ (Value × Value × List Value) := do
  let target := argument arguments 0
  if ← Act.inspect (·.isCallable target) then
    return (target, ← intervalReceiver receiver, arguments.drop 1)
  else
    match target with
    | .object handle =>
        return (← intervalMethod handle (argument arguments 1), target,
          arguments.drop 2)
    | _ => Act.fail .intervalNeedsFunction

/--
`setInterval(function, period, ...)` or
`setInterval(object, method, period, ...)`; answers with the generated name.
-/
def setInterval
    (receiver : Value)
    (arguments : List Value) :
    Act σ Value := do
  let (callback, callbackReceiver, rest) ←
    intervalTarget receiver arguments
  match rest with
  | [] => Act.fail (.arity "setInterval" arguments.length)
  | period :: extra => do
      let name ← Edit.nextIntervalName
      Edit.createInterval name period.toInteger.toInt.toNat callback
        callbackReceiver extra
      return .text name

/-- Remove an interval; an unknown name is ignored. -/
def clearInterval (arguments : List Value) : Edit Value := do
  let name ← Edit.displayText (argument arguments 0)
  discard (Edit.clearInterval name)
  return .undefined

/-- The host's document loader. -/
def loaderFor (function : String) : Edit DocumentLoader := do
  match (← get).loader with
  | some loader => return loader
  | none => throw (.noLoader function)

/-- The address of the movie that an argument names. -/
def addressOf (value : Value) : Edit String := do
  let address ← Edit.displayText value
  return movieAddress address (← get).configuration.movieExtension

/-- Load a movie. -/
def loadMovie (arguments : List Value) : Edit Value := do
  let loader ← loaderFor "loadMovie"
  let address ← addressOf (argument arguments 0)
  Edit.ask fun _ => loader.loadMovie address

/-- Attach a movie under a name at a depth. -/
def attachMovie (arguments : List Value) : Edit Value := do
  let loader ← loaderFor "attachMovie"
  let address ← addressOf (argument arguments 0)
  let name ← Edit.displayText (argument arguments 1)
  let depth := (argument arguments 2).toInteger
  Edit.ask fun _ => loader.attachMovie address name depth

/-- Write a message to the log. -/
def trace (arguments : List Value) : Edit Value := do
  let message ← Edit.displayText (argument arguments 0)
  Edit.report .info message
  return .undefined

end GlobalFunction

end MovieScript
