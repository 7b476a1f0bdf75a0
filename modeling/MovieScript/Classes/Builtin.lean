import MovieScript.Classes.Display
import MovieScript.Classes.Invoking
import MovieScript.Classes.Primitive
import MovieScript.Classes.Sequence

namespace MovieScript.Builtin

/-!
# What the built-in functions do

Each built-in function either computes its result on the machine at once, or
starts a call of another function.
-/

variable {σ : Type}

/-- A built-in function that calls no other function is over at once. -/
def completed (work : Edit Value) : Act σ Invocation := do
  let result ← work
  return .complete result

/-- Run a built-in function on a receiver with arguments. -/
def run
    (function : Builtin)
    (receiver : Value)
    (arguments : List Value) :
    Act σ Invocation :=
  match function with
  | .objectConstructor =>
      completed (ObjectClass.construct receiver arguments)
  | .objectHasOwnProperty =>
      completed (ObjectClass.hasOwnProperty receiver arguments)
  | .objectToString => completed (ObjectClass.toText receiver)
  | .objectValueOf => return .complete receiver
  | .objectAddProperty =>
      completed (ObjectClass.addProperty receiver arguments)
  | .functionConstructor => Act.fail .noRuntimeFunctions
  | .functionCall => FunctionClass.call receiver arguments
  | .functionApply => FunctionClass.apply receiver arguments
  | .booleanConstructor =>
      completed (BooleanClass.construct receiver arguments)
  | .booleanValueOf =>
      completed do
        return .boolean (← BooleanClass.receiverOf receiver)
  | .booleanToString =>
      completed do
        let flag ← BooleanClass.receiverOf receiver
        return .text (Value.boolean flag).toText
  | .numberConstructor =>
      completed (NumberClass.construct receiver arguments)
  | .numberValueOf => completed (NumberClass.receiverOf receiver)
  | .numberToString =>
      completed do
        return .text (← NumberClass.receiverOf receiver).toText
  | .stringConstructor =>
      completed (StringClass.construct receiver arguments)
  | .stringLength =>
      completed do
        return lengthValue (← StringClass.receiverOf receiver).length
  | .stringSubstr =>
      completed (StringClass.substr receiver arguments)
  | .stringValueOf =>
      completed do
        return .text (← StringClass.receiverOf receiver)
  | .stringToString =>
      completed do
        return .text (← StringClass.receiverOf receiver)
  | .arrayConstructor =>
      completed (ArrayClass.construct receiver arguments)
  | .arrayLength => completed (ArrayClass.length receiver)
  | .arraySetLength =>
      completed (ArrayClass.setLength receiver arguments)
  | .arrayPush => completed (ArrayClass.push receiver arguments)
  | .arrayJoin => completed (ArrayClass.join receiver arguments)
  | .stageConstructor => Act.fail .noDisplayConstruction
  | .displayRead property =>
      completed (DisplayClass.readMember property receiver)
  | .displayWrite property =>
      completed (DisplayClass.writeMember property receiver arguments)
  | .textColour => completed (DisplayClass.textColour receiver)
  | .setTextColour =>
      completed (DisplayClass.setTextColour receiver arguments)
  | .currentFrame => completed (DisplayClass.currentFrame receiver)
  | .gotoAndPlay =>
      completed (DisplayClass.jumpAnd receiver arguments .play)
  | .gotoAndStop =>
      completed (DisplayClass.jumpAnd receiver arguments (.stop true))
  | .play => completed (DisplayClass.performAll receiver (.ok [.play]))
  | .stop =>
      completed (DisplayClass.performAll receiver (.ok [.stop false]))
  | .getTime => completed GlobalFunction.getTime
  | .setInterval => do
      let name ← GlobalFunction.setInterval receiver arguments
      return .complete name
  | .clearInterval => completed (GlobalFunction.clearInterval arguments)
  | .loadMovie => completed (GlobalFunction.loadMovie arguments)
  | .attachMovie => completed (GlobalFunction.attachMovie arguments)
  | .trace => completed (GlobalFunction.trace arguments)

end MovieScript.Builtin
