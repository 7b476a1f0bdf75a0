import MovieScript.Heap.Handle

namespace MovieScript

/-!
# Faults

Everything that can go wrong while scripts run, by kind.  All wording stands in
this module: `Fault.message` for the kinds, and one function for each cause the
library reports itself.
-/

/-- Why an operation failed. -/
inductive Fault where
  | type (detail : String)
  | propertyAccess (property : String) (detail : String)
  | unresolvedPath (path : String) (segment : String)
  | arity (function : String) (count : Nat)
  | unsupported (detail : String)
  | stackExhaustion (depth : Nat)
  | invalidDefinition (detail : String)
  | invalidConfiguration
  | invalidRegister (index : Nat) (count : Nat)
  | danglingReference (handle : Handle)
  | internal (detail : String)
  deriving Repr, DecidableEq

namespace Fault

/-- The name of a fault's kind. -/
def kind : Fault → String
  | .type _ => "TypeError"
  | .propertyAccess _ _ => "PropertyAccessError"
  | .unresolvedPath _ _ => "UnresolvedPathError"
  | .arity _ _ => "ArityError"
  | .unsupported _ => "UnsupportedOperation"
  | .stackExhaustion _ => "StackExhaustion"
  | .invalidDefinition _ => "InvalidDefinition"
  | .invalidConfiguration => "InvalidConfig"
  | .invalidRegister _ _ => "InvalidRegister"
  | .danglingReference _ => "DanglingReference"
  | .internal _ => "InternalError"

/-- The full text of a fault. -/
def message : Fault → String
  | .type detail => "TypeError: " ++ detail
  | .propertyAccess property detail =>
      "PropertyAccessError: '" ++ property ++ "' " ++ detail
  | .unresolvedPath path segment =>
      "UnresolvedPathError: '" ++ segment ++ "' in '" ++ path ++ "'"
  | .arity function count =>
      "ArityError: " ++ function ++ " does not accept " ++
        toString count ++ " argument(s)"
  | .unsupported detail => "UnsupportedOperation: " ++ detail
  | .stackExhaustion depth =>
      "StackExhaustion: call depth exceeded " ++ toString depth
  | .invalidDefinition detail => "InvalidDefinition: " ++ detail
  | .invalidConfiguration => "InvalidConfig: malformed configuration"
  | .invalidRegister index count =>
      "InvalidRegister: register " ++ toString index ++
        " outside a frame of " ++ toString count
  | .danglingReference handle =>
      "DanglingReference: " ++ handle.text ++ " is no longer live"
  | .internal detail => "Internal error: " ++ detail

/-! ## Conversions -/

/-- Undefined and null have no object form. -/
def noObjectForm (typeName : String) : Fault :=
  .type ("cannot convert " ++ typeName ++ " to an object")

/-- Something that is called is no function. -/
def notAFunction (what : String) : Fault :=
  .type (what ++ " is not a function")

/-- Something that is constructed is no constructor. -/
def notAConstructor (what : String) : Fault :=
  .type (what ++ " is not a constructor")

/-- A method of a primitive class met an object of another class. -/
def incompatibleObject (className : String) : Fault :=
  .type (className ++ " method called on incompatible object")

/-- A method of a primitive class met a primitive of another kind. -/
def incompatibleReceiver (className typeName : String) : Fault :=
  .type (className ++ " method called on " ++ typeName)

/-- An array method met something else. -/
def notAnArray : Fault :=
  .type "Array method called on a non-array"

/-- An array cannot have the requested length. -/
def invalidArrayLength (length : Int) : Fault :=
  .type ("invalid array length " ++ toString length)

/-- The argument list given to `apply` is a primitive. -/
def applyNeedsArray (typeName : String) : Fault :=
  .type ("apply expects an array, got " ++ typeName)

/-- The argument list given to `apply` has no numeric length. -/
def applyNeedsLength : Fault :=
  .type "apply expects an array-like object"

/-! ## Members and frames -/

/-- An accessor that cannot be read. -/
def noGetter (property : String) : Fault :=
  .propertyAccess property "has no getter"

/-- An accessor that cannot be written. -/
def noSetter (property : String) : Fault :=
  .propertyAccess property "has no setter"

/-- A prototype link would close a cycle. -/
def cyclicPrototype : Fault :=
  .unsupported "cyclic prototype chain"

/-- A prototype link would make the chain too long. -/
def prototypeTooDeep : Fault :=
  .unsupported "prototype chain too deep"

/-- A built-in member is in the way of another. -/
def builtinRefused (name : String) : Fault :=
  .unsupported
    ("builtin member '" ++ name ++
      "' refused by a non-configurable property")

/-- There is no frame to work on. -/
def noActiveFrame : Fault :=
  .internal "no active frame"

/-- There is no frame to return from. -/
def returnWithoutFrame : Fault :=
  .internal "return with no active frame"

/-- The frame a host entry waits for ended without a result. -/
def missingResult : Fault :=
  .internal "frame finished without a return value"

/-- A number is too large for the machine, which is never to happen. -/
def numberTooLarge : Fault :=
  .internal "number too large"

/-- The bounds of a number are out of order, which is never to happen. -/
def boundsOutOfOrder : Fault :=
  .internal "bounds out of order"

/-- Frames are to run but the host has no instruction set. -/
def noDispatcher : Fault :=
  .unsupported "no instruction dispatcher installed"

/-- Collection is refused while frames are live. -/
def collectionWhileRunning : Fault :=
  .unsupported "garbage collection while frames are live"

/-- A tick is refused while frames are live. -/
def tickWhileRunning : Fault :=
  .unsupported "tick while frames are live"

/-- A jump leads behind the code. -/
def jumpBehindEnd (target length : Nat) : Fault :=
  .invalidDefinition
    ("jump target " ++ toString target ++ " outside " ++
      toString length ++ " instruction bytes")

/-- A jump leads in front of the code. -/
def jumpBeforeStart (target : Int) : Fault :=
  .invalidDefinition
    ("jump target " ++ toString target ++
      " before start of instructions")

/-- An operand is cut off by the end of the code. -/
def readPastEnd (position : Nat) : Fault :=
  .invalidDefinition
    ("read past end of instructions at " ++ toString position)

/-- A constant outside the pool. -/
def constantOutsidePool (index size : Nat) : Fault :=
  .invalidDefinition
    ("constant " ++ toString index ++ " outside pool of " ++
      toString size)

/-! ## Function definitions -/

/-- Register parameters belong to the register convention. -/
def registerParameterRefused : Fault :=
  .invalidDefinition
    "register parameters require the new calling convention"

/-- Preloads belong to the register convention. -/
def preloadRefused : Fault :=
  .invalidDefinition "preload flags require the new calling convention"

/-- A parameter names a register the frame does not have. -/
def parameterOutsideFrame (name : String) (register count : Nat) : Fault :=
  .invalidDefinition
    ("parameter '" ++ name ++ "' uses register " ++
      toString register ++ " of " ++ toString count)

/-- Two parameters name one register. -/
def registerClaimedTwice (register : Nat) : Fault :=
  .invalidDefinition
    ("register " ++ toString register ++
      " claimed by more than one parameter")

/-- Scripts cannot make functions out of text. -/
def noRuntimeFunctions : Fault :=
  .unsupported "functions cannot be constructed at runtime"

/-! ## Documents -/

/-- A graph that leads back to itself has no document. -/
def cyclicDocument : Fault :=
  .unsupported "cannot convert a cyclic structure to JSON"

/-- An object of this class has no document. -/
def noDocument (className : String) : Fault :=
  .unsupported ("cannot convert " ++ className ++ " to JSON")

/-- A built-in function needs the host's document loader. -/
def noLoader (function : String) : Fault :=
  .unsupported (function ++ ": no document loader installed")

/-! ## Intervals -/

/-- The first argument of `setInterval` is neither function nor object. -/
def intervalNeedsFunction : Fault :=
  .type "setInterval expects a function or an object"

/-- The named method of the object given to `setInterval` cannot be called. -/
def intervalMethodMissing (method : String) : Fault :=
  .type ("setInterval: " ++ method ++ " is not a function")

/-! ## Display objects -/

/-- Display objects come from the host only. -/
def noDisplayConstruction : Fault :=
  .unsupported "display objects cannot be constructed by scripts"

/-- The object is not bound to a display item. -/
def notADisplayObject (handle : Handle) : Fault :=
  .unsupported (handle.text ++ " is not a display object")

/-- A display property was used on a primitive. -/
def displayPropertyOn (typeName : String) : Fault :=
  .type ("display property read on " ++ typeName)

/-- The host is using the display item at the moment. -/
def itemBorrowed : Fault :=
  .internal "display item is already borrowed"

/-- The display item has no timeline. -/
def notAMovieClip (name : String) : Fault :=
  .unsupported ("'" ++ name ++ "' is not a movie clip")

/-- The text is no colour. -/
def notAColour (content : String) : Fault :=
  .type ("'" ++ content ++ "' is not a hex colour")

/-- The value is of a kind that names no colour. -/
def colourExpected (typeName : String) : Fault :=
  .type ("textColor expects a colour, got " ++ typeName)

/-- The value is of a kind that names no place on the timeline. -/
def destinationExpected (typeName : String) : Fault :=
  .unsupported
    ("can only jump to labels or frame numbers, got " ++ typeName)

/-- No display property has this number. -/
def unknownDisplayIndex (index : Nat) : Fault :=
  .unsupported ("display property index " ++ toString index)

end Fault

end MovieScript
