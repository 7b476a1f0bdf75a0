import MovieScript.Table

namespace MovieScript

/-!
# The name dictionary

Names that occur often share one copy.  A dictionary can start out with the
names that every movie uses.
-/

/-- The names known so far, each once. -/
structure Dictionary where
  names : Table String Unit

namespace Dictionary

/-- The dictionary without names. -/
def empty : Dictionary :=
  ⟨.empty⟩

/-- The shared copy of a name, entered if it is new. -/
def intern
    (dictionary : Dictionary)
    (name : String) :
    String × Dictionary :=
  (name, ⟨dictionary.names.insert name ()⟩)

/-- The shared copy of a name that has been entered before. -/
def get?
    (dictionary : Dictionary)
    (name : String) :
    Option String :=
  (dictionary.names.get? name).map fun _ => name

/-- The number of names. -/
def size (dictionary : Dictionary) : Nat :=
  dictionary.names.size

/-- Names of the object model, the classes, their members and the globals. -/
def commonNames : List String :=
  ["length", "prototype", "constructor", "__proto__", "toString",
    "valueOf", "hasOwnProperty", "addProperty", "call", "apply", "this",
    "arguments", "super", "_global", "_root", "_parent", "extern",
    "Object", "Function", "Boolean", "Number", "String", "Array",
    "StageObject", "TextField", "MovieClip", "_x", "_y", "_xscale",
    "_yscale", "_alpha", "_visible", "_name", "_target",
    "_currentframe", "textColor", "substr", "push", "join",
    "gotoAndPlay", "gotoAndStop", "play", "stop", "getTime",
    "setInterval", "clearInterval", "loadMovie", "attachMovie",
    "trace"]

/-- The dictionary every machine starts with. -/
def common : Dictionary :=
  commonNames.foldl
    (fun dictionary name => (dictionary.intern name).2) empty

end Dictionary

end MovieScript
