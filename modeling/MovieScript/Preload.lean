namespace MovieScript

/-!
# Preloaded values

A function of the register convention can ask for well-known values to be put
into registers before its body runs.  The request is a set of bits, some of
which suppress a value that another bit asks for.
-/

/-- A well-known value that a frame can find in a register. -/
inductive Preload where
  | receiver
  | arguments
  | ancestor
  | root
  | parent
  | global
  | external
  deriving Repr, DecidableEq

namespace Preload

/-- The order in which registers are handed out. -/
def order : List Preload :=
  [.receiver, .arguments, .ancestor, .root, .parent, .global, .external]

/-- The name of the value for diagnostics. -/
def label : Preload → String
  | .receiver => "This"
  | .arguments => "Arguments"
  | .ancestor => "Super"
  | .root => "Root"
  | .parent => "Parent"
  | .global => "Global"
  | .external => "Extern"

end Preload

/-- The request bits of a function. -/
structure PreloadFlags where
  bits : UInt32
  deriving Repr, DecidableEq

namespace PreloadFlags

/-- Nothing is requested. -/
def none : PreloadFlags :=
  ⟨0⟩

/-- Every bit with a meaning. -/
def knownBits : UInt32 :=
  0x1FF01

/-- The single requests with their names, in declaration order. -/
def named : List (String × PreloadFlags) :=
  [("PRELOAD_GLOBAL", ⟨0x0001⟩), ("PRELOAD_THIS", ⟨0x0100⟩),
    ("SUPPRESS_THIS", ⟨0x0200⟩), ("PRELOAD_ARGUMENTS", ⟨0x0400⟩),
    ("SUPPRESS_ARGUMENTS", ⟨0x0800⟩), ("PRELOAD_SUPER", ⟨0x1000⟩),
    ("SUPPRESS_SUPER", ⟨0x2000⟩), ("PRELOAD_ROOT", ⟨0x4000⟩),
    ("PRELOAD_PARENT", ⟨0x8000⟩), ("PRELOAD_EXTERN", ⟨0x10000⟩)]

/-- Accept a request only if every bit has a meaning. -/
def ofBits? (bits : UInt32) : Option PreloadFlags :=
  if bits &&& ~~~knownBits = 0 then some ⟨bits⟩ else Option.none

/-- No bit is set. -/
def isEmpty (flags : PreloadFlags) : Bool :=
  flags.bits == 0

/-- Every bit of the other request is set here too. -/
def contains (flags other : PreloadFlags) : Bool :=
  flags.bits &&& other.bits == other.bits

/-- Both requests together. -/
def union (flags other : PreloadFlags) : PreloadFlags :=
  ⟨flags.bits ||| other.bits⟩

/-- The bit that asks for a value. -/
def request : Preload → PreloadFlags
  | .receiver => ⟨0x0100⟩
  | .arguments => ⟨0x0400⟩
  | .ancestor => ⟨0x1000⟩
  | .root => ⟨0x4000⟩
  | .parent => ⟨0x8000⟩
  | .global => ⟨0x0001⟩
  | .external => ⟨0x10000⟩

/-- The bit that suppresses a value, where there is one. -/
def suppression? : Preload → Option PreloadFlags
  | .receiver => some ⟨0x0200⟩
  | .arguments => some ⟨0x0800⟩
  | .ancestor => some ⟨0x2000⟩
  | _ => Option.none

/-- A value is preloaded when it is requested and not suppressed. -/
def preloads
    (flags : PreloadFlags)
    (value : Preload) :
    Bool :=
  flags.contains (request value) &&
    !((suppression? value).any flags.contains)

end PreloadFlags

end MovieScript
