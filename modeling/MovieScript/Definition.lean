import MovieScript.Fault
import MovieScript.Preload
import MovieScript.Value

namespace MovieScript

/-!
# Function definitions

What the decoder of a movie hands over for one function body, the check that
rejects definitions no frame can serve, and the layout of the frame's
registers.  Preloaded values take the lowest registers from one on that no
parameter claims.
-/

/-- Where a declared parameter is bound. -/
inductive Parameter where
  | byName (name : String)
  | byRegister (register : UInt8) (name : String)
  deriving Repr, DecidableEq

namespace Parameter

/-- The declared name. -/
def name : Parameter → String
  | .byName name => name
  | .byRegister _ name => name

/-- The register the parameter claims; register zero stands for the name. -/
def register? : Parameter → Option Nat
  | .byName _ => none
  | .byRegister register _ =>
      if register = 0 then none else some register.toNat

/-- The parameter as diagnostics write it. -/
def diagnostic : Parameter → String
  | .byName name => "ByName(\"" ++ name ++ "\")"
  | .byRegister register name =>
      "ByRegisterAndName(" ++ toString register.toNat ++ ", \"" ++
        name ++ "\")"

end Parameter

/-- One function body as the decoder hands it over. -/
structure Definition where
  name : Option String
  code : Array UInt8
  constants : Array Value
  parameters : List Parameter
  registers : UInt8
  flags : PreloadFlags
  /-- The function follows the register convention. -/
  usesRegisters : Bool

/-- The lowest register from `next` on that is not claimed. -/
def firstUnclaimed
    (claimed : List Nat)
    (next : Nat) :
    Nat :=
  if _member : next ∈ claimed then
    firstUnclaimed claimed (next + 1)
  else
    next
termination_by (claimed.filter (next ≤ ·)).length
decreasing_by
  have narrowed :
      claimed.filter (fun register => decide (next + 1 ≤ register)) =
        (claimed.filter (fun register => decide (next ≤ register))).filter
          (fun register => !decide (next = register)) := by
    rw [List.filter_filter]
    apply List.filter_congr
    intro register _
    by_cases same : next = register
    · subst same
      simp
    · have equivalent : next + 1 ≤ register ↔ next ≤ register := by
        omega
      simp [same, equivalent]
  rw [narrowed]
  exact List.length_filter_lt_length_iff_exists.mpr
    ⟨next, by simpa using _member, by simp⟩

namespace Definition

/-- The registers that parameters claim, in order of declaration. -/
def claimedRegisters (definition : Definition) : List Nat :=
  definition.parameters.filterMap Parameter.register?

/-- Check the register parameters one by one against those claimed before. -/
def validateParameters
    (count : Nat) :
    List Nat → List Parameter → Except Fault Unit
  | _, [] => .ok ()
  | claimed, parameter :: rest =>
      match parameter.register? with
      | none => validateParameters count claimed rest
      | some register =>
          if count ≤ register then
            .error
              (.parameterOutsideFrame parameter.name register count)
          else if register ∈ claimed then
            .error (.registerClaimedTwice register)
          else
            validateParameters count (register :: claimed) rest

/-- Reject a definition that no consistent decoder would produce. -/
def validate (definition : Definition) : Except Fault Unit :=
  if definition.usesRegisters then
    validateParameters definition.registers.toNat []
      definition.parameters
  else if definition.parameters.any (·.register?.isSome) then
    .error .registerParameterRefused
  else if !definition.flags.isEmpty then
    .error .preloadRefused
  else
    .ok ()

/-- Hand out registers to the requested values, in order, from `next` on. -/
def assignRegisters
    (claimed : List Nat) :
    Nat → List Preload → List (Preload × Nat)
  | _, [] => []
  | next, value :: rest =>
      let register := firstUnclaimed claimed next
      (value, register) :: assignRegisters claimed (register + 1) rest

/-- The preloaded values with their registers. -/
def preloadRegisters
    (definition : Definition) :
    List (Preload × Nat) :=
  if definition.usesRegisters then
    assignRegisters definition.claimedRegisters 1
      (Preload.order.filter definition.flags.preloads)
  else
    []

/-- The number of registers a frame needs. -/
def frameRegisterCount (definition : Definition) : Nat :=
  let parameters :=
    (definition.claimedRegisters.map (· + 1)).foldl max 0
  let preloads :=
    match definition.preloadRegisters.getLast? with
    | some (_, register) => register + 1
    | none => 0
  max (max definition.registers.toNat parameters) preloads

/-- The definition as diagnostics write it. -/
def diagnostic (definition : Definition) : String :=
  let name :=
    match definition.name with
    | some name => "Some(\"" ++ name ++ "\")"
    | none => "None"
  let parameters :=
    ", ".intercalate (definition.parameters.map Parameter.diagnostic)
  "DefinedFunction \x7b name: " ++ name ++
    ", parameters: [" ++ parameters ++
    "], register_count: " ++ toString definition.registers.toNat ++
    ", preload_flags: PreloadFlags(" ++
    toString definition.flags.bits.toNat ++
    "), new_calling_convention: " ++
    toString definition.usesRegisters ++ " \x7d"

end Definition

end MovieScript
