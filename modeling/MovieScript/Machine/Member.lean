import MovieScript.Machine.Conversion

namespace MovieScript

/-!
# Members

A name is resolved on an object and then along its prototypes, as far as the
configuration allows.  In-range array elements come before own properties.
Nothing here runs an accessor.
-/

/-- Where a member name leads. -/
inductive Resolution where
  | value (value : Value)
  | accessor (getter setter : Option Handle)
  | missing

namespace ScriptObject

/-- What an object itself has under a name. -/
def resolveOwn?
    (object : ScriptObject)
    (name : String) :
    Option Resolution :=
  match object.element? name with
  | some value => some (.value value)
  | none =>
      match object.own? name with
      | some (.data value _ _ _) => some (.value value)
      | some (.accessor getter setter _ _) =>
          some (.accessor getter setter)
      | none => none

/-- The names an object has, elements first, and whether each is listed. -/
def memberNames (object : ScriptObject) : List (String × Bool) :=
  let elements :=
    match object.elements? with
    | some elements =>
        (List.range elements.size).map fun index =>
          (elementName index, true)
    | none => []
  elements ++
    object.properties.entries.map fun (name, property) =>
      (name, property.enumerable)

end ScriptObject

namespace Machine

/-- Resolve a name from an object on, visiting at most `budget` objects. -/
def resolveWithin
    (machine : Machine)
    (name : String) :
    Nat → Option Handle → Except Fault Resolution
  | _, none => .ok .missing
  | 0, some _ => .ok .missing
  | budget + 1, some handle => do
      let object ← machine.object handle
      match object.resolveOwn? name with
      | some resolution => return resolution
      | none => machine.resolveWithin name budget object.prototype

/-- Resolve a name on an object and along its prototypes. -/
def resolve
    (machine : Machine)
    (handle : Handle)
    (name : String) :
    Except Fault Resolution :=
  machine.resolveWithin name
    (machine.configuration.maxPrototypeDepth + 1) (some handle)

/-- The name leads somewhere. -/
def hasMember
    (machine : Machine)
    (handle : Handle)
    (name : String) :
    Except Fault Bool := do
  match ← machine.resolve handle name with
  | .missing => return false
  | _ => return true

/-- The object itself has a member of that name. -/
def hasOwnMember
    (machine : Machine)
    (handle : Handle)
    (name : String) :
    Except Fault Bool := do
  let object ← machine.object handle
  return (object.element? name).isSome ||
    object.properties.contains name

/-- The names of an object and its prototypes, nearest object first. -/
def namesWithin
    (machine : Machine) :
    Nat → Option Handle → Except Fault (List (String × Bool))
  | _, none => .ok []
  | 0, some _ => .ok []
  | budget + 1, some handle => do
      let object ← machine.object handle
      let inherited ← machine.namesWithin budget object.prototype
      return object.memberNames ++ inherited

/-- Keep each name at its first place only, and only if it is listed there. -/
def listedOnce :
    List String → List (String × Bool) → List String
  | _, [] => []
  | seen, (name, listed) :: rest =>
      if name ∈ seen then
        listedOnce seen rest
      else if listed then
        name :: listedOnce (name :: seen) rest
      else
        listedOnce (name :: seen) rest

/--
The listed member names: elements, own properties, then inherited ones.  A
name that is not listed still hides an inherited one.
-/
def enumerate
    (machine : Machine)
    (handle : Handle) :
    Except Fault (List String) := do
  let names ←
    machine.namesWithin
      (machine.configuration.maxPrototypeDepth + 1) (some handle)
  return listedOnce [] names

/--
Walk a prototype chain that is to be put above an object, and refuse it if the
object is on it or if it is too long.
-/
def checkChain
    (machine : Machine)
    (target : Handle) :
    Nat → Option Handle → Except Fault Unit
  | _, none => .ok ()
  | 0, some handle =>
      if handle = target then
        .error .cyclicPrototype
      else
        .error .prototypeTooDeep
  | budget + 1, some handle =>
      if handle = target then
        .error .cyclicPrototype
      else do
        let object ← machine.object handle
        machine.checkChain target budget object.prototype

end Machine

namespace Edit

/-- Relink the prototype of an object unless that would close a cycle. -/
def setPrototype
    (target : Handle)
    (prototype : Option Handle) :
    Edit Unit := do
  ask fun machine =>
    machine.checkChain target
      (machine.configuration.maxPrototypeDepth + 1) prototype
  modifyObject target fun object => { object with prototype := prototype }

/-- Remove an own property that allows it; an array element becomes undefined. -/
def deleteMember
    (handle : Handle)
    (name : String) :
    Edit Bool := do
  let object ← ask (·.object handle)
  match elementIndex? name, object.element? name with
  | some index, some _ =>
      modifyObject handle (·.withElement index .undefined)
      return true
  | _, _ =>
      if (object.own? name).any Property.configurable then
        modifyObject handle fun object =>
          { object with properties := object.properties.erase name }
        return true
      else
        return false

/-- Give an object a property, unless a permanent one is in its place. -/
def defineProperty
    (handle : Handle)
    (name : String)
    (property : Property) :
    Edit Bool := do
  let object ← ask (·.object handle)
  match object.own? name with
  | some existing =>
      if existing.configurable then
        modifyObject handle (·.withProperty name property)
        return true
      else
        return false
  | none =>
      modifyObject handle (·.withProperty name property)
      return true

/-- What is left to do after the part of a member write that runs no setter. -/
inductive Write where
  /-- The write is over. -/
  | done
  /-- A setter has to run. -/
  | setter (function : Handle)

/--
Write a member as far as no setter is needed: an array element, an own data
property, or a new property when no accessor of that name is in the way.  A
read-only own property swallows the write.
-/
def writeMember
    (handle : Handle)
    (name : String)
    (value : Value) :
    Edit Write := do
  let object ← ask (·.object handle)
  match object.content, elementIndex? name with
  | .array _, some index =>
      if index < maxArrayLength then
        modifyObject handle (·.withElement index value)
        return .done
      else
        writeProperty object
  | _, _ => writeProperty object
where
  /-- Write a property of an object that is not an array element. -/
  writeProperty (object : ScriptObject) : Edit Write := do
    match object.own? name with
    | some (.data _ true enumerable configurable) =>
        modifyObject handle
          (·.withProperty name
            (.data value true enumerable configurable))
        return .done
    | some (.data _ false _ _) => return .done
    | _ =>
        match ← ask (·.resolve handle name) with
        | .accessor _ (some setter) => return .setter setter
        | .accessor _ none => throw (.noSetter name)
        | _ =>
            modifyObject handle (·.withProperty name (.plain value))
            return .done

end Edit

end MovieScript
