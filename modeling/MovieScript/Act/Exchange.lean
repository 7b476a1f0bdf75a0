import MovieScript.Act.Call

namespace MovieScript.Act

/-!
# Documents in and out

Import builds plain objects and arrays.  Export reads members like a script
would, leaves functions out of records and refuses everything else that has no
document form, cycles among objects included.  To tell a cycle it hands on one
set of handles from object to object: an object enters the set before its parts
are exported, and leaves it when they are done.
-/

variable {σ : Type}

mutual

/-- The script value of a document. -/
def importDocument : Document → Act σ Value
  | .null => return .null
  | .boolean flag => return .boolean flag
  | .integer number => return Document.integerValue number
  | .float number => return .float number
  | .text content => return .text content
  | .list items => do
      let elements ← importItems items
      return .object (← Edit.createArray elements.toArray)
  | .record members => do
      let handle ← Edit.createObject
      importMembers handle members
      return .object handle

/-- The script values of the items of a list. -/
def importItems : List Document → Act σ (List Value)
  | [] => return []
  | item :: rest => do
      let value ← importDocument item
      let values ← importItems rest
      return value :: values

/-- Write the members of a record to an object, one by one. -/
def importMembers
    (handle : Handle) :
    List (String × Document) → Act σ Unit
  | [] => return ()
  | (name, document) :: rest => do
      let value ← importDocument document
      setMember handle name value
      importMembers handle rest

end

/--
The document of a value, given the objects that are being exported and with
those that are being exported afterwards.
-/
def exportBelow
    (visiting : List Handle)
    (value : Value) :
    Act σ (Document × List Handle) :=
  fun calls => calls.exportBelow visiting value

/-- The documents of the elements of an array, one after the other. -/
def exportItems
    (visiting : List Handle) :
    List Value → Act σ (List Document × List Handle)
  | [] => return ([], visiting)
  | value :: rest => do
      let first ← exportBelow visiting value
      let others ← exportItems first.2 rest
      return (first.1 :: others.1, others.2)

/-- The documents of the members of an object; functions are left out. -/
def exportMembers
    (visiting : List Handle)
    (handle : Handle) :
    List String → Act σ (List (String × Document) × List Handle)
  | [] => return ([], visiting)
  | name :: rest => do
      let member ← getMember handle name
      if ← inspect (·.isCallable member) then
        exportMembers visiting handle rest
      else
        let first ← exportBelow visiting member
        let others ← exportMembers first.2 handle rest
        return ((name, first.1) :: others.1, others.2)

/-- The document of an object that has just entered the set. -/
def exportObject
    (visiting : List Handle)
    (handle : Handle) :
    Act σ (Document × List Handle) := do
  let object ← ask (·.object handle)
  match object.content with
  | .function _ => fail (.noDocument object.content.className)
  | .stage _ _ => fail (.noDocument object.content.className)
  | .text content => return (.text content, visiting)
  | .boolean flag => return (.boolean flag, visiting)
  | .number payload => exportBelow visiting payload
  | .array elements =>
      let items ← exportItems visiting elements.toList
      return (.list items.1, items.2)
  | .ordinary =>
      let names :=
        (object.properties.entries.filter (·.2.enumerable)).map
          Prod.fst
      let members ← exportMembers visiting handle names
      return (.record members.1, members.2)

/-- One level of export, on which an object enters the set and leaves it. -/
def exportLevel
    (visiting : List Handle)
    (value : Value) :
    Act σ (Document × List Handle) := do
  match value with
  | .undefined => return (.null, visiting)
  | .null => return (.null, visiting)
  | .boolean flag => return (.boolean flag, visiting)
  | .integer number => return (.integer number.toInt, visiting)
  | .float number => return (Document.ofFloat number, visiting)
  | .text content => return (.text content, visiting)
  | .object handle =>
      if handle ∈ visiting then
        fail .cyclicDocument
      else
        let exported ← exportObject (handle :: visiting) handle
        return (exported.1, exported.2.erase handle)

/-- The document of a value. -/
def exportDocument (value : Value) : Act σ Document := do
  let exported ← exportBelow [] value
  return exported.1

end MovieScript.Act
