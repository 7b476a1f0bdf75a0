import MovieScript.Heap.Arena
import MovieScript.Object
import MovieScript.Proofs.DocumentNumbers

namespace MovieScript

/-!
# Documents and what stands for them

Which documents scripts can hold, what becomes of their numbers, and when a
value together with the objects below it stands for a document.
-/

namespace Document

mutual

/-- The document as it is once a script has held its numbers. -/
def widened : Document → Document
  | .integer number =>
      if -2 ^ 31 ≤ number ∧ number < 2 ^ 31 then
        .integer number
      else
        .float (Decimal.nearestToInt number)
  | .list items => .list (widenedItems items)
  | .record members => .record (widenedMembers members)
  | other => other

/-- The items of a list, widened. -/
def widenedItems : List Document → List Document
  | [] => []
  | item :: rest => item.widened :: widenedItems rest

/-- The members of a record, widened. -/
def widenedMembers : List (String × Document) → List (String × Document)
  | [] => []
  | (name, document) :: rest =>
      (name, document.widened) :: widenedMembers rest

end

mutual

/--
The numbers of the document are integers of sixty-four bits and finite floats,
and each record has its keys once, all of them among the `allowed` ones.
-/
def Proper (allowed : String → Prop) : Document → Prop
  | .integer number => -2 ^ 63 ≤ number ∧ number < 2 ^ 64
  | .float number => number.isFinite = true
  | .list items => ProperItems allowed items
  | .record members =>
      (members.map Prod.fst).Nodup ∧ ProperMembers allowed members
  | _ => True

/-- Every item of a list is proper. -/
def ProperItems (allowed : String → Prop) : List Document → Prop
  | [] => True
  | item :: rest => item.Proper allowed ∧ ProperItems allowed rest

/-- Every member of a record is proper and under an allowed key. -/
def ProperMembers
    (allowed : String → Prop) :
    List (String × Document) → Prop
  | [] => True
  | (name, document) :: rest =>
      allowed name ∧ document.Proper allowed ∧ ProperMembers allowed rest

end

mutual

/-- The number of lists and records in the document. -/
def objects : Document → Nat
  | .list items => itemObjects items + 1
  | .record members => memberObjects members + 1
  | _ => 0

/-- The number of lists and records in the items of a list. -/
def itemObjects : List Document → Nat
  | [] => 0
  | item :: rest => item.objects + itemObjects rest

/-- The number of lists and records in the members of a record. -/
def memberObjects : List (String × Document) → Nat
  | [] => 0
  | (_, document) :: rest => document.objects + memberObjects rest

end

mutual

/-- How deep lists and records are nested in the document. -/
def depth : Document → Nat
  | .list items => itemDepth items + 1
  | .record members => memberDepth members + 1
  | _ => 0

/-- The depth of the deepest item of a list. -/
def itemDepth : List Document → Nat
  | [] => 0
  | item :: rest => max item.depth (itemDepth rest)

/-- The depth of the deepest member of a record. -/
def memberDepth : List (String × Document) → Nat
  | [] => 0
  | (_, document) :: rest => max document.depth (memberDepth rest)

end

mutual

/--
A value stands for a document: objects that are not on the `path` hold its
lists and records, each below the objects that lead to it.
-/
def StandsFor
    (heap : Heap ScriptObject)
    (path : List Handle)
    (value : Value) :
    Document → Prop
  | .null => value = .null
  | .boolean flag => value = .boolean flag
  | .integer number => value = integerValue number
  | .float number => value = .float number
  | .text content => value = .text content
  | .list items =>
      ∃ handle object elements,
        value = .object handle ∧ handle ∉ path ∧
          heap.get? handle = some object ∧
            object.content = .array elements ∧
              ItemsStandFor heap (handle :: path) elements.toList items
  | .record members =>
      ∃ handle object,
        value = .object handle ∧ handle ∉ path ∧
          heap.get? handle = some object ∧
            object.content = .ordinary ∧
              MembersStandFor heap (handle :: path)
                object.properties.entries members

/-- The elements of an array stand for the items of a list. -/
def ItemsStandFor
    (heap : Heap ScriptObject)
    (path : List Handle) :
    List Value → List Document → Prop
  | elements, [] => elements = []
  | elements, item :: rest =>
      ∃ first others,
        elements = first :: others ∧ StandsFor heap path first item ∧
          ItemsStandFor heap path others rest

/-- The properties of an object stand for the members of a record, in order. -/
def MembersStandFor
    (heap : Heap ScriptObject)
    (path : List Handle) :
    List (String × Property) → List (String × Document) → Prop
  | properties, [] => properties = []
  | properties, (name, document) :: rest =>
      ∃ value others,
        properties = (name, .plain value) :: others ∧
          StandsFor heap path value document ∧
            MembersStandFor heap path others rest

end

/-!
What stands for a document goes on to do so in another heap and below another
path, if every object off the old path is unchanged there and off the new path.
-/

section Carried

variable {heap after : Heap ScriptObject}

/-- Objects off the first path are the same in the other heap, off the second. -/
def Carried
    (heap after : Heap ScriptObject)
    (path other : List Handle) :
    Prop :=
  ∀ handle object,
    handle ∉ path → heap.get? handle = some object →
      handle ∉ other ∧ after.get? handle = some object

theorem Carried.cons
    {path other : List Handle}
    (carried : Carried heap after path other)
    (handle : Handle) :
    Carried heap after (handle :: path) (handle :: other) := by
  intro query object off live
  obtain ⟨different, off⟩ := List.ne_and_not_mem_of_not_mem_cons off
  obtain ⟨offOther, same⟩ := carried query object off live
  exact ⟨List.not_mem_cons_of_ne_of_not_mem different offOther, same⟩

mutual

theorem StandsFor.carried :
    ∀ {document : Document} {value : Value} {path other : List Handle},
      StandsFor heap path value document →
        Carried heap after path other →
          StandsFor after other value document
  | .null, _, _, _, stands, _ => stands
  | .boolean _, _, _, _, stands, _ => stands
  | .integer _, _, _, _, stands, _ => stands
  | .float _, _, _, _, stands, _ => stands
  | .text _, _, _, _, stands, _ => stands
  | .list _, _, _, _, stands, carried => by
      obtain ⟨handle, object, elements, rfl, off, live, content, items⟩ :=
        stands
      obtain ⟨offOther, same⟩ := carried handle object off live
      exact ⟨handle, object, elements, rfl, offOther, same, content,
        ItemsStandFor.carried items (carried.cons handle)⟩
  | .record _, _, _, _, stands, carried => by
      obtain ⟨handle, object, rfl, off, live, content, members⟩ := stands
      obtain ⟨offOther, same⟩ := carried handle object off live
      exact ⟨handle, object, rfl, offOther, same, content,
        MembersStandFor.carried members (carried.cons handle)⟩

theorem ItemsStandFor.carried :
    ∀ {items : List Document} {elements : List Value}
      {path other : List Handle},
      ItemsStandFor heap path elements items →
        Carried heap after path other →
          ItemsStandFor after other elements items
  | [], _, _, _, stand, _ => stand
  | _ :: _, _, _, _, stand, carried => by
      obtain ⟨first, others, rfl, stands, rest⟩ := stand
      exact ⟨first, others, rfl, StandsFor.carried stands carried,
        ItemsStandFor.carried rest carried⟩

theorem MembersStandFor.carried :
    ∀ {members : List (String × Document)}
      {properties : List (String × Property)} {path other : List Handle},
      MembersStandFor heap path properties members →
        Carried heap after path other →
          MembersStandFor after other properties members
  | [], _, _, _, stand, _ => stand
  | (_, _) :: _, _, _, _, stand, carried => by
      obtain ⟨value, others, rfl, stands, rest⟩ := stand
      exact ⟨value, others, rfl, StandsFor.carried stands carried,
        MembersStandFor.carried rest carried⟩

end

end Carried

end Document

end MovieScript
