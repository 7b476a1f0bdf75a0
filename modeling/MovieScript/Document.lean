import MovieScript.Decimal.Nearest
import MovieScript.Table
import MovieScript.Value

namespace MovieScript

/-!
# Host documents

Plain structured data that the host exchanges with scripts.  Members of a
record keep their order.
-/

/-- A host document. -/
inductive Document where
  | null
  | boolean (flag : Bool)
  | integer (number : Int)
  | float (number : Float)
  | text (content : String)
  | list (items : List Document)
  | record (members : List (String × Document))
  deriving Inhabited

namespace Document

/-- An integer that fits stays one; a larger one becomes the nearest float. -/
def integerValue (number : Int) : Value :=
  if -Int.pow 2 31 ≤ number && number < Int.pow 2 31 then
    .integer (Int32.ofInt number)
  else
    .float (Decimal.nearestToInt number)

/-- Only finite floats have a document; the others become null. -/
def ofFloat (number : Float) : Document :=
  if number.isFinite then .float number else .null

/-- A record; a repeated key keeps its first place and its last value. -/
def ofMembers (members : List (String × Document)) : Document :=
  .record
    (members.foldl
      (fun (table : Table String Document) member =>
        table.insert member.1 member.2)
      .empty).entries

end Document

end MovieScript
