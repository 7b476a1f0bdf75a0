import MovieScript.Fault
import MovieScript.Heap.Arena
import MovieScript.Json

namespace MovieScript

/-!
# Configuration

The limits a machine works under.  The host writes them as a JSON object, in
which every field may be left out, or as an array of leading fields.
-/

/-- The settings of a machine. -/
structure Configuration where
  /-- The number of frames that may be live at once. -/
  maxCallDepth : Nat
  /-- The number of host entries that may be open at once. -/
  maxHostDepth : Nat
  /-- The number of prototype links a member look-up follows. -/
  maxPrototypeDepth : Nat
  /-- Allocations between automatic collections; zero for none at all. -/
  collectionThreshold : UInt64
  /-- The extension that movie addresses are given. -/
  movieExtension : String
  deriving Repr, DecidableEq

namespace Configuration

/-- The settings of a machine that was not configured. -/
def standard : Configuration where
  maxCallDepth := 256
  maxHostDepth := 32
  maxPrototypeDepth := 128
  collectionThreshold := Heap.defaultThreshold
  movieExtension := ".apt"

instance : Inhabited Configuration :=
  ⟨standard⟩

/-- The fields of a configuration text. -/
inductive Field where
  | maxCallDepth
  | maxHostDepth
  | maxPrototypeDepth
  | collectionThreshold
  | movieExtension
  deriving Repr, DecidableEq

namespace Field

/-- The fields in the order of declaration. -/
def all : List Field :=
  [.maxCallDepth, .maxHostDepth, .maxPrototypeDepth,
    .collectionThreshold, .movieExtension]

/-- The key of a field. -/
def key : Field → String
  | .maxCallDepth => "max_call_depth"
  | .maxHostDepth => "max_host_depth"
  | .maxPrototypeDepth => "max_prototype_depth"
  | .collectionThreshold => "gc_threshold"
  | .movieExtension => "movie_extension"

/-- The field with a key. -/
def ofKey? (key : String) : Option Field :=
  all.find? (·.key = key)

end Field

/-- A count: a plain integer below two to the sixty-four. -/
def count? : Json.Node → Option Nat
  | .number literal =>
      if literal.plain && !literal.negative &&
          literal.whole < Nat.pow 2 64 then
        some literal.whole
      else
        none
  | _ => none

/-- Set one field to the value it is given in a text. -/
def setField?
    (configuration : Configuration)
    (field : Field)
    (node : Json.Node) :
    Option Configuration :=
  match field with
  | .maxCallDepth =>
      (count? node).map fun count =>
        { configuration with maxCallDepth := count }
  | .maxHostDepth =>
      (count? node).map fun count =>
        { configuration with maxHostDepth := count }
  | .maxPrototypeDepth =>
      (count? node).map fun count =>
        { configuration with maxPrototypeDepth := count }
  | .collectionThreshold =>
      (count? node).map fun count =>
        { configuration with collectionThreshold := count.toUInt64 }
  | .movieExtension =>
      match node with
      | .text (some content) =>
          some { configuration with movieExtension := content }
      | _ => none

/-- Take over the members of an object; a known key may occur once. -/
def ofMembers? :
    Configuration →
      List Field →
      List (Option String × Json.Node) →
      Option Configuration
  | configuration, _, [] => some configuration
  | _, _, (none, _) :: _ => none
  | configuration, seen, (some key, node) :: rest =>
      match Field.ofKey? key with
      | none => ofMembers? configuration seen rest
      | some field =>
          if field ∈ seen then
            none
          else
            (configuration.setField? field node).bind fun changed =>
              ofMembers? changed (field :: seen) rest

/-- Take over the items of an array, field by field. -/
def ofItems? :
    Configuration →
      List Field →
      List Json.Node →
      Option Configuration
  | configuration, _, [] => some configuration
  | _, [], _ :: _ => none
  | configuration, field :: fields, node :: rest =>
      (configuration.setField? field node).bind fun changed =>
        ofItems? changed fields rest

/-- Read a configuration text; fields that are left out keep their default. -/
def read (text : String) : Except Fault Configuration :=
  let result :=
    match Json.read? text with
    | some (.object members) => ofMembers? standard [] members
    | some (.array items) => ofItems? standard Field.all items
    | _ => none
  match result with
  | some configuration => .ok configuration
  | none => .error .invalidConfiguration

/-- The value of a field as JSON writes it. -/
def writeField
    (configuration : Configuration) :
    Field → String
  | .maxCallDepth => toString configuration.maxCallDepth
  | .maxHostDepth => toString configuration.maxHostDepth
  | .maxPrototypeDepth => toString configuration.maxPrototypeDepth
  | .collectionThreshold =>
      toString configuration.collectionThreshold.toNat
  | .movieExtension => Json.writeText configuration.movieExtension

/-- The configuration as a JSON object without blanks. -/
def write (configuration : Configuration) : String :=
  "\x7b" ++
    ",".intercalate
      (Field.all.map fun field =>
        Json.writeText field.key ++ ":" ++
          configuration.writeField field) ++
    "\x7d"

end Configuration

end MovieScript
