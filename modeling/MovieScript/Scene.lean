import MovieScript.Fault
import MovieScript.Heap.Handle

namespace MovieScript

/-!
# The display tree

The items that the host displays, as far as scripts can see and change them.
The host can hold an item for a while: held for reading it can still be read
here, held for writing it cannot be touched at all.

The items belong to the host, which may display them as it likes.  What is
assumed of them here is that an item keeps what is written to it, that it
changes only when a script or the host changes it, and that a timeline does
nothing with a command but what `Timeline.perform` says.  In particular a
collection changes no item: the host is not told of the objects that are
reclaimed.
-/

/-- The number of a display item, in order of creation. -/
abbrev ItemId := Nat

/-- A colour with opacity, each channel from zero to one. -/
structure Colour where
  red : Float32
  green : Float32
  blue : Float32
  alpha : Float32
  deriving Repr

/-- Position, scale and colour of an item. -/
structure Transform where
  x : Float32
  y : Float32
  xScale : Float32
  yScale : Float32
  colour : Colour
  deriving Repr

namespace Transform

/-- No shift, full size, full colour. -/
def identity : Transform where
  x := 0.0
  y := 0.0
  xScale := 1.0
  yScale := 1.0
  colour := ⟨1.0, 1.0, 1.0, 1.0⟩

end Transform

/-- What a script asks of the timeline of an item. -/
inductive TimelineCommand where
  | gotoLabel (label : String)
  | gotoFrame (index : UInt32)
  | play
  | stop (forced : Bool)
  deriving Repr, DecidableEq

namespace TimelineCommand

/-- The command as a host records it. -/
def text : TimelineCommand → String
  | .gotoLabel label => "goto " ++ label
  | .gotoFrame index => "frame " ++ toString index.toNat
  | .play => "play"
  | .stop forced => "stop " ++ (if forced then "true" else "false")

end TimelineCommand

/-- The frame a timeline shows and the commands it was given, oldest first. -/
structure Timeline where
  frame : UInt32
  commands : List TimelineCommand
  deriving Repr, DecidableEq

namespace Timeline

/--
Give a command.  The timelines that are assumed here move at once only when they
jump to a frame number; playing and labels are left to the host.
-/
def perform
    (timeline : Timeline)
    (command : TimelineCommand) :
    Timeline where
  frame :=
    match command with
    | .gotoFrame index => index
    | _ => timeline.frame
  commands := timeline.commands ++ [command]

end Timeline

/-- One display item. -/
structure Item where
  name : String
  parent : Option ItemId
  /-- The script object that stands for the item. -/
  script : Option Handle := none
  transform : Transform
  visible : Bool
  /-- The item only places another one and has no name in paths. -/
  isPlacement : Bool
  /-- Present exactly when the item is a movie clip. -/
  timeline : Option Timeline
  /-- How often the host holds the item for reading. -/
  readers : Nat := 0
  /-- The host holds the item for writing. -/
  writing : Bool := false
  deriving Repr

namespace Item

/-- The item can be read. -/
def readable (item : Item) : Bool :=
  !item.writing

/-- The item can be changed. -/
def writable (item : Item) : Bool :=
  !item.writing && item.readers == 0

end Item

/-- All display items. -/
structure Scene where
  items : Array Item
  deriving Repr

namespace Scene

/-- Nothing is displayed. -/
def empty : Scene :=
  ⟨#[]⟩

/-- Add an item and report its number. -/
def add
    (scene : Scene)
    (item : Item) :
    ItemId × Scene :=
  (scene.items.size, ⟨scene.items.push item⟩)

/-- The item with a number, unless the host holds it for writing. -/
def read
    (scene : Scene)
    (id : ItemId) :
    Except Fault Item :=
  match scene.items[id]? with
  | some item =>
      if item.readable then .ok item else .error .itemBorrowed
  | none => .error .itemBorrowed

/-- The item with a number, unless the host holds it. -/
def readForUpdate
    (scene : Scene)
    (id : ItemId) :
    Except Fault Item :=
  match scene.items[id]? with
  | some item =>
      if item.writable then .ok item else .error .itemBorrowed
  | none => .error .itemBorrowed

/-- Change an item without asking who holds it. -/
def modify
    (scene : Scene)
    (id : ItemId)
    (change : Item → Item) :
    Scene :=
  ⟨scene.items.modify id change⟩

/-- Hold an item for the host, for writing or for reading. -/
def hold
    (scene : Scene)
    (id : ItemId)
    (exclusive : Bool) :
    Scene :=
  scene.modify id fun item =>
    if exclusive then
      { item with writing := true }
    else
      { item with readers := item.readers + 1 }

/-- Let go of an item that the host holds. -/
def letGo
    (scene : Scene)
    (id : ItemId)
    (exclusive : Bool) :
    Scene :=
  scene.modify id fun item =>
    if exclusive then
      { item with writing := false }
    else
      { item with readers := item.readers - 1 }

/--
The names on the way from an item up to the root, innermost first.  Placements
and the root itself have no name in a path; an unreadable item ends the way.
The way has at most one step for each item of the tree.
-/
def pathNames
    (scene : Scene) :
    Nat → Option ItemId → List String
  | 0, _ => []
  | _ + 1, none => []
  | steps + 1, some id =>
      match scene.read id with
      | .error _ => []
      | .ok item =>
          let above := scene.pathNames steps item.parent
          if item.parent.isSome && !item.isPlacement then
            item.name :: above
          else
            above

/-- The absolute path of an item: a slash for the root, `/a/b` below it. -/
def targetPath
    (scene : Scene)
    (id : ItemId) :
    String :=
  "/" ++ "/".intercalate
    (scene.pathNames scene.items.size (some id)).reverse

/-- The script object of the nearest item from here up that has one. -/
def nearestScript
    (scene : Scene) :
    Nat → Option ItemId → Except Fault (Option Handle)
  | 0, _ => .ok none
  | _ + 1, none => .ok none
  | steps + 1, some id => do
      let item ← scene.read id
      match item.script with
      | some script => .ok (some script)
      | none => scene.nearestScript steps item.parent

/-- The script object of the nearest ancestor of an item that has one. -/
def containerScript
    (scene : Scene)
    (id : ItemId) :
    Except Fault (Option Handle) := do
  let item ← scene.read id
  scene.nearestScript scene.items.size item.parent

/--
The script object of an item's parent.  A placement belongs to the item above
it, so its parent is one level further up.
-/
def parentScript
    (scene : Scene)
    (id : ItemId) :
    Except Fault (Option Handle) := do
  let item ← scene.read id
  let parent ←
    match item.parent with
    | some placement =>
        if item.isPlacement then
          pure (← scene.read placement).parent
        else
          pure (some placement)
    | none => pure none
  match parent with
  | some parent => return (← scene.read parent).script
  | none => return none

end Scene

end MovieScript
