import MovieScript.Classes.Receiver
import MovieScript.Text.Blank

namespace MovieScript.DisplayClass

/-!
# Display objects

The members of `StageObject`, `TextField` and `MovieClip` read and write the
display item behind the object.  Scales and opacity are percentages, colours
are written as hexadecimal text, and frames are counted from one.
-/

/-- The display item behind a receiver. -/
def itemOf (receiver : Value) : Edit ItemId :=
  match receiver with
  | .object handle => Edit.ask (·.displayItem handle)
  | other => throw (.displayPropertyOn other.typeName)

/-- Read the display item behind a receiver. -/
def readItem (receiver : Value) : Edit Item := do
  let id ← itemOf receiver
  Edit.ask (·.scene.read id)

/-- Change the display item behind a receiver. -/
def updateItem
    (receiver : Value)
    (change : Item → Item) :
    Edit Value := do
  let id ← itemOf receiver
  discard (Edit.ask (·.scene.readForUpdate id))
  modify fun machine =>
    { machine with scene := machine.scene.modify id change }
  return .undefined

/-- Change the transform of the display item behind a receiver. -/
def updateTransform
    (receiver : Value)
    (change : Transform → Transform) :
    Edit Value :=
  updateItem receiver fun item =>
    { item with transform := change item.transform }

/-- A channel or opacity kept between zero and one; NaN stays. -/
def clampUnit (value : Float32) : Float32 :=
  if value < 0.0 then
    0.0
  else if 1.0 < value then
    1.0
  else
    value

/-- A number of the display tree as a script value. -/
def widened (number : Float32) : Value :=
  .float number.toFloat

/-- A script value as a number of the display tree. -/
def narrowed (value : Value) : Float32 :=
  value.toFloat.toFloat32

/-- Read a member of a display object. -/
def readMember
    (member : DisplayMember)
    (receiver : Value) :
    Edit Value := do
  match member with
  | .x => return widened (← readItem receiver).transform.x
  | .y => return widened (← readItem receiver).transform.y
  | .xScale =>
      return widened ((← readItem receiver).transform.xScale * 100.0)
  | .yScale =>
      return widened ((← readItem receiver).transform.yScale * 100.0)
  | .alpha =>
      return widened
        ((← readItem receiver).transform.colour.alpha * 100.0)
  | .visible => return .boolean (← readItem receiver).visible
  | .name => return .text (← readItem receiver).name
  | .parent =>
      let id ← itemOf receiver
      return .ofHandle? (← Edit.ask (·.scene.parentScript id))
  | .target =>
      let id ← itemOf receiver
      return .text ((← get).scene.targetPath id)

/-- Write a member of a display object; the place in the tree is fixed. -/
def writeMember
    (member : DisplayMember)
    (receiver : Value)
    (arguments : List Value) :
    Edit Value := do
  let value := argument arguments 0
  match member with
  | .x =>
      updateTransform receiver fun transform =>
        { transform with x := narrowed value }
  | .y =>
      updateTransform receiver fun transform =>
        { transform with y := narrowed value }
  | .xScale =>
      updateTransform receiver fun transform =>
        { transform with xScale := narrowed value / 100.0 }
  | .yScale =>
      updateTransform receiver fun transform =>
        { transform with yScale := narrowed value / 100.0 }
  | .alpha =>
      updateTransform receiver fun transform =>
        { transform with
          colour :=
            { transform.colour with
              alpha := clampUnit (narrowed value / 100.0) } }
  | .visible =>
      updateItem receiver fun item =>
        { item with visible := value.toBoolean }
  | .name =>
      let name ← Edit.displayText value
      updateItem receiver fun item => { item with name := name }
  | .parent => return .undefined
  | .target => return .undefined

/-- A colour channel as a byte, a half rounded up. -/
def channelByte (channel : Float32) : Nat :=
  (clampUnit channel * 255.0).round.toUInt32.toNat

/-- A colour as hexadecimal text, without its opacity. -/
def writeColour (colour : Colour) : String :=
  let number :=
    channelByte colour.red * Nat.pow 2 16 +
      channelByte colour.green * Nat.pow 2 8 +
      channelByte colour.blue
  let digits := (Nat.toDigits 16 number).map Char.toUpper
  "0x" ++ Numeral.zeros (6 - digits.length) ++ String.ofList digits

/-- The digits of a colour text after its mark, if it has one. -/
def afterColourMark : List Char → List Char
  | '0' :: 'x' :: rest => rest
  | '0' :: 'X' :: rest => rest
  | '#' :: rest => rest
  | characters => characters

/-- A colour text as a number of at most thirty-two bits. -/
def readColour? (text : String) : Option Nat :=
  let digits :=
    match afterColourMark (Text.trim text.toList) with
    | '+' :: rest => rest
    | characters => characters
  (Numeral.hexDigits? digits).filter (· < Nat.pow 2 32)

/-- The colour of a text field. -/
def textColour (receiver : Value) : Edit Value := do
  return .text (writeColour (← readItem receiver).transform.colour)

/-- One byte of a colour number as a channel. -/
def channelOf
    (number : Nat)
    (place : Nat) :
    Float32 :=
  (number / Nat.pow 2 place % 256).toUInt32.toFloat32 / 255.0

/-- Set the colour of a text field from a text or a number. -/
def setTextColour
    (receiver : Value)
    (arguments : List Value) :
    Edit Value := do
  let number ←
    match argument arguments 0 with
    | .text content =>
        match readColour? content with
        | some number => pure number
        | none => throw (.notAColour content)
    | .integer number => pure number.toUInt32.toNat
    | .float number => pure (Numeral.truncate number).toUInt32.toNat
    | other => throw (.colourExpected other.typeName)
  updateTransform receiver fun transform =>
    { transform with
      colour :=
        { red := channelOf number 16
          green := channelOf number 8
          blue := channelOf number 0
          alpha := transform.colour.alpha } }

/-- The timeline of the movie clip behind a receiver, free to be changed. -/
def timelineOf (receiver : Value) : Edit (ItemId × Timeline) := do
  let id ← itemOf receiver
  let item ← Edit.ask (·.scene.readForUpdate id)
  match item.timeline with
  | some timeline => return (id, timeline)
  | none => throw (.notAMovieClip item.name)

/-- Give commands to the movie clip behind a receiver. -/
def performAll
    (receiver : Value)
    (commands : Except Fault (List TimelineCommand)) :
    Edit Value := do
  let (id, timeline) ← timelineOf receiver
  let commands ← Edit.ask fun _ => commands
  modify fun machine =>
    { machine with
      scene :=
        machine.scene.modify id fun item =>
          { item with
            timeline := some (commands.foldl Timeline.perform timeline) } }
  return .undefined

/-- The frame a movie clip shows, counted from one. -/
def currentFrame (receiver : Value) : Edit Value := do
  let (_, timeline) ← timelineOf receiver
  return lengthValue (timeline.frame.toNat + 1)

/-- The jump that leads to a label or to a frame number counted from one. -/
def jumpTo (destination : Value) : Except Fault TimelineCommand :=
  match destination with
  | .text label => .ok (.gotoLabel label)
  | .integer number => .ok (.gotoFrame (frameIndex number))
  | .float number => .ok (.gotoFrame (frameIndex (Numeral.truncate number)))
  | other => .error (.destinationExpected other.typeName)
where
  /-- The index of a frame number; there is nothing before the first frame. -/
  frameIndex (number : Int32) : UInt32 :=
    (number.toInt - 1).toNat.toUInt32

/-- Jump to a place on the timeline and go on as the second command says. -/
def jumpAnd
    (receiver : Value)
    (arguments : List Value)
    (command : TimelineCommand) :
    Edit Value :=
  performAll receiver
    ((jumpTo (argument arguments 0)).map fun jump => [jump, command])

/-- The member name of a numbered display property. -/
def indexedName (index : Nat) : Except Fault String :=
  match index with
  | 0 => .ok "_x"
  | 1 => .ok "_y"
  | 2 => .ok "_xscale"
  | 3 => .ok "_yscale"
  | 4 => .ok "_currentframe"
  | 6 => .ok "_alpha"
  | 7 => .ok "_visible"
  | 11 => .ok "_target"
  | 13 => .ok "_name"
  | other => .error (.unknownDisplayIndex other)

end MovieScript.DisplayClass
