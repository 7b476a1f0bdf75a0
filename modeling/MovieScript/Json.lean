import MovieScript.Decimal.Reading
import MovieScript.Numeral

namespace MovieScript.Json

/-!
# Reading and writing JSON text

A reader for whole JSON texts.  It keeps of every value what a caller may ask
for: a number remembers whether it was written as a plain integer, and a text
whose escapes form no characters is kept as unreadable rather than refused.
-/

/-- A number as it is written. -/
structure Number where
  negative : Bool
  whole : Nat
  /-- Neither fraction nor exponent was written. -/
  plain : Bool
  deriving Repr, DecidableEq

/-- A JSON value. -/
inductive Node where
  | null
  | boolean (flag : Bool)
  | number (literal : Number)
  | text (content : Option String)
  | array (items : List Node)
  | object (members : List (Option String × Node))
  deriving Repr

/-- A piece of a written text: a character, or an escaped UTF-16 unit. -/
inductive Piece where
  | plain (character : Char)
  | unit (code : Nat)
  deriving Repr, DecidableEq

/-- The four characters that may stand between the parts of a JSON text. -/
def isSpace (character : Char) : Bool :=
  character = ' ' || character = '\n' || character = '\t' ||
    character = '\r'

/-- The text from its first part on. -/
def skipSpace (characters : List Char) : List Char :=
  characters.dropWhile isSpace

/-- The character a one-letter escape stands for. -/
def letterEscape? : Char → Option Char
  | '"' => some '"'
  | '\\' => some '\\'
  | '/' => some '/'
  | 'b' => some '\x08'
  | 'f' => some '\x0c'
  | 'n' => some '\n'
  | 'r' => some '\r'
  | 't' => some '\t'
  | _ => none

/-- Read a text after its opening quote, up to its closing quote. -/
def pieces? : List Char → Option (List Piece × List Char)
  | [] => none
  | '"' :: rest => some ([], rest)
  | '\\' :: 'u' :: first :: second :: third :: fourth :: rest => do
      let code ← Numeral.hexDigits? [first, second, third, fourth]
      let (others, after) ← pieces? rest
      some (.unit code :: others, after)
  | '\\' :: letter :: rest => do
      let character ← letterEscape? letter
      let (others, after) ← pieces? rest
      some (.plain character :: others, after)
  | character :: rest =>
      if character.toNat < 0x20 || character = '\\' then
        none
      else do
        let (others, after) ← pieces? rest
        some (.plain character :: others, after)

/-- The first half of a surrogate pair. -/
def isLeading (code : Nat) : Bool :=
  0xD800 ≤ code && code ≤ 0xDBFF

/-- The second half of a surrogate pair. -/
def isTrailing (code : Nat) : Bool :=
  0xDC00 ≤ code && code ≤ 0xDFFF

/-- The characters of a written text, if every surrogate has its partner. -/
def decode? : List Piece → Option (List Char)
  | [] => some []
  | .plain character :: rest => (decode? rest).map (character :: ·)
  | .unit leading :: .unit trailing :: rest =>
      if isLeading leading then
        if isTrailing trailing then
          (decode? rest).map
            (Char.ofNat
              (0x10000 + (leading - 0xD800) * 0x400 +
                (trailing - 0xDC00)) :: ·)
        else
          none
      else if isTrailing leading then
        none
      else
        (decode? (.unit trailing :: rest)).map
          (Char.ofNat leading :: ·)
  | .unit code :: rest =>
      if isLeading code || isTrailing code then
        none
      else
        (decode? rest).map (Char.ofNat code :: ·)

/-- Read a text after its opening quote. -/
def text?
    (characters : List Char) :
    Option (Option String × List Char) :=
  (pieces? characters).map fun (pieces, after) =>
    ((decode? pieces).map String.ofList, after)

/-- Split a fraction off; a point needs a digit behind it. -/
def takeFraction? : List Char → Option (Bool × List Char)
  | '.' :: rest =>
      if (rest.takeWhile Char.isDigit).isEmpty then
        none
      else
        some (true, rest.dropWhile Char.isDigit)
  | characters => some (false, characters)

/-- Split an exponent off; its mark needs a digit behind it. -/
def takeExponent? : List Char → Option (Bool × List Char)
  | mark :: rest =>
      if mark = 'e' || mark = 'E' then
        let digits := (Decimal.takeSign rest).2
        if (digits.takeWhile Char.isDigit).isEmpty then
          none
        else
          some (true, digits.dropWhile Char.isDigit)
      else
        some (false, mark :: rest)
  | [] => some (false, [])

/-- Read a number; only zero itself starts with a zero. -/
def number?
    (characters : List Char) :
    Option (Number × List Char) := do
  let (negative, unsigned) :=
    match characters with
    | '-' :: rest => (true, rest)
    | rest => (false, rest)
  let whole := unsigned.takeWhile Char.isDigit
  if whole.isEmpty || (1 < whole.length && whole.head? = some '0') then
    none
  else
    let (hasFraction, afterFraction) ←
      takeFraction? (unsigned.dropWhile Char.isDigit)
    let (hasExponent, after) ← takeExponent? afterFraction
    some
      (⟨negative, Decimal.digitsValue whole,
          !hasFraction && !hasExponent⟩,
        after)

mutual

/-- Read one value from the front of a text. -/
def value? : Nat → List Char → Option (Node × List Char)
  | 0, _ => none
  | fuel + 1, characters =>
      match skipSpace characters with
      | '\x7b' :: rest =>
          match skipSpace rest with
          | '\x7d' :: after => some (.object [], after)
          | inside =>
              (members? fuel inside).map fun (members, after) =>
                (.object members, after)
      | '[' :: rest =>
          match skipSpace rest with
          | ']' :: after => some (.array [], after)
          | inside =>
              (items? fuel inside).map fun (items, after) =>
                (.array items, after)
      | '"' :: rest =>
          (text? rest).map fun (content, after) =>
            (.text content, after)
      | 'n' :: 'u' :: 'l' :: 'l' :: after => some (.null, after)
      | 't' :: 'r' :: 'u' :: 'e' :: after =>
          some (.boolean true, after)
      | 'f' :: 'a' :: 'l' :: 's' :: 'e' :: after =>
          some (.boolean false, after)
      | start =>
          (number? start).map fun (literal, after) =>
            (.number literal, after)

/-- Read the members of an object up to its closing brace. -/
def members? :
    Nat →
      List Char →
      Option (List (Option String × Node) × List Char)
  | 0, _ => none
  | fuel + 1, characters =>
      match skipSpace characters with
      | '"' :: rest => do
          let (key, afterKey) ← text? rest
          match skipSpace afterKey with
          | ':' :: start => do
              let (node, afterNode) ← value? fuel start
              match skipSpace afterNode with
              | ',' :: more => do
                  let (others, after) ← members? fuel more
                  some ((key, node) :: others, after)
              | '\x7d' :: after => some ([(key, node)], after)
              | _ => none
          | _ => none
      | _ => none

/-- Read the items of an array up to its closing bracket. -/
def items? : Nat → List Char → Option (List Node × List Char)
  | 0, _ => none
  | fuel + 1, characters => do
      let (node, afterNode) ← value? fuel characters
      match skipSpace afterNode with
      | ',' :: more => do
          let (others, after) ← items? fuel more
          some (node :: others, after)
      | ']' :: after => some ([node], after)
      | _ => none

end

/-- Read a whole text as one JSON value. -/
def read? (text : String) : Option Node :=
  let characters := text.toList
  match value? (characters.length + 1) characters with
  | some (node, after) =>
      if (skipSpace after).isEmpty then some node else none
  | none => none

/-- One character of a text as JSON writes it. -/
def writeCharacter (character : Char) : String :=
  match character with
  | '"' => "\\\""
  | '\\' => "\\\\"
  | '\x08' => "\\b"
  | '\x0c' => "\\f"
  | '\n' => "\\n"
  | '\r' => "\\r"
  | '\t' => "\\t"
  | other =>
      if other.toNat < 0x20 then
        let digits := Nat.toDigits 16 other.toNat
        "\\u" ++ Numeral.zeros (4 - digits.length) ++
          String.ofList digits
      else
        String.singleton other

/-- A text as JSON writes it. -/
def writeText (text : String) : String :=
  "\"" ++ String.join (text.toList.map writeCharacter) ++ "\""

end MovieScript.Json
