import MovieScript.Text.Hidden

namespace MovieScript.Text

/-!
# Quoted text

Text between quotes for diagnostics: quotes, backslashes and characters that
show nothing are written as escapes.
-/

/-- The escape of a character that has a short one. -/
def shortEscape? : Char → Option String
  | '\x00' => some "\\0"
  | '\t' => some "\\t"
  | '\r' => some "\\r"
  | '\n' => some "\\n"
  | '"' => some "\\\""
  | '\\' => some "\\\\"
  | _ => none

/-- The escape by code point. -/
def codePointEscape (character : Char) : String :=
  "\\u\x7b" ++ String.ofList (Nat.toDigits 16 character.toNat) ++ "\x7d"

/-- One character inside quotes. -/
def escaped (character : Char) : String :=
  match shortEscape? character with
  | some escape => escape
  | none =>
      if isHidden character then
        codePointEscape character
      else
        String.singleton character

/-- The text between quotes. -/
def quoted (text : String) : String :=
  "\"" ++ String.join (text.toList.map escaped) ++ "\""

end MovieScript.Text
