namespace MovieScript

/-!
# Addresses of movies

Scripts may name a movie with any file extension; the machine replaces it by
the configured one.  A dot in a directory name, or in front of the file name,
starts no extension.  Places in an address are counted in bytes.
-/

/-- The characters that end a directory name. -/
def isSeparator (character : Char) : Bool :=
  character = '/' || character = '\\'

/-- The offset of the last character that passes a test. -/
def lastOffset? (passes : Char → Bool) : List Char → Option Nat
  | [] => none
  | character :: rest =>
      ((lastOffset? passes rest).map (character.utf8Size + ·)).or
        (if passes character then some 0 else none)

/-- The text in front of an offset, unless the offset is inside a character. -/
def textBefore?
    (text : String)
    (offset : Nat) :
    Option String :=
  if boundary : String.Pos.Raw.IsValid text ⟨offset⟩ then
    some (text.sliceTo (text.pos ⟨offset⟩ boundary)).copy
  else
    none

/-- The offset of the file name, which follows the last separator. -/
def fileStart (address : String) : Nat :=
  ((lastOffset? isSeparator address.toList).map (· + 1)).getD 0

/-- The offset of the extension of the file name, or the end of the address. -/
def stemEnd (address : String) : Nat :=
  ((lastOffset? (· = '.') address.toList).filter
    (fileStart address < ·)).getD address.utf8ByteSize

/-- The address of a movie with another extension. -/
def movieAddress (address extension : String) : String :=
  (textBefore? address (stemEnd address)).getD address ++ extension

end MovieScript
