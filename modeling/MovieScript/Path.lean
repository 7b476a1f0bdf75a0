namespace MovieScript.Path

/-!
# Dotted names

A dotted name is a sequence of segments.  It is taken apart at all dots, at
the first or at the last one; an empty segment is a segment too.
-/

/-- The segments between the dots. -/
def splitDots : List Char → List (List Char)
  | [] => [[]]
  | character :: rest =>
      if character = '.' then
        [] :: splitDots rest
      else
        match splitDots rest with
        | [] => [[character]]
        | first :: others => (character :: first) :: others

/-- The segments of a dotted name; there is always at least one. -/
def segments (name : String) : List String :=
  (splitDots name.toList).map String.ofList

/-- The name has a dot. -/
def isDotted (name : String) : Bool :=
  name.toList.contains '.'

/-- The segment before the first dot, and what follows it. -/
def splitFirst (name : String) : String × String :=
  let characters := name.toList
  (String.ofList (characters.takeWhile (· ≠ '.')),
    String.ofList ((characters.dropWhile (· ≠ '.')).drop 1))

/-- What precedes the last dot, and the segment after it. -/
def splitLast? (name : String) : Option (String × String) :=
  if isDotted name then
    let reversed := name.toList.reverse
    some
      (String.ofList ((reversed.dropWhile (· ≠ '.')).drop 1).reverse,
        String.ofList (reversed.takeWhile (· ≠ '.')).reverse)
  else
    none

end MovieScript.Path
