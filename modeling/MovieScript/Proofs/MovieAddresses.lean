import MovieScript.MovieAddress

namespace MovieScript

/-!
# Movie addresses and their parts

Every address consists of a directory, which is empty or ends in a separator, the
stem of a file name, and the extension of that name, which may be missing.
`AddressParts` holds the three with what makes them parts of an address.  The
extension is found by two searches from the end, one for a separator and one for
a dot, whose results are compared as byte offsets.  They take an address apart
in the same way: the offset at which it is cut is that of the end of the stem, and
giving an address another extension is changing one of its parts.
-/

/-- A dot, and behind it neither dots nor separators. -/
def IsExtension (characters : List Char) : Prop :=
  ∃ rest,
    characters = '.' :: rest ∧
      ∀ character ∈ rest, character ≠ '.' ∧ isSeparator character = false

/-- The parts of an address. -/
structure AddressParts where
  directory : List Char
  stem : List Char
  extension : List Char
  /-- The directory is empty or ends in a separator. -/
  closed : ∀ last ∈ directory.getLast?, isSeparator last = true
  /-- No separator follows. -/
  plain : ∀ character ∈ stem, isSeparator character = false
  /--
  The extension begins with the last dot of the file name.  If it is missing,
  then so is the dot, or it is the first character of the name.
  -/
  dotted :
    extension = [] ∧ '.' ∉ stem.tail ∨ IsExtension extension ∧ stem ≠ []

/-- The number of bytes of some characters. -/
def byteCount (characters : List Char) : Nat :=
  (String.ofList characters).utf8ByteSize

@[simp]
theorem byteCount_nil : byteCount [] = 0 :=
  rfl

@[simp]
theorem byteCount_append (first second : List Char) :
    byteCount (first ++ second) = byteCount first + byteCount second := by
  simp only [byteCount, String.ofList_append, String.utf8ByteSize_append]

@[simp]
theorem byteCount_cons (character : Char) (rest : List Char) :
    byteCount (character :: rest) =
      character.utf8Size + byteCount rest := by
  simp only [byteCount, String.ofList_cons, String.utf8ByteSize_append,
    String.utf8ByteSize_singleton]

theorem byteCount_pos
    {characters : List Char}
    (nonempty : characters ≠ []) :
    0 < byteCount characters := by
  cases characters with
  | nil => exact absurd rfl nonempty
  | cons character rest =>
      have size := character.utf8Size_pos
      rw [byteCount_cons]
      omega

/-! ## Searching from the end -/

section Searching

variable {passes : Char → Bool} {characters : List Char}

/-- Nothing is found exactly if no character passes. -/
theorem lastOffset?_eq_none_iff :
    lastOffset? passes characters = none ↔
      ∀ character ∈ characters, passes character = false := by
  induction characters with
  | nil => simp [lastOffset?]
  | cons first rest inductionHypothesis =>
      rw [lastOffset?, Option.or_eq_none_iff, Option.map_eq_none_iff,
        inductionHypothesis]
      cases passed : passes first <;> simp [passed]

/-- A character that passes is found if none behind it does. -/
theorem lastOffset?_append_cons
    (before : List Char)
    {found : Char}
    {after : List Char}
    (passed : passes found = true)
    (last : ∀ character ∈ after, passes character = false) :
    lastOffset? passes (before ++ found :: after) =
      some (byteCount before) := by
  induction before with
  | nil =>
      simp [lastOffset?, lastOffset?_eq_none_iff.mpr last, passed]
  | cons first rest inductionHypothesis =>
      simp [lastOffset?, inductionHypothesis]

/-- What is found is the last character that passes. -/
theorem exists_of_lastOffset?
    {offset : Nat}
    (searched : lastOffset? passes characters = some offset) :
    ∃ before found after,
      characters = before ++ found :: after ∧ passes found = true ∧
        (∀ character ∈ after, passes character = false) ∧
          byteCount before = offset := by
  induction characters generalizing offset with
  | nil => cases searched
  | cons first rest inductionHypothesis =>
      cases later : lastOffset? passes rest with
      | none =>
          simp only [lastOffset?, later, Option.map_none, Option.none_or,
            Option.ite_none_right_eq_some, Option.some.injEq] at searched
          exact ⟨[], first, rest, rfl, searched.1,
            lastOffset?_eq_none_iff.mp later, searched.2⟩
      | some laterOffset =>
          simp only [lastOffset?, later, Option.map_some, Option.some_or,
            Option.some.injEq] at searched
          obtain ⟨before, found, after, rfl, passed, last, counted⟩ :=
            inductionHypothesis later
          refine ⟨first :: before, found, after, rfl, passed, last, ?_⟩
          rw [byteCount_cons, counted, searched]

/-- Characters are split at the last one that passes, or none of them passes. -/
theorem none_pass_or_split_at_last
    (passes : Char → Bool)
    (characters : List Char) :
    (∀ character ∈ characters, passes character = false) ∨
      ∃ before found after,
        characters = before ++ found :: after ∧ passes found = true ∧
          ∀ character ∈ after, passes character = false := by
  cases searched : lastOffset? passes characters with
  | none => exact .inl (lastOffset?_eq_none_iff.mp searched)
  | some offset =>
      obtain ⟨before, found, after, split, passed, last, -⟩ :=
        exists_of_lastOffset? searched
      exact .inr ⟨before, found, after, split, passed, last⟩

end Searching

/-- A text is cut between two of its characters. -/
theorem textBefore?_append (before after : String) :
    textBefore? (before ++ after) before.utf8ByteSize = some before := by
  have boundary :
      String.Pos.Raw.IsValid (before ++ after) ⟨before.utf8ByteSize⟩ :=
    String.Pos.Raw.isValid_iff_exists_append.mpr ⟨before, after, rfl, rfl⟩
  have splits :
      ((before ++ after).pos ⟨before.utf8ByteSize⟩ boundary).Splits
        before after :=
    ⟨rfl, rfl⟩
  rw [textBefore?, dif_pos boundary, splits.copy_sliceTo_eq]

namespace AddressParts

variable (parts : AddressParts)

/-- The file name. -/
def file : List Char :=
  parts.stem ++ parts.extension

/-- The whole address. -/
def address : String :=
  String.ofList (parts.directory ++ parts.file)

theorem toList_address :
    parts.address.toList = parts.directory ++ parts.file :=
  String.toList_ofList

/-- No separator is in the file name. -/
theorem isSeparator_of_mem_file
    {character : Char}
    (member : character ∈ parts.file) :
    isSeparator character = false := by
  rcases List.mem_append.mp member with inStem | inExtension
  · exact parts.plain character inStem
  · rcases parts.dotted with ⟨missing, -⟩ | ⟨⟨rest, isExtension, plain⟩, -⟩
    · rw [missing] at inExtension
      cases inExtension
    · rw [isExtension] at inExtension
      rcases List.mem_cons.mp inExtension with rfl | inRest
      · decide
      · exact (plain character inRest).2

/-- The file name begins behind the directory. -/
theorem fileStart_address :
    fileStart parts.address = byteCount parts.directory := by
  rw [fileStart, toList_address]
  rcases List.eq_nil_or_concat parts.directory with
    noDirectory | ⟨outer, separator, ends⟩
  · have noneFound : lastOffset? isSeparator parts.file = none :=
      lastOffset?_eq_none_iff.mpr fun _ => parts.isSeparator_of_mem_file
    rw [noDirectory, List.nil_append, noneFound]
    rfl
  · have isSeparator : isSeparator separator = true :=
      parts.closed separator (by simp [ends])
    have oneByte : separator.utf8Size = 1 := by
      rcases (by simpa [MovieScript.isSeparator] using isSeparator) with
        rfl | rfl <;> decide
    rw [ends, List.concat_eq_append, List.append_assoc,
      List.singleton_append,
      lastOffset?_append_cons outer isSeparator fun _ =>
        parts.isSeparator_of_mem_file]
    simp [oneByte]

/-- Where no dot follows the first character, the last dot is not behind it. -/
private theorem lastDot_le
    (undotted : '.' ∉ parts.stem.tail)
    {dot : Nat}
    (searched :
      lastOffset? (· = '.') (parts.directory ++ parts.stem) = some dot) :
    dot ≤ byteCount parts.directory := by
  obtain ⟨before, found, after, split, isDot, -, rfl⟩ :=
    exists_of_lastOffset? searched
  rcases List.append_eq_append_iff.mp split with
    ⟨leading, rfl, stem⟩ | ⟨trailing, directory, -⟩
  · cases leading with
    | nil => simp
    | cons first rest =>
        -- The dot is then one of the characters that follow the first one.
        obtain rfl : found = '.' := by simpa using isDot
        simp [stem] at undotted
  · rw [directory, byteCount_append]
    omega

/-- The address is cut behind the stem. -/
theorem stemEnd_address :
    stemEnd parts.address = byteCount (parts.directory ++ parts.stem) := by
  rw [stemEnd, fileStart_address, toList_address, file]
  rcases parts.dotted with
    ⟨missing, undotted⟩ | ⟨⟨rest, isExtension, plain⟩, named⟩
  · have noneBehind :
        (lastOffset? (· = '.') (parts.directory ++ parts.stem)).filter
          (byteCount parts.directory < ·) = none := by
      rw [Option.filter_eq_none_iff]
      intro dot searched
      have notBehind := parts.lastDot_le undotted searched
      simpa using notBehind
    rw [missing, List.append_nil, noneBehind, Option.getD_none, address,
      file, missing, List.append_nil, byteCount]
  · have lastDot :
        lastOffset? (· = '.')
            (parts.directory ++ parts.stem ++ '.' :: rest) =
          some (byteCount (parts.directory ++ parts.stem)) :=
      lastOffset?_append_cons _ (by decide) fun character member =>
        decide_eq_false (plain character member).1
    have behind :
        byteCount parts.directory <
          byteCount (parts.directory ++ parts.stem) := by
      have stemBytes := byteCount_pos named
      rw [byteCount_append]
      omega
    rw [isExtension, ← List.append_assoc, lastDot, Option.filter_some,
      if_pos (decide_eq_true behind), Option.getD_some]

/-- Behind the directory, the address can be cut. -/
theorem textBefore?_fileStart :
    textBefore? parts.address (fileStart parts.address) =
      some (String.ofList parts.directory) := by
  rw [fileStart_address, address, String.ofList_append]
  exact textBefore?_append _ _

/-- Behind the stem, the address can be cut. -/
theorem textBefore?_stemEnd :
    textBefore? parts.address (stemEnd parts.address) =
      some (String.ofList (parts.directory ++ parts.stem)) := by
  rw [stemEnd_address, address, file, ← List.append_assoc,
    String.ofList_append]
  exact textBefore?_append _ _

/-- An address can be taken apart in one way only. -/
theorem eq_of_address_eq
    {parts other : AddressParts}
    (same : parts.address = other.address) :
    parts = other := by
  have sameDirectory : parts.directory = other.directory := by
    have cut := parts.textBefore?_fileStart
    rw [same, textBefore?_fileStart, Option.some.injEq,
      String.ofList_inj] at cut
    exact cut.symm
  have sameStem : parts.stem = other.stem := by
    have cut := parts.textBefore?_stemEnd
    rw [same, textBefore?_stemEnd, Option.some.injEq, String.ofList_inj,
      sameDirectory, List.append_cancel_left_eq] at cut
    exact cut.symm
  have sameExtension : parts.extension = other.extension := by
    have joined := congrArg String.toList same
    simpa [toList_address, file, sameDirectory, sameStem] using joined
  cases parts
  cases other
  simp_all

/-- Whatever an address is given as an extension follows its stem. -/
theorem movieAddress_address (extension : String) :
    movieAddress parts.address extension =
      String.ofList (parts.directory ++ parts.stem) ++ extension := by
  rw [movieAddress, textBefore?_stemEnd, Option.getD_some]

/-- A file name has a stem. -/
theorem stem_ne_nil
    (named : parts.file ≠ []) :
    parts.stem ≠ [] := by
  intro noStem
  rcases parts.dotted with ⟨missing, -⟩ | ⟨-, hasStem⟩
  · exact named (by rw [file, noStem, missing, List.append_nil])
  · exact hasStem noStem

/-- The parts of the address with another extension. -/
def renamed
    (named : parts.stem ≠ [])
    {extension : List Char}
    (isExtension : IsExtension extension) :
    AddressParts where
  directory := parts.directory
  stem := parts.stem
  extension := extension
  closed := parts.closed
  plain := parts.plain
  dotted := .inr ⟨isExtension, named⟩

/-- With a proper extension, the new address is that of the changed parts. -/
theorem movieAddress_eq_renamed
    (named : parts.stem ≠ [])
    {extension : String}
    (isExtension : IsExtension extension.toList) :
    movieAddress parts.address extension =
      (parts.renamed named isExtension).address := by
  rw [movieAddress_address]
  simp [address, file, renamed, String.append_assoc]

/-- A directory can be taken off, up to the last separator. -/
private theorem exists_directory (address : List Char) :
    ∃ directory file,
      address = directory ++ file ∧
        (∀ last ∈ directory.getLast?, isSeparator last = true) ∧
          ∀ character ∈ file, isSeparator character = false := by
  rcases none_pass_or_split_at_last isSeparator address with
    plain | ⟨outer, separator, file, split, isSeparator, plain⟩
  · exact ⟨[], address, rfl, by simp, plain⟩
  · refine ⟨outer ++ [separator], file, by simp [split], ?_, plain⟩
    simpa using isSeparator

/-- An extension can be taken off, from the last dot behind the first character. -/
private theorem exists_extension
    {file : List Char}
    (plain : ∀ character ∈ file, isSeparator character = false) :
    ∃ stem extension,
      file = stem ++ extension ∧
        (extension = [] ∧ '.' ∉ stem.tail ∨
          IsExtension extension ∧ stem ≠ []) := by
  rcases none_pass_or_split_at_last (· = '.') file with
    undotted | ⟨stem, dot, rest, split, isDot, undotted⟩
  · refine ⟨file, [], by simp, .inl ⟨rfl, fun member => ?_⟩⟩
    simpa using undotted '.' (List.mem_of_mem_tail member)
  · obtain rfl : dot = '.' := by simpa using isDot
    cases stem with
    | nil =>
        refine ⟨file, [], by simp, .inl ⟨rfl, fun member => ?_⟩⟩
        rw [split] at member
        simpa using undotted '.' member
    | cons first others =>
        refine ⟨first :: others, '.' :: rest, split,
          .inr ⟨⟨rest, rfl, fun character member => ⟨?_, ?_⟩⟩,
            List.cons_ne_nil _ _⟩⟩
        · simpa using undotted character member
        · exact plain character (by simp [split, member])

/-- Every address has parts. -/
theorem exists_address (address : String) :
    ∃ parts : AddressParts, parts.address = address := by
  obtain ⟨directory, file, inDirectory, closed, plain⟩ :=
    exists_directory address.toList
  obtain ⟨stem, extension, rfl, dotted⟩ := exists_extension plain
  refine ⟨⟨directory, stem, extension, closed, ?_, dotted⟩, ?_⟩
  · intro character member
    exact plain character (List.mem_append_left _ member)
  · rw [AddressParts.address, AddressParts.file, ← inDirectory,
      String.ofList_toList]

end AddressParts

/--
Giving a movie another extension changes nothing but the extension.  An address
is taken apart in one way: all up to the last separator, dots included, then the
file name up to its last dot, or all of it if there is no dot behind its first
character.  There the address is cut, between two characters, and the new
extension follows.  If there is a file name, and the extension is a dot with
neither dots nor separators behind it, doing the same again changes nothing.
-/
theorem movieAddress_changes_extension (address extension : String) :
    ∃ parts : AddressParts,
      parts.address = address ∧
        (∀ other : AddressParts, other.address = address → other = parts) ∧
          String.Pos.Raw.IsValid address ⟨stemEnd address⟩ ∧
            textBefore? address (stemEnd address) =
                some (String.ofList (parts.directory ++ parts.stem)) ∧
              movieAddress address extension =
                  String.ofList (parts.directory ++ parts.stem) ++
                    extension ∧
                (parts.file ≠ [] →
                  IsExtension extension.toList →
                    movieAddress (movieAddress address extension) extension =
                      movieAddress address extension) := by
  obtain ⟨parts, rfl⟩ := AddressParts.exists_address address
  have cut := parts.textBefore?_stemEnd
  have boundary :
      String.Pos.Raw.IsValid parts.address ⟨stemEnd parts.address⟩ := by
    apply Classical.byContradiction
    intro inside
    rw [textBefore?, dif_neg inside] at cut
    cases cut
  refine ⟨parts, rfl, fun _ => AddressParts.eq_of_address_eq, boundary, cut,
    parts.movieAddress_address extension, ?_⟩
  intro named isExtension
  have again := parts.movieAddress_eq_renamed
    (parts.stem_ne_nil named) isExtension
  calc
    movieAddress (movieAddress parts.address extension) extension
      = movieAddress
          (parts.renamed (parts.stem_ne_nil named) isExtension).address
          extension := by rw [again]
    _ = String.ofList (parts.directory ++ parts.stem) ++ extension :=
          AddressParts.movieAddress_address _ extension
    _ = movieAddress parts.address extension :=
          (parts.movieAddress_address extension).symm

/-- An address with a dot in its directory and two in its file name. -/
def hiddenMovie : AddressParts where
  directory := ['d', 'é', '.', 'v', '2', '/']
  stem := ['.', 'h', 'ö', 'h', 'e']
  extension := ['.', 's', 'w', 'f']
  closed := by simp [isSeparator]
  plain := by simp [isSeparator]
  dotted := .inr ⟨⟨['s', 'w', 'f'], rfl, by simp [isSeparator]⟩, nofun⟩

/-- The last dot of the name is found, and changing it again has no effect. -/
theorem movieAddress_changes_extension_hidden :
    movieAddress "dé.v2/.höhe.swf" ".apt" = "dé.v2/.höhe.apt" ∧
      movieAddress "dé.v2/.höhe.apt" ".apt" = "dé.v2/.höhe.apt" := by
  obtain ⟨parts, -, unique, -, -, changed, again⟩ :=
    movieAddress_changes_extension "dé.v2/.höhe.swf" ".apt"
  obtain rfl := unique hiddenMovie (by decide +kernel)
  have same := again (by decide +kernel)
    ⟨['a', 'p', 't'], rfl, by simp [isSeparator]⟩
  have renamed :
      String.ofList (hiddenMovie.directory ++ hiddenMovie.stem) ++ ".apt" =
        "dé.v2/.höhe.apt" := by
    decide +kernel
  rw [changed, renamed] at same
  exact ⟨changed.trans renamed, same⟩

end MovieScript
