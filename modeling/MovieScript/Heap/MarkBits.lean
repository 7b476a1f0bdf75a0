namespace MovieScript

/-!
# Mark bits

One bit for each of the 256 slots of a chunk, sixty-four to a word.  Marking
sets bits; sweeping walks over the positions that are still clear, in
increasing order.  The walk takes the lowest one that is left in its word, goes
on to the next word when there is none, and ends at the last slot in use.
-/

/-- The number of slots in a chunk, one mark bit each. -/
def chunkCapacity : Nat :=
  256

/-- The set of marked slots of one chunk. -/
structure MarkBits where
  words : Vector (BitVec 64) 4
  deriving Repr, DecidableEq

namespace MarkBits

/-- No slot is marked. -/
def empty : MarkBits :=
  ⟨Vector.replicate 4 0#64⟩

instance : Inhabited MarkBits :=
  ⟨empty⟩

/-- The mark of a slot; there is none outside the chunk. -/
def get
    (marks : MarkBits)
    (offset : Nat) :
    Bool :=
  match marks.words[offset / 64]? with
  | some word => word.getLsbD (offset % 64)
  | none => false

/-- Mark a slot; an offset outside the chunk changes nothing. -/
def set
    (marks : MarkBits)
    (offset : Nat) :
    MarkBits :=
  match marks.words[offset / 64]? with
  | some word =>
      ⟨marks.words.setIfInBounds (offset / 64)
        (word ||| BitVec.twoPow 64 (offset % 64))⟩
  | none => marks

/-- The mark of a slot of the chunk is a bit of one of the words. -/
theorem get_eq_getLsbD
    {marks : MarkBits}
    {offset : Nat}
    (inside : offset / 64 < 4) :
    marks.get offset =
      marks.words[offset / 64].getLsbD (offset % 64) := by
  simp [get, inside]

/-- Outside the chunk no slot is marked. -/
theorem get_of_not_lt
    {marks : MarkBits}
    {offset : Nat}
    (outside : ¬offset / 64 < 4) :
    marks.get offset = false := by
  simp [get, outside]

@[simp] theorem get_empty
    (offset : Nat) :
    empty.get offset = false := by
  by_cases inside : offset / 64 < 4
  · simp [get_eq_getLsbD inside, empty]
  · exact get_of_not_lt inside

/-- Setting one bit adds exactly that slot to the marked ones. -/
theorem get_set
    (marks : MarkBits)
    (offset query : Nat) :
    (marks.set offset).get query =
      (marks.get query ||
        (decide (query < chunkCapacity) && decide (offset = query))) := by
  by_cases inside : offset / 64 < 4
  · have marked :
        marks.set offset =
          ⟨marks.words.setIfInBounds (offset / 64)
            (marks.words[offset / 64] |||
              BitVec.twoPow 64 (offset % 64))⟩ := by
      simp [set, inside]
    by_cases sameWord : offset / 64 = query / 64
    · have sameBit : query % 64 = offset % 64 ↔ offset = query := by omega
      have bounded : query < chunkCapacity := by
        rw [chunkCapacity]
        omega
      have queried : query / 64 < 4 := sameWord ▸ inside
      rw [marked, get_eq_getLsbD queried, get_eq_getLsbD queried]
      simp [sameWord, sameBit, bounded, Nat.mod_lt]
    · have different : offset ≠ query := by
        rintro rfl
        exact sameWord rfl
      simp [marked, get, sameWord, different]
  · have unchanged : marks.set offset = marks := by
      simp [set, inside]
    have elsewhere : ¬(query < chunkCapacity ∧ offset = query) := by
      rw [chunkCapacity]
      omega
    simpa [unchanged] using fun bounded same =>
      absurd ⟨bounded, same⟩ elsewhere

end MarkBits

/-- A walk over the unmarked slots of a chunk, between two of its steps. -/
structure UnmarkedWalk where
  marks : MarkBits
  /-- The walk ends before this slot. -/
  count : Nat
  /-- The word the walk is in. -/
  word : Nat
  /-- The unmarked slots of that word that are still to be visited. -/
  ahead : BitVec 64

namespace UnmarkedWalk

/-- A walk over the first `count` slots, before its first step. -/
def start
    (marks : MarkBits)
    (count : Nat) :
    UnmarkedWalk where
  marks := marks
  count := count
  word := 0
  ahead := ~~~marks.words[0]

/-- The lowest slot ahead in the word. -/
def lowest (walk : UnmarkedWalk) : Nat :=
  walk.word * 64 + walk.ahead.ctz.toNat

/-- The walk with the lowest slot ahead in the word left behind. -/
def pastLowest (walk : UnmarkedWalk) : UnmarkedWalk :=
  { walk with ahead := walk.ahead &&& (walk.ahead - 1#64) }

/-- The walk at the beginning of the next word, if it goes that far. -/
def nextWord? (walk : UnmarkedWalk) : Option UnmarkedWalk :=
  if (walk.word + 1) * 64 < walk.count then
    walk.marks.words[walk.word + 1]?.map fun bits =>
      { walk with word := walk.word + 1, ahead := ~~~bits }
  else
    none

/-- There are four words. -/
theorem word_of_nextWord?
    {walk turned : UnmarkedWalk}
    (turns : walk.nextWord? = some turned) :
    turned.word = walk.word + 1 ∧ turned.word < 4 := by
  unfold nextWord? at turns
  split at turns
  · obtain ⟨bits, found, rfl⟩ := Option.map_eq_some_iff.mp turns
    have inside : walk.word + 1 < 4 :=
      (Vector.getElem?_eq_some_iff.mp found).1
    exact ⟨rfl, inside⟩
  · cases turns

/-- The next unmarked slot, and the walk after it. -/
def next (walk : UnmarkedWalk) : Option (Nat × UnmarkedWalk) :=
  if walk.ahead ≠ 0#64 ∧ walk.lowest < walk.count then
    some (walk.lowest, walk.pastLowest)
  else
    match _turns : walk.nextWord? with
    | some turned => turned.next
    | none => none
termination_by 4 - walk.word
decreasing_by
  have words := word_of_nextWord? _turns
  omega

/-- Clearing the lowest set bit makes a nonzero word smaller. -/
theorem and_sub_one_lt
    {word : BitVec 64}
    (nonzero : word ≠ 0#64) :
    (word &&& (word - 1#64)).toNat < word.toNat := by
  have positive : 0 < word.toNat := by
    rcases Nat.eq_zero_or_pos word.toNat with zero | positive
    · exact absurd (BitVec.eq_of_toNat_eq (by simpa using zero)) nonzero
    · exact positive
  have bounded := word.isLt
  have predecessor : (word - 1#64).toNat = word.toNat - 1 := by
    rw [BitVec.toNat_sub]
    simp only [BitVec.toNat_ofNat]
    omega
  have le : (word &&& (word - 1#64)).toNat ≤ (word - 1#64).toNat := by
    rw [BitVec.toNat_and]
    exact Nat.and_le_right
  omega

/-- A step leaves less of the word ahead, or goes on to a later word. -/
theorem next_shorter
    {walk rest : UnmarkedWalk}
    {offset : Nat}
    (visits : walk.next = some (offset, rest)) :
    Prod.Lex (· < ·) (· < ·)
      (4 - rest.word, rest.ahead.toNat)
      (4 - walk.word, walk.ahead.toNat) := by
  fun_induction next walk with
  | case1 walk here =>
      cases visits
      exact Prod.Lex.right _ (and_sub_one_lt here.1)
  | case2 walk _ turned turns inductionHypothesis =>
      have words := word_of_nextWord? turns
      have later : 4 - rest.word ≤ 4 - turned.word := by
        rcases Prod.lex_def.mp (inductionHypothesis visits) with
          fewer | ⟨same, -⟩
        · exact Nat.le_of_lt fewer
        · exact Nat.le_of_eq same
      apply Prod.Lex.left
      omega
  | case3 => cases visits

/-- The slots that a walk visits, in order. -/
def offsets (walk : UnmarkedWalk) : List Nat :=
  match _visits : walk.next with
  | some (offset, rest) => offset :: rest.offsets
  | none => []
termination_by (4 - walk.word, walk.ahead.toNat)
decreasing_by exact next_shorter _visits

end UnmarkedWalk

/-- The unmarked slots among the first `count`, in increasing order. -/
def MarkBits.unmarked
    (marks : MarkBits)
    (count : Nat) :
    List Nat :=
  (UnmarkedWalk.start marks count).offsets

end MovieScript
