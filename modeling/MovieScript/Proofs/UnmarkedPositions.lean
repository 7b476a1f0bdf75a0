import Mathlib.Data.List.Sort
import MovieScript.Heap.MarkBits

namespace MovieScript

/-!
# The unmarked positions of a chunk

A walk over the unmarked slots of a chunk stands in one of its words.  What it
has still to visit is the rest of that word and all of the words behind it, as
far as the walk goes.  Each step visits the lowest of these slots and leaves the
others, whether it stays in the word or skips some words in which nothing is
left.  Sweeping relies on both halves of what follows: no unmarked slot is left
out, and none is visited twice.
-/

namespace UnmarkedWalk

/-- Clearing the lowest set bit of a word keeps all others. -/
private theorem getLsbD_and_sub_one
    {word : BitVec 64}
    (nonzero : word ≠ 0#64)
    (position : Nat) :
    (word &&& (word - 1#64)).getLsbD position =
      (word.getLsbD position && decide (position ≠ word.ctz.toNat)) := by
  have lowestSet := BitVec.getLsbD_true_ctz_of_ne_zero nonzero
  have lowerSet :
      (∃ lower < position, word.getLsbD lower = true) ↔
        word.ctz.toNat < position := by
    constructor
    · rintro ⟨lower, less, set⟩
      by_contra notBelow
      have clear : word.getLsbD lower = false :=
        BitVec.getLsbD_false_of_lt_ctz (by omega)
      simp [clear] at set
    · intro less
      exact ⟨_, less, lowestSet⟩
  rw [← BitVec.not_neg, BitVec.getLsbD_and, BitVec.getLsbD_not,
    BitVec.getLsbD_neg]
  simp only [lowerSet]
  cases set : word.getLsbD position with
  | false =>
      simp
  | true =>
      have inside : position < 64 := BitVec.lt_of_getLsbD set
      have atLeast : ¬position < word.ctz.toNat := by
        intro less
        simp [BitVec.getLsbD_false_of_lt_ctz less] at set
      have above :
          word.ctz.toNat < position ↔ position ≠ word.ctz.toNat := by
        omega
      simp [inside, above]

/-- The walk has still to visit the slot. -/
def Awaits
    (walk : UnmarkedWalk)
    (offset : Nat) :
    Prop :=
  offset < walk.count ∧
    (offset / 64 = walk.word ∧
        walk.ahead.getLsbD (offset % 64) = true ∨
      walk.word < offset / 64 ∧ offset < chunkCapacity ∧
        walk.marks.get offset = false)

variable {walk turned rest : UnmarkedWalk} {offset other : Nat}

/-- A slot ahead in the word is not below the lowest one. -/
private theorem lowest_le
    (inWord : offset / 64 = walk.word)
    (ahead : walk.ahead.getLsbD (offset % 64) = true) :
    walk.ahead ≠ 0#64 ∧ walk.lowest ≤ offset := by
  constructor
  · intro zero
    simp [zero] at ahead
  · by_contra below
    have clear : walk.ahead.getLsbD (offset % 64) = false := by
      apply BitVec.getLsbD_false_of_lt_ctz
      simp only [lowest] at below
      omega
    simp [clear] at ahead

/-- The lowest slot ahead is in the word, and it is ahead. -/
private theorem lowest_ahead
    (someAhead : walk.ahead ≠ 0#64) :
    walk.lowest / 64 = walk.word ∧
      walk.lowest % 64 = walk.ahead.ctz.toNat ∧
        walk.ahead.getLsbD (walk.lowest % 64) = true := by
  have isSet := BitVec.getLsbD_true_ctz_of_ne_zero someAhead
  have inside : walk.ahead.ctz.toNat < 64 := BitVec.lt_of_getLsbD isSet
  have position : walk.lowest % 64 = walk.ahead.ctz.toNat := by
    rw [lowest]
    omega
  refine ⟨?_, position, position ▸ isSet⟩
  rw [lowest]
  omega

/-- A step within the word visits the lowest slot and awaits all others. -/
private theorem awaits_pastLowest
    (someAhead : walk.ahead ≠ 0#64)
    (reached : walk.lowest < walk.count) :
    (walk.Awaits other ↔
        other = walk.lowest ∨ walk.pastLowest.Awaits other) ∧
      (walk.pastLowest.Awaits other → walk.lowest < other) := by
  obtain ⟨sameWord, position, isAhead⟩ := lowest_ahead someAhead
  constructor
  · by_cases isLowest : other = walk.lowest
    · subst isLowest
      exact iff_of_true ⟨reached, .inl ⟨sameWord, isAhead⟩⟩ (.inl rfl)
    · simp only [Awaits, pastLowest, getLsbD_and_sub_one someAhead,
        Bool.and_eq_true, decide_eq_true_eq, isLowest, false_or]
      have kept : other / 64 = walk.word →
          other % 64 ≠ walk.ahead.ctz.toNat := by
        omega
      tauto
  · simp only [Awaits, pastLowest, getLsbD_and_sub_one someAhead,
      Bool.and_eq_true, decide_eq_true_eq]
    rintro ⟨-, ⟨inWord, isAhead, different⟩ | ⟨later, -⟩⟩
    · have notBelow := (lowest_le inWord isAhead).2
      omega
    · omega

/-- With nothing to visit in its word, a walk awaits only later words. -/
private theorem Awaits.later
    (awaited : walk.Awaits other)
    (noneHere : ¬(walk.ahead ≠ 0#64 ∧ walk.lowest < walk.count)) :
    walk.word < other / 64 ∧ other < chunkCapacity ∧
      walk.marks.get other = false := by
  obtain ⟨inside, ⟨inWord, isAhead⟩ | later⟩ := awaited
  · obtain ⟨someAhead, le⟩ := lowest_le inWord isAhead
    exact absurd ⟨someAhead, by omega⟩ noneHere
  · exact later

/-- Going on to the next word leaves out nothing of the later words. -/
private theorem awaits_nextWord
    (noneHere : ¬(walk.ahead ≠ 0#64 ∧ walk.lowest < walk.count))
    (turns : walk.nextWord? = some turned) :
    walk.Awaits other ↔ turned.Awaits other := by
  unfold nextWord? at turns
  split at turns
  case isFalse => cases turns
  obtain ⟨bits, found, rfl⟩ := Option.map_eq_some_iff.mp turns
  obtain ⟨inside, rfl⟩ := Vector.getElem?_eq_some_iff.mp found
  have inNext (here : other / 64 = walk.word + 1) :
      (~~~walk.marks.words[walk.word + 1]).getLsbD (other % 64) = true ↔
        walk.marks.get other = false := by
    have queried : other / 64 < 4 := here ▸ inside
    rw [MarkBits.get_eq_getLsbD queried]
    simp [here, Nat.mod_lt]
  have bounded (here : other / 64 = walk.word + 1) :
      other < chunkCapacity := by
    rw [chunkCapacity]
    omega
  constructor
  · intro awaited
    obtain ⟨later, inChunk, clear⟩ := awaited.later noneHere
    refine ⟨awaited.1, ?_⟩
    by_cases here : other / 64 = walk.word + 1
    · exact .inl ⟨here, (inNext here).mpr clear⟩
    · exact .inr ⟨by dsimp only; omega, inChunk, clear⟩
  · rintro ⟨reached, ⟨here, isAhead⟩ | ⟨later, inChunk, clear⟩⟩
    · exact ⟨reached,
        .inr ⟨by dsimp only at here; omega, bounded here,
          (inNext here).mp isAhead⟩⟩
    · exact ⟨reached,
        .inr ⟨by dsimp only at later; omega, inChunk, clear⟩⟩

/-- A walk that cannot go on to a next word awaits nothing in later words. -/
private theorem not_awaits_of_last
    (noneHere : ¬(walk.ahead ≠ 0#64 ∧ walk.lowest < walk.count))
    (last : walk.nextWord? = none) :
    ¬walk.Awaits other := by
  intro awaited
  obtain ⟨later, inChunk, -⟩ := awaited.later noneHere
  have reached := awaited.1
  rw [chunkCapacity] at inChunk
  unfold nextWord? at last
  split at last
  · simp only [Option.map_eq_none_iff, Vector.getElem?_eq_none_iff] at last
    omega
  · omega

/-- A walk that is over has left no slot out. -/
theorem not_awaits_of_next
    (ended : walk.next = none) :
    ¬walk.Awaits other := by
  fun_induction next walk with
  | case1 => cases ended
  | case2 walk noneHere turned turns inductionHypothesis =>
      rw [awaits_nextWord noneHere turns]
      exact inductionHypothesis ended
  | case3 walk noneHere last => exact not_awaits_of_last noneHere last

/-- A step visits the lowest slot that is awaited and awaits all others. -/
theorem awaits_next
    (visits : walk.next = some (offset, rest)) :
    (walk.Awaits other ↔ other = offset ∨ rest.Awaits other) ∧
      (rest.Awaits other → offset < other) := by
  fun_induction next walk with
  | case1 walk here =>
      cases visits
      exact awaits_pastLowest here.1 here.2
  | case2 walk noneHere turned turns inductionHypothesis =>
      rw [awaits_nextWord noneHere turns]
      exact inductionHypothesis visits
  | case3 => cases visits

/-- A walk visits the slots that it awaits. -/
theorem mem_offsets
    (walk : UnmarkedWalk)
    (offset : Nat) :
    offset ∈ walk.offsets ↔ walk.Awaits offset := by
  fun_induction offsets walk with
  | case1 walk first rest visits inductionHypothesis =>
      rw [List.mem_cons, inductionHypothesis, (awaits_next visits).1]
  | case2 walk ended =>
      simp [not_awaits_of_next ended]

/-- A walk visits slots in increasing order, each once. -/
theorem offsets_increasing
    (walk : UnmarkedWalk) :
    walk.offsets.Pairwise (· < ·) := by
  fun_induction offsets walk with
  | case1 walk first rest visits inductionHypothesis =>
      refine List.pairwise_cons.mpr ⟨?_, inductionHypothesis⟩
      intro later member
      exact (awaits_next visits).2 ((mem_offsets rest later).mp member)
  | case2 => exact .nil

/-- At its start a walk awaits every unmarked slot as far as it goes. -/
theorem awaits_start
    (marks : MarkBits)
    (count offset : Nat) :
    (start marks count).Awaits offset ↔
      offset < count ∧ offset < chunkCapacity ∧
        marks.get offset = false := by
  have inFirst (first : offset / 64 = 0) :
      (~~~marks.words[0]).getLsbD (offset % 64) = true ↔
        marks.get offset = false := by
    rw [MarkBits.get_eq_getLsbD (by omega)]
    simp [first, Nat.mod_lt]
  have bounded (first : offset / 64 = 0) : offset < chunkCapacity := by
    rw [chunkCapacity]
    omega
  simp only [Awaits, start]
  by_cases first : offset / 64 = 0
  · simp only [first, inFirst first, bounded first]
    simp
  · simp [first, Nat.pos_of_ne_zero first]

end UnmarkedWalk

namespace MarkBits

/-- The positions a sweep visits are the clear ones among the first `count`. -/
theorem mem_unmarked
    (marks : MarkBits)
    (count position : Nat) :
    position ∈ marks.unmarked count ↔
      position < count ∧ position < chunkCapacity ∧
        marks.get position = false := by
  rw [unmarked, UnmarkedWalk.mem_offsets, UnmarkedWalk.awaits_start]

/-- A sweep visits the unmarked positions in increasing order, each once. -/
theorem unmarked_increasing
    (marks : MarkBits)
    (count : Nat) :
    (marks.unmarked count).Pairwise (· < ·) :=
  UnmarkedWalk.offsets_increasing _

/-- After marking some slots these are marked, with those marked before. -/
theorem get_foldl_set
    (marks : MarkBits)
    (offsets : List Nat)
    (query : Nat) :
    (offsets.foldl set marks).get query =
      (marks.get query ||
        (decide (query < chunkCapacity) && decide (query ∈ offsets))) := by
  induction offsets generalizing marks with
  | nil =>
      simp
  | cons offset rest inductionHypothesis =>
      rw [List.foldl_cons, inductionHypothesis, get_set]
      rw [Bool.eq_iff_iff]
      simp only [Bool.or_eq_true, Bool.and_eq_true, decide_eq_true_eq,
        List.mem_cons]
      tauto

/--
Whatever slots were marked, in whatever order and however often: a slot carries
a mark if and only if it is one of the chunk and was marked, and a sweep over
the first `count` slots visits exactly those that were never marked, each once
and in increasing order.
-/
theorem unmarked_after_marking
    (offsets : List Nat)
    (count : Nat) :
    (offsets.foldl set empty).unmarked count =
        (List.range (min count chunkCapacity)).filter (· ∉ offsets) ∧
      ∀ query,
        (offsets.foldl set empty).get query = true ↔
          query < chunkCapacity ∧ query ∈ offsets := by
  have marked (query : Nat) :
      (offsets.foldl set empty).get query = true ↔
        query < chunkCapacity ∧ query ∈ offsets := by
    simp [get_foldl_set]
  refine ⟨?_, marked⟩
  apply List.Pairwise.eq_of_mem_iff (unmarked_increasing _ _)
    (List.pairwise_lt_range.filter _)
  intro offset
  rw [mem_unmarked, ← Bool.not_eq_true, marked, List.mem_filter,
    List.mem_range, Nat.lt_min, decide_eq_true_eq]
  tauto

end MarkBits

end MovieScript
