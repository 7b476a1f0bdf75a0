import Mathlib.Data.List.Nodup
import MovieScript.Proofs.Reachability
import MovieScript.Proofs.UnmarkedPositions

namespace MovieScript

/-!
# Sweeping

What a sweep does to the slot at each index, and which indices it puts on the
free list.  Together with the marks this says what a collection does.
-/

variable {α : Type}

namespace Slot

/-- The slot after its object was removed; a pooled one stays as it is. -/
def emptied [Reset α] (slot : Slot α) : Slot α :=
  if slot.pooled then slot else slot.recycled

@[simp] theorem pooled_emptied
    [Reset α]
    (slot : Slot α) :
    slot.emptied.pooled = true := by
  unfold emptied
  split
  · assumption
  · rfl

end Slot

namespace Heap

/-- There is an object in the slot at an offset of a chunk. -/
def occupied
    (chunk : Array (Slot α))
    (offset : Nat) :
    Bool :=
  chunk[offset]?.any (!·.pooled)

/-- An occupied slot has an object. -/
private theorem occupied_iff
    {chunk : Array (Slot α)}
    {offset : Nat} :
    occupied chunk offset = true ↔
      ∃ generation content,
        chunk[offset]? = some ⟨generation, false, content⟩ := by
  unfold occupied
  rcases chunk[offset]? with _ | ⟨generation, _ | _, content⟩ <;> simp

/-- The indices of the slots that a sweep empties, in increasing order. -/
def reclaimed :
    Nat → List (Array (Slot α) × MarkBits) → List Nat
  | _, [] => []
  | base, (chunk, marks) :: rest =>
      ((marks.unmarked chunk.size).filter (occupied chunk)).map
          (base + ·) ++
        reclaimed (base + chunkCapacity) rest

/-- A sweep empties the slots that are occupied and not marked. -/
private theorem mem_reclaimed_iff
    (base : Nat)
    (pairs : List (Array (Slot α) × MarkBits))
    (index : Nat) :
    index ∈ reclaimed base pairs ↔
      ∃ position offset pair,
        pairs[position]? = some pair ∧
          offset < chunkCapacity ∧
          occupied pair.1 offset = true ∧
          pair.2.get offset = false ∧
          index = base + position * chunkCapacity + offset := by
  induction pairs generalizing base with
  | nil =>
      simp [reclaimed]
  | cons pair rest inductionHypothesis =>
      rcases pair with ⟨chunk, marks⟩
      rw [reclaimed, List.mem_append, inductionHypothesis, List.mem_map]
      constructor
      · rintro (⟨offset, member, rfl⟩ |
          ⟨position, offset, pair, found, inside, full, clear, rfl⟩)
        · obtain ⟨unmarked, full⟩ := List.mem_filter.mp member
          obtain ⟨_, inside, clear⟩ :=
            (marks.mem_unmarked _ _).mp unmarked
          exact ⟨0, offset, (chunk, marks), rfl, inside, full, clear,
            by simp⟩
        · exact ⟨position + 1, offset, pair, by simpa using found,
            inside, full, clear, by rw [Nat.succ_mul]; omega⟩
      · rintro ⟨position, offset, pair, found, inside, full, clear, rfl⟩
        cases position with
        | zero =>
            obtain rfl : (chunk, marks) = pair := by simpa using found
            have present : offset < chunk.size := by
              by_contra beyond
              simp [occupied, beyond] at full
            refine .inl ⟨offset, List.mem_filter.mpr ⟨?_, full⟩,
              by simp⟩
            exact (marks.mem_unmarked _ _).mpr ⟨present, inside, clear⟩
        | succ position =>
            exact .inr ⟨position, offset, pair, by simpa using found,
              inside, full, clear, by rw [Nat.succ_mul]; omega⟩

/-- A sweep empties slots in increasing order of their indices. -/
private theorem reclaimed_increasing
    (base : Nat)
    (pairs : List (Array (Slot α) × MarkBits)) :
    (reclaimed base pairs).Pairwise (· < ·) := by
  induction pairs generalizing base with
  | nil =>
      exact .nil
  | cons pair rest inductionHypothesis =>
      rcases pair with ⟨chunk, marks⟩
      rw [reclaimed, List.pairwise_append]
      refine ⟨?_, inductionHypothesis _, ?_⟩
      · rw [List.pairwise_map]
        refine ((marks.unmarked_increasing _).filter _).imp ?_
        intro first second less
        omega
      · intro first firstMember second secondMember
        obtain ⟨offset, member, rfl⟩ := List.mem_map.mp firstMember
        obtain ⟨_, inside, _⟩ :=
          (marks.mem_unmarked _ _).mp (List.mem_filter.mp member).1
        obtain ⟨position, other, pair, _, _, _, _, rfl⟩ :=
          (mem_reclaimed_iff _ _ _).mp secondMember
        omega

/-- The chunks with their marks, as a collection sweeps them. -/
def sweptPairs
    (heap : Heap α)
    (references : α → List Handle)
    (roots : List Handle) :
    List (Array (Slot α) × MarkBits) :=
  heap.chunks.toList.zip (heap.reachedMarks references roots).toList

/-- After marking, every chunk has its mark bits. -/
theorem size_reachedMarks
    (heap : Heap α)
    (references : α → List Handle)
    (roots : List Handle) :
    (heap.reachedMarks references roots).size = heap.chunks.size := by
  simp [reachedMarks, heap.paired]

/-- A chunk is swept with its own marks. -/
private theorem getElem?_sweptPairs
    (heap : Heap α)
    (references : α → List Handle)
    (roots : List Handle)
    (position : Nat)
    (pair : Array (Slot α) × MarkBits) :
    (heap.sweptPairs references roots)[position]? = some pair ↔
      heap.chunks[position]? = some pair.1 ∧
        (heap.reachedMarks references roots)[position]? =
          some pair.2 := by
  rw [sweptPairs, List.getElem?_zip_eq_some, Array.getElem?_toList,
    Array.getElem?_toList]

/-- The indices of the slots that a collection empties. -/
def emptiedIndices
    (heap : Heap α)
    (references : α → List Handle)
    (roots : List Handle) :
    List Nat :=
  reclaimed 0 (heap.sweptPairs references roots)

/-- A collection empties the slots that are occupied and not marked. -/
theorem mem_emptiedIndices_iff
    (heap : Heap α)
    (references : α → List Handle)
    (roots : List Handle)
    (index : Nat) :
    index ∈ heap.emptiedIndices references roots ↔
      (∃ generation content,
        heap.slot? index = some ⟨generation, false, content⟩) ∧
        isMarkedAt (heap.reachedMarks references roots) index =
          false := by
  rw [emptiedIndices, mem_reclaimed_iff]
  constructor
  · rintro ⟨position, offset, ⟨chunk, marks⟩, found, inside, full,
      clear, rfl⟩
    obtain ⟨chunkFound, marksFound⟩ :=
      (heap.getElem?_sweptPairs references roots position _).mp found
    have place :
        (0 + position * chunkCapacity + offset) / chunkCapacity =
            position ∧
          (0 + position * chunkCapacity + offset) % chunkCapacity =
            offset := by
      simp only [chunkCapacity] at inside ⊢
      omega
    simp only [slot?, isMarkedAt, place, chunkFound, marksFound]
    exact ⟨occupied_iff.mp full, by simpa using clear⟩
  · rintro ⟨⟨generation, content, slotFound⟩, clear⟩
    obtain ⟨chunk, chunkFound, found⟩ :=
      Option.bind_eq_some_iff.mp slotFound
    have inside := (Array.getElem?_eq_some_iff.mp chunkFound).1
    have marksFound :=
      Array.getElem?_eq_getElem
        (heap.size_reachedMarks references roots ▸ inside)
    refine ⟨index / chunkCapacity, index % chunkCapacity, (chunk, _),
      (heap.getElem?_sweptPairs references roots _ _).mpr
        ⟨chunkFound, marksFound⟩,
      Nat.mod_lt index (by decide),
      occupied_iff.mpr ⟨generation, content, found⟩, ?_, ?_⟩
    · simpa [isMarkedAt, marksFound] using clear
    · rw [Nat.zero_add, Nat.div_add_mod']

/-- The emptied slots have different indices. -/
theorem nodup_emptiedIndices
    (heap : Heap α)
    (references : α → List Handle)
    (roots : List Handle) :
    (heap.emptiedIndices references roots).Nodup :=
  (reclaimed_increasing _ _).imp Nat.ne_of_lt

variable [Reset α]

/-- One step of a sweep empties one slot. -/
private theorem getElem?_sweepSlot
    (base : Nat)
    (swept : Array (Slot α) × List UInt32)
    (offset query : Nat) :
    (sweepSlot base swept offset).1[query]? =
      if query = offset then
        swept.1[query]?.map Slot.emptied
      else
        swept.1[query]? := by
  unfold sweepSlot
  by_cases same : query = offset
  · subst same
    rw [if_pos rfl]
    cases found : swept.1[query]? with
    | none => exact found
    | some slot =>
        have inside := (Array.getElem?_eq_some_iff.mp found).1
        simp only [Option.map_some, Slot.emptied]
        split
        · exact found
        · exact Array.getElem?_setIfInBounds_self_of_lt inside
  · rw [if_neg same]
    split
    · split
      · rfl
      · exact Array.getElem?_setIfInBounds_ne (Ne.symm same)
    · rfl

/-- One step of a sweep puts the index of an occupied slot on the free list. -/
private theorem sweepSlot_snd
    (base : Nat)
    (swept : Array (Slot α) × List UInt32)
    (offset : Nat) :
    (sweepSlot base swept offset).2 =
      if occupied swept.1 offset then
        (base + offset).toUInt32 :: swept.2
      else
        swept.2 := by
  unfold sweepSlot occupied
  cases swept.1[offset]? with
  | none =>
      rfl
  | some slot =>
      rcases slot with ⟨generation, _ | _, data⟩ <;> rfl

/-- Sweeping offsets empties the slots at these offsets. -/
private theorem getElem?_foldl_sweepSlot
    (base : Nat)
    (offsets : List Nat)
    (swept : Array (Slot α) × List UInt32)
    (nodup : offsets.Nodup)
    (query : Nat) :
    (offsets.foldl (sweepSlot base) swept).1[query]? =
      if query ∈ offsets then
        swept.1[query]?.map Slot.emptied
      else
        swept.1[query]? := by
  induction offsets generalizing swept with
  | nil =>
      simp
  | cons offset rest inductionHypothesis =>
      obtain ⟨fresh, restNodup⟩ := List.nodup_cons.mp nodup
      rw [List.foldl_cons, inductionHypothesis _ restNodup,
        getElem?_sweepSlot]
      by_cases same : query = offset
      · subst same
        simp [fresh]
      · simp [same]

/-- Sweeping offsets frees the occupied slots among them, in their order. -/
private theorem foldl_sweepSlot_snd
    (base : Nat)
    (offsets : List Nat)
    (swept : Array (Slot α) × List UInt32)
    (nodup : offsets.Nodup) :
    (offsets.foldl (sweepSlot base) swept).2 =
      ((offsets.filter (occupied swept.1)).map fun offset =>
        (base + offset).toUInt32).reverse ++ swept.2 := by
  induction offsets generalizing swept with
  | nil =>
      rfl
  | cons offset rest inductionHypothesis =>
      obtain ⟨fresh, restNodup⟩ := List.nodup_cons.mp nodup
      have sameLater :
          rest.filter (occupied (sweepSlot base swept offset).1) =
            rest.filter (occupied swept.1) := by
        apply List.filter_congr
        intro later member
        have different : later ≠ offset := by
          rintro rfl
          exact fresh member
        rw [occupied, getElem?_sweepSlot, if_neg different, occupied]
      rw [List.foldl_cons, inductionHypothesis _ restNodup, sameLater,
        sweepSlot_snd, List.filter_cons]
      split <;> simp

/-- The sweep of a chunk empties its unmarked slots. -/
private theorem getElem?_sweepChunk
    (base : Nat)
    (marks : MarkBits)
    (chunk : Array (Slot α))
    (free : List UInt32)
    {offset : Nat}
    (inside : offset < chunkCapacity) :
    (sweepChunk base marks chunk free).1[offset]? =
      chunk[offset]?.map fun slot =>
        if marks.get offset then slot else slot.emptied := by
  rw [sweepChunk, getElem?_foldl_sweepSlot _ _ _
    ((marks.unmarked_increasing _).imp Nat.ne_of_lt)]
  simp only [MarkBits.mem_unmarked, inside, true_and]
  cases marked : marks.get offset with
  | true =>
      simp
  | false =>
      by_cases present : offset < chunk.size
      · simp [present]
      · simp [present]

/-- The sweep of a chunk keeps its size. -/
private theorem size_sweepChunk
    (base : Nat)
    (marks : MarkBits)
    (chunk : Array (Slot α))
    (free : List UInt32) :
    (sweepChunk base marks chunk free).1.size = chunk.size := by
  have step (swept : Array (Slot α) × List UInt32) (offset : Nat) :
      (sweepSlot base swept offset).1.size = swept.1.size := by
    unfold sweepSlot
    split
    · split
      · rfl
      · simp
    · rfl
  unfold sweepChunk
  generalize marks.unmarked chunk.size = offsets
  suffices sizes :
      ∀ swept : Array (Slot α) × List UInt32,
        (offsets.foldl (sweepSlot base) swept).1.size = swept.1.size from
    sizes (chunk, free)
  intro swept
  induction offsets generalizing swept with
  | nil =>
      rfl
  | cons offset rest inductionHypothesis =>
      rw [List.foldl_cons, inductionHypothesis, step]

/-- The sweep of all chunks empties the unmarked slots of each. -/
private theorem getElem?_sweepChunks
    (base : Nat)
    (pairs : List (Array (Slot α) × MarkBits))
    (free : List UInt32)
    (position : Nat)
    {offset : Nat}
    (inside : offset < chunkCapacity) :
    ((sweepChunks base pairs free).1[position]?.bind fun chunk =>
        chunk[offset]?) =
      pairs[position]?.bind fun pair =>
        pair.1[offset]?.map fun slot =>
          if pair.2.get offset then slot else slot.emptied := by
  induction pairs generalizing base free position with
  | nil =>
      simp [sweepChunks]
  | cons pair rest inductionHypothesis =>
      cases position with
      | zero =>
          simp [sweepChunks, getElem?_sweepChunk _ _ _ _ inside]
      | succ position =>
          simpa [sweepChunks] using inductionHypothesis _ _ position

/-- The sweep of all chunks keeps their sizes. -/
private theorem map_size_sweepChunks
    (base : Nat)
    (pairs : List (Array (Slot α) × MarkBits))
    (free : List UInt32) :
    (sweepChunks base pairs free).1.map Array.size =
      (pairs.map Prod.fst).map Array.size := by
  induction pairs generalizing base free with
  | nil =>
      rfl
  | cons pair rest inductionHypothesis =>
      simp [sweepChunks, size_sweepChunk, inductionHypothesis]

/-- A sweep puts the indices it empties on the free list. -/
private theorem sweepChunks_snd
    (base : Nat)
    (pairs : List (Array (Slot α) × MarkBits))
    (free : List UInt32) :
    (sweepChunks base pairs free).2 =
      ((reclaimed base pairs).map Nat.toUInt32).reverse ++ free := by
  induction pairs generalizing base free with
  | nil =>
      rfl
  | cons pair rest inductionHypothesis =>
      rcases pair with ⟨chunk, marks⟩
      have swept :
          (sweepChunk base marks chunk free).2 =
            (((marks.unmarked chunk.size).filter (occupied chunk)).map
              fun offset => (base + offset).toUInt32).reverse ++ free :=
        foldl_sweepSlot_snd base _ (chunk, free)
          ((marks.unmarked_increasing _).imp Nat.ne_of_lt)
      simp only [sweepChunks, reclaimed, inductionHypothesis, swept,
        List.map_append, List.reverse_append, List.map_map,
        List.append_assoc]
      rfl

/-- A collection empties the unmarked slots and leaves the others alone. -/
theorem slot?_collect
    (heap : Heap α)
    (references : α → List Handle)
    (roots : List Handle)
    (index : Nat) :
    (heap.collect references roots).2.slot? index =
      (heap.slot? index).map fun slot =>
        if isMarkedAt (heap.reachedMarks references roots) index then
          slot
        else
          slot.emptied := by
  have swept := getElem?_sweepChunks 0
    (heap.sweptPairs references roots) heap.free
    (index / chunkCapacity)
    (Nat.mod_lt index (by decide) : index % chunkCapacity < chunkCapacity)
  change
    ((sweepChunks 0 (heap.sweptPairs references roots)
        heap.free).1.toArray[index / chunkCapacity]?.bind fun chunk =>
          chunk[index % chunkCapacity]?) = _
  rw [List.getElem?_toArray, swept, slot?, isMarkedAt]
  have sizes := heap.size_reachedMarks references roots
  cases chunkFound : heap.chunks[index / chunkCapacity]? with
  | none =>
      have noPair :
          (heap.sweptPairs references roots)[index / chunkCapacity]? =
            none := by
        rw [Option.eq_none_iff_forall_ne_some]
        intro pair found
        rw [getElem?_sweptPairs, chunkFound] at found
        simp at found
      simp [noPair]
  | some chunk =>
      have inside := (Array.getElem?_eq_some_iff.mp chunkFound).1
      obtain ⟨marks, marksFound⟩ :
          ∃ marks,
            (heap.reachedMarks references roots)[
              index / chunkCapacity]? = some marks :=
        ⟨_, Array.getElem?_eq_getElem (sizes ▸ inside)⟩
      have pairFound :=
        (heap.getElem?_sweptPairs references roots
          (index / chunkCapacity) (chunk, marks)).mpr
            ⟨chunkFound, marksFound⟩
      simp [pairFound, marksFound]

/-- After a collection a handle resolves if it was reachable before. -/
theorem contains_collect_iff
    (heap : Heap α)
    (references : α → List Handle)
    (roots : List Handle)
    (handle : Handle) :
    (heap.collect references roots).2.contains handle = true ↔
      heap.Reachable references
        (fun start => start ∈ roots ∨ start ∈ heap.pins.keys)
        handle := by
  rw [contains_iff, slot?_collect]
  constructor
  · rintro ⟨content, found⟩
    obtain ⟨slot, before, after⟩ := Option.map_eq_some_iff.mp found
    split at after
    · next marked =>
      have live : heap.contains handle = true :=
        contains_iff.mpr ⟨content, after ▸ before⟩
      exact (isMarked_reachedMarks_iff live).mp marked
    · have emptied := congrArg Slot.pooled after
      simp at emptied
  · intro reached
    obtain ⟨content, found⟩ := contains_iff.mp reached.contains
    have marked :
        isMarkedAt (heap.reachedMarks references roots)
          handle.index.toNat = true :=
      (isMarked_reachedMarks_iff reached.contains).mpr reached
    exact ⟨content, by simp [found, marked]⟩

/-- A collection does not change the objects it keeps. -/
theorem get?_collect
    {heap : Heap α}
    {references : α → List Handle}
    {roots : List Handle}
    {handle : Handle}
    (kept :
      (heap.collect references roots).2.contains handle = true) :
    (heap.collect references roots).2.get? handle =
      heap.get? handle := by
  have reached :=
    (heap.contains_collect_iff references roots handle).mp kept
  have marked :
      isMarkedAt (heap.reachedMarks references roots)
        handle.index.toNat = true :=
    (isMarked_reachedMarks_iff reached.contains).mpr reached
  rw [get?_eq, slot?_collect, get?_eq]
  simp [marked]

/-- What no root, no pin and no object holds is gone after a collection. -/
theorem not_contains_collect
    {heap : Heap α}
    {references : α → List Handle}
    {roots : List Handle}
    {handle : Handle}
    (unrooted : handle ∉ roots)
    (unpinned : handle ∉ heap.pins.keys)
    (unheld : ∀ chunk ∈ heap.chunks, ∀ slot ∈ chunk,
      slot.pooled = false → handle ∉ references slot.data) :
    (heap.collect references roots).2.contains handle = false := by
  rw [Bool.eq_false_iff]
  intro stays
  have reached := (contains_collect_iff heap references roots handle).mp stays
  cases reached with
  | root start live => exact start.elim unrooted unpinned
  | step prior found held live =>
      have slot := get?_eq_some_iff.mp found
      obtain ⟨chunk, inHeap, inChunk⟩ := Option.bind_eq_some_iff.mp slot
      exact unheld chunk (Array.mem_of_getElem? inHeap) _
        (Array.mem_of_getElem? inChunk) rfl held

/-- A collection keeps the sizes of the chunks. -/
theorem shape_collect
    (heap : Heap α)
    (references : α → List Handle)
    (roots : List Handle) :
    (heap.collect references roots).2.shape = heap.shape := by
  have sizes := map_size_sweepChunks 0
    (heap.sweptPairs references roots) heap.free
  have firsts :
      (heap.sweptPairs references roots).map Prod.fst =
        heap.chunks.toList := by
    apply List.map_fst_zip
    simp [size_reachedMarks]
  rw [firsts] at sizes
  apply Array.toList_inj.mp
  rw [shape, shape, Array.toList_map, Array.toList_map]
  exact sizes

/-- A collection puts the slots it empties in front of the free list. -/
theorem free_collect
    (heap : Heap α)
    (references : α → List Handle)
    (roots : List Handle) :
    (heap.collect references roots).2.free =
      ((heap.emptiedIndices references roots).map
        Nat.toUInt32).reverse ++ heap.free :=
  sweepChunks_snd 0 _ heap.free

/-- A collection reports the number of slots it emptied. -/
theorem fst_collect
    (heap : Heap α)
    (references : α → List Handle)
    (roots : List Handle) :
    (heap.collect references roots).1 =
      (heap.emptiedIndices references roots).length := by
  change
    (heap.collect references roots).2.free.length - heap.free.length = _
  rw [free_collect]
  simp

/-- An emptied slot is one of the slots in use. -/
theorem WellFormed.lt_total_of_mem_emptiedIndices
    {heap : Heap α}
    (wellFormed : heap.WellFormed)
    {references : α → List Handle}
    {roots : List Handle}
    {index : Nat}
    (member : index ∈ heap.emptiedIndices references roots) :
    index < heap.total := by
  obtain ⟨⟨generation, content, found⟩, _⟩ :=
    (heap.mem_emptiedIndices_iff references roots index).mp member
  exact (wellFormed.packed.isSome_slot?_iff index).mp (by simp [found])

/-- An index below the number of slots is a machine word. -/
theorem toNat_toUInt32
    {index bound : Nat}
    (below : index < bound)
    (small : bound < 2 ^ 32) :
    index.toUInt32.toNat = index := by
  rw [Nat.toUInt32_eq, UInt32.toNat_ofNat']
  omega

/-- A collection keeps the bookkeeping right. -/
theorem WellFormed.collect
    {heap : Heap α}
    (wellFormed : heap.WellFormed)
    (small : heap.total < 2 ^ 32)
    (references : α → List Handle)
    (roots : List Handle) :
    (heap.collect references roots).2.WellFormed := by
  have word {index : Nat}
      (member : index ∈ heap.emptiedIndices references roots) :
      index.toUInt32.toNat = index :=
    toNat_toUInt32 (wellFormed.lt_total_of_mem_emptiedIndices member)
      small
  have mem_freed (index : UInt32) :
      index ∈ (heap.emptiedIndices references roots).map Nat.toUInt32 ↔
        index.toNat ∈ heap.emptiedIndices references roots := by
    rw [List.mem_map]
    constructor
    · rintro ⟨emptied, member, rfl⟩
      rwa [word member]
    · intro member
      exact ⟨index.toNat, member, by simp⟩
  refine ⟨wellFormed.packed.congr
    (heap.shape_collect references roots).symm, ?_, ?_, ?_⟩
  · rw [free_collect, List.nodup_append]
    refine ⟨?_, wellFormed.nodup_free, ?_⟩
    · rw [List.nodup_reverse]
      refine (heap.nodup_emptiedIndices references roots).map_on ?_
      intro first firstMember second secondMember same
      rw [← word firstMember, same, word secondMember]
    · intro index freed other wasFree same
      rw [List.mem_reverse, mem_freed] at freed
      obtain ⟨⟨generation, content, found⟩, _⟩ :=
        (heap.mem_emptiedIndices_iff references roots _).mp freed
      obtain ⟨oldGeneration, data, pooled⟩ :=
        (wellFormed.mem_free_iff other).mp wasFree
      rw [same, pooled] at found
      simp at found
  · intro index
    rw [free_collect, List.mem_append, List.mem_reverse, mem_freed,
      mem_emptiedIndices_iff, wellFormed.mem_free_iff, slot?_collect]
    rcases heap.slot? index.toNat with _ | ⟨generation, _ | _, data⟩
    · simp
    · cases isMarkedAt (heap.reachedMarks references roots)
        index.toNat <;> simp [Slot.emptied, Slot.recycled]
    · cases isMarkedAt (heap.reachedMarks references roots)
        index.toNat <;> simp [Slot.emptied]
  · intro index generation data found
    rw [slot?_collect] at found
    obtain ⟨slot, before, after⟩ := Option.map_eq_some_iff.mp found
    have kept (same : slot = ⟨generation, true, data⟩) :
        ∃ object, data = Reset.reset object :=
      wellFormed.reset index generation data (same ▸ before)
    split at after
    · exact kept after
    · rw [Slot.emptied] at after
      split at after
      · exact kept after
      · exact ⟨slot.data, (congrArg Slot.data after).symm⟩

end Heap

end MovieScript
