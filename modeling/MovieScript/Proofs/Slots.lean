import Mathlib.Algebra.BigOperators.Group.List.Basic
import Mathlib.Algebra.GroupWithZero.Nat
import Mathlib.Data.List.Basic
import MovieScript.Heap.Collection

namespace MovieScript.Heap

/-!
# The arena as one sequence of slots

Chunks are a matter of storage: every slot has one index, and what an operation
does is said by what it does to the slot at each index.  Slots are packed, so
the indices in use are those below the number of slots.
-/

variable {α : Type}

/-- A slot has one object, and only while it does not wait for reuse. -/
@[simp] theorem serves_iff
    {slot : Slot α}
    {generation : UInt32} :
    slot.serves generation = true ↔
      slot.pooled = false ∧ slot.generation = generation := by
  simp [Slot.serves]

/-- The slot at an index of the whole arena. -/
def slot?
    (heap : Heap α)
    (index : Nat) :
    Option (Slot α) :=
  heap.chunks[index / chunkCapacity]?.bind fun chunk =>
    chunk[index % chunkCapacity]?

/-- A handle is looked up at the slot of its index. -/
theorem get?_eq
    (heap : Heap α)
    (handle : Handle) :
    heap.get? handle =
      (heap.slot? handle.index.toNat).bind fun slot =>
        if slot.serves handle.generation then some slot.data else none :=
  rfl

/-- A handle names what the slot at its index holds in its generation. -/
theorem get?_eq_some_iff
    {heap : Heap α}
    {handle : Handle}
    {content : α} :
    heap.get? handle = some content ↔
      heap.slot? handle.index.toNat =
        some ⟨handle.generation, false, content⟩ := by
  rw [get?_eq]
  cases heap.slot? handle.index.toNat with
  | none =>
      simp
  | some slot =>
      rcases slot with ⟨generation, pooled, data⟩
      simp only [Option.bind_some, serves_iff, Option.some.injEq,
        Slot.mk.injEq, Option.ite_none_right_eq_some]
      tauto

/-- A handle resolves when its slot is occupied in its generation. -/
theorem contains_iff
    {heap : Heap α}
    {handle : Handle} :
    heap.contains handle = true ↔
      ∃ content,
        heap.slot? handle.index.toNat =
          some ⟨handle.generation, false, content⟩ := by
  rw [contains, Option.isSome_iff_exists]
  simp only [get?_eq_some_iff]

/-- Two handles of one slot that both resolve are the same. -/
theorem eq_of_contains
    {heap : Heap α}
    {first second : Handle}
    (firstLive : heap.contains first = true)
    (secondLive : heap.contains second = true)
    (sameIndex : first.index = second.index) :
    first = second := by
  obtain ⟨firstContent, firstSlot⟩ := contains_iff.mp firstLive
  obtain ⟨secondContent, secondSlot⟩ := contains_iff.mp secondLive
  rw [sameIndex, secondSlot] at firstSlot
  injection firstSlot with slots
  injection slots with sameGeneration _
  cases first
  cases second
  simp only at sameIndex sameGeneration
  rw [sameIndex, sameGeneration]

/-- Changing one slot changes that slot only. -/
theorem slot?_updateSlot
    (heap : Heap α)
    (handle : Handle)
    (change : Slot α → Slot α)
    (index : Nat) :
    (heap.updateSlot handle change).slot? index =
      if index = handle.index.toNat then
        (heap.slot? index).map change
      else
        heap.slot? index := by
  simp only [slot?, updateSlot, Array.getElem?_modify, Handle.chunk,
    Handle.offset]
  by_cases sameChunk :
      handle.index.toNat / chunkCapacity = index / chunkCapacity
  · rw [if_pos sameChunk]
    cases heap.chunks[index / chunkCapacity]? with
    | none =>
        simp
    | some chunk =>
        simp only [Option.map_some, Option.bind_some,
          Array.getElem?_modify]
        by_cases sameOffset :
            handle.index.toNat % chunkCapacity = index % chunkCapacity
        · have same : index = handle.index.toNat := by
            rw [← Nat.div_add_mod index chunkCapacity,
              ← Nat.div_add_mod handle.index.toNat chunkCapacity,
              sameChunk, sameOffset]
          rw [if_pos sameOffset, if_pos same]
        · have different : index ≠ handle.index.toNat := by
            rintro rfl
            exact sameOffset rfl
          rw [if_neg sameOffset, if_neg different]
  · have different : index ≠ handle.index.toNat := by
      rintro rfl
      exact sameChunk rfl
    rw [if_neg sameChunk, if_neg different]

/-- Writing through a handle changes an object only if the handle names it. -/
theorem get?_modify
    (heap : Heap α)
    (handle query : Handle)
    (change : α → α) :
    (heap.modify handle change).get? query =
      if query = handle then
        (heap.get? query).map change
      else
        heap.get? query := by
  rw [get?_eq, get?_eq, modify, slot?_updateSlot]
  rcases query with ⟨queryIndex, queryGeneration⟩
  rcases handle with ⟨index, generation⟩
  simp only [UInt32.toNat_inj, Handle.mk.injEq]
  by_cases sameIndex : queryIndex = index
  · subst sameIndex
    cases heap.slot? queryIndex.toNat with
    | none =>
        simp
    | some slot =>
        rcases slot with ⟨served, _ | _, data⟩
        · by_cases sameSlot : served = generation
          · by_cases sameGeneration : queryGeneration = generation
            · simp [sameSlot, sameGeneration]
            · simp [sameSlot, sameGeneration, Ne.symm sameGeneration]
          · by_cases sameGeneration : queryGeneration = generation
            · simp [sameSlot, sameGeneration]
            · simp [sameSlot, sameGeneration]
        · simp
  · simp [sameIndex]

/-- Every chunk but the last is full, and none holds more than it can. -/
structure Packed (heap : Heap α) : Prop where
  fits :
    ∀ (position : Nat) (chunk : Array (Slot α)),
      heap.chunks[position]? = some chunk →
        chunk.size ≤ chunkCapacity
  full :
    ∀ (position : Nat) (chunk : Array (Slot α)),
      position + 1 < heap.chunks.size →
      heap.chunks[position]? = some chunk →
        chunk.size = chunkCapacity

/-- The number of slots of the last chunk. -/
def lastSize (heap : Heap α) : Nat :=
  (heap.chunks[heap.chunks.size - 1]?.map Array.size).getD 0

/-- The number of slots is the sum of the sizes of the chunks. -/
theorem total_eq_sum
    (heap : Heap α) :
    heap.total = (heap.chunks.toList.map Array.size).sum := by
  rw [total, ← Array.foldl_toList, List.sum_eq_foldl, List.foldl_map]

/-- A packed arena has full chunks and then the last one. -/
theorem Packed.total_eq
    {heap : Heap α}
    (packed : heap.Packed) :
    heap.total =
      (heap.chunks.size - 1) * chunkCapacity + heap.lastSize := by
  rw [total_eq_sum]
  rcases heap.chunks.toList.eq_nil_or_concat' with
      empty | ⟨front, last, shape⟩
  · have noChunks : heap.chunks = #[] := by simpa using empty
    simp [lastSize, noChunks]
  · have size : heap.chunks.size = front.length + 1 := by
      rw [← Array.length_toList, shape]
      simp
    have entry (position : Nat) :
        heap.chunks[position]? = (front ++ [last])[position]? := by
      rw [← shape, Array.getElem?_toList]
    have frontFull :
        ∀ size ∈ front.map Array.size, size = chunkCapacity := by
      intro size member
      obtain ⟨chunk, inFront, rfl⟩ := List.mem_map.mp member
      obtain ⟨position, inside, found⟩ :=
        List.mem_iff_getElem.mp inFront
      refine packed.full position chunk (by omega) ?_
      rw [entry, List.getElem?_append_left inside,
        List.getElem?_eq_getElem inside, found]
    have lastEntry : heap.lastSize = last.size := by
      rw [lastSize, entry, size]
      simp
    rw [shape, List.map_append, List.sum_append,
      List.eq_replicate_of_mem frontFull, lastEntry, size]
    simp

/-- The last chunk of a packed arena is no larger than a chunk can be. -/
theorem Packed.lastSize_le
    {heap : Heap α}
    (packed : heap.Packed) :
    heap.lastSize ≤ chunkCapacity := by
  unfold lastSize
  cases found : heap.chunks[heap.chunks.size - 1]? with
  | none =>
      simp
  | some chunk =>
      simpa using packed.fits _ chunk found

/-- The indices in use are those below the number of slots. -/
theorem Packed.isSome_slot?_iff
    {heap : Heap α}
    (packed : heap.Packed)
    (index : Nat) :
    (heap.slot? index).isSome = true ↔ index < heap.total := by
  have total := packed.total_eq
  have lastFits := packed.lastSize_le
  simp only [chunkCapacity] at total lastFits
  unfold slot?
  cases found : heap.chunks[index / chunkCapacity]? with
  | none =>
      have outside := Array.getElem?_eq_none_iff.mp found
      have beyond : ¬index < heap.total := by
        by_cases noChunks : heap.chunks.size = 0
        · have lastEmpty : heap.lastSize = 0 := by
            have emptyArray := Array.size_eq_zero_iff.mp noChunks
            simp [lastSize, emptyArray]
          omega
        · simp only [chunkCapacity] at outside
          omega
      simp [beyond]
  | some chunk =>
      have inside := (Array.getElem?_eq_some_iff.mp found).1
      simp only [Option.bind_some, isSome_getElem?]
      by_cases isLast : index / chunkCapacity + 1 = heap.chunks.size
      · have lastSize : heap.lastSize = chunk.size := by
          have position :
              heap.chunks.size - 1 = index / chunkCapacity :=
            Nat.sub_eq_of_eq_add isLast.symm
          rw [Heap.lastSize, position, found]
          rfl
        simp only [chunkCapacity] at isLast ⊢
        omega
      · have size := packed.full _ chunk (by omega) found
        simp only [chunkCapacity] at isLast inside size ⊢
        omega

/-- A handle that resolves is among those that resolve in all slots. -/
theorem Packed.mem_of_contains
    {heap : Heap α}
    (packed : heap.Packed)
    {handles : List Handle}
    (everySlot :
      ∀ index < heap.total,
        ∃ other ∈ handles,
          other.index.toNat = index ∧ heap.contains other = true)
    {handle : Handle}
    (live : heap.contains handle = true) :
    handle ∈ handles := by
  obtain ⟨content, stored⟩ := contains_iff.mp live
  have used : handle.index.toNat < heap.total := by
    rw [← packed.isSome_slot?_iff, stored]
    rfl
  obtain ⟨other, member, sameIndex, otherLive⟩ := everySlot _ used
  rw [eq_of_contains live otherLive (UInt32.toNat_inj.mp sameIndex.symm)]
  exact member

/-- The sizes of the chunks. -/
def shape (heap : Heap α) : Array Nat :=
  heap.chunks.map Array.size

/-- The number of slots depends on the sizes of the chunks only. -/
theorem total_congr
    {first second : Heap α}
    (sameShape : first.shape = second.shape) :
    first.total = second.total := by
  have lists := congrArg Array.toList sameShape
  simp only [shape, Array.toList_map] at lists
  rw [total_eq_sum, total_eq_sum, lists]

/-- Being packed depends on the sizes of the chunks only. -/
theorem Packed.congr
    {first second : Heap α}
    (packed : first.Packed)
    (sameShape : first.shape = second.shape) :
    second.Packed := by
  have sameEntry (position : Nat) (chunk : Array (Slot α))
      (found : second.chunks[position]? = some chunk) :
      ∃ other, first.chunks[position]? = some other ∧
        other.size = chunk.size := by
    have entries := congrArg (fun sizes => sizes[position]?) sameShape
    simp only [shape, Array.getElem?_map, found, Option.map_some] at entries
    exact Option.map_eq_some_iff.mp entries
  have sameCount : first.chunks.size = second.chunks.size := by
    simpa [shape] using congrArg Array.size sameShape
  constructor
  · intro position chunk found
    obtain ⟨other, otherFound, sameSize⟩ := sameEntry position chunk found
    exact sameSize ▸ packed.fits position other otherFound
  · intro position chunk inside found
    obtain ⟨other, otherFound, sameSize⟩ := sameEntry position chunk found
    exact sameSize ▸
      packed.full position other (sameCount ▸ inside) otherFound

/-- Changing a slot keeps the sizes of the chunks. -/
theorem shape_updateSlot
    (heap : Heap α)
    (handle : Handle)
    (change : Slot α → Slot α) :
    (heap.updateSlot handle change).shape = heap.shape := by
  apply Array.ext_getElem?
  intro position
  simp only [shape, updateSlot, Array.getElem?_map,
    Array.getElem?_modify]
  split
  · cases heap.chunks[position]? with
    | none => rfl
    | some chunk => simp
  · rfl

/-- A new chunk has no slot yet. -/
theorem slot?_openChunk
    (heap : Heap α)
    (index : Nat) :
    heap.openChunk.slot? index = heap.slot? index := by
  simp only [slot?, openChunk, Array.getElem?_push]
  split
  · next isNew =>
    rw [Array.getElem?_eq_none (by omega)]
    simp
  · rfl

/-- A new chunk adds no slot to the count. -/
theorem total_openChunk
    (heap : Heap α) :
    heap.openChunk.total = heap.total := by
  simp [total_eq_sum, openChunk]

/-- Behind full chunks a new one can be opened. -/
theorem Packed.openChunk
    {heap : Heap α}
    (packed : heap.Packed)
    (allFull :
      ∀ chunk, heap.chunks[heap.chunks.size - 1]? = some chunk →
        chunkCapacity ≤ chunk.size) :
    heap.openChunk.Packed where
  fits := by
    intro position chunk found
    simp only [Heap.openChunk, Array.getElem?_push] at found
    split at found
    · cases found
      simp
    · exact packed.fits position chunk found
  full := by
    intro position chunk inside found
    simp only [Heap.openChunk, Array.size_push] at inside
    simp only [Heap.openChunk, Array.getElem?_push] at found
    rw [if_neg (by omega)] at found
    by_cases wasLast : position + 1 = heap.chunks.size
    · have atLast : heap.chunks.size - 1 = position := by omega
      exact Nat.le_antisymm (packed.fits position chunk found)
        (allFull chunk (atLast ▸ found))
    · exact packed.full position chunk (by omega) found

/-- An arena whose last chunk can take one more slot. -/
structure Roomy (heap : Heap α) : Prop where
  packed : heap.Packed
  nonempty : 0 < heap.chunks.size
  room : heap.lastSize < chunkCapacity

/-- Making room leaves room behind all slots. -/
theorem Packed.ensureRoom
    {heap : Heap α}
    (packed : heap.Packed) :
    heap.ensureRoom.Roomy := by
  have opened
      (allFull :
        ∀ chunk, heap.chunks[heap.chunks.size - 1]? = some chunk →
          chunkCapacity ≤ chunk.size) :
      heap.openChunk.Roomy := by
    refine ⟨packed.openChunk allFull, ?_, ?_⟩
    · simp [Heap.openChunk]
    · simp [lastSize, Heap.openChunk, chunkCapacity]
  unfold Heap.ensureRoom
  rw [Array.back?_eq_getElem?]
  cases found : heap.chunks[heap.chunks.size - 1]? with
  | none =>
      exact opened (by simp [found])
  | some chunk =>
      by_cases room : chunk.size < chunkCapacity
      · have inside := (Array.getElem?_eq_some_iff.mp found).1
        simp only [room, ↓reduceIte]
        refine ⟨packed, by omega, ?_⟩
        simpa [lastSize, found] using room
      · simp only [room, ↓reduceIte]
        refine opened ?_
        intro other sameEntry
        rw [found] at sameEntry
        cases sameEntry
        omega

/-- Making room opens at most a chunk; all else stays. -/
theorem ensureRoom_cases
    (heap : Heap α) :
    heap.ensureRoom = heap ∨ heap.ensureRoom = heap.openChunk := by
  unfold ensureRoom
  split
  · split
    · exact .inl rfl
    · exact .inr rfl
  · exact .inr rfl

/-- Making room changes no slot. -/
theorem slot?_ensureRoom
    (heap : Heap α)
    (index : Nat) :
    heap.ensureRoom.slot? index = heap.slot? index := by
  rcases heap.ensureRoom_cases with same | opened
  · rw [same]
  · rw [opened, slot?_openChunk]

/-- Making room adds no slot to the count. -/
theorem total_ensureRoom
    (heap : Heap α) :
    heap.ensureRoom.total = heap.total := by
  rcases heap.ensureRoom_cases with same | opened
  · rw [same]
  · rw [opened, total_openChunk]

/-- The last chunk of an arena with room. -/
theorem Roomy.exists_last
    {heap : Heap α}
    (roomy : heap.Roomy) :
    ∃ chunk,
      heap.chunks[heap.chunks.size - 1]? = some chunk ∧
        chunk.size = heap.lastSize := by
  have positive := roomy.nonempty
  have inside : heap.chunks.size - 1 < heap.chunks.size := by omega
  have found := Array.getElem?_eq_getElem inside
  refine ⟨heap.chunks[heap.chunks.size - 1], found, ?_⟩
  rw [lastSize, found]
  rfl

/-- One more slot behind all others of an arena with room. -/
def pushSlot
    (heap : Heap α)
    (slot : Slot α) :
    Heap α :=
  { heap with
    chunks :=
      heap.chunks.modify (heap.chunks.size - 1) fun chunk =>
        chunk.push slot
    paired := by simp [heap.paired] }

/-- The new slot has the first index that was not in use. -/
theorem Roomy.slot?_pushSlot
    {heap : Heap α}
    (roomy : heap.Roomy)
    (slot : Slot α)
    (index : Nat) :
    (heap.pushSlot slot).slot? index =
      if index = heap.total then some slot else heap.slot? index := by
  obtain ⟨chunk, found, size⟩ := roomy.exists_last
  have positive := roomy.nonempty
  have room := roomy.room
  have total := roomy.packed.total_eq
  simp only [slot?, pushSlot, Array.getElem?_modify]
  by_cases atLast : heap.chunks.size - 1 = index / chunkCapacity
  · rw [if_pos atLast, ← atLast, found]
    simp only [Option.map_some, Option.bind_some, Array.getElem?_push]
    have place :
        index % chunkCapacity = chunk.size ↔ index = heap.total := by
      rw [total, size, atLast]
      simp only [chunkCapacity] at room ⊢
      omega
    simp only [place]
  · have different : index ≠ heap.total := by
      rintro rfl
      apply atLast
      rw [total]
      simp only [chunkCapacity] at room ⊢
      omega
    rw [if_neg atLast, if_neg different]

/-- The new slot counts. -/
theorem Roomy.total_pushSlot
    {heap : Heap α}
    (roomy : heap.Roomy)
    (slot : Slot α) :
    (heap.pushSlot slot).Packed ∧
      (heap.pushSlot slot).total = heap.total + 1 := by
  obtain ⟨chunk, found, size⟩ := roomy.exists_last
  have room := roomy.room
  have packed : (heap.pushSlot slot).Packed := by
    constructor
    · intro position other foundOther
      simp only [pushSlot, Array.getElem?_modify] at foundOther
      split at foundOther
      · next atLast =>
        rw [← atLast, found] at foundOther
        cases foundOther
        simp only [Array.size_push]
        omega
      · exact roomy.packed.fits position other foundOther
    · intro position other inside foundOther
      simp only [pushSlot, Array.size_modify] at inside
      simp only [pushSlot, Array.getElem?_modify] at foundOther
      rw [if_neg (by omega)] at foundOther
      exact roomy.packed.full position other inside foundOther
  have lastSize : (heap.pushSlot slot).lastSize = heap.lastSize + 1 := by
    simp [Heap.lastSize, pushSlot, Array.getElem?_modify, found]
  refine ⟨packed, ?_⟩
  rw [packed.total_eq, roomy.packed.total_eq, lastSize]
  simp [pushSlot, Nat.add_assoc]

/-- Putting an object behind all others takes the first unused index. -/
theorem Packed.append_eq
    {heap : Heap α}
    (packed : heap.Packed)
    (content : α) :
    heap.append content =
      (⟨heap.total.toUInt32, 0⟩,
        heap.ensureRoom.pushSlot ⟨0, false, content⟩) := by
  have total := packed.ensureRoom.packed.total_eq
  rw [total_ensureRoom] at total
  rw [total]
  rfl

/-- Without a pooled slot an object moves in behind all others. -/
theorem alloc_of_free_nil
    {heap : Heap α}
    (noneFree : heap.free = [])
    (content : α) :
    heap.alloc content =
      { heap with allocations := heap.allocations + 1 }.append content := by
  simp [Heap.alloc, noneFree]

variable [Reset α]

/--
The bookkeeping of an arena is right: the free list has the pooled slots, and
what these hold was reset.
-/
structure WellFormed (heap : Heap α) : Prop where
  packed : heap.Packed
  nodup_free : heap.free.Nodup
  mem_free_iff :
    ∀ index : UInt32,
      index ∈ heap.free ↔
        ∃ generation data,
          heap.slot? index.toNat = some ⟨generation, true, data⟩
  reset :
    ∀ index generation data,
      heap.slot? index = some ⟨generation, true, data⟩ →
        ∃ object, data = Reset.reset object

/-- What moving an object into the arena does. -/
structure Allocation
    (heap : Heap α)
    (content : α)
    (handle : Handle)
    (after : Heap α) :
    Prop where
  /-- The object is in the slot of the handle, the other slots are the same. -/
  slots :
    ∀ index,
      after.slot? index =
        if index = handle.index.toNat then
          some ⟨handle.generation, false, content⟩
        else
          heap.slot? index
  /-- The slot is new, or it was pooled and keeps its generation. -/
  vacant :
    heap.slot? handle.index.toNat = none ∧ handle.generation = 0 ∨
      ∃ data,
        heap.slot? handle.index.toNat =
          some ⟨handle.generation, true, data⟩
  wellFormed : after.WellFormed
  cycles : after.cycles = heap.cycles

/-- An object that moves in behind all others gets a new slot. -/
private theorem WellFormed.append_allocation
    {heap : Heap α}
    (wellFormed : heap.WellFormed)
    (content : α)
    (noneFree : heap.free = [])
    (small : (heap.append content).2.total < 2 ^ 32) :
    Allocation heap content (heap.append content).1
      (heap.append content).2 := by
  have roomy := wellFormed.packed.ensureRoom
  obtain ⟨packed, counted⟩ := roomy.total_pushSlot ⟨0, false, content⟩
  have kept :
      heap.ensureRoom.free = heap.free ∧
        heap.ensureRoom.cycles = heap.cycles := by
    rcases heap.ensureRoom_cases with same | opened
    · simp [same]
    · simp [opened, openChunk]
  rw [total_ensureRoom] at counted
  rw [wellFormed.packed.append_eq] at small ⊢
  simp only at small ⊢
  have index : heap.total.toUInt32.toNat = heap.total := by
    rw [Nat.toUInt32_eq, UInt32.toNat_ofNat']
    omega
  have slots (query : Nat) :
      (heap.ensureRoom.pushSlot ⟨0, false, content⟩).slot? query =
        if query = heap.total then
          some ⟨0, false, content⟩
        else
          heap.slot? query := by
    rw [roomy.slot?_pushSlot, total_ensureRoom, slot?_ensureRoom]
  refine ⟨?_, .inl ⟨?_, rfl⟩, ⟨packed, ?_, ?_, ?_⟩, kept.2⟩
  · rw [index]
    exact slots
  · have unused := wellFormed.packed.isSome_slot?_iff heap.total
    rw [index]
    simpa using unused
  · rw [show (heap.ensureRoom.pushSlot ⟨0, false, content⟩).free =
        heap.free from kept.1, noneFree]
    exact List.nodup_nil
  · intro query
    rw [show (heap.ensureRoom.pushSlot ⟨0, false, content⟩).free =
        heap.free from kept.1, wellFormed.mem_free_iff, slots]
    split
    · next atNew =>
      have unused := wellFormed.packed.isSome_slot?_iff heap.total
      have vacant : heap.slot? heap.total = none := by simpa using unused
      simp [atNew, vacant]
    · rfl
  · intro query generation data found
    rw [slots] at found
    split at found
    · cases found
    · exact wellFormed.reset query generation data found

/-- An object that moves into a pooled slot takes it off the free list. -/
private theorem WellFormed.reuse_allocation
    {heap after : Heap α}
    (wellFormed : heap.WellFormed)
    (content : α)
    {index : UInt32}
    {rest : List UInt32}
    (free : heap.free = index :: rest)
    {generation : UInt32}
    {data : α}
    (found : heap.slot? index.toNat = some ⟨generation, true, data⟩)
    (slots :
      ∀ query,
        after.slot? query =
          if query = index.toNat then
            some ⟨generation, false, content⟩
          else
            heap.slot? query)
    (sameShape : after.shape = heap.shape)
    (nowFree : after.free = rest)
    (cycles : after.cycles = heap.cycles) :
    Allocation heap content ⟨index, generation⟩ after := by
  have nodup := wellFormed.nodup_free
  rw [free, List.nodup_cons] at nodup
  refine ⟨slots, .inr ⟨data, found⟩,
    ⟨wellFormed.packed.congr sameShape.symm, nowFree ▸ nodup.2, ?_, ?_⟩,
    cycles⟩
  · intro query
    have listed := wellFormed.mem_free_iff query
    rw [free, List.mem_cons] at listed
    rw [nowFree, slots]
    by_cases same : query = index
    · subst same
      simp [nodup.1]
    · have different : query.toNat ≠ index.toNat := by
        simpa [UInt32.toNat_inj] using same
      rw [if_neg different, ← listed]
      simp [same]
  · intro query generation data found
    rw [slots] at found
    split at found
    · cases found
    · exact wellFormed.reset query generation data found

/-- An object moves into the pooled slot that comes first in the free list. -/
theorem WellFormed.alloc_of_free_cons
    {heap : Heap α}
    (wellFormed : heap.WellFormed)
    {index : UInt32}
    {rest : List UInt32}
    (free : heap.free = index :: rest)
    (content : α) :
    ∃ generation data,
      heap.slot? index.toNat = some ⟨generation, true, data⟩ ∧
        heap.alloc content =
          (⟨index, generation⟩,
            { heap with
              allocations := heap.allocations + 1
              free := rest }.updateSlot ⟨index, 0⟩ fun old =>
                { old with pooled := false, data := content }) := by
  obtain ⟨generation, data, found⟩ :=
    (wellFormed.mem_free_iff index).mp (by simp [free])
  have atIndex :
      { heap with
        allocations := heap.allocations + 1
        free := rest }.slotAt? ⟨index, 0⟩ =
          some ⟨generation, true, data⟩ :=
    found
  exact ⟨generation, data, found, by simp [Heap.alloc, free, atIndex]⟩

/-- Moving an object in takes a slot that holds nothing. -/
theorem WellFormed.alloc
    {heap : Heap α}
    (wellFormed : heap.WellFormed)
    (content : α)
    (small : (heap.alloc content).2.total < 2 ^ 32) :
    Allocation heap content (heap.alloc content).1
      (heap.alloc content).2 := by
  cases free : heap.free with
  | nil =>
      have counted :
          { heap with allocations := heap.allocations + 1 }.WellFormed :=
        ⟨wellFormed.packed.congr rfl, wellFormed.nodup_free,
          wellFormed.mem_free_iff, wellFormed.reset⟩
      rw [alloc_of_free_nil free] at small ⊢
      obtain ⟨slots, vacant, after, cycles⟩ :=
        counted.append_allocation content free small
      exact ⟨slots, vacant, after, cycles⟩
  | cons index rest =>
      obtain ⟨generation, data, found, taken⟩ :=
        wellFormed.alloc_of_free_cons free content
      rw [taken]
      refine wellFormed.reuse_allocation content free found ?_
        (shape_updateSlot _ _ _) rfl rfl
      intro query
      rw [slot?_updateSlot]
      split
      · next same =>
        rw [same]
        change (heap.slot? index.toNat).map _ = _
        rw [found]
        rfl
      · rfl

end MovieScript.Heap
