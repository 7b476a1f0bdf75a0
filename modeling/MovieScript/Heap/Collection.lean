import MovieScript.Heap.Arena

namespace MovieScript.Heap

/-!
# Collection

Marking follows references from the roots and the pinned handles; sweeping
recycles every unmarked slot that has an object.  Marking ends because each
step either marks one more slot or shortens the stack of handles to visit.
-/

variable {α : Type}

/-- The slot at an index is marked. -/
def isMarkedAt
    (marks : Array MarkBits)
    (index : Nat) :
    Bool :=
  marks[index / chunkCapacity]?.any (·.get (index % chunkCapacity))

/-- The slot of a handle is marked, for an object of whatever generation. -/
def isMarked
    (marks : Array MarkBits)
    (handle : Handle) :
    Bool :=
  marks[handle.chunk]?.any (·.get handle.offset)

/-- Mark the slot of a handle. -/
def setMark
    (marks : Array MarkBits)
    (handle : Handle) :
    Array MarkBits :=
  marks.modify handle.chunk (·.set handle.offset)

/-- The handles whose slots are not marked. -/
def unmarkedAmong
    (marks : Array MarkBits)
    (handles : List Handle) :
    List Handle :=
  handles.filter fun handle => !isMarked marks handle

/-- Marking a slot marks that slot only. -/
theorem isMarkedAt_setMark
    {marks : Array MarkBits}
    {handle : Handle}
    (inside : handle.chunk < marks.size)
    (index : Nat) :
    isMarkedAt (setMark marks handle) index =
      (isMarkedAt marks index || decide (handle.index.toNat = index)) := by
  have present := Array.getElem?_eq_getElem inside
  simp only [isMarkedAt, setMark, Array.getElem?_modify]
  by_cases sameChunk : handle.chunk = index / chunkCapacity
  · have bounded : index % chunkCapacity < chunkCapacity :=
      Nat.mod_lt _ (by decide)
    have samePlace :
        handle.offset = index % chunkCapacity ↔
          handle.index.toNat = index := by
      constructor
      · intro sameOffset
        rw [← Nat.div_add_mod handle.index.toNat chunkCapacity,
          ← Nat.div_add_mod index chunkCapacity]
        unfold Handle.chunk at sameChunk
        unfold Handle.offset at sameOffset
        rw [sameChunk, sameOffset]
      · intro sameIndex
        rw [Handle.offset, sameIndex]
    rw [if_pos sameChunk, ← sameChunk, present]
    simp [MarkBits.get_set, bounded, samePlace]
  · have different : handle.index.toNat ≠ index := by
      intro sameIndex
      apply sameChunk
      rw [Handle.chunk, sameIndex]
    rw [if_neg sameChunk]
    simp [different]

/-- The number of unmarked places in all chunks. -/
def vacancies (marks : Array MarkBits) : Nat :=
  ((List.range (marks.size * chunkCapacity)).filter fun index =>
    !isMarkedAt marks index).length

/-- Marking an unmarked slot leaves fewer unmarked places. -/
theorem vacancies_setMark_lt
    {marks : Array MarkBits}
    {handle : Handle}
    (inside : handle.chunk < marks.size)
    (clear : isMarked marks handle = false) :
    vacancies (setMark marks handle) < vacancies marks := by
  have sameSize : (setMark marks handle).size = marks.size := by
    simp [setMark]
  have fewer :
      (List.range (marks.size * chunkCapacity)).filter
          (fun index => !isMarkedAt (setMark marks handle) index) =
        ((List.range (marks.size * chunkCapacity)).filter
          (fun index => !isMarkedAt marks index)).filter
            (fun index => !decide (handle.index.toNat = index)) := by
    rw [List.filter_filter]
    apply List.filter_congr
    intro index _
    rw [isMarkedAt_setMark inside, Bool.not_or, Bool.and_comm]
  have place : handle.index.toNat < marks.size * chunkCapacity :=
    (Nat.div_lt_iff_lt_mul (by decide)).mp inside
  have unmarked : isMarkedAt marks handle.index.toNat = false := clear
  rw [vacancies, vacancies, sameSize, fewer]
  exact List.length_filter_lt_length_iff_exists.mpr
    ⟨handle.index.toNat, by simp [place, unmarked], by simp⟩

/--
Mark every object that can be reached from a stack of handles to visit.  The
references of a newly marked object are pushed in their order, except for those
whose slot is marked by then.
-/
def mark
    (heap : Heap α)
    (references : α → List Handle)
    (marks : Array MarkBits) :
    List Handle → Array MarkBits
  | [] => marks
  | handle :: pending =>
      match heap.get? handle with
      | none => heap.mark references marks pending
      | some content =>
          if _inside : handle.chunk < marks.size then
            if _marked : isMarked marks handle then
              heap.mark references marks pending
            else
              heap.mark references (setMark marks handle)
                ((unmarkedAmong (setMark marks handle)
                  (references content)).reverse ++ pending)
          else
            heap.mark references marks pending
termination_by pending => (vacancies marks, pending.length)
decreasing_by
  · exact Prod.Lex.right _ (by simp)
  · exact Prod.Lex.right _ (by simp)
  · exact Prod.Lex.left _ _
      (vacancies_setMark_lt _inside (by simpa using _marked))
  · exact Prod.Lex.right _ (by simp)

/-- Marking keeps one set of mark bits for each chunk. -/
@[simp] theorem size_mark
    (heap : Heap α)
    (references : α → List Handle)
    (marks : Array MarkBits)
    (pending : List Handle) :
    (heap.mark references marks pending).size = marks.size := by
  fun_induction Heap.mark heap references marks pending with
  | case1 => rfl
  | case2 _ _ _ _ inductionHypothesis => exact inductionHypothesis
  | case3 _ _ _ _ _ _ _ inductionHypothesis => exact inductionHypothesis
  | case4 _ _ _ _ _ _ _ inductionHypothesis =>
      simpa [setMark] using inductionHypothesis
  | case5 _ _ _ _ _ _ inductionHypothesis => exact inductionHypothesis

variable [Reset α]

/-- Recycle one slot if it has an object, and put its index on the free list. -/
def sweepSlot
    (base : Nat)
    (swept : Array (Slot α) × List UInt32)
    (offset : Nat) :
    Array (Slot α) × List UInt32 :=
  match swept.1[offset]? with
  | some slot =>
      if slot.pooled then
        swept
      else
        (swept.1.setIfInBounds offset slot.recycled,
          (base + offset).toUInt32 :: swept.2)
  | none => swept

/-- Recycle the slots of one chunk that have an object but no mark. -/
def sweepChunk
    (base : Nat)
    (marks : MarkBits)
    (chunk : Array (Slot α))
    (free : List UInt32) :
    Array (Slot α) × List UInt32 :=
  (marks.unmarked chunk.size).foldl (sweepSlot base) (chunk, free)

/-- Recycle the unmarked slots of all chunks, in index order. -/
def sweepChunks :
    Nat →
      List (Array (Slot α) × MarkBits) →
      List UInt32 →
      List (Array (Slot α)) × List UInt32
  | _, [], free => ([], free)
  | base, (chunk, marks) :: rest, free =>
      let (swept, freed) := sweepChunk base marks chunk free
      let (others, final) :=
        sweepChunks (base + chunkCapacity) rest freed
      (swept :: others, final)

/-- Sweeping keeps every chunk. -/
@[simp] theorem length_sweepChunks
    (base : Nat)
    (pairs : List (Array (Slot α) × MarkBits))
    (free : List UInt32) :
    (sweepChunks base pairs free).1.length = pairs.length := by
  induction pairs generalizing base free with
  | nil =>
      rfl
  | cons pair rest inductionHypothesis =>
      simp [sweepChunks, inductionHypothesis]

/--
Run one collection and report how many objects it removed.  The objects that
stay are those reachable from the roots and the pinned handles.
-/
def collect
    (heap : Heap α)
    (references : α → List Handle)
    (roots : List Handle) :
    Nat × Heap α :=
  let marks :=
    heap.mark references
      (Array.replicate heap.marks.size .empty)
      (roots ++ heap.pins.keys).reverse
  let swept :=
    sweepChunks 0 (heap.chunks.toList.zip marks.toList) heap.free
  (swept.2.length - heap.free.length,
    { heap with
      chunks := swept.1.toArray
      marks := marks
      free := swept.2
      allocations := 0
      cycles := heap.cycles + 1
      paired := by simp [swept, marks, heap.paired] })

end MovieScript.Heap
