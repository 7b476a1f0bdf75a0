import MovieScript.Proofs.Slots

namespace MovieScript.Heap

/-!
# Marking and reachability

Marking is a walk with a stack of handles still to visit, which may hold
repeated and stale ones.  Two facts about it settle which slots it marks: it
marks nothing outside a set that holds the handles to visit and is closed
under references, and when it ends the marked slots are closed themselves.

A reference is not pushed if its slot is marked by then, in whatever generation.
A stale reference may be left out for the object that has its slot now, which is
no loss; and one that resolves is left out only if it is marked itself, as its
slot has no other object.
-/

variable {α : Type}

/--
The objects that can be reached through references, starting from handles with
a given property.  A handle that does not resolve leads nowhere.
-/
inductive Reachable
    (heap : Heap α)
    (references : α → List Handle)
    (start : Handle → Prop) :
    Handle → Prop where
  | root {handle : Handle}
      (starts : start handle)
      (live : heap.contains handle = true) :
      Reachable heap references start handle
  | step {handle next : Handle} {content : α}
      (reached : Reachable heap references start handle)
      (found : heap.get? handle = some content)
      (held : next ∈ references content)
      (live : heap.contains next = true) :
      Reachable heap references start next

/-- What is reached resolves. -/
theorem Reachable.contains
    {heap : Heap α}
    {references : α → List Handle}
    {start : Handle → Prop}
    {handle : Handle}
    (reached : heap.Reachable references start handle) :
    heap.contains handle = true := by
  cases reached with
  | root _ live => exact live
  | step _ _ _ live => exact live

/-- Reachability depends on which starting points resolve. -/
theorem Reachable.mono
    {heap : Heap α}
    {references : α → List Handle}
    {start other : Handle → Prop}
    (covered :
      ∀ handle, start handle → heap.contains handle = true →
        other handle)
    {handle : Handle}
    (reached : heap.Reachable references start handle) :
    heap.Reachable references other handle := by
  induction reached with
  | root starts live =>
      exact .root (covered _ starts live) live
  | step _ found held live inductionHypothesis =>
      exact .step inductionHypothesis found held live

/-- Nothing in a closed set that no start leads into is reachable. -/
theorem Reachable.avoids
    {heap : Heap α}
    {references : α → List Handle}
    {start : Handle → Prop}
    {garbage : Set Handle}
    (noStart :
      ∀ handle ∈ garbage, heap.contains handle = true →
        ¬start handle)
    (noneOutside :
      ∀ handle content next,
        handle ∉ garbage → heap.get? handle = some content →
          next ∈ references content → next ∉ garbage)
    {handle : Handle}
    (reached : heap.Reachable references start handle) :
    handle ∉ garbage := by
  induction reached with
  | root starts live =>
      intro member
      exact noStart _ member live starts
  | step _ found held _ inductionHypothesis =>
      exact noneOutside _ _ _ inductionHypothesis found held

/-- Without marks no slot is marked. -/
theorem isMarked_replicate_empty
    (count : Nat)
    (handle : Handle) :
    isMarked (Array.replicate count .empty) handle = false := by
  simp only [isMarked, Array.getElem?_replicate]
  split
  · simp
  · rfl

/-- Marking the slot of a handle marks the handles of that slot only. -/
theorem isMarked_setMark
    {marks : Array MarkBits}
    {handle : Handle}
    (inside : handle.chunk < marks.size)
    (query : Handle) :
    isMarked (setMark marks handle) query =
      (isMarked marks query || decide (handle.index = query.index)) := by
  have atIndex := isMarkedAt_setMark inside query.index.toNat
  simp only [UInt32.toNat_inj] at atIndex
  exact atIndex

/-- Among handles that resolve, marking a slot adds its own handle only. -/
theorem isMarked_setMark_iff
    {heap : Heap α}
    {marks : Array MarkBits}
    {handle query : Handle}
    (inside : handle.chunk < marks.size)
    (handleLive : heap.contains handle = true)
    (queryLive : heap.contains query = true) :
    isMarked (setMark marks handle) query = true ↔
      isMarked marks query = true ∨ query = handle := by
  rw [isMarked_setMark inside, Bool.or_eq_true, decide_eq_true_eq]
  constructor
  · rintro (before | sameIndex)
    · exact .inl before
    · exact .inr (eq_of_contains queryLive handleLive sameIndex.symm)
  · rintro (before | rfl)
    · exact .inl before
    · exact .inr rfl

/-- What a visit pushes: the references whose slots are not marked by then. -/
theorem mem_pushed_iff
    {marks : Array MarkBits}
    {held pending : List Handle}
    {query : Handle} :
    query ∈ (unmarkedAmong marks held).reverse ++ pending ↔
      (query ∈ held ∧ isMarked marks query = false) ∨ query ∈ pending := by
  simp [unmarkedAmong]

/-- A handle that resolves points into one of the chunks. -/
theorem chunk_lt_of_contains
    {heap : Heap α}
    {handle : Handle}
    (live : heap.contains handle = true) :
    handle.chunk < heap.chunks.size := by
  obtain ⟨content, found⟩ := contains_iff.mp live
  obtain ⟨chunk, chunkFound, _⟩ := Option.bind_eq_some_iff.mp found
  exact (Array.getElem?_eq_some_iff.mp chunkFound).1

/-- An object that is found makes its handle resolve. -/
theorem contains_of_get?
    {heap : Heap α}
    {handle : Handle}
    {content : α}
    (found : heap.get? handle = some content) :
    heap.contains handle = true := by
  simp [contains, found]

/--
Marking stays inside every set that is closed under references and holds what
is marked already and what is still to be visited.
-/
theorem mark_within
    {heap : Heap α}
    {references : α → List Handle}
    {inSet : Handle → Prop}
    (closed :
      ∀ handle content next,
        inSet handle → heap.get? handle = some content →
          next ∈ references content → heap.contains next = true →
            inSet next)
    {marks : Array MarkBits}
    {pending : List Handle}
    (marked :
      ∀ handle, heap.contains handle = true →
        isMarked marks handle = true → inSet handle)
    (visited :
      ∀ handle ∈ pending, heap.contains handle = true → inSet handle)
    {query : Handle}
    (live : heap.contains query = true)
    (result :
      isMarked (heap.mark references marks pending) query = true) :
    inSet query := by
  fun_induction Heap.mark heap references marks pending with
  | case1 marks =>
      exact marked query live result
  | case2 marks handle pending stale inductionHypothesis =>
      exact inductionHypothesis marked
        (fun other member => visited other (.tail _ member)) result
  | case3 marks handle pending content found inside already
      inductionHypothesis =>
      exact inductionHypothesis marked
        (fun other member => visited other (.tail _ member)) result
  | case4 marks handle pending content found inside unmarked
      inductionHypothesis =>
      have handleLive := contains_of_get? found
      have handleInSet := visited handle (.head _) handleLive
      refine inductionHypothesis ?_ ?_ result
      · intro other otherLive otherMarked
        rcases (isMarked_setMark_iff inside handleLive otherLive).mp
            otherMarked with before | rfl
        · exact marked other otherLive before
        · exact handleInSet
      · intro other member otherLive
        rcases mem_pushed_iff.mp member with ⟨held, _⟩ | waiting
        · exact closed handle content other handleInSet found held
            otherLive
        · exact visited other (.tail _ waiting) otherLive
  | case5 marks handle pending content found outside
      inductionHypothesis =>
      exact inductionHypothesis marked
        (fun other member => visited other (.tail _ member)) result

/--
What the walk still owes: each reference of a marked object leads to a marked
one or to one that is still to be visited.
-/
def Owed
    (heap : Heap α)
    (references : α → List Handle)
    (marks : Array MarkBits)
    (pending : List Handle) :
    Prop :=
  ∀ handle content next,
    isMarked marks handle = true → heap.get? handle = some content →
      next ∈ references content → heap.contains next = true →
        isMarked marks next = true ∨ next ∈ pending

/-- Dropping a handle that needs no visit leaves the rest owed. -/
private theorem Owed.drop
    {heap : Heap α}
    {references : α → List Handle}
    {marks : Array MarkBits}
    {handle : Handle}
    {pending : List Handle}
    (owed : heap.Owed references marks (handle :: pending))
    (settled :
      heap.contains handle = true → isMarked marks handle = true) :
    heap.Owed references marks pending := by
  intro holder content next holderMarked found held live
  rcases owed holder content next holderMarked found held live with
      nextMarked | waiting
  · exact .inl nextMarked
  · rcases List.mem_cons.mp waiting with rfl | later
    · exact .inl (settled live)
    · exact .inr later

/-- Visiting a handle marks it and owes a visit to its unmarked references. -/
private theorem Owed.visit
    {heap : Heap α}
    {references : α → List Handle}
    {marks : Array MarkBits}
    {handle : Handle}
    {pending : List Handle}
    (owed : heap.Owed references marks (handle :: pending))
    {content : α}
    (found : heap.get? handle = some content)
    (inside : handle.chunk < marks.size) :
    heap.Owed references (setMark marks handle)
      ((unmarkedAmong (setMark marks handle)
        (references content)).reverse ++ pending) := by
  have handleLive := contains_of_get? found
  intro holder held next holderMarked holderFound reference live
  have holderLive := contains_of_get? holderFound
  rw [isMarked_setMark_iff inside handleLive holderLive] at holderMarked
  rw [mem_pushed_iff]
  rcases holderMarked with before | rfl
  · rw [isMarked_setMark_iff inside handleLive live]
    rcases owed holder held next before holderFound reference live with
        nextMarked | waiting
    · exact .inl (.inl nextMarked)
    · rcases List.mem_cons.mp waiting with rfl | later
      · exact .inl (.inr rfl)
      · exact .inr (.inr later)
  · rw [found] at holderFound
    cases holderFound
    -- The filter leaves `next` out only for a mark on the slot it resolves in.
    cases filtered : isMarked (setMark marks holder) next with
    | true => exact .inl rfl
    | false => exact .inr (.inl ⟨reference, rfl⟩)

/--
When the walk ends nothing is owed, every handle to visit that resolves is
marked, and so is what was marked before.
-/
theorem mark_complete
    {heap : Heap α}
    {references : α → List Handle}
    {marks : Array MarkBits}
    {pending : List Handle}
    (paired : marks.size = heap.chunks.size)
    (owed : heap.Owed references marks pending) :
    heap.Owed references (heap.mark references marks pending) [] ∧
      ∀ handle, heap.contains handle = true →
        isMarked marks handle = true ∨ handle ∈ pending →
          isMarked (heap.mark references marks pending) handle = true := by
  fun_induction Heap.mark heap references marks pending with
  | case1 marks =>
      exact ⟨owed, by simp⟩
  | case2 marks handle pending stale inductionHypothesis =>
      have dead : ¬heap.contains handle = true := by
        simp [contains, stale]
      obtain ⟨closed, covers⟩ := inductionHypothesis paired
        (owed.drop fun live => absurd live dead)
      refine ⟨closed, ?_⟩
      intro query live wanted
      apply covers query live
      rcases wanted with before | waiting
      · exact .inl before
      · rcases List.mem_cons.mp waiting with rfl | later
        · exact absurd live dead
        · exact .inr later
  | case3 marks handle pending content found inside already
      inductionHypothesis =>
      obtain ⟨closed, covers⟩ := inductionHypothesis paired
        (owed.drop fun _ => already)
      refine ⟨closed, ?_⟩
      intro query live wanted
      apply covers query live
      rcases wanted with before | waiting
      · exact .inl before
      · rcases List.mem_cons.mp waiting with rfl | later
        · exact .inl already
        · exact .inr later
  | case4 marks handle pending content found inside unmarked
      inductionHypothesis =>
      obtain ⟨closed, covers⟩ := inductionHypothesis
        (by simpa [setMark] using paired) (owed.visit found inside)
      refine ⟨closed, ?_⟩
      intro query live wanted
      apply covers query live
      rw [isMarked_setMark_iff inside (contains_of_get? found) live,
        mem_pushed_iff]
      rcases wanted with before | waiting
      · exact .inl (.inl before)
      · rcases List.mem_cons.mp waiting with rfl | later
        · exact .inl (.inr rfl)
        · exact .inr (.inr later)
  | case5 marks handle pending content found outside
      inductionHypothesis =>
      have inChunks := chunk_lt_of_contains (contains_of_get? found)
      exact absurd (paired ▸ inChunks) outside

/-- The marks that a collection sets. -/
def reachedMarks
    (heap : Heap α)
    (references : α → List Handle)
    (roots : List Handle) :
    Array MarkBits :=
  heap.mark references (Array.replicate heap.marks.size .empty)
    (roots ++ heap.pins.keys).reverse

/-- A collection marks what is reachable from the roots and the pins. -/
theorem isMarked_reachedMarks_iff
    {heap : Heap α}
    {references : α → List Handle}
    {roots : List Handle}
    {handle : Handle}
    (live : heap.contains handle = true) :
    isMarked (heap.reachedMarks references roots) handle = true ↔
      heap.Reachable references
        (fun start => start ∈ roots ∨ start ∈ heap.pins.keys)
        handle := by
  constructor
  · apply mark_within
    · intro holder content next reached found held nextLive
      exact .step reached found held nextLive
    · intro other _ marked
      simp [isMarked_replicate_empty] at marked
    · intro other member otherLive
      exact .root (List.mem_append.mp (List.mem_reverse.mp member))
        otherLive
    · exact live
  · intro reached
    have nothingOwed :
        heap.Owed references
          (Array.replicate heap.marks.size .empty)
          (roots ++ heap.pins.keys).reverse := by
      intro holder content next marked
      simp [isMarked_replicate_empty] at marked
    obtain ⟨closed, covers⟩ := mark_complete
      (by simpa using heap.paired) nothingOwed
    induction reached with
    | root starts rootLive =>
        exact covers _ rootLive
          (.inr (List.mem_reverse.mpr (List.mem_append.mpr starts)))
    | step reached found held nextLive inductionHypothesis =>
        have holderMarked := inductionHypothesis reached.contains
        simpa [reachedMarks] using
          closed _ _ _ holderMarked found held nextLive

end MovieScript.Heap
