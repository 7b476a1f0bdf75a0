import Mathlib.Data.Fintype.Prod
import Mathlib.Data.List.Induction
import MovieScript.Proofs.Sweep
import MovieScript.Proofs.Tables

namespace MovieScript.Heap

/-!
# Runs of arena operations

A run is a list of operations on an arena that starts empty.  What holds of
every run is shown by one induction, in which each step may use that the
bookkeeping of the arena was right before it.
-/

variable {α β : Type}

/-- Handles are pairs of words, so there are finitely many. -/
instance : Finite Handle :=
  .of_injective
    (fun handle => (handle.index.toFin, handle.generation.toFin))
    fun first second same => by
      obtain ⟨index, generation⟩ := Prod.mk.inj same
      cases first
      cases second
      simp only [Handle.mk.injEq]
      exact ⟨UInt32.toFin_inj.mp index, UInt32.toFin_inj.mp generation⟩

/-- An operation that does not touch the chunks keeps the slots packed. -/
theorem Packed.of_chunks_eq
    {heap after : Heap α}
    (packed : heap.Packed)
    (sameChunks : after.chunks = heap.chunks) :
    after.Packed :=
  packed.congr (by rw [shape, shape, sameChunks])

/-- Putting an object behind all others keeps the slots packed. -/
private theorem Packed.append
    {heap : Heap α}
    (packed : heap.Packed)
    (content : α) :
    (heap.append content).2.Packed ∧
      heap.total ≤ (heap.append content).2.total ∧
      (heap.append content).2.total ≤ heap.total + 1 := by
  obtain ⟨stillPacked, counted⟩ :=
    packed.ensureRoom.total_pushSlot ⟨0, false, content⟩
  rw [total_ensureRoom] at counted
  rw [packed.append_eq]
  exact ⟨stillPacked, by simp only; omega, by simp only; omega⟩

/-- Moving an object in keeps the slots packed. -/
private theorem Packed.alloc
    {heap : Heap α}
    (packed : heap.Packed)
    (content : α) :
    (heap.alloc content).2.Packed ∧
      heap.total ≤ (heap.alloc content).2.total ∧
      (heap.alloc content).2.total ≤ heap.total + 1 := by
  unfold Heap.alloc
  simp only
  split
  · have counted :
        { heap with allocations := heap.allocations + 1 }.Packed :=
      packed.of_chunks_eq rfl
    exact counted.append content
  · next index rest _ =>
    have reduced :
        { heap with
          allocations := heap.allocations + 1
          free := rest }.Packed :=
      packed.of_chunks_eq rfl
    split
    · have same :
          ({ heap with
            allocations := heap.allocations + 1
            free := rest }.updateSlot ⟨index, 0⟩ fun old =>
              { old with pooled := false, data := content }).total =
            heap.total :=
        total_congr (shape_updateSlot _ _ _)
      refine ⟨reduced.congr (shape_updateSlot _ _ _).symm,
        Nat.le_of_eq same.symm, ?_⟩
      exact Nat.le_trans (Nat.le_of_eq same) (Nat.le_succ _)
    · exact reduced.append content

/-- Taking a pin back does not touch the chunks and the free list. -/
theorem unpin_keeps
    (heap : Heap α)
    (handle : Handle) :
    (heap.unpin handle).2.chunks = heap.chunks ∧
      (heap.unpin handle).2.free = heap.free ∧
      (heap.unpin handle).2.cycles = heap.cycles := by
  unfold unpin
  split
  · exact ⟨rfl, rfl, rfl⟩
  · split <;> exact ⟨rfl, rfl, rfl⟩

/-- One operation on an arena. -/
inductive Operation (α : Type) where
  | alloc (content : α)
  | modify (handle : Handle) (change : α → α)
  | pin (handle : Handle)
  | unpin (handle : Handle)
  | clearPins
  | setThreshold (threshold : UInt64)
  | collect (references : α → List Handle) (roots : List Handle)

variable [Reset α]

namespace Operation

/-- The arena after an operation. -/
def perform
    (heap : Heap α) :
    Operation α → Heap α
  | .alloc content => (heap.alloc content).2
  | .modify handle change => heap.modify handle change
  | .pin handle => heap.pin handle
  | .unpin handle => (heap.unpin handle).2
  | .clearPins => heap.clearPins
  | .setThreshold threshold => heap.setThreshold threshold
  | .collect references roots => (heap.collect references roots).2

/-- The handle that an operation returns, if it allocates. -/
def issued?
    (heap : Heap α) :
    Operation α → Option Handle
  | .alloc content => some (heap.alloc content).1
  | _ => none

end Operation

/-- The arena after a run. -/
def run (operations : List (Operation α)) : Heap α :=
  operations.foldl Operation.perform .empty

/-- What is recorded along a run that starts from some arena. -/
def track
    (record : Heap α → Operation α → β → β) :
    Heap α → β → List (Operation α) → β
  | _, recorded, [] => recorded
  | heap, recorded, operation :: rest =>
      track record (operation.perform heap)
        (record heap operation recorded) rest

/-- A run goes on from where it is. -/
theorem run_concat
    (operations : List (Operation α))
    (operation : Operation α) :
    run (operations ++ [operation]) =
      operation.perform (run operations) := by
  simp [run]

/-- The last operation is recorded last. -/
theorem track_concat
    (record : Heap α → Operation α → β → β)
    (recorded : β)
    (operations : List (Operation α))
    (operation : Operation α) :
    track record .empty recorded (operations ++ [operation]) =
      record (run operations) operation
        (track record .empty recorded operations) := by
  suffices general :
      ∀ heap recorded,
        track record heap recorded (operations ++ [operation]) =
          record (operations.foldl Operation.perform heap) operation
            (track record heap recorded operations) from
    general .empty recorded
  induction operations with
  | nil =>
      intro heap recorded
      rfl
  | cons first rest inductionHypothesis =>
      intro heap recorded
      exact inductionHypothesis _ _

/-- No operation takes a slot away or adds several, and slots stay packed. -/
theorem Packed.perform
    {heap : Heap α}
    (packed : heap.Packed)
    (operation : Operation α) :
    (operation.perform heap).Packed ∧
      heap.total ≤ (operation.perform heap).total ∧
      (operation.perform heap).total ≤ heap.total + 1 := by
  have kept {after : Heap α} (sameShape : after.shape = heap.shape) :
      after.Packed ∧ heap.total ≤ after.total ∧
        after.total ≤ heap.total + 1 :=
    ⟨packed.congr sameShape.symm,
      Nat.le_of_eq (total_congr sameShape).symm,
      Nat.le_trans (Nat.le_of_eq (total_congr sameShape))
        (Nat.le_succ _)⟩
  cases operation with
  | alloc content =>
      exact packed.alloc content
  | modify handle change =>
      exact kept (shape_updateSlot _ _ _)
  | pin handle =>
      exact kept rfl
  | unpin handle =>
      have sameChunks := (heap.unpin_keeps handle).1
      exact kept (by rw [Operation.perform, shape, shape, sameChunks])
  | clearPins =>
      exact kept rfl
  | setThreshold threshold =>
      exact kept rfl
  | collect references roots =>
      exact kept (heap.shape_collect references roots)

/-- Bookkeeping that concerns neither chunks nor free list stays right. -/
private theorem WellFormed.of_same
    {heap after : Heap α}
    (wellFormed : heap.WellFormed)
    (sameChunks : after.chunks = heap.chunks)
    (sameFree : after.free = heap.free) :
    after.WellFormed where
  packed := wellFormed.packed.of_chunks_eq sameChunks
  nodup_free := sameFree ▸ wellFormed.nodup_free
  mem_free_iff := by
    intro index
    rw [sameFree, wellFormed.mem_free_iff, slot?, slot?, sameChunks]
  reset := by
    intro index generation data found
    rw [slot?, sameChunks] at found
    exact wellFormed.reset index generation data found

/-- Writing to an object empties no slot and fills none. -/
private theorem WellFormed.modify
    {heap : Heap α}
    (wellFormed : heap.WellFormed)
    (handle : Handle)
    (change : α → α) :
    (heap.modify handle change).WellFormed where
  packed := wellFormed.packed.congr (shape_updateSlot _ _ _).symm
  nodup_free := wellFormed.nodup_free
  mem_free_iff := by
    intro index
    rw [Heap.modify, slot?_updateSlot]
    refine (wellFormed.mem_free_iff index).trans ?_
    split
    · rcases heap.slot? index.toNat with _ | ⟨generation, _ | _, content⟩
      · simp
      · by_cases same : generation = handle.generation <;> simp [same]
      · simp
    · rfl
  reset := by
    intro index generation data found
    rw [Heap.modify, slot?_updateSlot] at found
    split at found
    · obtain ⟨⟨served, _ | _, before⟩, stored, after⟩ :=
        Option.map_eq_some_iff.mp found
      · by_cases same : served = handle.generation <;>
          simp [same] at after
      · exact wellFormed.reset index generation data
          (stored.trans (congrArg some (by simpa using after)))
    · exact wellFormed.reset index generation data found

/-- Every operation keeps the bookkeeping right while indices are words. -/
theorem WellFormed.perform
    {heap : Heap α}
    (wellFormed : heap.WellFormed)
    (operation : Operation α)
    (small : (operation.perform heap).total < 2 ^ 32) :
    (operation.perform heap).WellFormed := by
  cases operation with
  | alloc content =>
      exact (wellFormed.alloc content small).wellFormed
  | modify handle change =>
      exact wellFormed.modify handle change
  | pin handle =>
      exact wellFormed.of_same rfl rfl
  | unpin handle =>
      obtain ⟨sameChunks, sameFree, _⟩ := heap.unpin_keeps handle
      exact wellFormed.of_same sameChunks sameFree
  | clearPins =>
      exact wellFormed.of_same rfl rfl
  | setThreshold threshold =>
      exact wellFormed.of_same rfl rfl
  | collect references roots =>
      refine wellFormed.collect ?_ references roots
      exact Nat.lt_of_le_of_lt
        (wellFormed.packed.perform (.collect references roots)).2.1 small

/-- The arena before the first allocation has nothing to account for. -/
theorem wellFormed_empty :
    (empty : Heap α).WellFormed := by
  refine ⟨⟨?_, ?_⟩, List.nodup_nil, ?_, ?_⟩
  · intro position chunk found
    simp [empty] at found
  · intro position chunk inside found
    simp [empty] at found
  · intro index
    simp [empty, slot?]
  · intro index generation data found
    simp [empty, slot?] at found

/-- In every run the slots stay packed. -/
theorem packed_run
    (operations : List (Operation α)) :
    (run operations).Packed := by
  induction operations using List.reverseRecOn with
  | nil =>
      exact wellFormed_empty.packed
  | append_singleton operations operation inductionHypothesis =>
      rw [run_concat]
      exact (inductionHypothesis.perform operation).1

/-- A run has no more slots than operations. -/
theorem total_run_le
    (operations : List (Operation α)) :
    (run operations).total ≤ operations.length := by
  induction operations using List.reverseRecOn with
  | nil =>
      exact Nat.le_refl 0
  | append_singleton operations operation inductionHypothesis =>
      have atMostOne :=
        ((packed_run operations).perform operation).2.2
      rw [run_concat, List.length_append, List.length_singleton]
      omega

/--
What holds of the empty run, and of every run that goes on for one operation
with its bookkeeping right, holds of every run with few enough slots.
-/
theorem run_induction
    {motive : List (Operation α) → Prop}
    (start : motive [])
    (step :
      ∀ operations operation,
        (run operations).WellFormed →
          (operation.perform (run operations)).total < 2 ^ 32 →
            motive operations → motive (operations ++ [operation]))
    (operations : List (Operation α))
    (small : (run operations).total < 2 ^ 32) :
    (run operations).WellFormed ∧ motive operations := by
  induction operations using List.reverseRecOn with
  | nil =>
      exact ⟨wellFormed_empty, start⟩
  | append_singleton operations operation inductionHypothesis =>
      rw [run_concat] at small ⊢
      have smallBefore := Nat.lt_of_le_of_lt
        ((packed_run operations).perform operation).2.1 small
      obtain ⟨wellFormed, before⟩ := inductionHypothesis smallBefore
      exact ⟨wellFormed.perform operation small,
        step operations operation wellFormed small before⟩

/-- In every run with few enough slots the bookkeeping is right. -/
theorem wellFormed_run
    (operations : List (Operation α))
    (small : (run operations).total < 2 ^ 32) :
    (run operations).WellFormed :=
  (run_induction (motive := fun _ => True) trivial
    (fun _ _ _ _ _ => trivial) operations small).1

end MovieScript.Heap
