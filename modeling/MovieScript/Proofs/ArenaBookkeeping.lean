import Mathlib.Data.Set.Card
import MovieScript.Object
import MovieScript.Proofs.HeapRun

namespace MovieScript.Heap

/-!
# The bookkeeping of the arena

Chunks, marks, free list and pooled slots are kept in step by every operation.
So no slot is given out twice, the counts that the arena reports are right, and
a slot is added only when no pooled one is left.
-/

variable {α : Type} {heap : Heap α}

/--
The object has moved in.  It is in the slot that was pooled last, which is no
longer in the free list, or in a new slot behind all others if no slot was
pooled; and no other object was in that slot.
-/
structure MovedIn
    (heap : Heap α)
    (content : α)
    (handle : Handle)
    (after : Heap α) :
    Prop where
  reused : ∀ index rest,
    heap.free = index :: rest →
      handle.index = index ∧ after.free = rest ∧
        after.total = heap.total
  appended :
    heap.free = [] →
      handle.index.toNat = heap.total ∧ after.free = [] ∧
        after.total = heap.total + 1
  stored : after.get? handle = some content
  unshared : ∀ other,
    heap.contains other = true → other.index ≠ handle.index

/-- The indices in the free list, as numbers. -/
def freeIndices (heap : Heap α) : Finset Nat :=
  (heap.free.map UInt32.toNat).toFinset

variable [Reset α]

namespace WellFormed

/-- An object that finds no pooled slot gets a new one. -/
theorem movedIn_of_free_nil
    (wellFormed : heap.WellFormed)
    (small : heap.total < 2 ^ 32)
    (noneFree : heap.free = [])
    (content : α) :
    heap.MovedIn content (heap.alloc content).1 (heap.alloc content).2 := by
  have counted :
      { heap with allocations := heap.allocations + 1 }.Packed :=
    wellFormed.packed.of_chunks_eq rfl
  have roomy := counted.ensureRoom
  have taken :
      heap.alloc content =
        (⟨heap.total.toUInt32, 0⟩,
          { heap with
            allocations :=
              heap.allocations + 1 }.ensureRoom.pushSlot
                ⟨0, false, content⟩) :=
    (alloc_of_free_nil noneFree content).trans (counted.append_eq content)
  have index : heap.total.toUInt32.toNat = heap.total := by
    rw [Nat.toUInt32_eq, UInt32.toNat_ofNat_of_lt' small]
  have sameFree :
      { heap with
        allocations := heap.allocations + 1 }.ensureRoom.free = [] := by
    rcases ensureRoom_cases
      { heap with allocations := heap.allocations + 1 } with same | opened
    · rw [same, noneFree]
    · rw [opened, openChunk, noneFree]
  rw [taken]
  refine ⟨?_, fun _ => ⟨index, sameFree, ?_⟩, ?_, ?_⟩
  · intro first rest someFree
    cases noneFree.symm.trans someFree
  · rw [(roomy.total_pushSlot _).2, total_ensureRoom]
    rfl
  · rw [get?_eq_some_iff, roomy.slot?_pushSlot, total_ensureRoom]
    exact if_pos index
  · intro other live same
    obtain ⟨held, found⟩ := contains_iff.mp live
    have used := (wellFormed.packed.isSome_slot?_iff _).mp
      (Option.isSome_of_eq_some found)
    rw [same, index] at used
    exact Nat.lt_irrefl _ used

/-- An object that finds a pooled slot gets the one that was pooled last. -/
theorem movedIn_of_free_cons
    (wellFormed : heap.WellFormed)
    (small : heap.total < 2 ^ 32)
    {index : UInt32}
    {rest : List UInt32}
    (free : heap.free = index :: rest)
    (content : α) :
    heap.MovedIn content (heap.alloc content).1 (heap.alloc content).2 := by
  obtain ⟨generation, data, found, taken⟩ :=
    wellFormed.alloc_of_free_cons free content
  have sameTotal : (heap.alloc content).2.total = heap.total := by
    rw [taken]
    exact total_congr (shape_updateSlot _ _ _)
  have allocation := wellFormed.alloc content (sameTotal ▸ small)
  refine ⟨?_, ?_, ?_, ?_⟩
  · intro first others someFree
    obtain ⟨rfl, rfl⟩ := List.cons.inj (free.symm.trans someFree)
    exact ⟨by rw [taken], by rw [taken]; rfl, sameTotal⟩
  · intro noneFree
    cases free.symm.trans noneFree
  · rw [get?_eq_some_iff, allocation.slots]
    exact if_pos rfl
  · intro other live same
    obtain ⟨held, occupied⟩ := contains_iff.mp live
    rw [same, taken, found] at occupied
    cases occupied

theorem movedIn
    (wellFormed : heap.WellFormed)
    (small : heap.total < 2 ^ 32)
    (content : α) :
    heap.MovedIn content (heap.alloc content).1 (heap.alloc content).2 := by
  cases free : heap.free with
  | nil => exact wellFormed.movedIn_of_free_nil small free content
  | cons index rest =>
      exact wellFormed.movedIn_of_free_cons small free content

end WellFormed

/-! The slots in the free list and the slots of live objects are all slots. -/

namespace WellFormed

theorem card_freeIndices (wellFormed : heap.WellFormed) :
    heap.freeIndices.card = heap.free.length := by
  have nodup : (heap.free.map UInt32.toNat).Nodup :=
    wellFormed.nodup_free.map fun _ _ same => UInt32.toNat_inj.mp same
  rw [freeIndices, List.toFinset_card_of_nodup nodup, List.length_map]

theorem mem_freeIndices_iff
    (wellFormed : heap.WellFormed)
    (small : heap.total < 2 ^ 32)
    (index : Nat) :
    index ∈ heap.freeIndices ↔
      ∃ generation data,
        heap.slot? index = some ⟨generation, true, data⟩ := by
  rw [freeIndices, List.mem_toFinset, List.mem_map]
  constructor
  · rintro ⟨word, listed, rfl⟩
    exact (wellFormed.mem_free_iff word).mp listed
  · rintro ⟨generation, data, found⟩
    have used := (wellFormed.packed.isSome_slot?_iff index).mp
      (Option.isSome_of_eq_some found)
    have word := toNat_toUInt32 used small
    refine ⟨index.toUInt32, (wellFormed.mem_free_iff _).mpr ?_, word⟩
    rw [word]
    exact ⟨generation, data, found⟩

theorem freeIndices_subset
    (wellFormed : heap.WellFormed)
    (small : heap.total < 2 ^ 32) :
    heap.freeIndices ⊆ Finset.range heap.total := by
  intro index member
  obtain ⟨generation, data, found⟩ :=
    (wellFormed.mem_freeIndices_iff small index).mp member
  rw [Finset.mem_range, ← wellFormed.packed.isSome_slot?_iff]
  exact Option.isSome_of_eq_some found

/-- The handles that resolve are those of the slots that are not free. -/
theorem image_index_contains
    (wellFormed : heap.WellFormed)
    (small : heap.total < 2 ^ 32) :
    (fun handle : Handle => handle.index.toNat) ''
        {handle | heap.contains handle = true} =
      ↑(Finset.range heap.total \ heap.freeIndices) := by
  ext index
  rw [Finset.mem_coe, Finset.mem_sdiff, Finset.mem_range,
    wellFormed.mem_freeIndices_iff small,
    ← wellFormed.packed.isSome_slot?_iff]
  constructor
  · rintro ⟨handle, live, rfl⟩
    obtain ⟨content, found⟩ := contains_iff.mp live
    simp [found]
  · rintro ⟨used, notFree⟩
    obtain ⟨⟨generation, pooled, data⟩, found⟩ :=
      Option.isSome_iff_exists.mp used
    have word :=
      toNat_toUInt32 ((wellFormed.packed.isSome_slot?_iff index).mp used)
        small
    cases pooled with
    | true => exact absurd ⟨generation, data, found⟩ notFree
    | false =>
        refine ⟨⟨index.toUInt32, generation⟩, contains_iff.mpr ?_, word⟩
        rw [word]
        exact ⟨data, found⟩

theorem pooled_le_total
    (wellFormed : heap.WellFormed)
    (small : heap.total < 2 ^ 32) :
    heap.stats.pooled ≤ heap.stats.total := by
  have few := Finset.card_le_card (wellFormed.freeIndices_subset small)
  rwa [wellFormed.card_freeIndices, Finset.card_range] at few

/-- As many objects are reported live as there are handles that resolve. -/
theorem live_eq_ncard
    (wellFormed : heap.WellFormed)
    (small : heap.total < 2 ^ 32) :
    heap.stats.live = {handle | heap.contains handle = true}.ncard := by
  have injective :
      Set.InjOn (fun handle : Handle => handle.index.toNat)
        {handle | heap.contains handle = true} :=
    fun _ first _ second same =>
      eq_of_contains first second (UInt32.toNat_inj.mp same)
  rw [← injective.ncard_image,
    wellFormed.image_index_contains small, Set.ncard_coe_finset,
    Finset.card_sdiff_of_subset (wellFormed.freeIndices_subset small),
    Finset.card_range, wellFormed.card_freeIndices]
  rfl

/-- A slot is added by an allocation that finds no pooled one, if at all. -/
theorem total_perform
    (wellFormed : heap.WellFormed)
    (small : heap.total < 2 ^ 32)
    (operation : Operation α) :
    (operation.perform heap).total = heap.total ∨
      (operation.perform heap).total = heap.total + 1 ∧
        heap.free = [] ∧ ∃ content, operation = .alloc content := by
  cases operation with
  | alloc content =>
      have movedIn := wellFormed.movedIn small content
      cases free : heap.free with
      | nil =>
          exact .inr ⟨(movedIn.appended free).2.2, rfl, content, rfl⟩
      | cons index rest =>
          exact .inl (movedIn.reused index rest free).2.2
  | modify handle change => exact .inl (total_congr (shape_updateSlot _ _ _))
  | unpin handle =>
      have sameChunks := (heap.unpin_keeps handle).1
      exact .inl (by rw [Operation.perform, total, sameChunks, total])
  | collect references roots =>
      exact .inl (total_congr (heap.shape_collect references roots))
  | _ => exact .inl rfl

end WellFormed

/-- No operation of a longer run takes a slot away. -/
theorem total_run_le_append
    (operations later : List (Operation α)) :
    (run operations).total ≤ (run (operations ++ later)).total := by
  induction later using List.reverseRecOn with
  | nil => rw [List.append_nil]
  | append_singleton later operation inductionHypothesis =>
      rw [← List.append_assoc, run_concat]
      exact Nat.le_trans inductionHypothesis
        ((packed_run _).perform operation).2.1

/--
After any run with few enough slots the bookkeeping of the arena is right.  All
chunks but the last are full, each has its marks, the free list has every pooled
slot once, and what a pooled slot holds is what a reset left of some object.  An
object moves into the slot pooled last or, if none is pooled, behind all others.
The reported counts add up, with as many live objects as handles resolve; no
operation takes a slot away, and one is added only by an allocation that finds
none pooled.
-/
theorem run_bookkeeping
    (operations : List (Operation α))
    (small : (run operations).total < 2 ^ 32) :
    let heap := run operations
    heap.WellFormed ∧
    heap.marks.size = heap.chunks.size ∧
    (∀ content,
      heap.MovedIn content (heap.alloc content).1 (heap.alloc content).2) ∧
    heap.stats.live + heap.stats.pooled = heap.stats.total ∧
    heap.stats.live = {handle | heap.contains handle = true}.ncard ∧
    (∀ operation : Operation α,
      (operation.perform heap).total = heap.total ∨
        (operation.perform heap).total = heap.total + 1 ∧
          heap.free = [] ∧ ∃ content, operation = .alloc content) ∧
    ∀ later, heap.total ≤ (run (operations ++ later)).total := by
  intro heap
  have wellFormed : heap.WellFormed := wellFormed_run operations small
  refine ⟨wellFormed, heap.paired, wellFormed.movedIn small, ?_,
    wellFormed.live_eq_ncard small, wellFormed.total_perform small,
    total_run_le_append operations⟩
  exact Nat.sub_add_cancel (wellFormed.pooled_le_total small)

/-- Two objects that nothing keeps. -/
def twoKeptByNothing : List (Operation ScriptObject) :=
  [.alloc (.new none (.boolean true)), .alloc (.new (some ⟨0, 0⟩) .ordinary)]

/--
A collection leaves two slots for reuse, which hold nothing of the objects that
were in them, and the next object takes one.
-/
theorem run_bookkeeping_twoKeptByNothing :
    let heap :=
      run (twoKeptByNothing ++ [.collect (fun _ => []) []])
    heap.total = 2 ∧ heap.stats.live = 0 ∧ heap.free.length = 2 ∧
      (∀ index generation data,
        heap.slot? index = some ⟨generation, true, data⟩ →
          data = .blank) ∧
      (heap.alloc .blank).2.total = 2 := by
  intro heap
  have collected :
      heap = ((run twoKeptByNothing).collect (fun _ => []) []).2 :=
    run_concat _ _
  have total : heap.total = 2 := by
    rw [collected, total_congr (shape_collect _ _ _)]
    decide
  obtain ⟨wellFormed, -, -, counts, live, grows, -⟩ :=
    run_bookkeeping (twoKeptByNothing ++ [.collect (fun _ => []) []])
      (Nat.lt_of_le_of_lt (Nat.le_of_eq total) (by decide))
  have gone : {handle | heap.contains handle = true} = ∅ := by
    rw [Set.eq_empty_iff_forall_notMem]
    intro handle kept
    change heap.contains handle = true at kept
    rw [collected, contains_collect_iff] at kept
    cases kept with
    | root starts _ =>
        rcases starts with inRoots | pinned
        · cases inRoots
        · cases pinned
    | step _ _ held _ => cases held
  have noneLive : heap.stats.live = 0 := by
    rw [live, gone, Set.ncard_empty]
  have pooled : heap.free.length = 2 := by
    rw [noneLive, Nat.zero_add] at counts
    exact counts.trans total
  refine ⟨total, noneLive, pooled, ?_, ?_⟩
  · intro index generation data found
    obtain ⟨object, rfl⟩ := wellFormed.reset index generation data found
    exact object.reset_eq_blank
  · rcases grows (.alloc .blank) with same | ⟨-, noneFree, -⟩
    · exact same.trans total
    · rw [noneFree] at pooled
      cases pooled

end MovieScript.Heap
