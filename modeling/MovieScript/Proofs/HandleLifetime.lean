import Mathlib.Data.Set.Basic
import MovieScript.Proofs.HeapRun

namespace MovieScript.Heap

/-!
# A handle names one object for ever

Slots are reused, and only the generation tells the objects apart that were in
one slot.  The invariant relates every handle that was issued so far to its
slot: either the slot has moved on to a later generation, or the object is
still there.  Generations count collections at most, so they do not wrap while
there are fewer collections than generations.
-/

variable {α : Type}

/-- The generation of a slot, and whether there is an object in it. -/
def occupancy?
    (heap : Heap α)
    (index : Nat) :
    Option (UInt32 × Bool) :=
  (heap.slot? index).map fun slot =>
    (slot.generation, !slot.pooled)

/-- A handle resolves when its slot is occupied in its generation. -/
theorem contains_iff_occupancy?
    {heap : Heap α}
    {handle : Handle} :
    heap.contains handle = true ↔
      heap.occupancy? handle.index.toNat =
        some (handle.generation, true) := by
  rw [contains_iff, occupancy?]
  rcases heap.slot? handle.index.toNat with
    _ | ⟨generation, _ | _, data⟩ <;> simp

/-- Writing to an object changes no occupancy. -/
theorem occupancy?_modify
    (heap : Heap α)
    (handle : Handle)
    (change : α → α)
    (index : Nat) :
    (heap.modify handle change).occupancy? index =
      heap.occupancy? index := by
  rw [occupancy?, Heap.modify, slot?_updateSlot, occupancy?]
  split
  · cases heap.slot? index with
    | none =>
        rfl
    | some slot =>
        by_cases served : slot.serves handle.generation = true <;>
          simp only [Option.map_some, served, Bool.false_eq_true,
            ↓reduceIte]
  · rfl

/-- Taking a pin back changes no slot. -/
theorem slot?_unpin
    (heap : Heap α)
    (handle : Handle)
    (index : Nat) :
    (heap.unpin handle).2.slot? index = heap.slot? index := by
  rw [slot?, slot?, (heap.unpin_keeps handle).1]

/-- Every handle issued so far is accounted for by its slot. -/
structure Accounted
    (heap : Heap α)
    (handles : List Handle) :
    Prop where
  nodup : handles.Nodup
  /-- A handle that resolves was issued. -/
  known : ∀ handle, heap.contains handle = true → handle ∈ handles
  /-- The slot of an issued handle has moved on, or holds its object. -/
  past :
    ∀ handle ∈ handles, ∃ generation full,
      heap.occupancy? handle.index.toNat = some (generation, full) ∧
        (handle.generation.toNat < generation.toNat ∨
          handle.generation = generation ∧ full = true)
  /-- Each collection moves a slot on by one generation at most. -/
  young :
    ∀ index generation full,
      heap.occupancy? index = some (generation, full) →
        generation.toNat ≤ heap.cycles

/-- The account is about occupancy and the number of collections only. -/
theorem Accounted.congr
    {heap after : Heap α}
    {handles : List Handle}
    (accounted : heap.Accounted handles)
    (sameOccupancy :
      ∀ index, after.occupancy? index = heap.occupancy? index)
    (sameCycles : after.cycles = heap.cycles) :
    after.Accounted handles where
  nodup := accounted.nodup
  known := by
    intro handle live
    rw [contains_iff_occupancy?, sameOccupancy] at live
    exact accounted.known handle (contains_iff_occupancy?.mpr live)
  past := by
    intro handle member
    rw [sameOccupancy]
    exact accounted.past handle member
  young := by
    intro index generation full found
    rw [sameOccupancy] at found
    rw [sameCycles]
    exact accounted.young index generation full found

/-- The next generation is later while there are collections left. -/
theorem toNat_add_one
    {generation : UInt32}
    {cycles : Nat}
    (young : generation.toNat ≤ cycles)
    (few : cycles + 1 < 2 ^ 32) :
    (generation + 1).toNat = generation.toNat + 1 := by
  rw [UInt32.toNat_add]
  change (generation.toNat + 1) % 2 ^ 32 = generation.toNat + 1
  omega

variable [Reset α]

/-- The handles that the allocations of a run returned, in order. -/
def issued (operations : List (Operation α)) : List Handle :=
  track
    (fun heap operation handles =>
      handles ++ (operation.issued? heap).toList)
    .empty [] operations

namespace Operation

/-- What was stored last under a handle, after one more operation. -/
def store
    (handle : Handle)
    (heap : Heap α)
    (operation : Operation α)
    (stored : Option α) :
    Option α :=
  match operation with
  | .alloc content =>
      if (heap.alloc content).1 = handle then some content else stored
  | .modify other change =>
      if other = handle then stored.map change else stored
  | _ => stored

end Operation

/-- What a run stored last under a handle. -/
def lastStored
    (handle : Handle)
    (operations : List (Operation α)) :
    Option α :=
  track (Operation.store handle) .empty none operations

/-- An allocation fills the slot of its handle. -/
theorem Allocation.occupancy?_eq
    {heap after : Heap α}
    {content : α}
    {handle : Handle}
    (allocation : Allocation heap content handle after)
    (index : Nat) :
    after.occupancy? index =
      if index = handle.index.toNat then
        some (handle.generation, true)
      else
        heap.occupancy? index := by
  rw [occupancy?, allocation.slots]
  split <;> rfl

/-- The slot of a new handle was new or empty. -/
theorem Allocation.occupancy?_before
    {heap after : Heap α}
    {content : α}
    {handle : Handle}
    (allocation : Allocation heap content handle after) :
    heap.occupancy? handle.index.toNat = none ∧
        handle.generation = 0 ∨
      heap.occupancy? handle.index.toNat =
        some (handle.generation, false) := by
  rcases allocation.vacant with ⟨unused, first⟩ | ⟨data, pooled⟩
  · exact .inl ⟨by rw [occupancy?, unused]; rfl, first⟩
  · exact .inr (by rw [occupancy?, pooled]; rfl)

/-- A new handle was never issued before. -/
private theorem Accounted.fresh
    {heap after : Heap α}
    {handles : List Handle}
    (accounted : heap.Accounted handles)
    {content : α}
    {handle : Handle}
    (allocation : Allocation heap content handle after) :
    handle ∉ handles := by
  intro member
  obtain ⟨generation, full, found, order⟩ :=
    accounted.past handle member
  rcases allocation.occupancy?_before with ⟨unused, _⟩ | empty
  · rw [unused] at found
    cases found
  · rw [empty] at found
    cases found
    rcases order with earlier | ⟨_, occupied⟩
    · exact Nat.lt_irrefl _ earlier
    · cases occupied

/-- An allocation adds its handle to the account. -/
private theorem Accounted.alloc
    {heap after : Heap α}
    {handles : List Handle}
    (accounted : heap.Accounted handles)
    {content : α}
    {handle : Handle}
    (allocation : Allocation heap content handle after) :
    after.Accounted (handles ++ [handle]) where
  nodup := by
    rw [List.nodup_append]
    refine ⟨accounted.nodup, by simp, ?_⟩
    intro old member new isNew same
    rw [List.mem_singleton.mp isNew] at same
    exact accounted.fresh allocation (same ▸ member)
  known := by
    intro query live
    rw [contains_iff_occupancy?, allocation.occupancy?_eq] at live
    rw [List.mem_append, List.mem_singleton]
    split at live
    · next sameIndex =>
      right
      rcases query with ⟨index, generation⟩
      rcases handle with ⟨handleIndex, handleGeneration⟩
      simp only [Option.some.injEq, Prod.mk.injEq, and_true] at live
      rw [Handle.mk.injEq]
      exact ⟨UInt32.toNat_inj.mp sameIndex, live.symm⟩
    · left
      exact accounted.known query (contains_iff_occupancy?.mpr live)
  past := by
    intro query member
    rw [allocation.occupancy?_eq]
    rcases List.mem_append.mp member with old | new
    · obtain ⟨generation, full, found, order⟩ :=
        accounted.past query old
      split
      · next sameIndex =>
        refine ⟨_, _, rfl, .inl ?_⟩
        rw [sameIndex] at found
        rcases allocation.occupancy?_before with ⟨unused, _⟩ | empty
        · rw [unused] at found
          cases found
        · rw [empty] at found
          cases found
          rcases order with earlier | ⟨_, occupied⟩
          · exact earlier
          · cases occupied
      · exact ⟨generation, full, found, order⟩
    · obtain rfl := List.mem_singleton.mp new
      rw [if_pos rfl]
      exact ⟨_, _, rfl, .inr ⟨rfl, rfl⟩⟩
  young := by
    intro index generation full found
    rw [allocation.occupancy?_eq] at found
    rw [allocation.cycles]
    split at found
    · cases found
      rcases allocation.occupancy?_before with ⟨_, first⟩ | empty
      · rw [first]
        exact Nat.zero_le _
      · exact accounted.young _ _ _ empty
    · exact accounted.young index generation full found

/-- A collection moves the slots it empties on by one generation. -/
theorem occupancy?_collect
    (heap : Heap α)
    (references : α → List Handle)
    (roots : List Handle)
    (index : Nat) :
    (heap.collect references roots).2.occupancy? index =
      (heap.occupancy? index).map fun (generation, full) =>
        if full = true ∧
            isMarkedAt (heap.reachedMarks references roots) index =
              false then
          (generation + 1, false)
        else
          (generation, full) := by
  rw [occupancy?, slot?_collect, occupancy?]
  rcases heap.slot? index with _ | ⟨generation, _ | _, data⟩
  · rfl
  · cases isMarkedAt (heap.reachedMarks references roots) index <;>
      simp [Slot.emptied, Slot.recycled]
  · cases isMarkedAt (heap.reachedMarks references roots) index <;>
      simp [Slot.emptied]

/-- A collection keeps the account. -/
private theorem Accounted.collect
    {heap : Heap α}
    {handles : List Handle}
    (accounted : heap.Accounted handles)
    (few : heap.cycles + 1 < 2 ^ 32)
    (references : α → List Handle)
    (roots : List Handle) :
    (heap.collect references roots).2.Accounted handles where
  nodup := accounted.nodup
  known := by
    intro handle live
    exact accounted.known handle
      ((heap.contains_collect_iff references roots handle).mp
        live).contains
  past := by
    intro handle member
    obtain ⟨generation, full, found, order⟩ :=
      accounted.past handle member
    have young := accounted.young _ _ _ found
    have next := toNat_add_one young few
    rw [occupancy?_collect, found]
    simp only [Option.map_some]
    split
    · refine ⟨_, _, rfl, .inl ?_⟩
      rcases order with earlier | ⟨rfl, _⟩ <;> omega
    · exact ⟨generation, full, rfl, order⟩
  young := by
    intro index generation full found
    rw [occupancy?_collect] at found
    obtain ⟨⟨oldGeneration, wasFull⟩, before, after⟩ :=
      Option.map_eq_some_iff.mp found
    have young := accounted.young _ _ _ before
    have next := toNat_add_one young few
    change generation.toNat ≤ heap.cycles + 1
    simp only at after
    split at after
    · cases after
      omega
    · cases after
      omega

/-- Every operation keeps the account, with the handle it issues. -/
theorem Accounted.perform
    {heap : Heap α}
    {handles : List Handle}
    (accounted : heap.Accounted handles)
    (wellFormed : heap.WellFormed)
    (operation : Operation α)
    (small : (operation.perform heap).total < 2 ^ 32)
    (few : (operation.perform heap).cycles < 2 ^ 32) :
    (operation.perform heap).Accounted
      (handles ++ (operation.issued? heap).toList) := by
  have noneIssued {after : Heap α} (kept : after.Accounted handles) :
      after.Accounted (handles ++ (none : Option Handle).toList) := by
    simpa using kept
  cases operation with
  | alloc content =>
      exact accounted.alloc (wellFormed.alloc content small)
  | modify handle change =>
      exact noneIssued
        (accounted.congr (heap.occupancy?_modify handle change) rfl)
  | pin handle =>
      exact noneIssued (accounted.congr (fun _ => rfl) rfl)
  | unpin handle =>
      have same (index : Nat) :
          (heap.unpin handle).2.occupancy? index =
            heap.occupancy? index := by
        rw [occupancy?, slot?_unpin, occupancy?]
      exact noneIssued
        (accounted.congr same (heap.unpin_keeps handle).2.2)
  | clearPins =>
      exact noneIssued (accounted.congr (fun _ => rfl) rfl)
  | setThreshold threshold =>
      exact noneIssued (accounted.congr (fun _ => rfl) rfl)
  | collect references roots =>
      exact noneIssued (accounted.collect few references roots)

/-- No operation takes back a collection. -/
theorem WellFormed.cycles_le_perform
    {heap : Heap α}
    (wellFormed : heap.WellFormed)
    (operation : Operation α)
    (small : (operation.perform heap).total < 2 ^ 32) :
    heap.cycles ≤ (operation.perform heap).cycles := by
  cases operation with
  | alloc content =>
      exact Nat.le_of_eq (wellFormed.alloc content small).cycles.symm
  | modify handle change =>
      exact Nat.le_refl _
  | pin handle =>
      exact Nat.le_refl _
  | unpin handle =>
      exact Nat.le_of_eq (heap.unpin_keeps handle).2.2.symm
  | clearPins =>
      exact Nat.le_refl _
  | setThreshold threshold =>
      exact Nat.le_refl _
  | collect references roots =>
      exact Nat.le_succ _

/-- The handles of a longer run. -/
theorem issued_concat
    (operations : List (Operation α))
    (operation : Operation α) :
    issued (operations ++ [operation]) =
      issued operations ++
        (operation.issued? (run operations)).toList :=
  track_concat _ _ _ _

/-- In every run the handles issued so far are accounted for. -/
theorem accounted_run
    (operations : List (Operation α))
    (small : (run operations).total < 2 ^ 32)
    (few : (run operations).cycles < 2 ^ 32) :
    (run operations).Accounted (issued operations) := by
  refine (run_induction
    (motive := fun operations =>
      (run operations).cycles < 2 ^ 32 →
        (run operations).Accounted (issued operations))
    ?start ?step operations small).2 few
  case start =>
    intro _
    refine ⟨List.nodup_nil, ?_, ?_, ?_⟩
    · intro handle live
      simp [contains_iff, run, empty, slot?] at live
    · intro handle member
      cases member
    · intro index generation full found
      simp [occupancy?, run, empty, slot?] at found
  case step =>
    intro operations operation wellFormed stillSmall before stillFew
    rw [run_concat] at stillFew ⊢
    rw [issued_concat]
    have fewBefore := Nat.lt_of_le_of_lt
      (wellFormed.cycles_le_perform operation stillSmall) stillFew
    exact (before fewBefore).perform wellFormed operation stillSmall
      stillFew

/-- A new handle names the new object, the others name what they did. -/
theorem Allocation.get?_eq
    {heap after : Heap α}
    {content : α}
    {handle : Handle}
    (allocation : Allocation heap content handle after)
    (query : Handle) :
    after.get? query =
      if handle = query then some content else heap.get? query := by
  rw [Heap.get?_eq, allocation.slots, Heap.get?_eq]
  by_cases same : handle = query
  · subst same
    simp
  · rw [if_neg same]
    by_cases sameIndex : query.index.toNat = handle.index.toNat
    · have different : handle.generation ≠ query.generation := by
        intro sameGeneration
        apply same
        rcases handle with ⟨index, generation⟩
        rcases query with ⟨queryIndex, queryGeneration⟩
        rw [Handle.mk.injEq]
        exact ⟨(UInt32.toNat_inj.mp sameIndex).symm, sameGeneration⟩
      rw [if_pos sameIndex, sameIndex]
      rcases allocation.vacant with ⟨unused, _⟩ | ⟨data, pooled⟩
      · simp [unused, different]
      · simp [pooled, different]
    · rw [if_neg sameIndex]

/-- What an operation leaves resolving did so before, or was just issued. -/
theorem WellFormed.contains_of_perform
    {heap : Heap α}
    (wellFormed : heap.WellFormed)
    (operation : Operation α)
    (small : (operation.perform heap).total < 2 ^ 32)
    {handle : Handle}
    (live : (operation.perform heap).contains handle = true) :
    heap.contains handle = true ∨
      operation.issued? heap = some handle := by
  cases operation with
  | alloc content =>
      have allocation := wellFormed.alloc content small
      rw [Operation.perform, Heap.contains,
        allocation.get?_eq handle] at live
      by_cases same : (heap.alloc content).1 = handle
      · exact .inr (congrArg some same)
      · rw [if_neg same] at live
        exact .inl live
  | modify other change =>
      rw [Operation.perform, Heap.contains, get?_modify] at live
      left
      split at live
      · simpa [Heap.contains] using live
      · exact live
  | pin other =>
      exact .inl live
  | unpin other =>
      rw [Operation.perform, contains_iff, slot?_unpin] at live
      exact .inl (contains_iff.mpr live)
  | clearPins =>
      exact .inl live
  | setThreshold threshold =>
      exact .inl live
  | collect references roots =>
      exact .inl ((heap.contains_collect_iff references roots
        handle).mp live).contains

/-- An operation changes the object of a handle by what it stores there. -/
theorem WellFormed.get?_perform
    {heap : Heap α}
    (wellFormed : heap.WellFormed)
    (operation : Operation α)
    (small : (operation.perform heap).total < 2 ^ 32)
    {handle : Handle}
    (live : (operation.perform heap).contains handle = true) :
    (operation.perform heap).get? handle =
      operation.store handle heap (heap.get? handle) := by
  cases operation with
  | alloc content =>
      exact (wellFormed.alloc content small).get?_eq handle
  | modify other change =>
      rw [Operation.perform, get?_modify, Operation.store]
      by_cases same : other = handle
      · simp [same]
      · simp [same, Ne.symm same]
  | pin other =>
      rfl
  | unpin other =>
      rw [Operation.perform, Heap.get?_eq, slot?_unpin]
      rfl
  | clearPins =>
      rfl
  | setThreshold threshold =>
      rfl
  | collect references roots =>
      exact get?_collect live

/-- In every run a handle that resolves names what was stored last. -/
theorem get?_run
    (operations : List (Operation α))
    (small : (run operations).total < 2 ^ 32)
    {handle : Handle}
    (live : (run operations).contains handle = true) :
    (run operations).get? handle = lastStored handle operations := by
  refine (run_induction
    (motive := fun operations =>
      (run operations).contains handle = true →
        (run operations).get? handle = lastStored handle operations)
    ?start ?step operations small).2 live
  case start =>
    intro live
    simp [contains_iff, run, empty, slot?] at live
  case step =>
    intro operations operation wellFormed stillSmall before stillLive
    rw [run_concat] at stillLive ⊢
    rw [wellFormed.get?_perform operation stillSmall stillLive,
      lastStored, track_concat]
    rcases wellFormed.contains_of_perform operation stillSmall
        stillLive with wasLive | new
    · rw [before wasLive, lastStored]
    · -- Only an allocation issues a handle, and it stores what it is given.
      cases operation with
      | alloc content =>
          simp only [Operation.issued?, Option.some.injEq] at new
          simp [Operation.store, new]
      | modify other change => cases new
      | pin other => cases new
      | unpin other => cases new
      | clearPins => cases new
      | setThreshold threshold => cases new
      | collect references roots => cases new

/-- The handles of a run are issued by every longer run. -/
theorem mem_issued_append
    (before after : List (Operation α))
    {handle : Handle}
    (member : handle ∈ issued before) :
    handle ∈ issued (before ++ after) := by
  induction after using List.reverseRecOn with
  | nil =>
      simpa using member
  | append_singleton after operation inductionHypothesis =>
      rw [← List.append_assoc, issued_concat]
      exact List.mem_append_left _ inductionHypothesis

/-- Once the object of an issued handle is gone, the handle stays dead. -/
theorem not_contains_run_append
    (before after : List (Operation α))
    (small : (run (before ++ after)).total < 2 ^ 32)
    (few : (run (before ++ after)).cycles < 2 ^ 32)
    {handle : Handle}
    (member : handle ∈ issued before)
    (dead : (run before).contains handle = false) :
    (run (before ++ after)).contains handle = false := by
  induction after using List.reverseRecOn with
  | nil =>
      simpa using dead
  | append_singleton after operation inductionHypothesis =>
      have accounted := accounted_run _ small few
      rw [← List.append_assoc] at small few accounted ⊢
      rw [issued_concat] at accounted
      rw [run_concat] at small few ⊢
      have smallBefore := Nat.lt_of_le_of_lt
        ((packed_run (before ++ after)).perform operation).2.1 small
      have wellFormed := wellFormed_run _ smallBefore
      have fewBefore := Nat.lt_of_le_of_lt
        (wellFormed.cycles_le_perform operation small) few
      rw [Bool.eq_false_iff]
      intro live
      rcases wellFormed.contains_of_perform operation small live with
          wasLive | new
      · simp [inductionHypothesis smallBefore fewBefore] at wasLive
      · have twice := (List.nodup_append.mp accounted.nodup).2.2 handle
          (mem_issued_append before after member) handle (by simp [new])
        exact twice rfl

/--
A handle names one object for ever.  In every run with few enough collections
and slots no two allocations return the same handle; a handle whose object is
gone never resolves again, whatever moves into its slot; while a handle
resolves it names what was stored last through it, and a write through any
other handle does not change that.
-/
theorem handle_names_one_object
    (operations : List (Operation α))
    (small : (run operations).total < 2 ^ 32)
    (few : (run operations).cycles < 2 ^ 32) :
    (issued operations).Nodup ∧
    (∀ before after handle,
      operations = before ++ after →
        handle ∈ issued before →
          (run before).contains handle = false →
            (run operations).contains handle = false) ∧
    (∀ handle,
      (run operations).contains handle = true →
        handle ∈ issued operations ∧
          (run operations).get? handle =
            lastStored handle operations) ∧
    ∀ handle other change,
      other ≠ handle →
        ((run operations).modify other change).get? handle =
          (run operations).get? handle := by
  have accounted := accounted_run operations small few
  refine ⟨accounted.nodup, ?_, ?_, ?_⟩
  · rintro before after handle rfl member dead
    exact not_contains_run_append before after small few member dead
  · intro handle live
    exact ⟨accounted.known handle live, get?_run operations small live⟩
  · intro handle other change different
    rw [get?_modify, if_neg (Ne.symm different)]

/-- A handle stays dead when its slot is used again after a collection. -/
theorem handle_names_one_object_reused :
    let emptied : List (Operation Nat) :=
      [.alloc 10, .collect (fun _ => []) []]
    let reused := emptied ++ [.alloc 20]
    (run reused).total < 2 ^ 32 ∧
      (run reused).cycles < 2 ^ 32 ∧
      ⟨0, 0⟩ ∈ issued emptied ∧
      (issued reused).Nodup ∧
      (run reused).contains ⟨0, 0⟩ = false := by
  intro emptied reused
  have small : (run reused).total < 2 ^ 32 :=
    Nat.lt_of_le_of_lt (total_run_le reused) (by decide)
  have wellFormed := wellFormed_run emptied
    (Nat.lt_of_le_of_lt (total_run_le emptied) (by decide))
  have once : (run reused).cycles = 1 := by
    have again : run reused = ((run emptied).alloc 20).2 :=
      run_concat emptied (.alloc 20)
    rw [again] at small ⊢
    exact (wellFormed.alloc 20 small).cycles
  have few : (run reused).cycles < 2 ^ 32 := by omega
  have member : ⟨0, 0⟩ ∈ issued emptied := by decide
  have dead : (run emptied).contains ⟨0, 0⟩ = false := by
    rw [Bool.eq_false_iff]
    intro live
    have reached := (contains_collect_iff
      (run [.alloc 10]) (fun _ => []) [] ⟨0, 0⟩).mp live
    refine reached.avoids ?_ ?_ (Set.mem_univ _)
    · intro handle _ _ starts
      rcases starts with inRoots | pinned
      · cases inRoots
      · cases pinned
    · intro handle content next _ _ held
      cases held
  obtain ⟨distinct, stays, _⟩ :=
    handle_names_one_object reused small few
  exact ⟨small, few, member, distinct,
    stays emptied [.alloc 20] ⟨0, 0⟩ rfl member dead⟩

end MovieScript.Heap
