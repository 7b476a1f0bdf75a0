import MovieScript.Proofs.HandleLifetime

namespace MovieScript.Heap

/-!
# Issued handles

Whether a handle was ever issued can be read off its slot, as long as no
generation has wrapped around.  A handle that was issued stays so, no later
allocation returns it, and while it resolves only writes change its object.
-/

variable {α : Type}

/-- The slot of the handle has moved on, or it holds the handle's object. -/
def hasIssued
    (heap : Heap α)
    (handle : Handle) :
    Bool :=
  match heap.slotAt? handle with
  | some slot =>
      handle.generation < slot.generation ||
        (handle.generation == slot.generation && !slot.pooled)
  | none => false

theorem hasIssued_iff
    {heap : Heap α}
    {handle : Handle} :
    heap.hasIssued handle = true ↔
      ∃ generation full,
        heap.occupancy? handle.index.toNat = some (generation, full) ∧
          (handle.generation.toNat < generation.toNat ∨
            handle.generation = generation ∧ full = true) := by
  change (match heap.slot? handle.index.toNat with
    | some slot => _
    | none => _) = true ↔ _
  rw [occupancy?]
  rcases heap.slot? handle.index.toNat with
    _ | ⟨generation, _ | _, data⟩
  · simp
  · simp [UInt32.lt_iff_toNat_lt]
  · simp [UInt32.lt_iff_toNat_lt]

/-- A handle that resolves was issued. -/
theorem hasIssued_of_contains
    {heap : Heap α}
    {handle : Handle}
    (live : heap.contains handle = true) :
    heap.hasIssued handle = true :=
  hasIssued_iff.mpr
    ⟨_, _, contains_iff_occupancy?.mp live, .inr ⟨rfl, rfl⟩⟩

/-- Writing to an object issues no handle. -/
theorem hasIssued_modify
    (heap : Heap α)
    (handle query : Handle)
    (change : α → α) :
    (heap.modify handle change).hasIssued query = heap.hasIssued query := by
  rw [Bool.eq_iff_iff, hasIssued_iff, hasIssued_iff]
  simp only [occupancy?_modify]

/-- Moving an object in is no collection, whatever the arena is like. -/
theorem cycles_alloc
    (heap : Heap α)
    (content : α) :
    (heap.alloc content).2.cycles = heap.cycles := by
  have appended (roomy : Heap α) :
      (roomy.append content).2.cycles = roomy.cycles := by
    rcases roomy.ensureRoom_cases with same | opened
    · simp [append, same]
    · simp [append, opened, openChunk]
  rw [alloc]
  dsimp only
  split
  · rw [appended]
  · split
    · rfl
    · rw [appended]

variable [Reset α]

/--
The bookkeeping of an arena is right, and no slot was emptied more often than
collections ran.
-/
structure Sound (heap : Heap α) : Prop extends WellFormed heap where
  young :
    ∀ index generation full,
      heap.occupancy? index = some (generation, full) →
        generation.toNat ≤ heap.cycles

/-- An allocation returns a handle that was never issued. -/
theorem Allocation.not_hasIssued
    {heap after : Heap α}
    {content : α}
    {handle : Handle}
    (allocation : Allocation heap content handle after) :
    heap.hasIssued handle = false := by
  rw [Bool.eq_false_iff]
  intro issued
  obtain ⟨generation, full, found, order⟩ := hasIssued_iff.mp issued
  rcases allocation.occupancy?_before with ⟨unused, -⟩ | empty
  · rw [unused] at found
    cases found
  · rw [empty] at found
    cases found
    rcases order with earlier | ⟨-, occupied⟩
    · exact Nat.lt_irrefl _ earlier
    · cases occupied

/-- No operation takes back a collection. -/
theorem cycles_mono
    (heap : Heap α)
    (operation : Operation α) :
    heap.cycles ≤ (operation.perform heap).cycles := by
  cases operation with
  | alloc content => exact Nat.le_of_eq (heap.cycles_alloc content).symm
  | unpin handle => exact Nat.le_of_eq (heap.unpin_keeps handle).2.2.symm
  | collect references roots => exact Nat.le_succ _
  | _ => exact Nat.le_refl _

/--
What an operation does to the generation of a slot: an allocation fills it, a
collection may empty it, and nothing else touches it.
-/
theorem WellFormed.occupancy?_perform
    {heap : Heap α}
    (wellFormed : heap.WellFormed)
    (operation : Operation α)
    (small : (operation.perform heap).total < 2 ^ 32)
    (index : Nat) :
    (operation.perform heap).occupancy? index = heap.occupancy? index ∨
      (∃ generation,
        (operation.perform heap).occupancy? index =
            some (generation, true) ∧
          (heap.occupancy? index = none ∧ generation = 0 ∨
            heap.occupancy? index = some (generation, false))) ∨
      ∃ generation,
        heap.occupancy? index = some (generation, true) ∧
          (operation.perform heap).occupancy? index =
            some (generation + 1, false) ∧
          (operation.perform heap).cycles = heap.cycles + 1 := by
  cases operation with
  | alloc content =>
      have allocation := wellFormed.alloc content small
      rw [Operation.perform, allocation.occupancy?_eq]
      split
      · rename_i here
        exact .inr (.inl ⟨_, rfl, here ▸ allocation.occupancy?_before⟩)
      · exact .inl rfl
  | modify handle change => exact .inl (heap.occupancy?_modify _ _ _)
  | unpin handle =>
      left
      rw [Operation.perform, occupancy?, slot?_unpin, occupancy?]
  | collect references roots =>
      rw [Operation.perform, occupancy?_collect]
      rcases heap.occupancy? index with _ | ⟨generation, full⟩
      · exact .inl rfl
      · simp only [Option.map_some]
        split
        · rename_i emptied
          obtain ⟨rfl, -⟩ := emptied
          exact .inr (.inr ⟨generation, rfl, rfl, rfl⟩)
        · exact .inl rfl
  | pin handle => exact .inl rfl
  | clearPins => exact .inl rfl
  | setThreshold threshold => exact .inl rfl

namespace Sound

variable {heap : Heap α}

/-- Every operation keeps an arena sound while its numbers are words. -/
theorem perform
    (sound : heap.Sound)
    (operation : Operation α)
    (small : (operation.perform heap).total < 2 ^ 32)
    (few : (operation.perform heap).cycles < 2 ^ 32) :
    (operation.perform heap).Sound where
  toWellFormed := sound.toWellFormed.perform operation small
  young := by
    intro index generation full found
    have grown := heap.cycles_mono operation
    rcases sound.toWellFormed.occupancy?_perform operation small index with
      same | ⟨filled, after, before⟩ | ⟨emptied, before, after, counted⟩
    · rw [same] at found
      exact Nat.le_trans (sound.young index generation full found) grown
    · rw [after] at found
      cases found
      rcases before with ⟨-, rfl⟩ | empty
      · exact Nat.zero_le _
      · exact Nat.le_trans (sound.young index _ _ empty) grown
    · rw [after] at found
      cases found
      have young := sound.young index _ _ before
      rw [toNat_add_one young (counted ▸ few), counted]
      exact Nat.succ_le_succ young

/-- A handle that was issued stays so. -/
theorem hasIssued_perform
    (sound : heap.Sound)
    (operation : Operation α)
    (small : (operation.perform heap).total < 2 ^ 32)
    (few : (operation.perform heap).cycles < 2 ^ 32)
    {handle : Handle}
    (issued : heap.hasIssued handle = true) :
    (operation.perform heap).hasIssued handle = true := by
  obtain ⟨generation, full, found, order⟩ := hasIssued_iff.mp issued
  rcases sound.toWellFormed.occupancy?_perform operation small
      handle.index.toNat with
    same | ⟨filled, after, before⟩ | ⟨emptied, before, after, counted⟩
  · exact hasIssued_iff.mpr ⟨generation, full, same.trans found, order⟩
  · refine hasIssued_iff.mpr ⟨_, _, after, .inl ?_⟩
    rcases before with ⟨unused, -⟩ | empty
    · rw [unused] at found
      cases found
    · rw [empty] at found
      cases found
      exact order.resolve_right fun same => nomatch same.2
  · rw [before] at found
    cases found
    have next := toNat_add_one (sound.young _ _ _ before) (counted ▸ few)
    refine hasIssued_iff.mpr ⟨_, _, after, .inl ?_⟩
    rcases order with earlier | ⟨rfl, -⟩
    · omega
    · omega

end Sound

/-- In every run with few enough slots and collections the arena is sound. -/
theorem sound_run
    (operations : List (Operation α))
    (small : (run operations).total < 2 ^ 32)
    (few : (run operations).cycles < 2 ^ 32) :
    (run operations).Sound where
  toWellFormed := wellFormed_run operations small
  young := (accounted_run operations small few).young

/-- Every handle that an allocation of a run returned counts as issued. -/
theorem hasIssued_run
    (operations : List (Operation α))
    (small : (run operations).total < 2 ^ 32)
    (few : (run operations).cycles < 2 ^ 32)
    {handle : Handle}
    (member : handle ∈ issued operations) :
    (run operations).hasIssued handle = true :=
  hasIssued_iff.mpr
    ((accounted_run operations small few).past handle member)

/-- What an operation makes of the object of an issued handle. -/
def Operation.revise
    (handle : Handle)
    (old : α) :
    Operation α → α
  | .modify other change => if other = handle then change old else old
  | _ => old

/-- The object of an issued handle was there before, and was only revised. -/
theorem WellFormed.get?_of_perform
    {heap : Heap α}
    (wellFormed : heap.WellFormed)
    (operation : Operation α)
    (small : (operation.perform heap).total < 2 ^ 32)
    {handle : Handle}
    (issued : heap.hasIssued handle = true)
    {content : α}
    (found : (operation.perform heap).get? handle = some content) :
    ∃ old,
      heap.get? handle = some old ∧
        content = operation.revise handle old := by
  have stored :=
    wellFormed.get?_perform operation small (contains_of_get? found)
  rw [found] at stored
  cases operation with
  | alloc object =>
      have fresh := (wellFormed.alloc object small).not_hasIssued
      rw [Operation.store, if_neg] at stored
      · exact ⟨content, stored.symm, rfl⟩
      · intro same
        rw [same, issued] at fresh
        cases fresh
  | modify other change =>
      change some content =
        if other = handle then (heap.get? handle).map change
        else heap.get? handle at stored
      split at stored
      · rename_i here
        obtain ⟨old, before, changed⟩ :=
          Option.map_eq_some_iff.mp stored.symm
        exact ⟨old, before, (if_pos here).trans changed |>.symm⟩
      · rename_i elsewhere
        exact ⟨content, stored.symm, (if_neg elsewhere).symm⟩
  | pin other => exact ⟨content, stored.symm, rfl⟩
  | unpin other => exact ⟨content, stored.symm, rfl⟩
  | clearPins => exact ⟨content, stored.symm, rfl⟩
  | setThreshold threshold => exact ⟨content, stored.symm, rfl⟩
  | collect references roots => exact ⟨content, stored.symm, rfl⟩

end MovieScript.Heap
