import Mathlib.Data.Set.Card
import MovieScript.Proofs.HeapRun

namespace MovieScript.Heap

/-!
# Collections are exact

After any run, a collection keeps what can be reached from the live roots and
from the handles whose pins were not all taken back, and it reports how many
handles stopped resolving.
-/

variable {α : Type}

/-- The pins of one handle since all pins were dropped the last time. -/
structure PinAccount where
  /-- How often the handle was pinned. -/
  pinned : Nat
  /-- How often a pin of the handle was taken back. -/
  released : Nat
  deriving Repr, DecidableEq

namespace Operation

/-- The account of a handle after an operation; a refused `unpin` is free. -/
def charge
    (handle : Handle)
    (heap : Heap α)
    (operation : Operation α)
    (account : PinAccount) :
    PinAccount :=
  match operation with
  | .pin other =>
      if other = handle then
        { account with pinned := account.pinned + 1 }
      else
        account
  | .unpin other =>
      if other = handle ∧ (heap.unpin other).1 = true then
        { account with released := account.released + 1 }
      else
        account
  | .clearPins => ⟨0, 0⟩
  | _ => account

end Operation

/-- The arena's own count of the pins of a handle agrees with an account. -/
structure PinAccount.Agrees
    (account : PinAccount)
    (count : Option Nat) :
    Prop where
  covered : account.released ≤ account.pinned
  count :
    count =
      if account.released < account.pinned then
        some (account.pinned - account.released)
      else
        none

/-- A new slot comes with no pin. -/
private theorem pins_append
    (heap : Heap α)
    (content : α) :
    (heap.append content).2.pins = heap.pins := by
  change heap.ensureRoom.pins = heap.pins
  rcases heap.ensureRoom_cases with same | opened
  · rw [same]
  · rw [opened]
    rfl

/-- Moving an object in changes no pin. -/
private theorem pins_alloc
    (heap : Heap α)
    (content : α) :
    (heap.alloc content).2.pins = heap.pins := by
  unfold alloc
  simp only
  split
  · rw [pins_append]
  · split
    · rfl
    · rw [pins_append]

/-- One more pin. -/
private theorem PinAccount.Agrees.pin
    {account : PinAccount}
    {heap : Heap α}
    {handle : Handle}
    (agrees : account.Agrees (heap.pins.get? handle))
    (other : Handle) :
    (Operation.charge handle heap (.pin other) account).Agrees
      ((heap.pin other).pins.get? handle) := by
  rw [Heap.pin, Table.get?_insert]
  by_cases same : other = handle
  · subst same
    have covered := agrees.covered
    have more : account.released < account.pinned + 1 := by omega
    simp only [Operation.charge, ↓reduceIte, agrees.count]
    refine ⟨by simp only; omega, ?_⟩
    simp only [more, ↓reduceIte]
    split <;> simp only [Option.getD_some, Option.getD_none] <;>
      congr 1 <;> omega
  · simp only [Operation.charge, same, Ne.symm same, ↓reduceIte]
    exact agrees

/-- One pin less, if there was one. -/
private theorem PinAccount.Agrees.unpin
    {account : PinAccount}
    {heap : Heap α}
    {handle : Handle}
    (agrees : account.Agrees (heap.pins.get? handle))
    (other : Handle) :
    (Operation.charge handle heap (.unpin other) account).Agrees
      ((heap.unpin other).2.pins.get? handle) := by
  by_cases same : other = handle
  · subst same
    have covered := agrees.covered
    have count := agrees.count
    unfold Operation.charge Heap.unpin
    split at count
    · next some =>
      simp only [count]
      by_cases several : 1 < account.pinned - account.released
      · have left : account.released + 1 < account.pinned := by omega
        simp only [several, ↓reduceIte, and_self, Table.get?_insert]
        exact ⟨by simp only; omega, by simp [left]; omega⟩
      · have last : ¬account.released + 1 < account.pinned := by omega
        simp only [several, ↓reduceIte, and_self, Table.get?_erase]
        exact ⟨by simp only; omega, by simp [last]⟩
    · simp only [count, Bool.false_eq_true, and_false, ↓reduceIte]
      exact count ▸ agrees
  · simp only [Operation.charge, same, false_and, ↓reduceIte]
    have others :
        (heap.unpin other).2.pins.get? handle =
          heap.pins.get? handle := by
      unfold Heap.unpin
      split
      · rfl
      · split
        · simp [Table.get?_insert, Ne.symm same]
        · simp [Table.get?_erase, Ne.symm same]
    rw [others]
    exact agrees

/-- The handle of the object in the slot at an index. -/
def handleAt
    (heap : Heap α)
    (index : Nat) :
    Handle :=
  ⟨index.toUInt32,
    ((heap.slot? index).map Slot.generation).getD 0⟩

variable [Reset α]

/-- The account of a handle after a run. -/
def pinAccount
    (handle : Handle)
    (operations : List (Operation α)) :
    PinAccount :=
  track (Operation.charge handle) .empty ⟨0, 0⟩ operations

/-- In every run the arena counts pins as the account does. -/
theorem pinAccount_agrees
    (operations : List (Operation α))
    (handle : Handle) :
    (pinAccount handle operations).Agrees
      ((run operations).pins.get? handle) := by
  induction operations using List.reverseRecOn with
  | nil =>
      exact ⟨Nat.le_refl 0, rfl⟩
  | append_singleton operations operation inductionHypothesis =>
      rw [run_concat, pinAccount, track_concat]
      cases operation with
      | alloc content =>
          rw [Operation.perform, pins_alloc]
          exact inductionHypothesis
      | modify other change =>
          exact inductionHypothesis
      | pin other =>
          exact inductionHypothesis.pin other
      | unpin other =>
          exact inductionHypothesis.unpin other
      | clearPins =>
          exact ⟨Nat.le_refl 0, rfl⟩
      | setThreshold threshold =>
          exact inductionHypothesis
      | collect references roots =>
          exact inductionHypothesis

/-- The pinned handles are those with more pins than releases. -/
theorem mem_keys_pins_iff
    (operations : List (Operation α))
    (handle : Handle) :
    handle ∈ (run operations).pins.keys ↔
      (pinAccount handle operations).released <
        (pinAccount handle operations).pinned := by
  rw [Table.mem_keys_iff, (pinAccount_agrees operations handle).count]
  split <;> simp_all

/-- The handles that stop resolving are those of the emptied slots. -/
private theorem mem_map_handleAt_iff
    {heap : Heap α}
    (wellFormed : heap.WellFormed)
    (small : heap.total < 2 ^ 32)
    (references : α → List Handle)
    (roots : List Handle)
    (handle : Handle) :
    handle ∈ (heap.emptiedIndices references roots).map heap.handleAt ↔
      heap.contains handle = true ∧
        (heap.collect references roots).2.contains handle = false := by
  rw [List.mem_map]
  constructor
  · rintro ⟨index, member, rfl⟩
    have word : index.toUInt32.toNat = index :=
      toNat_toUInt32
        (wellFormed.lt_total_of_mem_emptiedIndices member) small
    obtain ⟨⟨generation, content, found⟩, clear⟩ :=
      (heap.mem_emptiedIndices_iff references roots index).mp member
    constructor
    · refine contains_iff.mpr ⟨content, ?_⟩
      simp [handleAt, word, found]
    · rw [Bool.eq_false_iff]
      intro kept
      obtain ⟨other, stillFound⟩ := contains_iff.mp kept
      rw [slot?_collect] at stillFound
      simp [handleAt, word, found, clear, Slot.emptied,
        Slot.recycled] at stillFound
  · rintro ⟨live, gone⟩
    obtain ⟨content, found⟩ := contains_iff.mp live
    refine ⟨handle.index.toNat, ?_, ?_⟩
    · refine (heap.mem_emptiedIndices_iff references roots _).mpr
        ⟨⟨handle.generation, content, found⟩, ?_⟩
      rw [Bool.eq_false_iff]
      intro marked
      have kept := (heap.contains_collect_iff references roots handle).mpr
        ((isMarked_reachedMarks_iff live).mp marked)
      simp [gone] at kept
    · simp [handleAt, found]

/-- A collection reports how many handles stopped resolving. -/
theorem fst_collect_eq_ncard
    {heap : Heap α}
    (wellFormed : heap.WellFormed)
    (small : heap.total < 2 ^ 32)
    (references : α → List Handle)
    (roots : List Handle) :
    (heap.collect references roots).1 =
      {handle |
        heap.contains handle = true ∧
          (heap.collect references roots).2.contains handle =
            false}.ncard := by
  have nodup :
      ((heap.emptiedIndices references roots).map
        heap.handleAt).Nodup := by
    refine (heap.nodup_emptiedIndices references roots).map_on ?_
    intro first firstMember second secondMember same
    have sameIndex := congrArg (fun handle => handle.index.toNat) same
    simp only [handleAt] at sameIndex
    rwa [toNat_toUInt32
        (wellFormed.lt_total_of_mem_emptiedIndices firstMember) small,
      toNat_toUInt32
        (wellFormed.lt_total_of_mem_emptiedIndices secondMember)
        small] at sameIndex
  have asFinset :
      {handle |
        heap.contains handle = true ∧
          (heap.collect references roots).2.contains handle = false} =
        ((heap.emptiedIndices references roots).map
          heap.handleAt).toFinset := by
    ext handle
    rw [List.coe_toFinset]
    exact (mem_map_handleAt_iff wellFormed small references roots
      handle).symm
  rw [asFinset, Set.ncard_coe_finset, List.toFinset_card_of_nodup nodup,
    List.length_map, fst_collect]

/--
A collection after any run with few enough slots is exact.  It keeps a handle
if it resolved and can be reached from a live root or from a live handle that
was pinned more often than released since the pins were dropped; what it keeps
is unchanged; it counts what it removes; and objects that only refer to each
other go, in whatever cycles they do so.
-/
theorem collect_exact
    (operations : List (Operation α))
    (references : α → List Handle)
    (roots : List Handle)
    (small : (run operations).total < 2 ^ 32) :
    let heap := run operations
    let after := (heap.collect references roots).2
    let starts : Handle → Prop := fun handle =>
      handle ∈ roots ∨
        (pinAccount handle operations).released <
          (pinAccount handle operations).pinned
    (∀ handle,
      after.contains handle = true ↔
        heap.contains handle = true ∧
          heap.Reachable references starts handle) ∧
    (∀ handle,
      after.contains handle = true →
        after.get? handle = heap.get? handle) ∧
    (heap.collect references roots).1 =
      {handle |
        heap.contains handle = true ∧
          after.contains handle = false}.ncard ∧
    ∀ garbage : Set Handle,
      (∀ handle ∈ garbage, heap.contains handle = true →
        ¬starts handle) →
      (∀ handle content next,
        handle ∉ garbage → heap.get? handle = some content →
          next ∈ references content → next ∉ garbage) →
      ∀ handle ∈ garbage, after.contains handle = false := by
  intro heap after starts
  have wellFormed := wellFormed_run operations small
  have kept (handle : Handle) :
      after.contains handle = true ↔
        heap.Reachable references starts handle := by
    refine (heap.contains_collect_iff references roots handle).trans ?_
    constructor
    · refine Reachable.mono ?_
      rintro start (inRoots | pinned) _
      · exact .inl inRoots
      · exact .inr ((mem_keys_pins_iff operations start).mp pinned)
    · refine Reachable.mono ?_
      rintro start (inRoots | pinned) _
      · exact .inl inRoots
      · exact .inr ((mem_keys_pins_iff operations start).mpr pinned)
  refine ⟨?_, ?_, fst_collect_eq_ncard wellFormed small references roots,
    ?_⟩
  · intro handle
    rw [kept]
    exact ⟨fun reached => ⟨reached.contains, reached⟩, And.right⟩
  · intro handle stays
    exact get?_collect stays
  · intro garbage noStart noneOutside handle member
    rw [Bool.eq_false_iff]
    intro stays
    exact ((kept handle).mp stays).avoids noStart noneOutside member

/-- Two cycles; one pin of the first is left, those of the second are not. -/
def twoCycles : List (Operation (List Handle)) :=
  [.alloc [⟨1, 0⟩], .alloc [⟨0, 0⟩], .alloc [⟨3, 0⟩], .alloc [⟨2, 0⟩],
    .pin ⟨0, 0⟩, .pin ⟨0, 0⟩, .unpin ⟨0, 0⟩,
    .pin ⟨2, 0⟩, .unpin ⟨2, 0⟩, .unpin ⟨2, 0⟩]

/-- The four objects of the two cycles. -/
private theorem objects_twoCycles
    {handle : Handle}
    {content : List Handle}
    (found : (run twoCycles).get? handle = some content) :
    (handle = ⟨0, 0⟩ ∧ content = [⟨1, 0⟩]) ∨
      (handle = ⟨1, 0⟩ ∧ content = [⟨0, 0⟩]) ∨
      (handle = ⟨2, 0⟩ ∧ content = [⟨3, 0⟩]) ∨
      (handle = ⟨3, 0⟩ ∧ content = [⟨2, 0⟩]) := by
  have member :
      handle ∈ ([⟨0, 0⟩, ⟨1, 0⟩, ⟨2, 0⟩, ⟨3, 0⟩] : List Handle) :=
    (packed_run twoCycles).mem_of_contains (by decide)
      (contains_of_get? found)
  simp only [List.mem_cons, List.not_mem_nil, or_false] at member
  rcases member with rfl | rfl | rfl | rfl
  · exact .inl ⟨rfl, Option.some.inj (found.symm.trans (by decide))⟩
  · exact .inr (.inl ⟨rfl, Option.some.inj (found.symm.trans (by decide))⟩)
  · exact .inr (.inr (.inl
      ⟨rfl, Option.some.inj (found.symm.trans (by decide))⟩))
  · exact .inr (.inr (.inr
      ⟨rfl, Option.some.inj (found.symm.trans (by decide))⟩))

/-- Of two cycles the pinned one is kept, and a stale root keeps nothing. -/
theorem collect_exact_twoCycles :
    let after := ((run twoCycles).collect id [⟨2, 7⟩]).2
    (run twoCycles).total < 2 ^ 32 ∧
      after.get? ⟨0, 0⟩ = some [⟨1, 0⟩] ∧
      after.get? ⟨1, 0⟩ = some [⟨0, 0⟩] ∧
      after.contains ⟨2, 0⟩ = false ∧
      after.contains ⟨3, 0⟩ = false := by
  intro after
  have small : (run twoCycles).total < 2 ^ 32 := by decide
  obtain ⟨kept, unchanged, _, reclaimed⟩ :=
    collect_exact twoCycles id [⟨2, 7⟩] small
  have firstKept := (kept ⟨0, 0⟩).mpr
    ⟨by decide, .root (.inr (by decide)) (by decide)⟩
  have secondKept := (kept ⟨1, 0⟩).mpr
    ⟨by decide,
      .step (.root (.inr (by decide)) (by decide))
        (show (run twoCycles).get? ⟨0, 0⟩ = some [⟨1, 0⟩] by decide)
        (by decide) (by decide)⟩
  have gone := reclaimed {⟨2, 0⟩, ⟨3, 0⟩} (by
      intro handle member _
      rcases member with rfl | rfl <;> decide) (by
      intro handle content next outside found held
      rcases objects_twoCycles found with
          ⟨rfl, rfl⟩ | ⟨rfl, rfl⟩ | ⟨rfl, rfl⟩ | ⟨rfl, rfl⟩
      · cases held with
        | head => decide
        | tail _ more => cases more
      · cases held with
        | head => decide
        | tail _ more => cases more
      · exact absurd (.inl rfl) outside
      · exact absurd (.inr rfl) outside)
  refine ⟨small, ?_, ?_, gone _ (.inl rfl), gone _ (.inr rfl)⟩
  · rw [unchanged _ firstKept]
    decide
  · rw [unchanged _ secondKept]
    decide

end MovieScript.Heap
