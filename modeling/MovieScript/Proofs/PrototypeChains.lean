import Mathlib.Logic.Relation
import Mathlib.Order.WellFounded
import MovieScript.Proofs.ObjectInvariants

namespace MovieScript

/-!
# Prototype chains

Following prototypes comes to an end because the relation is well founded.  An
object that moves in inherits from one that was issued before, so no chain that
was there leads to it; a relinked one is put below a chain that it is not on;
and a collection only takes links away.  That every prototype was issued is part
of the invariant, since a slot may be used again under a later generation.
-/

namespace Heap

variable {heap after : Heap ScriptObject}

/-- The prototype of the object that a handle names. -/
def prototypeOf?
    (heap : Heap ScriptObject)
    (handle : Handle) :
    Option Handle :=
  (heap.get? handle).bind ScriptObject.prototype

/-- The one is the prototype of the other, which is there. -/
def IsPrototype
    (heap : Heap ScriptObject)
    (parent child : Handle) :
    Prop :=
  heap.prototypeOf? child = some parent

/--
Follow that many prototype links; `none` once there is no prototype or the
object is gone.
-/
def climb (heap : Heap ScriptObject) : Nat → Handle → Option Handle
  | 0, handle => some handle
  | steps + 1, handle =>
      (heap.prototypeOf? handle).bind (heap.climb steps)

theorem isPrototype_iff
    {parent child : Handle} :
    heap.IsPrototype parent child ↔
      ∃ object,
        heap.get? child = some object ∧
          object.prototype = some parent :=
  Option.bind_eq_some_iff

/-- A chain that cannot go on for ever is climbed in finitely many steps. -/
theorem climb_ends
    (wellFounded : WellFounded heap.IsPrototype)
    (handle : Handle) :
    ∃ steps, heap.climb steps handle = none := by
  induction handle using wellFounded.induction with
  | _ handle inductionHypothesis =>
      cases above : heap.prototypeOf? handle with
      | none =>
          refine ⟨1, ?_⟩
          rw [climb, above]
          rfl
      | some parent =>
          obtain ⟨steps, ends⟩ := inductionHypothesis parent above
          refine ⟨steps + 1, ?_⟩
          rw [climb, above]
          exact ends

/-- Every prototype was issued, and every chain comes to its end. -/
structure Ordered (heap : Heap ScriptObject) : Prop where
  linked : ∀ parent child,
    heap.IsPrototype parent child → heap.hasIssued parent = true
  wellFounded : WellFounded heap.IsPrototype

namespace Ordered

/-- Links may be taken away, and handles may be issued. -/
theorem of_fewer
    (ordered : heap.Ordered)
    (fewer : ∀ parent child,
      after.IsPrototype parent child → heap.IsPrototype parent child)
    (issued : ∀ handle,
      heap.hasIssued handle = true → after.hasIssued handle = true) :
    after.Ordered where
  linked parent child link :=
    issued parent (ordered.linked parent child (fewer parent child link))
  wellFounded :=
    Subrelation.wf (fewer _ _) ordered.wellFounded

/-- A new object inherits from one that was issued before. -/
theorem alloc
    (ordered : heap.Ordered)
    (sound : heap.Sound)
    {object : ScriptObject}
    (small : (heap.alloc object).2.total < 2 ^ 32)
    (few : (heap.alloc object).2.cycles < 2 ^ 32)
    (inherits : ∀ parent,
      object.prototype = some parent → heap.hasIssued parent = true) :
    (heap.alloc object).2.Ordered := by
  have allocation := sound.toWellFormed.alloc object small
  have fresh := allocation.not_hasIssued
  have link (parent child : Handle) :
      (heap.alloc object).2.IsPrototype parent child →
        heap.hasIssued parent = true ∧
          ((heap.alloc object).1 ≠ child →
            heap.IsPrototype parent child) := by
    intro linked
    obtain ⟨content, found, above⟩ := isPrototype_iff.mp linked
    rw [allocation.get?_eq] at found
    split at found
    · rename_i same
      cases found
      exact ⟨inherits parent above, fun different => absurd same different⟩
    · have before : heap.IsPrototype parent child :=
        isPrototype_iff.mpr ⟨content, found, above⟩
      exact ⟨ordered.linked parent child before, fun _ => before⟩
  -- Chains from handles that were issued avoid the new one.
  have issuedAcc (child : Handle) :
      heap.hasIssued child = true →
        Acc (heap.alloc object).2.IsPrototype child := by
    induction child using ordered.wellFounded.induction with
    | _ child inductionHypothesis =>
        intro issued
        refine .intro child fun parent linked => ?_
        obtain ⟨issuedParent, before⟩ := link parent child linked
        refine inductionHypothesis parent (before ?_) issuedParent
        rintro rfl
        rw [issued] at fresh
        cases fresh
  refine ⟨?_, ⟨fun child => .intro child fun parent linked => ?_⟩⟩
  · intro parent child linked
    exact sound.hasIssued_perform (.alloc object) small few
      (link parent child linked).1
  · exact issuedAcc parent (link parent child linked).1

/-- An object is put below a chain that it is not on. -/
theorem relink
    (ordered : heap.Ordered)
    {target : Handle}
    {change : ScriptObject → ScriptObject}
    {prototype : Option Handle}
    (relinks : ∀ object,
      heap.get? target = some object →
        (change object).prototype = prototype)
    (avoids : heap.Avoids target prototype) :
    (heap.modify target change).Ordered := by
  have link (parent child : Handle) :
      (heap.modify target change).IsPrototype parent child →
        child ≠ target ∧ heap.IsPrototype parent child ∨
          child = target ∧ prototype = some parent := by
    intro linked
    obtain ⟨content, found, above⟩ := isPrototype_iff.mp linked
    rw [get?_modify] at found
    split at found
    · rename_i same
      subst same
      obtain ⟨object, before, rfl⟩ := Option.map_eq_some_iff.mp found
      exact .inr ⟨rfl, (relinks object before).symm.trans above⟩
    · rename_i different
      exact .inl ⟨different, isPrototype_iff.mpr ⟨content, found, above⟩⟩
  -- The chain above the target is the same as before.
  have above (start : Option Handle) (avoided : heap.Avoids target start) :
      ∀ parent, start = some parent →
        heap.hasIssued parent = true ∧
          Acc (heap.modify target change).IsPrototype parent := by
    induction avoided with
    | top => exact nofun
    | @step handle object different found rest inductionHypothesis =>
        rintro parent ⟨⟩
        refine ⟨hasIssued_of_contains (contains_of_get? found),
          .intro handle fun next linked => ?_⟩
        rcases link next handle linked with ⟨-, before⟩ | ⟨same, -⟩
        · obtain ⟨content, has, isNext⟩ := isPrototype_iff.mp before
          rw [found] at has
          cases has
          exact (inductionHypothesis next isNext).2
        · exact absurd same different
  refine ⟨?_, ⟨fun child => ?_⟩⟩
  · intro parent child linked
    rw [hasIssued_modify]
    rcases link parent child linked with ⟨-, before⟩ | ⟨-, isPrototype⟩
    · exact ordered.linked parent child before
    · exact (above prototype avoids parent isPrototype).1
  · induction child using ordered.wellFounded.induction with
    | _ child inductionHypothesis =>
        refine .intro child fun parent linked => ?_
        rcases link parent child linked with ⟨-, before⟩ | ⟨-, isPrototype⟩
        · exact inductionHypothesis parent before
        · exact (above prototype avoids parent isPrototype).2

/-- Work that keeps the prototype of an object keeps all chains. -/
theorem modify
    (ordered : heap.Ordered)
    {handle : Handle}
    {change : ScriptObject → ScriptObject}
    (keeps : ∀ object,
      heap.get? handle = some object →
        (change object).prototype = object.prototype) :
    (heap.modify handle change).Ordered := by
  refine ordered.of_fewer ?_ ?_
  · intro parent child linked
    obtain ⟨content, found, above⟩ := isPrototype_iff.mp linked
    rw [get?_modify] at found
    split at found
    · rename_i same
      subst same
      obtain ⟨object, before, rfl⟩ := Option.map_eq_some_iff.mp found
      exact isPrototype_iff.mpr
        ⟨object, before, (keeps object before).symm.trans above⟩
    · exact isPrototype_iff.mpr ⟨content, found, above⟩
  · intro other issued
    rw [hasIssued_modify]
    exact issued

end Ordered

end Heap

namespace Machine

/-- Prototype chains come to their ends, also those that new objects get. -/
structure ChainsEnd (machine : Machine) : Prop where
  ordered : machine.heap.Ordered
  classes : ∀ className parent,
    machine.prototype? className = some parent →
      machine.heap.hasIssued parent = true

namespace ChainsEnd

variable {machine : Machine}

theorem aside
    ⦃before after : Machine⦄
    (sameHeap : after.heap = before.heap)
    (samePrototypes : after.prototypes = before.prototypes)
    (chainsEnd : before.ChainsEnd) :
    after.ChainsEnd := by
  refine ⟨by rw [sameHeap]; exact chainsEnd.ordered, ?_⟩
  intro className parent found
  rw [prototype?, samePrototypes] at found
  rw [sameHeap]
  exact chainsEnd.classes className parent found

/-- With the chains in order it remains that handles stay issued. -/
theorem perform
    (chainsEnd : machine.ChainsEnd)
    (sound : machine.heap.Sound)
    (operation : Heap.Operation ScriptObject)
    (small : (operation.perform machine.heap).total < 2 ^ 32)
    (few : (operation.perform machine.heap).cycles < 2 ^ 32)
    (ordered : (operation.perform machine.heap).Ordered) :
    { machine with heap := operation.perform machine.heap }.ChainsEnd where
  ordered := ordered
  classes className parent found :=
    sound.hasIssued_perform operation small few
      (chainsEnd.classes className parent found)

theorem alloc
    (chainsEnd : machine.ChainsEnd)
    (sound : machine.heap.Sound)
    {object : ScriptObject}
    (small : (machine.heap.alloc object).2.total < 2 ^ 32)
    (few : (machine.heap.alloc object).2.cycles < 2 ^ 32)
    (inherits : ∀ parent,
      object.prototype = some parent →
        machine.heap.hasIssued parent = true) :
    { machine with heap := (machine.heap.alloc object).2 }.ChainsEnd :=
  chainsEnd.perform sound (.alloc object) small few
    (chainsEnd.ordered.alloc sound small few inherits)

theorem modify
    (chainsEnd : machine.ChainsEnd)
    {handle : Handle}
    {change : ScriptObject → ScriptObject}
    (ordered : (machine.heap.modify handle change).Ordered) :
    { machine with heap := machine.heap.modify handle change }.ChainsEnd where
  ordered := ordered
  classes className parent found := by
    change (machine.heap.modify handle change).hasIssued parent = true
    rw [Heap.hasIssued_modify]
    exact chainsEnd.classes className parent found

/-- No lawful operation makes a chain that goes on for ever. -/
theorem objectInvariant : ObjectInvariant ChainsEnd where
  aside _ _ sameHeap same := aside sameHeap same.prototypes
  timed _ _ _ := aside rfl rfl
  step := by
    intro machine operation lawful sound small few chainsEnd
    have kept
        (same : ∀ handle stored,
          operation.store handle machine.heap stored = stored) :
        { machine with
          heap := operation.perform machine.heap }.ChainsEnd := by
      refine chainsEnd.perform sound operation small few
        (chainsEnd.ordered.of_fewer ?_ ?_)
      · intro parent child linked
        obtain ⟨object, found, above⟩ := Heap.isPrototype_iff.mp linked
        refine Heap.isPrototype_iff.mpr ⟨object, ?_, above⟩
        rw [← found,
          sound.toWellFormed.get?_perform operation small
            (Heap.contains_of_get? found), same]
      · exact fun _ => sound.hasIssued_perform operation small few
    cases operation with
    | alloc object =>
        refine chainsEnd.alloc sound small few fun parent inherits => ?_
        obtain ⟨className, found⟩ := lawful parent inherits
        exact chainsEnd.classes className parent found
    | modify handle change =>
        refine chainsEnd.modify ?_
        cases found : machine.heap.get? handle with
        | none =>
            refine chainsEnd.ordered.modify fun object has => ?_
            rw [found] at has
            cases has
        | some object =>
            rcases lawful object found with
              edited | ⟨prototype, relinked, avoids⟩
            · refine chainsEnd.ordered.modify fun current has => ?_
              rw [found] at has
              cases has
              exact edited.prototype
            · refine chainsEnd.ordered.relink (fun current has => ?_) avoids
              rw [found] at has
              cases has
              rw [relinked]
    | pin handle => exact kept fun _ _ => rfl
    | unpin handle => exact kept fun _ _ => rfl
    | clearPins => exact kept fun _ _ => rfl
    | setThreshold threshold => exact kept fun _ _ => rfl
    | collect references roots => exact kept fun _ _ => rfl

end ChainsEnd

end Machine

end MovieScript
