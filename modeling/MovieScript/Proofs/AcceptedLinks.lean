import MovieScript.Classes.Bootstrap
import MovieScript.Proofs.MemberHolders

namespace MovieScript

/-!
# Accepted prototype links

A prototype link is accepted if the chain above it has at most one object more
than look-up follows links.  From the new prototype look-up reaches all of that
chain, but from the object below it stops one object earlier.  So an accepted
link is honoured for every name, except for those that only the last object of
a chain of the greatest length has.
-/

/-- A chain that avoids an object is the same when that object has changed. -/
theorem Heap.Avoids.modify
    {heap : Heap ScriptObject}
    {target : Handle}
    {chain : Option Handle}
    (avoids : heap.Avoids target chain)
    (change : ScriptObject → ScriptObject) :
    (heap.modify target change).Avoids target chain := by
  induction avoids with
  | top => exact .top
  | @step handle object different live _ inductionHypothesis =>
      refine .step different ?_ inductionHypothesis
      rw [Heap.get?_modify, if_neg different]
      exact live

/-- An accepted link is made, below a chain that was found in order. -/
theorem Edit.setPrototype_accepted
    {machine after : Machine}
    {target : Handle}
    {prototype : Option Handle}
    (accepted :
      (Edit.setPrototype target prototype).run machine = .ok () after) :
    ∃ object : ScriptObject,
      after.heap.get? target = some { object with prototype := prototype } ∧
        after.heap.Avoids target prototype := by
  rw [Edit.setPrototype, EStateM.run_bind] at accepted
  cases checked : machine.checkChain target
      (machine.configuration.maxPrototypeDepth + 1) prototype with
  | error fault =>
      rw [Edit.ask_refused checked] at accepted
      cases accepted
  | ok _ =>
      rw [Edit.ask_run checked] at accepted
      dsimp only at accepted
      cases live : machine.heap.get? target with
      | none =>
          rw [Edit.modifyObject_dangling live] at accepted
          cases accepted
      | some object =>
          rw [Edit.modifyObject_run live] at accepted
          cases accepted
          refine ⟨object, ?_, ?_⟩
          · simp [Heap.get?_modify, live]
          · exact (Machine.avoids_of_checkChain checked).modify
              ({ · with prototype := prototype })

namespace Machine

variable {machine after : Machine} {target parent : Handle}

/-- An object without the member resolves as its prototype, one link short. -/
theorem resolve_inherited
    {object : ScriptObject}
    {name : String}
    (live : machine.heap.get? target = some object)
    (isParent : object.prototype = some parent)
    (lacks : object.member? name = none) :
    machine.resolve target name =
      machine.resolveWithin name machine.configuration.maxPrototypeDepth
        (some parent) := by
  rw [resolve, resolveWithin, object_of_get? live]
  simp [bind, Except.bind, ScriptObject.resolveOwn?_eq, lacks, isParent]

/--
An accepted prototype link is honoured, but for one case: after it was made, a
name that the object itself lacks resolves on the object as it does on its new
prototype, unless the holder of that name is as far from the prototype as
look-up goes, in which case the name is missing on the object.
-/
theorem acceptedLink_honoured
    (accepted :
      (Edit.setPrototype target (some parent)).run machine =
        .ok () after) :
    ∃ object,
      after.heap.get? target = some object ∧
        ∀ name, object.member? name = none →
          ((∀ holder : after.Holder parent name,
              holder.distance ≠ after.configuration.maxPrototypeDepth) →
            after.resolve target name = after.resolve parent name ∧
              after.hasMember target name =
                after.hasMember parent name) ∧
          ∀ holder : after.Holder parent name,
            holder.distance = after.configuration.maxPrototypeDepth →
              after.resolve target name = .ok .missing := by
  obtain ⟨object, live, avoids⟩ := Edit.setPrototype_accepted accepted
  refine ⟨_, live, fun name lacks => ⟨fun shortOfLimit => ?_, ?_⟩⟩
  · have same : after.resolve target name = after.resolve parent name := by
      rw [resolve_inherited live rfl lacks]
      rcases after.heap.holder_or_gap_or_clear
          after.configuration.maxPrototypeDepth parent name with
        ⟨⟨holder⟩⟩ | ⟨⟨gap⟩⟩ | clear
      · have near : holder.distance < after.configuration.maxPrototypeDepth :=
          Nat.lt_of_le_of_ne holder.near (shortOfLimit holder)
        rw [resolveWithin_holder holder near, resolve_holder holder]
      · have unbroken := avoids.unbroken
          after.configuration.maxPrototypeDepth parent rfl
        exact (unbroken.isEmpty_gap name).elim gap
      · rw [resolveWithin_missing (clear.mono (Nat.le_succ _)), resolve,
          resolveWithin_missing clear]
    exact ⟨same, by rw [hasMember, hasMember, same]⟩
  · intro holder atLimit
    rw [resolve_inherited live rfl lacks]
    exact resolveWithin_missing (atLimit ▸ holder.first)

/--
A chain of two objects, each with a name of its own, and an object below which
it can be put.  Look-up follows one link.
-/
def towered : Machine :=
  { Machine.bare { Configuration.standard with maxPrototypeDepth := 1 } 0 with
    heap :=
      Heap.run
        [.alloc .blank, .alloc .blank,
          .alloc (ScriptObject.blank.withProperty "far" (.plain .null)),
          .alloc
            ((ScriptObject.new (some ⟨2, 0⟩) .ordinary).withProperty
              "near" (.plain .null)),
          .alloc .blank] }

/-- The link is accepted, and the nearer name is found through it. -/
theorem acceptedLink_honoured_towered :
    ∃ after,
      (Edit.setPrototype ⟨4, 0⟩ (some ⟨3, 0⟩)).run towered =
          .ok () after ∧
        after.hasMember ⟨4, 0⟩ "near" = after.hasMember ⟨3, 0⟩ "near" ∧
          after.hasMember ⟨3, 0⟩ "near" = .ok true := by
  have accepted :
      (Edit.setPrototype ⟨4, 0⟩ (some ⟨3, 0⟩)).run towered =
        .ok () _ :=
    rfl
  obtain ⟨object, live, honoured⟩ := acceptedLink_honoured accepted
  refine ⟨_, accepted, ((honoured "near" ?_).1 ?_).2, rfl⟩
  · cases live
    rfl
  · intro holder
    rw [Heap.Holder.unique.elim holder (.here _ rfl rfl)]
    exact Nat.zero_ne_one

/-- The farther name is there on the prototype, but not on the object. -/
theorem acceptedLink_ignored_towered :
    ∃ after object,
      (Edit.setPrototype ⟨4, 0⟩ (some ⟨3, 0⟩)).run towered =
          .ok () after ∧
        after.heap.get? ⟨4, 0⟩ = some object ∧
          object.member? "far" = none ∧
            after.hasMember ⟨3, 0⟩ "far" = .ok true ∧
              after.hasMember ⟨4, 0⟩ "far" = .ok false :=
  ⟨_, _, rfl, rfl, rfl, rfl, rfl⟩

end Machine

end MovieScript
