import MovieScript.Proofs.ElementWrites
import MovieScript.Machine.Visibility

namespace MovieScript

/-!
# Names after a write

A write to one object changes where names lead.  The written name leads to the
value, or where it led before, from wherever one starts, and every other name
leads where it led.  So the first of some objects that has the name still does,
or another one does through it.
-/

namespace Heap

variable {α : Type}

/-! The handle that is handed out next depends on the slots, not on objects. -/

theorem shape_ensureRoom (heap : Heap α) :
    heap.ensureRoom.shape =
      heap.shape.back?.elim (heap.shape.push 0) fun size =>
        if size < chunkCapacity then heap.shape
        else heap.shape.push 0 := by
  have sizes : heap.shape.back? = heap.chunks.back?.map Array.size := by
    simp [shape, Array.back?_map]
  rw [sizes, ensureRoom]
  cases heap.chunks.back? with
  | none => simp [shape, openChunk]
  | some chunk =>
      simp only [Option.map_some, Option.elim_some]
      split
      · rfl
      · simp [shape, openChunk]

theorem append_fst_of_shape
    {first second : Heap α}
    (sameShape : first.shape = second.shape)
    (content : α) :
    (first.append content).1 = (second.append content).1 := by
  have handle (heap : Heap α) :
      (heap.append content).1 =
        ⟨((heap.ensureRoom.shape.size - 1) * chunkCapacity +
          heap.ensureRoom.shape[heap.ensureRoom.shape.size - 1]?.getD
            0).toUInt32, 0⟩ := by
    simp [append, shape]
  rw [handle, handle, shape_ensureRoom, shape_ensureRoom, sameShape]

/-- A new object goes into the slot freed last, or behind all others. -/
theorem alloc_fst
    (heap : Heap α)
    (content : α) :
    (heap.alloc content).1 =
      (heap.free.head?.bind fun index =>
        (heap.slot? index.toNat).map fun slot =>
          (⟨index, slot.generation⟩ : Handle)).getD
        (heap.append content).1 := by
  cases free : heap.free with
  | nil =>
      have counted :
          { heap with
            allocations := heap.allocations + 1
            free := [] }.shape =
            heap.shape :=
        rfl
      simp [alloc, free, append_fst_of_shape counted]
  | cons index rest =>
      have atIndex :
          { heap with
            allocations := heap.allocations + 1
            free := rest }.slotAt? ⟨index, 0⟩ =
              heap.slot? index.toNat :=
        rfl
      cases found : heap.slot? index.toNat with
      | none =>
          rw [found] at atIndex
          have reduced :
              { heap with
                allocations := heap.allocations + 1
                free := rest }.shape =
                heap.shape :=
            rfl
          simp [alloc, free, atIndex, found, append_fst_of_shape reduced]
      | some slot =>
          rw [found] at atIndex
          simp [alloc, free, atIndex, found]

/-- An object that has changed is not in the way of new ones. -/
theorem alloc_fst_modify
    (heap : Heap α)
    (handle : Handle)
    (change : α → α)
    (content : α) :
    ((heap.modify handle change).alloc content).1 =
      (heap.alloc content).1 := by
  have sameShape : (heap.modify handle change).shape = heap.shape :=
    shape_updateSlot _ _ _
  have sameFree : (heap.modify handle change).free = heap.free := rfl
  have sameGeneration (index : Nat) :
      ((heap.modify handle change).slot? index).map Slot.generation =
        (heap.slot? index).map Slot.generation := by
    rw [modify, slot?_updateSlot]
    split
    · cases heap.slot? index with
      | none => rfl
      | some slot =>
          simp only [Option.map_some]
          split <;> rfl
    · rfl
  have named (heap : Heap α) (index : UInt32) :
      ((heap.slot? index.toNat).map fun slot =>
          (⟨index, slot.generation⟩ : Handle)) =
        ((heap.slot? index.toNat).map Slot.generation).map (⟨index, ·⟩) := by
    cases heap.slot? index.toNat <;> rfl
  simp only [alloc_fst, named, sameGeneration, sameFree,
    append_fst_of_shape sameShape]

end Heap

namespace ScriptObject

variable {object : ScriptObject}

/-- An object that is no array has no elements to pad. -/
theorem pads_of_no_elements
    (noArray : object.elements? = none)
    (name other : String) :
    object.pads name other = false := by
  simp [pads, elementTarget?_of_no_elements noArray]

theorem overgrown_of_no_elements
    (noArray : object.elements? = none)
    (name : String) :
    object.overgrown name = false := by
  simp [overgrown, element?_of_no_elements noArray]

end ScriptObject

namespace Machine

variable {machine before after : Machine} {target : Handle}
variable {object : ScriptObject} {change : ScriptObject → ScriptObject}
variable {name other : String} {value : Value}

/-! Where a name leads after a write to one object. -/

/-- A look-up asks the object it stands at, and goes on from its prototype. -/
theorem resolveWithin_of_live
    {handle : Handle}
    (live : machine.heap.get? handle = some object)
    (name : String)
    (budget : Nat) :
    machine.resolveWithin name (budget + 1) (some handle) =
      (object.member? name).elim
        (machine.resolveWithin name budget object.prototype)
        fun member => .ok member.resolution := by
  rw [resolveWithin, object_of_get? live]
  simp only [bind, Except.bind, ScriptObject.resolveOwn?_eq]
  cases object.member? name <;> rfl

theorem resolveWithin_of_gone
    {handle : Handle}
    (gone : machine.heap.get? handle = none)
    (name : String)
    (budget : Nat) :
    machine.resolveWithin name (budget + 1) (some handle) =
      .error (.danglingReference handle) := by
  rw [resolveWithin, Machine.object, gone]
  rfl

/-- Look-ups depend on members and prototypes, and on nothing else. -/
theorem resolve_congr
    (sameConfiguration : after.configuration = before.configuration)
    (sameObjects : ∀ handle,
      (after.heap.get? handle).map
          (fun object => (object.member? name, object.prototype)) =
        (before.heap.get? handle).map
          fun object => (object.member? name, object.prototype))
    (start : Handle) :
    after.resolve start name = before.resolve start name := by
  suffices within : ∀ budget start,
      after.resolveWithin name budget start =
        before.resolveWithin name budget start by
    rw [resolve, resolve, sameConfiguration]
    exact within _ _
  intro budget
  induction budget with
  | zero =>
      intro start
      cases start <;> rfl
  | succ budget inductionHypothesis =>
      intro start
      cases start with
      | none => rfl
      | some handle =>
          have same := sameObjects handle
          cases found : before.heap.get? handle with
          | none =>
              rw [found, Option.map_none, Option.map_eq_none_iff] at same
              rw [resolveWithin_of_gone found, resolveWithin_of_gone same]
          | some passed =>
              rw [found, Option.map_some, Option.map_eq_some_iff] at same
              obtain ⟨object, live, alike⟩ := same
              obtain ⟨sameMember, samePrototype⟩ := Prod.ext_iff.mp alike
              dsimp only at sameMember samePrototype
              rw [resolveWithin_of_live found, resolveWithin_of_live live,
                sameMember, samePrototype, inductionHypothesis]

/-- The ancestor of a receiver depends on prototypes only. -/
theorem ancestorOf_congr
    (same : ∀ handle,
      (after.object handle).map ScriptObject.prototype =
        (before.object handle).map ScriptObject.prototype)
    (receiver : Value) :
    after.ancestorOf receiver = before.ancestorOf receiver := by
  have byPrototypes (machine : Machine) (handle : Handle) :
      machine.ancestorOf (.object handle) =
        (machine.object handle).map ScriptObject.prototype >>= fun above =>
          above.elim (.ok .undefined) fun prototype =>
            ((machine.object prototype).map
              ScriptObject.prototype).map Value.ofHandle? := by
    rw [ancestorOf]
    cases machine.object handle with
    | error fault => rfl
    | ok object =>
        obtain ⟨_, prototype, _, _⟩ := object
        cases prototype with
        | none => rfl
        | some prototype =>
            change
              (machine.object prototype >>= fun above =>
                .ok (Value.ofHandle? above.prototype)) =
                ((machine.object prototype).map
                  ScriptObject.prototype).map Value.ofHandle?
            cases machine.object prototype <;> rfl
  cases receiver with
  | object handle => simp only [byPrototypes, same]
  | _ => rfl

/-- The machine after a change to one object. -/
abbrev altered
    (machine : Machine)
    (target : Handle)
    (change : ScriptObject → ScriptObject) :
    Machine :=
  { machine with heap := machine.heap.modify target change }

/-- Another name leads where it led, from wherever one starts. -/
theorem resolve_altered_other
    (live : machine.heap.get? target = some object)
    (written : object.Written name value (change object))
    (different : other ≠ name)
    (unpadded : object.pads name other = false)
    (start : Handle) :
    (machine.altered target change).resolve start other =
      machine.resolve start other := by
  have changes := changesOnly_modify live change
  refine resolve_congr (by rfl) (fun handle => ?_) start
  by_cases here : handle = target
  · subst here
    rw [changes.here, live, Option.map_some, Option.map_some,
      written.member?_other different unpadded, written.prototype]
  · rw [changes.others handle here]

/-- The written name leads to the value, or it leads where it led. -/
theorem resolve_altered_self
    (live : machine.heap.get? target = some object)
    (written : object.Written name value (change object))
    (shown : object.overgrown name = false)
    (start : Handle) :
    (machine.altered target change).resolve start name =
        .ok (.value value) ∨
      (machine.altered target change).resolve start name =
        machine.resolve start name := by
  have changes := changesOnly_modify live change
  obtain ⟨member, has, leads⟩ := written.member?_self shown
  suffices within : ∀ budget start,
      (machine.altered target change).resolveWithin name budget start =
          .ok (.value value) ∨
        (machine.altered target change).resolveWithin name budget start =
          machine.resolveWithin name budget start from
    within _ _
  intro budget
  induction budget with
  | zero =>
      intro start
      cases start <;> exact .inr rfl
  | succ budget inductionHypothesis =>
      intro start
      cases start with
      | none => exact .inr rfl
      | some handle =>
          by_cases here : handle = target
          · subst here
            rw [resolveWithin_of_live changes.here, has]
            exact .inl (congrArg Except.ok leads)
          · have same := changes.others handle here
            cases found : machine.heap.get? handle with
            | none =>
                rw [resolveWithin_of_gone found,
                  resolveWithin_of_gone (same.trans found)]
                exact .inr rfl
            | some passed =>
                rw [resolveWithin_of_live found,
                  resolveWithin_of_live (same.trans found)]
                cases passed.member? name with
                | some member => exact .inr rfl
                | none => exact inductionHypothesis passed.prototype

/-- From the written object on, the name leads to the value. -/
theorem resolve_altered_target
    (live : machine.heap.get? target = some object)
    (written : object.Written name value (change object))
    (shown : object.overgrown name = false) :
    (machine.altered target change).resolve target name =
      .ok (.value value) := by
  obtain ⟨member, has, leads⟩ := written.member?_self shown
  rw [resolve, resolveWithin_of_live (changesOnly_modify live change).here,
    has]
  exact congrArg Except.ok leads

/-! The first object that has a name. -/

theorem hasMember_of_value
    {handle : Handle}
    (leads : machine.resolve handle name = .ok (.value value)) :
    machine.hasMember handle name = .ok true := by
  simp [hasMember, leads, bind, Except.bind, pure, Except.pure]

theorem hasMember_congr
    {handle : Handle}
    (same : after.resolve handle name = before.resolve handle name) :
    after.hasMember handle name = before.hasMember handle name := by
  rw [hasMember, hasMember, same]

theorem firstHolder?_congr
    (same : ∀ handle,
      after.resolve handle name = before.resolve handle name)
    (handles : List Handle) :
    after.firstHolder? name handles = before.firstHolder? name handles := by
  induction handles with
  | nil => rfl
  | cons handle rest inductionHypothesis =>
      rw [firstHolder?, firstHolder?, hasMember_congr (same handle),
        inductionHypothesis]

/-- The first of some objects is asked first. -/
theorem firstHolder?_head
    {handle : Handle}
    (leads : machine.resolve handle name = .ok (.value value))
    (rest : List Handle) :
    machine.firstHolder? name (handle :: rest) = .ok (some handle) := by
  rw [firstHolder?, hasMember_of_value leads]
  rfl

/--
If the object that has a name gets a value under it, then so does whichever
object has the name afterwards: another one can only come to have it through
the one that was written.
-/
theorem firstHolder?_written
    (either : ∀ handle,
      after.resolve handle name = .ok (.value value) ∨
        after.resolve handle name = before.resolve handle name)
    (leads : after.resolve target name = .ok (.value value))
    {handles : List Handle}
    (found : before.firstHolder? name handles = .ok (some target)) :
    ∃ holder,
      after.firstHolder? name handles = .ok (some holder) ∧
        after.resolve holder name = .ok (.value value) := by
  induction handles with
  | nil => cases found
  | cons handle rest inductionHypothesis =>
      rcases either handle with gets | same
      · exact ⟨handle, firstHolder?_head gets rest, gets⟩
      · rw [firstHolder?] at found ⊢
        rw [hasMember_congr same]
        cases has : before.hasMember handle name with
        | error fault =>
            rw [has] at found
            cases found
        | ok isThere =>
            rw [has] at found
            cases isThere with
            | true =>
                cases found
                exact ⟨target, rfl, leads⟩
            | false => exact inductionHypothesis found

end Machine

end MovieScript
