import MovieScript.Proofs.HostMoments
import MovieScript.Proofs.ObjectInvariants

namespace MovieScript

/-!
# What a machine holds

A machine holds the two well-known objects, the prototypes and constructors of
its classes and the callbacks of its intervals.  Collections start from them, and
no edit gives a function another content.  So they stay usable whatever the host
asks for: those that resolve go on to do so, and a callback that could be called
when it was registered can still be called.
-/

namespace Machine

/-- What the machine holds is there, and the callbacks can be called. -/
structure Usable (machine : Machine) : Prop where
  global : machine.heap.contains machine.global = true
  external : machine.heap.contains machine.external = true
  prototypes : ∀ className prototype,
    machine.prototype? className = some prototype →
      machine.heap.contains prototype = true
  constructors : ∀ className constructor,
    machine.constructor? className = some constructor →
      machine.heap.contains constructor = true
  callbacks : ∀ name interval,
    machine.intervals.get? name = some interval →
      ∃ callable,
        machine.toFunction (.object interval.callback) =
          .ok (interval.callback, callable)

variable {machine : Machine} {handle : Handle}

/-! Collections start from all that is held. -/

theorem global_mem_roots (machine : Machine) :
    machine.global ∈ machine.roots := by
  simp [roots]

theorem external_mem_roots (machine : Machine) :
    machine.external ∈ machine.roots := by
  simp [roots]

theorem prototype_mem_roots
    {className : String}
    (found : machine.prototype? className = some handle) :
    handle ∈ machine.roots := by
  have held := Table.mem_values_iff.mpr ⟨className, found⟩
  simp [roots, held]

theorem constructor_mem_roots
    {className : String}
    (found : machine.constructor? className = some handle) :
    handle ∈ machine.roots := by
  have held := Table.mem_values_iff.mpr ⟨className, found⟩
  simp [roots, held]

theorem callback_mem_roots
    {name : String}
    {interval : Interval}
    (found : machine.intervals.get? name = some interval) :
    interval.callback ∈ machine.roots := by
  have held :
      interval.callback ∈
        machine.intervals.values.flatMap Interval.references :=
    List.mem_flatMap.mpr
      ⟨interval, Table.mem_values_iff.mpr ⟨name, found⟩,
        List.mem_cons_self⟩
  simp only [roots, List.mem_append, held, or_true, true_or]

end Machine

namespace Heap.Operation

/--
The operation keeps the classes of the objects, and a collection starts from all
that the machine holds.
-/
def Gentle (machine : Machine) : Heap.Operation ScriptObject → Prop
  | .modify handle change =>
      ∀ object,
        machine.heap.get? handle = some object →
          object.content.Becomes (change object).content
  | .collect _ roots => ∀ handle ∈ machine.roots, handle ∈ roots
  | _ => True

variable {machine : Machine} {operation : Heap.Operation ScriptObject}
variable {handle : Handle}

theorem Lawful.gentle (lawful : operation.Lawful machine) :
    operation.Gentle machine := by
  cases operation with
  | modify handle change =>
      intro object found
      rcases lawful object found with edited | ⟨prototype, relinked, -⟩
      · exact edited.content
      · rw [relinked]
        exact .refl object.content
  | collect references roots => exact lawful
  | _ => trivial

theorem Gentle.contains
    (gentle : operation.Gentle machine)
    (root : handle ∈ machine.roots)
    (live : machine.heap.contains handle = true) :
    (operation.perform machine.heap).contains handle = true := by
  cases operation with
  | collect references roots =>
      refine (Heap.contains_collect_iff _ _ _ _).mpr (.root (.inl ?_) live)
      exact gentle handle root
  | _ => exact Heap.contains_perform_of_spares live rfl

theorem Gentle.becomes
    (gentle : operation.Gentle machine)
    {object : ScriptObject}
    (found : machine.heap.get? handle = some object) :
    object.content.Becomes (operation.revise handle object).content := by
  cases operation with
  | modify other change =>
      change object.content.Becomes
        (if other = handle then change object else object).content
      split
      · rename_i same
        subst same
        exact gentle object found
      · exact .refl object.content
  | _ => exact .refl object.content

end Heap.Operation

namespace Machine

/--
Something about the objects and what the machine holds of them that every gentle
operation keeps while indices and generations are words.
-/
structure GentleInvariant (holds : Machine → Prop) : Prop where
  aside : ∀ ⦃before after : Machine⦄,
    after.heap = before.heap →
      before.SameHoldings after →
        holds before → holds after
  timed : ∀ (machine : Machine) intervals,
    machine.Registers intervals →
      holds machine → holds { machine with intervals := intervals }
  step : ∀ (machine : Machine) (operation : Heap.Operation ScriptObject),
    operation.Gentle machine →
      machine.heap.Sound →
        (operation.perform machine.heap).total < 2 ^ 32 →
          (operation.perform machine.heap).cycles < 2 ^ 32 →
            holds machine →
              holds
                { machine with heap := operation.perform machine.heap }

namespace GentleInvariant

variable {holds : Machine → Prop}

theorem objectInvariant (invariant : GentleInvariant holds) :
    ObjectInvariant holds where
  aside := invariant.aside
  timed := invariant.timed
  step machine operation lawful :=
    invariant.step machine operation lawful.gentle

/-- Every step keeps what gentle operations keep, whatever the host chooses. -/
theorem stepStable (invariant : GentleInvariant holds) :
    StepStable invariant.objectInvariant.across where
  toFrameStable := invariant.objectInvariant.frameStable
  moves := invariant.objectInvariant.runStable.moves
  enterHost machine := by
    rcases enterHost_run machine with opened | ⟨fault, log, shut⟩
    · rw [opened]
      exact invariant.objectInvariant.unchanged rfl ⟨rfl, rfl, rfl, rfl, rfl⟩
    · rw [shut]
      exact invariant.objectInvariant.unchanged rfl ⟨rfl, rfl, rfl, rfl, rfl⟩
  leaveHost base outcome machine := by
    cases outcome with
    | ok value =>
        exact invariant.objectInvariant.unchanged rfl
          ⟨rfl, rfl, rfl, rfl, rfl⟩
    | error fault =>
        exact invariant.objectInvariant.unchanged rfl
          ⟨rfl, rfl, rfl, rfl, rfl⟩
  unload := invariant.objectInvariant.unload
  opens wanted := by
    have alloc (object : ScriptObject) :
        Respects invariant.objectInvariant.across (Edit.alloc object) :=
      fun machine => .of_operation (.alloc object) rfl
        (invariant.step machine (.alloc object) trivial)
    cases wanted with
    | alloc object => exact alloc object
    | createObjectWith prototype => exact alloc _
    | registerMethod target name function =>
        intro method
        refine Edit.Secures.respects (.modifyObject ?_ fun _ => id)
        intro machine object _
        exact invariant.step machine (.modify target _) fun object _ =>
          .refl object.content
    | construct constructor arguments => exact fun object _ => alloc object
    | constructClass className arguments =>
        exact fun object _ => alloc object
    | createScope outer =>
        exact invariant.objectInvariant.frameStable.createScope outer
    | _ => trivial

end GentleInvariant

namespace Usable

variable {machine : Machine}

theorem aside
    ⦃before after : Machine⦄
    (sameHeap : after.heap = before.heap)
    (same : before.SameHoldings after)
    (usable : before.Usable) :
    after.Usable := by
  refine ⟨?_, ?_, ?_, ?_, ?_⟩
  · rw [sameHeap, same.global]
    exact usable.global
  · rw [sameHeap, same.external]
    exact usable.external
  · intro className prototype found
    rw [prototype?, same.prototypes] at found
    rw [sameHeap]
    exact usable.prototypes className prototype found
  · intro className constructor found
    rw [constructor?, same.constructors] at found
    rw [sameHeap]
    exact usable.constructors className constructor found
  · intro name interval found
    rw [same.intervals] at found
    obtain ⟨callable, function⟩ := usable.callbacks name interval found
    rw [toFunction_eq_ok_iff] at function
    refine ⟨callable, toFunction_eq_ok_iff.mpr ?_⟩
    rw [sameHeap]
    exact function

/-- Only functions are registered, and those that were stay functions. -/
theorem timed
    (usable : machine.Usable)
    {intervals : Table String Interval}
    (registers : machine.Registers intervals) :
    { machine with intervals := intervals }.Usable := by
  refine ⟨usable.global, usable.external, usable.prototypes,
    usable.constructors, fun name interval found => ?_⟩
  have function :
      ∃ callable,
        machine.toFunction (.object interval.callback) =
          .ok (interval.callback, callable) := by
    rcases registers name interval found with
      function | ⟨other, registered, has, same⟩
    · exact function
    · rw [← same]
      exact usable.callbacks other registered has
  obtain ⟨callable, function⟩ := function
  exact ⟨callable,
    toFunction_eq_ok_iff.mpr (toFunction_eq_ok_iff.mp function)⟩

/-- A gentle operation takes nothing away that is held. -/
theorem perform
    (usable : machine.Usable)
    (sound : machine.heap.Sound)
    {operation : Heap.Operation ScriptObject}
    (gentle : operation.Gentle machine)
    (small : (operation.perform machine.heap).total < 2 ^ 32) :
    { machine with heap := operation.perform machine.heap }.Usable where
  global := gentle.contains machine.global_mem_roots usable.global
  external := gentle.contains machine.external_mem_roots usable.external
  prototypes className prototype found :=
    gentle.contains (prototype_mem_roots found)
      (usable.prototypes className prototype found)
  constructors className constructor found :=
    gentle.contains (constructor_mem_roots found)
      (usable.constructors className constructor found)
  callbacks := by
    intro name interval found
    obtain ⟨callable, function⟩ := usable.callbacks name interval found
    obtain ⟨-, object, has, isFunction⟩ := toFunction_eq_ok_iff.mp function
    have live := Heap.contains_of_get? has
    obtain ⟨after, hasAfter⟩ :=
      Option.isSome_iff_exists.mp
        (gentle.contains (callback_mem_roots found) live)
    obtain ⟨before, hasBefore, revised⟩ :=
      sound.toWellFormed.get?_of_perform operation small
        (Heap.hasIssued_of_contains live) hasAfter
    rw [has] at hasBefore
    cases hasBefore
    have becomes := gentle.becomes has
    rw [isFunction, ← revised] at becomes
    exact ⟨callable, toFunction_eq_ok_iff.mpr ⟨rfl, after, hasAfter, becomes⟩⟩

theorem gentleInvariant : GentleInvariant Usable where
  aside := aside
  timed _ _ registers usable := usable.timed registers
  step _ _ gentle sound small _ usable := usable.perform sound gentle small

end Usable

end Machine

end MovieScript
