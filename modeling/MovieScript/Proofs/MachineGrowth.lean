import MovieScript.Proofs.NewMachine

namespace MovieScript

/-!
# How large a new machine is

Every operation on the heap adds at most one slot and at most one collection.
Building the classes takes a fixed number of operations, so a new machine is
small whatever its configuration is.
-/

namespace Machine

/-- What so many operations on the heap can add at most. -/
structure Grows (steps : Nat) (before after : Machine) : Prop where
  worked : Heap.Worked (fun _ => True) before.heap after.heap
  packed :
    before.heap.Packed →
      after.heap.Packed ∧ after.heap.total ≤ before.heap.total + steps
  cycles : after.heap.cycles ≤ before.heap.cycles + steps

namespace Grows

variable {steps more : Nat} {before after : Machine}

theorem aside (sameHeap : after.heap = before.heap) :
    Grows steps before after where
  worked := by
    rw [sameHeap]
    exact .refl before.heap
  packed packed := by
    rw [sameHeap]
    exact ⟨packed, Nat.le_add_right _ _⟩
  cycles := by
    rw [sameHeap]
    exact Nat.le_add_right _ _

theorem of_operation
    (operation : Heap.Operation ScriptObject)
    (performed : after.heap = operation.perform before.heap) :
    Grows 1 before after where
  worked := by
    rw [performed]
    exact .single operation trivial before.heap
  packed packed := by
    rw [performed]
    obtain ⟨stillPacked, -, grown⟩ := packed.perform operation
    exact ⟨stillPacked, grown⟩
  cycles := by
    rw [performed]
    cases operation with
    | alloc object =>
        refine Nat.le_trans (Nat.le_of_eq ?_) (Nat.le_succ _)
        exact before.heap.cycles_alloc object
    | unpin handle =>
        refine Nat.le_trans (Nat.le_of_eq ?_) (Nat.le_succ _)
        exact (before.heap.unpin_keeps handle).2.2
    | collect references roots => exact Nat.le_refl _
    | _ => exact Nat.le_succ _

theorem trans
    {between : Machine}
    (earlier : Grows steps before between)
    (later : Grows more between after) :
    Grows (steps + more) before after where
  worked := earlier.worked.trans later.worked
  packed packed := by
    obtain ⟨packedBetween, grown⟩ := earlier.packed packed
    obtain ⟨packedAfter, grownLater⟩ := later.packed packedBetween
    exact ⟨packedAfter, by omega⟩
  cycles := by
    have grown := earlier.cycles
    have grownLater := later.cycles
    omega

theorem mono
    (grows : Grows steps before after)
    (enough : steps ≤ more) :
    Grows more before after where
  worked := grows.worked
  packed packed := by
    obtain ⟨packedAfter, grown⟩ := grows.packed packed
    exact ⟨packedAfter, by omega⟩
  cycles := Nat.le_trans grows.cycles (Nat.add_le_add_left enough _)

end Grows

end Machine

namespace Edit

open Machine (Grows)

variable {α β : Type} {steps more : Nat}

/-- The work takes at most so many operations on the heap. -/
abbrev Takes (steps : Nat) (work : Edit α) : Prop :=
  Respects (Grows steps) work

theorem Takes.pure (answer : α) :
    Takes 0 (Pure.pure answer : Edit α) :=
  fun _ => .aside rfl

theorem Takes.bind
    {work : Edit α}
    {next : α → Edit β}
    (first : Takes steps work)
    (second : ∀ answer, Takes more (next answer)) :
    Takes (steps + more) (work >>= next) := by
  intro machine
  have across := first machine
  rw [EStateM.run_bind]
  cases ran : work.run machine with
  | ok answer between =>
      rw [ran] at across
      exact across.trans (second answer between)
  | error fault after =>
      rw [ran] at across
      exact across.mono (Nat.le_add_right steps more)

theorem Takes.mono
    {work : Edit α}
    (takes : Takes steps work)
    (enough : steps ≤ more) :
    Takes more work :=
  fun machine => (takes machine).mono enough

theorem alloc_takes (object : ScriptObject) : Takes 1 (alloc object) :=
  fun _ => .of_operation (.alloc object) rfl

theorem modifyObject_takes
    (handle : Handle)
    (change : ScriptObject → ScriptObject) :
    Takes 1 (modifyObject handle change) := by
  intro machine
  cases found : machine.heap.get? handle with
  | some object =>
      rw [modifyObject_run found]
      exact .of_operation (.modify handle change) rfl
  | none =>
      rw [modifyObject_dangling found]
      exact .aside rfl

theorem createBuiltin_takes (name : String) (function : Builtin) :
    Takes 1 (createBuiltin name function) :=
  .get_bind fun machine => alloc_takes _ machine

theorem install_takes
    (target : Handle)
    (name : String)
    (property : Property) :
    Takes 1 (install target name property) := by
  have given (answer : Bool) :
      Takes 1 (do
        modifyObject target (·.withProperty name property)
        return answer) :=
    (modifyObject_takes target _).bind fun _ => .pure answer
  have defined : Takes 1 (defineProperty target name property) := by
    refine respects_ask_bind (fun _ => .aside rfl) fun machine object _ => ?_
    split
    · split
      · exact given _ machine
      · exact .aside rfl
    · exact given _ machine
  have settled (done : Bool) :
      Takes 0 (if done then pure () else throw (.builtinRefused name)) := by
    split
    · exact .pure ()
    · exact fun _ => .aside rfl
  exact defined.bind settled

theorem installMember_takes (target : Handle) (member : ClassMember) :
    Takes 3 (installMember target member) := by
  have accessor (name : String) (function : Option Builtin) :
      Takes 1 (createAccessor name function) := by
    cases function with
    | none => exact fun _ => .aside rfl
    | some function =>
        exact (createBuiltin_takes name function).bind fun handle =>
          .pure (some handle)
  cases member with
  | method name function =>
      refine Takes.mono ?_ (show 1 + 1 ≤ 3 by decide)
      exact (createBuiltin_takes name function).bind fun handle =>
        install_takes target name _
  | accessor name getter setter =>
      exact (accessor name getter).bind fun _ =>
        (accessor name setter).bind fun _ => install_takes target name _
  | constant name value =>
      exact (install_takes target name _).mono (by decide)

theorem installMembers_takes
    (target : Handle)
    (members : List ClassMember) :
    Takes (3 * members.length) (members.forM (installMember target)) := by
  induction members with
  | nil => exact .pure ()
  | cons member rest inductionHypothesis =>
      refine Takes.mono ?_
        (show 3 + 3 * rest.length ≤ 3 * (rest.length + 1) by omega)
      exact (installMember_takes target member).bind fun _ =>
        inductionHypothesis

theorem classPrototype_takes (table : ClassTable) (base : Handle) :
    Takes 1 (classPrototype table base) := by
  refine .get_bind fun machine => ?_
  cases machine.prototype? table.name with
  | some existing => exact .aside rfl
  | none => exact alloc_takes _ machine

/-- The operations that a class takes. -/
def classSteps (table : ClassTable) : Nat :=
  5 + 3 * table.members.length + 3 * table.statics.length

theorem installClass_takes (base : Handle) (table : ClassTable) :
    Takes (classSteps table) (installClass base table) := by
  have registered (prototype constructor : Handle) :
      Takes 0
        (modify fun machine =>
          { machine with
            prototypes := machine.prototypes.insert table.name prototype
            constructors :=
              machine.constructors.insert table.name constructor }) :=
    fun _ => .aside rfl
  have published (constructor : Handle) :
      Takes 1 (do
        let global := (← get).global
        install global table.name (.hidden (.object constructor))) :=
    .get_bind fun machine => install_takes _ _ _ machine
  refine Takes.mono
    ((classPrototype_takes table base).bind fun prototype =>
      (createBuiltin_takes _ _).bind fun constructor =>
        (install_takes _ _ _).bind fun _ =>
          (install_takes _ _ _).bind fun _ =>
            (installMembers_takes prototype _).bind fun _ =>
              (installMembers_takes constructor _).bind fun _ =>
                (registered prototype constructor).bind fun _ =>
                  published constructor) ?_
  rw [classSteps]
  omega

theorem installClasses_takes (base : Handle) (tables : List ClassTable) :
    Takes (tables.map classSteps).sum
      (tables.forM (installClass base)) := by
  induction tables with
  | nil => exact .pure ()
  | cons table rest inductionHypothesis =>
      rw [List.map_cons, List.sum_cons]
      exact (installClass_takes base table).bind fun _ => inductionHypothesis

theorem bootstrap_takes : Takes 200 bootstrap := by
  have registered (root function : Handle) :
      Takes 0
        (modify fun machine =>
          { machine with
            prototypes :=
              (machine.prototypes.insert "Object" root).insert
                "Function" function }) :=
    fun _ => .aside rfl
  have wellKnown (root : Handle) :
      Takes (1 + (1 + 3 * ClassTable.globals.length)) (do
        let machine ← get
        modifyObject machine.global fun object =>
          { object with prototype := some root }
        modifyObject machine.external fun object =>
          { object with prototype := some root }
        ClassTable.globals.forM (installMember machine.global)) := by
    refine .get_bind fun machine => ?_
    exact ((modifyObject_takes _ _).bind fun _ =>
      (modifyObject_takes _ _).bind fun _ =>
        installMembers_takes _ _) machine
  refine Takes.mono
    ((alloc_takes _).bind fun root =>
      (alloc_takes _).bind fun function =>
        (registered root function).bind fun _ =>
          (installClasses_takes root _).bind fun _ => wellKnown root) ?_
  decide

end Edit

namespace Machine

theorem grows_fresh
    (configuration : Configuration)
    (clock : Nat)
    (loader : Option DocumentLoader) :
    Grows 200 (bare configuration clock)
      (fresh configuration clock loader) := by
  have built := Edit.bootstrap_takes (bare configuration clock)
  unfold fresh create
  generalize bare configuration clock = start at built ⊢
  rw [EStateM.run] at built
  split
  · rename_i ran
    rw [ran] at built
    exact ⟨built.worked, built.packed, built.cycles⟩
  · rename_i ran
    rw [ran] at built
    exact ⟨built.worked, built.packed, built.cycles⟩

/-- A new machine is small, however it is configured. -/
theorem fresh_small
    (configuration : Configuration)
    (clock : Nat)
    (loader : Option DocumentLoader) :
    (fresh configuration clock loader).heap.total < 2 ^ 8 ∧
      (fresh configuration clock loader).heap.cycles < 2 ^ 8 := by
  have grows := grows_fresh configuration clock loader
  obtain ⟨small, few⟩ := preparation_small configuration
  rw [← heap_bare configuration clock] at small few
  obtain ⟨-, grown⟩ :=
    grows.packed (sound_bare configuration clock).packed
  have grownCycles := grows.cycles
  omega

/-- A new machine is in order, with nothing left to assume of its size. -/
theorem fresh_established
    (configuration : Configuration)
    (clock : Nat)
    (loader : Option DocumentLoader) :
    (fresh configuration clock loader).heap.Sound ∧
      (fresh configuration clock loader).Established := by
  obtain ⟨small, few⟩ := fresh_small configuration clock loader
  exact (carries_fresh configuration clock loader).holds (by omega)
    (by omega) (sound_bare configuration clock) trivial

end Machine

end MovieScript
