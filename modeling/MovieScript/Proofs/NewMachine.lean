import MovieScript.Classes.Bootstrap
import MovieScript.Proofs.Holdings
import MovieScript.Proofs.PrototypeChains

namespace MovieScript

/-!
# The classes of a new machine

While the classes are built, each prototype is made before anything inherits
from it, and nothing that was made is taken away.  The two well-known objects are
there already; they are put below the root of all prototypes at the end, and stay
off its chain because it has none.
-/

namespace Machine

/-- Prototype chains come to their ends, and what the machine holds is there. -/
structure Established (machine : Machine) : Prop
    extends ChainsEnd machine, Usable machine

namespace Established

variable {machine : Machine}

theorem aside
    ⦃before after : Machine⦄
    (sameHeap : after.heap = before.heap)
    (same : before.SameHoldings after)
    (established : before.Established) :
    after.Established :=
  ⟨established.toChainsEnd.aside sameHeap same.prototypes,
    established.toUsable.aside sameHeap same⟩

theorem alloc
    (established : machine.Established)
    (sound : machine.heap.Sound)
    {object : ScriptObject}
    (small : (machine.heap.alloc object).2.total < 2 ^ 32)
    (few : (machine.heap.alloc object).2.cycles < 2 ^ 32)
    (inherits : ∀ parent,
      object.prototype = some parent →
        machine.heap.hasIssued parent = true) :
    { machine with heap := (machine.heap.alloc object).2 }.Established where
  toChainsEnd := established.toChainsEnd.alloc sound small few inherits
  toUsable := established.toUsable.perform sound
    (show (Heap.Operation.alloc object).Gentle machine from trivial) small

/-- Work that keeps the contents of objects, and the chains in order. -/
theorem modify
    (established : machine.Established)
    (sound : machine.heap.Sound)
    {handle : Handle}
    {change : ScriptObject → ScriptObject}
    (small : (machine.heap.modify handle change).total < 2 ^ 32)
    (sameContent : ∀ object, (change object).content = object.content)
    (ordered : (machine.heap.modify handle change).Ordered) :
    { machine with
      heap := machine.heap.modify handle change }.Established where
  toChainsEnd := established.toChainsEnd.modify ordered
  toUsable := by
    have gentle :
        (Heap.Operation.modify handle change).Gentle machine := by
      intro object _
      rw [sameContent]
      exact .refl object.content
    exact established.toUsable.perform sound gentle small

/-- A prototype that is there becomes that of a class. -/
theorem addPrototype
    (established : machine.Established)
    {prototype : Handle}
    (live : machine.heap.contains prototype = true)
    (className : String) :
    { machine with
      prototypes :=
        machine.prototypes.insert className prototype }.Established := by
  have known (other : String) (parent : Handle)
      (found :
        (machine.prototypes.insert className prototype).get? other =
          some parent) :
      machine.heap.contains parent = true := by
    rw [Table.get?_insert] at found
    split at found
    · cases found
      exact live
    · exact established.prototypes other parent found
  have usable := established.toUsable
  refine ⟨⟨established.ordered, ?_⟩, ⟨usable.global, usable.external, known,
    usable.constructors, usable.callbacks⟩⟩
  exact fun other parent found =>
    Heap.hasIssued_of_contains (known other parent found)

/-- A constructor that is there becomes that of a class. -/
theorem addConstructor
    (established : machine.Established)
    {constructor : Handle}
    (live : machine.heap.contains constructor = true)
    (className : String) :
    { machine with
      constructors :=
        machine.constructors.insert className constructor }.Established := by
  have usable := established.toUsable
  refine ⟨⟨established.ordered, established.classes⟩, ⟨usable.global,
    usable.external, usable.prototypes, ?_, usable.callbacks⟩⟩
  intro other maker found
  change (machine.constructors.insert className constructor).get? other = _
    at found
  rw [Table.get?_insert] at found
  split at found
  · cases found
    exact live
  · exact usable.constructors other maker found

end Established

/--
What is so while the classes are built: the root of all prototypes inherits from
nothing and is neither of the two well-known objects, and some handles resolve.
-/
structure Building
    (base : Handle)
    (known : List Handle)
    (machine : Machine) :
    Prop extends Established machine where
  live : ∀ handle ∈ known, machine.heap.contains handle = true
  rootless : ∃ object,
    machine.heap.get? base = some object ∧ object.prototype = none
  notGlobal : machine.global ≠ base
  notExternal : machine.external ≠ base

namespace Building

variable {base : Handle} {known : List Handle} {machine : Machine}

theorem base_live (building : machine.Building base known) :
    machine.heap.contains base = true := by
  obtain ⟨object, found, -⟩ := building.rootless
  exact Heap.contains_of_get? found

theorem base_issued (building : machine.Building base known) :
    machine.heap.hasIssued base = true :=
  Heap.hasIssued_of_contains building.base_live

theorem still_live
    (building : machine.Building base known)
    (operation : Heap.Operation ScriptObject)
    (spares : operation.spares = true) :
    ∀ handle ∈ known,
      (operation.perform machine.heap).contains handle = true :=
  fun handle member =>
    Heap.contains_perform_of_spares (building.live handle member) spares

theorem fewer
    {others : List Handle}
    (building : machine.Building base known)
    (subset : ∀ handle ∈ others, handle ∈ known) :
    machine.Building base others :=
  { building with
    live := fun handle member =>
      building.live handle (subset handle member) }

theorem alloc
    (building : machine.Building base known)
    (sound : machine.heap.Sound)
    {object : ScriptObject}
    (small : (machine.heap.alloc object).2.total < 2 ^ 32)
    (few : (machine.heap.alloc object).2.cycles < 2 ^ 32)
    (inherits : ∀ parent,
      object.prototype = some parent →
        machine.heap.hasIssued parent = true) :
    { machine with heap := (machine.heap.alloc object).2 }.Building base
      ((machine.heap.alloc object).1 :: known) := by
  have allocation := sound.toWellFormed.alloc object small
  refine ⟨building.toEstablished.alloc sound small few inherits, ?_, ?_,
    building.notGlobal, building.notExternal⟩
  · intro handle member
    rcases List.mem_cons.mp member with rfl | old
    · exact Heap.contains_of_get?
        ((allocation.get?_eq _).trans (if_pos rfl))
    · exact building.still_live (.alloc object) rfl handle old
  · obtain ⟨root, found, rootless⟩ := building.rootless
    refine ⟨root, (allocation.get?_eq base).trans ?_, rootless⟩
    rw [if_neg]
    · exact found
    · intro same
      have fresh := allocation.not_hasIssued
      rw [same, building.base_issued] at fresh
      cases fresh

/-- Work on objects that keeps their prototypes and contents. -/
theorem modify
    (building : machine.Building base known)
    (sound : machine.heap.Sound)
    {handle : Handle}
    {change : ScriptObject → ScriptObject}
    (small : (machine.heap.modify handle change).total < 2 ^ 32)
    (samePrototype : ∀ object, (change object).prototype = object.prototype)
    (sameContent : ∀ object, (change object).content = object.content) :
    { machine with heap := machine.heap.modify handle change }.Building
      base known := by
  have ordered : (machine.heap.modify handle change).Ordered :=
    building.ordered.modify fun object _ => samePrototype object
  refine ⟨building.toEstablished.modify sound small sameContent ordered,
    building.still_live (.modify handle change) rfl, ?_,
    building.notGlobal, building.notExternal⟩
  obtain ⟨root, found, rootless⟩ := building.rootless
  change ∃ object,
    (machine.heap.modify handle change).get? base = some object ∧ _
  rw [Heap.get?_modify, found]
  split
  · exact ⟨change root, rfl, (samePrototype root).trans rootless⟩
  · exact ⟨root, rfl, rootless⟩

/-- An object is put below the root of all prototypes. -/
theorem inherit
    (building : machine.Building base known)
    (sound : machine.heap.Sound)
    {handle : Handle}
    (small :
      (machine.heap.modify handle fun object =>
        { object with prototype := some base }).total < 2 ^ 32)
    (different : handle ≠ base) :
    { machine with
      heap :=
        machine.heap.modify handle fun object =>
          { object with prototype := some base } }.Building base known := by
  obtain ⟨root, found, rootless⟩ := building.rootless
  have avoids : machine.heap.Avoids handle (some base) := by
    refine .step (Ne.symm different) found ?_
    rw [rootless]
    exact .top
  refine ⟨building.toEstablished.modify sound small (fun _ => rfl)
      (building.ordered.relink (fun _ _ => rfl) avoids),
    building.still_live (.modify handle _) rfl, ?_, building.notGlobal,
    building.notExternal⟩
  refine ⟨root, (Heap.get?_modify _ _ _ _).trans ?_, rootless⟩
  rw [if_neg (Ne.symm different)]
  exact found

theorem addPrototype
    (building : machine.Building base known)
    {prototype : Handle}
    (live : machine.heap.contains prototype = true)
    (className : String) :
    { machine with
      prototypes :=
        machine.prototypes.insert className prototype }.Building base known :=
  ⟨building.toEstablished.addPrototype live className, building.live,
    building.rootless, building.notGlobal, building.notExternal⟩

theorem addConstructor
    (building : machine.Building base known)
    {constructor : Handle}
    (live : machine.heap.contains constructor = true)
    (className : String) :
    { machine with
      constructors :=
        machine.constructors.insert className constructor }.Building base
          known :=
  ⟨building.toEstablished.addConstructor live className, building.live,
    building.rootless, building.notGlobal, building.notExternal⟩

end Building

end Machine

/-- The relation allows what puts the members of a class on an object. -/
structure InstallStable (R : Machine → Machine → Prop) : Prop where
  refl : ∀ machine, R machine machine
  trans : ∀ ⦃first second third⦄,
    R first second → R second third → R first third
  createBuiltin : ∀ name function,
    Respects R (Edit.createBuiltin name function)
  defineProperty : ∀ target name property,
    Respects R (Edit.defineProperty target name property)

namespace InstallStable

variable {R : Machine → Machine → Prop}

theorem install
    (stable : InstallStable R)
    (target : Handle)
    (name : String)
    (property : Property) :
    Respects R (Edit.install target name property) := by
  refine .bind stable.trans (stable.defineProperty _ _ _) fun defined => ?_
  split
  · exact .pure stable.refl _
  · exact .throw stable.refl _

theorem installMember
    (stable : InstallStable R)
    (target : Handle)
    (member : ClassMember) :
    Respects R (Edit.installMember target member) := by
  have accessor (name : String) (function : Option Builtin) :
      Respects R (Edit.createAccessor name function) := by
    cases function with
    | none => exact .pure stable.refl _
    | some function =>
        exact .bind stable.trans (stable.createBuiltin name function)
          fun _ => .pure stable.refl _
  cases member with
  | method name function =>
      exact .bind stable.trans (stable.createBuiltin name function)
        fun _ => stable.install target name _
  | accessor name getter setter =>
      exact .bind stable.trans (accessor name getter) fun _ =>
        .bind stable.trans (accessor name setter) fun _ =>
          stable.install target name _
  | constant name value => exact stable.install target name _

theorem installMembers
    (stable : InstallStable R)
    (target : Handle)
    (members : List ClassMember) :
    Respects R (members.forM (Edit.installMember target)) := by
  induction members with
  | nil => exact .pure stable.refl _
  | cons member rest inductionHypothesis =>
      exact .bind stable.trans (stable.installMember target member)
        fun _ => inductionHypothesis

end InstallStable

namespace Edit

open Machine (Carries Building)

variable {base : Handle} {known : List Handle}

/-- What building goes on with after an edit is what it was before. -/
abbrev Builds (base : Handle) (known : List Handle) :
    Machine → Machine → Prop :=
  Carries (Building base known) (Building base known)

theorem createBuiltin_adds (name : String) (function : Builtin) :
    Secures (Building base known) (createBuiltin name function)
      (fun handle => Building base (handle :: known)) (Building base known) := by
  refine .get_bind fun seen => ?_
  refine .alloc ?_
  rintro machine sound small few ⟨building, rfl⟩
  refine building.alloc sound small few ?_
  exact fun parent inherits => building.classes "Function" parent inherits

/-- Members are put on objects, which keep their prototypes and contents. -/
theorem Builds.stable : InstallStable (Builds base known) where
  refl := .refl
  trans := Carries.trans
  createBuiltin name function := by
    refine ((createBuiltin_adds name function).mono (fun _ => id) ?_
      fun _ => id).respects
    exact fun handle machine building =>
      building.fewer fun _ => List.mem_cons_of_mem _
  defineProperty target name property := by
    have given {answer : Bool} :
        Respects (Builds base known) (do
          modifyObject target (·.withProperty name property)
          return answer) := by
      refine .bind Carries.trans (Secures.respects ?_) fun _ => .pure .refl _
      exact .modifyObject
        (fun machine object _ sound small _ building =>
          building.modify sound small (fun _ => rfl) fun _ => rfl)
        fun _ => id
    refine respects_ask_bind .refl fun machine object _ => ?_
    split
    · split
      · exact given machine
      · exact .refl machine
    · exact given machine

/-- The prototype of a class is there or inherits from one that is. -/
theorem classPrototype_builds (table : ClassTable) :
    Secures (Building base []) (classPrototype table base)
      (fun prototype => Building base [prototype]) Machine.Established := by
  refine .get_bind fun seen => ?_
  cases registered : seen.prototype? table.name with
  | some existing =>
      refine .pure ?_
      rintro machine ⟨building, rfl⟩
      refine { building with live := fun handle member => ?_ }
      rw [List.mem_singleton.mp member]
      exact building.prototypes table.name existing registered
  | none =>
      refine .alloc ?_
      rintro machine sound small few ⟨building, rfl⟩
      refine building.alloc sound small few ?_
      rintro parent ⟨⟩
      cases inherited : table.base.bind machine.prototype? with
      | none => exact building.base_issued
      | some prototype =>
          obtain ⟨className, -, found⟩ :=
            Option.bind_eq_some_iff.mp inherited
          exact building.classes className prototype found

theorem Builds.secures
    {α : Type}
    {work : Edit α}
    (respected : Respects (Builds base known) work) :
    Secures (Building base known) work (fun _ => Building base known)
      Machine.Established :=
  (Secures.of_respects respected).mono (fun _ => id) (fun _ _ => id)
    fun _ building => building.toEstablished

/-- A whole class leaves building where it was, with one more prototype. -/
theorem installClass_builds (table : ClassTable) :
    Secures (Building base []) (installClass base table)
      (fun _ => Building base []) Machine.Established := by
  have registered (prototype constructor : Handle) :
      Secures (Building base [constructor, prototype])
        (modify fun machine =>
          { machine with
            prototypes := machine.prototypes.insert table.name prototype
            constructors :=
              machine.constructors.insert table.name constructor })
        (fun _ => Building base []) Machine.Established := by
    intro machine
    refine .aside rfl fun building => ?_
    have isMade := building.live constructor List.mem_cons_self
    have isThere := building.live prototype (List.mem_of_mem_tail
      (List.mem_singleton_self prototype))
    exact ((building.addPrototype isThere table.name).addConstructor isMade
      table.name).fewer nofun
  have published (constructor : Handle) :
      Secures (Building base [])
        (do
          let global := (← get).global
          install global table.name (.hidden (.object constructor)))
        (fun _ => Building base []) Machine.Established :=
    .get_bind fun seen =>
      (Builds.secures (Builds.stable.install _ _ _)).mono (fun _ held => held.1)
        (fun _ _ => id) fun _ => id
  have made (prototype : Handle) :
      Secures (Building base [prototype])
        (createBuiltin table.name table.constructor)
        (fun constructor => Building base [constructor, prototype])
        Machine.Established :=
    (createBuiltin_adds _ _).mono (fun _ => id) (fun _ _ => id)
      fun _ building => building.toEstablished
  refine (classPrototype_builds table).bind fun prototype => ?_
  refine (made prototype).bind fun constructor => ?_
  refine (Builds.secures (Builds.stable.install _ _ _)).bind fun _ => ?_
  refine (Builds.secures (Builds.stable.install _ _ _)).bind fun _ => ?_
  refine (Builds.secures (Builds.stable.installMembers _ _)).bind fun _ => ?_
  refine (Builds.secures (Builds.stable.installMembers _ _)).bind fun _ => ?_
  exact (registered prototype constructor).bind fun _ =>
    published constructor

theorem installClasses_builds (tables : List ClassTable) :
    Secures (Building base []) (tables.forM (installClass base))
      (fun _ => Building base []) Machine.Established := by
  induction tables with
  | nil => exact .pure fun _ => id
  | cons table rest inductionHypothesis =>
      exact (installClass_builds table).bind fun _ => inductionHypothesis

/-- The root of all prototypes is a new object. -/
theorem rootAlloc_builds :
    Secures Machine.Established (alloc .blank) (fun root => Building root [])
      Machine.Established := by
  refine .alloc ?_
  intro machine sound small few established
  have allocation := sound.toWellFormed.alloc .blank small
  have different {handle : Handle}
      (live : machine.heap.contains handle = true) :
      handle ≠ (machine.heap.alloc .blank).1 := by
    rintro rfl
    have issued := Heap.hasIssued_of_contains live
    rw [allocation.not_hasIssued] at issued
    cases issued
  exact ⟨established.alloc sound small few nofun, nofun,
    ⟨.blank, (allocation.get?_eq _).trans (if_pos rfl), rfl⟩,
    different established.global, different established.external⟩

/-- Both well-known objects are put below the root of all prototypes. -/
theorem wellKnown_builds :
    Secures (Building base [])
      (do
        let machine ← get
        modifyObject machine.global fun object =>
          { object with prototype := some base }
        modifyObject machine.external fun object =>
          { object with prototype := some base }
        ClassTable.globals.forM (installMember machine.global))
      (fun _ => Building base []) Machine.Established := by
  refine .get_bind fun seen => ?_
  have first :
      Secures
        (fun machine => Building base [] machine ∧ machine = seen)
        (modifyObject seen.global fun object =>
          { object with prototype := some base })
        (fun _ machine => Building base [] machine ∧ seen.external ≠ base)
        Machine.Established := by
    refine .modifyObject ?_ fun _ held => held.1.toEstablished
    rintro machine object - sound small - ⟨building, rfl⟩
    exact ⟨building.inherit sound small building.notGlobal,
      building.notExternal⟩
  have second :
      Secures
        (fun machine => Building base [] machine ∧ seen.external ≠ base)
        (modifyObject seen.external fun object =>
          { object with prototype := some base })
        (fun _ => Building base []) Machine.Established := by
    refine .modifyObject ?_ fun _ held => held.1.toEstablished
    rintro machine object - sound small - ⟨building, different⟩
    exact building.inherit sound small different
  exact first.bind fun _ => second.bind fun _ =>
    Builds.secures (Builds.stable.installMembers _ _)

/-- All is in order when the classes are built, or one could not be. -/
theorem bootstrap_establishes :
    Secures Machine.Established bootstrap (fun _ => Machine.Established)
      Machine.Established := by
  refine rootAlloc_builds.bind fun root => ?_
  have functionMade :
      Secures (Building root []) (alloc (.new (some root) .ordinary))
        (fun function => Building root [function]) Machine.Established := by
    refine .alloc fun machine sound small few building => ?_
    refine building.alloc sound small few ?_
    rintro parent ⟨⟩
    exact building.base_issued
  have registered (function : Handle) :
      Secures (Building root [function])
        (modify fun machine =>
          { machine with
            prototypes :=
              (machine.prototypes.insert "Object" root).insert
                "Function" function })
        (fun _ => Building root []) Machine.Established := by
    intro machine
    refine .aside rfl fun building => ?_
    have isMade := building.live function (List.mem_singleton_self _)
    exact ((building.addPrototype building.base_live "Object").addPrototype
      isMade "Function").fewer nofun
  refine functionMade.bind fun function => ?_
  refine (registered function).bind fun _ => ?_
  refine (installClasses_builds _).bind fun _ => ?_
  exact wellKnown_builds.mono (fun _ => id)
    (fun _ _ building => building.toEstablished) fun _ => id

end Edit

namespace Machine

/-- What a machine without classes has done to its heap. -/
def preparation (configuration : Configuration) :
    List (Heap.Operation ScriptObject) :=
  [.setThreshold configuration.collectionThreshold, .alloc .blank,
    .alloc .blank]

variable (configuration : Configuration) (clock : Nat)

theorem heap_bare :
    (bare configuration clock).heap =
      Heap.run (preparation configuration) := by
  unfold bare Heap.run preparation
  simp only [List.foldl_cons, List.foldl_nil, Heap.Operation.perform]

theorem preparation_small :
    (Heap.run (preparation configuration)).total ≤ 3 ∧
      (Heap.run (preparation configuration)).cycles = 0 := by
  refine ⟨Heap.total_run_le _, ?_⟩
  unfold Heap.run preparation
  simp only [List.foldl_cons, List.foldl_nil, Heap.Operation.perform,
    Heap.cycles_alloc]
  rfl

theorem sound_bare : (bare configuration clock).heap.Sound := by
  obtain ⟨small, few⟩ := preparation_small configuration
  rw [heap_bare]
  exact Heap.sound_run _ (by omega) (by omega)

/-- Both well-known objects inherit from nothing yet. -/
theorem blank_of_bare
    {handle : Handle}
    {object : ScriptObject}
    (found : (bare configuration clock).heap.get? handle = some object) :
    object = .blank := by
  have small := (preparation_small configuration).1
  rw [heap_bare] at found
  have stored :=
    Heap.get?_run _ (by omega) (Heap.contains_of_get? found)
  rw [found, Heap.lastStored, preparation] at stored
  simp only [Heap.track, Heap.Operation.store] at stored
  split at stored
  · exact Option.some.inj stored
  · split at stored
    · exact Option.some.inj stored
    · cases stored

theorem tables_bare :
    (bare configuration clock).prototypes = .empty ∧
      (bare configuration clock).constructors = .empty ∧
        (bare configuration clock).intervals = .empty := by
  unfold bare
  simp only
  exact ⟨trivial, trivial, trivial⟩

theorem chainsEnd_bare : (bare configuration clock).ChainsEnd := by
  have noLink (parent child : Handle) :
      ¬(bare configuration clock).heap.IsPrototype parent child := by
    intro linked
    obtain ⟨object, found, above⟩ := Heap.isPrototype_iff.mp linked
    rw [blank_of_bare configuration clock found] at above
    cases above
  refine ⟨⟨fun parent child linked => absurd linked (noLink parent child),
    ⟨fun child => .intro child fun parent linked => ?_⟩⟩, ?_⟩
  · exact absurd linked (noLink parent child)
  · intro className parent found
    rw [prototype?, (tables_bare configuration clock).1] at found
    cases found

/-- An object that has just moved into a small arena is there. -/
private theorem live_of_alloc
    (operations : List (Heap.Operation ScriptObject))
    (short : operations.length < 2 ^ 32 - 1)
    (object : ScriptObject) :
    ((Heap.run operations).alloc object).2.contains
      ((Heap.run operations).alloc object).1 = true := by
  have one := ((Heap.packed_run operations).perform (.alloc object)).2.2
  have all := Heap.total_run_le operations
  have wellFormed := Heap.wellFormed_run operations (by omega)
  have allocation := wellFormed.alloc object (by
    change ((Heap.run operations).alloc object).2.total ≤ _ at one
    omega)
  exact Heap.contains_of_get? ((allocation.get?_eq _).trans (if_pos rfl))

theorem live_bare :
    (bare configuration clock).heap.contains
        (bare configuration clock).global = true ∧
      (bare configuration clock).heap.contains
        (bare configuration clock).external = true := by
  have global :=
    live_of_alloc [.setThreshold configuration.collectionThreshold]
      (Nat.lt_of_le_of_lt (Nat.le_refl 1) (by decide)) .blank
  have external :=
    live_of_alloc
      [.setThreshold configuration.collectionThreshold, .alloc .blank]
      (Nat.lt_of_le_of_lt (Nat.le_refl 2) (by decide)) .blank
  have stays :=
    Heap.contains_perform_of_spares global
      (show (Heap.Operation.alloc ScriptObject.blank).spares = true from rfl)
  unfold bare
  simp only [Heap.run, List.foldl_cons, List.foldl_nil,
    Heap.Operation.perform] at stays external ⊢
  exact ⟨stays, external⟩

/-- Both well-known objects are there, and nothing else is held. -/
theorem established_bare : (bare configuration clock).Established := by
  obtain ⟨global, external⟩ := live_bare configuration clock
  obtain ⟨prototypes, constructors, intervals⟩ :=
    tables_bare configuration clock
  refine ⟨chainsEnd_bare configuration clock,
    ⟨global, external, ?_, ?_, ?_⟩⟩
  · intro className prototype found
    rw [prototype?, prototypes] at found
    cases found
  · intro className constructor found
    rw [constructor?, constructors] at found
    cases found
  · intro name interval found
    rw [intervals] at found
    cases found

/-- A new machine is in order, even if a class was not built. -/
theorem carries_create :
    Carries (fun _ => True) Established (bare configuration clock)
      (create configuration clock) := by
  have established := established_bare configuration clock
  unfold create
  -- What the bare machine is like beyond this does not matter.
  generalize bare configuration clock = start at established ⊢
  have built := Edit.bootstrap_establishes start
  split
  · rename_i ran
    rw [EStateM.run, ran] at built
    exact built.mono (fun _ => established) id
  · rename_i ran
    rw [EStateM.run, ran] at built
    refine Carries.trans (built.mono (fun _ => established) id) ?_
    exact .aside rfl (Established.aside rfl ⟨rfl, rfl, rfl, rfl, rfl⟩)

/-- A new machine that was given its loader. -/
def fresh
    (configuration : Configuration)
    (clock : Nat)
    (loader : Option DocumentLoader) :
    Machine :=
  { create configuration clock with loader := loader }

theorem carries_fresh (loader : Option DocumentLoader) :
    Carries (fun _ => True) Established (bare configuration clock)
      (fresh configuration clock loader) := by
  have created := carries_create configuration clock
  unfold fresh
  generalize create configuration clock = start at created ⊢
  exact created.trans
    (.aside rfl (Established.aside rfl ⟨rfl, rfl, rfl, rfl, rfl⟩))

end Machine

end MovieScript
