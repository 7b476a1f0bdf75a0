import MovieScript.Proofs.HostRuns
import MovieScript.Proofs.IssuedHandles
import MovieScript.Proofs.ObjectEdits
import MovieScript.Proofs.QuietEdits

namespace MovieScript

/-!
# What holds of the objects in every run

Something about the objects that each lawful operation keeps, while indices and
generations are words, is kept by every edit, every act and every call, and so
by every host whose own choices keep it.
-/

namespace Machine

/--
While indices and generations are words, what is required of a machine before
gives what is promised after, and the heap stays sound.
-/
structure Carries
    (required promised : Machine → Prop)
    (before after : Machine) :
    Prop where
  packed :
    before.heap.Packed →
      after.heap.Packed ∧ before.heap.total ≤ after.heap.total
  cycles : before.heap.cycles ≤ after.heap.cycles
  holds :
    after.heap.total < 2 ^ 32 →
      after.heap.cycles < 2 ^ 32 →
        before.heap.Sound →
          required before → after.heap.Sound ∧ promised after

namespace Carries

variable {required between promised : Machine → Prop}

theorem aside
    {before after : Machine}
    (sameHeap : after.heap = before.heap)
    (implies : required before → promised after) :
    Carries required promised before after where
  packed := fun packed => by
    rw [sameHeap]
    exact ⟨packed, Nat.le_refl _⟩
  cycles := Nat.le_of_eq (congrArg Heap.cycles sameHeap).symm
  holds := fun _ _ sound held => by
    rw [sameHeap]
    exact ⟨sound, implies held⟩

theorem refl (machine : Machine) : Carries required required machine machine :=
  aside rfl id

theorem trans
    ⦃first second third : Machine⦄
    (earlier : Carries required between first second)
    (later : Carries between promised second third) :
    Carries required promised first third where
  packed := fun packed => by
    obtain ⟨packedBetween, grown⟩ := earlier.packed packed
    obtain ⟨packedAfter, grownLater⟩ := later.packed packedBetween
    exact ⟨packedAfter, Nat.le_trans grown grownLater⟩
  cycles := Nat.le_trans earlier.cycles later.cycles
  holds := fun small few sound held => by
    have packedBetween := (earlier.packed sound.packed).1
    have smallBetween :=
      Nat.lt_of_le_of_lt (later.packed packedBetween).2 small
    have fewBetween := Nat.lt_of_le_of_lt later.cycles few
    obtain ⟨soundBetween, heldBetween⟩ :=
      earlier.holds smallBetween fewBetween sound held
    exact later.holds small few soundBetween heldBetween

theorem mono
    {stronger weaker : Machine → Prop}
    {before after : Machine}
    (carries : Carries required promised before after)
    (whenBefore : stronger before → required before)
    (whenAfter : promised after → weaker after) :
    Carries stronger weaker before after where
  packed := carries.packed
  cycles := carries.cycles
  holds := fun small few sound held => by
    obtain ⟨soundAfter, heldAfter⟩ :=
      carries.holds small few sound (whenBefore held)
    exact ⟨soundAfter, whenAfter heldAfter⟩

/-- One operation on the heap, with what it does under the best conditions. -/
theorem of_operation
    {before after : Machine}
    (operation : Heap.Operation ScriptObject)
    (performed : after.heap = operation.perform before.heap)
    (step :
      before.heap.Sound →
        (operation.perform before.heap).total < 2 ^ 32 →
          (operation.perform before.heap).cycles < 2 ^ 32 →
            required before → promised after) :
    Carries required promised before after where
  packed := fun packed => by
    rw [performed]
    obtain ⟨stillPacked, grown, -⟩ := packed.perform operation
    exact ⟨stillPacked, grown⟩
  cycles := by
    rw [performed]
    exact before.heap.cycles_mono operation
  holds := fun small few sound held => by
    rw [performed] at small few ⊢
    exact ⟨sound.perform operation small few,
      step sound small few held⟩

end Carries

/-- The machines hold the same objects in the same places. -/
structure SameHoldings (before after : Machine) : Prop where
  global : after.global = before.global
  external : after.external = before.external
  prototypes : after.prototypes = before.prototypes
  constructors : after.constructors = before.constructors
  intervals : after.intervals = before.intervals

/--
The callback of each interval is a function, or that of an interval that was
registered before.
-/
def Registers (machine : Machine) (intervals : Table String Interval) : Prop :=
  ∀ name interval,
    intervals.get? name = some interval →
      (∃ callable,
        machine.toFunction (.object interval.callback) =
          .ok (interval.callback, callable)) ∨
        ∃ other registered,
          machine.intervals.get? other = some registered ∧
            registered.callback = interval.callback

namespace Registers

variable {machine : Machine}

/-- One more interval, whose callback is a function or was one's before. -/
theorem insert
    {name : String}
    {interval : Interval}
    (fits :
      (∃ callable,
        machine.toFunction (.object interval.callback) =
          .ok (interval.callback, callable)) ∨
        ∃ other registered,
          machine.intervals.get? other = some registered ∧
            registered.callback = interval.callback) :
    machine.Registers (machine.intervals.insert name interval) := by
  intro other found has
  rw [Table.get?_insert] at has
  split at has
  · cases has
    exact fits
  · exact .inr ⟨other, found, has, rfl⟩

theorem erase (machine : Machine) (name : String) :
    machine.Registers (machine.intervals.erase name) := by
  intro other found has
  rw [Table.get?_erase] at has
  split at has
  · cases has
  · exact .inr ⟨other, found, has, rfl⟩

end Registers

/--
Something about the objects and what the machine holds of them that every lawful
operation keeps while indices and generations are words.
-/
structure ObjectInvariant (holds : Machine → Prop) : Prop where
  aside : ∀ ⦃before after : Machine⦄,
    after.heap = before.heap →
      before.SameHoldings after →
        holds before → holds after
  timed : ∀ (machine : Machine) intervals,
    machine.Registers intervals →
      holds machine → holds { machine with intervals := intervals }
  step : ∀ (machine : Machine) (operation : Heap.Operation ScriptObject),
    operation.Lawful machine →
      machine.heap.Sound →
        (operation.perform machine.heap).total < 2 ^ 32 →
          (operation.perform machine.heap).cycles < 2 ^ 32 →
            holds machine →
              holds
                { machine with heap := operation.perform machine.heap }

/--
The handle was issued, and while it resolves its object is as it should be.
-/
structure WhileLive
    (handle : Handle)
    (fits : ScriptObject → Prop)
    (machine : Machine) :
    Prop where
  issued : machine.heap.hasIssued handle = true
  kept : ∀ object,
    machine.heap.get? handle = some object → fits object

namespace WhileLive

variable {machine : Machine} {handle : Handle}
variable {fits : ScriptObject → Prop}

theorem aside
    {before after : Machine}
    (sameHeap : after.heap = before.heap)
    (fitting : before.WhileLive handle fits) :
    after.WhileLive handle fits := by
  constructor
  · rw [sameHeap]
    exact fitting.issued
  · rw [sameHeap]
    exact fitting.kept

/-- Only what is done to the object itself can change what it is like. -/
theorem perform
    (fitting : machine.WhileLive handle fits)
    (sound : machine.heap.Sound)
    (operation : Heap.Operation ScriptObject)
    (small : (operation.perform machine.heap).total < 2 ^ 32)
    (few : (operation.perform machine.heap).cycles < 2 ^ 32)
    (revised : ∀ object,
      machine.heap.get? handle = some object →
        fits object → fits (operation.revise handle object)) :
    { machine with heap := operation.perform machine.heap }.WhileLive
      handle fits where
  issued := sound.hasIssued_perform operation small few fitting.issued
  kept := by
    intro object found
    obtain ⟨old, before, rfl⟩ :=
      sound.toWellFormed.get?_of_perform operation small fitting.issued
        found
    exact revised old before (fitting.kept old before)

/-- What edits and new prototypes leave of an object stays with it. -/
theorem objectInvariant
    (edited : ∀ object changed,
      fits object → object.Edited changed → fits changed)
    (relinked : ∀ object prototype,
      fits object → fits { object with prototype := prototype }) :
    ObjectInvariant (WhileLive handle fits) where
  aside _ _ sameHeap _ := aside sameHeap
  timed _ _ _ := aside rfl
  step := by
    intro machine operation lawful sound small few fitting
    refine fitting.perform sound operation small few ?_
    intro object found fit
    cases operation with
    | modify other change =>
        change fits (if other = handle then change object else object)
        split
        · rename_i same
          subst same
          rcases lawful object found with isEdited | ⟨prototype, isRelinked, -⟩
          · exact edited object _ fit isEdited
          · rw [isRelinked]
            exact relinked object prototype fit
        · exact fit
    | _ => exact fit

end WhileLive

end Machine

namespace Edit

open Machine (Carries)

variable {α β : Type}
variable {required failed : Machine → Prop} {promised : α → Machine → Prop}

/--
Work that gives what is promised of its answer where it finds what is required,
and something else where it fails.
-/
def Secures
    (required : Machine → Prop)
    (work : Edit α)
    (promised : α → Machine → Prop)
    (failed : Machine → Prop) :
    Prop :=
  ∀ machine,
    match work.run machine with
    | .ok answer after => Carries required (promised answer) machine after
    | .error _ after => Carries required failed machine after

namespace Secures

theorem bind
    {work : Edit α}
    {next : α → Edit β}
    {settled : β → Machine → Prop}
    (first : Secures required work promised failed)
    (second : ∀ answer,
      Secures (promised answer) (next answer) settled failed) :
    Secures required (work >>= next) settled failed := by
  intro machine
  have across := first machine
  rw [EStateM.run_bind]
  cases ran : work.run machine with
  | ok answer between =>
      rw [ran] at across
      have afterwards := second answer between
      dsimp only
      cases ranNext : (next answer).run between with
      | ok result after =>
          rw [ranNext] at afterwards
          exact Carries.trans across afterwards
      | error fault after =>
          rw [ranNext] at afterwards
          exact Carries.trans across afterwards
  | error fault after =>
      rw [ran] at across
      exact across

theorem pure
    {answer : α}
    (implies : ∀ machine, required machine → promised answer machine) :
    Secures required (Pure.pure answer) promised failed :=
  fun machine => .aside rfl (implies machine)

/-- Work that looks at the machine first goes on in the state it has seen. -/
theorem get_bind
    {next : Machine → Edit α}
    (afterwards : ∀ seen,
      Secures (fun machine => required machine ∧ machine = seen) (next seen)
        promised failed) :
    Secures required (get >>= next) promised failed := by
  intro machine
  have across := afterwards machine machine
  change match (next machine).run machine with
    | .ok answer after => Carries required (promised answer) machine after
    | .error _ after => Carries required failed machine after
  split
  · rename_i ran
    rw [ran] at across
    exact across.mono (fun held => ⟨held, rfl⟩) id
  · rename_i ran
    rw [ran] at across
    exact across.mono (fun held => ⟨held, rfl⟩) id

/-- Work that keeps what it finds. -/
theorem of_respects
    {holds : Machine → Prop}
    {work : Edit α}
    (respected : Respects (Carries holds holds) work) :
    Secures holds work (fun _ => holds) holds := by
  intro machine
  have across := respected machine
  split
  · rename_i ran
    rw [ran] at across
    exact across
  · rename_i ran
    rw [ran] at across
    exact across

theorem respects
    {holds : Machine → Prop}
    {work : Edit α}
    (secured : Secures holds work (fun _ => holds) holds) :
    Respects (Carries holds holds) work := by
  intro machine
  have across := secured machine
  cases ran : work.run machine with
  | ok answer after =>
      rw [ran] at across
      exact across
  | error fault after =>
      rw [ran] at across
      exact across

theorem mono
    {stronger : Machine → Prop}
    {weaker : α → Machine → Prop}
    {weakerFailed : Machine → Prop}
    {work : Edit α}
    (secured : Secures required work promised failed)
    (before : ∀ machine, stronger machine → required machine)
    (after : ∀ answer machine, promised answer machine → weaker answer machine)
    (afterFailing : ∀ machine, failed machine → weakerFailed machine) :
    Secures stronger work weaker weakerFailed := by
  intro machine
  have across := secured machine
  split
  · rename_i ran
    rw [ran] at across
    exact across.mono (before machine) (after _ _)
  · rename_i ran
    rw [ran] at across
    exact across.mono (before machine) (afterFailing _)

theorem alloc
    {object : ScriptObject}
    {promised : Handle → Machine → Prop}
    (step : ∀ machine : Machine,
      machine.heap.Sound →
        (machine.heap.alloc object).2.total < 2 ^ 32 →
          (machine.heap.alloc object).2.cycles < 2 ^ 32 →
            required machine →
              promised (machine.heap.alloc object).1
                { machine with heap := (machine.heap.alloc object).2 }) :
    Secures required (Edit.alloc object) promised failed :=
  fun machine => .of_operation (.alloc object) rfl (step machine)

theorem modifyObject
    {handle : Handle}
    {change : ScriptObject → ScriptObject}
    {promised : Machine → Prop}
    (step : ∀ (machine : Machine) (object : ScriptObject),
      machine.heap.get? handle = some object →
        machine.heap.Sound →
          (machine.heap.modify handle change).total < 2 ^ 32 →
            (machine.heap.modify handle change).cycles < 2 ^ 32 →
              required machine →
                promised
                  { machine with heap := machine.heap.modify handle change })
    (dangling : ∀ machine, required machine → failed machine) :
    Secures required (Edit.modifyObject handle change) (fun _ => promised)
      failed := by
  intro machine
  cases found : machine.heap.get? handle with
  | some object =>
      rw [Edit.modifyObject_run found]
      exact .of_operation (.modify handle change) rfl
        (step machine object found)
  | none =>
      rw [Edit.modifyObject_dangling found]
      exact .aside rfl (dangling machine)

end Secures

end Edit

namespace Machine.ObjectInvariant

variable {holds : Machine → Prop} {machine : Machine}

/-- The relation between the states before and after that an invariant gives. -/
abbrev across (_ : ObjectInvariant holds) : Machine → Machine → Prop :=
  Carries holds holds

theorem trans
    (invariant : ObjectInvariant holds)
    ⦃first second third : Machine⦄
    (earlier : invariant.across first second)
    (later : invariant.across second third) :
    invariant.across first third :=
  Carries.trans earlier later

theorem unchanged
    (invariant : ObjectInvariant holds)
    {before after : Machine}
    (sameHeap : after.heap = before.heap)
    (same : before.SameHoldings after) :
    invariant.across before after :=
  .aside sameHeap (invariant.aside sameHeap same)

theorem registered
    (invariant : ObjectInvariant holds)
    {intervals : Table String Interval}
    (registers : machine.Registers intervals) :
    invariant.across machine { machine with intervals := intervals } :=
  .aside rfl (invariant.timed machine intervals registers)

theorem performed
    (invariant : ObjectInvariant holds)
    {before after : Machine}
    (operation : Heap.Operation ScriptObject)
    (performed : after.heap = operation.perform before.heap)
    (same : before.SameHoldings after)
    (lawful : operation.Lawful before) :
    invariant.across before after := by
  refine .of_operation operation performed fun sound small few held => ?_
  have stepped :=
    invariant.step before operation lawful sound small few held
  refine invariant.aside ?_ ?_ stepped
  · exact performed
  · exact ⟨same.global, same.external, same.prototypes, same.constructors,
      same.intervals⟩

theorem alloc
    (invariant : ObjectInvariant holds)
    {object : ScriptObject}
    {className : String}
    (inherits : object.prototype = machine.prototype? className) :
    invariant.across machine
      (remaining ((Edit.alloc object).run machine)) :=
  invariant.performed (.alloc object) rfl ⟨rfl, rfl, rfl, rfl, rfl⟩
    fun _ has => ⟨className, inherits.symm.trans has⟩

theorem modifyObject
    (invariant : ObjectInvariant holds)
    {handle : Handle}
    {change : ScriptObject → ScriptObject}
    (lawful : (Heap.Operation.modify handle change).Lawful machine) :
    invariant.across machine
      (remaining ((Edit.modifyObject handle change).run machine)) := by
  cases found : machine.heap.get? handle with
  | some object =>
      rw [Edit.modifyObject_run found]
      exact invariant.performed (.modify handle change) rfl
        ⟨rfl, rfl, rfl, rfl, rfl⟩ lawful
  | none =>
      rw [Edit.modifyObject_dangling found]
      exact .refl machine

/-- A change of the object that was looked up, and an answer after it. -/
theorem edited
    (invariant : ObjectInvariant holds)
    {handle : Handle}
    {object : ScriptObject}
    (found : machine.object handle = .ok object)
    {change : ScriptObject → ScriptObject}
    (edited : object.Edited (change object))
    {α : Type}
    {answer : α} :
    invariant.across machine
      (remaining
        (EStateM.run
          (do
            Edit.modifyObject handle change
            return answer)
          machine)) := by
  rw [Edit.remaining_bind_pure]
  refine invariant.modifyObject fun current has => .inl ?_
  rw [get?_of_object found] at has
  cases has
  exact edited

theorem setPrototype
    (invariant : ObjectInvariant holds)
    (target : Handle)
    (prototype : Option Handle) :
    Respects invariant.across (Edit.setPrototype target prototype) := by
  refine Edit.respects_ask_bind .refl fun machine _ checked => ?_
  exact invariant.modifyObject fun object _ =>
    .inr ⟨prototype, rfl, avoids_of_checkChain checked⟩

theorem deleteMember
    (invariant : ObjectInvariant holds)
    (handle : Handle)
    (name : String) :
    Respects invariant.across (Edit.deleteMember handle name) := by
  refine Edit.respects_ask_bind .refl fun machine object found => ?_
  split
  · exact invariant.edited found (object.edited_withElement _ _)
  · split
    · rename_i removable
      exact invariant.edited found (ScriptObject.edited_erase removable)
    · exact .refl machine

theorem defineProperty
    (invariant : ObjectInvariant holds)
    (handle : Handle)
    (name : String)
    (property : Property) :
    Respects invariant.across
      (Edit.defineProperty handle name property) := by
  refine Edit.respects_ask_bind .refl fun machine object found => ?_
  split
  · rename_i existing has
    split
    · rename_i configurable
      refine invariant.edited found
        (ScriptObject.edited_withProperty ?_ property)
      intro other hasOther permanent
      rw [has] at hasOther
      cases hasOther
      rw [permanent.fixed] at configurable
      cases configurable
    · exact .refl machine
  · rename_i absent
    refine invariant.edited found
      (ScriptObject.edited_withProperty ?_ property)
    intro other hasOther
    rw [absent] at hasOther
    cases hasOther

theorem writeProperty
    (invariant : ObjectInvariant holds)
    {handle : Handle}
    {name : String}
    {object : ScriptObject}
    (found : machine.object handle = .ok object)
    (outOfReach : ∀ index,
      elementIndex? name = some index →
        object.element? name ≠ none → maxArrayLength ≤ index)
    (value : Value) :
    invariant.across machine
      (remaining
        ((Edit.writeMember.writeProperty handle name value object).run
          machine)) := by
  unfold Edit.writeMember.writeProperty
  split
  · rename_i has
    exact invariant.edited found (ScriptObject.edited_withValue has value)
  · exact .refl machine
  · rename_i notWritable notReadOnly
    -- An own property that is no data is an accessor.
    have accessor (existing : Property)
        (own : object.own? name = some existing) :
        existing.isAccessor = true := by
      cases existing with
      | data stored writable enumerable configurable =>
          cases writable with
          | true => exact absurd own (notWritable _ _ _)
          | false => exact absurd own (notReadOnly _ _ _)
      | accessor getter setter enumerable configurable => rfl
    rw [EStateM.run_bind]
    cases resolved : machine.resolve handle name with
    | error fault =>
        rw [Edit.ask_refused resolved]
        exact .refl machine
    | ok resolution =>
        rw [Edit.ask_run resolved]
        dsimp only
        split
        · exact .refl machine
        · exact .refl machine
        · rename_i noSetter noGetter
          refine invariant.edited found
            (ScriptObject.edited_withProperty ?_ (.plain value))
          intro existing own
          refine replaceable_of_resolve found outOfReach resolved ?_ own
            (accessor existing own)
          rintro getter (_ | setter) rfl
          · exact noGetter getter rfl
          · exact noSetter getter setter rfl

theorem writeMember
    (invariant : ObjectInvariant holds)
    (handle : Handle)
    (name : String)
    (value : Value) :
    Respects invariant.across (Edit.writeMember handle name value) := by
  refine Edit.respects_ask_bind .refl fun machine object found => ?_
  split
  · rename_i elements index content indexed
    split
    · exact invariant.edited found (object.edited_withElement _ _)
    · rename_i beyond
      refine invariant.writeProperty found ?_ value
      intro other isIndex _
      rw [indexed] at isIndex
      cases isIndex
      exact Nat.not_lt.mp beyond
  · rename_i notElement
    refine invariant.writeProperty found ?_ value
    intro index indexed element
    refine absurd ?_ element
    unfold ScriptObject.element?
    split
    · rename_i elements content
      exact absurd indexed (notElement elements index content)
    · rfl

theorem setContent
    (invariant : ObjectInvariant holds)
    {receiver : Value}
    {content : Content}
    (fills : machine.Fills receiver content) :
    invariant.across machine
      (remaining ((Edit.setContent receiver content).run machine)) := by
  unfold Edit.setContent
  split
  · exact invariant.modifyObject fun object found =>
      .inl (ScriptObject.edited_of_properties rfl (fills _ object rfl found)
        rfl)
  · exact .refl machine

end Machine.ObjectInvariant

namespace Machine

/-- The object of a handle has no property of that name. -/
def Lacks (machine : Machine) (handle : Handle) (name : String) : Prop :=
  ∀ object,
    machine.heap.get? handle = some object → object.own? name = none

namespace Lacks

variable {machine : Machine} {handle : Handle} {name : String}

/-- A new object without properties lacks them, and so do the old ones. -/
theorem alloc
    {object : ScriptObject}
    (sound : machine.heap.Sound)
    (small : (machine.heap.alloc object).2.total < 2 ^ 32)
    (blank : object.properties = .empty)
    (lacks :
      handle = (machine.heap.alloc object).1 ∨
        machine.Lacks handle name) :
    { machine with heap := (machine.heap.alloc object).2 }.Lacks
      handle name := by
  intro content found
  change (machine.heap.alloc object).2.get? handle = some content at found
  have allocation := sound.toWellFormed.alloc object small
  rw [allocation.get?_eq] at found
  split at found
  · cases found
    rw [ScriptObject.own?, blank]
    rfl
  · rename_i different
    rcases lacks with same | lacks
    · exact absurd same.symm different
    · exact lacks content found

/-- A property of another name does not get in the way. -/
theorem withProperty
    (lacks : machine.Lacks handle name)
    {other : String}
    (different : other ≠ name)
    (target : Handle)
    (property : Property) :
    { machine with
      heap :=
        machine.heap.modify target (·.withProperty other property) }.Lacks
      handle name := by
  intro content found
  change (machine.heap.modify target _).get? handle = some content at found
  rw [Heap.get?_modify] at found
  split at found
  · obtain ⟨object, before, rfl⟩ := Option.map_eq_some_iff.mp found
    change (object.properties.insert other property).get? name = none
    rw [Table.get?_insert, if_neg (Ne.symm different)]
    exact lacks object before
  · exact lacks content found

end Lacks

end Machine

namespace Machine.ObjectInvariant

variable {holds : Machine → Prop}

/-- A new object of a class has no properties, and takes none away. -/
theorem alloc_lacks
    (invariant : ObjectInvariant holds)
    {machine : Machine}
    {className : String}
    {content : Content}
    (sound : machine.heap.Sound)
    (small :
      (machine.heap.alloc
        (.new (machine.prototype? className) content)).2.total < 2 ^ 32)
    (few :
      (machine.heap.alloc
        (.new (machine.prototype? className) content)).2.cycles < 2 ^ 32)
    (held : holds machine) :
    let (handle, heap) :=
      machine.heap.alloc (.new (machine.prototype? className) content)
    holds { machine with heap := heap } ∧
      (∀ name, { machine with heap := heap }.Lacks handle name) ∧
        ∀ other name,
          machine.Lacks other name →
            { machine with heap := heap }.Lacks other name :=
  ⟨invariant.step machine (.alloc _) (fun _ has => ⟨className, has⟩)
      sound small few held,
    fun _ => .alloc sound small rfl (.inl rfl),
    fun _ _ lacks => .alloc sound small rfl (.inr lacks)⟩

/-- An object can be given a property that it lacks. -/
theorem lawful_of_lacks
    {machine : Machine}
    {handle : Handle}
    {name : String}
    (lacks : machine.Lacks handle name)
    (property : Property) :
    (Heap.Operation.modify handle (·.withProperty name property)).Lawful
      machine := by
  intro object found
  refine .inl (ScriptObject.edited_withProperty ?_ property)
  intro existing has
  rw [lacks object found] at has
  cases has

/-- A new function and its prototype object get to know each other. -/
theorem defineFunction
    (invariant : ObjectInvariant holds)
    (definition : Definition) :
    Respects invariant.across (Edit.defineFunction definition) := by
  unfold Edit.defineFunction
  split
  · exact .throw .refl _
  · refine .get_bind fun started => ?_
    refine Edit.Secures.respects ?_ started
    have functionMade (closure : Closure) :
        Edit.Secures holds (Edit.createFunction (.defined closure))
          (fun function machine =>
            holds machine ∧ machine.Lacks function "prototype")
          holds := by
      intro machine
      refine .of_operation (.alloc _) rfl fun sound small few held => ?_
      obtain ⟨stillHeld, lacks, -⟩ :=
        invariant.alloc_lacks sound small few held
      exact ⟨stillHeld, lacks "prototype"⟩
    have prototypeMade (function : Handle) :
        Edit.Secures
          (fun machine => holds machine ∧ machine.Lacks function "prototype")
          Edit.createObject
          (fun prototype machine =>
            holds machine ∧ machine.Lacks function "prototype" ∧
              machine.Lacks prototype "constructor")
          holds := by
      intro machine
      refine .of_operation (.alloc _) rfl ?_
      rintro sound small few ⟨held, lacks⟩
      obtain ⟨stillHeld, lacksNew, lacksOld⟩ :=
        invariant.alloc_lacks sound small few held
      exact ⟨stillHeld, lacksOld _ _ lacks, lacksNew "constructor"⟩
    have prototypeFilled (function prototype : Handle) :
        Edit.Secures
          (fun machine =>
            holds machine ∧ machine.Lacks function "prototype" ∧
              machine.Lacks prototype "constructor")
          (Edit.modifyObject prototype
            (·.withProperty "constructor" (.hidden (.object function))))
          (fun _ machine =>
            holds machine ∧ machine.Lacks function "prototype")
          holds := by
      refine .modifyObject ?_ fun machine held => held.1
      rintro machine object - sound small few ⟨held, lacks, lacksToo⟩
      exact ⟨invariant.step machine (.modify _ _)
          (lawful_of_lacks lacksToo _) sound small few held,
        lacks.withProperty (by decide) _ _⟩
    have functionFilled (function prototype : Handle) :
        Edit.Secures
          (fun machine => holds machine ∧ machine.Lacks function "prototype")
          (Edit.modifyObject function
            (·.withProperty "prototype" (.hidden (.object prototype))))
          (fun _ => holds) holds := by
      refine .modifyObject ?_ fun machine held => held.1
      rintro machine object - sound small few ⟨held, lacks⟩
      exact invariant.step machine (.modify _ _)
        (lawful_of_lacks lacks _) sound small few held
    exact (functionMade _).bind fun function =>
      (prototypeMade function).bind fun prototype =>
        (prototypeFilled function prototype).bind fun _ =>
          (functionFilled function prototype).bind fun _ =>
            .pure fun _ => id

theorem collectGarbage (invariant : ObjectInvariant holds) :
    Respects invariant.across Edit.collectGarbage := by
  refine .get_bind fun machine => ?_
  split
  · exact invariant.performed (.collect _ _) rfl ⟨rfl, rfl, rfl, rfl, rfl⟩
      fun _ => id
  · exact .refl machine

/-- What every lawful operation keeps, the elementary edits keep. -/
theorem frameStable (invariant : ObjectInvariant holds) :
    FrameStable invariant.across where
  refl := .refl
  trans := invariant.trans
  createObject := .get_bind fun _ => invariant.alloc rfl
  createInstance _ _ _ := .get_bind fun _ => invariant.alloc rfl
  createNative _ := .get_bind fun _ => invariant.alloc rfl
  setPrototype := invariant.setPrototype
  deleteMember := invariant.deleteMember
  defineProperty := invariant.defineProperty
  writeMember := invariant.writeMember
  setContent _ _ _ fills := invariant.setContent fills
  defineFunction := invariant.defineFunction
  pin handle _ := invariant.performed (.pin handle) rfl
    ⟨rfl, rfl, rfl, rfl, rfl⟩ trivial
  unpin handle _ := invariant.performed (.unpin handle) rfl
    ⟨rfl, rfl, rfl, rfl, rfl⟩ trivial
  setThreshold threshold _ :=
    invariant.performed (.setThreshold threshold) rfl
      ⟨rfl, rfl, rfl, rfl, rfl⟩ trivial
  collectGarbage := invariant.collectGarbage
  setRoot _ _ := invariant.unchanged rfl ⟨rfl, rfl, rfl, rfl, rfl⟩
  createScope _ _ := invariant.unchanged rfl ⟨rfl, rfl, rfl, rfl, rfl⟩
  defineVariable _ _ _ _ := invariant.unchanged rfl ⟨rfl, rfl, rfl, rfl, rfl⟩
  defineInFrame name value :=
    Edit.respects_ask_bind .refl fun _ _ _ =>
      invariant.unchanged rfl ⟨rfl, rfl, rfl, rfl, rfl⟩
  assignInFrame name value :=
    Edit.respects_ask_bind .refl fun _ _ _ =>
      invariant.unchanged rfl ⟨rfl, rfl, rfl, rfl, rfl⟩
  nextIntervalName _ := invariant.unchanged rfl ⟨rfl, rfl, rfl, rfl, rfl⟩
  advanceClock _ _ := invariant.unchanged rfl ⟨rfl, rfl, rfl, rfl, rfl⟩
  setClock _ _ := invariant.unchanged rfl ⟨rfl, rfl, rfl, rfl, rfl⟩
  onScene _ _ := invariant.unchanged rfl ⟨rfl, rfl, rfl, rfl, rfl⟩
  addItem _ _ := invariant.unchanged rfl ⟨rfl, rfl, rfl, rfl, rfl⟩
  report _ _ _ := invariant.unchanged rfl ⟨rfl, rfl, rfl, rfl, rfl⟩
  drainLog _ := invariant.unchanged rfl ⟨rfl, rfl, rfl, rfl, rfl⟩
  createInterval name period callback receiver arguments machine := by
    rcases Edit.createInterval_run name period callback receiver arguments
      machine with ⟨fault, refused⟩ | ⟨interval, callable, calls, -, -, done⟩
    · rw [refused]
      exact .refl machine
    · rw [done]
      exact invariant.registered (.insert (.inl ⟨callable, calls⟩))
  clearInterval name machine :=
    invariant.registered (.erase machine name)
  beginFiring name now machine := by
    cases due : machine.due? name now with
    | none =>
        rw [Edit.beginFiring_idle due]
        exact .refl machine
    | some interval =>
        rw [Edit.beginFiring_due due]
        have found := (Option.filter_eq_some_iff.mp due).1
        exact invariant.registered (.insert (.inr ⟨name, interval, found, rfl⟩))
  onFrame := by
    intro α edit _ machine
    change invariant.across machine (remaining (Edit.onFrame edit machine))
    unfold Edit.onFrame
    split
    · exact .refl machine
    · split
      · exact invariant.unchanged rfl ⟨rfl, rfl, rfl, rfl, rfl⟩
      · exact invariant.unchanged rfl ⟨rfl, rfl, rfl, rfl, rfl⟩

theorem runStable (invariant : ObjectInvariant holds) :
    RunStable invariant.across where
  toFrameStable := invariant.frameStable
  moves := .of_any fun _ _ _ => invariant.unchanged rfl ⟨rfl, rfl, rfl, rfl, rfl⟩
  inHostEntry := by
    intro σ calls body within session
    have opened :
        invariant.across session.machine session.machine.entered :=
      invariant.unchanged rfl ⟨rfl, rfl, rfl, rfl, rfl⟩
    refine (within session.machine.depth _).inHostEntry
      (fun _ => invariant.unchanged rfl ⟨rfl, rfl, rfl, rfl, rfl⟩) ?_ ?_
    · intro value changed across
      exact invariant.trans opened
        (invariant.trans across
          (invariant.unchanged rfl ⟨rfl, rfl, rfl, rfl, rfl⟩))
    · intro changed across
      exact invariant.trans opened
        (invariant.trans across
          (invariant.unchanged rfl ⟨rfl, rfl, rfl, rfl, rfl⟩))

theorem unload (invariant : ObjectInvariant holds) :
    Respects invariant.across Edit.unload := by
  refine .bind invariant.trans (fun machine => ?_) fun _ =>
    invariant.collectGarbage.map _
  have none : machine.Registers .empty := nofun
  refine invariant.trans (invariant.registered none) ?_
  exact invariant.performed .clearPins rfl ⟨rfl, rfl, rfl, rfl, rfl⟩ trivial

theorem request
    (invariant : ObjectInvariant holds)
    {σ β : Type}
    {calls : Calls σ}
    (respected : calls.Respect invariant.across)
    (wanted : Request β)
    (opens : wanted.Opens invariant.across) :
    wanted.perform.Respects invariant.across calls :=
  invariant.runStable.request respected wanted opens fun _ =>
    invariant.unload

end Machine.ObjectInvariant

end MovieScript
