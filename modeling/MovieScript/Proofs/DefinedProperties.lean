import MovieScript.Proofs.MemberWrites

namespace MovieScript

/-!
# Definitions of properties

A definition that is accepted puts the property into the object, in the place of
the one it had or behind all others; one that is refused changes nothing.  Since
the elements of an array come before its properties, a property under the name
of an element is there, but the name still leads to the element.
-/

/--
The property has been defined: it is the object's own under that name, the name
is there, and it leads to the property, unless an element of the object has the
name, to which it leads then.  Nothing else has changed.
-/
structure Machine.Defines
    (before : Machine)
    (handle : Handle)
    (object : ScriptObject)
    (name : String)
    (property : Property)
    (after : Machine) :
    Prop where
  live : before.heap.get? handle = some object
  changes : ∃ changed,
    before.ChangesOnly handle changed after ∧
      object.Receives name property changed
  own : after.hasOwnMember handle name = .ok true
  shown : object.element? name = none →
    after.resolve handle name = .ok (Member.property property).resolution
  hidden : ∀ element, object.element? name = some element →
    after.resolve handle name = .ok (.value element)

variable {machine after : Machine} {handle : Handle}
variable {object : ScriptObject} {name : String} {property : Property}

/-- A property that an object has received is defined. -/
theorem Machine.defines_modify
    (live : machine.heap.get? handle = some object)
    (name : String)
    (property : Property) :
    machine.Defines handle object name property
      { machine with
        heap :=
          machine.heap.modify handle (·.withProperty name property) } := by
  have changes :=
    changesOnly_modify live (·.withProperty name property)
  have receives := object.receives_withProperty name property
  refine ⟨live, ⟨_, changes, receives⟩, ?_, ?_, ?_⟩
  · rw [hasOwnMember, object_of_get? changes.here]
    have own :
        (object.withProperty name property).properties.contains name =
          true := by
      simp [Table.contains, ScriptObject.withProperty, Table.get?_insert]
    simp [bind, Except.bind, pure, Except.pure, own]
  · intro noElement
    have has := ScriptObject.member?_withProperty noElement property
    exact resolve_holder (.here _ changes.here has)
  · intro element isElement
    have has :
        (object.withProperty name property).member? name =
          some (.element element) :=
      ScriptObject.member?_of_element isElement
    exact resolve_holder (.here _ changes.here has)

/-- Work that came to its end with the machine as it was has left it so. -/
private theorem eq_of_unchanged
    {α : Type}
    {outcome : EStateM.Result Fault Machine α}
    {declined : α}
    (unchanged :
      (∃ fault, outcome = .error fault machine) ∨
        outcome = .ok declined machine)
    (ended :
      outcome = .ok declined after ∨
        ∃ fault, outcome = .error fault after) :
    after = machine := by
  rcases unchanged with ⟨fault, rfl⟩ | rfl
  · rcases ended with answered | ⟨other, failed⟩
    · cases answered
    · cases failed
      rfl
  · rcases ended with answered | ⟨other, failed⟩
    · cases answered
      rfl
    · cases failed

namespace Edit

/-- A definition on an object that is gone is refused. -/
theorem defineProperty_dangling
    (gone : machine.heap.get? handle = none) :
    (defineProperty handle name property).run machine =
      .error (.danglingReference handle) machine := by
  have refused :
      machine.object handle = .error (.danglingReference handle) := by
    simp [Machine.object, gone]
  rw [defineProperty, EStateM.run_bind, ask_refused refused]

/-- A permanent property keeps its place. -/
theorem defineProperty_refused
    {existing : Property}
    (live : machine.heap.get? handle = some object)
    (own : object.own? name = some existing)
    (permanent : existing.configurable = false) :
    (defineProperty handle name property).run machine = .ok false machine := by
  rw [defineProperty, EStateM.run_bind,
    ask_run (Machine.object_of_get? live)]
  simp only [own, permanent]
  rfl

/-- Where no permanent property stands, the definition is made. -/
theorem defineProperty_accepted
    (live : machine.heap.get? handle = some object)
    (replaceable : ∀ existing,
      object.own? name = some existing → existing.configurable = true) :
    (defineProperty handle name property).run machine =
      .ok true
        { machine with
          heap :=
            machine.heap.modify handle (·.withProperty name property) } := by
  rw [defineProperty, EStateM.run_bind,
    ask_run (Machine.object_of_get? live)]
  cases own : object.own? name with
  | none =>
      simp only [own]
      rw [EStateM.run_bind, modifyObject_run live]
      rfl
  | some existing =>
      simp only [own, replaceable existing own, ↓reduceIte]
      rw [EStateM.run_bind, modifyObject_run live]
      rfl

/-- A definition is refused without a trace, or it is made. -/
theorem defineProperty_cases
    (machine : Machine)
    (handle : Handle)
    (name : String)
    (property : Property) :
    (∃ refusal,
      (defineProperty handle name property).run machine =
        .error refusal machine) ∨
    (defineProperty handle name property).run machine =
      .ok false machine ∨
    ∃ object,
      machine.heap.get? handle = some object ∧
        (defineProperty handle name property).run machine =
          .ok true
            { machine with
              heap :=
                machine.heap.modify handle
                  (·.withProperty name property) } := by
  cases live : machine.heap.get? handle with
  | none => exact .inl ⟨_, defineProperty_dangling live⟩
  | some object =>
      by_cases replaceable : ∀ existing,
          object.own? name = some existing → existing.configurable = true
      · exact .inr (.inr
          ⟨object, rfl, defineProperty_accepted live replaceable⟩)
      · simp only [not_forall, Bool.not_eq_true] at replaceable
        obtain ⟨existing, own, permanent⟩ := replaceable
        exact .inr (.inl (defineProperty_refused live own permanent))

/-- A definition that was made has taken effect. -/
theorem defineProperty_defines
    (defined :
      (defineProperty handle name property).run machine =
        .ok true after) :
    ∃ object, machine.Defines handle object name property after := by
  rcases defineProperty_cases machine handle name property with
    ⟨refusal, refused⟩ | refused | ⟨object, live, accepted⟩
  · rw [refused] at defined
    cases defined
  · rw [refused] at defined
    cases defined
  · rw [accepted] at defined
    cases defined
    exact ⟨object, Machine.defines_modify live name property⟩

/-- A definition that was not made has changed nothing. -/
theorem defineProperty_unchanged
    (notDefined :
      (defineProperty handle name property).run machine = .ok false after ∨
        ∃ fault,
          (defineProperty handle name property).run machine =
            .error fault after) :
    after = machine := by
  rcases defineProperty_cases machine handle name property with
    failed | refused | ⟨object, live, accepted⟩
  · exact eq_of_unchanged (.inl failed) notDefined
  · exact eq_of_unchanged (.inr refused) notDefined
  · rw [accepted] at notDefined
    rcases notDefined with answered | ⟨fault, failed⟩
    · cases answered
    · cases failed

end Edit

namespace ObjectClass

variable {receiver : Value} {arguments : List Value}

/-- The accessors that the arguments of a definition give. -/
def accessorsOf (arguments : List Value) : Property :=
  .accessors (argument arguments 1).handle? (argument arguments 2).handle?

/--
Once the receiver has its object form, either nothing more happens to it or the
accessors become its property.
-/
theorem addProperty_cases
    {boxed : Machine}
    (opened : (Edit.toObject receiver).run machine = .ok handle boxed) :
    (∃ fault,
      (addProperty receiver arguments).run machine = .error fault boxed) ∨
    (addProperty receiver arguments).run machine =
      .ok (.boolean false) boxed ∨
    ∃ name object,
      boxed.displayText (argument arguments 0) = .ok name ∧
        boxed.heap.get? handle = some object ∧
          (addProperty receiver arguments).run machine =
            .ok (.boolean true)
              { boxed with
                heap :=
                  boxed.heap.modify handle
                    (·.withProperty name (accessorsOf arguments)) } := by
  rw [addProperty, EStateM.run_bind, opened]
  dsimp only
  rw [EStateM.run_bind]
  cases written : boxed.displayText (argument arguments 0) with
  | error fault =>
      rw [Edit.displayText, Edit.ask_refused written]
      exact .inl ⟨fault, rfl⟩
  | ok name =>
      rw [Edit.displayText, Edit.ask_run written]
      dsimp only
      rw [EStateM.run_bind, EStateM.run_get]
      dsimp only
      split
      · exact .inr (.inl rfl)
      · split
        · rw [EStateM.run_bind]
          rcases Edit.defineProperty_cases boxed handle name
              (accessorsOf arguments) with
            ⟨fault, failed⟩ | refused | ⟨object, live, accepted⟩
          · rw [accessorsOf] at failed
            rw [failed]
            exact .inl ⟨fault, rfl⟩
          · rw [accessorsOf] at refused
            rw [refused]
            exact .inr (.inl rfl)
          · rw [accessorsOf] at accepted
            rw [accepted]
            exact .inr (.inr ⟨name, object, rfl, live, rfl⟩)
        · exact .inr (.inl rfl)

/-- Accessors that were reported as added have been defined. -/
theorem addProperty_defines
    (added :
      (addProperty receiver arguments).run machine =
        .ok (.boolean true) after) :
    ∃ handle boxed object name,
      (Edit.toObject receiver).run machine = .ok handle boxed ∧
        boxed.displayText (argument arguments 0) = .ok name ∧
          boxed.Defines handle object name (accessorsOf arguments) after := by
  cases opened : (Edit.toObject receiver).run machine with
  | error fault between =>
      rw [addProperty, EStateM.run_bind, opened] at added
      cases added
  | ok handle boxed =>
      rcases addProperty_cases opened with
        ⟨fault, failed⟩ | refused | ⟨name, object, written, live, accepted⟩
      · rw [failed] at added
        cases added
      · rw [refused] at added
        cases added
      · rw [accepted] at added
        cases added
        exact ⟨handle, boxed, object, name, rfl, written,
          boxed.defines_modify live name (accessorsOf arguments)⟩

/-- Accessors that an object was refused have changed nothing. -/
theorem addProperty_unchanged
    (notAdded :
      (addProperty (.object handle) arguments).run machine =
          .ok (.boolean false) after ∨
        ∃ fault,
          (addProperty (.object handle) arguments).run machine =
            .error fault after) :
    after = machine := by
  have opened :
      (Edit.toObject (.object handle)).run machine = .ok handle machine :=
    rfl
  rcases addProperty_cases opened with
    failed | refused | ⟨name, object, written, live, accepted⟩
  · exact eq_of_unchanged (.inl failed) notAdded
  · exact eq_of_unchanged (.inr refused) notAdded
  · rw [accepted] at notAdded
    rcases notAdded with answered | ⟨fault, failed⟩
    · cases answered
    · cases failed

end ObjectClass

/--
A definition that reports success has taken effect and any other has changed
nothing, and so it is with the accessors that scripts add to an object.  To take
effect means that the property is the object's own and that its name leads to
it, unless an element of the object has that name.
-/
theorem Machine.definition_takes_effect (machine : Machine) :
    (∀ handle name property after,
      ((Edit.defineProperty handle name property).run machine =
          .ok true after →
        ∃ object, machine.Defines handle object name property after) ∧
      (((Edit.defineProperty handle name property).run machine =
            .ok false after ∨
          ∃ fault,
            (Edit.defineProperty handle name property).run machine =
              .error fault after) →
        after = machine)) ∧
    (∀ receiver arguments after,
      (ObjectClass.addProperty receiver arguments).run machine =
          .ok (.boolean true) after →
        ∃ handle boxed object name,
          (Edit.toObject receiver).run machine = .ok handle boxed ∧
            boxed.displayText (argument arguments 0) = .ok name ∧
              boxed.Defines handle object name
                (ObjectClass.accessorsOf arguments) after) ∧
    ∀ handle arguments after,
      ((ObjectClass.addProperty (.object handle) arguments).run machine =
            .ok (.boolean false) after ∨
          ∃ fault,
            (ObjectClass.addProperty (.object handle) arguments).run
              machine = .error fault after) →
        after = machine :=
  ⟨fun _ _ _ _ =>
    ⟨Edit.defineProperty_defines, Edit.defineProperty_unchanged⟩,
    fun _ _ _ => ObjectClass.addProperty_defines,
    fun _ _ _ => ObjectClass.addProperty_unchanged⟩

/-- An array with one element and a permanent property, and a function. -/
def Machine.furnished : Machine :=
  { Machine.bare .standard 0 with
    heap :=
      Heap.run
        [.alloc .blank, .alloc .blank,
          .alloc
            ((ScriptObject.new none (.array #[.integer 1])).withProperty
              "fixed" (.constant .null)),
          .alloc (.new none (.function (.native ⟨"size", .host 0⟩)))] }

/--
A property beside the element and an accessor that a script adds take effect,
and one in the place of the permanent property is refused.
-/
theorem Machine.definition_takes_effect_furnished :
    (∃ after object,
      (Edit.defineProperty ⟨2, 0⟩ "1" (.plain .null)).run furnished =
          .ok true after ∧
        furnished.Defines ⟨2, 0⟩ object "1" (.plain .null) after ∧
          object.element? "1" = none) ∧
    (∃ after object,
      (ObjectClass.addProperty (.object ⟨2, 0⟩)
          [.text "size", .object ⟨3, 0⟩]).run furnished =
        .ok (.boolean true) after ∧
        furnished.Defines ⟨2, 0⟩ object "size"
          (.accessors (some ⟨3, 0⟩) none) after) ∧
    ∃ after,
      (Edit.defineProperty ⟨2, 0⟩ "fixed" (.plain .null)).run furnished =
          .ok false after ∧
        after = furnished := by
  obtain ⟨defining, adding, -⟩ := definition_takes_effect furnished
  have defined :
      (Edit.defineProperty ⟨2, 0⟩ "1" (.plain .null)).run furnished =
        .ok true _ :=
    rfl
  have added :
      (ObjectClass.addProperty (.object ⟨2, 0⟩)
          [.text "size", .object ⟨3, 0⟩]).run furnished =
        .ok (.boolean true) _ :=
    rfl
  have refused :
      (Edit.defineProperty ⟨2, 0⟩ "fixed" (.plain .null)).run furnished =
        .ok false _ :=
    rfl
  obtain ⟨object, effect⟩ := (defining _ _ _ _).1 defined
  obtain ⟨handle, boxed, receiving, name, opened, written, addition⟩ :=
    adding _ _ _ added
  refine ⟨⟨_, object, defined, effect, ?_⟩, ⟨_, receiving, added, ?_⟩,
    _, refused, (defining _ _ _ _).2 (.inl refused)⟩
  · have live := effect.live
    cases live
    rfl
  · cases opened
    cases written
    exact addition

/-- A property in the place of the element is accepted, but is not found. -/
theorem Machine.definition_hidden_furnished :
    ∃ after,
      (Edit.defineProperty ⟨2, 0⟩ "0" (.plain .null)).run furnished =
          .ok true after ∧
        after.resolve ⟨2, 0⟩ "0" = .ok (.value (.integer 1)) ∧
          after.resolve ⟨2, 0⟩ "0" ≠
            .ok (Member.property (.plain .null)).resolution := by
  refine ⟨_, rfl, rfl, ?_⟩
  intro found
  cases found

end MovieScript
