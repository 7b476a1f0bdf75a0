import MovieScript.Classes.Builtin
import MovieScript.Proofs.DocumentImport
import MovieScript.Proofs.DottedVariables
import MovieScript.Proofs.IssuedHandles
import MovieScript.Proofs.MemberWrites

namespace MovieScript

/-!
# Conversions

The constructors of five classes convert their argument when they are called
without making an object.  Such a constructor tells its two uses apart by the
receiver alone: an ordinary object whose prototype is that of the class is
taken for a new one, whoever made it.  Here is what the constructors do to the
machine: they fill such an object in and answer with it, and on any other
receiver they leave every object as it was and answer with a primitive, with a
new object or with their argument.
-/

/-- A class whose constructor also converts. -/
inductive Converter where
  | object
  | boolean
  | number
  | text
  | array

/-- What an object for the value holds, or the object that the value is. -/
def Value.contentIn? (heap : Heap ScriptObject) : Value → Option Content
  | .undefined => none
  | .null => none
  | .boolean flag => some (.boolean flag)
  | .integer number => some (.number (.integer number))
  | .float number => some (.number (.float number))
  | .text content => some (.text content)
  | .object handle => (heap.get? handle).map ScriptObject.content

theorem Value.contentIn?_of_isNullish
    {heap : Heap ScriptObject}
    {value : Value}
    (empty : value.isNullish = true) :
    value.contentIn? heap = none := by
  cases value with
  | undefined => rfl
  | null => rfl
  | _ => cases empty

namespace Machine

variable {machine : Machine} {className : String} {receiver : Value}
variable {handle : Handle} {object : ScriptObject}

/-- The constructor of the class takes this object for a new one. -/
def LooksNew
    (machine : Machine)
    (className : String)
    (handle : Handle)
    (object : ScriptObject) :
    Prop :=
  machine.heap.get? handle = some object ∧
    object.content = .ordinary ∧
      ∃ prototype,
        object.prototype = some prototype ∧
          machine.prototype? className = some prototype

theorem isFreshInstance_iff :
    machine.isFreshInstance receiver className = true ↔
      ∃ handle object,
        receiver = .object handle ∧
          machine.LooksNew className handle object := by
  constructor
  · intro fresh
    cases receiver with
    | object handle =>
        rw [isFreshInstance] at fresh
        cases live : machine.heap.get? handle with
        | none =>
            rw [live] at fresh
            cases fresh
        | some object =>
            rw [live] at fresh
            dsimp only at fresh
            split at fresh
            · next prototype ordinary inherits =>
              exact ⟨handle, object, rfl, live, ordinary, prototype,
                inherits, beq_iff_eq.mp fresh⟩
            · cases fresh
    | _ => cases fresh
  · rintro ⟨handle, object, rfl, live, ordinary, prototype, inherits, known⟩
    simp [isFreshInstance, live, ordinary, inherits, known]

end Machine

namespace ArrayClass

/-- The elements of an array that is made from arguments. -/
def elementsFor : List Value → Except Fault (Array Value)
  | [.integer requested] =>
      (Array.replicate · Value.undefined) <$> lengthOf requested
  | arguments => .ok arguments.toArray

theorem construct_eq
    (receiver : Value)
    (arguments : List Value) :
    construct receiver arguments = (do
      let elements ← Edit.ask fun _ => elementsFor arguments
      Edit.convertOrFill "Array" receiver (.array elements) do
        return .object (← Edit.createArray elements)) := by
  cases arguments with
  | nil => rfl
  | cons first rest =>
      cases rest with
      | nil =>
          cases first with
          | integer requested =>
              simp only [construct, elementsFor]
              cases lengthOf requested with
              | _ => rfl
          | _ => rfl
      | cons second others =>
          cases first with
          | _ => rfl

end ArrayClass

/-- A number is a primitive. -/
theorem NumberClass.contentIn?_toNumber
    (heap : Heap ScriptObject)
    (value : Value) :
    (toNumber value).handle? = none ∧
      (toNumber value).contentIn? heap = some (.number (toNumber value)) := by
  unfold toNumber
  split
  · exact ⟨rfl, rfl⟩
  · dsimp only
    split
    · exact ⟨rfl, rfl⟩
    · exact ⟨rfl, rfl⟩

namespace Edit

variable {value : Value}

/-- Boxing a primitive makes an object for it. -/
theorem toObject_primitive
    (machine : Machine)
    (primitive : value.handle? = none)
    (there : value.isNullish = false) :
    ∃ object,
      value.contentIn? machine.heap = some object.content ∧
        (toObject value).run machine =
          .ok (machine.heap.alloc object).1
            { machine with heap := (machine.heap.alloc object).2 } := by
  cases value with
  | undefined => cases there
  | null => cases there
  | object handle => cases primitive
  | _ => exact ⟨_, rfl, rfl⟩

end Edit

namespace ObjectClass

variable {machine : Machine} {receiver : Value}
variable {arguments : List Value} {handle : Handle}

theorem construct_object
    (named : argument arguments 0 = .object handle) :
    (construct receiver arguments).run machine =
      .ok (.object handle) machine := by
  simp only [construct, named]
  rfl

theorem construct_empty
    (empty : (argument arguments 0).isNullish = true) :
    construct receiver arguments = (do
      if (← get).isFreshInstance receiver "Object" then
        return receiver
      else
        return .object (← Edit.createObject)) := by
  cases named : argument arguments 0 with
  | undefined =>
      simp only [construct, named]
      rfl
  | null =>
      simp only [construct, named]
      rfl
  | _ =>
      rw [named] at empty
      cases empty

theorem construct_new
    (empty : (argument arguments 0).isNullish = true)
    (fresh : machine.isFreshInstance receiver "Object" = true) :
    (construct receiver arguments).run machine = .ok receiver machine := by
  rw [construct_empty empty, EStateM.run_bind, EStateM.run_get]
  dsimp only
  rw [if_pos fresh]
  rfl

theorem construct_other
    (empty : (argument arguments 0).isNullish = true)
    (other : machine.isFreshInstance receiver "Object" = false) :
    (construct receiver arguments).run machine =
      .ok
        (.object
          (machine.heap.alloc
            (.new (machine.prototype? "Object") .ordinary)).1)
        { machine with
          heap :=
            (machine.heap.alloc
              (.new (machine.prototype? "Object") .ordinary)).2 } := by
  rw [construct_empty empty, EStateM.run_bind, EStateM.run_get]
  dsimp only
  rw [other]
  rfl

theorem construct_boxed
    {boxed : Machine}
    (primitive : (argument arguments 0).handle? = none)
    (there : (argument arguments 0).isNullish = false)
    (boxes :
      (Edit.toObject (argument arguments 0)).run machine =
        .ok handle boxed) :
    (construct receiver arguments).run machine =
      .ok (.object handle) boxed := by
  have unfolded :
      construct receiver arguments = (do
        return .object (← Edit.toObject (argument arguments 0))) := by
    cases named : argument arguments 0 with
    | undefined =>
        rw [named] at there
        cases there
    | null =>
        rw [named] at there
        cases there
    | object handle =>
        rw [named] at primitive
        cases primitive
    | _ =>
        simp only [construct, named]
        rfl
  rw [unfolded, EStateM.run_bind, boxes]
  rfl

end ObjectClass

/-- An argument that is there comes first. -/
theorem head?_of_argument
    {arguments : List Value}
    {value : Value}
    (first : argument arguments 0 = value)
    (defined : value.isUndefined = false) :
    arguments.head? = some value := by
  cases arguments with
  | nil =>
      cases first
      cases defined
  | cons head rest => exact congrArg some first

namespace Converter

variable {before after : Heap ScriptObject} {machine : Machine}
variable {receiver value : Value} {arguments : List Value}
variable {content : Content}

/-- The name of the class. -/
def className : Converter → String
  | .object => "Object"
  | .boolean => "Boolean"
  | .number => "Number"
  | .text => "String"
  | .array => "Array"

/-- The constructor of the class. -/
def constructor : Converter → Builtin
  | .object => .objectConstructor
  | .boolean => .booleanConstructor
  | .number => .numberConstructor
  | .text => .stringConstructor
  | .array => .arrayConstructor

/-- What the constructor of the class does. -/
def convert : Converter → Value → List Value → Edit Value
  | .object => ObjectClass.construct
  | .boolean => BooleanClass.construct
  | .number => NumberClass.construct
  | .text => StringClass.construct
  | .array => ArrayClass.construct

theorem run_constructor
    {σ : Type}
    (converter : Converter)
    (receiver : Value)
    (arguments : List Value) :
    (converter.constructor.run receiver arguments : Act σ Invocation) =
      Builtin.completed (converter.convert receiver arguments) := by
  cases converter with
  | _ => rfl

/-- What the arguments are converted to, if they can be. -/
def contentFor
    (converter : Converter)
    (machine : Machine)
    (arguments : List Value) :
    Except Fault Content :=
  match converter with
  | .object =>
      .ok (((argument arguments 0).contentIn? machine.heap).getD .ordinary)
  | .boolean => .ok (.boolean (argument arguments 0).toBoolean)
  | .number =>
      match arguments with
      | [] => .ok (.number (.integer 0))
      | value :: _ => .ok (.number (NumberClass.toNumber value))
  | .text =>
      match arguments with
      | [] => .ok (.text "")
      | value :: _ => .text <$> machine.displayText value
  | .array => .array <$> ArrayClass.elementsFor arguments

/--
The receiver is taken for a new object of the class.  The constructor of
`Object` does not look at it if there is something to convert.
-/
def Mistakes
    (converter : Converter)
    (machine : Machine)
    (receiver : Value)
    (arguments : List Value) :
    Prop :=
  (∃ handle object,
    receiver = .object handle ∧
      machine.LooksNew converter.className handle object) ∧
    (converter = .object → (argument arguments 0).isNullish = true)

/--
A conversion: no object has changed, and the answer is a primitive, the first
argument or an object with a handle that was never issued before.  The answer
is not the receiver, unless that is the first argument.
-/
structure Converts
    (before after : Heap ScriptObject)
    (receiver : Value)
    (arguments : List Value)
    (content : Content)
    (value : Value) :
    Prop where
  keeps :
    ∀ handle object,
      before.get? handle = some object → after.get? handle = some object
  origin :
    value.handle? = none ∨ arguments.head? = some value ∨
      ∃ handle,
        value = .object handle ∧ before.hasIssued handle = false ∧
          after.contains handle = true
  /-- Primitives are equal without being the same, so this is for objects. -/
  notReceiver :
    ∀ handle,
      receiver = .object handle → before.hasIssued handle = true →
        value = receiver → arguments.head? = some receiver
  holds :
    value.contentIn? after = some content ∨ arguments.head? = some value

/-- The receiver was filled in and is the answer; the rest is unchanged. -/
def FillsIn
    (before after : Heap ScriptObject)
    (receiver : Value)
    (content : Content)
    (value : Value) :
    Prop :=
  value = receiver ∧
    ∃ handle object,
      receiver = .object handle ∧ before.get? handle = some object ∧
        after.get? handle = some { object with content := content } ∧
          ∀ other, other ≠ handle → after.get? other = before.get? other

theorem Converts.of_primitive
    (primitive : value.handle? = none)
    (holds : value.contentIn? before = some content) :
    Converts before before receiver arguments content value where
  keeps := fun _ _ live => live
  origin := .inl primitive
  notReceiver := by
    rintro handle rfl issued rfl
    cases primitive
  holds := .inl holds

theorem Converts.of_argument (first : arguments.head? = some value) :
    Converts before before receiver arguments content value where
  keeps := fun _ _ live => live
  origin := .inr (.inl first)
  notReceiver := by
    rintro handle rfl issued rfl
    exact first
  holds := .inr first

theorem Converts.of_alloc
    (wellFormed : before.WellFormed)
    (room : before.total + 1 < 2 ^ 32)
    (object : ScriptObject) :
    Converts before (before.alloc object).2 receiver arguments object.content
      (.object (before.alloc object).1) := by
  obtain ⟨grown, -, stored⟩ := wellFormed.grown_alloc room object
  have unissued : before.hasIssued (before.alloc object).1 = false := by
    apply Heap.Allocation.not_hasIssued
    apply wellFormed.alloc object
    exact Nat.lt_of_le_of_lt grown.bounded room
  refine ⟨grown.keeps, ?_, ?_, ?_⟩
  · exact .inr (.inr
      ⟨_, rfl, unissued, Heap.contains_of_get? stored⟩)
  · rintro handle rfl issued same
    cases same
    rw [unissued] at issued
    cases issued
  · refine .inl ?_
    rw [Value.contentIn?, stored]
    rfl

/--
What a constructor leaves behind: a receiver that it mistook for a new object
is filled in, any other call is a conversion.
-/
structure Delivers
    (converter : Converter)
    (before : Machine)
    (receiver : Value)
    (arguments : List Value)
    (content : Content)
    (value : Value)
    (after : Machine) :
    Prop where
  fills :
    converter.Mistakes before receiver arguments →
      FillsIn before.heap after.heap receiver content value
  converts :
    ¬ converter.Mistakes before receiver arguments →
      Converts before.heap after.heap receiver arguments content value
  aside : after = { before with heap := after.heap }

end Converter

namespace Edit

variable {machine : Machine} {className : String} {content : Content}
variable {converted : Edit Value}

theorem convertOrFill_new
    {handle : Handle}
    {object : ScriptObject}
    (looksNew : machine.LooksNew className handle object)
    (content : Content)
    (converted : Edit Value) :
    (convertOrFill className (.object handle) content converted).run
        machine =
      .ok (.object handle)
        { machine with
          heap := machine.heap.modify handle fun object =>
            { object with content := content } } := by
  have fresh : machine.isFreshInstance (.object handle) className = true :=
    Machine.isFreshInstance_iff.mpr ⟨handle, object, rfl, looksNew⟩
  rw [convertOrFill, EStateM.run_bind, EStateM.run_get]
  dsimp only
  rw [if_pos fresh, EStateM.run_bind, setContent,
    modifyObject_run looksNew.1]
  rfl

theorem convertOrFill_other
    {receiver : Value}
    (other : machine.isFreshInstance receiver className = false) :
    (convertOrFill className receiver content converted).run machine =
      converted.run machine := by
  rw [convertOrFill, EStateM.run_bind, EStateM.run_get]
  dsimp only
  rw [other]
  rfl

end Edit

namespace Converter

variable {machine : Machine} {receiver : Value} {arguments : List Value}
variable {content : Content}

/-- A receiver that looks new is mistaken for a new object, and filled in. -/
theorem Delivers.of_changes
    {converter : Converter}
    {handle : Handle}
    {object : ScriptObject}
    {after : Machine}
    (looksNew : machine.LooksNew converter.className handle object)
    (looks :
      converter = .object → (argument arguments 0).isNullish = true)
    (changes :
      machine.ChangesOnly handle { object with content := content } after) :
    converter.Delivers machine (.object handle) arguments content
      (.object handle) after where
  fills := fun _ =>
    ⟨rfl, handle, object, rfl, looksNew.1, changes.here, changes.others⟩
  converts := fun sound =>
    absurd ⟨⟨handle, object, rfl, looksNew⟩, looks⟩ sound
  aside := changes.aside

theorem Delivers.of_converts
    {converter : Converter}
    {value : Value}
    {heap : Heap ScriptObject}
    (sound : ¬ converter.Mistakes machine receiver arguments)
    (converts :
      Converts machine.heap heap receiver arguments content value) :
    converter.Delivers machine receiver arguments content value
      { machine with heap := heap } where
  fills := fun mistaken => absurd mistaken sound
  converts := fun _ => converts
  aside := rfl

theorem not_mistakes_of_not_fresh
    {converter : Converter}
    (other :
      machine.isFreshInstance receiver converter.className = false) :
    ¬ converter.Mistakes machine receiver arguments := by
  intro mistaken
  rw [Machine.isFreshInstance_iff.mpr mistaken.1] at other
  cases other

/-- The constructors other than that of `Object` deliver what they should. -/
theorem convertOrFill_delivers
    {converter : Converter}
    {converted : Edit Value}
    (looks : converter ≠ .object)
    (converts :
      ∃ value heap,
        converted.run machine = .ok value { machine with heap := heap } ∧
          Converts machine.heap heap receiver arguments content value) :
    ∃ value after,
      (Edit.convertOrFill converter.className receiver content
            converted).run machine =
          .ok value after ∧
        converter.Delivers machine receiver arguments content value
          after := by
  cases fresh : machine.isFreshInstance receiver converter.className with
  | false =>
      obtain ⟨value, heap, ran, conversion⟩ := converts
      exact ⟨value, _, (Edit.convertOrFill_other fresh).trans ran,
        .of_converts (not_mistakes_of_not_fresh fresh) conversion⟩
  | true =>
      obtain ⟨handle, object, rfl, looksNew⟩ :=
        Machine.isFreshInstance_iff.mp fresh
      exact ⟨_, _, Edit.convertOrFill_new looksNew _ _,
        .of_changes looksNew (fun same => absurd same looks)
          (Machine.changesOnly_modify looksNew.1 fun object =>
            { object with content := content })⟩

/-- The same for a conversion to a primitive. -/
theorem convertOrFill_primitive
    {converter : Converter}
    {value : Value}
    (looks : converter ≠ .object)
    (primitive : value.handle? = none)
    (holds : value.contentIn? machine.heap = some content) :
    ∃ result after,
      (Edit.convertOrFill converter.className receiver content
            (return value)).run machine =
          .ok result after ∧
        converter.Delivers machine receiver arguments content result
          after :=
  convertOrFill_delivers looks
    ⟨value, machine.heap, rfl, .of_primitive primitive holds⟩

/-- Arguments that cannot be converted are refused, and nothing changes. -/
theorem convert_refused
    {converter : Converter}
    {fault : Fault}
    (refused : converter.contentFor machine arguments = .error fault) :
    (converter.convert receiver arguments).run machine =
      .error fault machine := by
  cases converter with
  | object => cases refused
  | boolean => cases refused
  | number =>
      cases arguments with
      | nil => cases refused
      | cons first rest => cases refused
  | text =>
      cases arguments with
      | nil => cases refused
      | cons first rest =>
          cases written : machine.displayText first with
          | ok text =>
              rw [contentFor, written] at refused
              cases refused
          | error reason =>
              rw [contentFor, written] at refused
              cases refused
              rw [convert, StringClass.construct, EStateM.run_bind]
              dsimp only
              rw [Edit.displayText, Edit.ask_refused written]
  | array =>
      cases listed : ArrayClass.elementsFor arguments with
      | ok elements =>
          rw [contentFor, listed] at refused
          cases refused
      | error reason =>
          rw [contentFor, listed] at refused
          cases refused
          rw [convert, ArrayClass.construct_eq, EStateM.run_bind,
            Edit.ask_refused listed]

/-- `Object` keeps its argument, boxes it, or makes an object without one. -/
theorem object_delivers
    (wellFormed : machine.heap.WellFormed)
    (room : machine.heap.total + 1 < 2 ^ 32)
    (receiver : Value)
    (arguments : List Value) :
    ∃ value after,
      (ObjectClass.construct receiver arguments).run machine =
          .ok value after ∧
        Delivers .object machine receiver arguments
          (((argument arguments 0).contentIn? machine.heap).getD .ordinary)
          value after := by
  cases empty : (argument arguments 0).isNullish with
  | true =>
      rw [Value.contentIn?_of_isNullish empty, Option.getD_none]
      cases fresh : machine.isFreshInstance receiver "Object" with
      | false =>
          exact ⟨_, _, ObjectClass.construct_other empty fresh,
            .of_converts (not_mistakes_of_not_fresh fresh)
              (.of_alloc wellFormed room _)⟩
      | true =>
          obtain ⟨handle, object, rfl, looksNew⟩ :=
            Machine.isFreshInstance_iff.mp fresh
          -- Nothing is written, but an object that looks new is ordinary.
          have same : { object with content := .ordinary } = object := by
            rw [← looksNew.2.1]
          refine ⟨_, _, ObjectClass.construct_new empty fresh,
            .of_changes looksNew (fun _ => empty)
              ⟨?_, fun _ _ => rfl, rfl⟩⟩
          rw [same]
          exact looksNew.1
  | false =>
      have sound : ¬ Mistakes .object machine receiver arguments := by
        intro mistaken
        rw [mistaken.2 rfl] at empty
        cases empty
      cases held : (argument arguments 0).handle? with
      | some handle =>
          have named := Value.eq_object_of_handle? held
          exact ⟨_, _, ObjectClass.construct_object named,
            .of_converts sound
              (.of_argument (head?_of_argument named rfl))⟩
      | none =>
          obtain ⟨object, holds, boxed⟩ :=
            Edit.toObject_primitive machine held empty
          rw [holds, Option.getD_some]
          exact ⟨_, _, ObjectClass.construct_boxed held empty boxed,
            .of_converts sound (.of_alloc wellFormed room object)⟩

/-- A constructor whose arguments can be converted returns. -/
theorem convert_delivers
    {converter : Converter}
    (wellFormed : machine.heap.WellFormed)
    (room : machine.heap.total + 1 < 2 ^ 32)
    (reads : converter.contentFor machine arguments = .ok content)
    (receiver : Value) :
    ∃ value after,
      (converter.convert receiver arguments).run machine = .ok value after ∧
        converter.Delivers machine receiver arguments content value
          after := by
  cases converter with
  | object =>
      cases reads
      exact object_delivers wellFormed room receiver arguments
  | boolean =>
      cases reads
      apply @convertOrFill_primitive machine receiver arguments _ .boolean
      · simp
      · rfl
      · rfl
  | number =>
      cases arguments with
      | nil =>
          cases reads
          apply @convertOrFill_primitive machine receiver [] _ .number
          · simp
          · rfl
          · rfl
      | cons first rest =>
          cases reads
          obtain ⟨primitive, holds⟩ :=
            NumberClass.contentIn?_toNumber machine.heap first
          apply @convertOrFill_primitive machine receiver _ _ .number
          · simp
          · exact primitive
          · exact holds
  | text =>
      cases arguments with
      | nil =>
          cases reads
          apply @convertOrFill_primitive machine receiver [] _ .text
          · simp
          · rfl
          · rfl
      | cons first rest =>
          cases written : machine.displayText first with
          | error reason =>
              rw [contentFor, written] at reads
              cases reads
          | ok text =>
              rw [contentFor, written] at reads
              cases reads
              rw [convert, StringClass.construct, EStateM.run_bind]
              dsimp only
              rw [Edit.displayText, Edit.ask_run written]
              apply @convertOrFill_primitive machine receiver _ _ .text
              · simp
              · rfl
              · rfl
  | array =>
      cases listed : ArrayClass.elementsFor arguments with
      | error reason =>
          rw [contentFor, listed] at reads
          cases reads
      | ok elements =>
          rw [contentFor, listed] at reads
          cases reads
          rw [convert, ArrayClass.construct_eq, EStateM.run_bind,
            Edit.ask_run listed]
          apply @convertOrFill_delivers machine receiver _ _ .array
          · simp
          · exact ⟨_, _, rfl, .of_alloc wellFormed room _⟩

end Converter

end MovieScript
