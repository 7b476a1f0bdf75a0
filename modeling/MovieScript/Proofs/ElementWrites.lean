import MovieScript.Proofs.MemberWrites
import MovieScript.Classes.Sequence

namespace MovieScript

/-!
# Writes to elements

A write under the name of an element goes to the elements of an array as long as
the index is below the greatest length that writes can give an array, and pads
the elements up to it.  From there on it goes to a property.  Arrays can grow
longer than that by other means, and reading looks at the elements first: a
write to an element that writes do not reach is hidden by the element.
-/

namespace ScriptObject

variable {object changed : ScriptObject} {name other : String}
variable {elements : Array Value} {index : Nat} {value : Value}

/-- The index of the element that a write under a name goes to. -/
def elementTarget?
    (object : ScriptObject)
    (name : String) :
    Option Nat :=
  object.elements?.bind fun _ =>
    (elementIndex? name).filter fun index => index < maxArrayLength

/-- A write under the one name makes the other one that of a padded element. -/
def pads
    (object : ScriptObject)
    (name other : String) :
    Bool :=
  (object.elementTarget? name).any fun index =>
    (object.element? other).isNone &&
      (elementIndex? other).any fun position => position < index

/-- The object has an element of that name, and writes do not reach it. -/
def overgrown
    (object : ScriptObject)
    (name : String) :
    Bool :=
  (object.element? name).isSome && (object.elementTarget? name).isNone

theorem content_of_elements?
    (array : object.elements? = some elements) :
    object.content = .array elements := by
  unfold elements? at array
  split at array
  · rename_i others content
    cases array
    exact content
  · cases array

theorem element?_of_elements?
    (array : object.elements? = some elements)
    (name : String) :
    object.element? name =
      (elementIndex? name).bind fun index => elements[index]? := by
  simp [element?, content_of_elements? array]

theorem elementTarget?_eq_some_iff :
    object.elementTarget? name = some index ↔
      (∃ elements, object.elements? = some elements) ∧
        elementIndex? name = some index ∧ index < maxArrayLength := by
  simp [elementTarget?, Option.bind_eq_some_iff, Option.filter_eq_some_iff]

theorem elementTarget?_of_no_elements
    (noArray : object.elements? = none)
    (name : String) :
    object.elementTarget? name = none := by
  simp [elementTarget?, noArray]

/-! An element is written. -/

theorem size_writeElement
    (elements : Array Value)
    (index : Nat)
    (value : Value) :
    (writeElement elements index value).size =
      max elements.size (index + 1) := by
  unfold writeElement
  split
  · simp only [Array.size_push, Array.size_append, Array.size_replicate]
    omega
  · simp only [Array.size_setIfInBounds]
    omega

/-- The written element has the value; those that were padded are undefined. -/
theorem getElem?_writeElement
    (elements : Array Value)
    (index : Nat)
    (value : Value)
    (position : Nat) :
    (writeElement elements index value)[position]? =
      if position = index then some value
      else if position < elements.size then elements[position]?
      else if position < index then some .undefined
      else none := by
  unfold writeElement
  split
  · have full :
        (elements ++
          Array.replicate (index - elements.size) Value.undefined).size =
            index := by
      simp only [Array.size_append, Array.size_replicate]
      omega
    rw [Array.getElem?_push, full, Array.getElem?_append,
      Array.getElem?_replicate]
    grind
  · grind

theorem elements?_withElement
    (array : object.elements? = some elements)
    (index : Nat)
    (value : Value) :
    (object.withElement index value).elements? =
      some (writeElement elements index value) := by
  have content := content_of_elements? array
  obtain ⟨properties, prototype, constructor, _⟩ := object
  cases content
  rfl

theorem own?_withElement
    (object : ScriptObject)
    (index : Nat)
    (value : Value)
    (query : String) :
    (object.withElement index value).own? query = object.own? query := by
  unfold withElement
  split <;> rfl

theorem prototype_withElement
    (object : ScriptObject)
    (index : Nat)
    (value : Value) :
    (object.withElement index value).prototype = object.prototype := by
  unfold withElement
  split <;> rfl

/--
The object after a write that ran no setter: an element was written, or else a
property, which keeps its attributes if it was there.
-/
inductive Written
    (object : ScriptObject)
    (name : String)
    (value : Value) :
    ScriptObject → Prop where
  | element {index : Nat} :
      object.elementTarget? name = some index →
        Written object name value (object.withElement index value)
  | property {enumerable configurable : Bool} :
      object.elementTarget? name = none →
        Written object name value
          (object.withProperty name
            (.data value true enumerable configurable))

namespace Written

theorem prototype (written : object.Written name value changed) :
    changed.prototype = object.prototype := by
  cases written with
  | element => exact prototype_withElement _ _ _
  | property => rfl

/-- An array stays one, and its elements change only if a write reaches them. -/
theorem elements?_of_array
    (written : object.Written name value changed)
    (array : object.elements? = some elements) :
    changed.elements? =
      some
        ((object.elementTarget? name).elim elements fun index =>
          writeElement elements index value) := by
  cases written with
  | @element index target =>
      rw [target]
      exact elements?_withElement array index value
  | property noTarget =>
      rw [noTarget]
      exact array

/-- The name leads to what was written, unless an element hides it. -/
theorem member?_self
    (written : object.Written name value changed)
    (shown : object.overgrown name = false) :
    ∃ member,
      changed.member? name = some member ∧
        member.resolution = .value value := by
  cases written with
  | @element index target =>
      obtain ⟨⟨elements, array⟩, indexed, -⟩ :=
        elementTarget?_eq_some_iff.mp target
      refine ⟨.element value, member?_of_element ?_, rfl⟩
      simp [element?_of_elements? (elements?_withElement array index value),
        indexed, getElem?_writeElement]
  | @property enumerable configurable noTarget =>
      have noElement : object.element? name = none := by
        simpa [overgrown, noTarget] using shown
      exact ⟨_, member?_withProperty noElement _, rfl⟩

/-- No other name is concerned, except for those of padded elements. -/
theorem member?_other
    (written : object.Written name value changed)
    (different : other ≠ name)
    (unpadded : object.pads name other = false) :
    changed.member? other = object.member? other := by
  cases written with
  | @element index target =>
      obtain ⟨⟨elements, array⟩, indexed, -⟩ :=
        elementTarget?_eq_some_iff.mp target
      have sameElement :
          (object.withElement index value).element? other =
            object.element? other := by
        rw [element?_of_elements? (elements?_withElement array index value),
          element?_of_elements? array]
        cases placed : elementIndex? other with
        | none => rfl
        | some position =>
            have apart : position ≠ index := by
              rintro rfl
              apply different
              rw [(elementIndex?_eq_some_iff.mp placed).1,
                (elementIndex?_eq_some_iff.mp indexed).1]
            have beyond : elements.size ≤ position → index ≤ position := by
              intro absent
              simpa [pads, target, placed, element?_of_elements? array,
                absent] using unpadded
            simp only [Option.bind_some, getElem?_writeElement, apart,
              ↓reduceIte]
            split
            · rfl
            · rename_i absent
              rw [if_neg (Nat.not_lt.mpr (beyond (Nat.not_lt.mp absent))),
                Array.getElem?_eq_none (Nat.not_lt.mp absent)]
      simp only [member?, sameElement, own?_withElement]
  | property noTarget =>
      simp [member?, element?_withProperty, own?_withProperty, different]

end Written

end ScriptObject

/-- A member that a name leads to an accessor with is one. -/
theorem Member.isAccessor_of_resolution
    {member : Member}
    {getter setter : Option Handle}
    (leads : member.resolution = .accessor getter setter) :
    member.isAccessor = true := by
  cases member with
  | element value => cases leads
  | property held =>
      cases held with
      | data value writable enumerable configurable => cases leads
      | accessor getter setter enumerable configurable => rfl

namespace Machine

variable {machine : Machine} {start : Handle} {name : String}

/-- A name that leads somewhere has a holder with that member. -/
theorem exists_holder_of_resolve
    {resolution : Resolution}
    (resolved : machine.resolve start name = .ok resolution)
    (there : resolution ≠ .missing) :
    ∃ holder : machine.Holder start name,
      holder.member.resolution = resolution := by
  rcases machine.heap.holder_or_gap_or_clear
      machine.configuration.maxPrototypeDepth start name with
    ⟨⟨holder⟩⟩ | ⟨⟨gap⟩⟩ | clear
  · rw [resolve_holder holder] at resolved
    cases resolved
    exact ⟨holder, rfl⟩
  · rw [resolve_gap gap] at resolved
    cases resolved
  · rw [resolve, resolveWithin_missing clear] at resolved
    cases resolved
    exact absurd rfl there

/-- A name whose holder is no accessor does not lead to one. -/
theorem resolve_ne_accessor
    (noAccessor : ∀ holder : machine.Holder start name,
      holder.member.isAccessor = false)
    {getter setter : Option Handle} :
    machine.resolve start name ≠ .ok (.accessor getter setter) := by
  intro resolved
  obtain ⟨holder, leads⟩ := exists_holder_of_resolve resolved nofun
  have plain := noAccessor holder
  rw [Member.isAccessor_of_resolution leads] at plain
  cases plain

/-- No object from the start on along its prototypes has such a property. -/
def NoProperty
    (machine : Machine)
    (start : Handle)
    (name : String) :
    Prop :=
  ∀ distance handle object,
    machine.heap.climb distance start = some handle →
      machine.heap.get? handle = some object → object.own? name = none

/-- A chain has no such property if its first object and the rest have none. -/
theorem NoProperty.cons
    {object : ScriptObject}
    (live : machine.heap.get? start = some object)
    (absent : object.own? name = none)
    (above : ∀ parent,
      object.prototype = some parent → machine.NoProperty parent name) :
    machine.NoProperty start name := by
  intro distance handle found reached isFound
  cases distance with
  | zero =>
      cases reached
      rw [live] at isFound
      cases isFound
      exact absent
  | succ distance =>
      rw [Heap.climb_succ_of_live live] at reached
      obtain ⟨parent, isParent, rest⟩ := Option.bind_eq_some_iff.mp reached
      exact above parent isParent distance handle found rest isFound

/-- Where there are no properties, a name can only belong to an element. -/
theorem NoProperty.no_accessor
    (noProperty : machine.NoProperty start name)
    (holder : machine.Holder start name) :
    holder.member.isAccessor = false := by
  have absent :=
    noProperty holder.distance holder.handle holder.object holder.reached
      holder.live
  have has := holder.has
  rw [ScriptObject.member?, absent] at has
  split at has
  · rw [← Option.some.inj has]
    rfl
  · cases has

/-- A name that leads nowhere because of an error leads to a gap. -/
theorem resolve_error
    {fault : Fault}
    (refused : machine.resolve start name = .error fault) :
    ∃ gap : machine.Gap start name,
      fault = .danglingReference gap.handle := by
  rcases machine.heap.holder_or_gap_or_clear
      machine.configuration.maxPrototypeDepth start name with
    ⟨⟨holder⟩⟩ | ⟨⟨gap⟩⟩ | clear
  · rw [resolve_holder holder] at refused
    cases refused
  · rw [resolve_gap gap] at refused
    cases refused
    exact ⟨gap, rfl⟩
  · rw [resolve, resolveWithin_missing clear] at refused
    cases refused

end Machine

namespace Edit

variable {machine after : Machine} {handle : Handle}
variable {object : ScriptObject} {name : String} {value : Value}

/-- A write under the name of an element that writes reach goes there. -/
theorem writeMember_element
    {index : Nat}
    (live : machine.heap.get? handle = some object)
    (target : object.elementTarget? name = some index) :
    (writeMember handle name value).run machine =
      .ok .done
        { machine with
          heap :=
            machine.heap.modify handle (·.withElement index value) } := by
  obtain ⟨⟨elements, array⟩, indexed, small⟩ :=
    ScriptObject.elementTarget?_eq_some_iff.mp target
  rw [writeMember, EStateM.run_bind,
    ask_run (Machine.object_of_get? live)]
  dsimp only
  rw [ScriptObject.content_of_elements? array, indexed]
  dsimp only
  rw [if_pos small, EStateM.run_bind, modifyObject_run live]
  rfl

/-- Any other write goes to a property. -/
theorem writeMember_property
    (live : machine.heap.get? handle = some object)
    (noTarget : object.elementTarget? name = none) :
    (writeMember handle name value).run machine =
      (writeMember.writeProperty handle name value object).run machine := by
  rw [writeMember, EStateM.run_bind,
    ask_run (Machine.object_of_get? live)]
  dsimp only
  split
  · rename_i elements index content indexed
    have array : object.elements? = some elements := by
      simp [ScriptObject.elements?, content]
    rw [if_neg]
    intro small
    rw [ScriptObject.elementTarget?_eq_some_iff.mpr
      ⟨⟨elements, array⟩, indexed, small⟩] at noTarget
    cases noTarget
  · rfl

/-- What can come of a write, up to the call of a setter. -/
inductive WriteOutcome
    (machine : Machine)
    (handle : Handle)
    (name : String)
    (value : Value) :
    EStateM.Result Fault Machine Write → Prop where
  /-- A handle on the way is gone. -/
  | dangling (gap : machine.Gap handle name) :
      WriteOutcome machine handle name value
        (.error (.danglingReference gap.handle) machine)
  /-- The name leads to an accessor that cannot be written. -/
  | noSetter {getter : Option Handle} :
      machine.resolve handle name = .ok (.accessor getter none) →
        WriteOutcome machine handle name value
          (.error (.noSetter name) machine)
  /-- The name leads to an accessor that can. -/
  | setter {getter : Option Handle} {setter : Handle} :
      machine.resolve handle name = .ok (.accessor getter (some setter)) →
        WriteOutcome machine handle name value (.ok (.setter setter) machine)
  /-- A read-only property has swallowed the value. -/
  | swallowed {object : ScriptObject} {stored : Value}
      {enumerable configurable : Bool} :
      machine.heap.get? handle = some object →
        object.own? name =
            some (.data stored false enumerable configurable) →
          WriteOutcome machine handle name value (.ok .done machine)
  /-- The object has what was written. -/
  | written {object : ScriptObject} {change : ScriptObject → ScriptObject} :
      machine.heap.get? handle = some object →
        object.Written name value (change object) →
          WriteOutcome machine handle name value
            (.ok .done
              { machine with heap := machine.heap.modify handle change })

theorem writeResolved_outcome
    {resolution : Resolution}
    (live : machine.heap.get? handle = some object)
    (noTarget : object.elementTarget? name = none)
    (resolved : machine.resolve handle name = .ok resolution) :
    WriteOutcome machine handle name value
      ((writeResolved handle name value resolution).run machine) := by
  have plain
      (noAccessor : ∀ getter setter,
        resolution ≠ .accessor getter setter) :
      WriteOutcome machine handle name value
        ((writeResolved handle name value resolution).run machine) := by
    rw [writeResolved_plain live noAccessor]
    exact .written live (.property noTarget)
  cases resolution with
  | value stored => exact plain nofun
  | missing => exact plain nofun
  | accessor getter setter =>
      cases setter with
      | none => exact .noSetter resolved
      | some setter => exact .setter resolved

/-- A write comes out in one of these ways. -/
theorem writeMember_outcome
    (machine : Machine)
    (handle : Handle)
    (name : String)
    (value : Value) :
    WriteOutcome machine handle name value
      ((writeMember handle name value).run machine) := by
  cases live : machine.heap.get? handle with
  | none =>
      have gone :
          machine.object handle = .error (.danglingReference handle) := by
        simp [Machine.object, live]
      rw [writeMember, EStateM.run_bind, ask_refused gone]
      exact .dangling
        ⟨0, handle, Nat.zero_le _, rfl, live,
          fun _ below => absurd below (Nat.not_lt_zero _)⟩
  | some object =>
      cases target : object.elementTarget? name with
      | some index =>
          rw [writeMember_element live target]
          exact .written live (.element target)
      | none =>
          rw [writeMember_property live target]
          by_cases noData : ∀ stored writable enumerable configurable,
              object.own? name ≠
                some (.data stored writable enumerable configurable)
          · rw [writeProperty_of_no_data noData, EStateM.run_bind]
            cases resolved : machine.resolve handle name with
            | error fault =>
                obtain ⟨gap, rfl⟩ := Machine.resolve_error resolved
                rw [ask_refused resolved]
                exact .dangling gap
            | ok resolution =>
                rw [ask_run resolved]
                exact writeResolved_outcome live target resolved
          · simp only [not_forall, not_not] at noData
            obtain ⟨stored, writable, enumerable, configurable, own⟩ :=
              noData
            cases writable with
            | true =>
                rw [writeProperty_writable live own]
                exact .written live (.property target)
            | false =>
                rw [writeProperty_readOnly own]
                exact .swallowed live own

end Edit

namespace ArrayClass

variable {machine : Machine} {handle : Handle} {object : ScriptObject}
variable {elements : Array Value}

theorem receiverOf_array
    (live : machine.heap.get? handle = some object)
    (array : object.elements? = some elements) :
    (receiverOf (.object handle)).run machine =
      .ok (handle, elements) machine := by
  have asked :
      (Edit.ask (·.object handle)).run machine = .ok object machine :=
    Edit.ask_run (Machine.object_of_get? live)
  rw [receiverOf, EStateM.run_bind, asked]
  dsimp only
  rw [array]
  rfl

/-- The length of an array is the number of its elements. -/
theorem length_array
    (live : machine.heap.get? handle = some object)
    (array : object.elements? = some elements) :
    (length (.object handle)).run machine =
      .ok (lengthValue elements.size) machine := by
  rw [length, EStateM.run_bind, receiverOf_array live array]
  rfl

/-- Pushing appends to an array, however long it is. -/
theorem push_array
    (live : machine.heap.get? handle = some object)
    (array : object.elements? = some elements)
    (arguments : List Value) :
    ∃ after,
      (push (.object handle) arguments).run machine =
          .ok (lengthValue (elements ++ arguments.toArray).size) after ∧
        machine.ChangesOnly handle
          { object with content := .array (elements ++ arguments.toArray) }
          after := by
  refine ⟨_, ?_, Machine.changesOnly_modify live fun object =>
    { object with content := .array (elements ++ arguments.toArray) }⟩
  rw [push, EStateM.run_bind, receiverOf_array live array]
  dsimp only
  rw [EStateM.run_bind, Edit.setContent, Edit.modifyObject_run live]
  rfl

end ArrayClass

namespace Act

variable {σ : Type} {calls : Calls σ} {session after : Session σ}
variable {handle : Handle} {object : ScriptObject} {name : String}
variable {value : Value}

/--
A write that succeeds where the name leads to no accessor was swallowed by a
read-only property, or the object has what was written.
-/
theorem setMember_ok
    (noAccessor : ∀ holder : session.machine.Holder handle name,
      holder.member.isAccessor = false)
    (ok : setMember handle name value calls session = .ok () after) :
    ∃ object,
      session.machine.heap.get? handle = some object ∧
        (after = session ∧
            (∃ stored enumerable configurable,
              object.own? name =
                some (.data stored false enumerable configurable)) ∨
          ∃ change : ScriptObject → ScriptObject,
            object.Written name value (change object) ∧
              after =
                ⟨{ session.machine with
                    heap := session.machine.heap.modify handle change },
                  session.host⟩) := by
  have outcome :=
    Edit.writeMember_outcome session.machine handle name value
  generalize ran :
    (Edit.writeMember handle name value).run session.machine = result
    at outcome
  cases outcome with
  | dangling gap =>
      rw [setMember_refused ran] at ok
      cases ok
  | noSetter resolved =>
      rw [setMember_refused ran] at ok
      cases ok
  | setter resolved =>
      exact absurd resolved (Machine.resolve_ne_accessor noAccessor)
  | swallowed live own =>
      rw [setMember_done ran] at ok
      cases ok
      exact ⟨_, live, .inl ⟨rfl, _, _, _, own⟩⟩
  | written live written =>
      rw [setMember_done ran] at ok
      cases ok
      exact ⟨_, live, .inr ⟨_, written, rfl⟩⟩

/-- What an object itself has is what its name is read as. -/
theorem getMember_own
    {member : Member}
    (live : session.machine.heap.get? handle = some object)
    (has : object.member? name = some member)
    (leads : member.resolution = .value value) :
    getMember handle name calls session = .ok value session := by
  have resolved := Machine.resolve_holder (Heap.Holder.here
    session.machine.configuration.maxPrototypeDepth live has)
  rw [getMember, bind_ok (ask_ok resolved)]
  exact leads ▸ rfl

/-- An element is what its name is read as. -/
theorem getMember_element
    {elements : Array Value}
    {position : Nat}
    (live : session.machine.heap.get? handle = some object)
    (array : object.elements? = some elements)
    (addressable : position < indexBound)
    (present : elements[position]? = some value) :
    getMember handle (elementName position) calls session =
      .ok value session := by
  have indexed : elementIndex? (elementName position) = some position :=
    elementIndex?_eq_some_iff.mpr ⟨rfl, addressable⟩
  have has :
      object.member? (elementName position) = some (.element value) := by
    apply ScriptObject.member?_of_element
    rw [ScriptObject.element?_of_elements? array, indexed]
    exact present
  exact getMember_own live has rfl

/-- A write succeeds if the name leads to no accessor and no gap. -/
theorem exists_setMember_ok
    (noGap : IsEmpty (session.machine.Gap handle name))
    (noAccessor : ∀ holder : session.machine.Holder handle name,
      holder.member.isAccessor = false)
    (calls : Calls σ)
    (value : Value) :
    ∃ after, setMember handle name value calls session = .ok () after := by
  have outcome :=
    Edit.writeMember_outcome session.machine handle name value
  generalize ran :
    (Edit.writeMember handle name value).run session.machine = result
    at outcome
  cases outcome with
  | dangling gap => exact noGap.elim gap
  | noSetter resolved =>
      exact absurd resolved (Machine.resolve_ne_accessor noAccessor)
  | setter resolved =>
      exact absurd resolved (Machine.resolve_ne_accessor noAccessor)
  | swallowed live own => exact ⟨_, setMember_done ran⟩
  | written live written => exact ⟨_, setMember_done ran⟩

/-- A write that meets no property is made, and is all that happens. -/
theorem setMember_ok_of_no_property
    (live : session.machine.heap.get? handle = some object)
    (noProperty : session.machine.NoProperty handle name)
    (ok : setMember handle name value calls session = .ok () after) :
    after.host = session.host ∧
      ∃ changed,
        session.machine.ChangesOnly handle changed after.machine ∧
          object.Written name value changed := by
  obtain ⟨found, isFound, outcome⟩ :=
    setMember_ok noProperty.no_accessor ok
  rw [live] at isFound
  cases isFound
  rcases outcome with ⟨_, _, _, _, own⟩ | ⟨change, written, rfl⟩
  · rw [noProperty 0 handle object rfl live] at own
    cases own
  · exact ⟨rfl, _, Machine.changesOnly_modify live change, written⟩

/-- A write to an element that writes do not reach is hidden by the element. -/
theorem setMember_hidden
    {elements : Array Value}
    {index : Nat}
    {stored : Value}
    (live : session.machine.heap.get? handle = some object)
    (array : object.elements? = some elements)
    (addressable : index < indexBound)
    (noProperty : session.machine.NoProperty handle (elementName index))
    (large : maxArrayLength ≤ index)
    (present : elements[index]? = some stored)
    (value : Value) :
    ∃ after,
      setMember handle (elementName index) value calls session =
          .ok () after ∧
        getMember handle (elementName index) calls after =
          .ok stored after := by
  have indexed : elementIndex? (elementName index) = some index :=
    elementIndex?_eq_some_iff.mpr ⟨rfl, addressable⟩
  have noTarget : object.elementTarget? (elementName index) = none := by
    simp [ScriptObject.elementTarget?, array, indexed, large]
  have noGap :
      IsEmpty (session.machine.Gap handle (elementName index)) := by
    constructor
    intro gap
    have lacks := gap.start_lacks live
    rw [ScriptObject.member?_eq_none_iff,
      ScriptObject.element?_of_elements? array, indexed,
      Option.bind_some, present] at lacks
    cases lacks.1
  obtain ⟨after, ok⟩ :=
    exists_setMember_ok noGap noProperty.no_accessor calls value
  obtain ⟨-, changed, changes, written⟩ :=
    setMember_ok_of_no_property live noProperty ok
  have kept := written.elements?_of_array array
  rw [noTarget] at kept
  exact ⟨after, ok,
    getMember_element changes.here kept addressable present⟩

/--
A write to an element of an array is kept, as long as no object along the chain
of prototypes has a property of that name.  It succeeds if writes reach the
element or no gap is in the way.  Then the array has changed and nothing else:
the name reads as the value and the names of all other elements as before; a
write within the greatest length stretches the array just so far, with undefined
elements in between, and any other write leaves the length as it is.  What is
not kept is a write to an element that is there and that writes do not reach:
the name goes on reading as that element.
-/
theorem setMember_element_kept
    (calls : Calls σ)
    (session : Session σ)
    {handle : Handle}
    {object : ScriptObject}
    {elements : Array Value}
    {index : Nat}
    (live : session.machine.heap.get? handle = some object)
    (array : object.elements? = some elements)
    (addressable : index < indexBound)
    (noProperty : session.machine.NoProperty handle (elementName index))
    (value : Value) :
    (index < maxArrayLength ∨
        IsEmpty (session.machine.Gap handle (elementName index)) →
      ∃ after,
        setMember handle (elementName index) value calls session =
          .ok () after) ∧
    ∀ after,
      setMember handle (elementName index) value calls session =
          .ok () after →
        ∃ changed kept,
          after.host = session.host ∧
          session.machine.ChangesOnly handle changed after.machine ∧
          changed.elements? = some kept ∧
          (ArrayClass.length (.object handle)).run after.machine =
            .ok (lengthValue kept.size) after.machine ∧
          (index < maxArrayLength ∨ elements.size ≤ index →
            getMember handle (elementName index) calls after =
              .ok value after) ∧
          (maxArrayLength ≤ index →
            ∀ stored,
              elements[index]? = some stored →
                getMember handle (elementName index) calls after =
                  .ok stored after) ∧
          (∀ other stored,
            other < indexBound →
              other ≠ index →
                elements[other]? = some stored →
                  getMember handle (elementName other) calls after =
                    .ok stored after) ∧
          (index < maxArrayLength →
            kept.size = max elements.size (index + 1) ∧
              ∀ between,
                elements.size ≤ between →
                  between < index →
                    getMember handle (elementName between) calls after =
                      .ok .undefined after) ∧
          (maxArrayLength ≤ index → kept.size = elements.size) := by
  have indexed : elementIndex? (elementName index) = some index :=
    elementIndex?_eq_some_iff.mpr ⟨rfl, addressable⟩
  have target :
      object.elementTarget? (elementName index) =
        if index < maxArrayLength then some index else none := by
    simp [ScriptObject.elementTarget?, array, indexed, Option.filter]
  refine ⟨?_, ?_⟩
  · rintro (small | noGap)
    · rw [if_pos small] at target
      exact ⟨_, setMember_done (Edit.writeMember_element live target)⟩
    · exact exists_setMember_ok noGap noProperty.no_accessor calls value
  · intro after ok
    obtain ⟨sameHost, changed, changes, written⟩ :=
      setMember_ok_of_no_property live noProperty ok
    have kept := written.elements?_of_array array
    have reads (position : Nat) (stored : Value) :=
      @getMember_element σ calls after handle changed stored _ position
        changes.here kept
    refine ⟨changed, _, sameHost, changes, kept,
      ArrayClass.length_array changes.here kept, ?_, ?_, ?_, ?_, ?_⟩
    · intro reachable
      have shown :
          object.overgrown (elementName index) = false := by
        rcases reachable with small | beyond
        · simp [ScriptObject.overgrown, target, small]
        · simp [ScriptObject.overgrown, beyond, indexed,
            ScriptObject.element?_of_elements? array]
      obtain ⟨member, has, leads⟩ := written.member?_self shown
      exact getMember_own changes.here has leads
    · intro large stored present
      apply reads _ _ addressable
      rw [target, if_neg (Nat.not_lt.mpr large)]
      exact present
    · intro other stored within different present
      apply reads _ _ within
      obtain ⟨below, -⟩ := Array.getElem?_eq_some_iff.mp present
      rw [target]
      split
      · simp [ScriptObject.getElem?_writeElement, different, below,
          ← present]
      · exact present
    · intro small
      rw [target, if_pos small]
      refine ⟨ScriptObject.size_writeElement elements index value, ?_⟩
      intro between absent before
      apply reads _ _ (before.trans addressable)
      rw [target, if_pos small]
      simp [ScriptObject.getElem?_writeElement, before.ne, before,
        Nat.not_lt.mpr absent]
    · intro large
      rw [target, if_neg (Nat.not_lt.mpr large)]
      rfl

end Act

/-- An array of one element whose prototype has a property `"2"`. -/
def Machine.listed : Machine :=
  { Machine.bare .standard 0 with
    heap :=
      Heap.run
        [.alloc .blank, .alloc .blank,
          .alloc (.new (some ⟨3, 0⟩) (.array #[.integer 10])),
          .alloc
            ((ScriptObject.new none .ordinary).withProperty "2"
              (.plain .null))] }

/--
The array is stretched up to the fourth element, and the inherited property is
hidden by the padding; a write far beyond becomes a property.
-/
theorem Act.setMember_element_kept_listed :
    (∃ after,
      setMember ⟨2, 0⟩ "3" (.integer 5) (Host.echoing.calls 2)
          ⟨Machine.listed, ()⟩ = .ok () after ∧
        getMember ⟨2, 0⟩ "3" (Host.echoing.calls 2) after =
          .ok (.integer 5) after ∧
        getMember ⟨2, 0⟩ "0" (Host.echoing.calls 2) after =
          .ok (.integer 10) after ∧
        getMember ⟨2, 0⟩ "2" (Host.echoing.calls 2) after =
          .ok .undefined after ∧
        (ArrayClass.length (.object ⟨2, 0⟩)).run after.machine =
          .ok (.integer 4) after.machine) ∧
    ∃ after,
      setMember ⟨2, 0⟩ "1048576" (.integer 5) (Host.echoing.calls 2)
          ⟨Machine.listed, ()⟩ = .ok () after ∧
        getMember ⟨2, 0⟩ "1048576" (Host.echoing.calls 2) after =
          .ok (.integer 5) after ∧
        (ArrayClass.length (.object ⟨2, 0⟩)).run after.machine =
          .ok (.integer 1) after.machine := by
  have live :
      Machine.listed.heap.get? ⟨2, 0⟩ =
        some (.new (some ⟨3, 0⟩) (.array #[.integer 10])) :=
    rfl
  have above :
      Machine.listed.heap.get? ⟨3, 0⟩ =
        some ((ScriptObject.new none .ordinary).withProperty "2"
          (.plain .null)) :=
    rfl
  have noProperty (name : String) (different : name ≠ "2") :
      Machine.listed.NoProperty ⟨2, 0⟩ name := by
    refine .cons live rfl ?_
    rintro parent ⟨⟩
    refine .cons above ?_ nofun
    rw [ScriptObject.own?_withProperty, if_neg different]
    rfl
  have noGap : IsEmpty (Machine.listed.Gap ⟨2, 0⟩ "1048576") := by
    constructor
    intro gap
    have refused := Machine.resolve_gap gap
    cases refused
  refine ⟨?_, ?_⟩
  · obtain ⟨succeeds, kept⟩ :=
      setMember_element_kept (Host.echoing.calls 2)
        ⟨Machine.listed, ()⟩ live rfl (by decide : 3 < indexBound)
        (noProperty _ (by decide)) (.integer 5)
    obtain ⟨after, ok⟩ := succeeds (.inl (by decide))
    obtain ⟨changed, elements, -, -, -, length, written, -, others, grown, -⟩ :=
      kept after ok
    obtain ⟨size, padded⟩ := grown (by decide)
    rw [size] at length
    exact ⟨after, ok, written (.inl (by decide)),
      others 0 _ (by decide) (by decide) rfl,
      padded 2 (by decide) (by decide), length⟩
  · obtain ⟨succeeds, kept⟩ :=
      setMember_element_kept (Host.echoing.calls 2)
        ⟨Machine.listed, ()⟩ live rfl (by decide : 1048576 < indexBound)
        (noProperty _ (by decide)) (.integer 5)
    obtain ⟨after, ok⟩ := succeeds (.inr noGap)
    obtain ⟨changed, elements, -, -, -, length, written, -, -, -, same⟩ :=
      kept after ok
    rw [same (by decide)] at length
    exact ⟨after, ok, written (.inr (by decide)), length⟩

/-- An array that is as long as writes can make it. -/
def Machine.stretched : Machine :=
  { Machine.bare .standard 0 with
    heap :=
      Heap.run
        [.alloc .blank, .alloc .blank,
          .alloc
            (.new none
              (.array (Array.replicate maxArrayLength .undefined)))] }

/--
An element that was pushed behind the greatest length cannot be written: the
write succeeds and the name goes on reading as what was pushed.
-/
theorem Act.setMember_element_lost_stretched :
    ∃ pushed after : Machine,
      (ArrayClass.push (.object ⟨2, 0⟩) [.integer 1]).run
          Machine.stretched = .ok (.integer 1048577) pushed ∧
        pushed.NoProperty ⟨2, 0⟩ "1048576" ∧
        setMember ⟨2, 0⟩ "1048576" (.integer 5) (Host.echoing.calls 2)
            ⟨pushed, ()⟩ = .ok () ⟨after, ()⟩ ∧
        getMember ⟨2, 0⟩ "1048576" (Host.echoing.calls 2) ⟨after, ()⟩ =
          .ok (.integer 1) ⟨after, ()⟩ := by
  have live : Machine.stretched.heap.get? ⟨2, 0⟩ = some _ := rfl
  obtain ⟨pushed, pushes, grown⟩ :=
    ArrayClass.push_array live rfl [.integer 1]
  have size :
      (Array.replicate maxArrayLength Value.undefined ++
        [Value.integer 1].toArray).size = maxArrayLength + 1 := by
    simp
  have last :
      (Array.replicate maxArrayLength Value.undefined ++
        [Value.integer 1].toArray)[maxArrayLength]? = some (.integer 1) := by
    rw [Array.getElem?_append_right (by simp)]
    simp
  rw [size] at pushes
  have noProperty : pushed.NoProperty ⟨2, 0⟩ "1048576" :=
    .cons grown.here rfl nofun
  obtain ⟨after, ok, reads⟩ :=
    @setMember_hidden Unit (Host.echoing.calls 2) ⟨pushed, ()⟩ ⟨2, 0⟩ _ _
      maxArrayLength _ grown.here rfl (by decide) noProperty
      (Nat.le_refl _) last (.integer 5)
  exact ⟨pushed, after.machine, pushes, noProperty, ok, reads⟩

end MovieScript
