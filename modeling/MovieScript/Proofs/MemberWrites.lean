import MovieScript.Proofs.MemberQueries

namespace MovieScript

/-!
# Writes to members

A write to an object that is no array is settled by its own property of that
name or else by the holder of the name: a read-only property swallows it, an
accessor takes it over, and everything else makes it a write to one place of the
one object.  If anything stands in the way, no object changes.
-/

/-- The member is a pair of accessor functions. -/
def Member.isAccessor : Member → Bool
  | .element _ => false
  | .property held => held.isAccessor

namespace ScriptObject

variable {object : ScriptObject} {name : String}

/--
The object gets a property under a name, in the place of the property it had
there or else behind all others.  Nothing else about it changes.
-/
structure Receives
    (before : ScriptObject)
    (name : String)
    (property : Property)
    (after : ScriptObject) :
    Prop where
  entries :
    (∃ front old back,
      before.properties.entries = front ++ (name, old) :: back ∧
        after.properties.entries = front ++ (name, property) :: back) ∨
    (before.own? name = none ∧
      after.properties.entries =
        before.properties.entries ++ [(name, property)])
  prototype : after.prototype = before.prototype
  constructor : after.constructor = before.constructor
  content : after.content = before.content

theorem receives_withProperty
    (object : ScriptObject)
    (name : String)
    (property : Property) :
    object.Receives name property (object.withProperty name property) where
  entries := by
    cases own : object.own? name with
    | none =>
        exact .inr ⟨rfl, Table.entries_insert_of_absent own property⟩
    | some old =>
        obtain ⟨front, back, before, after⟩ :=
          Table.entries_insert_of_present own property
        exact .inl ⟨front, old, back, before, after⟩
  prototype := rfl
  constructor := rfl
  content := rfl

theorem own?_withProperty
    (object : ScriptObject)
    (name : String)
    (property : Property)
    (query : String) :
    (object.withProperty name property).own? query =
      if query = name then some property else object.own? query :=
  Table.get?_insert object.properties name property query

/-- A property is not in the way of the elements. -/
theorem element?_withProperty
    (object : ScriptObject)
    (name : String)
    (property : Property)
    (query : String) :
    (object.withProperty name property).element? query =
      object.element? query :=
  rfl

/-- A property that was put in is the member, unless an element hides it. -/
theorem member?_withProperty
    (noElement : object.element? name = none)
    (property : Property) :
    (object.withProperty name property).member? name =
      some (.property property) := by
  rw [member?_of_no_element
    (by rw [element?_withProperty]; exact noElement), own?_withProperty]
  simp

end ScriptObject

namespace Machine

variable {machine : Machine} {handle : Handle} {object : ScriptObject}
variable {name : String}

/-- One object has changed, into another, and nothing else has. -/
structure ChangesOnly
    (before : Machine)
    (handle : Handle)
    (changed : ScriptObject)
    (after : Machine) :
    Prop where
  here : after.heap.get? handle = some changed
  others : ∀ other,
    other ≠ handle → after.heap.get? other = before.heap.get? other
  aside : after = { before with heap := after.heap }

theorem changesOnly_modify
    (live : machine.heap.get? handle = some object)
    (change : ScriptObject → ScriptObject) :
    machine.ChangesOnly handle (change object)
      { machine with heap := machine.heap.modify handle change } where
  here := by
    simp [Heap.get?_modify, live]
  others := by
    intro other different
    simp [Heap.get?_modify, different]
  aside := rfl

/-- Before a gap comes an object that lacks the member. -/
theorem Gap.start_lacks
    (gap : machine.Gap handle name)
    (live : machine.heap.get? handle = some object) :
    object.member? name = none := by
  obtain ⟨distance, gone, near, reached, dead, first⟩ := gap
  cases distance with
  | zero =>
      cases reached
      rw [live] at dead
      cases dead
  | succ distance =>
      obtain ⟨found, isFound, lacks⟩ := first.head
      rw [live] at isFound
      cases isFound
      exact lacks

/-- An object below an accessor has no data of that name itself. -/
theorem Holder.no_data
    (holder : machine.Holder handle name)
    (accessor : holder.member.isAccessor = true)
    (live : machine.heap.get? handle = some object)
    (noArray : object.elements? = none) :
    ∀ value writable enumerable configurable,
      object.own? name ≠
        some (.data value writable enumerable configurable) := by
  intro value writable enumerable configurable own
  have noElement := ScriptObject.element?_of_no_elements noArray name
  have has :
      object.member? name =
        some (.property
          (.data value writable enumerable configurable)) := by
    simp [ScriptObject.member?_of_no_element noElement, own]
  rw [Heap.Holder.member_eq holder live has] at accessor
  cases accessor

end Machine

namespace Edit

variable {machine : Machine} {handle : Handle} {object : ScriptObject}
variable {name : String} {value : Value}

/-- A write to an object that is no array is a write to a property. -/
theorem writeMember_of_no_elements
    (live : machine.heap.get? handle = some object)
    (noArray : object.elements? = none) :
    (writeMember handle name value).run machine =
      (writeMember.writeProperty handle name value object).run machine := by
  rw [writeMember, EStateM.run_bind,
    ask_run (Machine.object_of_get? live)]
  dsimp only
  split
  · rename_i isArray _
    simp [ScriptObject.elements?, isArray] at noArray
  · rfl

/-- A writable property of the object itself takes the value. -/
theorem writeProperty_writable
    {stored : Value}
    {enumerable configurable : Bool}
    (live : machine.heap.get? handle = some object)
    (own :
      object.own? name = some (.data stored true enumerable configurable)) :
    (writeMember.writeProperty handle name value object).run machine =
      .ok .done
        { machine with
          heap :=
            machine.heap.modify handle
              (·.withProperty name
                (.data value true enumerable configurable)) } := by
  rw [writeMember.writeProperty, own]
  dsimp only
  rw [EStateM.run_bind, modifyObject_run live]
  rfl

/-- A read-only property of the object itself swallows the value. -/
theorem writeProperty_readOnly
    {stored : Value}
    {enumerable configurable : Bool}
    (own :
      object.own? name = some (.data stored false enumerable configurable)) :
    (writeMember.writeProperty handle name value object).run machine =
      .ok .done machine := by
  rw [writeMember.writeProperty, own]
  rfl

/-- What becomes of a write where the name leads. -/
def writeResolved
    (handle : Handle)
    (name : String)
    (value : Value) :
    Resolution → Edit Write
  | .accessor _ (some setter) => return .setter setter
  | .accessor _ none => throw (.noSetter name)
  | _ => do
      modifyObject handle (·.withProperty name (.plain value))
      return .done

/-- Without data of its own an object asks where the name leads. -/
theorem writeProperty_of_no_data
    (noData : ∀ stored writable enumerable configurable,
      object.own? name ≠
        some (.data stored writable enumerable configurable)) :
    writeMember.writeProperty handle name value object =
      ask (·.resolve handle name) >>= writeResolved handle name value := by
  rw [writeMember.writeProperty]
  split
  · rename_i own
    exact absurd own (noData _ _ _ _)
  · rename_i own
    exact absurd own (noData _ _ _ _)
  · rfl

/-- A name that leads to no accessor becomes a new property. -/
theorem writeResolved_plain
    {resolution : Resolution}
    (live : machine.heap.get? handle = some object)
    (plain : ∀ getter setter, resolution ≠ .accessor getter setter) :
    (writeResolved handle name value resolution).run machine =
      .ok .done
        { machine with
          heap :=
            machine.heap.modify handle
              (·.withProperty name (.plain value)) } := by
  cases resolution with
  | accessor getter setter => exact absurd rfl (plain getter setter)
  | value stored =>
      rw [writeResolved, EStateM.run_bind, modifyObject_run live]
      · rfl
      · exact nofun
      · exact nofun
  | missing =>
      rw [writeResolved, EStateM.run_bind, modifyObject_run live]
      · rfl
      · exact nofun
      · exact nofun

end Edit

namespace Act

variable {σ : Type} {calls : Calls σ} {session : Session σ}
variable {handle : Handle} {object : ScriptObject} {name : String}
variable {value : Value}

/--
The write puts a property into one place of the one object, where reading finds
the value, and does nothing else.
-/
def Stores
    (calls : Calls σ)
    (session : Session σ)
    (handle : Handle)
    (object : ScriptObject)
    (name : String)
    (value : Value)
    (property : Property) :
    Prop :=
  ∃ after changed,
    setMember handle name value calls session =
        .ok () ⟨after, session.host⟩ ∧
      session.machine.ChangesOnly handle changed after ∧
        object.Receives name property changed ∧
          getMember handle name calls ⟨after, session.host⟩ =
            .ok value ⟨after, session.host⟩

/-- A write that needs no setter is over with the edit. -/
theorem setMember_done
    {after : Machine}
    (written :
      (Edit.writeMember handle name value).run session.machine =
        .ok .done after) :
    setMember handle name value calls session =
      .ok () ⟨after, session.host⟩ := by
  have lifted :
      (liftM (Edit.writeMember handle name value) : Act σ Edit.Write)
        calls session = _ :=
    lift_ok written
  exact (bind_ok lifted _).trans rfl

/-- A write that cannot be made changes nothing. -/
theorem setMember_refused
    {fault : Fault}
    (refused :
      (Edit.writeMember handle name value).run session.machine =
        .error fault session.machine) :
    setMember handle name value calls session =
      .error (.fault fault) session := by
  have lifted :
      (liftM (Edit.writeMember handle name value) : Act σ Edit.Write)
        calls session = _ :=
    lift_error refused
  exact (bind_error lifted _).trans rfl

/-- A write that a setter takes over is a call of that setter. -/
theorem setMember_setter
    {setter : Handle}
    (handedOver :
      (Edit.writeMember handle name value).run session.machine =
        .ok (.setter setter) session.machine) :
    setMember handle name value calls session =
      (discard (call (.object setter) (.object handle) [value]) :
        Act σ Unit) calls session := by
  have lifted :
      (liftM (Edit.writeMember handle name value) : Act σ Edit.Write)
        calls session = _ :=
    lift_ok handedOver
  exact (bind_ok lifted _).trans rfl

/-- A property that was written into an object is found there. -/
theorem stores_of_written
    {enumerable configurable : Bool}
    (live : session.machine.heap.get? handle = some object)
    (noArray : object.elements? = none)
    (written :
      (Edit.writeMember handle name value).run session.machine =
        .ok .done
          { session.machine with
            heap :=
              session.machine.heap.modify handle
                (·.withProperty name
                  (.data value true enumerable configurable)) }) :
    Stores calls session handle object name value
      (.data value true enumerable configurable) := by
  have changes := Machine.changesOnly_modify live
    (·.withProperty name (.data value true enumerable configurable))
  refine ⟨_, _, setMember_done written, changes,
    object.receives_withProperty name _, ?_⟩
  have has := ScriptObject.member?_withProperty
    (ScriptObject.element?_of_no_elements noArray name)
    (.data value true enumerable configurable)
  exact @getMember_holder σ calls ⟨_, session.host⟩ handle name
    (.here _ changes.here has)

/--
A write to an object that is no array changes one place of it or nothing.  A
writable property of the object itself takes the value, keeping its place and
its attributes; a name that leads to data or nowhere becomes the last property,
writable, listed and removable; a read-only property swallows the write.  An
accessor without a setter is a fault, and so is a gap that comes before the
name, and then nothing has changed.  A setter is called once, on the object and
with the value, and nothing else is done.
-/
theorem setMember_changes_one_place
    (calls : Calls σ)
    (session : Session σ)
    {handle : Handle}
    {object : ScriptObject}
    (live : session.machine.heap.get? handle = some object)
    (noArray : object.elements? = none)
    (name : String)
    (value : Value) :
    (∀ stored enumerable configurable,
      object.own? name =
          some (.data stored true enumerable configurable) →
        Stores calls session handle object name value
          (.data value true enumerable configurable)) ∧
    (object.own? name = none →
      IsEmpty (session.machine.Gap handle name) →
        (∀ holder : session.machine.Holder handle name,
          holder.member.isAccessor = false) →
          Stores calls session handle object name value
            (.data value true true true)) ∧
    (∀ stored enumerable configurable,
      object.own? name =
          some (.data stored false enumerable configurable) →
        setMember handle name value calls session = .ok () session) ∧
    (∀ (holder : session.machine.Holder handle name)
        getter enumerable configurable,
      holder.member =
          .property (.accessor getter none enumerable configurable) →
        setMember handle name value calls session =
          .error (.fault (.propertyAccess name "has no setter")) session) ∧
    (∀ gap : session.machine.Gap handle name,
      setMember handle name value calls session =
        .error (.fault (.danglingReference gap.handle)) session) ∧
    ∀ (holder : session.machine.Holder handle name)
        getter setter enumerable configurable,
      holder.member =
          .property
            (.accessor getter (some setter) enumerable configurable) →
        setMember handle name value calls session =
          (discard (call (.object setter) (.object handle) [value]) :
            Act σ Unit) calls session := by
  have toProperty :
      (Edit.writeMember handle name value).run session.machine = _ :=
    Edit.writeMember_of_no_elements live noArray
  have asks
      (noData : ∀ stored writable enumerable configurable,
        object.own? name ≠
          some (.data stored writable enumerable configurable)) :
      (Edit.writeMember handle name value).run session.machine =
        (Edit.ask (·.resolve handle name) >>=
          Edit.writeResolved handle name value).run session.machine := by
    rw [toProperty, Edit.writeProperty_of_no_data noData]
  refine ⟨?_, ?_, ?_, ?_, ?_, ?_⟩
  · intro stored enumerable configurable own
    apply stores_of_written live noArray
    rw [toProperty, Edit.writeProperty_writable live own]
  · intro absent noGap noAccessor
    apply stores_of_written live noArray
    rw [asks (by simp [absent]), EStateM.run_bind]
    rcases isEmpty_or_nonempty (session.machine.Holder handle name) with
      noHolder | ⟨⟨holder⟩⟩
    · rw [Edit.ask_run (Machine.resolve_missing noHolder noGap)]
      exact Edit.writeResolved_plain live nofun
    · rw [Edit.ask_run (Machine.resolve_holder holder)]
      refine Edit.writeResolved_plain live fun getter setter => ?_
      have plain := noAccessor holder
      revert plain
      cases holder.member with
      | element stored => exact nofun
      | property held =>
          cases held with
          | data stored writable enumerable configurable => exact nofun
          | accessor getter setter enumerable configurable => exact nofun
  · intro stored enumerable configurable own
    apply setMember_done
    rw [toProperty, Edit.writeProperty_readOnly own]
  · intro holder getter enumerable configurable accessor
    apply setMember_refused
    rw [asks (holder.no_data (by rw [accessor]; rfl) live noArray),
      EStateM.run_bind, Edit.ask_run (Machine.resolve_holder holder),
      accessor]
    rfl
  · intro gap
    have lacks := gap.start_lacks live
    rw [ScriptObject.member?_eq_none_iff] at lacks
    apply setMember_refused
    rw [asks (by simp [lacks.2]), EStateM.run_bind,
      Edit.ask_refused (Machine.resolve_gap gap)]
  · intro holder getter setter enumerable configurable accessor
    apply setMember_setter
    rw [asks (holder.no_data (by rw [accessor]; rfl) live noArray),
      EStateM.run_bind, Edit.ask_run (Machine.resolve_holder holder),
      accessor]
    rfl

end Act

/--
An object with a writable property and a read-only one.  Its prototype has
data, an accessor without a setter and one with a setter; what comes above is
gone.
-/
def Machine.wired : Machine :=
  { Machine.bare .standard 0 with
    heap :=
      Heap.run
        [.alloc .blank, .alloc .blank,
          .alloc
            (((ScriptObject.new (some ⟨9, 0⟩) .ordinary).withProperty
                  "shared" (.plain .null)).withProperty
                "locked" (.accessors none none) |>.withProperty
              "volume" (.accessors none (some ⟨4, 0⟩))),
          .alloc
            ((ScriptObject.new (some ⟨2, 0⟩) .ordinary).withProperty
                "count" (.hidden .null) |>.withProperty
              "limit" (.constant .null)),
          .alloc (.new none (.function (.native ⟨"volume", .host 0⟩)))] }

/-- Each kind of write to the one object comes out as it should. -/
theorem Act.setMember_changes_one_place_wired :
    ∃ object,
      Machine.wired.heap.get? ⟨3, 0⟩ = some object ∧
        object.elements? = none ∧
          Stores (Host.echoing.calls 2) ⟨Machine.wired, ()⟩ ⟨3, 0⟩ object
            "count" (.integer 5) (.data (.integer 5) true false true) ∧
          Stores (Host.echoing.calls 2) ⟨Machine.wired, ()⟩ ⟨3, 0⟩ object
            "shared" (.integer 5) (.data (.integer 5) true true true) ∧
          setMember ⟨3, 0⟩ "limit" (.integer 5) (Host.echoing.calls 2)
              ⟨Machine.wired, ()⟩ =
            .ok () ⟨Machine.wired, ()⟩ ∧
          setMember ⟨3, 0⟩ "locked" (.integer 5) (Host.echoing.calls 2)
              ⟨Machine.wired, ()⟩ =
            .error (.fault (.propertyAccess "locked" "has no setter"))
              ⟨Machine.wired, ()⟩ ∧
          setMember ⟨3, 0⟩ "other" (.integer 5) (Host.echoing.calls 2)
              ⟨Machine.wired, ()⟩ =
            .error (.fault (.danglingReference ⟨9, 0⟩))
              ⟨Machine.wired, ()⟩ ∧
          setMember ⟨3, 0⟩ "volume" (.integer 5) (Host.echoing.calls 2)
              ⟨Machine.wired, ()⟩ =
            (discard (call (.object ⟨4, 0⟩) (.object ⟨3, 0⟩) [.integer 5]) :
              Act Unit Unit) (Host.echoing.calls 2) ⟨Machine.wired, ()⟩ := by
  have live : Machine.wired.heap.get? ⟨3, 0⟩ = some _ := rfl
  have above : Machine.wired.heap.get? ⟨2, 0⟩ = some _ := rfl
  have outcome (name : String) :=
    setMember_changes_one_place (Host.echoing.calls 2)
      ⟨Machine.wired, ()⟩ live rfl name (.integer 5)
  have inherited
      (name : String)
      {member : Member}
      (lacks : ScriptObject.member? _ name = none)
      (has : ScriptObject.member? _ name = some member) :
      ∃ holder : Machine.wired.Holder ⟨3, 0⟩ name,
        holder.member = member :=
    ⟨(Heap.Holder.here 127 above has).above live rfl lacks, rfl⟩
  refine ⟨_, live, rfl, (outcome "count").1 _ _ _ rfl,
    (outcome "shared").2.1 rfl ⟨fun gap => ?_⟩ fun holder => ?_,
    (outcome "limit").2.2.1 _ _ _ rfl, ?_, ?_, ?_⟩
  · have refused := Machine.resolve_gap gap
    cases refused
  · obtain ⟨found, isData⟩ := inherited "shared" rfl rfl
    rw [Heap.Holder.unique.elim holder found, isData]
    rfl
  · obtain ⟨found, isAccessor⟩ := inherited "locked" rfl rfl
    exact (outcome "locked").2.2.2.1 found _ _ _ isAccessor
  · refine (outcome "other").2.2.2.2.1
      ⟨2, ⟨9, 0⟩, by decide, rfl, rfl, ?_⟩
    refine .cons live rfl ?_
    rintro parent ⟨⟩
    exact .cons above rfl fun _ _ _ below => absurd below (Nat.not_lt_zero _)
  · obtain ⟨found, isAccessor⟩ := inherited "volume" rfl rfl
    exact (outcome "volume").2.2.2.2.2 found _ _ _ _ isAccessor

end MovieScript
