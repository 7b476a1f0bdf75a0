import MovieScript.Classes.Bootstrap
import MovieScript.Proofs.ObjectInvariants

namespace MovieScript

/-!
# Permanent properties

A property that cannot be configured stays on its object for as long as the
object lives, with its kind and its attributes, and with its value if that is
read-only.  Two things can break this: the host may install a method in its
place without asking, and an array that has grown by other means than index
writes may hide an accessor behind an element, which a write then replaces.
-/

/-- The request installs no method in the place of this property. -/
def Request.Spares
    (handle : Handle)
    (name : String)
    {β : Type} :
    Request β → Prop
  | .registerMethod target method _ => ¬(target = handle ∧ method = name)
  | _ => True

/-- No host code installs a method in the place of this property. -/
structure Host.Spares
    {σ : Type}
    (host : Host σ)
    (handle : Handle)
    (name : String) :
    Prop where
  native : ∀ number receiver arguments,
    (host.native number receiver arguments).Every
      (Request.Spares handle name)
  dispatcher : ∀ instruction,
    host.dispatcher = some instruction →
      instruction.Every (Request.Spares handle name)

namespace Machine

/-- While the handle resolves its object has the property, as never changes. -/
abbrev Retains
    (handle : Handle)
    (name : String)
    (property : Property) :
    Machine → Prop :=
  WhileLive handle (·.Keeps name property)

namespace Retains

variable {handle : Handle} {name : String} {property : Property}
variable {machine : Machine}

/-- What edits do to objects leaves a permanent property in its place. -/
theorem objectInvariant
    (handle : Handle)
    (permanent : property.PermanentAs name) :
    ObjectInvariant (Retains handle name property) := by
  refine WhileLive.objectInvariant ?_ ?_
  · exact fun object changed keeps edited => keeps.edited permanent edited
  · exact fun object prototype => id

/-- A method under another name, or of another object, is not in the way. -/
theorem registerMethod
    {target : Handle}
    {other : String}
    (elsewhere : ¬(target = handle ∧ other = name))
    (method : Handle) :
    Respects
      (Carries (Retains handle name property) (Retains handle name property))
      (Edit.modifyObject target (·.withProperty other (.method method))) := by
  refine Edit.Secures.respects (.modifyObject ?_ fun _ => id)
  intro machine object _ sound small few retains
  refine retains.perform sound (.modify target _) small few ?_
  rintro current _ ⟨kept, own, alike⟩
  change ScriptObject.Keeps
    (if target = handle then current.withProperty other (.method method)
      else current) name property
  split
  · rename_i here
    refine ⟨kept, ?_, alike⟩
    change (current.properties.insert other _).get? name = some kept
    rw [Table.get?_insert, if_neg fun same => elsewhere ⟨here, same.symm⟩]
    exact own
  · exact ⟨kept, own, alike⟩

/-- A new object is not in the way, whatever it is like. -/
theorem alloc (object : ScriptObject) :
    Respects
      (Carries (Retains handle name property) (Retains handle name property))
      (Edit.alloc object) := by
  refine Edit.Secures.respects (.alloc ?_)
  intro machine sound small few retains
  exact retains.perform sound (.alloc object) small few fun _ _ => id

theorem opens
    {β : Type}
    (wanted : Request β)
    (spares : wanted.Spares handle name) :
    wanted.Opens
      (Carries (Retains handle name property)
        (Retains handle name property)) := by
  cases wanted with
  | alloc object => exact alloc object
  | createObjectWith prototype => exact alloc _
  | registerMethod target other function => exact registerMethod spares
  | construct constructor arguments => exact fun object _ => alloc object
  | constructClass className arguments => exact fun object _ => alloc object
  | createScope outer => exact fun _ => .aside rfl (WhileLive.aside rfl)
  | _ => trivial

end Retains

/-- The property is still there, if its object is, as far as never changes. -/
def StillHas
    (handle : Handle)
    (name : String)
    (property : Property)
    (machine : Machine) :
    Prop :=
  machine.heap.total < 2 ^ 32 →
    machine.heap.cycles < 2 ^ 32 →
      ∀ object,
        machine.heap.get? handle = some object → object.Keeps name property

end Machine

namespace Host

variable {σ α : Type} {handle : Handle} {name : String}
variable {property : Property}

private theorem retains_program
    {calls : Calls σ}
    (permanent : property.PermanentAs name)
    (respected :
      calls.Respect
        (Machine.Retains.objectInvariant handle permanent).across)
    {program : Program σ α}
    (spares : program.Every (Request.Spares handle name)) :
    program.run.Respects
      (Machine.Retains.objectInvariant handle permanent).across calls :=
  spares.respects .refl
    (Machine.Retains.objectInvariant handle permanent).trans
    fun wanted spared =>
      (Machine.Retains.objectInvariant handle permanent).request respected
        wanted (Machine.Retains.opens wanted spared)

/--
A permanent property stays for as long as its object lives: whatever host code
and scripts do, if no host code installs a method in its place, the object that
the handle names still has it afterwards, data or accessor as it was, with the
same attributes and accessor functions, and with the same value unless it is
writable.
-/
theorem permanentProperty_endures
    {host : Host σ}
    {session : Session σ}
    {object : ScriptObject}
    (sound : session.machine.heap.Sound)
    (live : session.machine.heap.get? handle = some object)
    (own : object.own? name = some property)
    (permanent : property.PermanentAs name)
    (spares : host.Spares handle name)
    (program : Program σ α)
    (sparing : program.Every (Request.Spares handle name))
    (fuel : Nat) :
    Ends
      (fun _ changed => changed.machine.StillHas handle name property)
      (fun changed => changed.machine.StillHas handle name property)
      (host.perform fuel program session) := by
  have invariant := Machine.Retains.objectInvariant handle permanent
  have respected : (host.calls fuel).Respect invariant.across :=
    invariant.runStable.callsOf host
      (fun respected number receiver arguments =>
        retains_program permanent respected
          (spares.native number receiver arguments))
      (fun respected instruction installed =>
        retains_program permanent respected
          (spares.dispatcher instruction installed))
      fuel
  have retained : session.machine.Retains handle name property := by
    refine ⟨Heap.hasIssued_of_contains (Heap.contains_of_get? live), ?_⟩
    intro current found
    rw [live] at found
    cases found
    exact ⟨property, own, .refl property⟩
  have stillHas (changed : Session σ)
      (across : invariant.across session.machine changed.machine) :
      changed.machine.StillHas handle name property :=
    fun small few =>
      (across.holds small few sound retained).2.kept
  exact (retains_program permanent respected sparing session).mono
    (fun _ => stillHas) stillHas

/--
The third object has a read-only property that cannot be configured, and the
fourth is a native function.
-/
def withConstant : Machine :=
  { Machine.bare .standard 0 with
    heap :=
      Heap.run
        [.alloc .blank, .alloc .blank,
          .alloc
            (ScriptObject.blank.withProperty "limit"
              (.constant (.integer 7))),
          .alloc (.new none (.function (.native ⟨"attack", .host 0⟩)))] }

/-- Write, remove and redefine the property, and install another method. -/
def assault (last : α) : Program Unit α :=
  .request (.setMember ⟨2, 0⟩ "limit" (.integer 9)) fun _ =>
    .request (.deleteMember ⟨2, 0⟩ "limit") fun _ =>
      .request (.defineProperty ⟨2, 0⟩ "limit" (.plain .null)) fun _ =>
        .request (.registerMethod ⟨2, 0⟩ "other" .objectToString) fun _ =>
          .finish (.ok last)

/-- A host whose native functions try to get at the property. -/
def hostile : Host Unit where
  native _ _ _ := assault (.complete .undefined)
  dispatcher := none

theorem spares_assault (last : α) :
    (assault last).Every (Request.Spares ⟨2, 0⟩ "limit") :=
  ⟨trivial, fun _ => ⟨trivial, fun _ => ⟨trivial, fun _ =>
    ⟨fun same => absurd same.2 (by decide), fun _ => trivial⟩⟩⟩⟩

/-- Have the native function try first, then the host itself. -/
def siege : Program Unit Unit :=
  .request (.call (.object ⟨3, 0⟩) .undefined []) fun _ => assault ()

/-- All of this leaves the property in its place. -/
theorem permanentProperty_endures_siege :
    withConstant.heap.Sound ∧ hostile.Spares ⟨2, 0⟩ "limit" ∧
      ∃ after object,
        hostile.perform 5 siege ⟨withConstant, ()⟩ = .ok () after ∧
          after.machine.heap.get? ⟨2, 0⟩ = some object ∧
            object.Keeps "limit" (.constant (.integer 7)) := by
  have sound : withConstant.heap.Sound :=
    Heap.sound_run _ (by decide +kernel) (by decide +kernel)
  have spares : hostile.Spares ⟨2, 0⟩ "limit" :=
    ⟨fun _ _ _ => spares_assault _, nofun⟩
  have permanent : (Property.constant (.integer 7)).PermanentAs "limit" :=
    ⟨rfl, nofun⟩
  have live :
      withConstant.heap.get? ⟨2, 0⟩ =
        some
          (ScriptObject.blank.withProperty "limit"
            (.constant (.integer 7))) :=
    rfl
  have endures :
      Ends _ _ (hostile.perform 5 siege ⟨withConstant, ()⟩) :=
    permanentProperty_endures sound live rfl permanent spares siege
      ⟨trivial, fun _ => spares_assault ()⟩ 5
  have ran :
      hostile.perform 5 siege ⟨withConstant, ()⟩ = .ok () _ :=
    answer?_eq_some (by decide +kernel)
  obtain ⟨object, found⟩ :=
    Option.isSome_iff_exists.mp
      (show ((remaining
          (hostile.perform 5 siege
            ⟨withConstant, ()⟩)).machine.heap.get? ⟨2, 0⟩).isSome = true by
        decide +kernel)
  exact ⟨sound, spares, _, object, ran, found,
    endures.of_ok ran (by decide +kernel) (by decide +kernel) object found⟩

/-- A method that the host installs takes the place of the property. -/
theorem permanentProperty_replaced_withConstant :
    ∃ after object,
      hostile.perform 5
          (.perform (.registerMethod ⟨2, 0⟩ "limit" .objectToString))
          ⟨withConstant, ()⟩ = .ok () after ∧
        after.machine.heap.get? ⟨2, 0⟩ = some object ∧
          object.own? "limit" = some (.method ⟨4, 0⟩) ∧
            ¬object.Keeps "limit" (.constant (.integer 7)) := by
  refine ⟨_, _, rfl, rfl, rfl, ?_⟩
  rintro ⟨kept, own, stored, rfl, -⟩
  cases own

end Host

/--
An accessor under the name of an element that index writes cannot reach is
replaced by a write, permanent or not, once the array has such an element.
-/
theorem Edit.writeMember_overgrown
    {machine : Machine}
    {handle : Handle}
    {object : ScriptObject}
    (live : machine.heap.get? handle = some object)
    {elements : Array Value}
    (array : object.content = .array elements)
    {name : String}
    {index : Nat}
    (indexed : elementIndex? name = some index)
    (beyond : maxArrayLength ≤ index)
    (grown : index < elements.size)
    {getter setter : Option Handle}
    {enumerable configurable : Bool}
    (own :
      object.own? name =
        some (.accessor getter setter enumerable configurable))
    (value : Value) :
    (writeMember handle name value).run machine =
      .ok .done
        { machine with
          heap :=
            machine.heap.modify handle
              (·.withProperty name (.plain value)) } := by
  have found := Machine.object_of_get? live
  have element : object.element? name = some elements[index] := by
    unfold ScriptObject.element?
    rw [array, indexed]
    exact Array.getElem?_eq_getElem grown
  have resolved :
      machine.resolve handle name = .ok (.value elements[index]) := by
    refine Machine.resolve_own found ?_
    unfold ScriptObject.resolveOwn?
    rw [element]
  rw [writeMember, EStateM.run_bind, ask_run found]
  dsimp only
  rw [array, indexed]
  dsimp only
  rw [if_neg (Nat.not_lt.mpr beyond), writeMember.writeProperty, own]
  dsimp only
  rw [EStateM.run_bind, ask_run resolved]
  dsimp only
  rw [EStateM.run_bind, modifyObject_run live]
  rfl

end MovieScript
