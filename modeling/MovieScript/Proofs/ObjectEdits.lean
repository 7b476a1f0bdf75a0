import MovieScript.Proofs.EditStability
import MovieScript.Proofs.HeapRun

namespace MovieScript

/-!
# What edits do to objects

Edits make objects that inherit from the prototypes of the classes, change own
properties and contents, and relink prototypes.  A property that cannot be
configured survives all of this but for one case: an array can grow over an
accessor whose name is an index beyond the reach of index writes.
-/

namespace Property

/-- All that stays the same of a permanent property. -/
def KeptAs : Property → Property → Prop
  | .data value writable enumerable configurable, after =>
      ∃ stored,
        after = .data stored writable enumerable configurable ∧
          (writable = false → stored = value)
  | .accessor getter setter enumerable configurable, after =>
      after = .accessor getter setter enumerable configurable

theorem KeptAs.refl (property : Property) : property.KeptAs property :=
  match property with
  | .data value _ _ _ => ⟨value, rfl, fun _ => rfl⟩
  | .accessor _ _ _ _ => rfl

theorem KeptAs.trans
    {first second third : Property}
    (earlier : first.KeptAs second)
    (later : second.KeptAs third) :
    first.KeptAs third := by
  cases first with
  | data value writable enumerable configurable =>
      obtain ⟨stored, rfl, unwritten⟩ := earlier
      obtain ⟨storedLater, rfl, unwrittenLater⟩ := later
      exact ⟨storedLater, rfl, fun readOnly =>
        (unwrittenLater readOnly).trans (unwritten readOnly)⟩
  | accessor getter setter enumerable configurable =>
      obtain rfl := earlier
      exact later

theorem KeptAs.configurable_eq
    {before after : Property}
    (kept : before.KeptAs after) :
    after.configurable = before.configurable := by
  cases before with
  | data value writable enumerable configurable =>
      obtain ⟨stored, rfl, -⟩ := kept
      rfl
  | accessor getter setter enumerable configurable =>
      obtain rfl := kept
      rfl

theorem KeptAs.isAccessor_eq
    {before after : Property}
    (kept : before.KeptAs after) :
    after.isAccessor = before.isAccessor := by
  cases before with
  | data value writable enumerable configurable =>
      obtain ⟨stored, rfl, -⟩ := kept
      rfl
  | accessor getter setter enumerable configurable =>
      obtain rfl := kept
      rfl

/--
The property cannot be configured, and if it is an accessor then no element
that index writes cannot reach has its name.
-/
structure PermanentAs (name : String) (property : Property) : Prop where
  fixed : property.configurable = false
  inReach :
    property.isAccessor = true →
      ∀ index, elementIndex? name = some index → index < maxArrayLength

theorem PermanentAs.keptAs
    {name : String}
    {before after : Property}
    (permanent : before.PermanentAs name)
    (kept : before.KeptAs after) :
    after.PermanentAs name :=
  ⟨kept.configurable_eq.trans permanent.fixed, fun accessor =>
    permanent.inReach (kept.isAccessor_eq.symm.trans accessor)⟩

end Property

namespace ScriptObject

/-- The object still has the property, as far as that never changes. -/
def Keeps
    (object : ScriptObject)
    (name : String)
    (property : Property) :
    Prop :=
  ∃ kept, object.own? name = some kept ∧ property.KeptAs kept

/-- What an edit of its properties or its content leaves of an object. -/
structure Edited (before after : ScriptObject) : Prop where
  prototype : after.prototype = before.prototype
  content : before.content.Becomes after.content
  permanent :
    ∀ name property,
      before.own? name = some property →
        property.PermanentAs name → after.Keeps name property

variable {object changed : ScriptObject}

theorem Keeps.edited
    {name : String}
    {property : Property}
    (keeps : object.Keeps name property)
    (permanent : property.PermanentAs name)
    (edited : object.Edited changed) :
    changed.Keeps name property := by
  obtain ⟨kept, found, alike⟩ := keeps
  obtain ⟨keptLater, foundLater, alikeLater⟩ :=
    edited.permanent name kept found (permanent.keptAs alike)
  exact ⟨keptLater, foundLater, alike.trans alikeLater⟩

/-- What is not about the properties leaves all of them alone. -/
theorem edited_of_properties
    (prototype : changed.prototype = object.prototype)
    (content : object.content.Becomes changed.content)
    (properties : changed.properties = object.properties) :
    object.Edited changed where
  prototype := prototype
  content := content
  permanent := by
    intro name property found _
    refine ⟨property, ?_, .refl property⟩
    rw [own?, properties]
    exact found

theorem edited_withElement
    (object : ScriptObject)
    (index : Nat)
    (value : Value) :
    object.Edited (object.withElement index value) := by
  unfold withElement
  split
  · exact edited_of_properties rfl ⟨_, rfl⟩ rfl
  · exact edited_of_properties rfl (.refl _) rfl

theorem edited_erase
    {name : String}
    (removable : (object.own? name).any Property.configurable = true) :
    object.Edited
      { object with properties := object.properties.erase name } where
  prototype := rfl
  content := .refl _
  permanent := by
    intro other property found permanent
    refine ⟨property, ?_, .refl property⟩
    change (object.properties.erase name).get? other = some property
    rw [Table.get?_erase, if_neg]
    · exact found
    · rintro rfl
      rw [found, Option.any_some, permanent.fixed] at removable
      cases removable

/-- Another property can take the place of one that is not permanent. -/
theorem edited_withProperty
    {name : String}
    (replaceable : ∀ existing,
      object.own? name = some existing → ¬existing.PermanentAs name)
    (property : Property) :
    object.Edited (object.withProperty name property) where
  prototype := rfl
  content := .refl _
  permanent := by
    intro other existing found permanent
    refine ⟨existing, ?_, .refl existing⟩
    change (object.properties.insert name property).get? other = some existing
    rw [Table.get?_insert, if_neg]
    · exact found
    · rintro rfl
      exact replaceable existing found permanent

/-- A writable property takes another value, whatever its other attributes. -/
theorem edited_withValue
    {name : String}
    {stored : Value}
    {enumerable configurable : Bool}
    (found :
      object.own? name = some (.data stored true enumerable configurable))
    (value : Value) :
    object.Edited
      (object.withProperty name
        (.data value true enumerable configurable)) where
  prototype := rfl
  content := .refl _
  permanent := by
    intro other existing has permanent
    change ∃ kept,
      (object.properties.insert name _).get? other = some kept ∧ _
    rw [Table.get?_insert]
    split
    · rename_i here
      subst here
      rw [found] at has
      cases has
      exact ⟨_, rfl, value, rfl, fun readOnly => Bool.noConfusion readOnly⟩
    · exact ⟨existing, has, .refl existing⟩

end ScriptObject

namespace Machine

variable {machine : Machine} {handle : Handle} {name : String}
variable {object : ScriptObject}

/-- What an object itself has under a name is what the name leads to. -/
theorem resolve_own
    (found : machine.object handle = .ok object)
    {resolution : Resolution}
    (own : object.resolveOwn? name = some resolution) :
    machine.resolve handle name = .ok resolution := by
  unfold resolve resolveWithin
  rw [found]
  simp only [bind, Except.bind, own]
  rfl

/-- An own accessor is what a name leads to, unless an element hides it. -/
theorem resolve_own_accessor
    (found : machine.object handle = .ok object)
    {getter setter : Option Handle}
    {enumerable configurable : Bool}
    (own :
      object.own? name =
        some (.accessor getter setter enumerable configurable))
    (shown : object.element? name = none) :
    machine.resolve handle name = .ok (.accessor getter setter) := by
  refine resolve_own found ?_
  unfold ScriptObject.resolveOwn?
  rw [shown, own]

/--
Where a name leads to no accessor, no permanent accessor is in the place of a
new property, if only elements out of reach have that name.
-/
theorem replaceable_of_resolve
    (found : machine.object handle = .ok object)
    (outOfReach : ∀ index,
      elementIndex? name = some index →
        object.element? name ≠ none → maxArrayLength ≤ index)
    {resolution : Resolution}
    (resolved : machine.resolve handle name = .ok resolution)
    (plain : ∀ getter setter, resolution ≠ .accessor getter setter)
    {existing : Property}
    (own : object.own? name = some existing)
    (accessor : existing.isAccessor = true) :
    ¬existing.PermanentAs name := by
  intro permanent
  cases existing with
  | data value writable enumerable configurable => cases accessor
  | accessor getter setter enumerable configurable =>
      cases hidden : object.element? name with
      | none =>
          rw [resolve_own_accessor found own hidden] at resolved
          cases resolved
          exact plain getter setter rfl
      | some element =>
          cases indexed : elementIndex? name with
          | none =>
              unfold ScriptObject.element? at hidden
              rw [indexed] at hidden
              split at hidden
              · cases hidden
              · cases hidden
          | some index =>
              have below := permanent.inReach rfl index indexed
              have above := outOfReach index indexed (by rw [hidden]; nofun)
              exact absurd below (Nat.not_lt.mpr above)

end Machine

namespace Heap

/--
The prototype chain from here on comes to its end, over objects that are all
there, without meeting the target.
-/
inductive Avoids (heap : Heap ScriptObject) (target : Handle) :
    Option Handle → Prop where
  | top : Avoids heap target none
  | step {handle : Handle} {object : ScriptObject} :
      handle ≠ target →
        heap.get? handle = some object →
          Avoids heap target object.prototype →
            Avoids heap target (some handle)

/--
The operation does to the objects what an edit may do: a new object inherits
from the prototype of a class, an old one is edited or put below a chain that
it is not on, and a collection starts from all that the machine holds.
-/
def Operation.Lawful (machine : Machine) : Operation ScriptObject → Prop
  | .alloc object =>
      ∀ prototype,
        object.prototype = some prototype →
          ∃ className, machine.prototype? className = some prototype
  | .modify handle change =>
      ∀ object,
        machine.heap.get? handle = some object →
          object.Edited (change object) ∨
            ∃ prototype,
              change object = { object with prototype := prototype } ∧
                machine.heap.Avoids handle prototype
  | .collect _ roots => ∀ handle ∈ machine.roots, handle ∈ roots
  | _ => True

end Heap

namespace Machine

/-- A chain that was checked does not meet the object it is checked for. -/
theorem avoids_of_checkChain
    {machine : Machine}
    {target : Handle}
    {budget : Nat}
    {start : Option Handle}
    (checked : machine.checkChain target budget start = .ok ()) :
    machine.heap.Avoids target start := by
  induction budget generalizing start with
  | zero =>
      cases start with
      | none => exact .top
      | some handle =>
          unfold checkChain at checked
          split at checked
          · cases checked
          · cases checked
  | succ budget inductionHypothesis =>
      cases start with
      | none => exact .top
      | some handle =>
          unfold checkChain at checked
          split at checked
          · cases checked
          · rename_i different
            cases found : machine.object handle with
            | error fault =>
                rw [found] at checked
                cases checked
            | ok object =>
                rw [found] at checked
                exact .step different (get?_of_object found)
                  (inductionHypothesis checked)

end Machine

end MovieScript
