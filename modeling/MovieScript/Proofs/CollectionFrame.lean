import MovieScript.Classes.Bootstrap
import MovieScript.Proofs.HeapRun

namespace MovieScript

/-!
# Collections go unnoticed

The places where an object and the machine can hold a handle are listed one by
one, apart from the functions that marking uses.  A collection keeps exactly
the objects that can be reached through such places, and every question about
a kept object has the answer it had before.  For the text of a stage object this
rests on what `MovieScript.Scene` assumes of display items, that a collection
leaves them alone.
-/

/-- Work on the items of a list depends on what is done with each. -/
theorem mapM_congr
    {α β ε : Type}
    {items : List α}
    {first second : α → Except ε β}
    (same : ∀ item ∈ items, first item = second item) :
    items.mapM first = items.mapM second := by
  have applied (work : α → Except ε β) :
      items.mapM work = (items.map work).mapM id := by
    rw [List.mapM_map, Function.id_comp]
  rw [applied, applied, List.map_congr_left same]

namespace Value

/-- A value holds a handle if it is the object that the handle names. -/
theorem mem_references_iff
    {value : Value}
    {handle : Handle} :
    handle ∈ value.references ↔ value = .object handle := by
  cases value <;> simp [references, eq_comm]

/-- A list of values holds the handles of the objects in it. -/
theorem mem_flatMap_references_iff
    {items : List Value}
    {handle : Handle} :
    handle ∈ items.flatMap references ↔ .object handle ∈ items := by
  simp only [List.mem_flatMap, mem_references_iff]
  constructor
  · rintro ⟨_, member, rfl⟩
    exact member
  · intro member
    exact ⟨_, member, rfl⟩

end Value

namespace Scopes

/-- A scope is, or is enclosed by, another. -/
inductive Encloses (all : Scopes) : ScopeId → ScopeId → Prop where
  | self (id : ScopeId) :
      Encloses all id id
  | outward {id next last : ScopeId}
      (enclosed : all.outer? id = some next)
      (further : Encloses all next last) :
      Encloses all id last

/-- The chain of a scope has the scope and those that enclose it. -/
theorem mem_chain_iff
    {all : Scopes}
    {id last : ScopeId} :
    last ∈ all.chain id ↔ all.Encloses id last := by
  constructor
  · intro member
    fun_induction chain all id with
    | case1 id outer enclosed inductionHypothesis =>
        rcases List.mem_cons.mp member with rfl | further
        · exact .self _
        · exact .outward enclosed (inductionHypothesis further)
    | case2 id enclosed =>
        rw [List.mem_singleton.mp member]
        exact .self _
  · intro encloses
    induction encloses with
    | self id =>
        unfold chain
        split <;> simp
    | @outward id next last enclosed further inductionHypothesis =>
        unfold chain
        split
        · next outer found =>
          rw [enclosed] at found
          cases found
          exact List.mem_cons_of_mem _ inductionHypothesis
        · next noOuter =>
          rw [enclosed] at noOuter
          cases noOuter

/-- A scope holds the objects its variables and the enclosing ones name. -/
theorem mem_references_iff
    {all : Scopes}
    {id : ScopeId}
    {handle : Handle} :
    handle ∈ all.references id ↔
      ∃ outer name,
        all.Encloses id outer ∧
          (all.own outer).get? name = some (.object handle) := by
  simp only [references, List.mem_flatMap (l := all.chain id),
    Value.mem_flatMap_references_iff, mem_chain_iff,
    Table.mem_values_iff]
  constructor
  · rintro ⟨outer, encloses, name, found⟩
    exact ⟨outer, name, encloses, found⟩
  · rintro ⟨outer, name, encloses, found⟩
    exact ⟨outer, encloses, name, found⟩

end Scopes

namespace ScriptObject

/-- The places where an object holds a handle. -/
inductive Holds
    (scopes : Scopes)
    (object : ScriptObject) :
    Handle → Prop where
  | data {name : String} {handle : Handle}
      {writable enumerable configurable : Bool}
      (own :
        object.own? name =
          some (.data (.object handle) writable enumerable
            configurable)) :
      Holds scopes object handle
  | getter {name : String} {handle : Handle} {setter : Option Handle}
      {enumerable configurable : Bool}
      (own :
        object.own? name =
          some (.accessor (some handle) setter enumerable
            configurable)) :
      Holds scopes object handle
  | setter {name : String} {handle : Handle} {getter : Option Handle}
      {enumerable configurable : Bool}
      (own :
        object.own? name =
          some (.accessor getter (some handle) enumerable
            configurable)) :
      Holds scopes object handle
  | prototype {handle : Handle}
      (inherits : object.prototype = some handle) :
      Holds scopes object handle
  | constructor {handle : Handle}
      (made : object.constructor = some handle) :
      Holds scopes object handle
  | element {elements : Array Value} {index : Nat} {handle : Handle}
      (content : object.content = .array elements)
      (element : elements[index]? = some (.object handle)) :
      Holds scopes object handle
  | payload {handle : Handle}
      (content : object.content = .number (.object handle)) :
      Holds scopes object handle
  | constant {closure : Closure} {index : Nat} {handle : Handle}
      (content : object.content = .function (.defined closure))
      (constant :
        closure.definition.constants[index]? = some (.object handle)) :
      Holds scopes object handle
  | scopeObject {closure : Closure} {handle : Handle}
      (content : object.content = .function (.defined closure))
      (captured : handle ∈ closure.scopeObjects) :
      Holds scopes object handle
  | captured {closure : Closure} {scope outer : ScopeId}
      {name : String} {handle : Handle}
      (content : object.content = .function (.defined closure))
      (defined : closure.scope = some scope)
      (encloses : scopes.Encloses scope outer)
      (bound : (scopes.own outer).get? name = some (.object handle)) :
      Holds scopes object handle

/-- Marking follows the handles of the properties. -/
private theorem holds_of_mem_properties
    {scopes : Scopes}
    {object : ScriptObject}
    {handle : Handle}
    (held :
      handle ∈ object.properties.values.flatMap Property.references) :
    object.Holds scopes handle := by
  obtain ⟨property, member, inProperty⟩ := List.mem_flatMap.mp held
  obtain ⟨name, own⟩ := Table.mem_values_iff.mp member
  cases property with
  | data value writable enumerable configurable =>
      rw [Property.references, Value.mem_references_iff] at inProperty
      subst inProperty
      exact .data own
  | accessor getter setter enumerable configurable =>
      rcases List.mem_append.mp inProperty with inGetter | inSetter
      · rw [Option.mem_toList] at inGetter
        cases inGetter
        exact .getter own
      · rw [Option.mem_toList] at inSetter
        cases inSetter
        exact .setter own

/-- Marking follows the handles of the content. -/
private theorem holds_of_mem_content
    {scopes : Scopes}
    {object : ScriptObject}
    {handle : Handle}
    (held : handle ∈ object.content.references scopes) :
    object.Holds scopes handle := by
  cases content : object.content with
  | ordinary => simp [content, Content.references] at held
  | text => simp [content, Content.references] at held
  | boolean => simp [content, Content.references] at held
  | stage => simp [content, Content.references] at held
  | number value =>
      rw [content, Content.references, Value.mem_references_iff] at held
      exact .payload (held ▸ content)
  | array elements =>
      rw [content, Content.references,
        Value.mem_flatMap_references_iff, Array.mem_toList_iff,
        Array.mem_iff_getElem?] at held
      obtain ⟨index, element⟩ := held
      exact .element content element
  | function callable =>
      cases callable with
      | native function =>
          simp [content, Content.references, Callable.references] at held
      | defined closure =>
          rw [content, Content.references, Callable.references,
            Closure.references, List.mem_append, List.mem_append,
            Value.mem_flatMap_references_iff, Array.mem_toList_iff,
            Array.mem_iff_getElem?] at held
          rcases held with (⟨index, constant⟩ | inObjects) | inScope
          · exact .constant content constant
          · exact .scopeObject content inObjects
          · cases defined : closure.scope with
            | none => simp [defined] at inScope
            | some scope =>
                rw [defined, Option.map_some, Option.getD_some,
                  Scopes.mem_references_iff] at inScope
                obtain ⟨outer, name, encloses, bound⟩ := inScope
                exact .captured content defined encloses bound

/-- Marking follows exactly the handles that an object holds. -/
theorem mem_references_iff
    {scopes : Scopes}
    {object : ScriptObject}
    {handle : Handle} :
    handle ∈ object.references scopes ↔ object.Holds scopes handle := by
  rw [references, List.mem_append, List.mem_append, List.mem_append,
    Option.mem_toList, Option.mem_toList]
  constructor
  · rintro (((inProperty | inherits) | made) | inContent)
    · exact holds_of_mem_properties inProperty
    · exact .prototype inherits
    · exact .constructor made
    · exact holds_of_mem_content inContent
  · have inProperties {name : String} {property : Property}
        (own : object.own? name = some property)
        (held : handle ∈ property.references) :
        handle ∈ object.properties.values.flatMap
          Property.references :=
      List.mem_flatMap.mpr
        ⟨property, Table.mem_values_iff.mpr ⟨name, own⟩, held⟩
    intro holds
    cases holds with
    | data own =>
        exact .inl (.inl (.inl (inProperties own
          (by simp [Property.references, Value.references]))))
    | getter own =>
        exact .inl (.inl (.inl (inProperties own
          (by simp [Property.references]))))
    | setter own =>
        exact .inl (.inl (.inl (inProperties own
          (by simp [Property.references]))))
    | prototype inherits =>
        exact .inl (.inl (.inr inherits))
    | constructor made =>
        exact .inl (.inr made)
    | element content element =>
        refine .inr ?_
        rw [content, Content.references,
          Value.mem_flatMap_references_iff, Array.mem_toList_iff]
        exact Array.mem_of_getElem? element
    | payload content =>
        refine .inr ?_
        rw [content, Content.references, Value.mem_references_iff]
    | constant content constant =>
        refine .inr ?_
        rw [content, Content.references, Callable.references,
          Closure.references, List.mem_append, List.mem_append,
          Value.mem_flatMap_references_iff, Array.mem_toList_iff]
        exact .inl (.inl (Array.mem_of_getElem? constant))
    | scopeObject content captured =>
        refine .inr ?_
        rw [content, Content.references, Callable.references,
          Closure.references, List.mem_append, List.mem_append]
        exact .inl (.inr captured)
    | captured content defined encloses bound =>
        refine .inr ?_
        rw [content, Content.references, Callable.references,
          Closure.references, List.mem_append, defined,
          Option.map_some, Option.getD_some, Scopes.mem_references_iff]
        exact .inr ⟨_, _, encloses, bound⟩

end ScriptObject

namespace Machine

/-- The places where an idle machine holds a handle. -/
inductive Rooted (machine : Machine) : Handle → Prop where
  | global :
      Rooted machine machine.global
  | external :
      Rooted machine machine.external
  | root {handle : Handle}
      (isRoot : machine.root = some handle) :
      Rooted machine handle
  | prototype {className : String} {handle : Handle}
      (found : machine.prototype? className = some handle) :
      Rooted machine handle
  | constructor {className : String} {handle : Handle}
      (found : machine.constructor? className = some handle) :
      Rooted machine handle
  | callback {name : String} {interval : Interval}
      (registered : machine.intervals.get? name = some interval) :
      Rooted machine interval.callback
  | receiver {name : String} {interval : Interval} {handle : Handle}
      (registered : machine.intervals.get? name = some interval)
      (receiver : interval.receiver = .object handle) :
      Rooted machine handle
  | argument {name : String} {interval : Interval} {handle : Handle}
      (registered : machine.intervals.get? name = some interval)
      (argument : .object handle ∈ interval.arguments) :
      Rooted machine handle
  | hostResult {handle : Handle}
      (returned : machine.hostResult = some (.object handle)) :
      Rooted machine handle
  | pinned {handle : Handle} {count : Nat}
      (pinned : machine.heap.pins.get? handle = some count) :
      Rooted machine handle

/-- The objects that can be reached from what the machine holds. -/
inductive Retained (machine : Machine) : Handle → Prop where
  | rooted {handle : Handle}
      (rooted : machine.Rooted handle)
      (live : machine.heap.contains handle = true) :
      Retained machine handle
  | held {handle next : Handle} {object : ScriptObject}
      (retained : Retained machine handle)
      (found : machine.heap.get? handle = some object)
      (holds : object.Holds machine.scopes next)
      (live : machine.heap.contains next = true) :
      Retained machine next

/-- An interval holds its callback, receiver and arguments. -/
private theorem mem_interval_references_iff
    {interval : Interval}
    {handle : Handle} :
    handle ∈ interval.references ↔
      handle = interval.callback ∨
        interval.receiver = .object handle ∨
        .object handle ∈ interval.arguments := by
  rw [Interval.references, List.mem_cons,
    Value.mem_flatMap_references_iff, List.mem_cons,
    eq_comm (a := Value.object handle)]

/-- The result that a host entry waits for may be an object. -/
private theorem mem_result_references_iff
    {result : Option Value}
    {handle : Handle} :
    handle ∈ (result.map Value.references).getD [] ↔
      result = some (.object handle) := by
  cases result with
  | none => simp
  | some value => simp [Value.mem_references_iff]

/-- While no frame is live, a collection starts from what the machine holds. -/
theorem mem_roots_or_pins_iff
    {machine : Machine}
    (idle : machine.frames = [])
    {handle : Handle} :
    handle ∈ machine.roots ∨ handle ∈ machine.heap.pins.keys ↔
      machine.Rooted handle := by
  simp only [roots, idle, List.flatMap_nil, List.append_nil,
    List.mem_append, List.mem_cons, List.not_mem_nil, or_false,
    Option.mem_toList, Table.mem_values_iff, List.mem_flatMap,
    mem_interval_references_iff, mem_result_references_iff,
    Table.mem_keys_iff, Option.isSome_iff_exists]
  constructor
  · rintro (((((((rfl | rfl) | isRoot) | ⟨className, found⟩) |
      ⟨className, found⟩) |
      ⟨interval, ⟨name, registered⟩, (rfl | receiver | argument)⟩) |
      returned) | ⟨count, pinned⟩)
    · exact .global
    · exact .external
    · exact .root isRoot
    · exact .prototype found
    · exact .constructor found
    · exact .callback registered
    · exact .receiver registered receiver
    · exact .argument registered argument
    · exact .hostResult returned
    · exact .pinned pinned
  · intro rooted
    cases rooted with
    | global => simp
    | external => simp
    | root isRoot => simp [isRoot]
    | @prototype className _ found =>
        exact .inl (.inl (.inl (.inl (.inr ⟨className, found⟩))))
    | @constructor className _ found =>
        exact .inl (.inl (.inl (.inr ⟨className, found⟩)))
    | @callback name interval registered =>
        exact .inl (.inl (.inr
          ⟨interval, ⟨name, registered⟩, .inl rfl⟩))
    | @receiver name interval _ registered receiver =>
        exact .inl (.inl (.inr
          ⟨interval, ⟨name, registered⟩, .inr (.inl receiver)⟩))
    | @argument name interval _ registered argument =>
        exact .inl (.inl (.inr
          ⟨interval, ⟨name, registered⟩, .inr (.inr argument)⟩))
    | hostResult returned => exact .inl (.inr returned)
    | @pinned _ count pinned => exact .inr ⟨count, pinned⟩

/-- What the machine retains is what a collection reaches. -/
theorem reachable_iff_retained
    {machine : Machine}
    (idle : machine.frames = [])
    {handle : Handle} :
    machine.heap.Reachable (ScriptObject.references machine.scopes)
        (fun start =>
          start ∈ machine.roots ∨ start ∈ machine.heap.pins.keys)
        handle ↔
      machine.Retained handle := by
  constructor
  · intro reached
    induction reached with
    | root starts live =>
        exact .rooted ((mem_roots_or_pins_iff idle).mp starts) live
    | step _ found held live inductionHypothesis =>
        exact .held inductionHypothesis found
          (ScriptObject.mem_references_iff.mp held) live
  · intro retained
    induction retained with
    | rooted rooted live =>
        exact .root ((mem_roots_or_pins_iff idle).mpr rooted) live
    | held _ found holds live inductionHypothesis =>
        exact .step inductionHypothesis found
          (ScriptObject.mem_references_iff.mpr holds) live

/-- A retained object resolves. -/
theorem Retained.contains
    {machine : Machine}
    {handle : Handle}
    (retained : machine.Retained handle) :
    machine.heap.contains handle = true := by
  cases retained with
  | rooted _ live => exact live
  | held _ _ _ live => exact live

/--
Another machine knows the retained objects and no others, and is the same
apart from its heap.
-/
structure KeepsRetained (machine after : Machine) : Prop where
  elsewhere : after = { machine with heap := after.heap }
  kept :
    ∀ handle, machine.Retained handle →
      after.heap.get? handle = machine.heap.get? handle
  gone :
    ∀ handle, ¬machine.Retained handle →
      after.heap.get? handle = none

/-- While no frame is live, a collection changes the heap only. -/
theorem collectGarbage_eq
    {machine : Machine}
    (idle : machine.frames = []) :
    Edit.collectGarbage machine =
      .ok
        (machine.heap.collect
          (ScriptObject.references machine.scopes) machine.roots).1
        { machine with
          heap :=
            (machine.heap.collect
              (ScriptObject.references machine.scopes)
              machine.roots).2 } := by
  have noFrames : machine.frames.isEmpty = true := by simp [idle]
  change
    (if machine.frames.isEmpty = true then _ else _ : Edit Nat)
      machine = _
  rw [if_pos noFrames]
  rfl

/-- A collection keeps what the machine retains. -/
theorem collectGarbage_keepsRetained
    {machine : Machine}
    (idle : machine.frames = []) :
    ∃ collected after,
      Edit.collectGarbage machine = .ok collected after ∧
        machine.KeepsRetained after := by
  refine ⟨_, _, collectGarbage_eq idle, rfl, ?_, ?_⟩
  · intro handle retained
    apply Heap.get?_collect
    rw [Heap.contains_collect_iff]
    exact (reachable_iff_retained idle).mpr retained
  · intro handle lost
    have dead : ¬(machine.heap.collect
        (ScriptObject.references machine.scopes)
        machine.roots).2.contains handle = true := by
      rw [Heap.contains_collect_iff]
      exact fun reached => lost ((reachable_iff_retained idle).mp reached)
    simpa [Heap.contains] using dead

/-- The handle names a retained object or none. -/
def Settled
    (machine : Machine)
    (handle : Handle) :
    Prop :=
  machine.heap.contains handle = true → machine.Retained handle

/-- What a settled object holds is settled. -/
theorem Settled.of_holds
    {machine : Machine}
    {handle next : Handle}
    {object : ScriptObject}
    (settled : machine.Settled handle)
    (found : machine.object handle = .ok object)
    (holds : object.Holds machine.scopes next) :
    machine.Settled next := by
  intro live
  unfold Machine.object at found
  split at found
  · next stored isStored =>
    cases found
    exact .held (settled (Heap.contains_of_get? isStored)) isStored
      holds live
  · cases found

namespace KeepsRetained

variable {machine after : Machine}

/-- A settled handle names what it did, or still nothing. -/
theorem object_eq
    (keeps : machine.KeepsRetained after)
    {handle : Handle}
    (settled : machine.Settled handle) :
    after.object handle = machine.object handle := by
  have same : after.heap.get? handle = machine.heap.get? handle := by
    by_cases retained : machine.Retained handle
    · exact keeps.kept handle retained
    · have dead : machine.heap.get? handle = none := by
        cases found : machine.heap.get? handle with
        | none => rfl
        | some object =>
            exact absurd (settled (Heap.contains_of_get? found)) retained
      rw [keeps.gone handle retained, dead]
  rw [Machine.object, same, Machine.object]

/-- A name leads where it did. -/
theorem resolveWithin_eq
    (keeps : machine.KeepsRetained after)
    (name : String)
    (budget : Nat)
    (start : Option Handle)
    (settled : ∀ handle, start = some handle → machine.Settled handle) :
    after.resolveWithin name budget start =
      machine.resolveWithin name budget start := by
  induction budget generalizing start with
  | zero =>
      cases start <;> rfl
  | succ budget inductionHypothesis =>
      cases start with
      | none =>
          rfl
      | some handle =>
          have here := settled handle rfl
          rw [resolveWithin, resolveWithin, keeps.object_eq here]
          cases found : machine.object handle with
          | error fault =>
              rfl
          | ok object =>
              simp only [bind, Except.bind]
              split
              · rfl
              · refine inductionHypothesis object.prototype ?_
                intro above inherits
                exact here.of_holds found (.prototype inherits)

/-- The names along the prototypes are what they were. -/
theorem namesWithin_eq
    (keeps : machine.KeepsRetained after)
    (budget : Nat)
    (start : Option Handle)
    (settled : ∀ handle, start = some handle → machine.Settled handle) :
    after.namesWithin budget start =
      machine.namesWithin budget start := by
  induction budget generalizing start with
  | zero =>
      cases start <;> rfl
  | succ budget inductionHypothesis =>
      cases start with
      | none =>
          rfl
      | some handle =>
          have here := settled handle rfl
          rw [namesWithin, namesWithin, keeps.object_eq here]
          cases found : machine.object handle with
          | error fault =>
              rfl
          | ok object =>
              have above := inductionHypothesis object.prototype
                fun next inherits =>
                  here.of_holds found (.prototype inherits)
              simp only [bind, Except.bind, above]

/-- The text of a value is what it was, nested arrays included. -/
theorem displayTextWithin_eq
    (keeps : machine.KeepsRetained after)
    (depth : Nat)
    (value : Value)
    (settled :
      ∀ handle, value = .object handle → machine.Settled handle) :
    after.displayTextWithin depth value =
      machine.displayTextWithin depth value := by
  have sameScene : after.scene = machine.scene := by
    rw [keeps.elsewhere]
  induction depth using Nat.strongRecOn generalizing value with
  | ind depth inductionHypothesis =>
      by_cases isObject : ∃ handle, value = .object handle
      · obtain ⟨handle, rfl⟩ := isObject
        have here := settled handle rfl
        rw [displayTextWithin, displayTextWithin, keeps.object_eq here,
          sameScene]
        cases found : machine.object handle with
        | error fault =>
            simp only [bind, Except.bind]
        | ok object =>
            simp only [bind, Except.bind]
            cases content : object.content with
            | array elements =>
                cases depth with
                | zero =>
                    rfl
                | succ remaining =>
                    have samePart (element : Value)
                        (member : element ∈ elements.toList) :
                        after.displayTextWithin remaining element =
                          machine.displayTextWithin remaining
                            element := by
                      obtain ⟨index, atIndex⟩ :=
                        Array.mem_iff_getElem?.mp
                          (Array.mem_toList_iff.mp member)
                      refine inductionHypothesis remaining
                        (Nat.lt_succ_self _) element ?_
                      rintro next rfl
                      exact here.of_holds found
                        (.element content atIndex)
                    have sameParts :
                        (elements.toList.mapM fun element =>
                          if element.isNullish then
                            Except.pure ""
                          else
                            after.displayTextWithin remaining
                              element) =
                          elements.toList.mapM fun element =>
                            if element.isNullish then
                              Except.pure ""
                            else
                              machine.displayTextWithin remaining
                                element := by
                      apply mapM_congr
                      intro element member
                      rw [samePart element member]
                    simp only [pure, sameParts]
            | ordinary => rfl
            | function callable => rfl
            | text content => rfl
            | boolean flag => rfl
            | number payload => rfl
            | stage item kind => rfl
      · have primitive (handle : Handle) : value ≠ .object handle :=
          fun same => isObject ⟨handle, same⟩
        rw [displayTextWithin, displayTextWithin] <;> exact primitive

end KeepsRetained

/--
A collection of an idle machine goes unnoticed by everything that is still
held.  It succeeds and changes the heap only; the retained objects, and no
others, resolve afterwards, under the same handles and with the same content;
and each of them has the members, lists the names and has the text that it
had before, faults included.
-/
theorem collectGarbage_unnoticed
    (machine : Machine)
    (idle : machine.frames = []) :
    ∃ collected after,
      Edit.collectGarbage machine = .ok collected after ∧
      after = { machine with heap := after.heap } ∧
      (∀ handle,
        machine.Retained handle →
          ∃ object,
            machine.heap.get? handle = some object ∧
              after.heap.get? handle = some object) ∧
      (∀ handle,
        ¬machine.Retained handle → after.heap.get? handle = none) ∧
      ∀ handle,
        machine.Retained handle →
          (∀ name,
            after.resolve handle name = machine.resolve handle name ∧
            after.hasMember handle name =
              machine.hasMember handle name) ∧
          after.enumerate handle = machine.enumerate handle ∧
          after.displayText (.object handle) =
            machine.displayText (.object handle) := by
  obtain ⟨collected, after, succeeds, keeps⟩ :=
    collectGarbage_keepsRetained idle
  have sameLimits : after.configuration = machine.configuration := by
    rw [keeps.elsewhere]
  refine ⟨collected, after, succeeds, keeps.elsewhere, ?_, keeps.gone, ?_⟩
  · intro handle retained
    obtain ⟨object, found⟩ :=
      Option.isSome_iff_exists.mp retained.contains
    exact ⟨object, found, (keeps.kept handle retained).trans found⟩
  · intro handle retained
    have settled (other : Handle)
        (same : some handle = some other) : machine.Settled other := by
      cases same
      exact fun _ => retained
    have sameResolution (name : String) :
        after.resolve handle name = machine.resolve handle name := by
      rw [resolve, sameLimits]
      exact keeps.resolveWithin_eq name _ _ settled
    refine ⟨fun name => ⟨sameResolution name, ?_⟩, ?_, ?_⟩
    · rw [hasMember, sameResolution, hasMember]
    · rw [enumerate, sameLimits, keeps.namesWithin_eq _ _ settled,
        enumerate]
    · refine keeps.displayTextWithin_eq _ _ ?_
      intro other same
      exact settled other (congrArg some (Value.object.inj same))

/-- A machine whose global object holds one object; another is held nowhere. -/
def keptAndLost : Machine :=
  { bare .standard 0 with
    heap :=
      Heap.run
        [.alloc .blank, .alloc .blank, .alloc .blank, .alloc .blank,
          .modify ⟨0, 0⟩
            (·.withProperty "kept" (.plain (.object ⟨2, 0⟩)))] }

/-- Only the object that is held is referred to. -/
private theorem references_keptAndLost
    {handle next : Handle}
    {object : ScriptObject}
    (found : keptAndLost.heap.get? handle = some object)
    (held : next ∈ object.references keptAndLost.scopes) :
    next = ⟨2, 0⟩ := by
  have member :
      handle ∈ ([⟨0, 0⟩, ⟨1, 0⟩, ⟨2, 0⟩, ⟨3, 0⟩] : List Handle) :=
    (Heap.packed_run _).mem_of_contains (by decide)
      (Heap.contains_of_get? found)
  have only :
      ∀ other ∈ ([⟨0, 0⟩, ⟨1, 0⟩, ⟨2, 0⟩, ⟨3, 0⟩] : List Handle),
        ∀ next ∈ ((keptAndLost.heap.get? other).map
            (ScriptObject.references keptAndLost.scopes)).getD [],
          next = ⟨2, 0⟩ := by
    decide
  have fromHandle := only handle member next
  rw [found] at fromHandle
  exact fromHandle held

/-- Of two objects the one that is held nowhere is gone. -/
theorem collectGarbage_unnoticed_keptAndLost :
    keptAndLost.frames = [] ∧
      ∃ collected after,
        Edit.collectGarbage keptAndLost = .ok collected after ∧
          (after.heap.get? ⟨2, 0⟩).isSome = true ∧
          after.heap.get? ⟨3, 0⟩ = none ∧
          after.hasMember ⟨0, 0⟩ "kept" = .ok true := by
  obtain ⟨collected, after, succeeds, _, kept, lost, same⟩ :=
    collectGarbage_unnoticed keptAndLost rfl
  have globalRetained : keptAndLost.Retained ⟨0, 0⟩ :=
    .rooted .global (by decide)
  have keptRetained : keptAndLost.Retained ⟨2, 0⟩ := by
    obtain ⟨object, found⟩ := Option.isSome_iff_exists.mp
      (show (keptAndLost.heap.get? ⟨0, 0⟩).isSome = true by decide)
    have held :
        ⟨2, 0⟩ ∈ ((keptAndLost.heap.get? ⟨0, 0⟩).map
          (ScriptObject.references keptAndLost.scopes)).getD [] := by
      decide
    rw [found] at held
    exact .held globalRetained found
      (ScriptObject.mem_references_iff.mp held) (by decide)
  have lostUnreached : ¬keptAndLost.Retained ⟨3, 0⟩ := by
    intro retained
    cases retained with
    | rooted rooted live =>
        have starts := (mem_roots_or_pins_iff rfl).mpr rooted
        revert starts
        decide
    | held _ found holds _ =>
        have onlyKept := references_keptAndLost found
          (ScriptObject.mem_references_iff.mpr holds)
        revert onlyKept
        decide
  refine ⟨rfl, collected, after, succeeds, ?_, lost _ lostUnreached, ?_⟩
  · obtain ⟨object, _, found⟩ := kept _ keptRetained
    simp [found]
  · rw [((same _ globalRetained).1 "kept").2]
    rfl

end Machine

end MovieScript
