import MovieScript.Act.Exchange
import MovieScript.Proofs.ActStability
import MovieScript.Proofs.DocumentForm
import MovieScript.Proofs.HandleLifetime

namespace MovieScript

/-!
# Import of documents

Import goes through the member writes that scripts use, so a key could meet an
accessor that new objects inherit.  Where there is none, import makes new
objects, changes only those, and what it makes stands for the document.
-/

namespace Machine

/--
Along the prototypes from an object on, as far as look-up goes, every object is
there and none has an accessor of that name.
-/
def NoAccessorAbove
    (machine : Machine)
    (name : String) :
    Nat → Option Handle → Prop
  | _, none => True
  | 0, some _ => True
  | budget + 1, some handle =>
      ∃ object,
        machine.heap.get? handle = some object ∧
          (∀ getter setter enumerable configurable,
            object.own? name ≠
              some (.accessor getter setter enumerable configurable)) ∧
            machine.NoAccessorAbove name budget object.prototype

/-- New objects inherit no accessor of that name. -/
def InheritsPlainly
    (machine : Machine)
    (name : String) :
    Prop :=
  machine.NoAccessorAbove name machine.configuration.maxPrototypeDepth
    (machine.prototype? "Object")

variable {machine : Machine} {name : String}

theorem NoAccessorAbove.of_keeps
    {heap : Heap ScriptObject}
    (keeps : ∀ handle object,
      machine.heap.get? handle = some object →
        heap.get? handle = some object)
    (budget : Nat)
    {start : Option Handle}
    (plain : machine.NoAccessorAbove name budget start) :
    { machine with heap := heap }.NoAccessorAbove name budget start := by
  induction budget generalizing start with
  | zero =>
      cases start with
      | none => trivial
      | some handle => trivial
  | succ budget inductionHypothesis =>
      cases start with
      | none => trivial
      | some handle =>
          obtain ⟨object, live, own, above⟩ := plain
          exact ⟨object, keeps handle object live, own,
            inductionHypothesis above⟩

theorem NoAccessorAbove.resolveWithin
    (budget : Nat)
    {start : Option Handle}
    (plain : machine.NoAccessorAbove name budget start) :
    ∃ resolution,
      machine.resolveWithin name budget start = .ok resolution ∧
        ∀ getter setter, resolution ≠ .accessor getter setter := by
  induction budget generalizing start with
  | zero =>
      cases start with
      | none => exact ⟨.missing, rfl, nofun⟩
      | some handle => exact ⟨.missing, rfl, nofun⟩
  | succ budget inductionHypothesis =>
      cases start with
      | none => exact ⟨.missing, rfl, nofun⟩
      | some handle =>
          obtain ⟨object, live, own, above⟩ := plain
          have found : machine.object handle = .ok object := by
            unfold Machine.object
            rw [live]
          rw [Machine.resolveWithin, found]
          dsimp only [bind, Except.bind]
          unfold ScriptObject.resolveOwn?
          cases object.element? name with
          | some element => exact ⟨.value element, rfl, nofun⟩
          | none =>
              dsimp only
              cases found : object.own? name with
              | none => exact inductionHypothesis above
              | some property =>
                  cases property with
                  | data value writable enumerable configurable =>
                      exact ⟨.value value, rfl, nofun⟩
                  | accessor getter setter enumerable configurable =>
                      exact absurd found (own _ _ _ _)

end Machine

/-! Import makes objects and changes only those that it made. -/

/-- A member that is neither there nor inherited as an accessor is added. -/
theorem Edit.writeMember_new
    {machine : Machine}
    {handle : Handle}
    {object : ScriptObject}
    {name : String}
    (live : machine.heap.get? handle = some object)
    (ordinary : object.content = .ordinary)
    (absent : object.own? name = none)
    (plain :
      machine.NoAccessorAbove name
        machine.configuration.maxPrototypeDepth object.prototype)
    (value : Value) :
    (Edit.writeMember handle name value).run machine =
      .ok .done
        { machine with
          heap :=
            machine.heap.modify handle
              (·.withProperty name (.plain value)) } := by
  have found := Machine.object_of_get? live
  obtain ⟨resolution, above, notAccessor⟩ := plain.resolveWithin
  have resolved : machine.resolve handle name = .ok resolution := by
    have noElement : object.element? name = none := by
      unfold ScriptObject.element?
      rw [ordinary]
    rw [Machine.resolve, Machine.resolveWithin, found]
    dsimp only [bind, Except.bind]
    unfold ScriptObject.resolveOwn?
    rw [noElement, absent]
    exact above
  rw [Edit.writeMember, EStateM.run_bind, Edit.ask_run found]
  dsimp only
  rw [ordinary]
  dsimp only
  rw [Edit.writeMember.writeProperty, absent]
  dsimp only
  rw [EStateM.run_bind, Edit.ask_run resolved]
  dsimp only
  split
  · exact absurd rfl (notAccessor _ _)
  · exact absurd rfl (notAccessor _ _)
  · rw [EStateM.run_bind, Edit.modifyObject_run live]
    rfl

/-- So many new slots at most, and every object that was there is unchanged. -/
structure Heap.Grown
    (before after : Heap ScriptObject)
    (count : Nat) :
    Prop where
  wellFormed : after.WellFormed
  bounded : after.total ≤ before.total + count
  keeps :
    ∀ handle object,
      before.get? handle = some object → after.get? handle = some object

/-- Every handle of the path resolves. -/
def Heap.Holds
    (heap : Heap ScriptObject)
    (path : List Handle) :
    Prop :=
  ∀ handle ∈ path, heap.contains handle = true

namespace Heap.Grown

variable {before between after : Heap ScriptObject} {first second : Nat}

theorem refl (wellFormed : before.WellFormed) : before.Grown before 0 :=
  ⟨wellFormed, Nat.le_refl _, fun _ _ live => live⟩

theorem trans
    (grown : before.Grown between first)
    (more : between.Grown after second) :
    before.Grown after (first + second) where
  wellFormed := more.wellFormed
  bounded := by
    have := grown.bounded
    have := more.bounded
    omega
  keeps handle object live :=
    more.keeps handle object (grown.keeps handle object live)

theorem holds
    (grown : before.Grown after first)
    {path : List Handle}
    (held : before.Holds path) :
    after.Holds path := by
  intro handle member
  obtain ⟨object, live⟩ := Option.isSome_iff_exists.mp (held handle member)
  rw [Heap.contains, grown.keeps handle object live]
  rfl

theorem carried
    (grown : before.Grown after first)
    (path : List Handle) :
    Document.Carried before after path path :=
  fun handle object off live => ⟨off, grown.keeps handle object live⟩

end Heap.Grown

theorem Heap.Holds.not_mem
    {heap : Heap ScriptObject}
    {path : List Handle}
    {handle : Handle}
    (held : heap.Holds path)
    (dead : heap.get? handle = none) :
    handle ∉ path := by
  intro member
  have live := held handle member
  rw [Heap.contains, dead] at live
  cases live

/-- A new object is new, and nothing else changes. -/
theorem Heap.WellFormed.grown_alloc
    {heap : Heap ScriptObject}
    (wellFormed : heap.WellFormed)
    (room : heap.total + 1 < 2 ^ 32)
    (object : ScriptObject) :
    heap.Grown (heap.alloc object).2 1 ∧
      heap.get? (heap.alloc object).1 = none ∧
        (heap.alloc object).2.get? (heap.alloc object).1 =
          some object := by
  have bounded := (wellFormed.packed.perform (.alloc object)).2.2
  have allocation :=
    wellFormed.alloc object (Nat.lt_of_le_of_lt bounded room)
  have fresh : heap.get? (heap.alloc object).1 = none := by
    rw [Heap.get?_eq]
    rcases allocation.vacant with ⟨unused, _⟩ | ⟨data, pooled⟩
    · rw [unused]
      rfl
    · rw [pooled]
      simp
  refine ⟨⟨allocation.wellFormed, bounded, ?_⟩, fresh, ?_⟩
  · intro handle other live
    rw [allocation.get?_eq, if_neg]
    · exact live
    · rintro rfl
      rw [fresh] at live
      cases live
  · rw [allocation.get?_eq, if_pos rfl]

/-- The machine can take so many more objects with members of allowed names. -/
structure Machine.Ready
    (machine : Machine)
    (allowed : String → Prop)
    (count : Nat) :
    Prop where
  wellFormed : machine.heap.WellFormed
  room : machine.heap.total + count < 2 ^ 32
  inherits : ∀ name, allowed name → machine.InheritsPlainly name

theorem Machine.Ready.grown
    {machine : Machine}
    {allowed : String → Prop}
    {first second : Nat}
    {after : Heap ScriptObject}
    (ready : machine.Ready allowed (first + second))
    (grown : machine.heap.Grown after first) :
    { machine with heap := after }.Ready allowed second where
  wellFormed := grown.wellFormed
  room := by
    have := ready.room
    have := grown.bounded
    change after.total + second < 2 ^ 32
    omega
  inherits name isAllowed :=
    (ready.inherits name isAllowed).of_keeps grown.keeps

/-- A plain member hinders no one, even if new objects inherit it. -/
theorem Machine.NoAccessorAbove.write
    {machine : Machine}
    {query : String}
    (handle : Handle)
    (name : String)
    (value : Value)
    (budget : Nat)
    {start : Option Handle}
    (plain : machine.NoAccessorAbove query budget start) :
    { machine with
      heap :=
        machine.heap.modify handle
          (·.withProperty name (.plain value)) }.NoAccessorAbove query
      budget start := by
  induction budget generalizing start with
  | zero =>
      cases start with
      | none => trivial
      | some first => trivial
  | succ budget inductionHypothesis =>
      cases start with
      | none => trivial
      | some first =>
          obtain ⟨object, live, own, above⟩ := plain
          by_cases same : first = handle
          · refine ⟨object.withProperty name (.plain value), ?_, ?_,
              inductionHypothesis above⟩
            · change (machine.heap.modify handle _).get? first = _
              rw [Heap.get?_modify, if_pos same, live]
              rfl
            · intro getter setter enumerable configurable
              change (object.properties.insert name _).get? query ≠ _
              rw [Table.get?_insert]
              split
              · intro accessor
                cases accessor
              · exact own getter setter enumerable configurable
          · refine ⟨object, ?_, own, inductionHypothesis above⟩
            change (machine.heap.modify handle _).get? first = _
            rw [Heap.get?_modify, if_neg same]
            exact live

theorem Machine.Ready.write
    {machine : Machine}
    {allowed : String → Prop}
    {count : Nat}
    (ready : machine.Ready allowed count)
    (handle : Handle)
    (name : String)
    (value : Value) :
    { machine with
      heap :=
        machine.heap.modify handle
          (·.withProperty name (.plain value)) }.Ready allowed count where
  wellFormed :=
    ready.wellFormed.perform
      (.modify handle (·.withProperty name (.plain value)))
      (Nat.lt_of_le_of_lt
        (Nat.le_of_eq (Heap.total_congr (Heap.shape_updateSlot _ _ _)))
        (Nat.lt_of_le_of_lt (Nat.le_add_right _ _) ready.room))
  room := by
    change (machine.heap.modify handle _).total + count < 2 ^ 32
    rw [Heap.modify, Heap.total_congr (Heap.shape_updateSlot _ _ _)]
    exact ready.room
  inherits query isAllowed :=
    (ready.inherits query isAllowed).write handle name value _

theorem Machine.Ready.less
    {machine : Machine}
    {allowed : String → Prop}
    {first second : Nat}
    (ready : machine.Ready allowed (first + second)) :
    machine.Ready allowed first :=
  ⟨ready.wellFormed, by have := ready.room; omega, ready.inherits⟩

/-- A new array stands for the list whose items its elements stand for. -/
theorem standsFor_list
    {before between : Heap ScriptObject}
    {count : Nat}
    {values : List Value}
    {items : List Document}
    (grown : before.Grown between count)
    (room : between.total + 1 < 2 ^ 32)
    (stand : ∀ path,
      before.Holds path →
        Document.ItemsStandFor between path values items)
    {object : ScriptObject}
    (content : object.content = .array values.toArray) :
    before.Grown (between.alloc object).2 (count + 1) ∧
      ∀ path,
        before.Holds path →
          Document.StandsFor (between.alloc object).2 path
            (.object (between.alloc object).1) (.list items) := by
  obtain ⟨more, fresh, live⟩ := grown.wellFormed.grown_alloc room object
  refine ⟨grown.trans more, ?_⟩
  intro path held
  have off := (grown.holds held).not_mem fresh
  refine ⟨_, object, values.toArray, rfl, off, live, content, ?_⟩
  refine (stand path held).carried ?_
  intro handle other offPath found
  refine ⟨?_, more.keeps handle other found⟩
  refine List.not_mem_cons_of_ne_of_not_mem ?_ offPath
  rintro rfl
  rw [fresh] at found
  cases found

/-- An ordinary object that inherits as new ones do and lacks the names. -/
structure Machine.Fillable
    (machine : Machine)
    (handle : Handle)
    (object : ScriptObject)
    (names : List String) :
    Prop where
  live : machine.heap.get? handle = some object
  ordinary : object.content = .ordinary
  prototype : object.prototype = machine.prototype? "Object"
  distinct : names.Nodup
  absent : ∀ name ∈ names, object.own? name = none

/-- Members were added to one object, and the other objects are unchanged. -/
structure Heap.Filled
    (before after : Heap ScriptObject)
    (count : Nat)
    (handle : Handle)
    (object : ScriptObject)
    (added : List (String × Property)) :
    Prop where
  wellFormed : after.WellFormed
  bounded : after.total ≤ before.total + count
  keeps :
    ∀ other content,
      other ≠ handle → before.get? other = some content →
        after.get? other = some content
  filled :
    ∃ filled,
      after.get? handle = some filled ∧ filled.content = .ordinary ∧
        filled.properties.entries =
          object.properties.entries ++ added

namespace Machine.Fillable

variable {machine : Machine} {handle : Handle} {object : ScriptObject}
variable {name : String} {names : List String}

theorem grown
    (fillable : machine.Fillable handle object names)
    {after : Heap ScriptObject}
    {count : Nat}
    (grown : machine.heap.Grown after count) :
    { machine with heap := after }.Fillable handle object names :=
  ⟨grown.keeps handle object fillable.live, fillable.ordinary,
    fillable.prototype, fillable.distinct, fillable.absent⟩

/-- The next member is written and no longer among the names still lacking. -/
theorem write
    (fillable : machine.Fillable handle object (name :: names))
    (value : Value) :
    { machine with
      heap :=
        machine.heap.modify handle
          (·.withProperty name (.plain value)) }.Fillable handle
        (object.withProperty name (.plain value)) names where
  live := by
    change (machine.heap.modify handle _).get? handle = _
    rw [Heap.get?_modify, if_pos rfl, fillable.live]
    rfl
  ordinary := fillable.ordinary
  prototype := fillable.prototype
  distinct := (List.nodup_cons.mp fillable.distinct).2
  absent query member := by
    have different : query ≠ name := by
      rintro rfl
      exact (List.nodup_cons.mp fillable.distinct).1 member
    change (object.properties.insert name _).get? query = none
    rw [Table.get?_insert, if_neg different]
    exact fillable.absent query (.tail name member)

end Machine.Fillable

section Import

variable {σ : Type} {calls : Calls σ} {host : σ} {allowed : String → Prop}

/-- Writing a member that the object lacks runs no setter. -/
theorem Act.setMember_new
    {machine : Machine}
    {handle : Handle}
    {object : ScriptObject}
    {name : String}
    {names : List String}
    (fillable : machine.Fillable handle object (name :: names))
    (inherits : machine.InheritsPlainly name)
    (value : Value) :
    Act.setMember handle name value calls ⟨machine, host⟩ =
      .ok ()
        ⟨{ machine with
            heap :=
              machine.heap.modify handle
                (·.withProperty name (.plain value)) }, host⟩ := by
  have plain :
      machine.NoAccessorAbove name
        machine.configuration.maxPrototypeDepth object.prototype := by
    rw [fillable.prototype]
    exact inherits
  have written :=
    Edit.writeMember_new fillable.live fillable.ordinary
      (fillable.absent name (.head names)) plain value
  have lifted :
      (liftM (Edit.writeMember handle name value) : Act σ Edit.Write)
          calls ⟨machine, host⟩ = _ :=
    Act.lift_ok written
  exact (Act.bind_ok lifted _).trans rfl

/-- A member that was written stands for what its value stood for. -/
theorem membersStandFor_write
    {before : Machine}
    {between after : Heap ScriptObject}
    {first second : Nat}
    {handle : Handle}
    {object : ScriptObject}
    {name : String}
    {value : Value}
    {document : Document}
    {rest : List (String × Document)}
    {added : List (String × Property)}
    (fillable :
      before.Fillable handle object (name :: rest.map Prod.fst))
    (grown : before.heap.Grown between first)
    (stands : ∀ path,
      before.heap.Holds path → document.StandsFor between path value)
    (filled :
      (between.modify handle
        (·.withProperty name (.plain value))).Filled after second handle
        (object.withProperty name (.plain value)) added)
    (stand : ∀ path,
      (between.modify handle
        (·.withProperty name (.plain value))).Holds path →
        handle ∈ path →
          Document.MembersStandFor after path added rest) :
    before.heap.Filled after (first + second) handle object
        ((name, .plain value) :: added) ∧
      ∀ path,
        before.heap.Holds path → handle ∈ path →
          Document.MembersStandFor after path
            ((name, .plain value) :: added) ((name, document) :: rest) := by
  have written (other : Handle) (content : ScriptObject)
      (different : other ≠ handle)
      (live : between.get? other = some content) :
      (between.modify handle
        (·.withProperty name (.plain value))).get? other =
          some content := by
    rw [Heap.get?_modify, if_neg different]
    exact live
  have total :
      (between.modify handle
        (·.withProperty name (.plain value))).total = between.total :=
    Heap.total_congr (Heap.shape_updateSlot _ _ _)
  refine ⟨⟨filled.wellFormed, ?_, ?_, ?_⟩, ?_⟩
  · have := filled.bounded
    have := grown.bounded
    omega
  · intro other content different live
    exact filled.keeps other content different
      (written other content different (grown.keeps other content live))
  · obtain ⟨final, live, content, entries⟩ := filled.filled
    refine ⟨final, live, content, ?_⟩
    rw [entries]
    change (object.properties.insert name _).entries ++ added = _
    rw [Table.entries_insert_of_absent (fillable.absent name (.head _)),
      List.append_assoc]
    rfl
  · intro path held below
    have heldBetween := grown.holds held
    have stillHeld :
        (between.modify handle
          (·.withProperty name (.plain value))).Holds path := by
      intro other member
      rw [Heap.contains, Heap.get?_modify]
      split
      · rw [Option.isSome_map]
        exact heldBetween other member
      · exact heldBetween other member
    refine ⟨value, added, rfl, ?_, stand path stillHeld below⟩
    refine (stands path held).carried ?_
    intro other content off live
    have different : other ≠ handle := by
      rintro rfl
      exact off below
    exact ⟨off, filled.keeps other content different
      (written other content different live)⟩

/-- A new object that was filled stands for the record of its members. -/
theorem standsFor_record
    {before after : Heap ScriptObject}
    {count : Nat}
    {object : ScriptObject}
    {members : List (String × Document)}
    {added : List (String × Property)}
    (grown : before.Grown (before.alloc object).2 1)
    (fresh : before.get? (before.alloc object).1 = none)
    (new :
      (before.alloc object).2.get? (before.alloc object).1 =
        some object)
    (filled :
      (before.alloc object).2.Filled after count
        (before.alloc object).1 object added)
    (empty : object.properties.entries = [])
    (stand : ∀ path,
      (before.alloc object).2.Holds path →
        (before.alloc object).1 ∈ path →
          Document.MembersStandFor after path added members) :
    before.Grown after (count + 1) ∧
      ∀ path,
        before.Holds path →
          Document.StandsFor after path
            (.object (before.alloc object).1) (.record members) := by
  have different {other : Handle} {content : ScriptObject}
      (live : before.get? other = some content) :
      other ≠ (before.alloc object).1 := by
    rintro rfl
    rw [fresh] at live
    cases live
  refine ⟨⟨filled.wellFormed, ?_, ?_⟩, ?_⟩
  · have := filled.bounded
    have := grown.bounded
    omega
  · intro other content live
    exact filled.keeps other content (different live)
      (grown.keeps other content live)
  · intro path held
    obtain ⟨final, live, content, entries⟩ := filled.filled
    rw [empty, List.nil_append] at entries
    refine ⟨_, final, rfl, held.not_mem fresh, live, content, ?_⟩
    rw [entries]
    refine stand _ ?_ (.head path)
    intro other member
    rcases List.mem_cons.mp member with rfl | below
    · rw [Heap.contains, new]
      rfl
    · exact grown.holds held other below

mutual

/-- Import succeeds, and the value that it gives stands for the document. -/
theorem importDocument_stands :
    ∀ (document : Document) (machine : Machine),
      machine.Ready allowed document.objects →
        document.Proper allowed →
          ∃ value after,
            Act.importDocument document calls ⟨machine, host⟩ =
                .ok value ⟨{ machine with heap := after }, host⟩ ∧
              machine.heap.Grown after document.objects ∧
                ∀ path,
                  machine.heap.Holds path →
                    document.StandsFor after path value
  | .null, machine, ready, _ =>
      ⟨.null, machine.heap, rfl, .refl ready.wellFormed, fun _ _ => rfl⟩
  | .boolean flag, machine, ready, _ =>
      ⟨.boolean flag, machine.heap, rfl, .refl ready.wellFormed,
        fun _ _ => rfl⟩
  | .integer number, machine, ready, _ =>
      ⟨Document.integerValue number, machine.heap, rfl,
        .refl ready.wellFormed, fun _ _ => rfl⟩
  | .float number, machine, ready, _ =>
      ⟨.float number, machine.heap, rfl, .refl ready.wellFormed,
        fun _ _ => rfl⟩
  | .text content, machine, ready, _ =>
      ⟨.text content, machine.heap, rfl, .refl ready.wellFormed,
        fun _ _ => rfl⟩
  | .list items, machine, ready, proper => by
      obtain ⟨values, between, imported, grown, stand⟩ :=
        importItems_stand items machine ready.less proper
      let object :=
        { ScriptObject.new (machine.prototype? "Array")
            (.array values.toArray) with
          constructor := machine.constructor? "Array" }
      obtain ⟨whole, stands⟩ :=
        standsFor_list grown (ready.grown grown).room stand
          (rfl : object.content = _)
      refine ⟨_, _, ?_, whole, stands⟩
      unfold Act.importDocument
      rw [Act.bind_ok imported]
      rfl
  | .record members, machine, ready, proper => by
      obtain ⟨distinct, properMembers⟩ := proper
      let object := ScriptObject.new (machine.prototype? "Object") .ordinary
      have first : machine.Ready allowed (1 + Document.memberObjects members) :=
        Nat.add_comm _ 1 ▸ ready
      obtain ⟨grown, fresh, live⟩ :=
        ready.wellFormed.grown_alloc first.less.room object
      have fillable :
          { machine with heap := (machine.heap.alloc object).2 }.Fillable
            (machine.heap.alloc object).1 object
            (members.map Prod.fst) :=
        ⟨live, rfl, rfl, distinct, fun _ _ => rfl⟩
      obtain ⟨after, added, imported, filled, stand⟩ :=
        importMembers_stand members _ _ object (first.grown grown)
          properMembers fillable
      obtain ⟨whole, stands⟩ :=
        standsFor_record grown fresh live filled rfl stand
      refine ⟨_, after, ?_, whole, stands⟩
      have made :
          (liftM Edit.createObject : Act σ Handle) calls ⟨machine, host⟩ =
            .ok (machine.heap.alloc object).1
              ⟨{ machine with heap := (machine.heap.alloc object).2 },
                host⟩ :=
        rfl
      unfold Act.importDocument
      rw [Act.bind_ok made, Act.bind_ok imported]
      rfl

theorem importItems_stand :
    ∀ (items : List Document) (machine : Machine),
      machine.Ready allowed (Document.itemObjects items) →
        Document.ProperItems allowed items →
          ∃ values after,
            Act.importItems items calls ⟨machine, host⟩ =
                .ok values ⟨{ machine with heap := after }, host⟩ ∧
              machine.heap.Grown after (Document.itemObjects items) ∧
                ∀ path,
                  machine.heap.Holds path →
                    Document.ItemsStandFor after path values items
  | [], machine, ready, _ =>
      ⟨[], machine.heap, rfl, .refl ready.wellFormed, fun _ _ => rfl⟩
  | item :: rest, machine, ready, proper => by
      obtain ⟨value, between, imported, grown, stands⟩ :=
        importDocument_stands item machine ready.less proper.1
      obtain ⟨values, after, others, more, stand⟩ :=
        importItems_stand rest { machine with heap := between }
          (ready.grown grown) proper.2
      refine ⟨value :: values, after, ?_, grown.trans more, ?_⟩
      · unfold Act.importItems
        rw [Act.bind_ok imported, Act.bind_ok others]
        rfl
      · intro path held
        exact ⟨value, values, rfl,
          (stands path held).carried (more.carried path),
          stand path (grown.holds held)⟩

theorem importMembers_stand :
    ∀ (members : List (String × Document)) (machine : Machine)
      (handle : Handle) (object : ScriptObject),
      machine.Ready allowed (Document.memberObjects members) →
        Document.ProperMembers allowed members →
          machine.Fillable handle object (members.map Prod.fst) →
            ∃ after added,
              Act.importMembers handle members calls ⟨machine, host⟩ =
                  .ok () ⟨{ machine with heap := after }, host⟩ ∧
                machine.heap.Filled after
                    (Document.memberObjects members) handle object
                    added ∧
                  ∀ path,
                    machine.heap.Holds path → handle ∈ path →
                      Document.MembersStandFor after path added members
  | [], machine, handle, object, ready, _, fillable =>
      ⟨machine.heap, [], rfl,
        ⟨ready.wellFormed, Nat.le_refl _, fun _ _ _ live => live,
          object, fillable.live, fillable.ordinary,
          (List.append_nil _).symm⟩,
        fun _ _ _ => rfl⟩
  | (name, document) :: rest, machine, handle, object, ready, proper,
      fillable => by
      obtain ⟨isAllowed, properDocument, properRest⟩ := proper
      obtain ⟨value, between, imported, grown, stands⟩ :=
        importDocument_stands document machine ready.less properDocument
      have readyBetween := ready.grown grown
      have fillableBetween := fillable.grown grown
      have written :
          Act.setMember handle name value calls
              ⟨{ machine with heap := between }, host⟩ = _ :=
        Act.setMember_new fillableBetween
          (readyBetween.inherits name isAllowed) value
      obtain ⟨after, added, others, filled, stand⟩ :=
        importMembers_stand rest _ handle _
          (readyBetween.write handle name value) properRest
          (fillableBetween.write value)
      obtain ⟨whole, standWhole⟩ :=
        membersStandFor_write fillable grown stands filled stand
      refine ⟨after, (name, .plain value) :: added, ?_, whole, standWhole⟩
      unfold Act.importMembers
      rw [Act.bind_ok imported, Act.bind_ok written, others]

end

end Import

end MovieScript
