import MovieScript.Classes.Bootstrap
import MovieScript.Host.Engine
import MovieScript.Proofs.DocumentImport

namespace MovieScript

/-!
# Documents that come back

Export reads a document off whatever stands for it.  So a document that is
imported and exported again is the same document, except that integers which
scripts cannot hold have become floats.
-/

theorem Table.get?_of_mem
    {α : Type}
    {entries : List (String × α)}
    {key : String}
    {value : α}
    (distinct : (entries.map Prod.fst).Nodup)
    (member : (key, value) ∈ entries) :
    Table.find? key entries = some value := by
  induction entries with
  | nil => cases member
  | cons entry rest inductionHypothesis =>
      obtain ⟨fresh, restDistinct⟩ := List.nodup_cons.mp distinct
      rcases List.mem_cons.mp member with rfl | later
      · simp [Table.find?]
      · have different : entry.1 ≠ key := by
          intro same
          apply fresh
          rw [same]
          exact List.mem_map_of_mem later
        rw [Table.find?, if_neg different]
        exact inductionHypothesis restDistinct later

theorem Document.StandsFor.not_callable
    {machine : Machine}
    {path : List Handle}
    {value : Value}
    {document : Document}
    (stands : document.StandsFor machine.heap path value) :
    machine.isCallable value = false := by
  cases document with
  | null =>
      obtain rfl := stands
      rfl
  | boolean flag =>
      obtain rfl := stands
      rfl
  | integer number =>
      obtain rfl := stands
      unfold Document.integerValue
      split
      · rfl
      · rfl
  | float number =>
      obtain rfl := stands
      rfl
  | text content =>
      obtain rfl := stands
      rfl
  | list items =>
      obtain ⟨handle, object, elements, rfl, _, live, content, _⟩ := stands
      unfold Machine.isCallable
      dsimp only
      rw [live, Option.bind_some, ScriptObject.callable?, content]
      rfl
  | record members =>
      obtain ⟨handle, object, rfl, _, live, content, _⟩ := stands
      unfold Machine.isCallable
      dsimp only
      rw [live, Option.bind_some, ScriptObject.callable?, content]
      rfl

section Export

variable {σ : Type} {session : Session σ} {allowed : String → Prop}

/-- An own data member of an ordinary object is read as it is. -/
theorem Act.getMember_stored
    {calls : Calls σ}
    {handle : Handle}
    {object : ScriptObject}
    {name : String}
    {property : Property}
    {value : Value}
    (live : session.machine.heap.get? handle = some object)
    (ordinary : object.content = .ordinary)
    (own : object.own? name = some property)
    (stored : property.value? = some value) :
    Act.getMember handle name calls session = .ok value session := by
  have resolved :
      session.machine.resolve handle name = .ok (.value value) := by
    have noElement : object.element? name = none := by
      unfold ScriptObject.element?
      rw [ordinary]
    rw [Machine.resolve, Machine.resolveWithin,
      Machine.object_of_get? live]
    dsimp only [bind, Except.bind]
    unfold ScriptObject.resolveOwn?
    rw [noElement, own]
    cases property with
    | data kept writable enumerable configurable =>
        cases stored
        rfl
    | accessor getter setter enumerable configurable => cases stored
  unfold Act.getMember
  rw [Act.bind_ok (Act.ask_ok resolved)]
  rfl

theorem exportLevel_integerValue
    {calls : Calls σ}
    {number : Int}
    (low : -2 ^ 63 ≤ number)
    (high : number < 2 ^ 64)
    (path : List Handle) :
    Act.exportLevel path (Document.integerValue number) calls session =
      .ok (Document.widened (.integer number), path) session := by
  have bound : Int.pow 2 31 = 2 ^ 31 := rfl
  unfold Document.integerValue Document.widened
  rw [bound]
  by_cases fits : -2 ^ 31 ≤ number ∧ number < 2 ^ 31
  · have isInteger :
        (decide (-2 ^ 31 ≤ number) && decide (number < 2 ^ 31)) = true := by
      simpa using fits
    rw [if_pos fits, if_pos isInteger]
    change EStateM.Result.ok
      (Document.integer (Int32.ofInt number).toInt, path) session = _
    rw [Int32.toInt_ofInt_of_le fits.1 fits.2]
  · have isFloat :
        ¬(decide (-2 ^ 31 ≤ number) && decide (number < 2 ^ 31)) =
          true := by
      simpa using fits
    rw [if_neg fits, if_neg isFloat]
    change EStateM.Result.ok
      (Document.ofFloat (Decimal.nearestToInt number), path) session = _
    rw [Document.ofFloat, if_pos (Decimal.isFinite_nearestToInt low high)]

/--
An object that is not in the set is exported with itself in the set, which is
then as it was before.
-/
theorem Act.exportLevel_object
    {calls : Calls σ}
    {visiting : List Handle}
    {handle : Handle}
    {document : Document}
    (off : handle ∉ visiting)
    (exported :
      Act.exportObject (handle :: visiting) handle calls session =
        .ok (document, handle :: visiting) session) :
    Act.exportLevel visiting (.object handle) calls session =
      .ok (document, visiting) session := by
  unfold Act.exportLevel
  dsimp only
  rw [if_neg off, Act.bind_ok exported]
  dsimp only
  rw [List.erase_cons_head]
  rfl

variable (host : Host σ)

mutual

/--
Export succeeds with enough fuel, gives the widened document and leaves the set
of objects on the way as it was.
-/
theorem exportBelow_stands :
    ∀ (document : Document) (fuel : Nat) (path : List Handle)
      (value : Value),
      document.Proper allowed →
        document.depth < fuel →
          document.StandsFor session.machine.heap path value →
            (host.calls fuel).exportBelow path value session =
              .ok (document.widened, path) session
  | _, 0, _, _, _, deep, _ => absurd deep (Nat.not_lt_zero _)
  | .null, _ + 1, _, _, _, _, stands => by
      obtain rfl := stands
      rfl
  | .boolean flag, _ + 1, _, _, _, _, stands => by
      obtain rfl := stands
      rfl
  | .integer number, _ + 1, path, _, proper, _, stands => by
      obtain rfl := stands
      exact exportLevel_integerValue proper.1 proper.2 path
  | .float number, fuel + 1, path, _, proper, _, stands => by
      obtain rfl := stands
      have finite : number.isFinite = true := proper
      change EStateM.Result.ok (Document.ofFloat number, path) session = _
      rw [Document.ofFloat, if_pos finite]
      rfl
  | .text content, _ + 1, _, _, _, _, stands => by
      obtain rfl := stands
      rfl
  | .list items, fuel + 1, path, _, proper, deep, stands => by
      obtain ⟨handle, object, elements, rfl, off, live, content, stand⟩ :=
        stands
      have exported :=
        exportItems_stand items fuel (handle :: path) elements.toList
          proper (Nat.lt_of_succ_lt_succ deep) stand
      change Act.exportLevel path (.object handle) (host.calls fuel)
        session = _
      refine Act.exportLevel_object off ?_
      unfold Act.exportObject
      rw [Act.bind_ok (Act.ask_ok (Machine.object_of_get? live)), content]
      exact (Act.bind_ok exported _).trans rfl
  | .record members, fuel + 1, path, _, proper, deep, stands => by
      obtain ⟨handle, object, rfl, off, live, content, stand⟩ := stands
      have exported :=
        exportMembers_stand members fuel (handle :: path) handle object
          object.properties.entries proper.2 (Nat.lt_of_succ_lt_succ deep)
          live content
          (fun name property member =>
            Table.get?_of_mem object.properties.distinct member) stand
      change Act.exportLevel path (.object handle) (host.calls fuel)
        session = _
      refine Act.exportLevel_object off ?_
      unfold Act.exportObject
      rw [Act.bind_ok (Act.ask_ok (Machine.object_of_get? live)), content]
      exact (Act.bind_ok exported _).trans rfl

theorem exportItems_stand :
    ∀ (items : List Document) (fuel : Nat) (path : List Handle)
      (elements : List Value),
      Document.ProperItems allowed items →
        Document.itemDepth items < fuel →
          Document.ItemsStandFor session.machine.heap path elements
              items →
            Act.exportItems path elements (host.calls fuel) session =
              .ok (Document.widenedItems items, path) session
  | [], _, _, _, _, _, stand => by
      obtain rfl := stand
      rfl
  | item :: rest, fuel, path, _, proper, deep, stand => by
      obtain ⟨first, others, rfl, stands, restStands⟩ := stand
      obtain ⟨firstDeep, restDeep⟩ := Nat.max_lt.mp deep
      have exported :=
        exportBelow_stands item fuel path first proper.1 firstDeep stands
      have remaining :=
        exportItems_stand rest fuel path others proper.2 restDeep
          restStands
      refine (Act.bind_ok exported _).trans ?_
      exact (Act.bind_ok remaining _).trans rfl

theorem exportMembers_stand :
    ∀ (members : List (String × Document)) (fuel : Nat)
      (path : List Handle) (handle : Handle) (object : ScriptObject)
      (properties : List (String × Property)),
      Document.ProperMembers allowed members →
        Document.memberDepth members < fuel →
          session.machine.heap.get? handle = some object →
            object.content = .ordinary →
              (∀ name property, (name, property) ∈ properties →
                object.own? name = some property) →
                Document.MembersStandFor session.machine.heap path
                    properties members →
                  Act.exportMembers path handle
                      ((properties.filter (·.2.enumerable)).map
                        Prod.fst) (host.calls fuel) session =
                    .ok (Document.widenedMembers members, path) session
  | [], _, _, _, _, _, _, _, _, _, _, stand => by
      obtain rfl := stand
      rfl
  | (name, document) :: rest, fuel, path, handle, object, _, proper, deep,
      live, ordinary, own, stand => by
      obtain ⟨value, others, rfl, stands, restStands⟩ := stand
      obtain ⟨firstDeep, restDeep⟩ := Nat.max_lt.mp deep
      have read :
          Act.getMember handle name (host.calls fuel) session =
            .ok value session :=
        Act.getMember_stored live ordinary (own name _ (.head others)) rfl
      have exported :=
        exportBelow_stands document fuel path value proper.2.1 firstDeep
          stands
      have remaining :=
        exportMembers_stand rest fuel path handle object others proper.2.2
          restDeep live ordinary
          (fun name property member =>
            own name property (.tail _ member)) restStands
      change Act.exportMembers path handle
        (name :: (others.filter (·.2.enumerable)).map Prod.fst)
          (host.calls fuel) session = _
      unfold Act.exportMembers
      rw [Act.bind_ok read, Act.inspect_bind, stands.not_callable]
      refine (Act.bind_ok exported _).trans ?_
      exact (Act.bind_ok remaining _).trans rfl

end

end Export

namespace Host

variable {σ : Type}

/--
A document whose numbers have sixty-four bits or are finite, and whose keys are
distinct and not taken by accessors that new objects inherit, can be imported.
Import leaves all objects unchanged, and export of its result gives the document
back with its members in order and with floats in place of long integers.
-/
theorem exportDocument_importDocument
    (host : Host σ)
    (fuel : Nat)
    (session : Session σ)
    (document : Document)
    (wellFormed : session.machine.heap.WellFormed)
    (room : session.machine.heap.total + document.objects < 2 ^ 32)
    (proper : document.Proper session.machine.InheritsPlainly) :
    ∃ value after,
      Act.importDocument document (host.calls fuel) session =
          .ok value after ∧
        (∀ handle object,
          session.machine.heap.get? handle = some object →
            after.machine.heap.get? handle = some object) ∧
          ∀ enough,
            document.depth < enough →
              Act.exportDocument value (host.calls enough) after =
                .ok document.widened after := by
  obtain ⟨machine, kept⟩ := session
  obtain ⟨value, after, imported, grown, stands⟩ :=
    importDocument_stands document machine
      ⟨wellFormed, room, fun _ inherits => inherits⟩ proper
  refine ⟨value, ⟨{ machine with heap := after }, kept⟩, imported,
    grown.keeps, ?_⟩
  intro enough deep
  have exported :
      (host.calls enough).exportBelow [] value
          ⟨{ machine with heap := after }, kept⟩ =
        .ok (document.widened, []) ⟨{ machine with heap := after }, kept⟩ :=
    exportBelow_stands host document enough [] value proper deep
      (stands [] nofun)
  exact (Act.bind_ok exported _).trans rfl

/-- New objects inherit a member `toString`, which is no accessor. -/
def withBase : Machine :=
  { Machine.bare .standard 0 with
    heap :=
      Heap.run
        [.alloc .blank, .alloc .blank,
          .alloc (ScriptObject.blank.withProperty "toString" (.plain .null))]
    prototypes := Table.empty.insert "Object" ⟨2, 0⟩ }

/-- A record with a number that scripts cannot hold, and with unusual keys. -/
def unusual : Document :=
  .record
    [("toString", .list [.integer 1, .integer 1099511627776]),
      ("0", .null), ("", .record [])]

theorem exportDocument_importDocument_unusual :
    withBase.heap.WellFormed ∧
      unusual.Proper withBase.InheritsPlainly ∧
        ∃ value after,
          Act.importDocument unusual
              ((⟨fun _ _ _ => default, none⟩ : Host Unit).calls 0)
              ⟨withBase, ()⟩ = .ok value after ∧
            Act.exportDocument value
                ((⟨fun _ _ _ => default, none⟩ : Host Unit).calls 3)
                after =
              .ok
                (.record
                  [("toString",
                    .list
                      [.integer 1,
                        .float (Decimal.nearestToInt 1099511627776)]),
                    ("0", .null), ("", .record [])])
                after := by
  have wellFormed : withBase.heap.WellFormed :=
    Heap.wellFormed_run _ (by decide +kernel)
  have plainly (name : String) : withBase.InheritsPlainly name := by
    refine ⟨ScriptObject.blank.withProperty "toString" (.plain .null), rfl,
      ?_, trivial⟩
    intro getter setter enumerable configurable
    change (Table.empty.insert "toString" _).get? name ≠ _
    rw [Table.get?_insert]
    split
    · intro accessor
      cases accessor
    · intro accessor
      cases accessor
  have proper : unusual.Proper withBase.InheritsPlainly :=
    ⟨by decide, plainly _,
      ⟨⟨by decide, by decide⟩, ⟨by decide, by decide⟩, trivial⟩,
      plainly _, trivial, plainly _, ⟨List.nodup_nil, trivial⟩, trivial⟩
  refine ⟨wellFormed, proper, ?_⟩
  obtain ⟨value, after, imported, _, exported⟩ :=
    exportDocument_importDocument ⟨fun _ _ _ => default, none⟩ 0
      ⟨withBase, ()⟩ unusual wellFormed (by decide +kernel) proper
  exact ⟨value, after, imported, exported 3 (by decide)⟩

end Host

end MovieScript
