import Mathlib.Data.Set.Card
import Mathlib.Logic.Relation
import MovieScript.Proofs.DocumentExchange
import MovieScript.Proofs.HostEntries
import MovieScript.Proofs.ObjectEdits

namespace MovieScript

/-!
# What can be exported

Export goes down through the parts of a value and hands on one set of objects.
An object enters the set on the way down and leaves it on the way up, so that
wherever export is, the set has exactly the objects on the way there.  It comes
to an end, because there are only so many objects that are not on the way yet.
It succeeds exactly where no part is a function, a display object, gone, or a
part of itself, and then gives the document that has the structure of the value.
-/

/-- Functions and display objects have no document. -/
def Content.isExportable : Content → Bool
  | .function _ => false
  | .stage _ _ => false
  | _ => true

namespace Machine

open Relation (ReflTransGen TransGen)

variable {machine : Machine}

/-- A listed property that stores something else than a function. -/
def exported?
    (machine : Machine)
    (entry : String × Property) :
    Option (String × Value) :=
  if entry.2.enumerable then
    (entry.2.value?.filter fun value => !machine.isCallable value).map
      (entry.1, ·)
  else
    none

/-- The members of an ordinary object that export looks at, with their values. -/
def exportedMembers
    (machine : Machine)
    (object : ScriptObject) :
    List (String × Value) :=
  object.properties.entries.filterMap machine.exported?

/-- Export of the whole goes on to export the part. -/
inductive Part (machine : Machine) : Value → Value → Prop where
  | payload {handle : Handle} {object : ScriptObject} {value : Value}
      (live : machine.heap.get? handle = some object)
      (content : object.content = .number value) :
      Part machine (.object handle) value
  | element {handle : Handle} {object : ScriptObject}
      {elements : Array Value} {value : Value}
      (live : machine.heap.get? handle = some object)
      (content : object.content = .array elements)
      (listed : value ∈ elements.toList) :
      Part machine (.object handle) value
  | member {handle : Handle} {object : ScriptObject} {name : String}
      {value : Value}
      (live : machine.heap.get? handle = some object)
      (content : object.content = .ordinary)
      (exported : (name, value) ∈ machine.exportedMembers object) :
      Part machine (.object handle) value

/-- Everything a document can be made of. -/
inductive Representable (machine : Machine) : Value → Prop where
  | primitive {value : Value} (noObject : value.handle? = none) :
      Representable machine value
  | text {handle : Handle} {object : ScriptObject} {content : String}
      (live : machine.heap.get? handle = some object)
      (isText : object.content = .text content) :
      Representable machine (.object handle)
  | boolean {handle : Handle} {object : ScriptObject} {flag : Bool}
      (live : machine.heap.get? handle = some object)
      (isBoolean : object.content = .boolean flag) :
      Representable machine (.object handle)
  | number {handle : Handle} {object : ScriptObject} {payload : Value}
      (live : machine.heap.get? handle = some object)
      (isNumber : object.content = .number payload)
      (representable : Representable machine payload) :
      Representable machine (.object handle)
  | array {handle : Handle} {object : ScriptObject}
      {elements : Array Value}
      (live : machine.heap.get? handle = some object)
      (isArray : object.content = .array elements)
      (each : ∀ value ∈ elements.toList, Representable machine value) :
      Representable machine (.object handle)
  | ordinary {handle : Handle} {object : ScriptObject}
      (live : machine.heap.get? handle = some object)
      (isOrdinary : object.content = .ordinary)
      (each : ∀ name value,
        (name, value) ∈ machine.exportedMembers object →
          Representable machine value) :
      Representable machine (.object handle)

mutual

/-- The document has the structure of the value. -/
inductive Depicts (machine : Machine) : Value → Document → Prop where
  | undefined : Depicts machine .undefined .null
  | null : Depicts machine .null .null
  | boolean (flag : Bool) : Depicts machine (.boolean flag) (.boolean flag)
  | integer (number : Int32) :
      Depicts machine (.integer number) (.integer number.toInt)
  | float (number : Float) :
      Depicts machine (.float number) (.ofFloat number)
  | text (content : String) : Depicts machine (.text content) (.text content)
  | textObject {handle : Handle} {object : ScriptObject} {content : String}
      (live : machine.heap.get? handle = some object)
      (isText : object.content = .text content) :
      Depicts machine (.object handle) (.text content)
  | booleanObject {handle : Handle} {object : ScriptObject} {flag : Bool}
      (live : machine.heap.get? handle = some object)
      (isBoolean : object.content = .boolean flag) :
      Depicts machine (.object handle) (.boolean flag)
  | numberObject {handle : Handle} {object : ScriptObject}
      {payload : Value} {document : Document}
      (live : machine.heap.get? handle = some object)
      (isNumber : object.content = .number payload)
      (depicts : Depicts machine payload document) :
      Depicts machine (.object handle) document
  | list {handle : Handle} {object : ScriptObject}
      {elements : Array Value} {items : List Document}
      (live : machine.heap.get? handle = some object)
      (isArray : object.content = .array elements)
      (depicts : DepictsItems machine elements.toList items) :
      Depicts machine (.object handle) (.list items)
  | record {handle : Handle} {object : ScriptObject}
      {members : List (String × Document)}
      (live : machine.heap.get? handle = some object)
      (isOrdinary : object.content = .ordinary)
      (depicts :
        DepictsMembers machine (machine.exportedMembers object) members) :
      Depicts machine (.object handle) (.record members)

/-- The documents have the structure of the values, one by one. -/
inductive DepictsItems (machine : Machine) :
    List Value → List Document → Prop where
  | nil : DepictsItems machine [] []
  | cons {value : Value} {document : Document} {values : List Value}
      {documents : List Document}
      (first : Depicts machine value document)
      (others : DepictsItems machine values documents) :
      DepictsItems machine (value :: values) (document :: documents)

/-- The same for members with their names. -/
inductive DepictsMembers (machine : Machine) :
    List (String × Value) → List (String × Document) → Prop where
  | nil : DepictsMembers machine [] []
  | cons {name : String} {value : Value} {document : Document}
      {values : List (String × Value)}
      {documents : List (String × Document)}
      (first : Depicts machine value document)
      (others : DepictsMembers machine values documents) :
      DepictsMembers machine ((name, value) :: values)
        ((name, document) :: documents)

end

/--
What export cannot get over: a function, a display object, a handle whose
object is gone, or an object that is a part of itself.
-/
inductive Obstacle (machine : Machine) : Value → Prop where
  | gone {handle : Handle} (dangling : machine.heap.get? handle = none) :
      Obstacle machine (.object handle)
  | refused {handle : Handle} {object : ScriptObject}
      (live : machine.heap.get? handle = some object)
      (noDocument : object.content.isExportable = false) :
      Obstacle machine (.object handle)
  | cycle {value : Value} (within : TransGen machine.Part value value) :
      Obstacle machine value

/-- There is an obstacle among the parts of the value. -/
def Obstructed (machine : Machine) (value : Value) : Prop :=
  ∃ part, ReflTransGen machine.Part value part ∧ machine.Obstacle part

/--
The objects on the way from a value to one of its parts, the last one first: each
of them is a part of the one before it.
-/
inductive Way (machine : Machine) (whole : Value) :
    List Handle → Value → Prop where
  | start : Way machine whole [] whole
  | down {visiting : List Handle} {handle : Handle} {part : Value}
      (way : Way machine whole visiting (.object handle))
      (isPart : machine.Part (.object handle) part) :
      Way machine whole (handle :: visiting) part

/-- All listed own properties of ordinary objects below a value store values. -/
def PlainBelow (machine : Machine) (value : Value) : Prop :=
  ∀ handle object,
    ReflTransGen machine.Part value (.object handle) →
      machine.heap.get? handle = some object →
        object.content = .ordinary →
          ∀ entry ∈ object.properties.entries,
            entry.2.enumerable = true → entry.2.isAccessor = false

theorem PlainBelow.part
    {whole part : Value}
    (plain : machine.PlainBelow whole)
    (isPart : machine.Part whole part) :
    machine.PlainBelow part :=
  fun handle object below =>
    plain handle object (below.head isPart)

theorem Obstructed.of_part
    {whole part : Value}
    (isPart : machine.Part whole part)
    (obstructed : machine.Obstructed part) :
    machine.Obstructed whole := by
  obtain ⟨last, below, obstacle⟩ := obstructed
  exact ⟨last, below.head isPart, obstacle⟩

/-- Where a way leads is a part of all objects on it. -/
theorem Way.above
    {whole value : Value}
    {visiting : List Handle}
    (way : machine.Way whole visiting value) :
    ∀ handle ∈ visiting, TransGen machine.Part (.object handle) value := by
  induction way with
  | start => simp
  | down _ isPart inductionHypothesis =>
      refine List.forall_mem_cons.mpr ⟨.single isPart, ?_⟩
      exact fun handle onWay => (inductionHypothesis handle onWay).tail isPart

/-- The content of an object settles what its parts are. -/
theorem Part.of_content
    {handle : Handle}
    {object : ScriptObject}
    {part : Value}
    (isPart : machine.Part (.object handle) part)
    (live : machine.heap.get? handle = some object) :
    object.content = .number part ∨
      (∃ elements : Array Value,
        object.content = .array elements ∧ part ∈ elements.toList) ∨
      (object.content = .ordinary ∧
        ∃ name, (name, part) ∈ machine.exportedMembers object) := by
  cases isPart with
  | payload found content =>
      rw [live] at found
      cases found
      exact .inl content
  | element found content listed =>
      rw [live] at found
      cases found
      exact .inr (.inl ⟨_, content, listed⟩)
  | member found content exported =>
      rw [live] at found
      cases found
      exact .inr (.inr ⟨content, _, exported⟩)

/-- Only objects that are there have parts. -/
theorem Part.contains
    {handle : Handle}
    {part : Value}
    (isPart : machine.Part (.object handle) part) :
    machine.heap.contains handle = true := by
  cases isPart with
  | payload live => exact Heap.contains_of_get? live
  | element live => exact Heap.contains_of_get? live
  | member live => exact Heap.contains_of_get? live

theorem Part.of_object
    {whole part : Value}
    (isPart : machine.Part whole part) :
    ∃ handle, whole = .object handle := by
  cases isPart with
  | payload => exact ⟨_, rfl⟩
  | element => exact ⟨_, rfl⟩
  | member => exact ⟨_, rfl⟩

/-! What is representable has no obstacle below. -/

namespace Representable

variable {whole part value : Value} {handle : Handle}

/-- What holds of an object when it holds of its parts holds throughout. -/
theorem by_parts
    {motive : Value → Prop}
    (primitive : ∀ value, value.handle? = none → motive value)
    (object : ∀ handle object,
      machine.heap.get? handle = some object →
        object.content.isExportable = true →
          (∀ part,
            machine.Part (.object handle) part →
              machine.Representable part ∧ motive part) →
            motive (.object handle))
    (representable : machine.Representable value) :
    motive value := by
  induction representable with
  | primitive noObject => exact primitive _ noObject
  | text live isText =>
      refine object _ _ live (by rw [isText]; rfl) fun part isPart => ?_
      have content := isPart.of_content live
      simp [isText] at content
  | boolean live isBoolean =>
      refine object _ _ live (by rw [isBoolean]; rfl) fun part isPart => ?_
      have content := isPart.of_content live
      simp [isBoolean] at content
  | number live isNumber representable inductionHypothesis =>
      refine object _ _ live (by rw [isNumber]; rfl) fun part isPart => ?_
      have content := isPart.of_content live
      simp only [isNumber, Content.number.injEq, reduceCtorEq, false_and,
        exists_false, or_false] at content
      exact content ▸ ⟨representable, inductionHypothesis⟩
  | array live isArray each inductionHypothesis =>
      refine object _ _ live (by rw [isArray]; rfl) fun part isPart => ?_
      have content := isPart.of_content live
      simp only [isArray, Content.array.injEq, reduceCtorEq, false_and,
        or_false, false_or, exists_eq_left'] at content
      exact ⟨each part content, inductionHypothesis part content⟩
  | ordinary live isOrdinary each inductionHypothesis =>
      refine object _ _ live (by rw [isOrdinary]; rfl) fun part isPart => ?_
      have content := isPart.of_content live
      simp only [isOrdinary, reduceCtorEq, false_and, exists_false, true_and,
        false_or] at content
      obtain ⟨name, exported⟩ := content
      exact ⟨each name part exported, inductionHypothesis name part exported⟩

/-- A representable object is there, has a document, and so have its parts. -/
theorem of_object
    (representable : machine.Representable (.object handle)) :
    ∃ object,
      machine.heap.get? handle = some object ∧
        object.content.isExportable = true ∧
          ∀ part,
            machine.Part (.object handle) part →
              machine.Representable part := by
  generalize same : Value.object handle = value at representable
  revert same
  apply by_parts _ _ representable
  · rintro value noObject rfl
    cases noObject
  · rintro _ object live exportable parts same
    cases same
    exact ⟨object, live, exportable, fun part isPart => (parts part isPart).1⟩

/-- Nothing representable is a part of itself. -/
theorem not_cycle (representable : machine.Representable value) :
    ¬TransGen machine.Part value value := by
  refine by_parts (motive := fun value => ¬TransGen machine.Part value value)
    ?_ ?_ representable
  · intro value noObject within
    obtain ⟨part, isPart, -⟩ := TransGen.head'_iff.mp within
    obtain ⟨handle, rfl⟩ := isPart.of_object
    cases noObject
  · intro handle object live exportable parts within
    obtain ⟨part, isPart, back⟩ := TransGen.head'_iff.mp within
    exact (parts part isPart).2 (.tail' back isPart)

/-- So nothing stands in the way of exporting it. -/
theorem not_obstructed (representable : machine.Representable value) :
    ¬machine.Obstructed value := by
  rintro ⟨last, below, obstacle⟩
  have lastRepresentable : machine.Representable last := by
    clear obstacle
    induction below with
    | refl => exact representable
    | tail _ isPart inductionHypothesis =>
        obtain ⟨handle, rfl⟩ := isPart.of_object
        obtain ⟨_, -, -, parts⟩ := inductionHypothesis.of_object
        exact parts _ isPart
  cases obstacle with
  | gone dangling =>
      obtain ⟨_, live, -⟩ := lastRepresentable.of_object
      rw [dangling] at live
      cases live
  | refused live noDocument =>
      obtain ⟨_, found, exportable, -⟩ := lastRepresentable.of_object
      rw [live] at found
      cases found
      rw [noDocument] at exportable
      cases exportable
  | cycle within => exact lastRepresentable.not_cycle within

end Representable

/-! A document depicts only what is representable, and only one depicts it. -/

mutual

theorem Depicts.representable
    {value : Value}
    {document : Document} :
    machine.Depicts value document → machine.Representable value
  | .undefined => .primitive rfl
  | .null => .primitive rfl
  | .boolean _ => .primitive rfl
  | .integer _ => .primitive rfl
  | .float _ => .primitive rfl
  | .text _ => .primitive rfl
  | .textObject live isText => .text live isText
  | .booleanObject live isBoolean => .boolean live isBoolean
  | .numberObject live isNumber depicts =>
      .number live isNumber depicts.representable
  | .list live isArray depicts => .array live isArray depicts.representable
  | .record live isOrdinary depicts =>
      .ordinary live isOrdinary fun _ _ => depicts.representable _

theorem DepictsItems.representable
    {values : List Value}
    {documents : List Document} :
    machine.DepictsItems values documents →
      ∀ value ∈ values, machine.Representable value
  | .nil => fun _ member => nomatch member
  | .cons first others =>
      List.forall_mem_cons.mpr ⟨first.representable, others.representable⟩

theorem DepictsMembers.representable
    {values : List (String × Value)}
    {documents : List (String × Document)} :
    machine.DepictsMembers values documents →
      ∀ member ∈ values, machine.Representable member.2
  | .nil => fun _ member => nomatch member
  | .cons first others =>
      List.forall_mem_cons.mpr ⟨first.representable, others.representable⟩

end

/-- The document has the structure of the object. -/
def DepictsObject
    (machine : Machine)
    (object : ScriptObject)
    (document : Document) :
    Prop :=
  match object.content with
  | .text content => document = .text content
  | .boolean flag => document = .boolean flag
  | .number payload => machine.Depicts payload document
  | .array elements =>
      ∃ items,
        document = .list items ∧
          machine.DepictsItems elements.toList items
  | .ordinary =>
      ∃ members,
        document = .record members ∧
          machine.DepictsMembers (machine.exportedMembers object) members
  | _ => False

theorem Depicts.object
    {handle : Handle}
    {object : ScriptObject}
    {document : Document}
    (depicts : machine.Depicts (.object handle) document)
    (live : machine.heap.get? handle = some object) :
    machine.DepictsObject object document := by
  rw [DepictsObject]
  cases depicts with
  | textObject found isText =>
      rw [live] at found
      cases found
      rw [isText]
  | booleanObject found isBoolean =>
      rw [live] at found
      cases found
      rw [isBoolean]
  | numberObject found isNumber below =>
      rw [live] at found
      cases found
      rw [isNumber]
      exact below
  | list found isArray below =>
      rw [live] at found
      cases found
      rw [isArray]
      exact ⟨_, rfl, below⟩
  | record found isOrdinary below =>
      rw [live] at found
      cases found
      rw [isOrdinary]
      exact ⟨_, rfl, below⟩

/-- Only one document depicts the value. -/
def Single (machine : Machine) (value : Value) : Prop :=
  ∀ document other,
    machine.Depicts value document →
      machine.Depicts value other → other = document

theorem DepictsItems.unique
    {values : List Value}
    {documents others : List Document}
    (depicts : machine.DepictsItems values documents)
    (otherDepicts : machine.DepictsItems values others)
    (single : ∀ value ∈ values, machine.Single value) :
    others = documents := by
  induction values generalizing documents others with
  | nil =>
      cases depicts
      cases otherDepicts
      rfl
  | cons value rest inductionHypothesis =>
      obtain ⟨firstSingle, restSingle⟩ := List.forall_mem_cons.mp single
      cases depicts with
      | cons first further =>
          cases otherDepicts with
          | cons otherFirst otherFurther =>
              rw [firstSingle _ _ first otherFirst,
                inductionHypothesis further otherFurther restSingle]

theorem DepictsMembers.unique
    {values : List (String × Value)}
    {documents others : List (String × Document)}
    (depicts : machine.DepictsMembers values documents)
    (otherDepicts : machine.DepictsMembers values others)
    (single : ∀ member ∈ values, machine.Single member.2) :
    others = documents := by
  induction values generalizing documents others with
  | nil =>
      cases depicts
      cases otherDepicts
      rfl
  | cons member rest inductionHypothesis =>
      obtain ⟨firstSingle, restSingle⟩ := List.forall_mem_cons.mp single
      cases depicts with
      | cons first further =>
          cases otherDepicts with
          | cons otherFirst otherFurther =>
              rw [firstSingle _ _ first otherFirst,
                inductionHypothesis further otherFurther restSingle]

theorem Representable.single
    {value : Value}
    (representable : machine.Representable value) :
    machine.Single value := by
  refine by_parts ?_ ?_ representable
  · intro value noObject document other depicts otherDepicts
    cases depicts with
    | undefined => cases otherDepicts; rfl
    | null => cases otherDepicts; rfl
    | boolean flag => cases otherDepicts; rfl
    | integer number => cases otherDepicts; rfl
    | float number => cases otherDepicts; rfl
    | text content => cases otherDepicts; rfl
    | _ => cases noObject
  · intro handle object live exportable parts document other depicts
      otherDepicts
    have shape := depicts.object live
    have otherShape := otherDepicts.object live
    rw [DepictsObject] at shape otherShape
    cases content : object.content with
    | text text =>
        rw [content] at shape otherShape
        rw [shape, otherShape]
    | boolean flag =>
        rw [content] at shape otherShape
        rw [shape, otherShape]
    | number payload =>
        rw [content] at shape otherShape
        exact (parts payload (.payload live content)).2 _ _ shape otherShape
    | array elements =>
        rw [content] at shape otherShape
        obtain ⟨items, rfl, below⟩ := shape
        obtain ⟨otherItems, rfl, otherBelow⟩ := otherShape
        rw [below.unique otherBelow fun value listed =>
          (parts value (.element live content listed)).2]
    | ordinary =>
        rw [content] at shape otherShape
        obtain ⟨members, rfl, below⟩ := shape
        obtain ⟨otherMembers, rfl, otherBelow⟩ := otherShape
        rw [below.unique otherBelow fun member exported =>
          (parts member.2 (.member live content exported)).2]
    | function callable =>
        rw [content] at exportable
        cases exportable
    | stage item kind =>
        rw [content] at exportable
        cases exportable

end Machine

/-! Export comes to an end. -/

namespace Act

variable {σ α β : Type} {calls : Calls σ} {session : Session σ}
variable {failed : Prop}

/--
The act comes to an end and leaves the session as it is: with a result of a
certain kind, or with a fault where there is a reason for one.
-/
def Decides
    (done : α → Prop)
    (failed : Prop)
    (calls : Calls σ)
    (session : Session σ)
    (act : Act σ α) :
    Prop :=
  (∃ result, act calls session = .ok result session ∧ done result) ∨
    ∃ fault, act calls session = .error (.fault fault) session ∧ failed

namespace Decides

variable {done between : α → Prop} {act : Act σ α}

theorem pure {result : α} (isDone : done result) :
    Decides done failed calls session (Pure.pure result) :=
  .inl ⟨result, rfl, isDone⟩

theorem fail {fault : Fault} (reason : failed) :
    Decides done failed calls session (Act.fail fault) :=
  .inr ⟨fault, rfl, reason⟩

theorem mono
    {weaker : Prop}
    (decides : Decides done failed calls session act)
    (implies : failed → weaker) :
    Decides done weaker calls session act :=
  decides.imp id fun ⟨fault, ran, reason⟩ => ⟨fault, ran, implies reason⟩

theorem bind
    {settled : β → Prop}
    {next : α → Act σ β}
    (first : Decides between failed calls session act)
    (second : ∀ result,
      between result → Decides settled failed calls session (next result)) :
    Decides settled failed calls session (act >>= next) := by
  rcases first with ⟨result, ran, isBetween⟩ | ⟨fault, ran, reason⟩
  · rw [Decides, Act.bind_ok ran]
    exact second result isBetween
  · exact .inr ⟨fault, Act.bind_error ran next, reason⟩

theorem ask
    {question : Machine → Except Fault α}
    (answered : ∀ answer,
      question session.machine = .ok answer → done answer)
    (refused : ∀ fault, question session.machine = .error fault → failed) :
    Decides done failed calls session (Act.ask question) := by
  obtain ⟨machine, host⟩ := session
  cases asked : question machine with
  | ok answer =>
      exact .inl ⟨answer, Act.ask_ok asked, answered answer asked⟩
  | error fault =>
      exact .inr ⟨fault, Act.lift_error (Edit.ask_refused asked),
        refused fault asked⟩

end Decides

/-- An export of the kind asked for, which has left the set as it was. -/
def Restores
    (visiting : List Handle)
    (done : α → Prop)
    (exported : α × List Handle) :
    Prop :=
  done exported.1 ∧ exported.2 = visiting

variable {visiting : List Handle}

/-- Elements are exported one by one. -/
theorem exportItems_decides
    (elements : List Value)
    (each : ∀ value ∈ elements,
      Decides (Restores visiting (session.machine.Depicts value)) failed
        calls session (exportBelow visiting value)) :
    Decides (Restores visiting (session.machine.DepictsItems elements))
      failed calls session (exportItems visiting elements) := by
  induction elements with
  | nil => exact .pure ⟨.nil, rfl⟩
  | cons value rest inductionHypothesis =>
      obtain ⟨first, others⟩ := List.forall_mem_cons.mp each
      refine first.bind ?_
      rintro ⟨document, _⟩ ⟨depicts, rfl⟩
      exact (inductionHypothesis others).bind fun documents restored =>
        .pure ⟨.cons depicts restored.1, restored.2⟩

/-- Members are read and exported one by one, except for functions. -/
theorem exportMembers_decides
    {handle : Handle}
    {object : ScriptObject}
    (live : session.machine.heap.get? handle = some object)
    (ordinary : object.content = .ordinary)
    (entries : List (String × Property))
    (own : ∀ entry ∈ entries, object.own? entry.1 = some entry.2)
    (plain : ∀ entry ∈ entries,
      entry.2.enumerable = true → entry.2.isAccessor = false)
    (each : ∀ member ∈ entries.filterMap session.machine.exported?,
      Decides (Restores visiting (session.machine.Depicts member.2)) failed
        calls session (exportBelow visiting member.2)) :
    Decides
      (Restores visiting
        (session.machine.DepictsMembers
          (entries.filterMap session.machine.exported?)))
      failed calls session
      (exportMembers visiting handle
        ((entries.filter (·.2.enumerable)).map Prod.fst)) := by
  induction entries with
  | nil => exact .pure ⟨.nil, rfl⟩
  | cons entry rest inductionHypothesis =>
      obtain ⟨name, property⟩ := entry
      obtain ⟨ownFirst, ownRest⟩ := List.forall_mem_cons.mp own
      obtain ⟨plainFirst, plainRest⟩ := List.forall_mem_cons.mp plain
      have others (eachRest) := inductionHypothesis ownRest plainRest eachRest
      by_cases listed : property.enumerable = true
      · obtain ⟨value, stored⟩ : ∃ value, property.value? = some value := by
          cases property with
          | data value writable enumerable configurable => exact ⟨value, rfl⟩
          | accessor getter setter enumerable configurable =>
              cases plainFirst listed
        have read :
            getMember handle name calls session = .ok value session :=
          getMember_stored live ordinary ownFirst stored
        simp only [List.filter_cons, listed, ↓reduceIte, List.map_cons]
        unfold exportMembers
        rw [Decides, Act.bind_ok read, Act.inspect_bind]
        cases callable : session.machine.isCallable value with
        | true =>
            have skipped :
                session.machine.exported? (name, property) = none := by
              simp [Machine.exported?, listed, stored, callable]
            rw [List.filterMap_cons_none skipped] at each ⊢
            exact others each
        | false =>
            have exported :
                session.machine.exported? (name, property) =
                  some (name, value) := by
              simp [Machine.exported?, listed, stored, callable]
            rw [List.filterMap_cons_some exported] at each ⊢
            obtain ⟨first, eachRest⟩ := List.forall_mem_cons.mp each
            refine first.bind ?_
            rintro ⟨document, _⟩ ⟨depicts, rfl⟩
            exact (others eachRest).bind fun documents restored =>
              .pure ⟨.cons depicts restored.1, restored.2⟩
      · have skipped :
            session.machine.exported? (name, property) = none := by
          simp [Machine.exported?, listed]
        simp only [List.filter_cons, listed, Bool.false_eq_true, ↓reduceIte]
        rw [List.filterMap_cons_none skipped] at each ⊢
        exact others each

/-- An object is exported by exporting its parts, if it has a document. -/
theorem exportObject_decides
    {handle : Handle}
    (plain : session.machine.PlainBelow (.object handle))
    (parts : ∀ part,
      session.machine.Part (.object handle) part →
        Decides (Restores visiting (session.machine.Depicts part))
          (session.machine.Obstructed part) calls session
          (exportBelow visiting part)) :
    Decides (Restores visiting (session.machine.Depicts (.object handle)))
      (session.machine.Obstructed (.object handle)) calls session
      (exportObject visiting handle) := by
  have below (part : Value)
      (isPart : session.machine.Part (.object handle) part) :
      Decides (Restores visiting (session.machine.Depicts part))
        (session.machine.Obstructed (.object handle)) calls session
        (exportBelow visiting part) :=
    (parts part isPart).mono (.of_part isPart)
  have asked :
      Decides (session.machine.heap.get? handle = some ·)
        (session.machine.Obstructed (.object handle)) calls session
        (ask (·.object handle)) := by
    refine .ask (fun _ => Machine.get?_of_object) fun fault refused => ?_
    refine ⟨_, .refl, .gone (Option.eq_none_iff_forall_ne_some.mpr ?_)⟩
    intro object live
    rw [Machine.object_of_get? live] at refused
    cases refused
  refine asked.bind fun object live => ?_
  cases content : object.content with
  | function callable =>
      exact .fail ⟨_, .refl, .refused live (by rw [content]; rfl)⟩
  | stage item kind =>
      exact .fail ⟨_, .refl, .refused live (by rw [content]; rfl)⟩
  | text text => exact .pure ⟨.textObject live content, rfl⟩
  | boolean flag => exact .pure ⟨.booleanObject live content, rfl⟩
  | number payload =>
      exact (below payload (.payload live content)).imp
        (fun ⟨exported, ran, depicts, restored⟩ =>
          ⟨exported, ran, .numberObject live content depicts, restored⟩) id
  | array elements =>
      have items := exportItems_decides elements.toList fun value listed =>
        below value (.element live content listed)
      exact items.bind fun documents restored =>
        .pure ⟨.list live content restored.1, restored.2⟩
  | ordinary =>
      have members := exportMembers_decides live content
        object.properties.entries
        (fun entry => Table.get?_of_mem object.properties.distinct)
        (plain handle object .refl live content)
        (fun member exported =>
          below member.2 (.member live content exported))
      exact members.bind fun documents restored =>
        .pure ⟨.record live content restored.1, restored.2⟩

end Act

namespace Machine

open Relation (ReflTransGen TransGen)

variable {σ : Type} {session : Session σ}

/-- The live objects that are not on the way. -/
def offPath (machine : Machine) (path : List Handle) : Set Handle :=
  {handle | machine.heap.contains handle = true ∧ handle ∉ path}

/-- One object more on the way is one fewer to come. -/
theorem ncard_offPath_cons
    {machine : Machine}
    {path : List Handle}
    {handle : Handle}
    (live : machine.heap.contains handle = true)
    (off : handle ∉ path) :
    (machine.offPath (handle :: path)).ncard <
      (machine.offPath path).ncard := by
  refine Set.ncard_lt_ncard ⟨?_, ?_⟩
  · rintro other ⟨isLive, away⟩
    exact ⟨isLive, fun onPath => away (.tail _ onPath)⟩
  · intro subset
    have here : handle ∈ machine.offPath path := ⟨live, off⟩
    exact (subset here).2 (.head _)

end Machine

/--
Export that has come down to a value with exactly the objects on the way in its
set comes to an end there: with a document that has the structure of the value
and with the set as it was, or with a fault because of an obstacle.
-/
theorem Host.exportBelow_decides
    {σ : Type}
    (host : Host σ)
    {session : Session σ}
    (fuel : Nat)
    {whole value : Value}
    {visiting : List Handle}
    (way : session.machine.Way whole visiting value)
    (plain : session.machine.PlainBelow value)
    (enough : (session.machine.offPath visiting).ncard < fuel) :
    Act.Decides
      (Act.Restores visiting (session.machine.Depicts value))
      (session.machine.Obstructed value) (host.calls fuel) session
      (Act.exportBelow visiting value) := by
  induction fuel generalizing visiting value with
  | zero => cases enough
  | succ fuel inductionHypothesis =>
      change Act.Decides _ _ (host.calls fuel) session
        (Act.exportLevel visiting value)
      cases value with
      | undefined => exact .pure ⟨.undefined, rfl⟩
      | null => exact .pure ⟨.null, rfl⟩
      | boolean flag => exact .pure ⟨.boolean flag, rfl⟩
      | integer number => exact .pure ⟨.integer number, rfl⟩
      | float number => exact .pure ⟨.float number, rfl⟩
      | text content => exact .pure ⟨.text content, rfl⟩
      | object handle =>
          unfold Act.exportLevel
          dsimp only
          split
          · rename_i onWay
            exact .fail ⟨_, .refl, .cycle (way.above handle onWay)⟩
          · rename_i off
            have entered :
                Act.Decides
                  (Act.Restores (handle :: visiting)
                    (session.machine.Depicts (.object handle)))
                  (session.machine.Obstructed (.object handle))
                  (host.calls fuel) session
                  (Act.exportObject (handle :: visiting) handle) := by
              refine Act.exportObject_decides plain fun part isPart => ?_
              have fewer := Machine.ncard_offPath_cons isPart.contains off
              exact inductionHypothesis (way.down isPart)
                (plain.part isPart)
                (Nat.lt_of_lt_of_le fewer (Nat.le_of_lt_succ enough))
            refine entered.bind ?_
            rintro ⟨document, _⟩ ⟨depicts, rfl⟩
            exact .pure ⟨depicts, List.erase_cons_head handle visiting⟩

/--
Export comes to an end, whatever the objects below a value are like, as long as
their listed properties store values.  It succeeds exactly if the value is
representable and then gives the one document that has its structure, and it
fails exactly if there is a function, a display object, a handle whose object is
gone or a cycle on the way.  Objects that are shared do not hinder it.
-/
theorem Act.exportDocument_representable
    {σ : Type}
    (host : Host σ)
    (session : Session σ)
    (value : Value)
    (plain : session.machine.PlainBelow value)
    (fuel : Nat)
    (enough : (session.machine.offPath []).ncard < fuel) :
    ((∃ document,
        exportDocument value (host.calls fuel) session =
          .ok document session) ↔
      session.machine.Representable value) ∧
    ((∃ fault,
        exportDocument value (host.calls fuel) session =
          .error (.fault fault) session) ↔
      session.machine.Obstructed value) ∧
    (session.machine.Representable value ↔
      ¬session.machine.Obstructed value) ∧
    ∀ document changed,
      exportDocument value (host.calls fuel) session =
          .ok document changed →
        changed = session ∧ session.machine.Depicts value document ∧
          ∀ other,
            session.machine.Depicts value other → other = document := by
  have decides :
      Decides (session.machine.Depicts value)
        (session.machine.Obstructed value) (host.calls fuel) session
        (exportDocument value) :=
    (host.exportBelow_decides fuel .start plain enough).bind
      fun _ restored => .pure restored.1
  rcases decides with ⟨document, ran, depicts⟩ | ⟨fault, ran, obstructed⟩
  · have representable := depicts.representable
    have free := representable.not_obstructed
    rw [ran]
    refine ⟨iff_of_true ⟨document, rfl⟩ representable, iff_of_false ?_ free,
      iff_of_true representable free, ?_⟩
    · rintro ⟨fault, failed⟩
      cases failed
    · intro image changed succeeded
      cases succeeded
      exact ⟨rfl, depicts, fun other => representable.single _ other depicts⟩
  · have unrepresentable : ¬session.machine.Representable value :=
      fun representable => representable.not_obstructed obstructed
    rw [ran]
    refine ⟨iff_of_false ?_ unrepresentable, iff_of_true ⟨fault, rfl⟩ obstructed,
      iff_of_false unrepresentable (not_not_intro obstructed), ?_⟩
    · rintro ⟨document, succeeded⟩
      cases succeeded
    · intro document changed succeeded
      cases succeeded

/--
The fourth object is a list that has the third one twice, the sixth has this
list and a function as members, and the last one is a list of itself.
-/
def withShared : Machine :=
  { Machine.bare .standard 0 with
    heap :=
      Heap.run
        [.alloc .blank, .alloc .blank,
          .alloc (ScriptObject.blank.withProperty "one" (.plain (.integer 1))),
          .alloc (.new none (.array #[.object ⟨2, 0⟩, .object ⟨2, 0⟩])),
          .alloc (.new none (.function (.native ⟨"run", .host 0⟩))),
          .alloc
            ((ScriptObject.blank.withProperty "list"
              (.plain (.object ⟨3, 0⟩))).withProperty "run"
                (.plain (.object ⟨4, 0⟩))),
          .alloc (.new none (.array #[.object ⟨6, 0⟩]))] }

private theorem mem_withShared
    {handle : Handle}
    (live : withShared.heap.contains handle = true) :
    handle ∈ ([⟨0, 0⟩, ⟨1, 0⟩, ⟨2, 0⟩, ⟨3, 0⟩, ⟨4, 0⟩, ⟨5, 0⟩, ⟨6, 0⟩] :
      List Handle) :=
  (Heap.packed_run _).mem_of_contains (by decide) live

private theorem plainBelow_withShared (value : Value) :
    withShared.PlainBelow value := by
  intro handle object _ live _ entry member listed
  have stores :
      ∀ other ∈ ([⟨0, 0⟩, ⟨1, 0⟩, ⟨2, 0⟩, ⟨3, 0⟩, ⟨4, 0⟩, ⟨5, 0⟩, ⟨6, 0⟩] :
          List Handle),
        ∀ property ∈
            ((withShared.heap.get? other).map
              (·.properties.entries.map Prod.snd)).getD [],
          property.isAccessor = false := by
    decide
  have here := stores handle (mem_withShared (Heap.contains_of_get? live))
    entry.2
  rw [live] at here
  exact here (List.mem_map_of_mem member)

/-- The shared object is exported twice, the list of itself not at all. -/
theorem Act.exportDocument_representable_withShared :
    withShared.Representable (.object ⟨5, 0⟩) ∧
      withShared.Obstructed (.object ⟨6, 0⟩) := by
  have few : (withShared.offPath []).ncard < 8 := by
    have inList :
        withShared.offPath [] ⊆
          ([⟨0, 0⟩, ⟨1, 0⟩, ⟨2, 0⟩, ⟨3, 0⟩, ⟨4, 0⟩, ⟨5, 0⟩, ⟨6, 0⟩] :
            List Handle).toFinset :=
      fun handle off => List.mem_toFinset.mpr (mem_withShared off.1)
    refine Nat.lt_succ_of_le ((Set.ncard_le_ncard inList).trans ?_)
    rw [Set.ncard_coe_finset]
    exact List.toFinset_card_le _
  have shared :=
    exportDocument_representable Host.passive ⟨withShared, ()⟩ (.object ⟨5, 0⟩)
      (plainBelow_withShared _) 8 few
  have circular :=
    exportDocument_representable Host.passive ⟨withShared, ()⟩ (.object ⟨6, 0⟩)
      (plainBelow_withShared _) 8 few
  exact ⟨shared.1.mp ⟨_, rfl⟩, circular.2.1.mp ⟨_, rfl⟩⟩

end MovieScript
