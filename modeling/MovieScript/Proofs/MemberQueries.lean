import MovieScript.Classes.Bootstrap
import MovieScript.Host.Engine
import MovieScript.Proofs.ElementNames
import MovieScript.Proofs.MemberHolders

namespace MovieScript

/-!
# Queries for members

Asking whether a name is there, whether it is there at the object itself, what
it stands for and which names there are: all four go by the holder of a name.
Listing walks on past every holder, so it has to remember the names it met, also
those that are not listed, since they hide what is inherited.
-/

/-- Read a member for an object; an accessor runs its getter on that object. -/
def Member.read
    {σ : Type}
    (start : Handle)
    (name : String) :
    Member → Act σ Value
  | .element value => return value
  | .property (.data value _ _ _) => return value
  | .property (.accessor (some getter) _ _ _) =>
      Act.call (.object getter) (.object start) []
  | .property (.accessor none _ _ _) =>
      Act.fail (.propertyAccess name "has no getter")

namespace Machine

/-! A list that keeps each name at its first place. -/

variable {seen : List String} {names : List (String × Bool)}

/-- A name is kept if it was not seen and its first place lists it. -/
theorem mem_listedOnce_iff
    {name : String} :
    name ∈ listedOnce seen names ↔
      name ∉ seen ∧ Table.find? name names = some true := by
  induction names generalizing seen with
  | nil =>
      simp [listedOnce, Table.find?]
  | cons entry rest inductionHypothesis =>
      rcases entry with ⟨candidate, listed⟩
      by_cases met : candidate ∈ seen
      · by_cases here : candidate = name
        · subst here
          simp [listedOnce, met, inductionHypothesis]
        · simp [listedOnce, met, inductionHypothesis, Table.find?, here]
      · by_cases here : candidate = name
        · subst here
          cases listed with
          | false => simp [listedOnce, met, inductionHypothesis, Table.find?]
          | true => simp [listedOnce, met, Table.find?]
        · have different : name ≠ candidate := Ne.symm here
          cases listed with
          | false =>
              simp [listedOnce, met, inductionHypothesis, Table.find?, here,
                different]
          | true =>
              simp [listedOnce, met, inductionHypothesis, Table.find?, here,
                different]

theorem nodup_listedOnce : (listedOnce seen names).Nodup := by
  induction names generalizing seen with
  | nil =>
      simp [listedOnce]
  | cons entry rest inductionHypothesis =>
      rcases entry with ⟨candidate, listed⟩
      unfold listedOnce
      split
      · exact inductionHypothesis
      · split
        · apply List.nodup_cons.mpr
          refine ⟨?_, inductionHypothesis⟩
          simp [mem_listedOnce_iff]
        · exact inductionHypothesis

/-- What is kept keeps its order. -/
theorem listedOnce_sublist :
    (listedOnce seen names).Sublist (names.map Prod.fst) := by
  induction names generalizing seen with
  | nil =>
      exact .slnil
  | cons entry rest inductionHypothesis =>
      rcases entry with ⟨candidate, listed⟩
      unfold listedOnce
      split
      · exact inductionHypothesis.cons candidate
      · split
        · exact inductionHypothesis.cons_cons candidate
        · exact inductionHypothesis.cons candidate

/-- It does not matter in which order names were seen. -/
private theorem listedOnce_congr
    {others : List String}
    (same : ∀ name, name ∈ seen ↔ name ∈ others) :
    listedOnce seen names = listedOnce others names := by
  induction names generalizing seen others with
  | nil =>
      rfl
  | cons entry rest inductionHypothesis =>
      rcases entry with ⟨candidate, listed⟩
      have extended (name : String) :
          name ∈ candidate :: seen ↔ name ∈ candidate :: others := by
        simp [same name]
      simp only [listedOnce, same candidate, inductionHypothesis same,
        inductionHypothesis extended]

/-- Later names are kept if they are not among the earlier ones either. -/
theorem listedOnce_append
    (later : List (String × Bool)) :
    listedOnce seen (names ++ later) =
      listedOnce seen names ++
        listedOnce (names.map Prod.fst ++ seen) later := by
  induction names generalizing seen with
  | nil =>
      rfl
  | cons entry rest inductionHypothesis =>
      rcases entry with ⟨candidate, listed⟩
      by_cases met : candidate ∈ seen
      · have same (name : String) :
            name ∈ rest.map Prod.fst ++ seen ↔
              name ∈ candidate :: rest.map Prod.fst ++ seen := by
          by_cases here : name = candidate
          · simp [here, met]
          · simp [here]
        simp only [List.cons_append, listedOnce, met, ↓reduceIte,
          inductionHypothesis, List.map_cons]
        rw [listedOnce_congr same]
        rfl
      · have same (name : String) :
            name ∈ rest.map Prod.fst ++ candidate :: seen ↔
              name ∈ candidate :: rest.map Prod.fst ++ seen := by
          simp [or_left_comm]
        cases listed with
        | false =>
            simp only [List.cons_append, listedOnce, met, ↓reduceIte,
              Bool.false_eq_true, inductionHypothesis, List.map_cons]
            rw [listedOnce_congr same]
            rfl
        | true =>
            simp only [List.cons_append, listedOnce, met, ↓reduceIte,
              inductionHypothesis, List.map_cons]
            rw [listedOnce_congr same]
            rfl

end Machine

namespace ScriptObject

variable {object : ScriptObject} {name : String}

/--
An array has no more elements than there are indices.  Indices are machine
words, and so is the number of elements.
-/
def Addressable (object : ScriptObject) : Prop :=
  ∀ elements, object.elements? = some elements → elements.size ≤ indexBound

/-- The names of the elements of an array object. -/
def elementNames (object : ScriptObject) : List String :=
  match object.elements? with
  | some elements => (List.range elements.size).map elementName
  | none => []

/--
One member of an object comes before another: the elements come first, in the
order of their indices, then the properties, in the order in which they came in.
-/
inductive Precedes (object : ScriptObject) : String → String → Prop where
  | elements {elements : Array Value} {earlier later : Nat} :
      object.elements? = some elements →
        earlier < later →
          later < elements.size →
            Precedes object (elementName earlier) (elementName later)
  | elementFirst {element property : String} :
      (object.element? element).isSome = true →
        object.element? property = none →
          Precedes object element property
  | properties {first second : String} :
      object.element? first = none →
        object.element? second = none →
          [first, second].Sublist object.properties.keys →
            Precedes object first second

theorem memberNames_eq (object : ScriptObject) :
    object.memberNames =
      (object.elementNames.map fun name => (name, true)) ++
        object.properties.entries.map fun entry =>
          (entry.1, entry.2.enumerable) := by
  unfold memberNames elementNames
  cases object.elements? with
  | none => rfl
  | some elements => simp

theorem mem_elementNames_iff
    (addressable : object.Addressable) :
    name ∈ object.elementNames ↔
      (object.element? name).isSome = true := by
  have sized := addressable
  unfold Addressable elements? at sized
  unfold elementNames elements? element?
  cases content : object.content with
  | array elements =>
      have fits : elements.size ≤ indexBound := sized elements (by rw [content])
      simp only [List.mem_map, List.mem_range, Option.isSome_iff_exists,
        Option.bind_eq_some_iff, elementIndex?_eq_some_iff]
      constructor
      · rintro ⟨index, inRange, rfl⟩
        exact ⟨elements[index], index,
          ⟨rfl, Nat.lt_of_lt_of_le inRange fits⟩,
          Array.getElem?_eq_getElem inRange⟩
      · rintro ⟨value, index, ⟨rfl, -⟩, found⟩
        obtain ⟨inRange, -⟩ := Array.getElem?_eq_some_iff.mp found
        exact ⟨index, inRange, rfl⟩
  | _ => simp

/-- The first place of a name in an object is the place of its member. -/
theorem find?_memberNames
    (addressable : object.Addressable)
    (name : String) :
    Table.find? name object.memberNames =
      (object.member? name).map Member.listed := by
  have listedElement
      (names : List String) :
      Table.find? name (names.map fun name => (name, true)) =
        if name ∈ names then some true else none := by
    induction names with
    | nil => rfl
    | cons first rest inductionHypothesis =>
        by_cases here : first = name
        · simp [Table.find?, here]
        · simp [Table.find?, here, Ne.symm here, inductionHypothesis]
  rw [memberNames_eq, Table.find?_append, listedElement, Table.find?_map]
  cases element : object.element? name with
  | some value =>
      have present : name ∈ object.elementNames := by
        simp [mem_elementNames_iff addressable, element]
      simp [present, member?_of_element element, Member.listed]
  | none =>
      have absent : name ∉ object.elementNames := by
        simp [mem_elementNames_iff addressable, element]
      simp only [absent, ↓reduceIte, Option.none_or,
        member?_of_no_element element, Option.map_map]
      rfl

theorem mem_memberNames_iff
    (addressable : object.Addressable) :
    name ∈ object.memberNames.map Prod.fst ↔
      object.member? name ≠ none := by
  rw [← not_iff_not, ← Table.find?_eq_none_iff,
    find?_memberNames addressable]
  simp

/-- The listed names of one object are in the order of its members. -/
theorem pairwise_precedes
    (addressable : object.Addressable)
    (seen : List String) :
    (Machine.listedOnce seen object.memberNames).Pairwise
      object.Precedes := by
  rw [memberNames_eq, Machine.listedOnce_append, List.pairwise_append]
  have elementsSublist :
      (Machine.listedOnce seen
        (object.elementNames.map fun name => (name, true))).Sublist
        object.elementNames := by
    have sublist :=
      @Machine.listedOnce_sublist seen
        (object.elementNames.map fun name => (name, true))
    simpa [Function.comp_def] using sublist
  have notElement
      {property : String}
      (member : property ∈ Machine.listedOnce
        ((object.elementNames.map fun name => (name, true)).map Prod.fst ++
          seen)
        (object.properties.entries.map fun entry =>
          (entry.1, entry.2.enumerable))) :
      object.element? property = none := by
    have unseen := (Machine.mem_listedOnce_iff.mp member).1
    have absent : property ∉ object.elementNames := by
      intro present
      apply unseen
      simp [present]
    rw [mem_elementNames_iff addressable] at absent
    simpa using absent
  refine ⟨?_, ?_, ?_⟩
  · refine List.Pairwise.sublist elementsSublist ?_
    unfold elementNames
    cases isArray : object.elements? with
    | none => exact .nil
    | some elements =>
        rw [List.pairwise_map]
        refine List.pairwise_lt_range.imp_of_mem ?_
        intro earlier later _ inRange before
        exact .elements isArray before (List.mem_range.mp inRange)
  · rw [List.pairwise_iff_forall_sublist]
    intro first second ordered
    refine .properties (notElement (ordered.subset (by simp)))
      (notElement (ordered.subset (by simp))) ?_
    have sublist := ordered.trans Machine.listedOnce_sublist
    simpa [Table.keys, Function.comp_def] using sublist
  · intro element isElement property isProperty
    refine .elementFirst ?_ (notElement isProperty)
    rw [← mem_elementNames_iff addressable]
    exact elementsSublist.subset isElement

end ScriptObject

namespace Heap

variable {heap : Heap ScriptObject} {reach : Nat} {start : Handle}
variable {object : ScriptObject}

/--
One name is listed before another: its holder is nearer, or both have one
holder and its member comes before the other's.
-/
def ListedBefore
    (heap : Heap ScriptObject)
    (reach : Nat)
    (start : Handle)
    (first second : String) :
    Prop :=
  ∃ (holder : heap.Holder reach start first)
    (other : heap.Holder reach start second),
    holder.distance < other.distance ∨
      holder.distance = other.distance ∧
        holder.object.Precedes first second

/-- Every object within so many links of the start is addressable. -/
def AddressableFrom
    (heap : Heap ScriptObject)
    (reach : Nat)
    (start : Handle) :
    Prop :=
  ∀ distance ≤ reach, ∀ handle object,
    heap.climb distance start = some handle →
      heap.get? handle = some object → object.Addressable

/--
The names of the objects within so many links: the first place of each is that
of its holder, and kept once they are in the order of their holders.
-/
structure Lists
    (heap : Heap ScriptObject)
    (reach : Nat)
    (start : Handle)
    (names : List (String × Bool)) :
    Prop where
  found : ∀ name listed,
    Table.find? name names = some listed ↔
      ∃ holder : heap.Holder reach start name,
        holder.member.listed = listed
  ordered : ∀ seen,
    (Machine.listedOnce seen names).Pairwise (heap.ListedBefore reach start)

/-- The members of the start come before whatever it inherits. -/
private theorem Lists.prepend
    (live : heap.get? start = some object)
    (addressable : object.Addressable)
    {inherited : List (String × Bool)}
    (found : ∀ name listed,
      object.member? name = none →
        (Table.find? name inherited = some listed ↔
          ∃ holder : heap.Holder reach start name,
            holder.member.listed = listed))
    (ordered : ∀ seen,
      (∀ name, object.member? name ≠ none → name ∈ seen) →
        (Machine.listedOnce seen inherited).Pairwise
          (heap.ListedBefore reach start)) :
    heap.Lists reach start (object.memberNames ++ inherited) where
  found := by
    intro name listed
    rw [Table.find?_append, ScriptObject.find?_memberNames addressable]
    cases has : object.member? name with
    | none => simpa using found name listed has
    | some member =>
        simp only [Option.map_some, Option.some_or, Option.some.injEq]
        constructor
        · rintro rfl
          exact ⟨.here reach live has, rfl⟩
        · rintro ⟨holder, rfl⟩
          rw [holder.member_eq live has]
  ordered := by
    intro seen
    have seenMembers (name : String) (has : object.member? name ≠ none) :
        name ∈ object.memberNames.map Prod.fst ++ seen :=
      List.mem_append_left seen
        ((ScriptObject.mem_memberNames_iff addressable).mpr has)
    have own {name : String}
        (member : name ∈ Machine.listedOnce seen object.memberNames) :
        ∃ held, object.member? name = some held := by
      have listed := (Machine.mem_listedOnce_iff.mp member).2
      rw [ScriptObject.find?_memberNames addressable] at listed
      obtain ⟨held, has, -⟩ := Option.map_eq_some_iff.mp listed
      exact ⟨held, has⟩
    rw [Machine.listedOnce_append, List.pairwise_append]
    refine ⟨?_, ordered _ seenMembers, ?_⟩
    · refine (ScriptObject.pairwise_precedes addressable seen).imp_of_mem ?_
      intro first second isFirst isSecond precedes
      obtain ⟨held, has⟩ := own isFirst
      obtain ⟨otherHeld, hasOther⟩ := own isSecond
      exact ⟨.here reach live has, .here reach live hasOther,
        .inr ⟨rfl, precedes⟩⟩
    · intro first isFirst second isSecond
      obtain ⟨held, has⟩ := own isFirst
      obtain ⟨unseen, listed⟩ := Machine.mem_listedOnce_iff.mp isSecond
      have lacks : object.member? second = none := by
        by_contra present
        exact unseen (seenMembers second present)
      obtain ⟨other, -⟩ := (found second true lacks).mp listed
      refine ⟨.here reach live has, other, .inl ?_⟩
      obtain ⟨within, parent, -, -, rest, farther, -, -⟩ :=
        other.exists_above live lacks
      change 0 < other.distance
      omega

/-- An object that inherits nothing within reach lists its own members. -/
theorem Lists.last
    (live : heap.get? start = some object)
    (addressable : object.Addressable)
    (noParent : reach = 0 ∨ object.prototype = none) :
    heap.Lists reach start object.memberNames := by
  have alone : heap.Lists reach start (object.memberNames ++ []) := by
    refine Lists.prepend live addressable ?_ fun _ _ => .nil
    intro name listed lacks
    simp only [Table.find?, reduceCtorEq, false_iff]
    rintro ⟨holder, -⟩
    obtain ⟨within, parent, isReach, isParent, -⟩ :=
      holder.exists_above live lacks
    rcases noParent with rfl | none
    · cases isReach
    · rw [none] at isParent
      cases isParent
  simpa using alone

/-- The members of an object come before those of its prototype. -/
theorem Lists.cons
    {parent : Handle}
    {inherited : List (String × Bool)}
    (lists : heap.Lists reach parent inherited)
    (live : heap.get? start = some object)
    (addressable : object.Addressable)
    (isParent : object.prototype = some parent) :
    heap.Lists (reach + 1) start (object.memberNames ++ inherited) := by
  refine Lists.prepend live addressable ?_ ?_
  · intro name listed lacks
    rw [lists.found]
    constructor
    · rintro ⟨holder, rfl⟩
      exact ⟨holder.above live isParent lacks, rfl⟩
    · rintro ⟨holder, rfl⟩
      obtain ⟨within, other, isReach, isOther, rest, -, -, sameMember⟩ :=
        holder.exists_above live lacks
      obtain rfl : reach = within := Nat.succ.inj isReach
      rw [isParent] at isOther
      cases isOther
      exact ⟨rest, by rw [sameMember]⟩
  · intro seen members
    refine (lists.ordered seen).imp_of_mem ?_
    intro first second isFirst isSecond before
    have lacks {name : String}
        (member : name ∈ Machine.listedOnce seen inherited) :
        object.member? name = none := by
      by_contra present
      exact (Machine.mem_listedOnce_iff.mp member).1 (members name present)
    obtain ⟨holder, other, order⟩ := before
    refine ⟨holder.above live isParent (lacks isFirst),
      other.above live isParent (lacks isSecond), ?_⟩
    rcases order with nearer | ⟨same, precedes⟩
    · exact .inl (Nat.succ_lt_succ nearer)
    · exact .inr ⟨congrArg (· + 1) same, precedes⟩

end Heap

namespace Machine

variable {machine : Machine} {start : Handle}

/-- A walk over an unbroken chain gathers the names of its objects. -/
theorem namesWithin_lists
    {reach : Nat}
    (unbroken : machine.heap.Unbroken reach start)
    (addressable : machine.heap.AddressableFrom reach start) :
    ∃ names,
      machine.namesWithin (reach + 1) (some start) = .ok names ∧
        machine.heap.Lists reach start names := by
  induction reach generalizing start with
  | zero =>
      obtain ⟨object, live⟩ := unbroken 0 (Nat.le_refl 0) start rfl
      refine ⟨object.memberNames, ?_, .last live
        (addressable 0 (Nat.le_refl 0) start object rfl live) (.inl rfl)⟩
      rw [namesWithin, object_of_get? live]
      cases above : object.prototype with
      | none => simp [bind, Except.bind, pure, Except.pure, namesWithin, above]
      | some parent =>
          simp [bind, Except.bind, pure, Except.pure, namesWithin, above]
  | succ reach inductionHypothesis =>
      obtain ⟨object, live⟩ := unbroken 0 (Nat.zero_le _) start rfl
      have fits := addressable 0 (Nat.zero_le _) start object rfl live
      rw [namesWithin, object_of_get? live]
      cases above : object.prototype with
      | none =>
          refine ⟨object.memberNames, ?_, .last live fits (.inr above)⟩
          simp [bind, Except.bind, pure, Except.pure, namesWithin, above]
      | some parent =>
          obtain ⟨inherited, walked, lists⟩ :=
            inductionHypothesis (unbroken.tail live above) (by
              intro distance near handle found reached
              apply addressable (distance + 1) (by omega) handle found
              simpa [Heap.climb_succ_of_live live, above] using reached)
          refine ⟨object.memberNames ++ inherited, ?_,
            lists.cons live fits above⟩
          simp [bind, Except.bind, pure, Except.pure, above, walked]

/-- A name is there if it has a holder. -/
theorem hasMember_iff
    {name : String}
    (noGap : IsEmpty (machine.Gap start name)) :
    ∃ has,
      machine.hasMember start name = .ok has ∧
        (has = true ↔ Nonempty (machine.Holder start name)) := by
  rcases isEmpty_or_nonempty (machine.Holder start name) with
    none | ⟨⟨holder⟩⟩
  · refine ⟨false, ?_, by simpa using none⟩
    rw [hasMember, resolve_missing none noGap]
    rfl
  · refine ⟨true, ?_, iff_of_true rfl ⟨holder⟩⟩
    rw [hasMember, resolve_holder holder]
    cases holder.member with
    | element value => rfl
    | property held =>
        cases held with
        | data value writable enumerable configurable => rfl
        | accessor getter setter enumerable configurable => rfl

/-- A name is there at the object itself if that is the holder. -/
theorem hasOwnMember_iff
    {object : ScriptObject}
    (live : machine.heap.get? start = some object)
    (name : String) :
    ∃ own,
      machine.hasOwnMember start name = .ok own ∧
        (own = true ↔
          ∃ holder : machine.Holder start name, holder.handle = start) := by
  refine ⟨(object.element? name).isSome ||
    object.properties.contains name, ?_, ?_⟩
  · rw [hasOwnMember, object_of_get? live]
    rfl
  · have isMember :
        ((object.element? name).isSome ||
            object.properties.contains name) = true ↔
          object.member? name ≠ none := by
      rw [Ne, ScriptObject.member?_eq_none_iff, ScriptObject.own?,
        Table.contains]
      cases object.element? name <;>
        cases object.properties.get? name <;> simp
    rw [isMember]
    constructor
    · intro has
      obtain ⟨member, isSome⟩ := Option.ne_none_iff_exists'.mp has
      exact ⟨.here _ live isSome, rfl⟩
    · rintro ⟨holder, atStart⟩ lacks
      have holderLive := holder.live
      rw [atStart, live] at holderLive
      have has := holder.has
      rw [← Option.some.inj holderLive, lacks] at has
      cases has

end Machine

namespace Act

variable {σ : Type} {calls : Calls σ} {session : Session σ}
variable {start : Handle} {name : String}

/-- A name that belongs to a holder is read as its member. -/
theorem getMember_holder (holder : session.machine.Holder start name) :
    getMember start name calls session =
      holder.member.read start name calls session := by
  rw [getMember, bind_ok (ask_ok (Machine.resolve_holder holder))]
  cases holder.member with
  | element value => rfl
  | property held =>
      cases held with
      | data value writable enumerable configurable => rfl
      | accessor getter setter enumerable configurable =>
          cases getter with
          | none => rfl
          | some getter => rfl

/-- A name without a holder is undefined. -/
theorem getMember_missing
    (noHolder : IsEmpty (session.machine.Holder start name))
    (noGap : IsEmpty (session.machine.Gap start name)) :
    getMember start name calls session = .ok .undefined session := by
  rw [getMember,
    bind_ok (ask_ok (Machine.resolve_missing noHolder noGap))]
  rfl

/--
All queries for members go by one rule, the holder of a name.  If every object
within the reach of look-up is there, a name is there exactly if it has a
holder, it is there at the object itself exactly if that is the holder, and
reading gives undefined or what the holder's member reads as for the object.
The names that are listed are those whose holders list them, each once, nearer
holders first, and for one holder in the order of its members.
-/
theorem members_go_by_holders
    (calls : Calls σ)
    (session : Session σ)
    (start : Handle)
    (unbroken :
      session.machine.heap.Unbroken
        session.machine.configuration.maxPrototypeDepth start) :
    (∀ name,
      Subsingleton (session.machine.Holder start name) ∧
      (∃ has,
        session.machine.hasMember start name = .ok has ∧
          (has = true ↔ Nonempty (session.machine.Holder start name))) ∧
      (∃ own,
        session.machine.hasOwnMember start name = .ok own ∧
          (own = true ↔
            ∃ holder : session.machine.Holder start name,
              holder.handle = start)) ∧
      (IsEmpty (session.machine.Holder start name) →
        getMember start name calls session = .ok .undefined session) ∧
      ∀ holder : session.machine.Holder start name,
        getMember start name calls session =
          holder.member.read start name calls session) ∧
    (session.machine.heap.AddressableFrom
        session.machine.configuration.maxPrototypeDepth start →
      ∃ names,
        session.machine.enumerate start = .ok names ∧
          names.Nodup ∧
            (∀ name,
              name ∈ names ↔
                ∃ holder : session.machine.Holder start name,
                  holder.member.listed = true) ∧
              names.Pairwise
                (session.machine.heap.ListedBefore
                  session.machine.configuration.maxPrototypeDepth
                  start)) := by
  refine ⟨fun name => ?_, fun addressable => ?_⟩
  · have noGap := unbroken.isEmpty_gap name
    obtain ⟨object, live⟩ := unbroken 0 (Nat.zero_le _) start rfl
    exact ⟨Heap.Holder.unique, Machine.hasMember_iff noGap,
      Machine.hasOwnMember_iff live name,
      fun none => getMember_missing none noGap, getMember_holder⟩
  · obtain ⟨names, walked, lists⟩ :=
      Machine.namesWithin_lists unbroken addressable
    refine ⟨Machine.listedOnce [] names, ?_, Machine.nodup_listedOnce, ?_,
      lists.ordered []⟩
    · rw [Machine.enumerate, walked]
      rfl
    · intro name
      simp [Machine.mem_listedOnce_iff, lists.found]

end Act

/--
An array with a hidden property.  Its prototype has properties under the names
of the hidden one and of the first element, which are not seen, a third one and
a getter.  What comes above is gone, but look-up does not go so far.
-/
def Machine.layered : Machine :=
  { Machine.bare { Configuration.standard with maxPrototypeDepth := 1 } 0 with
    heap :=
      Heap.run
        [.alloc .blank, .alloc .blank,
          .alloc
            ((ScriptObject.new (some ⟨3, 0⟩)
                (.array #[.integer 10, .integer 20])).withProperty
              "x" (.hidden .null)),
          .alloc
            ((((ScriptObject.new (some ⟨9, 0⟩) .ordinary).withProperty
                    "x" (.plain .null)).withProperty
                  "0" (.plain .null)).withProperty
                "y" (.plain .null) |>.withProperty
              "self" (.accessors (some ⟨4, 0⟩) none)),
          .alloc (.new none (.function (.native ⟨"self", .host 0⟩)))] }

/-- A host whose functions answer with their receivers. -/
def Host.echoing : Host Unit where
  native _ receiver _ := .finish (.ok (.complete receiver))
  dispatcher := none

/-- The names of the array in order, and an inherited getter that runs on it. -/
theorem Act.members_go_by_holders_layered :
    Machine.layered.heap.Unbroken 1 ⟨2, 0⟩ ∧
      Machine.layered.heap.AddressableFrom 1 ⟨2, 0⟩ ∧
        Machine.layered.enumerate ⟨2, 0⟩ = .ok ["0", "1", "y"] ∧
          ["0", "1", "y"].Pairwise
            (Machine.layered.heap.ListedBefore 1 ⟨2, 0⟩) ∧
            ∃ (holder : Machine.layered.Holder ⟨2, 0⟩ "self")
              (after : Session Unit),
              holder.handle = ⟨3, 0⟩ ∧
                Act.getMember ⟨2, 0⟩ "self" (Host.echoing.calls 2)
                  ⟨Machine.layered, ()⟩ = .ok (.object ⟨2, 0⟩) after := by
  have chain (distance : Nat) (near : distance ≤ 1) (handle : Handle)
      (reached :
        Machine.layered.heap.climb distance ⟨2, 0⟩ = some handle) :
      handle = ⟨2, 0⟩ ∨ handle = ⟨3, 0⟩ := by
    obtain rfl | rfl : distance = 0 ∨ distance = 1 := by omega
    · exact .inl (Option.some.inj reached).symm
    · exact .inr (Option.some.inj reached).symm
  have unbroken : Machine.layered.heap.Unbroken 1 ⟨2, 0⟩ := by
    intro distance near handle reached
    rcases chain distance near handle reached with rfl | rfl
    · exact ⟨_, rfl⟩
    · exact ⟨_, rfl⟩
  have addressable : Machine.layered.heap.AddressableFrom 1 ⟨2, 0⟩ := by
    intro distance near handle object reached live
    rcases chain distance near handle reached with rfl | rfl
    · cases live
      rintro elements ⟨⟩
      decide
    · cases live
      exact nofun
  obtain ⟨named, listing⟩ :=
    members_go_by_holders (Host.echoing.calls 2)
      ⟨Machine.layered, ()⟩ ⟨2, 0⟩ unbroken
  obtain ⟨names, listed, -, -, ordered⟩ := listing addressable
  have enumerated :
      Machine.layered.enumerate ⟨2, 0⟩ = .ok ["0", "1", "y"] := by
    decide +kernel
  rw [enumerated] at listed
  cases listed
  let holder : Machine.layered.Holder ⟨2, 0⟩ "self" :=
    (Heap.Holder.here 0 (rfl : Machine.layered.heap.get? ⟨3, 0⟩ = some _)
      rfl).above (rfl : Machine.layered.heap.get? ⟨2, 0⟩ = some _) rfl rfl
  exact ⟨unbroken, addressable, enumerated, ordered, holder, _, rfl,
    ((named "self").2.2.2.2 holder).trans rfl⟩

end MovieScript
