import MovieScript.Proofs.PrototypeChains

namespace MovieScript

/-!
# Holders of members

A name belongs to the first object, from a start on along its prototypes, that
has a member of that name.  Look-up follows as many links as the configuration
allows and stops at the first handle that is gone, so there are three ways for
it to end: at a holder, at a gap, or with nothing found.
-/

/-- What an object itself has under a name. -/
inductive Member where
  | element (value : Value)
  | property (property : Property)

namespace Member

/-- Where a name leads that belongs to this member. -/
def resolution : Member → Resolution
  | .element value => .value value
  | .property (.data value _ _ _) => .value value
  | .property (.accessor getter setter _ _) => .accessor getter setter

/-- The member is listed, as elements always are. -/
def listed : Member → Bool
  | .element _ => true
  | .property held => held.enumerable

end Member

namespace ScriptObject

variable {object : ScriptObject} {name : String}

/-- The member an object itself has; elements come before properties. -/
def member?
    (object : ScriptObject)
    (name : String) :
    Option Member :=
  match object.element? name with
  | some value => some (.element value)
  | none => (object.own? name).map .property

theorem member?_of_element
    {value : Value}
    (element : object.element? name = some value) :
    object.member? name = some (.element value) := by
  simp [member?, element]

theorem member?_of_no_element
    (noElement : object.element? name = none) :
    object.member? name = (object.own? name).map .property := by
  simp [member?, noElement]

theorem member?_eq_none_iff :
    object.member? name = none ↔
      object.element? name = none ∧ object.own? name = none := by
  cases element : object.element? name with
  | some value => simp [member?_of_element element]
  | none => simp [member?_of_no_element element]

/-- An object that is no array has properties only. -/
theorem element?_of_no_elements
    (noArray : object.elements? = none)
    (name : String) :
    object.element? name = none := by
  unfold elements? at noArray
  unfold element?
  cases content : object.content with
  | array elements => simp [content] at noArray
  | _ => rfl

/-- What an object itself has is what a name leads to there. -/
theorem resolveOwn?_eq
    (object : ScriptObject)
    (name : String) :
    object.resolveOwn? name =
      (object.member? name).map Member.resolution := by
  unfold resolveOwn? member?
  cases object.element? name with
  | some value => rfl
  | none =>
      cases object.own? name with
      | none => rfl
      | some property =>
          cases property with
          | data value writable enumerable configurable => rfl
          | accessor getter setter enumerable configurable => rfl

end ScriptObject

namespace Heap

variable {heap : Heap ScriptObject} {start : Handle} {name : String}
variable {reach count : Nat}

/--
The first so many objects, from the start on along its prototypes, are there
and none of them has a member of that name.
-/
def Clear
    (heap : Heap ScriptObject)
    (start : Handle)
    (name : String)
    (count : Nat) :
    Prop :=
  ∀ distance < count, ∀ handle,
    heap.climb distance start = some handle →
      ∃ object,
        heap.get? handle = some object ∧ object.member? name = none

/--
The holder of a name: the first object, from the start on along its prototypes
and at most so many links away, that has a member of that name.
-/
structure Holder
    (heap : Heap ScriptObject)
    (reach : Nat)
    (start : Handle)
    (name : String) where
  distance : Nat
  handle : Handle
  object : ScriptObject
  member : Member
  near : distance ≤ reach
  reached : heap.climb distance start = some handle
  live : heap.get? handle = some object
  has : object.member? name = some member
  first : heap.Clear start name distance

/--
A gap: a handle at most so many links from the start that is gone, with nothing
of that name on the way to it.
-/
structure Gap
    (heap : Heap ScriptObject)
    (reach : Nat)
    (start : Handle)
    (name : String) where
  distance : Nat
  handle : Handle
  near : distance ≤ reach
  reached : heap.climb distance start = some handle
  gone : heap.get? handle = none
  first : heap.Clear start name distance

/-- Every object within so many links of the start is there. -/
def Unbroken
    (heap : Heap ScriptObject)
    (reach : Nat)
    (start : Handle) :
    Prop :=
  ∀ distance ≤ reach, ∀ handle,
    heap.climb distance start = some handle →
      ∃ object, heap.get? handle = some object

/-- A link leads from an object that is there to its prototype. -/
theorem climb_succ_of_live
    {object : ScriptObject}
    (live : heap.get? start = some object)
    (distance : Nat) :
    heap.climb (distance + 1) start =
      object.prototype.bind (heap.climb distance) := by
  simp [climb, prototypeOf?, live]

/-- A link leads nowhere from a handle that is gone. -/
theorem exists_live_of_climb_succ
    {distance : Nat}
    {handle : Handle}
    (reached : heap.climb (distance + 1) start = some handle) :
    ∃ object parent,
      heap.get? start = some object ∧
        object.prototype = some parent ∧
          heap.climb distance parent = some handle := by
  obtain ⟨parent, isParent, rest⟩ := Option.bind_eq_some_iff.mp reached
  obtain ⟨object, live, above⟩ := Option.bind_eq_some_iff.mp isParent
  exact ⟨object, parent, live, above, rest⟩

namespace Clear

theorem mono
    {fewer : Nat}
    (clear : heap.Clear start name count)
    (fewerLe : fewer ≤ count) :
    heap.Clear start name fewer :=
  fun distance below =>
    clear distance (Nat.lt_of_lt_of_le below fewerLe)

/-- What is clear from an object on is clear from its prototype on. -/
theorem tail
    {object : ScriptObject}
    {parent : Handle}
    (clear : heap.Clear start name (count + 1))
    (live : heap.get? start = some object)
    (above : object.prototype = some parent) :
    heap.Clear parent name count := by
  intro distance below handle reached
  apply clear (distance + 1) (by omega) handle
  simpa [climb_succ_of_live live, above] using reached

/-- An object without the member is clear if its prototypes are. -/
theorem cons
    {object : ScriptObject}
    (live : heap.get? start = some object)
    (lacks : object.member? name = none)
    (clear : ∀ parent,
      object.prototype = some parent → heap.Clear parent name count) :
    heap.Clear start name (count + 1) := by
  intro distance below handle reached
  cases distance with
  | zero =>
      cases reached
      exact ⟨object, live, lacks⟩
  | succ distance =>
      rw [climb_succ_of_live live] at reached
      obtain ⟨parent, above, rest⟩ := Option.bind_eq_some_iff.mp reached
      exact clear parent above distance (by omega) handle rest

/-- The start itself is there and lacks the member. -/
theorem head
    (clear : heap.Clear start name (count + 1)) :
    ∃ object,
      heap.get? start = some object ∧ object.member? name = none :=
  clear 0 (Nat.succ_pos count) start rfl

end Clear

/-- The start is the holder if it has the member. -/
def Holder.here
    {object : ScriptObject}
    {member : Member}
    (reach : Nat)
    (live : heap.get? start = some object)
    (has : object.member? name = some member) :
    heap.Holder reach start name where
  distance := 0
  handle := start
  object := object
  member := member
  near := Nat.zero_le reach
  reached := rfl
  live := live
  has := has
  first := fun _ below => absurd below (Nat.not_lt_zero _)

/-- The holder from the prototype on, if the start lacks the member. -/
def Holder.above
    {object : ScriptObject}
    {parent : Handle}
    (holder : heap.Holder reach parent name)
    (live : heap.get? start = some object)
    (isParent : object.prototype = some parent)
    (lacks : object.member? name = none) :
    heap.Holder (reach + 1) start name where
  distance := holder.distance + 1
  handle := holder.handle
  object := holder.object
  member := holder.member
  near := Nat.succ_le_succ holder.near
  reached := by
    simpa [climb_succ_of_live live, isParent] using holder.reached
  live := holder.live
  has := holder.has
  first := by
    refine Clear.cons live lacks fun other isOther => ?_
    rw [isParent] at isOther
    cases isOther
    exact holder.first

/-- A holder has nothing of that name in front of it. -/
private theorem Holder.not_nearer
    (holder other : heap.Holder reach start name) :
    ¬other.distance < holder.distance := by
  intro nearer
  obtain ⟨object, live, lacks⟩ :=
    holder.first other.distance nearer other.handle other.reached
  rw [other.live] at live
  cases live
  rw [other.has] at lacks
  cases lacks

/-- A name has one holder at most. -/
theorem Holder.unique : Subsingleton (heap.Holder reach start name) := by
  constructor
  intro holder other
  have notBehind := holder.not_nearer other
  have notBefore := other.not_nearer holder
  obtain ⟨distance, handle, object, member, near, reached, live, has, first⟩ :=
    holder
  obtain ⟨otherDistance, otherHandle, otherObject, otherMember, _,
    otherReached, otherLive, otherHas, _⟩ := other
  obtain rfl : distance = otherDistance :=
    Nat.le_antisymm (Nat.not_lt.mp notBehind) (Nat.not_lt.mp notBefore)
  rw [reached] at otherReached
  cases otherReached
  rw [live] at otherLive
  cases otherLive
  rw [has] at otherHas
  cases otherHas
  rfl

/-- If the start has the member, the holder's member is no other. -/
theorem Holder.member_eq
    {object : ScriptObject}
    {member : Member}
    (holder : heap.Holder reach start name)
    (live : heap.get? start = some object)
    (has : object.member? name = some member) :
    holder.member = member := by
  rw [Holder.unique.elim holder (.here reach live has)]
  rfl

/-- If the start lacks the member, the holder is one from its prototype on. -/
theorem Holder.exists_above
    {object : ScriptObject}
    (holder : heap.Holder reach start name)
    (live : heap.get? start = some object)
    (lacks : object.member? name = none) :
    ∃ within parent,
      reach = within + 1 ∧
        object.prototype = some parent ∧
          ∃ rest : heap.Holder within parent name,
            holder.distance = rest.distance + 1 ∧
              holder.object = rest.object ∧ holder.member = rest.member := by
  obtain ⟨distance, handle, found, member, near, reached, foundLive, has,
    first⟩ := holder
  cases distance with
  | zero =>
      cases reached
      rw [live] at foundLive
      cases foundLive
      rw [lacks] at has
      cases has
  | succ distance =>
      obtain ⟨within, rfl⟩ : ∃ within, reach = within + 1 :=
        ⟨reach - 1, by omega⟩
      rw [climb_succ_of_live live] at reached
      obtain ⟨parent, above, rest⟩ := Option.bind_eq_some_iff.mp reached
      exact ⟨within, parent, rfl, above,
        ⟨distance, handle, found, member, Nat.le_of_succ_le_succ near, rest,
          foundLive, has, first.tail live above⟩, rfl, rfl, rfl⟩

/-- Look-up has three ways to end: a holder, a gap, or nothing at all. -/
theorem holder_or_gap_or_clear
    (heap : Heap ScriptObject)
    (reach : Nat)
    (start : Handle)
    (name : String) :
    Nonempty (heap.Holder reach start name) ∨
      Nonempty (heap.Gap reach start name) ∨
        heap.Clear start name (reach + 1) := by
  suffices upTo : ∀ count ≤ reach + 1,
      Nonempty (heap.Holder reach start name) ∨
        Nonempty (heap.Gap reach start name) ∨
          heap.Clear start name count from
    upTo (reach + 1) (Nat.le_refl _)
  intro count
  induction count with
  | zero =>
      intro _
      exact .inr (.inr fun _ below => absurd below (Nat.not_lt_zero _))
  | succ count inductionHypothesis =>
      intro within
      rcases inductionHypothesis (by omega) with
        holder | gap | clear
      · exact .inl holder
      · exact .inr (.inl gap)
      · -- Whatever stands at this distance decides.
        have extend
            (next : ∀ handle,
              heap.climb count start = some handle →
                ∃ object,
                  heap.get? handle = some object ∧
                    object.member? name = none) :
            heap.Clear start name (count + 1) := by
          intro distance below handle reached
          rcases Nat.lt_succ_iff_lt_or_eq.mp below with before | rfl
          · exact clear distance before handle reached
          · exact next handle reached
        cases reached : heap.climb count start with
        | none =>
            refine .inr (.inr (extend fun handle there => ?_))
            rw [reached] at there
            cases there
        | some handle =>
            cases live : heap.get? handle with
            | none =>
                exact .inr (.inl
                  ⟨⟨count, handle, by omega, reached, live, clear⟩⟩)
            | some object =>
                cases has : object.member? name with
                | some member =>
                    exact .inl
                      ⟨⟨count, handle, object, member, by omega, reached,
                        live, has, clear⟩⟩
                | none =>
                    refine .inr (.inr (extend fun other there => ?_))
                    rw [reached] at there
                    cases there
                    exact ⟨object, live, has⟩

/-- An unbroken chain has no gap. -/
theorem Unbroken.isEmpty_gap
    (unbroken : heap.Unbroken reach start)
    (name : String) :
    IsEmpty (heap.Gap reach start name) := by
  constructor
  intro gap
  obtain ⟨object, live⟩ :=
    unbroken gap.distance gap.near gap.handle gap.reached
  rw [gap.gone] at live
  cases live

/-- A chain that comes to its end is unbroken as far as one looks. -/
theorem Avoids.unbroken
    {target : Handle}
    {chain : Option Handle}
    (avoids : heap.Avoids target chain)
    (reach : Nat) :
    ∀ start, chain = some start → heap.Unbroken reach start := by
  induction avoids with
  | top => exact nofun
  | @step first object _ live _ inductionHypothesis =>
      rintro start ⟨⟩ distance near handle reached
      cases distance with
      | zero =>
          cases reached
          exact ⟨object, live⟩
      | succ distance =>
          rw [climb_succ_of_live live] at reached
          obtain ⟨parent, above, rest⟩ :=
            Option.bind_eq_some_iff.mp reached
          exact inductionHypothesis parent above distance (by omega)
            handle rest

/-- The chain above the prototype of an object is as unbroken as its own. -/
theorem Unbroken.tail
    {object : ScriptObject}
    {parent : Handle}
    (unbroken : heap.Unbroken (reach + 1) start)
    (live : heap.get? start = some object)
    (above : object.prototype = some parent) :
    heap.Unbroken reach parent := by
  intro distance near handle reached
  apply unbroken (distance + 1) (by omega) handle
  simpa [climb_succ_of_live live, above] using reached

end Heap

namespace Machine

variable {machine : Machine} {start : Handle} {name : String}

/-- The holder of a name, as far as look-up goes. -/
abbrev Holder
    (machine : Machine)
    (start : Handle)
    (name : String) :=
  machine.heap.Holder machine.configuration.maxPrototypeDepth start name

/-- A gap on the way to a name, as far as look-up goes. -/
abbrev Gap
    (machine : Machine)
    (start : Handle)
    (name : String) :=
  machine.heap.Gap machine.configuration.maxPrototypeDepth start name

/-- Nothing on the way decides, so look-up goes on where the way leads. -/
theorem resolveWithin_of_clear
    {distance : Nat}
    {handle : Handle}
    (clear : machine.heap.Clear start name distance)
    (reached : machine.heap.climb distance start = some handle)
    (budget : Nat) :
    machine.resolveWithin name (distance + budget) (some start) =
      machine.resolveWithin name budget (some handle) := by
  induction distance generalizing start with
  | zero =>
      cases reached
      rw [Nat.zero_add]
  | succ distance inductionHypothesis =>
      obtain ⟨object, parent, live, above, rest⟩ :=
        Heap.exists_live_of_climb_succ reached
      obtain ⟨passed, isPassed, lacks⟩ := clear.head
      rw [live] at isPassed
      cases isPassed
      rw [← inductionHypothesis (clear.tail live above) rest,
        Nat.add_right_comm, resolveWithin, object_of_get? live]
      simp only [bind, Except.bind, ScriptObject.resolveOwn?_eq, lacks,
        Option.map_none, above]

/-- Where there is nothing as far as one looks, a name is missing. -/
theorem resolveWithin_missing
    {budget : Nat}
    (clear : machine.heap.Clear start name budget) :
    machine.resolveWithin name budget (some start) = .ok .missing := by
  induction budget generalizing start with
  | zero =>
      rfl
  | succ budget inductionHypothesis =>
      obtain ⟨object, live, lacks⟩ := clear.head
      rw [resolveWithin, object_of_get? live]
      simp only [bind, Except.bind, ScriptObject.resolveOwn?_eq, lacks,
        Option.map_none]
      cases above : object.prototype with
      | none => cases budget <;> rfl
      | some parent => exact inductionHypothesis (clear.tail live above)

/-- A name leads to the member of its holder. -/
theorem resolveWithin_holder
    {reach budget : Nat}
    (holder : machine.heap.Holder reach start name)
    (inBudget : holder.distance < budget) :
    machine.resolveWithin name budget (some start) =
      .ok holder.member.resolution := by
  obtain ⟨rest, rfl⟩ : ∃ rest, budget = holder.distance + (rest + 1) :=
    ⟨budget - holder.distance - 1, by omega⟩
  rw [resolveWithin_of_clear holder.first holder.reached, resolveWithin,
    object_of_get? holder.live]
  simp only [bind, Except.bind, ScriptObject.resolveOwn?_eq, holder.has,
    Option.map_some]
  rfl

/-- A name leads to the member of its holder. -/
theorem resolve_holder (holder : machine.Holder start name) :
    machine.resolve start name = .ok holder.member.resolution :=
  resolveWithin_holder holder (Nat.lt_succ_of_le holder.near)

/-- A gap on the way to a name is a dangling reference. -/
theorem resolve_gap (gap : machine.Gap start name) :
    machine.resolve start name = .error (.danglingReference gap.handle) := by
  obtain ⟨rest, enough⟩ : ∃ rest,
      machine.configuration.maxPrototypeDepth + 1 =
        gap.distance + (rest + 1) :=
    ⟨machine.configuration.maxPrototypeDepth - gap.distance, by
      have near := gap.near
      omega⟩
  rw [resolve, enough, resolveWithin_of_clear gap.first gap.reached,
    resolveWithin, object, gap.gone]
  rfl

/-- Without a holder and without a gap a name is missing. -/
theorem resolve_missing
    (noHolder : IsEmpty (machine.Holder start name))
    (noGap : IsEmpty (machine.Gap start name)) :
    machine.resolve start name = .ok .missing := by
  rcases machine.heap.holder_or_gap_or_clear
      machine.configuration.maxPrototypeDepth start name with
    ⟨⟨holder⟩⟩ | ⟨⟨gap⟩⟩ | clear
  · exact noHolder.elim holder
  · exact noGap.elim gap
  · exact resolveWithin_missing clear

end Machine

end MovieScript
