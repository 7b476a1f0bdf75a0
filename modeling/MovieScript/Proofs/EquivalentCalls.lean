import MovieScript.Proofs.EnoughFuel
import MovieScript.Proofs.MemberHolders
import MovieScript.Proofs.ObjectEdits
import MovieScript.Proofs.RelayedCalls

namespace MovieScript

/-!
# Equivalent calls

A function can be called directly, through `call` with the arguments one by one,
and through `apply` with a list of them.  The detour takes more fuel and changes
nothing: all three come to the same result or the same fault, and they leave the
same session behind.
-/

/-! Lists of arguments. -/

/-- The object itself has a data property with the value. -/
def ScriptObject.HoldsData
    (object : ScriptObject)
    (name : String)
    (value : Value) :
    Prop :=
  (object.own? name).bind Property.value? = some value

/--
The value is a list of the items: an array of them, or another object that has
their number as its `length` and each of them under its index.
-/
inductive Heap.ListsItems
    (heap : Heap ScriptObject)
    (items : List Value) :
    Value → Prop where
  | array {handle : Handle} {object : ScriptObject} {elements : Array Value} :
      heap.get? handle = some object →
      object.elements? = some elements →
      elements.toList = items →
        heap.ListsItems items (.object handle)
  | plain {handle : Handle} {object : ScriptObject} :
      heap.get? handle = some object →
      object.elements? = none →
      items.length < 2 ^ 31 →
      object.HoldsData "length" (.integer (Int32.ofNat items.length)) →
      (∀ index item,
        items[index]? = some item →
          object.HoldsData (elementName index) item) →
        heap.ListsItems items (.object handle)

namespace Machine

variable {machine : Machine} {handle : Handle}

theorem heldMember?_of_holdsData
    {object : ScriptObject}
    {name : String}
    {value : Value}
    (live : machine.heap.get? handle = some object)
    (noArray : object.elements? = none)
    (holds : object.HoldsData name value) :
    machine.heldMember? handle name = some value := by
  obtain ⟨property, own, stored⟩ := Option.bind_eq_some_iff.mp holds
  have resolved :
      machine.resolve handle name = .ok (.value value) := by
    apply resolve_own (object_of_get? live)
    cases property with
    | data held writable enumerable configurable =>
        obtain rfl := Option.some.inj stored
        simp [ScriptObject.resolveOwn?, own,
          ScriptObject.element?_of_no_elements noArray]
    | accessor => cases stored
  simp [heldMember?, resolved]

/-- The items are read one after the other, from the given index on. -/
theorem mapM_range'_heldMember?
    (items : List Value)
    (start : Nat)
    (held : ∀ index item,
      items[index]? = some item →
        machine.heldMember? handle (elementName (start + index)) =
          some item) :
    ((List.range' start items.length).mapM fun index =>
        machine.heldMember? handle (elementName index)) =
      some items := by
  induction items generalizing start with
  | nil => rfl
  | cons item rest inductionHypothesis =>
      have first := held 0 item rfl
      have others := inductionHypothesis (start + 1) fun index other found => by
        have later := held (index + 1) other found
        rwa [Nat.add_assoc, Nat.add_comm 1 index]
      rw [Nat.add_zero] at first
      simp [List.range'_succ, List.mapM_cons, first, others]

/-- A list of items is one that `apply` takes these items from. -/
theorem argumentList?_of_listsItems
    {items : List Value}
    {list : Value}
    (lists : machine.heap.ListsItems items list) :
    machine.argumentList? list = some items := by
  cases lists with
  | array live isArray same => simp [argumentList?, live, isArray, same]
  | plain live noArray few length elements =>
      have counted :
          (Value.integer (Int32.ofNat items.length)).toInteger.toNatClampNeg =
            items.length :=
        Int32.toNatClampNeg_ofNat_of_lt few
      have read :=
        @mapM_range'_heldMember? machine _ items 0
          fun index item found => by
            rw [Nat.zero_add]
            exact heldMember?_of_holdsData live noArray
              (elements index item found)
      simp [argumentList?, live, noArray, Value.isNumber,
        heldMember?_of_holdsData live noArray length, counted,
        List.range_eq_range', read]

end Machine

section Outcomes

variable {σ : Type}

/-! Host entries depend on nothing but what is done in them. -/

namespace Act

variable {calls otherCalls : Calls σ} {session : Session σ}
variable {body otherBody : Nat → Act σ Value}

theorem inHostEntry_congr
    (same :
      otherBody session.machine.depth otherCalls
          ⟨session.machine.entered, session.host⟩ =
        body session.machine.depth calls
          ⟨session.machine.entered, session.host⟩) :
    inHostEntry otherBody otherCalls session =
      inHostEntry body calls session := by
  rcases enterHost_run session.machine with opened | ⟨fault, log, shut⟩
  · cases ran :
        body session.machine.depth calls
          ⟨session.machine.entered, session.host⟩ with
    | ok value changed =>
        rw [inHostEntry_ok opened ran,
          inHostEntry_ok opened (same.trans ran)]
    | error stop changed =>
        cases stop with
        | fault fault =>
            rw [inHostEntry_fault opened ran,
              inHostEntry_fault opened (same.trans ran)]
        | outOfFuel =>
            rw [inHostEntry_outOfFuel opened ran,
              inHostEntry_outOfFuel opened (same.trans ran)]
  · rw [inHostEntry_refused shut, inHostEntry_refused shut]

/--
To compare two entries, it is enough to compare what finishes in the first one.
-/
theorem inHostEntry_eq_of_finished
    (finished : Finished (inHostEntry body calls session))
    (same :
      Finished
          (body session.machine.depth calls
            ⟨session.machine.entered, session.host⟩) →
        otherBody session.machine.depth otherCalls
            ⟨session.machine.entered, session.host⟩ =
          body session.machine.depth calls
            ⟨session.machine.entered, session.host⟩) :
    inHostEntry otherBody otherCalls session =
      inHostEntry body calls session := by
  rcases enterHost_run session.machine with opened | ⟨fault, log, shut⟩
  · apply inHostEntry_congr
    apply same
    intro changed ran
    exact finished changed (inHostEntry_outOfFuel opened ran)
  · rw [inHostEntry_refused shut, inHostEntry_refused shut]

end Act

/-! A call that is passed on comes to what the call that it becomes comes to. -/

/-- What is left to do in a host entry once its call has been started. -/
def Act.settle (base : Nat) : Invocation → Act σ Value
  | .complete value => pure value
  | .pending => finishEntry base

theorem Calls.Outlasts.settle
    {calls more : Calls σ}
    (outlasts : calls.Outlasts more)
    (base : Nat)
    (invocation : Invocation) :
    Act.Outlasts calls more (Act.settle base invocation)
      (Act.settle base invocation) := by
  cases invocation with
  | complete value => exact .pure value
  | pending => exact outlasts.entries.finishEntry trivial

namespace UpcomingCall

/-- Make the call in a host entry and see it to its end. -/
def make (call : UpcomingCall) : Act σ Value :=
  Act.call call.function call.receiver call.arguments

/-- What is done in the host entry. -/
def makeWithin (call : UpcomingCall) (base : Nat) : Act σ Value :=
  call.start >>= Act.settle base

theorem make_eq (call : UpcomingCall) :
    (call.make : Act σ Value) = Act.inHostEntry call.makeWithin :=
  rfl

end UpcomingCall

namespace Host

variable {host : Host σ} {session : Session σ} {call next : UpcomingCall}

/--
The call comes to the outcome: it ends so as soon as there is fuel enough for
it to end at all.
-/
def ComesTo
    (host : Host σ)
    (session : Session σ)
    (call : UpcomingCall)
    (outcome : EStateM.Result Stop (Session σ) Value) :
    Prop :=
  Finished outcome ∧ ∃ fuel, call.make (host.calls fuel) session = outcome

/-- A call that ends ends so with any more fuel. -/
theorem ComesTo.stable
    {outcome : EStateM.Result Stop (Session σ) Value}
    (comes : host.ComesTo session call outcome) :
    ∃ fuel, ∀ more,
      fuel ≤ more → call.make (host.calls more) session = outcome := by
  obtain ⟨finished, fuel, rfl⟩ := comes
  refine ⟨fuel, fun more enough => ?_⟩
  exact (host.calls_outlast enough).timed.call _ _ _ session finished

/-- No call comes to two outcomes. -/
theorem ComesTo.unique
    {outcome other : EStateM.Result Stop (Session σ) Value}
    (comes : host.ComesTo session call outcome)
    (also : host.ComesTo session call other) :
    outcome = other := by
  obtain ⟨fuel, stable⟩ := comes.stable
  obtain ⟨otherFuel, otherStable⟩ := also.stable
  exact (stable _ (Nat.le_max_left fuel otherFuel)).symm.trans
    (otherStable _ (Nat.le_max_right fuel otherFuel))

/-- The detour ends as the direct call does, with one more unit of fuel. -/
theorem makeWithin_of_next
    {fuel base : Nat}
    (passed : session.machine.passedOn? call = some next)
    (finished : Finished (next.makeWithin base (host.calls fuel) session)) :
    call.makeWithin base (host.calls (fuel + 1)) session =
      next.makeWithin base (host.calls fuel) session :=
  Act.bind_eq_of_finished finished
    (fun _ => host.start_passedOn? fuel session passed)
    ((host.calls_outlast (Nat.le_succ fuel)).settle base)

/-- The direct call ends as the detour does, with no more fuel. -/
theorem makeWithin_of_detour
    {fuel base : Nat}
    (passed : session.machine.passedOn? call = some next)
    (finished :
      Finished (call.makeWithin base (host.calls (fuel + 1)) session)) :
    next.makeWithin base (host.calls (fuel + 1)) session =
      call.makeWithin base (host.calls (fuel + 1)) session := by
  have outlasts := host.calls_outlast (Nat.le_succ fuel)
  have started := host.start_passedOn? fuel session passed
  refine Act.bind_eq_of_finished finished ?_ fun _ _ _ => rfl
  intro startFinished
  change Finished (call.start (host.calls (fuel + 1)) session)
    at startFinished
  rw [started] at startFinished
  exact (outlasts.invoke _ _ _ session startFinished).trans started.symm

/-- A call comes to whatever the call that it is passed on to comes to. -/
theorem comesTo_passedOn?
    (passed : session.machine.entered.passedOn? call = some next)
    (outcome : EStateM.Result Stop (Session σ) Value) :
    host.ComesTo session call outcome ↔
      host.ComesTo session next outcome := by
  constructor
  · rintro ⟨finished, fuel, rfl⟩
    refine ⟨finished, fuel, ?_⟩
    rw [UpcomingCall.make_eq] at finished
    rw [UpcomingCall.make_eq, UpcomingCall.make_eq]
    apply Act.inHostEntry_eq_of_finished finished
    intro withinFinished
    -- A detour that ends had fuel for its hop, which is left for the rest.
    cases fuel with
    | zero => exact absurd rfl (withinFinished _)
    | succ fuel => exact makeWithin_of_detour passed withinFinished
  · rintro ⟨finished, fuel, rfl⟩
    refine ⟨finished, fuel + 1, ?_⟩
    rw [UpcomingCall.make_eq] at finished
    rw [UpcomingCall.make_eq, UpcomingCall.make_eq]
    apply Act.inHostEntry_eq_of_finished finished
    exact makeWithin_of_next passed

/--
A call through `call` or through `apply` with a list of the same arguments comes
to exactly what the direct call comes to, whatever the called value is, and to
nothing else.
-/
theorem comesTo_through_call_or_apply
    (host : Host σ)
    (session : Session σ)
    (function receiver viaCall viaApply list : Value)
    (arguments : List Value)
    {callHandle applyHandle : Handle}
    {callName applyName : String}
    (isCall :
      session.machine.toFunction viaCall =
        .ok (callHandle, .native ⟨callName, .builtin .functionCall⟩))
    (isApply :
      session.machine.toFunction viaApply =
        .ok (applyHandle, .native ⟨applyName, .builtin .functionApply⟩))
    (lists : session.machine.heap.ListsItems arguments list) :
    ∀ outcome,
      (host.ComesTo session ⟨viaCall, function, receiver :: arguments⟩
          outcome ↔
        host.ComesTo session ⟨function, receiver, arguments⟩ outcome) ∧
      (host.ComesTo session ⟨viaApply, function, [receiver, list]⟩
          outcome ↔
        host.ComesTo session ⟨function, receiver, arguments⟩ outcome) ∧
      (host.ComesTo session ⟨function, receiver, arguments⟩ outcome →
        ∀ other,
          host.ComesTo session ⟨function, receiver, arguments⟩ other →
            other = outcome) := by
  intro outcome
  have callEntered :
      session.machine.entered.toFunction viaCall =
        .ok (callHandle, .native ⟨callName, .builtin .functionCall⟩) :=
    isCall
  have applyEntered :
      session.machine.entered.toFunction viaApply =
        .ok (applyHandle, .native ⟨applyName, .builtin .functionApply⟩) :=
    isApply
  have listed :
      session.machine.entered.argumentList? list = some arguments :=
    Machine.argumentList?_of_listsItems lists
  refine ⟨comesTo_passedOn? ?_ outcome, comesTo_passedOn? ?_ outcome, ?_⟩
  · unfold Machine.passedOn?
    rw [callEntered]
    rfl
  · unfold Machine.passedOn?
    rw [applyEntered]
    change (session.machine.entered.argumentList? list).map _ = _
    rw [listed]
    rfl
  · intro comes other also
    exact also.unique comes

/--
Behind the two well-known objects: `call`, `apply`, a function of the host, and
a list of two values that is no array.
-/
def withPlainList : Machine :=
  { Machine.bare .standard 0 with
    heap :=
      Heap.run
        [.alloc .blank, .alloc .blank,
          .alloc
            (.new none
              (.function (.native ⟨"call", .builtin .functionCall⟩))),
          .alloc
            (.new none
              (.function (.native ⟨"apply", .builtin .functionApply⟩))),
          .alloc (.new none (.function (.native ⟨"second", .host 0⟩))),
          .alloc
            (((ScriptObject.blank.withProperty "1"
              (.plain (.integer 7))).withProperty "length"
                (.constant (.integer 2))).withProperty "0" (.hidden .null))] }

/-- A host whose functions answer with their second argument. -/
def secondArgument : Host Unit where
  native _ _ arguments := .finish (.ok (.complete (argument arguments 1)))
  dispatcher := none

/-- All three ways lead to the second argument, which `apply` has to look up. -/
theorem comesTo_through_call_or_apply_plain :
    withPlainList.heap.ListsItems [.null, .integer 7] (.object ⟨5, 0⟩) ∧
      ∃ after,
        secondArgument.ComesTo ⟨withPlainList, ()⟩
            ⟨.object ⟨4, 0⟩, .undefined, [.null, .integer 7]⟩
            (.ok (.integer 7) after) ∧
          secondArgument.ComesTo ⟨withPlainList, ()⟩
              ⟨.object ⟨2, 0⟩, .object ⟨4, 0⟩,
                [.undefined, .null, .integer 7]⟩
              (.ok (.integer 7) after) ∧
            secondArgument.ComesTo ⟨withPlainList, ()⟩
              ⟨.object ⟨3, 0⟩, .object ⟨4, 0⟩,
                [.undefined, .object ⟨5, 0⟩]⟩
              (.ok (.integer 7) after) := by
  have lists :
      withPlainList.heap.ListsItems [.null, .integer 7] (.object ⟨5, 0⟩) := by
    refine .plain rfl rfl (by decide) rfl fun index item found => ?_
    rcases index with _ | _ | index
    · obtain rfl := Option.some.inj found
      rfl
    · obtain rfl := Option.some.inj found
      rfl
    · cases found
  obtain ⟨after, ran⟩ :
      ∃ after,
        UpcomingCall.make ⟨.object ⟨4, 0⟩, .undefined, [.null, .integer 7]⟩
            (secondArgument.calls 1) ⟨withPlainList, ()⟩ =
          .ok (.integer 7) after :=
    ⟨_, answer?_eq_some rfl⟩
  have direct :
      secondArgument.ComesTo ⟨withPlainList, ()⟩
        ⟨.object ⟨4, 0⟩, .undefined, [.null, .integer 7]⟩
        (.ok (.integer 7) after) :=
    ⟨finished_ok _ _, 1, ran⟩
  have routes :=
    comesTo_through_call_or_apply secondArgument ⟨withPlainList, ()⟩
      (.object ⟨4, 0⟩) .undefined (.object ⟨2, 0⟩) (.object ⟨3, 0⟩)
      (.object ⟨5, 0⟩) [.null, .integer 7] rfl rfl lists
      (.ok (.integer 7) after)
  exact ⟨lists, after, direct, routes.1.mpr direct, routes.2.1.mpr direct⟩

end Host

end Outcomes

end MovieScript
