import MovieScript.Proofs.Conversions
import MovieScript.Proofs.HostEntries
import MovieScript.Proofs.IntervalNames

namespace MovieScript

/-!
# Constructors called as functions

A constructor that converts can be called by the host or from a running frame,
by itself or as a method.  However it is called, no object changes that was
there before, and the receiver is not the answer, unless the constructor takes
the receiver for a new object.
-/

namespace Machine

/-- The text of a value has nothing to do with the open host entries. -/
theorem displayTextWithin_entered
    (machine : Machine)
    (depth : Nat)
    (value : Value) :
    machine.entered.displayTextWithin depth value =
      machine.displayTextWithin depth value := by
  induction depth generalizing value with
  | zero =>
      cases value with
      | object handle =>
          rw [displayTextWithin, displayTextWithin]
          rfl
      | _ => simp only [displayTextWithin]
  | succ depth inductionHypothesis =>
      cases value with
      | object handle =>
          rw [displayTextWithin, displayTextWithin]
          simp only [inductionHypothesis]
          rfl
      | _ => simp only [displayTextWithin]

end Machine

namespace Converter

/-- What can be converted has nothing to do with the open host entries. -/
theorem contentFor_entered
    (converter : Converter)
    (machine : Machine)
    (arguments : List Value) :
    converter.contentFor machine.entered arguments =
      converter.contentFor machine arguments := by
  cases converter with
  | text =>
      cases arguments with
      | nil => rfl
      | cons first rest =>
          simp only [contentFor, Machine.displayText,
            Machine.displayTextWithin_entered]
  | _ => rfl

/--
How a call of a constructor ends: it returns what was delivered, or it fails
because the arguments cannot be converted, and then no object has changed.
-/
structure Concludes
    (converter : Converter)
    (before : Machine)
    (receiver : Value)
    (arguments : List Value)
    (returns : Value → Machine → Prop)
    (fails : Fault → Machine → Prop) :
    Prop where
  returned :
    ∀ content,
      converter.contentFor before arguments = .ok content →
        ∃ value after,
          returns value after ∧
            converter.Delivers before receiver arguments content value after
  refused :
    ∀ fault,
      converter.contentFor before arguments = .error fault →
        ∃ after, fails fault after ∧ after.heap = before.heap

end Converter

namespace Act

variable {σ : Type} {host : Host σ} {fuel : Nat} {session : Session σ}
variable {converter : Converter} {function : Value} {callee : Handle}
variable {name : String}

section ConstructorCall

variable
  (isConstructor :
    session.machine.toFunction function =
      .ok (callee, .native ⟨name, .builtin converter.constructor⟩))

include isConstructor

theorem invoke_constructor
    (receiver : Value)
    (arguments : List Value) :
    invoke function receiver arguments (host.calls (fuel + 1)) session =
      Builtin.completed (converter.convert receiver arguments)
        (host.calls fuel) session := by
  change host.startCall function receiver arguments (host.calls fuel)
    session = _
  rw [Host.startCall, bind_ok (ask_ok isConstructor)]
  exact congrFun (congrFun (converter.run_constructor receiver arguments) _) _

variable (wellFormed : session.machine.heap.WellFormed)
variable (room : session.machine.heap.total + 1 < 2 ^ 32)

include wellFormed room

theorem invoke_concludes
    (receiver : Value)
    (arguments : List Value) :
    converter.Concludes session.machine receiver arguments
      (fun value after =>
        invoke function receiver arguments (host.calls (fuel + 1)) session =
          .ok (.complete value) ⟨after, session.host⟩)
      (fun fault after =>
        invoke function receiver arguments (host.calls (fuel + 1)) session =
          .error (.fault fault) ⟨after, session.host⟩) where
  returned := by
    intro content reads
    obtain ⟨value, after, ran, delivers⟩ :=
      Converter.convert_delivers wellFormed room reads receiver
    refine ⟨value, after, ?_, delivers⟩
    rw [invoke_constructor isConstructor]
    exact Builtin.completed_ok ran
  refused := by
    intro fault refused
    refine ⟨session.machine, ?_, rfl⟩
    rw [invoke_constructor isConstructor]
    exact Builtin.completed_error (Converter.convert_refused refused)

/-- A call by the host opens an entry, which is closed again. -/
theorem call_concludes
    (opened :
      Edit.enterHost.run session.machine =
        .ok session.machine.depth session.machine.entered)
    (receiver : Value)
    (arguments : List Value) :
    converter.Concludes session.machine receiver arguments
      (fun value after =>
        call function receiver arguments (host.calls (fuel + 1)) session =
          .ok value ⟨after, session.host⟩)
      (fun fault after =>
        call function receiver arguments (host.calls (fuel + 1)) session =
          .error (.fault fault) ⟨after, session.host⟩) := by
  have inside :=
    @invoke_concludes σ host fuel ⟨session.machine.entered, session.host⟩
      converter function callee name isConstructor wellFormed room receiver
      arguments
  constructor
  · intro content reads
    rw [← converter.contentFor_entered] at reads
    obtain ⟨value, after, ran, delivers⟩ := inside.returned content reads
    have within :
        callWithin function receiver arguments session.machine.depth
            (host.calls (fuel + 1))
            ⟨session.machine.entered, session.host⟩ =
          .ok value ⟨after, session.host⟩ :=
      bind_ok ran _
    refine ⟨value, after.left, ?_, ?_⟩
    · rw [call_eq]
      exact inHostEntry_ok opened within
    · refine ⟨delivers.fills, delivers.converts, ?_⟩
      rw [delivers.aside]
      rfl
  · intro fault refused
    rw [← converter.contentFor_entered] at refused
    obtain ⟨after, ran, same⟩ := inside.refused fault refused
    have within :
        callWithin function receiver arguments session.machine.depth
            (host.calls (fuel + 1))
            ⟨session.machine.entered, session.host⟩ =
          .error (.fault fault) ⟨after, session.host⟩ :=
      bind_error ran _
    refine ⟨after.abandoned session.machine.depth, ?_, same⟩
    rw [call_eq]
    exact inHostEntry_fault opened within

/-- A call from a running frame leaves its result on the operand stack. -/
theorem callFromFrame_concludes
    {frame : Frame}
    {callers : List Frame}
    (running : session.machine.frames = frame :: callers)
    (receiver : Value)
    (arguments : List Value) :
    converter.Concludes session.machine receiver arguments
      (fun value after =>
        callFromFrame function receiver arguments (host.calls (fuel + 1))
            session =
          .ok ()
            ⟨{ after with frames := frame.push value :: callers },
              session.host⟩)
      (fun fault after =>
        callFromFrame function receiver arguments (host.calls (fuel + 1))
            session =
          .error (.fault fault) ⟨after, session.host⟩) := by
  have invoked :=
    @invoke_concludes σ host fuel session converter function callee name
      isConstructor wellFormed room receiver arguments
  constructor
  · intro content reads
    obtain ⟨value, after, ran, delivers⟩ := invoked.returned content reads
    have stillRunning : after.frames = frame :: callers := by
      rw [delivers.aside]
      exact running
    have pushed :
        (Edit.pushOperand value).run after =
          .ok () { after with frames := frame.push value :: callers } := by
      rw [EStateM.run, Edit.pushOperand, Edit.onFrame, stillRunning]
      rfl
    refine ⟨value, after, ?_, delivers⟩
    rw [callFromFrame, bind_ok ran]
    exact lift_ok pushed
  · intro fault refused
    obtain ⟨after, ran, same⟩ := invoked.refused fault refused
    refine ⟨after, ?_, same⟩
    rw [callFromFrame, bind_error ran]

end ConstructorCall

/-- A plain member that can be called is the method of its name. -/
theorem methodOf_plain
    {calls : Calls σ}
    {start : Session σ}
    {target : Value}
    {member : String}
    {handle : Handle}
    (opened :
      (Edit.toObject target).run start.machine =
        .ok handle session.machine)
    (sameHost : start.host = session.host)
    (plain : session.machine.resolve handle member = .ok (.value function))
    (callable : session.machine.isCallable function = true) :
    methodOf target member calls start = .ok function session := by
  have reached :
      (liftM (Edit.toObject target) : Act σ Handle) calls start =
        .ok handle session := by
    rw [lift_ok opened, sameHost]
  have found :
      getValueMember target member calls start = .ok function session := by
    rw [getValueMember, bind_ok reached, getMember, bind_ok (ask_ok plain)]
    rfl
  rw [methodOf, bind_ok found, inspect_bind, callable]
  rfl

end Act

/-- Below the limit a host entry opens. -/
theorem enterHost_open
    {machine : Machine}
    (below :
      machine.barriers.length < machine.configuration.maxHostDepth) :
    Edit.enterHost.run machine = .ok machine.depth machine.entered := by
  rw [Edit.enterHost, EStateM.run_bind, EStateM.run_get]
  dsimp only
  rw [if_pos below]
  rfl

/-- At the limit no host entry opens, and only a message is left. -/
theorem enterHost_shut
    {machine : Machine}
    (full : machine.configuration.maxHostDepth ≤ machine.barriers.length) :
    ∃ log,
      Edit.enterHost.run machine =
        .error (.stackExhaustion machine.configuration.maxHostDepth)
          { machine with log := log } := by
  rw [Edit.enterHost, EStateM.run_bind, EStateM.run_get]
  dsimp only
  rw [if_neg (Nat.not_lt.mpr full)]
  exact ⟨_, rfl⟩

/-- The object form of a value is there already, or it is a new object. -/
theorem Edit.toObject_keeps
    {machine after : Machine}
    {value : Value}
    {handle other : Handle}
    {object : ScriptObject}
    (wellFormed : machine.heap.WellFormed)
    (room : machine.heap.total + 1 < 2 ^ 32)
    (opened : (toObject value).run machine = .ok handle after)
    (live : machine.heap.get? other = some object) :
    after.heap.get? other = some object := by
  cases held : value.handle? with
  | some named =>
      rw [Value.eq_object_of_handle? held] at opened
      cases opened
      exact live
  | none =>
      cases empty : value.isNullish with
      | true =>
          cases value with
          | undefined => cases opened
          | null => cases opened
          | _ => cases empty
      | false =>
          obtain ⟨boxed, -, made⟩ := toObject_primitive machine held empty
          rw [made] at opened
          cases opened
          exact (wellFormed.grown_alloc room boxed).1.keeps other object live

/--
A constructor that is called without making an object fills its receiver in if
it takes it for a new object, and converts its arguments otherwise.  That is so
for a call by the host, for one from a running frame, and for a call as a
method of the receiver; looking a plain method up changes no object either.
-/
theorem Session.constructors_convert
    {σ : Type}
    (host : Host σ)
    (fuel : Nat)
    (session : Session σ)
    {converter : Converter}
    {function : Value}
    {callee : Handle}
    {name : String}
    (isConstructor :
      session.machine.toFunction function =
        .ok (callee, .native ⟨name, .builtin converter.constructor⟩))
    (wellFormed : session.machine.heap.WellFormed)
    (room : session.machine.heap.total + 1 < 2 ^ 32)
    (receiver : Value)
    (arguments : List Value) :
    (session.machine.barriers.length <
        session.machine.configuration.maxHostDepth →
      converter.Concludes session.machine receiver arguments
        (fun value after =>
          Act.call function receiver arguments (host.calls (fuel + 1))
              session =
            .ok value ⟨after, session.host⟩)
        (fun fault after =>
          Act.call function receiver arguments (host.calls (fuel + 1))
              session =
            .error (.fault fault) ⟨after, session.host⟩)) ∧
    (session.machine.configuration.maxHostDepth ≤
        session.machine.barriers.length →
      ∃ after : Machine,
        Act.call function receiver arguments (host.calls (fuel + 1))
            session =
          .error
            (.fault
              (.stackExhaustion session.machine.configuration.maxHostDepth))
            ⟨after, session.host⟩ ∧
          after.heap = session.machine.heap) ∧
    (∀ frame callers,
      session.machine.frames = frame :: callers →
        converter.Concludes session.machine receiver arguments
          (fun value after =>
            Act.callFromFrame function receiver arguments
                (host.calls (fuel + 1)) session =
              .ok ()
                ⟨{ after with frames := frame.push value :: callers },
                  session.host⟩)
          (fun fault after =>
            Act.callFromFrame function receiver arguments
                (host.calls (fuel + 1)) session =
              .error (.fault fault) ⟨after, session.host⟩)) ∧
    (∀ start member,
      Act.methodOf receiver member (host.calls (fuel + 1)) start =
          .ok function session →
        Act.callMethod receiver member arguments (host.calls (fuel + 1))
            start =
          Act.call function receiver arguments (host.calls (fuel + 1))
            session ∧
        Act.callMethodFromFrame receiver member arguments
            (host.calls (fuel + 1)) start =
          Act.callFromFrame function receiver arguments
            (host.calls (fuel + 1)) session) ∧
    (∀ (start : Session σ) member handle,
      start.machine.heap.WellFormed →
        start.machine.heap.total + 1 < 2 ^ 32 →
          (Edit.toObject receiver).run start.machine =
              .ok handle session.machine →
            start.host = session.host →
              session.machine.resolve handle member =
                  .ok (.value function) →
                Act.methodOf receiver member (host.calls (fuel + 1))
                      start =
                    .ok function session ∧
                  ∀ other object,
                    start.machine.heap.get? other = some object →
                      session.machine.heap.get? other = some object) := by
  refine ⟨?_, ?_, ?_, ?_, ?_⟩
  · intro below
    exact Act.call_concludes isConstructor wellFormed room
      (enterHost_open below) receiver arguments
  · intro full
    obtain ⟨log, shut⟩ := enterHost_shut full
    refine ⟨{ session.machine with log := log }, ?_, rfl⟩
    rw [Act.call_eq]
    exact Act.inHostEntry_refused shut _
  · intro frame callers running
    exact Act.callFromFrame_concludes isConstructor wellFormed room running
      receiver arguments
  · intro start member found
    constructor
    · rw [Act.callMethod, Act.bind_ok found]
    · rw [Act.callMethodFromFrame, Act.bind_ok found]
  · intro start member handle sound enough opened sameHost plain
    have callable : session.machine.isCallable function = true :=
      Machine.isCallable_iff.mpr ⟨_, _, isConstructor⟩
    refine ⟨Act.methodOf_plain opened sameHost plain callable, ?_⟩
    intro other object live
    exact Edit.toObject_keeps sound enough opened live

/--
A machine with the class `Number`, an object that inherits from its prototype
but was not made by its constructor, and one that does not inherit at all.
-/
def Machine.numeric : Machine :=
  { Machine.bare .standard 0 with
    heap :=
      Heap.run
        [.alloc .blank,
          .alloc
            (.new none
              (.function
                (.native ⟨"Number", .builtin .numberConstructor⟩))),
          .alloc (.new (some ⟨0, 0⟩) .ordinary),
          .alloc (.new none .ordinary)]
    prototypes := Table.empty.insert "Number" ⟨0, 0⟩ }

/-- The one object is filled in, a call on the other one is a conversion. -/
theorem Session.constructors_convert_numeric :
    (∃ value after,
      Act.call (.object ⟨1, 0⟩) (.object ⟨2, 0⟩) [.integer 5]
            (Host.echoing.calls 1) ⟨Machine.numeric, ()⟩ =
          .ok value ⟨after, ()⟩ ∧
        Converter.FillsIn Machine.numeric.heap after.heap
          (.object ⟨2, 0⟩) (.number (.integer 5)) value) ∧
    ∃ value after,
      Act.call (.object ⟨1, 0⟩) (.object ⟨3, 0⟩) [.integer 5]
            (Host.echoing.calls 1) ⟨Machine.numeric, ()⟩ =
          .ok value ⟨after, ()⟩ ∧
        Converter.Converts Machine.numeric.heap after.heap
          (.object ⟨3, 0⟩) [.integer 5] (.number (.integer 5)) value := by
  have wellFormed : Machine.numeric.heap.WellFormed :=
    Heap.wellFormed_run _ (by decide +kernel)
  have room : Machine.numeric.heap.total + 1 < 2 ^ 32 := by
    decide +kernel
  have called (receiver : Value) :=
    (@Session.constructors_convert Unit Host.echoing 0
      ⟨Machine.numeric, ()⟩ .number (.object ⟨1, 0⟩) _ _ rfl wellFormed room
      receiver [.integer 5]).1 (by decide)
  constructor
  · obtain ⟨value, after, ran, delivers⟩ :=
      (called (.object ⟨2, 0⟩)).returned _ rfl
    refine ⟨value, after, ran, delivers.fills ?_⟩
    refine ⟨⟨⟨2, 0⟩, _, rfl, rfl, rfl, _, rfl, rfl⟩, ?_⟩
    intro same
    cases same
  · obtain ⟨value, after, ran, delivers⟩ :=
      (called (.object ⟨3, 0⟩)).returned _ rfl
    refine ⟨value, after, ran, delivers.converts ?_⟩
    rintro ⟨⟨handle, object, same, live, ordinary, prototype, inherits, -⟩, -⟩
    cases same
    cases live
    cases inherits

/-- A machine whose global object inherits from `Object.prototype`. -/
def Machine.rooted : Machine :=
  { Machine.bare .standard 0 with
    heap :=
      Heap.run
        [.alloc
            ((ScriptObject.new (some ⟨1, 0⟩) .ordinary).withProperty
              "Object" (.hidden (.object ⟨2, 0⟩))),
          .alloc .blank,
          .alloc
            (.new none
              (.function
                (.native ⟨"Object", .builtin .objectConstructor⟩)))]
    prototypes := Table.empty.insert "Object" ⟨1, 0⟩ }

/--
Calling `Object` as a method of the global object answers with the global
object, and calling `Number` on an object can change what that object holds.
-/
theorem Session.constructors_use_receivers_rooted :
    (∃ after,
      Act.callMethod (.object Machine.rooted.global) "Object" []
          (Host.echoing.calls 1) ⟨Machine.rooted, ()⟩ =
        .ok (.object Machine.rooted.global) after) ∧
    ∃ after,
      Act.call (.object ⟨1, 0⟩) (.object ⟨2, 0⟩) [.integer 5]
            (Host.echoing.calls 1) ⟨Machine.numeric, ()⟩ =
          .ok (.object ⟨2, 0⟩) after ∧
        (Machine.numeric.heap.get? ⟨2, 0⟩).map ScriptObject.content =
            some .ordinary ∧
          (after.machine.heap.get? ⟨2, 0⟩).map ScriptObject.content =
            some (.number (.integer 5)) :=
  ⟨⟨_, rfl⟩, _, rfl, rfl, rfl⟩

end MovieScript
