import Mathlib.Data.Finset.Card
import MovieScript.Proofs.ElementNames
import MovieScript.Proofs.QuietEdits
import MovieScript.Proofs.RelayedCalls
import MovieScript.Proofs.Tables

namespace MovieScript

/-!
# Generated interval names

The intervals that `setInterval` registers are numbered by a counter that comes
round after 2^32 numbers, and the host may have taken any of the names itself.
Different numbers have different names, so among one number more than there are
intervals there is one whose name is free, unless all names are taken.  The
search finds the first such number, and what is registered under its name comes
behind all other intervals.
-/

/-- The number that the search tries after so many taken ones. -/
def numberAfter (counter : UInt32) (steps : Nat) : UInt32 :=
  counter + 1 + UInt32.ofNat steps

theorem toNat_numberAfter (counter : UInt32) (steps : Nat) :
    (numberAfter counter steps).toNat =
      (counter.toNat + 1 + steps) % 2 ^ 32 := by
  simp only [numberAfter, UInt32.toNat_add, UInt32.toNat_ofNat',
    UInt32.reduceToNat]
  omega

theorem numberAfter_zero (counter : UInt32) :
    numberAfter counter 0 = counter + 1 := by
  apply UInt32.toNat_inj.mp
  rw [toNat_numberAfter]
  simp

theorem numberAfter_succ (counter : UInt32) (steps : Nat) :
    numberAfter counter (steps + 1) = numberAfter (counter + 1) steps := by
  apply UInt32.toNat_inj.mp
  simp only [toNat_numberAfter, UInt32.toNat_add, UInt32.reduceToNat]
  omega

/-- The counter comes round only after all numbers. -/
theorem numberAfter_inj
    {counter : UInt32}
    {first second : Nat}
    (firstSmall : first < 2 ^ 32)
    (secondSmall : second < 2 ^ 32)
    (same : numberAfter counter first = numberAfter counter second) :
    first = second := by
  have sums := congrArg UInt32.toNat same
  simp only [toNat_numberAfter] at sums
  omega

/-- The counter comes to every number. -/
theorem exists_numberAfter (counter number : UInt32) :
    ∃ steps < 2 ^ 32, numberAfter counter steps = number := by
  have counterSmall := counter.toNat_lt
  have numberSmall := number.toNat_lt
  refine ⟨(number.toNat + 2 ^ 32 - 1 - counter.toNat) % 2 ^ 32,
    Nat.mod_lt _ (by decide), ?_⟩
  apply UInt32.toNat_inj.mp
  rw [toNat_numberAfter]
  omega

namespace Edit

/-- Different numbers have different names. -/
theorem intervalName_injective : Function.Injective intervalName := by
  intro first second same
  have digits : elementName first.toNat = elementName second.toNat := by
    have characters := congrArg String.toList same
    simp only [intervalName, String.toList_append,
      List.append_cancel_left_eq, String.toList_inj] at characters
    exact characters
  have index (number : UInt32) :
      elementIndex? (elementName number.toNat) = some number.toNat :=
    elementIndex?_eq_some_iff.mpr
      ⟨rfl, Nat.lt_trans number.toNat_lt (by decide)⟩
  have indices := index first
  rw [digits, index second] at indices
  exact UInt32.toNat_inj.mp (Option.some.inj indices).symm

/--
The search stops at a free name or with the last number it may try; all
numbers before have taken names.  The induction is on the tries that are left.
-/
theorem freeIntervalNumber_spec
    (taken : String → Bool)
    (tries : Nat)
    (counter : UInt32) :
    ∃ steps ≤ tries,
      freeIntervalNumber taken tries counter = numberAfter counter steps ∧
        (∀ earlier < steps,
          taken (intervalName (numberAfter counter earlier)) = true) ∧
        (steps < tries →
          taken (intervalName (numberAfter counter steps)) = false) := by
  induction tries generalizing counter with
  | zero =>
      refine ⟨0, Nat.le_refl 0, ?_, by simp, by simp⟩
      rw [freeIntervalNumber, numberAfter_zero]
  | succ tries inductionHypothesis =>
      cases here : taken (intervalName (counter + 1)) with
      | false =>
          refine ⟨0, Nat.zero_le _, ?_, by simp, fun _ => ?_⟩
          · simp [freeIntervalNumber, here, numberAfter_zero]
          · rw [numberAfter_zero, here]
      | true =>
          obtain ⟨steps, within, found, before, stopped⟩ :=
            inductionHypothesis (counter + 1)
          refine ⟨steps + 1, Nat.succ_le_succ within, ?_, ?_, ?_⟩
          · simp [freeIntervalNumber, here, found, numberAfter_succ]
          · intro earlier less
            cases earlier with
            | zero => rw [numberAfter_zero, here]
            | succ earlier =>
                rw [numberAfter_succ]
                exact before earlier (Nat.lt_of_succ_lt_succ less)
          · intro less
            rw [numberAfter_succ]
            exact stopped (Nat.lt_of_succ_lt_succ less)

end Edit

namespace Table

variable {α : Type}

/--
Among one number more than a table has entries one has a free name, unless the
table has all the names.
-/
theorem exists_free_intervalName
    (table : Table String α)
    (counter : UInt32)
    (free : ∃ number, table.contains (Edit.intervalName number) = false) :
    ∃ steps ≤ table.size,
      table.contains
        (Edit.intervalName (numberAfter counter steps)) = false := by
  by_cases crowded : 2 ^ 32 ≤ table.size
  · obtain ⟨number, isFree⟩ := free
    obtain ⟨steps, small, rfl⟩ := exists_numberAfter counter number
    exact ⟨steps, Nat.le_trans (Nat.le_of_lt small) crowded, isFree⟩
  · let candidates : Finset String :=
      (Finset.range (table.size + 1)).image fun steps =>
        Edit.intervalName (numberAfter counter steps)
    have different : candidates.card = table.size + 1 := by
      rw [Finset.card_image_of_injOn, Finset.card_range]
      intro first firstMember second secondMember same
      simp only [Finset.coe_range, Set.mem_Iio] at firstMember secondMember
      exact numberAfter_inj (by omega) (by omega)
        (Edit.intervalName_injective same)
    have fewer : table.keys.toFinset.card < candidates.card := by
      have bound := List.toFinset_card_le table.keys
      rw [keys, List.length_map] at bound
      rw [different]
      exact Nat.lt_succ_of_le bound
    obtain ⟨name, candidate, absent⟩ :=
      Finset.exists_mem_notMem_of_card_lt_card fewer
    obtain ⟨steps, within, rfl⟩ := Finset.mem_image.mp candidate
    refine ⟨steps, Nat.le_of_lt_succ (Finset.mem_range.mp within), ?_⟩
    rw [List.mem_toFinset, mem_keys_iff] at absent
    exact Bool.eq_false_iff.mpr absent

end Table

namespace Machine

/-- The number is the first one after the counter whose name is free. -/
structure NextFree (machine : Machine) (number : UInt32) : Prop where
  free :
    machine.intervals.contains (Edit.intervalName number) = false
  first :
    ∃ steps ≤ machine.intervals.size,
      number = numberAfter machine.intervalCounter steps ∧
        ∀ earlier < steps,
          machine.intervals.contains
            (Edit.intervalName
              (numberAfter machine.intervalCounter earlier)) = true

theorem NextFree.unique
    {machine : Machine}
    {number other : UInt32}
    (first : machine.NextFree number)
    (second : machine.NextFree other) :
    number = other := by
  obtain ⟨free, steps, -, rfl, before⟩ := first
  obtain ⟨otherFree, otherSteps, -, rfl, otherBefore⟩ := second
  rcases Nat.lt_trichotomy steps otherSteps with less | same | more
  · rw [otherBefore steps less] at free
    cases free
  · rw [same]
  · rw [before otherSteps more] at otherFree
    cases otherFree

/--
What `setInterval` is asked to register: a function with a period, or a method
of an object with a period.
-/
inductive AsksFor
    (machine : Machine)
    (receiver : Value) :
    List Value → Interval → Prop where
  | function
      {target period : Value}
      {extra : List Value}
      {callback : Handle}
      {callable : Callable} :
      machine.toFunction target = .ok (callback, callable) →
        AsksFor machine receiver (target :: period :: extra)
          { period := period.toInteger.toInt.toNat
            callback := callback
            receiver :=
              if receiver.isNullish then machine.receiver else receiver
            arguments := extra
            lastFire := machine.clock }
  | method
      {handle : Handle}
      {label period method : Value}
      {name : String}
      {extra : List Value}
      {callback : Handle}
      {callable : Callable} :
      machine.isCallable (.object handle) = false →
      machine.displayText label = .ok name →
      machine.heldMember? handle name = some method →
      machine.toFunction method = .ok (callback, callable) →
        AsksFor machine receiver (.object handle :: label :: period :: extra)
          { period := period.toInteger.toInt.toNat
            callback := callback
            receiver := .object handle
            arguments := extra
            lastFire := machine.clock }

/-- No getter has to run to find the method of an object that is no function. -/
def ReadsNoGetter (machine : Machine) (arguments : List Value) : Prop :=
  ∀ handle name getter setter,
    argument arguments 0 = .object handle →
      machine.isCallable (.object handle) = false →
        machine.displayText (argument arguments 1) = .ok name →
          machine.resolve handle name ≠
            .ok (.accessor (some getter) setter)

/-- The machine after an interval was registered under a generated name. -/
def numbered
    (machine : Machine)
    (number : UInt32)
    (interval : Interval) :
    Machine :=
  { machine with
    intervals :=
      machine.intervals.insert (Edit.intervalName number) interval
    intervalCounter := number }

theorem isCallable_iff
    {machine : Machine}
    {value : Value} :
    machine.isCallable value = true ↔
      ∃ handle callable,
        machine.toFunction value = .ok (handle, callable) := by
  simp only [toFunction_eq_ok_iff]
  cases value with
  | object named =>
      simp only [isCallable, Option.isSome_iff_exists,
        Option.bind_eq_some_iff, ScriptObject.callable?]
      constructor
      · rintro ⟨callable, object, live, isFunction⟩
        refine ⟨named, callable, rfl, object, live, ?_⟩
        split at isFunction
        · cases isFunction
          assumption
        · cases isFunction
      · rintro ⟨handle, callable, same, object, live, isFunction⟩
        cases same
        exact ⟨callable, object, live, by rw [isFunction]⟩
  | _ => simp [isCallable]

/-- For an object that is no function only the form with a method is left. -/
theorem AsksFor.of_method
    {machine : Machine}
    {receiver : Value}
    {arguments : List Value}
    {interval : Interval}
    {handle : Handle}
    (asks : machine.AsksFor receiver arguments interval)
    (isObject : argument arguments 0 = .object handle)
    (notCallable : machine.isCallable (.object handle) = false) :
    ∃ label period extra name method,
      arguments = .object handle :: label :: period :: extra ∧
        machine.displayText label = .ok name ∧
        machine.heldMember? handle name = some method ∧
        machine.isCallable method = true := by
  cases asks with
  | function found =>
      cases isObject
      rw [isCallable_iff.mpr ⟨_, _, found⟩] at notCallable
      cases notCallable
  | method _ shown held found =>
      cases isObject
      exact ⟨_, _, _, _, _, rfl, shown, held,
        isCallable_iff.mpr ⟨_, _, found⟩⟩

end Machine

/-- Unless all names are taken, the next name is the first free one. -/
theorem Edit.nextIntervalName_run
    (machine : Machine)
    (free :
      ∃ number,
        machine.intervals.contains (intervalName number) = false) :
    ∃ number,
      machine.NextFree number ∧
        nextIntervalName.run machine =
          .ok (intervalName number)
            { machine with intervalCounter := number } := by
  obtain ⟨steps, within, found, before, stopped⟩ :=
    freeIntervalNumber_spec machine.intervals.contains
      machine.intervals.size machine.intervalCounter
  refine ⟨numberAfter machine.intervalCounter steps, ⟨?_, ?_⟩, ?_⟩
  · -- The search has not used up its tries, or only the last number is left.
    rcases Nat.lt_or_eq_of_le within with less | last
    · exact stopped less
    · obtain ⟨other, otherWithin, isFree⟩ :=
        machine.intervals.exists_free_intervalName
          machine.intervalCounter free
      have notBefore : ¬other < steps := by
        intro less
        rw [before other less] at isFree
        cases isFree
      obtain rfl : other = steps := by omega
      exact isFree
  · exact ⟨steps, within, rfl, before⟩
  · rw [← found]
    rfl

/-- A member that nothing holds cannot be read if no getter is to run. -/
theorem Act.getMember_refused
    {σ : Type}
    {calls : Calls σ}
    {session : Session σ}
    {handle : Handle}
    {name : String}
    (held : session.machine.heldMember? handle name = none)
    (plain : ∀ getter setter,
      session.machine.resolve handle name ≠
        .ok (.accessor (some getter) setter)) :
    ∃ fault,
      (getMember handle name : Act σ Value) calls session =
        .error (.fault fault) session := by
  unfold Machine.heldMember? at held
  unfold getMember
  cases resolved : session.machine.resolve handle name with
  | error fault => exact ⟨fault, bind_error (ask_refused resolved) _⟩
  | ok resolution =>
      rw [bind_ok (ask_ok resolved)]
      cases resolution with
      | value value => simp [resolved] at held
      | missing => simp [resolved] at held
      | accessor getter setter =>
          cases getter with
          | none => exact ⟨_, rfl⟩
          | some getter => exact absurd resolved (plain getter setter)

namespace GlobalFunction

variable {σ : Type} {calls : Calls σ} {session : Session σ}
variable {receiver : Value} {arguments : List Value}

theorem intervalTarget_function
    (callable :
      session.machine.isCallable (argument arguments 0) = true) :
    intervalTarget receiver arguments calls session =
      .ok
        (argument arguments 0,
          if receiver.isNullish then session.machine.receiver else receiver,
          arguments.drop 1)
        session := by
  unfold intervalTarget
  rw [Act.inspect_bind, if_pos callable, intervalReceiver]
  split
  · rfl
  · rfl

theorem intervalTarget_primitive
    (primitive : ∀ handle, argument arguments 0 ≠ .object handle) :
    intervalTarget receiver arguments calls session =
      .error (.fault .intervalNeedsFunction) session := by
  unfold intervalTarget
  rw [Act.inspect_bind]
  cases target : argument arguments 0 with
  | object handle => exact absurd target (primitive handle)
  | _ => rfl

/-- The method is found, or the search for it ends in a fault. -/
theorem intervalMethod_outcome
    {handle : Handle}
    {label : Value}
    (plain : ∀ name getter setter,
      session.machine.displayText label = .ok name →
        session.machine.resolve handle name ≠
          .ok (.accessor (some getter) setter)) :
    (∃ name method,
      session.machine.displayText label = .ok name ∧
        session.machine.heldMember? handle name = some method ∧
        session.machine.isCallable method = true ∧
        intervalMethod handle label calls session = .ok method session) ∨
      (∀ name method,
        session.machine.displayText label = .ok name →
          session.machine.heldMember? handle name = some method →
            session.machine.isCallable method = false) ∧
        ∃ fault,
          intervalMethod handle label calls session =
            .error (.fault fault) session := by
  unfold intervalMethod
  cases shown : session.machine.displayText label with
  | error fault =>
      refine .inr ⟨by simp, fault, ?_⟩
      exact Act.bind_error (Act.ask_refused shown) _
  | ok name =>
      have named :
          (liftM (Edit.displayText label) : Act σ String) calls session =
            .ok name session :=
        Act.ask_ok shown
      rw [Act.bind_ok named]
      cases held : session.machine.heldMember? handle name with
      | none =>
          obtain ⟨fault, refused⟩ :=
            Act.getMember_refused held fun getter setter =>
              plain name getter setter shown
          refine .inr ⟨?_, fault, Act.bind_error refused _⟩
          rintro other method ⟨⟩ found
          rw [held] at found
          cases found
      | some method =>
          rw [Act.bind_ok (Act.getMember_held held), Act.inspect_bind]
          cases callable : session.machine.isCallable method with
          | true => exact .inl ⟨name, method, rfl, held, callable, rfl⟩
          | false =>
              refine .inr ⟨?_, _, rfl⟩
              rintro other found ⟨⟩ sameMember
              rw [held] at sameMember
              cases sameMember
              exact callable

/-- What was found is registered under the first free name. -/
theorem setInterval_registers
    (free :
      ∃ number,
        session.machine.intervals.contains
          (Edit.intervalName number) = false)
    {function callbackReceiver period : Value}
    {extra : List Value}
    {callback : Handle}
    {callable : Callable}
    (target :
      intervalTarget receiver arguments calls session =
        .ok (function, callbackReceiver, period :: extra) session)
    (found :
      session.machine.toFunction function = .ok (callback, callable)) :
    ∃ number,
      session.machine.NextFree number ∧
        setInterval receiver arguments calls session =
          .ok (.text (Edit.intervalName number))
            ⟨session.machine.numbered number
                ⟨period.toInteger.toInt.toNat, callback, callbackReceiver,
                  extra, session.machine.clock⟩,
              session.host⟩ := by
  obtain ⟨number, next, named⟩ :=
    Edit.nextIntervalName_run session.machine free
  refine ⟨number, next, ?_⟩
  unfold setInterval
  rw [Act.bind_ok target]
  refine (Act.bind_ok (Act.lift_ok named) _).trans ?_
  have stillFound :
      { session.machine with intervalCounter := number }.toFunction
          function = .ok (callback, callable) :=
    found
  have registered :=
    Edit.createInterval_registers stillFound (Edit.intervalName number)
      period.toInteger.toInt.toNat callbackReceiver extra
  exact Act.bind_ok (Act.lift_ok registered) _

theorem setInterval_arity
    {function callbackReceiver : Value}
    (target :
      intervalTarget receiver arguments calls session =
        .ok (function, callbackReceiver, []) session) :
    setInterval receiver arguments calls session =
      .error (.fault (.arity "setInterval" arguments.length)) session := by
  unfold setInterval
  rw [Act.bind_ok target]
  rfl

/--
What was asked for is registered under the first free name, or nothing that can
be registered was asked for and nothing has changed.
-/
def RegistersAsked
    (receiver : Value)
    (arguments : List Value)
    (session : Session σ)
    (outcome : EStateM.Result Stop (Session σ) Value) :
    Prop :=
  (∃ interval number,
    session.machine.AsksFor receiver arguments interval ∧
      session.machine.NextFree number ∧
      outcome =
        .ok (.text (Edit.intervalName number))
          ⟨session.machine.numbered number interval, session.host⟩) ∨
    (∀ interval, ¬session.machine.AsksFor receiver arguments interval) ∧
      ∃ fault, outcome = .error (.fault fault) session

theorem setInterval_function
    (free :
      ∃ number,
        session.machine.intervals.contains
          (Edit.intervalName number) = false)
    (callable :
      session.machine.isCallable (argument arguments 0) = true) :
    RegistersAsked receiver arguments session
      (setInterval receiver arguments calls session) := by
  have target :=
    @intervalTarget_function σ calls session receiver arguments callable
  obtain ⟨callback, function, found⟩ := Machine.isCallable_iff.mp callable
  rcases arguments with _ | ⟨first, _ | ⟨period, extra⟩⟩
  · cases callable
  · exact .inr ⟨nofun, _, setInterval_arity target⟩
  · obtain ⟨number, next, registered⟩ :=
      setInterval_registers free target found
    exact .inl ⟨_, number, .function found, next, registered⟩

theorem setInterval_method
    (free :
      ∃ number,
        session.machine.intervals.contains
          (Edit.intervalName number) = false)
    (plain : session.machine.ReadsNoGetter arguments)
    {handle : Handle}
    (isObject : argument arguments 0 = .object handle)
    (notCallable : session.machine.isCallable (.object handle) = false) :
    RegistersAsked receiver arguments session
      (setInterval receiver arguments calls session) := by
  have target :
      intervalTarget receiver arguments calls session =
        (intervalMethod handle (argument arguments 1) >>= fun method =>
          pure (method, .object handle, arguments.drop 2)) calls session := by
    unfold intervalTarget
    rw [isObject, Act.inspect_bind, if_neg (by simp [notCallable])]
  rcases @intervalMethod_outcome σ calls session handle
      (argument arguments 1) fun name getter setter =>
        plain handle name getter setter isObject notCallable with
    ⟨name, method, shown, held, callable, ran⟩ | ⟨missing, fault, ran⟩
  · rw [Act.bind_ok ran] at target
    cases rest : arguments.drop 2 with
    | nil =>
        rw [rest] at target
        refine .inr ⟨?_, _, setInterval_arity target⟩
        intro interval asks
        obtain ⟨label, period, extra, _, _, rfl, -⟩ :=
          asks.of_method isObject notCallable
        cases rest
    | cons period extra =>
        obtain ⟨first, label, rfl⟩ :
            ∃ first label, arguments = first :: label :: period :: extra := by
          rcases arguments with _ | ⟨first, _ | ⟨label, others⟩⟩
          · cases rest
          · cases rest
          · exact ⟨first, label, by rw [← rest]; rfl⟩
        cases isObject
        obtain ⟨callback, function, found⟩ :=
          Machine.isCallable_iff.mp callable
        obtain ⟨number, next, registered⟩ :=
          setInterval_registers free target found
        exact .inl ⟨_, number, .method notCallable shown held found, next,
          registered⟩
  · rw [Act.bind_error ran] at target
    refine .inr ⟨?_, fault, Act.bind_error target _⟩
    intro interval asks
    obtain ⟨label, period, extra, name, method, rfl, shown, held, callable⟩ :=
      asks.of_method isObject notCallable
    rw [missing name method shown held] at callable
    cases callable

theorem setInterval_primitive
    (primitive : ∀ handle, argument arguments 0 ≠ .object handle) :
    RegistersAsked receiver arguments session
      (setInterval receiver arguments calls session) := by
  refine .inr ⟨?_, _, Act.bind_error (intervalTarget_primitive primitive) _⟩
  intro interval asks
  cases asks with
  | function found =>
      exact primitive _ (Machine.toFunction_eq_ok_iff.mp found).1
  | method => exact primitive _ rfl

theorem setInterval_outcome
    (free :
      ∃ number,
        session.machine.intervals.contains
          (Edit.intervalName number) = false)
    (plain : session.machine.ReadsNoGetter arguments) :
    RegistersAsked receiver arguments session
      (setInterval receiver arguments calls session) := by
  cases callable : session.machine.isCallable (argument arguments 0) with
  | true => exact setInterval_function free callable
  | false =>
      cases target : argument arguments 0 with
      | object handle =>
          rw [target] at callable
          exact setInterval_method free plain target callable
      | _ => exact setInterval_primitive (by simp [target])

/--
The name that is generated next is the first free one, whatever names are taken
and wherever the counter stands.  What `setInterval` is asked for, as a function
or as a method of an object, is registered under that name behind all other
intervals, which stay as they are.  If nothing that can be registered is asked
for, `setInterval` fails and changes nothing.
-/
theorem setInterval_appends
    (session : Session σ)
    (calls : Calls σ)
    (receiver : Value)
    (arguments : List Value)
    (free :
      ∃ number,
        session.machine.intervals.contains
          (Edit.intervalName number) = false) :
    (∃ number,
      session.machine.NextFree number ∧
        Edit.nextIntervalName.run session.machine =
          .ok (Edit.intervalName number)
            { session.machine with intervalCounter := number }) ∧
      (session.machine.ReadsNoGetter arguments →
        (∃ interval number,
          session.machine.AsksFor receiver arguments interval ∧
            session.machine.NextFree number ∧
            Builtin.setInterval.run receiver arguments calls session =
              .ok (.complete (.text (Edit.intervalName number)))
                ⟨session.machine.numbered number interval, session.host⟩ ∧
            (session.machine.numbered number interval).intervals.entries =
              session.machine.intervals.entries ++
                [(Edit.intervalName number, interval)]) ∨
          (∀ interval,
            ¬session.machine.AsksFor receiver arguments interval) ∧
            ∃ fault,
              Builtin.setInterval.run receiver arguments calls session =
                .error (.fault fault) session) := by
  refine ⟨Edit.nextIntervalName_run session.machine free, fun plain => ?_⟩
  rcases @setInterval_outcome σ calls session receiver arguments free
      plain with
    ⟨interval, number, asks, next, ran⟩ | ⟨nothing, fault, ran⟩
  · refine .inl ⟨interval, number, asks, next, Act.bind_ok ran _, ?_⟩
    apply Table.entries_insert_of_absent
    simpa [Table.contains] using next.free
  · exact .inr ⟨nothing, fault, Act.bind_error ran _⟩

/-- An interval that calls the function of `wrapping`. -/
def idleInterval : Interval :=
  ⟨10, ⟨2, 0⟩, .undefined, [], 0⟩

/--
A machine with a function and an object that has it as a method.  The counter is
about to come round, and the next two names are taken.
-/
def wrapping : Machine :=
  { Machine.bare .standard 0 with
    heap :=
      Heap.run
        [.alloc .blank, .alloc .blank,
          .alloc (.new none (.function (.native ⟨"f", .host 0⟩))),
          .alloc
            ((ScriptObject.new none .ordinary).withProperty "f"
              (.data (.object ⟨2, 0⟩) true true true))]
    intervals :=
      ((Table.empty.insert "__interval0" idleInterval).insert "own"
        idleInterval).insert "__interval4294967295" idleInterval
    intervalCounter := 4294967294 }

/-- The call `setInterval(object, "f", 20)` goes past both taken names. -/
theorem setInterval_appends_wrapping :
    wrapping.intervals.contains (Edit.intervalName 1) = false ∧
      wrapping.ReadsNoGetter [.object ⟨3, 0⟩, .text "f", .integer 20] ∧
      Builtin.setInterval.run .undefined
          [.object ⟨3, 0⟩, .text "f", .integer 20]
          (Host.passive.calls 0) ⟨wrapping, ()⟩ =
        .ok (.complete (.text "__interval1"))
          ⟨wrapping.numbered 1 ⟨20, ⟨2, 0⟩, .object ⟨3, 0⟩, [], 0⟩, ()⟩ := by
  have free : wrapping.intervals.contains (Edit.intervalName 1) = false := by
    decide +kernel
  have plain :
      wrapping.ReadsNoGetter [.object ⟨3, 0⟩, .text "f", .integer 20] := by
    rintro handle name getter setter ⟨⟩ - ⟨⟩ resolved
    cases resolved
  refine ⟨free, plain, ?_⟩
  rcases (setInterval_appends ⟨wrapping, ()⟩ (Host.passive.calls 0)
      .undefined [.object ⟨3, 0⟩, .text "f", .integer 20] ⟨1, free⟩).2
      plain with
    ⟨interval, number, asks, next, ran, -⟩ | ⟨nothing, -⟩
  · obtain rfl : interval = ⟨20, ⟨2, 0⟩, .object ⟨3, 0⟩, [], 0⟩ := by
      cases asks with
      | function found => cases found
      | method _ shown held found =>
          cases shown
          cases held
          cases found
          rfl
    have first : wrapping.NextFree 1 :=
      ⟨free, 2, by decide +kernel, by decide +kernel, by decide +kernel⟩
    obtain rfl := next.unique first
    exact ran
  · exact absurd (.method rfl rfl rfl rfl) (nothing _)

end GlobalFunction

end MovieScript
