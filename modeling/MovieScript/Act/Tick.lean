import MovieScript.Act.Call

namespace MovieScript

/-!
# Ticks

The host makes the machine tick.  Each tick fires the intervals that are due,
in the order of registration and each at most once; a callback that fails is
reported and does not stop the others.
-/

namespace Edit

/--
Register a function to be called every `period` milliseconds.  A name that is
taken keeps its place in the firing order.
-/
def createInterval
    (name : String)
    (period : Nat)
    (callback receiver : Value)
    (arguments : List Value) :
    Edit Unit := do
  let (handle, _) ← ask (·.toFunction callback)
  modify fun machine =>
    { machine with
      intervals :=
        machine.intervals.insert name
          { period := period
            callback := handle
            receiver := receiver
            arguments := arguments
            lastFire := machine.clock } }

/-- Remove an interval; `false` if there is none of that name. -/
def clearInterval (name : String) : Edit Bool :=
  modifyGet fun machine =>
    (machine.intervals.contains name,
      { machine with intervals := machine.intervals.erase name })

/-- The generated interval name with a number. -/
def intervalName (number : UInt32) : String :=
  "__interval" ++ toString number.toNat

/--
The first number after `counter` whose interval name is not taken.  One more
try than there are intervals finds one, as long as numbers do not run out.
-/
def freeIntervalNumber
    (taken : String → Bool) :
    Nat → UInt32 → UInt32
  | 0, counter => counter + 1
  | tries + 1, counter =>
      if taken (intervalName (counter + 1)) then
        freeIntervalNumber taken tries (counter + 1)
      else
        counter + 1

/-- Generate an interval name that is not taken. -/
def nextIntervalName : Edit String :=
  modifyGet fun machine =>
    let number :=
      freeIntervalNumber machine.intervals.contains
        machine.intervals.size machine.intervalCounter
    (intervalName number, { machine with intervalCounter := number })

/-- An interval that is registered and due is marked as fired at `now`. -/
def beginFiring
    (name : String)
    (now : Nat) :
    Edit (Option Interval) := do
  let machine ← get
  match machine.intervals.get? name with
  | none => return none
  | some interval =>
      if interval.isDue now then
        set
          { machine with
            intervals :=
              machine.intervals.insert name
                { interval with lastFire := now } }
        return some interval
      else
        return none

end Edit

namespace Act

variable {σ : Type}

/-- Call the function of an interval. -/
def callInterval (interval : Interval) : Act σ Value :=
  call (.object interval.callback) interval.receiver interval.arguments

/-- Run the callback of an interval; a failure is reported. -/
def fire
    (name : String)
    (callback : Act σ Value) :
    Act σ Unit := do
  match ← attempt callback with
  | .ok _ => return ()
  | .error fault =>
      Edit.report .warn
        ("interval '" ++ name ++ "' failed: " ++ fault.message)

/-- Fire an interval if its turn finds it due, and say whether it was fired. -/
def fireIfDue
    (now : Nat)
    (name : String) :
    Act σ Bool := do
  match ← (Edit.beginFiring name now : Edit (Option Interval)) with
  | none => return false
  | some interval => do
      fire name (callInterval interval)
      return true

/-- Give each of some names its turn and count those that fired. -/
def fireAll (now : Nat) : List String → Act σ Nat
  | [] => return 0
  | name :: rest => do
      let fired ← fireIfDue now name
      let others ← fireAll now rest
      return (if fired then 1 else 0) + others

/--
Fire every due interval once and collect garbage if it is time.  Only the
intervals registered when the tick starts are considered.
-/
def tick : Act σ Nat := do
  if ← inspect (·.frames.isEmpty) then
    let now ← inspect (·.clock)
    let names ← inspect (·.intervals.keys)
    let fired ← fireAll now names
    Edit.collectIfDue
    return fired
  else
    fail .tickWhileRunning

end Act

end MovieScript
