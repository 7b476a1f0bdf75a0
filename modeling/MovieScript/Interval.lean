import MovieScript.Value

namespace MovieScript

/-!
# Intervals

A function that the machine calls again and again, at most once per tick and
at least one period apart.
-/

/-- The latest time the host's clock can show, in milliseconds. -/
def clockLimit : Nat :=
  Nat.pow 2 64 - 1

/-- One registered interval. -/
structure Interval where
  period : Nat
  callback : Handle
  receiver : Value
  arguments : List Value
  /-- The time of the last firing, or of the registration before the first. -/
  lastFire : Nat

namespace Interval

/-- The interval is due; a clock that went back counts as not having moved. -/
def isDue
    (interval : Interval)
    (now : Nat) :
    Bool :=
  interval.period ≤ now - interval.lastFire

/-- Every handle the interval holds. -/
def references (interval : Interval) : List Handle :=
  interval.callback ::
    (interval.receiver :: interval.arguments).flatMap Value.references

end Interval

end MovieScript
