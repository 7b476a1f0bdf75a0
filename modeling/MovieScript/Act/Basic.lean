import MovieScript.Document
import MovieScript.Machine.Member

namespace MovieScript

/-!
# Acts

An act is work on the machine that may run scripts and host code, which may
start further acts.  Such nesting has no bound of its own, so an act does not
call functions itself: it asks the `Calls` it is given, which are good for one
level of nesting less.  Running out of levels is told apart from failing, and
cannot be caught.
-/

/-- The machine together with whatever the host keeps for itself. -/
structure Session (σ : Type) where
  machine : Machine
  host : σ

/-- Why an act ended without a result. -/
inductive Stop where
  | fault (fault : Fault)
  /-- The allowed nesting or number of steps was used up. -/
  | outOfFuel
  deriving Repr, DecidableEq

/-- An act with its calls already provided. -/
abbrev Running (σ : Type) := EStateM Stop (Session σ)

/-- The work that can nest without a bound of its own. -/
structure Calls (σ : Type) where
  /-- Start a call of a function value on a receiver with arguments. -/
  invoke : Value → Value → List Value → Running σ Invocation
  /-- Run frames until at most this many are left. -/
  runAbove : Nat → Running σ Unit
  /--
  The document of a value, given the objects that are being exported and with
  those that are being exported afterwards.
  -/
  exportBelow : List Handle → Value → Running σ (Document × List Handle)

/-- Work on the machine that may run scripts and host code. -/
abbrev Act (σ : Type) := ReaderT (Calls σ) (Running σ)

namespace Act

variable {σ α : Type}

/-- Do plain work on the machine. -/
def edit (work : Edit α) : Act σ α := fun _ session =>
  match session with
  | ⟨machine, host⟩ =>
      match work machine with
      | .ok result changed => .ok result ⟨changed, host⟩
      | .error fault changed => .error (.fault fault) ⟨changed, host⟩

instance : MonadLift Edit (Act σ) :=
  ⟨edit⟩

/-- Give up with a fault. -/
def fail (fault : Fault) : Act σ α :=
  throw (.fault fault)

/-- Ask the machine for something that it may not have. -/
def ask (question : Machine → Except Fault α) : Act σ α :=
  edit (Edit.ask question)

/-- Look at the machine. -/
def inspect (question : Machine → α) : Act σ α :=
  edit (modifyGet fun machine => (question machine, machine))

/-- Run an act and catch its fault; what it changed stays changed. -/
def attempt (act : Act σ α) : Act σ (Except Fault α) :=
  fun calls session =>
    match act calls session with
    | .ok result changed => .ok (.ok result) changed
    | .error (.fault fault) changed => .ok (.error fault) changed
    | .error .outOfFuel changed => .error .outOfFuel changed

/-- Start a call: a native one runs at once, a defined one pushes a frame. -/
def invoke
    (function receiver : Value)
    (arguments : List Value) :
    Act σ Invocation :=
  fun calls => calls.invoke function receiver arguments

/-- Run frames until at most `depth` are left. -/
def runAbove (depth : Nat) : Act σ Unit :=
  fun calls => calls.runAbove depth

end Act

end MovieScript
