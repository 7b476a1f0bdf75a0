import MovieScript.Host.Program

namespace MovieScript

/-!
# Running with a host

The host provides the functions it implements and, if it runs movie code, the
program for one instruction.  Given an amount of fuel these settle what a call
does: every level of nesting and every instruction takes one unit from what is
left, and more fuel never changes a result that was reached.
-/

/-- What the host brings along. -/
structure Host (σ : Type) : Type 1 where
  /-- The functions the host implements, by number. -/
  native : Nat → Value → List Value → Program σ Invocation
  /-- How one instruction of the top frame is run. -/
  dispatcher : Option (Program σ Unit)

namespace Host

variable {σ : Type}

/-- Start a call: a native function runs, a defined one gets a frame. -/
def startCall
    (host : Host σ)
    (function receiver : Value)
    (arguments : List Value) :
    Act σ Invocation := do
  let (callee, callable) ← Act.ask (·.toFunction function)
  match callable with
  | .native ⟨_, .builtin builtin⟩ => builtin.run receiver arguments
  | .native ⟨_, .host number⟩ =>
      (host.native number receiver arguments).run
  | .defined closure => do
      let frame ← Act.buildFrame closure callee receiver arguments
      Edit.pushFrame frame
      return .pending

/-- Run instructions until at most `depth` frames are left. -/
def runInstructions
    (instruction : Running σ Unit)
    (depth : Nat) :
    Nat → Running σ Unit
  | 0 => throw .outOfFuel
  | fuel + 1 => do
      if (← get).machine.depth ≤ depth then
        return ()
      else
        instruction
        runInstructions instruction depth fuel

/-- Run frames until at most `depth` are left, if it is known how to. -/
def runFrames
    (instruction? : Option (Running σ Unit))
    (depth fuel : Nat) :
    Running σ Unit := do
  if (← get).machine.depth ≤ depth then
    return ()
  else
    match instruction? with
    | none => throw (.fault .noDispatcher)
    | some instruction => runInstructions instruction depth fuel

/-- What calls do when `fuel` levels of nesting are left. -/
def calls (host : Host σ) : Nat → Calls σ
  | 0 =>
      { invoke := fun _ _ _ => throw .outOfFuel
        runAbove := fun _ => throw .outOfFuel
        exportBelow := fun _ _ => throw .outOfFuel }
  | fuel + 1 =>
      { invoke := fun function receiver arguments =>
          host.startCall function receiver arguments (host.calls fuel)
        runAbove := fun depth =>
          runFrames
            (host.dispatcher.map fun instruction =>
              instruction.run (host.calls fuel))
            depth fuel
        exportBelow := fun visiting value =>
          Act.exportLevel visiting value (host.calls fuel) }

/-- Run a program of the host in a session. -/
def perform
    {α : Type}
    (host : Host σ)
    (fuel : Nat)
    (program : Program σ α) :
    Running σ α :=
  program.run (host.calls fuel)

end Host

end MovieScript
