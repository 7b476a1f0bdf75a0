import MovieScript.Host.Request

namespace MovieScript

/-!
# Host programs

A function that the host implements, and its instruction set, are programs: a
program ends, makes a request and goes on with the answer, or works on what
the host keeps for itself.  Programs are finite data, so what all host code
has in common can be shown by induction on programs.
-/

/-- A program of the host, which keeps a state of type `σ`. -/
inductive Program (σ : Type) (α : Type) : Type 1 where
  /-- The program is over. -/
  | finish (outcome : Except Fault α)
  /-- Make a request; a fault of the machine is handed to the program. -/
  | request {β : Type} (wanted : Request β)
      (next : Except Fault β → Program σ α)
  /-- Work on the host's own state. -/
  | own {β : Type} (work : σ → β × σ) (next : β → Program σ α)

namespace Program

variable {σ α β : Type}

/-- Go on with another program unless the first one fails. -/
def andThen
    (program : Program σ α)
    (next : α → Program σ β) :
    Program σ β :=
  match program with
  | .finish (.ok result) => next result
  | .finish (.error fault) => .finish (.error fault)
  | .request wanted rest =>
      .request wanted fun answer => (rest answer).andThen next
  | .own work rest => .own work fun answer => (rest answer).andThen next

instance : Monad (Program σ) where
  pure result := .finish (.ok result)
  bind := andThen

instance : Inhabited (Program σ α) :=
  ⟨.finish (.error (.internal "empty program"))⟩

/-- Give up with a fault. -/
def fail (fault : Fault) : Program σ α :=
  .finish (.error fault)

/-- Make a request and fail if it fails. -/
def perform (wanted : Request α) : Program σ α :=
  .request wanted .finish

/-- Look at the machine. -/
def inspect (question : Machine → α) : Program σ α :=
  perform (.inspect question)

/-- Ask the machine for something that it may not have. -/
def ask (question : Machine → Except Fault α) : Program σ α := do
  match ← inspect question with
  | .ok answer => return answer
  | .error fault => fail fault

/-- Work on the host's own state. -/
def withHost (work : σ → α × σ) : Program σ α :=
  .own work fun result => .finish (.ok result)

/-- Catch the fault of a program. -/
def attempt (program : Program σ α) : Program σ (Except Fault α) :=
  match program with
  | .finish outcome => .finish (.ok outcome)
  | .request wanted rest =>
      .request wanted fun answer => (rest answer).attempt
  | .own work rest => .own work fun answer => (rest answer).attempt

/-- Run a program on the machine. -/
def run : Program σ α → Act σ α
  | .finish (.ok result) => return result
  | .finish (.error fault) => Act.fail fault
  | .request wanted rest => do
      let answer ← Act.attempt wanted.perform
      (rest answer).run
  | .own work rest => fun calls session =>
      match session with
      | ⟨machine, host⟩ =>
          let (answer, changed) := work host
          (rest answer).run calls ⟨machine, changed⟩

end Program

end MovieScript
