import MovieScript.Proofs.HostRuns
import MovieScript.Proofs.IssuedHandles
import MovieScript.Proofs.QuietEdits

namespace MovieScript

/-!
# Vetted hosts

Handles are opaque: no host can name an object that was not issued before.  Host
programs are plain data here and could make handles up, so that they do not is
said of a run.  A host is vetted if every prototype that a new object is given
is checked first.  Where the check does not show in a whole run, nobody has made
up a prototype.
-/

namespace Program

variable {σ α : Type}

/-- What is said of a prototype that was made up. -/
def unissued : Fault :=
  .internal "prototype was never issued"

/-- Make an object whose prototype was issued, and refuse any other. -/
def adopt (object : ScriptObject) : Program σ Handle := do
  if ← inspect fun machine =>
      object.prototype.all machine.heap.hasIssued then
    perform (.alloc object)
  else
    fail unissued

/-! Making an object with a constructor, step by step up to the check. -/

def instancePrototype (maker : Handle) : Program σ (Option Handle) := do
  match ← perform (.getMember maker "prototype") with
  | .object prototype => return some prototype
  | _ => inspect (·.prototype? "Object")

def instantiate (constructor : Value) : Program σ Handle := do
  let (maker, _) ← ask (·.toFunction constructor)
  let prototype ← instancePrototype maker
  adopt
    { ScriptObject.new prototype .ordinary with
      constructor := some maker }

def construct
    (constructor : Value)
    (arguments : List Value) :
    Program σ Value := do
  let fresh ← instantiate constructor
  match ← perform (.call constructor (.object fresh) arguments) with
  | .object result => return .object result
  | _ => return .object fresh

def classConstructor (className : String) : Program σ Value := do
  match ← inspect (·.constructor? className) with
  | some constructor => return .object constructor
  | none => do
      let global ← inspect (·.global)
      perform (.getMember global className)

def constructClass
    (className : String)
    (arguments : List Value) :
    Program σ Value := do
  let constructor ← classConstructor className
  if ← inspect (·.isCallable constructor) then
    construct constructor arguments
  else
    fail (.notAConstructor className)

end Program

namespace Request

variable {σ β : Type}

/-- The request makes an object with a prototype of the host's choice. -/
def allocates : Request β → Bool
  | .alloc _ => true
  | .createObjectWith _ => true
  | .construct _ _ => true
  | .constructClass _ _ => true
  | _ => false

/-- The request as a program that refuses prototypes that were made up. -/
def vetted : Request β → Program σ β
  | .alloc object => .adopt object
  | .createObjectWith prototype => .adopt (.new prototype .ordinary)
  | .construct constructor arguments => .construct constructor arguments
  | .constructClass className arguments =>
      .constructClass className arguments
  | wanted => .perform wanted

end Request

/-- The program with all its requests vetted. -/
def Program.vetted {σ α : Type} : Program σ α → Program σ α
  | .finish outcome => .finish outcome
  | .request wanted next => do
      let answer ← wanted.vetted.attempt
      (next answer).vetted
  | .own work next => .own work fun answer => (next answer).vetted

namespace Host

variable {σ α : Type}

/-- The host with all its code vetted. -/
def vetted (host : Host σ) : Host σ where
  native number receiver arguments :=
    (host.native number receiver arguments).vetted
  dispatcher := host.dispatcher.map Program.vetted

/-- The run is the same if every prototype that a new object gets is checked. -/
def NamesIssued
    (host : Host σ)
    (fuel : Nat)
    (program : Program σ α)
    (session : Session σ) :
    Prop :=
  host.vetted.perform fuel program.vetted session =
    host.perform fuel program session

end Host

namespace Program

variable {σ α : Type}

theorem run_inspect (question : Machine → α) :
    (inspect question : Program σ α).run = Act.inspect question :=
  run_perform _

theorem run_ask (question : Machine → Except Fault α) :
    (ask question : Program σ α).run = Act.ask question := by
  rw [ask, run_bind, run_inspect]
  funext calls session
  refine (Act.inspect_bind _ _).trans ?_
  cases asked : question session.machine with
  | ok answer => exact (Act.ask_ok asked).symm
  | error fault => exact (Act.lift_error (Edit.ask_refused asked)).symm

theorem run_adopt
    (object : ScriptObject)
    (calls : Calls σ)
    (session : Session σ) :
    (adopt object).run calls session =
      if object.prototype.all session.machine.heap.hasIssued = true then
        (liftM (Edit.alloc object) : Act σ Handle) calls session
      else
        Act.fail unissued calls session := by
  rw [adopt, run_bind, run_inspect]
  refine (Act.inspect_bind _ _).trans ?_
  split
  · rw [run_perform]
    rfl
  · rfl

theorem run_instancePrototype (maker : Handle) :
    (instancePrototype maker : Program σ (Option Handle)).run =
      Act.instancePrototype maker := by
  rw [instancePrototype, run_bind, run_perform]
  refine congrArg (Act.getMember maker "prototype" >>= ·)
    (funext fun member => ?_)
  cases member with
  | object prototype => rfl
  | _ => exact run_inspect _

theorem run_classConstructor (className : String) :
    (classConstructor className : Program σ Value).run =
      Act.classConstructor className := by
  rw [classConstructor, run_bind, run_inspect]
  refine congrArg (Act.inspect (·.constructor? className) >>= ·)
    (funext fun known => ?_)
  cases known with
  | some constructor => rfl
  | none =>
      change (inspect _ >>= fun global => perform _).run = _
      rw [run_bind, run_inspect]
      exact congrArg (Act.inspect (·.global) >>= ·)
        (funext fun global => run_perform _)

end Program

namespace ActCongruence

variable {σ α β : Type} {R : Machine → Machine → Prop}
variable {related : ∀ {α : Type}, Act σ α → Act σ α → Prop}

/-! What is related by the check is related after it. -/

theorem vetted_construct
    (both : ActCongruence R related)
    (adopt : ∀ object,
      related (Program.adopt object).run (liftM (Edit.alloc object)))
    (constructor : Value)
    (arguments : List Value) :
    related (Program.construct constructor arguments).run
      (Act.construct constructor arguments) := by
  rw [Program.construct, Program.run_bind]
  refine both.bind ?_ fun fresh => ?_
  · rw [Program.instantiate, Program.run_bind, Program.run_ask]
    refine both.bind (both.ask _) fun ⟨maker, _⟩ => ?_
    rw [Program.run_bind, Program.run_instancePrototype]
    exact both.bind (both.instancePrototype maker) fun _ => adopt _
  · rw [Program.run_bind, Program.run_perform]
    refine both.bind (both.call _ _ _) fun result => ?_
    cases result with
    | object result => exact both.pure _
    | _ => exact both.pure _

theorem vetted_constructClass
    (both : ActCongruence R related)
    (adopt : ∀ object,
      related (Program.adopt object).run (liftM (Edit.alloc object)))
    (className : String)
    (arguments : List Value) :
    related (Program.constructClass className arguments).run
      (Act.constructClass className arguments) := by
  rw [Program.constructClass, Program.run_bind, Program.run_classConstructor]
  refine both.bind (both.classConstructor className) fun constructor => ?_
  rw [Program.run_bind, Program.run_inspect]
  refine both.bind (both.inspect _) fun callable => ?_
  split
  · exact both.vetted_construct adopt constructor arguments
  · exact both.fail _

/-- The check at allocations decides about all requests that allocate. -/
theorem vetted_request
    (both : ActCongruence R related)
    (adopt : ∀ object,
      related (Program.adopt object).run (liftM (Edit.alloc object)))
    (wanted : Request β)
    (plain :
      wanted.allocates = false →
        related wanted.perform wanted.perform) :
    related wanted.vetted.run wanted.perform := by
  cases wanted with
  | alloc object => exact adopt object
  | createObjectWith prototype => exact adopt _
  | construct constructor arguments =>
      exact both.vetted_construct adopt constructor arguments
  | constructClass className arguments =>
      exact both.vetted_constructClass adopt className arguments
  | _ =>
      change related (Program.perform _).run _
      rw [Program.run_perform]
      exact plain rfl

end ActCongruence

/-- The check does not show as long as it lets each request through. -/
theorem Program.run_vetted_request
    {σ α β : Type}
    {wanted : Request β}
    {next : Except Fault β → Program σ α}
    {calls : Calls σ}
    {session : Session σ}
    (through : wanted.vetted.run calls session = wanted.perform calls session)
    (rest : ∀ answer changed,
      Act.attempt wanted.perform calls session = .ok answer changed →
        (next answer).vetted.run calls changed =
          (next answer).run calls changed) :
    (Program.request wanted next).vetted.run calls session =
      (Program.request wanted next).run calls session := by
  have attempted :
      wanted.vetted.attempt.run calls session =
        Act.attempt wanted.perform calls session := by
    rw [run_attempt]
    exact Act.attempt_congr through
  rw [vetted, run_bind]
  change _ = (Act.attempt wanted.perform >>= fun answer =>
    (next answer).run) calls session
  cases ran : Act.attempt wanted.perform calls session with
  | ok answer changed =>
      rw [Act.bind_ok (attempted.trans ran), Act.bind_ok ran]
      exact rest answer changed ran
  | error stop changed =>
      rw [Act.bind_error (attempted.trans ran), Act.bind_error ran]

end MovieScript
