import MovieScript.Classes.Bootstrap
import MovieScript.Proofs.BoundParameters
import MovieScript.Proofs.HostMoments
import MovieScript.Proofs.PlainVariables

namespace MovieScript

/-!
# Captured variables are shared

A function closes over the variables of the frame that defines it, and each of
its calls gets a scope of its own inside of them, where its parameters are bound
and its variables are declared.  Calls of one function do not see each other's
variables.  Functions that were defined in one frame share the
variables of that frame, for as long as any of them can be called.
-/

namespace Scopes

variable {all before after : Scopes} {hidden start shared : ScopeId}
variable {name : String}

end Scopes

namespace Machine

/-- Scopes were made and variables written, and nothing else was done to them. -/
def ScopesEvolve (before after : Machine) : Prop :=
  before.scopes.Evolves after.scopes

namespace ScopesEvolve

theorem of_eq
    {before after : Machine}
    (same : after.scopes = before.scopes) :
    before.ScopesEvolve after := by
  rw [ScopesEvolve, same]
  exact .refl before.scopes

theorem trans
    ⦃first second third : Machine⦄
    (earlier : first.ScopesEvolve second)
    (later : second.ScopesEvolve third) :
    first.ScopesEvolve third :=
  Scopes.Evolves.trans earlier later

theorem stepStable : StepStable ScopesEvolve :=
  .of_quiet trans (fun _ _ quiet => quiet.scopes)
    (fun _ _ _ same => of_eq same) fun _ => of_eq rfl

end ScopesEvolve

end Machine

/-! The frame of a call. -/

namespace Act

variable {σ α β : Type}

/-- Whatever calls do, an answer of the act is of a certain kind. -/
def Gives (allowed : α → Prop) (act : Act σ α) : Prop :=
  ∀ calls session,
    Ends (fun result _ => allowed result) (fun _ => True)
      (act calls session)

namespace Gives

variable {allowed : α → Prop}

theorem any (act : Act σ α) : Gives (fun _ => True) act :=
  fun _ _ => .of_forall (fun _ _ => trivial) fun _ => trivial

theorem pure {result : α} (isAllowed : allowed result) :
    Gives allowed (Pure.pure result : Act σ α) :=
  fun _ _ => isAllowed

theorem ask
    {question : Machine → Except Fault α}
    (answered : ∀ machine answer,
      question machine = .ok answer → allowed answer) :
    Gives allowed (Act.ask question : Act σ α) :=
  fun _ session =>
    .ask (answered session.machine) fun _ _ => trivial

theorem bind
    {between : α → Prop}
    {settled : β → Prop}
    {act : Act σ α}
    {next : α → Act σ β}
    (first : Gives between act)
    (second : ∀ result, between result → Gives settled (next result)) :
    Gives settled (act >>= next) :=
  fun calls session =>
    (first calls session).bind fun result changed isBetween =>
      second result isBetween calls changed

end Gives

/-- The frame has a certain scope for its variables. -/
def HasScope (locals : ScopeId) (frame : Frame) : Prop :=
  frame.locals = locals

variable {locals : ScopeId} {frame : Frame}

theorem setRegister_hasScope
    (has : HasScope locals frame)
    (register : Nat)
    (value : Value) :
    Gives (HasScope locals)
      (ask fun _ => frame.setRegister register value : Act σ Frame) := by
  refine .ask fun machine loaded written => ?_
  rw [Frame.setRegister] at written
  split at written
  · cases written
    exact has
  · cases written

/-- Binding parameters leaves the frame the scope it has. -/
theorem bindParameters_hasScope
    (has : HasScope locals frame)
    (parameters : List Parameter)
    (arguments : List Value) :
    Gives (HasScope locals)
      (bindParameters frame parameters arguments : Act σ Frame) := by
  induction parameters generalizing frame arguments with
  | nil => exact .pure has
  | cons parameter rest inductionHypothesis =>
      unfold bindParameters
      dsimp only
      split
      · exact .bind (setRegister_hasScope has _ _) fun bound hasStill =>
          inductionHypothesis hasStill _
      · exact .bind (.any _) fun _ _ => inductionHypothesis has _

/-- So does looking a well-known value up. -/
theorem wellKnownValue_hasScope
    (has : HasScope locals frame)
    (kind : Preload) :
    Gives (fun loaded => HasScope locals loaded.2)
      (wellKnownValue frame kind : Act σ (Value × Frame)) := by
  have paired (act : Act σ Value) :
      Gives (fun loaded => HasScope locals loaded.2)
        (do return (← act, frame)) :=
    .bind (.any act) fun _ _ => .pure has
  unfold wellKnownValue
  split
  · exact .pure has
  · split
    · exact .pure has
    · exact .bind (.any _) fun _ _ => .pure has
  · exact paired _
  · exact .bind (.any _) fun _ _ => .pure has
  · split
    · exact paired _
    · exact .pure has
  · exact .bind (.any _) fun _ _ => .pure has
  · exact .bind (.any _) fun _ _ => .pure has

/-- So does loading such values into registers. -/
theorem preloadValues_hasScope
    (has : HasScope locals frame)
    (wanted : List (Preload × Nat)) :
    Gives (HasScope locals)
      (preloadValues frame wanted : Act σ Frame) := by
  induction wanted generalizing frame with
  | nil => exact .pure has
  | cons first rest inductionHypothesis =>
      unfold preloadValues
      refine .bind (wellKnownValue_hasScope has first.1) ?_
      intro found hasStill
      exact .bind (setRegister_hasScope hasStill _ _) fun loaded =>
        inductionHypothesis

variable {calls : Calls σ} {session changed : Session σ}

/-- The frame of a call has a new scope, where its parameters are bound. -/
theorem buildFrame_scope
    {closure : Closure}
    {callee : Handle}
    {receiver : Value}
    {arguments : List Value}
    (stable : ActStable Machine.ScopesEvolve calls)
    (built :
      buildFrame closure callee receiver arguments calls session =
        .ok frame changed) :
    frame.locals = session.machine.scopes.scopes.size ∧
      (session.machine.scopes.opened closure arguments).Evolves
        changed.machine.scopes := by
  obtain ⟨locals, between, created, filled⟩ := bind_eq_ok built
  have made :
      (liftM (Edit.createScope closure.scope) : Act σ ScopeId) calls
          session =
        .ok session.machine.scopes.scopes.size
          ⟨{ session.machine with
              scopes := (session.machine.scopes.create closure.scope).2 },
            session.host⟩ :=
    lift_ok rfl
  rw [made] at created
  cases created
  obtain ⟨bound, further, ran, loaded⟩ := bind_eq_ok filled
  have hasScope :=
    (bindParameters_hasScope rfl _ _ calls _).of_ok ran
  have opened :
      further.machine.scopes =
        session.machine.scopes.opened closure arguments := by
    rw [bindParameters_eq (bindParameters_inside ran)] at ran
    cases ran
    rfl
  rw [← opened]
  split at loaded
  · have starts :
        HasScope session.machine.scopes.scopes.size
          { bound with state := .preloading } :=
      hasScope
    exact ⟨(preloadValues_hasScope starts _ calls _).of_ok loaded,
      (stable.congruence.preloadValues _ _ _).of_ok loaded⟩
  · cases loaded
    exact ⟨hasScope, .refl _⟩

/-! The variables of the frame that runs. -/

end Act

/-! A function that is defined. -/

namespace Machine

/-- The handle names a function of a certain kind. -/
def Names
    (handle : Handle)
    (callable : Callable)
    (machine : Machine) :
    Prop :=
  ∃ object,
    machine.heap.get? handle = some object ∧
      object.content = .function callable

namespace Names

variable {machine : Machine} {handle : Handle} {callable : Callable}

theorem toFunction (names : machine.Names handle callable) :
    machine.toFunction (.object handle) = .ok (handle, callable) := by
  obtain ⟨object, live, isFunction⟩ := names
  exact toFunction_eq_ok_iff.mpr ⟨rfl, _, live, isFunction⟩

/-- A property more does not make another function of it. -/
theorem withProperty
    (names : machine.Names handle callable)
    (target : Handle)
    (name : String)
    (property : Property) :
    { machine with
      heap :=
        machine.heap.modify target (·.withProperty name property) }.Names
      handle callable := by
  obtain ⟨object, live, isFunction⟩ := names
  rw [Names]
  simp only [Heap.get?_modify]
  split
  · exact ⟨_, congrArg (Option.map _) live, isFunction⟩
  · exact ⟨object, live, isFunction⟩

end Names

end Machine

/--
A call of a defined function was started with these arguments, in a machine that
has the scope the function captured, and its frame has a certain scope.
-/
structure Host.Activates
    {σ : Type}
    (host : Host σ)
    (closure : Closure)
    (arguments : List Value)
    (before after : Session σ)
    (locals : ScopeId) :
    Prop where
  captured : ∀ scope,
    closure.scope = some scope → scope < before.machine.scopes.scopes.size
  starts : ∃ fuel function receiver callee,
    before.machine.toFunction function = .ok (callee, .defined closure) ∧
      host.startCall function receiver arguments (host.calls fuel) before =
        .ok .pending after
  frame : after.machine.frames.head?.map Frame.locals = some locals

namespace Host.Activates

open Machine (ScopesEvolve)

variable {σ : Type} {host : Host σ} {closure : Closure}
variable {arguments : List Value} {before after : Session σ}
variable {locals : ScopeId} {all : Scopes}

/-- The scope of the frame is a new one, opened for this call. -/
theorem scope
    (activates : host.Activates closure arguments before after locals) :
    locals = before.machine.scopes.scopes.size ∧
      (before.machine.scopes.opened closure arguments).Evolves
        after.machine.scopes := by
  obtain ⟨-, ⟨fuel, function, receiver, callee, found, started⟩, top⟩ :=
    activates
  rw [startCall, Act.bind_ok (Act.ask_ok found)] at started
  obtain ⟨frame, between, built, rest⟩ := Act.bind_eq_ok started
  obtain ⟨_, pushed, push, done⟩ := Act.bind_eq_ok rest
  cases done
  have stable :=
    (ScopesEvolve.stepStable.runStable.callStable
      (ScopesEvolve.stepStable.callsOf host fuel)).toActStable
  obtain ⟨isNew, evolves⟩ := Act.buildFrame_scope stable built
  have kept : Respects ScopesEvolve (Edit.pushFrame frame) :=
    ScopesEvolve.stepStable.moves.pushFrame frame
  refine ⟨?_, evolves.trans ((Act.respects_lift kept _ _).of_ok push)⟩
  rcases pushFrame_run frame between.machine with ran | ⟨fault, refused⟩
  · rw [Act.lift_ok ran] at push
    cases push
    exact (Option.some.inj top).symm.trans isNew
  · rw [Act.lift_error refused] at push
    cases push

/-- Nothing but scopes made and written comes between. -/
theorem evolves
    (activates : host.Activates closure arguments before after locals) :
    before.machine.scopes.Evolves after.machine.scopes :=
  (before.machine.scopes.evolves_opened closure arguments).trans
    activates.scope.2

/-- From then on it is there, enclosed by what the function captured. -/
theorem enclosed
    (activates : host.Activates closure arguments before after locals)
    (later : after.machine.scopes.Evolves all) :
    locals < all.scopes.size ∧ all.outer? locals = closure.scope := by
  obtain ⟨rfl, evolves⟩ := activates.scope
  have opens :=
    before.machine.scopes.opensFor_opened closure arguments
  have onward := evolves.trans later
  have made :
      before.machine.scopes.scopes.size <
        (before.machine.scopes.opened closure arguments).scopes.size := by
    rw [opens.size]
    exact Nat.lt_succ_self _
  refine ⟨Nat.lt_of_lt_of_le made onward.size_le, ?_⟩
  rw [onward.outer?_eq made, opens.enclosed]
  cases captured : closure.scope with
  | none => rfl
  | some scope => simp [activates.captured scope captured]

end Host.Activates

namespace Host

variable {σ : Type}

/-- A function with one parameter, defined in the first scope. -/
def counting : Closure where
  definition :=
    { name := none
      code := #[]
      constants := #[]
      parameters := [.byName "step"]
      registers := 0
      flags := ⟨0⟩
      usesRegisters := false }
  scope := some 0
  scopeObjects := []

/-- The first scope has a variable, and the third object is the function. -/
def withCounter : Machine :=
  { Machine.bare .standard 0 with
    heap :=
      Heap.run
        [.alloc .blank, .alloc .blank,
          .alloc (.new none (.function (.defined counting)))]
    scopes :=
      (Scopes.empty.create none).2.define 0 "count" (.integer 0) }

/-- The session with one more call of the function under way. -/
def countBy (step : Int32) (session : Session Unit) : Session Unit :=
  remaining
    (passive.startCall (.object ⟨2, 0⟩) .undefined [.integer step]
      (passive.calls 1) session)

/-- Two calls of the function are under way. -/
def counted : Session Unit :=
  countBy 2 (countBy 1 ⟨withCounter, ()⟩)

end Host

end MovieScript
