import MovieScript.Proofs.HostStability

namespace MovieScript

/-!
# Host entries

A host entry is opened, something is done in it, and it is closed or given up.
What relates or respects what is done inside also relates or respects the entry,
if it goes along with opening and closing.  The frames of an entry are run by a
loop over instructions.
-/

/-- A frame at the moment it is pushed. -/
def Frame.started (frame : Frame) : Frame :=
  { frame with state := .running }

namespace Machine

/-- The machine with a frame pushed. -/
def pushed (machine : Machine) (frame : Frame) : Machine :=
  { machine with frames := frame.started :: machine.frames }

/-- The machine with a host entry opened above its frames. -/
def entered (machine : Machine) : Machine :=
  { machine with barriers := machine.depth :: machine.barriers }

/-- The machine with its innermost host entry closed. -/
def left (machine : Machine) : Machine :=
  { machine with barriers := machine.barriers.tail }

/-- The machine with its innermost host entry given up. -/
def abandoned (machine : Machine) (base : Nat) : Machine :=
  { machine.left.keepFrames base with hostResult := none }

end Machine

namespace Act

variable {σ : Type}

/-- Do something inside of a host entry of its own. -/
def inHostEntry (body : Nat → Act σ Value) : Act σ Value := do
  let base ← Edit.enterHost
  let outcome ← attempt (body base)
  Edit.leaveHost base outcome

/-- Start a call and run the frame it may have left behind. -/
def callWithin
    (function receiver : Value)
    (arguments : List Value)
    (base : Nat) :
    Act σ Value := do
  match ← invoke function receiver arguments with
  | .complete value => return value
  | .pending => finishEntry base

theorem call_eq
    (function receiver : Value)
    (arguments : List Value) :
    (call function receiver arguments : Act σ Value) =
      inHostEntry (callWithin function receiver arguments) :=
  rfl

/-- The frame of a top-level script with its own scope. -/
def scriptFrame
    (code : Array UInt8)
    (constants : Array Value)
    (target : Handle)
    (locals : ScopeId) :
    Frame :=
  { Frame.new code constants topLevelRegisters locals (.object target) with
    scopeObjects := [target] }

/-- Push a frame and run it. -/
def runWithin (frame : Frame) (base : Nat) : Act σ Value := do
  Edit.pushFrame frame
  finishEntry base

theorem executeScript_eq
    (code : Array UInt8)
    (constants : Array Value)
    (target : Handle) :
    (executeScript code constants target : Act σ Value) = (do
      discard (ask (·.object target))
      let locals ← Edit.createScope none
      inHostEntry
        (runWithin (scriptFrame code constants target locals))) :=
  rfl

end Act

section HostEntry

variable {σ : Type}

theorem enterHost_run (machine : Machine) :
    Edit.enterHost.run machine = .ok machine.depth machine.entered ∨
      ∃ fault log,
        Edit.enterHost.run machine =
          .error fault { machine with log := log } := by
  rw [Edit.enterHost, EStateM.run_bind, EStateM.run_get]
  dsimp only
  split
  · exact .inl rfl
  · exact .inr ⟨_, _, rfl⟩

namespace Act

variable {body : Nat → Act σ Value} {calls : Calls σ}
variable {session changed : Session σ}

theorem inHostEntry_ok
    {value : Value}
    (opened :
      Edit.enterHost.run session.machine =
        .ok session.machine.depth session.machine.entered)
    (ran :
      body session.machine.depth calls
          ⟨session.machine.entered, session.host⟩ =
        .ok value changed) :
    inHostEntry body calls session =
      .ok value ⟨changed.machine.left, changed.host⟩ := by
  refine (bind_ok (lift_ok opened) _).trans ?_
  refine (bind_ok (attempt_ok ran) _).trans ?_
  rfl

theorem inHostEntry_fault
    {fault : Fault}
    (opened :
      Edit.enterHost.run session.machine =
        .ok session.machine.depth session.machine.entered)
    (ran :
      body session.machine.depth calls
          ⟨session.machine.entered, session.host⟩ =
        .error (.fault fault) changed) :
    inHostEntry body calls session =
      .error (.fault fault)
        ⟨changed.machine.abandoned session.machine.depth, changed.host⟩ := by
  refine (bind_ok (lift_ok opened) _).trans ?_
  refine (bind_ok (attempt_fault ran) _).trans ?_
  rfl

theorem inHostEntry_outOfFuel
    (opened :
      Edit.enterHost.run session.machine =
        .ok session.machine.depth session.machine.entered)
    (ran :
      body session.machine.depth calls
          ⟨session.machine.entered, session.host⟩ =
        .error .outOfFuel changed) :
    inHostEntry body calls session = .error .outOfFuel changed := by
  refine (bind_ok (lift_ok opened) _).trans ?_
  exact bind_error (attempt_outOfFuel ran) _

theorem inHostEntry_refused
    {fault : Fault}
    {machine : Machine}
    (shut : Edit.enterHost.run session.machine = .error fault machine)
    (body : Nat → Act σ Value) :
    inHostEntry body calls session =
      .error (.fault fault) ⟨machine, session.host⟩ :=
  bind_error (lift_error shut) _

end Act

theorem pushFrame_run (frame : Frame) (machine : Machine) :
    (Edit.pushFrame frame).run machine = .ok () (machine.pushed frame) ∨
      ∃ fault, (Edit.pushFrame frame).run machine = .error fault machine := by
  rw [Edit.pushFrame, EStateM.run_bind, EStateM.run_get]
  dsimp only
  split
  · exact .inl rfl
  · exact .inr ⟨_, rfl⟩

/-- The edits that push frames, pop them and hand over what they return. -/
structure FrameMoves (R : Machine → Machine → Prop) : Prop where
  pushFrame : ∀ frame, Respects R (Edit.pushFrame frame)
  returnFromFrame : ∀ value, Respects R (Edit.returnFromFrame value)
  takeHostResult : Respects R Edit.takeHostResult

/-- They change nothing but the frames and the value that is handed over. -/
theorem FrameMoves.of_any
    {R : Machine → Machine → Prop}
    (moved : ∀ (machine : Machine) frames hostResult,
      R machine
        { machine with frames := frames, hostResult := hostResult }) :
    FrameMoves R where
  pushFrame frame := by
    refine .get_bind fun machine => ?_
    split
    · exact moved machine _ _
    · exact moved machine _ _
  returnFromFrame value := by
    refine .get_bind fun machine => ?_
    split
    · exact moved machine _ _
    · split
      · exact moved machine _ _
      · split
        · exact moved machine _ _
        · exact moved machine _ _
  takeHostResult := by
    refine .get_bind fun machine => ?_
    split
    · exact moved machine _ _
    · exact moved machine _ _

/-- What a host entry leaves behind, from what is left inside of it. -/
theorem Ends.inHostEntry
    {body : Nat → Act σ Value}
    {calls : Calls σ}
    {session : Session σ}
    {inside : Value → Session σ → Prop}
    {broken : Session σ → Prop}
    {done : Value → Session σ → Prop}
    {failed : Session σ → Prop}
    (within :
      Ends inside broken
        (body session.machine.depth calls
          ⟨session.machine.entered, session.host⟩))
    (refused : ∀ log,
      failed ⟨{ session.machine with log := log }, session.host⟩)
    (whenDone : ∀ value changed,
      inside value changed →
        done value ⟨changed.machine.left, changed.host⟩)
    (whenFailed : ∀ changed,
      broken changed →
        failed
          ⟨changed.machine.abandoned session.machine.depth,
            changed.host⟩) :
    Ends done failed (Act.inHostEntry body calls session) := by
  have entering :
      Ends
        (fun base changed =>
          base = session.machine.depth ∧
            changed = ⟨session.machine.entered, session.host⟩)
        failed
        ((liftM Edit.enterHost : Act σ Nat) calls session) := by
    rcases enterHost_run session.machine with opened | shut
    · exact .edit_ok opened ⟨rfl, rfl⟩
    · obtain ⟨fault, log, shut⟩ := shut
      exact .edit_error shut (refused log)
  refine entering.bind ?_
  rintro base changed ⟨rfl, rfl⟩
  refine within.attempt.bind fun outcome changed ended => ?_
  cases outcome with
  | ok value => exact .edit_ok rfl (whenDone value changed ended)
  | error fault => exact .edit_error rfl (whenFailed changed ended)

end HostEntry

/--
A congruence for which it is enough to look inside of host entries: it relates
entries if it relates what is done in them, for every number of frames below
that is good.
-/
structure EntryCongruence
    {σ τ : Type}
    (R : Machine → Machine → Prop)
    (good : Nat → Prop)
    (related : ∀ {α : Type}, Act σ α → Act τ α → Prop) :
    Prop extends FrameQuiet R, ScopeStable R, EditCongruence R related where
  pure : ∀ {α : Type} (result : α),
    related (Pure.pure result) (Pure.pure result)
  fail : ∀ {α : Type} (fault : Fault),
    related (Act.fail fault : Act σ α) (Act.fail fault)
  bind : ∀ {α β : Type} {act : Act σ α} {image : Act τ α}
    {next : α → Act σ β} {imageNext : α → Act τ β},
    related act image →
      (∀ result, related (next result) (imageNext result)) →
        related (act >>= next) (image >>= imageNext)
  pushFrame : ∀ frame, Respects R (Edit.pushFrame frame)
  takeHostResult : Respects R Edit.takeHostResult
  inHostEntry : ∀ {body : Nat → Act σ Value} {image : Nat → Act τ Value},
    (∀ base, good base → related (body base) (image base)) →
      related (Act.inHostEntry body) (Act.inHostEntry image)
  invoke : ∀ function receiver arguments,
    related (Act.invoke function receiver arguments)
      (Act.invoke function receiver arguments)
  runAbove : ∀ base,
    good base → related (Act.runAbove base) (Act.runAbove base)
  exportBelow : ∀ visiting value,
    related (Act.exportBelow visiting value) (Act.exportBelow visiting value)

namespace EntryCongruence

variable {σ τ : Type} {R : Machine → Machine → Prop} {good : Nat → Prop}
variable {related : ∀ {α : Type}, Act σ α → Act τ α → Prop}

theorem finishEntry
    (both : EntryCongruence R good related)
    {base : Nat}
    (isGood : good base) :
    related (Act.finishEntry base) (Act.finishEntry base) :=
  both.bind (both.runAbove base isGood) fun _ =>
    both.lift both.takeHostResult

theorem call
    (both : EntryCongruence R good related)
    (function receiver : Value)
    (arguments : List Value) :
    related (Act.call function receiver arguments)
      (Act.call function receiver arguments) := by
  rw [Act.call_eq, Act.call_eq]
  refine both.inHostEntry fun base isGood => ?_
  refine both.bind (both.invoke _ _ _) fun invocation => ?_
  cases invocation with
  | complete value => exact both.pure value
  | pending => exact both.finishEntry isGood

theorem executeScript
    (both : EntryCongruence R good related)
    (code : Array UInt8)
    (constants : Array Value)
    (target : Handle) :
    related (Act.executeScript code constants target)
      (Act.executeScript code constants target) := by
  rw [Act.executeScript_eq, Act.executeScript_eq]
  have found :
      related
        (Functor.discard (Act.ask (·.object target)) : Act σ PUnit)
        (Functor.discard (Act.ask (·.object target))) :=
    both.bind (both.lift (both.ask _)) fun _ => both.pure _
  refine both.bind found fun _ => ?_
  refine both.bind (both.lift (both.createScope _)) fun locals => ?_
  refine both.inHostEntry fun base isGood => ?_
  exact both.bind (both.lift (both.pushFrame _)) fun _ =>
    both.finishEntry isGood

theorem actCongruence (both : EntryCongruence R good related) :
    ActCongruence R related where
  toFrameQuiet := both.toFrameQuiet
  lift := both.lift
  pure := both.pure
  fail := both.fail
  bind := both.bind
  call := both.call
  executeScript := both.executeScript
  exportBelow := both.exportBelow

end EntryCongruence

/-- A preorder of machines that is respected in the same way. -/
structure EntryStable
    {σ : Type}
    (R : Machine → Machine → Prop)
    (good : Nat → Prop)
    (calls : Calls σ) :
    Prop extends FrameStable R where
  pushFrame : ∀ frame, Respects R (Edit.pushFrame frame)
  takeHostResult : Respects R Edit.takeHostResult
  inHostEntry : ∀ {body : Nat → Act σ Value},
    (∀ base, good base → (body base).Respects R calls) →
      (Act.inHostEntry body).Respects R calls
  invoke : ∀ function receiver arguments,
    (Act.invoke function receiver arguments).Respects R calls
  runAbove : ∀ base,
    good base → (Act.runAbove base).Respects R calls
  exportBelow : ∀ visiting value,
    (Act.exportBelow visiting value).Respects R calls

namespace EntryStable

variable {σ : Type} {calls : Calls σ}
variable {R : Machine → Machine → Prop} {good : Nat → Prop}

theorem congruence (stable : EntryStable R good calls) :
    EntryCongruence (σ := σ) (τ := σ) R good
      (fun act _ => act.Respects R calls) where
  toFrameQuiet := stable.toFrameQuiet
  toScopeStable := stable.toScopeStable
  lift respected := Act.respects_lift respected calls
  pure _ session := stable.refl session.machine
  fail _ session := stable.refl session.machine
  bind first second := Act.respects_bind stable.trans first second
  pushFrame := stable.pushFrame
  takeHostResult := stable.takeHostResult
  inHostEntry := stable.inHostEntry
  invoke := stable.invoke
  runAbove := stable.runAbove
  exportBelow := stable.exportBelow

theorem callStable (stable : EntryStable R good calls) :
    CallStable R R calls where
  toFrameStable := stable.toFrameStable
  call := stable.congruence.call
  executeScript := stable.congruence.executeScript
  exportBelow := stable.exportBelow
  absorb := stable.trans
  invoke function receiver arguments :=
    Act.launches_same_iff.mpr (stable.invoke function receiver arguments)
  pushed frame machine changed ran := by
    have across := stable.pushFrame frame machine
    rw [ran] at across
    exact across
  refused frame machine fault changed ran := by
    have across := stable.pushFrame frame machine
    rw [ran] at across
    exact across

end EntryStable

namespace Host

/-- A host that implements no function and no instructions. -/
def passive : Host Unit where
  native _ _ _ := .finish (.ok (.complete .undefined))
  dispatcher := none

variable {σ : Type}

theorem runInstructions_succ
    (instruction : Running σ Unit)
    (depth fuel : Nat)
    (session : Session σ) :
    runInstructions instruction depth (fuel + 1) session =
      if session.machine.depth ≤ depth then
        .ok () session
      else
        match instruction session with
        | .ok _ changed =>
            runInstructions instruction depth fuel changed
        | .error stop changed => .error stop changed := by
  change
    (if session.machine.depth ≤ depth then
      pure ()
    else do
      instruction
      runInstructions instruction depth fuel : Running σ Unit) session = _
  split
  · rfl
  · change EStateM.bind instruction _ session = _
    unfold EStateM.bind
    cases instruction session with
    | ok result changed => rfl
    | error stop changed => rfl

theorem runFrames_eq
    (instruction? : Option (Running σ Unit))
    (depth fuel : Nat)
    (session : Session σ) :
    runFrames instruction? depth fuel session =
      if session.machine.depth ≤ depth then
        .ok () session
      else
        match instruction? with
        | none => .error (.fault .noDispatcher) session
        | some instruction =>
            runInstructions instruction depth fuel session := by
  change
    (if session.machine.depth ≤ depth then
      pure ()
    else
      match instruction? with
      | none => throw (.fault .noDispatcher)
      | some instruction =>
          runInstructions instruction depth fuel : Running σ Unit)
        session = _
  split
  · rfl
  · cases instruction? with
    | none => rfl
    | some instruction => rfl

theorem calls_runAbove_succ
    (host : Host σ)
    (depth fuel : Nat)
    (session : Session σ) :
    (host.calls (fuel + 1)).runAbove depth session =
      if session.machine.depth ≤ depth then
        .ok () session
      else
        match host.dispatcher with
        | none => .error (.fault .noDispatcher) session
        | some instruction =>
            runInstructions (instruction.run (host.calls fuel))
              depth fuel session := by
  refine (runFrames_eq _ depth fuel session).trans ?_
  cases host.dispatcher with
  | none => rfl
  | some instruction => rfl

/-- What each instruction keeps, the whole loop keeps. -/
theorem runInstructions_ends
    {instruction : Running σ Unit}
    {invariant failed : Session σ → Prop}
    {depth : Nat}
    (step : ∀ session,
      depth < session.machine.depth →
        invariant session →
          Ends (fun _ changed => invariant changed) failed
            (instruction session))
    (fuel : Nat)
    (session : Session σ)
    (holds : invariant session) :
    Ends (fun _ changed => invariant changed) failed
      (runInstructions instruction depth fuel session) := by
  induction fuel generalizing session with
  | zero => trivial
  | succ fuel inductionHypothesis =>
      rw [runInstructions_succ]
      split
      · exact holds
      · rename_i above
        have stepped := step session (Nat.not_le.mp above) holds
        cases ran : instruction session with
        | ok result changed =>
            rw [ran] at stepped
            exact inductionHypothesis changed stepped
        | error stop changed =>
            rw [ran] at stepped
            cases stop with
            | fault fault => exact stepped
            | outOfFuel => trivial

/-- If instructions do the same in tied sessions, so does the whole loop. -/
theorem runInstructions_alike
    {τ : Type}
    {tied stuck : Session σ → Session τ → Prop}
    (stops : ∀ {session other}, tied session other → stuck session other)
    (sameMachine : ∀ {session other},
      tied session other → other.machine = session.machine)
    {instruction : Running σ Unit}
    {image : Running τ Unit}
    (step : ∀ session other,
      tied session other →
        EndsAlike tied stuck (instruction session) (image other))
    (depth fuel : Nat)
    {session : Session σ}
    {other : Session τ}
    (isTied : tied session other) :
    EndsAlike tied stuck (runInstructions instruction depth fuel session)
      (runInstructions image depth fuel other) := by
  induction fuel generalizing session other with
  | zero => exact .outOfFuel (stops isTied)
  | succ fuel inductionHypothesis =>
      rw [runInstructions_succ, runInstructions_succ, sameMachine isTied]
      split
      · exact .ok () isTied
      · have stepped := step session other isTied
        generalize instruction session = outcome at stepped
        generalize image other = imageOutcome at stepped
        cases stepped with
        | ok _ changed => exact inductionHypothesis changed
        | fault fault changed => exact .fault fault changed
        | outOfFuel isStuck => exact .outOfFuel isStuck

/-- The same for frames that are run if it is known how to. -/
theorem runFrames_alike
    {τ : Type}
    {tied stuck : Session σ → Session τ → Prop}
    (stops : ∀ {session other}, tied session other → stuck session other)
    (sameMachine : ∀ {session other},
      tied session other → other.machine = session.machine)
    (dispatcher : Option (Program σ Unit))
    {run : Program σ Unit → Running σ Unit}
    {image : Program σ Unit → Running τ Unit}
    (step : ∀ instruction session other,
      tied session other →
        EndsAlike tied stuck (run instruction session) (image instruction other))
    (depth fuel : Nat)
    {session : Session σ}
    {other : Session τ}
    (isTied : tied session other) :
    EndsAlike tied stuck (runFrames (dispatcher.map run) depth fuel session)
      (runFrames (dispatcher.map image) depth fuel other) := by
  rw [runFrames_eq, runFrames_eq, sameMachine isTied]
  split
  · exact .ok () isTied
  · cases dispatcher with
    | none => exact .fault _ isTied
    | some instruction =>
        exact runInstructions_alike stops sameMachine (step instruction) depth
          fuel isTied

end Host

end MovieScript
