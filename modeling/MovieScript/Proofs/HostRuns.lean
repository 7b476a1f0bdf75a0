import MovieScript.Proofs.HostEntries

namespace MovieScript

/-!
# Runs of host code

A relation that every request of some host code respects is respected by its
programs.  If it also goes along with frames and host entries, it is respected
by all calls, however deep they are nested: each level of nesting makes use of
the calls one level below only.
-/

namespace Program

variable {σ α : Type}

/-! What programs do that are put together from others. -/

theorem run_perform (wanted : Request α) :
    (perform wanted : Program σ α).run = wanted.perform := by
  funext calls session
  cases ran : wanted.perform calls session with
  | ok result changed => exact Act.bind_ok (Act.attempt_ok ran) _
  | error stop changed =>
      cases stop with
      | fault fault => exact Act.bind_ok (Act.attempt_fault ran) _
      | outOfFuel => exact Act.bind_error (Act.attempt_outOfFuel ran) _

theorem run_bind
    {β : Type}
    (program : Program σ α)
    (next : α → Program σ β) :
    (program >>= next).run = program.run >>= fun result =>
      (next result).run := by
  change (program.andThen next).run = _
  induction program with
  | finish outcome =>
      cases outcome with
      | ok result => rfl
      | error fault => rfl
  | request wanted rest inductionHypothesis =>
      funext calls session
      change (Act.attempt wanted.perform >>= fun answer =>
        ((rest answer).andThen next).run) calls session =
          ((Act.attempt wanted.perform >>= fun answer =>
            (rest answer).run) >>= fun result =>
              (next result).run) calls session
      rw [bind_assoc]
      exact congrFun (congrFun
        (congrArg (Act.attempt wanted.perform >>= ·)
          (funext inductionHypothesis)) calls) session
  | own work rest inductionHypothesis =>
      funext calls session
      exact congrFun (congrFun (inductionHypothesis _) calls)
        ⟨session.machine, (work session.host).2⟩

theorem run_attempt (program : Program σ α) :
    program.attempt.run = Act.attempt program.run := by
  induction program with
  | finish outcome =>
      cases outcome with
      | ok result => rfl
      | error fault => rfl
  | request wanted rest inductionHypothesis =>
      funext calls session
      change (Act.attempt wanted.perform >>= fun answer =>
        ((rest answer).attempt).run) calls session =
          Act.attempt (Act.attempt wanted.perform >>= fun answer =>
            (rest answer).run) calls session
      cases ran : Act.attempt wanted.perform calls session with
      | ok answer changed =>
          refine (Act.bind_ok ran _).trans ?_
          rw [inductionHypothesis]
          exact Act.attempt_congr
            (Act.bind_ok ran fun answer => (rest answer).run).symm
      | error stop changed =>
          obtain rfl := Act.attempt_error ran
          refine (Act.bind_error ran _).trans ?_
          exact (Act.attempt_outOfFuel
            (Act.bind_error ran fun answer => (rest answer).run)).symm
  | own work rest inductionHypothesis =>
      funext calls session
      exact congrFun (congrFun (inductionHypothesis _) calls)
        ⟨session.machine, (work session.host).2⟩

/-- Every request that a program may make is of a certain kind. -/
def Every
    (allowed : ∀ {β : Type}, Request β → Prop) :
    Program σ α → Prop
  | .finish _ => True
  | .request wanted next =>
      allowed wanted ∧ ∀ answer, (next answer).Every allowed
  | .own _ next => ∀ answer, (next answer).Every allowed

theorem Every.mono
    {allowed weaker : ∀ {β : Type}, Request β → Prop}
    (implies : ∀ {β : Type} {wanted : Request β},
      allowed wanted → weaker wanted)
    {program : Program σ α}
    (every : program.Every allowed) :
    program.Every weaker := by
  induction program with
  | finish outcome => trivial
  | request wanted next inductionHypothesis =>
      exact ⟨implies every.1, fun answer =>
        inductionHypothesis answer (every.2 answer)⟩
  | own work next inductionHypothesis =>
      exact fun answer => inductionHypothesis answer (every answer)

/-- What every request of a program respects, the program respects. -/
theorem Every.respects
    {calls : Calls σ}
    {R : Machine → Machine → Prop}
    (refl : ∀ machine, R machine machine)
    (trans : ∀ ⦃first second third⦄,
      R first second → R second third → R first third)
    {allowed : ∀ {β : Type}, Request β → Prop}
    (each : ∀ {β : Type} (wanted : Request β),
      allowed wanted → wanted.perform.Respects R calls)
    {program : Program σ α}
    (every : program.Every allowed) :
    program.run.Respects R calls := by
  induction program with
  | finish outcome =>
      cases outcome with
      | ok result => exact fun session => refl session.machine
      | error fault => exact fun session => refl session.machine
  | request wanted next inductionHypothesis =>
      exact Act.respects_bind trans
        (Act.respects_attempt (each wanted every.1))
        fun answer => inductionHypothesis answer (every.2 answer)
  | own work next inductionHypothesis =>
      exact fun session =>
        inductionHypothesis (work session.host).1
          (every (work session.host).1)
          ⟨session.machine, (work session.host).2⟩

end Program

namespace CallStable

variable {σ α β : Type}
variable {R P : Machine → Machine → Prop} {calls : Calls σ}

/-- A request that pushes frames is covered by one of the two relations. -/
theorem request_pushes
    (stable : CallStable R P calls)
    (wanted : Request β)
    (use : wanted.frameUse = .pushes) :
    wanted.perform.Respects
      (fun before after => R before after ∨ P before after) calls := by
  have invoked (function receiver : Value) (arguments : List Value) :
      (Act.invoke function receiver arguments).Respects
        (fun before after => R before after ∨ P before after) calls :=
    fun session =>
      (stable.invoke function receiver arguments session).mono
        (fun invocation _ across =>
          match invocation with
          | .complete _ => .inl across
          | .pending => .inr across)
        (fun _ => .inl)
  have calledFromFrame
      (function receiver : Value)
      (arguments : List Value) :
      (Act.callFromFrame function receiver arguments).Respects
        (fun before after => R before after ∨ P before after) calls := by
    intro session
    have started := stable.invoke function receiver arguments session
    refine (started.mono (fun _ _ => id) fun _ => .inl).bind ?_
    intro invocation changed across
    cases invocation with
    | complete value =>
        refine (stable.lift (stable.pushOperand value) changed).mono ?_ ?_
        · exact fun _ _ pushed => .inl (stable.trans across pushed)
        · exact fun _ pushed => .inl (stable.trans across pushed)
    | pending => exact .inr across
  cases wanted with
  | invoke function receiver arguments => exact invoked _ _ _
  | callFromFrame function receiver arguments =>
      exact calledFromFrame _ _ _
  | callMethodFromFrame target name arguments =>
      intro session
      refine ((stable.congruence.methodOf target name session).mono
        (fun _ _ => id) fun _ => .inl).bind ?_
      intro method changed across
      refine (calledFromFrame method target arguments changed).mono ?_ ?_
      · exact fun _ _ => Or.imp (stable.trans across) (stable.absorb across)
      · exact fun _ => Or.imp (stable.trans across) (stable.absorb across)
  | pushFrame frame =>
      exact fun session =>
        .edit (fun _ _ ran => .inr (stable.pushed _ _ _ ran))
          (fun _ _ ran => .inl (stable.refused _ _ _ _ ran))
  | _ => cases use

/-- So is every request that neither pops frames nor runs them. -/
theorem request_keeps
    (stable : CallStable R P calls)
    (wanted : Request β)
    (use : wanted.frameUse = .apart ∨ wanted.frameUse = .within ∨
      wanted.frameUse = .pushes)
    (opens : wanted.Opens R) :
    wanted.perform.Respects
      (fun before after => R before after ∨ P before after) calls := by
  have kept (across : wanted.perform.Respects R calls) :
      wanted.perform.Respects
        (fun before after => R before after ∨ P before after) calls :=
    fun session => (across session).mono (fun _ _ => .inl) (fun _ => .inl)
  rcases use with apart | within | pushes
  · exact kept (stable.toEditStable.request calls wanted apart opens)
  · exact kept (stable.toActStable.request wanted within opens)
  · exact stable.request_pushes wanted pushes

end CallStable

/-- The relation holds across the given calls. -/
structure Calls.Respect
    {σ : Type}
    (R : Machine → Machine → Prop)
    (calls : Calls σ) :
    Prop where
  invoke : ∀ function receiver arguments,
    (Act.invoke function receiver arguments).Respects R calls
  runAbove : ∀ depth, (Act.runAbove depth).Respects R calls
  exportBelow : ∀ visiting value,
    (Act.exportBelow visiting value).Respects R calls

/-- What one instruction respects, running frames respects. -/
theorem Host.runAbove_respects
    {σ : Type}
    {R : Machine → Machine → Prop}
    (refl : ∀ machine, R machine machine)
    (trans : ∀ ⦃first second third⦄,
      R first second → R second third → R first third)
    (host : Host σ)
    {fuel : Nat}
    (dispatcher : ∀ instruction,
      host.dispatcher = some instruction →
        instruction.run.Respects R (host.calls fuel))
    (depth : Nat) :
    (Act.runAbove depth).Respects R (host.calls (fuel + 1)) := by
  intro session
  change Ends _ _ ((host.calls (fuel + 1)).runAbove depth session)
  rw [calls_runAbove_succ]
  split
  · exact refl session.machine
  · split
    · exact refl session.machine
    · rename_i instruction installed
      have across := dispatcher instruction installed
      refine runInstructions_ends
        (fun between _ earlier => (across between).mono ?_ ?_)
        fuel session (refl session.machine)
      · exact fun _ _ => trans earlier
      · exact fun _ => trans earlier

/--
A preorder that the elementary edits respect, and that goes along with moving
frames and with host entries.
-/
structure RunStable (R : Machine → Machine → Prop) : Prop
    extends FrameStable R where
  moves : FrameMoves R
  inHostEntry : ∀ {σ : Type} {calls : Calls σ} {body : Nat → Act σ Value},
    (∀ base, (body base).Respects R calls) →
      (Act.inHostEntry body).Respects R calls

namespace RunStable

variable {σ α β : Type} {R : Machine → Machine → Prop} {calls : Calls σ}

theorem callStable
    (stable : RunStable R)
    (respected : calls.Respect R) :
    CallStable R R calls := by
  have entries : EntryStable R (fun _ => True) calls :=
    { stable.toFrameStable with
      pushFrame := stable.moves.pushFrame
      takeHostResult := stable.moves.takeHostResult
      inHostEntry := fun within =>
        stable.inHostEntry fun base => within base trivial
      invoke := respected.invoke
      runAbove := fun base _ => respected.runAbove base
      exportBelow := respected.exportBelow }
  exact entries.callStable

/-- The host's own choices and unloading are left to be looked at. -/
theorem request
    (stable : RunStable R)
    (respected : calls.Respect R)
    (wanted : Request β)
    (opens : wanted.Opens R)
    (unload : wanted.frameUse = .unloads → Respects R Edit.unload) :
    wanted.perform.Respects R calls := by
  have callStable := stable.callStable respected
  cases use : wanted.frameUse with
  | apart => exact stable.toEditStable.request calls _ use opens
  | within => exact callStable.toActStable.request _ use opens
  | pushes =>
      exact fun session =>
        (callStable.request_pushes wanted use session).mono
          (fun _ _ across => across.elim id id)
          (fun _ across => across.elim id id)
  | pops =>
      cases wanted with
      | returnFromFrame value =>
          exact Act.respects_lift (stable.moves.returnFromFrame value) calls
      | _ => cases use
  | runs =>
      cases wanted with
      | runAbove depth => exact respected.runAbove depth
      | _ => cases use
  | unloads =>
      cases wanted with
      | unload => exact Act.respects_lift (unload rfl) calls
      | _ => cases use

/-- What the code of a host respects, all calls with that host respect. -/
theorem callsOf
    (stable : RunStable R)
    (host : Host σ)
    (native : ∀ {calls : Calls σ},
      calls.Respect R → ∀ number receiver arguments,
        (host.native number receiver arguments).run.Respects R calls)
    (dispatcher : ∀ {calls : Calls σ},
      calls.Respect R → ∀ instruction,
        host.dispatcher = some instruction →
          instruction.run.Respects R calls)
    (fuel : Nat) :
    (host.calls fuel).Respect R := by
  induction fuel with
  | zero =>
      exact ⟨fun _ _ _ _ => trivial, fun _ _ => trivial,
        fun _ _ _ => trivial⟩
  | succ fuel respected =>
      have callStable := stable.callStable respected
      refine ⟨?_, ?_, ?_⟩
      · intro function receiver arguments
        exact Act.launches_same_iff.mp
          (callStable.startCall host
            (fun _ _ _ =>
              Act.launches_same_iff.mpr (native respected _ _ _))
            function receiver arguments)
      · exact host.runAbove_respects stable.refl stable.trans
          (dispatcher respected)
      · intro visiting value
        exact callStable.congruence.exportLevel visiting value

end RunStable

end MovieScript
