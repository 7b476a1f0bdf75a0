import MovieScript.Proofs.ActCongruence

namespace MovieScript

/-!
# Relations that acts respect

The same for acts.  A preorder that the elementary edits respect, and that
holds across the calls an act is given, is respected by every act that leaves
the frames to those calls.  An act that ran out of fuel has come to no end, so
nothing is asked of it.
-/

/-! What acts do that are put together from others whose outcome is known. -/

namespace Act

variable {σ α β : Type} {calls : Calls σ} {session changed : Session σ}

theorem lift_ok
    {work : Edit α}
    {machine : Machine}
    {result : α}
    (ran : work.run session.machine = .ok result machine) :
    (liftM work : Act σ α) calls session =
      .ok result ⟨machine, session.host⟩ := by
  obtain ⟨before, host⟩ := session
  change work before = .ok result machine at ran
  change edit work calls ⟨before, host⟩ = _
  unfold edit
  dsimp only
  rw [ran]

theorem lift_error
    {work : Edit α}
    {machine : Machine}
    {fault : Fault}
    (ran : work.run session.machine = .error fault machine) :
    (liftM work : Act σ α) calls session =
      .error (.fault fault) ⟨machine, session.host⟩ := by
  obtain ⟨before, host⟩ := session
  change work before = .error fault machine at ran
  change edit work calls ⟨before, host⟩ = _
  unfold edit
  dsimp only
  rw [ran]

theorem bind_ok
    {act : Act σ α}
    {result : α}
    (ran : act calls session = .ok result changed)
    (next : α → Act σ β) :
    (act >>= next) calls session = next result calls changed := by
  change EStateM.bind (act calls) (fun result => next result calls) session =
    _
  unfold EStateM.bind
  rw [ran]

theorem bind_error
    {act : Act σ α}
    {stop : Stop}
    (ran : act calls session = .error stop changed)
    (next : α → Act σ β) :
    (act >>= next) calls session = .error stop changed := by
  change EStateM.bind (act calls) (fun result => next result calls) session =
    _
  unfold EStateM.bind
  rw [ran]

theorem lift_bind
    (work : Edit α)
    (next : α → Edit β) :
    (liftM (work >>= next) : Act σ β) =
      liftM work >>= fun result => liftM (next result) := by
  funext calls session
  obtain ⟨machine, host⟩ := session
  cases ran : work.run machine with
  | ok result changed =>
      refine Eq.trans ?_ (bind_ok (lift_ok ran) _).symm
      change edit (EStateM.bind work next) calls ⟨machine, host⟩ = _
      change work machine = _ at ran
      unfold edit EStateM.bind
      dsimp only
      rw [ran]
      rfl
  | error fault changed =>
      refine Eq.trans ?_ (bind_error (lift_error ran) _).symm
      change edit (EStateM.bind work next) calls ⟨machine, host⟩ = _
      change work machine = _ at ran
      unfold edit EStateM.bind
      dsimp only
      rw [ran]

theorem attempt_ok
    {act : Act σ α}
    {result : α}
    (ran : act calls session = .ok result changed) :
    act.attempt calls session = .ok (.ok result) changed := by
  unfold attempt
  rw [ran]

theorem attempt_fault
    {act : Act σ α}
    {fault : Fault}
    (ran : act calls session = .error (.fault fault) changed) :
    act.attempt calls session = .ok (.error fault) changed := by
  unfold attempt
  rw [ran]

theorem attempt_outOfFuel
    {act : Act σ α}
    (ran : act calls session = .error .outOfFuel changed) :
    act.attempt calls session = .error .outOfFuel changed := by
  unfold attempt
  rw [ran]

/-- Only running out of fuel is not caught. -/
theorem attempt_error
    {act : Act σ α}
    {stop : Stop}
    (ran : act.attempt calls session = .error stop changed) :
    stop = .outOfFuel := by
  unfold attempt at ran
  split at ran
  · cases ran
  · cases ran
  · cases ran
    rfl

theorem attempt_congr
    {act other : Act σ α}
    {otherSession : Session σ}
    (same : act calls session = other calls otherSession) :
    act.attempt calls session = other.attempt calls otherSession := by
  unfold attempt
  rw [same]

theorem ask_ok
    {question : Machine → Except Fault α}
    {answer : α}
    (answered : question session.machine = .ok answer) :
    ask question calls session = .ok answer session := by
  obtain ⟨machine, host⟩ := session
  exact lift_ok (Edit.ask_run answered)

theorem ask_refused
    {question : Machine → Except Fault α}
    {fault : Fault}
    (refused : question session.machine = .error fault) :
    ask question calls session = .error (.fault fault) session :=
  lift_error (Edit.ask_refused refused)

theorem ask_eq_ok
    {question : Machine → Except Fault α}
    {answer : α}
    (asked : ask question calls session = .ok answer changed) :
    question session.machine = .ok answer ∧ changed = session := by
  cases answered : question session.machine with
  | ok other =>
      rw [ask_ok answered] at asked
      cases asked
      exact ⟨rfl, rfl⟩
  | error fault =>
      rw [ask_refused answered] at asked
      cases asked

theorem inspect_bind
    (question : Machine → α)
    (next : α → Act σ β) :
    (inspect question >>= next) calls session =
      next (question session.machine) calls session :=
  rfl

theorem bind_eq_ok
    {act : Act σ α}
    {next : α → Act σ β}
    {result : β}
    (ran : (act >>= next) calls session = .ok result changed) :
    ∃ first between,
      act calls session = .ok first between ∧
        next first calls between = .ok result changed := by
  cases outcome : act calls session with
  | ok first between =>
      rw [bind_ok outcome] at ran
      exact ⟨first, between, rfl, ran⟩
  | error stop between =>
      rw [bind_error outcome] at ran
      cases ran

end Act

namespace Builtin

variable {σ : Type} {calls : Calls σ} {session : Session σ}
variable {work : Edit Value} {machine : Machine}

theorem completed_ok
    {result : Value}
    (ran : work.run session.machine = .ok result machine) :
    completed work calls session =
      .ok (.complete result) ⟨machine, session.host⟩ :=
  Act.bind_ok (Act.lift_ok ran) _

theorem completed_error
    {fault : Fault}
    (ran : work.run session.machine = .error fault machine) :
    completed work calls session =
      .error (.fault fault) ⟨machine, session.host⟩ :=
  Act.bind_error (Act.lift_error ran) _

end Builtin

section Outcomes

variable {σ α β : Type}

/-- What is left of the session when an act has come to an end. -/
def Ends
    (done : α → Session σ → Prop)
    (failed : Session σ → Prop) :
    EStateM.Result Stop (Session σ) α → Prop
  | .ok result session => done result session
  | .error (.fault _) session => failed session
  | .error .outOfFuel _ => True

theorem Ends.mono
    {done weaker : α → Session σ → Prop}
    {failed weakerFailed : Session σ → Prop}
    {outcome : EStateM.Result Stop (Session σ) α}
    (ends : Ends done failed outcome)
    (whenDone : ∀ result session,
      done result session → weaker result session)
    (whenFailed : ∀ session, failed session → weakerFailed session) :
    Ends weaker weakerFailed outcome :=
  match outcome with
  | .ok result session => whenDone result session ends
  | .error (.fault _) session => whenFailed session ends
  | .error .outOfFuel _ => trivial

theorem Ends.of_forall
    {done : α → Session σ → Prop}
    {failed : Session σ → Prop}
    {outcome : EStateM.Result Stop (Session σ) α}
    (whenDone : ∀ result session, done result session)
    (whenFailed : ∀ session, failed session) :
    Ends done failed outcome :=
  match outcome with
  | .ok result session => whenDone result session
  | .error (.fault _) session => whenFailed session
  | .error .outOfFuel _ => trivial

theorem Ends.and
    {done otherDone : α → Session σ → Prop}
    {failed otherFailed : Session σ → Prop}
    {outcome : EStateM.Result Stop (Session σ) α}
    (ends : Ends done failed outcome)
    (alsoEnds : Ends otherDone otherFailed outcome) :
    Ends
      (fun result session =>
        done result session ∧ otherDone result session)
      (fun session => failed session ∧ otherFailed session) outcome :=
  match outcome with
  | .ok _ _ => ⟨ends, alsoEnds⟩
  | .error (.fault _) _ => ⟨ends, alsoEnds⟩
  | .error .outOfFuel _ => trivial

theorem Ends.of_ok
    {done : α → Session σ → Prop}
    {failed : Session σ → Prop}
    {outcome : EStateM.Result Stop (Session σ) α}
    (ends : Ends done failed outcome)
    {result : α}
    {session : Session σ}
    (ended : outcome = .ok result session) :
    done result session := by
  subst ended
  exact ends

theorem Ends.of_fault
    {done : α → Session σ → Prop}
    {failed : Session σ → Prop}
    {outcome : EStateM.Result Stop (Session σ) α}
    (ends : Ends done failed outcome)
    {fault : Fault}
    {session : Session σ}
    (ended : outcome = .error (.fault fault) session) :
    failed session := by
  subst ended
  exact ends

theorem Ends.bind
    {act : Act σ α}
    {next : α → Act σ β}
    {calls : Calls σ}
    {session : Session σ}
    {between : α → Session σ → Prop}
    {done : β → Session σ → Prop}
    {failed : Session σ → Prop}
    (first : Ends between failed (act calls session))
    (second : ∀ result changed,
      between result changed →
        Ends done failed (next result calls changed)) :
    Ends done failed ((act >>= next) calls session) := by
  cases ran : act calls session with
  | ok result changed =>
      rw [ran] at first
      rw [Act.bind_ok ran]
      exact second result changed first
  | error stop changed =>
      rw [ran] at first
      rw [Act.bind_error ran]
      cases stop with
      | fault fault => exact first
      | outOfFuel => trivial

theorem Ends.discard
    {act : Act σ α}
    {calls : Calls σ}
    {session : Session σ}
    {done failed : Session σ → Prop}
    (ends : Ends (fun _ changed => done changed) failed
      (act calls session)) :
    Ends (fun _ changed => done changed) failed
      ((Functor.discard act : Act σ PUnit) calls session) := by
  change Ends _ _ (((fun _ => PUnit.unit) <$> act) calls session)
  rw [map_eq_pure_bind]
  exact ends.bind fun _ _ holds => holds

theorem Ends.attempt
    {act : Act σ α}
    {calls : Calls σ}
    {session : Session σ}
    {done : α → Session σ → Prop}
    {failed : Session σ → Prop}
    (ends : Ends done failed (act calls session))
    {neverFails : Session σ → Prop} :
    Ends
      (fun outcome changed =>
        match outcome with
        | .ok result => done result changed
        | .error _ => failed changed)
      neverFails (act.attempt calls session) := by
  unfold Act.attempt
  cases ran : act calls session with
  | ok result changed =>
      rw [ran] at ends
      exact ends
  | error stop changed =>
      rw [ran] at ends
      cases stop with
      | fault fault => exact ends
      | outOfFuel => trivial

theorem Ends.edit_ok
    {work : Edit α}
    {calls : Calls σ}
    {session : Session σ}
    {done : α → Session σ → Prop}
    {failed : Session σ → Prop}
    {result : α}
    {changed : Machine}
    (ran : work.run session.machine = .ok result changed)
    (holds : done result ⟨changed, session.host⟩) :
    Ends done failed ((liftM work : Act σ α) calls session) := by
  rw [Act.lift_ok ran]
  exact holds

theorem Ends.edit_error
    {work : Edit α}
    {calls : Calls σ}
    {session : Session σ}
    {done : α → Session σ → Prop}
    {failed : Session σ → Prop}
    {fault : Fault}
    {changed : Machine}
    (ran : work.run session.machine = .error fault changed)
    (holds : failed ⟨changed, session.host⟩) :
    Ends done failed ((liftM work : Act σ α) calls session) := by
  rw [Act.lift_error ran]
  exact holds

theorem Ends.edit
    {work : Edit α}
    {calls : Calls σ}
    {session : Session σ}
    {done : α → Session σ → Prop}
    {failed : Session σ → Prop}
    (whenDone : ∀ result changed,
      work.run session.machine = .ok result changed →
        done result ⟨changed, session.host⟩)
    (whenFailed : ∀ fault changed,
      work.run session.machine = .error fault changed →
        failed ⟨changed, session.host⟩) :
    Ends done failed ((liftM work : Act σ α) calls session) := by
  cases ran : work.run session.machine with
  | ok result changed => exact .edit_ok ran (whenDone result changed ran)
  | error fault changed =>
      exact .edit_error ran (whenFailed fault changed ran)

theorem Ends.ask
    {question : Machine → Except Fault α}
    {calls : Calls σ}
    {session : Session σ}
    {done : α → Session σ → Prop}
    {failed : Session σ → Prop}
    (answered : ∀ answer,
      question session.machine = .ok answer → done answer session)
    (refused : ∀ fault,
      question session.machine = .error fault → failed session) :
    Ends done failed ((Act.ask question : Act σ α) calls session) := by
  cases asked : question session.machine with
  | ok answer =>
      exact .edit_ok (Edit.ask_run asked) (answered answer asked)
  | error fault =>
      exact .edit_error (Edit.ask_refused asked) (refused fault asked)

/-- The outcome itself can be kept beside what is known of it. -/
theorem Ends.with_outcome
    {done : α → Session σ → Prop}
    {failed : Session σ → Prop}
    {outcome : EStateM.Result Stop (Session σ) α}
    (ends : Ends done failed outcome) :
    Ends
      (fun result session =>
        outcome = .ok result session ∧ done result session)
      failed outcome :=
  match outcome with
  | .ok _ _ => ⟨rfl, ends⟩
  | .error (.fault _) _ => ends
  | .error .outOfFuel _ => trivial

end Outcomes

section TwoOutcomes

variable {σ τ α β : Type}

/--
Two acts end in the same way, in sessions that are tied together.  Acts that run
out of fuel get stuck somewhere in between.
-/
inductive EndsAlike (tied stuck : Session σ → Session τ → Prop) :
    EStateM.Result Stop (Session σ) α →
      EStateM.Result Stop (Session τ) α → Prop where
  | ok (result : α) {session : Session σ} {other : Session τ} :
      tied session other →
        EndsAlike tied stuck (.ok result session) (.ok result other)
  | fault (fault : Fault) {session : Session σ} {other : Session τ} :
      tied session other →
        EndsAlike tied stuck (.error (.fault fault) session)
          (.error (.fault fault) other)
  | outOfFuel {session : Session σ} {other : Session τ} :
      stuck session other →
        EndsAlike tied stuck (.error .outOfFuel session)
          (.error .outOfFuel other)

/-- Two acts end in the same way, in sessions that are tied together. -/
abbrev Alike
    (tied : Session σ → Session τ → Prop)
    (outcome : EStateM.Result Stop (Session σ) α)
    (otherOutcome : EStateM.Result Stop (Session τ) α) :
    Prop :=
  EndsAlike tied tied outcome otherOutcome

namespace EndsAlike

variable {tied stuck : Session σ → Session τ → Prop}
variable {calls : Calls σ} {otherCalls : Calls τ}
variable {session : Session σ} {other : Session τ}

theorem error
    (stop : Stop)
    (isTied : tied session other) :
    Alike (α := α) tied (.error stop session) (.error stop other) := by
  cases stop with
  | fault reason => exact .fault reason isTied
  | outOfFuel => exact .outOfFuel isTied

theorem mono
    {weaker : Session σ → Session τ → Prop}
    {outcome : EStateM.Result Stop (Session σ) α}
    {otherOutcome : EStateM.Result Stop (Session τ) α}
    (alike : Alike tied outcome otherOutcome)
    (implies : ∀ session other, tied session other → weaker session other) :
    Alike weaker outcome otherOutcome := by
  cases alike with
  | ok result isTied => exact .ok result (implies _ _ isTied)
  | fault fault isTied => exact .fault fault (implies _ _ isTied)
  | outOfFuel isTied => exact .outOfFuel (implies _ _ isTied)

theorem bind
    {act : Act σ α}
    {image : Act τ α}
    {next : α → Act σ β}
    {imageNext : α → Act τ β}
    (first :
      EndsAlike tied stuck (act calls session) (image otherCalls other))
    (second : ∀ result changed otherChanged,
      act calls session = .ok result changed →
        tied changed otherChanged →
          EndsAlike tied stuck (next result calls changed)
            (imageNext result otherCalls otherChanged)) :
    EndsAlike tied stuck ((act >>= next) calls session)
      ((image >>= imageNext) otherCalls other) := by
  generalize ran : act calls session = outcome at first
  generalize imageRan : image otherCalls other = imageOutcome at first
  cases first with
  | ok result isTied =>
      rw [Act.bind_ok ran, Act.bind_ok imageRan]
      exact second result _ _ ran isTied
  | fault fault isTied =>
      rw [Act.bind_error ran, Act.bind_error imageRan]
      exact .fault fault isTied
  | outOfFuel isStuck =>
      rw [Act.bind_error ran, Act.bind_error imageRan]
      exact .outOfFuel isStuck

theorem of_ok
    {outcome : EStateM.Result Stop (Session τ) α}
    {result : α}
    (alike : EndsAlike tied stuck (.ok result session) outcome) :
    ∃ other, outcome = .ok result other ∧ tied session other := by
  cases alike with
  | ok _ isTied => exact ⟨_, rfl, isTied⟩

theorem attempt
    {act : Act σ α}
    {image : Act τ α}
    (alike :
      EndsAlike tied stuck (act calls session) (image otherCalls other)) :
    EndsAlike tied stuck (act.attempt calls session)
      (image.attempt otherCalls other) := by
  unfold Act.attempt
  generalize act calls session = outcome at alike
  generalize image otherCalls other = imageOutcome at alike
  cases alike with
  | ok result isTied => exact .ok _ isTied
  | fault fault isTied => exact .ok _ isTied
  | outOfFuel isStuck => exact .outOfFuel isStuck

end EndsAlike

/-- In sessions that are tied together the image does what the act does. -/
def Act.Mirrors
    (tied stuck : Session σ → Session τ → Prop)
    (calls : Calls σ)
    (otherCalls : Calls τ)
    (act : Act σ α)
    (image : Act τ α) :
    Prop :=
  ∀ session other,
    tied session other →
      EndsAlike tied stuck (act calls session) (image otherCalls other)

namespace Act.Mirrors

variable {tied stuck : Session σ → Session τ → Prop}
variable {calls : Calls σ} {otherCalls : Calls τ}

theorem pure (result : α) :
    Mirrors tied stuck calls otherCalls (Pure.pure result)
      (Pure.pure result) :=
  fun _ _ isTied => .ok result isTied

theorem fail (fault : Fault) :
    Mirrors tied stuck calls otherCalls (Act.fail fault : Act σ α)
      (Act.fail fault) :=
  fun _ _ isTied => .fault fault isTied

theorem bind
    {act : Act σ α}
    {image : Act τ α}
    {next : α → Act σ β}
    {imageNext : α → Act τ β}
    (first : Mirrors tied stuck calls otherCalls act image)
    (second : ∀ result,
      Mirrors tied stuck calls otherCalls (next result)
        (imageNext result)) :
    Mirrors tied stuck calls otherCalls (act >>= next)
      (image >>= imageNext) :=
  fun session other isTied =>
    (first session other isTied).bind fun result _ _ _ =>
      second result _ _

theorem attempt
    {act : Act σ α}
    {image : Act τ α}
    (mirrors : Mirrors tied stuck calls otherCalls act image) :
    Mirrors tied stuck calls otherCalls act.attempt image.attempt :=
  fun session other isTied => (mirrors session other isTied).attempt

/-- An edit is its own image if the tie lasts across what it does. -/
theorem lift
    {R : Machine → Machine → Prop}
    (sameMachine : ∀ {session : Session σ} {other : Session τ},
      tied session other → other.machine = session.machine)
    (lasts : ∀ {session : Session σ} {other : Session τ} {changed},
      tied session other → R session.machine changed →
        tied ⟨changed, session.host⟩ ⟨changed, other.host⟩)
    {work : Edit α}
    (respected : MovieScript.Respects R work) :
    Mirrors tied stuck calls otherCalls (liftM work) (liftM work) := by
  rintro ⟨machine, own⟩ ⟨otherMachine, kept⟩ isTied
  obtain rfl : otherMachine = machine := sameMachine isTied
  have across := respected otherMachine
  cases ran : work.run otherMachine with
  | ok result changed =>
      rw [ran] at across
      rw [Act.lift_ok ran, Act.lift_ok ran]
      exact .ok result (lasts isTied across)
  | error fault changed =>
      rw [ran] at across
      rw [Act.lift_error ran, Act.lift_error ran]
      exact .fault fault (lasts isTied across)

end Act.Mirrors

end TwoOutcomes

namespace Act

variable {σ α β : Type} {R : Machine → Machine → Prop}

/-- The relation holds across the act, however it ends. -/
def Respects
    (R : Machine → Machine → Prop)
    (calls : Calls σ)
    (act : Act σ α) :
    Prop :=
  ∀ session,
    Ends (fun _ changed => R session.machine changed.machine)
      (fun changed => R session.machine changed.machine)
      (act calls session)

theorem respects_bind
    (trans : ∀ ⦃first second third⦄,
      R first second → R second third → R first third)
    {act : Act σ α}
    {next : α → Act σ β}
    {calls : Calls σ}
    (first : act.Respects R calls)
    (second : ∀ result, (next result).Respects R calls) :
    Respects R calls (act >>= next) :=
  fun session =>
    (first session).bind fun result changed across =>
      (second result changed).mono
        (fun _ _ => trans across) (fun _ => trans across)

theorem respects_lift
    {work : Edit α}
    (respected : MovieScript.Respects R work)
    (calls : Calls σ) :
    Respects R calls (liftM work : Act σ α) := by
  intro session
  have across := respected session.machine
  refine .edit ?_ ?_
  · intro result changed ran
    rw [ran] at across
    exact across
  · intro fault changed ran
    rw [ran] at across
    exact across

theorem attempt_ends
    {act : Act σ α}
    {calls : Calls σ}
    (respected : act.Respects R calls)
    (session : Session σ)
    {neverFails : Session σ → Prop} :
    Ends (fun _ changed => R session.machine changed.machine) neverFails
      (act.attempt calls session) := by
  refine (respected session).attempt.mono ?_ fun _ => id
  intro outcome changed across
  cases outcome with
  | ok result => exact across
  | error fault => exact across

theorem respects_attempt
    {act : Act σ α}
    {calls : Calls σ}
    (respected : act.Respects R calls) :
    act.attempt.Respects R calls :=
  fun session => attempt_ends respected session

end Act

/--
A preorder that the elementary edits respect, those of the top frame included,
and that holds across the host entries and exports of the given calls.
-/
structure ActStable
    {σ : Type}
    (R : Machine → Machine → Prop)
    (calls : Calls σ) :
    Prop extends FrameStable R where
  call : ∀ function receiver arguments,
    (Act.call function receiver arguments).Respects R calls
  executeScript : ∀ code constants target,
    (Act.executeScript code constants target).Respects R calls
  exportBelow : ∀ visiting value,
    (Act.exportBelow visiting value).Respects R calls

namespace ActStable

variable {σ α β : Type}
variable {R : Machine → Machine → Prop} {calls : Calls σ}

theorem pure (stable : ActStable R calls) (result : α) :
    (Pure.pure result : Act σ α).Respects R calls :=
  fun session => stable.refl session.machine

theorem fail (stable : ActStable R calls) (fault : Fault) :
    (Act.fail fault : Act σ α).Respects R calls :=
  fun session => stable.refl session.machine

theorem bind
    (stable : ActStable R calls)
    {act : Act σ α}
    {next : α → Act σ β}
    (first : act.Respects R calls)
    (second : ∀ result, (next result).Respects R calls) :
    Act.Respects R calls (act >>= next) :=
  Act.respects_bind stable.trans first second

theorem lift
    (_ : ActStable R calls)
    {work : Edit α}
    (respected : MovieScript.Respects R work) :
    Act.Respects R calls (liftM work : Act σ α) :=
  Act.respects_lift respected calls

/-- What is respected is one case of what is related. -/
theorem congruence (stable : ActStable R calls) :
    ActCongruence (σ := σ) (τ := σ) R
      (fun act _ => act.Respects R calls) where
  toFrameQuiet := stable.toFrameQuiet
  pure := stable.pure
  fail := stable.fail
  bind := stable.bind
  lift := stable.lift
  call := stable.call
  executeScript := stable.executeScript
  exportBelow := stable.exportBelow

theorem ask
    (stable : ActStable R calls)
    (question : Machine → Except Fault α) :
    (Act.ask question : Act σ α).Respects R calls :=
  stable.congruence.ask question

theorem timed (stable : ActStable R calls) :
    TimedCongruence (σ := σ) (τ := σ) R
      (fun act _ => act.Respects R calls) where
  toActCongruence := stable.congruence
  createInterval := stable.createInterval
  clearInterval := stable.clearInterval
  beginFiring := stable.beginFiring
  attempt := Act.respects_attempt

end ActStable

end MovieScript
