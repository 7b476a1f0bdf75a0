import MovieScript.Proofs.HostMoments

namespace MovieScript

/-!
# More fuel

Fuel bounds how deep calls nest and how many instructions are run.  It says how
far a run is followed and not what happens in it: a run that has come to an end
comes to the same end with more fuel.
-/

section Outlasting

variable {σ α β : Type}

/-- The work has come to an end, and not only to the end of its fuel. -/
def Finished (outcome : EStateM.Result Stop (Session σ) α) : Prop :=
  ∀ session, outcome ≠ .error .outOfFuel session

@[simp] theorem finished_ok (result : α) (session : Session σ) :
    Finished (.ok result session) := by
  simp [Finished]

@[simp] theorem finished_error_iff {stop : Stop} {session : Session σ} :
    Finished (.error stop session : EStateM.Result Stop (Session σ) α) ↔
      stop ≠ .outOfFuel := by
  simp [Finished]

namespace Act

/-- If the act comes to an end with its calls, the image does so with more. -/
def Outlasts (calls more : Calls σ) (act image : Act σ α) : Prop :=
  ∀ session,
    Finished (act calls session) →
      image more session = act calls session

/-- A sequence that ends can be compared step by step. -/
theorem bind_eq_of_finished
    {calls more : Calls σ}
    {act image : Act σ α}
    {next imageNext : α → Act σ β}
    {session : Session σ}
    (finished : Finished ((act >>= next) calls session))
    (first :
      Finished (act calls session) →
        image more session = act calls session)
    (second : ∀ result,
      Outlasts calls more (next result) (imageNext result)) :
    (image >>= imageNext) more session = (act >>= next) calls session := by
  cases ran : act calls session with
  | ok result changed =>
      have same := first (by simp [ran])
      rw [bind_ok ran] at finished ⊢
      rw [bind_ok (same.trans ran)]
      exact second result changed finished
  | error stop changed =>
      rw [bind_error ran] at finished ⊢
      have same := first (by simpa [ran] using finished)
      exact bind_error (same.trans ran) _

namespace Outlasts

variable {calls more : Calls σ}

theorem pure (result : α) :
    Outlasts calls more (Pure.pure result) (Pure.pure result) :=
  fun _ _ => rfl

theorem fail (fault : Fault) :
    Outlasts calls more (Act.fail fault : Act σ α) (Act.fail fault) :=
  fun _ _ => rfl

theorem lift (work : Edit α) :
    Outlasts calls more (liftM work) (liftM work) :=
  fun _ _ => rfl

theorem bind
    {act image : Act σ α}
    {next imageNext : α → Act σ β}
    (first : Outlasts calls more act image)
    (second : ∀ result,
      Outlasts calls more (next result) (imageNext result)) :
    Outlasts calls more (act >>= next) (image >>= imageNext) :=
  fun session finished =>
    bind_eq_of_finished finished (first session) second

theorem attempt
    {act image : Act σ α}
    (outlasts : Outlasts calls more act image) :
    Outlasts calls more act.attempt image.attempt := by
  intro session finished
  have actFinished : Finished (act calls session) := by
    intro changed ran
    exact finished changed (attempt_outOfFuel ran)
  unfold Act.attempt
  rw [outlasts session actFinished]

theorem inHostEntry
    {body image : Nat → Act σ Value}
    (within : ∀ base, Outlasts calls more (body base) (image base)) :
    Outlasts calls more (Act.inHostEntry body) (Act.inHostEntry image) :=
  (lift _).bind fun base =>
    (within base).attempt.bind fun _ => lift _

end Outlasts

end Act

/-- What comes to an end with the first calls does so with the others. -/
structure Calls.Outlasts (calls more : Calls σ) : Prop where
  invoke : ∀ function receiver arguments,
    Act.Outlasts calls more (Act.invoke function receiver arguments)
      (Act.invoke function receiver arguments)
  runAbove : ∀ depth,
    Act.Outlasts calls more (Act.runAbove depth) (Act.runAbove depth)
  exportBelow : ∀ visiting value,
    Act.Outlasts calls more (Act.exportBelow visiting value)
      (Act.exportBelow visiting value)

namespace Calls.Outlasts

variable {calls more : Calls σ}

theorem entries (outlasts : calls.Outlasts more) :
    EntryCongruence (fun _ _ => True) (fun _ => True)
      (fun act image => Act.Outlasts calls more act image) where
  toFrameQuiet := StepStable.total.toFrameQuiet
  toScopeStable := StepStable.total.toScopeStable
  lift _ := .lift _
  pure := .pure
  fail := .fail
  bind := .bind
  pushFrame := StepStable.total.moves.pushFrame
  takeHostResult := StepStable.total.moves.takeHostResult
  inHostEntry within := .inHostEntry fun base => within base trivial
  invoke := outlasts.invoke
  runAbove depth _ := outlasts.runAbove depth
  exportBelow := outlasts.exportBelow

theorem timed (outlasts : calls.Outlasts more) :
    TimedCongruence (fun _ _ => True)
      (fun act image => Act.Outlasts calls more act image) where
  toActCongruence := outlasts.entries.actCongruence
  createInterval := StepStable.total.createInterval
  clearInterval := StepStable.total.clearInterval
  beginFiring := StepStable.total.beginFiring
  attempt := .attempt

theorem callCongruence (outlasts : calls.Outlasts more) :
    CallCongruence (fun _ _ => True)
      (fun act image => Act.Outlasts calls more act image)
      (fun act image => Act.Outlasts calls more act image) where
  toActCongruence := outlasts.entries.actCongruence
  complete _ := .pure _
  refuse := .fail
  andThen := .bind
  invoke := outlasts.invoke

theorem callFromFrame
    (outlasts : calls.Outlasts more)
    (function receiver : Value)
    (arguments : List Value) :
    Act.Outlasts calls more
      (Act.callFromFrame function receiver arguments)
      (Act.callFromFrame function receiver arguments) := by
  refine (outlasts.invoke _ _ _).bind fun invocation => ?_
  cases invocation with
  | complete value => exact .lift _
  | pending => exact .pure ()

theorem builtin
    (outlasts : calls.Outlasts more)
    (function : Builtin)
    (receiver : Value)
    (arguments : List Value) :
    Act.Outlasts calls more (function.run receiver arguments)
      (function.run receiver arguments) :=
  outlasts.callCongruence.timedBuiltin outlasts.timed function receiver
    arguments

theorem request
    (outlasts : calls.Outlasts more)
    (wanted : Request β) :
    Act.Outlasts calls more wanted.perform wanted.perform := by
  have timed := outlasts.timed
  have opens := StepStable.total.opens wanted
  cases use : wanted.frameUse with
  | apart => exact timed.request wanted (.inl use) opens
  | within => exact timed.request wanted (.inr use) opens
  | pushes =>
      cases wanted with
      | invoke function receiver arguments => exact outlasts.invoke _ _ _
      | callFromFrame function receiver arguments =>
          exact outlasts.callFromFrame _ _ _
      | callMethodFromFrame target name arguments =>
          exact (timed.methodOf target name).bind fun method =>
            outlasts.callFromFrame _ _ _
      | pushFrame frame => exact .lift _
      | _ => cases use
  | pops =>
      cases wanted with
      | returnFromFrame value => exact .lift _
      | _ => cases use
  | runs =>
      cases wanted with
      | runAbove depth => exact outlasts.runAbove depth
      | _ => cases use
  | unloads =>
      cases wanted with
      | unload => exact .lift _
      | _ => cases use

theorem program
    (outlasts : calls.Outlasts more)
    (program : Program σ α) :
    Act.Outlasts calls more program.run program.run := by
  induction program with
  | finish outcome =>
      cases outcome with
      | ok result => exact .pure result
      | error fault => exact .fail fault
  | request wanted next inductionHypothesis =>
      exact (outlasts.request wanted).attempt.bind inductionHypothesis
  | own work next inductionHypothesis =>
      exact fun session =>
        inductionHypothesis (work session.host).1
          ⟨session.machine, (work session.host).2⟩

theorem startCall
    (outlasts : calls.Outlasts more)
    (host : Host σ)
    (function receiver : Value)
    (arguments : List Value) :
    Act.Outlasts calls more (host.startCall function receiver arguments)
      (host.startCall function receiver arguments) := by
  refine (Act.Outlasts.lift _).bind fun (callee, callable) => ?_
  dsimp only
  split
  · exact outlasts.builtin _ _ _
  · exact outlasts.program _
  · have scopes := StepStable.total.toScopeStable
    exact (outlasts.timed.buildFrame scopes _ _ _ _).bind fun frame =>
      (Act.Outlasts.lift _).bind fun _ => .pure _

end Calls.Outlasts

namespace Host

/-- A loop that comes to its end does so if it may take more turns. -/
theorem runInstructions_outlasts
    {instruction image : Running σ Unit}
    (step : ∀ session,
      Finished (instruction session) →
        image session = instruction session)
    (depth : Nat)
    {fuel more : Nat}
    (enough : fuel ≤ more)
    (session : Session σ)
    (finished :
      Finished (runInstructions instruction depth fuel session)) :
    runInstructions image depth more session =
      runInstructions instruction depth fuel session := by
  induction fuel generalizing more session with
  | zero => exact absurd rfl (finished session)
  | succ fuel inductionHypothesis =>
      obtain ⟨more, rfl⟩ := Nat.exists_eq_add_of_le' enough
      rw [runInstructions_succ] at finished
      rw [← Nat.add_assoc, runInstructions_succ, runInstructions_succ]
      split
      · rfl
      · rename_i above
        rw [if_neg above] at finished
        cases ran : instruction session with
        | ok result changed =>
            rw [ran] at finished
            rw [step session (by simp [ran]), ran]
            exact inductionHypothesis (Nat.le_add_left fuel more) changed
              finished
        | error stop changed =>
            rw [ran] at finished
            rw [step session (by rw [ran]; exact finished), ran]

/-- However deep calls nest, more fuel does not change what they come to. -/
theorem calls_outlast
    (host : Host σ)
    {fuel more : Nat}
    (enough : fuel ≤ more) :
    (host.calls fuel).Outlasts (host.calls more) := by
  induction fuel generalizing more with
  | zero =>
      exact ⟨fun _ _ _ session finished => absurd rfl (finished session),
        fun _ session finished => absurd rfl (finished session),
        fun _ _ session finished => absurd rfl (finished session)⟩
  | succ fuel inductionHypothesis =>
      obtain ⟨more, rfl⟩ := Nat.exists_eq_add_of_le' enough
      have outlasts := inductionHypothesis (Nat.le_add_left fuel more)
      refine ⟨outlasts.startCall host, ?_, outlasts.timed.exportLevel⟩
      intro depth session finished
      change Finished ((host.calls (fuel + 1)).runAbove depth session)
        at finished
      change (host.calls (more + fuel + 1)).runAbove depth session =
        (host.calls (fuel + 1)).runAbove depth session
      rw [calls_runAbove_succ] at finished
      rw [calls_runAbove_succ, calls_runAbove_succ]
      split
      · rfl
      · rename_i above
        rw [if_neg above] at finished
        cases installed : host.dispatcher with
        | none => rfl
        | some instruction =>
            rw [installed] at finished
            exact runInstructions_outlasts (outlasts.program instruction)
              depth (Nat.le_add_left fuel more) session finished

end Host

end Outlasting

end MovieScript
