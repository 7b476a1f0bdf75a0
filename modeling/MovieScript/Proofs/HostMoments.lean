import MovieScript.Proofs.HostRuns
import MovieScript.Proofs.QuietEdits

namespace MovieScript

/-!
# The moments of a run

A run can be recorded: the machine is noted when a call is started, when frames
are run, and when host code makes a request or comes to its end, together with
the number of host entries that are open around the code that is run.  A recorded
run ends in the same way as the run itself and leaves the same behind.  A preorder
that every step of the machine respects holds between any two of the moments,
the earlier and the later one, also in a run that never ends.
-/

/-- A preorder that every step of a machine respects, unloading included. -/
structure StepStable (R : Machine → Machine → Prop) : Prop
    extends FrameStable R where
  moves : FrameMoves R
  enterHost : Respects R Edit.enterHost
  leaveHost : ∀ base outcome, Respects R (Edit.leaveHost base outcome)
  unload : Respects R Edit.unload
  opens : ∀ {β : Type} (wanted : Request β), wanted.Opens R

namespace StepStable

variable {σ α β : Type} {R : Machine → Machine → Prop} {calls : Calls σ}

theorem runStable (stable : StepStable R) : RunStable R where
  toFrameStable := stable.toFrameStable
  moves := stable.moves
  inHostEntry within :=
    Act.respects_bind stable.trans
      (Act.respects_lift stable.enterHost _) fun base =>
        Act.respects_bind stable.trans
          (Act.respects_attempt (within base)) fun outcome =>
            Act.respects_lift (stable.leaveHost base outcome) _

theorem program
    (stable : StepStable R)
    (respected : calls.Respect R)
    (program : Program σ α) :
    program.run.Respects R calls := by
  have every : program.Every fun _ => True := by
    induction program with
    | finish outcome => trivial
    | request wanted next inductionHypothesis =>
        exact ⟨trivial, inductionHypothesis⟩
    | own work next inductionHypothesis => exact inductionHypothesis
  exact every.respects stable.refl stable.trans fun wanted _ =>
    stable.runStable.request respected wanted (stable.opens wanted)
      fun _ => stable.unload

/-- Whatever the host is, its calls respect what every step respects. -/
theorem callsOf
    (stable : StepStable R)
    (host : Host σ)
    (fuel : Nat) :
    (host.calls fuel).Respect R :=
  stable.runStable.callsOf host
    (fun respected _ _ _ => stable.program respected _)
    (fun respected _ _ => stable.program respected _)
    fuel

/--
A relation that asks about nothing but heap and scopes has to be looked at only
where those are touched: in quiet edits and when the movie is unloaded.
-/
theorem of_quiet
    (trans : ∀ ⦃first second third⦄,
      R first second → R second third → R first third)
    (quiet : ∀ ⦃before after⦄, before.Quiet after → R before after)
    (aside : ∀ ⦃before after : Machine⦄,
      after.heap = before.heap →
        after.scopes = before.scopes → R before after)
    (unload : Respects R Edit.unload) :
    StepStable R where
  toFrameStable :=
    .of_quiet trans quiet (fun _ _ => aside rfl rfl)
      fun _ _ _ _ _ _ => aside rfl rfl
  moves := .of_any fun _ _ _ => aside rfl rfl
  enterHost machine := by
    rcases enterHost_run machine with opened | ⟨fault, log, shut⟩
    · rw [opened]
      exact aside rfl rfl
    · rw [shut]
      exact aside rfl rfl
  leaveHost base outcome machine := by
    cases outcome with
    | ok value => exact aside rfl rfl
    | error fault => exact aside rfl rfl
  unload := unload
  opens wanted := wanted.opens_of_quiet quiet

/-- The relation that holds always. -/
theorem total : StepStable fun _ _ => True :=
  .of_quiet (fun _ _ _ _ _ => trivial) (fun _ _ _ => trivial)
    (fun _ _ _ _ => trivial) fun _ => trivial

end StepStable

/-- A moment of a run. -/
structure Moment where
  machine : Machine
  /-- The number of host entries that were opened and not yet closed. -/
  entries : Nat
  /-- Host code is about to unload the movie. -/
  unloads : Bool

/-- What the host keeps for itself, and the moments so far. -/
structure Recorded (σ : Type) where
  own : σ
  moments : List Moment

namespace Recorded

variable {σ : Type}

/-- The session with the moment added. -/
def noted
    (entries : Nat)
    (unloads : Bool)
    (session : Session (Recorded σ)) :
    Session (Recorded σ) :=
  ⟨session.machine, session.host.own,
    session.host.moments ++ [⟨session.machine, entries, unloads⟩]⟩

/-- Add a moment with the machine as it is. -/
def note (entries : Nat) (unloads : Bool) : Act (Recorded σ) Unit :=
  fun _ session => .ok () (noted entries unloads session)

theorem note_bind
    {α : Type}
    {entries : Nat}
    {unloads : Bool}
    {calls : Calls (Recorded σ)}
    {session : Session (Recorded σ)}
    (next : Unit → Act (Recorded σ) α) :
    (note entries unloads >>= next) calls session =
      next () calls (noted entries unloads session) :=
  rfl

end Recorded

/-!
Nearly all functions are called inside of a host entry that is opened for the
call.  The few that are started without an entry are left to the calls outside.
-/

section Outside

variable {σ β : Type}

/-- Start a call without an entry of its own. -/
def Act.invokeOutside
    (outside : Calls σ)
    (function receiver : Value)
    (arguments : List Value) :
    Act σ Invocation :=
  fun _ => outside.invoke function receiver arguments

/-- A request with the calls for what it starts without an entry. -/
def Request.performOver (outside : Calls σ) : Request β → Act σ β
  | .invoke function receiver arguments =>
      Act.invokeOutside outside function receiver arguments
  | .callFromFrame function receiver arguments => fun _ =>
      Act.callFromFrame function receiver arguments outside
  | .callMethodFromFrame target name arguments => do
      let method ← Act.methodOf target name
      fun _ => Act.callFromFrame method target arguments outside
  | .runAbove depth => fun _ => outside.runAbove depth
  | wanted => wanted.perform

theorem Request.performOver_eq
    {outside : Calls σ}
    {wanted : Request β}
    (pushesNone : wanted.frameUse ≠ .pushes)
    (runsNone : wanted.frameUse ≠ .runs) :
    wanted.performOver outside = wanted.perform := by
  cases wanted with
  | invoke function receiver arguments => exact absurd rfl pushesNone
  | callFromFrame function receiver arguments =>
      exact absurd rfl pushesNone
  | callMethodFromFrame target name arguments =>
      exact absurd rfl pushesNone
  | runAbove depth => exact absurd rfl runsNone
  | _ => rfl

/-- A built-in function with the calls for what it starts without an entry. -/
def Builtin.runOver
    (outside : Calls σ)
    (function : Builtin)
    (receiver : Value)
    (arguments : List Value) :
    Act σ Invocation :=
  match function with
  | .functionCall => fun _ => FunctionClass.call receiver arguments outside
  | .functionApply => do
      let list ← FunctionClass.spread (argument arguments 1)
      Act.invokeOutside outside receiver (argument arguments 0) list
  | function => function.run receiver arguments

theorem Builtin.runOver_eq
    {outside : Calls σ}
    {function : Builtin}
    (callsNone : function.startsCall = false)
    (receiver : Value)
    (arguments : List Value) :
    function.runOver outside receiver arguments =
      function.run receiver arguments := by
  cases function with
  | functionCall => cases callsNone
  | functionApply => cases callsNone
  | _ => rfl

end Outside

section Record

variable {σ α : Type}

/--
Run a program inside of so many host entries, and add a moment for each request
and for the end.
-/
def Program.record
    (entries : Nat)
    (outside : Calls (Recorded σ)) :
    Program σ α → Act (Recorded σ) α
  | .finish (.ok result) => do
      Recorded.note entries false
      return result
  | .finish (.error fault) => do
      Recorded.note entries false
      Act.fail fault
  | .request wanted rest => do
      Recorded.note entries (wanted.frameUse == .unloads)
      let answer ← Act.attempt (wanted.performOver outside)
      (rest answer).record entries outside
  | .own work rest => fun calls session =>
      match session with
      | ⟨machine, kept, moments⟩ =>
          let (answer, changed) := work kept
          (rest answer).record entries outside calls
            ⟨machine, changed, moments⟩

namespace Host

/-- Add a moment and start a call. -/
def recordedStart
    (host : Host σ)
    (entries : Nat)
    (outside : Calls (Recorded σ))
    (function receiver : Value)
    (arguments : List Value) :
    Act (Recorded σ) Invocation := do
  Recorded.note entries false
  let (callee, callable) ← Act.ask (·.toFunction function)
  match callable with
  | .native ⟨_, .builtin builtin⟩ =>
      builtin.runOver outside receiver arguments
  | .native ⟨_, .host number⟩ =>
      (host.native number receiver arguments).record entries outside
  | .defined closure => do
      let frame ← Act.buildFrame closure callee receiver arguments
      Edit.pushFrame frame
      return .pending

/--
What recorded calls do when `fuel` levels of nesting are left and so many host
entries are open.
-/
def recordedCalls (host : Host σ) : Nat → Nat → Calls (Recorded σ)
  | 0, _ =>
      { invoke := fun _ _ _ => throw .outOfFuel
        runAbove := fun _ => throw .outOfFuel
        exportBelow := fun _ _ => throw .outOfFuel }
  | fuel + 1, entries =>
      { invoke := fun function receiver arguments =>
          host.recordedStart entries (host.recordedCalls fuel entries)
            function receiver arguments
            (host.recordedCalls fuel (entries + 1))
        runAbove := fun depth => do
          Recorded.note entries false (host.recordedCalls fuel entries)
          runFrames
            (host.dispatcher.map fun instruction =>
              instruction.record entries (host.recordedCalls fuel entries)
                (host.recordedCalls fuel (entries + 1)))
            depth fuel
        exportBelow := fun visiting value =>
          Act.exportLevel visiting value (host.recordedCalls fuel entries) }

/-- Run a program outside of all host entries and record the run. -/
def record
    (host : Host σ)
    (fuel : Nat)
    (program : Program σ α)
    (session : Session σ) :
    EStateM.Result Stop (Session (Recorded σ)) α :=
  program.record 0 (host.recordedCalls fuel 0) (host.recordedCalls fuel 1)
    ⟨session.machine, session.host, [⟨session.machine, 0, false⟩]⟩

/-- The moments of a run, from the first to the last. -/
def course
    (host : Host σ)
    (fuel : Nat)
    (program : Program σ α)
    (session : Session σ) :
    List Moment :=
  (remaining (host.record fuel program session)).host.moments

/-- The machine at the moments of a run and when it is over. -/
def moments
    (host : Host σ)
    (fuel : Nat)
    (program : Program σ α)
    (session : Session σ) :
    List Machine :=
  (host.course fuel program session).map Moment.machine ++
    [(remaining (host.record fuel program session)).machine]

end Host

end Record

/--
A relation between sessions and recorded ones, for each number of open entries,
that goes along with everything that is done in a run.  The edits are those that
respect `R`.
-/
structure Traces
    {σ : Type}
    (R : Machine → Machine → Prop)
    (tied : Nat → Session σ → Session (Recorded σ) → Prop)
    (stuck : Session σ → Session (Recorded σ) → Prop) :
    Prop extends FrameStable R where
  moves : FrameMoves R
  opens : ∀ {β : Type} (wanted : Request β), wanted.Opens R
  machine : ∀ {entries session recorded},
    tied entries session recorded → recorded.machine = session.machine
  own : ∀ {entries session recorded},
    tied entries session recorded → recorded.host.own = session.host
  lasts : ∀ {entries session recorded changed},
    tied entries session recorded →
      R session.machine changed →
        tied entries ⟨changed, session.host⟩ ⟨changed, recorded.host⟩
  noted : ∀ {entries session recorded} unloads,
    tied entries session recorded →
      tied entries session (Recorded.noted entries unloads recorded)
  owned : ∀ {entries session recorded} own,
    tied entries session recorded →
      tied entries ⟨session.machine, own⟩
        ⟨recorded.machine, own, recorded.host.moments⟩
  refused : ∀ {machine changed fault},
    Edit.enterHost.run machine = .error fault changed → R machine changed
  entered : ∀ {entries session recorded},
    Edit.enterHost.run session.machine =
        .ok session.machine.depth session.machine.entered →
      tied entries session recorded →
        tied (entries + 1) ⟨session.machine.entered, session.host⟩
          ⟨session.machine.entered, recorded.host⟩
  left : ∀ {entries session recorded},
    tied (entries + 1) session recorded →
      tied entries ⟨session.machine.left, session.host⟩
        ⟨session.machine.left, recorded.host⟩
  abandoned : ∀ {entries session recorded} base,
    tied (entries + 1) session recorded →
      tied entries ⟨session.machine.abandoned base, session.host⟩
        ⟨session.machine.abandoned base, recorded.host⟩
  /-- A run that is out of fuel stops inside of its host entries. -/
  stops : ∀ {entries session recorded},
    tied entries session recorded → stuck session recorded
  /-- A movie that is unloaded inside of an entry has been noted. -/
  unloaded : ∀ {entries session recorded},
    tied entries session recorded →
      tied entries ⟨session.machine.unloaded, session.host⟩
        ⟨session.machine.unloaded,
          (Recorded.noted entries true recorded).host⟩

/-- The recorded calls do what the calls do with so many entries open. -/
structure Calls.RecordedBy
    {σ : Type}
    (tied : Nat → Session σ → Session (Recorded σ) → Prop)
    (stuck : Session σ → Session (Recorded σ) → Prop)
    (entries : Nat)
    (calls : Calls σ)
    (recorder : Calls (Recorded σ)) :
    Prop where
  invoke : ∀ function receiver arguments,
    Act.Mirrors (tied entries) stuck calls recorder
      (Act.invoke function receiver arguments)
      (Act.invoke function receiver arguments)
  runAbove : ∀ depth,
    Act.Mirrors (tied entries) stuck calls recorder (Act.runAbove depth)
      (Act.runAbove depth)
  /-- An export opens entries but is not one itself. -/
  exportBelow : ∀ {outer}, entries = outer + 1 → ∀ visiting value,
    Act.Mirrors (tied outer) stuck calls recorder
      (Act.exportBelow visiting value) (Act.exportBelow visiting value)

namespace Traces

variable {σ α β : Type} {R : Machine → Machine → Prop}
variable {tied : Nat → Session σ → Session (Recorded σ) → Prop}
variable {stuck : Session σ → Session (Recorded σ) → Prop}
variable {entries : Nat} {calls : Calls σ}
variable {outside inside : Calls (Recorded σ)}

theorem lift
    (traces : Traces R tied stuck)
    {work : Edit α}
    (respected : Respects R work) :
    Act.Mirrors (tied entries) stuck calls inside (liftM work) (liftM work) :=
  .lift traces.machine traces.lasts respected

/-- A note changes nothing that the run itself can see. -/
theorem after_note
    (traces : Traces R tied stuck)
    (unloads : Bool)
    {act : Act σ α}
    {image : Act (Recorded σ) α}
    (mirrors : Act.Mirrors (tied entries) stuck calls inside act image) :
    Act.Mirrors (tied entries) stuck calls inside act
      (Recorded.note entries unloads >>= fun _ => image) := by
  intro session recorded isTied
  rw [Recorded.note_bind]
  exact mirrors _ _ (traces.noted unloads isTied)

/-- What is done in a host entry is done with one more entry open. -/
theorem inHostEntry
    (traces : Traces R tied stuck)
    {body : Nat → Act σ Value}
    {image : Nat → Act (Recorded σ) Value}
    (within : ∀ base,
      Act.Mirrors (tied (entries + 1)) stuck calls inside (body base)
        (image base)) :
    Act.Mirrors (tied entries) stuck calls inside (Act.inHostEntry body)
      (Act.inHostEntry image) := by
  rintro ⟨machine, own⟩ ⟨other, kept⟩ isTied
  obtain rfl : other = machine := traces.machine isTied
  rcases enterHost_run other with opened | ⟨fault, log, shut⟩
  · have alike := within other.depth _ _ (traces.entered opened isTied)
    generalize ran :
      body other.depth calls ⟨other.entered, own⟩ = outcome at alike
    generalize imageRan :
      image other.depth inside ⟨other.entered, kept⟩ = imageOutcome at alike
    cases alike with
    | ok value isTied =>
        rw [Act.inHostEntry_ok opened ran,
          Act.inHostEntry_ok opened imageRan, traces.machine isTied]
        exact .ok value (traces.left isTied)
    | fault fault isTied =>
        rw [Act.inHostEntry_fault opened ran,
          Act.inHostEntry_fault opened imageRan, traces.machine isTied]
        exact .fault fault (traces.abandoned _ isTied)
    | outOfFuel isStuck =>
        rw [Act.inHostEntry_outOfFuel opened ran,
          Act.inHostEntry_outOfFuel opened imageRan]
        exact .outOfFuel isStuck
  · rw [Act.inHostEntry_refused shut, Act.inHostEntry_refused shut]
    exact .fault fault (traces.lasts isTied (traces.refused shut))

theorem finishEntry
    (traces : Traces R tied stuck)
    (seen : calls.RecordedBy tied stuck entries inside)
    (base : Nat) :
    Act.Mirrors (tied entries) stuck calls inside (Act.finishEntry base)
      (Act.finishEntry base) :=
  (seen.runAbove base).bind fun _ =>
    traces.lift traces.moves.takeHostResult

theorem call
    (traces : Traces R tied stuck)
    (seen : calls.RecordedBy tied stuck (entries + 1) inside)
    (function receiver : Value)
    (arguments : List Value) :
    Act.Mirrors (tied entries) stuck calls inside
      (Act.call function receiver arguments)
      (Act.call function receiver arguments) := by
  rw [Act.call_eq, Act.call_eq]
  refine traces.inHostEntry fun base => ?_
  refine (seen.invoke _ _ _).bind fun invocation => ?_
  cases invocation with
  | complete value => exact .pure value
  | pending => exact traces.finishEntry seen base

theorem executeScript
    (traces : Traces R tied stuck)
    (seen : calls.RecordedBy tied stuck (entries + 1) inside)
    (code : Array UInt8)
    (constants : Array Value)
    (target : Handle) :
    Act.Mirrors (tied entries) stuck calls inside
      (Act.executeScript code constants target)
      (Act.executeScript code constants target) := by
  rw [Act.executeScript_eq, Act.executeScript_eq]
  have found :
      Act.Mirrors (tied entries) stuck calls inside
        (Functor.discard (Act.ask (·.object target)))
        (Functor.discard (Act.ask (·.object target))) :=
    (traces.lift (traces.ask _)).bind fun _ => .pure _
  refine found.bind fun _ => ?_
  refine (traces.lift (traces.createScope _)).bind fun locals => ?_
  refine traces.inHostEntry fun base => ?_
  exact (traces.lift (traces.moves.pushFrame _)).bind fun _ =>
    traces.finishEntry seen base

theorem timed
    (traces : Traces R tied stuck)
    (seen : calls.RecordedBy tied stuck (entries + 1) inside) :
    TimedCongruence R fun act image =>
      Act.Mirrors (tied entries) stuck calls inside act image where
  toFrameQuiet := traces.toFrameQuiet
  lift := traces.lift
  pure := .pure
  fail := .fail
  bind := .bind
  call := traces.call seen
  executeScript := traces.executeScript seen
  exportBelow := seen.exportBelow rfl
  createInterval := traces.createInterval
  clearInterval := traces.clearInterval
  beginFiring := traces.beginFiring
  attempt := .attempt

theorem callFromFrame
    (traces : Traces R tied stuck)
    (seen : calls.RecordedBy tied stuck entries outside)
    (function receiver : Value)
    (arguments : List Value) :
    Act.Mirrors (tied entries) stuck calls outside
      (Act.callFromFrame function receiver arguments)
      (Act.callFromFrame function receiver arguments) := by
  refine (seen.invoke _ _ _).bind fun invocation => ?_
  cases invocation with
  | complete value => exact traces.lift (traces.pushOperand value)
  | pending => exact .pure ()

theorem builtin
    (traces : Traces R tied stuck)
    (seen : calls.RecordedBy tied stuck entries outside)
    (seenInside : calls.RecordedBy tied stuck (entries + 1) inside)
    (function : Builtin)
    (receiver : Value)
    (arguments : List Value) :
    Act.Mirrors (tied entries) stuck calls inside
      (function.run receiver arguments)
      (function.runOver outside receiver arguments) := by
  have timed := traces.timed seenInside
  cases starts : function.startsCall with
  | true =>
      cases function with
      | functionCall => exact seen.invoke _ _ _
      | functionApply =>
          exact (timed.spread _).bind fun list => seen.invoke _ _ _
      | _ => cases starts
  | false =>
      rw [Builtin.runOver_eq starts]
      have congruence :
          LaunchCongruence R
            (fun act image =>
              Act.Mirrors (tied entries) stuck calls inside act image)
            (fun act image =>
              Act.Mirrors (tied entries) stuck calls inside act image) :=
        { timed.toActCongruence with
          complete := fun _ => .pure _
          refuse := .fail
          andThen := .bind }
      exact congruence.timedBuiltin timed function receiver arguments starts

theorem request
    (traces : Traces R tied stuck)
    (seen : calls.RecordedBy tied stuck entries outside)
    (seenInside : calls.RecordedBy tied stuck (entries + 1) inside)
    (wanted : Request β)
    (stays : wanted.frameUse ≠ .unloads) :
    Act.Mirrors (tied entries) stuck calls inside wanted.perform
      (wanted.performOver outside) := by
  have timed := traces.timed seenInside
  have opens := traces.opens wanted
  cases use : wanted.frameUse with
  | apart =>
      rw [Request.performOver_eq (by rw [use]; nofun) (by rw [use]; nofun)]
      exact timed.request wanted (.inl use) opens
  | within =>
      rw [Request.performOver_eq (by rw [use]; nofun) (by rw [use]; nofun)]
      exact timed.request wanted (.inr use) opens
  | pushes =>
      cases wanted with
      | invoke function receiver arguments => exact seen.invoke _ _ _
      | callFromFrame function receiver arguments =>
          exact traces.callFromFrame seen _ _ _
      | callMethodFromFrame target name arguments =>
          exact (timed.methodOf target name).bind fun method =>
            traces.callFromFrame seen _ _ _
      | pushFrame frame => exact traces.lift (traces.moves.pushFrame frame)
      | _ => cases use
  | pops =>
      cases wanted with
      | returnFromFrame value =>
          exact traces.lift (traces.moves.returnFromFrame value)
      | _ => cases use
  | runs =>
      cases wanted with
      | runAbove depth => exact seen.runAbove depth
      | _ => cases use
  | unloads => exact absurd use stays

theorem program
    (traces : Traces R tied stuck)
    (seen : calls.RecordedBy tied stuck entries outside)
    (seenInside : calls.RecordedBy tied stuck (entries + 1) inside)
    (program : Program σ α) :
    Act.Mirrors (tied entries) stuck calls inside program.run
      (program.record entries outside) := by
  induction program with
  | finish outcome =>
      cases outcome with
      | ok result => exact traces.after_note false (.pure result)
      | error fault => exact traces.after_note false (.fail fault)
  | request wanted next inductionHypothesis =>
      by_cases unloads : wanted.frameUse = .unloads
      · cases wanted with
        | unload =>
            rintro ⟨machine, own⟩ ⟨other, kept⟩ isTied
            obtain rfl : other = machine := traces.machine isTied
            exact inductionHypothesis _ _ _ (traces.unloaded isTied)
        | _ => cases unloads
      · exact traces.after_note _
          ((traces.request seen seenInside wanted unloads).attempt.bind
            inductionHypothesis)
  | own work next inductionHypothesis =>
      rintro ⟨machine, own⟩ ⟨other, kept, moments⟩ isTied
      obtain rfl : kept = own := traces.own isTied
      exact inductionHypothesis _ _ _ (traces.owned _ isTied)

theorem startCall
    (traces : Traces R tied stuck)
    (seen : calls.RecordedBy tied stuck entries outside)
    (seenInside : calls.RecordedBy tied stuck (entries + 1) inside)
    (host : Host σ)
    (function receiver : Value)
    (arguments : List Value) :
    Act.Mirrors (tied entries) stuck calls inside
      (host.startCall function receiver arguments)
      (host.recordedStart entries outside function receiver arguments) := by
  have timed := traces.timed seenInside
  have asked := timed.toActCongruence.ask (·.toFunction function)
  refine traces.after_note false (asked.bind fun (callee, callable) => ?_)
  dsimp only
  split
  · exact traces.builtin seen seenInside _ _ _
  · exact traces.program seen seenInside _
  · have built :=
      timed.buildFrame traces.toScopeStable ‹_› callee receiver arguments
    refine built.bind fun frame => ?_
    exact (traces.lift (traces.moves.pushFrame frame)).bind
      fun _ => .pure _

/-- However deep calls nest, the recorded ones do what the calls do. -/
theorem recordedCalls
    (traces : Traces R tied stuck)
    (host : Host σ)
    (fuel entries : Nat) :
    (host.calls fuel).RecordedBy tied stuck entries
      (host.recordedCalls fuel entries) := by
  induction fuel generalizing entries with
  | zero =>
      exact ⟨fun _ _ _ _ _ isTied => .outOfFuel (traces.stops isTied),
        fun _ _ _ isTied => .outOfFuel (traces.stops isTied),
        fun _ _ _ _ _ isTied => .outOfFuel (traces.stops isTied)⟩
  | succ fuel seen =>
      refine ⟨?_, ?_, ?_⟩
      · exact traces.startCall (seen entries) (seen (entries + 1)) host
      · intro depth session recorded isTied
        exact Host.runFrames_alike traces.stops traces.machine host.dispatcher
          (traces.program (seen entries) (seen (entries + 1))) depth fuel
          (traces.noted false isTied)
      · rintro outer rfl
        exact (traces.timed (seen (outer + 1))).exportLevel

/-- The recorded run ends like the run itself. -/
theorem record_alike
    (traces : Traces R tied stuck)
    (host : Host σ)
    (fuel : Nat)
    (program : Program σ α)
    (session : Session σ)
    (begins :
      tied 0 session
        ⟨session.machine, session.host, [⟨session.machine, 0, false⟩]⟩) :
    EndsAlike (tied 0) stuck (host.perform fuel program session)
      (host.record fuel program session) :=
  traces.program (traces.recordedCalls host fuel 0)
    (traces.recordedCalls host fuel 1) program session _ begins

end Traces

/--
The recorded session is the session together with moments that lead up to it,
each related to all that come later.
-/
structure LeadsUpTo
    {σ : Type}
    (R : Machine → Machine → Prop)
    (start : Machine)
    (session : Session σ)
    (recorded : Session (Recorded σ)) :
    Prop where
  machine : recorded.machine = session.machine
  own : recorded.host.own = session.host
  begins :
    (recorded.host.moments.map Moment.machine).head? = some start
  inOrder :
    (recorded.host.moments.map Moment.machine ++
      [session.machine]).Pairwise R

namespace LeadsUpTo

variable {σ : Type} {R : Machine → Machine → Prop} {start : Machine}
variable {session : Session σ} {recorded : Session (Recorded σ)}

theorem lasts
    {changed : Machine}
    (trans : ∀ ⦃first second third⦄,
      R first second → R second third → R first third)
    (leads : LeadsUpTo R start session recorded)
    (across : R session.machine changed) :
    LeadsUpTo R start ⟨changed, session.host⟩ ⟨changed, recorded.host⟩ := by
  refine ⟨rfl, leads.own, leads.begins, ?_⟩
  obtain ⟨earlier, -, reaches⟩ := List.pairwise_append.mp leads.inOrder
  refine List.pairwise_append.mpr
    ⟨earlier, List.pairwise_singleton R changed, ?_⟩
  intro moment member last here
  rw [List.mem_singleton.mp here]
  exact trans (reaches moment member _ List.mem_cons_self) across

theorem noted
    (refl : ∀ machine, R machine machine)
    (entries : Nat)
    (unloads : Bool)
    (leads : LeadsUpTo R start session recorded) :
    LeadsUpTo R start session
      (Recorded.noted entries unloads recorded) := by
  have extended :
      (Recorded.noted entries unloads recorded).host.moments.map
          Moment.machine =
        recorded.host.moments.map Moment.machine ++ [session.machine] := by
    rw [← leads.machine]
    exact List.map_append
  refine ⟨leads.machine, leads.own, ?_, ?_⟩
  · simp [extended, leads.begins]
  · rw [extended]
    refine List.pairwise_append.mpr
      ⟨leads.inOrder, List.pairwise_singleton R _, ?_⟩
    intro moment member last here
    rw [List.mem_singleton.mp here]
    rcases List.mem_append.mp member with earlier | now
    · exact (List.pairwise_append.mp leads.inOrder).2.2 moment earlier _
        List.mem_cons_self
    · rw [List.mem_singleton.mp now]
      exact refl session.machine

/-- What every step respects holds along the moments of a run. -/
theorem traces
    (stable : StepStable R)
    (start : Machine) :
    Traces R (fun _ => LeadsUpTo (σ := σ) R start) (LeadsUpTo R start) where
  toFrameStable := stable.toFrameStable
  moves := stable.moves
  opens := stable.opens
  machine := LeadsUpTo.machine
  own := LeadsUpTo.own
  lasts := lasts stable.trans
  noted unloads leads := leads.noted stable.refl _ unloads
  owned own leads := ⟨leads.machine, rfl, leads.begins, leads.inOrder⟩
  refused := by
    intro machine changed fault shut
    have across := stable.enterHost machine
    rw [shut] at across
    exact across
  entered := by
    intro entries session recorded opened leads
    have across := stable.enterHost session.machine
    rw [opened] at across
    exact leads.lasts stable.trans across
  left leads := leads.lasts stable.trans (stable.leaveHost 0 (.ok .null) _)
  abandoned base leads :=
    leads.lasts stable.trans
      (stable.leaveHost base (.error .missingResult) _)
  stops := id
  unloaded leads :=
    (leads.noted stable.refl _ true).lasts stable.trans (stable.unload _)

end LeadsUpTo

namespace Host

variable {σ α : Type} {R : Machine → Machine → Prop}

/-- The recorded run ends like the run itself, after moments in order. -/
theorem record_leadsUpTo
    (stable : StepStable R)
    (host : Host σ)
    (fuel : Nat)
    (program : Program σ α)
    (session : Session σ) :
    Alike (LeadsUpTo R session.machine)
      (host.perform fuel program session)
      (host.record fuel program session) := by
  have traces := LeadsUpTo.traces (σ := σ) stable session.machine
  refine traces.record_alike host fuel program session ⟨rfl, rfl, rfl, ?_⟩
  exact List.pairwise_pair.mpr (stable.refl session.machine)

/-- A run starts with the machine it is given. -/
theorem moments_head
    (host : Host σ)
    (fuel : Nat)
    (program : Program σ α)
    (session : Session σ) :
    (host.moments fuel program session).head? = some session.machine := by
  have alike := host.record_leadsUpTo .total fuel program session
  rw [moments, course]
  generalize host.perform fuel program session = outcome at alike
  generalize host.record fuel program session = image at alike ⊢
  cases alike with
  | ok result leads => simp [remaining, leads.begins]
  | fault fault leads => simp [remaining, leads.begins]
  | outOfFuel leads => simp [remaining, leads.begins]

/-- A run ends with the machine it leaves. -/
theorem moments_getLast
    (host : Host σ)
    (fuel : Nat)
    (program : Program σ α)
    (session : Session σ) :
    (host.moments fuel program session).getLast? =
      some (remaining (host.perform fuel program session)).machine := by
  have alike := host.record_leadsUpTo .total fuel program session
  rw [moments, course]
  generalize host.perform fuel program session = outcome at alike ⊢
  generalize host.record fuel program session = image at alike ⊢
  cases alike with
  | ok result leads => simp [remaining, leads.machine]
  | fault fault leads => simp [remaining, leads.machine]
  | outOfFuel leads => simp [remaining, leads.machine]

/-- What every step respects holds from each moment to all later ones. -/
theorem moments_pairwise
    (stable : StepStable R)
    (host : Host σ)
    (fuel : Nat)
    (program : Program σ α)
    (session : Session σ) :
    (host.moments fuel program session).Pairwise R := by
  have alike := host.record_leadsUpTo stable fuel program session
  rw [moments, course]
  generalize host.perform fuel program session = outcome at alike
  generalize host.record fuel program session = image at alike ⊢
  cases alike with
  | ok result leads => exact leads.machine ▸ leads.inOrder
  | fault fault leads => exact leads.machine ▸ leads.inOrder
  | outOfFuel leads => exact leads.machine ▸ leads.inOrder

/-- What every step respects holds from the start to every moment. -/
theorem moments_related
    (stable : StepStable R)
    (host : Host σ)
    (fuel : Nat)
    (program : Program σ α)
    (session : Session σ)
    {moment : Machine}
    (member : moment ∈ host.moments fuel program session) :
    R session.machine moment := by
  have inOrder := host.moments_pairwise stable fuel program session
  obtain ⟨later, begins⟩ :=
    List.head?_eq_some_iff.mp (host.moments_head fuel program session)
  rw [begins] at inOrder member
  rcases List.mem_cons.mp member with rfl | follows
  · exact stable.refl session.machine
  · exact (List.pairwise_cons.mp inOrder).1 moment follows

end Host

end MovieScript
