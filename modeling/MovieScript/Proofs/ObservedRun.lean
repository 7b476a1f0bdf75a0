import MovieScript.Proofs.IntervalHistory
import MovieScript.Proofs.TickTurns

namespace MovieScript

/-!
# Observed runs

A run can be observed: each time that something happens to the intervals it is
written into a history, which is kept beside what the host keeps for itself and
which no program can see.  A firing is written down by the call of the callback
and by nothing else: an observed tick is a tick whose callbacks note that they
are called.  An observed run ends in the same way as the run itself and leaves
the same behind, and its history accounts for the intervals.
-/

/-- What the host keeps for itself, and what has happened to the intervals. -/
structure Observed (σ : Type) where
  own : σ
  past : List Occurrence

namespace Observed

variable {σ : Type}

/-- The place in the history of what happens next. -/
def place : Act (Observed σ) Nat := fun _ session =>
  .ok session.host.past.length session

/-- Write an occurrence into the history. -/
def note (occurrence : Occurrence) : Act (Observed σ) Unit :=
  fun _ session =>
    .ok ()
      ⟨session.machine, session.host.own, session.host.past ++ [occurrence]⟩

theorem place_bind
    {α : Type}
    {calls : Calls (Observed σ)}
    {session : Session (Observed σ)}
    (next : Nat → Act (Observed σ) α) :
    (place >>= next) calls session =
      next session.host.past.length calls session :=
  rfl

theorem note_bind
    {α : Type}
    {calls : Calls (Observed σ)}
    {session : Session (Observed σ)}
    (occurrence : Occurrence)
    (next : Unit → Act (Observed σ) α) :
    (note occurrence >>= next) calls session =
      next () calls
        ⟨session.machine, session.host.own,
          session.host.past ++ [occurrence]⟩ :=
  rfl

/-- Register an interval and note it with the time. -/
def createInterval
    (name : String)
    (period : Nat)
    (callback receiver : Value)
    (arguments : List Value) :
    Act (Observed σ) Unit := do
  Edit.createInterval name period callback receiver arguments
  let time ← Act.inspect (·.clock)
  note (.registered name period time)

/-- Remove an interval and note it. -/
def clearInterval (name : String) : Act (Observed σ) Bool := do
  let found ← (Edit.clearInterval name : Edit Bool)
  note (.cleared name)
  return found

/-- Tear the running movie down and note that no interval is left. -/
def unload : Act (Observed σ) Unit := do
  Edit.unload
  note .emptied

/--
Call the function of an interval and note the call, in a tick that began at a
place of the history.
-/
def callInterval
    (tick now : Nat)
    (name : String)
    (interval : Interval) :
    Act (Observed σ) Value := do
  note (.fired tick name now interval.callback)
  Act.callInterval interval

/--
A tick, which is noted with its time and the names that get a turn if it
begins, and which notes each callback as it calls it.
-/
def tick : Act (Observed σ) Nat := do
  let now ← Act.inspect (·.clock)
  let names ← Act.inspect (·.intervals.keys)
  let tick ← place
  if ← Act.inspect (·.frames.isEmpty) then
    note (.tickBegan now names)
  Act.tickWith (callInterval tick now)

/-- A tick that begins is noted and calls the callbacks, each with its note. -/
theorem tick_idle
    {calls : Calls (Observed σ)}
    {session : Session (Observed σ)}
    (idle : session.machine.frames = []) :
    tick calls session =
      Act.tickWith
        (callInterval session.host.past.length session.machine.clock) calls
        ⟨session.machine, session.host.own,
          session.host.past ++
            [.tickBegan session.machine.clock
              session.machine.intervals.keys]⟩ := by
  rw [tick, Act.inspect_bind, Act.inspect_bind, place_bind,
    Act.inspect_bind, if_pos (List.isEmpty_iff.mpr idle), note_bind]

theorem tick_busy
    {calls : Calls (Observed σ)}
    {session : Session (Observed σ)}
    (busy : session.machine.frames ≠ []) :
    tick calls session = .error (.fault .tickWhileRunning) session := by
  rw [tick, Act.inspect_bind, Act.inspect_bind, place_bind,
    Act.inspect_bind, if_neg (mt List.isEmpty_iff.mp busy)]
  exact Act.tickWith_busy busy _

/-- The global function `setInterval`. -/
def setInterval
    (receiver : Value)
    (arguments : List Value) :
    Act (Observed σ) Value := do
  let (callback, callbackReceiver, rest) ←
    GlobalFunction.intervalTarget receiver arguments
  match rest with
  | [] => Act.fail (.arity "setInterval" arguments.length)
  | period :: extra => do
      let name ← Edit.nextIntervalName
      createInterval name period.toInteger.toInt.toNat callback
        callbackReceiver extra
      return .text name

/-- The global function `clearInterval`. -/
def clearNamed (arguments : List Value) : Act (Observed σ) Value := do
  let name ← Edit.displayText (argument arguments 0)
  discard (clearInterval name)
  return .undefined

end Observed

section Observe

variable {σ α β : Type}

/-- Run a built-in function and note what it does to the intervals. -/
def Builtin.observe
    (function : Builtin)
    (receiver : Value)
    (arguments : List Value) :
    Act (Observed σ) Invocation :=
  match function with
  | .setInterval => do
      let name ← Observed.setInterval receiver arguments
      return .complete name
  | .clearInterval => do
      let result ← Observed.clearNamed arguments
      return .complete result
  | other => other.run receiver arguments

theorem Builtin.observe_of_untimed
    {function : Builtin}
    (untimed : function.concernsIntervals = false)
    (receiver : Value)
    (arguments : List Value) :
    (function.observe receiver arguments : Act (Observed σ) Invocation) =
      function.run receiver arguments := by
  cases function with
  | setInterval => cases untimed
  | clearInterval => cases untimed
  | _ => rfl

/-- Perform a request and note what it does to the intervals. -/
def Request.observe : Request β → Act (Observed σ) β
  | .createInterval name period callback receiver arguments =>
      Observed.createInterval name period callback receiver arguments
  | .clearInterval name => Observed.clearInterval name
  | .tick => Observed.tick
  | .unload => Observed.unload
  | other => other.perform

theorem Request.observe_of_untimed
    {wanted : Request β}
    (untimed : wanted.concernsIntervals = false) :
    (wanted.observe : Act (Observed σ) β) = wanted.perform := by
  cases wanted with
  | createInterval name period callback receiver arguments => cases untimed
  | clearInterval name => cases untimed
  | tick => cases untimed
  | unload => cases untimed
  | _ => rfl

/-- Run a program and note what it does to the intervals. -/
def Program.observe : Program σ α → Act (Observed σ) α
  | .finish (.ok result) => return result
  | .finish (.error fault) => Act.fail fault
  | .request wanted rest => do
      let answer ← Act.attempt wanted.observe
      (rest answer).observe
  | .own work rest => fun calls session =>
      match session with
      | ⟨machine, kept, past⟩ =>
          let (answer, changed) := work kept
          (rest answer).observe calls ⟨machine, changed, past⟩

namespace Host

/-- Start a call and note what it does to the intervals. -/
def observedStart
    (host : Host σ)
    (function receiver : Value)
    (arguments : List Value) :
    Act (Observed σ) Invocation := do
  let (callee, callable) ← Act.ask (·.toFunction function)
  match callable with
  | .native ⟨_, .builtin builtin⟩ => builtin.observe receiver arguments
  | .native ⟨_, .host number⟩ =>
      (host.native number receiver arguments).observe
  | .defined closure => do
      let frame ← Act.buildFrame closure callee receiver arguments
      Edit.pushFrame frame
      return .pending

/-- What observed calls do when `fuel` levels of nesting are left. -/
def observedCalls (host : Host σ) : Nat → Calls (Observed σ)
  | 0 =>
      { invoke := fun _ _ _ => throw .outOfFuel
        runAbove := fun _ => throw .outOfFuel
        exportBelow := fun _ _ => throw .outOfFuel }
  | fuel + 1 =>
      { invoke := fun function receiver arguments =>
          host.observedStart function receiver arguments
            (host.observedCalls fuel)
        runAbove := fun depth =>
          runFrames
            (host.dispatcher.map fun instruction =>
              instruction.observe (host.observedCalls fuel))
            depth fuel
        exportBelow := fun visiting value =>
          Act.exportLevel visiting value (host.observedCalls fuel) }

/-- Run a program of the host, observed from the beginning. -/
def observe
    (host : Host σ)
    (fuel : Nat)
    (program : Program σ α)
    (session : Session σ) :
    EStateM.Result Stop (Session (Observed σ)) α :=
  program.observe (host.observedCalls fuel)
    ⟨session.machine, session.host, []⟩

end Host

end Observe

/--
The observed session tells the session: it is the same with a history, which
accounts for the intervals and goes on from the one before.
-/
structure Tells
    {σ : Type}
    (start : Table String Interval)
    (before : List Occurrence)
    (session : Session σ)
    (observed : Session (Observed σ)) :
    Prop where
  machine : observed.machine = session.machine
  own : observed.host.own = session.host
  accounts : Accounts start observed.host.past session.machine.intervals
  continues : before <+: observed.host.past

theorem Tells.of_beginning
    {σ : Type}
    {start : Table String Interval}
    {before longer : List Occurrence}
    {session : Session σ}
    {observed : Session (Observed σ)}
    (tells : Tells start longer session observed)
    (begins : before <+: longer) :
    Tells start before session observed :=
  ⟨tells.machine, tells.own, tells.accounts,
    begins.trans tells.continues⟩

/-- The intervals are the same. -/
def KeepsIntervals (before after : Machine) : Prop :=
  after.intervals = before.intervals

theorem KeepsIntervals.frameQuiet : FrameQuiet KeepsIntervals :=
  .of_quiet (fun _ _ _ earlier later => Eq.trans later earlier)
    (fun _ _ quiet => quiet.intervals) fun _ _ _ _ _ _ => rfl

theorem KeepsIntervals.scopeStable : ScopeStable KeepsIntervals :=
  .of_quiet fun _ _ quiet => quiet.intervals

theorem KeepsIntervals.opens {β : Type} (wanted : Request β) :
    wanted.Opens KeepsIntervals :=
  wanted.opens_of_quiet fun _ _ quiet => quiet.intervals

theorem KeepsIntervals.enterHost :
    Respects KeepsIntervals Edit.enterHost := by
  intro machine
  rcases enterHost_run machine with opened | ⟨fault, log, shut⟩
  · rw [opened]
    rfl
  · rw [shut]
    rfl

theorem KeepsIntervals.leaveHost
    (base : Nat)
    (outcome : Except Fault Value) :
    Respects KeepsIntervals (Edit.leaveHost base outcome) := by
  intro machine
  cases outcome with
  | ok value => rfl
  | error fault => rfl

theorem KeepsIntervals.moves : FrameMoves KeepsIntervals :=
  .of_any fun _ _ _ => rfl

/-- The image does what the act does and observes it. -/
def Observes
    {σ α : Type}
    (start : Table String Interval)
    (before : List Occurrence)
    (calls : Calls σ)
    (observer : Calls (Observed σ))
    (act : Act σ α)
    (image : Act (Observed σ) α) :
    Prop :=
  Act.Mirrors (Tells start before) (Tells start before) calls observer act
    image

/-- The observing calls do what the calls do, whatever happened before. -/
structure Calls.SeenBy
    {σ : Type}
    (start : Table String Interval)
    (calls : Calls σ)
    (observer : Calls (Observed σ)) :
    Prop where
  invoke : ∀ before function receiver arguments,
    Observes start before calls observer
      (Act.invoke function receiver arguments)
      (Act.invoke function receiver arguments)
  runAbove : ∀ before depth,
    Observes start before calls observer (Act.runAbove depth)
      (Act.runAbove depth)
  exportBelow : ∀ before visiting value,
    Observes start before calls observer (Act.exportBelow visiting value)
      (Act.exportBelow visiting value)

namespace Observes

variable {σ α β : Type} {start : Table String Interval}
variable {before : List Occurrence}
variable {calls : Calls σ} {observer : Calls (Observed σ)}

/-- An edit that leaves the intervals alone needs no note. -/
theorem lift
    {work : Edit α}
    (kept : Respects KeepsIntervals work) :
    Observes start before calls observer (liftM work) (liftM work) := by
  refine Act.Mirrors.lift (fun tells => tells.machine) ?_ kept
  intro session observed changed tells same
  refine ⟨rfl, tells.own, ?_, tells.continues⟩
  rw [show changed.intervals = session.machine.intervals from same]
  exact tells.accounts

theorem inHostEntry
    {body : Nat → Act σ Value}
    {image : Nat → Act (Observed σ) Value}
    (within : ∀ base,
      Observes start before calls observer (body base) (image base)) :
    Observes start before calls observer (Act.inHostEntry body)
      (Act.inHostEntry image) :=
  (lift KeepsIntervals.enterHost).bind fun base =>
    (within base).attempt.bind fun outcome =>
      lift (KeepsIntervals.leaveHost base outcome)

/-! Changes of the intervals, each with its note. -/

theorem createInterval
    (name : String)
    (period : Nat)
    (callback receiver : Value)
    (arguments : List Value) :
    Observes start before calls observer
      (liftM (Edit.createInterval name period callback receiver arguments))
      (Observed.createInterval name period callback receiver arguments) := by
  rintro ⟨_, _⟩ ⟨machine, own, past⟩ ⟨rfl, rfl, accounts, continues⟩
  rcases Edit.createInterval_run name period callback receiver arguments
    machine with ⟨fault, refused⟩ | ⟨interval, -, -, rfl, lastFire, done⟩
  · rw [Act.lift_error refused, Observed.createInterval,
      Act.bind_error (Act.lift_error refused)]
    exact .error _ ⟨rfl, rfl, accounts, continues⟩
  · rw [Act.lift_ok done, Observed.createInterval,
      Act.bind_ok (Act.lift_ok done), Act.inspect_bind]
    refine .ok () ⟨rfl, rfl, accounts.concat ?_,
      continues.trans (List.prefix_append _ _)⟩
    exact lastFire ▸ .registered name interval

theorem clearInterval (name : String) :
    Observes start before calls observer
      (liftM (Edit.clearInterval name)) (Observed.clearInterval name) := by
  rintro ⟨_, _⟩ ⟨machine, own, past⟩ ⟨rfl, rfl, accounts, continues⟩
  exact .ok _ ⟨rfl, rfl, accounts.concat (.cleared name),
    continues.trans (List.prefix_append _ _)⟩

theorem clearNamed (arguments : List Value) :
    Observes start before calls observer
      (liftM (GlobalFunction.clearInterval arguments))
      (Observed.clearNamed arguments) := by
  have named :=
    KeepsIntervals.frameQuiet.displayText (argument arguments 0)
  rw [GlobalFunction.clearInterval, Act.lift_bind]
  refine (lift named).bind fun name => ?_
  rintro ⟨_, _⟩ ⟨machine, own, past⟩ ⟨rfl, rfl, accounts, continues⟩
  exact .ok _ ⟨rfl, rfl, accounts.concat (.cleared name),
    continues.trans (List.prefix_append _ _)⟩

theorem unload :
    Observes start before calls observer (liftM Edit.unload)
      Observed.unload := by
  rintro ⟨_, _⟩ ⟨machine, own, past⟩ ⟨rfl, rfl, accounts, continues⟩
  have ran := Edit.unload_run machine
  rw [Act.lift_ok ran, Observed.unload, Act.bind_ok (Act.lift_ok ran)]
  exact .ok () ⟨rfl, rfl, accounts.concat .emptied,
    continues.trans (List.prefix_append _ _)⟩

end Observes

namespace Calls.SeenBy

variable {σ α β : Type} {start : Table String Interval}
variable {calls : Calls σ} {observer : Calls (Observed σ)}

theorem entry
    (seen : Calls.SeenBy start calls observer)
    (before : List Occurrence) :
    EntryCongruence KeepsIntervals (fun _ => True)
      (fun act image => Observes start before calls observer act image) where
  toFrameQuiet := KeepsIntervals.frameQuiet
  toScopeStable := KeepsIntervals.scopeStable
  lift := Observes.lift
  pure := .pure
  fail := .fail
  bind := .bind
  pushFrame := KeepsIntervals.moves.pushFrame
  takeHostResult := KeepsIntervals.moves.takeHostResult
  inHostEntry within := Observes.inHostEntry fun base => within base trivial
  invoke := seen.invoke before
  runAbove base _ := seen.runAbove before base
  exportBelow := seen.exportBelow before

theorem congruence
    (seen : Calls.SeenBy start calls observer)
    (before : List Occurrence) :
    CallCongruence KeepsIntervals
      (fun act image => Observes start before calls observer act image)
      (fun act image => Observes start before calls observer act image) where
  toActCongruence := (seen.entry before).actCongruence
  complete _ := .pure _
  refuse := .fail
  andThen := .bind
  invoke := seen.invoke before

/-! Ticks. -/

variable {before : List Occurrence}

theorem fire
    (seen : Calls.SeenBy start calls observer)
    (name : String)
    (interval : Interval) :
    Observes start before calls observer
      (Act.fire name (Act.callInterval interval))
      (Act.fire name (Act.callInterval interval)) := by
  have called := (seen.entry before).call (.object interval.callback)
    interval.receiver interval.arguments
  refine called.attempt.bind fun outcome => ?_
  cases outcome with
  | ok value => exact .pure ()
  | error fault => exact Observes.lift (KeepsIntervals.frameQuiet.report _ _)

/-- The turns of a tick that began at a place of the history. -/
theorem turns
    (seen : Calls.SeenBy start calls observer)
    {tick now : Nat}
    {names : List String}
    (began : before[tick]? = some (.tickBegan now names))
    (turns : List String)
    (members : ∀ name ∈ turns, name ∈ names) :
    Observes start before calls observer
      (Act.turns (fun _ => Act.callInterval) now turns)
      (Act.turns (Observed.callInterval tick now) now turns) := by
  induction turns with
  | nil => exact .pure []
  | cons name rest inductionHypothesis =>
      obtain ⟨member, later⟩ := List.forall_mem_cons.mp members
      rintro ⟨_, _⟩ ⟨machine, own, past⟩ ⟨rfl, rfl, accounts, continues⟩
      cases due : machine.due? name now with
      | none =>
          rw [Act.turns_cons_idle due, Act.turns_cons_idle due]
          exact inductionHypothesis later _ _
            ⟨rfl, rfl, accounts, continues⟩
      | some interval =>
          rw [Act.turns_cons_due due, Act.turns_cons_due due]
          obtain ⟨found, isDue⟩ := Option.filter_eq_some_iff.mp due
          have beganThen : past[tick]? = some (.tickBegan now names) := by
            obtain ⟨inside, here⟩ := List.getElem?_eq_some_iff.mp began
            rw [← here]
            exact List.prefix_iff_getElem?.mp continues tick inside
          have leads :=
            Leads.fired tick name now names interval beganThen member found
              isDue
          -- The call begins with its note, from which the rest goes on.
          refine ((seen.fire name interval).bind fun _ =>
            (inductionHypothesis later).bind fun others =>
              .pure (name :: others)) _
            ⟨machine.firing name now interval, own,
              past ++ [.fired tick name now interval.callback]⟩ ?_
          exact ⟨rfl, rfl, accounts.concat leads,
            continues.trans (List.prefix_append _ _)⟩

theorem tick (seen : Calls.SeenBy start calls observer) :
    Observes start before calls observer Act.tick Observed.tick := by
  rintro ⟨_, _⟩ ⟨machine, own, past⟩ ⟨rfl, rfl, accounts, continues⟩
  rw [Act.tick_eq]
  by_cases idle : machine.frames = []
  · rw [Observed.tick_idle idle, Act.tickWith_idle idle,
      Act.tickWith_idle idle]
    -- The turns go on from a history that ends with the beginning of the tick.
    let began := past ++ [.tickBegan machine.clock machine.intervals.keys]
    have here :
        began[past.length]? =
          some (.tickBegan machine.clock machine.intervals.keys) :=
      List.getElem?_concat_length
    have fired :=
      (seen.turns here machine.intervals.keys fun _ => id).bind fun fired =>
        (Observes.lift KeepsIntervals.frameQuiet.collectIfDue).bind fun _ =>
          .pure fired.length
    refine (fired ⟨machine, own⟩ ⟨machine, own, began⟩ ?_).mono ?_
    · exact ⟨rfl, rfl, accounts.concat (.tickBegan machine.clock),
        List.prefix_refl began⟩
    · exact fun _ _ tells => tells.of_beginning
        (continues.trans (List.prefix_append _ _))
  · rw [Observed.tick_busy idle, Act.tickWith_busy idle]
    exact .error _ ⟨rfl, rfl, accounts, continues⟩

/-! Built-in functions and requests. -/

theorem setInterval
    (seen : Calls.SeenBy start calls observer)
    (receiver : Value)
    (arguments : List Value) :
    Observes start before calls observer
      (GlobalFunction.setInterval receiver arguments)
      (Observed.setInterval receiver arguments) := by
  have targeted :=
    (seen.congruence before).intervalTarget receiver arguments
  refine targeted.bind ?_
  rintro ⟨callback, callbackReceiver, rest⟩
  cases rest with
  | nil => exact .fail _
  | cons period extra =>
      have named := KeepsIntervals.frameQuiet.nextIntervalName
      exact (Observes.lift named).bind fun name =>
        (Observes.createInterval _ _ _ _ _).bind fun _ => .pure _

theorem builtin
    (seen : Calls.SeenBy start calls observer)
    (function : Builtin)
    (receiver : Value)
    (arguments : List Value) :
    Observes start before calls observer (function.run receiver arguments)
      (function.observe receiver arguments) := by
  cases timed : function.concernsIntervals with
  | false =>
      rw [Builtin.observe_of_untimed timed]
      exact (seen.congruence before).builtin function _ _ timed
  | true =>
      cases function with
      | setInterval =>
          exact (seen.setInterval _ _).bind fun name => .pure _
      | clearInterval =>
          exact (Observes.clearNamed _).bind fun result => .pure _
      | _ => cases timed

theorem callFromFrame
    (seen : Calls.SeenBy start calls observer)
    (function receiver : Value)
    (arguments : List Value) :
    Observes start before calls observer
      (Act.callFromFrame function receiver arguments)
      (Act.callFromFrame function receiver arguments) := by
  refine (seen.invoke before _ _ _).bind fun invocation => ?_
  cases invocation with
  | complete value =>
      exact Observes.lift (KeepsIntervals.frameQuiet.pushOperand value)
  | pending => exact .pure ()

theorem request
    (seen : Calls.SeenBy start calls observer)
    (wanted : Request β) :
    Observes start before calls observer wanted.perform wanted.observe := by
  have congruence := (seen.congruence before).toActCongruence
  cases timed : wanted.concernsIntervals with
  | true =>
      cases wanted with
      | createInterval name period callback receiver arguments =>
          exact .createInterval _ _ _ _ _
      | clearInterval name => exact .clearInterval name
      | tick => exact seen.tick
      | unload => exact .unload
      | _ => cases timed
  | false =>
      rw [Request.observe_of_untimed timed]
      have opens := KeepsIntervals.opens wanted
      cases use : wanted.frameUse with
      | apart =>
          exact congruence.toEditCongruence.request wanted use timed opens
      | within => exact congruence.request wanted use timed opens
      | pushes =>
          cases wanted with
          | invoke function receiver arguments => exact seen.invoke before _ _ _
          | callFromFrame function receiver arguments =>
              exact seen.callFromFrame _ _ _
          | callMethodFromFrame target name arguments =>
              have found := congruence.methodOf target name
              exact found.bind fun method => seen.callFromFrame _ _ _
          | pushFrame frame =>
              exact .lift (KeepsIntervals.moves.pushFrame frame)
          | _ => cases use
      | pops =>
          cases wanted with
          | returnFromFrame value =>
              exact .lift
                (KeepsIntervals.moves.returnFromFrame value)
          | _ => cases use
      | runs =>
          cases wanted with
          | runAbove depth => exact seen.runAbove before depth
          | _ => cases use
      | unloads =>
          cases wanted with
          | unload => cases timed
          | _ => cases use

theorem program
    (seen : Calls.SeenBy start calls observer)
    (program : Program σ α) :
    Observes start before calls observer program.run program.observe := by
  induction program with
  | finish outcome =>
      cases outcome with
      | ok result => exact .pure result
      | error fault => exact .fail fault
  | request wanted next inductionHypothesis =>
      exact (seen.request wanted).attempt.bind inductionHypothesis
  | own work next inductionHypothesis =>
      rintro ⟨_, _⟩ ⟨machine, own, past⟩ ⟨rfl, rfl, accounts, continues⟩
      exact inductionHypothesis (work own).1 _
        ⟨machine, (work own).2, past⟩ ⟨rfl, rfl, accounts, continues⟩

theorem startCall
    (seen : Calls.SeenBy start calls observer)
    (host : Host σ)
    (function receiver : Value)
    (arguments : List Value) :
    Observes start before calls observer
      (host.startCall function receiver arguments)
      (host.observedStart function receiver arguments) := by
  have congruence := (seen.congruence before).toActCongruence
  have asked := congruence.ask (·.toFunction function)
  refine asked.bind fun (callee, callable) => ?_
  dsimp only
  split
  · exact seen.builtin _ _ _
  · exact seen.program _
  · have built := congruence.buildFrame KeepsIntervals.scopeStable
      ‹_› callee receiver arguments
    refine built.bind fun frame => ?_
    exact (Observes.lift (KeepsIntervals.moves.pushFrame frame)).bind
      fun _ => .pure _

end Calls.SeenBy

namespace Host

variable {σ α : Type} {start : Table String Interval}
variable {before : List Occurrence}

theorem seenBy_observedCalls
    (host : Host σ)
    (start : Table String Interval)
    (fuel : Nat) :
    Calls.SeenBy start (host.calls fuel) (host.observedCalls fuel) := by
  induction fuel with
  | zero =>
      exact ⟨fun _ _ _ _ _ _ tells => .error _ tells,
        fun _ _ _ _ tells => .error _ tells,
        fun _ _ _ _ _ tells => .error _ tells⟩
  | succ fuel seen =>
      refine ⟨?_, ?_, ?_⟩
      · intro before function receiver arguments
        exact seen.startCall host function receiver arguments
      · intro before depth session observed tells
        exact runFrames_alike id (fun tells => tells.machine) host.dispatcher
          seen.program depth fuel tells
      · intro before visiting value
        exact (seen.congruence before).exportLevel visiting value

/-- The observed run ends like the run itself, with an account of it. -/
theorem observe_alike
    (host : Host σ)
    (fuel : Nat)
    (program : Program σ α)
    (session : Session σ) :
    Alike (Tells session.machine.intervals [])
      (host.perform fuel program session)
      (host.observe fuel program session) :=
  (host.seenBy_observedCalls _ fuel).program program session
    ⟨session.machine, session.host, []⟩
    ⟨rfl, rfl, .start, List.nil_prefix⟩

end Host

end MovieScript
