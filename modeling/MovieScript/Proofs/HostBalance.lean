import MovieScript.Classes.Bootstrap
import MovieScript.Proofs.HeapRun
import MovieScript.Proofs.StackInstructions

namespace MovieScript

/-!
# Disciplined hosts

What is asked of host code so that host entries are balanced: instructions act
on the top frame only, and a native function neither pops a frame nor runs one
by itself and leaves as many frames as it finds, or one more for a pending call.
Native functions that are written as tail calls, and the stack instruction set,
are of this kind.  That the depth is the same would not be enough: a native
function could return from a frame which its caller never hears of.
-/

/-- The request neither pops nor runs the frames it finds. -/
def Request.LeavesCallers {β : Type} (wanted : Request β) : Prop :=
  wanted.frameUse = .apart ∨
    wanted.frameUse = .within ∨ wanted.frameUse = .pushes

/-- There are as many frames as before. -/
def SameDepth (before after : Machine) : Prop :=
  after.depth = before.depth

/-- There is one frame more than before. -/
def OneDeeper (before after : Machine) : Prop :=
  after.depth = before.depth + 1

/--
Frames were pushed on frames that are kept, and the open host entries are the
same.
-/
structure Grown (before after : Machine) : Prop where
  frames : ∃ pushed callers,
    after.frames = pushed ++ callers ∧ Kept before.frames callers
  barriers : SameBarriers before after

theorem Undisturbed.sameDepth
    {before after : Machine}
    (across : Undisturbed before after) :
    SameDepth before after :=
  across.frames.length_eq

theorem PushedOne.oneDeeper
    {before after : Machine}
    (across : PushedOne before after) :
    OneDeeper before after := by
  obtain ⟨pushed, callers, frames, kept⟩ := across.frames
  rw [OneDeeper, Machine.depth, frames, List.length_cons, kept.length_eq]
  rfl

namespace Grown

theorem refl (machine : Machine) : Grown machine machine :=
  ⟨⟨[], machine.frames, rfl, .same _⟩, rfl⟩

theorem trans
    ⦃first second third : Machine⦄
    (earlier : Grown first second)
    (later : Grown second third) :
    Grown first third := by
  obtain ⟨⟨pushed, callers, frames, kept⟩, barriers⟩ := earlier
  obtain ⟨⟨more, below, moreFrames, keptAll⟩, sameBarriers⟩ := later
  rw [frames] at keptAll
  obtain ⟨pushed', callers', rfl, keptLater⟩ := keptAll.exists_callers
  refine ⟨⟨more ++ pushed', callers', ?_, kept.trans keptLater⟩,
    barriers.trans sameBarriers⟩
  rw [moreFrames, List.append_assoc]

theorem of_undisturbed
    {before after : Machine}
    (across : Undisturbed before after) :
    Grown before after :=
  ⟨⟨[], after.frames, rfl, across.frames⟩, across.barriers⟩

theorem of_pushedOne
    {before after : Machine}
    (across : PushedOne before after) :
    Grown before after := by
  obtain ⟨⟨pushed, callers, frames, kept⟩, barriers⟩ := across
  exact ⟨⟨[pushed], callers, frames, kept⟩, barriers⟩

/-- The frames that were pushed make up the difference in depth. -/
theorem exists_length
    {before after : Machine}
    (grown : Grown before after) :
    ∃ pushed callers,
      after.frames = pushed ++ callers ∧ Kept before.frames callers ∧
        after.depth = before.depth + pushed.length := by
  obtain ⟨pushed, callers, frames, kept⟩ := grown.frames
  refine ⟨pushed, callers, frames, kept, ?_⟩
  rw [Machine.depth, Machine.depth, frames, List.length_append,
    kept.length_eq, Nat.add_comm]

/-- If the depth is the same, nothing was pushed. -/
theorem undisturbed
    {before after : Machine}
    (grown : Grown before after)
    (same : SameDepth before after) :
    Undisturbed before after := by
  obtain ⟨pushed, callers, frames, kept, depth⟩ := grown.exists_length
  have none : pushed = [] :=
    List.eq_nil_of_length_eq_zero (Nat.add_eq_left.mp (depth.symm.trans same))
  refine ⟨?_, grown.barriers⟩
  rw [KeepsFrames, frames, none]
  exact kept

/-- And if it is one more, then one frame. -/
theorem pushedOne
    {before after : Machine}
    (grown : Grown before after)
    (deeper : OneDeeper before after) :
    PushedOne before after := by
  obtain ⟨pushed, callers, frames, kept, depth⟩ := grown.exists_length
  obtain ⟨frame, rfl⟩ : ∃ frame, pushed = [frame] :=
    List.length_eq_one_iff.mp (Nat.add_left_cancel (depth.symm.trans deeper))
  exact ⟨⟨frame, callers, frames, kept⟩, grown.barriers⟩

end Grown

namespace Program.Every

variable {σ α : Type} {program : Program σ α}

/-- Frames are only pushed by a program that pops and runs none. -/
theorem grown
    {calls : Calls σ}
    (stable : CallStable Undisturbed PushedOne calls)
    (leaves : program.Every Request.LeavesCallers) :
    program.run.Respects Grown calls := by
  refine leaves.respects .refl .trans fun wanted leaves session => ?_
  refine (stable.request_keeps wanted leaves (Undisturbed.opens wanted)
    session).mono ?_ ?_
  · exact fun _ _ across => across.elim .of_undisturbed .of_pushedOne
  · exact fun _ across => across.elim .of_undisturbed .of_pushedOne

theorem noReturns
    (leaves : program.Every Request.LeavesCallers)
    (calls : Calls σ)
    (session : Session σ) :
    program.returns calls session = [] := by
  refine returns_eq_nil (leaves.mono ?_) session
  rintro β wanted (apart | within | pushes)
  · simp [apart]
  · simp [within]
  · simp [pushes]

end Program.Every

namespace Host

variable {σ : Type}

/--
The instructions act on the top frame.  The native functions pop no frame and run
none, and they leave as many frames as they find, or one more if their call is
pending.
-/
structure Disciplined (host : Host σ) : Prop where
  dispatcher : ∀ instruction,
    host.dispatcher = some instruction → instruction.ActsOnTop
  leaves : ∀ number receiver arguments,
    (host.native number receiver arguments).Every Request.LeavesCallers
  depth : ∀ fuel number receiver arguments,
    (host.native number receiver arguments).run.Launches
      SameDepth OneDeeper (host.calls fuel)

/-- Running out the frames above an entry delivers what its bottom frame gave. -/
theorem runsOut_succ
    {host : Host σ}
    {fuel : Nat}
    (dispatcher : ∀ instruction,
      host.dispatcher = some instruction → instruction.ActsOnTop)
    (balanced : (host.calls fuel).Balanced) :
    RunsOut (host.Delivered (fuel + 1)) (host.calls (fuel + 1)) := by
  intro started pushed below frames barrier
  have underway :
      Underway pushed below started.machine.barriers started.machine :=
    ⟨⟨[], pushed, frames, .refl pushed⟩, rfl⟩
  have above : ¬started.machine.depth ≤ below.length :=
    Nat.not_le.mpr underway.depth_lt
  rw [calls_runAbove_succ, if_neg above]
  cases installed : host.dispatcher with
  | none => exact ⟨⟨[pushed], frames⟩, rfl⟩
  | some instruction =>
      refine (loop_ends balanced.callStable barrier
        (dispatcher instruction installed) fuel underway).mono ?_ ?_
      · rintro _ changed ⟨earlier, last, returns, passed, ended⟩
        refine ⟨ended.frames, ended.barriers, ?_⟩
        intro value result
        have sameValue : last.value = value :=
          Option.some.inj (ended.result.symm.trans result)
        refine ⟨earlier, last, ?_, sameValue, ended.delivered, passed⟩
        simp only [entryReturns, installed, returns]
      · exact fun changed unwound => unwound

/-- Calls are balanced if native functions are as long as calls are. -/
theorem balanced_calls
    {host : Host σ}
    (dispatcher : ∀ instruction,
      host.dispatcher = some instruction → instruction.ActsOnTop)
    (native : ∀ fuel,
      (host.calls fuel).Balanced →
        ∀ number receiver arguments,
          (host.native number receiver arguments).run.Launches
            Undisturbed PushedOne (host.calls fuel))
    (fuel : Nat) :
    (host.calls fuel).Balanced := by
  induction fuel with
  | zero =>
      exact ⟨fun _ _ _ _ => trivial, fun _ _ _ _ _ => trivial,
        fun _ _ _ => trivial⟩
  | succ fuel balanced =>
      refine ⟨?_, ?_, ?_⟩
      · exact balanced.callStable.startCall host (native fuel balanced)
      · intro started pushed below frames barrier
        refine (runsOut_succ dispatcher balanced started pushed below
          frames barrier).mono ?_ fun _ => id
        exact fun _ _ cleared =>
          ⟨cleared.1, cleared.2.1, fun _ _ => trivial⟩
      · exact balanced.callStable.congruence.exportLevel

theorem Disciplined.balanced
    {host : Host σ}
    (disciplined : host.Disciplined)
    (fuel : Nat) :
    (host.calls fuel).Balanced := by
  refine balanced_calls disciplined.dispatcher ?_ fuel
  intro fuel balanced number receiver arguments session
  have grown :=
    (disciplined.leaves number receiver arguments).grown
      balanced.callStable session
  have depth := disciplined.depth fuel number receiver arguments session
  refine (grown.and depth).mono ?_ ?_
  · rintro invocation changed ⟨grown, depth⟩
    cases invocation with
    | complete value => exact grown.undisturbed depth
    | pending => exact grown.pushedOne depth
  · exact fun changed kept => kept.1.undisturbed kept.2

theorem Disciplined.runsOut
    {host : Host σ}
    (disciplined : host.Disciplined)
    (fuel : Nat) :
    RunsOut (host.Delivered fuel) (host.calls fuel) := by
  cases fuel with
  | zero => exact fun _ _ _ _ _ => trivial
  | succ fuel =>
      exact runsOut_succ disciplined.dispatcher (disciplined.balanced fuel)

end Host

namespace Program

variable {σ α β : Type}

/--
The program of a native function that leaves the frames to host entries, except
that it may end in a call which is left pending.
-/
inductive EndsInCall : Program σ Invocation → Prop where
  | complete (value : Value) : EndsInCall (.finish (.ok (.complete value)))
  | fail (fault : Fault) : EndsInCall (.finish (.error fault))
  | own {β : Type} (work : σ → β × σ)
      (next : β → Program σ Invocation) :
      (∀ answer, (next answer).EndsInCall) → EndsInCall (.own work next)
  | request {β : Type} (wanted : Request β)
      (next : Except Fault β → Program σ Invocation) :
      wanted.WorksInFrame →
        (∀ answer, (next answer).EndsInCall) →
          EndsInCall (.request wanted next)
  | invoke (function receiver : Value) (arguments : List Value)
      (next : Except Fault Invocation → Program σ Invocation) :
      next (.ok .pending) = .finish (.ok .pending) →
        (∀ value, (next (.ok (.complete value))).EndsInCall) →
          (∀ fault, (next (.error fault)).EndsInCall) →
            EndsInCall (.request (.invoke function receiver arguments) next)

theorem EndsInCall.leavesCallers
    {program : Program σ Invocation}
    (ends : program.EndsInCall) :
    program.Every Request.LeavesCallers := by
  induction ends with
  | complete value => trivial
  | fail fault => trivial
  | own work next _ inductionHypothesis => exact inductionHypothesis
  | request wanted next works _ inductionHypothesis =>
      exact ⟨works.imp_right .inl, inductionHypothesis⟩
  | invoke function receiver arguments next pending _ _
      completed failed =>
      refine ⟨.inr (.inr rfl), ?_⟩
      intro answer
      cases answer with
      | error fault => exact failed fault
      | ok invocation =>
          cases invocation with
          | complete value => exact completed value
          | pending =>
              rw [pending]
              trivial

theorem EndsInCall.launches
    {calls : Calls σ}
    (stable : CallStable Undisturbed PushedOne calls)
    {program : Program σ Invocation}
    (ends : program.EndsInCall) :
    program.run.Launches Undisturbed PushedOne calls := by
  induction ends with
  | complete value => exact stable.complete value
  | fail fault => exact stable.fail fault
  | own work next _ inductionHypothesis =>
      exact fun session =>
        inductionHypothesis (work session.host).1
          ⟨session.machine, (work session.host).2⟩
  | request wanted next works _ inductionHypothesis =>
      have opens := Undisturbed.opens wanted
      have respected : wanted.perform.Respects Undisturbed calls := by
        rcases works with apart | within
        · exact stable.toEditStable.request calls wanted apart opens
        · exact stable.toActStable.request wanted within opens
      exact stable.bind (Act.respects_attempt respected)
        inductionHypothesis
  | invoke function receiver arguments next pending _ _
      completed failed =>
      intro session
      refine (stable.invoke function receiver arguments
        session).attempt.bind ?_
      intro answer changed across
      cases answer with
      | error fault => exact stable.launches_after (failed fault) across
      | ok invocation =>
          cases invocation with
          | complete value =>
              exact stable.launches_after (completed value) across
          | pending =>
              rw [pending]
              exact across

end Program

namespace Host

variable {σ : Type}

/-- Native functions that end in a call are all that is asked for. -/
theorem disciplined_of_endsInCall
    {host : Host σ}
    (dispatcher : ∀ instruction,
      host.dispatcher = some instruction → instruction.ActsOnTop)
    (native : ∀ number receiver arguments,
      (host.native number receiver arguments).EndsInCall) :
    host.Disciplined := by
  refine ⟨dispatcher, fun number receiver arguments =>
    (native number receiver arguments).leavesCallers, ?_⟩
  intro fuel number receiver arguments session
  have balanced : (host.calls fuel).Balanced :=
    balanced_calls dispatcher
      (fun _ balanced number receiver arguments =>
        (native number receiver arguments).launches balanced.callStable)
      fuel
  refine ((native number receiver arguments).launches
    balanced.callStable session).mono ?_ fun _ kept => kept.sameDepth
  intro invocation changed across
  cases invocation with
  | complete value => exact across.sameDepth
  | pending => exact across.oneDeeper

/--
Host entries are balanced and deliver the right value.  However the call or the
script of a disciplined host ends, and whatever host entries it has opened on
the way, the frames below it and the barriers are those from before.  If it has
a value, that is what a native function gave at once, or what the very frame
that was pushed on the frames below has returned to this entry, all frames
above it having returned to the frame below them.  No native function makes a
return of its own.
-/
theorem entries_balanced
    (host : Host σ)
    (disciplined : host.Disciplined)
    (fuel : Nat)
    (session : Session σ) :
    (∀ number receiver arguments started,
      (host.native number receiver arguments).returns (host.calls fuel)
          started =
        []) ∧
    (∀ function receiver arguments,
      (∀ value after,
        Act.call function receiver arguments (host.calls fuel) session =
            .ok value after →
          Undisturbed session.machine after.machine ∧
            CallValue (host.Delivered fuel) (host.calls fuel) function
              receiver arguments ⟨session.machine.entered, session.host⟩
              after.machine.frames value) ∧
      ∀ fault after,
        Act.call function receiver arguments (host.calls fuel) session =
            .error (.fault fault) after →
          Undisturbed session.machine after.machine) ∧
    ∀ code constants target,
      (∀ value after,
        Act.executeScript code constants target (host.calls fuel)
            session = .ok value after →
          after.machine.frames = session.machine.frames ∧
            after.machine.barriers = session.machine.barriers ∧
              ScriptValue (host.Delivered fuel) code constants target
                session value) ∧
      ∀ fault after,
        Act.executeScript code constants target (host.calls fuel)
            session = .error (.fault fault) after →
          after.machine.frames = session.machine.frames ∧
            after.machine.barriers = session.machine.barriers := by
  have invoked := (disciplined.balanced fuel).invoke
  have runs := disciplined.runsOut fuel
  refine ⟨?_, ?_, ?_⟩
  · intro number receiver arguments
    exact (disciplined.leaves number receiver arguments).noReturns _
  · intro function receiver arguments
    have ends := call_ends invoked runs function receiver arguments session
    exact ⟨fun value after => ends.of_ok, fun fault after => ends.of_fault⟩
  · intro code constants target
    have ends := executeScript_ends runs code constants target session
    exact ⟨fun value after => ends.of_ok, fun fault after => ends.of_fault⟩

/-- The integer that an act has given, if it was one. -/
def integerOf? :
    EStateM.Result Stop (Session σ) Value → Option Int32
  | .ok (.integer number) _ => some number
  | _ => none

theorem integerOf?_eq_some
    {outcome : EStateM.Result Stop (Session σ) Value}
    {number : Int32}
    (given : integerOf? outcome = some number) :
    ∃ after, outcome = .ok (.integer number) after := by
  unfold integerOf? at given
  split at given
  · obtain rfl := Option.some.inj given
    exact ⟨_, rfl⟩
  · cases given

/-- The call has left a frame behind. -/
def isPending : EStateM.Result Stop (Session σ) Invocation → Bool
  | .ok .pending _ => true
  | _ => false

/-- A host whose native functions pass the call on to their first argument. -/
def passingOn : Host Unit where
  native _ receiver arguments :=
    .request
      (.invoke (argument arguments 0) receiver (arguments.drop 1)) .finish
  dispatcher :=
    some
      (Instruction.dispatch
        { definition? := fun _ => .finish (.ok none)
          tellValue := fun _ => .finish (.ok ())
          tellFrame := .finish (.ok ()) })

theorem disciplined_passingOn : passingOn.Disciplined := by
  refine disciplined_of_endsInCall ?_ ?_
  · intro instruction installed
    obtain rfl := Option.some.inj installed
    exact Instruction.dispatch_actsOnTop
      ⟨fun _ => trivial, fun _ => trivial, trivial⟩
  · intro number receiver arguments
    exact .invoke _ _ _ _ rfl .complete .fail

/-- A function object that runs the code with the constants. -/
def functionOf
    (code : Array UInt8)
    (constants : Array Value) :
    ScriptObject :=
  .new none
    (.function
      (.defined
        { definition :=
            { name := none
              code := code
              constants := constants
              parameters := []
              registers := 0
              flags := .none
              usesRegisters := false }
          scope := none
          scopeObjects := [] }))

/--
The third object is a native function.  The fourth one calls the fifth and
returns what it gets, which is seven.
-/
def nestedCalls : Machine :=
  { Machine.bare .standard 0 with
    heap :=
      Heap.run
        [.alloc .blank, .alloc .blank,
          .alloc (.new none (.function (.native ⟨"passOn", .host 0⟩))),
          .alloc
            (functionOf #[1, 0, 0, 1, 1, 0, 12, 14]
              #[.integer 0, .object ⟨4, 0⟩]),
          .alloc (functionOf #[1, 0, 0, 14] #[.integer 7])] }

/-- The native function leaves the frame that gives the entry its seven. -/
theorem entries_balanced_nestedCalls :
    passingOn.Disciplined ∧
      ∃ after started pushed,
        Act.call (.object ⟨2, 0⟩) .undefined [.object ⟨3, 0⟩]
            (passingOn.calls 20) ⟨nestedCalls, ()⟩ =
              .ok (.integer 7) after ∧
          after.machine.frames = [] ∧ after.machine.barriers = [] ∧
            started.machine.frames = [pushed] ∧
              passingOn.Delivered 20 started pushed [] (.integer 7) := by
  refine ⟨disciplined_passingOn, ?_⟩
  have answered :
      integerOf?
        (Act.call (.object ⟨2, 0⟩) .undefined [.object ⟨3, 0⟩]
          (passingOn.calls 20) ⟨nestedCalls, ()⟩) = some 7 := by
    decide +kernel
  have pending :
      isPending
        ((passingOn.calls 20).invoke (.object ⟨2, 0⟩) .undefined
          [.object ⟨3, 0⟩] ⟨nestedCalls.entered, ()⟩) = true := by
    decide +kernel
  have balanced :=
    ((entries_balanced passingOn disciplined_passingOn 20
      ⟨nestedCalls, ()⟩).2.1 (.object ⟨2, 0⟩) .undefined
        [.object ⟨3, 0⟩]).1
  obtain ⟨after, ran⟩ := integerOf?_eq_some answered
  obtain ⟨undisturbed, cause⟩ := balanced _ _ ran
  have cleared : after.machine.frames = [] :=
    List.eq_nil_of_length_eq_zero undisturbed.frames.length_eq
  rw [cleared] at cause
  cases cause with
  | complete ended outcome =>
      rw [outcome] at pending
      cases pending
  | pending started pushed outcome frames delivered =>
      exact ⟨after, started, pushed, ran, cleared, undisturbed.barriers,
        frames, delivered⟩

/-- A return takes one frame away, wherever its value goes. -/
theorem returnFromFrame_depth
    {machine : Machine}
    {top : Frame}
    {callers : List Frame}
    (frames : machine.frames = top :: callers)
    (value : Value) :
    ∃ changed,
      (Edit.returnFromFrame value).run machine = .ok () changed ∧
        changed.depth = callers.length := by
  by_cases innermost : machine.barriers.head? = some callers.length
  · exact ⟨_, returnFromFrame_toEntry frames innermost value, rfl⟩
  · cases callers with
    | nil =>
        refine ⟨{ machine with frames := [] }, ?_, rfl⟩
        rw [Edit.returnFromFrame, EStateM.run_bind, EStateM.run_get]
        simp only [frames, innermost, if_false]
        rfl
    | cons caller rest =>
        exact ⟨_, returnFromFrame_toCaller frames innermost value, rfl⟩

/-- A frame without code. -/
def emptyFrame : Frame :=
  Act.scriptFrame #[] #[] ⟨0, 0⟩ 0

/-- Push a frame, return null from it and complete with seven. -/
def returnsNull : Program Unit Invocation := do
  .perform (.pushFrame emptyFrame)
  .perform (.returnFromFrame .null)
  return .complete (.integer 7)

/-- A host whose native functions return from a frame of their own. -/
def returning : Host Unit where
  native _ _ _ := returnsNull
  dispatcher := none

theorem launches_returnsNull (calls : Calls Unit) :
    returnsNull.run.Launches SameDepth OneDeeper calls := by
  intro session
  rw [returnsNull, Program.run_bind, Program.run_perform]
  rcases pushFrame_run emptyFrame session.machine with
    pushed | ⟨fault, refused⟩
  · have frames :
        (session.machine.pushed emptyFrame).frames =
          { emptyFrame with state := .running } :: session.machine.frames :=
      rfl
    obtain ⟨changed, returned, depth⟩ := returnFromFrame_depth frames .null
    have pushedFirst :
        (Request.pushFrame emptyFrame).perform calls session =
          .ok () ⟨session.machine.pushed emptyFrame, session.host⟩ :=
      Act.lift_ok pushed
    have returnedNext :
        (Request.returnFromFrame .null).perform calls
            ⟨session.machine.pushed emptyFrame, session.host⟩ =
          .ok () ⟨changed, session.host⟩ :=
      Act.lift_ok returned
    rw [Act.bind_ok pushedFirst, Program.run_bind, Program.run_perform,
      Act.bind_ok returnedNext]
    exact depth
  · have refusedFirst :
        (Request.pushFrame emptyFrame).perform calls session =
          .error (.fault fault) session :=
      Act.lift_error refused
    rw [Act.bind_error refusedFirst]
    exact rfl

/--
The native function leaves the depth as it finds it and does not unload the
movie.  The frame that it has pushed on the frames below returns null, and the
call gives seven.
-/
theorem return_unheard_returning :
    (∃ after returned,
      Act.call (.object ⟨2, 0⟩) .undefined [] (returning.calls 5)
          ⟨nestedCalls, ()⟩ =
        .ok (.integer 7) after ∧
      (returning.native 0 .undefined []).returns (returning.calls 4)
          ⟨nestedCalls.entered, ()⟩ =
        [returned] ∧
      returned.value = .null ∧
      returned.machine.depth = nestedCalls.depth + 1 ∧
      after.machine.frames = nestedCalls.frames ∧
      after.machine.barriers = nestedCalls.barriers) ∧
    returning.dispatcher = none ∧
    ∀ number receiver arguments,
      (returning.native number receiver arguments).Every Request.Stays ∧
        ∀ fuel,
          (returning.native number receiver arguments).run.Launches
            SameDepth OneDeeper (returning.calls fuel) := by
  refine ⟨⟨_, _, rfl, rfl, rfl, rfl, rfl, rfl⟩, rfl, ?_⟩
  intro number receiver arguments
  refine ⟨⟨nofun, ?_⟩, fun fuel => launches_returnsNull _⟩
  rintro (fault | _)
  · trivial
  · exact ⟨nofun, fun answer => by cases answer <;> trivial⟩

end Host

end MovieScript
