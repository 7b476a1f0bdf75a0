import MovieScript.Proofs.HostBarriers

namespace MovieScript

/-!
# Balanced host entries

A dispatcher that works only on the top frame, together with native functions
that leave the frames as they found them or end in one pending call, keeps host
entries balanced: when an entry is closed the frames below it are still there,
the barriers are those from before, and the value it gives is the one that its
own bottom frame returned.
-/

/-- The same frames, of which only the top one may have been worked on. -/
inductive Kept : List Frame → List Frame → Prop where
  | same (frames : List Frame) : Kept frames frames
  | worked {frame changed : Frame} (callers : List Frame) :
      frame.SameCall changed → Kept (frame :: callers) (changed :: callers)

namespace Kept

theorem trans
    {first second third : List Frame}
    (earlier : Kept first second)
    (later : Kept second third) :
    Kept first third := by
  cases earlier with
  | same => exact later
  | worked callers firstWork =>
      cases later with
      | same => exact .worked callers firstWork
      | worked _ secondWork =>
          exact .worked callers (firstWork.trans secondWork)

theorem length_eq
    {before after : List Frame}
    (kept : Kept before after) :
    after.length = before.length := by
  cases kept with
  | same => rfl
  | worked => rfl

/-- What lies below some of the frames is kept below as many frames. -/
theorem exists_callers
    {upper callers after : List Frame}
    (kept : Kept (upper ++ callers) after) :
    ∃ upper' callers', after = upper' ++ callers' ∧ Kept callers callers' := by
  cases upper with
  | nil => exact ⟨[], after, rfl, kept⟩
  | cons top rest =>
      cases kept with
      | same => exact ⟨top :: rest, callers, rfl, .same callers⟩
      | worked _ work => exact ⟨_ :: rest, callers, rfl, .same callers⟩

/-- A frame that is not the top one, or that stays with its call, is kept. -/
theorem exists_append
    {upper below after : List Frame}
    {bottom : Frame}
    (kept : Kept (upper ++ bottom :: below) after) :
    ∃ upper' bottom',
      after = upper' ++ bottom' :: below ∧ bottom.SameCall bottom' := by
  obtain ⟨upper', callers, rfl, keptBelow⟩ := kept.exists_callers
  cases keptBelow with
  | same => exact ⟨upper', bottom, rfl, .refl bottom⟩
  | worked _ work => exact ⟨upper', _, rfl, work⟩

end Kept

/-- The frames are kept. -/
def KeepsFrames (before after : Machine) : Prop :=
  Kept before.frames after.frames

theorem keepsFrames_of_eq
    {before after : Machine}
    (same : after.frames = before.frames) :
    KeepsFrames before after := by
  rw [KeepsFrames, same]
  exact .same _

/-- One frame lies on frames that are kept. -/
def LeavesFrame (before after : Machine) : Prop :=
  ∃ pushed callers,
    after.frames = pushed :: callers ∧ Kept before.frames callers

/-- The frames are kept and the open host entries are the same. -/
structure Undisturbed (before after : Machine) : Prop where
  frames : KeepsFrames before after
  barriers : SameBarriers before after

/-- One frame was pushed and the open host entries are the same. -/
structure PushedOne (before after : Machine) : Prop where
  frames : LeavesFrame before after
  barriers : SameBarriers before after

namespace Undisturbed

theorem trans
    ⦃first second third : Machine⦄
    (earlier : Undisturbed first second)
    (later : Undisturbed second third) :
    Undisturbed first third :=
  ⟨earlier.frames.trans later.frames,
    earlier.barriers.trans later.barriers⟩

theorem of_sameControl
    ⦃before after : Machine⦄
    (control : before.SameControl after) :
    Undisturbed before after :=
  ⟨keepsFrames_of_eq control.frames, control.barriers⟩

theorem opens {β : Type} (wanted : Request β) :
    wanted.Opens Undisturbed :=
  wanted.opens_of_quiet fun _ _ quiet => of_sameControl quiet.control

theorem frameStable : FrameStable Undisturbed := by
  refine .of_sameControl trans of_sameControl ?_
  intro machine frame callers changed top work
  refine ⟨?_, rfl⟩
  rw [KeepsFrames, top]
  exact .worked callers work

end Undisturbed

/-- What a run of the frames above a host entry comes to. -/
def RunsOut
    {σ : Type}
    (good : Session σ → Frame → List Frame → Value → Prop)
    (calls : Calls σ) :
    Prop :=
  ∀ (started : Session σ) pushed below,
    started.machine.frames = pushed :: below →
      started.machine.barriers.head? = some below.length →
        Ends
          (fun _ changed =>
            changed.machine.frames = below ∧
              SameBarriers started.machine changed.machine ∧
                ∀ value, changed.machine.hostResult = some value →
                  good started pushed below value)
          (fun changed =>
            (∃ above, changed.machine.frames = above ++ below) ∧
              SameBarriers started.machine changed.machine)
          (calls.runAbove below.length started)

/-- The calls keep the frames that they find and clear away their own. -/
structure Calls.Balanced {σ : Type} (calls : Calls σ) : Prop where
  invoke : ∀ function receiver arguments,
    (Act.invoke function receiver arguments).Launches
      Undisturbed PushedOne calls
  runAbove : RunsOut (fun _ _ _ _ => True) calls
  exportBelow : ∀ visiting value,
    (Act.exportBelow visiting value).Respects Undisturbed calls

section HostEntry

variable {σ : Type} {calls : Calls σ}
variable {good : Session σ → Frame → List Frame → Value → Prop}

/-- An entry that fails is cleared down to the frames below it. -/
theorem abandoned_frames
    {changed : Machine}
    {above below : List Frame}
    {base : Nat}
    (frames : changed.frames = above ++ below)
    (count : base = below.length) :
    (changed.abandoned base).frames = below := by
  change changed.frames.drop (changed.frames.length - base) = below
  rw [count, frames, List.length_append, Nat.add_sub_cancel]
  exact List.drop_left

theorem abandoned_undisturbed
    {before changed : Machine}
    {above below : List Frame}
    (frames : changed.frames = above ++ below)
    (kept : Kept before.frames below)
    (barriers : SameBarriers before.entered changed) :
    Undisturbed before (changed.abandoned before.depth) := by
  have count : before.depth = below.length := kept.length_eq.symm
  refine ⟨?_, congrArg List.tail barriers⟩
  rw [KeepsFrames, abandoned_frames frames count]
  exact kept

theorem left_undisturbed
    {before changed : Machine}
    (inside : Undisturbed before.entered changed) :
    Undisturbed before changed.left :=
  ⟨inside.frames, congrArg List.tail inside.barriers⟩

/-- Running out the frames above an entry gives it its value. -/
theorem finishEntry_ends
    (runs : RunsOut good calls)
    {started : Session σ}
    {pushed : Frame}
    {below : List Frame}
    (frames : started.machine.frames = pushed :: below)
    (barrier : started.machine.barriers.head? = some below.length) :
    Ends
      (fun value changed =>
        changed.machine.frames = below ∧
          SameBarriers started.machine changed.machine ∧
            good started pushed below value)
      (fun changed =>
        (∃ above, changed.machine.frames = above ++ below) ∧
          SameBarriers started.machine changed.machine)
      (Act.finishEntry below.length calls started) := by
  refine Ends.bind (runs started pushed below frames barrier) ?_
  intro _ changed ⟨cleared, barriers, delivered⟩
  cases result : changed.machine.hostResult with
  | none =>
      have missing :
          Edit.takeHostResult.run changed.machine =
            .error .missingResult changed.machine := by
        rw [Edit.takeHostResult, EStateM.run_bind, EStateM.run_get]
        dsimp only
        rw [result]
        rfl
      exact .edit_error missing ⟨⟨[], cleared⟩, barriers⟩
  | some value =>
      have taken :
          Edit.takeHostResult.run changed.machine =
            .ok value { changed.machine with hostResult := none } := by
        rw [Edit.takeHostResult, EStateM.run_bind, EStateM.run_get]
        dsimp only
        rw [result]
        rfl
      exact .edit_ok taken ⟨cleared, barriers, delivered value result⟩

/-- How the value of a call came about. -/
inductive CallValue
    (good : Session σ → Frame → List Frame → Value → Prop)
    (calls : Calls σ)
    (function receiver : Value)
    (arguments : List Value)
    (entered : Session σ)
    (below : List Frame)
    (value : Value) :
    Prop where
  /-- The function was over at once. -/
  | complete (ended : Session σ) :
      calls.invoke function receiver arguments entered =
          .ok (.complete value) ended →
        CallValue good calls function receiver arguments entered below value
  /-- The function has left a frame behind, which was run out. -/
  | pending (started : Session σ) (pushed : Frame) :
      calls.invoke function receiver arguments entered =
          .ok .pending started →
        started.machine.frames = pushed :: below →
          good started pushed below value →
            CallValue good calls function receiver arguments entered below
              value

theorem call_ends
    (invoked : ∀ function receiver arguments,
      (Act.invoke function receiver arguments).Launches
        Undisturbed PushedOne calls)
    (runs : RunsOut good calls)
    (function receiver : Value)
    (arguments : List Value)
    (session : Session σ) :
    Ends
      (fun value after =>
        Undisturbed session.machine after.machine ∧
          CallValue good calls function receiver arguments
            ⟨session.machine.entered, session.host⟩ after.machine.frames
            value)
      (fun after => Undisturbed session.machine after.machine)
      (Act.call function receiver arguments calls session) := by
  rw [Act.call_eq]
  have within :
      Ends
        (fun value changed =>
          Undisturbed session.machine.entered changed.machine ∧
            CallValue good calls function receiver arguments
              ⟨session.machine.entered, session.host⟩
              changed.machine.frames value)
        (fun changed =>
          Undisturbed session.machine
            (changed.machine.abandoned session.machine.depth))
        (Act.callWithin function receiver arguments session.machine.depth
          calls ⟨session.machine.entered, session.host⟩) := by
    have failing (changed : Session σ)
        (kept : Undisturbed session.machine.entered changed.machine) :
        Undisturbed session.machine
          (changed.machine.abandoned session.machine.depth) :=
      abandoned_undisturbed (List.nil_append _).symm kept.frames
        kept.barriers
    have launched :=
      invoked function receiver arguments
        ⟨session.machine.entered, session.host⟩
    refine (launched.mono (fun _ _ => id) failing).with_outcome.bind ?_
    rintro invocation changed ⟨outcome, across⟩
    cases invocation with
    | complete value => exact ⟨across, .complete changed outcome⟩
    | pending =>
        -- The new frame is the first one above the barrier of this entry.
        obtain ⟨⟨pushed, below, frames, kept⟩, barriers⟩ := across
        have count : session.machine.depth = below.length :=
          kept.length_eq.symm
        have barrier :
            changed.machine.barriers.head? = some below.length := by
          rw [barriers, ← count]
          rfl
        rw [count]
        refine (finishEntry_ends runs frames barrier).mono ?_ ?_
        · rintro value after ⟨cleared, same, delivered⟩
          rw [cleared]
          refine ⟨⟨?_, barriers.trans same⟩, ?_⟩
          · rw [KeepsFrames, cleared]
            exact kept
          · exact .pending changed pushed outcome frames delivered
        · rintro after ⟨⟨above, left⟩, same⟩
          rw [← count]
          exact abandoned_undisturbed left kept (barriers.trans same)
  refine within.inHostEntry ?_ ?_ ?_
  · exact fun log => .of_sameControl ⟨rfl, rfl, rfl⟩
  · exact fun value changed ⟨inside, cause⟩ =>
      ⟨left_undisturbed inside, cause⟩
  · exact fun changed abandoned => abandoned

theorem runWithin_ends
    (runs : RunsOut good calls)
    (frame : Frame)
    {session : Session σ}
    (barrier :
      session.machine.barriers.head? = some session.machine.depth) :
    Ends
      (fun value changed =>
        changed.machine.frames = session.machine.frames ∧
          SameBarriers session.machine changed.machine ∧
            good ⟨session.machine.pushed frame, session.host⟩ frame.started
              session.machine.frames value)
      (fun changed =>
        (∃ above,
          changed.machine.frames = above ++ session.machine.frames) ∧
            SameBarriers session.machine changed.machine)
      (Act.runWithin frame session.machine.depth calls session) := by
  have pushing :
      Ends
        (fun _ changed =>
          ⟨session.machine.pushed frame, session.host⟩ = changed)
        (fun changed =>
          (∃ above,
            changed.machine.frames = above ++ session.machine.frames) ∧
              SameBarriers session.machine changed.machine)
        ((liftM (Edit.pushFrame frame) : Act σ Unit) calls session) := by
    rcases pushFrame_run frame session.machine with pushed | refused
    · exact .edit_ok pushed rfl
    · obtain ⟨fault, refused⟩ := refused
      exact .edit_error refused ⟨⟨[], rfl⟩, rfl⟩
  refine pushing.bind ?_
  rintro _ _ rfl
  exact finishEntry_ends runs rfl barrier

/-- How the value of a top-level script came about: its frame was run out. -/
def ScriptValue
    (good : Session σ → Frame → List Frame → Value → Prop)
    (code : Array UInt8)
    (constants : Array Value)
    (target : Handle)
    (session : Session σ)
    (value : Value) :
    Prop :=
  let (locals, scopes) := session.machine.scopes.create none
  let frame := Act.scriptFrame code constants target locals
  let entered := { session.machine with scopes := scopes }.entered
  good ⟨entered.pushed frame, session.host⟩ frame.started
    session.machine.frames value

theorem executeScript_ends
    (runs : RunsOut good calls)
    (code : Array UInt8)
    (constants : Array Value)
    (target : Handle)
    (session : Session σ) :
    Ends
      (fun value after =>
        after.machine.frames = session.machine.frames ∧
          SameBarriers session.machine after.machine ∧
            ScriptValue good code constants target session value)
      (fun after =>
        after.machine.frames = session.machine.frames ∧
          SameBarriers session.machine after.machine)
      (Act.executeScript code constants target calls session) := by
  rw [Act.executeScript_eq]
  have asked :
      Ends (fun _ changed => session = changed)
        (fun after =>
          after.machine.frames = session.machine.frames ∧
            SameBarriers session.machine after.machine)
        ((Act.ask (·.object target) : Act σ ScriptObject) calls session) :=
    .ask (fun _ _ => rfl) (fun _ _ => ⟨rfl, rfl⟩)
  refine Ends.bind asked.discard ?_
  rintro _ _ rfl
  have inScope :
      Ends
        (fun locals changed =>
          (session.machine.scopes.create none).1 = locals ∧
            ⟨{ session.machine with
                scopes := (session.machine.scopes.create none).2 },
              session.host⟩ = changed)
        (fun after =>
          after.machine.frames = session.machine.frames ∧
            SameBarriers session.machine after.machine)
        ((liftM (Edit.createScope none) : Act σ ScopeId) calls session) :=
    .edit_ok rfl ⟨rfl, rfl⟩
  refine inScope.bind ?_
  rintro _ _ ⟨rfl, rfl⟩
  refine (runWithin_ends runs _ rfl).inHostEntry ?_ ?_ ?_
  · exact fun log => ⟨rfl, rfl⟩
  · exact fun value changed closed =>
      ⟨closed.1, congrArg List.tail closed.2.1, closed.2.2⟩
  · rintro changed ⟨⟨above, frames⟩, barriers⟩
    exact ⟨abandoned_frames frames rfl, congrArg List.tail barriers⟩

theorem Calls.Balanced.callStable (balanced : calls.Balanced) :
    CallStable Undisturbed PushedOne calls where
  toFrameStable := Undisturbed.frameStable
  call function receiver arguments session :=
    (call_ends balanced.invoke balanced.runAbove function receiver
      arguments session).mono (fun _ _ => And.left) (fun _ => id)
  executeScript code constants target session := by
    refine (executeScript_ends balanced.runAbove code constants target
      session).mono ?_ ?_
    · exact fun _ _ closed => ⟨keepsFrames_of_eq closed.1, closed.2.1⟩
    · exact fun _ closed => ⟨keepsFrames_of_eq closed.1, closed.2⟩
  exportBelow := balanced.exportBelow
  absorb := by
    rintro first second third across ⟨⟨pushed, callers, frames, kept⟩, same⟩
    exact ⟨⟨pushed, callers, frames, across.frames.trans kept⟩,
      across.barriers.trans same⟩
  invoke := balanced.invoke
  pushed := by
    intro frame machine changed ran
    rcases pushFrame_run frame machine with pushed | ⟨fault, refused⟩
    · rw [pushed] at ran
      cases ran
      exact ⟨⟨frame.started, machine.frames, rfl, .same _⟩, rfl⟩
    · rw [refused] at ran
      cases ran
  refused := by
    intro frame machine fault changed ran
    rcases pushFrame_run frame machine with pushed | ⟨fault, refused⟩
    · rw [pushed] at ran
      cases ran
    · rw [refused] at ran
      cases ran
      exact .of_sameControl (.refl machine)

end HostEntry

end MovieScript
