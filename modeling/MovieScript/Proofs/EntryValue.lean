import MovieScript.Proofs.BalancedEntries

namespace MovieScript

/-!
# The value of a host entry

A frame above a host entry is popped in two ways only: its value goes onto the
operand stack of the frame below, or it was the bottom frame of the entry and
the entry is over.  The returns of an entry are recorded beside its run, so
that the value it gives can be traced to the frame that returned it.
-/

/-- The moment at which the top frame returns a value. -/
structure Return where
  machine : Machine
  value : Value

namespace Return

/-- The value goes onto the operand stack of a frame that is not below. -/
def ToCaller (returned : Return) (below : List Frame) : Prop :=
  ∃ frame caller rest,
    returned.machine.frames = frame :: caller :: (rest ++ below) ∧
      (Edit.returnFromFrame returned.value).run returned.machine =
        .ok ()
          { returned.machine with
            frames := caller.push returned.value :: (rest ++ below) }

/-- The frame that was pushed first returns, and the host entry gets its value. -/
def ToEntry
    (returned : Return)
    (pushed : Frame)
    (below : List Frame) :
    Prop :=
  ∃ bottom,
    returned.machine.frames = bottom :: below ∧
      pushed.SameCall bottom ∧
        (Edit.returnFromFrame returned.value).run returned.machine =
          .ok ()
            { returned.machine with
              frames := below
              hostResult := some returned.value }

end Return

/-- The returns that a request makes by itself. -/
def Request.returns {β : Type} : Request β → Machine → List Return
  | .returnFromFrame value, machine =>
      if machine.frames.isEmpty then [] else [⟨machine, value⟩]
  | _, _ => []

namespace Program

variable {σ α : Type}

/-- The returns that a program makes by itself, in order. -/
def returns (calls : Calls σ) : Program σ α → Session σ → List Return
  | .finish _, _ => []
  | .request wanted next, session =>
      wanted.returns session.machine ++
        match Act.attempt wanted.perform calls session with
        | .ok answer changed => (next answer).returns calls changed
        | .error _ _ => []
  | .own work next, session =>
      let (answer, changed) := work session.host
      (next answer).returns calls ⟨session.machine, changed⟩

/--
The program works on the top frame, starts calls from it, opens host entries
above it, or pops it.  Once the frame is popped it is no longer the program's
own, and what follows is work that no frame takes part in.
-/
def ActsOnTop : Program σ α → Prop
  | .finish _ => True
  | .request wanted next =>
      match wanted.frameUse with
      | .apart => ∀ answer, (next answer).ActsOnTop
      | .within => ∀ answer, (next answer).ActsOnTop
      | .pushes => ∀ answer, (next answer).ActsOnTop
      | .pops =>
          ∀ answer, (next answer).Every (·.frameUse = .apart)
      | .runs => False
      | .unloads => False
  | .own _ next => ∀ answer, (next answer).ActsOnTop

end Program

namespace Host

variable {σ : Type}

/-- The returns made by the instructions of a loop, in order. -/
def loopReturns
    (calls : Calls σ)
    (instruction : Program σ Unit)
    (depth : Nat) :
    Nat → Session σ → List Return
  | 0, _ => []
  | fuel + 1, session =>
      if session.machine.depth ≤ depth then
        []
      else
        instruction.returns calls session ++
          match instruction.run calls session with
          | .ok _ changed =>
              loopReturns calls instruction depth fuel changed
          | .error _ _ => []

/-- The returns made while the frames above `depth` are run out, in order. -/
def entryReturns
    (host : Host σ)
    (fuel depth : Nat)
    (session : Session σ) :
    List Return :=
  match fuel, host.dispatcher with
  | fuel + 1, some instruction =>
      loopReturns (host.calls fuel) instruction depth fuel session
  | _, _ => []

/--
The value was returned by the frame that was pushed first.  What the frames
above it returned before went to the operand stack of the frame below.
-/
def Delivered
    (host : Host σ)
    (fuel : Nat)
    (started : Session σ)
    (pushed : Frame)
    (below : List Frame)
    (value : Value) :
    Prop :=
  ∃ earlier last,
    host.entryReturns fuel below.length started = earlier ++ [last] ∧
      last.value = value ∧ last.ToEntry pushed below ∧
        ∀ returned ∈ earlier, returned.ToCaller below

end Host

section Step

variable {pushed : Frame} {below : List Frame} {barriers : List Nat}

/-- The bottom frame of the entry is still live. -/
structure Underway
    (pushed : Frame)
    (below : List Frame)
    (barriers : List Nat)
    (machine : Machine) :
    Prop where
  frames : ∃ upper bottom,
    machine.frames = upper ++ bottom :: below ∧ pushed.SameCall bottom
  barriers : machine.barriers = barriers

/-- The bottom frame of the entry has returned. -/
structure Over
    (pushed : Frame)
    (below : List Frame)
    (barriers : List Nat)
    (last : Return)
    (machine : Machine) :
    Prop where
  frames : machine.frames = below
  barriers : machine.barriers = barriers
  result : machine.hostResult = some last.value
  delivered : last.ToEntry pushed below

/-- The entry is over with the last of the returns made. -/
def Concluded
    (pushed : Frame)
    (below : List Frame)
    (barriers : List Nat)
    (returns : List Return)
    (machine : Machine) :
    Prop :=
  ∃ earlier last,
    returns = earlier ++ [last] ∧
      (∀ returned ∈ earlier, returned.ToCaller below) ∧
        Over pushed below barriers last machine

/-- How far an entry has come, with the returns made so far. -/
def Progress
    (pushed : Frame)
    (below : List Frame)
    (barriers : List Nat)
    (returns : List Return)
    (machine : Machine) :
    Prop :=
  (Underway pushed below barriers machine ∧
      ∀ returned ∈ returns, returned.ToCaller below) ∨
    Concluded pushed below barriers returns machine

theorem Concluded.append
    {passed returns : List Return}
    {machine : Machine}
    (toCallers : ∀ returned ∈ passed, returned.ToCaller below)
    (concluded : Concluded pushed below barriers returns machine) :
    Concluded pushed below barriers (passed ++ returns) machine := by
  obtain ⟨earlier, last, rfl, earlierToCallers, ended⟩ := concluded
  refine ⟨passed ++ earlier, last, (List.append_assoc ..).symm, ?_, ended⟩
  intro returned member
  rcases List.mem_append.mp member with inPassed | inEarlier
  · exact toCallers returned inPassed
  · exact earlierToCallers returned inEarlier

theorem Underway.undisturbed
    {before after : Machine}
    (underway : Underway pushed below barriers before)
    (across : Undisturbed before after) :
    Underway pushed below barriers after := by
  obtain ⟨⟨upper, bottom, frames, same⟩, held⟩ := underway
  have kept := across.frames
  rw [KeepsFrames, frames] at kept
  obtain ⟨upper', bottom', frames', work⟩ := kept.exists_append
  exact ⟨⟨upper', bottom', frames', same.trans work⟩,
    Eq.trans across.barriers held⟩

theorem Underway.pushedOne
    {before after : Machine}
    (underway : Underway pushed below barriers before)
    (across : PushedOne before after) :
    Underway pushed below barriers after := by
  obtain ⟨⟨upper, bottom, frames, same⟩, held⟩ := underway
  obtain ⟨⟨top, callers, pushedFrames, kept⟩, sameBarriers⟩ := across
  rw [frames] at kept
  obtain ⟨upper', bottom', frames', work⟩ := kept.exists_append
  refine ⟨⟨top :: upper', bottom', ?_, same.trans work⟩,
    Eq.trans sameBarriers held⟩
  rw [pushedFrames, frames']
  rfl

theorem Underway.depth_lt
    {machine : Machine}
    (underway : Underway pushed below barriers machine) :
    below.length < machine.depth := by
  obtain ⟨⟨upper, bottom, frames, -⟩, -⟩ := underway
  rw [Machine.depth, frames, List.length_append, List.length_cons]
  omega

theorem returnFromFrame_toEntry
    {machine : Machine}
    {top : Frame}
    {callers : List Frame}
    (frames : machine.frames = top :: callers)
    (innermost : machine.barriers.head? = some callers.length)
    (value : Value) :
    (Edit.returnFromFrame value).run machine =
      .ok ()
        { machine with frames := callers, hostResult := some value } := by
  rw [Edit.returnFromFrame, EStateM.run_bind, EStateM.run_get]
  simp only [frames, innermost, if_true]
  rfl

theorem returnFromFrame_toCaller
    {machine : Machine}
    {top caller : Frame}
    {rest : List Frame}
    (frames : machine.frames = top :: caller :: rest)
    (outer : machine.barriers.head? ≠ some (caller :: rest).length)
    (value : Value) :
    (Edit.returnFromFrame value).run machine =
      .ok () { machine with frames := caller.push value :: rest } := by
  rw [Edit.returnFromFrame, EStateM.run_bind, EStateM.run_get]
  simp only [frames, outer, if_false]
  rfl

/-- The top frame of an entry that is underway returns in one of two ways. -/
theorem Underway.returns
    {machine : Machine}
    (underway : Underway pushed below barriers machine)
    (innermost : barriers.head? = some below.length)
    (value : Value) :
    ∃ changed,
      (Edit.returnFromFrame value).run machine = .ok () changed ∧
        Progress pushed below barriers [⟨machine, value⟩] changed := by
  obtain ⟨⟨upper, bottom, frames, same⟩, rfl⟩ := underway
  -- Only the bottom frame has as many frames below it as the barrier says.
  cases upper with
  | nil =>
      have ran := returnFromFrame_toEntry frames innermost value
      have delivered : Return.ToEntry ⟨machine, value⟩ pushed below :=
        ⟨bottom, frames, same, ran⟩
      exact ⟨_, ran, .inr ⟨[], _, rfl, List.forall_mem_nil _,
        rfl, rfl, rfl, delivered⟩⟩
  | cons top lower =>
      obtain ⟨caller, rest, callers⟩ :
          ∃ caller rest,
            lower ++ bottom :: below = caller :: (rest ++ below) := by
        cases lower with
        | nil => exact ⟨bottom, [], rfl⟩
        | cons caller others =>
            refine ⟨caller, others ++ [bottom], ?_⟩
            rw [List.append_assoc]
            rfl
      rw [List.cons_append, callers] at frames
      have outer :
          machine.barriers.head? ≠
            some (caller :: (rest ++ below)).length := by
        rw [innermost, List.length_cons, List.length_append]
        intro equal
        have lengths := Option.some.inj equal
        omega
      have ran := returnFromFrame_toCaller frames outer value
      refine ⟨_, ran, .inl ⟨⟨?_, rfl⟩, ?_⟩⟩
      · have kept := Kept.worked (rest ++ below) (caller.sameCall_push value)
        rw [← callers] at kept
        obtain ⟨upper', bottom', frames', work⟩ := kept.exists_append
        exact ⟨upper', bottom', frames', same.trans work⟩
      · intro returned member
        rw [List.mem_singleton.mp member]
        exact ⟨top, caller, rest, frames, ran⟩

theorem Progress.sameControl
    {returns : List Return}
    {before after : Machine}
    (progress : Progress pushed below barriers returns before)
    (control : before.SameControl after) :
    Progress pushed below barriers returns after := by
  rcases progress with ⟨underway, passed⟩ | concluded
  · exact .inl ⟨underway.undisturbed (.of_sameControl control), passed⟩
  · obtain ⟨earlier, last, split, passed, ended⟩ := concluded
    exact .inr ⟨earlier, last, split, passed,
      control.frames.trans ended.frames,
      control.barriers.trans ended.barriers,
      control.hostResult.trans ended.result, ended.delivered⟩

theorem Progress.unwound
    {returns : List Return}
    {machine : Machine}
    (progress : Progress pushed below barriers returns machine) :
    (∃ above, machine.frames = above ++ below) ∧
      machine.barriers = barriers := by
  rcases progress with ⟨underway, -⟩ | ⟨earlier, last, -, -, ended⟩
  · obtain ⟨⟨upper, bottom, frames, -⟩, held⟩ := underway
    refine ⟨⟨upper ++ [bottom], ?_⟩, held⟩
    rw [frames, List.append_assoc]
    rfl
  · exact ⟨⟨[], ended.frames⟩, ended.barriers⟩

end Step

theorem Request.stays_of_use
    {β : Type}
    {wanted : Request β}
    {use : FrameUse}
    (used : wanted.frameUse = use)
    (remains : use ≠ .unloads) :
    wanted.Stays :=
  fun unloads => remains (used.symm.trans unloads)

theorem Request.returns_eq_nil
    {β : Type}
    {wanted : Request β}
    (use : wanted.frameUse ≠ .pops)
    (machine : Machine) :
    wanted.returns machine = [] := by
  cases wanted with
  | returnFromFrame value => exact absurd rfl use
  | _ => rfl

namespace Program

variable {σ α : Type} {calls : Calls σ}

theorem returns_request
    {β : Type}
    {wanted : Request β}
    {next : Except Fault β → Program σ α}
    {session changed : Session σ}
    {answer : Except Fault β}
    (outcome :
      Act.attempt wanted.perform calls session = .ok answer changed) :
    (Program.request wanted next).returns calls session =
      wanted.returns session.machine ++
        (next answer).returns calls changed := by
  simp only [returns, outcome]

theorem Every.run_sameControl
    {program : Program σ α}
    (apart : program.Every (·.frameUse = .apart)) :
    program.run.Respects Machine.SameControl calls := by
  have stable : EditStable Machine.SameControl :=
    .of_sameControl .trans fun _ _ => id
  exact apart.respects stable.refl stable.trans fun wanted use =>
    stable.request calls wanted use
      (wanted.opens_of_quiet fun _ _ quiet => quiet.control)

theorem Every.returns_eq_nil
    {program : Program σ α}
    (stays : program.Every (·.frameUse ≠ .pops))
    (session : Session σ) :
    program.returns calls session = [] := by
  induction program generalizing session with
  | finish outcome => rfl
  | request wanted next inductionHypothesis =>
      rw [returns, Request.returns_eq_nil stays.1, List.nil_append]
      split
      · rename_i answer changed _
        exact inductionHypothesis answer (stays.2 answer) changed
      · rfl
  | own work next inductionHypothesis =>
      exact inductionHypothesis (work session.host).1
        (stays (work session.host).1) _

/--
What comes next in an instruction leaves the top frame where it is, or pops it
and has only work behind it that no frame takes part in.
-/
theorem ActsOnTop.of_request
    {β : Type}
    {wanted : Request β}
    {next : Except Fault β → Program σ α}
    (acts : (Program.request wanted next).ActsOnTop) :
    ((wanted.frameUse = .apart ∨ wanted.frameUse = .within ∨
          wanted.frameUse = .pushes) ∧
        ∀ answer, (next answer).ActsOnTop) ∨
      wanted.frameUse = .pops ∧
        ∀ answer, (next answer).Every (·.frameUse = .apart) := by
  unfold ActsOnTop at acts
  cases use : wanted.frameUse with
  | apart =>
      rw [use] at acts
      exact .inl ⟨.inl rfl, acts⟩
  | within =>
      rw [use] at acts
      exact .inl ⟨.inr (.inl rfl), acts⟩
  | pushes =>
      rw [use] at acts
      exact .inl ⟨.inr (.inr rfl), acts⟩
  | pops =>
      rw [use] at acts
      exact .inr ⟨rfl, acts⟩
  | runs =>
      rw [use] at acts
      exact acts.elim
  | unloads =>
      rw [use] at acts
      exact acts.elim

section Progress

variable {pushed : Frame} {below : List Frame} {barriers : List Nat}

/-- Going on after a request that does not pop the top frame. -/
theorem progress_request
    {β : Type}
    {wanted : Request β}
    {next : Except Fault β → Program σ α}
    {session : Session σ}
    (across : wanted.perform.Respects
      (fun before after =>
        Undisturbed before after ∨ PushedOne before after) calls)
    (use : wanted.frameUse ≠ .pops)
    (underway : Underway pushed below barriers session.machine)
    (rest : ∀ answer changed,
      Underway pushed below barriers changed.machine →
        Ends
          (fun _ after =>
            Progress pushed below barriers
              ((next answer).returns calls changed) after.machine)
          (fun after =>
            Progress pushed below barriers
              ((next answer).returns calls changed) after.machine)
          ((next answer).run calls changed)) :
    Ends
      (fun _ after =>
        Progress pushed below barriers
          ((Program.request wanted next).returns calls session)
          after.machine)
      (fun after =>
        Progress pushed below barriers
          ((Program.request wanted next).returns calls session)
          after.machine)
      ((Program.request wanted next).run calls session) := by
  refine (Act.attempt_ends across session).with_outcome.bind ?_
  rintro answer changed ⟨outcome, step⟩
  rw [returns_request outcome, Request.returns_eq_nil use,
    List.nil_append]
  exact rest answer changed
    (step.elim underway.undisturbed underway.pushedOne)

/-- Ending with the return of the top frame. -/
theorem progress_return
    {value : Value}
    {next : Except Fault Unit → Program σ α}
    {session : Session σ}
    (innermost : barriers.head? = some below.length)
    (underway : Underway pushed below barriers session.machine)
    (apart : ∀ answer, (next answer).Every (·.frameUse = .apart)) :
    Ends
      (fun _ after =>
        Progress pushed below barriers
          ((Program.request (.returnFromFrame value) next).returns calls
            session)
          after.machine)
      (fun after =>
        Progress pushed below barriers
          ((Program.request (.returnFromFrame value) next).returns calls
            session)
          after.machine)
      ((Program.request (.returnFromFrame value) next).run calls
        session) := by
  obtain ⟨changed, ran, progress⟩ := underway.returns innermost value
  have recorded :
      (Request.returnFromFrame value).returns session.machine =
        [⟨session.machine, value⟩] := by
    obtain ⟨⟨upper, bottom, frames, -⟩, -⟩ := underway
    simp [Request.returns, frames]
  have popped :
      Ends (fun _ after => changed = after.machine) (fun _ => False)
        ((liftM (Edit.returnFromFrame value) : Act σ Unit) calls
          session) :=
    .edit_ok ran rfl
  refine popped.attempt.with_outcome.bind ?_
  rintro answer after ⟨outcome, popped⟩
  change
    Act.attempt (Request.returnFromFrame value).perform calls session =
      .ok answer after at outcome
  cases answer with
  | error fault => exact popped.elim
  | ok result =>
      subst popped
      have popsNone : (next (.ok result)).Every (·.frameUse ≠ .pops) :=
        (apart _).mono fun apart => by simp [apart]
      rw [returns_request outcome, recorded, popsNone.returns_eq_nil,
        List.append_nil]
      exact ((apart _).run_sameControl after).mono
        (fun _ _ => progress.sameControl) (fun _ => progress.sameControl)

/--
One instruction of a host entry that is underway: the bottom frame of the entry
stays where it is until it returns, and then the entry is over.
-/
theorem ActsOnTop.progress
    (stable : CallStable Undisturbed PushedOne calls)
    (innermost : barriers.head? = some below.length)
    {program : Program σ α}
    (acts : program.ActsOnTop)
    {session : Session σ}
    (underway : Underway pushed below barriers session.machine) :
    Ends
      (fun _ changed =>
        Progress pushed below barriers (program.returns calls session)
          changed.machine)
      (fun changed =>
        Progress pushed below barriers (program.returns calls session)
          changed.machine)
      (program.run calls session) := by
  induction program generalizing session with
  | finish outcome =>
      have unchanged : Progress pushed below barriers [] session.machine :=
        .inl ⟨underway, List.forall_mem_nil _⟩
      cases outcome with
      | ok result => exact unchanged
      | error fault => exact unchanged
  | own work next inductionHypothesis =>
      exact inductionHypothesis (work session.host).1
        (acts (work session.host).1) underway
  | request wanted next inductionHypothesis =>
      rcases acts.of_request with ⟨use, rest⟩ | ⟨pops, apart⟩
      · have popsNot : wanted.frameUse ≠ .pops := by
          rintro pops
          simp [pops] at use
        exact progress_request
          (stable.request_keeps wanted use (Undisturbed.opens wanted))
          popsNot underway
          fun answer changed => inductionHypothesis answer (rest answer)
      · cases wanted with
        | returnFromFrame value =>
            exact progress_return innermost underway apart
        | _ => cases pops

end Progress

theorem ActsOnTop.stays
    {program : Program σ α}
    (acts : program.ActsOnTop) :
    program.Every Request.Stays := by
  induction program with
  | finish outcome => trivial
  | own work next inductionHypothesis =>
      exact fun answer => inductionHypothesis answer (acts answer)
  | request wanted next inductionHypothesis =>
      rcases acts.of_request with ⟨use, rest⟩ | ⟨pops, apart⟩
      · refine ⟨?_, fun answer => inductionHypothesis answer (rest answer)⟩
        rcases use with apart | within | pushes
        · exact Request.stays_of_use apart (by decide)
        · exact Request.stays_of_use within (by decide)
        · exact Request.stays_of_use pushes (by decide)
      · exact ⟨Request.stays_of_use pops (by decide), fun answer =>
          (apart answer).mono fun apart =>
            Request.stays_of_use apart (by decide)⟩

end Program

namespace Host

variable {σ : Type} {calls : Calls σ}
variable {pushed : Frame} {below : List Frame} {barriers : List Nat}

/-- The loop stops as soon as the bottom frame of the entry has returned. -/
theorem loop_concluded
    {instruction : Program σ Unit}
    {returns : List Return}
    {session : Session σ}
    (concluded :
      Concluded pushed below barriers returns session.machine)
    (fuel : Nat)
    {failed : Session σ → Prop} :
    Ends
      (fun _ changed =>
        Concluded pushed below barriers
          (returns ++
            loopReturns calls instruction below.length fuel session)
          changed.machine)
      failed
      (runInstructions (instruction.run calls) below.length fuel
        session) := by
  cases fuel with
  | zero => trivial
  | succ fuel =>
      have cleared : session.machine.depth ≤ below.length := by
        obtain ⟨earlier, last, -, -, ended⟩ := concluded
        exact Nat.le_of_eq (congrArg List.length ended.frames)
      rw [runInstructions_succ, if_pos cleared, loopReturns,
        if_pos cleared, List.append_nil]
      exact concluded

/-- All instructions of a host entry that is underway. -/
theorem loop_ends
    (stable : CallStable Undisturbed PushedOne calls)
    (innermost : barriers.head? = some below.length)
    {instruction : Program σ Unit}
    (acts : instruction.ActsOnTop)
    (fuel : Nat)
    {session : Session σ}
    (underway : Underway pushed below barriers session.machine) :
    Ends
      (fun _ changed =>
        Concluded pushed below barriers
          (loopReturns calls instruction below.length fuel session)
          changed.machine)
      (fun changed =>
        (∃ above, changed.machine.frames = above ++ below) ∧
          changed.machine.barriers = barriers)
      (runInstructions (instruction.run calls) below.length fuel
        session) := by
  induction fuel generalizing session with
  | zero => trivial
  | succ fuel inductionHypothesis =>
      have above : ¬session.machine.depth ≤ below.length :=
        Nat.not_le.mpr underway.depth_lt
      have stepped := acts.progress stable innermost underway
      rw [runInstructions_succ, if_neg above, loopReturns, if_neg above]
      cases ran : instruction.run calls session with
      | error stop changed =>
          rw [ran] at stepped
          cases stop with
          | outOfFuel => trivial
          | fault fault => exact stepped.unwound
      | ok result changed =>
          rw [ran] at stepped
          -- Either frames of the entry are left to run, or it has its value.
          rcases stepped with ⟨stillUnderway, passed⟩ | concluded
          · exact (inductionHypothesis stillUnderway).mono
              (fun _ _ => .append passed) (fun _ => id)
          · exact loop_concluded concluded fuel

end Host

end MovieScript
