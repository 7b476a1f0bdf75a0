import MovieScript.Proofs.HostRuns
import MovieScript.Proofs.QuietEdits

namespace MovieScript

/-!
# Barriers of host entries

A host entry puts a barrier on the frames and takes it away again when it is
closed.  Host code that does not unload the movie therefore leaves the barriers
as it found them, whatever else it does and however it ends.
-/

/-- What holds between machines of the same control is stable under edits. -/
theorem EditStable.of_sameControl
    {R : Machine → Machine → Prop}
    (trans : ∀ ⦃first second third⦄,
      R first second → R second third → R first third)
    (control : ∀ ⦃before after⦄,
      Machine.SameControl before after → R before after) :
    EditStable R :=
  (QuietStable.of_quiet trans fun _ _ quiet =>
    control quiet.control).editStable fun _ _ => control ⟨rfl, rfl, rfl⟩

theorem FrameStable.of_sameControl
    {R : Machine → Machine → Prop}
    (trans : ∀ ⦃first second third⦄,
      R first second → R second third → R first third)
    (control : ∀ ⦃before after⦄,
      Machine.SameControl before after → R before after)
    (worked : ∀ ⦃machine frame callers changed⦄,
      machine.frames = frame :: callers →
        Frame.SameCall frame changed →
          R machine { machine with frames := changed :: callers }) :
    FrameStable R :=
  .of_quiet trans (fun _ _ quiet => control quiet.control)
    (fun _ _ => control ⟨rfl, rfl, rfl⟩) worked

/-- The request does not unload the movie. -/
def Request.Stays {β : Type} (wanted : Request β) : Prop :=
  wanted.frameUse ≠ .unloads

/-- No host code unloads the movie. -/
structure Host.Stays {σ : Type} (host : Host σ) : Prop where
  native : ∀ number receiver arguments,
    (host.native number receiver arguments).Every Request.Stays
  dispatcher : ∀ instruction,
    host.dispatcher = some instruction → instruction.Every Request.Stays

/-- The open host entries are the same. -/
def SameBarriers (before after : Machine) : Prop :=
  after.barriers = before.barriers

namespace SameBarriers

variable {σ α β : Type} {calls : Calls σ}

theorem trans
    ⦃first second third : Machine⦄
    (earlier : SameBarriers first second)
    (later : SameBarriers second third) :
    SameBarriers first third :=
  Eq.trans later earlier

theorem frameStable : FrameStable SameBarriers :=
  .of_sameControl trans (fun _ _ control => control.barriers)
    (fun _ _ _ _ _ _ => rfl)

theorem opens (wanted : Request β) : wanted.Opens SameBarriers :=
  wanted.opens_of_quiet fun _ _ quiet => quiet.control.barriers

/-- Opening and closing a host entry cancel out. -/
theorem inHostEntry_respects
    {body : Nat → Act σ Value}
    (within : ∀ base, (body base).Respects SameBarriers calls) :
    (Act.inHostEntry body).Respects SameBarriers calls := by
  intro session
  refine (within session.machine.depth _).inHostEntry
    (fun _ => rfl) ?_ ?_
  · intro value changed same
    exact congrArg List.tail same
  · intro changed same
    exact congrArg List.tail same

theorem runStable : RunStable SameBarriers :=
  { frameStable with
    moves := .of_any fun _ _ _ => rfl
    inHostEntry := inHostEntry_respects }

theorem program
    (respected : calls.Respect SameBarriers)
    (program : Program σ α)
    (stays : program.Every Request.Stays) :
    program.run.Respects SameBarriers calls :=
  stays.respects frameStable.refl trans fun wanted stays =>
    runStable.request respected wanted (opens wanted) fun use =>
      absurd use stays

end SameBarriers

/-- Host code that does not unload the movie keeps the barriers. -/
theorem Host.Stays.keepBarriers
    {σ : Type}
    {host : Host σ}
    (stays : host.Stays)
    (fuel : Nat) :
    (host.calls fuel).Respect SameBarriers :=
  SameBarriers.runStable.callsOf host
    (fun respected number receiver arguments =>
      SameBarriers.program respected _
        (stays.native number receiver arguments))
    (fun respected instruction installed =>
      SameBarriers.program respected _
        (stays.dispatcher instruction installed))
    fuel

end MovieScript
