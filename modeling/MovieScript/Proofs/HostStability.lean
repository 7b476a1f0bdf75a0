import MovieScript.Proofs.ActStability
import MovieScript.Proofs.HostCongruence

namespace MovieScript

/-!
# Relations that host code respects

Requests that leave the frames to host entries respect whatever acts respect.
A call that is started either comes to its end or leaves a frame behind, and a
second relation says what holds in that case.
-/

theorem EditStable.request
    {σ β : Type}
    {R : Machine → Machine → Prop}
    (stable : EditStable R)
    (calls : Calls σ)
    (wanted : Request β)
    (use : wanted.frameUse = .apart)
    (opens : wanted.Opens R) :
    wanted.perform.Respects R calls := by
  have congruence :
      EditCongruence (σ := σ) (τ := σ) R
        (fun act _ => act.Respects R calls) :=
    ⟨stable.toQuietStable, fun respected =>
      Act.respects_lift respected calls⟩
  exact congruence.timedRequest stable wanted use opens

theorem ActStable.request
    {σ β : Type}
    {R : Machine → Machine → Prop}
    {calls : Calls σ}
    (stable : ActStable R calls)
    (wanted : Request β)
    (use : wanted.frameUse = .within)
    (opens : wanted.Opens R) :
    wanted.perform.Respects R calls :=
  stable.timed.request wanted (.inr use) opens

namespace Act

variable {σ : Type}

/--
One relation holds across a call that has come to its end, the other across one
that has left a frame behind.
-/
def Launches
    (R P : Machine → Machine → Prop)
    (calls : Calls σ)
    (act : Act σ Invocation) :
    Prop :=
  ∀ session,
    Ends
      (fun invocation changed =>
        match invocation with
        | .complete _ => R session.machine changed.machine
        | .pending => P session.machine changed.machine)
      (fun changed => R session.machine changed.machine)
      (act calls session)

theorem launches_same_iff
    {R : Machine → Machine → Prop}
    {calls : Calls σ}
    {act : Act σ Invocation} :
    act.Launches R R calls ↔ act.Respects R calls := by
  constructor
  · intro launched session
    refine (launched session).mono ?_ fun _ => id
    intro invocation changed across
    cases invocation with
    | complete value => exact across
    | pending => exact across
  · intro respected session
    refine (respected session).mono ?_ fun _ => id
    intro invocation changed across
    cases invocation with
    | complete value => exact across
    | pending => exact across

end Act

/--
A preorder that acts respect, and a second relation for the calls that leave a
frame behind.
-/
structure CallStable
    {σ : Type}
    (R P : Machine → Machine → Prop)
    (calls : Calls σ) :
    Prop extends ActStable R calls where
  absorb : ∀ ⦃first second third⦄,
    R first second → P second third → P first third
  invoke : ∀ function receiver arguments,
    (Act.invoke function receiver arguments).Launches R P calls
  pushed : ∀ frame machine changed,
    (Edit.pushFrame frame).run machine = .ok () changed →
      P machine changed
  refused : ∀ frame machine fault changed,
    (Edit.pushFrame frame).run machine = .error fault changed →
      R machine changed

namespace CallStable

variable {σ α : Type}
variable {R P : Machine → Machine → Prop} {calls : Calls σ}

/-- What was done before a call is started is taken into account. -/
theorem launches_after
    (stable : CallStable R P calls)
    {act : Act σ Invocation}
    (launched : act.Launches R P calls)
    {before : Machine}
    {session : Session σ}
    (across : R before session.machine) :
    Ends
      (fun invocation changed =>
        match invocation with
        | .complete _ => R before changed.machine
        | .pending => P before changed.machine)
      (fun changed => R before changed.machine)
      (act calls session) := by
  refine (launched session).mono ?_ fun _ => stable.trans across
  intro invocation changed afterwards
  cases invocation with
  | complete value => exact stable.trans across afterwards
  | pending => exact stable.absorb across afterwards

theorem bind
    (stable : CallStable R P calls)
    {act : Act σ α}
    {next : α → Act σ Invocation}
    (first : act.Respects R calls)
    (second : ∀ result, (next result).Launches R P calls) :
    Act.Launches R P calls (act >>= next) :=
  fun session =>
    (first session).bind fun result _ across =>
      stable.launches_after (second result) across

theorem complete (stable : CallStable R P calls) (value : Value) :
    (return .complete value : Act σ Invocation).Launches R P calls :=
  fun session => stable.refl session.machine

theorem fail (stable : CallStable R P calls) (fault : Fault) :
    (Act.fail fault : Act σ Invocation).Launches R P calls :=
  fun session => stable.refl session.machine

theorem pushFrame (stable : CallStable R P calls) (frame : Frame) :
    Act.Launches R P calls do
      Edit.pushFrame frame
      return .pending := by
  intro session
  have across :
      Ends (fun _ changed => P session.machine changed.machine)
        (fun changed => R session.machine changed.machine)
        ((liftM (Edit.pushFrame frame) : Act σ Unit) calls session) :=
    .edit (fun _ changed => stable.pushed frame session.machine changed)
      (stable.refused frame session.machine)
  exact across.bind fun _ _ pushed => pushed

theorem congruence (stable : CallStable R P calls) :
    CallCongruence (σ := σ) (τ := σ) R
      (fun act _ => act.Respects R calls)
      (fun act _ => act.Launches R P calls) where
  toActCongruence := stable.toActStable.congruence
  complete := stable.complete
  refuse := stable.fail
  andThen := stable.bind
  invoke := stable.invoke

theorem builtin
    (stable : CallStable R P calls)
    (function : Builtin)
    (receiver : Value)
    (arguments : List Value) :
    (function.run receiver arguments).Launches R P calls :=
  stable.congruence.timedBuiltin stable.timed function receiver arguments

theorem startCall
    (stable : CallStable R P calls)
    (host : Host σ)
    (native : ∀ number receiver arguments,
      (host.native number receiver arguments).run.Launches R P calls)
    (function receiver : Value)
    (arguments : List Value) :
    (host.startCall function receiver arguments).Launches R P calls := by
  refine stable.bind (stable.ask _) fun (callee, callable) => ?_
  dsimp only
  split
  · exact stable.builtin _ _ _
  · exact native _ _ _
  · exact stable.bind (stable.congruence.buildFrame
      stable.toScopeStable _ _ _ _) fun frame =>
      stable.pushFrame frame

end CallStable

end MovieScript
