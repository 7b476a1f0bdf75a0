import MovieScript.Proofs.NewMachine
import MovieScript.Proofs.VettedHosts

namespace MovieScript

/-!
# Prototypes stay acyclic

In a run in which nobody makes up a prototype, no object ever becomes its own
ancestor, and following prototypes from any object comes to an end.  A vetted
host keeps the invariant of the chains whatever it does, and such a run is the
same for the host itself.
-/

namespace Machine.ChainsEnd

variable {σ α β : Type} {calls : Calls σ}

/-- An object that is let in inherits from one that was issued before. -/
theorem adopt_respects (object : ScriptObject) :
    (Program.adopt object : Program σ Handle).run.Respects
      objectInvariant.across calls := by
  intro session
  rw [Program.run_adopt]
  split
  · rename_i issued
    refine Carries.of_operation (.alloc object) rfl
      fun sound small few chainsEnd => ?_
    refine chainsEnd.alloc sound small few fun parent inherits => ?_
    rw [inherits] at issued
    exact issued
  · exact .refl session.machine

theorem withProperty_respects
    (handle : Handle)
    (name : String)
    (property : Property) :
    Respects objectInvariant.across
      (Edit.modifyObject handle (·.withProperty name property)) := by
  refine Edit.Secures.respects (Edit.Secures.modifyObject ?_ fun _ => id)
  intro machine object found sound small few chainsEnd
  exact chainsEnd.modify (chainsEnd.ordered.modify fun _ _ => rfl)

theorem opens_of_not_allocates
    (wanted : Request β)
    (plain : wanted.allocates = false) :
    wanted.Opens objectInvariant.across := by
  cases wanted with
  | alloc object => cases plain
  | createObjectWith prototype => cases plain
  | construct constructor arguments => cases plain
  | constructClass className arguments => cases plain
  | registerMethod target name function =>
      exact fun method => withProperty_respects target name (.method method)
  | createScope outer => exact objectInvariant.frameStable.createScope outer
  | _ => trivial

/-- A vetted program leaves all chains with their ends. -/
theorem vetted_respects
    (respected : calls.Respect objectInvariant.across)
    (program : Program σ α) :
    program.vetted.run.Respects objectInvariant.across calls := by
  induction program with
  | finish outcome =>
      cases outcome with
      | ok result => exact fun session => .refl session.machine
      | error fault => exact fun session => .refl session.machine
  | request wanted next inductionHypothesis =>
      have stable :=
        (objectInvariant.runStable.callStable respected).toActStable
      rw [Program.vetted, Program.run_bind, Program.run_attempt]
      refine stable.bind (Act.respects_attempt ?_) inductionHypothesis
      exact stable.congruence.vetted_request adopt_respects wanted
        fun plain =>
          objectInvariant.request respected wanted
            (opens_of_not_allocates wanted plain)
  | own work next inductionHypothesis =>
      exact fun session =>
        inductionHypothesis (work session.host).1
          ⟨session.machine, (work session.host).2⟩

/-- So do all calls with a vetted host, however deep they are nested. -/
theorem vetted_calls
    (host : Host σ)
    (fuel : Nat) :
    (host.vetted.calls fuel).Respect objectInvariant.across := by
  refine objectInvariant.runStable.callsOf host.vetted ?_ ?_ fuel
  · intro calls respected number receiver arguments
    exact vetted_respects respected _
  · intro calls respected instruction installed
    obtain ⟨plain, -, rfl⟩ := Option.map_eq_some_iff.mp installed
    exact vetted_respects respected plain

end Machine.ChainsEnd

namespace Edit

/-- A prototype that is refused leaves everything as it is. -/
theorem setPrototype_refused
    {target : Handle}
    {prototype : Option Handle}
    {fault : Fault}
    {machine changed : Machine}
    (refused :
      (setPrototype target prototype).run machine = .error fault changed) :
    changed = machine := by
  rw [setPrototype, EStateM.run_bind] at refused
  cases checked : machine.checkChain target
      (machine.configuration.maxPrototypeDepth + 1) prototype with
  | error found =>
      rw [ask_refused checked] at refused
      cases refused
      rfl
  | ok answer =>
      rw [ask_run checked] at refused
      dsimp only at refused
      cases found : machine.heap.get? target with
      | none =>
          rw [modifyObject_dangling found] at refused
          cases refused
          rfl
      | some object =>
          rw [modifyObject_run found] at refused
          cases refused

end Edit

namespace Machine

/--
While indices and generations are words, following prototypes comes to an end
and nothing is its own ancestor.  A prototype that is refused changes nothing.
-/
structure Acyclic (machine : Machine) : Prop where
  chains :
    machine.heap.total < 2 ^ 32 →
      machine.heap.cycles < 2 ^ 32 →
        ∀ handle,
          (∃ steps, machine.heap.climb steps handle = none) ∧
            ¬Relation.TransGen machine.heap.IsPrototype handle handle
  refused : ∀ target prototype fault changed,
    (Edit.setPrototype target prototype).run machine =
        .error fault changed →
      changed = machine

theorem ChainsEnd.acyclic
    {machine : Machine}
    (chainsEnd :
      machine.heap.total < 2 ^ 32 →
        machine.heap.cycles < 2 ^ 32 →
          machine.ChainsEnd) :
    machine.Acyclic where
  chains := by
    intro small few handle
    have wellFounded := (chainsEnd small few).ordered.wellFounded
    exact ⟨Heap.climb_ends wellFounded handle,
      wellFounded.transGen.irrefl.irrefl handle⟩
  refused _ _ _ _ := Edit.setPrototype_refused

end Machine

namespace Host

variable {σ α : Type}

/--
Whatever a host does with a new machine, no object becomes its own ancestor, as
long as the prototypes that new objects are given were issued before.
-/
theorem prototypes_acyclic
    (configuration : Configuration)
    (clock : Nat)
    (loader : Option DocumentLoader)
    (host : Host σ)
    (state : σ)
    (fuel : Nat)
    (program : Program σ α)
    (issued :
      host.NamesIssued fuel program
        ⟨.fresh configuration clock loader, state⟩) :
    (∀ result session,
      host.perform fuel program
          ⟨.fresh configuration clock loader, state⟩ =
            .ok result session →
        session.machine.Acyclic) ∧
      ∀ fault session,
        host.perform fuel program
            ⟨.fresh configuration clock loader, state⟩ =
              .error (.fault fault) session →
          session.machine.Acyclic := by
  have created :
      Machine.Carries (fun _ => True) Machine.ChainsEnd
        (.bare configuration clock) (.fresh configuration clock loader) :=
    (Machine.carries_fresh configuration clock loader).mono id
      fun established => established.toChainsEnd
  rw [← issued]
  -- How the machine was made does not matter from here on.
  generalize Machine.fresh configuration clock loader = start at created ⊢
  have across :=
    Machine.ChainsEnd.vetted_respects
      (Machine.ChainsEnd.vetted_calls host fuel) program ⟨start, state⟩
  have acyclic (machine : Machine)
      (carries : Machine.ChainsEnd.objectInvariant.across start machine) :
      machine.Acyclic :=
    Machine.ChainsEnd.acyclic fun small few =>
      ((created.trans carries).holds small few
        (Machine.sound_bare configuration clock) trivial).2
  constructor
  · intro result session ran
    exact acyclic session.machine (across.of_ok ran)
  · intro fault session ran
    exact acyclic session.machine (across.of_fault ran)

/-- Make an object that inherits from another, and try it the other way too. -/
def entangle : Program Unit Unit :=
  .request .createObject fun first =>
    .request (.inspect fun machine =>
        first.toOption.filter machine.heap.hasIssued) fun issued =>
      .request (.createObjectWith issued.toOption.join) fun second =>
        .request
          (.setPrototype (first.toOption.getD ⟨0, 0⟩) second.toOption)
          fun _ => .finish (.ok ())

theorem entangle_namesIssued (fuel : Nat) (session : Session Unit) :
    passive.NamesIssued fuel entangle session := by
  have through {γ : Type} (wanted : Request γ) calls session :
      (Program.perform wanted : Program Unit γ).run calls session =
        wanted.perform calls session := by
    rw [Program.run_perform]
  refine Program.run_vetted_request (through _ _ _) fun first made _ => ?_
  refine Program.run_vetted_request (through _ _ _)
    fun issued inspected looked => ?_
  refine Program.run_vetted_request ?_ fun second linked _ => ?_
  · -- The handle was looked up in the machine that is asked for the object.
    obtain ⟨machine, host⟩ := made
    change EStateM.Result.ok _ _ = _ at looked
    cases looked
    refine (Program.run_adopt _ _ _).trans (if_pos ?_)
    change Option.all machine.heap.hasIssued
      (first.toOption.filter machine.heap.hasIssued) = true
    cases first.toOption with
    | none => rfl
    | some handle => simp
  · exact Program.run_vetted_request (through _ _ _) fun _ _ _ => rfl

/-- An attempt at an edit comes to its end, and so does what goes on there. -/
private theorem attempt_edit_ends
    {γ : Type}
    {calls : Calls Unit}
    {session : Session Unit}
    (work : Edit γ)
    {next : Except Fault γ → Program Unit Unit}
    (rest : ∀ answer changed,
      ∃ after, (next answer).run calls changed = .ok () after) :
    ∃ after,
      (Act.attempt (liftM work) >>= fun answer => (next answer).run)
        calls session = .ok () after := by
  cases ran : work.run session.machine with
  | ok result machine =>
      rw [Act.bind_ok (Act.attempt_ok (Act.lift_ok ran))]
      exact rest _ _
  | error fault machine =>
      rw [Act.bind_ok (Act.attempt_fault (Act.lift_error ran))]
      exact rest _ _

theorem entangle_ends (fuel : Nat) (session : Session Unit) :
    ∃ after, passive.perform fuel entangle session = .ok () after := by
  refine attempt_edit_ends Edit.createObject fun first made => ?_
  refine attempt_edit_ends
    (modifyGet fun machine =>
      (first.toOption.filter machine.heap.hasIssued, machine))
    fun issued inspected => ?_
  refine attempt_edit_ends (Edit.createObjectWith issued.toOption.join)
    fun second linked => ?_
  exact attempt_edit_ends
    (Edit.setPrototype (first.toOption.getD ⟨0, 0⟩) second.toOption)
    fun _ after => ⟨after, rfl⟩

/-- Two objects that are made to inherit from each other do not. -/
theorem prototypes_acyclic_entangle :
    passive.NamesIssued 1 entangle ⟨.fresh .standard 0 none, ()⟩ ∧
      ∃ after,
        passive.perform 1 entangle ⟨.fresh .standard 0 none, ()⟩ =
            .ok () after ∧
          after.machine.Acyclic := by
  have issued :
      passive.NamesIssued 1 entangle ⟨.fresh .standard 0 none, ()⟩ :=
    entangle_namesIssued 1 _
  obtain ⟨after, ran⟩ := entangle_ends 1 ⟨.fresh .standard 0 none, ()⟩
  have acyclic :=
    prototypes_acyclic .standard 0 none passive () 1 entangle issued
  exact ⟨issued, after, ran, acyclic.1 () after ran⟩

end Host

end MovieScript
