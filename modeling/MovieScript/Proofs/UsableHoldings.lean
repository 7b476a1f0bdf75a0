import MovieScript.Proofs.MachineGrowth
import MovieScript.Proofs.TickTurns

namespace MovieScript

/-!
# Holdings stay usable

Whatever a host does with a new machine, the well-known objects, the prototypes
and the constructors of the classes are there at every moment, and every interval
has a function to call.  An object that has a class keeps it for as long as it is
there.
-/

namespace Machine

/-- An object that is there keeps the class that it has. -/
theorem GentleInvariant.becomes (handle : Handle) (content : Content) :
    GentleInvariant
      (WhileLive handle fun object => content.Becomes object.content) where
  aside _ _ sameHeap _ := WhileLive.aside sameHeap
  timed _ _ _ := WhileLive.aside rfl
  step _ operation gentle sound small few kept :=
    kept.perform sound operation small few fun _ found becomes =>
      becomes.trans (gentle.becomes found)

/-- So what it was before says what it can be afterwards. -/
theorem content_becomes
    {before after : Machine}
    {handle : Handle}
    {object later : ScriptObject}
    (across :
      (GentleInvariant.becomes handle object.content).objectInvariant.across
        before after)
    (sound : before.heap.Sound)
    (small : after.heap.total < 2 ^ 32)
    (few : after.heap.cycles < 2 ^ 32)
    (found : before.heap.get? handle = some object)
    (foundLater : after.heap.get? handle = some later) :
    object.content.Becomes later.content := by
  have begins :
      before.WhileLive handle fun other =>
        object.content.Becomes other.content := by
    refine ⟨Heap.hasIssued_of_contains (Heap.contains_of_get? found), ?_⟩
    intro other same
    rw [found] at same
    cases same
    exact .refl object.content
  exact (across.holds small few sound begins).2.kept later foundLater

end Machine

namespace Edit

variable {machine : Machine}

/-- A function that was just made can be called. -/
theorem createFunction_makes
    (sound : machine.heap.Sound)
    (small : machine.heap.total + 1 < 2 ^ 32)
    (callable : Callable) :
    ∃ handle changed,
      (createFunction callable).run machine = .ok handle changed ∧
        machine.Grows 1 changed ∧
          changed.toFunction (.object handle) = .ok (handle, callable) := by
  have grown :=
    alloc_takes
      (.new (machine.prototype? "Function") (.function callable)) machine
  have allocation :=
    sound.toWellFormed.alloc _
      (Nat.lt_of_le_of_lt (grown.packed sound.packed).2 small)
  have found := (allocation.get?_eq _).trans (if_pos rfl)
  exact ⟨_, _, rfl, grown,
    Machine.toFunction_eq_ok_iff.mpr ⟨rfl, _, found, rfl⟩⟩

end Edit

/-- A collection that is asked for may be refused, and spares the intervals. -/
theorem Act.attempt_collectGarbage
    {σ : Type}
    (calls : Calls σ)
    (machine : Machine)
    (own : σ) :
    ∃ answer changed,
      Act.attempt (liftM Edit.collectGarbage) calls ⟨machine, own⟩ =
          .ok answer ⟨changed, own⟩ ∧
        changed.intervals = machine.intervals ∧
          machine.Grows 1 changed := by
  have across :
      MovieScript.Respects
        (fun before after =>
          after.intervals = before.intervals ∧ before.Grows 1 after)
        Edit.collectGarbage := by
    refine .get_bind fun machine => ?_
    split
    · exact ⟨rfl, .of_operation (.collect _ machine.roots) rfl⟩
    · exact ⟨rfl, .aside rfl⟩
  have collected := across machine
  cases ran : Edit.collectGarbage.run machine with
  | ok count changed =>
      rw [ran] at collected
      exact ⟨_, changed, attempt_ok (lift_ok ran), collected⟩
  | error fault changed =>
      rw [ran] at collected
      exact ⟨_, changed, attempt_fault (lift_error ran), collected⟩

namespace Host

variable {σ α : Type}

/--
Whichever turns a tick has taken, the next one finds a function to call if an
interval is due: in the machine with the entry that is opened for the call, the
callback is one.
-/
def TicksResolve (calls : Calls σ) (machine : Machine) : Prop :=
  ∀ own now names fired found name interval,
    Act.turns (fun _ => Act.callInterval) now names calls ⟨machine, own⟩ =
        .ok fired found →
      found.machine.heap.total < 2 ^ 32 →
        found.machine.heap.cycles < 2 ^ 32 →
          found.machine.due? name now = some interval →
            ∃ callable,
              (found.machine.firing name now interval).entered.toFunction
                  (.object interval.callback) =
                .ok (interval.callback, callable)

/--
While indices and generations are words, what a machine holds is usable at each
of the moments, ticks find the functions they call, and objects keep their
classes from each moment to all later ones.
-/
structure StaysUsable (host : Host σ) (moments : List Machine) : Prop where
  usable : ∀ moment ∈ moments,
    moment.heap.total < 2 ^ 32 →
      moment.heap.cycles < 2 ^ 32 →
        moment.Usable
  resolves : ∀ moment ∈ moments, ∀ fuel,
    TicksResolve (host.calls fuel) moment
  classes :
    moments.Pairwise fun before after =>
      after.heap.total < 2 ^ 32 →
        after.heap.cycles < 2 ^ 32 →
          ∀ handle object later,
            before.heap.get? handle = some object →
              after.heap.get? handle = some later →
                object.content.Becomes later.content

/-- The turns of a tick keep what is held usable, whatever callbacks do. -/
theorem ticksResolve_of_carries
    (host : Host σ)
    (fuel : Nat)
    {start machine : Machine}
    (reached :
      Machine.Usable.gentleInvariant.objectInvariant.across start machine)
    (sound : start.heap.Sound)
    (usable : start.Usable) :
    TicksResolve (host.calls fuel) machine := by
  intro own now names fired found name interval ran small few due
  have stable := Machine.Usable.gentleInvariant.stepStable
  have respected := stable.callsOf host fuel
  have timed := (stable.runStable.callStable respected).toActStable.timed
  have turned := (timed.turns now names ⟨machine, own⟩).of_ok ran
  have usableThen :=
    ((reached.trans turned).holds small few sound usable).2
  obtain ⟨callable, function⟩ :=
    usableThen.callbacks name interval (Option.filter_eq_some_iff.mp due).1
  -- Neither the time of the firing nor the entry concerns the heap.
  exact ⟨callable, Machine.toFunction_eq_ok_iff.mpr
    (Machine.toFunction_eq_ok_iff.mp function)⟩

/-- What is usable when a run starts stays so. -/
theorem staysUsable_moments
    (host : Host σ)
    (fuel : Nat)
    (program : Program σ α)
    {session : Session σ}
    (sound : session.machine.heap.Sound)
    (usable : session.machine.Usable) :
    host.StaysUsable (host.moments fuel program session) := by
  have reached {moment : Machine}
      (member : moment ∈ host.moments fuel program session) :=
    host.moments_related Machine.Usable.gentleInvariant.stepStable fuel
      program session member
  refine ⟨?_, ?_, ?_⟩
  · intro moment member small few
    exact ((reached member).holds small few sound usable).2
  · intro moment member left
    exact host.ticksResolve_of_carries left (reached member) sound usable
  · rw [List.pairwise_iff_forall_sublist]
    intro before after inOrder small few handle object later found foundLater
    have across :=
      List.pairwise_iff_forall_sublist.mp
        (host.moments_pairwise
          (Machine.GentleInvariant.becomes handle object.content).stepStable
          fuel program session)
        inOrder
    -- The machine was not larger before, so it was sound as well.
    have carries := reached (inOrder.subset List.mem_cons_self)
    have packed := (carries.packed sound.packed).1
    have soundBefore :=
      (carries.holds (Nat.lt_of_le_of_lt (across.packed packed).2 small)
        (Nat.lt_of_le_of_lt across.cycles few) sound usable).1
    exact Machine.content_becomes across soundBefore small few found
      foundLater

/--
Whatever a host does with a new machine, all that the machine holds for itself
stays usable.
-/
theorem holdings_stay_usable
    (configuration : Configuration)
    (clock : Nat)
    (loader : Option DocumentLoader)
    (host : Host σ)
    (state : σ)
    (fuel : Nat)
    (program : Program σ α) :
    (Machine.fresh configuration clock loader).Usable ∧
      host.StaysUsable
        (host.moments fuel program
          ⟨.fresh configuration clock loader, state⟩) := by
  obtain ⟨sound, established⟩ :=
    Machine.fresh_established configuration clock loader
  have usable := established.toUsable
  exact ⟨usable, host.staysUsable_moments fuel program sound usable⟩

/-- Register a function to be called at every tick, and collect. -/
def poll : Program Unit Unit :=
  .request (.createNative ⟨"poll", .host 0⟩) fun function =>
    .request
      (.createInterval "poll" 0 (.object (function.toOption.getD ⟨0, 0⟩))
        .undefined [])
      fun _ =>
        .request .collectGarbage fun _ => .finish (.ok ())

/-- In a small machine the function is registered, and due at every time. -/
theorem poll_ends
    {machine : Machine}
    (sound : machine.heap.Sound)
    (small : machine.heap.total + 1 < 2 ^ 32)
    (fuel now : Nat) :
    ∃ after,
      passive.perform fuel poll ⟨machine, ()⟩ = .ok () after ∧
        machine.Grows 2 after.machine ∧
          ∃ interval, after.machine.due? "poll" now = some interval := by
  obtain ⟨handle, polled, made, grown, function⟩ :=
    Edit.createFunction_makes sound small (.native ⟨"poll", .host 0⟩)
  have registered :=
    Edit.createInterval_registers function "poll" 0 .undefined []
  obtain ⟨answer, collected, attempted, sameIntervals, grownAgain⟩ :=
    Act.attempt_collectGarbage (passive.calls fuel)
      { polled with
        intervals := polled.intervals.insert "poll"
          ⟨0, handle, .undefined, [], polled.clock⟩ }
      ()
  refine ⟨⟨collected, ()⟩, ?_, ?_, ?_⟩
  · refine (Act.bind_ok (Act.attempt_ok (Act.lift_ok made)) _).trans ?_
    refine (Act.bind_ok (Act.attempt_ok (Act.lift_ok registered)) _).trans ?_
    exact Act.bind_ok attempted _
  · exact grown.trans
      ⟨grownAgain.worked, grownAgain.packed, grownAgain.cycles⟩
  · refine ⟨⟨0, handle, .undefined, [], polled.clock⟩,
      Option.filter_eq_some_iff.mpr ⟨?_, decide_eq_true (Nat.zero_le _)⟩⟩
    exact (congrArg (·.get? "poll") sameIntervals).trans
      ((Table.get?_insert ..).trans (if_pos rfl))

/-- A function that is polled is there after a collection. -/
theorem holdings_stay_usable_poll :
    ∃ moment ∈ passive.moments 1 poll ⟨.fresh .standard 0 none, ()⟩,
      (moment.heap.total < 2 ^ 32 ∧ moment.heap.cycles < 2 ^ 32) ∧
        moment.Usable ∧
          ∃ interval callable,
            moment.due? "poll" 0 = some interval ∧
              (moment.firing "poll" 0 interval).entered.toFunction
                  (.object interval.callback) =
                .ok (interval.callback, callable) := by
  obtain ⟨small, few⟩ := Machine.fresh_small .standard 0 none
  have sound := (Machine.fresh_established .standard 0 none).1
  obtain ⟨after, ran, grows, interval, due⟩ :=
    poll_ends sound (by omega) 1 0
  have last := passive.moments_getLast 1 poll ⟨.fresh .standard 0 none, ()⟩
  rw [ran] at last
  have member := List.mem_of_getLast? last
  have stays :=
    (holdings_stay_usable .standard 0 none passive () 1 poll).2
  have grown := (grows.packed sound.packed).2
  have grownCycles := grows.cycles
  have smallAfter : after.machine.heap.total < 2 ^ 32 := by omega
  have fewAfter : after.machine.heap.cycles < 2 ^ 32 := by omega
  obtain ⟨callable, resolves⟩ :=
    stays.resolves after.machine member 1 () 0 [] [] after "poll" interval
      rfl smallAfter fewAfter due
  exact ⟨after.machine, member, ⟨smallAfter, fewAfter⟩,
    stays.usable after.machine member smallAfter fewAfter, interval, callable,
    due, resolves⟩

end Host

end MovieScript
