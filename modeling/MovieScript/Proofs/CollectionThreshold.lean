import MovieScript.Proofs.ArenaBookkeeping
import MovieScript.Proofs.HostMoments
import MovieScript.Proofs.MachineGrowth
import MovieScript.Proofs.TickTurns

namespace MovieScript

/-!
# When a collection is due

The arena counts the allocations since the last collection and compares them
with a threshold that can be set at any time.  What the count and the threshold
are is told here by the operations that were made.  The comparison is one of
signed machine words: up to `2 ^ 63 - 1` a threshold says how many allocations
it takes, and a higher one counts as negative, so that it takes none.
-/

namespace Heap

variable {α : Type}

namespace Operation

/-- The threshold that the operation sets. -/
def threshold? : Operation α → Option UInt64
  | .setThreshold threshold => some threshold
  | _ => none

/-- The operation moves an object in. -/
def allocates : Operation α → Bool
  | .alloc _ => true
  | _ => false

end Operation

/-- The threshold that was set last, or the one that every arena starts with. -/
def lastThreshold (operations : List (Operation α)) : UInt64 :=
  (operations.filterMap Operation.threshold?).getLastD defaultThreshold

/-- How many objects were moved in since the last collection. -/
def allocationsSince (operations : List (Operation α)) : Nat :=
  (operations.reverse.takeWhile Operation.spares).countP
    Operation.allocates

/--
After these operations it is time for a collection: as many objects were moved
in as the threshold asks for.  No collection is due at threshold zero, and one
is always due at a threshold that is no positive signed word.
-/
def CollectionDue (operations : List (Operation α)) : Prop :=
  0 < (lastThreshold operations).toNat ∧
    ((lastThreshold operations).toNat < 2 ^ 63 →
      (lastThreshold operations).toNat ≤ allocationsSince operations)

instance (operations : List (Operation α)) :
    Decidable (CollectionDue operations) :=
  inferInstanceAs (Decidable (_ ∧ _))

/-- Moving an object in counts, and leaves the threshold as it is. -/
theorem counters_alloc
    (heap : Heap α)
    (content : α) :
    (heap.alloc content).2.threshold = heap.threshold ∧
      (heap.alloc content).2.allocations = heap.allocations + 1 := by
  have appended (roomy : Heap α) :
      (roomy.append content).2.threshold = roomy.threshold ∧
        (roomy.append content).2.allocations = roomy.allocations := by
    rcases roomy.ensureRoom_cases with same | opened
    · simp [append, same]
    · simp [append, opened, openChunk]
  rw [alloc]
  dsimp only
  split
  · exact appended _
  · split
    · exact ⟨rfl, rfl⟩
    · exact appended _

theorem counters_unpin
    (heap : Heap α)
    (handle : Handle) :
    (heap.unpin handle).2.threshold = heap.threshold ∧
      (heap.unpin handle).2.allocations = heap.allocations := by
  unfold unpin
  split
  · exact ⟨rfl, rfl⟩
  · split <;> exact ⟨rfl, rfl⟩

variable [Reset α]

/-- The arena was given the threshold first, and then it was worked with. -/
def BegunAt (threshold : UInt64) (heap : Heap α) : Prop :=
  ∃ later, heap = run (.setThreshold threshold :: later)

theorem threshold_perform
    (heap : Heap α)
    (operation : Operation α) :
    (operation.perform heap).threshold =
      operation.threshold?.getD heap.threshold := by
  cases operation with
  | alloc content => exact (heap.counters_alloc content).1
  | unpin handle => exact (heap.counters_unpin handle).1
  | _ => rfl

theorem allocations_perform
    (heap : Heap α)
    (operation : Operation α) :
    (operation.perform heap).allocations =
      if operation.spares then
        heap.allocations + if operation.allocates then 1 else 0
      else
        0 := by
  cases operation with
  | alloc content => exact (heap.counters_alloc content).2
  | unpin handle => exact (heap.counters_unpin handle).2
  | _ => rfl

theorem threshold_run (operations : List (Operation α)) :
    (run operations).threshold = lastThreshold operations := by
  induction operations using List.reverseRecOn with
  | nil => rfl
  | append_singleton operations operation inductionHypothesis =>
      rw [run_concat, threshold_perform, inductionHypothesis, lastThreshold,
        lastThreshold, List.filterMap_append]
      cases found : operation.threshold? with
      | none => simp [found]
      | some threshold => simp [found]

theorem allocations_run (operations : List (Operation α)) :
    (run operations).allocations = allocationsSince operations := by
  induction operations using List.reverseRecOn with
  | nil => rfl
  | append_singleton operations operation inductionHypothesis =>
      rw [run_concat, allocations_perform, inductionHypothesis,
        allocationsSince, allocationsSince, List.reverse_concat,
        List.takeWhile_cons]
      split
      · rw [List.countP_cons]
      · rfl

/--
Since the last collection every object that was moved in took a slot of its own
out of the free list or behind it, so their number is that of a word.
-/
theorem allocations_le_total
    (operations : List (Operation α))
    (small : (run operations).total < 2 ^ 32) :
    (run operations).allocations + (run operations).free.length ≤
      (run operations).total := by
  refine (run_induction
    (motive := fun operations =>
      (run operations).allocations + (run operations).free.length ≤
        (run operations).total)
    (Nat.le_refl 0) ?_ operations small).2
  intro before operation wellFormed smallAfter counted
  have smallBefore := Nat.lt_of_le_of_lt
    (wellFormed.packed.perform operation).2.1 smallAfter
  rw [run_concat, allocations_perform]
  cases operation with
  | alloc content =>
      have movedIn := wellFormed.movedIn smallBefore content
      simp only [Operation.spares, Operation.allocates, ↓reduceIte,
        Operation.perform]
      cases free : (run before).free with
      | nil =>
          obtain ⟨-, nowFree, grown⟩ := movedIn.appended free
          rw [nowFree, grown]
          rw [free] at counted
          simp only [List.length_nil] at counted ⊢
          omega
      | cons index rest =>
          obtain ⟨-, nowFree, same⟩ := movedIn.reused index rest free
          rw [nowFree, same]
          rw [free, List.length_cons] at counted
          omega
  | unpin handle =>
      obtain ⟨sameChunks, sameFree, -⟩ :=
        (run before).unpin_keeps handle
      rw [Operation.perform, sameFree, total, sameChunks]
      exact counted
  | collect references roots =>
      have pooled :=
        (wellFormed.perform (.collect references roots)
          smallAfter).pooled_le_total smallAfter
      simp only [Operation.spares, Bool.false_eq_true, ↓reduceIte,
        Nat.zero_add]
      exact pooled
  | modify handle change =>
      have same : ((run before).modify handle change).total =
          (run before).total :=
        total_congr (shape_updateSlot _ _ _)
      exact Nat.le_trans counted (Nat.le_of_eq same.symm)
  | pin handle => exact counted
  | clearPins => exact counted
  | setThreshold threshold => exact counted

/-- A word that is compared as a signed one. -/
theorem toInt_toInt64_le_iff
    (threshold : UInt64)
    (count : Nat) :
    threshold.toInt64.toInt ≤ (count : Int) ↔
      (threshold.toNat < 2 ^ 63 → threshold.toNat ≤ count) := by
  have bounded := threshold.toNat_lt
  have signed :
      threshold.toInt64.toInt =
        if 2 * threshold.toNat < 2 ^ 64 then
          (threshold.toNat : Int)
        else
          (threshold.toNat : Int) - (2 ^ 64 : Nat) :=
    threshold.toBitVec.toInt_eq_toNat_cond
  rw [signed]
  split <;> omega

/-- A collection is wanted exactly when it is due. -/
theorem shouldCollect_run_iff (operations : List (Operation α)) :
    (run operations).shouldCollect = true ↔ CollectionDue operations := by
  have positive :
      lastThreshold operations ≠ 0 ↔
        0 < (lastThreshold operations).toNat := by
    rw [Nat.pos_iff_ne_zero, ne_eq, ne_eq, ← UInt64.toNat_inj]
    rfl
  rw [shouldCollect, threshold_run, allocations_run, Bool.and_eq_true,
    decide_eq_true_iff, decide_eq_true_iff, toInt_toInt64_le_iff, positive,
    CollectionDue]

end Heap

namespace Machine

/-- Whatever else was done, operations lead from one heap to the other. -/
def HeapWorked (before after : Machine) : Prop :=
  Heap.Worked (fun _ => True) before.heap after.heap

namespace HeapWorked

variable {before after : Machine}

theorem of_eq (same : after.heap = before.heap) :
    before.HeapWorked after := by
  rw [HeapWorked, same]
  exact .refl before.heap

theorem trans
    ⦃first second third : Machine⦄
    (earlier : first.HeapWorked second)
    (later : second.HeapWorked third) :
    first.HeapWorked third :=
  Heap.Worked.trans earlier later

/-- The heap goes on from what it was. -/
theorem run
    (worked : before.HeapWorked after)
    {history : List (Heap.Operation ScriptObject)}
    (begun : before.heap = Heap.run history) :
    ∃ during, after.heap = Heap.run (history ++ during) := by
  obtain ⟨during, -, result⟩ := worked
  refine ⟨during, ?_⟩
  rw [← result, begun, Heap.run, Heap.run, List.foldl_append]

theorem begunAt
    (worked : before.HeapWorked after)
    {threshold : UInt64}
    (begun : before.heap.BegunAt threshold) :
    after.heap.BegunAt threshold := by
  obtain ⟨later, made⟩ := begun
  obtain ⟨during, same⟩ := worked.run made
  exact ⟨later ++ during, same⟩

theorem stepStable : StepStable HeapWorked :=
  .of_quiet trans (fun _ _ quiet => quiet.heap.mono fun _ _ => trivial)
    (fun _ _ same _ => of_eq same)
    fun _ => ⟨[.clearPins, .collect _ _], fun _ _ => trivial, rfl⟩

end HeapWorked

end Machine

namespace Act

variable {σ : Type} {calls : Calls σ} {session after : Session σ}

/-- A tick that succeeds gives all intervals their turns and then collects. -/
theorem tick_eq_ok
    {fired : Nat}
    (ran : tick calls session = .ok fired after) :
    ∃ called,
      fireAll session.machine.clock session.machine.intervals.keys calls
          session = .ok fired called ∧
        after =
          ⟨if called.machine.frames = [] ∧
              called.machine.heap.shouldCollect = true then
            called.machine.collected
          else
            called.machine, called.host⟩ := by
  rw [tick, inspect_bind] at ran
  split at ran
  · rw [inspect_bind, inspect_bind] at ran
    obtain ⟨count, called, firedAll, ran⟩ := bind_eq_ok ran
    rw [bind_ok (lift_ok (Edit.collectIfDue_eq called.machine))] at ran
    cases ran
    exact ⟨called, firedAll, rfl⟩
  · cases ran

/-- All that the turns of a tick do to the heap is operations on it. -/
theorem heapWorked_of_fireAll
    {host : Host σ}
    {fuel now fired : Nat}
    {names : List String}
    (ran : fireAll now names (host.calls fuel) session = .ok fired after) :
    session.machine.HeapWorked after.machine := by
  have stable := Machine.HeapWorked.stepStable
  have respected := stable.callsOf host fuel
  have across :=
    (stable.runStable.callStable respected).toActStable.timed.fireAll now
      names session
  rw [ran] at across
  exact across

end Act

/-- The heap of a new machine was first given the configured threshold. -/
theorem Machine.heap_fresh
    (configuration : Configuration)
    (clock : Nat)
    (loader : Option DocumentLoader) :
    (fresh configuration clock loader).heap.BegunAt
      configuration.collectionThreshold := by
  have worked :
      (bare configuration clock).HeapWorked
        (fresh configuration clock loader) :=
    (grows_fresh configuration clock loader).worked
  exact worked.begunAt ⟨_, heap_bare configuration clock⟩

/--
After any operations on the heap a collection is wanted exactly when it is due.
So it is in a machine: whatever host code has run in it, its heap has come about
by operations of which the first sets the configured threshold, and a tick that
ends without frames makes a collection after the turns of its intervals exactly
when one is due by then.
-/
theorem tick_collects_when_due
    {σ α β : Type}
    [Reset α]
    (operations : List (Heap.Operation α))
    (host : Host σ)
    (fuel : Nat)
    (program : Program σ β)
    (configuration : Configuration)
    (clock : Nat)
    (loader : Option DocumentLoader)
    (own : σ) :
    ((Heap.run operations).shouldCollect = true ↔
      Heap.CollectionDue operations) ∧
    Ends
      (fun _ reached =>
        reached.machine.heap.BegunAt configuration.collectionThreshold)
      (fun reached =>
        reached.machine.heap.BegunAt configuration.collectionThreshold)
      (program.run (host.calls fuel)
        ⟨.fresh configuration clock loader, own⟩) ∧
    ∀ (session after : Session σ) (fired : Nat)
      (history : List (Heap.Operation ScriptObject)),
      session.machine.heap = Heap.run history →
      Act.tick (host.calls fuel) session = .ok fired after →
      after.machine.frames = [] →
        ∃ called during,
          Act.fireAll session.machine.clock session.machine.intervals.keys
              (host.calls fuel) session = .ok fired called ∧
            called.machine.heap = Heap.run (history ++ during) ∧
            (Heap.CollectionDue (history ++ during) →
              after = ⟨called.machine.collected, called.host⟩ ∧
                after.machine.heap.cycles =
                  called.machine.heap.cycles + 1) ∧
            (¬Heap.CollectionDue (history ++ during) → after = called) := by
  refine ⟨Heap.shouldCollect_run_iff operations, ?_, ?_⟩
  · have begun := Machine.heap_fresh configuration clock loader
    have stable := Machine.HeapWorked.stepStable
    have across :=
      stable.program (stable.callsOf host fuel) program
        ⟨.fresh configuration clock loader, own⟩
    exact across.mono (fun _ _ worked => worked.begunAt begun)
      fun _ worked => worked.begunAt begun
  · intro session after fired history made ran idle
    obtain ⟨called, firedAll, rfl⟩ := Act.tick_eq_ok ran
    obtain ⟨during, worked⟩ :=
      (Act.heapWorked_of_fireAll firedAll).run made
    have wanted :
        called.machine.heap.shouldCollect = true ↔
          Heap.CollectionDue (history ++ during) := by
      rw [worked, Heap.shouldCollect_run_iff]
    have calledIdle : called.machine.frames = [] := by
      split at idle
      · exact idle
      · exact idle
    refine ⟨called, during, firedAll, worked, ?_, ?_⟩
    · intro due
      rw [if_pos ⟨calledIdle, wanted.mpr due⟩]
      exact ⟨rfl, rfl⟩
    · intro notDue
      rw [if_neg fun both => notDue (wanted.mp both.2)]

/-- A configuration that asks for a collection every two allocations. -/
def eager : Configuration :=
  { Configuration.standard with collectionThreshold := 2 }

/-- Two objects were made when the first tick begins, so it collects. -/
theorem tick_collects_when_due_eager :
    (Machine.bare eager 0).heap = Heap.run (Machine.preparation eager) ∧
      Heap.CollectionDue (Machine.preparation eager) ∧
      ∃ after,
        Act.tick (Host.passive.calls 0) ⟨.bare eager 0, ()⟩ =
            .ok 0 after ∧
          after.machine.frames = [] ∧ after.machine.heap.cycles = 1 := by
  have made := Machine.heap_bare eager 0
  have due : Heap.CollectionDue (Machine.preparation eager) := by decide
  obtain ⟨after, ran, idle⟩ :
      ∃ after,
        Act.tick (Host.passive.calls 0) ⟨.bare eager 0, ()⟩ =
            .ok 0 after ∧
          after.machine.frames = [] :=
    ⟨⟨(Machine.bare eager 0).collected, ()⟩, rfl, rfl⟩
  obtain ⟨wanted, -, ticks⟩ :=
    tick_collects_when_due (Machine.preparation eager) Host.passive 0
      (.finish (.ok ())) eager 0 none ()
  obtain ⟨called, during, firedAll, worked, whenDue, -⟩ :=
    ticks ⟨.bare eager 0, ()⟩ after 0 (Machine.preparation eager) made ran
      idle
  cases firedAll
  have stillDue :
      Heap.CollectionDue (Machine.preparation eager ++ during) := by
    rw [← Heap.shouldCollect_run_iff, ← worked, made]
    exact wanted.mpr due
  exact ⟨made, due, after, ran, idle, (whenDue stillDue).2⟩

/--
At a threshold of `2 ^ 63` a collection is wanted before anything was allocated.
-/
theorem shouldCollect_without_allocation :
    let operations : List (Heap.Operation Unit) :=
      [.setThreshold 9223372036854775808]
    (Heap.lastThreshold operations).toNat = 2 ^ 63 ∧
      Heap.allocationsSince operations = 0 ∧
      (Heap.run operations).shouldCollect = true := by
  decide

end MovieScript
