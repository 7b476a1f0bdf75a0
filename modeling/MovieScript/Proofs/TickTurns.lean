import MovieScript.Proofs.CollectionFrame
import MovieScript.Proofs.HostEntries
import MovieScript.Proofs.QuietEdits
import MovieScript.Proofs.Tables

namespace MovieScript

/-!
# The turns of a tick

A tick gives every name that is registered when it begins one turn, in order.
The names it fires are told here along with the work, for any callbacks, so that
two ticks can be compared which differ in a callback.
-/

/-- The machine after a collection. -/
def Machine.collected (machine : Machine) : Machine :=
  { machine with
    heap :=
      (machine.heap.collect (ScriptObject.references machine.scopes)
        machine.roots).2 }

namespace Edit

/-- A collection that is wanted is made, unless frames are live. -/
theorem collectIfDue_eq (machine : Machine) :
    collectIfDue.run machine =
      .ok ()
        (if machine.frames = [] ∧ machine.heap.shouldCollect = true then
          machine.collected
        else
          machine) := by
  rw [collectIfDue, EStateM.run_bind, EStateM.run_get]
  dsimp only
  simp only [Bool.and_eq_true, List.isEmpty_iff]
  split
  · rename_i wanted
    change EStateM.map (fun _ => PUnit.unit) collectGarbage machine = _
    unfold EStateM.map
    rw [Machine.collectGarbage_eq wanted.1]
    rfl
  · rfl

theorem collectIfDue_run (machine : Machine) :
    ∃ changed : Machine,
      collectIfDue.run machine = .ok () changed ∧
        changed.intervals = machine.intervals := by
  refine ⟨_, collectIfDue_eq machine, ?_⟩
  split
  · rfl
  · rfl

end Edit

namespace Act

variable {σ : Type} {calls : Calls σ} {session after : Session σ}
variable {callbacks : String → Interval → Act σ Value}
variable {now : Nat} {name : String} {names fired : List String}

/-- Give each of some names its turn and say which of them fired. -/
def turns
    (callbacks : String → Interval → Act σ Value)
    (now : Nat) :
    List String → Act σ (List String)
  | [] => return []
  | name :: rest => do
      match ← (Edit.beginFiring name now : Edit (Option Interval)) with
      | none => turns callbacks now rest
      | some interval => do
          fire name (callbacks name interval)
          let others ← turns callbacks now rest
          return name :: others

/-- The number of firings is the number of names that fired. -/
theorem fireAll_eq
    (now : Nat)
    (names : List String) :
    (fireAll now names : Act σ Nat) =
      List.length <$> turns (fun _ => callInterval) now names := by
  induction names with
  | nil => rfl
  | cons name rest inductionHypothesis =>
      rw [fireAll, turns, inductionHypothesis, fireIfDue, bind_assoc,
        map_bind]
      refine bind_congr fun due => ?_
      cases due with
      | none => simp
      | some interval => simp [Nat.add_comm]

theorem turns_cons_idle
    (idle : session.machine.due? name now = none)
    (callbacks : String → Interval → Act σ Value)
    (rest : List String) :
    turns callbacks now (name :: rest) calls session =
      turns callbacks now rest calls session :=
  bind_ok (lift_ok (Edit.beginFiring_idle idle)) _

theorem turns_cons_due
    {interval : Interval}
    (due : session.machine.due? name now = some interval)
    (callbacks : String → Interval → Act σ Value)
    (rest : List String) :
    turns callbacks now (name :: rest) calls session =
      (do
        fire name (callbacks name interval)
        let others ← turns callbacks now rest
        return name :: others : Act σ (List String)) calls
        ⟨session.machine.firing name now interval, session.host⟩ :=
  bind_ok (lift_ok (Edit.beginFiring_due due)) _

/-- The turns of two lists of names, one after the other. -/
theorem turns_append
    (callbacks : String → Interval → Act σ Value)
    (now : Nat)
    (first second : List String) :
    turns callbacks now (first ++ second) = (do
      let earlier ← turns callbacks now first
      let later ← turns callbacks now second
      return earlier ++ later) := by
  induction first with
  | nil => simp [turns]
  | cons name rest inductionHypothesis =>
      rw [List.cons_append, turns, turns, bind_assoc]
      refine bind_congr fun due => ?_
      cases due with
      | none => exact inductionHypothesis
      | some interval => simp [inductionHypothesis]

/-- The first turn either passes or fires, and the others follow. -/
theorem turns_cons_eq_ok
    {rest : List String}
    (ran : turns callbacks now (name :: rest) calls session =
      .ok fired after) :
    (session.machine.due? name now = none ∧
      turns callbacks now rest calls session = .ok fired after) ∨
    ∃ interval between others,
      session.machine.due? name now = some interval ∧
        fire name (callbacks name interval) calls
            ⟨session.machine.firing name now interval, session.host⟩ =
          .ok () between ∧
        turns callbacks now rest calls between = .ok others after ∧
          fired = name :: others := by
  cases due : session.machine.due? name now with
  | none =>
      rw [turns_cons_idle due] at ran
      exact .inl ⟨rfl, ran⟩
  | some interval =>
      rw [turns_cons_due due] at ran
      obtain ⟨⟨⟩, between, firedFirst, ran⟩ := bind_eq_ok ran
      obtain ⟨others, changed, firedRest, ended⟩ := bind_eq_ok ran
      cases ended
      exact .inr ⟨interval, between, others, rfl, firedFirst, firedRest, rfl⟩

/-- The names that fire are among those that have a turn, in their order. -/
theorem turns_sublist
    (ran : turns callbacks now names calls session = .ok fired after) :
    fired.Sublist names := by
  induction names generalizing session fired with
  | nil =>
      cases ran
      exact .slnil
  | cons name rest inductionHypothesis =>
      rcases turns_cons_eq_ok ran with
        ⟨-, later⟩ | ⟨interval, between, others, -, -, later, rfl⟩
      · exact (inductionHypothesis later).cons name
      · exact (inductionHypothesis later).cons_cons name

/-- Only the callbacks of the names that have a turn matter. -/
theorem turns_congr
    {otherCallbacks : String → Interval → Act σ Value}
    (same : ∀ name ∈ names, callbacks name = otherCallbacks name) :
    turns callbacks now names = turns otherCallbacks now names := by
  induction names with
  | nil => rfl
  | cons name rest inductionHypothesis =>
      obtain ⟨sameFirst, sameRest⟩ := List.forall_mem_cons.mp same
      rw [turns, turns, sameFirst, inductionHypothesis sameRest]

/-! The whole tick. -/

/-- A tick with these callbacks. -/
def tickWith (callbacks : String → Interval → Act σ Value) : Act σ Nat := do
  if ← inspect (·.frames.isEmpty) then
    let now ← inspect (·.clock)
    let names ← inspect (·.intervals.keys)
    let fired ← turns callbacks now names
    Edit.collectIfDue
    return fired.length
  else
    fail .tickWhileRunning

/-- The machine calls the functions of the intervals. -/
theorem tick_eq : (tick : Act σ Nat) = tickWith fun _ => callInterval := by
  refine bind_congr fun idle => ?_
  split
  · refine bind_congr fun now => bind_congr fun names => ?_
    rw [fireAll_eq, bind_map_left]
  · rfl

theorem tickWith_busy
    (busy : session.machine.frames ≠ [])
    (callbacks : String → Interval → Act σ Value) :
    tickWith callbacks calls session =
      .error (.fault .tickWhileRunning) session := by
  have notIdle : ¬session.machine.frames.isEmpty = true :=
    fun isEmpty => busy (List.isEmpty_iff.mp isEmpty)
  rw [tickWith, inspect_bind, if_neg notIdle]
  rfl

theorem tickWith_idle
    (idle : session.machine.frames = [])
    (callbacks : String → Interval → Act σ Value) :
    tickWith callbacks calls session =
      (do
        let fired ← turns callbacks session.machine.clock
          session.machine.intervals.keys
        Edit.collectIfDue
        return fired.length : Act σ Nat) calls session := by
  have isEmpty : session.machine.frames.isEmpty = true :=
    List.isEmpty_iff.mpr idle
  rw [tickWith, inspect_bind, if_pos isEmpty, inspect_bind, inspect_bind]

/-- After the last turn nothing is left that could fail. -/
theorem tickWith_of_turns
    (idle : session.machine.frames = [])
    (ran :
      turns callbacks session.machine.clock session.machine.intervals.keys
          calls session =
        .ok fired after) :
    ∃ ended,
      tickWith callbacks calls session = .ok fired.length ended ∧
        ended.machine.intervals = after.machine.intervals := by
  obtain ⟨collected, ranCollection, sameIntervals⟩ :=
    Edit.collectIfDue_run after.machine
  refine ⟨⟨collected, after.host⟩, ?_, sameIntervals⟩
  rw [tickWith_idle idle, bind_ok ran, bind_ok (lift_ok ranCollection)]
  rfl

end Act

/-- The turns of a tick do nothing but begin firings and call callbacks. -/
theorem TimedCongruence.turns
    {σ τ : Type}
    {R : Machine → Machine → Prop}
    {related : ∀ {α : Type}, Act σ α → Act τ α → Prop}
    (both : TimedCongruence R related)
    (now : Nat)
    (names : List String) :
    related (Act.turns (fun _ => Act.callInterval) now names)
      (Act.turns (fun _ => Act.callInterval) now names) := by
  induction names with
  | nil => exact both.pure _
  | cons name rest inductionHypothesis =>
      refine both.bind (both.lift (both.beginFiring _ _)) fun due => ?_
      cases due with
      | none => exact inductionHypothesis
      | some interval =>
          exact both.bind (both.fire _ (both.call _ _ _)) fun _ =>
            both.bind inductionHypothesis fun _ => both.pure _

end MovieScript
