import MovieScript.Proofs.HeapRun
import MovieScript.Proofs.HostCongruence
import MovieScript.Proofs.ScopeChains

namespace MovieScript

/-!
# What quiet edits can do

An edit that concerns neither the frames nor the intervals leaves alone what
steers the machine and the limits it works under.  Scopes are made and their
variables written.  On the heap it performs a number of operations, and no
collection is among them while a frame is live.  Every relation that allows
this much is respected by all such edits.
-/

namespace Heap

variable {α : Type}

/-- The operation takes no object away. -/
def Operation.spares : Operation α → Bool
  | .collect _ _ => false
  | _ => true

/-- A new slot behind all others leaves those in use as they are. -/
theorem slot?_append_of_some
    {heap : Heap α}
    {index : Nat}
    {slot : Slot α}
    (found : heap.slot? index = some slot)
    (content : α) :
    (heap.append content).2.slot? index = some slot := by
  rw [← slot?_ensureRoom, slot?] at found
  obtain ⟨chunk, inChunk, inSlot⟩ := Option.bind_eq_some_iff.mp found
  have inside := (Array.getElem?_eq_some_iff.mp inSlot).1
  simp only [slot?, append, Array.getElem?_modify]
  split
  · rw [inChunk]
    simp only [Option.map_some, Option.bind_some, Array.getElem?_push]
    rw [if_neg (Nat.ne_of_lt inside)]
    exact inSlot
  · rw [inChunk]
    exact inSlot

variable [Reset α]

/-- A handle that resolves does so after an operation that takes nothing. -/
theorem contains_perform_of_spares
    {heap : Heap α}
    {handle : Handle}
    (live : heap.contains handle = true)
    {operation : Operation α}
    (spares : operation.spares = true) :
    (operation.perform heap).contains handle = true := by
  obtain ⟨stored, found⟩ := contains_iff.mp live
  cases operation with
  | alloc content =>
      rw [Operation.perform, alloc]
      dsimp only
      split
      · refine contains_iff.mpr ⟨stored, slot?_append_of_some ?_ content⟩
        exact found
      · split
        · refine contains_iff.mpr ?_
          rw [slot?_updateSlot]
          split
          · exact ⟨content, congrArg (Option.map _) found⟩
          · exact ⟨stored, found⟩
        · refine contains_iff.mpr
            ⟨stored, slot?_append_of_some ?_ content⟩
          exact found
  | modify other change =>
      rw [Operation.perform, contains, get?_modify]
      split
      · rw [Option.isSome_map]
        exact live
      · exact live
  | pin other => exact live
  | unpin other =>
      refine contains_iff.mpr ⟨stored, ?_⟩
      rw [Operation.perform, slot?, (heap.unpin_keeps other).1]
      exact found
  | clearPins => exact live
  | setThreshold threshold => exact live
  | collect references roots => cases spares

/-- Operations of a certain kind lead from one heap to the other. -/
def Worked
    (allowed : Operation α → Prop)
    (before after : Heap α) :
    Prop :=
  ∃ operations : List (Operation α),
    (∀ operation ∈ operations, allowed operation) ∧
      operations.foldl Operation.perform before = after

namespace Worked

variable {allowed : Operation α → Prop}

theorem refl (heap : Heap α) : Worked allowed heap heap :=
  ⟨[], List.forall_mem_nil _, rfl⟩

theorem single
    (operation : Operation α)
    (kind : allowed operation)
    (heap : Heap α) :
    Worked allowed heap (operation.perform heap) :=
  ⟨[operation], List.forall_mem_singleton.mpr kind, rfl⟩

theorem trans
    {first second third : Heap α}
    (earlier : Worked allowed first second)
    (later : Worked allowed second third) :
    Worked allowed first third := by
  obtain ⟨operations, kinds, rfl⟩ := earlier
  obtain ⟨others, otherKinds, rfl⟩ := later
  exact ⟨operations ++ others, List.forall_mem_append.mpr ⟨kinds, otherKinds⟩,
    List.foldl_append⟩

theorem mono
    {weaker : Operation α → Prop}
    (implies : ∀ operation, allowed operation → weaker operation)
    {before after : Heap α}
    (worked : Worked allowed before after) :
    Worked weaker before after := by
  obtain ⟨operations, kinds, result⟩ := worked
  exact ⟨operations, fun operation member =>
    implies operation (kinds operation member), result⟩

/-- What one operation keeps, all of them keep. -/
theorem keeps
    (holds : Heap α → Prop)
    (step : ∀ operation heap,
      allowed operation → holds heap → holds (operation.perform heap))
    {before after : Heap α}
    (worked : Worked allowed before after)
    (held : holds before) :
    holds after := by
  obtain ⟨operations, kinds, rfl⟩ := worked
  induction operations generalizing before with
  | nil => exact held
  | cons operation rest inductionHypothesis =>
      obtain ⟨kind, kinds⟩ := List.forall_mem_cons.mp kinds
      exact inductionHypothesis (step operation before kind held) kinds

end Worked

end Heap

namespace Machine

/-- Nothing that steers the flow between frames and host entries differs. -/
structure SameControl (before after : Machine) : Prop where
  frames : after.frames = before.frames
  barriers : after.barriers = before.barriers
  hostResult : after.hostResult = before.hostResult

namespace SameControl

theorem refl (machine : Machine) : machine.SameControl machine :=
  ⟨rfl, rfl, rfl⟩

theorem trans
    ⦃first second third : Machine⦄
    (earlier : first.SameControl second)
    (later : second.SameControl third) :
    first.SameControl third :=
  ⟨later.frames.trans earlier.frames,
    later.barriers.trans earlier.barriers,
    later.hostResult.trans earlier.hostResult⟩

end SameControl

/-- The machines work under the same limits for frames and host entries. -/
structure SameLimits (before after : Machine) : Prop where
  frames :
    after.configuration.maxCallDepth = before.configuration.maxCallDepth
  entries :
    after.configuration.maxHostDepth = before.configuration.maxHostDepth

namespace SameLimits

theorem refl (machine : Machine) : machine.SameLimits machine :=
  ⟨rfl, rfl⟩

theorem trans
    ⦃first second third : Machine⦄
    (earlier : first.SameLimits second)
    (later : second.SameLimits third) :
    first.SameLimits third :=
  ⟨later.frames.trans earlier.frames, later.entries.trans earlier.entries⟩

end SameLimits

/-- What an edit can do that concerns neither the frames nor the intervals. -/
structure Quiet (before after : Machine) : Prop where
  control : before.SameControl after
  intervals : after.intervals = before.intervals
  limits : before.SameLimits after
  scopes : before.scopes.Evolves after.scopes
  /-- Objects are taken away only while no frame is live. -/
  heap :
    Heap.Worked
      (fun operation => before.frames = [] ∨ operation.spares = true)
      before.heap after.heap

namespace Quiet

theorem refl (machine : Machine) : machine.Quiet machine :=
  ⟨.refl machine, rfl, .refl machine, .refl machine.scopes,
    .refl machine.heap⟩

theorem trans
    ⦃first second third : Machine⦄
    (earlier : first.Quiet second)
    (later : second.Quiet third) :
    first.Quiet third := by
  have sameFrames := earlier.control.frames
  refine ⟨earlier.control.trans later.control,
    later.intervals.trans earlier.intervals,
    earlier.limits.trans later.limits, earlier.scopes.trans later.scopes,
    earlier.heap.trans ?_⟩
  rw [← sameFrames]
  exact later.heap

/-- One operation on the heap that takes no object away. -/
theorem of_operation
    (machine : Machine)
    (operation : Heap.Operation ScriptObject)
    (spares : operation.spares = true) :
    machine.Quiet
      { machine with heap := operation.perform machine.heap } :=
  ⟨⟨rfl, rfl, rfl⟩, rfl, ⟨rfl, rfl⟩, .refl machine.scopes,
    .single operation (.inr spares) machine.heap⟩

/-- One operation on the scopes. -/
theorem of_scopes
    (machine : Machine)
    (operation : Scopes.Operation) :
    machine.Quiet
      { machine with scopes := operation.perform machine.scopes } :=
  ⟨⟨rfl, rfl, rfl⟩, rfl, ⟨rfl, rfl⟩, .single machine.scopes operation,
    .refl machine.heap⟩

/-- A change of something else altogether. -/
theorem aside
    {before after : Machine}
    (control : before.SameControl after)
    (intervals : after.intervals = before.intervals)
    (configuration : after.configuration = before.configuration)
    (scopes : after.scopes = before.scopes)
    (heap : after.heap = before.heap) :
    before.Quiet after := by
  refine ⟨control, intervals, ⟨?_, ?_⟩, ?_, ?_⟩
  · rw [configuration]
  · rw [configuration]
  · rw [scopes]
    exact .refl before.scopes
  · rw [heap]
    exact .refl before.heap

end Quiet

end Machine

/--
A preorder that allows an object to be changed in every way that leaves it the
function that it is, or none.
-/
structure ModifyStable (R : Machine → Machine → Prop) : Prop where
  refl : ∀ machine, R machine machine
  trans : ∀ ⦃first second third⦄,
    R first second → R second third → R first third
  modifyObject : ∀ handle change,
    (∀ object : ScriptObject, (change object).callable? = object.callable?) →
      Respects R (Edit.modifyObject handle change)

namespace ModifyStable

variable {R : Machine → Machine → Prop} {α : Type}

private theorem ask
    (stable : ModifyStable R)
    (question : Machine → Except Fault α) :
    Respects R (Edit.ask question) := by
  refine .get_bind fun machine => ?_
  split
  · exact stable.refl machine
  · exact stable.refl machine

private theorem modified
    (stable : ModifyStable R)
    {handle : Handle}
    {change : ScriptObject → ScriptObject}
    {answer : α}
    (keeps : ∀ object, (change object).callable? = object.callable?) :
    Respects R do
      Edit.modifyObject handle change
      return answer :=
  .bind stable.trans (stable.modifyObject _ _ keeps) fun _ =>
    .pure stable.refl _

/-- Writing an element makes no function and ends none. -/
theorem callable?_withElement
    (object : ScriptObject)
    (index : Nat)
    (value : Value) :
    (object.withElement index value).callable? = object.callable? := by
  unfold ScriptObject.withElement
  split
  · rfl
  · rfl

theorem setPrototype
    (stable : ModifyStable R)
    (target : Handle)
    (prototype : Option Handle) :
    Respects R (Edit.setPrototype target prototype) :=
  .bind stable.trans (stable.ask _) fun _ =>
    stable.modifyObject _ _ fun _ => rfl

theorem deleteMember
    (stable : ModifyStable R)
    (handle : Handle)
    (name : String) :
    Respects R (Edit.deleteMember handle name) := by
  refine .bind stable.trans (stable.ask _) fun object => ?_
  split
  · exact stable.modified fun object => callable?_withElement object _ _
  · split
    · exact stable.modified fun _ => rfl
    · exact .pure stable.refl _

theorem defineProperty
    (stable : ModifyStable R)
    (handle : Handle)
    (name : String)
    (property : Property) :
    Respects R (Edit.defineProperty handle name property) := by
  refine .bind stable.trans (stable.ask _) fun object => ?_
  split
  · split
    · exact stable.modified fun _ => rfl
    · exact .pure stable.refl _
  · exact stable.modified fun _ => rfl

private theorem writeProperty
    (stable : ModifyStable R)
    (handle : Handle)
    (name : String)
    (value : Value)
    (object : ScriptObject) :
    Respects R
      (Edit.writeMember.writeProperty handle name value object) := by
  unfold Edit.writeMember.writeProperty
  split
  · exact stable.modified fun _ => rfl
  · exact .pure stable.refl _
  · refine .bind stable.trans (stable.ask _) fun found => ?_
    split
    · exact .pure stable.refl _
    · exact .throw stable.refl _
    · exact stable.modified fun _ => rfl

theorem writeMember
    (stable : ModifyStable R)
    (handle : Handle)
    (name : String)
    (value : Value) :
    Respects R (Edit.writeMember handle name value) := by
  refine .bind stable.trans (stable.ask _) fun object => ?_
  split
  · split
    · exact stable.modified fun object => callable?_withElement object _ _
    · exact stable.writeProperty _ _ _ _
  · exact stable.writeProperty _ _ _ _

/--
A new function gets to know its prototype object, if it may be made with the
scope of the top frame.
-/
theorem defineFunction
    (stable : ModifyStable R)
    (createObject : Respects R Edit.createObject)
    (made : ∀ (machine : Machine) definition,
      R machine
        (remaining
          ((Edit.createFunction
            (.defined
              { definition := definition
                scope := machine.frames.head?.map Frame.locals
                scopeObjects := machine.scopeObjects })).run machine)))
    (definition : Definition) :
    Respects R (Edit.defineFunction definition) := by
  unfold Edit.defineFunction
  split
  · exact .throw stable.refl _
  · refine .get_bind fun machine => ?_
    have filled (function : Handle) :
        Respects R do
          let prototype ← Edit.createObject
          Edit.modifyObject prototype
            (·.withProperty "constructor" (.hidden (.object function)))
          Edit.modifyObject function
            (·.withProperty "prototype" (.hidden (.object prototype)))
          return function :=
      .bind stable.trans createObject fun prototype =>
        .bind stable.trans (stable.modifyObject _ _ fun _ => rfl) fun _ =>
          stable.modified fun _ => rfl
    exact Respects.bind_at stable.trans (made machine definition) filled

end ModifyStable

namespace Edit

open Machine

private theorem ask_quiet
    (question : Machine → Except Fault α) :
    Respects Quiet (ask question) := by
  refine .get_bind fun machine => ?_
  split
  · exact .refl machine
  · exact .refl machine

theorem alloc_quiet (object : ScriptObject) :
    Respects Quiet (alloc object) :=
  fun machine =>
    Quiet.of_operation machine (.alloc object) rfl

private theorem createObject_quiet : Respects Quiet createObject :=
  .get_bind fun machine => alloc_quiet _ machine

private theorem createInstance_quiet
    (className : String)
    (content : Content) :
    Respects Quiet (createInstance className content) :=
  .get_bind fun machine => alloc_quiet _ machine

private theorem createFunction_quiet (callable : Callable) :
    Respects Quiet (createFunction callable) :=
  .get_bind fun machine => alloc_quiet _ machine

theorem modifyObject_quiet
    (handle : Handle)
    (change : ScriptObject → ScriptObject) :
    Respects Quiet (modifyObject handle change) := by
  refine .get_bind fun machine => ?_
  split
  · exact Quiet.of_operation machine
      (.modify handle change) rfl
  · exact .refl machine

theorem modifyStable_quiet : ModifyStable Quiet where
  refl := .refl
  trans := Quiet.trans
  modifyObject handle change _ := modifyObject_quiet handle change

private theorem setContent_quiet
    (receiver : Value)
    (content : Content) :
    Respects Quiet (setContent receiver content) := by
  unfold setContent
  split
  · exact modifyObject_quiet _ _
  · exact .pure Quiet.refl _

private theorem defineFunction_quiet (definition : Definition) :
    Respects Quiet (defineFunction definition) :=
  modifyStable_quiet.defineFunction createObject_quiet
    (fun machine _ => createFunction_quiet _ machine) definition

private theorem collectGarbage_quiet : Respects Quiet collectGarbage := by
  refine .get_bind fun machine => ?_
  split
  · rename_i idle
    refine ⟨⟨rfl, rfl, rfl⟩, rfl, ⟨rfl, rfl⟩, .refl machine.scopes, ?_⟩
    exact .single (.collect _ _)
      (.inl (List.isEmpty_iff.mp idle)) machine.heap
  · exact .refl machine

private theorem defineInFrame_quiet
    (name : String)
    (value : Value) :
    Respects Quiet (defineInFrame name value) :=
  .bind Quiet.trans (ask_quiet _) fun frame machine =>
    .of_scopes machine (.define frame.locals name value)

private theorem assignInFrame_quiet
    (name : String)
    (value : Value) :
    Respects Quiet (assignInFrame name value) :=
  .bind Quiet.trans (ask_quiet _) fun frame machine =>
    .of_scopes machine (.assign frame.locals name value)

end Edit

/-- A preorder that allows what quiet edits can do is respected by them. -/
theorem QuietStable.of_quiet
    {R : Machine → Machine → Prop}
    (trans : ∀ ⦃first second third⦄,
      R first second → R second third → R first third)
    (quiet : ∀ ⦃before after⦄, before.Quiet after → R before after) :
    QuietStable R where
  refl machine := quiet (.refl machine)
  trans := trans
  createObject machine := quiet (Edit.createObject_quiet machine)
  createInstance _ _ _ machine :=
    quiet (Edit.createInstance_quiet _ _ machine)
  createNative _ machine := quiet (Edit.createFunction_quiet _ machine)
  setPrototype _ _ machine :=
    quiet (Edit.modifyStable_quiet.setPrototype _ _ machine)
  deleteMember _ _ machine :=
    quiet (Edit.modifyStable_quiet.deleteMember _ _ machine)
  defineProperty _ _ _ machine :=
    quiet (Edit.modifyStable_quiet.defineProperty _ _ _ machine)
  writeMember _ _ _ machine :=
    quiet (Edit.modifyStable_quiet.writeMember _ _ _ machine)
  setContent _ _ machine _ := quiet (Edit.setContent_quiet _ _ machine)
  defineFunction _ machine := quiet (Edit.defineFunction_quiet _ machine)
  pin handle machine :=
    quiet (.of_operation machine (.pin handle) rfl)
  unpin handle machine :=
    quiet (.of_operation machine (.unpin handle) rfl)
  setThreshold threshold machine :=
    quiet ⟨⟨rfl, rfl, rfl⟩, rfl, ⟨rfl, rfl⟩, .refl machine.scopes,
      .single (.setThreshold threshold) (.inr rfl) machine.heap⟩
  collectGarbage machine := quiet (Edit.collectGarbage_quiet machine)
  setRoot _ _ := quiet (.aside ⟨rfl, rfl, rfl⟩ rfl rfl rfl rfl)
  defineInFrame _ _ machine :=
    quiet (Edit.defineInFrame_quiet _ _ machine)
  assignInFrame _ _ machine :=
    quiet (Edit.assignInFrame_quiet _ _ machine)
  nextIntervalName _ := quiet (.aside ⟨rfl, rfl, rfl⟩ rfl rfl rfl rfl)
  advanceClock _ _ := quiet (.aside ⟨rfl, rfl, rfl⟩ rfl rfl rfl rfl)
  setClock _ _ := quiet (.aside ⟨rfl, rfl, rfl⟩ rfl rfl rfl rfl)
  onScene _ _ := quiet (.aside ⟨rfl, rfl, rfl⟩ rfl rfl rfl rfl)
  addItem _ _ := quiet (.aside ⟨rfl, rfl, rfl⟩ rfl rfl rfl rfl)
  report _ _ _ := quiet (.aside ⟨rfl, rfl, rfl⟩ rfl rfl rfl rfl)
  drainLog _ := quiet (.aside ⟨rfl, rfl, rfl⟩ rfl rfl rfl rfl)

theorem ScopeStable.of_quiet
    {R : Machine → Machine → Prop}
    (quiet : ∀ ⦃before after⦄, before.Quiet after → R before after) :
    ScopeStable R where
  createScope outer machine := quiet (.of_scopes machine (.create outer))
  defineVariable scope name value machine :=
    quiet (.of_scopes machine (.define scope name value))

/-- A relation that allows what quiet edits can do leaves the host its choice. -/
theorem Request.opens_of_quiet
    {β : Type}
    {R : Machine → Machine → Prop}
    (quiet : ∀ ⦃before after⦄, before.Quiet after → R before after)
    (wanted : Request β) :
    wanted.Opens R :=
  opens_of_edits
    (fun object machine => quiet (Edit.alloc_quiet object machine))
    (fun handle change machine =>
      quiet (Edit.modifyObject_quiet handle change machine))
    (ScopeStable.of_quiet quiet).createScope
    wanted

/-- Work on the top frame is allowed if all that stays with its call is. -/
theorem Edit.onFrame_across
    {R : Machine → Machine → Prop}
    (refl : ∀ machine, R machine machine)
    (worked : ∀ ⦃machine frame callers changed⦄,
      machine.frames = frame :: callers →
        Frame.SameCall frame changed →
          R machine { machine with frames := changed :: callers })
    {α : Type}
    {edit : FrameEdit α}
    (respected : Respects Frame.SameCall edit) :
    Respects R (Edit.onFrame edit) := by
  intro machine
  change R machine (remaining (Edit.onFrame edit machine))
  unfold Edit.onFrame
  split
  · exact refl machine
  · rename_i frame callers top
    have across := respected frame
    change frame.SameCall (remaining (edit frame)) at across
    cases ran : edit frame with
    | ok result changed =>
        rw [ran] at across
        exact worked top across
    | error fault changed =>
        rw [ran] at across
        exact worked top across

/-- A preorder that also allows work on the top frame. -/
theorem FrameQuiet.of_quiet
    {R : Machine → Machine → Prop}
    (trans : ∀ ⦃first second third⦄,
      R first second → R second third → R first third)
    (quiet : ∀ ⦃before after⦄, before.Quiet after → R before after)
    (worked : ∀ ⦃machine frame callers changed⦄,
      machine.frames = frame :: callers →
        Frame.SameCall frame changed →
          R machine { machine with frames := changed :: callers }) :
    FrameQuiet R where
  toQuietStable := .of_quiet trans quiet
  onFrame := Edit.onFrame_across (fun machine => quiet (.refl machine)) worked

/-! The edits of the intervals change nothing else. -/

namespace Machine

/-- The interval of a name, if there is one and it is due. -/
def due?
    (machine : Machine)
    (name : String)
    (now : Nat) :
    Option Interval :=
  (machine.intervals.get? name).filter (·.isDue now)

/-- The machine in which the callback of an interval starts to run. -/
def firing
    (machine : Machine)
    (name : String)
    (now : Nat)
    (interval : Interval) :
    Machine :=
  { machine with
    intervals :=
      machine.intervals.insert name { interval with lastFire := now } }

end Machine

namespace Edit

theorem createInterval_registers
    {callback : Value}
    {handle : Handle}
    {callable : Callable}
    {machine : Machine}
    (function : machine.toFunction callback = .ok (handle, callable))
    (name : String)
    (period : Nat)
    (receiver : Value)
    (arguments : List Value) :
    (createInterval name period callback receiver arguments).run machine =
      .ok ()
        { machine with
          intervals :=
            machine.intervals.insert name
              ⟨period, handle, receiver, arguments, machine.clock⟩ } := by
  rw [createInterval, EStateM.run_bind, ask_run function]
  rfl

theorem createInterval_run
    (name : String)
    (period : Nat)
    (callback receiver : Value)
    (arguments : List Value)
    (machine : Machine) :
    (∃ fault,
      (createInterval name period callback receiver arguments).run
        machine = .error fault machine) ∨
    ∃ (interval : Interval) (callable : Callable),
      machine.toFunction (.object interval.callback) =
          .ok (interval.callback, callable) ∧
        interval.period = period ∧ interval.lastFire = machine.clock ∧
          (createInterval name period callback receiver arguments).run
              machine =
            .ok ()
              { machine with
                intervals := machine.intervals.insert name interval } := by
  cases found : machine.toFunction callback with
  | ok function =>
      obtain ⟨handle, callable⟩ := function
      have registered :=
        createInterval_registers found name period receiver arguments
      obtain ⟨rfl, -⟩ := Machine.toFunction_eq_ok_iff.mp found
      exact .inr ⟨⟨period, handle, receiver, arguments, machine.clock⟩,
        callable, found, rfl, rfl, registered⟩
  | error fault =>
      rw [createInterval, EStateM.run_bind, ask_refused found]
      exact .inl ⟨fault, rfl⟩

theorem beginFiring_idle
    {name : String}
    {now : Nat}
    {machine : Machine}
    (idle : machine.due? name now = none) :
    (beginFiring name now).run machine = .ok none machine := by
  rw [beginFiring, EStateM.run_bind, EStateM.run_get]
  dsimp only
  cases found : machine.intervals.get? name with
  | none => rfl
  | some interval =>
      rw [Machine.due?, found, Option.filter_some] at idle
      have notDue : ¬interval.isDue now = true := by simpa using idle
      dsimp only
      rw [if_neg notDue]
      rfl

theorem beginFiring_due
    {name : String}
    {now : Nat}
    {machine : Machine}
    {interval : Interval}
    (due : machine.due? name now = some interval) :
    (beginFiring name now).run machine =
      .ok (some interval) (machine.firing name now interval) := by
  obtain ⟨found, isDue⟩ := Option.filter_eq_some_iff.mp due
  rw [beginFiring, EStateM.run_bind, EStateM.run_get]
  dsimp only
  rw [found]
  dsimp only
  rw [if_pos isDue]
  rfl

end Edit

/-- What is left when the running movie has been torn down. -/
def Machine.unloaded (machine : Machine) : Machine :=
  let cleared : Machine :=
    { machine with
      intervals := .empty
      frames := []
      barriers := []
      hostResult := none
      root := none
      heap := machine.heap.clearPins }
  { cleared with
    heap :=
      (cleared.heap.collect
        (ScriptObject.references cleared.scopes) cleared.roots).2 }

/-- Without frames nothing hinders the collection at the end. -/
theorem Edit.unload_run (machine : Machine) :
    Edit.unload.run machine = .ok () machine.unloaded :=
  rfl

/-- Intervals may be changed where any change of them is allowed. -/
theorem QuietStable.editStable
    {R : Machine → Machine → Prop}
    (stable : QuietStable R)
    (timed : ∀ (machine : Machine) intervals,
      R machine { machine with intervals := intervals }) :
    EditStable R where
  toQuietStable := stable
  createInterval name period callback receiver arguments machine := by
    rcases Edit.createInterval_run name period callback receiver arguments
      machine with ⟨fault, refused⟩ | ⟨interval, -, -, -, -, done⟩
    · rw [refused]
      exact stable.refl machine
    · rw [done]
      exact timed machine _
  clearInterval _ machine := timed machine _
  beginFiring name now machine := by
    cases due : machine.due? name now with
    | none =>
        rw [Edit.beginFiring_idle due]
        exact stable.refl machine
    | some interval =>
        rw [Edit.beginFiring_due due]
        exact timed machine _

/-- The same with work on the top frame. -/
theorem FrameStable.of_quiet
    {R : Machine → Machine → Prop}
    (trans : ∀ ⦃first second third⦄,
      R first second → R second third → R first third)
    (quiet : ∀ ⦃before after⦄, before.Quiet after → R before after)
    (timed : ∀ (machine : Machine) intervals,
      R machine { machine with intervals := intervals })
    (worked : ∀ ⦃machine frame callers changed⦄,
      machine.frames = frame :: callers →
        Frame.SameCall frame changed →
          R machine { machine with frames := changed :: callers }) :
    FrameStable R where
  toEditStable := (QuietStable.of_quiet trans quiet).editStable timed
  onFrame := (FrameQuiet.of_quiet trans quiet worked).onFrame
  toScopeStable := .of_quiet quiet

end MovieScript
