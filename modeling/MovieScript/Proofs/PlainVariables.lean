import MovieScript.Proofs.WrittenNames
import MovieScript.Proofs.ScopeChains
import MovieScript.Act.Variable

namespace MovieScript

/-!
# Plain variables

A variable without a dot in its name is read and written by different rules.
Reading takes the first place that has the name: the scopes of the frame, the
scope objects, the global object, the well-known names.  Writing changes a
binding, or the object that has the name, or makes a new member or binding where
there is none.  Either way the written place is the one that is read next, and no
other name is concerned.
-/

namespace Machine

variable {machine : Machine} {target : Handle} {object : ScriptObject}
variable {change : ScriptObject → ScriptObject} {name : String}
variable {value : Value}

/-! Where a plain variable is written. -/

/-- The object that a write to a plain variable goes to, if it goes to one. -/
def assignee?
    (machine : Machine)
    (name : String) :
    Except Fault (Option Handle) :=
  if machine.frames.isEmpty then
    .ok (some machine.global)
  else if (machine.localVariable? name).isSome then
    .ok none
  else do
    return (← machine.visibleHolder? name).or machine.scopeObjects.head?

/-- The scope of the top frame has been made. -/
def LocalsMade (machine : Machine) : Prop :=
  ∀ frame rest,
    machine.frames = frame :: rest →
      frame.locals < machine.scopes.scopes.size

theorem currentFrame_of_top
    {frame : Frame}
    {callers : List Frame}
    (top : machine.frames = frame :: callers) :
    machine.currentFrame = .ok frame := by
  simp [currentFrame, top]

theorem localVariable?_of_top
    {frame : Frame}
    {callers : List Frame}
    (top : machine.frames = frame :: callers)
    (name : String) :
    machine.localVariable? name =
      machine.scopes.lookup frame.locals name := by
  simp [localVariable?, top]

theorem localVariable?_eq_none_iff
    {frame : Frame}
    {callers : List Frame}
    (top : machine.frames = frame :: callers) :
    machine.localVariable? name = none ↔
      machine.scopes.binder? frame.locals name = none := by
  rw [localVariable?_of_top top, ← Option.not_isSome_iff_eq_none,
    Scopes.lookup_isSome_iff, ← Option.isSome_iff_exists,
    Option.not_isSome_iff_eq_none]

/-- A name that is written on an object is not bound in the frame. -/
theorem localVariable?_of_assignee
    (assignee : machine.assignee? name = .ok (some target)) :
    machine.localVariable? name = none := by
  unfold assignee? at assignee
  split at assignee
  · rename_i idle
    rw [List.isEmpty_iff] at idle
    simp [localVariable?, idle]
  · split at assignee
    · cases assignee
    · rename_i unbound
      simpa using unbound

/--
A written object is where the name is looked for: some object there has the
value under that name afterwards, and it is the first one to have it.
-/
theorem visibleHolder?_written
    (assignee : machine.assignee? name = .ok (some target))
    (live : machine.heap.get? target = some object)
    (written : object.Written name value (change object))
    (shown : object.overgrown name = false) :
    ∃ holder,
      (machine.altered target change).visibleHolder? name =
          .ok (some holder) ∧
        (machine.altered target change).resolve holder name =
          .ok (.value value) := by
  have leads := resolve_altered_target live written shown
  have either := resolve_altered_self live written shown
  unfold assignee? at assignee
  split at assignee
  · rename_i idle
    rw [List.isEmpty_iff] at idle
    cases assignee
    refine ⟨machine.global, ?_, leads⟩
    have noScopes : (machine.altered machine.global change).scopeObjects = [] := by
      simp [scopeObjects, idle]
    rw [visibleHolder?, noScopes]
    exact firstHolder?_head leads []
  · split at assignee
    · cases assignee
    · cases visible : machine.visibleHolder? name with
      | error fault =>
          rw [visible] at assignee
          cases assignee
      | ok found =>
          rw [visible] at assignee
          cases found with
          | some holder =>
              cases assignee
              exact firstHolder?_written either leads visible
          | none =>
              have innermost :
                  machine.scopeObjects.head? = some target :=
                Except.ok.inj assignee
              obtain ⟨others, inOrder⟩ :=
                List.head?_eq_some_iff.mp innermost
              refine ⟨target, ?_, leads⟩
              have same :
                  (machine.altered target change).scopeObjects =
                    target :: others :=
                inOrder
              rw [visibleHolder?, same]
              exact firstHolder?_head leads _

end Machine

namespace Scopes

variable {all : Scopes} {scope : ScopeId} {name : String}

/-- What a scope binds is what a look-up from it finds. -/
theorem lookup_define_self
    (made : scope < all.scopes.size)
    (value : Value) :
    (all.define scope name value).lookup scope name = some value := by
  rw [lookup_define, if_pos]
  refine ⟨made, rfl, ?_⟩
  rw [ReachesFirst, chain_eq]
  exact List.find?_cons_of_pos (by simp)

theorem lookup_define_other
    {query : String}
    (different : query ≠ name)
    (value : Value)
    (start : ScopeId) :
    (all.define scope name value).lookup start query =
      all.lookup start query := by
  rw [lookup_define, if_neg fun shows => different shows.2.1]

end Scopes

/-- Calls that nobody answers: an act that succeeds with them makes none. -/
def Calls.unanswered {σ : Type} : Calls σ where
  invoke _ _ _ := throw .outOfFuel
  runAbove _ := throw .outOfFuel
  exportBelow _ _ := throw .outOfFuel

namespace Act

variable {σ : Type} {calls : Calls σ} {session after : Session σ}
variable {name : String} {value : Value} {target : Handle}

/-! Writing. -/

theorem setVariable_plain
    (plain : Path.isDotted name = false)
    (value : Value) :
    (setVariable name value : Act σ Unit) = setPlainVariable name value := by
  simp [setVariable, Path.splitLast?, plain]

/-- Without a frame the global object is written. -/
theorem setPlainVariable_idle (idle : session.machine.frames = []) :
    setPlainVariable name value calls session =
      setMember session.machine.global name value calls session := by
  rw [setPlainVariable, inspect_bind, idle]
  rfl

/-- In a frame a binding is overwritten, if there is one. -/
theorem assignInFrame_ok
    {frame : Frame}
    {callers : List Frame}
    (top : session.machine.frames = frame :: callers) :
    (liftM (Edit.assignInFrame name value) : Act σ Bool) calls session =
      .ok (session.machine.scopes.assign frame.locals name value).1
        ⟨{ session.machine with
            scopes :=
              (session.machine.scopes.assign frame.locals name value).2 },
          session.host⟩ := by
  apply lift_ok
  rw [Edit.assignInFrame, EStateM.run_bind,
    Edit.ask_run (Machine.currentFrame_of_top top)]
  rfl

theorem assignInFrame_unbound
    {frame : Frame}
    {callers : List Frame}
    (top : session.machine.frames = frame :: callers)
    (unbound :
      session.machine.scopes.binder? frame.locals name = none) :
    (liftM (Edit.assignInFrame name value) : Act σ Bool) calls session =
      .ok false session := by
  rw [assignInFrame_ok top, Scopes.assign_of_unbound unbound]

theorem setPlainVariable_bound
    {frame : Frame}
    {callers : List Frame}
    (top : session.machine.frames = frame :: callers)
    (assigned :
      (session.machine.scopes.assign frame.locals name value).1 = true) :
    setPlainVariable name value calls session =
      .ok ()
        ⟨{ session.machine with
            scopes :=
              (session.machine.scopes.assign frame.locals name value).2 },
          session.host⟩ := by
  have running : session.machine.frames.isEmpty = false := by
    simp [top]
  rw [setPlainVariable, inspect_bind, running]
  refine (bind_ok (assignInFrame_ok top) _).trans ?_
  rw [assigned]
  rfl

theorem defineInFrame_ok
    {frame : Frame}
    {callers : List Frame}
    (top : session.machine.frames = frame :: callers) :
    (liftM (Edit.defineInFrame name value) : Act σ Unit) calls session =
      .ok ()
        ⟨{ session.machine with
            scopes :=
              session.machine.scopes.define frame.locals name value },
          session.host⟩ := by
  apply lift_ok
  rw [Edit.defineInFrame, EStateM.run_bind,
    Edit.ask_run (Machine.currentFrame_of_top top)]
  rfl

/-- Otherwise an object is written, or else the frame's own scope. -/
theorem setPlainVariable_unbound
    {frame : Frame}
    {callers : List Frame}
    {found : Option Handle}
    (top : session.machine.frames = frame :: callers)
    (unbound :
      session.machine.scopes.binder? frame.locals name = none)
    (visible : session.machine.visibleHolder? name = .ok found) :
    setPlainVariable name value calls session =
      ((found.or session.machine.scopeObjects.head?).elim
        (liftM (Edit.defineInFrame name value))
        (setMember · name value) : Act σ Unit) calls session := by
  have running : session.machine.frames.isEmpty = false := by
    simp [top]
  rw [setPlainVariable, inspect_bind, running]
  refine (bind_ok (assignInFrame_unbound top unbound) _).trans ?_
  refine (bind_ok (ask_ok visible) _).trans ?_
  cases found with
  | some holder => rfl
  | none =>
      refine (inspect_bind _ _).trans ?_
      cases session.machine.scopeObjects.head? with
      | some innermost => rfl
      | none => rfl

/-- A write that goes to an object is a write to its member. -/
theorem setPlainVariable_object
    (assignee : session.machine.assignee? name = .ok (some target)) :
    setPlainVariable name value calls session =
      setMember target name value calls session := by
  have unbound := Machine.localVariable?_of_assignee assignee
  unfold Machine.assignee? at assignee
  rw [unbound] at assignee
  cases top : session.machine.frames with
  | nil =>
      rw [top] at assignee
      cases assignee
      exact setPlainVariable_idle top
  | cons frame callers =>
      rw [top] at assignee
      cases visible : session.machine.visibleHolder? name with
      | error fault =>
          rw [visible] at assignee
          cases assignee
      | ok found =>
          rw [visible] at assignee
          have chosen :
              found.or session.machine.scopeObjects.head? = some target :=
            Except.ok.inj assignee
          rw [setPlainVariable_unbound top
            ((Machine.localVariable?_eq_none_iff top).mp unbound) visible,
            chosen]
          rfl

/-- Any other write goes to a scope, and shows in the frame. -/
theorem setPlainVariable_scope
    (assignee : session.machine.assignee? name = .ok none)
    (made : session.machine.LocalsMade) :
    ∃ scopes : Scopes,
      setPlainVariable name value calls session =
          .ok ()
            ⟨{ session.machine with scopes := scopes }, session.host⟩ ∧
        ∃ frame callers,
          session.machine.frames = frame :: callers ∧
            scopes.lookup frame.locals name = some value ∧
              ∀ query,
                query ≠ name →
                  scopes.lookup frame.locals query =
                    session.machine.scopes.lookup frame.locals query := by
  cases top : session.machine.frames with
  | nil =>
      simp [Machine.assignee?, top] at assignee
  | cons frame callers =>
      have running : session.machine.frames.isEmpty = false := by
        simp [top]
      cases binder : session.machine.scopes.binder? frame.locals name with
      | some scope =>
          have assigned :
              (session.machine.scopes.assign frame.locals name value).1 =
                true := by
            rw [Scopes.assign_of_binder? binder]
          refine ⟨(session.machine.scopes.assign frame.locals name value).2,
            ?_, frame, callers, rfl, ?_, ?_⟩
          · exact setPlainVariable_bound top assigned
          · rw [Scopes.lookup_assign assigned, if_pos ⟨rfl, rfl⟩]
          · intro query different
            rw [Scopes.lookup_assign assigned,
              if_neg fun same => different same.1]
      | none =>
          have unbound := (Machine.localVariable?_eq_none_iff top).mpr binder
          rw [Machine.assignee?, running, unbound] at assignee
          cases visible : session.machine.visibleHolder? name with
          | error fault =>
              rw [visible] at assignee
              cases assignee
          | ok found =>
              rw [visible] at assignee
              have nowhere :
                  found.or session.machine.scopeObjects.head? = none :=
                Except.ok.inj assignee
              refine ⟨session.machine.scopes.define frame.locals name value,
                ?_, frame, callers, rfl,
                Scopes.lookup_define_self (made frame callers top) value,
                fun query different =>
                  Scopes.lookup_define_other different value frame.locals⟩
              rw [setPlainVariable_unbound top binder visible, nowhere]
              exact defineInFrame_ok top

/-- A write that finds a gap where it looks for the name is not made. -/
theorem setPlainVariable_refused
    {fault : Fault}
    (refused : session.machine.assignee? name = .error fault) :
    setPlainVariable name value calls session =
      .error (.fault fault) session := by
  cases top : session.machine.frames with
  | nil => simp [Machine.assignee?, top] at refused
  | cons frame callers =>
      have running : session.machine.frames.isEmpty = false := by
        simp [top]
      cases bound : session.machine.localVariable? name with
      | some stored => simp [Machine.assignee?, running, bound] at refused
      | none =>
          have unbound := (Machine.localVariable?_eq_none_iff top).mp bound
          rw [Machine.assignee?, running, bound] at refused
          cases visible : session.machine.visibleHolder? name with
          | ok found =>
              rw [visible] at refused
              cases refused
          | error gone =>
              rw [visible] at refused
              cases refused
              rw [setPlainVariable, inspect_bind, running]
              refine (bind_ok (assignInFrame_unbound top unbound) _).trans ?_
              exact bind_error (ask_refused visible) _

/-! Reading. -/

/-- What the frame binds is read first. -/
theorem plainVariable_local
    (notThis : name ≠ "this")
    (bound : session.machine.localVariable? name = some value) :
    plainVariable name calls session = .ok value session := by
  rw [plainVariable, if_neg notThis, inspect_bind, bound]
  rfl

/-- A frame knows its arguments. -/
theorem plainVariable_arguments
    {frame : Frame}
    {callers : List Frame}
    (top : session.machine.frames = frame :: callers)
    (unbound : session.machine.localVariable? "arguments" = none) :
    plainVariable "arguments" calls session =
      (liftM Edit.argumentsArray : Act σ Value) calls session := by
  rw [plainVariable, if_neg (by decide), inspect_bind, unbound]
  refine (inspect_bind _ _).trans ?_
  rw [top]
  rfl

/-- A frame knows the ancestor of its receiver. -/
theorem plainVariable_super
    {frame : Frame}
    {callers : List Frame}
    (top : session.machine.frames = frame :: callers)
    (unbound : session.machine.localVariable? "super" = none) :
    plainVariable "super" calls session =
      ask (fun machine => machine.ancestorOf machine.receiver) calls
        session := by
  rw [plainVariable, if_neg (by decide), inspect_bind, unbound]
  refine (inspect_bind _ _).trans ?_
  rw [top]
  rfl

/-- Any other name is looked for on the visible objects. -/
theorem plainVariable_otherwise
    (notThis : name ≠ "this")
    (unbound : session.machine.localVariable? name = none)
    (ordinary :
      session.machine.frames = [] ∨ name ≠ "arguments" ∧ name ≠ "super") :
    plainVariable name calls session =
      visibleVariable name calls session := by
  rw [plainVariable, if_neg notThis, inspect_bind, unbound]
  refine (inspect_bind _ _).trans ?_
  rcases ordinary with idle | ⟨notArguments, notSuper⟩
  · simp [idle]
  · simp [notArguments, notSuper]

theorem visibleVariable_value
    (visible : session.machine.visibleHolder? name = .ok (some target))
    (leads : session.machine.resolve target name = .ok (.value value)) :
    visibleVariable name calls session = .ok value session := by
  rw [visibleVariable, bind_ok (ask_ok visible)]
  exact (bind_ok (ask_ok leads) _).trans rfl

end Act

/--
Two machines in which a plain name is looked for along the same way, with the
same outcome at each stage.
-/
structure Machine.LooksAlike
    (name : String)
    (before after : Machine) :
    Prop where
  frames : after.frames = before.frames
  global : after.global = before.global
  external : after.external = before.external
  root : after.root = before.root
  prototypes : after.prototypes = before.prototypes
  constructors : after.constructors = before.constructors
  bound : after.localVariable? name = before.localVariable? name
  leads : ∀ start, after.resolve start name = before.resolve start name
  ancestor : ∀ receiver, after.ancestorOf receiver = before.ancestorOf receiver
  fresh : ∀ object, (after.heap.alloc object).1 = (before.heap.alloc object).1

namespace Machine.LooksAlike

variable {machine before after : Machine} {target : Handle}
variable {object : ScriptObject} {change : ScriptObject → ScriptObject}
variable {name other : String} {value : Value}

/-- A write to an object leaves other names alone. -/
theorem of_altered
    (live : machine.heap.get? target = some object)
    (written : object.Written name value (change object))
    (different : other ≠ name)
    (unpadded : object.pads name other = false) :
    LooksAlike other machine (machine.altered target change) where
  frames := rfl
  global := rfl
  external := rfl
  root := rfl
  prototypes := rfl
  constructors := rfl
  bound := rfl
  leads := resolve_altered_other live written different unpadded
  ancestor receiver := by
    have changes := changesOnly_modify live change
    refine ancestorOf_congr (fun handle => ?_) receiver
    by_cases here : handle = target
    · subst here
      rw [object_of_get? changes.here, object_of_get? live]
      exact congrArg Except.ok written.prototype
    · rw [Machine.object, Machine.object, changes.others handle here]
  fresh := machine.heap.alloc_fst_modify target change

/-- A write to a scope leaves other names alone. -/
theorem of_scopes
    {scopes : Scopes}
    {frame : Frame}
    {callers : List Frame}
    (top : machine.frames = frame :: callers)
    (same :
      scopes.lookup frame.locals name =
        machine.scopes.lookup frame.locals name) :
    LooksAlike name machine { machine with scopes := scopes } where
  frames := rfl
  global := rfl
  external := rfl
  root := rfl
  prototypes := rfl
  constructors := rfl
  bound := by
    rw [localVariable?_of_top top, localVariable?_of_top (by exact top),
      same]
  leads := resolve_congr (by rfl) fun _ => rfl
  ancestor _ := rfl
  fresh _ := rfl

end Machine.LooksAlike

namespace Edit

variable {machine : Machine} {frame : Frame} {callers : List Frame}

theorem argumentsArray_made
    {handle : Handle}
    (top : machine.frames = frame :: callers)
    (has : frame.argumentsObject = some handle) :
    argumentsArray.run machine = .ok (.object handle) machine := by
  rw [argumentsArray, EStateM.run_bind,
    ask_run (Machine.currentFrame_of_top top)]
  dsimp only
  rw [has]
  rfl

/-- The array of the arguments is the one that is there, or a new object. -/
theorem argumentsArray_run (top : machine.frames = frame :: callers) :
    ∃ after,
      argumentsArray.run machine =
        .ok
          (.object
            (frame.argumentsObject.getD
              (machine.heap.alloc
                { ScriptObject.new (machine.prototype? "Array")
                    (.array frame.arguments.toArray) with
                  constructor := machine.constructor? "Array" }).1))
          after := by
  cases has : frame.argumentsObject with
  | some handle => exact ⟨machine, argumentsArray_made top has⟩
  | none =>
      rw [argumentsArray, EStateM.run_bind,
        ask_run (Machine.currentFrame_of_top top)]
      dsimp only
      rw [has]
      obtain ⟨heap, global, external, root, prototypes, constructors, frames,
        barriers, hostResult, intervals, intervalCounter, clock, startedAt,
        loader, configuration, scopes, scene, log⟩ := machine
      cases top
      exact ⟨_, rfl⟩

end Edit

namespace Act

variable {σ : Type} {calls : Calls σ} {session between after : Session σ}
variable {name : String} {value : Value} {start : Handle}

/-! Reading the same name in two machines that look alike. -/

/-- A call that nobody answers does not succeed. -/
theorem call_unanswered
    {function receiver : Value}
    {arguments : List Value} :
    call function receiver arguments .unanswered session ≠
      .ok value between := by
  intro called
  obtain ⟨base, entered, -, rest⟩ := bind_eq_ok called
  have unanswered :
      (invoke function receiver arguments : Act σ Invocation)
        .unanswered entered = .error .outOfFuel entered :=
    rfl
  rw [bind_error (attempt_outOfFuel (bind_error unanswered _))] at rest
  cases rest

/-- What a member reads as without a call depends on where the name leads. -/
theorem getMember_alike
    (same :
      after.machine.resolve start name =
        session.machine.resolve start name)
    (reads : getMember start name .unanswered session = .ok value between) :
    getMember start name calls after = .ok value after := by
  obtain ⟨resolution, asked, isAsked, rest⟩ := bind_eq_ok reads
  obtain ⟨resolved, rfl⟩ := ask_eq_ok isAsked
  rw [getMember, bind_ok (ask_ok (same.trans resolved))]
  cases resolution with
  | value stored =>
      cases rest
      rfl
  | missing =>
      cases rest
      rfl
  | accessor getter setter =>
      cases getter with
      | none => cases rest
      | some getter => exact absurd rest call_unanswered

/-- The well-known names are the same. -/
theorem wellKnownVariable_alike
    (alike : Machine.LooksAlike name session.machine after.machine)
    (reads :
      wellKnownVariable name .unanswered session = .ok value between) :
    wellKnownVariable name calls after = .ok value after := by
  unfold wellKnownVariable at reads ⊢
  split at reads
  · rw [inspect_bind] at reads ⊢
    rw [alike.global]
    cases reads
    rfl
  · rw [inspect_bind] at reads ⊢
    rw [alike.root]
    cases reads
    rfl
  · rw [inspect_bind] at reads ⊢
    rw [alike.external]
    cases reads
    rfl
  · have sameStart :
        after.machine.pathStart? = session.machine.pathStart? := by
      rw [Machine.pathStart?, Machine.pathStart?, alike.frames]
    rw [inspect_bind] at reads ⊢
    rw [sameStart]
    cases started : session.machine.pathStart? with
    | none =>
        rw [started] at reads
        cases reads
        rfl
    | some start =>
        rw [started] at reads
        exact getMember_alike (alike.leads start) reads
  · cases reads
    rfl

/-- So is what the visible objects have. -/
theorem visibleVariable_alike
    (alike : Machine.LooksAlike name session.machine after.machine)
    (reads :
      visibleVariable name .unanswered session = .ok value between) :
    visibleVariable name calls after = .ok value after := by
  have sameObjects :
      after.machine.visibleHolder? name =
        session.machine.visibleHolder? name := by
    have sameScopes :
        after.machine.scopeObjects = session.machine.scopeObjects := by
      rw [Machine.scopeObjects, Machine.scopeObjects, alike.frames]
    rw [Machine.visibleHolder?, Machine.visibleHolder?, sameScopes,
      alike.global]
    exact Machine.firstHolder?_congr alike.leads _
  obtain ⟨holder, asked, isAsked, rest⟩ := bind_eq_ok reads
  obtain ⟨visible, rfl⟩ := ask_eq_ok isAsked
  rw [visibleVariable, bind_ok (ask_ok (sameObjects.trans visible))]
  cases holder with
  | some holder => exact getMember_alike (alike.leads holder) rest
  | none => exact wellKnownVariable_alike alike rest

/-- A plain name that is read without a call reads the same. -/
theorem plainVariable_alike
    (alike : Machine.LooksAlike name session.machine after.machine)
    (reads : plainVariable name .unanswered session = .ok value between) :
    ∃ afterwards,
      plainVariable name calls after = .ok value afterwards := by
  have sameReceiver :
      after.machine.receiver = session.machine.receiver := by
    rw [Machine.receiver, Machine.receiver, alike.frames]
  by_cases this : name = "this"
  · subst this
    cases reads
    exact ⟨after, congrArg (EStateM.Result.ok · after) sameReceiver⟩
  · cases bound : session.machine.localVariable? name with
    | some stored =>
        rw [plainVariable_local this bound] at reads
        cases reads
        exact ⟨after,
          plainVariable_local this (alike.bound.trans bound)⟩
    | none =>
        have unbound := alike.bound.trans bound
        by_cases ordinary :
            session.machine.frames = [] ∨
              name ≠ "arguments" ∧ name ≠ "super"
        · rw [plainVariable_otherwise this bound ordinary] at reads
          rw [← alike.frames] at ordinary
          rw [plainVariable_otherwise this unbound ordinary]
          exact ⟨after, visibleVariable_alike alike reads⟩
        · cases top : session.machine.frames with
          | nil => exact absurd (.inl top) ordinary
          | cons frame callers =>
              have sameTop := alike.frames.trans top
              obtain rfl | rfl : name = "arguments" ∨ name = "super" := by
                grind
              · rw [plainVariable_arguments top bound] at reads
                rw [plainVariable_arguments sameTop unbound]
                obtain ⟨_, ran⟩ := Edit.argumentsArray_run top
                obtain ⟨_, ranAgain⟩ := Edit.argumentsArray_run sameTop
                rw [lift_ok ran] at reads
                cases reads
                rw [lift_ok ranAgain, alike.fresh, Machine.prototype?,
                  Machine.constructor?, alike.prototypes,
                  alike.constructors]
                exact ⟨_, rfl⟩
              · rw [plainVariable_super top bound] at reads
                rw [plainVariable_super sameTop unbound]
                obtain ⟨answered, rfl⟩ := ask_eq_ok reads
                refine ⟨after, ask_ok ?_⟩
                rw [sameReceiver, alike.ancestor]
                exact answered

/-! A write and the reads after it. -/

theorem getVariable_plain (plain : Path.isDotted name = false) :
    (getVariable name : Act σ Value) = plainVariable name := by
  simp [getVariable, plain]

/--
A plain variable reads as what was written, and no other one has changed.  This
holds with and without a frame and whichever scopes and objects are in sight, as
long as no accessor and no read-only property stood in the way of the write.
Where an array is written, two things can come between: an element that writes
do not reach goes on hiding the value, and the padding of an array takes the
names of the elements that come before.
-/
theorem plain_variable_reads_back
    (calls : Calls σ)
    (session after : Session σ)
    {name : String}
    {value : Value}
    (plain : Path.isDotted name = false)
    (notThis : name ≠ "this")
    (notArguments : name ≠ "arguments")
    (notSuper : name ≠ "super")
    (localsMade : session.machine.LocalsMade)
    (noAccessor : ∀ target,
      session.machine.assignee? name = .ok (some target) →
        ∀ holder : session.machine.Holder target name,
          holder.member.isAccessor = false)
    (noReadOnly : ∀ target object,
      session.machine.assignee? name = .ok (some target) →
        session.machine.heap.get? target = some object →
          ∀ stored enumerable configurable,
            object.own? name ≠
              some (.data stored false enumerable configurable))
    (ok : setVariable name value calls session = .ok () after) :
    ((∀ target object,
      session.machine.assignee? name = .ok (some target) →
        session.machine.heap.get? target = some object →
          object.overgrown name = false) →
      getVariable name calls after = .ok value after) ∧
    ∀ other found between,
      Path.isDotted other = false →
        other ≠ name →
          getVariable other .unanswered session = .ok found between →
            (∀ target object,
              session.machine.assignee? name = .ok (some target) →
                session.machine.heap.get? target = some object →
                  object.pads name other = false) →
              ∃ afterwards,
                getVariable other calls after = .ok found afterwards := by
  rw [setVariable_plain plain] at ok
  rw [getVariable_plain plain]
  cases assignee : session.machine.assignee? name with
  | error fault =>
      rw [setPlainVariable_refused assignee] at ok
      cases ok
  | ok written =>
      cases written with
      | some target =>
          rw [setPlainVariable_object assignee] at ok
          obtain ⟨object, live, outcome⟩ :=
            setMember_ok (noAccessor target assignee) ok
          rcases outcome with ⟨-, _, _, _, own⟩ | ⟨change, written, rfl⟩
          · exact absurd own (noReadOnly target object assignee live _ _ _)
          · refine ⟨fun shown => ?_, ?_⟩
            · obtain ⟨holder, visible, leads⟩ :=
                Machine.visibleHolder?_written assignee live written
                  (shown target object rfl live)
              have unbound := Machine.localVariable?_of_assignee assignee
              rw [plainVariable_otherwise notThis (by exact unbound)
                (.inr ⟨notArguments, notSuper⟩)]
              exact visibleVariable_value visible leads
            · intro other found between otherPlain different reads unpadded
              rw [getVariable_plain otherPlain] at reads ⊢
              have alike := Machine.LooksAlike.of_altered live written
                different (unpadded target object rfl live)
              exact plainVariable_alike alike reads
      | none =>
          obtain ⟨scopes, ran, frame, callers, top, shows, others⟩ :=
            @setPlainVariable_scope σ calls session name value assignee
              localsMade
          rw [ran] at ok
          cases ok
          refine ⟨fun _ => ?_, ?_⟩
          · refine plainVariable_local notThis ?_
            rw [Machine.localVariable?_of_top (by exact top)]
            exact shows
          · intro other found between otherPlain different reads _
            rw [getVariable_plain otherPlain] at reads ⊢
            exact plainVariable_alike
              (.of_scopes top (others other different)) reads

end Act

/--
A frame with one scope object, which inherits a property and has another one,
and with one variable of its own.
-/
def Machine.scripted : Machine :=
  { Machine.bare .standard 0 with
    heap :=
      Heap.run
        [.alloc .blank, .alloc .blank,
          .alloc
            ((ScriptObject.new (some ⟨3, 0⟩) .ordinary).withProperty
              "width" (.plain (.integer 40))),
          .alloc
            ((ScriptObject.new none .ordinary).withProperty
              "height" (.plain (.integer 30)))]
    scopes := (Scopes.empty.create none).2.define 0 "depth" (.integer 20)
    frames :=
      [{ Frame.new #[] #[] 0 0 (.object ⟨2, 0⟩) with
          scopeObjects := [⟨2, 0⟩] }] }

/--
Writing an inherited variable gives the scope object one of its own; what it has
already, what the frame binds and the array of the arguments stay the same.
-/
theorem Act.plain_variable_reads_back_scripted :
    ∃ after : Session Unit,
      setVariable "height" (.integer 5) (Host.echoing.calls 2)
          ⟨Machine.scripted, ()⟩ = .ok () after ∧
        getVariable "height" (Host.echoing.calls 2) after =
          .ok (.integer 5) after ∧
        (∃ afterwards,
          getVariable "width" (Host.echoing.calls 2) after =
            .ok (.integer 40) afterwards) ∧
        (∃ afterwards,
          getVariable "depth" (Host.echoing.calls 2) after =
            .ok (.integer 20) afterwards) ∧
        ∃ afterwards,
          getVariable "arguments" (Host.echoing.calls 2) after =
            .ok (.object ⟨4, 0⟩) afterwards := by
  let session : Session Unit := ⟨Machine.scripted, ()⟩
  have live : Machine.scripted.heap.get? ⟨2, 0⟩ = some _ := rfl
  have above : Machine.scripted.heap.get? ⟨3, 0⟩ = some _ := rfl
  have assignee :
      Machine.scripted.assignee? "height" = .ok (some ⟨2, 0⟩) := by
    decide +kernel
  have isThere
      (target : Handle)
      (chosen :
        Machine.scripted.assignee? "height" = .ok (some target)) :
      target = ⟨2, 0⟩ := by
    rw [assignee] at chosen
    cases chosen
    rfl
  obtain ⟨after, ok⟩ : ∃ after,
      setVariable "height" (.integer 5) (Host.echoing.calls 2) session =
        .ok () after := by
    rw [setVariable_plain (by decide), setPlainVariable_object assignee]
    exact ⟨_, rfl⟩
  obtain ⟨readsBack, others⟩ :=
    plain_variable_reads_back (Host.echoing.calls 2) session after
      (by decide) (by decide) (by decide) (by decide)
      (by
        rintro frame callers ⟨⟩
        decide)
      (by
        intro target chosen holder
        cases isThere target chosen
        have inherited : holder.member = _ :=
          congrArg Heap.Holder.member
            (Heap.Holder.unique.elim holder
              ((Heap.Holder.here 127 above rfl).above live rfl rfl))
        rw [inherited]
        rfl)
      (by
        intro target object chosen found stored enumerable configurable own
        cases isThere target chosen
        cases found
        cases own)
      ok
  have noArray
      (target : Handle)
      (object : ScriptObject)
      (chosen :
        Machine.scripted.assignee? "height" = .ok (some target))
      (found : Machine.scripted.heap.get? target = some object) :
      object.elements? = none := by
    cases isThere target chosen
    cases found
    rfl
  have unpadded (other : String) target object chosen found :=
    ScriptObject.pads_of_no_elements (noArray target object chosen found)
      "height" other
  refine ⟨after, ok, ?_, ?_, ?_, ?_⟩
  · exact readsBack fun target object chosen found =>
      ScriptObject.overgrown_of_no_elements
        (noArray target object chosen found) "height"
  · refine others "width" _ session (by decide) (by decide) ?_
      (unpadded "width")
    rw [getVariable_plain (by decide),
      plainVariable_otherwise (by decide) (by decide +kernel)
        (.inr (by decide))]
    rfl
  · refine others "depth" _ session (by decide) (by decide) ?_
      (unpadded "depth")
    rw [getVariable_plain (by decide)]
    refine plainVariable_local (by decide) ?_
    rw [Machine.localVariable?_of_top rfl]
    exact Scopes.lookup_define_self (by decide) (.integer 20)
  · obtain ⟨between, reads⟩ : ∃ between,
        getVariable "arguments" .unanswered session =
          .ok (.object ⟨4, 0⟩) between := by
      rw [getVariable_plain (by decide),
        plainVariable_arguments rfl (by decide +kernel)]
      exact ⟨_, rfl⟩
    exact others "arguments" _ between (by decide) (by decide) reads
      (unpadded "arguments")

/-- The global object is an array and inherits a property `"3"`. -/
def Machine.tabular : Machine :=
  { Machine.bare .standard 0 with
    heap :=
      Heap.run
        [.alloc (.new (some ⟨2, 0⟩) (.array #[.text "a"])), .alloc .blank,
          .alloc
            ((ScriptObject.new none .ordinary).withProperty "3"
              (.plain (.text "inherited")))] }

/-- A write to the sixth element pads the array and takes the name `"3"`. -/
theorem Act.plain_variable_padded_tabular :
    ∃ object,
      Machine.tabular.assignee? "5" = .ok (some ⟨0, 0⟩) ∧
        Machine.tabular.resolve ⟨0, 0⟩ "5" = .ok .missing ∧
        Machine.tabular.heap.get? ⟨0, 0⟩ = some object ∧
        object.own? "5" = none ∧
        getVariable "3" .unanswered (⟨Machine.tabular, ()⟩ : Session Unit) =
          .ok (.text "inherited") ⟨Machine.tabular, ()⟩ ∧
        ∃ after : Session Unit,
          setVariable "5" (.integer 7) .unanswered
              ⟨Machine.tabular, ()⟩ = .ok () after ∧
            getVariable "3" .unanswered after = .ok .undefined after := by
  exact ⟨_, rfl, rfl, rfl, rfl, rfl, _, rfl, rfl⟩

end MovieScript
