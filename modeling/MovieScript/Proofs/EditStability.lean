import MovieScript.Classes.Builtin
import MovieScript.Host.Request

namespace MovieScript

/-!
# Relations that edits respect

A relation between the state before and the state after is respected by some
work if it holds across the work, however that ends.  A preorder of machines
that the elementary edits respect is respected by everything that is built from
them, the functions of the built-in classes included.
-/

section Respects

variable {ε S α β : Type} {R : S → S → Prop}

/-- The state that is left when work is over, done or failed. -/
def remaining : EStateM.Result ε S α → S
  | .ok _ state => state
  | .error _ state => state

/-- What work has answered, if it has not failed. -/
def answer? : EStateM.Result ε S α → Option α
  | .ok result _ => some result
  | .error _ _ => none

theorem answer?_eq_some
    {outcome : EStateM.Result ε S α}
    {result : α}
    (answered : answer? outcome = some result) :
    outcome = .ok result (remaining outcome) := by
  cases outcome with
  | ok given state =>
      obtain rfl := Option.some.inj answered
      rfl
  | error failure state => cases answered

/-- The relation holds across the work, however it ends. -/
def Respects (R : S → S → Prop) (work : EStateM ε S α) : Prop :=
  ∀ state, R state (remaining (work.run state))

namespace Respects

theorem pure (refl : ∀ state, R state state) (result : α) :
    Respects R (Pure.pure result : EStateM ε S α) :=
  fun state => refl state

theorem throw (refl : ∀ state, R state state) (failure : ε) :
    Respects R (MonadExcept.throw failure : EStateM ε S α) :=
  fun state => refl state

theorem get (refl : ∀ state, R state state) :
    Respects R (MonadState.get : EStateM ε S S) :=
  fun state => refl state

theorem get_bind
    {next : S → EStateM ε S α}
    (afterwards :
      ∀ state, R state (remaining ((next state).run state))) :
    Respects R (MonadState.get >>= next) :=
  afterwards

/-- What is done first is judged in the state it starts from. -/
theorem bind_at
    (trans : ∀ ⦃first second third⦄,
      R first second → R second third → R first third)
    {work : EStateM ε S α}
    {next : α → EStateM ε S β}
    {state : S}
    (across : R state (remaining (work.run state)))
    (second : ∀ result, Respects R (next result)) :
    R state (remaining ((work >>= next).run state)) := by
  rw [EStateM.run_bind]
  cases ran : work.run state with
  | ok result changed =>
      rw [ran] at across
      exact trans across (second result changed)
  | error failure changed =>
      rw [ran] at across
      exact across

theorem bind
    (trans : ∀ ⦃first second third⦄,
      R first second → R second third → R first third)
    {work : EStateM ε S α}
    {next : α → EStateM ε S β}
    (first : Respects R work)
    (second : ∀ result, Respects R (next result)) :
    Respects R (work >>= next) :=
  fun state => bind_at trans (first state) second

theorem map
    {work : EStateM ε S α}
    (respected : Respects R work)
    (convert : α → β) :
    Respects R (convert <$> work) := by
  intro state
  have across := respected state
  change R state (remaining (EStateM.map convert work state))
  unfold EStateM.map
  change R state (remaining (work state)) at across
  cases ran : work state with
  | ok result changed =>
      rw [ran] at across
      exact across
  | error failure changed =>
      rw [ran] at across
      exact across

theorem mapM
    (refl : ∀ state, R state state)
    (trans : ∀ ⦃first second third⦄,
      R first second → R second third → R first third)
    {work : α → EStateM ε S β}
    (respected : ∀ item, Respects R (work item))
    (items : List α) :
    Respects R (items.mapM work) := by
  induction items with
  | nil => exact pure refl []
  | cons item rest inductionHypothesis =>
      rw [List.mapM_cons]
      exact bind trans (respected item) fun _ =>
        bind trans inductionHypothesis fun _ => pure refl _

end Respects

end Respects

/-! What the edits do that everything else asks first. -/

namespace Edit

variable {α β : Type} {machine : Machine}

theorem ask_run
    {question : Machine → Except Fault α}
    {answer : α}
    (answered : question machine = .ok answer) :
    (ask question).run machine = .ok answer machine := by
  rw [ask, EStateM.run_bind, EStateM.run_get]
  dsimp only
  rw [answered]
  rfl

theorem ask_refused
    {question : Machine → Except Fault α}
    {fault : Fault}
    (refused : question machine = .error fault) :
    (ask question).run machine = .error fault machine := by
  rw [ask, EStateM.run_bind, EStateM.run_get]
  dsimp only
  rw [refused]
  rfl

/-- Work that asks first is judged in the state that it has asked. -/
theorem across_ask_bind
    {R : Machine → Machine → Prop}
    (refl : R machine machine)
    {question : Machine → Except Fault α}
    {next : α → Edit β}
    (afterwards : ∀ answer,
      question machine = .ok answer →
        R machine (remaining ((next answer).run machine))) :
    R machine (remaining ((ask question >>= next).run machine)) := by
  rw [EStateM.run_bind]
  cases asked : question machine with
  | ok answer =>
      rw [ask_run asked]
      exact afterwards answer asked
  | error fault =>
      rw [ask_refused asked]
      exact refl

theorem respects_ask_bind
    {R : Machine → Machine → Prop}
    (refl : ∀ machine, R machine machine)
    {question : Machine → Except Fault α}
    {next : α → Edit β}
    (afterwards : ∀ machine answer,
      question machine = .ok answer →
        R machine (remaining ((next answer).run machine))) :
    Respects R (ask question >>= next) :=
  fun machine => across_ask_bind (refl machine) (afterwards machine)

/-- An answer that is made up afterwards changes nothing. -/
theorem remaining_bind_pure
    (work : Edit α)
    (answer : β)
    (machine : Machine) :
    remaining ((work >>= fun _ => pure answer).run machine) =
      remaining (work.run machine) := by
  rw [EStateM.run_bind]
  cases work.run machine with
  | ok result changed => rfl
  | error fault changed => rfl

theorem modifyObject_run
    {handle : Handle}
    {object : ScriptObject}
    (live : machine.heap.get? handle = some object)
    (change : ScriptObject → ScriptObject) :
    (modifyObject handle change).run machine =
      .ok () { machine with heap := machine.heap.modify handle change } := by
  have contained : machine.heap.contains handle = true := by
    rw [Heap.contains, live]
    rfl
  rw [modifyObject, EStateM.run_bind, EStateM.run_get]
  dsimp only
  rw [if_pos contained]
  rfl

theorem modifyObject_dangling
    {handle : Handle}
    (dead : machine.heap.get? handle = none)
    (change : ScriptObject → ScriptObject) :
    (modifyObject handle change).run machine =
      .error (.danglingReference handle) machine := by
  have missing : ¬machine.heap.contains handle = true := by
    rw [Heap.contains, dead]
    exact Bool.false_ne_true
  rw [modifyObject, EStateM.run_bind, EStateM.run_get]
  dsimp only
  rw [if_neg missing]
  rfl

end Edit

theorem Machine.object_of_get?
    {machine : Machine}
    {handle : Handle}
    {object : ScriptObject}
    (live : machine.heap.get? handle = some object) :
    machine.object handle = .ok object := by
  unfold Machine.object
  rw [live]

theorem Machine.get?_of_object
    {machine : Machine}
    {handle : Handle}
    {object : ScriptObject}
    (found : machine.object handle = .ok object) :
    machine.heap.get? handle = some object := by
  unfold Machine.object at found
  split at found
  · cases found
    assumption
  · cases found

/-- A function is an object whose content is something to call. -/
theorem Machine.toFunction_eq_ok_iff
    {machine : Machine}
    {value : Value}
    {handle : Handle}
    {callable : Callable} :
    machine.toFunction value = .ok (handle, callable) ↔
      value = .object handle ∧
        ∃ object,
          machine.heap.get? handle = some object ∧
            object.content = .function callable := by
  constructor
  · intro found
    unfold toFunction at found
    split at found
    · rename_i named
      cases looked : machine.object named with
      | error fault =>
          rw [looked] at found
          cases found
      | ok object =>
          rw [looked] at found
          simp only [bind, Except.bind] at found
          split at found
          · rename_i isFunction
            cases found
            refine ⟨rfl, object, Machine.get?_of_object looked, ?_⟩
            unfold ScriptObject.callable? at isFunction
            split at isFunction
            · cases isFunction
              assumption
            · cases isFunction
          · cases found
    · cases found
  · rintro ⟨rfl, object, live, isFunction⟩
    rw [toFunction, Machine.object_of_get? live]
    simp only [bind, Except.bind, ScriptObject.callable?, isFunction]
    rfl

namespace Frame

/-- What a call never changes of its frame while it runs. -/
structure SameCall (before after : Frame) : Prop where
  code : after.code = before.code
  constants : after.constants = before.constants
  locals : after.locals = before.locals
  receiver : after.receiver = before.receiver
  callee : after.callee = before.callee
  arguments : after.arguments = before.arguments
  name : after.name = before.name

theorem SameCall.refl (frame : Frame) : frame.SameCall frame :=
  ⟨rfl, rfl, rfl, rfl, rfl, rfl, rfl⟩

theorem SameCall.trans
    ⦃first second third : Frame⦄
    (earlier : first.SameCall second)
    (later : second.SameCall third) :
    first.SameCall third :=
  ⟨later.code.trans earlier.code, later.constants.trans earlier.constants,
    later.locals.trans earlier.locals,
    later.receiver.trans earlier.receiver,
    later.callee.trans earlier.callee,
    later.arguments.trans earlier.arguments,
    later.name.trans earlier.name⟩

theorem sameCall_push (frame : Frame) (value : Value) :
    frame.SameCall (frame.push value) :=
  ⟨rfl, rfl, rfl, rfl, rfl, rfl, rfl⟩

theorem sameCall_pop (frame : Frame) : frame.SameCall frame.pop.2 := by
  unfold pop
  split
  · exact .refl frame
  · exact ⟨rfl, rfl, rfl, rfl, rfl, rfl, rfl⟩

theorem sameCall_setRegister
    {frame changed : Frame}
    {index : Nat}
    {value : Value}
    (written : frame.setRegister index value = .ok changed) :
    frame.SameCall changed := by
  unfold setRegister at written
  split at written
  · cases written
    exact ⟨rfl, rfl, rfl, rfl, rfl, rfl, rfl⟩
  · cases written

theorem jumpTo_respects (target : Nat) :
    Respects SameCall (jumpTo target) := by
  refine .get_bind fun frame => ?_
  split
  · exact .refl frame
  · exact ⟨rfl, rfl, rfl, rfl, rfl, rfl, rfl⟩

theorem jumpBy_respects (distance : Int) :
    Respects SameCall (jumpBy distance) := by
  refine .get_bind fun frame => ?_
  dsimp only
  split
  · exact .refl frame
  · exact jumpTo_respects _ frame

theorem readByte_respects : Respects SameCall readByte := by
  refine .get_bind fun frame => ?_
  split
  · exact ⟨rfl, rfl, rfl, rfl, rfl, rfl, rfl⟩
  · exact .refl frame

theorem readWord_respects : Respects SameCall readWord :=
  .bind .trans readByte_respects fun _ =>
    .bind .trans readByte_respects fun _ => .pure .refl _

theorem readSignedWord_respects : Respects SameCall readSignedWord :=
  .bind .trans readWord_respects fun _ => .pure .refl _

end Frame

namespace Content

/-- The content is not that of a function. -/
def IsData : Content → Prop
  | .function _ => False
  | _ => True

/--
What an edit may make of the content of an object: an ordinary object can be
given any content but that of a function, an array other elements, and nothing
else ever changes.
-/
def Becomes : Content → Content → Prop
  | .ordinary, after => after.IsData
  | .array _, after => ∃ elements, after = .array elements
  | before, after => after = before

theorem Becomes.refl (content : Content) : content.Becomes content := by
  cases content with
  | ordinary => trivial
  | array elements => exact ⟨elements, rfl⟩
  | _ => rfl

theorem Becomes.trans
    {first second third : Content}
    (earlier : first.Becomes second)
    (later : second.Becomes third) :
    first.Becomes third := by
  cases first with
  | ordinary =>
      cases second with
      | ordinary => exact later
      | function callable => cases earlier
      | array elements =>
          obtain ⟨others, rfl⟩ := later
          trivial
      | _ =>
          obtain rfl := later
          trivial
  | array elements =>
      obtain ⟨others, rfl⟩ := earlier
      exact later
  | _ =>
      obtain rfl := earlier
      exact later

end Content

/-- The object that a receiver names, if it is there, may get the content. -/
def Machine.Fills
    (machine : Machine)
    (receiver : Value)
    (content : Content) :
    Prop :=
  ∀ handle object,
    receiver = .object handle →
      machine.heap.get? handle = some object →
        object.content.Becomes content

/-- A fresh instance is an ordinary object. -/
theorem Machine.fills_of_isFreshInstance
    {machine : Machine}
    {receiver : Value}
    {className : String}
    (fresh : machine.isFreshInstance receiver className = true)
    {content : Content}
    (isData : content.IsData) :
    machine.Fills receiver content := by
  rintro handle object rfl found
  rw [isFreshInstance, found] at fresh
  dsimp only at fresh
  split at fresh
  · rename_i ordinary _
    rw [ordinary]
    exact isData
  · cases fresh

/-- The receiver of an array function is an array, which nothing has changed. -/
theorem ArrayClass.receiverOf_run (receiver : Value) (machine : Machine) :
    (∃ fault, (receiverOf receiver).run machine = .error fault machine) ∨
      ∃ found,
        (receiverOf receiver).run machine = .ok found machine ∧
          ∀ elements, machine.Fills receiver (.array elements) := by
  unfold receiverOf
  split
  · rename_i handle
    rw [EStateM.run_bind]
    cases asked : machine.object handle with
    | error fault =>
        rw [Edit.ask_refused asked]
        exact .inl ⟨fault, rfl⟩
    | ok object =>
        rw [Edit.ask_run asked]
        dsimp only
        split
        · rename_i elements isArray
          refine .inr ⟨_, rfl, ?_⟩
          rintro others _ current ⟨⟩ has
          rw [Machine.get?_of_object asked] at has
          cases has
          unfold ScriptObject.elements? at isArray
          split at isArray
          · rename_i content
            rw [content]
            exact ⟨others, rfl⟩
          · cases isArray
        · exact .inl ⟨_, rfl⟩
  · exact .inl ⟨_, rfl⟩

/--
A preorder of machines that the elementary edits respect, those of the frames
and of the intervals apart, and those that are given the number of a scope.  New
objects inherit from the prototypes of the classes here; what the host may put
in their place is said with the requests.
-/
structure QuietStable (R : Machine → Machine → Prop) : Prop where
  refl : ∀ machine, R machine machine
  trans : ∀ ⦃first second third⦄,
    R first second → R second third → R first third
  -- Objects
  createObject : Respects R Edit.createObject
  createInstance : ∀ className content,
    content.IsData → Respects R (Edit.createInstance className content)
  createNative : ∀ function,
    Respects R (Edit.createFunction (.native function))
  setPrototype : ∀ target prototype,
    Respects R (Edit.setPrototype target prototype)
  deleteMember : ∀ handle name,
    Respects R (Edit.deleteMember handle name)
  defineProperty : ∀ handle name property,
    Respects R (Edit.defineProperty handle name property)
  writeMember : ∀ handle name value,
    Respects R (Edit.writeMember handle name value)
  setContent : ∀ receiver content machine,
    machine.Fills receiver content →
      R machine
        (remaining ((Edit.setContent receiver content).run machine))
  defineFunction : ∀ definition,
    Respects R (Edit.defineFunction definition)
  -- Memory
  pin : ∀ handle, Respects R (Edit.pin handle)
  unpin : ∀ handle, Respects R (Edit.unpin handle)
  setThreshold : ∀ threshold, Respects R (Edit.setThreshold threshold)
  collectGarbage : Respects R Edit.collectGarbage
  setRoot : ∀ root, Respects R (Edit.setRoot root)
  -- Variables
  defineInFrame : ∀ name value, Respects R (Edit.defineInFrame name value)
  assignInFrame : ∀ name value, Respects R (Edit.assignInFrame name value)
  -- Time
  nextIntervalName : Respects R Edit.nextIntervalName
  advanceClock : ∀ milliseconds, Respects R (Edit.advanceClock milliseconds)
  setClock : ∀ milliseconds, Respects R (Edit.setClock milliseconds)
  -- Display and log
  onScene : ∀ change, Respects R (Edit.onScene change)
  addItem : ∀ item, Respects R (Edit.addItem item)
  report : ∀ level text, Respects R (Edit.report level text)
  drainLog : Respects R Edit.drainLog

/-- The edits of the intervals count too. -/
structure EditStable (R : Machine → Machine → Prop) : Prop
    extends QuietStable R where
  createInterval : ∀ name period callback receiver arguments,
    Respects R
      (Edit.createInterval name period callback receiver arguments)
  clearInterval : ∀ name, Respects R (Edit.clearInterval name)
  beginFiring : ∀ name now, Respects R (Edit.beginFiring name now)

/-- The edits count that are given the number of a scope. -/
structure ScopeStable (R : Machine → Machine → Prop) : Prop where
  createScope : ∀ outer, Respects R (Edit.createScope outer)
  defineVariable : ∀ scope name value,
    Respects R (Edit.defineVariable scope name value)

/-- Work on the top frame counts too, if the frame stays with its call. -/
structure FrameQuiet (R : Machine → Machine → Prop) : Prop
    extends QuietStable R where
  onFrame : ∀ {α : Type} {edit : FrameEdit α},
    Respects Frame.SameCall edit → Respects R (Edit.onFrame edit)

/--
All elementary edits count, those of the intervals, of the top frame and of
scopes included.
-/
structure FrameStable (R : Machine → Machine → Prop) : Prop
    extends EditStable R, FrameQuiet R, ScopeStable R

namespace QuietStable

variable {R : Machine → Machine → Prop} {α β : Type}

theorem pure (stable : QuietStable R) (result : α) :
    Respects R (Pure.pure result : Edit α) :=
  .pure stable.refl result

theorem throw (stable : QuietStable R) (fault : Fault) :
    Respects R (MonadExcept.throw fault : Edit α) :=
  .throw stable.refl fault

theorem bind
    (stable : QuietStable R)
    {work : Edit α}
    {next : α → Edit β}
    (first : Respects R work)
    (second : ∀ result, Respects R (next result)) :
    Respects R (work >>= next) :=
  .bind stable.trans first second

theorem computed
    (stable : QuietStable R)
    {work : Edit α}
    (respected : Respects R work)
    {convert : α → β} :
    Respects R do return convert (← work) :=
  stable.bind respected fun _ => stable.pure _

theorem get (stable : QuietStable R) :
    Respects R (MonadState.get : Edit Machine) :=
  .get stable.refl

theorem ask
    (stable : QuietStable R)
    (question : Machine → Except Fault α) :
    Respects R (Edit.ask question) := by
  refine stable.bind stable.get fun machine => ?_
  split
  · exact stable.pure _
  · exact stable.throw _

theorem createArray
    (stable : QuietStable R)
    (elements : Array Value) :
    Respects R (Edit.createArray elements) :=
  stable.createInstance _ _ trivial

theorem createStageObject
    (stable : QuietStable R)
    (item : ItemId)
    (kind : StageKind) :
    Respects R (Edit.createStageObject item kind) :=
  stable.bind (stable.createInstance _ _ trivial) fun handle =>
    stable.bind (stable.pin handle) fun _ => stable.pure handle

theorem collectIfDue (stable : QuietStable R) :
    Respects R Edit.collectIfDue := by
  refine stable.bind stable.get fun machine => ?_
  split
  · exact stable.collectGarbage.map _
  · exact stable.pure _

theorem displayText (stable : QuietStable R) (value : Value) :
    Respects R (Edit.displayText value) :=
  stable.ask _

theorem toObject (stable : QuietStable R) (value : Value) :
    Respects R (Edit.toObject value) := by
  cases value with
  | object handle => exact stable.pure handle
  | undefined => exact stable.throw _
  | null => exact stable.throw _
  | boolean flag => exact stable.createInstance _ _ trivial
  | integer number => exact stable.createInstance _ _ trivial
  | float number => exact stable.createInstance _ _ trivial
  | text content => exact stable.createInstance _ _ trivial

/-! The functions of the built-in classes that are plain work. -/

theorem convertOrFill
    (stable : QuietStable R)
    (className : String)
    (receiver : Value)
    {content : Content}
    (isData : content.IsData)
    {converted : Edit Value}
    (respected : Respects R converted) :
    Respects R
      (Edit.convertOrFill className receiver content converted) := by
  refine .get_bind fun machine => ?_
  split
  · rename_i fresh
    rw [Edit.remaining_bind_pure]
    exact stable.setContent receiver content machine
      (Machine.fills_of_isFreshInstance fresh isData)
  · exact respected machine

theorem objectConstruct
    (stable : QuietStable R)
    (receiver : Value)
    (arguments : List Value) :
    Respects R (ObjectClass.construct receiver arguments) := by
  unfold ObjectClass.construct
  dsimp only
  split
  · exact stable.pure _
  · split
    · refine stable.bind stable.get fun machine => ?_
      split
      · exact stable.pure _
      · exact stable.bind stable.createObject fun _ => stable.pure _
    · exact stable.bind (stable.toObject _) fun _ => stable.pure _

theorem objectHasOwnProperty
    (stable : QuietStable R)
    (receiver : Value)
    (arguments : List Value) :
    Respects R (ObjectClass.hasOwnProperty receiver arguments) :=
  stable.bind (stable.toObject _) fun _ =>
    stable.bind (stable.displayText _) fun _ =>
      stable.bind (stable.ask _) fun _ => stable.pure _

theorem objectAddProperty
    (stable : QuietStable R)
    (receiver : Value)
    (arguments : List Value) :
    Respects R (ObjectClass.addProperty receiver arguments) := by
  refine stable.bind (stable.toObject _) fun handle => ?_
  refine stable.bind (stable.displayText _) fun name => ?_
  refine stable.bind stable.get fun machine => ?_
  split
  · exact stable.pure _
  · split
    · exact stable.bind (stable.defineProperty _ _ _) fun _ =>
        stable.pure _
    · exact stable.pure _

theorem booleanReceiverOf (stable : QuietStable R) (receiver : Value) :
    Respects R (BooleanClass.receiverOf receiver) := by
  unfold BooleanClass.receiverOf
  split
  · exact stable.pure _
  · refine stable.bind (stable.ask _) fun content => ?_
    split
    · exact stable.pure _
    · exact stable.throw _
  · exact stable.throw _

theorem numberReceiverOf (stable : QuietStable R) (receiver : Value) :
    Respects R (NumberClass.receiverOf receiver) := by
  unfold NumberClass.receiverOf
  split
  · exact stable.pure _
  · exact stable.pure _
  · refine stable.bind (stable.ask _) fun content => ?_
    split
    · exact stable.pure _
    · exact stable.throw _
  · exact stable.throw _

theorem stringReceiverOf (stable : QuietStable R) (receiver : Value) :
    Respects R (StringClass.receiverOf receiver) := by
  unfold StringClass.receiverOf
  split
  · exact stable.pure _
  · refine stable.bind (stable.ask _) fun content => ?_
    split
    · exact stable.pure _
    · exact stable.throw _
  · exact stable.throw _

theorem stringConstruct
    (stable : QuietStable R)
    (receiver : Value)
    (arguments : List Value) :
    Respects R (StringClass.construct receiver arguments) := by
  have filled (content : String) :
      Respects R
        (Edit.convertOrFill "String" receiver (.text content)
          (Pure.pure (.text content))) :=
    stable.convertOrFill _ _ (by trivial) (stable.pure _)
  cases arguments with
  | nil => exact stable.bind (stable.pure _) filled
  | cons value rest => exact stable.bind (stable.displayText _) filled

theorem stringSubstr
    (stable : QuietStable R)
    (receiver : Value)
    (arguments : List Value) :
    Respects R (StringClass.substr receiver arguments) := by
  unfold StringClass.substr
  split
  · exact stable.bind (stable.stringReceiverOf _) fun _ =>
      stable.bind (stable.ask _) fun _ => stable.pure _
  · exact stable.bind (stable.stringReceiverOf _) fun _ =>
      stable.bind (stable.ask _) fun _ => stable.pure _
  · exact stable.throw _

theorem arrayConstruct
    (stable : QuietStable R)
    (receiver : Value)
    (arguments : List Value) :
    Respects R (ArrayClass.construct receiver arguments) := by
  have filled (elements : Array Value) :
      Respects R
        (Edit.convertOrFill "Array" receiver (.array elements) do
          return .object (← Edit.createArray elements)) :=
    stable.convertOrFill _ _ (by trivial)
      (stable.bind (stable.createArray _) fun _ => stable.pure _)
  unfold ArrayClass.construct
  dsimp only
  split
  · exact stable.bind (stable.ask _) fun _ =>
      stable.bind (stable.pure _) filled
  · exact stable.bind (stable.pure _) filled

theorem arrayReceiverOf (stable : QuietStable R) (receiver : Value) :
    Respects R (ArrayClass.receiverOf receiver) := by
  unfold ArrayClass.receiverOf
  split
  · refine stable.bind (stable.ask _) fun object => ?_
    split
    · exact stable.pure _
    · exact stable.throw _
  · exact stable.throw _

theorem arrayLength (stable : QuietStable R) (receiver : Value) :
    Respects R (ArrayClass.length receiver) :=
  stable.bind (stable.arrayReceiverOf _) fun _ => stable.pure _

/-- Work on an array goes on in the state in which it was found to be one. -/
theorem arrayWork
    (stable : QuietStable R)
    {receiver : Value}
    {work : Handle × Array Value → Edit α}
    (respected : ∀ machine found,
      (∀ elements, machine.Fills receiver (.array elements)) →
        R machine (remaining ((work found).run machine))) :
    Respects R (ArrayClass.receiverOf receiver >>= work) := by
  intro machine
  rw [EStateM.run_bind]
  rcases ArrayClass.receiverOf_run receiver machine with
    ⟨fault, refused⟩ | ⟨found, ran, fills⟩
  · rw [refused]
    exact stable.refl machine
  · rw [ran]
    exact respected machine found fills

theorem arraySetLength
    (stable : QuietStable R)
    (receiver : Value)
    (arguments : List Value) :
    Respects R (ArrayClass.setLength receiver arguments) := by
  refine stable.arrayWork fun machine found fills => ?_
  refine Edit.across_ask_bind (stable.refl machine) fun length _ => ?_
  rw [Edit.remaining_bind_pure]
  exact stable.setContent _ _ machine (fills _)

theorem arrayPush
    (stable : QuietStable R)
    (receiver : Value)
    (arguments : List Value) :
    Respects R (ArrayClass.push receiver arguments) := by
  refine stable.arrayWork fun machine found fills => ?_
  dsimp only
  rw [Edit.remaining_bind_pure]
  exact stable.setContent _ _ machine (fills _)

theorem arrayJoin
    (stable : QuietStable R)
    (receiver : Value)
    (arguments : List Value) :
    Respects R (ArrayClass.join receiver arguments) := by
  refine stable.bind (stable.arrayReceiverOf _) fun found => ?_
  have elementText (element : Value) :
      Respects R
        (if element.isNullish then Pure.pure "" else
          Edit.displayText element : Edit String) := by
    split
    · exact stable.pure _
    · exact stable.displayText _
  dsimp only
  split
  · exact stable.bind (stable.pure _) fun _ =>
      stable.bind (.mapM stable.refl stable.trans elementText _) fun _ =>
        stable.pure _
  · exact stable.bind (stable.displayText _) fun _ =>
      stable.bind (.mapM stable.refl stable.trans elementText _) fun _ =>
        stable.pure _

theorem displayItemOf (stable : QuietStable R) (receiver : Value) :
    Respects R (DisplayClass.itemOf receiver) := by
  unfold DisplayClass.itemOf
  split
  · exact stable.ask _
  · exact stable.throw _

theorem displayReadItem (stable : QuietStable R) (receiver : Value) :
    Respects R (DisplayClass.readItem receiver) :=
  stable.bind (stable.displayItemOf _) fun _ => stable.ask _

theorem displayUpdateItem
    (stable : QuietStable R)
    (receiver : Value)
    (change : Item → Item) :
    Respects R (DisplayClass.updateItem receiver change) :=
  stable.bind (stable.displayItemOf _) fun id =>
    stable.bind ((stable.ask _).map _) fun _ =>
      stable.bind (stable.onScene (·.modify id change)) fun _ =>
        stable.pure _

theorem displayReadMember
    (stable : QuietStable R)
    (member : DisplayMember)
    (receiver : Value) :
    Respects R (DisplayClass.readMember member receiver) := by
  have item := stable.displayReadItem receiver
  cases member with
  | x => exact stable.computed item
  | y => exact stable.computed item
  | xScale => exact stable.computed item
  | yScale => exact stable.computed item
  | alpha => exact stable.computed item
  | visible => exact stable.computed item
  | name => exact stable.computed item
  | parent =>
      exact stable.bind (stable.displayItemOf _) fun _ =>
        stable.bind (stable.ask _) fun _ => stable.pure _
  | target =>
      exact stable.bind (stable.displayItemOf _) fun _ =>
        stable.bind stable.get fun _ => stable.pure _

theorem displayWriteMember
    (stable : QuietStable R)
    (member : DisplayMember)
    (receiver : Value)
    (arguments : List Value) :
    Respects R
      (DisplayClass.writeMember member receiver arguments) := by
  cases member with
  | x => exact stable.displayUpdateItem _ _
  | y => exact stable.displayUpdateItem _ _
  | xScale => exact stable.displayUpdateItem _ _
  | yScale => exact stable.displayUpdateItem _ _
  | alpha => exact stable.displayUpdateItem _ _
  | visible => exact stable.displayUpdateItem _ _
  | name =>
      exact stable.bind (stable.displayText _) fun _ =>
        stable.displayUpdateItem _ _
  | parent => exact stable.pure _
  | target => exact stable.pure _

theorem displaySetTextColour
    (stable : QuietStable R)
    (receiver : Value)
    (arguments : List Value) :
    Respects R (DisplayClass.setTextColour receiver arguments) := by
  unfold DisplayClass.setTextColour
  dsimp only
  split
  · split
    · exact stable.bind (stable.pure _) fun _ =>
        stable.displayUpdateItem _ _
    · exact stable.bind (stable.throw _) fun _ =>
        stable.displayUpdateItem _ _
  · exact stable.bind (stable.pure _) fun _ =>
      stable.displayUpdateItem _ _
  · exact stable.bind (stable.pure _) fun _ =>
      stable.displayUpdateItem _ _
  · exact stable.bind (stable.throw _) fun _ =>
      stable.displayUpdateItem _ _

theorem displayTimelineOf (stable : QuietStable R) (receiver : Value) :
    Respects R (DisplayClass.timelineOf receiver) := by
  refine stable.bind (stable.displayItemOf _) fun id => ?_
  refine stable.bind (stable.ask _) fun item => ?_
  split
  · exact stable.pure _
  · exact stable.throw _

theorem displayPerformAll
    (stable : QuietStable R)
    (receiver : Value)
    (commands : Except Fault (List TimelineCommand)) :
    Respects R (DisplayClass.performAll receiver commands) :=
  stable.bind (stable.displayTimelineOf _) fun (id, timeline) =>
    stable.bind (stable.ask _) fun commands =>
      stable.bind
        (stable.onScene
          (·.modify id fun item =>
            { item with
              timeline :=
                some (commands.foldl Timeline.perform timeline) }))
        fun _ => stable.pure _

theorem loaderFor (stable : QuietStable R) (function : String) :
    Respects R (GlobalFunction.loaderFor function) := by
  refine stable.bind stable.get fun machine => ?_
  split
  · exact stable.pure _
  · exact stable.throw _

theorem addressOf (stable : QuietStable R) (value : Value) :
    Respects R (GlobalFunction.addressOf value) :=
  stable.bind (stable.displayText _) fun _ =>
    stable.bind stable.get fun _ => stable.pure _

theorem loadMovie (stable : QuietStable R) (arguments : List Value) :
    Respects R (GlobalFunction.loadMovie arguments) :=
  stable.bind (stable.loaderFor _) fun _ =>
    stable.bind (stable.addressOf _) fun _ => stable.ask _

theorem attachMovie (stable : QuietStable R) (arguments : List Value) :
    Respects R (GlobalFunction.attachMovie arguments) :=
  stable.bind (stable.loaderFor _) fun _ =>
    stable.bind (stable.addressOf _) fun _ =>
      stable.bind (stable.displayText _) fun _ => stable.ask _

theorem trace (stable : QuietStable R) (arguments : List Value) :
    Respects R (GlobalFunction.trace arguments) :=
  stable.bind (stable.displayText _) fun _ =>
    stable.bind (stable.report _ _) fun _ => stable.pure _

end QuietStable

theorem EditStable.globalClearInterval
    {R : Machine → Machine → Prop}
    (stable : EditStable R)
    (arguments : List Value) :
    Respects R (GlobalFunction.clearInterval arguments) :=
  stable.bind (stable.displayText _) fun _ =>
    stable.bind ((stable.clearInterval _).map _) fun _ => stable.pure _

namespace FrameQuiet

variable {R : Machine → Machine → Prop}

theorem argumentsArray (stable : FrameQuiet R) :
    Respects R Edit.argumentsArray := by
  refine stable.bind (stable.ask _) fun frame => ?_
  split
  · exact stable.pure _
  · refine stable.bind (stable.createArray _) fun handle => ?_
    refine stable.bind (stable.onFrame ?_) fun _ => stable.pure _
    exact fun frame => ⟨rfl, rfl, rfl, rfl, rfl, rfl, rfl⟩

theorem pushOperand (stable : FrameQuiet R) (value : Value) :
    Respects R (Edit.pushOperand value) :=
  stable.onFrame fun frame => frame.sameCall_push value

theorem popOperand (stable : FrameQuiet R) :
    Respects R Edit.popOperand :=
  stable.onFrame fun frame => frame.sameCall_pop

theorem setRegister
    (stable : FrameQuiet R)
    (index : Nat)
    (value : Value) :
    Respects R (Edit.setRegister index value) := by
  refine stable.onFrame (.get_bind fun frame => ?_)
  split
  · rename_i written
    exact Frame.sameCall_setRegister written
  · exact .refl frame

theorem pushScopeObject (stable : FrameQuiet R) (handle : Handle) :
    Respects R (Edit.pushScopeObject handle) :=
  stable.onFrame fun _ => ⟨rfl, rfl, rfl, rfl, rfl, rfl, rfl⟩

theorem popScopeObject (stable : FrameQuiet R) :
    Respects R Edit.popScopeObject :=
  stable.onFrame fun _ => ⟨rfl, rfl, rfl, rfl, rfl, rfl, rfl⟩

end FrameQuiet

end MovieScript
