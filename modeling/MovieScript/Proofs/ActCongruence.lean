import MovieScript.Host.Engine
import MovieScript.Proofs.EditStability

namespace MovieScript

/-!
# Relations between acts

An act knows nothing of what the host keeps for itself.  It is put together
from edits, which work on the machine only, and from the calls it is given.  So
an act is related to itself, for two hosts that may be different ones, by every
relation that goes along with putting acts together, relates the edits that
respect some preorder of machines, and relates host entries and exports.
-/

/-- A relation between acts of two hosts, for the edits that respect `R`. -/
structure EditCongruence
    {σ τ : Type}
    (R : Machine → Machine → Prop)
    (related : ∀ {α : Type}, Act σ α → Act τ α → Prop) :
    Prop extends QuietStable R where
  lift : ∀ {α : Type} {work : Edit α},
    Respects R work → related (liftM work : Act σ α) (liftM work)

/-- A congruence that relates host entries and exports as well. -/
structure ActCongruence
    {σ τ : Type}
    (R : Machine → Machine → Prop)
    (related : ∀ {α : Type}, Act σ α → Act τ α → Prop) :
    Prop extends FrameQuiet R, EditCongruence R related where
  pure : ∀ {α : Type} (result : α),
    related (Pure.pure result) (Pure.pure result)
  fail : ∀ {α : Type} (fault : Fault),
    related (Act.fail fault : Act σ α) (Act.fail fault)
  bind : ∀ {α β : Type} {act : Act σ α} {image : Act τ α}
    {next : α → Act σ β} {imageNext : α → Act τ β},
    related act image →
      (∀ result, related (next result) (imageNext result)) →
        related (act >>= next) (image >>= imageNext)
  call : ∀ function receiver arguments,
    related (Act.call function receiver arguments)
      (Act.call function receiver arguments)
  executeScript : ∀ code constants target,
    related (Act.executeScript code constants target)
      (Act.executeScript code constants target)
  exportBelow : ∀ visiting value,
    related (Act.exportBelow visiting value) (Act.exportBelow visiting value)

namespace ActCongruence

variable {σ τ α β : Type} {R : Machine → Machine → Prop}
variable {related : ∀ {α : Type}, Act σ α → Act τ α → Prop}

theorem map
    (both : ActCongruence R related)
    {act : Act σ α}
    {image : Act τ α}
    (first : related act image)
    (convert : α → β) :
    related (convert <$> act) (convert <$> image) := by
  rw [map_eq_pure_bind, map_eq_pure_bind]
  exact both.bind first fun _ => both.pure _

theorem mapM
    (both : ActCongruence R related)
    {act : α → Act σ β}
    {image : α → Act τ β}
    (each : ∀ item, related (act item) (image item))
    (items : List α) :
    related (items.mapM act) (items.mapM image) := by
  induction items with
  | nil => exact both.pure []
  | cons item rest inductionHypothesis =>
      rw [List.mapM_cons, List.mapM_cons]
      exact both.bind (each item) fun _ =>
        both.bind inductionHypothesis fun _ => both.pure _

theorem ask
    (both : ActCongruence R related)
    (question : Machine → Except Fault α) :
    related (Act.ask question) (Act.ask question) :=
  both.lift (both.toQuietStable.ask question)

theorem inspect
    (both : ActCongruence R related)
    (question : Machine → α) :
    related (Act.inspect question) (Act.inspect question) :=
  both.lift fun machine => both.refl machine

/-! Members and calls. -/

theorem getMember
    (both : ActCongruence R related)
    (handle : Handle)
    (name : String) :
    related (Act.getMember handle name) (Act.getMember handle name) := by
  refine both.bind (both.ask _) fun resolution => ?_
  split
  · exact both.pure _
  · exact both.pure _
  · exact both.call _ _ _
  · exact both.fail _

theorem getValueMember
    (both : ActCongruence R related)
    (value : Value)
    (name : String) :
    related (Act.getValueMember value name) (Act.getValueMember value name) :=
  both.bind (both.lift (both.toObject _)) fun _ =>
    both.getMember _ _

theorem setMember
    (both : ActCongruence R related)
    (handle : Handle)
    (name : String)
    (value : Value) :
    related (Act.setMember handle name value)
      (Act.setMember handle name value) := by
  refine both.bind (both.lift (both.writeMember _ _ _)) ?_
  intro written
  cases written with
  | done => exact both.pure _
  | setter setter => exact both.map (both.call _ _ _) _

theorem methodOf
    (both : ActCongruence R related)
    (target : Value)
    (name : String) :
    related (Act.methodOf target name) (Act.methodOf target name) := by
  refine both.bind (both.getValueMember _ _) fun method => ?_
  refine both.bind (both.inspect _) fun callable => ?_
  split
  · exact both.pure _
  · exact both.fail _

theorem callMethod
    (both : ActCongruence R related)
    (target : Value)
    (name : String)
    (arguments : List Value) :
    related (Act.callMethod target name arguments)
      (Act.callMethod target name arguments) :=
  both.bind (both.methodOf _ _) fun _ => both.call _ _ _

theorem instancePrototype
    (both : ActCongruence R related)
    (maker : Handle) :
    related (Act.instancePrototype maker) (Act.instancePrototype maker) := by
  refine both.bind (both.getMember _ _) fun prototype => ?_
  split
  · exact both.pure _
  · exact both.inspect _

theorem instantiate
    (both : ActCongruence R related)
    (alloc : ∀ object,
      object.content = .ordinary → Respects R (Edit.alloc object))
    (constructor : Value) :
    related (Act.instantiate constructor) (Act.instantiate constructor) :=
  both.bind (both.ask _) fun _ =>
    both.bind (both.instancePrototype _) fun _ =>
      both.lift (alloc _ rfl)

theorem construct
    (both : ActCongruence R related)
    (alloc : ∀ object,
      object.content = .ordinary → Respects R (Edit.alloc object))
    (constructor : Value)
    (arguments : List Value) :
    related (Act.construct constructor arguments)
      (Act.construct constructor arguments) := by
  refine both.bind (both.instantiate alloc _) fun fresh => ?_
  refine both.bind (both.call _ _ _) fun result => ?_
  split
  · exact both.pure _
  · exact both.pure _

theorem classConstructor
    (both : ActCongruence R related)
    (className : String) :
    related (Act.classConstructor className)
      (Act.classConstructor className) := by
  refine both.bind (both.inspect _) fun found => ?_
  split
  · exact both.pure _
  · exact both.bind (both.inspect _) fun _ => both.getMember _ _

theorem constructClass
    (both : ActCongruence R related)
    (alloc : ∀ object,
      object.content = .ordinary → Respects R (Edit.alloc object))
    (className : String)
    (arguments : List Value) :
    related (Act.constructClass className arguments)
      (Act.constructClass className arguments) := by
  refine both.bind (both.classConstructor _) fun constructor => ?_
  refine both.bind (both.inspect _) fun callable => ?_
  split
  · exact both.construct alloc _ _
  · exact both.fail _

/-! Building the frame of a call. -/

theorem bindParameters
    (both : ActCongruence R related)
    (scopes : ScopeStable R)
    (frame : Frame)
    (parameters : List Parameter)
    (arguments : List Value) :
    related (Act.bindParameters frame parameters arguments)
      (Act.bindParameters frame parameters arguments) := by
  induction parameters generalizing frame arguments with
  | nil => exact both.pure _
  | cons parameter rest inductionHypothesis =>
      unfold Act.bindParameters
      dsimp only
      split
      · exact both.bind (both.ask _) fun _ =>
          inductionHypothesis _ _
      · exact both.bind (both.lift (scopes.defineVariable _ _ _))
          fun _ => both.bind (both.pure _) fun _ =>
            inductionHypothesis _ _

theorem wellKnownValue
    (both : ActCongruence R related)
    (frame : Frame)
    (kind : Preload) :
    related (Act.wellKnownValue frame kind) (Act.wellKnownValue frame kind) := by
  cases kind with
  | receiver => exact both.pure _
  | arguments =>
      unfold Act.wellKnownValue
      dsimp only
      split
      · exact both.pure _
      · exact both.bind (both.lift (both.createArray _)) fun _ =>
          both.pure _
  | ancestor =>
      exact both.bind (both.ask _) fun _ => both.pure _
  | root => exact both.bind (both.inspect _) fun _ => both.pure _
  | parent =>
      unfold Act.wellKnownValue
      dsimp only
      split
      · exact both.bind (both.getMember _ _) fun _ => both.pure _
      · exact both.pure _
  | global => exact both.bind (both.inspect _) fun _ => both.pure _
  | external =>
      exact both.bind (both.inspect _) fun _ => both.pure _

theorem preloadValues
    (both : ActCongruence R related)
    (frame : Frame)
    (wanted : List (Preload × Nat)) :
    related (Act.preloadValues frame wanted)
      (Act.preloadValues frame wanted) := by
  induction wanted generalizing frame with
  | nil => exact both.pure _
  | cons first rest inductionHypothesis =>
      exact both.bind (both.wellKnownValue _ _) fun _ =>
        both.bind (both.ask _) fun _ => inductionHypothesis _

theorem buildFrame
    (both : ActCongruence R related)
    (scopes : ScopeStable R)
    (closure : Closure)
    (callee : Handle)
    (receiver : Value)
    (arguments : List Value) :
    related (Act.buildFrame closure callee receiver arguments)
      (Act.buildFrame closure callee receiver arguments) := by
  refine both.bind (both.lift (scopes.createScope _)) fun locals => ?_
  refine both.bind (both.bindParameters scopes _ _ _) fun bound => ?_
  split
  · exact both.preloadValues _ _
  · exact both.pure _

/-! Documents. -/

mutual

theorem importDocument
    (both : ActCongruence R related) :
    ∀ document,
      related (Act.importDocument document) (Act.importDocument document)
  | .null => by
      unfold Act.importDocument
      exact both.pure _
  | .boolean flag => by
      unfold Act.importDocument
      exact both.pure _
  | .integer number => by
      unfold Act.importDocument
      exact both.pure _
  | .float number => by
      unfold Act.importDocument
      exact both.pure _
  | .text content => by
      unfold Act.importDocument
      exact both.pure _
  | .list items => by
      unfold Act.importDocument
      exact both.bind (importItems both items) fun _ =>
        both.bind (both.lift (both.createArray _)) fun _ =>
          both.pure _
  | .record members => by
      unfold Act.importDocument
      exact both.bind (both.lift both.createObject) fun handle =>
        both.bind (importMembers both handle members) fun _ =>
          both.pure _

theorem importItems
    (both : ActCongruence R related) :
    ∀ items,
      related (Act.importItems items) (Act.importItems items)
  | [] => by
      unfold Act.importItems
      exact both.pure _
  | item :: rest => by
      unfold Act.importItems
      exact both.bind (importDocument both item) fun _ =>
        both.bind (importItems both rest) fun _ => both.pure _

theorem importMembers
    (both : ActCongruence R related)
    (handle : Handle) :
    ∀ members,
      related (Act.importMembers handle members) (Act.importMembers handle members)
  | [] => by
      unfold Act.importMembers
      exact both.pure _
  | (name, document) :: rest => by
      unfold Act.importMembers
      exact both.bind (importDocument both document) fun _ =>
        both.bind (both.setMember _ _ _) fun _ =>
          importMembers both handle rest

end

theorem exportItems
    (both : ActCongruence R related)
    (visiting : List Handle)
    (values : List Value) :
    related (Act.exportItems visiting values)
      (Act.exportItems visiting values) := by
  induction values generalizing visiting with
  | nil => exact both.pure _
  | cons value rest inductionHypothesis =>
      exact both.bind (both.exportBelow _ _) fun _ =>
        both.bind (inductionHypothesis _) fun _ => both.pure _

theorem exportMembers
    (both : ActCongruence R related)
    (visiting : List Handle)
    (handle : Handle)
    (names : List String) :
    related (Act.exportMembers visiting handle names)
      (Act.exportMembers visiting handle names) := by
  induction names generalizing visiting with
  | nil => exact both.pure _
  | cons name rest inductionHypothesis =>
      refine both.bind (both.getMember _ _) fun member => ?_
      refine both.bind (both.inspect _) fun callable => ?_
      split
      · exact inductionHypothesis _
      · exact both.bind (both.exportBelow _ _) fun _ =>
          both.bind (inductionHypothesis _) fun _ => both.pure _

theorem exportObject
    (both : ActCongruence R related)
    (visiting : List Handle)
    (handle : Handle) :
    related (Act.exportObject visiting handle)
      (Act.exportObject visiting handle) := by
  refine both.bind (both.ask _) fun object => ?_
  split
  · exact both.fail _
  · exact both.fail _
  · exact both.pure _
  · exact both.pure _
  · exact both.exportBelow _ _
  · exact both.bind (both.exportItems _ _) fun _ => both.pure _
  · exact both.bind (both.exportMembers _ _ _) fun _ =>
      both.pure _

theorem exportLevel
    (both : ActCongruence R related)
    (visiting : List Handle)
    (value : Value) :
    related (Act.exportLevel visiting value)
      (Act.exportLevel visiting value) := by
  cases value with
  | undefined => exact both.pure _
  | null => exact both.pure _
  | boolean flag => exact both.pure _
  | integer number => exact both.pure _
  | float number => exact both.pure _
  | text content => exact both.pure _
  | object handle =>
      unfold Act.exportLevel
      dsimp only
      split
      · exact both.fail _
      · exact both.bind (both.exportObject _ _) fun _ => both.pure _

theorem exportDocument
    (both : ActCongruence R related)
    (value : Value) :
    related (Act.exportDocument value) (Act.exportDocument value) :=
  both.bind (both.exportBelow _ _) fun _ => both.pure _

/-! Variables and paths. -/

theorem wellKnownVariable
    (both : ActCongruence R related)
    (name : String) :
    related (Act.wellKnownVariable name) (Act.wellKnownVariable name) := by
  unfold Act.wellKnownVariable
  split
  · exact both.bind (both.inspect _) fun _ => both.pure _
  · exact both.bind (both.inspect _) fun _ => both.pure _
  · exact both.bind (both.inspect _) fun _ => both.pure _
  · refine both.bind (both.inspect _) fun start => ?_
    split
    · exact both.getMember _ _
    · exact both.pure _
  · exact both.pure _

theorem visibleVariable
    (both : ActCongruence R related)
    (name : String) :
    related (Act.visibleVariable name) (Act.visibleVariable name) := by
  refine both.bind (both.ask _) fun holder => ?_
  split
  · exact both.getMember _ _
  · exact both.wellKnownVariable _

theorem plainVariable
    (both : ActCongruence R related)
    (name : String) :
    related (Act.plainVariable name) (Act.plainVariable name) := by
  unfold Act.plainVariable
  split
  · exact both.inspect _
  · refine both.bind (both.inspect _) fun bound => ?_
    split
    · exact both.pure _
    · refine both.bind (both.inspect _) fun running => ?_
      split
      · exact both.lift both.argumentsArray
      · split
        · exact both.ask _
        · exact both.visibleVariable _

theorem stepInto
    (both : ActCongruence R related)
    (handle : Handle)
    (path segment : String) :
    related (Act.stepInto handle path segment)
      (Act.stepInto handle path segment) := by
  refine both.bind (both.ask _) fun found => ?_
  split
  · refine both.bind (both.getMember _ _) fun value => ?_
    split
    · exact both.pure _
    · exact both.fail _
  · exact both.fail _

theorem walkPath
    (both : ActCongruence R related)
    (path : String)
    (start : Handle)
    (segments : List String) :
    related (Act.walkPath path start segments)
      (Act.walkPath path start segments) := by
  induction segments generalizing start with
  | nil => exact both.pure _
  | cons segment rest inductionHypothesis =>
      cases rest with
      | nil => exact both.getMember _ _
      | cons following others =>
          exact both.bind (both.stepInto _ _ _) fun _ =>
            inductionHypothesis _

theorem resolvePath
    (both : ActCongruence R related)
    (start : Handle)
    (path : String) :
    related (Act.resolvePath start path) (Act.resolvePath start path) :=
  both.walkPath _ _ _

theorem pathHead
    (both : ActCongruence R related)
    (first : String) :
    related (Act.pathHead first) (Act.pathHead first) := by
  refine both.bind (both.inspect _) fun start => ?_
  refine both.bind (both.ask _) fun found => ?_
  split
  · exact both.getMember _ _
  · exact both.plainVariable _

theorem resolveVariablePath
    (both : ActCongruence R related)
    (name : String) :
    related (Act.resolveVariablePath name)
      (Act.resolveVariablePath name) := by
  refine both.bind (both.pathHead _) fun head => ?_
  split
  · split
    · exact both.pure _
    · exact both.resolvePath _ _
  · exact both.fail _

theorem getVariable
    (both : ActCongruence R related)
    (name : String) :
    related (Act.getVariable name) (Act.getVariable name) := by
  unfold Act.getVariable
  split
  · exact both.resolveVariablePath _
  · exact both.plainVariable _

theorem setPlainVariable
    (both : ActCongruence R related)
    (name : String)
    (value : Value) :
    related (Act.setPlainVariable name value)
      (Act.setPlainVariable name value) := by
  refine both.bind (both.inspect _) fun idle => ?_
  split
  · exact both.bind (both.inspect _) fun _ => both.setMember _ _ _
  · refine both.bind (both.lift (both.assignInFrame _ _)) ?_
    intro assigned
    split
    · exact both.pure _
    · refine both.bind (both.ask _) fun holder => ?_
      split
      · exact both.setMember _ _ _
      · refine both.bind (both.inspect _) fun innermost => ?_
        split
        · exact both.setMember _ _ _
        · exact both.lift (both.defineInFrame _ _)

theorem setVariable
    (both : ActCongruence R related)
    (name : String)
    (value : Value) :
    related (Act.setVariable name value) (Act.setVariable name value) := by
  unfold Act.setVariable
  split
  · refine both.bind (both.resolveVariablePath _) fun target => ?_
    split
    · exact both.setMember _ _ _
    · exact both.fail _
  · exact both.setPlainVariable _ _

theorem defineLocal
    (both : ActCongruence R related)
    (name : String)
    (value : Value) :
    related (Act.defineLocal name value) (Act.defineLocal name value) := by
  refine both.bind (both.inspect _) fun idle => ?_
  split
  · exact both.bind (both.inspect _) fun _ => both.setMember _ _ _
  · exact both.lift (both.defineInFrame _ _)

theorem resolveTextVariable
    (both : ActCongruence R related)
    (handle : Handle)
    (path : String) :
    related (Act.resolveTextVariable handle path)
      (Act.resolveTextVariable handle path) := by
  refine both.bind (both.ask _) fun item => ?_
  refine both.bind (both.ask _) fun container => ?_
  split
  · exact both.resolvePath _ _
  · exact both.fail _

/-! Numbered display properties. -/

theorem displayMember
    (both : ActCongruence R related)
    (handle : Handle)
    (index : Nat) :
    related (Act.displayMember handle index)
      (Act.displayMember handle index) :=
  both.bind (both.ask _) fun _ =>
    both.bind (both.map (both.ask _) _) fun _ => both.pure _

theorem getDisplayProperty
    (both : ActCongruence R related)
    (handle : Handle)
    (index : Nat) :
    related (Act.getDisplayProperty handle index)
      (Act.getDisplayProperty handle index) :=
  both.bind (both.displayMember _ _) fun _ => both.getMember _ _

theorem setDisplayProperty
    (both : ActCongruence R related)
    (handle : Handle)
    (index : Nat)
    (value : Value) :
    related (Act.setDisplayProperty handle index value)
      (Act.setDisplayProperty handle index value) :=
  both.bind (both.displayMember _ _) fun _ => both.setMember _ _ _

/-! Built-in functions that read members. -/

theorem spread (both : ActCongruence R related) (list : Value) :
    related (FunctionClass.spread list) (FunctionClass.spread list) := by
  unfold FunctionClass.spread
  split
  · exact both.pure _
  · exact both.pure _
  · refine both.bind (both.ask _) fun object => ?_
    split
    · exact both.pure _
    · refine both.bind (both.getMember _ _) fun length => ?_
      split
      · exact both.mapM (fun _ => both.getMember _ _) _
      · exact both.fail _
  · exact both.fail _

theorem intervalReceiver
    (both : ActCongruence R related)
    (receiver : Value) :
    related (GlobalFunction.intervalReceiver receiver)
      (GlobalFunction.intervalReceiver receiver) := by
  unfold GlobalFunction.intervalReceiver
  split
  · exact both.inspect _
  · exact both.pure _

theorem intervalMethod
    (both : ActCongruence R related)
    (handle : Handle)
    (label : Value) :
    related (GlobalFunction.intervalMethod handle label)
      (GlobalFunction.intervalMethod handle label) := by
  refine both.bind (both.lift (both.displayText _)) fun name => ?_
  refine both.bind (both.getMember _ _) fun method => ?_
  refine both.bind (both.inspect _) fun callable => ?_
  split
  · exact both.pure _
  · exact both.fail _

theorem intervalTarget
    (both : ActCongruence R related)
    (receiver : Value)
    (arguments : List Value) :
    related (GlobalFunction.intervalTarget receiver arguments)
      (GlobalFunction.intervalTarget receiver arguments) := by
  refine both.bind (both.inspect _) fun callable => ?_
  split
  · exact both.bind (both.intervalReceiver _) fun _ => both.pure _
  · split
    · exact both.bind (both.intervalMethod _ _) fun _ =>
        both.pure _
    · exact both.fail _

end ActCongruence

/-- A congruence that also relates what is done with intervals. -/
structure TimedCongruence
    {σ τ : Type}
    (R : Machine → Machine → Prop)
    (related : ∀ {α : Type}, Act σ α → Act τ α → Prop) :
    Prop extends ActCongruence R related, EditStable R where
  attempt : ∀ {α : Type} {act : Act σ α} {image : Act τ α},
    related act image → related act.attempt image.attempt

namespace TimedCongruence

variable {σ τ : Type} {R : Machine → Machine → Prop}
variable {related : ∀ {α : Type}, Act σ α → Act τ α → Prop}

theorem fire
    (both : TimedCongruence R related)
    (name : String)
    {callback : Act σ Value}
    {image : Act τ Value}
    (called : related callback image) :
    related (Act.fire name callback) (Act.fire name image) := by
  refine both.bind (both.attempt called) fun outcome => ?_
  cases outcome with
  | ok value => exact both.pure _
  | error fault => exact both.lift (both.report _ _)

theorem fireIfDue
    (both : TimedCongruence R related)
    (now : Nat)
    (name : String) :
    related (Act.fireIfDue now name) (Act.fireIfDue now name) := by
  refine both.bind (both.lift (both.beginFiring _ _)) fun due => ?_
  cases due with
  | none => exact both.pure _
  | some interval =>
      exact both.bind (both.fire _ (both.call _ _ _)) fun _ =>
        both.pure _

theorem fireAll
    (both : TimedCongruence R related)
    (now : Nat)
    (names : List String) :
    related (Act.fireAll now names) (Act.fireAll now names) := by
  induction names with
  | nil => exact both.pure _
  | cons name rest inductionHypothesis =>
      exact both.bind (both.fireIfDue _ _) fun _ =>
        both.bind inductionHypothesis fun _ => both.pure _

theorem tick (both : TimedCongruence R related) :
    related Act.tick Act.tick := by
  refine both.bind (both.inspect _) fun idle => ?_
  split
  · exact both.bind (both.inspect _) fun _ =>
      both.bind (both.inspect _) fun _ =>
        both.bind (both.fireAll _ _) fun _ =>
          both.bind (both.lift both.collectIfDue) fun _ =>
            both.pure _
  · exact both.fail _

theorem setInterval
    (both : TimedCongruence R related)
    (receiver : Value)
    (arguments : List Value) :
    related (GlobalFunction.setInterval receiver arguments)
      (GlobalFunction.setInterval receiver arguments) := by
  refine both.bind (both.intervalTarget _ _) ?_
  rintro ⟨callback, callbackReceiver, rest⟩
  cases rest with
  | nil => exact both.fail _
  | cons period extra =>
      exact both.bind (both.lift both.nextIntervalName) fun _ =>
        both.bind (both.lift (both.createInterval _ _ _ _ _))
          fun _ => both.pure _

end TimedCongruence

end MovieScript
