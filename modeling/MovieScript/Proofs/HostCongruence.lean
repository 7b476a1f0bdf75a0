import MovieScript.Proofs.ActCongruence

namespace MovieScript

/-!
# Relations between what hosts do

Requests are told apart by what they do to the frames.  A relation between acts
that goes along with putting them together relates every request and every
built-in function to itself, those apart that concern intervals.  These are
covered too where the edits of intervals are; other relations have something of
their own to say about them.  What happens when the host chooses the prototype
of a new object, or replaces a property by a method, is left to each relation.
-/

/-- The part that the frames have in a request. -/
inductive FrameUse where
  /-- No frame is changed and no function is called. -/
  | apart
  /-- The top frame is worked on or host entries are opened above it. -/
  | within
  /-- A call is started from the top frame or a frame is pushed. -/
  | pushes
  /-- The top frame is popped. -/
  | pops
  /-- Frames are run by the host itself. -/
  | runs
  /-- All frames and host entries are given up. -/
  | unloads
  deriving Repr, DecidableEq

namespace Request

variable {β : Type}

/-- What a request does to the frames. -/
def frameUse : Request β → FrameUse
  | .inspect _ => .apart
  | .drainLog => .apart
  | .alloc _ => .apart
  | .createObject => .apart
  | .createObjectWith _ => .apart
  | .createArray _ => .apart
  | .createNative _ => .apart
  | .defineFunction _ => .apart
  | .registerMethod _ _ _ => .apart
  | .toObject _ => .apart
  | .deleteMember _ _ => .apart
  | .defineProperty _ _ _ => .apart
  | .setPrototype _ _ => .apart
  | .createScope _ => .apart
  | .defineInFrame _ _ => .apart
  | .setRoot _ => .apart
  | .createInterval _ _ _ _ _ => .apart
  | .clearInterval _ => .apart
  | .advanceClock _ => .apart
  | .setClock _ => .apart
  | .collectGarbage => .apart
  | .pin _ => .apart
  | .unpin _ => .apart
  | .setThreshold _ => .apart
  | .addItem _ => .apart
  | .setParent _ _ => .apart
  | .setScript _ _ => .apart
  | .holdItem _ _ => .apart
  | .letItemGo _ _ => .apart
  | .createStageObject _ _ => .apart
  | .invoke _ _ _ => .pushes
  | .callFromFrame _ _ _ => .pushes
  | .callMethodFromFrame _ _ _ => .pushes
  | .pushFrame _ => .pushes
  | .returnFromFrame _ => .pops
  | .runAbove _ => .runs
  | .unload => .unloads
  | _ => .within

/-- The request changes the table of intervals, or may do so by itself. -/
def concernsIntervals : Request β → Bool
  | .createInterval _ _ _ _ _ => true
  | .clearInterval _ => true
  | .tick => true
  | .unload => true
  | _ => false

/--
The relation allows what only the host can ask for: an object with a prototype
of its choice, a method in the place of whatever an object has, and a scope
inside of one that it names.
-/
def Opens (R : Machine → Machine → Prop) : Request β → Prop
  | .alloc object => Respects R (Edit.alloc object)
  | .createObjectWith prototype =>
      Respects R (Edit.createObjectWith prototype)
  | .registerMethod target name _ =>
      ∀ method,
        Respects R
          (Edit.modifyObject target
            (·.withProperty name (.method method)))
  | .construct _ _ =>
      ∀ object, object.content = .ordinary → Respects R (Edit.alloc object)
  | .constructClass _ _ =>
      ∀ object, object.content = .ordinary → Respects R (Edit.alloc object)
  | .createScope outer => Respects R (Edit.createScope outer)
  | _ => True

theorem opens_of_edits
    {R : Machine → Machine → Prop}
    (alloc : ∀ object, Respects R (Edit.alloc object))
    (modifyObject : ∀ handle change,
      Respects R (Edit.modifyObject handle change))
    (createScope : ∀ outer, Respects R (Edit.createScope outer))
    (wanted : Request β) :
    wanted.Opens R := by
  cases wanted with
  | alloc object => exact alloc object
  | createObjectWith prototype => exact alloc _
  | registerMethod target name function =>
      exact fun method => modifyObject _ _
  | construct constructor arguments => exact fun object _ => alloc object
  | constructClass className arguments => exact fun object _ => alloc object
  | createScope outer => exact createScope outer
  | _ => trivial

end Request

namespace Builtin

/-- The function changes the table of intervals. -/
def concernsIntervals : Builtin → Bool
  | .setInterval => true
  | .clearInterval => true
  | _ => false

/-- The function starts a call of another function. -/
def startsCall : Builtin → Bool
  | .functionCall => true
  | .functionApply => true
  | _ => false

end Builtin

section Requests

variable {σ τ β : Type} {R : Machine → Machine → Prop}
variable {related : ∀ {α : Type}, Act σ α → Act τ α → Prop}

theorem EditCongruence.request
    (both : EditCongruence R related)
    (wanted : Request β)
    (use : wanted.frameUse = .apart)
    (untimed : wanted.concernsIntervals = false)
    (opens : wanted.Opens R) :
    related (wanted.perform : Act σ β) wanted.perform := by
  cases wanted with
  | inspect question => exact both.lift fun machine => both.refl machine
  | drainLog => exact both.lift both.drainLog
  | alloc object => exact both.lift opens
  | createObject => exact both.lift both.createObject
  | createObjectWith prototype => exact both.lift opens
  | createArray elements => exact both.lift (both.createArray _)
  | createNative function => exact both.lift (both.createNative _)
  | defineFunction definition => exact both.lift (both.defineFunction _)
  | registerMethod target name function =>
      exact both.lift
        (both.toQuietStable.bind (both.createNative _) opens)
  | toObject value => exact both.lift (both.toObject _)
  | deleteMember handle name => exact both.lift (both.deleteMember _ _)
  | defineProperty handle name property =>
      exact both.lift (both.defineProperty _ _ _)
  | setPrototype handle prototype =>
      exact both.lift (both.setPrototype _ _)
  | createScope outer => exact both.lift opens
  | defineInFrame name value => exact both.lift (both.defineInFrame _ _)
  | setRoot root => exact both.lift (both.setRoot _)
  | advanceClock milliseconds => exact both.lift (both.advanceClock _)
  | setClock milliseconds => exact both.lift (both.setClock _)
  | collectGarbage => exact both.lift both.collectGarbage
  | pin handle => exact both.lift (both.pin _)
  | unpin handle => exact both.lift (both.unpin _)
  | setThreshold threshold => exact both.lift (both.setThreshold _)
  | addItem item => exact both.lift (both.addItem _)
  | setParent item parent => exact both.lift (both.onScene _)
  | setScript item script => exact both.lift (both.onScene _)
  | holdItem item exclusive => exact both.lift (both.onScene _)
  | letItemGo item exclusive => exact both.lift (both.onScene _)
  | createStageObject item kind =>
      exact both.lift (both.createStageObject _ _)
  | createInterval name period callback receiver arguments =>
      cases untimed
  | clearInterval name => cases untimed
  | _ => cases use

/-- Requests for intervals count too, if the edits of intervals do. -/
theorem EditCongruence.timedRequest
    (both : EditCongruence R related)
    (stable : EditStable R)
    (wanted : Request β)
    (use : wanted.frameUse = .apart)
    (opens : wanted.Opens R) :
    related (wanted.perform : Act σ β) wanted.perform := by
  cases timed : wanted.concernsIntervals with
  | false => exact both.request wanted use timed opens
  | true =>
      cases wanted with
      | createInterval name period callback receiver arguments =>
          exact both.lift (stable.createInterval _ _ _ _ _)
      | clearInterval name => exact both.lift (stable.clearInterval _)
      | tick => cases use
      | unload => cases use
      | _ => cases timed

theorem ActCongruence.request
    (both : ActCongruence R related)
    (wanted : Request β)
    (use : wanted.frameUse = .within)
    (untimed : wanted.concernsIntervals = false)
    (opens : wanted.Opens R) :
    related (wanted.perform : Act σ β) wanted.perform := by
  cases wanted with
  | getMember handle name => exact both.getMember _ _
  | getValueMember value name => exact both.getValueMember _ _
  | setMember handle name value => exact both.setMember _ _ _
  | call function receiver arguments => exact both.call _ _ _
  | callMethod target name arguments => exact both.callMethod _ _ _
  | construct constructor arguments => exact both.construct opens _ _
  | constructClass className arguments =>
      exact both.constructClass opens _ _
  | executeScript code constants target =>
      exact both.executeScript _ _ _
  | jumpTo target =>
      exact both.lift (both.onFrame (Frame.jumpTo_respects _))
  | jumpBy distance =>
      exact both.lift (both.onFrame (Frame.jumpBy_respects _))
  | readByte =>
      exact both.lift (both.onFrame Frame.readByte_respects)
  | readWord =>
      exact both.lift (both.onFrame Frame.readWord_respects)
  | readSignedWord =>
      exact both.lift (both.onFrame Frame.readSignedWord_respects)
  | pushOperand value => exact both.lift (both.pushOperand _)
  | popOperand => exact both.lift both.popOperand
  | setRegister index value => exact both.lift (both.setRegister _ _)
  | pushScopeObject handle =>
      exact both.lift (both.pushScopeObject _)
  | popScopeObject => exact both.lift both.popScopeObject
  | getVariable name => exact both.getVariable _
  | setVariable name value => exact both.setVariable _ _
  | defineLocal name value => exact both.defineLocal _ _
  | resolvePath start path => exact both.resolvePath _ _
  | resolveTextVariable handle path =>
      exact both.resolveTextVariable _ _
  | importDocument document => exact both.importDocument _
  | exportDocument value => exact both.exportDocument _
  | tick => cases untimed
  | getDisplayProperty handle index =>
      exact both.getDisplayProperty _ _
  | setDisplayProperty handle index value =>
      exact both.setDisplayProperty _ _ _
  | _ => cases use

/-- With ticks, every request is covered that leaves the frames as they are. -/
theorem TimedCongruence.request
    (both : TimedCongruence R related)
    (wanted : Request β)
    (use : wanted.frameUse = .apart ∨ wanted.frameUse = .within)
    (opens : wanted.Opens R) :
    related (wanted.perform : Act σ β) wanted.perform := by
  rcases use with apart | within
  · exact both.toEditCongruence.timedRequest both.toEditStable wanted apart
      opens
  · cases timed : wanted.concernsIntervals with
    | false => exact both.toActCongruence.request wanted within timed opens
    | true =>
        cases wanted with
        | tick => exact both.tick
        | createInterval name period callback receiver arguments =>
            cases within
        | clearInterval name => cases within
        | unload => cases within
        | _ => cases timed

end Requests

/--
A congruence together with a relation for the acts that start a call, which may
come to an end at once or leave a frame behind.
-/
structure LaunchCongruence
    {σ τ : Type}
    (R : Machine → Machine → Prop)
    (related : ∀ {α : Type}, Act σ α → Act τ α → Prop)
    (launched : Act σ Invocation → Act τ Invocation → Prop) :
    Prop extends ActCongruence R related where
  complete : ∀ value,
    launched (return .complete value) (return .complete value)
  refuse : ∀ fault, launched (Act.fail fault) (Act.fail fault)
  andThen : ∀ {α : Type} {act : Act σ α} {image : Act τ α}
    {next : α → Act σ Invocation} {imageNext : α → Act τ Invocation},
    related act image →
      (∀ result, launched (next result) (imageNext result)) →
        launched (act >>= next) (image >>= imageNext)

/-- The same with the calls that are started. -/
structure CallCongruence
    {σ τ : Type}
    (R : Machine → Machine → Prop)
    (related : ∀ {α : Type}, Act σ α → Act τ α → Prop)
    (launched : Act σ Invocation → Act τ Invocation → Prop) :
    Prop extends LaunchCongruence R related launched where
  invoke : ∀ function receiver arguments,
    launched (Act.invoke function receiver arguments)
      (Act.invoke function receiver arguments)

section Builtins

variable {σ τ : Type} {R : Machine → Machine → Prop}
variable {related : ∀ {α : Type}, Act σ α → Act τ α → Prop}
variable {launched : Act σ Invocation → Act τ Invocation → Prop}

namespace LaunchCongruence

theorem completed
    (both : LaunchCongruence R related launched)
    {work : Edit Value}
    (respected : Respects R work) :
    launched (Builtin.completed work) (Builtin.completed work) :=
  both.andThen (both.lift respected) fun value => both.complete value

theorem builtin
    (both : LaunchCongruence R related launched)
    (function : Builtin)
    (receiver : Value)
    (arguments : List Value)
    (untimed : function.concernsIntervals = false)
    (callsNone : function.startsCall = false) :
    launched (function.run receiver arguments)
      (function.run receiver arguments) := by
  cases function with
  | objectConstructor => exact both.completed (both.objectConstruct _ _)
  | objectHasOwnProperty =>
      exact both.completed (both.objectHasOwnProperty _ _)
  | objectToString =>
      exact both.completed (both.computed (both.displayText _))
  | objectValueOf => exact both.complete _
  | objectAddProperty =>
      exact both.completed (both.objectAddProperty _ _)
  | functionConstructor => exact both.refuse _
  | functionCall => cases callsNone
  | functionApply => cases callsNone
  | booleanConstructor =>
      exact both.completed
        (both.convertOrFill _ _ (by trivial) (both.toQuietStable.pure _))
  | booleanValueOf =>
      exact both.completed (both.computed (both.booleanReceiverOf _))
  | booleanToString =>
      exact both.completed (both.computed (both.booleanReceiverOf _))
  | numberConstructor =>
      exact both.completed
        (both.convertOrFill _ _ (by trivial) (both.toQuietStable.pure _))
  | numberValueOf => exact both.completed (both.numberReceiverOf _)
  | numberToString =>
      exact both.completed (both.computed (both.numberReceiverOf _))
  | stringConstructor => exact both.completed (both.stringConstruct _ _)
  | stringLength =>
      exact both.completed (both.computed (both.stringReceiverOf _))
  | stringSubstr => exact both.completed (both.stringSubstr _ _)
  | stringValueOf =>
      exact both.completed (both.computed (both.stringReceiverOf _))
  | stringToString =>
      exact both.completed (both.computed (both.stringReceiverOf _))
  | arrayConstructor => exact both.completed (both.arrayConstruct _ _)
  | arrayLength => exact both.completed (both.arrayLength _)
  | arraySetLength => exact both.completed (both.arraySetLength _ _)
  | arrayPush => exact both.completed (both.arrayPush _ _)
  | arrayJoin => exact both.completed (both.arrayJoin _ _)
  | stageConstructor => exact both.refuse _
  | displayRead member =>
      exact both.completed (both.displayReadMember _ _)
  | displayWrite member =>
      exact both.completed (both.displayWriteMember _ _ _)
  | textColour =>
      exact both.completed (both.computed (both.displayReadItem _))
  | setTextColour =>
      exact both.completed (both.displaySetTextColour _ _)
  | currentFrame =>
      exact both.completed (both.computed (both.displayTimelineOf _))
  | gotoAndPlay => exact both.completed (both.displayPerformAll _ _)
  | gotoAndStop => exact both.completed (both.displayPerformAll _ _)
  | play => exact both.completed (both.displayPerformAll _ _)
  | stop => exact both.completed (both.displayPerformAll _ _)
  | getTime =>
      exact both.completed
        (both.computed both.toQuietStable.get)
  | setInterval => cases untimed
  | clearInterval => cases untimed
  | loadMovie => exact both.completed (both.loadMovie _)
  | attachMovie => exact both.completed (both.attachMovie _)
  | trace => exact both.completed (both.trace _)

/-- The functions for intervals count too, if ticks do. -/
theorem timedBuiltin
    (both : LaunchCongruence R related launched)
    (timed : TimedCongruence R related)
    (function : Builtin)
    (receiver : Value)
    (arguments : List Value)
    (callsNone : function.startsCall = false) :
    launched (function.run receiver arguments)
      (function.run receiver arguments) := by
  cases concerns : function.concernsIntervals with
  | false =>
      exact both.builtin function receiver arguments concerns callsNone
  | true =>
      cases function with
      | setInterval =>
          exact both.andThen (timed.setInterval _ _) fun _ =>
            both.complete _
      | clearInterval =>
          exact both.completed (timed.globalClearInterval _)
      | _ => cases concerns

end LaunchCongruence

namespace CallCongruence

theorem startingBuiltin
    (both : CallCongruence R related launched)
    {function : Builtin}
    (starts : function.startsCall = true)
    (receiver : Value)
    (arguments : List Value) :
    launched (function.run receiver arguments)
      (function.run receiver arguments) := by
  cases function with
  | functionCall => exact both.invoke _ _ _
  | functionApply =>
      exact both.andThen (both.spread _) fun _ => both.invoke _ _ _
  | _ => cases starts

theorem builtin
    (both : CallCongruence R related launched)
    (function : Builtin)
    (receiver : Value)
    (arguments : List Value)
    (untimed : function.concernsIntervals = false) :
    launched (function.run receiver arguments)
      (function.run receiver arguments) := by
  cases starts : function.startsCall with
  | false =>
      exact both.toLaunchCongruence.builtin function receiver arguments
        untimed starts
  | true => exact both.startingBuiltin starts receiver arguments

theorem timedBuiltin
    (both : CallCongruence R related launched)
    (timed : TimedCongruence R related)
    (function : Builtin)
    (receiver : Value)
    (arguments : List Value) :
    launched (function.run receiver arguments)
      (function.run receiver arguments) := by
  cases starts : function.startsCall with
  | false =>
      exact both.toLaunchCongruence.timedBuiltin timed function receiver
        arguments starts
  | true => exact both.startingBuiltin starts receiver arguments

end CallCongruence

end Builtins

end MovieScript
