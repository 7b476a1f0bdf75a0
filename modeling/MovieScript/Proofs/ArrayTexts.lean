import MovieScript.Proofs.CollectionFrame
import MovieScript.Proofs.ElementWrites

namespace MovieScript

/-!
# The texts of arrays

An array is written as the texts of its elements, and arrays that are nested
too deeply are left out.  Printing an array counts the array itself as a level
and joining it does not, so joining writes one level more.  The two come to the
same unless there is something to write at the first level that printing leaves
out: then joining gives a longer text, or fails.
-/

/-- The parts of a text are at most as long as those of another one. -/
private theorem intercalate_shorter
    {separator : String}
    {shorter longer : List String}
    (each : List.Forall₂ (·.length ≤ ·.length) shorter longer) :
    (separator.intercalate shorter).length ≤
        (separator.intercalate longer).length ∧
      ((separator.intercalate shorter).length =
          (separator.intercalate longer).length →
        List.Forall₂ (·.length = ·.length) shorter longer) := by
  induction each with
  | nil =>
      exact ⟨Nat.le_refl _, fun _ => .nil⟩
  | cons le restLe inductionHypothesis =>
      cases restLe with
      | nil =>
          simp only [String.intercalate_singleton]
          exact ⟨le, fun same => .cons same .nil⟩
      | cons nextLe othersLe =>
          simp only [String.intercalate_cons_cons, String.length_append]
          obtain ⟨shorterRest, sameRest⟩ := inductionHypothesis
          refine ⟨by omega, fun same => .cons ?_ (sameRest ?_)⟩
          · omega
          · omega

namespace Machine

variable {machine : Machine} {value inner : Value} {depth : Nat}
variable {elements : Array Value}

/-- The elements of the array that a value names. -/
def elementsOf?
    (machine : Machine) :
    Value → Option (Array Value)
  | .object handle =>
      (machine.heap.get? handle).bind ScriptObject.elements?
  | _ => none

/-- The text of an element; an empty value has none. -/
def elementText
    (machine : Machine)
    (depth : Nat)
    (element : Value) :
    Except Fault String :=
  if element.isNullish then
    .ok ""
  else
    machine.displayTextWithin depth element

/-- The text of an array with these elements, so many levels deep. -/
def arrayText
    (machine : Machine)
    (elements : Array Value) :
    Nat → Except Fault String
  | 0 => .ok ""
  | remaining + 1 =>
      (",".intercalate ·) <$>
        elements.toList.mapM (machine.elementText remaining)

theorem displayTextWithin_array
    (isArray : machine.elementsOf? value = some elements)
    (depth : Nat) :
    machine.displayTextWithin depth value =
      machine.arrayText elements depth := by
  cases value with
  | object handle =>
      obtain ⟨object, live, array⟩ := Option.bind_eq_some_iff.mp isArray
      rw [displayTextWithin, object_of_get? live]
      simp only [bind, Except.bind,
        ScriptObject.content_of_elements? array]
      cases depth with
      | zero => rfl
      | succ remaining => rfl
  | _ => cases isArray

/-- Only arrays are written to different depths. -/
theorem displayTextWithin_of_no_array
    (noArray : machine.elementsOf? value = none)
    (depth other : Nat) :
    machine.displayTextWithin depth value =
      machine.displayTextWithin other value := by
  cases value with
  | object handle =>
      rw [displayTextWithin, displayTextWithin]
      cases live : machine.heap.get? handle with
      | none => simp only [object, live, bind, Except.bind]
      | some object =>
          rw [object_of_get? live]
          simp only [bind, Except.bind]
          cases content : object.content with
          | array elements =>
              simp [elementsOf?, live, ScriptObject.elements?,
                content] at noArray
          | _ => rfl
  | _ => simp only [displayTextWithin]

/--
An array stands so many levels below a value: none if it is the value, and one
more than below an element of the value otherwise.
-/
inductive ArrayBelow (machine : Machine) : Nat → Value → Value → Prop where
  | here
      {array : Value}
      {elements : Array Value}
      (isArray : machine.elementsOf? array = some elements) :
      ArrayBelow machine 0 array array
  | inside
      {depth : Nat}
      {outer element inner : Value}
      {elements : Array Value}
      (isArray : machine.elementsOf? outer = some elements)
      (member : element ∈ elements.toList)
      (below : ArrayBelow machine depth element inner) :
      ArrayBelow machine (depth + 1) outer inner

/-- There is nothing to write so many levels below a value. -/
def BlankBelow
    (machine : Machine)
    (depth : Nat)
    (value : Value) :
    Prop :=
  ∀ inner, machine.ArrayBelow depth value inner →
    machine.displayTextWithin 1 inner = .ok ""

/-- An empty value is no array and has nothing below it. -/
theorem blankBelow_of_no_array
    (noArray : machine.elementsOf? value = none) :
    machine.BlankBelow depth value := by
  intro inner below
  cases below with
  | here isArray =>
      rw [noArray] at isArray
      cases isArray
  | inside isArray member below =>
      rw [noArray] at isArray
      cases isArray

theorem elementsOf?_of_isNullish
    (empty : value.isNullish = true) :
    machine.elementsOf? value = none := by
  cases value with
  | object handle => cases empty
  | _ => rfl

/-- Writing one level more makes no difference if there is nothing in it. -/
theorem displayTextWithin_succ
    (blank : machine.BlankBelow depth value) :
    machine.displayTextWithin (depth + 1) value =
      machine.displayTextWithin depth value := by
  induction depth generalizing value with
  | zero =>
      cases isArray : machine.elementsOf? value with
      | none => exact displayTextWithin_of_no_array isArray _ _
      | some elements =>
          rw [blank value (.here isArray),
            displayTextWithin_array isArray, arrayText]
  | succ depth inductionHypothesis =>
      cases isArray : machine.elementsOf? value with
      | none => exact displayTextWithin_of_no_array isArray _ _
      | some elements =>
          rw [displayTextWithin_array isArray,
            displayTextWithin_array isArray, arrayText, arrayText]
          congr 1
          apply mapM_congr
          intro element member
          rw [elementText, elementText, inductionHypothesis]
          intro inner below
          exact blank inner (.inside isArray member below)

/--
With one level less the text is written as well.  It is not longer, and it has
the same length only if there is nothing in that level.
-/
def Shortens
    (machine : Machine)
    (depth : Nat)
    (value : Value)
    (longer : String)
    (outcome : Except Fault String) :
    Prop :=
  ∃ shorter,
    outcome = .ok shorter ∧ shorter.length ≤ longer.length ∧
      (shorter.length = longer.length → machine.BlankBelow depth value)

/-- A list is written from shorter parts if each of its items is. -/
private theorem exists_shorter_parts
    {items : List Value}
    {longer : List String}
    (each : ∀ element text,
      machine.elementText (depth + 1) element = .ok text →
        machine.Shortens depth element text
          (machine.elementText depth element))
    (written :
      items.mapM (machine.elementText (depth + 1)) = .ok longer) :
    ∃ shorter,
      items.mapM (machine.elementText depth) = .ok shorter ∧
        List.Forall₂ (·.length ≤ ·.length) shorter longer ∧
          (List.Forall₂ (·.length = ·.length) shorter longer →
            ∀ element ∈ items, machine.BlankBelow depth element) := by
  induction items generalizing longer with
  | nil =>
      cases written
      exact ⟨[], rfl, .nil, fun _ => List.forall_mem_nil _⟩
  | cons element rest inductionHypothesis =>
      rw [List.mapM_cons] at written
      cases first : machine.elementText (depth + 1) element with
      | error fault =>
          rw [first] at written
          cases written
      | ok text =>
          cases others : rest.mapM (machine.elementText (depth + 1)) with
          | error fault =>
              rw [first, others] at written
              cases written
          | ok texts =>
              rw [first, others] at written
              cases written
              obtain ⟨part, isPart, le, blank⟩ := each element text first
              obtain ⟨parts, areParts, allLe, allBlank⟩ :=
                inductionHypothesis others
              refine ⟨part :: parts, ?_, .cons le allLe, fun same => ?_⟩
              · rw [List.mapM_cons, isPart, areParts]
                rfl
              · obtain ⟨firstSame, othersSame⟩ := List.forall₂_cons.mp same
                exact List.forall_mem_cons.mpr
                  ⟨blank firstSame, allBlank othersSame⟩

/-- Writing one level less leaves a text that is not longer. -/
theorem displayTextWithin_shortens
    {longer : String}
    (written : machine.displayTextWithin (depth + 1) value = .ok longer) :
    machine.Shortens depth value longer
      (machine.displayTextWithin depth value) := by
  induction depth generalizing value longer with
  | zero =>
      cases isArray : machine.elementsOf? value with
      | none =>
          rw [displayTextWithin_of_no_array isArray _ 0] at written
          exact ⟨longer, written, Nat.le_refl _, fun _ =>
            blankBelow_of_no_array isArray⟩
      | some elements =>
          refine ⟨"", displayTextWithin_array isArray 0,
            Nat.zero_le _, fun same inner below => ?_⟩
          cases below with
          | here _ =>
              rw [written, String.length_eq_zero_iff.mp same.symm]
  | succ depth inductionHypothesis =>
      cases isArray : machine.elementsOf? value with
      | none =>
          rw [displayTextWithin_of_no_array isArray _ (depth + 1)] at written
          exact ⟨longer, written, Nat.le_refl _, fun _ =>
            blankBelow_of_no_array isArray⟩
      | some elements =>
          have each (element : Value) (text : String)
              (written : machine.elementText (depth + 1) element = .ok text) :
              machine.Shortens depth element text
                (machine.elementText depth element) := by
            cases empty : element.isNullish with
            | true =>
                simp only [elementText, empty, ↓reduceIte] at written ⊢
                exact ⟨text, written, Nat.le_refl _, fun _ =>
                  blankBelow_of_no_array (elementsOf?_of_isNullish empty)⟩
            | false =>
                simp only [elementText, empty, Bool.false_eq_true,
                  ↓reduceIte] at written ⊢
                exact inductionHypothesis written
          rw [displayTextWithin_array isArray, arrayText] at written ⊢
          cases parts : elements.toList.mapM
              (machine.elementText (depth + 1)) with
          | error fault =>
              rw [parts] at written
              cases written
          | ok texts =>
              rw [parts] at written
              cases written
              obtain ⟨shorter, areParts, le, blank⟩ :=
                exists_shorter_parts each parts
              rw [areParts]
              obtain ⟨leTogether, sameTogether⟩ := intercalate_shorter le
              refine ⟨_, rfl, leTogether, fun same inner below => ?_⟩
              cases below with
              | inside isOuter member below =>
                  rw [isArray] at isOuter
                  cases isOuter
                  exact blank (sameTogether same) _ member _ below

end Machine

namespace Edit

variable {α β : Type} {machine : Machine}

/-- The outcome of an edit that only asks. -/
def answer (machine : Machine) :
    Except Fault α → EStateM.Result Fault Machine α
  | .ok result => .ok result machine
  | .error fault => .error fault machine

theorem run_ask (question : Machine → Except Fault α) :
    (ask question).run machine = answer machine (question machine) := by
  cases answered : question machine with
  | ok result => exact ask_run answered
  | error fault => exact ask_refused answered

theorem run_bind_answer
    {work : Edit α}
    {next : α → Edit β}
    {outcome : Except Fault α}
    {later : α → Except Fault β}
    (first : work.run machine = answer machine outcome)
    (second : ∀ result,
      (next result).run machine = answer machine (later result)) :
    (work >>= next).run machine = answer machine (outcome >>= later) := by
  rw [EStateM.run_bind, first]
  cases outcome with
  | ok result => exact second result
  | error fault => rfl

theorem run_map_answer
    {work : Edit α}
    {outcome : Except Fault α}
    (ran : work.run machine = answer machine outcome)
    (convert : α → β) :
    (work >>= fun result => pure (convert result)).run machine =
      answer machine (convert <$> outcome) := by
  rw [EStateM.run_bind, ran]
  cases outcome with
  | ok result => rfl
  | error fault => rfl

theorem run_mapM_answer
    {work : α → Edit β}
    {question : α → Except Fault β}
    (asks : ∀ item, (work item).run machine = answer machine (question item))
    (items : List α) :
    (items.mapM work).run machine =
      answer machine (items.mapM question) := by
  induction items with
  | nil =>
      rfl
  | cons item rest inductionHypothesis =>
      rw [List.mapM_cons, List.mapM_cons]
      exact run_bind_answer (asks item) fun _ =>
        run_bind_answer inductionHypothesis fun _ => rfl

end Edit

/-- The outcome of joining an array with no separator given. -/
theorem ArrayClass.join_run
    {machine : Machine}
    {array : Value}
    {elements : Array Value}
    (isArray : machine.elementsOf? array = some elements) :
    (join array []).run machine =
      Edit.answer machine
        (Value.text <$>
          machine.displayTextWithin (Machine.maxDisplayDepth + 1)
            array) := by
  cases array with
  | object handle =>
      obtain ⟨object, live, holds⟩ := Option.bind_eq_some_iff.mp isArray
      have asks (element : Value) :
          (if element.isNullish then
              pure ""
            else
              Edit.displayText element : Edit String).run machine =
            Edit.answer machine
              (machine.elementText Machine.maxDisplayDepth element) := by
        rw [Machine.elementText]
        split
        · rfl
        · exact Edit.run_ask _
      rw [Machine.displayTextWithin_array isArray, Machine.arrayText,
        Functor.map_map, join, EStateM.run_bind, receiverOf_array live holds]
      exact Edit.run_map_answer (Edit.run_mapM_answer asks _) fun parts =>
        Value.text (",".intercalate parts)
  | _ => cases isArray

namespace Builtin

variable {σ : Type} {calls : Calls σ} {session : Session σ}

/-- The outcome of a built-in function that only asks. -/
def answered (session : Session σ) :
    Except Fault Value → EStateM.Result Stop (Session σ) Invocation
  | .ok value => .ok (.complete value) session
  | .error fault => .error (.fault fault) session

theorem completed_answer
    {work : Edit Value}
    {outcome : Except Fault Value}
    (ran : work.run session.machine = Edit.answer session.machine outcome) :
    completed work calls session = answered session outcome := by
  cases outcome with
  | ok value => exact completed_ok ran
  | error fault => exact completed_error ran

theorem run_arrayJoin
    {array : Value}
    {elements : Array Value}
    (isArray : session.machine.elementsOf? array = some elements) :
    arrayJoin.run array [] calls session =
      answered session
        (Value.text <$>
          session.machine.displayTextWithin (Machine.maxDisplayDepth + 1)
            array) :=
  completed_answer (ArrayClass.join_run isArray)

theorem run_objectToString (value : Value) :
    objectToString.run value [] calls session =
      answered session (Value.text <$> session.machine.displayText value) :=
  completed_answer (Edit.run_map_answer (Edit.run_ask _) Value.text)

/-- Without a receiver to fill, the conversion to a text is the text. -/
theorem run_stringConstructor (value : Value) :
    stringConstructor.run .undefined [value] calls session =
      answered session (Value.text <$> session.machine.displayText value) :=
  completed_answer (Edit.run_map_answer (Edit.run_ask _) Value.text)

theorem run_trace
    {value : Value}
    {text : String}
    (written : session.machine.displayText value = .ok text) :
    trace.run .undefined [value] calls session =
      .ok (.complete .undefined)
        ⟨{ session.machine with
            log := ⟨.info, text⟩ :: session.machine.log },
          session.host⟩ := by
  apply completed_ok
  rw [GlobalFunction.trace, EStateM.run_bind, Edit.displayText,
    Edit.ask_run written]
  rfl

theorem run_trace_refused
    {value : Value}
    {fault : Fault}
    (refused : session.machine.displayText value = .error fault) :
    trace.run .undefined [value] calls session =
      .error (.fault fault) session := by
  apply completed_error
  rw [GlobalFunction.trace, EStateM.run_bind, Edit.displayText,
    Edit.ask_refused refused]

/--
Joining an array and printing it agree, unless something is left to be written
at the level that comes after the last one of printing.  If nothing is, they
give the same text or fail with the same fault.  If joining gives a text at all,
then so does printing, one that is not longer, and the two are the same just if
nothing is left.  The conversion to a text and the text that is traced are those
of printing.
-/
theorem join_agrees_with_printing
    (calls : Calls σ)
    (session : Session σ)
    {array : Value}
    {elements : Array Value}
    (isArray : session.machine.elementsOf? array = some elements) :
    (session.machine.BlankBelow Machine.maxDisplayDepth array →
      arrayJoin.run array [] calls session =
        objectToString.run array [] calls session) ∧
    (∀ result after,
      arrayJoin.run array [] calls session = .ok (.complete result) after →
        ∃ joined printed,
          result = .text joined ∧ after = session ∧
            objectToString.run array [] calls session =
              .ok (.complete (.text printed)) session ∧
            printed.length ≤ joined.length ∧
            (joined = printed ↔
              session.machine.BlankBelow Machine.maxDisplayDepth array)) ∧
    stringConstructor.run .undefined [array] calls session =
      objectToString.run array [] calls session ∧
    (∀ printed,
      objectToString.run array [] calls session =
          .ok (.complete (.text printed)) session →
        trace.run .undefined [array] calls session =
          .ok (.complete .undefined)
            ⟨{ session.machine with
                log := ⟨.info, printed⟩ :: session.machine.log },
              session.host⟩) ∧
    ∀ fault,
      objectToString.run array [] calls session =
          .error (.fault fault) session →
        trace.run .undefined [array] calls session =
          .error (.fault fault) session := by
  rw [run_arrayJoin isArray, run_objectToString, run_stringConstructor]
  refine ⟨?_, ?_, rfl, ?_, ?_⟩
  · intro blank
    rw [Machine.displayTextWithin_succ blank, Machine.displayText]
  · intro result after joins
    cases written : session.machine.displayTextWithin
        (Machine.maxDisplayDepth + 1) array with
    | error fault =>
        rw [written] at joins
        cases joins
    | ok joined =>
        rw [written] at joins
        cases joins
        obtain ⟨printed, isPrinted, notLonger, blank⟩ :=
          Machine.displayTextWithin_shortens written
        refine ⟨joined, printed, rfl, rfl, ?_, notLonger, ?_⟩
        · rw [Machine.displayText, isPrinted]
          rfl
        · constructor
          · intro same
            exact blank (congrArg String.length same.symm)
          · intro blank
            rw [Machine.displayTextWithin_succ blank, isPrinted] at written
            cases written
            rfl
  · intro printed prints
    apply run_trace
    cases written : session.machine.displayText array with
    | error fault =>
        rw [written] at prints
        cases prints
    | ok text =>
        rw [written] at prints
        cases prints
        rfl
  · intro fault fails
    apply run_trace_refused
    cases written : session.machine.displayText array with
    | error other =>
        rw [written] at fails
        cases fails
        rfl
    | ok text =>
        rw [written] at fails
        cases fails

end Builtin

/-- An array with another one in two places. -/
def Machine.doubled : Machine :=
  { Machine.bare .standard 0 with
    heap :=
      Heap.run
        [.alloc
            (.new none
              (.array #[.object ⟨1, 0⟩, .null, .object ⟨1, 0⟩])),
          .alloc (.new none (.array #[.integer 2, .undefined]))] }

/-- Joining the outer array and printing it give the same text. -/
theorem Builtin.join_agrees_with_printing_doubled :
    arrayJoin.run (.object ⟨0, 0⟩) [] (Host.echoing.calls 1)
          ⟨Machine.doubled, ()⟩ =
        objectToString.run (.object ⟨0, 0⟩) [] (Host.echoing.calls 1)
          ⟨Machine.doubled, ()⟩ ∧
      objectToString.run (.object ⟨0, 0⟩) [] (Host.echoing.calls 1)
          ⟨Machine.doubled, ()⟩ =
        .ok (.complete (.text "2,,,2,")) ⟨Machine.doubled, ()⟩ := by
  have innerBlank (depth : Nat) :
      Machine.doubled.BlankBelow (depth + 1) (.object ⟨1, 0⟩) := by
    intro array below
    cases below with
    | inside isArray member below =>
        cases isArray
        simp only [List.mem_cons, List.not_mem_nil, or_false] at member
        rcases member with rfl | rfl
        · exact Machine.blankBelow_of_no_array rfl _ below
        · exact Machine.blankBelow_of_no_array rfl _ below
  have blank :
      Machine.doubled.BlankBelow Machine.maxDisplayDepth
        (.object ⟨0, 0⟩) := by
    intro array below
    cases below with
    | inside isArray member below =>
        cases isArray
        simp only [List.mem_cons, List.not_mem_nil, or_false] at member
        rcases member with rfl | rfl | rfl
        · exact innerBlank _ _ below
        · exact Machine.blankBelow_of_no_array rfl _ below
        · exact innerBlank _ _ below
  have printed :
      Machine.doubled.displayText (.object ⟨0, 0⟩) = .ok "2,,,2," := by
    decide +kernel
  refine ⟨(join_agrees_with_printing _ _ rfl).1 blank, ?_⟩
  rw [run_objectToString, printed]
  rfl

/-- An array whose second element is the array itself. -/
def Machine.looped : Machine :=
  { Machine.bare .standard 0 with
    heap :=
      Heap.run
        [.alloc (.new none (.array #[.integer 1, .object ⟨0, 0⟩]))] }

/-- Joining the array writes its first element once more than printing it. -/
theorem Builtin.join_differs_looped :
    arrayJoin.run (.object ⟨0, 0⟩) [] (Host.echoing.calls 1)
          ⟨Machine.looped, ()⟩ =
        .ok (.complete (.text "1,1,1,1,1,1,1,1,1,"))
          ⟨Machine.looped, ()⟩ ∧
      objectToString.run (.object ⟨0, 0⟩) [] (Host.echoing.calls 1)
          ⟨Machine.looped, ()⟩ =
        .ok (.complete (.text "1,1,1,1,1,1,1,1,"))
          ⟨Machine.looped, ()⟩ := by
  have joined :
      Machine.looped.displayTextWithin (Machine.maxDisplayDepth + 1)
          (.object ⟨0, 0⟩) =
        .ok "1,1,1,1,1,1,1,1,1," := by
    decide +kernel
  have printed :
      Machine.looped.displayText (.object ⟨0, 0⟩) =
        .ok "1,1,1,1,1,1,1,1," := by
    decide +kernel
  rw [run_arrayJoin rfl, run_objectToString, joined, printed]
  exact ⟨rfl, rfl⟩

end MovieScript
