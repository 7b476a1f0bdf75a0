import Mathlib.Data.List.TakeWhile
import MovieScript.Proofs.ElementWrites
import MovieScript.Act.Variable

namespace MovieScript

/-!
# Dotted variables

A dotted name is written by splitting it at its last dot and read by splitting it
at its first.  Both walk along the same segments, so a read finds the member that
a write goes to.  An empty rest behind the first dot is taken for no rest at all:
there the two part.
-/

namespace Path

/-! Names that are put together from a path and a last segment. -/

variable {path member : String}

theorem isDotted_iff {name : String} :
    isDotted name = true ↔ '.' ∈ name.toList := by
  simp [isDotted]

theorem not_mem_of_not_dotted
    {name : String}
    (single : isDotted name = false) :
    '.' ∉ name.toList := by
  rw [← isDotted_iff, single]
  exact Bool.false_ne_true

theorem toList_joined (path member : String) :
    (path ++ "." ++ member).toList =
      path.toList ++ '.' :: member.toList := by
  simp

theorem isDotted_joined (path member : String) :
    isDotted (path ++ "." ++ member) = true := by
  rw [isDotted_iff, toList_joined]
  simp

private theorem all_ne_dot
    {characters : List Char}
    (noDot : '.' ∉ characters) :
    ∀ character ∈ characters, decide (character ≠ '.') = true := by
  intro character member
  rw [decide_eq_true_iff]
  rintro rfl
  exact noDot member

/-- The characters up to a dot, if none of them is one. -/
private theorem takeWhile_joined
    {front : List Char}
    (noDot : '.' ∉ front)
    (back : List Char) :
    (front ++ '.' :: back).takeWhile (· ≠ '.') = front := by
  rw [List.takeWhile_append_of_pos (all_ne_dot noDot),
    List.takeWhile_cons_of_neg (by simp), List.append_nil]

/-- The characters behind a dot, if none of those before it is one. -/
private theorem dropWhile_joined
    {front : List Char}
    (noDot : '.' ∉ front)
    (back : List Char) :
    ((front ++ '.' :: back).dropWhile (· ≠ '.')).drop 1 = back := by
  rw [List.dropWhile_append_of_pos (all_ne_dot noDot),
    List.dropWhile_cons_of_neg (by simp), List.drop_one, List.tail_cons]

/-- Splitting at the last dot takes the last segment off again. -/
theorem splitLast?_joined
    (path : String)
    (single : isDotted member = false) :
    splitLast? (path ++ "." ++ member) = some (path, member) := by
  have noDot : '.' ∉ member.toList.reverse := by
    rw [List.mem_reverse]
    exact not_mem_of_not_dotted single
  rw [splitLast?, if_pos (isDotted_joined path member), toList_joined,
    List.reverse_append, List.reverse_cons, List.append_assoc]
  simp only [List.singleton_append]
  rw [takeWhile_joined noDot, dropWhile_joined noDot]
  simp

/-- A path without a dot is the first segment. -/
theorem splitFirst_joined
    (single : isDotted path = false)
    (member : String) :
    splitFirst (path ++ "." ++ member) = (path, member) := by
  have noDot := not_mem_of_not_dotted single
  simp only [splitFirst, toList_joined]
  rw [takeWhile_joined noDot, dropWhile_joined noDot]
  simp

theorem splitFirst_of_not_dotted (single : isDotted path = false) :
    splitFirst path = (path, "") := by
  have all := all_ne_dot (not_mem_of_not_dotted single)
  rw [splitFirst, List.takeWhile_eq_self_iff.mpr all,
    List.dropWhile_eq_nil_iff.mpr all]
  simp

/-- Splitting a longer path at its first dot leaves more of it behind. -/
theorem splitFirst_joined_dotted
    (dotted : isDotted path = true)
    (member : String) :
    splitFirst (path ++ "." ++ member) =
      ((splitFirst path).1, (splitFirst path).2 ++ "." ++ member) := by
  obtain ⟨front, back, shape, noDot⟩ :=
    List.eq_append_cons_of_mem (isDotted_iff.mp dotted)
  simp only [splitFirst, toList_joined, shape]
  rw [List.append_assoc, List.cons_append, takeWhile_joined noDot,
    takeWhile_joined noDot, dropWhile_joined noDot, dropWhile_joined noDot]
  simp [String.append_assoc]

theorem splitDots_ne_nil (characters : List Char) :
    splitDots characters ≠ [] := by
  cases characters with
  | nil => exact List.cons_ne_nil _ _
  | cons character rest =>
      rw [splitDots]
      split
      · exact List.cons_ne_nil _ _
      · split
        · exact List.cons_ne_nil _ _
        · exact List.cons_ne_nil _ _

theorem splitDots_append (front back : List Char) :
    splitDots (front ++ '.' :: back) =
      splitDots front ++ splitDots back := by
  induction front with
  | nil => rfl
  | cons character rest inductionHypothesis =>
      rw [List.cons_append, splitDots, splitDots, inductionHypothesis]
      split
      · rfl
      · cases shape : splitDots rest with
        | nil => exact absurd shape (splitDots_ne_nil rest)
        | cons first others => rfl

theorem splitDots_single
    {characters : List Char}
    (noDot : '.' ∉ characters) :
    splitDots characters = [characters] := by
  induction characters with
  | nil => rfl
  | cons character rest inductionHypothesis =>
      obtain ⟨different, restNoDot⟩ := not_or.mp (List.mem_cons.not.mp noDot)
      rw [splitDots, if_neg (Ne.symm different),
        inductionHypothesis restNoDot]

/-- A last segment is the last of the segments. -/
theorem segments_joined
    (path : String)
    (single : isDotted member = false) :
    segments (path ++ "." ++ member) = segments path ++ [member] := by
  rw [segments, toList_joined, splitDots_append,
    splitDots_single (not_mem_of_not_dotted single)]
  simp [segments]

theorem segments_ne_nil (path : String) : segments path ≠ [] := by
  rw [segments, ne_eq, List.map_eq_nil_iff]
  exact splitDots_ne_nil path.toList

theorem segments_single (single : isDotted path = false) :
    segments path = [path] := by
  rw [segments, splitDots_single (not_mem_of_not_dotted single)]
  simp

end Path

theorem Value.eq_object_of_handle?
    {value : Value}
    {handle : Handle}
    (isObject : value.handle? = some handle) :
    value = .object handle := by
  cases value with
  | object found =>
      cases isObject
      rfl
  | _ => cases isObject

namespace Act

variable {σ : Type} {calls : Calls σ} {session between : Session σ}
variable {handle start target : Handle} {value : Value}

/-- A result that has to be an object. -/
def objectOr
    (fault : Fault)
    (value : Value) :
    Act σ Handle :=
  value.handle?.elim (fail fault) pure

/-- An act has failed because a path led nowhere. -/
def Unresolved
    {α : Type}
    (outcome : EStateM.Result Stop (Session σ) α) :
    Prop :=
  ∃ path segment after,
    outcome = .error (.fault (.unresolvedPath path segment)) after

/-- Asking first whether the member is there makes no difference. -/
theorem stepInto_eq
    (handle : Handle)
    (path segment : String) :
    (stepInto handle path segment : Act σ Handle) =
      getMember handle segment >>=
        objectOr (.unresolvedPath path segment) := by
  funext calls session
  have goesOn
      (asked : session.machine.hasMember handle segment = .ok true) :
      stepInto handle path segment calls session =
        (getMember handle segment >>=
          objectOr (.unresolvedPath path segment)) calls session := by
    rw [stepInto, bind_ok (ask_ok asked)]
    refine congrFun (congrFun
      (congrArg (getMember handle segment >>= ·)
        (funext fun value => ?_)) calls) session
    cases value <;> rfl
  cases resolved : session.machine.resolve handle segment with
  | error fault =>
      have asked :
          session.machine.hasMember handle segment = .error fault := by
        simp [Machine.hasMember, resolved, bind, Except.bind]
      have read :
          getMember handle segment calls session =
            .error (.fault fault) session :=
        bind_error (ask_refused resolved) _
      rw [stepInto, bind_error (ask_refused asked), bind_error read]
  | ok resolution =>
      cases resolution with
      | missing =>
          have asked :
              session.machine.hasMember handle segment = .ok false := by
            simp [Machine.hasMember, resolved, bind, Except.bind, pure,
              Except.pure]
          have read :
              getMember handle segment calls session =
                .ok .undefined session :=
            (bind_ok (ask_ok resolved) _).trans rfl
          rw [stepInto, bind_ok (ask_ok asked), bind_ok read]
          rfl
      | value stored =>
          apply goesOn
          simp [Machine.hasMember, resolved, bind, Except.bind, pure,
            Except.pure]
      | accessor getter setter =>
          apply goesOn
          simp [Machine.hasMember, resolved, bind, Except.bind, pure,
            Except.pure]

section StepInto

variable {path segment : String}

theorem stepInto_object
    (read :
      getMember handle segment calls session =
        .ok (.object target) between) :
    stepInto handle path segment calls session = .ok target between := by
  rw [stepInto_eq, bind_ok read]
  rfl

theorem stepInto_other
    (read : getMember handle segment calls session = .ok value between)
    (other : value.handle? = none) :
    stepInto handle path segment calls session =
      .error (.fault (.unresolvedPath path segment)) between := by
  rw [stepInto_eq, bind_ok read, objectOr, other]
  rfl

theorem stepInto_error
    {stop : Stop}
    (read : getMember handle segment calls session = .error stop between) :
    stepInto handle path segment calls session = .error stop between := by
  rw [stepInto_eq, bind_error read]

end StepInto

/--
One outcome goes further than another: from an object it goes on in a certain
way, and nowhere from anything else.
-/
structure Furthers
    (calls : Calls σ)
    (next : Handle → Act σ Value)
    (short long : EStateM.Result Stop (Session σ) Value) :
    Prop where
  object : ∀ target between,
    short = .ok (.object target) between → long = next target calls between
  other : ∀ value between,
    short = .ok value between → value.handle? = none → Unresolved long
  unresolved : Unresolved short → Unresolved long

namespace Furthers

variable {next : Handle → Act σ Value}
variable {short long : EStateM.Result Stop (Session σ) Value}

theorem of_error
    {stop : Stop}
    (failed : short = .error stop between)
    (alike : Unresolved short → Unresolved long) :
    Furthers calls next short long where
  object target after ended := by
    rw [failed] at ended
    cases ended
  other value after ended := by
    rw [failed] at ended
    cases ended
  unresolved := alike

theorem of_object
    (ended : short = .ok (.object target) between)
    (goesOn : long = next target calls between) :
    Furthers calls next short long where
  object other after also := by
    rw [ended] at also
    cases also
    exact goesOn
  other value after also noObject := by
    rw [ended] at also
    cases also
    cases noObject
  unresolved := by
    rintro ⟨_, _, _, failed⟩
    rw [ended] at failed
    cases failed

theorem of_other
    (ended : short = .ok value between)
    (noObject : value.handle? = none)
    (stops : Unresolved long) :
    Furthers calls next short long where
  object other after also := by
    rw [ended] at also
    cases also
    cases noObject
  other _ _ _ _ := stops
  unresolved _ := stops

end Furthers

/-- With a segment more, a walk goes one member further. -/
theorem walkPath_furthers
    (path longer member : String)
    {segments : List String}
    (nonempty : segments ≠ [])
    (start : Handle)
    (calls : Calls σ)
    (session : Session σ) :
    Furthers calls (getMember · member)
      (walkPath path start segments calls session)
      (walkPath longer start (segments ++ [member]) calls session) := by
  induction segments generalizing start session with
  | nil => exact absurd rfl nonempty
  | cons segment rest inductionHypothesis =>
      have longSteps :
          (walkPath longer start (segment :: rest ++ [member]) :
            Act σ Value) =
            stepInto start longer segment >>= fun next =>
              walkPath longer next (rest ++ [member]) := by
        cases rest <;> rfl
      rw [longSteps]
      cases read : getMember start segment calls session with
      | error stop between =>
          have stepped :
              stepInto start longer segment calls session =
                .error stop between :=
            stepInto_error read
          have short :
              walkPath path start (segment :: rest) calls session =
                .error stop between := by
            cases rest with
            | nil => exact read
            | cons next others => exact bind_error (stepInto_error read) _
          refine .of_error short fun unresolved => ?_
          rw [bind_error stepped, ← short]
          exact unresolved
      | ok value between =>
          cases handle : value.handle? with
          | none =>
              have stops : Unresolved
                  ((stepInto start longer segment >>= fun next =>
                    walkPath longer next (rest ++ [member])) calls
                    session) :=
                ⟨_, _, _, bind_error (stepInto_other read handle) _⟩
              cases rest with
              | nil => exact .of_other read handle stops
              | cons next others =>
                  exact .of_error (bind_error (stepInto_other read handle) _)
                    fun _ => stops
          | some target =>
              obtain rfl : value = .object target :=
                Value.eq_object_of_handle? handle
              rw [bind_ok (stepInto_object read)]
              cases rest with
              | nil => exact .of_object read rfl
              | cons next others =>
                  have further := inductionHypothesis
                    (List.cons_ne_nil next others) target between
                  rwa [← bind_ok (stepInto_object read) fun next' =>
                    walkPath path next' (next :: others)] at further

/-! What follows the head of a dotted name. -/

section Head

variable {name first rest : String}

theorem resolveVariablePath_error
    {stop : Stop}
    (split : Path.splitFirst name = (first, rest))
    (headed : pathHead first calls session = .error stop between) :
    resolveVariablePath name calls session = .error stop between := by
  rw [resolveVariablePath, split]
  exact bind_error headed _

theorem resolveVariablePath_other
    (split : Path.splitFirst name = (first, rest))
    (headed : pathHead first calls session = .ok value between)
    (noObject : value.handle? = none) :
    resolveVariablePath name calls session =
      .error (.fault (.unresolvedPath name first)) between := by
  rw [resolveVariablePath, split]
  refine (bind_ok headed _).trans ?_
  cases value with
  | object handle => cases noObject
  | _ => rfl

/-- An empty rest ends at the head. -/
theorem resolveVariablePath_head
    (split : Path.splitFirst name = (first, ""))
    (headed :
      pathHead first calls session = .ok (.object target) between) :
    resolveVariablePath name calls session =
      .ok (.object target) between := by
  rw [resolveVariablePath, split]
  exact (bind_ok headed _).trans rfl

/-- Any other rest is followed from there. -/
theorem resolveVariablePath_rest
    (split : Path.splitFirst name = (first, rest))
    (headed :
      pathHead first calls session = .ok (.object target) between)
    (nonempty : rest ≠ "") :
    resolveVariablePath name calls session =
      resolvePath target rest calls between := by
  have notEmpty : rest.isEmpty = false := by
    simpa using nonempty
  rw [resolveVariablePath, split]
  refine (bind_ok headed _).trans ?_
  dsimp only
  rw [notEmpty]
  rfl

end Head

/--
How a read goes on from the object that the path of a dotted name leads to: with
the last segment, except that an empty rest behind the first dot counts for
nothing.
-/
def beyond
    (path member : String)
    (target : Handle) :
    Act σ Value :=
  if Path.isDotted path then
    if (Path.splitFirst path).2 = "" then
      resolvePath target ("." ++ member)
    else
      getMember target member
  else if member = "" then
    return .object target
  else
    getMember target member

/-- From a head alone a read goes on with the last segment. -/
theorem resolveVariablePath_furthers_single
    {path member : String}
    (dotted : Path.isDotted path = false)
    (single : Path.isDotted member = false)
    (headed :
      pathHead path calls session = .ok (.object target) between) :
    Furthers calls (beyond path member)
      (resolveVariablePath path calls session)
      (resolveVariablePath (path ++ "." ++ member) calls session) := by
  have long := Path.splitFirst_joined dotted member
  refine .of_object
    (resolveVariablePath_head (Path.splitFirst_of_not_dotted dotted) headed)
    ?_
  rw [beyond, dotted, if_neg Bool.false_ne_true]
  by_cases empty : member = ""
  · subst empty
    exact resolveVariablePath_head long headed
  · rw [if_neg empty, resolveVariablePath_rest long headed empty,
      resolvePath, Path.segments_single single]
    rfl

/-- Behind a dot it goes on from where the rest of the path leads. -/
theorem resolveVariablePath_furthers_dotted
    {path member first rest : String}
    (dotted : Path.isDotted path = true)
    (single : Path.isDotted member = false)
    (short : Path.splitFirst path = (first, rest))
    (headed :
      pathHead first calls session = .ok (.object target) between) :
    Furthers calls (beyond path member)
      (resolveVariablePath path calls session)
      (resolveVariablePath (path ++ "." ++ member) calls session) := by
  have long := Path.splitFirst_joined_dotted dotted member
  rw [short] at long
  rw [resolveVariablePath_rest long headed (by simp)]
  by_cases empty : rest = ""
  · subst empty
    refine .of_object (resolveVariablePath_head short headed) ?_
    rw [beyond, dotted, if_pos rfl, short, if_pos rfl]
    rfl
  · have sameNext :
        (beyond path member : Handle → Act σ Value) =
          (getMember · member) := by
      funext target
      rw [beyond, dotted, if_pos rfl, short, if_neg empty]
    rw [resolveVariablePath_rest short headed empty, resolvePath,
      resolvePath, Path.segments_joined rest single, sameNext]
    exact walkPath_furthers rest _ member (Path.segments_ne_nil rest) target
      calls between

/-- A path and a last segment are read by going further from the path. -/
theorem resolveVariablePath_furthers
    (path : String)
    {member : String}
    (single : Path.isDotted member = false)
    (calls : Calls σ)
    (session : Session σ) :
    Furthers calls (beyond path member)
      (resolveVariablePath path calls session)
      (resolveVariablePath (path ++ "." ++ member) calls session) := by
  obtain ⟨first, rest, short⟩ : ∃ first rest,
      Path.splitFirst path = (first, rest) :=
    ⟨_, _, rfl⟩
  obtain ⟨further, long⟩ : ∃ further,
      Path.splitFirst (path ++ "." ++ member) = (first, further) := by
    cases dotted : Path.isDotted path with
    | true =>
        rw [Path.splitFirst_joined_dotted dotted, short]
        exact ⟨_, rfl⟩
    | false =>
        rw [Path.splitFirst_of_not_dotted dotted] at short
        cases short
        exact ⟨_, Path.splitFirst_joined dotted _⟩
  cases headed : pathHead first calls session with
  | error stop between =>
      have failed := resolveVariablePath_error short headed
      refine .of_error failed fun unresolved => ?_
      rw [resolveVariablePath_error long headed, ← failed]
      exact unresolved
  | ok value between =>
      cases handle : value.handle? with
      | none =>
          exact .of_error (resolveVariablePath_other short headed handle)
            fun _ => ⟨_, _, _, resolveVariablePath_other long headed handle⟩
      | some target =>
          obtain rfl : value = .object target :=
            Value.eq_object_of_handle? handle
          cases dotted : Path.isDotted path with
          | false =>
              rw [Path.splitFirst_of_not_dotted dotted] at short
              cases short
              exact resolveVariablePath_furthers_single dotted single headed
          | true =>
              exact resolveVariablePath_furthers_dotted dotted single short
                headed

/-! Writing a dotted name. -/

section Write

variable {path member : String}

theorem setVariable_object
    (single : Path.isDotted member = false)
    (leads :
      resolveVariablePath path calls session =
        .ok (.object target) between) :
    setVariable (path ++ "." ++ member) value calls session =
      setMember target member value calls between := by
  rw [setVariable, Path.splitLast?_joined path single]
  exact (bind_ok leads _).trans rfl

theorem setVariable_error
    {stop : Stop}
    (single : Path.isDotted member = false)
    (failed :
      resolveVariablePath path calls session = .error stop between) :
    setVariable (path ++ "." ++ member) value calls session =
      .error stop between := by
  rw [setVariable, Path.splitLast?_joined path single]
  exact bind_error failed _

end Write

theorem error_of_discard
    {α : Type}
    {act : Act σ α}
    {stop : Stop}
    (failed :
      (discard act : Act σ Unit) calls session = .error stop between) :
    act calls session = .error stop between := by
  cases ran : act calls session with
  | ok result changed =>
      have ended :
          (discard act : Act σ Unit) calls session = .ok () changed :=
        bind_ok ran fun _ => pure ()
      cases ended.symm.trans failed
  | error other changed =>
      have stopped :
          (discard act : Act σ Unit) calls session =
            .error other changed :=
        bind_error ran fun _ => pure ()
      cases stopped.symm.trans failed
      rfl

/-- Only a setter can make a write to a member fail for want of a path. -/
theorem setMember_unresolved
    {member : String}
    (failed : Unresolved (setMember target member value calls session)) :
    ∃ getter setter,
      session.machine.resolve target member =
          .ok (.accessor getter (some setter)) ∧
        Unresolved
          (call (.object setter) (.object target) [value] calls
            session) := by
  obtain ⟨path, segment, after, failed⟩ := failed
  have outcome :=
    Edit.writeMember_outcome session.machine target member value
  generalize ran :
    (Edit.writeMember target member value).run session.machine = result
    at outcome
  cases outcome with
  | dangling gap =>
      rw [setMember_refused ran] at failed
      cases failed
  | noSetter resolved =>
      rw [setMember_refused ran] at failed
      cases failed
  | swallowed live own =>
      rw [setMember_done ran] at failed
      cases failed
  | written live written =>
      rw [setMember_done ran] at failed
      cases failed
  | @setter getter setter resolved =>
      refine ⟨getter, setter, resolved, path, segment, after, ?_⟩
      rw [setMember_setter ran] at failed
      exact error_of_discard failed

/--
A dotted variable is read where it is written.  If the path leads to an object,
a write goes to its member, and a read gives exactly what reading that member
gives.  Where the path is one segment with a dot behind it, or is one segment
and the last one is empty, it does not: there the read takes the empty rest for
no rest.  A write that fails because the path leads nowhere is a read that fails
for the same reason, unless a setter was reached and failed so.
-/
theorem dotted_variable_agrees
    (calls : Calls σ)
    (session : Session σ)
    (path : String)
    {member : String}
    (single : Path.isDotted member = false)
    (value : Value) :
    (∀ target between,
      resolveVariablePath path calls session =
          .ok (.object target) between →
        setVariable (path ++ "." ++ member) value calls session =
            setMember target member value calls between ∧
          (Path.isDotted path = true ∧ (Path.splitFirst path).2 ≠ "" ∨
              Path.isDotted path = false ∧ member ≠ "" →
            getVariable (path ++ "." ++ member) calls session =
              getMember target member calls between) ∧
          (Path.isDotted path = true →
            (Path.splitFirst path).2 = "" →
              getVariable (path ++ "." ++ member) calls session =
                resolvePath target ("." ++ member) calls between) ∧
          (Path.isDotted path = false →
            member = "" →
              getVariable (path ++ "." ++ member) calls session =
                .ok (.object target) between)) ∧
    (Unresolved
        (setVariable (path ++ "." ++ member) value calls session) →
      Unresolved (getVariable (path ++ "." ++ member) calls session) ∨
        ∃ target between getter setter,
          resolveVariablePath path calls session =
              .ok (.object target) between ∧
            between.machine.resolve target member =
                .ok (.accessor getter (some setter)) ∧
              Unresolved
                (call (.object setter) (.object target) [value] calls
                  between)) := by
  have furthers :=
    resolveVariablePath_furthers path single calls session
  have reads :
      (getVariable (path ++ "." ++ member) : Act σ Value) =
        resolveVariablePath (path ++ "." ++ member) := by
    rw [getVariable, if_pos (Path.isDotted_joined path member)]
  rw [reads]
  refine ⟨fun target between leads => ⟨?_, ?_, ?_, ?_⟩, fun failed => ?_⟩
  · exact setVariable_object single leads
  · rintro (⟨dotted, nonempty⟩ | ⟨plain, nonempty⟩)
    · rw [furthers.object target between leads, beyond, dotted, if_pos rfl,
        if_neg nonempty]
    · rw [furthers.object target between leads, beyond, plain,
        if_neg Bool.false_ne_true, if_neg nonempty]
  · intro dotted empty
    rw [furthers.object target between leads, beyond, dotted, if_pos rfl,
      if_pos empty]
  · intro plain empty
    rw [furthers.object target between leads, beyond, plain,
      if_neg Bool.false_ne_true, if_pos empty]
    rfl
  · cases leads : resolveVariablePath path calls session with
    | error stop between =>
        rw [setVariable_error single leads] at failed
        obtain ⟨_, _, _, failed⟩ := failed
        cases failed
        exact .inl (furthers.unresolved ⟨_, _, _, leads⟩)
    | ok found between =>
        cases handle : found.handle? with
        | none => exact .inl (furthers.other found between leads handle)
        | some target =>
            obtain rfl : found = .object target :=
              Value.eq_object_of_handle? handle
            rw [setVariable_object single leads] at failed
            obtain ⟨getter, setter, resolved, called⟩ :=
              setMember_unresolved failed
            exact .inr ⟨target, between, getter, setter, rfl, resolved,
              called⟩

end Act

/--
The global object leads to an object and that to another one.  The first also
has an accessor without a getter.
-/
def Machine.linked : Machine :=
  { Machine.bare .standard 0 with
    heap :=
      Heap.run
        [.alloc
            ((ScriptObject.new none .ordinary).withProperty "a"
              (.plain (.object ⟨2, 0⟩))),
          .alloc .blank,
          .alloc
            (((ScriptObject.new none .ordinary).withProperty "b"
                (.plain (.object ⟨3, 0⟩))).withProperty "locked"
              (.accessors none (some ⟨4, 0⟩))),
          .alloc .blank,
          .alloc (.new none (.function (.native ⟨"locked", .host 0⟩)))] }

/-- A host whose functions fail because a path of theirs leads nowhere. -/
def Host.astray : Host Unit where
  native _ _ _ := .finish (.error (.unresolvedPath "x.y" "x"))
  dispatcher := none

/-- A write and a read by three segments meet, and neither gets past a gap. -/
theorem Act.dotted_variable_agrees_linked :
    Path.isDotted "m" = false ∧
      setVariable "a.b.m" (.integer 5) (Host.astray.calls 2)
          ⟨Machine.linked, ()⟩ =
        setMember ⟨3, 0⟩ "m" (.integer 5) (Host.astray.calls 2)
          ⟨Machine.linked, ()⟩ ∧
      getVariable "a.b.m" (Host.astray.calls 2) ⟨Machine.linked, ()⟩ =
        getMember ⟨3, 0⟩ "m" (Host.astray.calls 2)
          ⟨Machine.linked, ()⟩ ∧
      Unresolved
        (setVariable "a.c.m" (.integer 5) (Host.astray.calls 2)
          ⟨Machine.linked, ()⟩) ∧
      Unresolved
        (getVariable "a.c.m" (Host.astray.calls 2)
          ⟨Machine.linked, ()⟩) := by
  have single : Path.isDotted "m" = false := by
    decide
  have leads :
      resolveVariablePath "a.b" (Host.astray.calls 2)
          ⟨Machine.linked, ()⟩ =
        .ok (.object ⟨3, 0⟩) ⟨Machine.linked, ()⟩ :=
    rfl
  obtain ⟨agrees, -⟩ :=
    dotted_variable_agrees (Host.astray.calls 2) ⟨Machine.linked, ()⟩
      "a.b" single (.integer 5)
  obtain ⟨writes, reads, -, -⟩ := agrees _ _ leads
  obtain ⟨-, fails⟩ :=
    dotted_variable_agrees (Host.astray.calls 2) ⟨Machine.linked, ()⟩
      "a.c" single (.integer 5)
  have failed :
      Unresolved
        (setVariable ("a.c" ++ "." ++ "m") (.integer 5)
          (Host.astray.calls 2) ⟨Machine.linked, ()⟩) :=
    ⟨_, _, _, rfl⟩
  refine ⟨single, writes, reads (.inl (by decide)), failed, ?_⟩
  rcases fails failed with alsoFails | ⟨_, _, _, _, leadsOn, _⟩
  · exact alsoFails
  · cases leadsOn

/--
A read takes an empty last segment for none, and follows one that a write has
passed over.  A setter that fails for want of a path of its own has no
counterpart when its member is read.
-/
theorem Act.dotted_variable_differs_linked :
    (∃ after : Session Unit,
      setVariable "a." (.integer 5) (Host.astray.calls 2)
          ⟨Machine.linked, ()⟩ = .ok () after ∧
        getMember ⟨2, 0⟩ "" (Host.astray.calls 2) after =
          .ok (.integer 5) after ∧
        getVariable "a." (Host.astray.calls 2) after =
          .ok (.object ⟨2, 0⟩) after) ∧
    (∃ after : Session Unit,
      setVariable "a..m" (.integer 5) (Host.astray.calls 2)
          ⟨Machine.linked, ()⟩ = .ok () after ∧
        getMember ⟨2, 0⟩ "m" (Host.astray.calls 2) after =
          .ok (.integer 5) after ∧
        Unresolved (getVariable "a..m" (Host.astray.calls 2) after)) ∧
    Unresolved
      (setVariable "a.locked" (.integer 5) (Host.astray.calls 2)
        ⟨Machine.linked, ()⟩) ∧
    getVariable "a.locked" (Host.astray.calls 2) ⟨Machine.linked, ()⟩ =
      .error (.fault (.noGetter "locked")) ⟨Machine.linked, ()⟩ := by
  refine ⟨⟨_, rfl, rfl, rfl⟩, ⟨_, rfl, rfl, _, _, _, rfl⟩,
    ⟨_, _, _, rfl⟩, rfl⟩

end MovieScript
