import MovieScript.Proofs.HostBalance
import MovieScript.Proofs.TickTurns

namespace MovieScript

/-!
# Failures of callbacks

A callback that fails is unwound and reported, and the tick goes on.  The report
is all that tells it from a callback that does the same and returns: if none of
the later callbacks looks at the log, the tick fires the same names and leaves
the same intervals.
-/

section Logs

variable {σ : Type}

/-- The same session, the log apart. -/
def SameButLog (session other : Session σ) : Prop :=
  ∃ log, other = ⟨{ session.machine with log := log }, session.host⟩

theorem SameButLog.refl (session : Session σ) : SameButLog session session :=
  ⟨session.machine.log, rfl⟩

end Logs

namespace Act

variable {σ α : Type} {calls : Calls σ} {session other : Session σ}
variable {callbacks : String → Interval → Act σ Value}
variable {now : Nat} {name : String} {names fired : List String}

/-- What the act makes of a session does not depend on the log. -/
def IgnoresLog
    (calls : Calls σ)
    (act : Act σ α)
    (session : Session σ) :
    Prop :=
  ∀ other, SameButLog session other →
    Alike SameButLog (act calls session) (act calls other)

/--
Something holds of every callback of these turns that is due: of its name, of
its interval and of the session that it starts in.
-/
def EachFiring
    (holds : String → Interval → Session σ → Prop)
    (callbacks : String → Interval → Act σ Value)
    (now : Nat)
    (calls : Calls σ) :
    List String → Session σ → Prop
  | [], _ => True
  | name :: rest, session =>
      match session.machine.due? name now with
      | none => EachFiring holds callbacks now calls rest session
      | some interval =>
          let start := ⟨session.machine.firing name now interval, session.host⟩
          holds name interval start ∧
            ∀ next,
              fire name (callbacks name interval) calls start =
                  .ok () next →
                EachFiring holds callbacks now calls rest next

section EachFiring

variable {holds : String → Interval → Session σ → Prop}
variable {rest : List String}

theorem eachFiring_cons_idle
    (idle : session.machine.due? name now = none) :
    EachFiring holds callbacks now calls (name :: rest) session ↔
      EachFiring holds callbacks now calls rest session := by
  rw [EachFiring, idle]

theorem eachFiring_cons_due
    {interval : Interval}
    (due : session.machine.due? name now = some interval) :
    EachFiring holds callbacks now calls (name :: rest) session ↔
      holds name interval
          ⟨session.machine.firing name now interval, session.host⟩ ∧
        ∀ next,
          fire name (callbacks name interval) calls
              ⟨session.machine.firing name now interval, session.host⟩ =
            .ok () next →
          EachFiring holds callbacks now calls rest next := by
  rw [EachFiring, due]

end EachFiring

/-- None of the callbacks of these turns depends on the log. -/
def TurnsIgnoreLog
    (callbacks : String → Interval → Act σ Value)
    (now : Nat)
    (calls : Calls σ) :
    List String → Session σ → Prop :=
  EachFiring
    (fun name interval => IgnoresLog calls (callbacks name interval))
    callbacks now calls

/-- The call of every callback of these turns comes to an end. -/
def CallbacksEnd
    (callbacks : String → Interval → Act σ Value)
    (now : Nat)
    (calls : Calls σ) :
    List String → Session σ → Prop :=
  EachFiring
    (fun name interval start =>
      ∀ stopped,
        callbacks name interval calls start ≠ .error .outOfFuel stopped)
    callbacks now calls

/-- A failure adds to the log, whatever it holds. -/
theorem fire_alike
    (name : String)
    {callback image : Act σ Value}
    (alike :
      Alike SameButLog (callback calls session) (image calls other)) :
    Alike SameButLog (fire name callback calls session)
      (fire name image calls other) := by
  refine alike.attempt.bind ?_
  rintro outcome changed _ - ⟨log, rfl⟩
  cases outcome with
  | ok value => exact .ok () ⟨log, rfl⟩
  | error fault => exact .ok () ⟨_, rfl⟩

/-- Turns whose callbacks do not look at the log are the same for every log. -/
theorem turns_alike
    (same : SameButLog session other)
    (ignored : TurnsIgnoreLog callbacks now calls names session) :
    Alike SameButLog (turns callbacks now names calls session)
      (turns callbacks now names calls other) := by
  induction names generalizing session other with
  | nil => exact .ok [] same
  | cons name rest inductionHypothesis =>
      obtain ⟨log, rfl⟩ := same
      cases due : session.machine.due? name now with
      | none =>
          rw [turns_cons_idle due, turns_cons_idle (by exact due)]
          exact inductionHypothesis ⟨log, rfl⟩
            ((eachFiring_cons_idle due).mp ignored)
      | some interval =>
          rw [turns_cons_due due, turns_cons_due (by exact due)]
          obtain ⟨ignoredHere, ignoredLater⟩ :=
            (eachFiring_cons_due due).mp ignored
          have firedHere :=
            fire_alike name
              (ignoredHere
                ⟨{ session.machine.firing name now interval with log := log },
                  session.host⟩
                ⟨log, rfl⟩)
          refine firedHere.bind fun _ next otherNext ran tied => ?_
          refine (inductionHypothesis tied (ignoredLater next ran)).bind ?_
          exact fun others _ _ _ tied => .ok (name :: others) tied

/--
A function returns normally where the callback of an interval fails, and makes
the same of the session: the frames below are left alone by both, and no result
waits for the host.
-/
def Mends
    (calls : Calls σ)
    (interval : Interval)
    (start : Session σ)
    (function receiver : Value)
    (arguments : List Value) :
    Prop :=
  ∃ fault broken above value log,
    callWithin (.object interval.callback) interval.receiver
        interval.arguments start.machine.depth calls
        ⟨start.machine.entered, start.host⟩ =
      .error (.fault fault) broken ∧
    broken.machine.frames = above ++ start.machine.frames ∧
    calls.invoke function receiver arguments
        ⟨start.machine.entered, start.host⟩ =
      .ok (.complete value)
        ⟨{ broken.machine with
            frames := start.machine.frames
            hostResult := none
            log := log },
          broken.host⟩

theorem callWithin_complete
    {function receiver value : Value}
    {arguments : List Value}
    {base : Nat}
    {changed : Session σ}
    (returned :
      calls.invoke function receiver arguments session =
        .ok (.complete value) changed) :
    callWithin function receiver arguments base calls session =
      .ok value changed := by
  have started :
      invoke function receiver arguments calls session =
        .ok (.complete value) changed :=
    returned
  exact bind_ok started _

theorem fire_of_ok
    (name : String)
    {callback : Act σ Value}
    {value : Value}
    {changed : Session σ}
    (ran : callback calls session = .ok value changed) :
    fire name callback calls session = .ok () changed :=
  bind_ok (attempt_ok ran) _

theorem fire_of_fault
    (name : String)
    {callback : Act σ Value}
    {fault : Fault}
    {changed : Session σ}
    (ran : callback calls session = .error (.fault fault) changed) :
    ∃ log,
      fire name callback calls session =
        .ok () ⟨{ changed.machine with log := log }, changed.host⟩ :=
  ⟨_, bind_ok (attempt_fault ran) _⟩

/-- A tick gets over a callback exactly if its call comes to an end. -/
theorem exists_fire_ok_iff
    (name : String)
    {callback : Act σ Value} :
    (∃ next, fire name callback calls session = .ok () next) ↔
      ∀ stopped, callback calls session ≠ .error .outOfFuel stopped := by
  constructor
  · rintro ⟨next, fired⟩ stopped ran
    rw [fire, bind_error (attempt_outOfFuel ran)] at fired
    cases fired
  · intro ends
    cases ran : callback calls session with
    | ok value changed => exact ⟨changed, fire_of_ok name ran⟩
    | error stop changed =>
        cases stop with
        | fault fault =>
            obtain ⟨log, reported⟩ := fire_of_fault name ran
            exact ⟨_, reported⟩
        | outOfFuel => exact absurd ran (ends changed)

/-- So all turns are taken. -/
theorem exists_turns_ok
    (ends : CallbacksEnd callbacks now calls names session) :
    ∃ fired last,
      turns callbacks now names calls session = .ok fired last := by
  induction names generalizing session with
  | nil => exact ⟨[], session, rfl⟩
  | cons name rest inductionHypothesis =>
      cases due : session.machine.due? name now with
      | none =>
          rw [turns_cons_idle due]
          exact inductionHypothesis ((eachFiring_cons_idle due).mp ends)
      | some interval =>
          obtain ⟨endsHere, endLater⟩ := (eachFiring_cons_due due).mp ends
          obtain ⟨next, firedHere⟩ := (exists_fire_ok_iff name).mpr endsHere
          obtain ⟨others, last, ranRest⟩ :=
            inductionHypothesis (endLater next firedHere)
          refine ⟨name :: others, last, ?_⟩
          rw [turns_cons_due due, bind_ok firedHere, bind_ok ranRest]
          rfl

/-- A failure is unwound to what the normal return leaves. -/
theorem fire_mended
    (name : String)
    {interval : Interval}
    {function receiver : Value}
    {arguments : List Value}
    (mends : Mends calls interval session function receiver arguments) :
    Alike SameButLog
      (fire name (callInterval interval) calls session)
      (fire name (call function receiver arguments) calls session) := by
  obtain ⟨fault, broken, above, value, log, failed, kept, returned⟩ := mends
  rw [callInterval, call_eq, call_eq]
  rcases enterHost_run session.machine with opened | ⟨refusal, noted, shut⟩
  · have unwound :
        broken.machine.frames.drop
            (broken.machine.frames.length - session.machine.depth) =
          session.machine.frames := by
      rw [kept, List.length_append, Machine.depth, Nat.add_sub_cancel,
        List.drop_left]
    obtain ⟨reported, firedFailing⟩ :=
      fire_of_fault name (inHostEntry_fault opened failed)
    rw [firedFailing,
      fire_of_ok name (inHostEntry_ok opened (callWithin_complete returned))]
    refine .ok () ⟨log, ?_⟩
    simp only [Machine.abandoned, Machine.left, Machine.keepFrames, unwound]
  · refine fire_alike name ?_
    rw [inHostEntry_refused shut, inHostEntry_refused shut]
    exact .error _ (.refl _)

/-- The callbacks of a tick, with another one for one of the names. -/
def withCallback
    (name : String)
    (callback : Act σ Value)
    (turn : String) :
    Interval → Act σ Value :=
  if turn = name then
    fun _ => callback
  else
    callInterval

theorem turns_withCallback
    (callback : Act σ Value)
    (absent : name ∉ names) :
    turns (withCallback name callback) now names =
      turns (fun _ => callInterval) now names := by
  refine turns_congr fun turn member => if_neg ?_
  rintro rfl
  exact absent member

/-- The turns are the same if a callback that fails is mended. -/
theorem turns_mended
    {before rest earlier : List String}
    {found : Session σ}
    {interval : Interval}
    {function receiver : Value}
    {arguments : List Value}
    (distinct : (before ++ name :: rest).Nodup)
    (reached :
      turns (fun _ => callInterval) now before calls session =
        .ok earlier found)
    (due : found.machine.due? name now = some interval)
    (mends :
      Mends calls interval
        ⟨found.machine.firing name now interval, found.host⟩
        function receiver arguments)
    (ignored :
      ∀ next,
        fire name (callInterval interval) calls
            ⟨found.machine.firing name now interval, found.host⟩ =
          .ok () next →
        TurnsIgnoreLog (fun _ => callInterval) now calls rest next) :
    Alike SameButLog
      (turns (fun _ => callInterval) now (before ++ name :: rest) calls
        session)
      (turns (withCallback name (call function receiver arguments)) now
        (before ++ name :: rest) calls session) := by
  obtain ⟨-, distinctRest, apart⟩ := List.nodup_append.mp distinct
  have absentBefore : name ∉ before := fun member =>
    apart name member name List.mem_cons_self rfl
  have absentLater : name ∉ rest := (List.nodup_cons.mp distinctRest).1
  have turned :
      Alike SameButLog
        (turns (fun _ => callInterval) now (name :: rest) calls found)
        (turns (withCallback name (call function receiver arguments)) now
          (name :: rest) calls found) := by
    rw [turns_cons_due due, turns_cons_due due,
      turns_withCallback _ absentLater, withCallback, if_pos rfl]
    refine (fire_mended name mends).bind fun _ next _ ran tied => ?_
    refine (turns_alike tied (ignored next ran)).bind ?_
    exact fun others _ _ _ tied => .ok (name :: others) tied
  rw [turns_append, turns_append, turns_withCallback _ absentBefore,
    bind_ok reached, bind_ok reached]
  exact turned.bind fun later _ _ _ tied => .ok (earlier ++ later) tied

/--
What the turn of a name comes to in a tick at this time that fires these names,
from the session that the turn finds.
-/
structure Turn
    (calls : Calls σ)
    (now : Nat)
    (fired : List String)
    (name : String)
    (found : Session σ) :
    Prop where
  /-- The name is fired exactly if it has an interval then that is due. -/
  fired_iff :
    name ∈ fired ↔
      ∃ interval,
        found.machine.intervals.get? name = some interval ∧
          interval.isDue now = true
  /-- When the callback starts, the interval was last fired at this time. -/
  starts : ∀ interval,
    found.machine.due? name now = some interval →
      (found.machine.firing name now interval).intervals.get? name =
          some { interval with lastFire := now } ∧
        ∃ next,
          fire name (callInterval interval) calls
              ⟨found.machine.firing name now interval, found.host⟩ =
            .ok () next

/-- What a tick between frames has done. -/
structure Ticks
    (calls : Calls σ)
    (session : Session σ)
    (fired : List String)
    (after : Session σ) :
    Prop where
  /-- The tick answers with the number of names that it fires. -/
  answer :
    tick calls session = .ok fired.length after ∧
      ∃ last,
        turns (fun _ => callInterval) session.machine.clock
            session.machine.intervals.keys calls session =
          .ok fired last
  inOrder : fired.Sublist session.machine.intervals.keys
  once : fired.Nodup
  turn : ∀ before name rest,
    session.machine.intervals.keys = before ++ name :: rest →
      ∃ earlier found,
        turns (fun _ => callInterval) session.machine.clock before calls
            session =
          .ok earlier found ∧
        Turn calls session.machine.clock fired name found
  /-- A callback that is mended makes no difference. -/
  isolated : ∀ before name rest earlier found interval,
    session.machine.intervals.keys = before ++ name :: rest →
      turns (fun _ => callInterval) session.machine.clock before calls
          session =
        .ok earlier found →
      found.machine.due? name session.machine.clock = some interval →
        ∀ function receiver arguments,
          Mends calls interval
              ⟨found.machine.firing name session.machine.clock interval,
                found.host⟩
              function receiver arguments →
            (∀ next,
              fire name (callInterval interval) calls
                  ⟨found.machine.firing name session.machine.clock interval,
                    found.host⟩ =
                .ok () next →
              TurnsIgnoreLog (fun _ => callInterval) session.machine.clock
                calls rest next) →
              ∃ last other,
                turns
                    (withCallback name (call function receiver arguments))
                    session.machine.clock session.machine.intervals.keys
                    calls session =
                  .ok fired last ∧
                tickWith
                    (withCallback name (call function receiver arguments))
                    calls session =
                  .ok fired.length other ∧
                other.machine.intervals = after.machine.intervals

/-- Every name has its turn after those before it. -/
theorem turn_of_turns
    {before rest : List String}
    {last : Session σ}
    (distinct : (before ++ name :: rest).Nodup)
    (ran :
      turns (fun _ => callInterval) now (before ++ name :: rest) calls
          session =
        .ok fired last) :
    ∃ earlier found,
      turns (fun _ => callInterval) now before calls session =
          .ok earlier found ∧
        Turn calls now fired name found := by
  obtain ⟨-, distinctRest, apart⟩ := List.nodup_append.mp distinct
  rw [turns_append] at ran
  obtain ⟨earlier, found, ranBefore, ran⟩ := bind_eq_ok ran
  obtain ⟨later, between, ranLater, ended⟩ := bind_eq_ok ran
  cases ended
  have notEarlier : name ∉ earlier := fun member =>
    apart name ((turns_sublist ranBefore).subset member) name
      List.mem_cons_self rfl
  refine ⟨earlier, found, ranBefore, ?_⟩
  rcases turns_cons_eq_ok ranLater with
    ⟨idle, ranRest⟩ | ⟨interval, next, others, due, firedHere, -, rfl⟩
  · have notLater : name ∉ later := fun member =>
      (List.nodup_cons.mp distinctRest).1
        ((turns_sublist ranRest).subset member)
    constructor
    · constructor
      · intro member
        exact ((List.mem_append.mp member).elim notEarlier notLater).elim
      · rintro ⟨interval, isDue⟩
        rw [Machine.due?, Option.filter_eq_none_iff] at idle
        exact absurd isDue.2 (idle interval isDue.1)
    · intro interval due
      rw [idle] at due
      cases due
  · constructor
    · constructor
      · exact fun _ => ⟨interval, Option.filter_eq_some_iff.mp due⟩
      · exact fun _ => List.mem_append_right _ List.mem_cons_self
    · intro other dueOther
      obtain rfl := Option.some.inj (due.symm.trans dueOther)
      refine ⟨?_, next, firedHere⟩
      rw [Machine.firing, Table.get?_insert, if_pos rfl]

/--
A tick between frames, whose callbacks may do whatever they like as long as each
of their calls comes to an end, fires each name that is due at its turn once, in
the order of registration, and isolates the failures of callbacks from one
another.  While a frame is live a tick fails and changes nothing.
-/
theorem tick_fires_in_turn
    (calls : Calls σ)
    (session : Session σ) :
    (session.machine.frames ≠ [] →
      tick calls session = .error (.fault .tickWhileRunning) session) ∧
    (session.machine.frames = [] →
      CallbacksEnd (fun _ => callInterval) session.machine.clock calls
          session.machine.intervals.keys session →
        ∃ fired after, Ticks calls session fired after) := by
  refine ⟨fun busy => by rw [tick_eq, tickWith_busy busy], ?_⟩
  intro idle ends
  have distinct : session.machine.intervals.keys.Nodup :=
    session.machine.intervals.distinct
  obtain ⟨fired, last, ran⟩ := exists_turns_ok ends
  obtain ⟨after, answered, sameTable⟩ := tickWith_of_turns idle ran
  refine ⟨fired, after, ⟨by rw [tick_eq, answered], last, ran⟩,
    turns_sublist ran, (turns_sublist ran).nodup distinct, ?_, ?_⟩
  · intro before name rest split
    rw [split] at distinct ran
    exact turn_of_turns distinct ran
  · intro before name rest earlier found interval split reached due
      function receiver arguments mends ignored
    have alike : Alike SameButLog _ _ :=
      turns_mended (split ▸ distinct) reached due mends ignored
    rw [← split, ran] at alike
    obtain ⟨otherLast, ranMended, log, rfl⟩ := alike.of_ok
    obtain ⟨other, answeredMended, sameTableMended⟩ :=
      tickWith_of_turns idle ranMended
    exact ⟨_, other, ranMended, answeredMended,
      sameTableMended.trans sameTable.symm⟩

end Act

namespace Host

/-- An interval of ten milliseconds, registered at the start. -/
def relayInterval (callback : Handle) : Interval :=
  { period := 10, callback := callback, receiver := .undefined,
    arguments := [], lastFire := 0 }

/-- The native functions with these numbers. -/
def relayFunction (number : Nat) : ScriptObject :=
  .new none (.function (.native ⟨"relay", .host number⟩))

/--
The first two native functions clear an interval; the first one runs a frame of
its own then and fails.  The others do nothing.
-/
def relaying : Host Unit where
  native
    | 0, _, _ => do
        discard (.perform (.clearInterval "c"))
        .perform (.pushFrame emptyFrame)
        .perform (.returnFromFrame .null)
        .fail .missingResult
    | 1, _, _ => do
        discard (.perform (.clearInterval "c"))
        return .complete .undefined
    | _, _, _ => return .complete .undefined
  dispatcher := none

/-- Three intervals are due; the native functions follow two plain objects. -/
def relayMachine : Machine :=
  { Machine.bare .standard 0 with
    heap :=
      Heap.run
        [.alloc .blank, .alloc .blank, .alloc (relayFunction 0),
          .alloc (relayFunction 1), .alloc (relayFunction 2)]
    intervals :=
      ((Table.empty.insert "a" (relayInterval ⟨2, 0⟩)).insert "b"
        (relayInterval ⟨4, 0⟩)).insert "c" (relayInterval ⟨4, 0⟩)
    clock := 10 }

/-- The first callback has failed. -/
def relayReported : Machine :=
  let started := relayMachine.firing "a" 10 (relayInterval ⟨2, 0⟩)
  { started with
    intervals := started.intervals.erase "c"
    log :=
      [⟨.warn,
        "interval '" ++ "a" ++ "' failed: " ++ Fault.missingResult.message⟩] }

theorem fire_relaying :
    Act.fire "a" (Act.callInterval (relayInterval ⟨2, 0⟩)) (relaying.calls 5)
        ⟨relayMachine.firing "a" 10 (relayInterval ⟨2, 0⟩), ()⟩ =
      .ok () ⟨relayReported, ()⟩ :=
  rfl

/-- The second callback begins. -/
def relaySecond : Machine :=
  relayReported.firing "b" 10 (relayInterval ⟨4, 0⟩)

/-- The second callback does nothing, whatever the log holds. -/
theorem callInterval_relaying (log : List LogRecord) :
    Act.callInterval (relayInterval ⟨4, 0⟩) (relaying.calls 5)
        ⟨{ relaySecond with log := log }, ()⟩ =
      .ok .undefined ⟨{ relaySecond with log := log }, ()⟩ :=
  rfl

theorem fire_relaySecond :
    Act.fire "b" (Act.callInterval (relayInterval ⟨4, 0⟩)) (relaying.calls 5)
        ⟨relaySecond, ()⟩ =
      .ok () ⟨relaySecond, ()⟩ :=
  Act.fire_of_ok "b" (callInterval_relaying relaySecond.log)

/-- What holds of the second callback holds of all that are left. -/
theorem eachFiring_relayReported
    {holds : String → Interval → Session Unit → Prop}
    (second : holds "b" (relayInterval ⟨4, 0⟩) ⟨relaySecond, ()⟩) :
    Act.EachFiring holds (fun _ => Act.callInterval) 10 (relaying.calls 5)
      ["b", "c"] ⟨relayReported, ()⟩ := by
  have due : relayReported.due? "b" 10 = some (relayInterval ⟨4, 0⟩) := rfl
  refine (Act.eachFiring_cons_due due).mpr ⟨second, fun next ran => ?_⟩
  obtain ⟨-, rfl⟩ := EStateM.Result.ok.inj (fire_relaySecond.symm.trans ran)
  exact (Act.eachFiring_cons_idle rfl).mpr trivial

theorem callbacksEnd_relaying :
    Act.CallbacksEnd (fun _ => Act.callInterval) 10 (relaying.calls 5)
      ["a", "b", "c"] ⟨relayMachine, ()⟩ := by
  have due : relayMachine.due? "a" 10 = some (relayInterval ⟨2, 0⟩) := rfl
  have endsFirst := (Act.exists_fire_ok_iff "a").mp ⟨_, fire_relaying⟩
  have endsSecond := (Act.exists_fire_ok_iff "b").mp ⟨_, fire_relaySecond⟩
  refine (Act.eachFiring_cons_due due).mpr ⟨endsFirst, fun next ran => ?_⟩
  obtain ⟨-, rfl⟩ := EStateM.Result.ok.inj (fire_relaying.symm.trans ran)
  exact eachFiring_relayReported endsSecond

/-- The callbacks after the failure do not look at the log. -/
theorem turnsIgnoreLog_relayReported :
    Act.TurnsIgnoreLog (fun _ => Act.callInterval) 10 (relaying.calls 5)
      ["b", "c"] ⟨relayReported, ()⟩ := by
  refine eachFiring_relayReported ?_
  rintro _ ⟨log, rfl⟩
  have same :
      SameButLog ⟨relaySecond, ()⟩ ⟨{ relaySecond with log := log }, ()⟩ :=
    ⟨log, rfl⟩
  have alike : Alike SameButLog _ _ := .ok Value.undefined same
  rwa [← callInterval_relaying relaySecond.log,
    ← callInterval_relaying log] at alike

/-- One of three callbacks fails and clears the last interval before its turn. -/
theorem tick_fires_in_turn_relaying :
    relayMachine.frames = [] ∧
      Act.CallbacksEnd (fun _ => Act.callInterval) 10 (relaying.calls 5)
          relayMachine.intervals.keys ⟨relayMachine, ()⟩ ∧
        ∃ after,
          Act.Ticks (relaying.calls 5) ⟨relayMachine, ()⟩ ["a", "b"] after ∧
            ∃ other,
              Act.tickWith
                  (Act.withCallback "a"
                    (Act.call (.object ⟨3, 0⟩) .undefined []))
                  (relaying.calls 5) ⟨relayMachine, ()⟩ =
                .ok 2 other ∧
              other.machine.intervals = after.machine.intervals := by
  obtain ⟨fired, after, ticks⟩ :=
    (Act.tick_fires_in_turn (relaying.calls 5) ⟨relayMachine, ()⟩).2 rfl
      callbacksEnd_relaying
  have names :
      answer?
          (Act.turns (fun _ => Act.callInterval) relayMachine.clock
            relayMachine.intervals.keys (relaying.calls 5)
            ⟨relayMachine, ()⟩) =
        some ["a", "b"] := by
    decide +kernel
  obtain ⟨last, ran⟩ := ticks.answer.2
  rw [ran] at names
  obtain rfl := Option.some.inj names
  have mends :
      Act.Mends (relaying.calls 5) (relayInterval ⟨2, 0⟩)
        ⟨relayMachine.firing "a" 10 (relayInterval ⟨2, 0⟩), ()⟩
        (.object ⟨3, 0⟩) .undefined [] :=
    ⟨_, _, [], _, [], rfl, rfl, rfl⟩
  obtain ⟨_, other, _, answered, same⟩ :=
    ticks.isolated [] "a" ["b", "c"] [] ⟨relayMachine, ()⟩
      (relayInterval ⟨2, 0⟩) (by decide +kernel) rfl rfl _ _ _ mends
      fun next ran => by
        obtain ⟨-, rfl⟩ := EStateM.Result.ok.inj (fire_relaying.symm.trans ran)
        exact turnsIgnoreLog_relayReported
  exact ⟨rfl, callbacksEnd_relaying, after, ticks, other, answered, same⟩

/-- Register an interval, if an object is still there to read. -/
def looking : Program Unit Invocation := do
  let _ ← .perform (.getMember ⟨5, 0⟩ "x")
  .perform (.createInterval "c" 10 (.object ⟨4, 0⟩) .undefined [])
  return .complete .undefined

/--
The first two native functions return an object from a frame of their own, and
the first one fails then.  The third one collects garbage and looks whether the
object is still there.
-/
def rooting : Host Unit where
  native
    | 0, _, _ => do
        .perform (.pushFrame emptyFrame)
        .perform (.returnFromFrame (.object ⟨5, 0⟩))
        .fail .missingResult
    | 1, _, _ => do
        .perform (.pushFrame emptyFrame)
        .perform (.returnFromFrame (.object ⟨5, 0⟩))
        return .complete .undefined
    | _, _, _ => do
        let _ ← .perform .collectGarbage
        looking
  dispatcher := none

/-- Nothing holds the last object, and two intervals are due. -/
def rootingMachine : Machine :=
  { Machine.bare .standard 0 with
    heap :=
      Heap.run
        [.alloc .blank, .alloc .blank, .alloc (relayFunction 0),
          .alloc (relayFunction 1), .alloc (relayFunction 2), .alloc .blank]
    intervals :=
      (Table.empty.insert "a" (relayInterval ⟨2, 0⟩)).insert "b"
        (relayInterval ⟨4, 0⟩)
    clock := 10 }

/-- The first callback is over and has left this result and this log. -/
def rootingFirst
    (result : Option Value)
    (log : List LogRecord) :
    Machine :=
  { rootingMachine.firing "a" 10 (relayInterval ⟨2, 0⟩) with
    hostResult := result
    log := log }

/-- The second callback begins. -/
def rootingSecond
    (result : Option Value)
    (log : List LogRecord) :
    Machine :=
  (rootingFirst result log).firing "b" 10 (relayInterval ⟨4, 0⟩)

section Looking

variable {machine : Machine} {calls : Calls Unit}

theorem looking_gone (gone : machine.heap.get? ⟨5, 0⟩ = none) :
    looking.run calls ⟨machine, ()⟩ =
      .error (.fault (.danglingReference ⟨5, 0⟩)) ⟨machine, ()⟩ := by
  have unresolved :
      machine.resolve ⟨5, 0⟩ "x" = .error (.danglingReference ⟨5, 0⟩) := by
    rw [Machine.resolve, Machine.resolveWithin, Machine.object, gone]
    rfl
  rw [looking, Program.run_bind, Program.run_perform]
  exact Act.bind_error (Act.bind_error (Act.ask_refused unresolved) _) _

/-- The machine after the object was found. -/
def lookedAt (machine : Machine) : Machine :=
  { machine with
    intervals :=
      machine.intervals.insert "c"
        { relayInterval ⟨4, 0⟩ with lastFire := machine.clock } }

theorem looking_kept
    (kept : machine.heap.get? ⟨5, 0⟩ = some .blank)
    (function : machine.heap.get? ⟨4, 0⟩ = some (relayFunction 2)) :
    looking.run calls ⟨machine, ()⟩ =
      .ok (.complete .undefined) ⟨lookedAt machine, ()⟩ := by
  have missing : machine.resolve ⟨5, 0⟩ "x" = .ok .missing := by
    rw [Machine.resolve, Machine.resolveWithin, Machine.object, kept]
    change machine.resolveWithin "x" _ none = _
    rw [Machine.resolveWithin]
  have callable :
      machine.toFunction (.object ⟨4, 0⟩) =
        .ok (⟨4, 0⟩, .native ⟨"relay", .host 2⟩) := by
    rw [Machine.toFunction, Machine.object, function]
    rfl
  have read :
      (Request.getMember ⟨5, 0⟩ "x").perform calls ⟨machine, ()⟩ =
        .ok .undefined ⟨machine, ()⟩ := by
    change Act.getMember ⟨5, 0⟩ "x" calls ⟨machine, ()⟩ = _
    rw [Act.getMember, Act.bind_ok (Act.ask_ok missing)]
    rfl
  have registered :
      (Request.createInterval "c" 10 (.object ⟨4, 0⟩) .undefined []).perform
          calls ⟨machine, ()⟩ =
        .ok () ⟨lookedAt machine, ()⟩ := by
    refine Act.lift_ok ?_
    rw [Edit.createInterval, EStateM.run_bind, Edit.ask_run callable]
    rfl
  rw [looking, Program.run_bind, Program.run_perform, Act.bind_ok read,
    Program.run_bind, Program.run_perform]
  exact Act.bind_ok registered _

end Looking

section Rooting

variable (result : Option Value) (log : List LogRecord)

/-- The first callback fails, and its result is forgotten. -/
theorem fire_rooting :
    ∃ log,
      Act.fire "a" (Act.callInterval (relayInterval ⟨2, 0⟩)) (rooting.calls 5)
          ⟨rootingMachine.firing "a" 10 (relayInterval ⟨2, 0⟩), ()⟩ =
        .ok () ⟨rootingFirst none log, ()⟩ :=
  ⟨_, rfl⟩

/-- The other function returns, and its result is still there. -/
theorem fire_rooting_replaced :
    Act.fire "a" (Act.call (.object ⟨3, 0⟩) .undefined []) (rooting.calls 5)
        ⟨rootingMachine.firing "a" 10 (relayInterval ⟨2, 0⟩), ()⟩ =
      .ok () ⟨rootingFirst (some (.object ⟨5, 0⟩)) [], ()⟩ :=
  rfl

/-- Both names have their turns. -/
theorem tickWith_rooting
    (callbacks : String → Interval → Act Unit Value)
    {result : Option Value}
    {log : List LogRecord}
    {last : Session Unit}
    (first :
      Act.fire "a" (callbacks "a" (relayInterval ⟨2, 0⟩)) (rooting.calls 5)
          ⟨rootingMachine.firing "a" 10 (relayInterval ⟨2, 0⟩), ()⟩ =
        .ok () ⟨rootingFirst result log, ()⟩)
    (second :
      Act.fire "b" (callbacks "b" (relayInterval ⟨4, 0⟩)) (rooting.calls 5)
          ⟨rootingSecond result log, ()⟩ =
        .ok () last) :
    ∃ ended,
      Act.tickWith callbacks (rooting.calls 5) ⟨rootingMachine, ()⟩ =
        .ok 2 ended ∧
      ended.machine.intervals = last.machine.intervals := by
  have names : rootingMachine.intervals.keys = ["a", "b"] := by
    decide +kernel
  have due : rootingMachine.due? "a" 10 = some (relayInterval ⟨2, 0⟩) := rfl
  have dueSecond :
      (rootingFirst result log).due? "b" 10 = some (relayInterval ⟨4, 0⟩) :=
    rfl
  have rest :
      Act.turns callbacks 10 ["b"] (rooting.calls 5)
          ⟨rootingFirst result log, ()⟩ =
        .ok ["b"] last :=
    (Act.turns_cons_due dueSecond callbacks []).trans
      (Act.bind_ok second _)
  have ran :
      Act.turns callbacks rootingMachine.clock rootingMachine.intervals.keys
          (rooting.calls 5) ⟨rootingMachine, ()⟩ =
        .ok ["a", "b"] last := by
    rw [names]
    exact (Act.turns_cons_due due callbacks ["b"]).trans
      ((Act.bind_ok first _).trans (Act.bind_ok rest _))
  have idle : (Session.mk rootingMachine ()).machine.frames = [] := rfl
  exact Act.tickWith_of_turns idle ran

/-- The second callback looks after a collection. -/
theorem invoke_rooting :
    (rooting.calls 5).invoke (.object ⟨4, 0⟩) .undefined []
        ⟨(rootingSecond result log).entered, ()⟩ =
      looking.run (rooting.calls 4)
        ⟨(rootingSecond result log).entered.collected, ()⟩ := by
  have started :
      (rooting.calls 5).invoke (.object ⟨4, 0⟩) .undefined []
          ⟨(rootingSecond result log).entered, ()⟩ =
        (Program.perform .collectGarbage >>= fun _ => looking).run
          (rooting.calls 4) ⟨(rootingSecond result log).entered, ()⟩ :=
    rfl
  have collected :
      Request.collectGarbage.perform (rooting.calls 4)
          ⟨(rootingSecond result log).entered, ()⟩ =
        .ok _ ⟨(rootingSecond result log).entered.collected, ()⟩ :=
    Act.lift_ok (Machine.collectGarbage_eq rfl)
  rw [started, Program.run_bind, Program.run_perform]
  exact Act.bind_ok collected _

/-- Without a host result the object is reclaimed. -/
theorem get?_rooting_gone :
    (rootingSecond none []).entered.collected.heap.get? ⟨5, 0⟩ = none := by
  refine Option.not_isSome_iff_eq_none.mp (ne_true_of_eq_false ?_)
  refine Heap.not_contains_collect ?_ ?_ ?_
  · decide +kernel
  · decide +kernel
  · decide +kernel

/-- What is a root keeps its object. -/
theorem get?_rooting_kept
    (handle : Handle)
    (rooted :
      handle ∈ (rootingSecond (some (.object ⟨5, 0⟩)) []).entered.roots)
    (live : rootingMachine.heap.contains handle = true) :
    (rootingSecond (some (.object ⟨5, 0⟩)) []).entered.collected.heap.get?
        handle =
      rootingMachine.heap.get? handle :=
  Heap.get?_collect
    ((Heap.contains_collect_iff _ _ _ _).mpr (.root (.inl rooted) live))

/-- So the second callback fails if no host result is left. -/
theorem fire_rooting_gone :
    let second := rootingSecond none log
    ∃ last : Session Unit,
      Act.fire "b" (Act.callInterval (relayInterval ⟨4, 0⟩)) (rooting.calls 5)
          ⟨second, ()⟩ =
        .ok () last ∧
      last.machine.intervals = second.intervals := by
  intro second
  have opened :
      Edit.enterHost.run second = .ok second.depth second.entered :=
    rfl
  have failed :
      Act.callWithin (.object ⟨4, 0⟩) .undefined [] second.depth
          (rooting.calls 5) ⟨second.entered, ()⟩ =
        .error (.fault (.danglingReference ⟨5, 0⟩))
          ⟨second.entered.collected, ()⟩ :=
    Act.bind_error
      ((invoke_rooting none log).trans (looking_gone get?_rooting_gone)) _
  have abandoned :=
    @Act.inHostEntry_fault _ (Act.callWithin (.object ⟨4, 0⟩) .undefined [])
      (rooting.calls 5) ⟨second, ()⟩ _ _ opened failed
  obtain ⟨reports, reported⟩ := Act.fire_of_fault "b" abandoned
  exact ⟨_, reported, rfl⟩

/-- And it registers its interval if the host result is the object. -/
theorem fire_rooting_kept :
    let second := rootingSecond (some (.object ⟨5, 0⟩)) log
    ∃ last : Session Unit,
      Act.fire "b" (Act.callInterval (relayInterval ⟨4, 0⟩)) (rooting.calls 5)
          ⟨second, ()⟩ =
        .ok () last ∧
      last.machine.intervals = (lookedAt second).intervals := by
  intro second
  have opened :
      Edit.enterHost.run second = .ok second.depth second.entered :=
    rfl
  have kept :=
    get?_rooting_kept ⟨5, 0⟩ (by decide +kernel) (by decide +kernel)
  have function :=
    get?_rooting_kept ⟨4, 0⟩ (by decide +kernel) (by decide +kernel)
  have returned :
      (rooting.calls 5).invoke (.object ⟨4, 0⟩) .undefined []
          ⟨second.entered, ()⟩ =
        .ok (.complete .undefined)
          ⟨lookedAt second.entered.collected, ()⟩ :=
    (invoke_rooting _ log).trans (looking_kept kept function)
  exact ⟨_, Act.fire_of_ok "b"
    (Act.inHostEntry_ok opened (Act.callWithin_complete returned)), rfl⟩

end Rooting

/--
A native function makes the very same of the session as the callback that fails,
and leaves the frames as it found them.  But the result that its own frame has
left for the host still roots an object afterwards, which the next callback does
not find after the failure.
-/
theorem result_kept_rooting :
    ∃ fault broken after other,
      Act.callWithin (.object ⟨2, 0⟩) .undefined [] 0 (rooting.calls 5)
          ⟨(rootingMachine.firing "a" 10 (relayInterval ⟨2, 0⟩)).entered,
            ()⟩ =
        .error (.fault fault) broken ∧
      (rooting.calls 5).invoke (.object ⟨3, 0⟩) .undefined []
          ⟨(rootingMachine.firing "a" 10 (relayInterval ⟨2, 0⟩)).entered,
            ()⟩ =
        .ok (.complete .undefined) broken ∧
      broken.machine.frames = rootingMachine.frames ∧
      Act.tick (rooting.calls 5) ⟨rootingMachine, ()⟩ = .ok 2 after ∧
      Act.tickWith
          (Act.withCallback "a" (Act.call (.object ⟨3, 0⟩) .undefined []))
          (rooting.calls 5) ⟨rootingMachine, ()⟩ =
        .ok 2 other ∧
      after.machine.intervals.keys = ["a", "b"] ∧
      other.machine.intervals.keys = ["a", "b", "c"] := by
  obtain ⟨log, firedFirst⟩ := fire_rooting
  obtain ⟨last, firedSecond, sameIntervals⟩ := fire_rooting_gone log
  obtain ⟨otherLast, firedOther, otherIntervals⟩ := fire_rooting_kept []
  obtain ⟨after, answered, sameTable⟩ :=
    tickWith_rooting (fun _ => Act.callInterval) firedFirst firedSecond
  obtain ⟨other, otherAnswered, otherTable⟩ :=
    tickWith_rooting
      (Act.withCallback "a" (Act.call (.object ⟨3, 0⟩) .undefined []))
      fire_rooting_replaced firedOther
  refine ⟨_, _, after, other, rfl, rfl, rfl, ?_, otherAnswered, ?_, ?_⟩
  · rw [Act.tick_eq, answered]
  · rw [sameTable, sameIntervals]
    rfl
  · rw [otherTable, otherIntervals]
    rfl

end Host

end MovieScript
