import Mathlib.Data.List.Chain
import Mathlib.Data.List.Infix
import Mathlib.Data.List.TakeWhile
import MovieScript.Interval
import MovieScript.Proofs.Tables

namespace MovieScript

/-!
# Histories of intervals

What happens to the intervals in the course of a run is a list of occurrences,
oldest first.  A history accounts for a table of intervals if its occurrences
lead from the first table to it, one by one, and nothing is fired before it is
due.  From such an account alone it follows how the firings of one registration
are spaced and which registrations a tick can fire.
-/

/-- Something that happens to the intervals. -/
inductive Occurrence where
  /-- An interval is registered at a time. -/
  | registered (name : String) (period time : Nat)
  /-- The interval of a name is removed, if there is one. -/
  | cleared (name : String)
  /-- All intervals are removed. -/
  | emptied
  /-- A tick begins at a time, when these names are registered. -/
  | tickBegan (time : Nat) (names : List String)
  /--
  The tick that began at a place of the history calls the function of an
  interval.
  -/
  | fired (tick : Nat) (name : String) (time : Nat) (callback : Handle)
  deriving Repr, DecidableEq

namespace Occurrence

/-- A registration of the name is over when this happens. -/
def ends (name : String) : Occurrence → Bool
  | .registered other _ _ => other = name
  | .cleared other => other = name
  | .emptied => true
  | .tickBegan _ _ => false
  | .fired _ _ _ _ => false

/-- The time at which the interval of the name is fired. -/
def firing? (name : String) : Occurrence → Option Nat
  | .fired _ other time _ => if other = name then some time else none
  | _ => none

theorem firing?_eq_some_iff
    {name : String}
    {occurrence : Occurrence}
    {time : Nat} :
    occurrence.firing? name = some time ↔
      ∃ tick callback, occurrence = .fired tick name time callback := by
  constructor
  · intro fires
    cases occurrence with
    | fired tick other moment callback =>
        obtain ⟨same, given⟩ := Option.ite_none_right_eq_some.mp fires
        rw [same, Option.some.inj given]
        exact ⟨tick, callback, rfl⟩
    | _ => cases fires
  · rintro ⟨tick, callback, rfl⟩
    exact if_pos rfl

end Occurrence

/-- What happens until a registration of the name is over. -/
def lifetime (name : String) (later : List Occurrence) : List Occurrence :=
  later.takeWhile fun occurrence => !occurrence.ends name

/-- The times at which one registration of the name is fired. -/
def firings (name : String) (later : List Occurrence) : List Nat :=
  (lifetime name later).filterMap (·.firing? name)

section Lifetimes

variable {name : String} {later : List Occurrence}

/-- The registration of the name lasts through these occurrences. -/
def Lasts (name : String) (later : List Occurrence) : Prop :=
  ∀ occurrence ∈ later, occurrence.ends name = false

theorem lifetime_eq_of_lasts (lasts : Lasts name later) :
    lifetime name later = later := by
  refine List.takeWhile_eq_self_iff.mpr fun occurrence member => ?_
  rw [lasts occurrence member]
  rfl

theorem lifetime_concat_of_lasts
    (lasts : Lasts name later)
    (last : Occurrence) :
    lifetime name (later ++ [last]) =
      later ++ lifetime name [last] := by
  refine List.takeWhile_append_of_pos fun occurrence member => ?_
  rw [lasts occurrence member]
  rfl

theorem firings_of_lasts (lasts : Lasts name later) :
    firings name later = later.filterMap (·.firing? name) := by
  rw [firings, lifetime_eq_of_lasts lasts]

/-- One more occurrence while the registration lasts. -/
theorem firings_concat_of_lasts
    (lasts : Lasts name later)
    (last : Occurrence) :
    firings name (later ++ [last]) =
      firings name later ++ (last.firing? name).toList := by
  rw [firings_of_lasts lasts, firings, lifetime_concat_of_lasts lasts,
    List.filterMap_append]
  congr 1
  cases fires : last.firing? name with
  | some time =>
      obtain ⟨tick, callback, rfl⟩ :=
        Occurrence.firing?_eq_some_iff.mp fires
      simp [lifetime, Occurrence.ends, fires]
  | none =>
      rw [List.filterMap_eq_nil_iff.mpr]
      · rfl
      · intro occurrence member
        have same :=
          List.mem_singleton.mp ((List.takeWhile_subset _) member)
        rw [same, fires]

/-- Nothing counts any more when the registration is over. -/
theorem firings_concat_of_not_lasts
    (ended : ¬Lasts name later)
    (last : Occurrence) :
    firings name (later ++ [last]) = firings name later := by
  have shorter :
      (later.takeWhile fun occurrence => !occurrence.ends name).length ≠
        later.length := by
    intro sameLength
    refine ended fun occurrence member => ?_
    have whole := (List.takeWhile_prefix _).eq_of_length sameLength
    have kept := List.takeWhile_eq_self_iff.mp whole occurrence member
    simpa using kept
  rw [firings, lifetime, List.takeWhile_append, if_neg shorter]
  rfl

end Lifetimes

/--
What an occurrence makes of the table of intervals.  A tick begins with the
names that are registered, and fires only intervals of those names, if they are
due at the time it began; it calls the function that the interval has then.
-/
inductive Leads
    (past : List Occurrence)
    (table : Table String Interval) :
    Occurrence → Table String Interval → Prop where
  | registered (name : String) (interval : Interval) :
      Leads past table
        (.registered name interval.period interval.lastFire)
        (table.insert name interval)
  | cleared (name : String) :
      Leads past table (.cleared name) (table.erase name)
  | emptied : Leads past table .emptied .empty
  | tickBegan (time : Nat) :
      Leads past table (.tickBegan time table.keys) table
  | fired (tick : Nat) (name : String) (time : Nat)
      (names : List String) (interval : Interval) :
      past[tick]? = some (.tickBegan time names) →
        name ∈ names →
          table.get? name = some interval →
            interval.isDue time = true →
              Leads past table
                (.fired tick name time interval.callback)
                (table.insert name { interval with lastFire := time })

/-- The history accounts for what became of the first table of intervals. -/
inductive Accounts
    (start : Table String Interval) :
    List Occurrence → Table String Interval → Prop where
  | start : Accounts start [] start
  | concat {past : List Occurrence} {last : Occurrence}
      {table changed : Table String Interval} :
      Accounts start past table →
        Leads past table last changed →
          Accounts start (past ++ [last]) changed

/--
A registration of the name with this period and time is followed by the later
occurrences.  It was there at the start or was made in the course of the
history.
-/
def Since
    (start : Table String Interval)
    (name : String)
    (period time : Nat)
    (past later : List Occurrence) :
    Prop :=
  (past = later ∧
    ∃ interval,
      start.get? name = some interval ∧
        interval.period = period ∧ interval.lastFire = time) ∨
  ∃ earlier, past = earlier ++ .registered name period time :: later

/-- What the table holds for the name while a registration is in force. -/
structure InForce
    (name : String)
    (period time : Nat)
    (later : List Occurrence)
    (table : Table String Interval)
    (interval : Interval) :
    Prop where
  found : table.get? name = some interval
  period : interval.period = period
  /-- The last firing, or the registration before the first. -/
  last : (time :: firings name later).getLast? = some interval.lastFire

section Accounts

variable {start table changed : Table String Interval}
variable {name : String} {period time : Nat}
variable {past later : List Occurrence} {last : Occurrence}

/-- The last occurrence is the registration itself or follows it. -/
theorem Since.of_concat
    (since : Since start name period time (past ++ [last]) later) :
    (later = [] ∧ last = .registered name period time) ∨
      ∃ before,
        later = before ++ [last] ∧
          Since start name period time past before := by
  rcases since with ⟨rfl, fromStart⟩ | ⟨earlier, split⟩
  · exact .inr ⟨past, rfl, .inl ⟨rfl, fromStart⟩⟩
  · rcases later.eq_nil_or_concat' with rfl | ⟨before, final, rfl⟩
    · obtain ⟨-, sameLast⟩ := List.append_inj' split rfl
      exact .inl ⟨rfl, List.singleton_inj.mp sameLast⟩
    · rw [← List.cons_append, ← List.append_assoc] at split
      obtain ⟨samePast, sameLast⟩ := List.append_inj' split rfl
      obtain rfl := List.singleton_inj.mp sameLast
      exact .inr ⟨before, rfl, .inr ⟨earlier, samePast⟩⟩

/-- An occurrence that does not concern the name leaves it in force. -/
theorem InForce.concat
    {interval : Interval}
    (inForce : InForce name period time later table interval)
    (lasts : Lasts name later)
    (silent : last.firing? name = none)
    (same : changed.get? name = table.get? name) :
    InForce name period time (later ++ [last]) changed interval := by
  refine ⟨same.trans inForce.found, inForce.period, ?_⟩
  rw [firings_concat_of_lasts lasts, silent, Option.toList_none,
    List.append_nil]
  exact inForce.last

/-- A registration is in force at once. -/
theorem Leads.inForce
    (leads : Leads past table (.registered name period time) changed) :
    ∃ interval, InForce name period time [] changed interval := by
  cases leads with
  | registered _ interval =>
      exact ⟨interval, by rw [Table.get?_insert, if_pos rfl], rfl, rfl⟩

/-- One occurrence that does not end a registration leaves one in force. -/
theorem InForce.step
    {interval : Interval}
    (inForce : InForce name period time later table interval)
    (lasts : Lasts name later)
    (leads : Leads past table last changed)
    (goesOn : last.ends name = false) :
    ∃ held, InForce name period time (later ++ [last]) changed held := by
  cases leads with
  | registered other replacement =>
      have different : name ≠ other :=
        Ne.symm (of_decide_eq_false goesOn)
      refine ⟨interval, inForce.concat lasts rfl ?_⟩
      rw [Table.get?_insert, if_neg different]
  | cleared other =>
      have different : name ≠ other :=
        Ne.symm (of_decide_eq_false goesOn)
      refine ⟨interval, inForce.concat lasts rfl ?_⟩
      rw [Table.get?_erase, if_neg different]
  | emptied => cases goesOn
  | tickBegan moment =>
      exact ⟨interval, inForce.concat lasts rfl rfl⟩
  | fired tick other moment names due _ _ found _ =>
      by_cases same : other = name
      · subst same
        obtain rfl := Option.some.inj (inForce.found.symm.trans found)
        have fires :
            (Occurrence.fired tick other moment interval.callback).firing?
                other =
              some moment :=
          if_pos rfl
        refine ⟨{ interval with lastFire := moment }, ?_,
          inForce.period, ?_⟩
        · rw [Table.get?_insert, if_pos rfl]
        · rw [firings_concat_of_lasts lasts, fires, ← List.cons_append]
          exact List.getLast?_concat
      · refine ⟨interval, inForce.concat lasts (if_neg same) ?_⟩
        rw [Table.get?_insert, if_neg (Ne.symm same)]

/--
While a registration is in force the table has its interval, whose last firing
is the last one of the history.
-/
theorem Accounts.inForce
    (accounts : Accounts start past table)
    (since : Since start name period time past later)
    (lasts : Lasts name later) :
    ∃ interval, InForce name period time later table interval := by
  induction accounts generalizing later with
  | start =>
      rcases since with ⟨rfl, interval, found, rfl, rfl⟩ | ⟨earlier, split⟩
      · exact ⟨interval, found, rfl, rfl⟩
      · cases earlier <;> cases split
  | concat _ leads inductionHypothesis =>
      rcases since.of_concat with ⟨rfl, rfl⟩ | ⟨before, rfl, earlier⟩
      · exact leads.inForce
      · obtain ⟨lastsBefore, lastsLast⟩ := List.forall_mem_append.mp lasts
        obtain ⟨held, inForce⟩ := inductionHypothesis earlier lastsBefore
        exact inForce.step lastsBefore leads
          (lastsLast _ (List.mem_singleton_self _))

/-- An interval with a period is fired only when its period has passed. -/
theorem Leads.firing
    {interval : Interval}
    {moment : Nat}
    (leads : Leads past table last changed)
    (fires : last.firing? name = some moment)
    (found : table.get? name = some interval)
    (positive : 0 < interval.period) :
    interval.lastFire + interval.period ≤ moment := by
  obtain ⟨tick, callback, rfl⟩ := Occurrence.firing?_eq_some_iff.mp fires
  cases leads with
  | fired _ _ _ names due _ _ foundDue isDue =>
      obtain rfl := Option.some.inj (found.symm.trans foundDue)
      have waited : interval.period ≤ moment - interval.lastFire :=
        of_decide_eq_true isDue
      omega

/-- The firings of one registration are at least its period apart. -/
theorem Accounts.spaced
    (accounts : Accounts start past table)
    (since : Since start name period time past later)
    (positive : 0 < period) :
    (time :: firings name later).IsChain
      (fun earlier next => earlier + period ≤ next) := by
  induction accounts generalizing later with
  | start =>
      rcases since with ⟨rfl, -⟩ | ⟨earlier, split⟩
      · exact .singleton time
      · cases earlier <;> cases split
  | concat accounts leads inductionHypothesis =>
      rcases since.of_concat with ⟨rfl, -⟩ | ⟨before, rfl, earlier⟩
      · exact .singleton time
      · have spacedBefore := inductionHypothesis earlier
        by_cases lasts : Lasts name before
        · obtain ⟨interval, inForce⟩ := accounts.inForce earlier lasts
          rw [firings_concat_of_lasts lasts, ← List.cons_append]
          refine spacedBefore.append ?_ ?_
          · cases Occurrence.firing? name _ with
            | none => exact .nil
            | some moment => exact .singleton moment
          · intro previous isPrevious next isNext
            obtain rfl :=
              Option.some.inj (inForce.last.symm.trans isPrevious)
            have fires := Option.head?_toList ▸ isNext
            rw [← inForce.period]
            exact leads.firing fires inForce.found
              (inForce.period ▸ positive)
        · rw [firings_concat_of_not_lasts lasts]
          exact spacedBefore

theorem Accounts.of_concat
    (accounts : Accounts start (past ++ [last]) changed) :
    ∃ prior, Accounts start past prior ∧ Leads past prior last changed := by
  generalize whole : past ++ [last] = history at accounts
  cases accounts with
  | start => simp at whole
  | concat earlier leads =>
      obtain ⟨rfl, sameLast⟩ := List.append_inj' whole rfl
      obtain rfl := List.singleton_inj.mp sameLast
      exact ⟨_, earlier, leads⟩

/-- Every beginning of an account is an account. -/
theorem Accounts.of_append
    {front rest : List Occurrence}
    (accounts : Accounts start (front ++ rest) table) :
    ∃ prior, Accounts start front prior := by
  induction rest using List.reverseRecOn generalizing table with
  | nil =>
      rw [List.append_nil] at accounts
      exact ⟨table, accounts⟩
  | append_singleton rest last inductionHypothesis =>
      rw [← List.append_assoc] at accounts
      obtain ⟨prior, earlier, -⟩ := accounts.of_concat
      exact inductionHypothesis earlier

/-- Every firing of a registration comes a whole period after it. -/
theorem Accounts.period_passed
    (accounts : Accounts start past table)
    (since : Since start name period time past later)
    (positive : 0 < period)
    {moment : Nat}
    (fires : moment ∈ firings name later) :
    time + period ≤ moment := by
  have : IsTrans Nat (fun earlier next => earlier + period ≤ next) :=
    ⟨fun first second third early late => by omega⟩
  have apart := (accounts.spaced since positive).pairwise
  exact List.rel_of_pairwise_cons apart fires

/-- What precedes a firing of a registration, which lasts until then. -/
theorem exists_of_mem_lifetime
    {occurrence : Occurrence}
    (member : occurrence ∈ lifetime name later) :
    ∃ earlier rest, later = earlier ++ occurrence :: rest := by
  have start : lifetime name later <+: later := List.takeWhile_prefix _
  obtain ⟨tail, whole⟩ := start
  obtain ⟨earlier, rest, split⟩ := List.append_of_mem member
  refine ⟨earlier, rest ++ tail, ?_⟩
  rw [← whole, ← List.cons_append, ← List.append_assoc, ← split]

/--
A registration that is made after a tick has begun is fired by that tick only
under a name that was registered when it began, and only if a whole period lies
between the time of the registration and the time of the tick.
-/
theorem Accounts.fired_within
    {before between : List Occurrence}
    {names : List String}
    {now moment : Nat}
    {callback : Handle}
    (accounts :
      Accounts start
        (before ++ .tickBegan now names ::
          (between ++ .registered name period time :: later))
        table)
    (fires :
      .fired before.length name moment callback ∈ lifetime name later) :
    name ∈ names ∧ moment = now ∧
      (0 < period → time + period ≤ now) := by
  have known : name ∈ names ∧ moment = now := by
    obtain ⟨earlier, rest, rfl⟩ := exists_of_mem_lifetime fires
    let front :=
      before ++ .tickBegan now names ::
        (between ++ .registered name period time :: earlier)
    have upToFiring :
        Accounts start
          ((front ++ [.fired before.length name moment callback]) ++ rest)
          table := by
      simpa [front] using accounts
    obtain ⟨prior, upTo⟩ := upToFiring.of_append
    obtain ⟨_, -, leads⟩ := upTo.of_concat
    have began : front[before.length]? = some (.tickBegan now names) := by
      simp [front]
    cases leads with
    | fired _ _ _ others _ beganThen member _ _ =>
        rw [began] at beganThen
        obtain ⟨rfl, rfl⟩ :=
          Occurrence.tickBegan.inj (Option.some.inj beganThen)
        exact ⟨member, rfl⟩
  obtain ⟨member, rfl⟩ := known
  refine ⟨member, rfl, fun positive => ?_⟩
  have counted : moment ∈ firings name later :=
    List.mem_filterMap.mpr ⟨_, fires, if_pos rfl⟩
  refine accounts.period_passed (.inr ?_) positive counted
  refine ⟨before ++ .tickBegan moment names :: between, ?_⟩
  rw [List.append_assoc, List.cons_append]

end Accounts

end MovieScript
