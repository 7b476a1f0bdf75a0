import MovieScript.Proofs.ObservedRun

namespace MovieScript

/-!
# When intervals fire

Whatever a host does, the firings of one registration, each of them a call of
its callback, are at least its period apart, ticks inside of callbacks and a
clock that goes back included.  A tick may well fire an interval that was
registered after it began, but only under a name that was taken then, and only
without a period or after the clock was set back.
-/

variable {σ α : Type}

/-- The outcome of an observed run without its history. -/
def forget :
    EStateM.Result Stop (Session (Observed σ)) α →
      EStateM.Result Stop (Session σ) α
  | .ok result session =>
      .ok result ⟨session.machine, session.host.own⟩
  | .error stop session =>
      .error stop ⟨session.machine, session.host.own⟩

namespace Host

/-- What happens to the intervals while the host runs a program. -/
def history
    (host : Host σ)
    (fuel : Nat)
    (program : Program σ α)
    (session : Session σ) :
    List Occurrence :=
  (remaining (host.observe fuel program session)).host.past

/-- Observing a run makes no difference to it. -/
theorem forget_observe
    (host : Host σ)
    (fuel : Nat)
    (program : Program σ α)
    (session : Session σ) :
    forget (host.observe fuel program session) =
      host.perform fuel program session := by
  have alike := host.observe_alike fuel program session
  generalize host.perform fuel program session = outcome at alike
  generalize host.observe fuel program session = observed at alike
  cases alike with
  | ok result tells => rw [forget, tells.machine, tells.own]
  | fault fault tells => rw [forget, tells.machine, tells.own]
  | outOfFuel tells => rw [forget, tells.machine, tells.own]

/-- The history accounts for what the run has made of the intervals. -/
theorem accounts_history
    (host : Host σ)
    (fuel : Nat)
    (program : Program σ α)
    (session : Session σ) :
    Accounts session.machine.intervals
      (host.history fuel program session)
      (remaining (host.perform fuel program session)).machine.intervals := by
  have alike := host.observe_alike fuel program session
  rw [history]
  generalize host.perform fuel program session = outcome at alike
  generalize host.observe fuel program session = observed at alike
  cases alike with
  | ok result tells => exact tells.accounts
  | fault fault tells => exact tells.accounts
  | outOfFuel tells => exact tells.accounts

/--
The first firing of a registration comes at least one period after it, and each
further one at least one period after the one before.
-/
theorem firings_spaced
    (host : Host σ)
    (fuel : Nat)
    (program : Program σ α)
    (session : Session σ) :
    forget (host.observe fuel program session) =
        host.perform fuel program session ∧
      Accounts session.machine.intervals
        (host.history fuel program session)
        (remaining
          (host.perform fuel program session)).machine.intervals ∧
      ∀ name period time later,
        Since session.machine.intervals name period time
            (host.history fuel program session) later →
          0 < period →
            (time :: firings name later).IsChain
              (fun earlier next => earlier + period ≤ next) :=
  ⟨host.forget_observe fuel program session,
    host.accounts_history fuel program session,
    fun _ _ _ _ since positive =>
      (host.accounts_history fuel program session).spaced since positive⟩

/-- A native function that moves the clock and ticks, but only once. -/
def nesting : Host Bool where
  native _ _ _ := do
    if ← .withHost fun nested => (nested, true) then
      return .complete .undefined
    else
      .perform (.setClock 35)
      discard (.perform .tick)
      return .complete .undefined
  dispatcher := none

/-- Two intervals are due; the third object is a native function. -/
def twoDue : Machine :=
  let interval : Interval :=
    { period := 10, callback := ⟨2, 0⟩, receiver := .undefined,
      arguments := [], lastFire := 0 }
  { Machine.bare .standard 0 with
    heap :=
      Heap.run
        [.alloc .blank, .alloc .blank,
          .alloc (.new none (.function (.native ⟨"callback", .host 0⟩)))]
    intervals := (Table.empty.insert "a" interval).insert "b" interval
    clock := 10 }

/-- One interval is replaced, and the clock goes back between two ticks. -/
def ticking : Program Bool Unit := do
  .perform (.createInterval "a" 10 (.object ⟨2, 0⟩) .undefined [])
  .perform (.setClock 20)
  discard (.perform .tick)
  .perform (.setClock 30)
  discard (.perform .tick)

/-- A tick inside of a callback fires once more what the outer tick fired. -/
theorem firings_spaced_nesting :
    let later : List Occurrence :=
      [.tickBegan 20 ["a", "b"], .fired 1 "a" 20 ⟨2, 0⟩,
        .tickBegan 35 ["a", "b"], .fired 3 "a" 35 ⟨2, 0⟩,
        .fired 3 "b" 35 ⟨2, 0⟩, .tickBegan 30 ["a", "b"]]
    nesting.history 5 ticking ⟨twoDue, false⟩ =
        .registered "a" 10 10 :: later ∧
      firings "a" later = [20, 35] ∧
        (10 :: firings "a" later).IsChain
          (fun earlier next => earlier + 10 ≤ next) := by
  intro later
  have whole :
      nesting.history 5 ticking ⟨twoDue, false⟩ =
        .registered "a" 10 10 :: later := by
    decide +kernel
  have spaced :=
    (firings_spaced nesting 5 ticking ⟨twoDue, false⟩).2.2 "a" 10 10 later
      (.inr ⟨[], whole⟩) (by decide)
  exact ⟨whole, by decide +kernel, spaced⟩

/--
A registration that is made after a tick has begun is fired by that tick only
under a name that was registered when the tick began, and only without a period
or if the clock was set back by a whole period.
-/
theorem registration_fired_by_same_tick
    (host : Host σ)
    (fuel : Nat)
    (program : Program σ α)
    (session : Session σ) :
    forget (host.observe fuel program session) =
        host.perform fuel program session ∧
      Accounts session.machine.intervals
        (host.history fuel program session)
        (remaining
          (host.perform fuel program session)).machine.intervals ∧
      ∀ before now names between name period time later moment callback,
        host.history fuel program session =
            before ++ .tickBegan now names ::
              (between ++ .registered name period time :: later) →
          .fired before.length name moment callback ∈ lifetime name later →
            name ∈ names ∧ moment = now ∧
              (period = 0 ∨ time + period ≤ now) := by
  have accounts := host.accounts_history fuel program session
  refine ⟨host.forget_observe fuel program session, accounts, ?_⟩
  intro before now names between name period time later moment callback
    split fires
  rw [split] at accounts
  obtain ⟨member, sameTime, waited⟩ := accounts.fired_within fires
  exact ⟨member, sameTime, (Nat.eq_zero_or_pos period).imp id waited⟩

/-- A native function that sets the clock and registers an interval. -/
def renewing (time period : Nat) : Host Unit where
  native _ _ _ := do
    .perform (.setClock time)
    .perform
      (.createInterval "b" period (.object ⟨2, 0⟩) .undefined [])
    return .complete .undefined
  dispatcher := none

/-- The clock is set back, and the interval that is replaced fires at once. -/
theorem registration_fired_by_same_tick_renewing :
    (renewing 0 10).history 5 (.perform .tick) ⟨twoDue, ()⟩ =
        [.tickBegan 10 ["a", "b"], .fired 0 "a" 10 ⟨2, 0⟩,
          .registered "b" 10 0, .fired 0 "b" 10 ⟨2, 0⟩,
          .registered "b" 10 0] ∧
      "b" ∈ ["a", "b"] ∧ (10 = 0 ∨ 0 + 10 ≤ 10) := by
  have whole :
      (renewing 0 10).history 5 (.perform .tick) ⟨twoDue, ()⟩ =
        [.tickBegan 10 ["a", "b"], .fired 0 "a" 10 ⟨2, 0⟩,
          .registered "b" 10 0, .fired 0 "b" 10 ⟨2, 0⟩,
          .registered "b" 10 0] := by
    decide +kernel
  have fired :=
    (registration_fired_by_same_tick (renewing 0 10) 5 (.perform .tick)
      ⟨twoDue, ()⟩).2.2 [] 10 ["a", "b"] [.fired 0 "a" 10 ⟨2, 0⟩] "b" 10 0
      [.fired 0 "b" 10 ⟨2, 0⟩, .registered "b" 10 0] 10 ⟨2, 0⟩ whole
      (by decide +kernel)
  exact ⟨whole, fired.1, fired.2.2⟩

/-- Without a period the interval that is replaced fires in the same tick. -/
theorem registration_fired_renewing :
    (∃ after,
      (renewing 10 0).perform 5 (.perform .tick) ⟨twoDue, ()⟩ =
        .ok 2 after) ∧
      (renewing 10 0).history 5 (.perform .tick) ⟨twoDue, ()⟩ =
        [.tickBegan 10 ["a", "b"], .fired 0 "a" 10 ⟨2, 0⟩,
          .registered "b" 0 10, .fired 0 "b" 10 ⟨2, 0⟩,
          .registered "b" 0 10] := by
  have answered :
      answer? ((renewing 10 0).perform 5 (.perform .tick) ⟨twoDue, ()⟩) =
        some 2 := by
    decide +kernel
  exact ⟨⟨_, answer?_eq_some answered⟩, by decide +kernel⟩

end Host

end MovieScript
