import MovieScript.Proofs.BoundParameters

namespace MovieScript

/-!
# Values put into registers

The values that a function asks for are looked up in their order, and only that
can fail.  Then they are in their registers, and the frame remembers the array
of the arguments if it is among them.
-/

/-! Looking values up. -/

namespace Act

variable {σ : Type} {calls : Calls σ} {session after : Session σ}
variable {receiver : Value} {arguments values : List Value}

/-- What a preloaded value is, in a call with a receiver and arguments. -/
def lookUp
    (receiver : Value)
    (arguments : List Value) :
    Preload → Act σ Value
  | .receiver => return receiver
  | .arguments => return .object (← Edit.createArray arguments.toArray)
  | .ancestor => ask (·.ancestorOf receiver)
  | .root => return .ofHandle? (← inspect (·.root))
  | .parent =>
      receiver.handle?.elim (return .undefined) (getMember · "_parent")
  | .global => return .object (← inspect (·.global))
  | .external => return .object (← inspect (·.external))

/-- Look the preloaded values up, one after the other. -/
def gather
    (definition : Definition)
    (receiver : Value)
    (arguments : List Value) :
    Act σ (List Value) :=
  (Preload.order.filter definition.flags.preloads).mapM
    (lookUp receiver arguments)

/-- Each item of a list has one result, and what each keeps is kept by all. -/
theorem mapM_eq_ok
    {α β : Type}
    {act : α → Act σ β}
    {list : List α}
    {results : List β}
    (kept : Session σ → Session σ → Prop)
    (refl : ∀ session, kept session session)
    (trans : ∀ {first second third},
      kept first second → kept second third → kept first third)
    (each : ∀ item ∈ list, ∀ {session result changed},
      act item calls session = .ok result changed → kept session changed)
    (ran : list.mapM act calls session = .ok results after) :
    results.length = list.length ∧ kept session after := by
  induction list generalizing session results with
  | nil =>
      cases ran
      exact ⟨rfl, refl _⟩
  | cons first rest inductionHypothesis =>
      obtain ⟨here, later⟩ := List.forall_mem_cons.mp each
      rw [List.mapM_cons] at ran
      obtain ⟨result, between, found, ran⟩ := bind_eq_ok ran
      obtain ⟨others, last, ran, done⟩ := bind_eq_ok ran
      cases done
      obtain ⟨length, keptLater⟩ := inductionHypothesis later ran
      exact ⟨congrArg (· + 1) length, trans (here found) keptLater⟩

theorem length_of_gather
    {definition : Definition}
    (ran :
      gather definition receiver arguments calls session =
        .ok values after) :
    values.length =
      (Preload.order.filter definition.flags.preloads).length :=
  (mapM_eq_ok (fun _ _ => True) (fun _ => trivial) (fun _ _ => trivial)
    (fun _ _ _ _ _ _ => trivial) ran).1

/-- Only reading the parent runs a script. -/
theorem lookUp_scopes
    {kind : Preload}
    {value : Value}
    (still : kind ≠ .parent)
    (ran : lookUp receiver arguments kind calls session = .ok value after) :
    after.machine.scopes = session.machine.scopes := by
  cases kind with
  | parent => exact absurd rfl still
  | ancestor => rw [(ask_eq_ok ran).2]
  | receiver | arguments | root | global | external =>
      cases ran
      rfl

theorem mapM_lookUp_scopes
    {kinds : List Preload}
    (still : .parent ∉ kinds)
    (ran :
      kinds.mapM (lookUp receiver arguments) calls session =
        .ok values after) :
    after.machine.scopes = session.machine.scopes := by
  refine (mapM_eq_ok
    (fun before after => after.machine.scopes = before.machine.scopes)
    (fun _ => rfl) (fun earlier later => later.trans earlier) ?_ ran).2
  intro kind member session value changed found
  exact lookUp_scopes (fun parent => still (parent ▸ member)) found

/-- The values that are looked up before the parent of the receiver. -/
def beforeParent (definition : Definition) : List Preload :=
  [.receiver, .arguments, .ancestor, .root].filter definition.flags.preloads

/--
The script that runs when the parent of the receiver is read, if there is one,
leaves the variables of a scope as they are.
-/
def ParentSpares
    (calls : Calls σ)
    (definition : Definition)
    (receiver : Value)
    (arguments : List Value)
    (scope : ScopeId)
    (session : Session σ) :
    Prop :=
  ∀ handle values before parent after,
    definition.flags.preloads .parent = true →
      receiver = .object handle →
        (beforeParent definition).mapM (lookUp receiver arguments) calls
            session = .ok values before →
          getMember handle "_parent" calls before = .ok parent after →
            after.machine.scopes.own scope =
              before.machine.scopes.own scope

theorem gather_own
    {definition : Definition}
    {scope : ScopeId}
    (spares :
      ParentSpares calls definition receiver arguments scope session)
    (ran :
      gather definition receiver arguments calls session =
        .ok values after) :
    after.machine.scopes.own scope = session.machine.scopes.own scope := by
  have order :
      Preload.order.filter definition.flags.preloads =
        beforeParent definition ++
          ([.parent].filter definition.flags.preloads ++
            [.global, .external].filter definition.flags.preloads) := by
    rw [beforeParent, ← List.filter_append, ← List.filter_append]
    rfl
  have notBefore : .parent ∉ beforeParent definition := by
    simp [beforeParent]
  have notBehind :
      .parent ∉ [.global, .external].filter definition.flags.preloads := by
    simp
  -- Nothing else in the order runs a script, so the rest leaves all scopes.
  rw [gather, order, List.mapM_append, List.mapM_append] at ran
  obtain ⟨earlier, before, front, ran⟩ := bind_eq_ok ran
  obtain ⟨inner, last, ran, done⟩ := bind_eq_ok ran
  cases done
  obtain ⟨parents, between, middle, ran⟩ := bind_eq_ok ran
  obtain ⟨others, last, back, done⟩ := bind_eq_ok ran
  cases done
  rw [mapM_lookUp_scopes notBehind back,
    ← mapM_lookUp_scopes notBefore front]
  by_cases wanted : definition.flags.preloads .parent = true
  · rw [List.filter_cons_of_pos wanted, List.filter_nil, List.mapM_cons]
      at middle
    obtain ⟨parent, between, read, done⟩ := bind_eq_ok middle
    cases done
    cases receiver with
    | object handle => exact spares handle _ _ _ _ wanted rfl front read
    | undefined | null | boolean | integer | float | text =>
        cases read
        rfl
  · rw [List.filter_cons_of_neg wanted] at middle
    cases middle
    rfl

/-- The array of the arguments is made at once, and once only. -/
theorem gather_arguments
    {definition : Definition}
    (wanted : definition.flags.preloads .arguments = true)
    (ran :
      gather definition receiver arguments calls session =
        .ok values after) :
    ∃ handle made,
      (Edit.createArray arguments.toArray).run session.machine =
          .ok handle made ∧
        ((Preload.order.filter definition.flags.preloads).zip values).lookup
            .arguments = some (.object handle) ∧
          ∀ value,
            (.arguments, value) ∈
                (Preload.order.filter definition.flags.preloads).zip
                  values →
              value = .object handle := by
  let later :=
    [.ancestor, .root, .parent, .global, .external].filter
      definition.flags.preloads
  have notLater (others : List Value) (value : Value) :
      (.arguments, value) ∉ later.zip others := by
    intro member
    simpa [later] using (List.of_mem_zip member).1
  obtain ⟨handle, machine, made⟩ : ∃ handle machine,
      (Edit.createArray arguments.toArray).run session.machine =
        .ok handle machine :=
    ⟨_, _, rfl⟩
  have looked :
      lookUp receiver arguments .arguments calls session =
        .ok (.object handle) ⟨machine, session.host⟩ :=
    (bind_ok (lift_ok made) _).trans rfl
  refine ⟨handle, machine, made, ?_⟩
  by_cases also : definition.flags.preloads .receiver = true
  · have order :
        Preload.order.filter definition.flags.preloads =
          .receiver :: .arguments :: later := by
      rw [Preload.order, List.filter_cons_of_pos also,
        List.filter_cons_of_pos wanted]
    rw [gather, order, List.mapM_cons, List.mapM_cons] at ran
    obtain ⟨first, between, found, ran⟩ := bind_eq_ok ran
    cases found
    obtain ⟨rest, last, ran, done⟩ := bind_eq_ok ran
    cases done
    rw [bind_ok looked] at ran
    obtain ⟨others, last, -, done⟩ := bind_eq_ok ran
    cases done
    have apart : (Preload.arguments == Preload.receiver) = false := rfl
    simp [order, List.lookup_cons, apart, notLater]
  · have order :
        Preload.order.filter definition.flags.preloads =
          .arguments :: later := by
      rw [Preload.order, List.filter_cons_of_neg also,
        List.filter_cons_of_pos wanted]
    rw [gather, order, List.mapM_cons] at ran
    rw [bind_ok looked] at ran
    obtain ⟨others, last, -, done⟩ := bind_eq_ok ran
    cases done
    simp [order, notLater]

end Act

/-! Values that are loaded. -/

/-- The array of the arguments is remembered when it is made. -/
def Frame.noting (frame : Frame) (kind : Preload) (value : Value) : Frame :=
  { frame with
    argumentsObject :=
      if kind = .arguments then value.handle? else frame.argumentsObject }

/-- The frame with values in their registers. -/
def Frame.load
    (frame : Frame)
    (wanted : List (Preload × Nat))
    (values : List Value) :
    Frame :=
  { frame with
    registers :=
      writeRegisters frame.registers ((wanted.map Prod.snd).zip values)
    argumentsObject :=
      (((wanted.map Prod.fst).zip values).lookup .arguments).elim
        frame.argumentsObject Value.handle? }

private theorem lookup_zip_eq_none
    {kind : Preload}
    {kinds : List Preload}
    {values : List Value}
    (absent : kind ∉ kinds) :
    (kinds.zip values).lookup kind = none := by
  rw [List.lookup_eq_none_iff]
  rintro ⟨other, value⟩ member
  rw [bne_iff_ne]
  rintro rfl
  exact absent (List.of_mem_zip member).1

theorem Frame.argumentsObject_load
    {wanted : List (Preload × Nat)}
    (absent : .arguments ∉ wanted.map Prod.fst)
    (frame : Frame)
    (values : List Value) :
    (frame.load wanted values).argumentsObject = frame.argumentsObject := by
  rw [load, lookup_zip_eq_none absent]
  rfl

/-- Values are loaded one by one. -/
theorem Frame.load_cons
    {kind : Preload}
    {rest : List (Preload × Nat)}
    (single : kind ∉ rest.map Prod.fst)
    (frame : Frame)
    (register : Nat)
    (value : Value)
    (values : List Value) :
    { frame.noting kind value with
      registers := frame.registers.setIfInBounds register value }.load rest
        values =
      frame.load ((kind, register) :: rest) (value :: values) := by
  unfold load noting
  by_cases array : kind = .arguments
  · subst array
    simp [writeRegisters, lookup_zip_eq_none single]
  · have different : (Preload.arguments == kind) = false := by
      simpa using Ne.symm array
    simp [writeRegisters, array, List.lookup_cons, different]

namespace Act

variable {σ : Type} {calls : Calls σ} {session : Session σ} {frame : Frame}
variable {kind : Preload}

theorem wellKnownValue_eq
    (unmade : kind = .arguments → frame.argumentsObject = none) :
    (wellKnownValue frame kind : Act σ (Value × Frame)) = do
      let value ← lookUp frame.receiver frame.arguments kind
      return (value, frame.noting kind value) := by
  cases kind with
  | receiver => rfl
  | arguments =>
      simp only [wellKnownValue, unmade rfl, lookUp, bind_assoc, pure_bind]
      rfl
  | ancestor => rfl
  | root => rfl
  | parent =>
      have same (value : Value) : frame.noting .parent value = frame := rfl
      cases receives : frame.receiver <;>
        simp [wellKnownValue, lookUp, receives, Value.handle?, same]
  | global => rfl
  | external => rfl

theorem preloadValues_eq
    {wanted : List (Preload × Nat)}
    (distinct : (wanted.map Prod.fst).Nodup)
    (unmade :
      .arguments ∈ wanted.map Prod.fst → frame.argumentsObject = none)
    (inside : ∀ register ∈ wanted.map Prod.snd,
      register < frame.registers.size) :
    (preloadValues frame wanted : Act σ Frame) = do
      let values ←
        (wanted.map Prod.fst).mapM (lookUp frame.receiver frame.arguments)
      return frame.load wanted values := by
  induction wanted generalizing frame with
  | nil => rfl
  | cons first rest inductionHypothesis =>
      obtain ⟨kind, register⟩ := first
      obtain ⟨single, distinct⟩ := List.nodup_cons.mp distinct
      obtain ⟨here, inside⟩ := List.forall_mem_cons.mp inside
      rw [preloadValues, wellKnownValue_eq fun same =>
        unmade (same ▸ List.mem_cons_self)]
      simp only [List.map_cons, List.mapM_cons, bind_assoc, pure_bind]
      apply bind_congr
      intro value
      let loaded :=
        { frame.noting kind value with
          registers := frame.registers.setIfInBounds register value }
      have written :
          (frame.noting kind value).setRegister register value =
            .ok loaded :=
        @Frame.setRegister_inside (frame.noting kind value) register here value
      -- No value is wanted twice, so the array cannot be there too early.
      have stillUnmade (later : .arguments ∈ rest.map Prod.fst) :
          loaded.argumentsObject = none := by
        have other : kind ≠ .arguments := by
          rintro rfl
          exact single later
        exact (if_neg other).trans (unmade (List.mem_cons_of_mem _ later))
      rw [written]
      refine (inductionHypothesis distinct stillUnmade
        (by simpa [loaded] using inside)).trans ?_
      simp only [loaded, Frame.load_cons single]
      rfl

end Act

end MovieScript
