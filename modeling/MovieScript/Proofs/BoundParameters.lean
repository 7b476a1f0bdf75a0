import MovieScript.Act.Activation
import MovieScript.Proofs.ActStability
import MovieScript.Proofs.ScopeChains

namespace MovieScript

/-!
# Bound parameters

A call binds each parameter in the register it claims or as a variable of the
new scope.  Registers are written one after the other, and so are variables; of
parameters with one name the last one is seen.
-/

/-! Registers that are written in turn. -/

/-- Write values into registers, one after the other. -/
def writeRegisters (registers : Array Value) :
    List (Nat × Value) → Array Value
  | [] => registers
  | (register, value) :: rest =>
      writeRegisters (registers.setIfInBounds register value) rest

section Registers

variable {registers : Array Value} {writes : List (Nat × Value)}
variable {register : Nat} {value : Value}

@[simp] theorem size_writeRegisters
    (registers : Array Value)
    (writes : List (Nat × Value)) :
    (writeRegisters registers writes).size = registers.size := by
  induction writes generalizing registers with
  | nil => rfl
  | cons first rest inductionHypothesis =>
      rw [writeRegisters, inductionHypothesis, Array.size_setIfInBounds]

theorem getElem?_writeRegisters_other
    (unwritten : register ∉ writes.map Prod.fst) :
    (writeRegisters registers writes)[register]? =
      registers[register]? := by
  induction writes generalizing registers with
  | nil => rfl
  | cons first rest inductionHypothesis =>
      rw [List.map_cons, List.mem_cons, not_or] at unwritten
      rw [writeRegisters, inductionHypothesis unwritten.2,
        Array.getElem?_setIfInBounds_ne (Ne.symm unwritten.1)]

theorem getElem?_writeRegisters
    (distinct : (writes.map Prod.fst).Nodup)
    (written : (register, value) ∈ writes)
    (inside : register < registers.size) :
    (writeRegisters registers writes)[register]? = some value := by
  induction writes generalizing registers with
  | nil => cases written
  | cons first rest inductionHypothesis =>
      obtain ⟨apart, distinct⟩ := List.nodup_cons.mp distinct
      rw [writeRegisters]
      rcases List.mem_cons.mp written with rfl | later
      · rw [getElem?_writeRegisters_other apart]
        exact Array.getElem?_setIfInBounds_self_of_lt inside
      · exact inductionHypothesis distinct later
          (by rwa [Array.size_setIfInBounds])

end Registers

/-! Parameters with their values. -/

namespace Parameter

/-- Each parameter with its argument, or with nothing if that is missing. -/
def withValues : List Parameter → List Value → List (Parameter × Value)
  | [], _ => []
  | parameter :: rest, arguments =>
      (parameter, arguments.headD .undefined) ::
        withValues rest arguments.tail

theorem getElem?_withValues
    (parameters : List Parameter)
    (arguments : List Value)
    (index : Nat) :
    (withValues parameters arguments)[index]? =
      parameters[index]?.map
        fun parameter => (parameter, arguments.getD index .undefined) := by
  induction parameters generalizing arguments index with
  | nil => rfl
  | cons parameter rest inductionHypothesis =>
      cases index with
      | zero => cases arguments <;> rfl
      | succ index =>
          rw [withValues, List.getElem?_cons_succ, inductionHypothesis]
          cases arguments <;> rfl

theorem map_fst_withValues
    (parameters : List Parameter)
    (arguments : List Value) :
    (withValues parameters arguments).map Prod.fst = parameters := by
  induction parameters generalizing arguments with
  | nil => rfl
  | cons parameter rest inductionHypothesis =>
      rw [withValues, List.map_cons, inductionHypothesis]

/-- The registers that are written, with the values. -/
def registerWrites (bound : List (Parameter × Value)) :
    List (Nat × Value) :=
  bound.filterMap fun pair =>
    pair.1.register?.map fun register => (register, pair.2)

theorem map_fst_registerWrites (bound : List (Parameter × Value)) :
    (registerWrites bound).map Prod.fst =
      (bound.map Prod.fst).filterMap register? := by
  rw [registerWrites, List.map_filterMap, List.filterMap_map]
  congr 1
  funext pair
  rw [Function.comp_apply]
  cases pair.1.register? <;> rfl

theorem mem_registerWrites
    {parameters : List Parameter}
    {parameter : Parameter}
    {index register : Nat}
    (declared : parameters[index]? = some parameter)
    (claimed : parameter.register? = some register)
    (arguments : List Value) :
    (register, arguments.getD index .undefined) ∈
      registerWrites (withValues parameters arguments) := by
  have paired := getElem?_withValues parameters arguments index
  rw [declared] at paired
  exact List.mem_filterMap.mpr
    ⟨_, List.mem_of_getElem? paired, by simp [claimed]⟩

/-- The parameter is bound as a variable of a name. -/
def Names (parameter : Parameter) (name : String) : Prop :=
  parameter.register? = none ∧ parameter.name = name

/-- The last parameter that is bound as a variable of a name. -/
def NamesLast
    (parameters : List Parameter)
    (name : String)
    (index : Nat) :
    Prop :=
  (∃ parameter,
      parameters[index]? = some parameter ∧ parameter.Names name) ∧
    ∀ later parameter,
      index < later →
        parameters[later]? = some parameter → ¬parameter.Names name

variable {parameter : Parameter} {rest : List Parameter} {name : String}

theorem namesLast_cons_zero :
    NamesLast (parameter :: rest) name 0 ↔
      parameter.Names name ∧ ∀ other ∈ rest, ¬other.Names name := by
  rw [NamesLast]
  refine and_congr (by simp) ⟨?_, ?_⟩
  · intro last other member
    obtain ⟨index, found⟩ := List.mem_iff_getElem?.mp member
    exact last (index + 1) other (Nat.succ_pos index) found
  · intro none later other behind found
    obtain ⟨index, rfl⟩ := Nat.exists_eq_add_of_lt behind
    rw [Nat.zero_add, List.getElem?_cons_succ] at found
    exact none other (List.mem_of_getElem? found)

theorem namesLast_cons_succ {index : Nat} :
    NamesLast (parameter :: rest) name (index + 1) ↔
      NamesLast rest name index := by
  rw [NamesLast, NamesLast, List.getElem?_cons_succ]
  refine and_congr Iff.rfl ⟨?_, ?_⟩
  · intro last later other behind
    exact last (later + 1) other (Nat.succ_lt_succ behind)
  · intro last later other behind found
    obtain ⟨further, rfl⟩ :=
      Nat.exists_eq_succ_of_ne_zero (Nat.ne_of_gt (Nat.zero_lt_of_lt behind))
    exact last further other (Nat.lt_of_succ_lt_succ behind) found

end Parameter

/-! Variables that are bound in turn. -/

namespace Scopes

variable {all : Scopes} {scope : ScopeId} {bound : List (Parameter × Value)}

/-- Bind the parameters without a register as variables of a scope. -/
def bindNamed (all : Scopes) (scope : ScopeId) :
    List (Parameter × Value) → Scopes
  | [] => all
  | (parameter, value) :: rest =>
      bindNamed
        (parameter.register?.elim
          (all.define scope parameter.name value) fun _ => all)
        scope rest

@[simp] theorem size_bindNamed
    (all : Scopes)
    (scope : ScopeId)
    (bound : List (Parameter × Value)) :
    (all.bindNamed scope bound).scopes.size = all.scopes.size := by
  induction bound generalizing all with
  | nil => rfl
  | cons first rest inductionHypothesis =>
      rw [bindNamed, inductionHypothesis]
      cases first.1.register? with
      | none => exact size_define _ _ _ _
      | some register => rfl

theorem getElem?_bindNamed_other
    {other : ScopeId}
    (different : other ≠ scope) :
    (all.bindNamed scope bound).scopes[other]? = all.scopes[other]? := by
  induction bound generalizing all with
  | nil => rfl
  | cons first rest inductionHypothesis =>
      rw [bindNamed, inductionHypothesis]
      cases first.1.register? with
      | none => simp [define, Array.getElem?_modify, Ne.symm different]
      | some register => rfl

theorem outer?_bindNamed
    (all : Scopes)
    (scope : ScopeId)
    (bound : List (Parameter × Value)) :
    (all.bindNamed scope bound).outer? = all.outer? := by
  induction bound generalizing all with
  | nil => rfl
  | cons first rest inductionHypothesis =>
      rw [bindNamed, inductionHypothesis]
      cases first.1.register? with
      | none => exact outer?_define _ _ _ _
      | some register => rfl

/-- Among parameters of one name the last one is seen. -/
theorem get?_own_bindNamed
    {parameters : List Parameter}
    {arguments : List Value}
    {name : String}
    {value : Value}
    (made : scope < all.scopes.size) :
    ((all.bindNamed scope
          (Parameter.withValues parameters arguments)).own scope).get? name =
        some value ↔
      (∃ index,
        Parameter.NamesLast parameters name index ∧
          arguments.getD index .undefined = value) ∨
        (∀ parameter ∈ parameters, ¬parameter.Names name) ∧
          (all.own scope).get? name = some value := by
  induction parameters generalizing all arguments with
  | nil => simp [Parameter.withValues, bindNamed, Parameter.NamesLast]
  | cons parameter rest inductionHypothesis =>
      have shifted (index : Nat) :
          arguments.getD (index + 1) .undefined =
            arguments.tail.getD index .undefined := by
        cases arguments <;> rfl
      rw [← Nat.or_exists_add_one]
      simp only [Parameter.namesLast_cons_zero,
        Parameter.namesLast_cons_succ, shifted, List.forall_mem_cons]
      rw [Parameter.withValues, bindNamed]
      have first : arguments.getD 0 .undefined = arguments.headD .undefined :=
        by cases arguments <;> rfl
      cases claims : parameter.register? with
      | some register =>
          have unnamed : ¬parameter.Names name := by
            simp [Parameter.Names, claims]
          rw [Option.elim_some, inductionHypothesis made]
          simp [unnamed]
      | none =>
          rw [Option.elim_none,
            inductionHypothesis (by rwa [size_define]),
            get?_own_define]
          by_cases named : name = parameter.name
          · have names : parameter.Names name := ⟨claims, named.symm⟩
            rw [if_pos ⟨made, named, rfl⟩, first, Option.some_inj]
            simp only [names, not_true, true_and, false_and, or_false]
            exact or_comm
          · have unnamed : ¬parameter.Names name := fun names =>
              named names.2.symm
            simp [named, unnamed]

end Scopes

/-! The scope of a call. -/

/-- The scopes when the one of a call is there and its parameters are bound. -/
def Scopes.opened
    (all : Scopes)
    (closure : Closure)
    (arguments : List Value) :
    Scopes :=
  (all.create closure.scope).2.bindNamed all.scopes.size
    (Parameter.withValues closure.definition.parameters arguments)

/-- A call binds a variable to a value: it is what the last parameter gets. -/
def Definition.Binds
    (definition : Definition)
    (arguments : List Value)
    (name : String)
    (value : Value) :
    Prop :=
  ∃ index,
    Parameter.NamesLast definition.parameters name index ∧
      arguments.getD index .undefined = value

/--
One more scope is there, for a call.  Its variables are the parameters that
are bound by name, and nothing else is different.
-/
structure Scopes.OpensFor
    (closure : Closure)
    (arguments : List Value)
    (before after : Scopes) :
    Prop where
  size : after.scopes.size = before.scopes.size + 1
  older : ∀ scope,
    scope < before.scopes.size →
      after.scopes[scope]? = before.scopes[scope]?
  enclosed : after.outer? before.scopes.size =
    closure.scope.filter (· < before.scopes.size)
  own : ∀ name value,
    (after.own before.scopes.size).get? name = some value ↔
      closure.definition.Binds arguments name value

theorem Scopes.opensFor_opened
    (all : Scopes)
    (closure : Closure)
    (arguments : List Value) :
    OpensFor closure arguments all (all.opened closure arguments) := by
  have size := size_create all closure.scope
  refine ⟨?_, ?_, ?_, ?_⟩
  · rw [opened, size_bindNamed, size]
  · intro scope made
    rw [opened, getElem?_bindNamed_other (Nat.ne_of_lt made), create]
    exact (Array.getElem?_push_lt made).trans
      (Array.getElem?_eq_getElem made).symm
  · rw [opened, outer?_bindNamed, outer?_create, if_pos rfl]
  · intro name value
    have made :
        all.scopes.size < (all.create closure.scope).2.scopes.size := by
      omega
    have fresh : (all.create closure.scope).2.own all.scopes.size = .empty := by
      simp [own, create]
    have unbound : Table.empty.get? name = (none : Option Value) := rfl
    rw [opened, get?_own_bindNamed made, fresh, unbound]
    simp [Definition.Binds]

theorem Scopes.evolves_bindNamed
    (all : Scopes)
    (scope : ScopeId)
    (bound : List (Parameter × Value)) :
    all.Evolves (all.bindNamed scope bound) := by
  induction bound generalizing all with
  | nil => exact .refl all
  | cons first rest inductionHypothesis =>
      refine Evolves.trans ?_ (inductionHypothesis _)
      cases first.1.register? with
      | none => exact .single all (.define scope first.1.name first.2)
      | some register => exact .refl all

/-- Nothing but scopes made and written comes between. -/
theorem Scopes.evolves_opened
    (all : Scopes)
    (closure : Closure)
    (arguments : List Value) :
    all.Evolves (all.opened closure arguments) :=
  (Evolves.single all (.create closure.scope)).trans
    (evolves_bindNamed _ _ _)

/-! The parameters of a call. -/

theorem Frame.setRegister_inside
    {frame : Frame}
    {register : Nat}
    (inside : register < frame.registers.size)
    (value : Value) :
    frame.setRegister register value =
      .ok
        { frame with
          registers := frame.registers.setIfInBounds register value } :=
  if_pos inside

namespace Act

variable {σ : Type} {calls : Calls σ} {session : Session σ} {frame : Frame}

/-- Every parameter is bound, and nothing else happens. -/
theorem bindParameters_eq
    {parameters : List Parameter}
    {arguments : List Value}
    (inside : ∀ register ∈ parameters.filterMap Parameter.register?,
      register < frame.registers.size) :
    bindParameters frame parameters arguments calls session =
      .ok
        { frame with
          registers :=
            writeRegisters frame.registers
              (Parameter.registerWrites
                (Parameter.withValues parameters arguments)) }
        ⟨{ session.machine with
            scopes :=
              session.machine.scopes.bindNamed frame.locals
                (Parameter.withValues parameters arguments) },
          session.host⟩ := by
  induction parameters generalizing frame arguments session with
  | nil => rfl
  | cons parameter rest inductionHypothesis =>
      cases claims : parameter.register? with
      | some register =>
          rw [List.filterMap_cons_some claims] at inside
          obtain ⟨here, inside⟩ := List.forall_mem_cons.mp inside
          simp only [bindParameters, claims]
          rw [bind_ok (ask_ok (Frame.setRegister_inside here _)),
            inductionHypothesis (by simpa using inside)]
          simp [Parameter.withValues, Parameter.registerWrites, claims,
            writeRegisters, Scopes.bindNamed]
      | none =>
          rw [List.filterMap_cons_none claims] at inside
          have defined :
              (liftM (Edit.defineVariable frame.locals parameter.name
                (arguments.headD .undefined)) : Act σ Unit) calls session =
                .ok ()
                  ⟨{ session.machine with
                      scopes :=
                        session.machine.scopes.define frame.locals
                          parameter.name (arguments.headD .undefined) },
                    session.host⟩ :=
            lift_ok rfl
          simp only [bindParameters, claims, pure_bind]
          rw [bind_ok defined, inductionHypothesis inside]
          simp [Parameter.withValues, Parameter.registerWrites, claims,
            Scopes.bindNamed]

/-- What is bound in a register has a register of the frame to be bound in. -/
theorem bindParameters_inside
    {parameters : List Parameter}
    {arguments : List Value}
    {bound : Frame}
    {changed : Session σ}
    (ran :
      bindParameters frame parameters arguments calls session =
        .ok bound changed) :
    ∀ register ∈ parameters.filterMap Parameter.register?,
      register < frame.registers.size := by
  induction parameters generalizing frame arguments session with
  | nil => exact List.forall_mem_nil _
  | cons parameter rest inductionHypothesis =>
      unfold bindParameters at ran
      dsimp only at ran
      cases claims : parameter.register? with
      | some register =>
          rw [List.filterMap_cons_some claims]
          simp only [claims] at ran
          obtain ⟨loaded, between, asked, ran⟩ := bind_eq_ok ran
          obtain ⟨written, -⟩ := ask_eq_ok asked
          rw [Frame.setRegister] at written
          split at written
          · rename_i here
            cases written
            exact List.forall_mem_cons.mpr
              ⟨here, by simpa using inductionHypothesis ran⟩
          · cases written
      | none =>
          rw [List.filterMap_cons_none claims]
          simp only [claims] at ran
          obtain ⟨_, between, -, ran⟩ := bind_eq_ok ran
          exact inductionHypothesis ran

end Act

end MovieScript
