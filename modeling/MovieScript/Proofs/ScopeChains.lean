import Mathlib.Data.List.Chain
import MovieScript.Proofs.Tables
import MovieScript.Scope

namespace MovieScript.Scopes

/-!
# Chains of scopes

A walk outward goes along a chain that only ever leads to older scopes.  What
a look-up finds is settled by the innermost scope on the chain that binds the
name, so one binding that is written shows exactly where a chain comes to it
first.
-/

variable {all : Scopes} {id scope start : ScopeId}
variable {name query : String} {value : Value}

/-! The walk outward. -/

/-- A chain begins with the scope itself and goes on where that is enclosed. -/
theorem chain_eq (all : Scopes) (id : ScopeId) :
    all.chain id = id :: (all.outer? id).elim [] all.chain := by
  rw [chain.eq_def]
  split
  · next outer enclosed =>
    rw [enclosed]
    rfl
  · next outermost =>
    rw [outermost]
    rfl

/-- Chains depend on nothing but how the older scopes are enclosed. -/
theorem chain_congr
    {left right : Scopes}
    (same : ∀ older ≤ id, left.outer? older = right.outer? older) :
    left.chain id = right.chain id := by
  induction id using Nat.strongRecOn with
  | ind id inductionHypothesis =>
      rw [chain_eq left, chain_eq right, same id (Nat.le_refl id)]
      cases enclosed : right.outer? id with
      | none => rfl
      | some outer =>
          have older := outer?_lt enclosed
          refine congrArg (id :: ·) (inductionHypothesis outer older ?_)
          intro oldest below
          exact same oldest (Nat.le_trans below (Nat.le_of_lt older))

theorem binder?_contains (found : all.binder? start name = some scope) :
    (all.own scope).contains name = true := by
  have chosen := List.find?_some found
  exact chosen

theorem mem_chain_of_binder? (found : all.binder? start name = some scope) :
    scope ∈ all.chain start :=
  List.mem_of_find?_eq_some found

/-- The first answer of a list comes from the first member that has one. -/
private theorem findSome?_eq_bind
    {α β : Type}
    (answer : α → Option β)
    (list : List α) :
    list.findSome? answer =
      (list.find? fun member => (answer member).isSome).bind answer := by
  induction list with
  | nil => rfl
  | cons member rest inductionHypothesis =>
      rw [List.findSome?_cons, List.find?_cons]
      cases found : answer member with
      | none => exact inductionHypothesis
      | some result => exact found.symm

/-- A look-up reads the innermost scope that binds the name. -/
theorem lookup_eq (all : Scopes) (start : ScopeId) (name : String) :
    all.lookup start name =
      (all.binder? start name).bind fun binder =>
        (all.own binder).get? name :=
  findSome?_eq_bind _ _

/-- A name has a value exactly where some scope on the chain binds it. -/
theorem lookup_isSome_iff :
    (all.lookup start name).isSome = true ↔
      ∃ binder, all.binder? start name = some binder := by
  rw [lookup_eq]
  cases found : all.binder? start name with
  | none => simp
  | some binder =>
      have bound := binder?_contains found
      exact ⟨fun _ => ⟨binder, rfl⟩, fun _ => bound⟩

/--
On its way outward from `start`, a walk comes to `scope` before any other
scope that binds the name.
-/
def ReachesFirst
    (all : Scopes)
    (start scope : ScopeId)
    (name : String) :
    Prop :=
  (all.chain start).find? (fun candidate =>
    candidate = scope ∨ (all.own candidate).contains name) = some scope

instance
    (all : Scopes)
    (start scope : ScopeId)
    (name : String) :
    Decidable (all.ReachesFirst start scope name) :=
  inferInstanceAs (Decidable (_ = _))

/-- A scope that binds the name is reached first where it is the innermost. -/
theorem reachesFirst_iff_of_contains
    (bound : (all.own scope).contains name = true) :
    all.ReachesFirst start scope name ↔
      all.binder? start name = some scope := by
  have samePredicate :
      (fun candidate =>
        decide (candidate = scope ∨
          (all.own candidate).contains name = true)) =
        fun candidate => (all.own candidate).contains name := by
    funext candidate
    by_cases same : candidate = scope
    · simp [same, bound]
    · simp [same]
  rw [ReachesFirst, samePredicate]
  rfl

/-! One binding is written. -/

/-- A scope that was never made binds nothing. -/
theorem lt_size_of_contains
    (bound : (all.own scope).contains name = true) :
    scope < all.scopes.size := by
  rw [own] at bound
  split at bound
  · next found => exact (Array.getElem?_eq_some_iff.mp found).1
  · cases bound

theorem size_define
    (all : Scopes)
    (scope : ScopeId)
    (name : String)
    (value : Value) :
    (all.define scope name value).scopes.size = all.scopes.size :=
  Array.size_modify

theorem outer?_define
    (all : Scopes)
    (scope : ScopeId)
    (name : String)
    (value : Value) :
    (all.define scope name value).outer? = all.outer? := by
  funext query
  rw [outer?, define, Array.getElem?_modify, outer?]
  split
  · cases all.scopes[query]? <;> rfl
  · rfl

theorem chain_define
    (all : Scopes)
    (scope : ScopeId)
    (name : String)
    (value : Value) :
    (all.define scope name value).chain = all.chain := by
  funext query
  exact chain_congr fun older _ =>
    congrFun (outer?_define all scope name value) older

/-- Only a scope that was made gets the binding. -/
theorem get?_own_define
    (all : Scopes)
    (scope : ScopeId)
    (name : String)
    (value : Value)
    (candidate : ScopeId)
    (query : String) :
    ((all.define scope name value).own candidate).get? query =
      if scope < all.scopes.size ∧ query = name ∧ candidate = scope then
        some value
      else (all.own candidate).get? query := by
  rw [own, define, Array.getElem?_modify, own]
  by_cases same : scope = candidate
  · subst same
    rw [if_pos rfl]
    by_cases made : scope < all.scopes.size
    · rw [Array.getElem?_eq_getElem made]
      simp only [Option.map_some, Table.get?_insert, made, true_and,
        and_true]
    · rw [Array.getElem?_eq_none (Nat.le_of_not_lt made),
        if_neg fun all => made all.1]
      rfl
  · rw [if_neg same, if_neg fun all => same all.2.2.symm]

/-- One member of a list gets an answer of its own. -/
private theorem findSome?_replace
    {α β : Type}
    [DecidableEq α]
    (answer : α → Option β)
    (replaced : α)
    (result : β)
    (list : List α) :
    (list.findSome? fun member =>
        if member = replaced then some result else answer member) =
      if list.find? (fun member =>
          member = replaced ∨ (answer member).isSome) = some replaced then
        some result
      else list.findSome? answer := by
  induction list with
  | nil => rfl
  | cons member rest inductionHypothesis =>
      by_cases here : member = replaced
      · simp [here]
      · cases found : answer member with
        | none => simp [here, found, inductionHypothesis]
        | some old => simp [here, found]

/-- What is bound in a scope shows where a walk comes to the scope first. -/
theorem lookup_define
    (all : Scopes)
    (scope : ScopeId)
    (name : String)
    (value : Value)
    (start : ScopeId)
    (query : String) :
    (all.define scope name value).lookup start query =
      if scope < all.scopes.size ∧ query = name ∧
          all.ReachesFirst start scope name then
        some value
      else all.lookup start query := by
  rw [lookup, chain_define]
  simp only [get?_own_define]
  by_cases shows : scope < all.scopes.size ∧ query = name
  · obtain ⟨made, rfl⟩ := shows
    simp only [made, true_and]
    exact findSome?_replace _ _ _ _
  · have hidden (rest : Prop) :
        ¬(scope < all.scopes.size ∧ query = name ∧ rest) :=
      fun all => shows ⟨all.1, all.2.1⟩
    simp only [hidden, ↓reduceIte]
    rfl

/-! One binding is overwritten. -/

theorem assign_of_binder?
    (found : all.binder? start name = some scope)
    (value : Value) :
    all.assign start name value =
      (true, all.define scope name value) := by
  rw [assign, found]

theorem assign_of_unbound
    (unbound : all.binder? start name = none)
    (value : Value) :
    all.assign start name value = (false, all) := by
  rw [assign, unbound]

/-- An assignment succeeds exactly where the name has a value. -/
theorem assign_fst_iff :
    (all.assign start name value).1 = true ↔
      (all.lookup start name).isSome = true := by
  rw [lookup_isSome_iff]
  cases found : all.binder? start name with
  | none => simp [assign_of_unbound found]
  | some binder => simp [assign_of_binder? found]

/-- An assignment shows to those whose innermost binding is the same. -/
theorem lookup_assign
    (assigned : (all.assign start name value).1 = true)
    (other : ScopeId)
    (query : String) :
    (all.assign start name value).2.lookup other query =
      if query = name ∧
          all.binder? other name = all.binder? start name then
        some value
      else all.lookup other query := by
  obtain ⟨binder, found⟩ := lookup_isSome_iff.mp (assign_fst_iff.mp assigned)
  have bound := binder?_contains found
  rw [assign_of_binder? found, lookup_define, found]
  simp only [lt_size_of_contains bound, true_and,
    reachesFirst_iff_of_contains bound]

/-! A new scope. -/

theorem size_create (all : Scopes) (captured : Option ScopeId) :
    (all.create captured).2.scopes.size = all.scopes.size + 1 :=
  Array.size_push _

/-- A new scope is enclosed by the captured one, if that exists. -/
theorem outer?_create
    (all : Scopes)
    (captured : Option ScopeId)
    (query : ScopeId) :
    (all.create captured).2.outer? query =
      if query = all.scopes.size then
        captured.filter (· < all.scopes.size)
      else all.outer? query := by
  rw [outer?, create, Array.getElem?_push]
  split
  · rfl
  · rfl

/-! Scopes in the course of time. -/

/-- What is done to the scopes. -/
inductive Operation where
  | create (outer : Option ScopeId)
  | define (scope : ScopeId) (name : String) (value : Value)
  | assign (start : ScopeId) (name : String) (value : Value)

/-- The scopes after an operation. -/
def Operation.perform (all : Scopes) : Operation → Scopes
  | .create outer => (all.create outer).2
  | .define scope name value => all.define scope name value
  | .assign start name value => (all.assign start name value).2

/-- Operations in some order lead from the one state to the other. -/
def Evolves (before after : Scopes) : Prop :=
  ∃ operations : List Operation,
    operations.foldl Operation.perform before = after

namespace Evolves

variable {before after : Scopes}

theorem refl (all : Scopes) : all.Evolves all :=
  ⟨[], rfl⟩

theorem single (all : Scopes) (operation : Operation) :
    all.Evolves (operation.perform all) :=
  ⟨[operation], rfl⟩

theorem trans
    {first second third : Scopes}
    (earlier : first.Evolves second)
    (later : second.Evolves third) :
    first.Evolves third := by
  obtain ⟨operations, rfl⟩ := earlier
  obtain ⟨others, rfl⟩ := later
  exact ⟨operations ++ others, List.foldl_append⟩

/-- Scopes stay, enclosed as they are; one operation. -/
private theorem step (all : Scopes) (operation : Operation) :
    all.scopes.size ≤ (operation.perform all).scopes.size ∧
      ∀ id < all.scopes.size,
        (operation.perform all).outer? id = all.outer? id := by
  have defined (scope : ScopeId) (name : String) (value : Value) :
      all.scopes.size ≤ (all.define scope name value).scopes.size ∧
        ∀ id < all.scopes.size,
          (all.define scope name value).outer? id = all.outer? id :=
    ⟨Nat.le_of_eq (size_define all scope name value).symm,
      fun id _ => congrFun (outer?_define all scope name value) id⟩
  cases operation with
  | create captured =>
      refine ⟨?_, fun id made => ?_⟩
      · rw [Operation.perform, size_create]
        exact Nat.le_succ _
      · rw [Operation.perform, outer?_create,
          if_neg (Nat.ne_of_lt made)]
  | define scope name value => exact defined scope name value
  | assign start name value =>
      rw [Operation.perform]
      cases found : all.binder? start name with
      | none =>
          rw [assign_of_unbound found]
          exact ⟨Nat.le_refl _, fun _ _ => rfl⟩
      | some binder =>
          rw [assign_of_binder? found]
          exact defined binder name value

/-- Scopes stay, enclosed as they are. -/
private theorem keeps (evolves : before.Evolves after) :
    before.scopes.size ≤ after.scopes.size ∧
      ∀ id < before.scopes.size, after.outer? id = before.outer? id := by
  obtain ⟨operations, rfl⟩ := evolves
  induction operations generalizing before with
  | nil => exact ⟨Nat.le_refl _, fun _ _ => rfl⟩
  | cons operation rest inductionHypothesis =>
      obtain ⟨grows, kept⟩ := step before operation
      obtain ⟨growsOn, keptOn⟩ :=
        @inductionHypothesis (operation.perform before)
      exact ⟨Nat.le_trans grows growsOn, fun id made =>
        (keptOn id (Nat.lt_of_lt_of_le made grows)).trans (kept id made)⟩

theorem size_le (evolves : before.Evolves after) :
    before.scopes.size ≤ after.scopes.size :=
  evolves.keeps.1

theorem outer?_eq
    (evolves : before.Evolves after)
    (made : id < before.scopes.size) :
    after.outer? id = before.outer? id :=
  evolves.keeps.2 id made

end Evolves

end MovieScript.Scopes
