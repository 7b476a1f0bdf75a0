import MovieScript.Table
import MovieScript.Value

namespace MovieScript

/-!
# Captured scopes

Every call of a script function has a scope for its variables, enclosed by the
scope the function was defined in.  Functions that outlive the call keep its
scope, so scopes are shared: two functions defined in one call see each other's
assignments.  A scope is made after the one that encloses it, so every walk
outward ends.
-/

/-- The number of a scope, in order of creation. -/
abbrev ScopeId := Nat

/-- The variables of one call and the scope that encloses them. -/
structure Scope where
  bindings : Table String Value
  outer : Option ScopeId

/-- All scopes; each is enclosed only by an older one. -/
structure Scopes where
  scopes : Array Scope
  outward :
    ∀ (id : ScopeId) (scope : Scope) (outer : ScopeId),
      scopes[id]? = some scope → scope.outer = some outer → outer < id

namespace Scopes

/-- No scope has been made yet. -/
def empty : Scopes where
  scopes := #[]
  outward := by
    intro id scope outer found
    simp at found

/-- Make a scope without variables; only an existing scope can enclose it. -/
def create
    (all : Scopes)
    (outer : Option ScopeId) :
    ScopeId × Scopes :=
  (all.scopes.size,
    { scopes :=
        all.scopes.push
          ⟨.empty, outer.filter (· < all.scopes.size)⟩
      outward := by
        intro id scope enclosing found enclosed
        rw [Array.getElem?_push] at found
        split at found
        · next last =>
          rw [← Option.some.inj found] at enclosed
          have inside := (Option.filter_eq_some_iff.mp enclosed).2
          simpa [last] using inside
        · exact all.outward id scope enclosing found enclosed })

/-- The variables a scope binds itself. -/
def own
    (all : Scopes)
    (id : ScopeId) :
    Table String Value :=
  match all.scopes[id]? with
  | some scope => scope.bindings
  | none => .empty

/-- The scope that encloses a scope. -/
def outer?
    (all : Scopes)
    (id : ScopeId) :
    Option ScopeId :=
  all.scopes[id]?.bind Scope.outer

/-- An enclosing scope is older. -/
theorem outer?_lt
    {all : Scopes}
    {id outer : ScopeId}
    (enclosed : all.outer? id = some outer) :
    outer < id := by
  obtain ⟨scope, found, link⟩ := Option.bind_eq_some_iff.mp enclosed
  exact all.outward id scope outer found link

/-- The scope and those that enclose it, innermost first. -/
def chain
    (all : Scopes)
    (id : ScopeId) :
    List ScopeId :=
  match _enclosed : all.outer? id with
  | some outer => id :: all.chain outer
  | none => [id]
termination_by id
decreasing_by exact outer?_lt _enclosed

/-- The innermost scope on the way outward that binds a name. -/
def binder?
    (all : Scopes)
    (id : ScopeId)
    (name : String) :
    Option ScopeId :=
  (all.chain id).find? fun candidate => (all.own candidate).contains name

/-- The value of a variable in the innermost scope that binds it. -/
def lookup
    (all : Scopes)
    (id : ScopeId)
    (name : String) :
    Option Value :=
  (all.chain id).findSome? fun candidate => (all.own candidate).get? name

/-- Bind a variable, or rebind it, in a scope itself. -/
def define
    (all : Scopes)
    (id : ScopeId)
    (name : String)
    (value : Value) :
    Scopes where
  scopes :=
    all.scopes.modify id fun scope =>
      { scope with bindings := scope.bindings.insert name value }
  outward := by
    intro query scope outer found enclosed
    rw [Array.getElem?_modify] at found
    split at found
    · next same =>
      obtain ⟨old, oldFound, changed⟩ :=
        Option.map_eq_some_iff.mp found
      subst changed
      exact all.outward query old outer oldFound enclosed
    · exact all.outward query scope outer found enclosed

/-- Overwrite a variable where it is bound; `false` if it is bound nowhere. -/
def assign
    (all : Scopes)
    (id : ScopeId)
    (name : String)
    (value : Value) :
    Bool × Scopes :=
  match all.binder? id name with
  | some binder => (true, all.define binder name value)
  | none => (false, all)

/-- Every handle held by a scope and those that enclose it. -/
def references
    (all : Scopes)
    (id : ScopeId) :
    List Handle :=
  (all.chain id).flatMap fun candidate =>
    (all.own candidate).values.flatMap Value.references

end Scopes

end MovieScript
