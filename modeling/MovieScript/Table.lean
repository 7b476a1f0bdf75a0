namespace MovieScript

/-!
# Ordered tables

A finite map that remembers the order in which its keys first came in.
Writing an existing key keeps its place; erasing a key closes the gap.
-/

/-- Key–value pairs in order of insertion, each key once. -/
structure Table (κ : Type) (α : Type) where
  entries : List (κ × α)
  distinct : (entries.map Prod.fst).Nodup
  deriving Repr

namespace Table

variable {κ α β : Type}

/-- The table without entries. -/
def empty : Table κ α :=
  ⟨[], List.nodup_nil⟩

instance : Inhabited (Table κ α) :=
  ⟨empty⟩

/-- The keys in order of insertion. -/
def keys (table : Table κ α) : List κ :=
  table.entries.map Prod.fst

/-- The values in the order of their keys. -/
def values (table : Table κ α) : List α :=
  table.entries.map Prod.snd

/-- The number of entries. -/
def size (table : Table κ α) : Nat :=
  table.entries.length

variable [DecidableEq κ]

/-- The value of a key in a list of pairs. -/
def find? (key : κ) : List (κ × α) → Option α
  | [] => none
  | (candidate, value) :: rest =>
      if candidate = key then some value else find? key rest

/-- Replace the value of a key in a list of pairs. -/
def replace (key : κ) (value : α) : List (κ × α) → List (κ × α)
  | [] => []
  | (candidate, old) :: rest =>
      if candidate = key then
        (candidate, value) :: rest
      else
        (candidate, old) :: replace key value rest

/-- Replacing a value keeps the keys and their order. -/
theorem map_fst_replace
    (key : κ)
    (value : α)
    (entries : List (κ × α)) :
    (replace key value entries).map Prod.fst =
      entries.map Prod.fst := by
  induction entries with
  | nil =>
      rfl
  | cons entry rest inductionHypothesis =>
      rcases entry with ⟨candidate, old⟩
      unfold replace
      split
      · rfl
      · simp [inductionHypothesis]

/-- A key without a value is not among the keys. -/
theorem find?_eq_none_iff
    {key : κ}
    {entries : List (κ × α)} :
    find? key entries = none ↔ key ∉ entries.map Prod.fst := by
  induction entries with
  | nil =>
      simp [find?]
  | cons entry rest inductionHypothesis =>
      rcases entry with ⟨candidate, old⟩
      by_cases same : candidate = key
      · simp [find?, same]
      · simp [find?, same, inductionHypothesis, Ne.symm same]

/-- The value of a key. -/
def get?
    (table : Table κ α)
    (key : κ) :
    Option α :=
  find? key table.entries

/-- The key has a value. -/
def contains
    (table : Table κ α)
    (key : κ) :
    Bool :=
  (table.get? key).isSome

/-- Give a key a value: in its old place, or behind all other keys. -/
def insert
    (table : Table κ α)
    (key : κ)
    (value : α) :
    Table κ α :=
  match absent : find? key table.entries with
  | some _ =>
      ⟨replace key value table.entries, by
        rw [map_fst_replace]
        exact table.distinct⟩
  | none =>
      ⟨table.entries ++ [(key, value)], by
        have fresh := find?_eq_none_iff.mp absent
        rw [List.map_append, List.nodup_append]
        refine ⟨table.distinct, by simp, ?_⟩
        intro first member second memberSecond same
        simp only [List.map_cons, List.map_nil,
          List.mem_singleton] at memberSecond
        exact fresh (memberSecond ▸ same ▸ member)⟩

/-- Change the value of a key that has one. -/
def modify
    (table : Table κ α)
    (key : κ)
    (change : α → α) :
    Table κ α :=
  match table.get? key with
  | some value =>
      ⟨replace key (change value) table.entries, by
        rw [map_fst_replace]
        exact table.distinct⟩
  | none => table

/-- Remove a key; the others keep their order. -/
def erase
    (table : Table κ α)
    (key : κ) :
    Table κ α :=
  ⟨table.entries.filter fun entry => entry.1 ≠ key, by
    exact table.distinct.sublist
      (List.filter_sublist.map Prod.fst)⟩

end Table

end MovieScript
