import MovieScript.Table

namespace MovieScript.Table

/-!
# Look-up in ordered tables

What a look-up finds after a table was changed, and which keys and values a
table has.
-/

variable {κ α : Type} [DecidableEq κ]

/-- A look-up finds what was written under the same key. -/
private theorem find?_replace
    {key : κ}
    {value : α}
    {entries : List (κ × α)}
    (present : key ∈ entries.map Prod.fst)
    (query : κ) :
    find? query (replace key value entries) =
      if query = key then some value else find? query entries := by
  induction entries with
  | nil =>
      simp at present
  | cons entry rest inductionHypothesis =>
      rcases entry with ⟨candidate, old⟩
      by_cases same : candidate = key
      · subst same
        by_cases found : query = candidate
        · simp [replace, find?, found]
        · simp [replace, find?, found, Ne.symm found]
      · have later : key ∈ rest.map Prod.fst := by
          rcases List.mem_cons.mp present with here | later
          · exact absurd here.symm same
          · exact later
        simp only [replace, same, ↓reduceIte, find?,
          inductionHypothesis later]
        by_cases here : candidate = query
        · subst here
          simp [same]
        · simp [here]

/-- A look-up goes through the first pairs before the later ones. -/
theorem find?_append
    (query : κ)
    (first second : List (κ × α)) :
    find? query (first ++ second) =
      (find? query first).or (find? query second) := by
  induction first with
  | nil =>
      rfl
  | cons entry rest inductionHypothesis =>
      rcases entry with ⟨candidate, value⟩
      by_cases here : candidate = query
      · simp [find?, here]
      · simp [find?, here, inductionHypothesis]

/-- A look-up in pairs with other values finds the other value. -/
theorem find?_map
    {β : Type}
    (query : κ)
    (convert : α → β)
    (entries : List (κ × α)) :
    find? query (entries.map fun entry => (entry.1, convert entry.2)) =
      (find? query entries).map convert := by
  induction entries with
  | nil =>
      rfl
  | cons entry rest inductionHypothesis =>
      rcases entry with ⟨candidate, value⟩
      by_cases here : candidate = query
      · simp [find?, here]
      · simp [find?, here, inductionHypothesis]

/-- The keys are those that have a value. -/
theorem mem_keys_iff
    {table : Table κ α}
    {key : κ} :
    key ∈ table.keys ↔ (table.get? key).isSome = true := by
  rw [keys, get?, ← Option.ne_none_iff_isSome, ne_eq,
    find?_eq_none_iff, Decidable.not_not]

/-- Writing a key changes the value of that key only. -/
theorem get?_insert
    (table : Table κ α)
    (key : κ)
    (value : α)
    (query : κ) :
    (table.insert key value).get? query =
      if query = key then some value else table.get? query := by
  unfold insert
  split
  · next old found =>
    have present : key ∈ table.keys := by
      rw [mem_keys_iff, get?, found]
      rfl
    exact find?_replace present query
  · next absent =>
    rw [get?, find?_append]
    by_cases same : query = key
    · subst same
      simp [absent, find?]
    · simp only [find?, Ne.symm same, ↓reduceIte, Option.or_none, same]
      rfl

/-- A new key comes behind all others. -/
theorem entries_insert_of_absent
    {table : Table κ α}
    {key : κ}
    (absent : table.get? key = none)
    (value : α) :
    (table.insert key value).entries = table.entries ++ [(key, value)] := by
  unfold insert
  split
  · rename_i found
    rw [get?, found] at absent
    cases absent
  · rfl

/-- A key that has a value keeps its place among the others. -/
theorem entries_insert_of_present
    {table : Table κ α}
    {key : κ}
    {old : α}
    (present : table.get? key = some old)
    (value : α) :
    ∃ front back,
      table.entries = front ++ (key, old) :: back ∧
        (table.insert key value).entries =
          front ++ (key, value) :: back := by
  have inPlace (entries : List (κ × α)) (found : find? key entries = some old) :
      ∃ front back,
        entries = front ++ (key, old) :: back ∧
          replace key value entries = front ++ (key, value) :: back := by
    induction entries with
    | nil =>
        cases found
    | cons entry rest inductionHypothesis =>
        rcases entry with ⟨candidate, stored⟩
        by_cases here : candidate = key
        · subst here
          simp only [find?, ↓reduceIte, Option.some.injEq] at found
          subst found
          exact ⟨[], rest, rfl, by simp [replace]⟩
        · simp only [find?, here, ↓reduceIte] at found
          obtain ⟨front, back, rfl, replaced⟩ := inductionHypothesis found
          exact ⟨(candidate, stored) :: front, back, rfl, by
            simp [replace, here, replaced]⟩
  unfold insert
  split
  · exact inPlace table.entries present
  · rename_i absent
    rw [get?, absent] at present
    cases present

/-- Erasing a key takes the value of that key only. -/
theorem get?_erase
    (table : Table κ α)
    (key query : κ) :
    (table.erase key).get? query =
      if query = key then none else table.get? query := by
  unfold erase get?
  simp only
  induction table.entries with
  | nil =>
      simp [find?]
  | cons entry rest inductionHypothesis =>
      rcases entry with ⟨candidate, value⟩
      by_cases erased : candidate = key
      · subst erased
        by_cases same : query = candidate
        · simpa [find?, same] using inductionHypothesis
        · simpa [find?, same, Ne.symm same] using inductionHypothesis
      · by_cases here : candidate = query
        · subst here
          simp [find?, erased]
        · simpa [find?, erased, here] using inductionHypothesis

/-- The values are those that some key has. -/
theorem mem_values_iff
    {table : Table κ α}
    {value : α} :
    value ∈ table.values ↔ ∃ key, table.get? key = some value := by
  rcases table with ⟨entries, distinct⟩
  unfold values get?
  simp only
  induction entries with
  | nil =>
      simp [find?]
  | cons entry rest inductionHypothesis =>
      rcases entry with ⟨candidate, stored⟩
      obtain ⟨fresh, restDistinct⟩ := List.nodup_cons.mp distinct
      rw [List.map_cons, List.mem_cons, inductionHypothesis restDistinct]
      constructor
      · rintro (rfl | ⟨key, found⟩)
        · exact ⟨candidate, by simp [find?]⟩
        · have different : candidate ≠ key := by
            rintro rfl
            rw [find?_eq_none_iff.mpr fresh] at found
            simp at found
          exact ⟨key, by simp [find?, different, found]⟩
      · rintro ⟨key, found⟩
        by_cases here : candidate = key
        · simp only [find?, here, ↓reduceIte, Option.some.injEq] at found
          exact .inl found.symm
        · simp only [find?, here, ↓reduceIte] at found
          exact .inr ⟨key, found⟩

end MovieScript.Table
