import Mathlib.Data.List.Basic
import MovieScript.Definition

namespace MovieScript

/-!
# The layout of registers

Parameters claim registers and preloaded values take the lowest ones from the
first on that are left.  A definition that passes the check has claims that do
not meet, and its frame is large enough for all of them.
-/

/-- The register that is found is the lowest from there on that is left. -/
theorem firstUnclaimed_spec (claimed : List Nat) (next : Nat) :
    next ≤ firstUnclaimed claimed next ∧
      firstUnclaimed claimed next ∉ claimed ∧
        ∀ lower,
          next ≤ lower →
            lower < firstUnclaimed claimed next → lower ∈ claimed := by
  fun_induction firstUnclaimed claimed next with
  | case1 next member inductionHypothesis =>
      obtain ⟨above, unclaimed, lowest⟩ := inductionHypothesis
      refine ⟨by omega, unclaimed, fun lower notBelow below => ?_⟩
      rcases Nat.eq_or_lt_of_le notBelow with rfl | later
      · exact member
      · exact lowest lower later below
  | case2 next free =>
      exact ⟨Nat.le_refl _, free, fun lower notBelow below => by omega⟩

namespace Definition

variable {definition : Definition} {claimed : List Nat}

/-! Registers that are handed out in turn. -/

theorem map_fst_assignRegisters
    (claimed : List Nat)
    (next : Nat)
    (kinds : List Preload) :
    (assignRegisters claimed next kinds).map Prod.fst = kinds := by
  induction kinds generalizing next with
  | nil => rfl
  | cons kind rest inductionHypothesis =>
      rw [assignRegisters, List.map_cons, inductionHypothesis]

/-- A register is handed out if it is left and no lower one is. -/
theorem assignRegisters_spec
    (claimed : List Nat)
    (next : Nat)
    (kinds : List Preload) :
    ((assignRegisters claimed next kinds).map Prod.snd).Pairwise (· < ·) ∧
      ∀ register ∈ (assignRegisters claimed next kinds).map Prod.snd,
        next ≤ register ∧ register ∉ claimed ∧
          ∀ lower,
            next ≤ lower →
              lower < register →
                lower ∈ claimed ∨
                  lower ∈
                    (assignRegisters claimed next kinds).map Prod.snd := by
  induction kinds generalizing next with
  | nil => exact ⟨.nil, nofun⟩
  | cons kind rest inductionHypothesis =>
      obtain ⟨above, unclaimed, lowest⟩ := firstUnclaimed_spec claimed next
      obtain ⟨increasing, others⟩ :=
        inductionHypothesis (firstUnclaimed claimed next + 1)
      rw [assignRegisters, List.map_cons]
      dsimp only
      refine ⟨.cons (fun register member => (others register member).1)
        increasing, ?_⟩
      intro register member
      rcases List.mem_cons.mp member with rfl | later
      · exact ⟨above, unclaimed, fun lower notBelow below =>
          .inl (lowest lower notBelow below)⟩
      · obtain ⟨fromHere, alsoUnclaimed, noLower⟩ := others register later
        refine ⟨by omega, alsoUnclaimed, fun lower notBelow below => ?_⟩
        rcases Nat.lt_trichotomy lower (firstUnclaimed claimed next) with
          before | rfl | behind
        · exact .inl (lowest lower notBelow before)
        · exact .inr List.mem_cons_self
        · exact (noLower lower behind below).imp_right
            (List.mem_cons_of_mem _)

/-! Definitions that pass the check. -/

theorem validateParameters_ok
    {count : Nat}
    {parameters : List Parameter}
    (valid : validateParameters count claimed parameters = .ok ()) :
    (parameters.filterMap Parameter.register?).Nodup ∧
      ∀ register ∈ parameters.filterMap Parameter.register?,
        register < count ∧ register ∉ claimed := by
  induction parameters generalizing claimed with
  | nil => exact ⟨List.nodup_nil, nofun⟩
  | cons parameter rest inductionHypothesis =>
      rw [validateParameters] at valid
      cases claims : parameter.register? with
      | none =>
          rw [claims] at valid
          rw [List.filterMap_cons_none claims]
          exact inductionHypothesis valid
      | some register =>
          rw [claims] at valid
          dsimp only at valid
          split at valid
          · cases valid
          · rename_i inside
            split at valid
            · cases valid
            · rename_i unclaimed
              obtain ⟨distinct, fits⟩ := inductionHypothesis valid
              rw [List.filterMap_cons_some claims]
              refine ⟨List.nodup_cons.mpr ⟨?_, distinct⟩, ?_⟩
              · intro member
                exact (fits register member).2 List.mem_cons_self
              · intro other member
                rcases List.mem_cons.mp member with rfl | later
                · exact ⟨Nat.lt_of_not_le inside, unclaimed⟩
                · obtain ⟨small, apart⟩ := fits other later
                  exact ⟨small, fun also =>
                    apart (List.mem_cons_of_mem _ also)⟩

/-- Parameters claim different registers, all within the declared ones. -/
theorem claimedRegisters_of_valid
    (valid : definition.validate = .ok ()) :
    definition.claimedRegisters.Nodup ∧
      ∀ register ∈ definition.claimedRegisters,
        register < definition.registers.toNat := by
  unfold validate at valid
  split at valid
  · obtain ⟨distinct, fits⟩ := validateParameters_ok valid
    exact ⟨distinct, fun register member => (fits register member).1⟩
  · split at valid
    · cases valid
    · rename_i noClaims
      have none : definition.claimedRegisters = [] := by
        rw [claimedRegisters, List.filterMap_eq_nil_iff]
        intro parameter member
        simp only [List.any_eq_true, not_exists, not_and] at noClaims
        simpa using noClaims parameter member
      rw [none]
      exact ⟨List.nodup_nil, nofun⟩

/-- The values with registers are those that are asked for, in order. -/
theorem map_fst_preloadRegisters
    (valid : definition.validate = .ok ()) :
    definition.preloadRegisters.map Prod.fst =
      Preload.order.filter definition.flags.preloads := by
  unfold preloadRegisters
  split
  · exact map_fst_assignRegisters _ _ _
  · rename_i byName
    unfold validate at valid
    rw [if_neg byName] at valid
    split at valid
    · cases valid
    · split at valid
      · cases valid
      · rename_i noFlags
        have noBits : definition.flags.bits = 0 := by
          simpa [PreloadFlags.isEmpty] using noFlags
        have none : definition.flags = ⟨0⟩ := congrArg PreloadFlags.mk noBits
        rw [none]
        rfl

/-- Preloaded values have the lowest registers that are left, in turn. -/
theorem preloadRegisters_spec (definition : Definition) :
    (definition.preloadRegisters.map Prod.snd).Pairwise (· < ·) ∧
      ∀ register ∈ definition.preloadRegisters.map Prod.snd,
        1 ≤ register ∧ register ∉ definition.claimedRegisters ∧
          ∀ lower,
            1 ≤ lower →
              lower < register →
                lower ∈ definition.claimedRegisters ∨
                  lower ∈ definition.preloadRegisters.map Prod.snd := by
  unfold preloadRegisters
  split
  · exact assignRegisters_spec _ _ _
  · exact ⟨.nil, nofun⟩

private theorem le_foldl_max
    {count : Nat}
    {counts : List Nat}
    (member : count ∈ counts)
    (start : Nat) :
    count ≤ counts.foldl max start := by
  have grows (counts : List Nat) (start : Nat) :
      start ≤ counts.foldl max start := by
    induction counts generalizing start with
    | nil => exact Nat.le_refl _
    | cons first rest inductionHypothesis =>
        exact Nat.le_trans (Nat.le_max_left start first)
          (inductionHypothesis (max start first))
  induction counts generalizing start with
  | nil => cases member
  | cons first rest inductionHypothesis =>
      rcases List.mem_cons.mp member with rfl | later
      · exact Nat.le_trans (Nat.le_max_right start count)
          (grows rest (max start count))
      · exact inductionHypothesis later (max start first)

/-- A frame has room for every register in use. -/
theorem lt_frameRegisterCount
    {register : Nat}
    (used :
      register ∈ definition.claimedRegisters ∨
        register ∈ definition.preloadRegisters.map Prod.snd) :
    register < definition.frameRegisterCount := by
  rcases used with claims | holds
  · have counted : register + 1 ∈ definition.claimedRegisters.map (· + 1) :=
      List.mem_map_of_mem claims
    have fits := le_foldl_max counted 0
    unfold frameRegisterCount
    dsimp only
    omega
  · have increasing := (preloadRegisters_spec definition).1
    cases last : definition.preloadRegisters.getLast? with
    | none =>
        rw [List.getLast?_eq_none_iff.mp last] at holds
        cases holds
    | some final =>
        obtain ⟨before, shape⟩ := List.getLast?_eq_some_iff.mp last
        rw [shape, List.map_append, List.map_singleton] at increasing holds
        have notBehind : register ≤ final.2 := by
          rcases List.mem_append.mp holds with earlier | atEnd
          · exact Nat.le_of_lt
              ((List.pairwise_append.mp increasing).2.2 register earlier
                final.2 (List.mem_singleton_self _))
          · exact Nat.le_of_eq (List.mem_singleton.mp atEnd)
        unfold frameRegisterCount
        rw [last]
        dsimp only
        omega

/-- Parameters and preloaded values have registers that suit each other. -/
structure LaidOut (definition : Definition) : Prop where
  /-- The values are those asked for that no other bit suppresses, in order. -/
  inOrder : definition.preloadRegisters.map Prod.fst =
    Preload.order.filter definition.flags.preloads
  asked : ∀ kind,
    kind ∈ definition.preloadRegisters.map Prod.fst ↔
      definition.flags.contains (PreloadFlags.request kind) = true ∧
        ∀ suppressing,
          PreloadFlags.suppression? kind = some suppressing →
            definition.flags.contains suppressing = false
  increasing : (definition.preloadRegisters.map Prod.snd).Pairwise (· < ·)
  unclaimed : ∀ register ∈ definition.preloadRegisters.map Prod.snd,
    1 ≤ register ∧ register ∉ definition.claimedRegisters
  lowest : ∀ register ∈ definition.preloadRegisters.map Prod.snd,
    ∀ lower,
      1 ≤ lower →
        lower < register →
          lower ∈ definition.claimedRegisters ∨
            lower ∈ definition.preloadRegisters.map Prod.snd
  distinct : definition.claimedRegisters.Nodup
  inside : ∀ register,
    register ∈ definition.claimedRegisters ∨
        register ∈ definition.preloadRegisters.map Prod.snd →
      register < definition.frameRegisterCount

theorem laidOut_of_valid (valid : definition.validate = .ok ()) :
    definition.LaidOut := by
  have inOrder := map_fst_preloadRegisters valid
  obtain ⟨increasing, assigned⟩ := preloadRegisters_spec definition
  refine ⟨inOrder, ?_, increasing, ?_, ?_,
    (claimedRegisters_of_valid valid).1, fun register =>
      lt_frameRegisterCount⟩
  · intro kind
    have listed : kind ∈ Preload.order := by
      cases kind <;> decide
    rw [inOrder, List.mem_filter, PreloadFlags.preloads]
    cases PreloadFlags.suppression? kind <;> simp [listed]
  · intro register member
    exact ⟨(assigned register member).1, (assigned register member).2.1⟩
  · intro register member
    exact (assigned register member).2.2

end Definition

end MovieScript
