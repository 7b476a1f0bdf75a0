import MovieScript.ElementName

namespace MovieScript

/-!
# Element names

An index has one name, its decimal form, and a name stands for the index that
it is the decimal form of.  Digits without a leading zero are the decimal form
of their value, so nothing but the forms themselves is read as an index.
-/

namespace Decimal

/-- The value of digits as the library computes it. -/
private theorem digitsValue_eq_ofDigitChars (digits : List Char) :
    digitsValue digits = Nat.ofDigitChars 10 digits 0 := by
  simp only [digitsValue, Nat.ofDigitChars, Nat.mul_comm]

/-- A digit is the character of its own value. -/
private theorem digitChar_toNat
    {digit : Char}
    (isDigit : digit.isDigit = true) :
    digit.toNat - '0'.toNat < 10 ∧
      Nat.digitChar (digit.toNat - '0'.toNat) = digit := by
  have range : 48 ≤ digit.toNat ∧ digit.toNat ≤ 57 := by
    simpa [Char.isDigit, UInt32.le_iff_toNat_le] using isDigit
  have small : digit.toNat - '0'.toNat < 10 := by
    change digit.toNat - 48 < 10
    omega
  refine ⟨small, ?_⟩
  apply Char.toNat_inj.mp
  rw [Nat.toNat_digitChar_of_lt_ten small]
  exact Nat.add_sub_of_le range.1

/-- Digits behind a positive number are the last digits of the whole. -/
private theorem toDigits_ofDigitChars_append
    {digits : List Char}
    (allDigits : ∀ digit ∈ digits, digit.isDigit = true)
    {leading : Nat}
    (positive : 0 < leading) :
    Nat.toDigits 10 (Nat.ofDigitChars 10 digits leading) =
      Nat.toDigits 10 leading ++ digits := by
  induction digits generalizing leading with
  | nil =>
      simp
  | cons digit rest inductionHypothesis =>
      obtain ⟨small, sameChar⟩ := digitChar_toNat (allDigits digit (by simp))
      have appended :=
        Nat.toDigits_append_toDigits (b := 10) (by decide) positive small
      rw [Nat.toDigits_of_lt_base small, sameChar] at appended
      rw [Nat.ofDigitChars_cons,
        inductionHypothesis (fun other member =>
          allDigits other (List.mem_cons_of_mem digit member)) (by omega),
        ← appended]
      simp

/-- Digits without a leading zero are the decimal form of their value. -/
theorem toDigits_digitsValue
    {first : Char}
    {rest : List Char}
    (allDigits : ∀ digit ∈ first :: rest, digit.isDigit = true)
    (noLeadingZero : first = '0' → rest = []) :
    Nat.toDigits 10 (digitsValue (first :: rest)) = first :: rest := by
  obtain ⟨small, sameChar⟩ := digitChar_toNat (allDigits first (by simp))
  rw [digitsValue_eq_ofDigitChars, Nat.ofDigitChars_cons]
  by_cases zero : first = '0'
  · rw [noLeadingZero zero, zero]
    decide
  · have positive : 0 < 10 * 0 + (first.toNat - '0'.toNat) := by
      apply Nat.pos_of_ne_zero
      intro none
      apply zero
      rw [← sameChar]
      simpa using none
    rw [toDigits_ofDigitChars_append
      (fun digit member => allDigits digit (List.mem_cons_of_mem _ member))
      positive, Nat.mul_zero, Nat.zero_add,
      Nat.toDigits_of_lt_base small, sameChar]
    rfl

/-- A decimal form of more than one digit does not begin with a zero. -/
private theorem head?_toDigits_ne_zero
    {number : Nat}
    (positive : 0 < number) :
    (Nat.toDigits 10 number).head? ≠ some '0' := by
  induction number using Nat.strongRecOn with
  | ind number inductionHypothesis =>
      by_cases small : number < 10
      · have notZero : number ≠ 0 := Nat.pos_iff_ne_zero.mp positive
        simp [Nat.toDigits_of_lt_base small, notZero]
      · have shorter : 0 < number / 10 :=
          Nat.div_pos (Nat.not_lt.mp small) (by decide)
        have ofShorter := inductionHypothesis (number / 10)
          (Nat.div_lt_self positive (by decide)) shorter
        rw [Nat.toDigits_of_base_le (by decide) (Nat.not_lt.mp small)]
        cases shape : Nat.toDigits 10 (number / 10) with
        | nil => exact absurd shape Nat.toDigits_ne_nil
        | cons first rest => simpa [shape] using ofShorter

end Decimal

/-! ## Reading digits below the bound -/

private theorem asIndex?_of_lt
    {number : Nat}
    (bounded : number < indexBound) :
    asIndex? number = some number :=
  if_pos bounded

private theorem asIndex?_of_le
    {number : Nat}
    (reached : indexBound ≤ number) :
    asIndex? number = none :=
  if_neg (Nat.not_lt.mpr reached)

/-- A number does not shrink when digits are written behind it. -/
private theorem le_ofDigitChars
    (digits : List Char)
    (leading : Nat) :
    leading ≤ Nat.ofDigitChars 10 digits leading := by
  induction digits generalizing leading with
  | nil =>
      simp
  | cons digit rest inductionHypothesis =>
      rw [Nat.ofDigitChars_cons]
      exact Nat.le_trans (by omega) (inductionHypothesis _)

/-- Of the two bounds of appending a digit only that of the result counts. -/
private theorem appendDigit?_eq
    (index : Nat)
    (digit : Char) :
    appendDigit? index digit =
      asIndex? (10 * index + (digit.toNat - '0'.toNat)) := by
  rw [appendDigit?, Nat.mul_comm index]
  by_cases bounded : 10 * index < indexBound
  · rw [asIndex?_of_lt bounded]
    rfl
  · rw [asIndex?_of_le (by omega), asIndex?_of_le (by omega)]
    rfl

/--
Digits are read as far as the number stays below the bound.  A number that has
reached the bound does not come back, so only the whole number counts.
-/
private theorem foldlM_appendDigit?
    (digits : List Char)
    {leading : Nat}
    (bounded : leading < indexBound) :
    digits.foldlM appendDigit? leading =
      asIndex? (Nat.ofDigitChars 10 digits leading) := by
  induction digits generalizing leading with
  | nil =>
      exact (asIndex?_of_lt bounded).symm
  | cons digit rest inductionHypothesis =>
      rw [List.foldlM_cons, appendDigit?_eq, Nat.ofDigitChars_cons]
      by_cases longer :
          10 * leading + (digit.toNat - '0'.toNat) < indexBound
      · rw [asIndex?_of_lt longer]
        exact inductionHypothesis longer
      · have grown := le_ofDigitChars rest
          (10 * leading + (digit.toNat - '0'.toNat))
        rw [asIndex?_of_le (by omega), asIndex?_of_le (by omega)]
        rfl

/-- What is asked of a name, and the index that it then stands for. -/
private theorem elementIndex?_eq_some_iff_digits
    {name : String}
    {index : Nat} :
    elementIndex? name = some index ↔
      name ≠ "" ∧
        (∀ character ∈ name.toList, character.isDigit = true) ∧
          (∀ second rest, name.toList ≠ '0' :: second :: rest) ∧
            Decimal.digitsValue name.toList = index ∧ index < indexBound := by
  have bounded : 0 < indexBound := by decide
  rw [elementIndex?, foldlM_appendDigit? _ bounded,
    ← Decimal.digitsValue_eq_ofDigitChars, ne_eq, ← String.toList_eq_nil_iff]
  rcases shape : name.toList with _ | ⟨first, _ | ⟨second, rest⟩⟩ <;>
    grind [asIndex?]

/-- The decimal form of an index is what is asked of a name. -/
private theorem toList_elementName (index : Nat) :
    (elementName index).toList = Nat.toDigits 10 index := by
  rw [elementName, Nat.toString_eq_ofList_toDigits, String.toList_ofList]

/-- A name stands for an index exactly if it is the decimal form of it. -/
theorem elementIndex?_eq_some_iff
    {name : String}
    {index : Nat} :
    elementIndex? name = some index ↔
      name = elementName index ∧ index < indexBound := by
  rw [elementIndex?_eq_some_iff_digits]
  constructor
  · rintro ⟨nonempty, allDigits, canonical, rfl, bounded⟩
    refine ⟨?_, bounded⟩
    rw [← String.toList_inj, toList_elementName]
    cases shape : name.toList with
    | nil => exact absurd (String.toList_eq_nil_iff.mp shape) nonempty
    | cons first rest =>
        rw [shape] at allDigits canonical
        rw [Decimal.toDigits_digitsValue allDigits]
        rintro rfl
        cases rest with
        | nil => rfl
        | cons second others => exact absurd rfl (canonical second others)
  · rintro ⟨rfl, bounded⟩
    rw [ne_eq, ← String.toList_eq_nil_iff, toList_elementName]
    refine ⟨Nat.toDigits_ne_nil, ?_, ?_, ?_, bounded⟩
    · intro digit member
      exact Nat.isDigit_of_mem_toDigits (by decide) (by decide) member
    · intro second rest leadingZero
      by_cases positive : 0 < index
      · apply Decimal.head?_toDigits_ne_zero positive
        rw [leadingZero]
        rfl
      · obtain rfl : index = 0 := by omega
        simp [Nat.toDigits_zero] at leadingZero
    · rw [Decimal.digitsValue_eq_ofDigitChars,
        Nat.ofDigitChars_ten_toDigits]

/-- A digit is one of the ten from `0` to `9`. -/
private theorem isDigit_iff (character : Char) :
    character.isDigit = true ↔ '0' ≤ character ∧ character ≤ '9' := by
  simp [Char.isDigit, Char.le_def]

/--
Reading the name of an element is the inverse of writing it.  A name stands for
an index exactly if the index is below the bound and the name is its decimal
form, so no two names stand for the same element.  Whatever else there is is no
name of an element: the empty name, a name with a character that is not one of
the ten digits (a sign, a blank, a digit of another script), a name with a zero
in front of other characters, and digits whose value reaches the bound.
-/
theorem elementIndex?_inverts_elementName (name : String) :
    (∀ index,
        elementIndex? name = some index ↔
          index < indexBound ∧ name = elementName index) ∧
      (∀ other index,
        elementIndex? name = some index →
          elementIndex? other = some index → name = other) ∧
        (elementIndex? name = none ↔
          name = "" ∨
            (∃ character ∈ name.toList, character < '0' ∨ '9' < character) ∨
              (∃ second rest, name.toList = '0' :: second :: rest) ∨
                indexBound ≤ Decimal.digitsValue name.toList) := by
  refine ⟨?_, ?_, ?_⟩
  · intro index
    rw [elementIndex?_eq_some_iff, and_comm]
  · intro other index named otherNamed
    rw [(elementIndex?_eq_some_iff.mp named).1,
      (elementIndex?_eq_some_iff.mp otherNamed).1]
  · rw [Option.eq_none_iff_forall_ne_some]
    simp only [ne_eq, elementIndex?_eq_some_iff_digits, isDigit_iff]
    constructor
    · intro refused
      apply Classical.byContradiction
      intro accepted
      simp only [not_or, not_exists, not_and, Nat.not_le,
        Char.not_lt] at accepted
      exact refused _ ⟨accepted.1, accepted.2.1, accepted.2.2.1, rfl,
        accepted.2.2.2⟩
    · rintro reason index ⟨nonempty, digits, canonical, rfl, bounded⟩
      rcases reason with empty | ⟨character, member, outside⟩ |
        ⟨second, rest, leadingZero⟩ | reached
      · exact nonempty empty
      · have inside := digits character member
        rw [← Char.not_le, ← Char.not_le] at outside
        exact outside.elim (· inside.1) (· inside.2)
      · exact canonical second rest leadingZero
      · omega

example :
    elementIndex? "18446744073709551615" = some 18446744073709551615 ∧
      elementIndex? "18446744073709551616" = none := by
  decide +kernel

end MovieScript
