import MovieScript.Classes.Bootstrap
import MovieScript.Proofs.ActStability
import MovieScript.Proofs.HeapRun

namespace MovieScript

/-!
# Cutting texts

A cut is worked out in 64-bit arithmetic with a clamp, neither of which is
allowed to fail.  On every text that fits in memory they do not, and what the
cut comes to is simple: the characters from the start on, or so many of them.
That a text is put together again from its two parts, and that cuts can be done
one after the other, are then laws of lists.
-/

/-- The receiver is a text, or an object that boxes it. -/
inductive Machine.Denotes (machine : Machine) : Value → String → Prop where
  | primitive (text : String) : machine.Denotes (.text text) text
  | boxed
      {handle : Handle}
      {object : ScriptObject}
      {text : String}
      (live : machine.heap.get? handle = some object)
      (holds : object.content = .text text) :
      machine.Denotes (.object handle) text

namespace StringClass

/-- Text methods work on the text that their receiver stands for. -/
theorem receiverOf_denotes
    {machine : Machine}
    {receiver : Value}
    {text : String}
    (denotes : machine.Denotes receiver text) :
    (receiverOf receiver).run machine = .ok text machine := by
  cases denotes with
  | primitive => rfl
  | @boxed handle object _ live holds =>
      have found : machine.contentOf handle = .ok (.text text) := by
        rw [Machine.contentOf, Machine.object_of_get? live, ← holds]
        rfl
      rw [receiverOf, EStateM.run_bind, Edit.ask_run found]
      rfl

/-! In 64 bits nothing overflows, and the ends of the clamp are in order. -/

theorem fitting_eq
    {number : Int}
    (low : -2 ^ 63 ≤ number)
    (high : number < 2 ^ 63) :
    fitting number = .ok number := by
  have least : Int64.minValue.toInt = -2 ^ 63 := by decide
  have greatest : Int64.maxValue.toInt = 2 ^ 63 - 1 := by decide
  have above : Int64.minValue.toInt ≤ number := by omega
  have below : number ≤ Int64.maxValue.toInt := by omega
  simp only [fitting, above, below, decide_true, Bool.and_self, ↓reduceIte]

/-- The place of the first character that is cut out. -/
def firstPlace (length : Nat) (start : Int) : Nat :=
  min (if start < 0 then length + start else start).toNat length

/-- A start is counted from the front or from the end, and clamped. -/
theorem firstPlace_eq (length : Nat) (start : Int) :
    (firstPlace length start : Int) =
      max 0
        (min (length : Int)
          (if start < 0 then length + start else start)) := by
  rw [firstPlace]
  split <;> omega

theorem cutStart_eq
    {length : Nat}
    (short : length < 2 ^ 63)
    (start : Int32) :
    cutStart length start.toInt =
      .ok (firstPlace length start.toInt : Int) := by
  have low := start.le_toInt
  by_cases negative : start.toInt < 0
  · have sum :
        fitting (length + start.toInt) =
          .ok (length + start.toInt) :=
      fitting_eq (by omega) (by omega)
    simp only [cutStart, firstPlace, negative, ↓reduceIte, sum, bind,
      Except.bind, pure, Except.pure]
    congr 1
    omega
  · simp only [cutStart, firstPlace, negative, ↓reduceIte, bind,
      Except.bind, pure, Except.pure]
    congr 1
    omega

theorem cutLength_eq
    {length first : Nat}
    (short : length < 2 ^ 63)
    (inside : first ≤ length)
    (count : Option Int) :
    cutLength length first count =
      .ok
        (match count with
        | some count => (min count.toNat (length - first) : Nat)
        | none => (length - first : Nat)) := by
  have difference :
      fitting (length - first) = .ok (length - first : Nat) := by
    rw [fitting_eq (by omega) (by omega)]
    congr 1
    omega
  cases count with
  | none =>
      simp only [cutLength, difference, bind, Except.bind, pure,
        Except.pure]
  | some count =>
      have ordered : (0 : Int) ≤ (length - first : Nat) := by omega
      simp only [cutLength, difference, clamped, ordered, ↓reduceIte,
        bind, Except.bind]
      congr 1
      omega

/--
A cut takes so many characters from its start on, if there are so many, and
without a count all of them.
-/
theorem cut_eq
    {text : String}
    (short : text.length < 2 ^ 63)
    (start : Int32)
    (count : Option Int) :
    cut text start.toInt count =
      .ok
        (String.ofList
          ((text.toList.drop (firstPlace text.length start.toInt)).take
            (count.elim text.length Int.toNat))) := by
  have place : firstPlace text.length start.toInt ≤ text.length :=
    Nat.min_le_right _ _
  have greatest : Int64.maxValue.toInt = 2 ^ 63 - 1 := by decide
  have length :
      min (text.toList.length : Int) Int64.maxValue.toInt =
        text.length := by
    rw [String.length_toList]
    omega
  simp only [cut, length, cutStart_eq short, cutLength_eq short place,
    bind, Except.bind, pure, Except.pure, Int.toNat_natCast]
  congr 2
  rw [List.take_eq_take_iff, List.length_drop, String.length_toList]
  cases count with
  | none =>
      simp only [Option.elim_none, Int.toNat_natCast]
      omega
  | some count =>
      simp only [Option.elim_some, Int.toNat_natCast]
      omega

end StringClass

/--
`substr` with these numbers cuts the part out of the text that the receiver
stands for, and changes nothing.
-/
def Session.Cuts
    {σ : Type}
    (session : Session σ)
    (receiver : Value)
    (numbers : List Int32)
    (part : String) :
    Prop :=
  ∀ calls,
    Builtin.stringSubstr.run receiver (numbers.map .integer) calls session =
      .ok (.complete (.text part)) session

/-- The text that the receiver stands for has this length. -/
def Session.Measures
    {σ : Type}
    (session : Session σ)
    (receiver : Value)
    (length : Int32) :
    Prop :=
  ∀ calls,
    Builtin.stringLength.run receiver [] calls session =
      .ok (.complete (.integer length)) session

section Substr

open StringClass

variable {σ : Type} {session : Session σ} {receiver : Value}
variable {text : String}

/-- `substr(start)` is the text from its start on. -/
theorem Session.cuts_rest
    (denotes : session.machine.Denotes receiver text)
    (short : text.length < 2 ^ 31)
    (start : Int32) :
    session.Cuts receiver [start]
      (String.ofList
        (text.toList.drop (firstPlace text.length start.toInt))) := by
  intro calls
  have worked :
      cut text (Value.integer start).toInteger.toInt none =
        .ok
          (String.ofList
            (text.toList.drop (firstPlace text.length start.toInt))) := by
    change cut text start.toInt none = _
    rw [cut_eq (by omega), Option.elim_none, List.take_of_length_le]
    rw [List.length_drop, String.length_toList]
    exact Nat.sub_le _ _
  apply Builtin.completed_ok
  rw [List.map_singleton, substr, EStateM.run_bind,
    receiverOf_denotes denotes]
  dsimp only
  rw [EStateM.run_bind, Edit.ask_run worked]
  rfl

/-- `substr(start, count)` is so many characters from the start on. -/
theorem Session.cuts_counted
    (denotes : session.machine.Denotes receiver text)
    (short : text.length < 2 ^ 31)
    (start count : Int32) :
    session.Cuts receiver [start, count]
      (String.ofList
        ((text.toList.drop (firstPlace text.length start.toInt)).take
          count.toInt.toNat)) := by
  intro calls
  have worked :
      cut text (Value.integer start).toInteger.toInt
          (some (Value.integer count).toInteger.toInt) =
        _ :=
    cut_eq (by omega) start (some count.toInt)
  apply Builtin.completed_ok
  rw [List.map_cons, List.map_singleton, substr, EStateM.run_bind,
    receiverOf_denotes denotes]
  dsimp only
  rw [EStateM.run_bind, Edit.ask_run worked]
  rfl

/-- The length of a text is the number of its characters. -/
theorem Session.measures_text
    (text : String)
    (short : text.length < 2 ^ 31) :
    session.Measures (.text text) (Int32.ofNat text.length) := by
  intro calls
  apply Builtin.completed_ok
  rw [EStateM.run_bind, receiverOf_denotes (.primitive text)]
  simp only [lengthValue, Nat.pow_eq, short, ↓reduceIte]
  rfl

/-- The first characters of a text and the rest are all of it. -/
theorem ofList_take_append_drop (text : String) (count : Nat) :
    String.ofList (text.toList.take count) ++
        String.ofList (text.toList.drop count) =
      text := by
  rw [← String.ofList_append, List.take_append_drop, String.ofList_toList]

/-- The length of a part that is cut out. -/
theorem Session.measures_counted
    (short : text.length < 2 ^ 31)
    (place : Nat)
    (inside : place ≤ text.length)
    (count : Int32) :
    ∃ length : Int32,
      session.Measures
          (.text
            (String.ofList
              ((text.toList.drop place).take count.toInt.toNat)))
          length ∧
        length.toInt = min (max count.toInt 0) (text.length - place) := by
  have measured :
      (String.ofList
          ((text.toList.drop place).take count.toInt.toNat)).length =
        min count.toInt.toNat (text.length - place) := by
    rw [String.length_ofList, List.length_take, List.length_drop,
      String.length_toList]
  refine ⟨_, Session.measures_text _ ?_, ?_⟩
  · omega
  · rw [Int32.toInt_ofNat_of_lt]
    · omega
    · omega

/-- Cuts on both sides of a place put the text together again. -/
theorem Session.cuts_split
    (denotes : session.machine.Denotes receiver text)
    (short : text.length < 2 ^ 31)
    {count place : Int32}
    (same :
      min count.toInt.toNat text.length =
        firstPlace text.length place.toInt) :
    ∃ front back,
      session.Cuts receiver [0, count] front ∧
        session.Cuts receiver [place] back ∧
          front ++ back = text := by
  refine ⟨_, _, session.cuts_counted denotes short 0 count,
    session.cuts_rest denotes short place, ?_⟩
  have whole : firstPlace text.length (0 : Int32).toInt = 0 := by
    simp [firstPlace]
  have behind :
      text.toList.drop (firstPlace text.length place.toInt) =
        text.toList.drop count.toInt.toNat := by
    rw [List.drop_eq_drop_iff, String.length_toList]
    omega
  rw [whole, List.drop_zero, behind, ofList_take_append_drop]

/-- A cut of a cut is a cut. -/
theorem Session.cuts_cuts
    (denotes : session.machine.Denotes receiver text)
    (short : text.length < 2 ^ 31)
    {first second sum : Int32}
    (fromFront : 0 ≤ first.toInt)
    (further : 0 ≤ second.toInt)
    (together : sum.toInt = first.toInt + second.toInt) :
    ∃ part rest,
      session.Cuts receiver [first] part ∧
        session.Cuts (.text part) [second] rest ∧
          session.Cuts receiver [sum] rest := by
  have cuts := session.cuts_rest denotes short first
  have measured :
      (String.ofList
          (text.toList.drop
            (firstPlace text.length first.toInt))).length =
        text.length - firstPlace text.length first.toInt := by
    rw [String.length_ofList, List.length_drop, String.length_toList]
  have shorter :
      (String.ofList
          (text.toList.drop
            (firstPlace text.length first.toInt))).length <
        2 ^ 31 := by
    omega
  refine ⟨_, _, cuts,
    session.cuts_rest (.primitive _) shorter second, ?_⟩
  have samePlace :
      (text.toList.drop (firstPlace text.length first.toInt)).drop
          (firstPlace
            (text.length - firstPlace text.length first.toInt)
            second.toInt) =
        text.toList.drop (firstPlace text.length sum.toInt) := by
    rw [List.drop_drop, List.drop_eq_drop_iff, String.length_toList,
      firstPlace, firstPlace, firstPlace, if_neg (by omega),
      if_neg (by omega), if_neg (by omega)]
    omega
  rw [measured, String.toList_ofList, samePlace]
  exact session.cuts_rest denotes short sum

/--
`substr` cuts texts consistently on characters.  It never fails, what it cuts
out is the run of characters of the text from the clamped start on, and its
length is as much of the count as the text has from there on; without a count
the run goes to the end of the text.  A text is put together again from its first
characters and the rest of it, whether the place between the two is counted from
the front or from the end, and two cuts one after the other are one.
-/
theorem Session.substr_consistent
    (denotes : session.machine.Denotes receiver text)
    (short : text.length < 2 ^ 31) :
    (∀ start count : Int32,
      ∃ (place : Nat) (part : String) (length : Int32),
        (place : Int) =
            max 0
              (min (text.length : Int)
                (if start.toInt < 0 then
                  text.length + start.toInt
                else
                  start.toInt)) ∧
          session.Cuts receiver [start, count] part ∧
            part.toList =
                (text.toList.drop place).take count.toInt.toNat ∧
              part.toList <:+: text.toList ∧
                session.Measures (.text part) length ∧
                  length.toInt =
                    min (max count.toInt 0) (text.length - place)) ∧
    (∀ start : Int32,
      ∃ (place : Nat) (part : String),
        (place : Int) =
            max 0
              (min (text.length : Int)
                (if start.toInt < 0 then
                  text.length + start.toInt
                else
                  start.toInt)) ∧
          session.Cuts receiver [start] part ∧
            part.toList = text.toList.drop place ∧
              part.toList <:+ text.toList) ∧
    (∀ place : Int32,
      0 ≤ place.toInt →
        ∃ front back,
          session.Cuts receiver [0, place] front ∧
            session.Cuts receiver [place] back ∧
              front ++ back = text) ∧
    (∀ place : Int32,
      -text.length ≤ place.toInt →
        place.toInt < 0 →
          ∃ front back,
            session.Cuts receiver
                [0, Int32.ofInt (text.length + place.toInt)] front ∧
              session.Cuts receiver [place] back ∧
                front ++ back = text) ∧
    ∀ first second : Int32,
      0 ≤ first.toInt →
        0 ≤ second.toInt →
          first.toInt + second.toInt < 2 ^ 31 →
            ∃ part rest,
              session.Cuts receiver [first] part ∧
                session.Cuts (.text part) [second] rest ∧
                  session.Cuts receiver [first + second] rest := by
  refine ⟨?_, ?_, ?_, ?_, ?_⟩
  · intro start count
    obtain ⟨length, measures, counted⟩ :=
      session.measures_counted short (firstPlace text.length start.toInt)
        (Nat.min_le_right _ _) count
    refine ⟨_, _, length, firstPlace_eq _ _,
      session.cuts_counted denotes short start count, String.toList_ofList,
      ?_, measures, counted⟩
    rw [String.toList_ofList]
    exact (List.take_prefix _ _).isInfix.trans (List.drop_suffix _ _).isInfix
  · intro start
    refine ⟨_, _, firstPlace_eq _ _, session.cuts_rest denotes short start,
      String.toList_ofList, ?_⟩
    rw [String.toList_ofList]
    exact List.drop_suffix _ _
  · intro place fromFront
    apply session.cuts_split denotes short
    rw [firstPlace, if_neg (by omega)]
  · intro place fromEnd negative
    have inRange :
        (Int32.ofInt (text.length + place.toInt)).toInt =
          text.length + place.toInt :=
      Int32.toInt_ofInt_of_le (by omega) (by omega)
    apply session.cuts_split denotes short
    rw [inRange, firstPlace, if_pos negative]
  · intro first second fromFront further inRange
    apply session.cuts_cuts denotes short fromFront further
    rw [Int32.toInt_add]
    apply Int.bmod_eq_of_le <;> omega

end Substr

/-- A machine with one object, which boxes a text. -/
def Machine.lettered : Machine :=
  { Machine.bare .standard 0 with
    heap := Heap.run [.alloc (.new none (.text "héllo wörld"))] }

/-- Two characters from the middle, and the text cut before its last four. -/
theorem Session.substr_consistent_lettered :
    Machine.lettered.Denotes (.object ⟨0, 0⟩) "héllo wörld" ∧
      "héllo wörld".length < 2 ^ 31 ∧
        (∃ length : Int32,
          Session.Cuts ⟨Machine.lettered, ()⟩ (.object ⟨0, 0⟩) [7, 2]
              "ör" ∧
            Session.Measures ⟨Machine.lettered, ()⟩ (.text "ör") length ∧
              length.toInt = 2) ∧
          ∃ front back,
            Session.Cuts ⟨Machine.lettered, ()⟩ (.object ⟨0, 0⟩)
                [0, Int32.ofInt (("héllo wörld".length : Int) + -4)]
                front ∧
              Session.Cuts ⟨Machine.lettered, ()⟩ (.object ⟨0, 0⟩) [-4]
                back ∧
                front ++ back = "héllo wörld" := by
  have denotes :
      Machine.lettered.Denotes (.object ⟨0, 0⟩) "héllo wörld" :=
    .boxed rfl rfl
  have eleven : "héllo wörld".length = 11 := by decide +kernel
  have short : "héllo wörld".length < 2 ^ 31 := by
    rw [eleven]
    decide
  obtain ⟨cuts, -, -, fromEnd, -⟩ :=
    @Session.substr_consistent Unit ⟨Machine.lettered, ()⟩ _ _ denotes
      short
  refine ⟨denotes, short, ?_, ?_⟩
  · obtain ⟨place, part, length, isPlace, cut, isPart, -, measures, counted⟩ :=
      cuts 7 2
    have seven : place = 7 := by
      rw [eleven] at isPlace
      exact Int.ofNat.inj isPlace
    subst seven
    obtain rfl : part = "ör" :=
      String.toList_inj.mp (isPart.trans (by decide +kernel))
    refine ⟨length, cut, measures, ?_⟩
    rw [counted, eleven]
    decide
  · refine fromEnd (-4) ?_ (by decide)
    rw [eleven]
    decide

end MovieScript
