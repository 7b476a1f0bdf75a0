import MovieScript.Frame

namespace MovieScript

/-!
# The instruction cursor

Five operations move the cursor of a frame: three reads and two jumps.  Each has
a destination, and it succeeds exactly if the destination is a byte of the code
or the place just behind the last one.  What one operation can do is said once,
by `CursorStep.Outcome`; that the cursor never leaves the code, whatever sequence
of operations was tried before, follows from it.

An operation that fails leaves the cursor where it was, with one exception.  A
read of two bytes takes them one by one, so if the code ends between the two, the
first is gone when the read fails and the frame looks as if its code had come to
a proper end.
-/

/-- An operation on the instruction cursor, with the type of its answer. -/
inductive CursorStep : Type → Type where
  | readByte : CursorStep UInt8
  | readWord : CursorStep UInt16
  | readSignedWord : CursorStep Int16
  | jumpTo (target : Nat) : CursorStep Unit
  | jumpBy (distance : Int) : CursorStep Unit

namespace Frame

/-- The frame with its cursor at another place. -/
def movedTo
    (frame : Frame)
    (position : Nat) :
    Frame :=
  { frame with position := position }

@[simp]
theorem position_movedTo (frame : Frame) (position : Nat) :
    (frame.movedTo position).position = position :=
  rfl

@[simp]
theorem code_movedTo (frame : Frame) (position : Nat) :
    (frame.movedTo position).code = frame.code :=
  rfl

/-- The next bytes of the code, as many as there are of those asked for. -/
def upcoming
    (frame : Frame)
    (count : Nat) :
    List UInt8 :=
  (frame.code.toList.drop frame.position).take count

end Frame

/-- The number that bytes stand for, the lowest byte first. -/
def littleEndian : List UInt8 → Nat
  | [] => 0
  | byte :: rest => byte.toNat + 256 * littleEndian rest

namespace CursorStep

variable {α : Type}

/-- What an operation does to a frame. -/
def perform : CursorStep α → FrameEdit α
  | .readByte => Frame.readByte
  | .readWord => Frame.readWord
  | .readSignedWord => Frame.readSignedWord
  | .jumpTo target => Frame.jumpTo target
  | .jumpBy distance => Frame.jumpBy distance

/-- Where an operation moves the cursor if it succeeds. -/
def destination
    (frame : Frame) :
    CursorStep α → Int
  | .readByte => frame.position + 1
  | .readWord => frame.position + 2
  | .readSignedWord => frame.position + 2
  | .jumpTo target => target
  | .jumpBy distance => frame.position + distance

/-- The destination is a byte of the code or the place behind the last one. -/
def Lands
    (step : CursorStep α)
    (frame : Frame) :
    Prop :=
  0 ≤ step.destination frame ∧ step.destination frame ≤ frame.code.size

/-- The answer of a read is the number that the next bytes stand for. -/
def Answers
    (frame : Frame) :
    CursorStep α → α → Prop
  | .readByte, byte => byte.toNat = littleEndian (frame.upcoming 1)
  | .readWord, word => word.toNat = littleEndian (frame.upcoming 2)
  | .readSignedWord, word =>
      word.toInt = Int.bmod (littleEndian (frame.upcoming 2)) 65536
  | .jumpTo _, _ => True
  | .jumpBy _, _ => True

/-- The code ends after the first of the two bytes that are read. -/
def CutShort
    (frame : Frame) :
    CursorStep α → Prop
  | .readWord => frame.position + 1 = frame.code.size
  | .readSignedWord => frame.position + 1 = frame.code.size
  | _ => False

/-- How an operation can end. -/
inductive Outcome
    (step : CursorStep α)
    (frame : Frame) :
    EStateM.Result Fault Frame α → Prop where
  | done {answer : α} {position : Nat}
      (lands : step.Lands frame)
      (moved : step.destination frame = position)
      (answers : step.Answers frame answer) :
      Outcome step frame (.ok answer (frame.movedTo position))
  | refused {fault : Fault}
      (misses : ¬step.Lands frame)
      (whole : ¬step.CutShort frame) :
      Outcome step frame (.error fault frame)
  | cut {fault : Fault}
      (half : step.CutShort frame) :
      Outcome step frame (.error fault (frame.movedTo frame.code.size))

end CursorStep

namespace Frame

variable {frame : Frame}

/-- Work that looks at the frame first goes on with that frame. -/
private theorem get_bind
    {α : Type}
    (next : Frame → FrameEdit α) :
    ((get : FrameEdit Frame) >>= next) frame = next frame frame :=
  rfl

theorem readByte_inside
    (inside : frame.position < frame.code.size) :
    readByte frame =
      .ok frame.code[frame.position]
        (frame.movedTo (frame.position + 1)) := by
  have byte := Array.getElem?_eq_getElem inside
  simp only [readByte, get_bind, byte]
  rfl

theorem readByte_past
    (past : frame.code.size ≤ frame.position) :
    readByte frame = .error (.readPastEnd frame.position) frame := by
  have noByte := Array.getElem?_eq_none past
  simp only [readByte, get_bind, noByte]
  rfl

theorem readWord_inside
    (inside : frame.position + 1 < frame.code.size) :
    readWord frame =
      .ok (frame.code[frame.position].toUInt16 |||
          (frame.code[frame.position + 1].toUInt16 <<< 8))
        (frame.movedTo (frame.position + 2)) := by
  have first : readByte frame = _ := readByte_inside (by omega)
  have second : readByte (frame.movedTo (frame.position + 1)) = _ :=
    readByte_inside inside
  simp only [readWord, bind, EStateM.bind, first, second]
  rfl

theorem readWord_cutShort
    (last : frame.position + 1 = frame.code.size) :
    readWord frame =
      .error (.readPastEnd frame.code.size)
        (frame.movedTo frame.code.size) := by
  have first : readByte frame = _ := readByte_inside (by omega)
  have second : readByte (frame.movedTo (frame.position + 1)) = _ :=
    readByte_past (by simp [last])
  rw [← last]
  simp only [readWord, bind, EStateM.bind, first, second, position_movedTo]

theorem readWord_past
    (past : frame.code.size ≤ frame.position) :
    readWord frame = .error (.readPastEnd frame.position) frame := by
  simp only [readWord, bind, EStateM.bind, readByte_past past]

theorem jumpTo_inside
    {target : Nat}
    (inside : target ≤ frame.code.size) :
    jumpTo target frame = .ok () (frame.movedTo target) := by
  have notBehind : ¬frame.code.size < target := by omega
  rw [jumpTo, get_bind, if_neg notBehind]
  rfl

theorem jumpTo_behind
    {target : Nat}
    (behind : frame.code.size < target) :
    jumpTo target frame =
      .error (.jumpBehindEnd target frame.code.size) frame := by
  rw [jumpTo, get_bind, if_pos behind]
  rfl

theorem jumpBy_before
    {distance : Int}
    (before : frame.position + distance < 0) :
    jumpBy distance frame =
      .error (.jumpBeforeStart (frame.position + distance)) frame := by
  rw [jumpBy, get_bind, if_pos before]
  rfl

theorem jumpBy_eq_jumpTo
    {distance : Int}
    (notBefore : 0 ≤ frame.position + distance) :
    jumpBy distance frame =
      jumpTo (frame.position + distance).toNat frame := by
  have after : ¬frame.position + distance < 0 := by omega
  rw [jumpBy, get_bind, if_neg after]

/-! ## The bytes that are read -/

theorem littleEndian_upcoming_one
    (inside : frame.position < frame.code.size) :
    littleEndian (frame.upcoming 1) =
      frame.code[frame.position].toNat := by
  rw [upcoming, List.drop_eq_getElem_cons (by simpa using inside)]
  simp [littleEndian]

theorem littleEndian_upcoming_two
    (inside : frame.position + 1 < frame.code.size) :
    littleEndian (frame.upcoming 2) =
      frame.code[frame.position].toNat +
        256 * frame.code[frame.position + 1].toNat := by
  rw [upcoming,
    List.drop_eq_getElem_cons (by simpa using Nat.lt_of_succ_lt inside),
    List.drop_eq_getElem_cons (by simpa using inside)]
  simp [littleEndian]

/-- Two bytes put together are the number that they stand for. -/
theorem toNat_joined (low high : UInt8) :
    (low.toUInt16 ||| (high.toUInt16 <<< 8)).toNat =
      low.toNat + 256 * high.toNat := by
  have lowBound : low.toNat < 2 ^ 8 := low.toNat_lt
  have highBound := high.toNat_lt
  have shifted : (high.toUInt16 <<< 8).toNat = high.toNat <<< 8 := by
    simp [UInt16.toNat_shiftLeft, Nat.shiftLeft_eq]
    omega
  rw [UInt16.toNat_or, shifted, UInt8.toNat_toUInt16, Nat.or_comm,
    ← Nat.shiftLeft_add_eq_or_of_lt lowBound, Nat.shiftLeft_eq]
  omega

end Frame

namespace CursorStep

variable {α : Type} {frame : Frame}

theorem lands_readByte :
    readByte.Lands frame ↔ frame.position + 1 ≤ frame.code.size := by
  simp only [Lands, destination]
  omega

theorem lands_readWord :
    readWord.Lands frame ↔ frame.position + 2 ≤ frame.code.size := by
  simp only [Lands, destination]
  omega

theorem lands_jumpTo
    {target : Nat} :
    (jumpTo target).Lands frame ↔ target ≤ frame.code.size := by
  simp only [Lands, destination]
  omega

/-- A read that is cut short has one byte left, and would lead too far. -/
theorem CutShort.only_one_left
    {step : CursorStep α}
    (half : step.CutShort frame) :
    frame.position + 1 = frame.code.size ∧ ¬step.Lands frame := by
  have tooFar :
      frame.position + 1 = frame.code.size → ¬readWord.Lands frame := by
    rw [lands_readWord]
    omega
  cases step with
  | readWord => exact ⟨half, tooFar half⟩
  | readSignedWord => exact ⟨half, tooFar half⟩
  | readByte => exact half.elim
  | jumpTo target => exact half.elim
  | jumpBy distance => exact half.elim

private theorem outcome_readByte (frame : Frame) :
    readByte.Outcome frame (Frame.readByte frame) := by
  by_cases inside : frame.position < frame.code.size
  · rw [Frame.readByte_inside inside]
    exact .done (lands_readByte.mpr inside) rfl
      (Frame.littleEndian_upcoming_one inside).symm
  · rw [Frame.readByte_past (Nat.not_lt.mp inside)]
    exact .refused (mt lands_readByte.mp inside) id

private theorem outcome_readWord (frame : Frame) :
    readWord.Outcome frame (Frame.readWord frame) := by
  by_cases inside : frame.position + 1 < frame.code.size
  · rw [Frame.readWord_inside inside]
    refine .done (lands_readWord.mpr inside) rfl ?_
    rw [Answers, Frame.littleEndian_upcoming_two inside,
      Frame.toNat_joined]
  · by_cases last : frame.position + 1 = frame.code.size
    · rw [Frame.readWord_cutShort last]
      exact .cut last
    · rw [Frame.readWord_past (by omega)]
      exact .refused (mt lands_readWord.mp inside) last

/-- A signed read is a read, with another meaning of the answer. -/
private theorem outcome_readSignedWord (frame : Frame) :
    readSignedWord.Outcome frame (Frame.readSignedWord frame) := by
  have read := outcome_readWord frame
  simp only [Frame.readSignedWord, bind, EStateM.bind]
  generalize Frame.readWord frame = result at read ⊢
  cases read with
  | @done word _ lands moved answers =>
      have unsigned : word.toNat = littleEndian (frame.upcoming 2) :=
        answers
      have signed : word.toInt16.toInt = Int.bmod word.toNat 65536 :=
        word.toBitVec.toInt_eq_toNat_bmod
      rw [unsigned] at signed
      exact .done lands moved signed
  | refused misses whole => exact .refused misses whole
  | cut half => exact .cut half

private theorem outcome_jumpTo
    (target : Nat)
    (frame : Frame) :
    (jumpTo target).Outcome frame (Frame.jumpTo target frame) := by
  by_cases inside : target ≤ frame.code.size
  · rw [Frame.jumpTo_inside inside]
    exact .done (lands_jumpTo.mpr inside) rfl trivial
  · rw [Frame.jumpTo_behind (Nat.not_le.mp inside)]
    exact .refused (mt lands_jumpTo.mp inside) id

/-- A jump by a distance leads before the code, or it is a jump to its target. -/
private theorem outcome_jumpBy
    (distance : Int)
    (frame : Frame) :
    (jumpBy distance).Outcome frame (Frame.jumpBy distance frame) := by
  by_cases before : frame.position + distance < 0
  · rw [Frame.jumpBy_before before]
    exact .refused (fun lands => Int.not_lt.mpr lands.1 before) id
  · have jump := outcome_jumpTo (frame.position + distance).toNat frame
    have sameTarget :
        (jumpTo (frame.position + distance).toNat).destination frame =
          (jumpBy distance).destination frame := by
      simp only [destination]
      omega
    rw [Frame.jumpBy_eq_jumpTo (Int.not_lt.mp before)]
    generalize Frame.jumpTo _ frame = result at jump ⊢
    cases jump with
    | done lands moved answers =>
        rw [Lands, sameTarget] at lands
        exact .done lands (sameTarget ▸ moved) trivial
    | refused misses whole =>
        rw [Lands, sameTarget] at misses
        exact .refused misses id
    | cut half => exact half.elim

/-- Each operation ends in one of the three ways. -/
theorem outcome_perform
    (step : CursorStep α)
    (frame : Frame) :
    step.Outcome frame (step.perform frame) := by
  cases step with
  | readByte => exact outcome_readByte frame
  | readWord => exact outcome_readWord frame
  | readSignedWord => exact outcome_readSignedWord frame
  | jumpTo target => exact outcome_jumpTo target frame
  | jumpBy distance => exact outcome_jumpBy distance frame

/-- The frame after an operation, whether it succeeded or failed. -/
def leave
    (step : CursorStep α)
    (frame : Frame) :
    Frame :=
  match step.perform frame with
  | .ok _ after => after
  | .error _ after => after

/-- An operation keeps the code and leaves the cursor within it. -/
theorem leave_within
    (step : CursorStep α)
    (within : frame.position ≤ frame.code.size) :
    (step.leave frame).code = frame.code ∧
      (step.leave frame).position ≤ frame.code.size := by
  have outcome := step.outcome_perform frame
  rw [leave]
  generalize step.perform frame = result at outcome ⊢
  cases outcome with
  | done lands moved answers =>
      refine ⟨rfl, ?_⟩
      have below := lands.2
      rw [moved] at below
      exact Int.ofNat_le.mp below
  | refused misses whole => exact ⟨rfl, within⟩
  | cut half => exact ⟨rfl, Nat.le_refl _⟩

end CursorStep

namespace Frame

/-- The frame after a sequence of operations, whichever of them failed. -/
def afterSteps
    (frame : Frame)
    (history : List ((α : Type) × CursorStep α)) :
    Frame :=
  history.foldl (fun current step => step.2.leave current) frame

/-- No sequence of operations takes the cursor out of the code. -/
theorem afterSteps_within
    {start : Frame}
    (within : start.position ≤ start.code.size)
    (history : List ((α : Type) × CursorStep α)) :
    (start.afterSteps history).code = start.code ∧
      (start.afterSteps history).position ≤ start.code.size := by
  induction history generalizing start with
  | nil =>
      exact ⟨rfl, within⟩
  | cons step rest inductionHypothesis =>
      obtain ⟨sameCode, stillWithin⟩ := step.2.leave_within within
      have later :
          ((step.2.leave start).afterSteps rest).code = _ ∧ _ :=
        inductionHypothesis (sameCode ▸ stillWithin)
      rw [sameCode] at later
      exact later

/-- The target of a jump as words of 64 signed bits compute it. -/
def wordTarget
    (frame : Frame)
    (distance : Int32) :
    Int :=
  (Int64.ofNat frame.position + distance.toInt64).toInt

/--
For code that a word can count, the target in words lies in the code exactly if
the true one does, and is then the true one: a sum that wraps around is negative.
-/
private theorem wordTarget_exact
    {frame : Frame}
    (within : frame.position ≤ frame.code.size)
    (countable : (frame.code.size : Int) ≤ Int64.maxValue.toInt)
    (distance : Int32) :
    (0 ≤ frame.wordTarget distance ∧
          frame.wordTarget distance ≤ frame.code.size ↔
        (CursorStep.jumpBy distance.toInt).Lands frame) ∧
      ((CursorStep.jumpBy distance.toInt).Lands frame →
        frame.wordTarget distance =
          (CursorStep.jumpBy distance.toInt).destination frame) := by
  have largest : Int64.maxValue.toInt = 9223372036854775807 := rfl
  have low : -2147483648 ≤ distance.toInt := distance.le_toInt
  have high : distance.toInt < 2147483648 := distance.toInt_lt
  have sum :
      frame.wordTarget distance =
        Int.bmod (frame.position + distance.toInt)
          18446744073709551616 := by
    rw [wordTarget, Int64.toInt_add, Int32.toInt_toInt64,
      Int64.toInt_ofNat_of_lt (by omega)]
  rw [sum, Int.bmod_def]
  simp only [CursorStep.Lands, CursorStep.destination]
  omega

/-- What holds of the cursor of a frame, whatever operation comes next. -/
structure KeepsCursor (frame : Frame) : Prop where
  within : frame.position ≤ frame.code.size
  /-- An operation succeeds exactly if it leads to a place of the code. -/
  succeeds : ∀ {α : Type} (step : CursorStep α),
    (∃ answer after, step.perform frame = .ok answer after) ↔
      step.Lands frame
  /-- Success moves the cursor to that place and changes nothing else. -/
  moves : ∀ {α : Type} (step : CursorStep α) (answer : α) (after : Frame),
    step.perform frame = .ok answer after →
      step.destination frame = after.position ∧
        after = frame.movedTo after.position ∧ step.Answers frame answer
  /-- Failure changes nothing, unless two bytes are read and one is left. -/
  stays : ∀ {α : Type} (step : CursorStep α) (fault : Fault) (after : Frame),
    step.perform frame = .error fault after →
      ¬step.CutShort frame → after = frame
  /-- With one byte left, a read of two fails and moves behind that byte. -/
  slips : ∀ {α : Type} (step : CursorStep α),
    step.CutShort frame →
      frame.atEnd = false ∧
        ∃ fault after,
          step.perform frame = .error fault after ∧
            after = frame.movedTo frame.code.size ∧ after.atEnd = true
  /-- Words of 64 bits are enough to tell where a jump leads. -/
  countable : ∀ distance : Int32,
    (frame.code.size : Int) ≤ Int64.maxValue.toInt →
      (0 ≤ frame.wordTarget distance ∧
            frame.wordTarget distance ≤ frame.code.size ↔
          (CursorStep.jumpBy distance.toInt).Lands frame) ∧
        ((CursorStep.jumpBy distance.toInt).Lands frame →
          frame.wordTarget distance =
            (CursorStep.jumpBy distance.toInt).destination frame)

/-- All this holds of a frame whose cursor is within its code. -/
theorem KeepsCursor.of_within
    {frame : Frame}
    (within : frame.position ≤ frame.code.size) :
    frame.KeepsCursor where
  within := within
  succeeds := by
    intro α step
    have outcome := step.outcome_perform frame
    generalize step.perform frame = result at outcome ⊢
    cases outcome with
    | done lands moved answers => exact iff_of_true ⟨_, _, rfl⟩ lands
    | refused misses whole =>
        exact iff_of_false (by rintro ⟨_, _, ⟨⟩⟩) misses
    | cut half =>
        exact iff_of_false (by rintro ⟨_, _, ⟨⟩⟩) half.only_one_left.2
  moves := by
    intro α step answer after performed
    have outcome := step.outcome_perform frame
    rw [performed] at outcome
    cases outcome with
    | done lands moved answers => exact ⟨moved, rfl, answers⟩
  stays := by
    intro α step fault after performed whole
    have outcome := step.outcome_perform frame
    rw [performed] at outcome
    cases outcome with
    | refused misses _ => rfl
    | cut half => exact absurd half whole
  slips := by
    intro α step half
    obtain ⟨oneLeft, misses⟩ := half.only_one_left
    have notAtEnd : frame.atEnd = false := by
      simp only [atEnd, decide_eq_false_iff_not]
      omega
    refine ⟨notAtEnd, ?_⟩
    have outcome := step.outcome_perform frame
    generalize step.perform frame = result at outcome ⊢
    cases outcome with
    | done lands moved answers => exact absurd lands misses
    | refused _ whole => exact absurd half whole
    | cut _ => exact ⟨_, _, rfl, rfl, by simp [atEnd]⟩
  countable := by
    intro distance countable
    exact wordTarget_exact within countable distance

/--
The cursor stays inside the code, whatever operations are tried one after the
other and whichever of them fail.  After any of them, a jump succeeds exactly if
its target is in the code, a read exactly if all of its bytes are left, and then
the answer is the number that these bytes stand for, the lowest first.  An
operation that fails leaves the frame as it was, except that a read of two bytes
with one of them left goes on to the end of the code.
-/
theorem cursor_stays_in_code
    (start : Frame)
    (within : start.position ≤ start.code.size)
    (history : List ((α : Type) × CursorStep α)) :
    (start.afterSteps history).code = start.code ∧
      (start.afterSteps history).KeepsCursor := by
  obtain ⟨sameCode, stillWithin⟩ := afterSteps_within within history
  exact ⟨sameCode, .of_within (sameCode ▸ stillWithin)⟩

/-- A frame at the start of two bytes of code. -/
def truncated : Frame :=
  new #[1, 5] #[] 0 0 .undefined

/-- So it is after the first byte was read, a jump was refused and a read was cut. -/
theorem cursor_stays_in_code_truncated :
    truncated.position ≤ truncated.code.size ∧
      (truncated.afterSteps
          [⟨_, .readByte⟩, ⟨_, .jumpBy (-2)⟩, ⟨_, .readWord⟩]).code = #[1, 5] ∧
        (truncated.afterSteps
          [⟨_, .readByte⟩, ⟨_, .jumpBy (-2)⟩, ⟨_, .readWord⟩]).KeepsCursor :=
  ⟨by decide, cursor_stays_in_code truncated (by decide) _⟩

/--
A read that fails can move the cursor: of the two bytes of an operand one is
there, and after the failed read the code seems to have come to its end.
-/
theorem failed_read_moves_truncated :
    (truncated.movedTo 1).atEnd = false ∧
      ∃ fault after,
        CursorStep.readWord.perform (truncated.movedTo 1) =
            .error fault after ∧
          after.position = 2 ∧ after.atEnd = true :=
  ⟨by decide, _, _, rfl, rfl, rfl⟩

end Frame

end MovieScript
