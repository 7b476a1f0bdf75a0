import MovieScript.Host.Instruction
import MovieScript.Proofs.EntryValue

namespace MovieScript

/-!
# The stack instruction set acts on the top frame

An instruction first takes its operands, which is work in the top frame.  Then
it works on in the frame, starts a call from it, or pops it, and is over.
-/

/-- The request changes no frame but the top one, and pushes none. -/
def Request.WorksInFrame {β : Type} (wanted : Request β) : Prop :=
  wanted.frameUse = .apart ∨ wanted.frameUse = .within

namespace Program

variable {σ α β : Type}

theorem every_bind
    {allowed : ∀ {β : Type}, Request β → Prop}
    {program : Program σ α}
    {next : α → Program σ β}
    (first : program.Every allowed)
    (second : ∀ result, (next result).Every allowed) :
    Every allowed (program >>= next) := by
  change Every allowed (program.andThen next)
  induction program with
  | finish outcome =>
      cases outcome with
      | ok result => exact second result
      | error fault => trivial
  | request wanted rest inductionHypothesis =>
      exact ⟨first.1, fun answer =>
        inductionHypothesis answer (first.2 answer)⟩
  | own work rest inductionHypothesis =>
      exact fun answer => inductionHypothesis answer (first answer)

theorem every_perform
    {allowed : ∀ {β : Type}, Request β → Prop}
    {wanted : Request α}
    (isAllowed : allowed wanted) :
    (perform wanted : Program σ α).Every allowed :=
  ⟨isAllowed, fun _ => trivial⟩

theorem every_ask (question : Machine → Except Fault α) :
    (ask question : Program σ α).Every Request.WorksInFrame := by
  refine every_bind (every_perform (.inl rfl)) fun answer => ?_
  split
  · trivial
  · trivial

theorem actsOnTop_request
    {wanted : Request β}
    {next : Except Fault β → Program σ α}
    (works : wanted.WorksInFrame)
    (rest : ∀ answer, (next answer).ActsOnTop) :
    (Program.request wanted next).ActsOnTop := by
  unfold ActsOnTop
  rcases works with apart | within
  · rw [apart]
    exact rest
  · rw [within]
    exact rest

/-- Work in the top frame may come before anything that acts on it. -/
theorem actsOnTop_bind
    {program : Program σ α}
    {next : α → Program σ β}
    (first : program.Every Request.WorksInFrame)
    (second : ∀ result, (next result).ActsOnTop) :
    ActsOnTop (program >>= next) := by
  change ActsOnTop (program.andThen next)
  induction program with
  | finish outcome =>
      cases outcome with
      | ok result => exact second result
      | error fault => trivial
  | request wanted rest inductionHypothesis =>
      exact actsOnTop_request first.1 fun answer =>
        inductionHypothesis answer (first.2 answer)
  | own work rest inductionHypothesis =>
      exact fun answer => inductionHypothesis answer (first answer)

theorem Every.actsOnTop
    {program : Program σ α}
    (works : program.Every Request.WorksInFrame) :
    program.ActsOnTop := by
  induction program with
  | finish outcome => trivial
  | request wanted next inductionHypothesis =>
      exact actsOnTop_request works.1 fun answer =>
        inductionHypothesis answer (works.2 answer)
  | own work next inductionHypothesis =>
      exact fun answer => inductionHypothesis answer (works answer)

end Program

/-- The host's part in the instructions is work in the top frame too. -/
structure InstructionHost.WorksInFrame
    {σ : Type}
    (host : InstructionHost σ) :
    Prop where
  definition? : ∀ index,
    (host.definition? index).Every Request.WorksInFrame
  tellValue : ∀ value,
    (host.tellValue value).Every Request.WorksInFrame
  tellFrame : host.tellFrame.Every Request.WorksInFrame

namespace Instruction

open Program

variable {σ : Type}

private theorem operand_worksInFrame
    {α β : Type}
    {wanted : Request α}
    (works : wanted.WorksInFrame)
    {convert : α → β} :
    (do return convert (← Program.perform wanted) :
      Program σ β).Every Request.WorksInFrame :=
  every_bind (every_perform works) fun _ => trivial

private theorem encoded_worksInFrame
    {α : Type}
    {operand : Program σ α}
    (works : operand.Every Request.WorksInFrame)
    {build : α → Instruction} :
    (do return build (← operand) :
      Program σ Instruction).Every Request.WorksInFrame :=
  every_bind works fun _ => trivial

theorem decode_worksInFrame (code : UInt8) :
    (decode code : Program σ Instruction).Every Request.WorksInFrame := by
  have byte : (byteOperand : Program σ Nat).Every Request.WorksInFrame :=
    operand_worksInFrame (.inr rfl)
  have word : (wordOperand : Program σ Nat).Every Request.WorksInFrame :=
    operand_worksInFrame (.inr rfl)
  have distance :
      (distanceOperand : Program σ Int).Every Request.WorksInFrame :=
    operand_worksInFrame (.inr rfl)
  unfold decode
  split
  · trivial
  · exact encoded_worksInFrame word
  · exact encoded_worksInFrame byte
  · exact encoded_worksInFrame byte
  · trivial
  · trivial
  · trivial
  · trivial
  · trivial
  · trivial
  · trivial
  · trivial
  · trivial
  · trivial
  · trivial
  · exact encoded_worksInFrame byte
  · trivial
  · exact encoded_worksInFrame distance
  · exact encoded_worksInFrame distance
  · trivial
  · trivial
  · trivial
  · trivial
  · trivial
  · trivial
  · trivial
  · trivial
  · trivial

theorem pop_worksInFrame :
    (pop : Program σ Value).Every Request.WorksInFrame :=
  every_perform (.inr rfl)

theorem push_worksInFrame (value : Value) :
    (push value : Program σ Unit).Every Request.WorksInFrame :=
  every_perform (.inr rfl)

theorem popName_worksInFrame :
    (popName : Program σ String).Every Request.WorksInFrame :=
  every_bind pop_worksInFrame fun _ => every_ask _

theorem popMany_worksInFrame
    (count : Nat)
    (popped : List Value) :
    (popMany count popped : Program σ _).Every Request.WorksInFrame := by
  induction count generalizing popped with
  | zero => trivial
  | succ count inductionHypothesis =>
      exact every_bind pop_worksInFrame fun value =>
        inductionHypothesis (value :: popped)

theorem popArguments_worksInFrame :
    (popArguments : Program σ _).Every Request.WorksInFrame :=
  every_bind pop_worksInFrame fun _ => popMany_worksInFrame _ _

theorem sum_worksInFrame (first second : Value) :
    (sum first second : Program σ Value).Every Request.WorksInFrame := by
  unfold sum
  split
  · trivial
  · split
    · exact every_bind (every_ask _) fun _ =>
        every_bind (every_ask _) fun _ => trivial
    · trivial

/-- Push the answer to a request made in the top frame. -/
private theorem pushed_worksInFrame
    {wanted : Request Value}
    (works : wanted.WorksInFrame) :
    (do push (← Program.perform wanted) :
      Program σ Unit).Every Request.WorksInFrame :=
  every_bind (every_perform works) push_worksInFrame

theorem perform_actsOnTop
    {host : InstructionHost σ}
    (works : host.WorksInFrame)
    (instruction : Instruction) :
    (instruction.perform host).ActsOnTop := by
  cases instruction with
  | finish => exact fun _ => trivial
  | pushConstant index =>
      exact actsOnTop_bind (every_ask _) fun _ =>
        (push_worksInFrame _).actsOnTop
  | pushRegister index =>
      exact actsOnTop_bind (every_ask _) fun _ =>
        (push_worksInFrame _).actsOnTop
  | storeRegister index =>
      exact actsOnTop_bind pop_worksInFrame fun _ =>
        (every_perform (.inr rfl)).actsOnTop
  | getVariable =>
      exact actsOnTop_bind popName_worksInFrame fun _ =>
        (pushed_worksInFrame (.inr rfl)).actsOnTop
  | setVariable =>
      exact actsOnTop_bind pop_worksInFrame fun _ =>
        actsOnTop_bind popName_worksInFrame fun _ =>
          (every_perform (.inr rfl)).actsOnTop
  | defineLocal =>
      exact actsOnTop_bind pop_worksInFrame fun _ =>
        actsOnTop_bind popName_worksInFrame fun _ =>
          (every_perform (.inr rfl)).actsOnTop
  | getMember =>
      exact actsOnTop_bind popName_worksInFrame fun _ =>
        actsOnTop_bind pop_worksInFrame fun _ =>
          (pushed_worksInFrame (.inr rfl)).actsOnTop
  | setMember =>
      exact actsOnTop_bind pop_worksInFrame fun _ =>
        actsOnTop_bind popName_worksInFrame fun _ =>
          actsOnTop_bind pop_worksInFrame fun _ =>
            actsOnTop_bind (every_perform (.inl rfl)) fun _ =>
              (every_perform (.inr rfl)).actsOnTop
  | add =>
      exact actsOnTop_bind pop_worksInFrame fun _ =>
        actsOnTop_bind pop_worksInFrame fun _ =>
          actsOnTop_bind (sum_worksInFrame _ _) fun _ =>
            (push_worksInFrame _).actsOnTop
  | subtract =>
      exact actsOnTop_bind pop_worksInFrame fun _ =>
        actsOnTop_bind pop_worksInFrame fun _ =>
          (push_worksInFrame _).actsOnTop
  | less =>
      exact actsOnTop_bind pop_worksInFrame fun _ =>
        actsOnTop_bind pop_worksInFrame fun _ =>
          (push_worksInFrame _).actsOnTop
  | call =>
      exact actsOnTop_bind pop_worksInFrame fun _ =>
        actsOnTop_bind popArguments_worksInFrame fun _ _ => trivial
  | callMethod =>
      exact actsOnTop_bind popName_worksInFrame fun _ =>
        actsOnTop_bind pop_worksInFrame fun _ =>
          actsOnTop_bind popArguments_worksInFrame fun _ _ => trivial
  | giveBack =>
      exact actsOnTop_bind pop_worksInFrame fun _ _ => trivial
  | defineFunction index =>
      refine actsOnTop_bind (works.definition? index) fun found => ?_
      split
      · exact actsOnTop_bind (every_perform (.inl rfl)) fun _ =>
          (push_worksInFrame _).actsOnTop
      · trivial
  | drop =>
      change ActsOnTop (pop >>= fun _ => pure PUnit.unit)
      exact actsOnTop_bind pop_worksInFrame fun _ => trivial
  | jumpIfFalse distance =>
      refine actsOnTop_bind pop_worksInFrame fun condition => ?_
      split
      · trivial
      · exact (every_perform (.inr rfl)).actsOnTop
  | jump distance => exact (every_perform (.inr rfl)).actsOnTop
  | throwText =>
      exact actsOnTop_bind popName_worksInFrame fun _ => trivial
  | construct =>
      exact actsOnTop_bind pop_worksInFrame fun _ =>
        actsOnTop_bind popArguments_worksInFrame fun _ =>
          (pushed_worksInFrame (.inr rfl)).actsOnTop
  | duplicate =>
      exact actsOnTop_bind (every_ask _) fun _ =>
        (push_worksInFrame _).actsOnTop
  | pushScope =>
      exact actsOnTop_bind pop_worksInFrame fun _ =>
        actsOnTop_bind (every_perform (.inl rfl)) fun _ =>
          (every_perform (.inr rfl)).actsOnTop
  | popScope =>
      exact actsOnTop_bind (every_perform (.inr rfl)) fun _ =>
        (push_worksInFrame _).actsOnTop
  | tellValue =>
      exact actsOnTop_bind pop_worksInFrame fun _ =>
        (works.tellValue _).actsOnTop
  | tellFrame => exact works.tellFrame.actsOnTop
  | callAndWait =>
      exact actsOnTop_bind pop_worksInFrame fun _ =>
        actsOnTop_bind pop_worksInFrame fun _ =>
          actsOnTop_bind popArguments_worksInFrame fun _ =>
            (pushed_worksInFrame (.inr rfl)).actsOnTop

theorem dispatch_actsOnTop
    {host : InstructionHost σ}
    (works : host.WorksInFrame) :
    (dispatch host).ActsOnTop := by
  refine actsOnTop_bind (every_ask _) fun frame => ?_
  split
  · exact fun _ => trivial
  · exact actsOnTop_bind (every_perform (.inr rfl)) fun code =>
      actsOnTop_bind (decode_worksInFrame code) fun instruction =>
        perform_actsOnTop works instruction

end Instruction

end MovieScript
