import MovieScript.Host.Program

namespace MovieScript

/-!
# A stack instruction set

The machine has no instructions of its own: a host installs the program that
runs one instruction of the top frame.  This is a small set for hosts that need
none of their own.  An instruction is one byte, followed by its operand bytes;
everything else is taken from the operand stack.  The operand bytes are read
before anything is popped, and of several popped values the one that was
pushed last comes first.
-/

/-- One instruction with the operands that stand in the code. -/
inductive Instruction where
  /-- Return undefined. -/
  | finish
  | pushConstant (index : Nat)
  | pushRegister (index : Nat)
  | storeRegister (index : Nat)
  | getVariable
  | setVariable
  | defineLocal
  | getMember
  | setMember
  | add
  | subtract
  | less
  /-- Call a function that leaves its result on the operand stack. -/
  | call
  | callMethod
  | giveBack
  | defineFunction (index : Nat)
  | drop
  | jumpIfFalse (distance : Int)
  | jump (distance : Int)
  /-- Fail with a text. -/
  | throwText
  | construct
  | duplicate
  | pushScope
  | popScope
  /-- Tell the host a value. -/
  | tellValue
  /-- Tell the host about the top frame. -/
  | tellFrame
  /-- Call a function and wait for its result. -/
  | callAndWait
  deriving Repr, DecidableEq

/-- What code of this instruction set needs from its host. -/
structure InstructionHost (σ : Type) : Type 1 where
  /-- The functions that code can define, by number. -/
  definition? : Nat → Program σ (Option Definition)
  /-- The host is told a value. -/
  tellValue : Value → Program σ Unit
  /-- The host is told that it may look at the top frame. -/
  tellFrame : Program σ Unit

namespace Instruction

variable {σ : Type}

/-- The operand of an instruction that has one byte of it. -/
def byteOperand : Program σ Nat := do
  return (← Program.perform .readByte).toNat

/-- The operand of an instruction that has two bytes of it. -/
def wordOperand : Program σ Nat := do
  return (← Program.perform .readWord).toNat

/-- The signed operand of a jump. -/
def distanceOperand : Program σ Int := do
  return (← Program.perform .readSignedWord).toInt

/-- Read the operands that follow the byte of an instruction. -/
def decode (code : UInt8) : Program σ Instruction := do
  match code.toNat with
  | 0x00 => return .finish
  | 0x01 => return .pushConstant (← wordOperand)
  | 0x02 => return .pushRegister (← byteOperand)
  | 0x03 => return .storeRegister (← byteOperand)
  | 0x04 => return .getVariable
  | 0x05 => return .setVariable
  | 0x06 => return .defineLocal
  | 0x07 => return .getMember
  | 0x08 => return .setMember
  | 0x09 => return .add
  | 0x0A => return .subtract
  | 0x0B => return .less
  | 0x0C => return .call
  | 0x0D => return .callMethod
  | 0x0E => return .giveBack
  | 0x0F => return .defineFunction (← byteOperand)
  | 0x10 => return .drop
  | 0x11 => return .jumpIfFalse (← distanceOperand)
  | 0x12 => return .jump (← distanceOperand)
  | 0x13 => return .throwText
  | 0x14 => return .construct
  | 0x15 => return .duplicate
  | 0x16 => return .pushScope
  | 0x17 => return .popScope
  | 0x18 => return .tellValue
  | 0x19 => return .tellFrame
  | 0x1A => return .callAndWait
  | unknown =>
      Program.fail (.unsupported ("opcode " ++ toString unknown))

/-- Pop an operand. -/
def pop : Program σ Value :=
  Program.perform .popOperand

/-- Push an operand. -/
def push (value : Value) : Program σ Unit :=
  Program.perform (.pushOperand value)

/-- Pop an operand as text. -/
def popName : Program σ String := do
  let value ← pop
  Program.ask (·.displayText value)

/-- Pop `count` operands in front of those popped before. -/
def popMany : Nat → List Value → Program σ (List Value)
  | 0, popped => return popped
  | count + 1, popped => do
      let value ← pop
      popMany count (value :: popped)

/-- Pop a count and that many operands, in the order they were pushed. -/
def popArguments : Program σ (List Value) := do
  let count ← pop
  popMany count.toInteger.toInt.toNat []

/-- Two integers add up exactly, texts are joined, the rest are floats. -/
def sum (first second : Value) : Program σ Value := do
  match first, second with
  | .integer left, .integer right =>
      return Document.integerValue (left.toInt + right.toInt)
  | _, _ =>
      if first.text?.isSome || second.text?.isSome then
        let left ← Program.ask (·.displayText first)
        let right ← Program.ask (·.displayText second)
        return .text (left ++ right)
      else
        return .float (first.toFloat + second.toFloat)

/-- The exact difference of two integers, and the float one of the rest. -/
def difference (first second : Value) : Value :=
  match first, second with
  | .integer left, .integer right =>
      Document.integerValue (left.toInt - right.toInt)
  | _, _ => .float (first.toFloat - second.toFloat)

/-- What an instruction does. -/
def perform (host : InstructionHost σ) : Instruction → Program σ Unit
  | .finish => Program.perform (.returnFromFrame .undefined)
  | .pushConstant index => do
      let value ← Program.ask fun machine => do
        (← machine.currentFrame).constant index
      push value
  | .pushRegister index => do
      let value ← Program.ask fun machine => do
        (← machine.currentFrame).register index
      push value
  | .storeRegister index => do
      let value ← pop
      Program.perform (.setRegister index value)
  | .getVariable => do
      let name ← popName
      push (← Program.perform (.getVariable name))
  | .setVariable => do
      let value ← pop
      let name ← popName
      Program.perform (.setVariable name value)
  | .defineLocal => do
      let value ← pop
      let name ← popName
      Program.perform (.defineLocal name value)
  | .getMember => do
      let name ← popName
      let target ← pop
      push (← Program.perform (.getValueMember target name))
  | .setMember => do
      let value ← pop
      let name ← popName
      let target ← pop
      let handle ← Program.perform (.toObject target)
      Program.perform (.setMember handle name value)
  | .add => do
      let second ← pop
      let first ← pop
      push (← sum first second)
  | .subtract => do
      let second ← pop
      let first ← pop
      push (difference first second)
  | .less => do
      let second ← pop
      let first ← pop
      push (.boolean (first.toFloat < second.toFloat))
  | .call => do
      let function ← pop
      let arguments ← popArguments
      Program.perform (.callFromFrame function .undefined arguments)
  | .callMethod => do
      let name ← popName
      let target ← pop
      let arguments ← popArguments
      Program.perform (.callMethodFromFrame target name arguments)
  | .giveBack => do
      let value ← pop
      Program.perform (.returnFromFrame value)
  | .defineFunction index => do
      match ← host.definition? index with
      | some definition => do
          let handle ← Program.perform (.defineFunction definition)
          push (.object handle)
      | none =>
          Program.fail
            (.invalidDefinition ("no function #" ++ toString index))
  | .drop => discard pop
  | .jumpIfFalse distance => do
      let condition ← pop
      if condition.toBoolean then
        return ()
      else
        Program.perform (.jumpBy distance)
  | .jump distance => Program.perform (.jumpBy distance)
  | .throwText => do
      let text ← popName
      Program.fail (.type text)
  | .construct => do
      let constructor ← pop
      let arguments ← popArguments
      push (← Program.perform (.construct constructor arguments))
  | .duplicate => do
      let frame ← Program.ask (·.currentFrame)
      push (frame.stack.headD .undefined)
  | .pushScope => do
      let value ← pop
      let handle ← Program.perform (.toObject value)
      Program.perform (.pushScopeObject handle)
  | .popScope => do
      let handle ← Program.perform .popScopeObject
      push (.ofHandle? handle)
  | .tellValue => do
      let value ← pop
      host.tellValue value
  | .tellFrame => host.tellFrame
  | .callAndWait => do
      let function ← pop
      let receiver ← pop
      let arguments ← popArguments
      push (← Program.perform (.call function receiver arguments))

/-- Run one instruction of the top frame; the end of the code returns. -/
def dispatch (host : InstructionHost σ) : Program σ Unit := do
  let frame ← Program.ask (·.currentFrame)
  if frame.atEnd then
    Program.perform (.returnFromFrame .undefined)
  else
    let instruction ← decode (← Program.perform .readByte)
    instruction.perform host

end Instruction

end MovieScript
