import Console6502.InstructionSet

namespace Console6502

/-- An instruction about to be carried out: its operand is known, and nothing is changed yet. -/
structure Trace where
  pc : Address
  opcode : Byte
  mnemonic : Mnemonic
  operand : Operand
  cpu : Cpu
  sp : Byte
deriving DecidableEq, Repr

inductive Record
  | standardSet (opcodes : Nat)
  | builtSet (definitions : Nat)
  | loaded (bytes : Nat) (origin : Address)
  | unknownOpcode (opcode : Byte) (pc : Address)
  | executing (trace : Trace)
  | halted (pc : Address) (steps : Nat)
deriving DecidableEq, Repr

inductive Level
  | trace
  | debug
  | warn
deriving DecidableEq, Repr

def Level.name : Level → String
  | trace => "TRACE"
  | debug => "DEBUG"
  | warn => "WARN"

open Text (hexByte hexAddress)

/-- Two blanks set off the code and the registers. -/
def Trace.text (t : Trace) : String :=
  let code := s!"{hexAddress t.pc}  {hexByte t.opcode}  {t.mnemonic.name} {t.operand.text}"
  let registers := s!"A:{hexByte t.cpu.a} X:{hexByte t.cpu.x} Y:{hexByte t.cpu.y}"
  s!"{code}  {registers} SP:{hexByte t.sp} P:{hexByte t.cpu.status}"

namespace Record

def level : Record → Level
  | unknownOpcode _ _ => .warn
  | executing _ => .trace
  | _ => .debug

def text : Record → String
  | standardSet opcodes => s!"standard instruction set: {opcodes} opcodes"
  | builtSet definitions => s!"instruction set built from {definitions} definitions"
  | loaded bytes origin => s!"loaded {bytes} bytes at 0x{hexAddress origin}"
  | unknownOpcode opcode pc => s!"unknown opcode 0x{hexByte opcode} at 0x{hexAddress pc}"
  | executing trace => trace.text
  | halted pc steps => s!"halted at 0x{hexAddress pc} after {steps} steps"

def line (r : Record) : String := s!"{r.level.name} {r.text}"

end Record

end Console6502
