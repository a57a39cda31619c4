import Console6502.Mnemonic

namespace Console6502

/-- The part of the machine that instructions work on. -/
structure Core (M : Type) where
  cpu : Cpu := {}
  seq : Sequencer M

inductive Flow
  | next
  | halt
  /-- The instruction needs an address and was given none, so nothing was done. -/
  | missingAddress
deriving DecidableEq, Repr

namespace Byte

def ofFlag (flag : Bool) : Byte := if flag then 1 else 0

end Byte

/-- A shift of one place: from a byte and the carry to the shifted byte and the bit shifted out. -/
structure Shift where
  result : Byte
  carry : Bool
deriving DecidableEq, Repr

namespace Shift

def left (b : Byte) (_ : Bool) : Shift := ⟨b <<< 1, b &&& 0x80 != 0⟩

def right (b : Byte) (_ : Bool) : Shift := ⟨b >>> 1, b &&& 0x01 != 0⟩

def rotateLeft (b : Byte) (carry : Bool) : Shift :=
  ⟨b <<< 1 ||| Byte.ofFlag carry, b &&& 0x80 != 0⟩

def rotateRight (b : Byte) (carry : Bool) : Shift :=
  ⟨b >>> 1 ||| Byte.ofFlag carry <<< 7, b &&& 0x01 != 0⟩

end Shift

namespace Cpu

/-- Adds a byte and the carry to the accumulator. Carry tells that the sum did not fit. -/
def addWithCarry (c : Cpu) (b : Byte) : Cpu :=
  let sum := c.a.toNat + b.toNat + c.carry.toNat
  (c.carryIf (255 < sum)).set .a (UInt8.ofNat sum)

/-- Takes a byte and the missing carry from the accumulator. Carry tells that there was enough. -/
def subtractWithCarry (c : Cpu) (b : Byte) : Cpu :=
  let taken := b.toNat + (!c.carry).toNat
  (c.carryIf (taken ≤ c.a.toNat)).set .a (UInt8.ofNat (c.a.toNat + 256 - taken))

end Cpu

namespace Core

variable {M : Type}

def withCpu (c : Core M) (f : Cpu → Cpu) : Core M :=
  match c with
  | ⟨cpu, seq⟩ => ⟨f cpu, seq⟩

/-- Copies one register into another; the flags follow. -/
def transfer (c : Core M) (source target : Register) : Core M :=
  c.withCpu fun cpu => cpu.set target (cpu.get source)

def increment (c : Core M) (r : Register) : Core M := c.withCpu fun cpu => cpu.set r (cpu.get r + 1)

def decrement (c : Core M) (r : Register) : Core M := c.withCpu fun cpu => cpu.set r (cpu.get r - 1)

/-- The stack pointer into X; the flags follow. -/
def spToX (c : Core M) : Core M :=
  match c with
  | ⟨cpu, seq⟩ => ⟨cpu.set .x seq.sp, seq⟩

/-- X into the stack pointer; the flags stay. -/
def xToSp (c : Core M) : Core M :=
  match c with
  | ⟨cpu, seq⟩ => ⟨cpu, seq.setSp cpu.x⟩

variable [Bus M]

/-- The byte to work on: the one given, the one stored, or else the accumulator. -/
def value (c : Core M) (operand : Operand) : Byte × Core M :=
  match c, operand with
  | c, .immediate b => (b, c)
  | ⟨cpu, seq⟩, .address a =>
    let (b, seq) := seq.get a
    (b, ⟨cpu, seq⟩)
  | c, .implied => (c.cpu.a, c)

def absorb (c : Core M) (operand : Operand) (f : Cpu → Byte → Cpu) : Core M :=
  let (b, c) := c.value operand
  c.withCpu (f · b)

def store (c : Core M) (r : Register) (a : Address) : Core M :=
  match c with
  | ⟨cpu, seq⟩ => ⟨cpu, seq.set a (cpu.get r)⟩

/-- Changes a stored byte; zero and negative follow it. -/
def modify (c : Core M) (f : Byte → Byte) (a : Address) : Core M :=
  match c with
  | ⟨cpu, seq⟩ =>
    let (b, seq) := seq.get a
    ⟨cpu.follow (f b), seq.set a (f b)⟩

/-- Shifts a stored byte, or else the accumulator. The bit shifted out becomes the carry. -/
def shift (c : Core M) (operand : Operand) (f : Byte → Bool → Shift) : Core M :=
  match c, operand with
  | ⟨cpu, seq⟩, .address a =>
    let (b, seq) := seq.get a
    let s := f b cpu.carry
    ⟨(cpu.carryIf s.carry).follow s.result, seq.set a s.result⟩
  | c, _ =>
    c.withCpu fun cpu =>
      let s := f cpu.a cpu.carry
      (cpu.carryIf s.carry).set .a s.result

def branch (c : Core M) (condition : Cpu → Bool) (a : Address) : Core M :=
  match c with
  | ⟨cpu, seq⟩ => ⟨cpu, seq.branch (condition cpu) a⟩

def jump (c : Core M) (a : Address) : Core M :=
  match c with
  | ⟨cpu, seq⟩ => ⟨cpu, seq.jump a⟩

def call (c : Core M) (a : Address) : Core M :=
  match c with
  | ⟨cpu, seq⟩ => ⟨cpu, seq.call a⟩

def ret (c : Core M) : Core M :=
  match c with
  | ⟨cpu, seq⟩ => ⟨cpu, seq.ret⟩

def push (c : Core M) : Core M :=
  match c with
  | ⟨cpu, seq⟩ => ⟨cpu, seq.push cpu.a⟩

def pull (c : Core M) : Core M :=
  match c with
  | ⟨cpu, seq⟩ =>
    let (b, seq) := seq.pull
    ⟨cpu.set .a b, seq⟩

/-- Does what needs an address, if the operand is one. -/
def at? (c : Core M) (operand : Operand) (act : Core M → Address → Core M) : Flow × Core M :=
  match operand with
  | .address a => (.next, act c a)
  | _ => (.missingAddress, c)

def execute (c : Core M) (operand : Operand) : Mnemonic → Flow × Core M
  | .lda => (.next, c.absorb operand fun cpu b => cpu.set .a b)
  | .ldx => (.next, c.absorb operand fun cpu b => cpu.set .x b)
  | .ldy => (.next, c.absorb operand fun cpu b => cpu.set .y b)
  | .sta => c.at? operand (store · .a)
  | .stx => c.at? operand (store · .x)
  | .sty => c.at? operand (store · .y)
  | .adc => (.next, c.absorb operand Cpu.addWithCarry)
  | .sbc => (.next, c.absorb operand Cpu.subtractWithCarry)
  | .and => (.next, c.absorb operand fun cpu b => cpu.set .a (cpu.a &&& b))
  | .ora => (.next, c.absorb operand fun cpu b => cpu.set .a (cpu.a ||| b))
  | .eor => (.next, c.absorb operand fun cpu b => cpu.set .a (cpu.a ^^^ b))
  | .cmp => (.next, c.absorb operand fun cpu b => cpu.compare .a b)
  | .cpx => (.next, c.absorb operand fun cpu b => cpu.compare .x b)
  | .cpy => (.next, c.absorb operand fun cpu b => cpu.compare .y b)
  | .bit => (.next, c.absorb operand Cpu.bitTest)
  | .inc => c.at? operand (modify · (· + 1))
  | .dec => c.at? operand (modify · (· - 1))
  | .inx => (.next, c.increment .x)
  | .iny => (.next, c.increment .y)
  | .dex => (.next, c.decrement .x)
  | .dey => (.next, c.decrement .y)
  | .asl => (.next, c.shift operand Shift.left)
  | .lsr => (.next, c.shift operand Shift.right)
  | .rol => (.next, c.shift operand Shift.rotateLeft)
  | .ror => (.next, c.shift operand Shift.rotateRight)
  | .bcc => c.at? operand (branch · fun cpu => !cpu.carry)
  | .bcs => c.at? operand (branch · Cpu.carry)
  | .beq => c.at? operand (branch · Cpu.zero)
  | .bne => c.at? operand (branch · fun cpu => !cpu.zero)
  | .bmi => c.at? operand (branch · Cpu.negative)
  | .bpl => c.at? operand (branch · fun cpu => !cpu.negative)
  | .jmp => c.at? operand jump
  | .jsr => c.at? operand call
  | .rts => (.next, c.ret)
  | .nop => (.next, c)
  | .brk => (.halt, c)
  | .pha => (.next, c.push)
  | .pla => (.next, c.pull)
  | .clc => (.next, c.withCpu Cpu.clearCarry)
  | .sec => (.next, c.withCpu Cpu.setCarry)
  | .tax => (.next, c.transfer .a .x)
  | .tay => (.next, c.transfer .a .y)
  | .txa => (.next, c.transfer .x .a)
  | .tya => (.next, c.transfer .y .a)
  | .tsx => (.next, c.spToX)
  | .txs => (.next, c.xToSp)

end Core

end Console6502
