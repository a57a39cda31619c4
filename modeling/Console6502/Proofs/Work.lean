import Console6502.Core
import Console6502.Proofs.Accesses

namespace Console6502

/-- The kinds of work, each with what sets its instructions apart. -/
inductive Work
  | absorb (f : Cpu → Byte → Cpu)
  | store (r : Register)
  | modify (f : Byte → Byte)
  | shift (f : Byte → Bool → Shift)
  | branch (condition : Cpu → Bool)
  | jump
  | call
  | ret
  | push
  | pull
  /-- Changes registers and flags, perhaps by the stack pointer. -/
  | adjust (f : Cpu → Byte → Cpu)
  | setSp
  | halt

def Mnemonic.work : Mnemonic → Work
  | .lda => .absorb fun cpu b => cpu.set .a b
  | .ldx => .absorb fun cpu b => cpu.set .x b
  | .ldy => .absorb fun cpu b => cpu.set .y b
  | .adc => .absorb Cpu.addWithCarry
  | .sbc => .absorb Cpu.subtractWithCarry
  | .and => .absorb fun cpu b => cpu.set .a (cpu.a &&& b)
  | .ora => .absorb fun cpu b => cpu.set .a (cpu.a ||| b)
  | .eor => .absorb fun cpu b => cpu.set .a (cpu.a ^^^ b)
  | .cmp => .absorb fun cpu b => cpu.compare .a b
  | .cpx => .absorb fun cpu b => cpu.compare .x b
  | .cpy => .absorb fun cpu b => cpu.compare .y b
  | .bit => .absorb Cpu.bitTest
  | .sta => .store .a
  | .stx => .store .x
  | .sty => .store .y
  | .inc => .modify (· + 1)
  | .dec => .modify (· - 1)
  | .asl => .shift Shift.left
  | .lsr => .shift Shift.right
  | .rol => .shift Shift.rotateLeft
  | .ror => .shift Shift.rotateRight
  | .bcc => .branch fun cpu => !cpu.carry
  | .bcs => .branch Cpu.carry
  | .beq => .branch Cpu.zero
  | .bne => .branch fun cpu => !cpu.zero
  | .bmi => .branch Cpu.negative
  | .bpl => .branch fun cpu => !cpu.negative
  | .jmp => .jump
  | .jsr => .call
  | .rts => .ret
  | .pha => .push
  | .pla => .pull
  | .inx => .adjust fun cpu _ => cpu.set .x (cpu.x + 1)
  | .iny => .adjust fun cpu _ => cpu.set .y (cpu.y + 1)
  | .dex => .adjust fun cpu _ => cpu.set .x (cpu.x - 1)
  | .dey => .adjust fun cpu _ => cpu.set .y (cpu.y - 1)
  | .tax => .adjust fun cpu _ => cpu.set .x cpu.a
  | .tay => .adjust fun cpu _ => cpu.set .y cpu.a
  | .txa => .adjust fun cpu _ => cpu.set .a cpu.x
  | .tya => .adjust fun cpu _ => cpu.set .a cpu.y
  | .tsx => .adjust fun cpu sp => cpu.set .x sp
  | .clc => .adjust fun cpu _ => cpu.clearCarry
  | .sec => .adjust fun cpu _ => cpu.setCarry
  | .nop => .adjust fun cpu _ => cpu
  | .txs => .setSp
  | .brk => .halt

/-- What work leaves behind, but for the bus, and what it writes there in order. -/
structure Outcome where
  cpu : Cpu
  pc : Address
  sp : Byte
  writes : List (Address × Byte) := []
  halts : Bool := false

/-- The byte to work on: the one given, the one read, or else the accumulator. -/
def Operand.argument (operand : Operand) (cpu : Cpu) (data : List Byte) : Byte :=
  match operand with
  | .immediate b => b
  | .address _ => data.getD 0 0
  | .implied => cpu.a

namespace Work

open Sequencer (stackCell)

def takes : Work → Operand → Bool
  | store _, operand | modify _, operand | branch _, operand | jump, operand | call, operand =>
    operand.address?.isSome
  | shift _, .immediate _ => false
  | _, _ => true

def cells (w : Work) (operand : Operand) (sp : Byte) : List Address :=
  match w with
  | absorb _ | modify _ | shift _ => operand.address?.toList
  | ret => [stackCell sp, stackCell (sp + 1)]
  | pull => [stackCell sp]
  | _ => []

/-- What comes of work when the cells it reads hold `data`. -/
def outcome (w : Work) (operand : Operand) (cpu : Cpu) (pc : Address) (sp : Byte)
    (data : List Byte) : Outcome :=
  let b := operand.argument cpu data
  match w, operand with
  | absorb f, _ => { cpu := f cpu b, pc, sp }
  | store r, .address a => { cpu, pc, sp, writes := [(a, cpu.get r)] }
  | modify f, .address a => { cpu := cpu.follow (f b), pc, sp, writes := [(a, f b)] }
  | shift f, .address a =>
    let s := f b cpu.carry
    { cpu := (cpu.carryIf s.carry).follow s.result, pc, sp, writes := [(a, s.result)] }
  | shift f, _ =>
    let s := f cpu.a cpu.carry
    { cpu := (cpu.carryIf s.carry).set .a s.result, pc, sp }
  | branch condition, .address a => { cpu, pc := if condition cpu then a else pc, sp }
  | jump, .address a => { cpu, pc := a, sp }
  | call, .address a =>
    { cpu, pc := a, sp := sp - 2,
      writes := [(stackCell (sp - 1), pc.high), (stackCell (sp - 2), pc.low)] }
  | ret, _ => { cpu, pc := Address.ofBytes (data.getD 0 0) (data.getD 1 0), sp := sp + 2 }
  | push, _ => { cpu, pc, sp := sp - 1, writes := [(stackCell (sp - 1), cpu.a)] }
  | pull, _ => { cpu := cpu.set .a (data.getD 0 0), pc, sp := sp + 1 }
  | adjust f, _ => { cpu := f cpu sp, pc, sp }
  | setSp, _ => { cpu, pc, sp := cpu.x }
  | halt, _ => { cpu, pc, sp, halts := true }
  | _, _ => { cpu, pc, sp }

end Work

section

open Sequencer (stackCell)

variable {M : Type} [Bus M]

omit [Bus M] in
theorem Core.branch_eq (cpu : Cpu) (bus : M) (pc : Address) (sp : Byte) (condition : Cpu → Bool)
    (a : Address) :
    Core.branch ⟨cpu, ⟨bus, pc, sp⟩⟩ condition a =
      ⟨cpu, ⟨bus, if condition cpu then a else pc, sp⟩⟩ := by
  cases h : condition cpu <;> simp [branch, Sequencer.branch, Sequencer.jump, h]

/-- A call stores the program counter, high byte first, below the top of the stack. -/
theorem Sequencer.call_eq (bus : M) (pc : Address) (sp : Byte) (a : Address) :
    Sequencer.call ⟨bus, pc, sp⟩ a =
      ⟨Bus.writeAll bus [(stackCell (sp - 1), pc.high), (stackCell (sp - 2), pc.low)], a,
        sp - 2⟩ := by
  have two : sp - 1 - 1 = sp - 2 := by grind
  simp only [call, push, jump, two, Bus.writeAll, List.foldl_cons, List.foldl_nil]

/-- A return takes the low byte from the top of the stack and the high byte from the next cell. -/
theorem Sequencer.ret_eq (bus : M) (pc : Address) (sp : Byte) :
    Sequencer.ret ⟨bus, pc, sp⟩ =
      let (data, bus) := Bus.readAll bus [stackCell sp, stackCell (sp + 1)]
      ⟨bus, Address.ofBytes (data.getD 0 0) (data.getD 1 0), sp + 2⟩ := by
  have two : sp + 1 + 1 = sp + 2 := UInt8.add_assoc sp 1 1
  simp only [ret, pull, jump, two]
  rfl

/-- An instruction reads the cells of its work, then writes, and the rest is a function of what it
was answered. -/
theorem Core.execute_eq (c : Core M) (operand : Operand) (m : Mnemonic)
    (fits : m.work.takes operand = true) :
    c.execute operand m =
      let (data, bus) := Bus.readAll c.seq.bus (m.work.cells operand c.seq.sp)
      let o := m.work.outcome operand c.cpu c.seq.pc c.seq.sp data
      (if o.halts then .halt else .next, ⟨o.cpu, ⟨Bus.writeAll bus o.writes, o.pc, o.sp⟩⟩) := by
  obtain ⟨cpu, bus, pc, sp⟩ := c
  cases m
  case rts =>
    simp only [execute, ret, Sequencer.ret_eq]
    rfl
  all_goals cases operand
  case jsr.address a =>
    simp only [execute, at?, call, Sequencer.call_eq]
    rfl
  case bcc.address a | bcs.address a | beq.address a | bne.address a | bmi.address a |
      bpl.address a =>
    simp only [execute, at?, branch_eq]
    rfl
  all_goals first | rfl | cases fits

end

end Console6502
