import Console6502.Machine
import Console6502.Proofs.Operands
import Console6502.Proofs.Work
import Console6502.Ram

namespace Console6502

/-- Every operand that a supported mode gives can be worked on. -/
theorem Mnemonic.takes_target {m : Mnemonic} {mode : Mode} (h : m.supports mode = true) (cpu : Cpu)
    (pc : Address) (bytes pointer : List Byte) :
    m.work.takes (mode.target cpu pc bytes pointer) = true := by
  cases m <;> cases mode <;> first | rfl | cases h

/-- What an instruction takes in behind its opcode, stage by stage, and the bus that is left when
all of it is read. -/
structure Intake (M : Type) where
  bytes : List Byte
  pointer : List Byte
  operand : Operand
  data : List Byte
  bus : M

namespace Machine

variable {M : Type}

/-- The address behind an instruction that starts at the program counter. -/
def behind (m : Machine M) (i : Instruction) : Address :=
  m.core.seq.pc + 1 + UInt16.ofNat i.mode.operandBytes

/-- A call is three bytes long. -/
theorem behind_call (m : Machine M) {mode : Mode} (h : Mnemonic.jsr.supports mode = true) :
    m.behind ⟨.jsr, mode⟩ = m.core.seq.pc + 3 := by
  have absolute : mode = .absolute := eq_of_beq h
  subst absolute
  exact UInt16.add_assoc m.core.seq.pc 1 2

variable [Bus M]

/-- The byte that the bus answers with at the program counter. -/
def opcode (m : Machine M) : Byte := (Bus.read m.core.seq.bus m.core.seq.pc).1

def next? (m : Machine M) : Option Instruction := m.set.get? m.opcode

def intake (m : Machine M) (i : Instruction) : Intake M :=
  match m with
  | ⟨⟨cpu, ⟨bus, pc, sp⟩⟩, _, _, _⟩ =>
    let (_, bus) := Bus.read bus pc
    let (bytes, bus) := Bus.readAll bus ((pc + 1).cells i.mode.operandBytes)
    let (pointer, bus) := Bus.readAll bus (i.mode.pointerCells cpu bytes)
    let operand := i.mode.target cpu (m.behind i) bytes pointer
    let (data, bus) := Bus.readAll bus (i.mnemonic.work.cells operand sp)
    ⟨bytes, pointer, operand, data, bus⟩

/-- The cells that an instruction reads behind its opcode, in order. -/
def cells (m : Machine M) (i : Instruction) : List Address :=
  let v := m.intake i
  (m.core.seq.pc + 1).cells i.mode.operandBytes ++ i.mode.pointerCells m.core.cpu v.bytes ++
    i.mnemonic.work.cells v.operand m.core.seq.sp

def outcome (m : Machine M) (i : Instruction) : Outcome :=
  let v := m.intake i
  i.mnemonic.work.outcome v.operand m.core.cpu (m.behind i) m.core.seq.sp v.data

def result (m : Machine M) (i : Instruction) : Machine M :=
  let o := m.outcome i
  ⟨⟨o.cpu, ⟨Bus.writeAll (m.intake i).bus o.writes, o.pc, o.sp⟩⟩, m.set, o.halts, m.steps + 1⟩

def records (m : Machine M) (i : Instruction) : List Record :=
  .executing ⟨m.core.seq.pc, m.opcode, i.mnemonic, (m.intake i).operand, m.core.cpu,
    m.core.seq.sp⟩ ::
    if (m.outcome i).halts then [.halted m.core.seq.pc (m.steps + 1)] else []

/-- The accesses of a step in order: reads first, then writes. -/
def footprint (m : Machine M) : List Access :=
  .read m.core.seq.pc ::
    match m.next? with
    | none => []
    | some i => (m.cells i).map .read ++ (m.outcome i).writes.map fun (a, b) => .write a b

/-- An unknown opcode is read and passed by. -/
theorem step_of_none {m : Machine M} (h : m.next? = none) :
    m.step = ⟨m.withSeq fun s => s.next.2, [.unknownOpcode m.opcode m.core.seq.pc],
      some (.unknownOpcode m.opcode m.core.seq.pc)⟩ := by
  obtain ⟨⟨cpu, bus, pc, sp⟩, set, halted, steps⟩ := m
  change set.get? (Bus.read bus pc).1 = none at h
  simp only [step, Sequencer.next, h]
  rfl

theorem takes_operand (m : Machine M) {i : Instruction} (h : i.isSupported = true) :
    i.mnemonic.work.takes (m.intake i).operand = true :=
  Mnemonic.takes_target h m.core.cpu (m.behind i) (m.intake i).bytes (m.intake i).pointer

/-- Behind its operand, an instruction does what its outcome tells. -/
theorem execute_intake {m : Machine M} {i : Instruction} (h : i.isSupported = true) :
    Core.execute ⟨m.core.cpu, (m.core.seq.next.2.operand i.mode m.core.cpu).2⟩
        (m.intake i).operand i.mnemonic =
      (if (m.outcome i).halts then .halt else .next, (m.result i).core) := by
  rw [Sequencer.operand_eq]
  exact Core.execute_eq _ _ _ (m.takes_operand h)

/-- A known instruction is always carried out. -/
theorem step_of_some {m : Machine M} {i : Instruction} (h : m.next? = some i) :
    m.step = ⟨m.result i, m.records i, none⟩ := by
  have executed := execute_intake (m := m) (InstructionSet.isSupported_of_get? h)
  have read : (m.core.seq.next.2.operand i.mode m.core.cpu).1 = (m.intake i).operand := by
    rw [Sequencer.operand_eq]
    rfl
  have sp : (m.core.seq.next.2.operand i.mode m.core.cpu).2.sp = m.core.seq.sp := by
    rw [Sequencer.operand_eq]
    rfl
  change m.set.get? m.core.seq.next.1 = some i at h
  simp only [step, h, read, sp, executed]
  cases ho : (m.outcome i).halts <;> simp [result, records, ho]
  all_goals rfl

/-- Reading the cells of an instruction leaves the bus of its intake. -/
theorem intake_bus (m : Machine M) (i : Instruction) :
    (m.intake i).bus = (Bus.readAll (Bus.read m.core.seq.bus m.core.seq.pc).2 (m.cells i)).2 := by
  simp only [cells, Bus.readAll_append]
  rfl

/-- A step does to the bus what its footprint tells, and nothing else. -/
theorem step_footprint (m : Machine M) :
    m.step.machine.core.seq.bus = Bus.perform m.core.seq.bus m.footprint := by
  cases h : m.next? with
  | none =>
    rw [step_of_none h]
    simp only [footprint, h]
    rfl
  | some i =>
    rw [step_of_some h]
    simp only [footprint, h]
    change Bus.writeAll (m.intake i).bus (m.outcome i).writes =
      Bus.perform (Bus.read m.core.seq.bus m.core.seq.pc).2 _
    rw [Bus.perform_append, Bus.perform_reads, Bus.perform_writes, intake_bus]

/-- The machine after so many steps, halted or not. -/
def after (m : Machine M) : Nat → Machine M
  | 0 => m
  | k + 1 => (m.after k).step.machine

/-- A machine on plain memory with nothing but a program, at the start of it. -/
def holding (program : List Byte) (origin : Address) : Machine Ram :=
  (new Ram.blank .standard).load program origin

end Machine

end Console6502
