import Console6502.Proofs.Arithmetic
import Console6502.Proofs.Steps

namespace Console6502

namespace Machine

variable {M : Type} [Bus M]

/-- The accesses of an instruction behind those for its operand. An instruction that can do with an
address or without accesses the address if it has one. -/
def actions (m : Machine M) (i : Instruction) : List Access :=
  let cpu := m.core.cpu
  let p := m.core.seq.pc
  let s := m.core.seq.sp
  let cell (s : Byte) : Address := 0x0100 + s.toUInt16
  let c : Byte := if cpu.carry then 1 else 0
  let e := (m.intake i).operand.address?.toList
  let b := (m.intake i).data.getD 0 0
  match i.mnemonic with
  | .lda | .ldx | .ldy | .adc | .sbc | .and | .ora | .eor | .cmp | .cpx | .cpy | .bit => e.map .read
  | .sta => e.map (.write · cpu.a)
  | .stx => e.map (.write · cpu.x)
  | .sty => e.map (.write · cpu.y)
  | .inc => e.flatMap fun e => [.read e, .write e (b + 1)]
  | .dec => e.flatMap fun e => [.read e, .write e (b - 1)]
  | .asl => e.flatMap fun e => [.read e, .write e (2 * b)]
  | .lsr => e.flatMap fun e => [.read e, .write e (b / 2)]
  | .rol => e.flatMap fun e => [.read e, .write e (2 * b + c)]
  | .ror => e.flatMap fun e => [.read e, .write e (b / 2 + 128 * c)]
  | .pha => [.write (cell (s - 1)) cpu.a]
  | .pla => [.read (cell s)]
  | .jsr =>
    [.write (cell (s - 1)) ((p + 3) / 256).toUInt8, .write (cell (s - 2)) (p + 3).toUInt8]
  | .rts => [.read (cell s), .read (cell (s + 1))]
  | _ => []

/-- The accesses of a step: the opcode, the operand bytes, the pointer if the mode has one, and what
the instruction does. An unknown opcode is only read. -/
def accesses (m : Machine M) : List Access :=
  let p := m.core.seq.pc
  match m.next? with
  | none => [.read p]
  | some i =>
    .read p :: ((p + 1).cells i.mode.operandBytes).map .read ++
      (i.mode.pointerCells m.core.cpu (m.intake i).bytes).map .read ++ m.actions i

def reads (m : Machine M) : List Address := m.accesses.filterMap Access.cell?

def writes (m : Machine M) : List (Address × Byte) := m.accesses.filterMap Access.write?

/-- An instruction reads the cells of its work before it writes. -/
theorem actions_eq (m : Machine M) {i : Instruction} (h : i.isSupported = true) :
    m.actions i =
      (i.mnemonic.work.cells (m.intake i).operand m.core.seq.sp).map .read ++
        (m.outcome i).writes.map fun (a, b) => .write a b := by
  have takes := m.takes_operand h
  obtain ⟨mn, mode⟩ := i
  simp only [actions, outcome]
  generalize (m.intake ⟨mn, mode⟩).operand = operand at takes ⊢
  cases mn
  case jsr =>
    rw [behind_call m h]
    cases operand <;> first | rfl | cases takes
  case asl =>
    simp only [← Shift.left_result _ m.core.cpu.carry]
    cases operand <;> rfl
  case lsr =>
    simp only [← Shift.right_result _ m.core.cpu.carry]
    cases operand <;> rfl
  case rol =>
    simp only [← Shift.rotateLeft_result]
    cases operand <;> rfl
  case ror =>
    simp only [← Shift.rotateRight_result]
    cases operand <;> rfl
  all_goals cases operand <;> rfl

theorem accesses_eq (m : Machine M) : m.accesses = m.footprint := by
  cases h : m.next? with
  | none => simp only [accesses, footprint, h]
  | some i =>
    simp only [accesses, footprint, h, actions_eq m (InstructionSet.isSupported_of_get? h), cells,
      List.map_append, List.append_assoc, List.cons_append]

theorem reads_eq (m : Machine M) :
    m.reads = m.core.seq.pc :: (m.next?.elim [] fun i => m.cells i) := by
  rw [reads, accesses_eq]
  cases h : m.next? with
  | none =>
    simp only [footprint, h]
    rfl
  | some i =>
    simp only [footprint, h, List.filterMap_cons, List.filterMap_append, Access.cells_reads,
      Access.cells_writes, List.append_nil]
    rfl

theorem writes_eq {m : Machine M} {i : Instruction} (h : m.next? = some i) :
    m.writes = (m.outcome i).writes := by
  simp only [writes, accesses_eq, footprint, h, List.filterMap_cons, List.filterMap_append,
    Access.writes_reads, Access.writes_writes, Access.write?, List.nil_append]

/-- The bus after a step is the bus before it with the accesses of the step performed in order. -/
theorem step_bus (m : Machine M) :
    m.step.machine.core.seq.bus = Bus.perform m.core.seq.bus m.accesses := by
  rw [accesses_eq, step_footprint]

/-- All accesses of the first `k` steps. -/
def traffic (m : Machine M) : (k : Nat) → List Access
  | 0 => []
  | k + 1 => m.traffic k ++ (m.after k).accesses

theorem after_traffic (m : Machine M) (k : Nat) :
    (m.after k).core.seq.bus = Bus.perform m.core.seq.bus (m.traffic k) := by
  induction k with
  | zero => rfl
  | succ k ih => rw [after, step_footprint, ← accesses_eq, ih, traffic, Bus.perform_append]

end Machine

end Console6502
