import Console6502.Proofs.Steps

namespace Console6502

/-- The number that two cells hold, the low byte read first. -/
def Bus.number {M : Type} [Bus M] (bus : M) (low high : Address) : Nat :=
  let (l, bus) := read bus low
  let (h, _) := read bus high
  l.toNat + 256 * h.toNat

/-- The flag that a mnemonic branches on, and what it must be. -/
def Mnemonic.condition? : Mnemonic → Option ((Cpu → Bool) × Bool)
  | .bcc => some (Cpu.carry, false)
  | .bcs => some (Cpu.carry, true)
  | .beq => some (Cpu.zero, true)
  | .bne => some (Cpu.zero, false)
  | .bmi => some (Cpu.negative, true)
  | .bpl => some (Cpu.negative, false)
  | _ => none

namespace Mnemonic

variable {m : Mnemonic} {flag : Cpu → Bool} {value : Bool}

theorem work_of_condition (h : m.condition? = some (flag, value)) :
    ∃ condition, m.work = .branch condition ∧ ∀ cpu, condition cpu = true ↔ flag cpu = value := by
  cases m
  case bcc | bne | bpl =>
    cases h
    exact ⟨_, rfl, fun cpu => by simp⟩
  case bcs | beq | bmi =>
    cases h
    exact ⟨_, rfl, fun cpu => Iff.rfl⟩
  all_goals cases h

theorem shape_of_condition (h : m.condition? = some (flag, value)) : m.shape = .branch := by
  cases m <;> first | rfl | cases h

/-- All but the branches, jumps, calls and returns. -/
def isSequential (m : Mnemonic) : Bool :=
  m.condition?.isNone && m != .jmp && m != .jsr && m != .rts

theorem outcome_pc_of_sequential (h : m.isSequential = true) (operand : Operand) (cpu : Cpu)
    (pc : Address) (sp : Byte) (data : List Byte) :
    (m.work.outcome operand cpu pc sp data).pc = pc := by
  cases m
  case bcc | bcs | beq | bne | bmi | bpl | jmp | jsr | rts => cases h
  all_goals cases operand <;> rfl

theorem outcome_halts (m : Mnemonic) (operand : Operand) (cpu : Cpu) (pc : Address) (sp : Byte)
    (data : List Byte) : (m.work.outcome operand cpu pc sp data).halts = decide (m = .brk) := by
  cases m <;> cases operand <;> rfl

end Mnemonic

namespace Machine

variable {M : Type}

theorem toNat_behind (m : Machine M) (i : Instruction) :
    (m.behind i).toNat = (m.core.seq.pc.toNat + 1 + i.mode.operandBytes) % 65536 := by
  have size : i.mode.operandBytes ≤ 2 := by cases i.mode <;> decide
  rw [behind, UInt16.toNat_add, UInt16.toNat_add, UInt16.toNat_ofNat']
  change ((m.core.seq.pc.toNat + 1) % 65536 + i.mode.operandBytes % 65536) % 65536 = _
  omega

variable [Bus M]

/-- The operand bytes, and the bus once they are read. -/
def fetched (m : Machine M) (i : Instruction) : List Byte × M :=
  let (_, bus) := Bus.read m.core.seq.bus m.core.seq.pc
  Bus.readAll bus ((m.core.seq.pc + 1).cells i.mode.operandBytes)

/-- Where an instruction goes. An indirect jump finds the high byte of its target in the page of the
low byte, and a return finds both in the stack page. -/
def goal (m : Machine M) (i : Instruction) : Int :=
  let p := m.core.seq.pc.toNat
  let s := m.core.seq.sp
  let (bytes, bus) := m.fetched i
  let b := bytes.getD 0 0
  let w := Address.word bytes
  let offset : Int := if b.toNat < 128 then b.toNat else b.toNat - 256
  match i.mnemonic.condition?, i with
  | some (flag, value), _ =>
    if flag m.core.cpu = value then (p + 2 + offset) % 65536 else (p + 2) % 65536
  | none, ⟨.jmp, .indirect⟩ => Bus.number bus w ((w &&& 0xFF00) ||| ((w + 1) &&& 0x00FF))
  | none, ⟨.jmp, _⟩ | none, ⟨.jsr, _⟩ => (b.toNat + 256 * (bytes.getD 1 0).toNat : Nat)
  | none, ⟨.rts, _⟩ => Bus.number bus (0x0100 + s.toUInt16) (0x0100 + (s + 1).toUInt16)
  | none, _ => (p + 1 + i.mode.operandBytes) % 65536

/-- Two bytes are stored below the top of the stack, the high one first. Their number is that of the
address behind a call. -/
def Saves (m : Machine M) (i : Instruction) : Prop :=
  ∃ low high : Byte, low.toNat + 256 * high.toNat = (m.core.seq.pc.toNat + 3) % 65536 ∧
    m.step.machine.core.seq.bus =
      Bus.write (Bus.write (m.fetched i).2 (0x0100 + (m.core.seq.sp - 1).toUInt16) high)
        (0x0100 + (m.core.seq.sp - 2).toUInt16) low

theorem goal_of_condition (m : Machine M) {i : Instruction} (supported : i.isSupported = true)
    {flag : Cpu → Bool} {value : Bool} (h : i.mnemonic.condition? = some (flag, value)) :
    ((m.outcome i).pc.toNat : Int) = m.goal i := by
  obtain ⟨mn, mode⟩ := i
  have relative : mode = .relative := by
    rw [Instruction.isSupported, Mnemonic.supports, Mnemonic.shape_of_condition h] at supported
    exact eq_of_beq supported
  subst relative
  obtain ⟨condition, work, taken⟩ := Mnemonic.work_of_condition h
  have behind := m.toNat_behind ⟨mn, .relative⟩
  simp only [Mode.operandBytes] at behind
  have pc : (m.outcome ⟨mn, .relative⟩).pc =
      if condition m.core.cpu then
        (m.behind ⟨mn, .relative⟩).displace ((m.fetched ⟨mn, .relative⟩).1.getD 0 0)
      else m.behind ⟨mn, .relative⟩ := by
    simp only [outcome, work]
    rfl
  simp only [goal, h, pc, taken]
  split
  · rw [Address.toNat_displace, Byte.signed_eq, behind]
    omega
  · rw [behind]
    omega

theorem goal_of_sequential (m : Machine M) {i : Instruction}
    (h : i.mnemonic.isSequential = true) : ((m.outcome i).pc.toNat : Int) = m.goal i := by
  have pc : (m.outcome i).pc = m.behind i := Mnemonic.outcome_pc_of_sequential h _ _ _ _ _
  have behind := m.toNat_behind i
  obtain ⟨mn, mode⟩ := i
  have goal : m.goal ⟨mn, mode⟩ = (m.core.seq.pc.toNat + 1 + mode.operandBytes) % 65536 := by
    cases mn
    case bcc | bcs | beq | bne | bmi | bpl | jmp | jsr | rts => cases h
    all_goals rfl
  rw [pc, behind, goal]
  rfl

/-- The outcome of a supported instruction leads to its goal. -/
theorem goal_of_supported (m : Machine M) {i : Instruction} (supported : i.isSupported = true) :
    ((m.outcome i).pc.toNat : Int) = m.goal i := by
  cases h : i.mnemonic.condition? with
  | some condition => exact m.goal_of_condition supported h
  | none =>
    by_cases sequential : i.mnemonic.isSequential = true
    · exact m.goal_of_sequential sequential
    · obtain ⟨mn, mode⟩ := i
      cases mn
      case jmp =>
        rcases (Bool.or_eq_true _ _).mp supported with absolute | indirect
        · cases eq_of_beq absolute
          exact congrArg Nat.cast (Address.toNat_ofBytes _ _)
        · cases eq_of_beq indirect
          exact congrArg Nat.cast (Address.toNat_ofBytes _ _)
      case jsr =>
        have absolute : mode = .absolute := eq_of_beq supported
        subst absolute
        exact congrArg Nat.cast (Address.toNat_ofBytes _ _)
      case rts =>
        have implicit : mode = .implicit := eq_of_beq supported
        subst implicit
        exact congrArg Nat.cast (Address.toNat_ofBytes _ _)
      case bcc | bcs | beq | bne | bmi | bpl => cases h
      all_goals exact absurd rfl sequential

theorem saves_of_call (m : Machine M) {i : Instruction} (h : m.next? = some i)
    (call : i.mnemonic = .jsr) : m.Saves i := by
  have supported : i.isSupported = true := InstructionSet.isSupported_of_get? h
  obtain ⟨mn, mode⟩ := i
  dsimp only at call
  subst call
  have absolute : mode = .absolute := eq_of_beq supported
  subst absolute
  refine ⟨(m.behind ⟨.jsr, .absolute⟩).low, (m.behind ⟨.jsr, .absolute⟩).high, ?_, ?_⟩
  · rw [← Address.toNat_ofBytes, Address.ofBytes_low_high, toNat_behind]
    rfl
  · rw [step_of_some h]
    rfl

/-- A step that comes to an end goes to the goal of its instruction, saves what a call must save,
and halts the machine just if it is a BRK. -/
theorem step_control (m : Machine M) (ok : m.step.fault? = none) :
    ∃ i : Instruction, m.next? = some i ∧
      (m.step.machine.core.seq.pc.toNat : Int) = m.goal i ∧
      (i.mnemonic = .jsr → m.Saves i) ∧
      (m.step.machine.halted = true ↔ i.mnemonic = .brk) := by
  cases h : m.next? with
  | none => simp [step_of_none h] at ok
  | some i =>
    refine ⟨i, rfl, ?_, m.saves_of_call h, ?_⟩
    · rw [step_of_some h]
      exact m.goal_of_supported (InstructionSet.isSupported_of_get? h)
    · rw [step_of_some h]
      change (m.outcome i).halts = true ↔ _
      rw [outcome, Mnemonic.outcome_halts, decide_eq_true_iff]

/-- A call whose operand lies beyond the end of memory, at the start of the zero page. -/
theorem step_control_wrap :
    (holding [0x20, 0x34, 0x12] 0xFFFF).step.fault? = none ∧
      ∃ i : Instruction, (holding [0x20, 0x34, 0x12] 0xFFFF).next? = some i ∧
        ((holding [0x20, 0x34, 0x12] 0xFFFF).step.machine.core.seq.pc.toNat : Int) =
          (holding [0x20, 0x34, 0x12] 0xFFFF).goal i ∧
        (i.mnemonic = .jsr → (holding [0x20, 0x34, 0x12] 0xFFFF).Saves i) ∧
        ((holding [0x20, 0x34, 0x12] 0xFFFF).step.machine.halted = true ↔ i.mnemonic = .brk) :=
  ⟨by decide +kernel, step_control _ (by decide +kernel)⟩

end Machine

end Console6502
