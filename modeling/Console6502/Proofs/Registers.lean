import Console6502.Proofs.Arithmetic
import Console6502.Proofs.Steps

namespace Console6502

/-- What can be seen of the registers. -/
inductive Part
  | a
  | x
  | y
  | sp
  | carry
  | zero
  | negative
deriving DecidableEq, Repr

/-- The parts as numbers, a flag as 0 or 1. -/
def Cpu.view (cpu : Cpu) (sp : Byte) : Part → Nat
  | .a => cpu.a.toNat
  | .x => cpu.x.toNat
  | .y => cpu.y.toNat
  | .sp => sp.toNat
  | .carry => cpu.carry.toNat
  | .zero => cpu.zero.toNat
  | .negative => cpu.negative.toNat

def Machine.view {M : Type} (m : Machine M) : Part → Nat := m.core.cpu.view m.core.seq.sp

/-- Zero and negative tell of a result. -/
def Tells (new : Part → Nat) (r : Nat) : Prop :=
  (new .zero = 1 ↔ r = 0) ∧ new .negative = r / 128 % 2

/-- The flags tell how a register compares. -/
def Compares (new : Part → Nat) (r b : Nat) : Prop :=
  (new .carry = 1 ↔ b ≤ r) ∧ (new .zero = 1 ↔ r = b) ∧
    new .negative = (r + 256 - b) % 256 / 128 % 2

/-- What a mnemonic makes of the old parts and the byte `b` it works on. The result of a shift, an
increment or a decrement at its operand is `r`. -/
def Mnemonic.Law (m : Mnemonic) (old new : Part → Nat) (b r : Nat) : Prop :=
  match m with
  | .lda => new .a = b ∧ Tells new b
  | .ldx => new .x = b ∧ Tells new b
  | .ldy => new .y = b ∧ Tells new b
  | .adc => new .a + 256 * new .carry = old .a + b + old .carry ∧ Tells new (new .a)
  | .sbc =>
    (new .a : Int) = old .a - b - (1 - old .carry) + 256 * (1 - new .carry) ∧ Tells new (new .a)
  | .and => new .a = old .a &&& b ∧ Tells new (new .a)
  | .ora => new .a = old .a ||| b ∧ Tells new (new .a)
  | .eor => new .a = old .a ^^^ b ∧ Tells new (new .a)
  | .cmp => Compares new (old .a) b
  | .cpx => Compares new (old .x) b
  | .cpy => Compares new (old .y) b
  | .bit => (new .zero = 1 ↔ old .a &&& b = 0) ∧ new .negative = b / 128 % 2
  | .inc => r = (b + 1) % 256 ∧ Tells new r
  | .dec => r = (b + 255) % 256 ∧ Tells new r
  | .inx => new .x = (old .x + 1) % 256 ∧ Tells new (new .x)
  | .iny => new .y = (old .y + 1) % 256 ∧ Tells new (new .y)
  | .dex => new .x = (old .x + 255) % 256 ∧ Tells new (new .x)
  | .dey => new .y = (old .y + 255) % 256 ∧ Tells new (new .y)
  | .asl => r + 256 * new .carry = 2 * b ∧ Tells new r
  | .lsr => 2 * r + new .carry = b ∧ Tells new r
  | .rol => r + 256 * new .carry = 2 * b + old .carry ∧ Tells new r
  | .ror => 2 * r + new .carry = b + 256 * old .carry ∧ Tells new r
  | .tax => new .x = old .a ∧ Tells new (old .a)
  | .tay => new .y = old .a ∧ Tells new (old .a)
  | .txa => new .a = old .x ∧ Tells new (old .x)
  | .tya => new .a = old .y ∧ Tells new (old .y)
  | .tsx => new .x = old .sp ∧ Tells new (old .sp)
  | .txs => new .sp = old .x
  | .pha => new .sp = (old .sp + 255) % 256
  | .pla => new .sp = (old .sp + 1) % 256 ∧ new .a = b ∧ Tells new b
  | .jsr => new .sp = (old .sp + 254) % 256
  | .rts => new .sp = (old .sp + 2) % 256
  | .clc => new .carry = 0
  | .sec => new .carry = 1
  | .sta | .stx | .sty | .bcc | .bcs | .beq | .bne | .bmi | .bpl | .jmp | .nop | .brk => True

/-- All that an instruction may change. -/
def Instruction.changes (i : Instruction) : List Part :=
  match i.mnemonic with
  | .lda | .and | .ora | .eor | .txa | .tya => [.a, .zero, .negative]
  | .ldx | .tax | .tsx | .inx | .dex => [.x, .zero, .negative]
  | .ldy | .tay | .iny | .dey => [.y, .zero, .negative]
  | .adc | .sbc => [.a, .carry, .zero, .negative]
  | .asl | .lsr | .rol | .ror =>
    if i.mode = .accumulator then [.a, .carry, .zero, .negative] else [.carry, .zero, .negative]
  | .cmp | .cpx | .cpy => [.carry, .zero, .negative]
  | .bit | .inc | .dec => [.zero, .negative]
  | .clc | .sec => [.carry]
  | .pla => [.a, .zero, .negative, .sp]
  | .txs | .pha | .jsr | .rts => [.sp]
  | .sta | .stx | .sty | .bcc | .bcs | .beq | .bne | .bmi | .bpl | .jmp | .nop | .brk => []

section

variable (cpu : Cpu) (sp : Byte)

theorem tells_follow (b : Byte) : Tells ((cpu.follow b).view sp) b.toNat :=
  ⟨Cpu.toNat_zero b, Cpu.toNat_sign b⟩

theorem tells_set (r : Register) (b : Byte) : Tells ((cpu.set r b).view sp) b.toNat := by
  cases r <;> exact tells_follow _ sp b

theorem compares_compare (r : Register) (b : Byte) :
    Compares ((cpu.compare r b).view sp) (cpu.get r).toNat b.toNat := by
  have hb := b.toNat_lt
  have hr := (cpu.get r).toNat_lt
  have difference : (cpu.get r - b).toNat = ((cpu.get r).toNat + 256 - b.toNat) % 256 := by
    rw [UInt8.toNat_sub]
    omega
  obtain ⟨zero, negative⟩ := tells_follow (cpu.carryIf (b ≤ cpu.get r)) sp (cpu.get r - b)
  rw [difference] at zero negative
  refine ⟨?_, zero.trans (by omega), negative⟩
  change (decide (b ≤ cpu.get r)).toNat = 1 ↔ _
  rw [Bool.toNat_eq_one, decide_eq_true_iff, UInt8.le_iff_toNat_le]

theorem bitTest_law (b : Byte) :
    Mnemonic.bit.Law (cpu.view sp) ((cpu.bitTest b).view sp) b.toNat 0 := by
  refine ⟨?_, Cpu.toNat_sign b⟩
  have zero := Cpu.toNat_zero (cpu.a &&& b)
  rwa [UInt8.toNat_and] at zero

/-- What an instruction puts back where its operand came from. -/
def Outcome.Puts (o : Outcome) (operand : Operand) (r : Byte) : Prop :=
  match operand with
  | .address e => o.writes = [(e, r)]
  | _ => o.cpu.a = r

theorem shift_law (f : Byte → Bool → Shift) (operand : Operand) (pc : Address) (data : List Byte)
    (fits : (Work.shift f).takes operand = true) :
    let o := (Work.shift f).outcome operand cpu pc sp data
    let s := f (operand.argument cpu data) cpu.carry
    o.cpu.view o.sp .carry = s.carry.toNat ∧ Tells (o.cpu.view o.sp) s.result.toNat ∧
      o.Puts operand s.result := by
  cases operand with
  | address e => exact ⟨rfl, tells_follow _ sp _, rfl⟩
  | implied => exact ⟨rfl, tells_set _ sp .a _, rfl⟩
  | immediate b => cases fits

theorem modify_law (f : Byte → Byte) (operand : Operand) (pc : Address) (data : List Byte)
    (fits : (Work.modify f).takes operand = true) :
    let o := (Work.modify f).outcome operand cpu pc sp data
    let r := f (operand.argument cpu data)
    Tells (o.cpu.view o.sp) r.toNat ∧ o.Puts operand r := by
  cases operand with
  | address e => exact ⟨tells_follow cpu sp _, rfl⟩
  | implied => cases fits
  | immediate b => cases fits

/-- The byte that a mnemonic works on: the one pulled, or the one that the operand gives. -/
def Mnemonic.argument (m : Mnemonic) (operand : Operand) (data : List Byte) : Byte :=
  match m with
  | .pla => data.getD 0 0
  | _ => operand.argument cpu data

theorem toNat_minus (b c : Byte) : (b - c).toNat = (b.toNat + (256 - c.toNat)) % 256 := by
  rw [UInt8.toNat_sub, Nat.add_comm]

/-- The law of the mnemonics that have no result at their operand. -/
theorem plain_law {m : Mnemonic} (shift : m.shape ≠ .shift) (modify : m.shape ≠ .modify)
    (operand : Operand) (pc : Address) (data : List Byte) (r : Nat)
    (fits : m.work.takes operand = true) :
    let o := m.work.outcome operand cpu pc sp data
    m.Law (cpu.view sp) (o.cpu.view o.sp) (m.argument cpu operand data).toNat r := by
  intro o
  cases m
  case lda | ldx | ldy => exact ⟨rfl, tells_set cpu sp _ _⟩
  case adc => exact ⟨cpu.addWithCarry_eq _, tells_set _ sp _ _⟩
  case sbc => exact ⟨cpu.subtractWithCarry_eq _, tells_set _ sp _ _⟩
  case and => exact ⟨UInt8.toNat_and cpu.a _, tells_set _ sp _ _⟩
  case ora => exact ⟨UInt8.toNat_or cpu.a _, tells_set _ sp _ _⟩
  case eor => exact ⟨UInt8.toNat_xor cpu.a _, tells_set _ sp _ _⟩
  case cmp => exact compares_compare cpu sp .a _
  case cpx => exact compares_compare cpu sp .x _
  case cpy => exact compares_compare cpu sp .y _
  case bit => exact bitTest_law cpu sp _
  case inx => exact ⟨UInt8.toNat_add cpu.x 1, tells_set _ sp _ _⟩
  case iny => exact ⟨UInt8.toNat_add cpu.y 1, tells_set _ sp _ _⟩
  case dex => exact ⟨toNat_minus cpu.x 1, tells_set _ sp _ _⟩
  case dey => exact ⟨toNat_minus cpu.y 1, tells_set _ sp _ _⟩
  case tax | tay | txa | tya | tsx => exact ⟨rfl, tells_set _ sp _ _⟩
  case pha => exact toNat_minus sp 1
  case pla => exact ⟨UInt8.toNat_add sp 1, rfl, tells_set _ _ _ _⟩
  case rts => exact UInt8.toNat_add sp 2
  case jsr =>
    cases operand with
    | address a => exact toNat_minus sp 2
    | implied => cases fits
    | immediate b => cases fits
  case clc | sec | txs => rfl
  case asl | lsr | rol | ror => exact absurd rfl shift
  case inc | dec => exact absurd rfl modify
  all_goals trivial

/-- The law of shifts, increments and decrements, with their result. -/
theorem result_law {m : Mnemonic} (h : m.shape = .shift ∨ m.shape = .modify) (operand : Operand)
    (pc : Address) (data : List Byte) (fits : m.work.takes operand = true) :
    let o := m.work.outcome operand cpu pc sp data
    ∃ r : Byte,
      m.Law (cpu.view sp) (o.cpu.view o.sp) (m.argument cpu operand data).toNat r.toNat ∧
        o.Puts operand r := by
  intro o
  cases m
  case inc =>
    obtain ⟨tells, puts⟩ := modify_law cpu sp (· + 1) operand pc data fits
    exact ⟨_, ⟨UInt8.toNat_add _ 1, tells⟩, puts⟩
  case dec =>
    obtain ⟨tells, puts⟩ := modify_law cpu sp (· - 1) operand pc data fits
    exact ⟨_, ⟨toNat_minus _ 1, tells⟩, puts⟩
  case asl =>
    obtain ⟨carry, tells, puts⟩ := shift_law cpu sp Shift.left operand pc data fits
    have value := Shift.left_eq (operand.argument cpu data) cpu.carry
    rw [← carry] at value
    exact ⟨_, ⟨value, tells⟩, puts⟩
  case lsr =>
    obtain ⟨carry, tells, puts⟩ := shift_law cpu sp Shift.right operand pc data fits
    have value := Shift.right_eq (operand.argument cpu data) cpu.carry
    rw [← carry] at value
    exact ⟨_, ⟨value, tells⟩, puts⟩
  case rol =>
    obtain ⟨carry, tells, puts⟩ := shift_law cpu sp Shift.rotateLeft operand pc data fits
    have value := Shift.rotateLeft_eq (operand.argument cpu data) cpu.carry
    rw [← carry] at value
    exact ⟨_, ⟨value, tells⟩, puts⟩
  case ror =>
    obtain ⟨carry, tells, puts⟩ := shift_law cpu sp Shift.rotateRight operand pc data fits
    have value := Shift.rotateRight_eq (operand.argument cpu data) cpu.carry
    rw [← carry] at value
    exact ⟨_, ⟨value, tells⟩, puts⟩
  all_goals simp [Mnemonic.shape] at h

/-- A shift that is supported finds its operand in the accumulator just in that mode. -/
theorem shift_operand {i : Instruction} (h : i.isSupported = true)
    (shift : i.mnemonic.shape = .shift) (pc : Address) (bytes pointer : List Byte) :
    i.mode = .accumulator ↔ i.mode.target cpu pc bytes pointer = .implied := by
  obtain ⟨m, mode⟩ := i
  dsimp only at shift ⊢
  simp only [Instruction.isSupported, Mnemonic.supports, shift] at h
  cases mode <;> simp [Shape.admits, Mode.isData, Mode.isAddressed, Mode.target] at h ⊢

theorem shift_work {m : Mnemonic} (shift : m.shape = .shift) : ∃ f, m.work = .shift f := by
  cases m <;> first | exact ⟨_, rfl⟩ | cases shift

theorem shift_changes {m : Mnemonic} (shift : m.shape = .shift) (mode : Mode) :
    Instruction.changes ⟨m, mode⟩ =
      if mode = .accumulator then [.a, .carry, .zero, .negative]
      else [.carry, .zero, .negative] := by
  cases m <;> first | rfl | cases shift

/-- What an instruction is not listed to change stays as it is. -/
theorem outcome_frame {i : Instruction} (operand : Operand) (pc : Address) (data : List Byte)
    (fits : i.mnemonic.work.takes operand = true)
    (place : i.mnemonic.shape = .shift → (i.mode = .accumulator ↔ operand = .implied))
    {p : Part} (hp : p ∉ i.changes) :
    let o := i.mnemonic.work.outcome operand cpu pc sp data
    o.cpu.view o.sp p = cpu.view sp p := by
  obtain ⟨m, mode⟩ := i
  by_cases shift : m.shape = .shift
  · obtain ⟨f, hf⟩ := shift_work shift
    simp only [shift, forall_const] at place
    simp only [shift_changes shift, place] at hp
    simp only [hf] at fits ⊢
    cases operand with
    | address e => cases p <;> first | rfl | simp at hp
    | implied => cases p <;> first | rfl | simp at hp
    | immediate b => cases fits
  · cases m
    case asl | lsr | rol | ror => exact absurd rfl shift
    case sta | stx | sty | inc | dec | bcc | bcs | beq | bne | bmi | bpl | jmp | jsr =>
      cases operand with
      | address e => cases p <;> first | rfl | simp [Instruction.changes] at hp
      | implied => cases fits
      | immediate b => cases fits
    all_goals cases p <;> first | rfl | simp [Instruction.changes] at hp

end

namespace Machine

variable {M : Type} [Bus M]

/-- The byte that an instruction works on. -/
def argument (m : Machine M) (i : Instruction) : Byte :=
  i.mnemonic.argument m.core.cpu (m.intake i).operand (m.intake i).data

/-- A result is put where the operand came from: written to the address once all is read, or else
kept in the accumulator. -/
def Puts (m : Machine M) (i : Instruction) (r : Byte) : Prop :=
  match (m.intake i).operand with
  | .address e => m.step.machine.core.seq.bus = Bus.write (m.intake i).bus e r
  | _ => m.step.machine.core.cpu.a = r

theorem result_puts (m : Machine M) {i : Instruction} (h : m.next? = some i) {r : Byte}
    (puts : (m.outcome i).Puts (m.intake i).operand r) : m.Puts i r := by
  unfold Puts
  rw [step_of_some h]
  cases ho : (m.intake i).operand with
  | address e =>
    rw [ho] at puts
    have writes : (m.outcome i).writes = [(e, r)] := puts
    change Bus.writeAll (m.intake i).bus (m.outcome i).writes = _
    rw [writes]
    rfl
  | implied =>
    rw [ho] at puts
    exact puts
  | immediate b =>
    rw [ho] at puts
    exact puts

/-- A step that comes to an end obeys the law of its mnemonic and changes nothing that is not
listed. -/
theorem step_registers (m : Machine M) (ok : m.step.fault? = none) :
    ∃ (i : Instruction) (r : Byte), m.next? = some i ∧
      i.mnemonic.Law m.view m.step.machine.view (m.argument i).toNat r.toNat ∧
      (i.mnemonic.shape = .shift ∨ i.mnemonic.shape = .modify → m.Puts i r) ∧
      ∀ p ∉ i.changes, m.step.machine.view p = m.view p := by
  cases h : m.next? with
  | none => simp [step_of_none h] at ok
  | some i =>
    have supported : i.isSupported = true := InstructionSet.isSupported_of_get? h
    have fits := m.takes_operand supported
    have place := shift_operand m.core.cpu supported
    have frame : ∀ p ∉ i.changes, m.step.machine.view p = m.view p := by
      intro p hp
      rw [step_of_some h]
      exact outcome_frame m.core.cpu m.core.seq.sp _ _ _ fits (fun shift => place shift _ _ _) hp
    by_cases result : i.mnemonic.shape = .shift ∨ i.mnemonic.shape = .modify
    · obtain ⟨r, law, puts⟩ :=
        result_law m.core.cpu m.core.seq.sp result _ (m.behind i) (m.intake i).data fits
      refine ⟨i, r, rfl, ?_, fun _ => m.result_puts h puts, frame⟩
      rw [step_of_some h]
      exact law
    · obtain ⟨shift, modify⟩ := not_or.mp result
      refine ⟨i, 0, rfl, ?_, fun h => absurd h result, frame⟩
      rw [step_of_some h]
      exact plain_law m.core.cpu m.core.seq.sp shift modify _ _ _ _ fits

/-- A rotation of its own opcode. -/
theorem step_registers_rotate :
    (holding [0x6E, 0x00, 0x06] programOrigin).step.fault? = none ∧
      ∃ (i : Instruction) (r : Byte), (holding [0x6E, 0x00, 0x06] programOrigin).next? = some i ∧
        i.mnemonic.Law (holding [0x6E, 0x00, 0x06] programOrigin).view
          (holding [0x6E, 0x00, 0x06] programOrigin).step.machine.view
          ((holding [0x6E, 0x00, 0x06] programOrigin).argument i).toNat r.toNat ∧
        (i.mnemonic.shape = .shift ∨ i.mnemonic.shape = .modify →
          (holding [0x6E, 0x00, 0x06] programOrigin).Puts i r) ∧
        ∀ p ∉ i.changes,
          (holding [0x6E, 0x00, 0x06] programOrigin).step.machine.view p =
            (holding [0x6E, 0x00, 0x06] programOrigin).view p :=
  ⟨by decide +kernel, step_registers _ (by decide +kernel)⟩

end Machine

end Console6502
