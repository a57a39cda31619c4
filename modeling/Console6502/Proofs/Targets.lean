import Console6502.Proofs.Images
import Console6502.Proofs.Operands

namespace Console6502

namespace Address

theorem toNat_next (a : Address) : (a + 1).toNat = (a.toNat + 1) % 65536 :=
  UInt16.toNat_add a 1

theorem toNat_zeroPage (b : Byte) : (zeroPage b).toNat = b.toNat :=
  UInt8.toNat_toUInt16 b

theorem toNat_nextInPage (a : Address) :
    a.nextInPage.toNat = if a.toNat % 256 = 255 then a.toNat - 255 else a.toNat + 1 := by
  have ha := a.toNat_lt
  have low : (a.low + 1).toNat = (a.toNat % 256 + 1) % 256 := by
    rw [UInt8.toNat_add, toNat_low]
    rfl
  rw [nextInPage, toNat_ofBytes, low, toNat_high]
  split <;> omega

theorem toNat_indexed {a : Address} {n : Nat} (h : a.toNat = n) (index : Byte) :
    (a + index.toUInt16).toNat = (n + index.toNat) % 65536 := by
  rw [UInt16.toNat_add, UInt8.toNat_toUInt16, h]

end Address

/-- The byte in a cell, both as numbers. -/
def Ram.cell (ram : Ram) (n : Nat) : Nat := (ram.get (UInt16.ofNat n)).toNat

theorem Ram.toNat_get (ram : Ram) (a : Address) : (ram.get a).toNat = ram.cell a.toNat := by
  rw [cell, UInt16.ofNat_toNat]

/-- An operand in whole numbers. -/
inductive Reading
  | implied
  | immediate (b : Nat)
  | address (a : Int)
deriving DecidableEq, Repr

def Operand.reading : Operand → Reading
  | implied => .implied
  | immediate b => .immediate b.toNat
  | address a => .address a.toNat

/-- The operand of a mode behind an opcode whose operand bytes begin at `p`, in memory with these
cells and with these index registers. -/
def Mode.reading (mode : Mode) (cell : Nat → Nat) (p x y : Nat) : Reading :=
  let b := cell p
  let w := b + 256 * cell ((p + 1) % 65536)
  let offset : Int := if b < 128 then b else (b : Int) - 256
  let word (low high : Nat) := cell low + 256 * cell high
  match mode with
  | .implicit | .accumulator => .implied
  | .immediate => .immediate b
  | .zeroPage => .address b
  | .zeroPageX => .address ((b + x) % 256 : Nat)
  | .zeroPageY => .address ((b + y) % 256 : Nat)
  | .relative => .address ((p + 1 + offset) % 65536)
  | .absolute => .address w
  | .absoluteX => .address ((w + x) % 65536 : Nat)
  | .absoluteY => .address ((w + y) % 65536 : Nat)
  | .indirect => .address (word w (if w % 256 = 255 then w - 255 else w + 1))
  | .indirectX => .address (word ((b + x) % 256) (((b + x) % 256 + 1) % 256))
  | .indirectY => .address ((word b ((b + 1) % 256) + y) % 65536 : Nat)

section

variable (ram : Ram) (pc : Address)

theorem Ram.toNat_word (low high : Address) :
    (Address.word [ram.get low, ram.get high]).toNat =
      ram.cell low.toNat + 256 * ram.cell high.toNat := by
  rw [← toNat_get, ← toNat_get]
  exact Address.toNat_ofBytes _ _

theorem Ram.toNat_operandWord :
    (Address.word [ram.get pc, ram.get (pc + 1)]).toNat =
      ram.cell pc.toNat + 256 * ram.cell ((pc.toNat + 1) % 65536) := by
  rw [toNat_word, Address.toNat_next]

theorem Ram.toNat_indexed (index : Byte) :
    (ram.get pc + index).toNat = (ram.cell pc.toNat + index.toNat) % 256 := by
  rw [UInt8.toNat_add, toNat_get]

theorem Ram.toNat_zeroPageWord (b : Byte) :
    (Address.word [ram.get (Address.zeroPage b), ram.get (Address.zeroPage (b + 1))]).toNat =
      ram.cell b.toNat + 256 * ram.cell ((b.toNat + 1) % 256) := by
  rw [toNat_word, Address.toNat_zeroPage, Address.toNat_zeroPage, UInt8.toNat_add]
  rfl

end

theorem Operand.reading_address {a : Address} {n : Nat} (h : a.toNat = n) :
    (address a).reading = .address n := by
  rw [reading, h]

/-- What a mode makes of the operand bytes and the pointer, in whole numbers. -/
theorem Mode.reading_target (mode : Mode) (ram : Ram) (pc : Address) (cpu : Cpu) :
    let bytes := (pc.cells mode.operandBytes).map ram.get
    let pointer := (mode.pointerCells cpu bytes).map ram.get
    (mode.target cpu (pc + UInt16.ofNat mode.operandBytes) bytes pointer).reading =
      mode.reading ram.cell pc.toNat cpu.x.toNat cpu.y.toNat := by
  have operandWord := ram.toNat_operandWord pc
  intro bytes pointer
  cases mode
  case implicit | accumulator => rfl
  case immediate => exact congrArg Reading.immediate (ram.toNat_get pc)
  case zeroPage =>
    exact Operand.reading_address ((Address.toNat_zeroPage _).trans (ram.toNat_get pc))
  case zeroPageX =>
    exact Operand.reading_address ((Address.toNat_zeroPage _).trans (ram.toNat_indexed pc cpu.x))
  case zeroPageY =>
    exact Operand.reading_address ((Address.toNat_zeroPage _).trans (ram.toNat_indexed pc cpu.y))
  case relative =>
    refine congrArg Reading.address ((Address.toNat_displace _ _).trans ?_)
    have next : ((pc + 1).toNat : Int) = (pc.toNat + 1 : Int) % 65536 :=
      congrArg Int.ofNat (Address.toNat_next pc)
    change (((pc + 1).toNat : Int) + (ram.get pc).signed) % 65536 = _
    rw [next, Byte.signed_eq, ram.toNat_get, Int.emod_add_emod]
  case absolute => exact Operand.reading_address operandWord
  case absoluteX =>
    exact Operand.reading_address (Address.toNat_indexed operandWord cpu.x)
  case absoluteY =>
    exact Operand.reading_address (Address.toNat_indexed operandWord cpu.y)
  case indirect =>
    let w := Address.word [ram.get pc, ram.get (pc + 1)]
    have cells : indirect.pointerCells cpu bytes = [w, w.nextInPage] := by
      rw [Address.nextInPage_eq]
      rfl
    have word := ram.toNat_word w w.nextInPage
    rw [Address.toNat_nextInPage, operandWord] at word
    refine Operand.reading_address ?_
    rw [show pointer = [w, w.nextInPage].map ram.get from congrArg (List.map ram.get) cells]
    exact word
  case indirectX =>
    have word := ram.toNat_zeroPageWord (ram.get pc + cpu.x)
    rw [ram.toNat_indexed] at word
    exact Operand.reading_address word
  case indirectY =>
    have word := ram.toNat_zeroPageWord (ram.get pc)
    rw [ram.toNat_get] at word
    exact Operand.reading_address (Address.toNat_indexed word cpu.y)

/-- Resolving an operand in plain memory moves the program counter over its bytes, and does nothing
else. What comes of each mode is told by the numbers in memory and in the index registers. -/
theorem Sequencer.operand_reading (s : Sequencer Ram) (mode : Mode) (cpu : Cpu) :
    let (operand, left) := s.operand mode cpu
    operand.reading = mode.reading s.bus.cell s.pc.toNat cpu.x.toNat cpu.y.toNat ∧
      left.pc.toNat = (s.pc.toNat + mode.operandBytes) % 65536 ∧
      left.bus = s.bus ∧ left.sp = s.sp := by
  rw [operand_eq]
  simp only [Ram.readAll_eq]
  exact ⟨mode.reading_target s.bus s.pc cpu, Address.toNat_add_ofNat _ _, trivial, trivial⟩

end Console6502
