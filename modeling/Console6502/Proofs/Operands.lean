import Console6502.Operand
import Console6502.Proofs.Accesses

namespace Console6502

theorem Byte.signed_eq (b : Byte) :
    b.signed = if b.toNat < 128 then (b.toNat : Int) else b.toNat - 256 := by
  simp only [signed, UInt8.lt_iff_toNat_lt]
  rfl

namespace Address

def cells (a : Address) : (count : Nat) → List Address
  | 0 => []
  | count + 1 => a :: cells (a + 1) count

/-- The word that two bytes of a list stand for. -/
def word (bytes : List Byte) : Address :=
  (bytes.getD 0 0).toUInt16 + (bytes.getD 1 0).toUInt16 * 256

theorem toNat_and_high (a : Address) : (a &&& 0xFF00).toNat = 256 * (a.toNat / 256) := by
  have ha := a.toNat_lt
  have high : ∀ i < 16, Nat.testBit 0xFF00 i = decide (8 ≤ i) := by decide
  rw [UInt16.toNat_and]
  change a.toNat &&& 0xFF00 = 2 ^ 8 * (a.toNat / 2 ^ 8)
  apply Nat.eq_of_testBit_eq
  intro i
  rw [Nat.testBit_and, Nat.testBit_two_pow_mul, Nat.testBit_div_two_pow]
  by_cases h : 8 ≤ i
  · by_cases hi : i < 16
    · simp [high i hi, h]
    · have hp : a.toNat < 2 ^ i :=
        Nat.lt_of_lt_of_le ha (Nat.pow_le_pow_right (by decide) (by omega))
      simp [h, Nat.testBit_lt_two_pow hp]
  · simp [high i (by omega), h]

/-- The next address of a page takes its page by one mask and its place there by another. -/
theorem nextInPage_eq (a : Address) : a.nextInPage = (a &&& 0xFF00) ||| ((a + 1) &&& 0x00FF) := by
  have place : ((a + 1) &&& 0x00FF).toNat = (a.toNat + 1) % 256 := by
    rw [UInt16.toNat_and, UInt16.toNat_add]
    change (a.toNat + 1) % 2 ^ 16 &&& (2 ^ 8 - 1) = _
    rw [Nat.and_two_pow_sub_one_eq_mod]
    omega
  apply UInt16.toNat_inj.mp
  rw [nextInPage, toNat_ofBytes, UInt8.toNat_add, toNat_low, toNat_high, UInt16.toNat_or,
    toNat_and_high, place]
  change (a.toNat % 256 + 1) % 2 ^ 8 + 256 * (a.toNat / 256) =
    2 ^ 8 * (a.toNat / 256) ||| (a.toNat + 1) % 2 ^ 8
  rw [← Nat.two_pow_add_eq_or_of_lt (Nat.mod_lt _ (by decide))]
  omega

end Address

namespace Mode

/-- The cells in which the operand bytes make a mode look a pointer up. -/
def pointerCells (mode : Mode) (cpu : Cpu) (bytes : List Byte) : List Address :=
  let b := bytes.getD 0 0
  let w := Address.word bytes
  match mode with
  | .indirect => [w, (w &&& 0xFF00) ||| ((w + 1) &&& 0x00FF)]
  | .indirectX => [(b + cpu.x).toUInt16, (b + cpu.x + 1).toUInt16]
  | .indirectY => [b.toUInt16, (b + 1).toUInt16]
  | _ => []

/-- The operand that the operand bytes and the pointer stand for, with the program counter behind
the instruction. -/
def target (mode : Mode) (cpu : Cpu) (pc : Address) (bytes pointer : List Byte) : Operand :=
  let b := bytes.getD 0 0
  let w := Address.word bytes
  let offset : Int := if b.toNat < 128 then b.toNat else b.toNat - 256
  match mode with
  | .implicit | .accumulator => .implied
  | .immediate => .immediate b
  | .zeroPage => .address b.toUInt16
  | .zeroPageX => .address (b + cpu.x).toUInt16
  | .zeroPageY => .address (b + cpu.y).toUInt16
  | .relative => .address (UInt16.ofInt (pc.toNat + offset))
  | .absolute => .address w
  | .absoluteX => .address (w + cpu.x.toUInt16)
  | .absoluteY => .address (w + cpu.y.toUInt16)
  | .indirect | .indirectX => .address (Address.word pointer)
  | .indirectY => .address (Address.word pointer + cpu.y.toUInt16)

end Mode

/-- An operand comes from its operand bytes and then its pointer, each read once and in order. -/
theorem Sequencer.operand_eq {M : Type} [Bus M] (s : Sequencer M) (mode : Mode) (cpu : Cpu) :
    s.operand mode cpu =
      let (bytes, bus) := Bus.readAll s.bus (s.pc.cells mode.operandBytes)
      let (pointer, bus) := Bus.readAll bus (mode.pointerCells cpu bytes)
      let pc := s.pc + UInt16.ofNat mode.operandBytes
      (mode.target cpu pc bytes pointer, ⟨bus, pc, s.sp⟩) := by
  obtain ⟨bus, pc, sp⟩ := s
  have two : pc + 1 + 1 = pc + UInt16.ofNat 2 := UInt16.add_assoc pc 1 1
  cases mode
  case indirect =>
    simp only [operand, nextWord, next, getPair, get, two, Address.nextInPage_eq]
    rfl
  case implicit | accumulator => simp [operand, Mode.operandBytes, Address.cells, Bus.readAll,
    Mode.pointerCells, Mode.target]
  case relative =>
    simp only [operand, Address.displace, Byte.signed_eq]
    rfl
  case absolute | absoluteX | absoluteY =>
    simp only [operand, nextWord, next, two]
    rfl
  all_goals rfl

end Console6502
