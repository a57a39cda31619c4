import Console6502.Core
import Mathlib.Data.Nat.Bitwise

namespace Console6502

namespace Cpu

theorem sign_eq (b : Byte) : sign b = decide (128 ≤ b.toNat) := by
  have hb := b.toNat_lt
  have high : (b &&& 0x80).toNat = 128 * (b.toNat / 128) := by
    rw [UInt8.toNat_and]
    change b.toNat &&& 2 ^ 7 = 2 ^ 7 * (b.toNat / 2 ^ 7)
    rw [Nat.and_two_pow, Nat.testBit_eq_decide_div_mod_eq]
    by_cases h : b.toNat / 2 ^ 7 % 2 = 1
    · simp only [h, decide_true, Bool.toNat_true]
      omega
    · simp only [h, decide_false, Bool.toNat_false]
      omega
  have zero : b &&& 0x80 = 0 ↔ b.toNat < 128 := by
    rw [← UInt8.toNat_inj, high]
    change 128 * (b.toNat / 128) = 0 ↔ b.toNat < 128
    omega
  by_cases h : b.toNat < 128
  · simp [sign, zero.mpr h, h]
  · have set : b &&& 0x80 ≠ 0 := mt zero.mp h
    simp [sign, set, Nat.not_lt.mp h]

theorem toNat_sign (b : Byte) : (sign b).toNat = b.toNat / 128 % 2 := by
  have hb := b.toNat_lt
  rw [sign_eq]
  by_cases h : 128 ≤ b.toNat
  · simp only [h, decide_true, Bool.toNat_true]
    omega
  · simp only [h, decide_false, Bool.toNat_false]
    omega

theorem toNat_zero (b : Byte) : (b == 0).toNat = 1 ↔ b.toNat = 0 := by
  simp [Bool.toNat_eq_one, ← UInt8.toNat_inj]

theorem toNat_status (c : Cpu) :
    c.status.toNat = 32 + 128 * c.negative.toNat + 2 * c.zero.toNat + c.carry.toNat := by
  unfold status
  cases c.carry <;> cases c.zero <;> cases c.negative <;> rfl

/-- A sum and its carry make up the true sum. -/
theorem addWithCarry_eq (c : Cpu) (b : Byte) :
    (c.addWithCarry b).a.toNat + 256 * (c.addWithCarry b).carry.toNat =
      c.a.toNat + b.toNat + c.carry.toNat := by
  have ha := c.a.toNat_lt
  have hb := b.toNat_lt
  have hc := Bool.toNat_le c.carry
  simp only [addWithCarry, set, follow, carryIf, UInt8.toNat_ofNat']
  by_cases h : 255 < c.a.toNat + b.toNat + c.carry.toNat
  · simp only [h, decide_true, Bool.toNat_true]
    omega
  · simp only [h, decide_false, Bool.toNat_false]
    omega

/-- A difference and its missing carry make up the true difference. -/
theorem subtractWithCarry_eq (c : Cpu) (b : Byte) :
    ((c.subtractWithCarry b).a.toNat : Int) =
      c.a.toNat - b.toNat - (1 - c.carry.toNat) +
        256 * (1 - (c.subtractWithCarry b).carry.toNat) := by
  have ha := c.a.toNat_lt
  have hb := b.toNat_lt
  have hc : (!c.carry).toNat = 1 - c.carry.toNat := by cases c.carry <;> rfl
  have hc' := Bool.toNat_le c.carry
  simp only [subtractWithCarry, set, follow, carryIf, UInt8.toNat_ofNat', hc]
  by_cases h : b.toNat + (1 - c.carry.toNat) ≤ c.a.toNat
  · simp only [h, decide_true, Bool.toNat_true]
    omega
  · simp only [h, decide_false, Bool.toNat_false]
    omega

end Cpu

namespace Shift

theorem toNat_ofFlag (flag : Bool) : (Byte.ofFlag flag).toNat = flag.toNat := by
  cases flag <;> rfl

theorem toNat_double (b : Byte) : (b <<< 1).toNat = 2 * (b.toNat % 128) := by
  rw [UInt8.toNat_shiftLeft]
  change b.toNat <<< 1 % 256 = _
  rw [Nat.shiftLeft_eq]
  omega

theorem toNat_half (b : Byte) : (b >>> 1).toNat = b.toNat / 2 := by
  rw [UInt8.toNat_shiftRight]
  change b.toNat >>> 1 = _
  rw [Nat.shiftRight_eq_div_pow]

theorem toNat_highBit (b : Byte) : (b &&& 0x80 != 0).toNat = b.toNat / 128 % 2 :=
  Cpu.toNat_sign b

theorem toNat_lowBit (b : Byte) : (b &&& 0x01 != 0).toNat = b.toNat % 2 := by
  have low : (b &&& 0x01).toNat = b.toNat % 2 := by
    rw [UInt8.toNat_and]
    exact Nat.and_two_pow_sub_one_eq_mod b.toNat 1
  have zero : b &&& 0x01 = 0 ↔ b.toNat % 2 = 0 := by
    rw [← UInt8.toNat_inj, low]
    rfl
  by_cases h : b.toNat % 2 = 0
  · simp [zero.mpr h, h]
  · have set : b &&& 0x01 ≠ 0 := mt zero.mp h
    simp only [bne_iff_ne.mpr set, Bool.toNat_true]
    omega

theorem left_eq (b : Byte) (c : Bool) :
    (left b c).result.toNat + 256 * (left b c).carry.toNat = 2 * b.toNat := by
  have hb := b.toNat_lt
  simp only [left, toNat_double, toNat_highBit]
  omega

theorem right_eq (b : Byte) (c : Bool) :
    2 * (right b c).result.toNat + (right b c).carry.toNat = b.toNat := by
  simp only [right, toNat_half, toNat_lowBit]
  omega

theorem left_result (b : Byte) (c : Bool) : (left b c).result = 2 * b := by
  have law := left_eq b c
  have hr := (left b c).result.toNat_lt
  apply UInt8.toNat_inj.mp
  rw [UInt8.toNat_mul]
  change _ = 2 * b.toNat % 256
  omega

theorem right_result (b : Byte) (c : Bool) : (right b c).result = b / 2 := by
  have law := right_eq b c
  have hc := Bool.toNat_le (right b c).carry
  apply UInt8.toNat_inj.mp
  rw [UInt8.toNat_div]
  change _ = b.toNat / 2
  omega

theorem rotateLeft_eq (b : Byte) (c : Bool) :
    (rotateLeft b c).result.toNat + 256 * (rotateLeft b c).carry.toNat =
      2 * b.toNat + c.toNat := by
  have hb := b.toNat_lt
  have hc := Bool.toNat_le c
  have join : (b <<< 1 ||| Byte.ofFlag c).toNat = 2 * (b.toNat % 128) + c.toNat := by
    rw [UInt8.toNat_or, toNat_double, toNat_ofFlag]
    exact (Nat.two_pow_add_eq_or_of_lt (i := 1) (by omega) _).symm
  simp only [rotateLeft, join, toNat_highBit]
  omega

theorem rotateRight_eq (b : Byte) (c : Bool) :
    2 * (rotateRight b c).result.toNat + (rotateRight b c).carry.toNat =
      b.toNat + 256 * c.toNat := by
  have hb := b.toNat_lt
  have top : (Byte.ofFlag c <<< 7).toNat = 2 ^ 7 * c.toNat := by cases c <;> rfl
  have join : (b >>> 1 ||| Byte.ofFlag c <<< 7).toNat = b.toNat / 2 + 128 * c.toNat := by
    rw [UInt8.toNat_or, toNat_half, top, Nat.or_comm, ← Nat.two_pow_add_eq_or_of_lt (by omega)]
    omega
  simp only [rotateRight, join, toNat_lowBit]
  omega

theorem rotateLeft_result (b : Byte) (c : Bool) :
    (rotateLeft b c).result = 2 * b + if c then 1 else 0 := by
  have law := rotateLeft_eq b c
  have hr := (rotateLeft b c).result.toNat_lt
  have bit : (if c then 1 else 0 : Byte).toNat = c.toNat := toNat_ofFlag c
  apply UInt8.toNat_inj.mp
  rw [UInt8.toNat_add, UInt8.toNat_mul, bit]
  change _ = (2 * b.toNat % 256 + c.toNat) % 256
  omega

theorem rotateRight_result (b : Byte) (c : Bool) :
    (rotateRight b c).result = b / 2 + 128 * if c then 1 else 0 := by
  have law := rotateRight_eq b c
  have hb := b.toNat_lt
  have hc := Bool.toNat_le c
  have hc' := Bool.toNat_le (rotateRight b c).carry
  have bit : (if c then 1 else 0 : Byte).toNat = c.toNat := toNat_ofFlag c
  apply UInt8.toNat_inj.mp
  rw [UInt8.toNat_add, UInt8.toNat_mul, UInt8.toNat_div, bit]
  change _ = (b.toNat / 2 + 128 * c.toNat % 256) % 256
  omega

end Shift

end Console6502
