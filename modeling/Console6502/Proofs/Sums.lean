import Console6502.Proofs.Arithmetic
import Console6502.Proofs.Numbers

namespace Console6502

/-- The cells of one byte of a sum: the two bytes to be added, and the one for their sum. -/
structure Digit where
  left : Address
  right : Address
  result : Address
deriving DecidableEq, Repr

/-- Loads one byte, works the other into it and stores what comes out. -/
def Digit.orders (m : Mnemonic) (d : Digit) : List Order :=
  [⟨.lda, .address d.left⟩, ⟨m, .address d.right⟩, ⟨.sta, .address d.result⟩]

/-- No byte of the result is put over another one or over a byte that is read later. It may be put
over the bytes it comes from. -/
def Digit.Apart (digits : List Digit) : Prop :=
  digits.Pairwise fun d e => d.result ≠ e.result ∧ d.result ≠ e.left ∧ d.result ≠ e.right

instance (digits : List Digit) : Decidable (Digit.Apart digits) :=
  inferInstanceAs (Decidable (List.Pairwise _ digits))

/-- A mnemonic that adds to the accumulator the carry and what a stored byte counts for. -/
def Mnemonic.Adds (m : Mnemonic) (worth : Byte → Nat) : Prop :=
  ∀ (c : Core Ram) (a : Address), ∃ cpu, c.execute (.address a) m = (.next, ⟨cpu, c.seq⟩) ∧
    cpu.a.toNat + 256 * cpu.carry.toNat =
      c.cpu.a.toNat + worth (c.seq.bus.get a) + c.cpu.carry.toNat

theorem Mnemonic.adds_adc : Mnemonic.adc.Adds UInt8.toNat :=
  fun c a => ⟨_, rfl, c.cpu.addWithCarry_eq (c.seq.bus.get a)⟩

theorem Mnemonic.adds_sbc : Mnemonic.sbc.Adds fun b => 255 - b.toNat := by
  intro c a
  refine ⟨c.cpu.subtractWithCarry (c.seq.bus.get a), rfl, ?_⟩
  have hb := (c.seq.bus.get a).toNat_lt
  have difference := c.cpu.subtractWithCarry_eq (c.seq.bus.get a)
  dsimp only
  omega

/-- The complements of the bytes of a number make up its own complement. -/
theorem Ram.number_complement (ram : Ram) (cells : List Address) :
    ram.numberBy (fun b => 255 - b.toNat) cells + ram.number cells + 1 = 256 ^ cells.length := by
  induction cells with
  | nil => rfl
  | cons a cells ih =>
    have hb := (ram.get a).toNat_lt
    rw [numberBy_cons, number_cons, List.length_cons, Nat.pow_succ, ← ih]
    omega

/-- To add a complement is to take away, with the carry telling that nothing was borrowed. -/
theorem difference_of_sum {a b r complement whole : Nat} {carry last : Bool}
    (complements : complement + b + 1 = whole) (fits : r < whole)
    (sum : r + whole * last.toNat = a + complement + carry.toNat) :
    (r : Int) = a - b - (1 - carry.toNat) + whole * (1 - last.toNat) ∧
      (last = true ↔ b + (1 - carry.toNat) ≤ a) := by
  have small := Bool.toNat_le carry
  cases last with
  | true =>
    simp only [Bool.toNat_true, true_iff] at sum ⊢
    omega
  | false =>
    simp only [Bool.toNat_false, Bool.false_eq_true, false_iff] at sum ⊢
    omega

theorem Digit.Apart.first {d : Digit} {digits : List Digit} (apart : Apart (d :: digits)) :
    d.result ∉ digits.map Digit.result ∧ d.result ∉ digits.map Digit.left ∧
      d.result ∉ digits.map Digit.right := by
  obtain ⟨ahead, -⟩ := List.pairwise_cons.mp apart
  simp only [List.mem_map, not_exists, not_and]
  exact ⟨fun e he same => (ahead e he).1 same.symm, fun e he same => (ahead e he).2.1 same.symm,
    fun e he same => (ahead e he).2.2 same.symm⟩

namespace Mnemonic.Adds

variable {m : Mnemonic} {worth : Byte → Nat}

/-- One byte of a sum, and the carry that it leaves to the next. -/
theorem digit (adds : m.Adds worth) (core : Core Ram) (d : Digit) :
    ∃ next, core.executeAll (d.orders m) = (.next, next) ∧
      next.seq.bus = core.seq.bus.set d.result next.cpu.a ∧
      next.cpu.a.toNat + 256 * next.cpu.carry.toNat =
        (core.seq.bus.get d.left).toNat + worth (core.seq.bus.get d.right) +
          core.cpu.carry.toNat := by
  obtain ⟨cpu, seq⟩ := core
  have loaded : Core.execute ⟨cpu, seq⟩ (.address d.left) .lda =
      (.next, ⟨cpu.set .a (seq.bus.get d.left), seq⟩) := rfl
  obtain ⟨added, executed, sum⟩ := adds ⟨cpu.set .a (seq.bus.get d.left), seq⟩ d.right
  have stored : Core.execute ⟨added, seq⟩ (.address d.result) .sta =
      (.next, ⟨added, seq.set d.result added.a⟩) := rfl
  refine ⟨⟨added, seq.set d.result added.a⟩, ?_, rfl, sum⟩
  rw [Digit.orders, Core.executeAll_cons loaded, Core.executeAll_cons executed,
    Core.executeAll_cons stored]
  rfl

/-- All bytes of a sum, and the carry behind the last. -/
theorem chain (adds : m.Adds worth) (core : Core Ram) {digits : List Digit}
    (apart : Digit.Apart digits) :
    ∃ after, core.executeAll (digits.flatMap (Digit.orders m)) = (.next, after) ∧
      after.seq.bus.number (digits.map Digit.result) +
          256 ^ digits.length * after.cpu.carry.toNat =
        core.seq.bus.number (digits.map Digit.left) +
          core.seq.bus.numberBy worth (digits.map Digit.right) + core.cpu.carry.toNat ∧
      Ram.SameOff (digits.map Digit.result) core.seq.bus after.seq.bus := by
  induction digits generalizing core with
  | nil => exact ⟨core, rfl, by simp [Ram.number, Ram.numberBy], .refl _⟩
  | cons d digits ih =>
    obtain ⟨result, left, right⟩ := apart.first
    obtain ⟨next, executed, bus, first⟩ := adds.digit core d
    obtain ⟨after, done, rest, frame⟩ := ih next apart.tail
    have stored : after.seq.bus.get d.result = next.cpu.a := by
      rw [frame d.result result, bus, Ram.get_set_self]
    rw [bus, Ram.number_set_other _ _ left, Ram.numberBy_set_other _ _ _ right] at rest
    rw [bus] at frame
    refine ⟨after, ?_, ?_, frame.set_first⟩
    · rw [List.flatMap_cons, Core.executeAll_append executed, done]
    · simp only [List.map_cons, Ram.number_cons, Ram.numberBy_cons, List.length_cons, stored,
        Nat.pow_succ', Nat.mul_assoc]
      omega

end Mnemonic.Adds

/-- Bytes loaded, added and stored one after another add whole numbers: the result and the carry
behind the last byte make up the sum with the carry before the first. Bytes subtracted in the same
way subtract whole numbers, and the last carry tells whether there was enough to take from. Nothing
but the result is changed in memory. -/
theorem Digit.sum_and_difference (core : Core Ram) (digits : List Digit) (apart : Apart digits) :
    let before := core.seq.bus
    let a := before.number (digits.map Digit.left)
    let b := before.number (digits.map Digit.right)
    let c := core.cpu.carry.toNat
    (∃ after, core.executeAll (digits.flatMap (Digit.orders .adc)) = (.next, after) ∧
      after.seq.bus.number (digits.map Digit.result) +
          256 ^ digits.length * after.cpu.carry.toNat = a + b + c ∧
      Ram.SameOff (digits.map Digit.result) before after.seq.bus) ∧
    ∃ after, core.executeAll (digits.flatMap (Digit.orders .sbc)) = (.next, after) ∧
      (after.seq.bus.number (digits.map Digit.result) : Int) =
          a - b - (1 - c) + 256 ^ digits.length * (1 - after.cpu.carry.toNat) ∧
      (after.cpu.carry = true ↔ b + (1 - c) ≤ a) ∧
      Ram.SameOff (digits.map Digit.result) before after.seq.bus := by
  intro before a b c
  refine ⟨Mnemonic.adds_adc.chain core apart, ?_⟩
  obtain ⟨after, done, sum, frame⟩ := Mnemonic.adds_sbc.chain core apart
  have complements := before.number_complement (digits.map Digit.right)
  have fits := after.seq.bus.number_lt (digits.map Digit.result)
  rw [List.length_map] at complements fits
  obtain ⟨difference, enough⟩ := difference_of_sum complements fits sum
  rw [Nat.cast_pow] at difference
  exact ⟨after, done, difference, enough, frame⟩

/-- A result that is put over its first term, byte by byte. -/
def Digit.inPlace : List Digit := [⟨0x10, 0x20, 0x10⟩, ⟨0x11, 0x21, 0x11⟩]

/-- Holds FF80 from 0010 and 0180 from 0020, with the carry set. -/
def Core.twoTerms : Core Ram where
  cpu := { carry := true }
  seq := { bus := (((Ram.blank.set 0x10 0x80).set 0x11 0xFF).set 0x20 0x80).set 0x21 0x01 }

theorem Digit.sum_and_difference_in_place :
    Apart inPlace ∧
      (∃ after, Core.twoTerms.executeAll (inPlace.flatMap (Digit.orders .adc)) = (.next, after) ∧
        after.seq.bus.number [0x10, 0x11] + 65536 * after.cpu.carry.toNat = 0x10101) ∧
      ∃ after, Core.twoTerms.executeAll (inPlace.flatMap (Digit.orders .sbc)) = (.next, after) ∧
        after.seq.bus.number [0x10, 0x11] = 0xFE00 ∧ after.cpu.carry = true := by
  have apart : Apart inPlace := by decide
  have left : Core.twoTerms.seq.bus.number (inPlace.map Digit.left) = 0xFF80 := by decide +kernel
  have right : Core.twoTerms.seq.bus.number (inPlace.map Digit.right) = 0x0180 := by decide +kernel
  have carry : Core.twoTerms.cpu.carry.toNat = 1 := rfl
  obtain ⟨⟨sum, added, total, -⟩, rest, taken, difference, enough, -⟩ :=
    sum_and_difference Core.twoTerms inPlace apart
  rw [left, right, carry] at total difference enough
  have last : rest.cpu.carry = true := enough.mpr (by decide)
  rw [last] at difference
  exact ⟨apart, ⟨sum, added, total⟩, rest, taken,
    Int.ofNat_inj.mp (difference.trans (by decide)), last⟩

end Console6502
