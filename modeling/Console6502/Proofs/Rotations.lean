import Console6502.Proofs.Arithmetic
import Console6502.Proofs.Numbers
import Console6502.Proofs.Safety

namespace Console6502

/-- The same instruction on one cell after another. -/
def Mnemonic.onEach (m : Mnemonic) (cells : List Address) : List Order :=
  cells.map fun a => ⟨m, .address a⟩

/-- Another instruction in the first place. -/
def Order.startingWith (m : Mnemonic) (orders : List Order) : List Order :=
  orders.modifyHead fun o => { o with mnemonic := m }

theorem Ram.SameOff.trans {cells : List Address} {first second third : Ram}
    (h : SameOff cells first second) (h' : SameOff cells second third) :
    SameOff cells first third :=
  fun a ha => (h' a ha).trans (h a ha)

/-- Memory is what it was if the number in some cells is, and all else. -/
theorem Ram.SameOff.eq {cells : List Address} {ram other : Ram} (h : SameOff cells ram other)
    (same : other.number cells = ram.number cells) : other = ram := by
  apply Ram.ext
  intro a
  by_cases ha : a ∈ cells
  · exact get_of_number_eq same a ha
  · exact h a ha

/-- A number and the carry next to it are told by their sum, be the carry above the number or
below it. -/
theorem number_and_carry {n m whole : Nat} {c d : Bool} (hn : n < whole) (hm : m < whole)
    (same : n + whole * c.toNat = m + whole * d.toNat) : n = m ∧ c = d := by
  cases c <;> cases d <;> simp only [Bool.toNat_true, Bool.toNat_false] at same <;> simp <;> omega

theorem carry_and_number {n m : Nat} {c d : Bool} (same : 2 * n + c.toNat = 2 * m + d.toNat) :
    n = m ∧ c = d := by
  cases c <;> cases d <;> simp only [Bool.toNat_true, Bool.toNat_false] at same <;> simp <;> omega

namespace Shift

/-- A plain shift is a rotation with the carry clear. -/
theorem left_eq_rotateLeft (b : Byte) (c : Bool) : left b c = rotateLeft b false := by
  simp [left, rotateLeft, Byte.ofFlag]

theorem right_eq_rotateRight (b : Byte) (c : Bool) : right b c = rotateRight b false := by
  simp [right, rotateRight, Byte.ofFlag]

end Shift

namespace Core

/-- A shift of a stored byte, and the carry that it leaves to the next. -/
theorem execute_stored {m : Mnemonic} {f : Byte → Bool → Shift} (work : m.work = .shift f)
    (c : Core Ram) (a : Address) :
    ∃ next, c.execute (.address a) m = (.next, next) ∧
      next.seq.bus = c.seq.bus.set a (f (c.seq.bus.get a) c.cpu.carry).result ∧
      next.cpu.carry = (f (c.seq.bus.get a) c.cpu.carry).carry := by
  rw [execute_shift work]
  exact ⟨_, rfl, rfl, rfl⟩

/-- To the left the carry goes from the lowest byte up. -/
theorem rol_chain (core : Core Ram) {cells : List Address} (nodup : cells.Nodup) :
    ∃ after, core.executeAll (Mnemonic.rol.onEach cells) = (.next, after) ∧
      after.seq.bus.number cells + 256 ^ cells.length * after.cpu.carry.toNat =
        2 * core.seq.bus.number cells + core.cpu.carry.toNat ∧
      Ram.SameOff cells core.seq.bus after.seq.bus := by
  induction cells generalizing core with
  | nil => exact ⟨core, rfl, by simp [Ram.number, Ram.numberBy], .refl _⟩
  | cons a cells ih =>
    obtain ⟨off, nodup⟩ := List.nodup_cons.mp nodup
    obtain ⟨next, executed, bus, carry⟩ := core.execute_stored (m := .rol) rfl a
    obtain ⟨after, done, rest, frame⟩ := ih next nodup
    have first := Shift.rotateLeft_eq (core.seq.bus.get a) core.cpu.carry
    have stored : after.seq.bus.get a =
        (Shift.rotateLeft (core.seq.bus.get a) core.cpu.carry).result := by
      rw [frame a off, bus, Ram.get_set_self]
    rw [bus, Ram.number_set_other _ _ off, carry] at rest
    rw [bus] at frame
    refine ⟨after, ?_, ?_, frame.set_first⟩
    · exact (executeAll_cons executed _).trans done
    · simp only [Ram.number_cons, List.length_cons, stored, Nat.pow_succ', Nat.mul_assoc]
      omega

/-- To the right it goes from the highest byte down. -/
theorem ror_chain (core : Core Ram) {cells : List Address} (nodup : cells.Nodup) :
    ∃ after, core.executeAll (Mnemonic.ror.onEach cells.reverse) = (.next, after) ∧
      2 * after.seq.bus.number cells + after.cpu.carry.toNat =
        core.seq.bus.number cells + 256 ^ cells.length * core.cpu.carry.toNat ∧
      Ram.SameOff cells core.seq.bus after.seq.bus := by
  induction cells with
  | nil => exact ⟨core, rfl, by simp [Ram.number, Ram.numberBy], .refl _⟩
  | cons a cells ih =>
    obtain ⟨off, nodup⟩ := List.nodup_cons.mp nodup
    obtain ⟨next, done, rest, frame⟩ := ih nodup
    obtain ⟨after, executed, bus, carry⟩ := next.execute_stored (m := .ror) rfl a
    have last := Shift.rotateRight_eq (core.seq.bus.get a) next.cpu.carry
    rw [frame a off] at bus carry
    refine ⟨after, ?_, ?_, ?_⟩
    · rw [List.reverse_cons, Mnemonic.onEach, List.map_append]
      exact (executeAll_append done _).trans (executeAll_cons executed [])
    · rw [bus, carry]
      simp only [Ram.number_cons, Ram.get_set_self, Ram.number_set_other _ _ off, List.length_cons,
        Nat.pow_succ', Nat.mul_assoc]
      omega
    · rw [bus]
      exact frame.set_last a _

/-- A shift that takes no carry in is one that does, behind a clear carry. -/
theorem execute_of_clear {m n : Mnemonic} {f g : Byte → Bool → Shift} (work : m.work = .shift f)
    (work' : n.work = .shift g) (same : ∀ b c, f b c = g b false) (c : Core Ram)
    (operand : Operand) : c.execute operand m = (c.withCpu Cpu.clearCarry).execute operand n := by
  obtain ⟨cpu, seq⟩ := c
  rw [execute_shift work, execute_shift work']
  cases operand <;>
    · simp only [shift, withCpu, same]
      rfl

theorem executeAll_startingWith {m n : Mnemonic} {c d : Core Ram}
    (same : ∀ operand, c.execute operand m = d.execute operand n) {cells : List Address}
    (nonempty : cells ≠ []) :
    c.executeAll (Order.startingWith m (n.onEach cells)) = d.executeAll (n.onEach cells) := by
  obtain ⟨a, rest, rfl⟩ := List.exists_cons_of_ne_nil nonempty
  simp only [Order.startingWith, Mnemonic.onEach, List.map_cons, List.modifyHead, executeAll, same]

/-- To the left and back again. -/
theorem rol_ror (core : Core Ram) {cells : List Address} (nodup : cells.Nodup) :
    ∃ after, core.executeAll (Mnemonic.rol.onEach cells ++ Mnemonic.ror.onEach cells.reverse) =
        (.next, after) ∧
      after.seq.bus = core.seq.bus ∧ after.cpu.carry = core.cpu.carry := by
  obtain ⟨turned, there, left, frame⟩ := core.rol_chain nodup
  obtain ⟨after, back, right, frame'⟩ := turned.ror_chain nodup
  obtain ⟨number, carry⟩ := carry_and_number (right.trans left)
  exact ⟨after, (executeAll_append there _).trans back, (frame.trans frame').eq number, carry⟩

/-- To the right and back again. -/
theorem ror_rol (core : Core Ram) {cells : List Address} (nodup : cells.Nodup) :
    ∃ after, core.executeAll (Mnemonic.ror.onEach cells.reverse ++ Mnemonic.rol.onEach cells) =
        (.next, after) ∧
      after.seq.bus = core.seq.bus ∧ after.cpu.carry = core.cpu.carry := by
  obtain ⟨turned, there, right, frame⟩ := core.ror_chain nodup
  obtain ⟨after, back, left, frame'⟩ := turned.rol_chain nodup
  obtain ⟨number, carry⟩ := number_and_carry (after.seq.bus.number_lt cells)
    (core.seq.bus.number_lt cells) (left.trans right)
  exact ⟨after, (executeAll_append there _).trans back, (frame.trans frame').eq number, carry⟩

/-- A shift does the same to a byte in the accumulator and to a stored one. -/
theorem shift_forms {m : Mnemonic} {f : Byte → Bool → Shift} (work : m.work = .shift f)
    {held stored : Core Ram} {a : Address} (byte : held.cpu.a = stored.seq.bus.get a)
    (carry : held.cpu.carry = stored.cpu.carry) :
    ∃ h s, held.execute .implied m = (.next, h) ∧ stored.execute (.address a) m = (.next, s) ∧
      h.cpu.a = s.seq.bus.get a ∧ h.cpu.carry = s.cpu.carry ∧ h.cpu.zero = s.cpu.zero ∧
      h.cpu.negative = s.cpu.negative := by
  rw [execute_shift work, execute_shift work]
  refine ⟨_, _, rfl, rfl, ?_⟩
  obtain ⟨⟨b, x, y, c, zero, negative⟩, seq⟩ := held
  dsimp only at byte carry
  subst byte carry
  exact ⟨(stored.seq.bus.get_set_self a _).symm, rfl, rfl, rfl⟩

end Core

/-- Numbers are moved by one place as a whole, with the carry above them on the way to the left and
below them on the way to the right, or with a clear bit moved in if the first instruction is a plain
shift. A rotation is taken back by the one the other way. A byte in the accumulator is shifted just
as one in memory. -/
theorem Core.rotations (core : Core Ram) {cells : List Address} (nodup : cells.Nodup)
    (nonempty : cells ≠ []) :
    let before := core.seq.bus
    let n := before.number cells
    let c := core.cpu.carry.toNat
    let whole := 256 ^ cells.length
    let left := Mnemonic.rol.onEach cells
    let right := Mnemonic.ror.onEach cells.reverse
    (∃ after, core.executeAll left = (.next, after) ∧
      after.seq.bus.number cells + whole * after.cpu.carry.toNat = 2 * n + c ∧
      Ram.SameOff cells before after.seq.bus) ∧
    (∃ after, core.executeAll right = (.next, after) ∧
      2 * after.seq.bus.number cells + after.cpu.carry.toNat = n + whole * c ∧
      Ram.SameOff cells before after.seq.bus) ∧
    (∃ after, core.executeAll (Order.startingWith .asl left) = (.next, after) ∧
      after.seq.bus.number cells + whole * after.cpu.carry.toNat = 2 * n ∧
      Ram.SameOff cells before after.seq.bus) ∧
    (∃ after, core.executeAll (Order.startingWith .lsr right) = (.next, after) ∧
      2 * after.seq.bus.number cells + after.cpu.carry.toNat = n ∧
      Ram.SameOff cells before after.seq.bus) ∧
    (∃ after, core.executeAll (left ++ right) = (.next, after) ∧
      after.seq.bus = before ∧ after.cpu.carry = core.cpu.carry) ∧
    (∃ after, core.executeAll (right ++ left) = (.next, after) ∧
      after.seq.bus = before ∧ after.cpu.carry = core.cpu.carry) ∧
    ∀ m ∈ [Mnemonic.asl, .lsr, .rol, .ror], ∀ (held stored : Core Ram) (a : Address),
      held.cpu.a = stored.seq.bus.get a → held.cpu.carry = stored.cpu.carry →
      ∃ h s, held.execute .implied m = (.next, h) ∧ stored.execute (.address a) m = (.next, s) ∧
        h.cpu.a = s.seq.bus.get a ∧ h.cpu.carry = s.cpu.carry ∧ h.cpu.zero = s.cpu.zero ∧
        h.cpu.negative = s.cpu.negative := by
  intro before n c whole left right
  have reversed : cells.reverse ≠ [] := mt List.reverse_eq_nil_iff.mp nonempty
  have clearLeft :=
    core.execute_of_clear (m := .asl) (n := .rol) rfl rfl Shift.left_eq_rotateLeft
  have clearRight :=
    core.execute_of_clear (m := .lsr) (n := .ror) rfl rfl Shift.right_eq_rotateRight
  refine ⟨core.rol_chain nodup, core.ror_chain nodup, ?_, ?_, core.rol_ror nodup,
    core.ror_rol nodup, ?_⟩
  · rw [Core.executeAll_startingWith clearLeft nonempty]
    exact (core.withCpu Cpu.clearCarry).rol_chain nodup
  · rw [Core.executeAll_startingWith clearRight reversed]
    exact (core.withCpu Cpu.clearCarry).ror_chain nodup
  · intro m hm held stored a byte carry
    have work : ∃ f, m.work = .shift f := by
      simp only [List.mem_cons, List.not_mem_nil, or_false] at hm
      rcases hm with rfl | rfl | rfl | rfl <;> exact ⟨_, rfl⟩
    obtain ⟨f, work⟩ := work
    exact Core.shift_forms work byte carry

/-- Holds 8140 from the end of the zero page down, with the carry set. -/
def Core.oneNumber : Core Ram where
  cpu := { carry := true }
  seq := { bus := (Ram.blank.set 0x00FF 0x40).set 0x00FE 0x81 }

theorem Core.rotations_downward :
    [(0x00FF : Address), 0x00FE].Nodup ∧ [(0x00FF : Address), 0x00FE] ≠ [] ∧
      ∃ after, Core.oneNumber.executeAll (Mnemonic.rol.onEach [0x00FF, 0x00FE]) = (.next, after) ∧
        after.seq.bus.number [0x00FF, 0x00FE] + 65536 * after.cpu.carry.toNat = 0x10281 := by
  have nodup : [(0x00FF : Address), 0x00FE].Nodup := by decide
  have nonempty : [(0x00FF : Address), 0x00FE] ≠ [] := by decide
  have number : Core.oneNumber.seq.bus.number [0x00FF, 0x00FE] = 0x8140 := by decide +kernel
  obtain ⟨⟨after, done, left, -⟩, -⟩ := Core.rotations Core.oneNumber nodup nonempty
  rw [number] at left
  exact ⟨nodup, nonempty, after, done, left⟩

end Console6502
