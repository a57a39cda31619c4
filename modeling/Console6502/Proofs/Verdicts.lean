import Console6502.Proofs.Registers
import Console6502.Proofs.Traffic

namespace Console6502

/-- What can be done to the registers and flags. -/
inductive Cpu.Operation
  | set (r : Register) (b : Byte)
  | setLow (r : Register) (w : Address)
  | compare (r : Register) (b : Byte)
  | bitTest (b : Byte)
  | setCarry
  | clearCarry
  | carryIf (condition : Bool)
deriving DecidableEq, Repr

def Cpu.apply (c : Cpu) : Operation → Cpu
  | .set r b => c.set r b
  | .setLow r w => c.setLow r w
  | .compare r b => c.compare r b
  | .bitTest b => c.bitTest b
  | .setCarry => c.setCarry
  | .clearCarry => c.clearCarry
  | .carryIf condition => c.carryIf condition

/-- What the zero and negative flags are set to tell of: one byte that came out, or the bit test of
a byte against the accumulator. -/
inductive Verdict
  | result (r : Byte)
  | test (a b : Byte)
deriving DecidableEq, Repr

namespace Verdict

def zero : Verdict → Bool
  | result r => r == 0
  | test a b => a &&& b == 0

def negative : Verdict → Bool
  | result r => r.toNat.testBit 7
  | test _ b => b.toNat.testBit 7

def flags (v : Verdict) : Bool × Bool := (v.zero, v.negative)

/-- No one byte is zero and negative. -/
theorem eq_test_of_both {v : Verdict} (zero : v.zero = true) (negative : v.negative = true) :
    ∃ a b, v = test a b := by
  cases v with
  | test a b => exact ⟨a, b, rfl⟩
  | result r =>
    have none : r = 0 := eq_of_beq zero
    subst none
    cases negative

end Verdict

namespace Cpu

/-- The zero and negative flags. -/
def flags (c : Cpu) : Bool × Bool := (c.zero, c.negative)

/-- The verdict of an operation, if it is one that sets the flags. -/
def verdict? (c : Cpu) : Operation → Option Verdict
  | .set _ b => some (.result b)
  | .setLow _ w => some (.result w.low)
  | .compare r b => some (.result (c.get r - b))
  | .bitTest b => some (.test c.a b)
  | .setCarry | .clearCarry | .carryIf _ => none

theorem sign_eq_testBit (b : Byte) : sign b = b.toNat.testBit 7 := by
  have hb := b.toNat_lt
  have bit : 128 ≤ b.toNat ↔ b.toNat / 2 ^ 7 % 2 = 1 := by omega
  rw [sign_eq, Nat.testBit_eq_decide_div_mod_eq, decide_eq_decide]
  exact bit

theorem flags_follow (c : Cpu) (r : Byte) : (c.follow r).flags = (Verdict.result r).flags := by
  simp only [flags, follow, Verdict.flags, Verdict.zero, Verdict.negative, sign_eq_testBit]

theorem flags_set (c : Cpu) (r : Register) (b : Byte) :
    (c.set r b).flags = (Verdict.result b).flags := by
  cases r <;> exact flags_follow _ b

theorem flags_compare (c : Cpu) (r : Register) (b : Byte) :
    (c.compare r b).flags = (Verdict.result (c.get r - b)).flags :=
  flags_follow _ _

theorem flags_bitTest (c : Cpu) (b : Byte) : (c.bitTest b).flags = (Verdict.test c.a b).flags := by
  simp only [flags, bitTest, Verdict.flags, Verdict.zero, Verdict.negative, sign_eq_testBit]

theorem flags_apply (c : Cpu) (operation : Operation) :
    (c.apply operation).flags = (c.verdict? operation).elim c.flags Verdict.flags := by
  cases operation with
  | set r b => exact c.flags_set r b
  | setLow r w => exact c.flags_set r w.low
  | compare r b => exact c.flags_compare r b
  | bitTest b => exact c.flags_bitTest b
  | setCarry => rfl
  | clearCarry => rfl
  | carryIf condition => rfl

end Cpu

/-- What is done to a machine: an operation on its registers, a step, or the loading of an image. -/
inductive Act
  | cpu (operation : Cpu.Operation)
  | step
  | load (image : List Byte) (origin : Address)

namespace Machine

variable {M : Type} [Bus M]

/-- The verdict of a step, if its instruction is one that sets the flags. The byte that comes out is
the one put into a register, the one stored, or the difference of a comparison. -/
def verdict? (m : Machine M) : Option Verdict :=
  let old := m.core.cpu
  let new := m.step.machine.core.cpu
  m.next?.bind fun i =>
    let b := m.argument i
    match i.mnemonic with
    | .lda | .adc | .sbc | .and | .ora | .eor | .pla | .txa | .tya => some (.result new.a)
    | .ldx | .inx | .dex | .tax | .tsx => some (.result new.x)
    | .ldy | .iny | .dey | .tay => some (.result new.y)
    | .inc | .dec | .asl | .lsr | .rol | .ror =>
      some (.result ((m.writes.head?.map Prod.snd).getD new.a))
    | .cmp => some (.result (old.a - b))
    | .cpx => some (.result (old.x - b))
    | .cpy => some (.result (old.y - b))
    | .bit => some (.test old.a b)
    | _ => none

/-- Each instruction leaves the flags of its verdict, or else those that it met. -/
theorem flags_step (m : Machine M) :
    m.step.machine.core.cpu.flags = m.verdict?.elim m.core.cpu.flags Verdict.flags := by
  unfold verdict?
  cases h : m.next? with
  | none =>
    rw [step_of_none h]
    rfl
  | some i =>
    have fits := m.takes_operand (InstructionSet.isSupported_of_get? h)
    rw [step_of_some h, writes_eq h]
    obtain ⟨mn, mode⟩ := i
    simp only [result, outcome, argument, Option.bind_some] at fits ⊢
    generalize (m.intake ⟨mn, mode⟩).operand = operand at fits ⊢
    cases mn
    case lda | adc | sbc | and | ora | eor | pla | txa | tya => exact Cpu.flags_set _ .a _
    case ldx | inx | dex | tax | tsx => exact Cpu.flags_set _ .x _
    case ldy | iny | dey | tay => exact Cpu.flags_set _ .y _
    case cmp => exact Cpu.flags_compare _ .a _
    case cpx => exact Cpu.flags_compare _ .x _
    case cpy => exact Cpu.flags_compare _ .y _
    case bit => exact Cpu.flags_bitTest _ _
    case inc | dec | asl | lsr | rol | ror =>
      cases operand with
      | address a => exact Cpu.flags_follow _ _
      | implied => first | exact Cpu.flags_set _ .a _ | cases fits
      | immediate b => cases fits
    all_goals cases operand <;> rfl

def verdictOn? (m : Machine M) : Act → Option Verdict
  | .cpu operation => m.core.cpu.verdict? operation
  | .step => m.verdict?
  | .load _ _ => none

def act (m : Machine M) : Act → Machine M
  | .cpu operation => m.withCpu (·.apply operation)
  | .step => m.step.machine
  | .load image origin => m.load image origin

def actAll (m : Machine M) (acts : List Act) : Machine M := acts.foldl act m

/-- The verdicts of all that is done, the last one last. -/
def verdicts (m : Machine M) : List Act → List Verdict
  | [] => []
  | a :: acts => (m.verdictOn? a).toList ++ (m.act a).verdicts acts

theorem flags_act (m : Machine M) (a : Act) :
    (m.act a).core.cpu.flags = (m.verdictOn? a).elim m.core.cpu.flags Verdict.flags := by
  cases a with
  | cpu operation => exact m.core.cpu.flags_apply operation
  | step => exact m.flags_step
  | load image origin => rfl

theorem flags_actAll (m : Machine M) (acts : List Act) :
    (m.actAll acts).core.cpu.flags =
      (m.verdicts acts).getLast?.elim m.core.cpu.flags Verdict.flags := by
  induction acts generalizing m with
  | nil => rfl
  | cons a acts ih =>
    have rest := ih (m.act a)
    rw [flags_act] at rest
    rw [verdicts, List.getLast?_append]
    refine rest.trans ?_
    cases ((m.act a).verdicts acts).getLast? with
    | some v => rfl
    | none => cases m.verdictOn? a <;> rfl

/-- Whatever is done to a new machine, zero and negative tell of the last verdict there was, and are
clear if there was none. So they are never set both, but for a bit test. -/
theorem flags_tell (bus : M) (set : InstructionSet) (acts : List Act) :
    let start := Machine.new bus set
    let cpu := (start.actAll acts).core.cpu
    let last := (start.verdicts acts).getLast?
    cpu.zero = last.elim false Verdict.zero ∧ cpu.negative = last.elim false Verdict.negative ∧
      (cpu.zero = true ∧ cpu.negative = true → ∃ a b, last = some (.test a b)) := by
  intro start cpu last
  have flags : cpu.flags = last.elim (false, false) Verdict.flags := start.flags_actAll acts
  have zero : cpu.zero = (last.elim (false, false) Verdict.flags).1 := congrArg Prod.fst flags
  have negative : cpu.negative = (last.elim (false, false) Verdict.flags).2 :=
    congrArg Prod.snd flags
  rw [zero, negative]
  cases last with
  | none => simp
  | some v =>
    refine ⟨rfl, rfl, ?_⟩
    intro both
    obtain ⟨a, b, test⟩ := Verdict.eq_test_of_both both.1 both.2
    exact ⟨a, b, congrArg some test⟩

end Machine

end Console6502
