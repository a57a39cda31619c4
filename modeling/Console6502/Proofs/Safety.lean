import Console6502.Proofs.Steps

namespace Console6502

theorem Mode.address_target (mode : Mode) (cpu : Cpu) (pc : Address) (bytes pointer : List Byte) :
    (mode.target cpu pc bytes pointer).address?.isSome = mode.isAddressed := by
  cases mode <;> rfl

/-- A mode that reads its operand byte or the byte behind an address does not leave it implied. -/
theorem Mode.target_ne_implied {mode : Mode} (h : mode = .immediate ∨ mode.isAddressed = true)
    (cpu : Cpu) (pc : Address) (bytes pointer : List Byte) :
    mode.target cpu pc bytes pointer ≠ .implied := by
  rcases h with rfl | addressed
  · simp [Mode.target]
  · intro implied
    have given := mode.address_target cpu pc bytes pointer
    simp [implied, addressed, Operand.address?] at given

theorem Mode.eq_immediate_of_target {mode : Mode} {cpu : Cpu} {pc : Address}
    {bytes pointer : List Byte} {b : Byte} (h : mode.target cpu pc bytes pointer = .immediate b) :
    mode = .immediate := by
  cases mode <;> first | rfl | simp [Mode.target] at h

namespace Mnemonic

theorem shape_of_absorb {m : Mnemonic} {f : Cpu → Byte → Cpu} (h : m.work = .absorb f) :
    m.shape = .read ∨ m.shape = .test := by
  cases m <;> first | exact .inl rfl | exact .inr rfl | cases h

theorem shape_of_shift {m : Mnemonic} {f : Byte → Bool → Shift} (h : m.work = .shift f) :
    m.shape = .shift := by
  cases m <;> first | rfl | cases h

/-- What works a byte into the registers is handed that byte or its address. -/
theorem mode_of_absorb {m : Mnemonic} {mode : Mode} {f : Cpu → Byte → Cpu}
    (supported : m.supports mode = true) (h : m.work = .absorb f) :
    mode = .immediate ∨ mode.isAddressed = true := by
  rcases shape_of_absorb h with shape | shape
  · rw [supports, shape] at supported
    cases mode <;> simp [Shape.admits, Mode.isData, Mode.isAddressed] at supported ⊢
  · rw [supports, shape] at supported
    cases mode <;> simp [Shape.admits, Mode.isAddressed] at supported ⊢

theorem not_immediate_of_shift {m : Mnemonic} {mode : Mode} {f : Byte → Bool → Shift}
    (supported : m.supports mode = true) (h : m.work = .shift f) : mode ≠ .immediate := by
  rintro rfl
  rw [supports, shape_of_shift h] at supported
  cases supported

end Mnemonic

section

variable {M : Type} [Bus M]

/-- A resolved operand is what the mode makes of some bytes. -/
theorem Sequencer.operand_target (s : Sequencer M) (mode : Mode) (cpu : Cpu) :
    ∃ pc bytes pointer, (s.operand mode cpu).1 = mode.target cpu pc bytes pointer := by
  rw [operand_eq]
  exact ⟨_, _, _, rfl⟩

theorem Sequencer.operand_address (s : Sequencer M) (mode : Mode) (cpu : Cpu) :
    (s.operand mode cpu).1.address?.isSome = mode.isAddressed := by
  obtain ⟨pc, bytes, pointer, operand⟩ := s.operand_target mode cpu
  rw [operand]
  exact mode.address_target cpu pc bytes pointer

theorem Core.execute_absorb {m : Mnemonic} {f : Cpu → Byte → Cpu} (h : m.work = .absorb f)
    (c : Core M) (operand : Operand) : c.execute operand m = (.next, c.absorb operand f) := by
  cases m <;> cases h <;> rfl

theorem Core.execute_shift {m : Mnemonic} {f : Byte → Bool → Shift} (h : m.work = .shift f)
    (c : Core M) (operand : Operand) : c.execute operand m = (.next, c.shift operand f) := by
  cases m <;> cases h <;> rfl

theorem Core.execute_ne_missing (c : Core M) {operand : Operand} {m : Mnemonic}
    (fits : m.work.takes operand = true) : (c.execute operand m).1 ≠ .missingAddress := by
  rw [execute_eq c operand m fits]
  dsimp only
  split <;> simp

end

namespace Machine

variable {M : Type} [Bus M]

theorem step_fault (m : Machine M) :
    m.step.fault? =
      if (m.set.get? m.opcode).isSome then none
      else some (.unknownOpcode m.opcode m.core.seq.pc) := by
  cases h : m.next? with
  | none =>
    change m.set.get? m.opcode = none at h
    simp [step_of_none h, h]
  | some i =>
    rw [step_of_some h]
    change m.set.get? m.opcode = some i at h
    simp [h]

/-- A step fails just if its opcode is unknown, and says so. Whatever a table holds can be executed
from any state: the operand is an address just if the mode is an addressed one, no action lacks its
address, none that works on a byte is left without one, and no shift is handed a bare value. -/
theorem step_safe (m : Machine M) :
    m.step.fault? =
        (if (m.set.get? m.opcode).isSome then none
        else some (.unknownOpcode m.opcode m.core.seq.pc)) ∧
      (∀ (s : Sequencer M) (mode : Mode) (cpu : Cpu),
        (s.operand mode cpu).1.address?.isSome = mode.isAddressed) ∧
      ∀ (opcode : Byte) (i : Instruction), m.set.get? opcode = some i →
        ∀ (s : Sequencer M) (cpu : Cpu), let (operand, s) := s.operand i.mode cpu
          (Core.execute ⟨cpu, s⟩ operand i.mnemonic).1 ≠ .missingAddress ∧
          (∀ f, i.mnemonic.work = .absorb f → operand ≠ .implied ∧
            Core.execute ⟨cpu, s⟩ operand i.mnemonic = (.next, Core.absorb ⟨cpu, s⟩ operand f)) ∧
          ∀ f, i.mnemonic.work = .shift f → (∀ b, operand ≠ .immediate b) ∧
            Core.execute ⟨cpu, s⟩ operand i.mnemonic = (.next, Core.shift ⟨cpu, s⟩ operand f) := by
  refine ⟨m.step_fault, Sequencer.operand_address, ?_⟩
  intro opcode i h s cpu
  have supported : i.isSupported = true := InstructionSet.isSupported_of_get? h
  obtain ⟨pc, bytes, pointer, operand⟩ := s.operand_target i.mode cpu
  dsimp only
  rw [operand]
  refine ⟨?_, ?_, ?_⟩
  · exact Core.execute_ne_missing _ (Mnemonic.takes_target supported cpu pc bytes pointer)
  · intro f work
    refine ⟨?_, Core.execute_absorb work _ _⟩
    exact Mode.target_ne_implied (Mnemonic.mode_of_absorb supported work) cpu pc bytes pointer
  · intro f work
    refine ⟨?_, Core.execute_shift work _ _⟩
    intro b immediate
    exact Mnemonic.not_immediate_of_shift supported work (Mode.eq_immediate_of_target immediate)

end Machine

end Console6502
