import Console6502.Proofs.Layers
import Console6502.Proofs.Runs
import Console6502.Proofs.Safety
import Console6502.Proofs.Traffic

namespace Console6502

namespace Machine

section

variable {M : Type} [Bus M]

/-- What is left of a machine that meets an unknown opcode behind `k` steps. -/
structure Stranded (m : Machine M) (k : Nat) (opcode : Byte) (pc : Address) (left : Machine M) :
    Prop where
  smooth : m.Smooth k
  place : (m.after k).core.seq.pc = pc
  byte : (Bus.read (m.after k).core.seq.bus pc).1 = opcode
  undefined : m.set.get? opcode = none
  passed : left = (m.after k).withSeq fun s => { s with bus := (Bus.read s.bus pc).2, pc := pc + 1 }
  steps : left.steps = m.steps + k

variable {m left : Machine M} {k : Nat} {opcode : Byte} {pc : Address}

theorem step_unknown_iff :
    m.step.fault? = some (.unknownOpcode opcode pc) ↔
      m.core.seq.pc = pc ∧ m.opcode = opcode ∧ m.set.get? opcode = none := by
  rw [step_fault]
  constructor
  · intro failed
    split at failed
    case isTrue => cases failed
    case isFalse unknown =>
      cases failed
      exact ⟨rfl, rfl, Option.not_isSome_iff_eq_none.mp unknown⟩
  · rintro ⟨rfl, rfl, unknown⟩
    simp [unknown]

theorem stranded_iff_failsAt :
    m.Stranded k opcode pc left ↔
      m.FailsAt k (.unknownOpcode opcode pc) ∧ left = m.after (k + 1) := by
  constructor
  · rintro ⟨smooth, place, byte, undefined, rfl, -⟩
    subst place byte
    rw [← after_set m k] at undefined
    refine ⟨⟨smooth, step_unknown_iff.mpr ⟨rfl, rfl, undefined⟩⟩, ?_⟩
    rw [after, step_of_none undefined]
    rfl
  · rintro ⟨⟨smooth, failed⟩, rfl⟩
    obtain ⟨place, byte, undefined⟩ := step_unknown_iff.mp failed
    subst place byte
    have passed : m.after (k + 1) = (m.after k).withSeq fun s => s.next.2 := by
      rw [after, step_of_none undefined]
    rw [after_set] at undefined
    refine ⟨smooth, rfl, rfl, undefined, passed, ?_⟩
    rw [passed]
    exact steps_after smooth.good

/-- Every failure is one of an unknown opcode. -/
theorem FailsAt.stranded {fault : Fault} (fails : m.FailsAt k fault) :
    ∃ opcode pc, fault = .unknownOpcode opcode pc ∧ m.Stranded k opcode pc (m.after (k + 1)) := by
  have failed := fails.failed
  rw [step_fault] at failed
  split at failed
  case isTrue => cases failed
  case isFalse =>
    cases failed
    exact ⟨_, _, rfl, stranded_iff_failsAt.mpr ⟨fails, rfl⟩⟩

theorem Stranded.pc_left (stranded : m.Stranded k opcode pc left) : left.core.seq.pc = pc + 1 := by
  rw [stranded.passed]
  rfl

/-- A run with a budget gives a count, and has carried out a BRK or used the budget up, or else it
ends behind an unknown opcode. -/
theorem runFor_cases (m : Machine M) (n : Nat) :
    (∃ k, m.runFor n = (.ok k, m.after k) ∧ (∀ j < k, (m.after j).step.fault? = none) ∧
        (¬ m.EndsInBrk k → k = n)) ∨
      ∃ k opcode pc, m.runFor n = (.error (.unknownOpcode opcode pc), m.after (k + 1)) ∧
        m.Stranded k opcode pc (m.after (k + 1)) := by
  rcases m.ways n with smooth | ⟨k, hk, halts⟩ | ⟨k, hk, fault, fails⟩
  · exact .inl ⟨n, smooth.runFor.1, smooth.good, fun _ => rfl⟩
  · exact .inl ⟨k + 1, (halts.runFor hk).1, halts.good, fun goes => absurd halts.endsInBrk goes⟩
  · obtain ⟨opcode, pc, rfl, stranded⟩ := fails.stranded
    exact .inr ⟨k, opcode, pc, (fails.runFor hk).1, stranded⟩

/-- The next step decodes the byte behind the opcode. -/
theorem Stranded.resumes (stranded : m.Stranded k opcode pc left) :
    let b := (Bus.read left.core.seq.bus (pc + 1)).1
    (∃ rest, left.accesses = .read (pc + 1) :: rest) ∧ left.next? = m.set.get? b ∧
      left.step.fault? =
        if (m.set.get? b).isSome then none else some (.unknownOpcode b (pc + 1)) := by
  have pc' : left.core.seq.pc = pc + 1 := stranded.pc_left
  have set : left.set = m.set := by
    rw [stranded.passed]
    exact m.after_set k
  simp only [← pc', ← set]
  refine ⟨?_, rfl, left.step_fault⟩
  unfold accesses
  split
  · exact ⟨_, rfl⟩
  · exact ⟨_, rfl⟩

end

/-- Whatever the read of the opcode does to the random sources, no cell and no device is changed. -/
theorem Stranded.memory {δ : Type} [Host δ] {m left : Machine (Memory δ)} {k : Nat} {opcode : Byte}
    {pc : Address} (stranded : m.Stranded k opcode pc left) :
    left.core.seq.bus.ram = (m.after k).core.seq.bus.ram ∧
      left.core.seq.bus.layers.map Layer.device =
        (m.after k).core.seq.bus.layers.map Layer.device := by
  have bus : left.core.seq.bus = ((m.after k).core.seq.bus.read pc).2 := by
    rw [stranded.passed]
    rfl
  rw [bus]
  refine ⟨Memory.read_ram _ pc, ?_⟩
  rw [Memory.read_layers]
  apply List.ext_getElem?
  intro depth
  simp only [List.getElem?_map, List.getElem?_mapIdx, Option.map_map]
  rfl

/-- A run reports an unknown opcode just if it comes to one, and then tells that byte and where it
lies. The machine it leaves is the one after the steps ahead of it, with the opcode read and passed
by; the step was not counted, and the next one goes on behind the opcode. -/
theorem runFor_unknown_iff {M : Type} [Bus M] (m : Machine M) (opcode : Byte) (pc : Address)
    (left : Machine M) :
    (∀ n, m.runFor n = (.error (.unknownOpcode opcode pc), left) ↔
      ∃ k < n, m.Stranded k opcode pc left) ∧
      (∀ fuel, m.run? fuel = some (.error (.unknownOpcode opcode pc), left) ↔
        ∃ k < fuel, m.Stranded k opcode pc left) ∧
      (∀ k, m.Stranded k opcode pc left →
        let b := (Bus.read left.core.seq.bus (pc + 1)).1
        (∃ rest, left.accesses = .read (pc + 1) :: rest) ∧ left.next? = m.set.get? b ∧
          left.step.fault? =
            if (m.set.get? b).isSome then none else some (.unknownOpcode b (pc + 1))) ∧
      ∀ (δ : Type) [Host δ] (m left : Machine (Memory δ)) k, m.Stranded k opcode pc left →
        left.core.seq.bus.ram = (m.after k).core.seq.bus.ram ∧
          left.core.seq.bus.layers.map Layer.device =
            (m.after k).core.seq.bus.layers.map Layer.device := by
  refine ⟨?_, ?_, fun k stranded => stranded.resumes, fun δ _ m left k stranded => stranded.memory⟩
  · intro n
    simp only [runFor_error_iff, stranded_iff_failsAt]
  · intro fuel
    simp only [run?_error_iff, stranded_iff_failsAt]

end Machine

end Console6502
